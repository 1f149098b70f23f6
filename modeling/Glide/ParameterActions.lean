import Glide.Library.BinaryRecords
import Glide.MavlinkBridge

/-! A parameter that is set from the user interface: the line of the action, and the packet that
the bridge makes of it. -/
namespace Glide.ParameterActions
open Library AsciiText NumberText BinaryRecords MavlinkPackets MavlinkDecode MavlinkBridge

/-- `format_action_set_param` -/
def formatActionSetParam (target param value : List UInt8) : List UInt8 :=
  ascii "mav set " ++ target ++ [32] ++ param ++ [32] ++ value

def Word (text : List UInt8) : Prop := text ≠ [] ∧ ∀ byte ∈ text, isSpace byte = false

/-- What can be set: a name of at most 16 bytes, and a value that fills its field at most and
does not break the line. -/
structure Settable (name value : List UInt8) : Prop where
  word : Word name
  short : name.length ≤ 16
  fits : value.length ≤ 128
  unbroken : 10 ∉ value

/-- A text in a field that is filled up with zeros. -/
def field (length : Nat) (text : List UInt8) : List UInt8 :=
  text ++ List.replicate (length - text.length) 0

/-- The payload names the parameter, and has the number that the value is, or the value as text. -/
structure Carries (name value payload : List UInt8) : Prop where
  size : payload.length = 147
  name : (payload.drop 2).take 16 = field 16 name
  value : (payload.drop 146 = [6] ∧ wholeNumber value = some (readSigned 4 payload 18)) ∨
    (payload.drop 146 = [11] ∧ (payload.drop 18).take 128 = field 128 value)

/-- The socket takes the next packet. -/
structure Ready (endpoint : Endpoint) : Prop where
  running : endpoint.bridge.running = true
  addressed : endpoint.bridge.transport = .udp →
    (endpoint.bridge.peer.map PeerStorage.valid).getD false = true
  taken : endpoint.socket.outcome endpoint.socket.writes = .complete

/-- PARAM_EXT_SET is sent first, and alone if the socket takes it. -/
def Sends (before after : Endpoint) (payload : List UInt8) : Prop :=
  ∃ call later, after.socket.calls = before.socket.calls ++ call :: later ∧
    call.packet = ⟨323, 78, payload⟩ ∧
    (Ready before → later = [] ∧ call.result = true ∧
      call.written = packetBytes before.bridge.options before.bridge.sequence call.packet)

def SendsParameter (before after : Endpoint) (name value : List UInt8) : Prop :=
  ∃ payload, Sends before after payload ∧ Carries name value payload

/-- The target, the name and the value that a text is read as. -/
def readParameter (text : List UInt8) : List UInt8 × List UInt8 × List UInt8 :=
  let (target, text) := nextWord text
  let (name, text) := nextWord text
  (target, name, restOfLine text)

/-! ### The line of an action -/

theorem restOfLine_value (unbroken : 10 ∉ value) : restOfLine (32 :: value) = value := by
  have whole : (32 :: value).takeWhile (· ≠ 10) = 32 :: value := by
    rw [List.takeWhile_eq_self_iff]
    intro byte member
    rcases List.mem_cons.1 member with rfl | member
    · decide
    · exact decide_eq_true fun same => unbroken (same ▸ member)
  unfold restOfLine
  rw [whole]
  rfl

/-- What is behind the words of the action is read. -/
theorem handleActionLine_set (platform : Platform) (endpoint : Endpoint)
    (read : readParameter (target ++ 32 :: (name ++ 32 :: value)) = (readTarget, readName, readValue)) :
    handleActionLine platform endpoint (formatActionSetParam target name value) =
      if (sendParamExtSet platform endpoint readTarget readName readValue).1 then
        sendParamExtSet platform endpoint readTarget readName readValue
      else sendParamSet platform (sendParamExtSet platform endpoint readTarget readName readValue).2
        readTarget readName readValue := by
  have text : formatActionSetParam target name value = ascii "mav" ++ 32 :: (ascii "set" ++
      32 :: (target ++ 32 :: (name ++ 32 :: value))) := by
    have start : ascii "mav set " = ascii "mav" ++ 32 :: (ascii "set" ++ [32]) := by decide
    unfold formatActionSetParam
    rw [start]
    simp only [List.append_assoc, List.cons_append, List.nil_append]
  unfold readParameter at read
  cases read
  unfold handleActionLine
  rw [text, nextWord_word (by decide +kernel) (by decide)]
  dsimp only
  rw [nextWord_blank, nextWord_word (by decide +kernel) (by decide)]
  dsimp only
  rw [if_neg (by decide), if_pos rfl, nextWord_blank]
  rfl

/-- A target of one word is followed by the name and the value. -/
theorem readParameter_word (word : Word target) (settable : Settable name value) :
    readParameter (target ++ 32 :: (name ++ 32 :: value)) = (target, name, value) := by
  unfold readParameter
  rw [nextWord_word word.2 word.1]
  dsimp only
  rw [nextWord_blank, nextWord_word settable.word.2 settable.word.1]
  dsimp only
  rw [restOfLine_value settable.unbroken]

/-! ### The packet -/

theorem sendPacket_calls (endpoint : Endpoint) (packet : Packet) :
    ∃ call, (sendPacket endpoint packet).2.socket.calls = endpoint.socket.calls ++ [call] ∧
      call.packet = packet ∧
      (Ready endpoint → packet.payload.length ≤ 255 → (sendPacket endpoint packet).1 = true ∧
        call.result = true ∧
        call.written = packetBytes endpoint.bridge.options endpoint.bridge.sequence packet) := by
  unfold sendPacket
  dsimp only
  split
  · rename_i unsent
    refine ⟨_, rfl, rfl, fun ready short => ?_⟩
    rcases unsent with idle | long | ⟨datagrams, unaddressed⟩
    · exact absurd ready.running idle
    · omega
    · exact absurd (ready.addressed datagrams) unaddressed
  · refine ⟨_, rfl, rfl, fun ready short => ?_⟩
    have taken : (endpoint.socket.outcome endpoint.socket.writes).taken
        (packetBytes endpoint.bridge.options endpoint.bridge.sequence packet) =
        packetBytes endpoint.bridge.options endpoint.bridge.sequence packet := by
      rw [ready.taken]
      rfl
    rw [taken]
    exact ⟨decide_eq_true rfl, decide_eq_true rfl, rfl⟩

theorem sendParamSet_calls (platform : Platform) (endpoint : Endpoint)
    (target name value : List UInt8) :
    ∃ later, (sendParamSet platform endpoint target name value).2.socket.calls =
      endpoint.socket.calls ++ later := by
  unfold sendParamSet
  split
  · exact ⟨[], (List.append_nil _).symm⟩
  · obtain ⟨call, sent, _⟩ := sendPacket_calls endpoint ⟨23, 168, _⟩
    exact ⟨[call], sent⟩

theorem putFixedString_length (text : List UInt8) (length : Nat) :
    (putFixedString text length).length = length := by
  unfold putFixedString
  dsimp only
  rw [List.length_append, List.length_take, List.length_replicate]
  omega

theorem putFixedString_field (short : text.length ≤ length) :
    putFixedString text length = field length text := by
  unfold putFixedString field
  dsimp only
  rw [Nat.min_eq_left short, List.take_length]

theorem putLe_eq (width number : Nat) : putLe width number = littleEndianBytes width number := by
  induction width generalizing number with
  | zero => rfl
  | succ width ih => rw [putLe, littleEndianBytes, ih]

/-- The whole numbers that the platform's `strtol` gives within 32 bits. -/
def sentNumber (platform : Platform) (value : List UInt8) : Option Int :=
  (wholeNumber (cStr value)).bind fun number =>
    if -2 ^ 31 ≤ platform.clamp number ∧ platform.clamp number < 2 ^ 31 then
      some (platform.clamp number)
    else none

theorem paramExtSetPayload_eq (platform : Platform) (bridge : UdpBridge)
    (target name value : List UInt8) :
    paramExtSetPayload platform bridge target name value =
      targetBytes bridge target ++ putFixedString name 16 ++
        match sentNumber platform value with
        | some number => littleEndianBytes 4 (number % 2 ^ 32).toNat ++ List.replicate 124 0 ++ [6]
        | none => putFixedString value 128 ++ [11] := by
  unfold paramExtSetPayload sentNumber
  cases whole : wholeNumber (cStr value) with
  | none =>
    have refused : ¬((strtol platform (cStr value)).2 ≠ cStr value ∧
        (strtol platform (cStr value)).2 = []) := by
      rintro ⟨moved, ended⟩
      rcases strtol_other platform whole with same | behind
      · exact moved same
      · exact behind ended
    dsimp only
    rw [if_neg fun sent => refused ⟨sent.1, sent.2.1⟩]
    rfl
  | some number =>
    have some := wholeNumber_ne_nil whole
    rw [strtol_whole platform whole]
    dsimp only
    rw [putLe_eq, Option.bind_some]
    by_cases inside : -2 ^ 31 ≤ platform.clamp number ∧ platform.clamp number < 2 ^ 31
    · rw [if_pos inside, if_pos ⟨fun ended => some ended.symm, rfl, by omega, by omega⟩]
    · rw [if_neg inside, if_neg (fun sent => inside ⟨by omega, by omega⟩)]

/-- Where the parts of a payload stand. -/
theorem payload_parts {front named content : List UInt8} (type : UInt8) (two : front.length = 2)
    (sixteen : named.length = 16) (wide : content.length = 128) :
    (front ++ named ++ (content ++ [type])).length = 147 ∧
      ((front ++ named ++ (content ++ [type])).drop 2).take 16 = named ∧
      (front ++ named ++ (content ++ [type])).drop 18 = content ++ [type] ∧
      (front ++ named ++ (content ++ [type])).drop 146 = [type] := by
  refine ⟨by simp [two, sixteen, wide], ?_, List.drop_left' (by simp [two, sixteen]), ?_⟩
  · rw [List.append_assoc, List.drop_left' two, List.take_left' sixteen]
  · rw [← List.append_assoc, List.drop_left' (by simp [two, sixteen, wide])]

theorem readSigned_number {payload rest : List UInt8} {offset : Nat} {number : Int}
    (written : payload.drop offset = littleEndianBytes 4 (number % 2 ^ 32).toNat ++ rest)
    (least : -2 ^ 31 ≤ number) (most : number < 2 ^ 31) : readSigned 4 payload offset = number := by
  have long : offset + 4 ≤ payload.length := by
    have length := congrArg List.length written
    rw [List.length_drop, List.length_append, littleEndianBytes_length] at length
    omega
  have same : ∀ bytes, littleEndian bytes = littleEndianValue bytes := fun _ => rfl
  unfold readSigned readLe
  rw [if_pos long, written, List.take_left' (littleEndianBytes_length _ _), same,
    littleEndianValue_bytes (by omega)]
  dsimp only
  split
  · omega
  · omega

theorem cStr_terminated (terminated : 0 ∉ value) : cStr value = value := by
  unfold cStr
  rw [List.takeWhile_eq_self_iff]
  exact fun byte member => decide_eq_true fun same => terminated (same ▸ member)

/-- What is read has the name in its field, and is sent as the number or the text that the value
is. -/
def Delivers (platform : Platform) (readName readValue name value : List UInt8) : Prop :=
  putFixedString readName 16 = field 16 name ∧
    match sentNumber platform readValue with
    | some number => wholeNumber value = some number
    | none => putFixedString readValue 128 = field 128 value

theorem carries_iff (platform : Platform) (bridge : UdpBridge)
    (readTarget readName readValue name value : List UInt8) :
    Carries name value (paramExtSetPayload platform bridge readTarget readName readValue) ↔
      Delivers platform readName readValue name value := by
  have sixteen := putFixedString_length readName 16
  unfold Delivers
  rw [paramExtSetPayload_eq]
  cases sent : sentNumber platform readValue with
  | none =>
    have wide := putFixedString_length readValue 128
    obtain ⟨size, named, content, type⟩ := payload_parts 11
      (rfl : (targetBytes bridge readTarget).length = 2) sixteen wide
    dsimp only
    constructor
    · rintro ⟨_, name, ⟨number, _⟩ | ⟨_, text⟩⟩
      · rw [type] at number
        cases number
      · rw [content, List.take_left' wide] at text
        exact ⟨named.symm.trans name, text⟩
    · rintro ⟨name, text⟩
      refine ⟨size, named.trans name, .inr ⟨type, ?_⟩⟩
      rw [content, List.take_left' wide, text]
  | some number =>
    have inside : -2 ^ 31 ≤ number ∧ number < 2 ^ 31 := by
      unfold sentNumber at sent
      obtain ⟨whole, _, clamped⟩ := Option.bind_eq_some_iff.1 sent
      split at clamped
      · cases clamped
        assumption
      · cases clamped
    have wide : (littleEndianBytes 4 (number % 2 ^ 32).toNat ++ List.replicate 124 0).length = 128 := by
      simp
    obtain ⟨size, named, content, type⟩ := payload_parts 6
      (rfl : (targetBytes bridge readTarget).length = 2) sixteen wide
    have read := readSigned_number (content.trans (List.append_assoc ..)) inside.1 inside.2
    dsimp only
    constructor
    · rintro ⟨_, name, ⟨_, whole⟩ | ⟨text, _⟩⟩
      · exact ⟨named.symm.trans name, whole.trans (congrArg some read)⟩
      · rw [type] at text
        cases text
    · rintro ⟨name, whole⟩
      exact ⟨size, named.trans name, .inl ⟨type, whole.trans (congrArg some read.symm)⟩⟩

theorem sends_iff (platform : Platform) (endpoint : Endpoint)
    (read : readParameter (target ++ 32 :: (name ++ 32 :: value)) = (readTarget, readName, readValue)) :
    SendsParameter endpoint
        (handleActionLine platform endpoint (formatActionSetParam target name value)).2 name value ↔
      Delivers platform readName readValue name value := by
  rw [handleActionLine_set platform endpoint read,
    ← carries_iff platform endpoint.bridge readTarget readName readValue name value]
  obtain ⟨call, calls, packet, ready⟩ := sendPacket_calls endpoint
    ⟨323, 78, paramExtSetPayload platform endpoint.bridge readTarget readName readValue⟩
  have extended : ∃ later, (if (sendParamExtSet platform endpoint readTarget readName readValue).1 then
      sendParamExtSet platform endpoint readTarget readName readValue
      else sendParamSet platform (sendParamExtSet platform endpoint readTarget readName readValue).2
        readTarget readName readValue).2.socket.calls = endpoint.socket.calls ++ call :: later ∧
      ((sendParamExtSet platform endpoint readTarget readName readValue).1 = true → later = []) := by
    split
    · exact ⟨[], calls, fun _ => rfl⟩
    · rename_i refused
      obtain ⟨later, sent⟩ := sendParamSet_calls platform
        (sendParamExtSet platform endpoint readTarget readName readValue).2 readTarget readName
        readValue
      refine ⟨later, ?_, fun sent => absurd sent refused⟩
      rw [sent, sendParamExtSet, calls, List.append_assoc]
      rfl
  obtain ⟨later, sent, alone⟩ := extended
  constructor
  · rintro ⟨payload, ⟨_, _, same, names, _⟩, carries⟩
    rw [sent, List.append_cancel_left_eq] at same
    cases same
    rw [packet] at names
    cases names
    exact carries
  · intro carries
    refine ⟨_, ⟨call, later, sent, packet, fun waiting => ?_⟩, carries⟩
    obtain ⟨taken, result, written⟩ := ready waiting (by rw [carries.size]; decide)
    rw [packet]
    exact ⟨alone taken, result, written⟩

/-! ### Saturation -/

theorem clamp_inside (platform : Platform) (wide : 32 ≤ platform.longBits) (least : -2 ^ 31 ≤ number)
    (most : number < 2 ^ 31) : platform.clamp number = number := by
  have limit : (2 : Int) ^ 31 ≤ 2 ^ (platform.longBits - 1) :=
    pow_le_pow_right₀ (by decide) (by omega)
  unfold Platform.clamp
  omega

/-- With 32 bits the nearest number is taken for the number itself, with more it is still outside
of 32 bits. -/
theorem clamp_outside (platform : Platform) (wide : 32 ≤ platform.longBits)
    (outside : ¬(-2 ^ 31 ≤ number ∧ number < 2 ^ 31)) :
    (-2 ^ 31 ≤ platform.clamp number ∧ platform.clamp number < 2 ^ 31) ↔ platform.longBits = 32 := by
  by_cases narrow : platform.longBits = 32
  · unfold Platform.clamp
    rw [narrow]
    omega
  · have limit : (2 : Int) ^ 32 ≤ 2 ^ (platform.longBits - 1) :=
      pow_le_pow_right₀ (by decide) (by omega)
    unfold Platform.clamp
    omega

theorem sentNumber_iff (platform : Platform) (wide : 32 ≤ platform.longBits) (value : List UInt8) :
    (∀ number, sentNumber platform value = some number → wholeNumber value = some number) ↔
      ∀ number, wholeNumber (cStr value) = some number →
        if -2 ^ 31 ≤ number ∧ number < 2 ^ 31 then 0 ∉ value else platform.longBits ≠ 32 := by
  unfold sentNumber
  cases whole : wholeNumber (cStr value) with
  | none => exact iff_of_true (fun _ sent => by cases sent) (fun _ some => by cases some)
  | some number =>
    rw [Option.bind_some]
    by_cases inside : -2 ^ 31 ≤ number ∧ number < 2 ^ 31
    · rw [clamp_inside platform wide inside.1 inside.2, if_pos inside]
      constructor
      · rintro sent _ ⟨⟩
        rw [if_pos inside]
        exact wholeNumber_terminated (sent number rfl)
      · rintro terminated _ ⟨⟩
        have terminated := terminated number rfl
        rw [if_pos inside] at terminated
        rwa [cStr_terminated terminated] at whole
    · by_cases narrow : platform.longBits = 32
      · have held := (clamp_outside platform wide inside).2 narrow
        rw [if_pos held]
        constructor
        · intro sent
          have same := sent _ rfl
          have terminated := wholeNumber_terminated same
          rw [cStr_terminated terminated, same] at whole
          exact absurd (Option.some.inj whole ▸ held) inside
        · intro condition
          have wider := condition number rfl
          rw [if_neg inside] at wider
          exact absurd narrow wider
      · have lost := mt (clamp_outside platform wide inside).1 narrow
        rw [if_neg lost]
        refine iff_of_true (fun _ sent => by cases sent) ?_
        rintro _ ⟨⟩
        rw [if_neg inside]
        exact narrow

/-- What a settable value is read as itself delivers. -/
theorem delivers_iff (platform : Platform) (settable : Settable name value) :
    Delivers platform name value name value ↔
      ∀ number, sentNumber platform value = some number → wholeNumber value = some number := by
  unfold Delivers
  rw [putFixedString_field settable.short, putFixedString_field settable.fits]
  cases sentNumber platform value with
  | none => exact iff_of_true ⟨rfl, rfl⟩ (fun _ sent => by cases sent)
  | some number => exact ⟨fun delivers _ sent => Option.some.inj sent ▸ delivers.2,
      fun sent => ⟨rfl, sent number rfl⟩⟩

/-! ### Targets of several words -/

/-- What stands behind something that is no blank is not skipped with the blanks. -/
theorem mem_dropWhile_behind (solid : isSpace first = false) (member : byte ∈ rest) :
    byte ∈ (front ++ first :: rest).dropWhile isSpace := by
  induction front with
  | nil =>
    rw [List.nil_append, List.dropWhile_cons_of_neg (by rw [solid]; exact Bool.false_ne_true)]
    exact List.mem_cons_of_mem _ member
  | cons blank front ih =>
    rw [List.cons_append, List.dropWhile_cons]
    split
    · exact ih
    · exact List.mem_cons_of_mem _ (List.mem_append_right _ (List.mem_cons_of_mem _ member))

/-- A number is one word. -/
theorem wholeNumber_unbroken (whole : wholeNumber text = some number) :
    32 ∉ text.dropWhile isSpace := by
  unfold wholeNumber at whole
  dsimp only at whole
  split at whole
  · rename_i numeral
    have digits : 32 ∉ (takeSign (text.dropWhile isSpace)).2 := by
      intro member
      have digit := List.all_eq_true.1 numeral.2 32 member
      revert digit
      decide
    generalize text.dropWhile isSpace = unsigned at digits
    unfold takeSign at digits
    split at digits
    · simpa using digits
    · simpa using digits
    · exact digits
  · cases whole

theorem getD_putFixedString (inside : index < length) :
    (putFixedString text length).getD index 0 = text.getD index 0 := by
  unfold putFixedString
  dsimp only
  rw [List.getD_eq_getElem?_getD, List.getD_eq_getElem?_getD]
  by_cases short : index < text.length
  · rw [List.getElem?_append_left (by rw [List.length_take]; omega), List.getElem?_take_of_lt
      (by omega)]
  · rw [List.getElem?_append_right (by rw [List.length_take]; omega), List.getElem?_replicate,
      List.getElem?_eq_none (Nat.le_of_not_lt short)]
    split <;> rfl

theorem getD_field : (field length text).getD index 0 = text.getD index 0 := by
  unfold field
  rw [List.getD_eq_getElem?_getD, List.getD_eq_getElem?_getD]
  by_cases short : index < text.length
  · rw [List.getElem?_append_left short]
  · rw [List.getElem?_append_right (Nat.le_of_not_lt short), List.getElem?_replicate,
      List.getElem?_eq_none (Nat.le_of_not_lt short)]
    split <;> rfl

/-- With something before it, a value that leaves room in its field is cut to another text. -/
theorem field_moved (proper : 0 ∉ front) (some : front ≠ []) (short : value.length < 128) :
    putFixedString (front ++ value) 128 ≠ field 128 value := by
  intro same
  have cell (index : Nat) (inside : index < 128) :
      (front ++ value).getD index 0 = value.getD index 0 := by
    rw [← getD_putFixedString inside, same, getD_field]
  have width := List.length_pos_of_ne_nil some
  -- A zero would have a zero before it, by the length of what is in front.
  have never (index : Nat) (inside : index ≤ value.length)
      (zero : (front ++ value).getD index 0 = 0) : False := by
    induction index using Nat.strong_induction_on with
    | _ index ih =>
      by_cases before : index < front.length
      · rw [List.getD_eq_getElem?_getD, List.getElem?_append_left before,
          List.getElem?_eq_getElem before] at zero
        exact proper (zero ▸ List.getElem_mem before)
      · rw [List.getD_eq_getElem?_getD, List.getElem?_append_right (Nat.le_of_not_lt before),
          ← List.getD_eq_getElem?_getD] at zero
        refine ih (index - front.length) (by omega) (by omega) ?_
        rw [cell _ (by omega)]
        exact zero
  refine never value.length (Nat.le_refl _) ?_
  rw [cell _ short, List.getD_eq_getElem?_getD, List.getElem?_eq_none (Nat.le_refl _)]
  rfl

/-- A word that ends with the text, or with a blank. -/
theorem nextWord_ended (word : Word text) (ended : ∀ byte ∈ rest.head?, isSpace byte = true) :
    nextWord (text ++ rest) = (text, rest) := by
  obtain ⟨some, plain⟩ := word
  obtain ⟨first, later, rfl⟩ := List.exists_cons_of_ne_nil some
  have start : (first :: later ++ rest).dropWhile isSpace = first :: later ++ rest :=
    List.dropWhile_cons_of_neg (by rw [plain first (List.mem_cons_self ..)]; exact Bool.false_ne_true)
  have inside : ∀ byte ∈ first :: later, (!isSpace byte) = true := by
    intro byte member
    rw [plain byte member]
    rfl
  unfold nextWord
  dsimp only
  rw [start, List.takeWhile_append_of_pos inside, List.dropWhile_append_of_pos inside]
  cases rest with
  | nil => rw [List.takeWhile_nil, List.dropWhile_nil, List.append_nil]
  | cons blank rest =>
    have stops : (!isSpace blank) = false := by
      rw [ended blank rfl]
      rfl
    rw [List.takeWhile_cons, List.dropWhile_cons, stops, if_neg Bool.false_ne_true,
      if_neg Bool.false_ne_true, List.append_nil]

/-- What is in front of a text is read with it, but for one space. -/
theorem restOfLine_behind (rest text : List UInt8) (unbroken : 10 ∉ rest ++ 32 :: text) :
    ∃ front, restOfLine (rest ++ 32 :: text) = front ++ text ∧
      ∀ byte ∈ front, byte = 32 ∨ byte ∈ rest := by
  have whole : (rest ++ 32 :: text).takeWhile (· ≠ 10) = rest ++ 32 :: text := by
    rw [List.takeWhile_eq_self_iff]
    exact fun byte member => decide_eq_true fun same => unbroken (same ▸ member)
  unfold restOfLine
  rw [whole]
  split
  · rename_i value same
    cases rest with
    | nil =>
      cases same
      exact ⟨[], rfl, nofun⟩
    | cons first rest =>
      cases same
      refine ⟨rest ++ [32], by rw [List.append_assoc]; rfl, fun byte member => ?_⟩
      rcases List.mem_append.1 member with before | last
      · exact .inr (List.mem_cons_of_mem _ before)
      · exact .inl (List.mem_singleton.1 last)
  · refine ⟨rest ++ [32], by rw [List.append_assoc]; rfl, fun byte member => ?_⟩
    rcases List.mem_append.1 member with before | last
    · exact .inr before
    · exact .inl (List.mem_singleton.1 last)

theorem cStr_padded (terminated : 0 ∉ text) (count : Nat) :
    cStr (text ++ List.replicate count 0) = text := by
  have inside : ∀ byte ∈ text, decide (byte ≠ 0) = true :=
    fun byte member => decide_eq_true fun same => terminated (same ▸ member)
  unfold cStr
  rw [List.takeWhile_append_of_pos inside]
  cases count with
  | zero => rw [List.replicate_zero, List.takeWhile_nil, List.append_nil]
  | succ count =>
    rw [List.replicate_succ, List.takeWhile_cons_of_neg (by decide), List.append_nil]

theorem named_iff (terminated : 0 ∉ text) (name_ : 0 ∉ name) (short : name.length ≤ 16) :
    putFixedString text 16 = field 16 name ↔ text.take 16 = name := by
  have cut : text.take (min text.length 16) = text.take 16 := by
    rw [Nat.min_comm, ← List.take_take, List.take_length]
  unfold putFixedString field
  dsimp only
  rw [cut]
  constructor
  · intro same
    have read := congrArg cStr same
    rwa [cStr_padded (fun member => terminated (List.mem_of_mem_take member)),
      cStr_padded name_] at read
  · rintro rfl
    rw [List.length_take, Nat.min_comm]

/-- A text that fills its field at least is in it as a text of another length is not. -/
theorem moved_iff (proper : 0 ∉ front) (some : front ≠ []) (fits : value.length ≤ 128) :
    putFixedString (front ++ value) 128 = field 128 value ↔
      value.length = 128 ∧ value <+: front ++ value := by
  constructor
  · intro same
    have full : value.length = 128 := by
      by_contra room
      exact field_moved proper some (by omega) same
    refine ⟨full, ?_⟩
    unfold putFixedString field at same
    dsimp only at same
    rw [full, Nat.min_eq_right (by rw [List.length_append]; omega), Nat.sub_self,
      List.replicate_zero, List.append_nil, List.append_nil] at same
    have first := List.take_prefix 128 (front ++ value)
    rwa [same] at first
  · rintro ⟨full, again⟩
    have first : (front ++ value).take 128 = value := by
      rw [← full]
      exact (List.prefix_iff_eq_take.1 again).symm
    unfold putFixedString field
    dsimp only
    rw [full, Nat.min_eq_right (by rw [List.length_append]; omega), first]

/-- The second word is read as the name, and what is behind it as the value. -/
theorem readParameter_words (first : Word device) (other : Word second)
    (ended : ∀ byte ∈ rest.head?, isSpace byte = true) (line : List UInt8) :
    readParameter ((device ++ 32 :: (second ++ rest)) ++ 32 :: line) =
      (device, second, restOfLine (rest ++ 32 :: line)) := by
  have ends : ∀ byte ∈ (rest ++ 32 :: line).head?, isSpace byte = true := by
    cases rest with
    | nil =>
      rintro _ ⟨⟩
      decide
    | cons blank rest => exact ended
  have words : (device ++ 32 :: (second ++ rest)) ++ 32 :: line =
      device ++ 32 :: (second ++ (rest ++ 32 :: line)) := by
    simp only [List.append_assoc, List.cons_append]
  unfold readParameter
  rw [words, nextWord_word first.2 first.1]
  dsimp only
  rw [nextWord_blank, nextWord_ended other ends]

/-- A value that has the name of a parameter and a blank in it is no number. -/
theorem sentNumber_words (platform : Platform) (settable : Settable name value)
    (proper : 0 ∉ before ++ (name ++ [32])) :
    sentNumber platform (before ++ (name ++ 32 :: value)) = none := by
  unfold sentNumber
  cases whole : wholeNumber (cStr (before ++ (name ++ 32 :: value))) with
  | none => rfl
  | some number =>
    obtain ⟨letter, later, rfl⟩ := List.exists_cons_of_ne_nil settable.word.1
    have shown : cStr (before ++ (letter :: later ++ 32 :: value)) =
        before ++ letter :: (later ++ 32 :: cStr value) := by
      have inside : ∀ byte ∈ before ++ (letter :: later ++ [32]), decide (byte ≠ 0) = true :=
        fun byte member => decide_eq_true fun same => proper (same ▸ member)
      have front : before ++ (letter :: later ++ 32 :: value) =
          (before ++ (letter :: later ++ [32])) ++ value := by
        simp only [List.append_assoc, List.cons_append, List.nil_append]
      rw [front, cStr, List.takeWhile_append_of_pos inside]
      simp only [List.append_assoc, List.cons_append, List.nil_append]
      rfl
    have solid := settable.word.2 letter (List.mem_cons_self ..)
    rw [shown] at whole
    exact absurd (mem_dropWhile_behind solid (by simp)) (wholeNumber_unbroken whole)

/-- With a target of several words the second one is taken for the name, and what is behind it for
the value. -/
theorem sends_words_iff (platform : Platform) (endpoint : Endpoint) (first : Word device)
    (other : Word second) (ended : ∀ byte ∈ rest.head?, isSpace byte = true)
    (terminated : 0 ∉ second ++ rest) (unbroken : 10 ∉ rest) (named : 0 ∉ name)
    (settable : Settable name value) :
    SendsParameter endpoint (handleActionLine platform endpoint
        (formatActionSetParam (device ++ 32 :: (second ++ rest)) name value)).2 name value ↔
      second.take 16 = name ∧ value.length = 128 ∧
        value <+: restOfLine (rest ++ 32 :: (name ++ 32 :: value)) := by
  rw [List.mem_append, not_or] at terminated
  have solid : 10 ∉ name := by
    intro member
    have blank := settable.word.2 10 member
    revert blank
    decide
  obtain ⟨before, behind, known⟩ := restOfLine_behind rest (name ++ 32 :: value)
    (by simp [unbroken, solid, settable.unbroken])
  have proper : 0 ∉ before ++ (name ++ [32]) := by
    simp only [List.mem_append, List.mem_singleton, not_or]
    refine ⟨fun member => ?_, named, by decide⟩
    rcases known 0 member with space | member
    · revert space
      decide
    · exact terminated.2 member
  have front : before ++ (name ++ 32 :: value) = (before ++ (name ++ [32])) ++ value := by
    simp only [List.append_assoc, List.cons_append, List.nil_append]
  have read := readParameter_words first other ended (name ++ 32 :: value)
  rw [sends_iff platform endpoint read, behind, Delivers, sentNumber_words platform settable proper,
    front, named_iff terminated.1 named settable.short, moved_iff proper (by simp) settable.fits]

/-- A parameter for a target of one word is sent with its name and with the number or the text that
it is to have, unless a number of 32 bits has a zero byte behind it, or another number meets a
`long` of 32 bits. With any other target it depends on what the line is read as; with one of two
words or more, the second word has to be the name again, and the value has to fill its field and
to repeat what is between the second word and itself. -/
theorem parameter_carried_iff (platform : Platform) (wide : 32 ≤ platform.longBits)
    (endpoint : Endpoint) (target : List UInt8) (settable : Settable name value) :
    (SendsParameter endpoint
        (handleActionLine platform endpoint (formatActionSetParam target name value)).2 name value ↔
      Delivers platform (readParameter (target ++ 32 :: (name ++ 32 :: value))).2.1
        (readParameter (target ++ 32 :: (name ++ 32 :: value))).2.2 name value) ∧
    (Word target → (SendsParameter endpoint
        (handleActionLine platform endpoint (formatActionSetParam target name value)).2 name value ↔
      ∀ number, wholeNumber (cStr value) = some number →
        if -2 ^ 31 ≤ number ∧ number < 2 ^ 31 then 0 ∉ value else platform.longBits ≠ 32)) ∧
    ∀ device second rest, target = device ++ 32 :: (second ++ rest) → Word device → Word second →
      (∀ byte ∈ rest.head?, isSpace byte = true) → 0 ∉ second ++ rest → 10 ∉ rest → 0 ∉ name →
      (SendsParameter endpoint
          (handleActionLine platform endpoint (formatActionSetParam target name value)).2 name value ↔
        second.take 16 = name ∧ value.length = 128 ∧
          value <+: restOfLine (rest ++ 32 :: (name ++ 32 :: value))) := by
  refine ⟨sends_iff platform endpoint rfl, fun word => ?_, ?_⟩
  · rw [sends_iff platform endpoint (readParameter_word word settable),
      delivers_iff platform settable, sentNumber_iff platform wide]
  · rintro device second rest rfl first other ended terminated unbroken named
    exact sends_words_iff platform endpoint first other ended terminated unbroken named settable

def longPlatform (bits : Nat) : Platform where
  longBits := bits
  nanFraction := fun _ => 0

def freshEndpoint : Endpoint :=
  ⟨{ running := true, transport := .tcp }, { outcome := fun _ => .complete }⟩

theorem settable_wide_number : Settable (ascii "WB_FREQUENCY") (ascii "4294967296") where
  word := ⟨by decide +kernel, by decide +kernel⟩
  short := by decide +kernel
  fits := by decide +kernel
  unbroken := by decide +kernel

theorem word_air : Word (ascii "air") := ⟨by decide +kernel, by decide +kernel⟩

theorem wide_number_carried :
    SendsParameter freshEndpoint (handleActionLine (longPlatform 64) freshEndpoint
      (formatActionSetParam (ascii "air") (ascii "WB_FREQUENCY") (ascii "4294967296"))).2
      (ascii "WB_FREQUENCY") (ascii "4294967296") := by
  refine ((parameter_carried_iff (longPlatform 64) (by decide) freshEndpoint (ascii "air")
    settable_wide_number).2.1 word_air).2 fun number whole => ?_
  split
  · decide +kernel
  · decide

/-- Where a `long` has 32 bits, 4294967296 is sent as 2147483647. -/
theorem wide_number_saturated :
    ¬SendsParameter freshEndpoint (handleActionLine (longPlatform 32) freshEndpoint
      (formatActionSetParam (ascii "air") (ascii "WB_FREQUENCY") (ascii "4294967296"))).2
      (ascii "WB_FREQUENCY") (ascii "4294967296") := by
  rw [sends_iff (longPlatform 32) freshEndpoint (readParameter_word word_air settable_wide_number),
    delivers_iff (longPlatform 32) settable_wide_number]
  intro same
  have sent : sentNumber (longPlatform 32) (ascii "4294967296") = some 2147483647 := by decide +kernel
  have whole : wholeNumber (ascii "4294967296") = some 4294967296 := by decide +kernel
  rw [same 2147483647 sent] at whole
  cases whole

end Glide.ParameterActions
