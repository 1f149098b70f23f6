import Mathlib.Data.List.Basic
import Glide.Library.Runs
import Glide.NetworkDiscovery

/-! Machines that look for each other. What one of them sends may be lost, and may come late, out of
order and more than once; each machine reads the clock and its socket when it likes. -/
namespace Glide.DiscoveryNetwork
open Library AsciiText StreamExtraction KeyedLists NetworkDiscovery

/-- An IPv4 address. -/
structure InAddr where
  first : UInt8
  second : UInt8
  third : UInt8
  fourth : UInt8
  deriving DecidableEq

def loopback : InAddr := ⟨127, 0, 0, 1⟩

def addressToString (address : InAddr) : List UInt8 :=
  decimal address.first.toNat ++ 46 :: (decimal address.second.toNat ++
    46 :: (decimal address.third.toNat ++ 46 :: decimal address.fourth.toNat))

/-- A machine as it is set up. A name is a text of the operating system, at most 127 bytes of it. -/
structure Host where
  /-- What `gethostname` writes, where it succeeds. -/
  name : Option (List UInt8)
  videoUdpPort : UInt16
  /-- The addresses of its interfaces, apart from the loopback. -/
  addresses : List InAddr
  plain : ∀ text ∈ name, ∀ byte ∈ text, byte ≠ 0 ∧ byte ≠ 11 ∧ byte ≠ 12
  short : ∀ text ∈ name, text.length ≤ 127

def localHostname (host : Host) : List UInt8 :=
  match host.name with
  | some (first :: rest) => first :: rest
  | _ => ascii "glide"

def localIpv4Addresses (host : Host) : List (List UInt8) :=
  (loopback :: host.addresses).map addressToString

/-- A service with its clock, in nanoseconds. -/
structure Station where
  running : Bool
  service : DiscoveryService
  scanUntil : Nat
  nextProbe : Nat
  /-- When the `poll_state_lines` that is under way began. -/
  polling : Option Nat
  /-- The last time that was read. -/
  clock : Nat
  /-- When it probed. -/
  probes : List Nat
  /-- The lines it has handed over. -/
  told : List (List UInt8)

def milliseconds (number : Nat) : Nat := number * 1000000

def stop (station : Station) : Station :=
  { station with running := false, scanUntil := 0, nextProbe := 0 }

/-- `bound` is whether the socket was made and bound. -/
def start (bound : Bool) (host : Host) (station : Station) : Station :=
  let station := stop station
  let service := { station.service with
    hostname := sanitizeToken (localHostname host), videoUdpPort := host.videoUdpPort.toNat }
  if bound then
    { station with
      running := true
      service := { service with pendingLines := service.pendingLines ++ [ascii "state net idle"] } }
  else { station with service }

def created : Station :=
  { running := false, service := ⟨ascii "glide", 5600, [], [], []⟩, scanUntil := 0, nextProbe := 0
    polling := none, clock := 0, probes := [], told := [] }

def startScan (now duration : Nat) (station : Station) : Station :=
  if station.running then
    { station with
      service := { station.service with
        peers := [], pendingLines := station.service.pendingLines ++ [ascii "state net scanning"] }
      scanUntil := now + duration
      nextProbe := 0
      clock := now }
  else { station with clock := now }

def probeOf (service : DiscoveryService) : List UInt8 :=
  discoverPrefix ++ ascii " 1 " ++ service.hostname ++ [32] ++ decimal service.videoUdpPort

/-- `poll_state_lines` up to its loop. -/
def beginPoll (now : Nat) (station : Station) : Station :=
  if station.running ∧ station.scanUntil ≠ 0 ∧ station.nextProbe ≤ now then
    { station with
      nextProbe := now + milliseconds 450
      polling := some now
      clock := now
      probes := station.probes ++ [now] }
  else { station with polling := some now, clock := now }

/-- What the buffer of the loop holds of a message, up to its first NUL. -/
def received (payload : List UInt8) : List UInt8 := (payload.take 511).takeWhile (· ≠ 0)

/-- A message that the loop receives; `localAddresses` are those of the interfaces then. -/
def receive (localAddresses : List (List UInt8)) (now : Nat) (payload : List UInt8)
    (sender : InAddr) (station : Station) : Station :=
  if station.running then
    { station with
      service := handlePacket localAddresses now (received payload) (addressToString sender)
        station.service }
  else station

def doneLine (service : DiscoveryService) : List UInt8 :=
  ascii "state net done " ++ decimal service.peers.length

/-- The lines that are handed over. -/
def handOver (station : Station) : Station :=
  { station with
    service := { station.service with pendingLines := [] }
    polling := none
    told := station.told ++ station.service.pendingLines }

/-- `poll_state_lines` behind its loop. -/
def endPoll (station : Station) : Station :=
  match station.polling with
  | none => station
  | some now =>
    if station.scanUntil ≠ 0 ∧ station.scanUntil ≤ now then
      handOver { station with
        service := { station.service with
          pendingLines := station.service.pendingLines ++ [doneLine station.service] }
        scanUntil := 0 }
    else handOver station

inductive Event (ι : Type) where
  | startScan (machine : ι) (now duration : Nat)
  | beginPoll (machine : ι) (now : Nat)
  | receive (machine : ι) (localAddresses : List (List UInt8)) (now : Nat) (payload : List UInt8)
      (sender : InAddr)
  | endPoll (machine : ι)

def Event.machine : Event ι → ι
  | .startScan machine .. | .beginPoll machine _ | .receive machine .. | .endPoll machine => machine

def Event.apply : Event ι → Station → Station
  | .startScan _ now duration => DiscoveryNetwork.startScan now duration
  | .beginPoll _ now => DiscoveryNetwork.beginPoll now
  | .receive _ localAddresses now payload sender =>
    DiscoveryNetwork.receive localAddresses now payload sender
  | .endPoll _ => DiscoveryNetwork.endPoll

def step [DecidableEq ι] (world : ι → Station) (event : Event ι) : ι → Station :=
  Function.update world event.machine (event.apply (world event.machine))

/-! ### What the network does -/

/-- Machines with addresses of their own. -/
structure Network (ι : Type) where
  host : ι → Host
  apart : ∀ first second, first ≠ second →
    ∀ address ∈ (host first).addresses, address ∉ (host second).addresses
  proper : ∀ machine, loopback ∉ (host machine).addresses

section
variable [DecidableEq ι] (network : Network ι)

/-- The addresses under which a machine is seen, and reached, by another one or by itself. -/
def seenAs (machine viewer : ι) : List InAddr :=
  if machine = viewer then loopback :: (network.host machine).addresses
  else (network.host machine).addresses

/-- A machine has sent this to the other, or to all. -/
def Sent (world : ι → Station) (sender receiver : ι) (payload : List UInt8) : Prop :=
  (payload = probeOf (world sender).service ∧ (world sender).probes ≠ []) ∨
    ∃ destination ∈ seenAs network receiver sender,
      (addressToString destination, payload) ∈ (world sender).service.sent

/-- A machine does one thing after the other and its clock does not go back; what it receives has
been sent, under an address of the sender. -/
def Possible (world : ι → Station) : Event ι → Prop
  | .startScan machine now _ | .beginPoll machine now =>
    (world machine).polling = none ∧ (world machine).clock ≤ now ∧ 0 < now
  | .receive machine localAddresses _ payload address =>
    (world machine).polling ≠ none ∧
      localAddresses = localIpv4Addresses (network.host machine) ∧
      ∃ sender, address ∈ seenAs network sender machine ∧ Sent network world sender machine payload
  | .endPoll machine => (world machine).polling ≠ none

/-- Every machine has been started, with or without a socket. -/
def startOf (bound : ι → Bool) : ι → Station :=
  fun machine => start (bound machine) (network.host machine) created

def run (bound : ι → Bool) (events : List (Event ι)) : ι → Station :=
  events.foldl step (startOf network bound)

end

/-! ### Messages -/

/-- A name as it stands in a message. -/
structure Token (word : List UInt8) : Prop where
  plain : ∀ byte ∈ word, isSpace byte = false
  ended : 0 ∉ word
  some : word ≠ []
  short : word.length ≤ 127

theorem sanitizeToken_byte {byte : UInt8} (inside : byte ≠ 0 ∧ byte ≠ 11 ∧ byte ≠ 12) :
    isSpace (if byte == 32 || byte == 10 || byte == 13 || byte == 9 then 95 else byte) = false ∧
      (if byte == 32 || byte == 10 || byte == 13 || byte == 9 then (95 : UInt8) else byte) ≠ 0 := by
  split
  · decide
  · rename_i other
    simp only [Bool.or_eq_true, beq_iff_eq, not_or] at other
    refine ⟨?_, inside.1⟩
    by_contra blank
    simp only [isSpace, Bool.not_eq_false, Bool.or_eq_true, decide_eq_true_eq,
      Bool.and_eq_true] at blank
    simp only [UInt8.le_iff_toNat_le, ← UInt8.toNat_inj, ne_eq] at blank inside other
    simp at blank inside other
    omega

theorem hostname_token (host : Host) : Token (sanitizeToken (localHostname host)) := by
  have plain : ∀ byte ∈ localHostname host, byte ≠ 0 ∧ byte ≠ 11 ∧ byte ≠ 12 := by
    unfold localHostname
    split
    · rename_i found
      exact host.plain _ found
    · decide +kernel
  have short : localHostname host ≠ [] ∧ (localHostname host).length ≤ 127 := by
    unfold localHostname
    split
    · rename_i found
      exact ⟨List.cons_ne_nil _ _, host.short _ found⟩
    · decide +kernel
  refine ⟨?_, ?_, ?_, ?_⟩
  · intro byte member
    obtain ⟨old, listed, rfl⟩ := List.mem_map.mp member
    exact (sanitizeToken_byte (plain old listed)).1
  · intro member
    obtain ⟨old, listed, zero⟩ := List.mem_map.mp member
    exact (sanitizeToken_byte (plain old listed)).2 zero
  · exact fun none => short.1 (List.map_eq_nil_iff.mp none)
  · unfold sanitizeToken
    rw [List.length_map]
    exact short.2

theorem nextWord_end (plain : ∀ byte ∈ word, isSpace byte = false) :
    nextWord word = (word, []) := by
  have start : word.dropWhile isSpace = word := by
    cases word with
    | nil => rfl
    | cons first rest =>
      have letter := plain first List.mem_cons_self
      exact List.dropWhile_cons_of_neg (by rw [letter]; exact Bool.false_ne_true)
  have inside : ∀ byte ∈ word, (!isSpace byte) = true := fun byte member => by
    rw [plain byte member]
    rfl
  unfold nextWord
  dsimp only
  rw [start, List.takeWhile_eq_self_iff.mpr inside, List.dropWhile_eq_nil_iff.mpr inside]

theorem decimal_plain (number : Nat) : ∀ byte ∈ decimal number, isSpace byte = false :=
  fun _ member => (digit_plain (decimal_digits _ member)).1

/-- A message with the version and two words behind its first word. -/
def message (start host : List UInt8) (port : Nat) : List UInt8 :=
  start ++ 32 :: 49 :: 32 :: (host ++ 32 :: decimal port)

theorem probeOf_eq (service : DiscoveryService) :
    probeOf service = message discoverPrefix service.hostname service.videoUdpPort := by
  unfold probeOf message
  simp only [List.append_assoc, List.singleton_append]
  rfl

theorem replyOf_eq (service : DiscoveryService) :
    replyOf service = message herePrefix service.hostname service.videoUdpPort := by
  unfold replyOf message
  simp only [List.append_assoc, List.singleton_append]
  rfl

theorem received_message (short : 0 ∉ word ∧ word.length ≤ 30) (token : Token host)
    (small : port ≤ 65535) : received (message word host port) = message word host port := by
  have digits : (decimal port).length ≤ 5 := by
    unfold decimal
    rw [List.length_map]
    exact (Nat.length_toDigits_le_iff (by decide) (by decide)).mpr (by omega)
  have ended : 0 ∉ message word host port := by
    unfold message
    intro member
    rcases List.mem_append.mp member with inside | inside
    · exact short.1 inside
    · simp only [List.mem_cons, List.mem_append] at inside
      rcases inside with zero | zero | zero | inside | zero | inside
      · cases zero
      · cases zero
      · cases zero
      · exact token.ended inside
      · cases zero
      · exact absurd (decimal_digits _ inside) (by decide)
  have length : (message word host port).length ≤ 511 := by
    unfold message
    simp only [List.length_append, List.length_cons]
    have := token.short
    omega
  unfold received
  rw [List.take_of_length_le length]
  exact List.takeWhile_eq_self_iff.mpr fun byte member => by
    simpa using fun zero : byte = 0 => ended (zero ▸ member)

/-- The four words of a message, as they are read. -/
theorem read_message (plain : ∀ byte ∈ word, isSpace byte = false) (some : word ≠ [])
    (token : Token host) (small : port ≤ 65535) :
    ∃ version number tail, extractWord ⟨message word host port, false⟩ = (word, version) ∧
      extract convertInt 0 version = (1, number) ∧
      extractWord number = (host, tail) ∧ (extract convertUnsignedShort 0 tail).1 = port := by
  have first := nextWord_word plain some (49 :: 32 :: (host ++ 32 :: decimal port))
  have third : nextWord (32 :: (host ++ 32 :: decimal port)) = (host, 32 :: decimal port) := by
    rw [nextWord_blank, nextWord_word token.plain token.some]
  have last : nextWord (32 :: decimal port) = (decimal port, []) := by
    rw [nextWord_blank, nextWord_end (decimal_plain port)]
  refine ⟨⟨32 :: 49 :: 32 :: (host ++ 32 :: decimal port), false⟩,
    ⟨32 :: (host ++ 32 :: decimal port), false⟩, ⟨32 :: decimal port, false⟩, ?_, ?_, ?_, ?_⟩
  · unfold message
    rw [extractWord_some (by rw [first]; exact some), first]
  · exact extract_int 0 1 (by decide) (by decide) separated_blank
  · rw [extractWord_some (by rw [third]; exact token.some), third]
  · rw [extract_short, leadingNumber_word (by rw [last]; exact decimal_digits)
      (by rw [last]; exact decimal_ne_nil), last]
    dsimp only
    rw [decimalValue_decimal]
    unfold shortOf
    rw [if_neg (by omega)]
    rfl

theorem prefixes : (0 ∉ discoverPrefix ∧ discoverPrefix.length ≤ 30) ∧
    (0 ∉ herePrefix ∧ herePrefix.length ≤ 30) ∧
    (∀ byte ∈ discoverPrefix, isSpace byte = false) ∧
    (∀ byte ∈ herePrefix, isSpace byte = false) ∧ discoverPrefix ≠ [] := by decide +kernel

/-- A probe is answered. -/
theorem handle_probe (named : sender ≠ []) (token : Token other.hostname)
    (small : other.videoUdpPort ≤ 65535) (localAddresses : List (List UInt8)) (now : Nat)
    (service : DiscoveryService) :
    handlePacket localAddresses now (received (probeOf other)) sender service =
      { service with sent := service.sent ++ [(sender, replyOf service)] } := by
  rw [probeOf_eq, received_message prefixes.1 token small]
  obtain ⟨version, number, tail, first, one, _⟩ :=
    read_message prefixes.2.2.1 prefixes.2.2.2.2 token small
  unfold handlePacket
  rw [if_neg named]
  simp only [first, one, ne_eq, not_true_eq_false, ↓reduceIte]

/-- An answer of another machine is listed, unless its port is 0. -/
theorem handle_reply (named : sender ≠ []) (token : Token other.hostname)
    (small : other.videoUdpPort ≤ 65535) (localAddresses : List (List UInt8)) (now : Nat)
    (service : DiscoveryService) :
    handlePacket localAddresses now (received (replyOf other)) sender service =
      if other.videoUdpPort = 0 ∨ localAddresses.contains sender then service
      else upsertPeer ⟨sender, other.hostname, other.videoUdpPort, now⟩ service := by
  rw [replyOf_eq, received_message prefixes.2.1 token small]
  obtain ⟨version, number, tail, first, one, host, port⟩ :=
    read_message prefixes.2.2.2.1 herePrefix_other.1 token small
  have again : sanitizeToken other.hostname = other.hostname := by
    unfold sanitizeToken
    refine (List.map_congr_left fun byte member => ?_).trans (List.map_id' _)
    have plain := token.plain byte member
    refine if_neg fun blank => ?_
    simp only [Bool.or_eq_true, beq_iff_eq] at blank
    rcases blank with ((rfl | rfl) | rfl) | rfl <;> exact absurd plain (by decide)
  unfold handlePacket
  rw [if_neg named]
  simp only [first, one, host, port, ne_eq, not_true_eq_false, ↓reduceIte, herePrefix_other.2,
    false_or, token.some, again]
  by_cases zero : other.videoUdpPort = 0
  · simp [zero]
  · rw [if_neg zero]
    by_cases own : localAddresses.contains sender = true
    · rw [if_pos own, if_pos (.inr own)]
    · rw [if_neg own, if_neg (by simpa [zero] using own)]

/-! ### Addresses -/

theorem digits_dot (number : Nat) (rest : List UInt8) :
    (decimal number ++ 46 :: rest).takeWhile isDigit = decimal number ∧
      (decimal number ++ 46 :: rest).dropWhile isDigit = 46 :: rest := by
  rw [List.takeWhile_append_of_pos fun _ member => decimal_digits _ member,
    List.dropWhile_append_of_pos fun _ member => decimal_digits _ member,
    List.takeWhile_cons_of_neg (by decide), List.dropWhile_cons_of_neg (by decide), List.append_nil]
  exact ⟨rfl, rfl⟩

theorem addressToString_injective : Function.Injective addressToString := by
  have split {number other : UInt8} {rest more : List UInt8}
      (same : decimal number.toNat ++ 46 :: rest = decimal other.toNat ++ 46 :: more) :
      number = other ∧ rest = more := by
    have digits := congrArg (·.takeWhile isDigit) same
    have behind := congrArg (·.dropWhile isDigit) same
    simp only [(digits_dot _ _).1, (digits_dot _ _).2, List.cons.injEq, true_and] at digits behind
    exact ⟨UInt8.toNat_inj.mp (decimal_injective digits), behind⟩
  rintro ⟨first, second, third, fourth⟩ ⟨one, two, three, four⟩ same
  obtain ⟨head, same⟩ := split same
  obtain ⟨next, same⟩ := split same
  obtain ⟨behind, same⟩ := split same
  have last := UInt8.toNat_inj.mp (decimal_injective same)
  dsimp only at head next behind last
  rw [head, next, behind, last]

theorem addressToString_byte {byte : UInt8} (member : byte ∈ addressToString address) :
    isDigit byte = true ∨ byte = 46 := by
  unfold addressToString at member
  simp only [List.mem_append, List.mem_cons] at member
  rcases member with digit | dot | digit | dot | digit | dot | digit
  · exact .inl (decimal_digits _ digit)
  · exact .inr dot
  · exact .inl (decimal_digits _ digit)
  · exact .inr dot
  · exact .inl (decimal_digits _ digit)
  · exact .inr dot
  · exact .inl (decimal_digits _ digit)

theorem addressToString_some (address : InAddr) : addressToString address ≠ [] :=
  List.append_ne_nil_of_left_ne_nil decimal_ne_nil _

/-! ### What the machines know of each other -/

section
variable [DecidableEq ι] (network : Network ι) (world : ι → Station)

/-- The machine has probed, and this is the entry of another one that has answered it. -/
structure Answered (machine other : ι) (peer : Peer) : Prop where
  apart : other ≠ machine
  address : ∃ address ∈ (network.host other).addresses, peer.address = addressToString address
  hostname : peer.hostname = sanitizeToken (localHostname (network.host other))
  port : peer.videoPort = (network.host other).videoUdpPort.toNat ∧ peer.videoPort ≠ 0
  probed : (world machine).probes ≠ []
  replied : ∃ destination ∈ (network.host machine).addresses,
    (addressToString destination, replyOf (world other).service) ∈ (world other).service.sent

structure Honest : Prop where
  names : ∀ machine, (world machine).service.hostname =
      sanitizeToken (localHostname (network.host machine)) ∧
    (world machine).service.videoUdpPort = (network.host machine).videoUdpPort.toNat
  /-- A machine sends nothing but answers, and answers only probes. -/
  replies : ∀ machine, ∀ message ∈ (world machine).service.sent,
    message.2 = replyOf (world machine).service ∧ ∃ other, (world other).probes ≠ [] ∧
      ∃ destination ∈ seenAs network other machine, message.1 = addressToString destination
  peers : ∀ machine, ∀ peer ∈ (world machine).service.peers,
    ∃ other, Answered network world machine other peer

end

/-- What a machine does not lose. -/
structure Grows (before after : Station) : Prop where
  hostname : after.service.hostname = before.service.hostname
  port : after.service.videoUdpPort = before.service.videoUdpPort
  sent : before.service.sent ⊆ after.service.sent
  probes : before.probes ≠ [] → after.probes ≠ []

theorem Grows.refl (station : Station) : Grows station station :=
  ⟨rfl, rfl, List.Subset.refl _, id⟩

theorem handlePacket_grows (localAddresses : List (List UInt8)) (now : Nat)
    (payload sender : List UInt8) (service : DiscoveryService) :
    (handlePacket localAddresses now payload sender service).hostname = service.hostname ∧
      (handlePacket localAddresses now payload sender service).videoUdpPort = service.videoUdpPort ∧
      service.sent ⊆ (handlePacket localAddresses now payload sender service).sent := by
  unfold handlePacket
  dsimp only
  split
  · exact ⟨rfl, rfl, List.Subset.refl _⟩
  · split
    · exact ⟨rfl, rfl, List.Subset.refl _⟩
    · split
      · exact ⟨rfl, rfl, List.subset_append_left _ _⟩
      · split
        · exact ⟨rfl, rfl, List.Subset.refl _⟩
        · split
          · exact ⟨rfl, rfl, List.Subset.refl _⟩
          · exact ⟨rfl, rfl, List.Subset.refl _⟩

theorem endPoll_kept (station : Station) :
    (endPoll station).service.hostname = station.service.hostname ∧
      (endPoll station).service.videoUdpPort = station.service.videoUdpPort ∧
      (endPoll station).service.sent = station.service.sent ∧
      (endPoll station).service.peers = station.service.peers ∧
      (endPoll station).probes = station.probes ∧ (endPoll station).running = station.running := by
  unfold endPoll
  split
  · exact ⟨rfl, rfl, rfl, rfl, rfl, rfl⟩
  · split <;> exact ⟨rfl, rfl, rfl, rfl, rfl, rfl⟩

theorem apply_grows (event : Event ι) (station : Station) :
    Grows station (event.apply station) := by
  cases event with
  | startScan machine now duration =>
    dsimp only [Event.apply]
    unfold startScan
    split <;> exact ⟨rfl, rfl, List.Subset.refl _, id⟩
  | beginPoll machine now =>
    dsimp only [Event.apply]
    unfold beginPoll
    split
    · exact ⟨rfl, rfl, List.Subset.refl _, fun _ => List.append_ne_nil_of_right_ne_nil _ (by simp)⟩
    · exact ⟨rfl, rfl, List.Subset.refl _, id⟩
  | receive machine localAddresses now payload sender =>
    dsimp only [Event.apply]
    unfold receive
    split
    · obtain ⟨hostname, port, sent⟩ := handlePacket_grows localAddresses now (received payload)
        (addressToString sender) station.service
      exact ⟨hostname, port, sent, id⟩
    · exact .refl station
  | endPoll machine =>
    obtain ⟨hostname, port, sent, _, probes, _⟩ := endPoll_kept station
    exact ⟨hostname, port, by rw [Event.apply, sent]; exact List.Subset.refl _,
      by rw [Event.apply, probes]; exact id⟩

theorem apply_running (event : Event ι) (station : Station) :
    (event.apply station).running = station.running := by
  cases event with
  | startScan machine now duration =>
    dsimp only [Event.apply]
    unfold startScan
    split <;> rfl
  | beginPoll machine now =>
    dsimp only [Event.apply]
    unfold beginPoll
    split <;> rfl
  | receive machine localAddresses now payload sender =>
    dsimp only [Event.apply]
    unfold receive
    split <;> rfl
  | endPoll machine => exact (endPoll_kept station).2.2.2.2.2

section
variable [DecidableEq ι] {network : Network ι} {world after : ι → Station}

theorem step_grows (world : ι → Station) (event : Event ι) (machine : ι) :
    Grows (world machine) (step world event machine) := by
  unfold step
  by_cases same : machine = event.machine
  · subst same
    rw [Function.update_self]
    exact apply_grows event _
  · rw [Function.update_of_ne same]
    exact .refl _

theorem step_running (world : ι → Station) (event : Event ι) (machine : ι) :
    (step world event machine).running = (world machine).running := by
  unfold step
  by_cases same : machine = event.machine
  · subst same
    rw [Function.update_self, apply_running]
  · rw [Function.update_of_ne same]

theorem run_running (network : Network ι) (bound : ι → Bool) (events : List (Event ι))
    (machine : ι) : (run network bound events machine).running = bound machine := by
  have kept (world : ι → Station) :
      (events.foldl step world machine).running = (world machine).running := by
    induction events generalizing world with
    | nil => rfl
    | cons event rest ih => rw [List.foldl_cons, ih, step_running]
  refine (kept _).trans ?_
  unfold startOf start
  cases made : bound machine <;> rfl

omit [DecidableEq ι] in
theorem Answered.grow (answered : Answered network world machine other peer)
    (grows : ∀ machine, Grows (world machine) (after machine)) :
    Answered network after machine other peer := by
  obtain ⟨destination, own, sent⟩ := answered.replied
  have same : replyOf (after other).service = replyOf (world other).service := by
    unfold replyOf
    rw [(grows other).hostname, (grows other).port]
  exact ⟨answered.apart, answered.address, answered.hostname, answered.port,
    (grows machine).probes answered.probed, destination, own, same ▸ (grows other).sent sent⟩

/-- What is new is looked at where it was added. -/
theorem Honest.grow (honest : Honest network world)
    (grows : ∀ machine, Grows (world machine) (after machine))
    (sent : ∀ machine, ∀ message ∈ (after machine).service.sent,
      message ∈ (world machine).service.sent ∨
        message.2 = replyOf (world machine).service ∧ ∃ other, (world other).probes ≠ [] ∧
          ∃ destination ∈ seenAs network other machine, message.1 = addressToString destination)
    (peers : ∀ machine, ∀ peer ∈ (after machine).service.peers,
      peer ∈ (world machine).service.peers ∨ ∃ other, Answered network world machine other peer) :
    Honest network after := by
  refine ⟨?_, ?_, ?_⟩
  · intro machine
    rw [(grows machine).hostname, (grows machine).port]
    exact honest.names machine
  · intro machine message member
    have same : replyOf (after machine).service = replyOf (world machine).service := by
      unfold replyOf
      rw [(grows machine).hostname, (grows machine).port]
    rw [same]
    rcases sent machine message member with old | ⟨reply, other, probed, seen⟩
    · obtain ⟨reply, other, probed, seen⟩ := honest.replies machine message old
      exact ⟨reply, other, (grows other).probes probed, seen⟩
    · exact ⟨reply, other, (grows other).probes probed, seen⟩
  · intro machine peer member
    rcases peers machine peer member with old | ⟨other, answered⟩
    · obtain ⟨other, answered⟩ := honest.peers machine peer old
      exact ⟨other, answered.grow grows⟩
    · exact ⟨other, answered.grow grows⟩

theorem Honest.token (honest : Honest network world) (machine : ι) :
    Token (world machine).service.hostname ∧ (world machine).service.videoUdpPort ≤ 65535 := by
  obtain ⟨hostname, port⟩ := honest.names machine
  rw [hostname, port]
  exact ⟨hostname_token _, Nat.le_of_lt_succ (network.host machine).videoUdpPort.toNat_lt⟩

/-- Whether a message is an answer, as the machine that receives it sees. -/
def isAnswer (payload : List UInt8) : Bool := field 0 (received payload) = herePrefix

theorem isAnswer_message (short : 0 ∉ word ∧ word.length ≤ 30)
    (plain : ∀ byte ∈ word, isSpace byte = false) (some : word ≠ []) (token : Token host)
    (small : port ≤ 65535) : isAnswer (message word host port) = decide (word = herePrefix) := by
  unfold isAnswer
  rw [received_message short token small]
  unfold message field behind
  rw [nextWord_word plain some]

omit [DecidableEq ι] in
theorem local_iff (network : Network ι) (machine : ι) (address : InAddr) :
    (localIpv4Addresses (network.host machine)).contains (addressToString address) = true ↔
      address = loopback ∨ address ∈ (network.host machine).addresses := by
  unfold localIpv4Addresses
  rw [List.contains_iff_mem, List.mem_map_of_injective addressToString_injective, List.mem_cons]

/-- All that a message can do. -/
inductive Effect (network : Network ι) (world : ι → Station) (machine : ι) (now : Nat)
    (address : InAddr) : (answer : Bool) → DiscoveryService → Prop
  | replied (seen : address ∈ seenAs network other machine) (probed : (world other).probes ≠ []) :
    Effect network world machine now address false { (world machine).service with
      sent := (world machine).service.sent ++
        [(addressToString address, replyOf (world machine).service)] }
  /-- Of the machine itself, or without a port. -/
  | ignored (seen : address ∈ seenAs network other machine)
    (refused : other = machine ∨ (network.host other).videoUdpPort = 0) :
    Effect network world machine now address true (world machine).service
  | listed (apart : other ≠ machine) (own : address ∈ (network.host other).addresses)
    (port : (network.host other).videoUdpPort ≠ 0)
    (replied : ∃ destination ∈ seenAs network machine other,
      (addressToString destination, replyOf (world other).service) ∈ (world other).service.sent) :
    Effect network world machine now address true (upsertPeer
      ⟨addressToString address, sanitizeToken (localHostname (network.host other)),
        (network.host other).videoUdpPort.toNat, now⟩ (world machine).service)

theorem Honest.effect (honest : Honest network world)
    (possible : Possible network world (.receive machine localAddresses now payload address)) :
    Effect network world machine now address (isAnswer payload)
      (handlePacket localAddresses now (received payload) (addressToString address)
        (world machine).service) := by
  obtain ⟨_, rfl, sender, seen, sent⟩ := possible
  obtain ⟨token, small⟩ := honest.token sender
  obtain ⟨hostname, videoPort⟩ := honest.names sender
  rcases sent with ⟨rfl, probed⟩ | ⟨destination, own, sent⟩
  · rw [handle_probe (addressToString_some address) token small, probeOf_eq,
      isAnswer_message prefixes.1 prefixes.2.2.1 prefixes.2.2.2.2 token small,
      decide_eq_false (Ne.symm herePrefix_other.2)]
    exact .replied seen probed
  · obtain ⟨reply, _⟩ := honest.replies sender _ sent
    dsimp only at reply
    subst reply
    have answer : isAnswer (replyOf (world sender).service) = true := by
      rw [replyOf_eq, isAnswer_message prefixes.2.1 prefixes.2.2.2.1 herePrefix_other.1 token small]
      exact decide_eq_true rfl
    rw [handle_reply (addressToString_some address) token small, answer, hostname, videoPort]
    have zero : (network.host sender).videoUdpPort.toNat = 0 ↔
        (network.host sender).videoUdpPort = 0 := by
      rw [← UInt16.toNat_inj]
      rfl
    by_cases refused : sender = machine ∨ (network.host sender).videoUdpPort = 0
    · rw [if_pos]
      · exact .ignored seen refused
      · rcases refused with rfl | none
        · rw [local_iff]
          unfold seenAs at seen
          rw [if_pos rfl, List.mem_cons] at seen
          exact .inr seen
        · exact .inl (zero.mpr none)
    · obtain ⟨apart, port⟩ := not_or.mp refused
      unfold seenAs at seen
      rw [if_neg apart] at seen
      rw [if_neg]
      · exact .listed apart seen port ⟨destination, own, sent⟩
      · rw [local_iff, zero]
        rintro (none | loop | other)
        · exact port none
        · exact network.proper sender (loop ▸ seen)
        · exact network.apart sender machine apart address seen other

/-- The entry that an answer makes. A reply to an address of this machine is one to its probe. -/
theorem Honest.answered (honest : Honest network world) (apart : other ≠ machine)
    (own : address ∈ (network.host other).addresses) (port : (network.host other).videoUdpPort ≠ 0)
    (destination : InAddr) (seen : destination ∈ seenAs network machine other)
    (sent : (addressToString destination, replyOf (world other).service) ∈
      (world other).service.sent) (now : Nat) :
    Answered network world machine other
      ⟨addressToString address, sanitizeToken (localHostname (network.host other)),
        (network.host other).videoUdpPort.toNat, now⟩ := by
  unfold seenAs at seen
  rw [if_neg (Ne.symm apart)] at seen
  obtain ⟨_, prober, probed, target, targeted, same⟩ := honest.replies other _ sent
  have same := addressToString_injective same
  subst same
  have self : prober = machine := by
    by_contra different
    unfold seenAs at targeted
    split at targeted
    · rename_i itself
      subst itself
      rcases List.mem_cons.mp targeted with loop | others
      · exact network.proper machine (loop ▸ seen)
      · exact network.apart prober machine different _ others seen
    · exact network.apart prober machine different _ targeted seen
  refine ⟨apart, ⟨address, own, rfl⟩, rfl, ⟨rfl, fun zero => port ?_⟩, self ▸ probed, destination,
    seen, sent⟩
  exact UInt16.toNat_inj.mp zero

theorem honest_start (network : Network ι) (bound : ι → Bool) :
    Honest network (startOf network bound) := by
  have started (machine : ι) : (startOf network bound machine).service.peers = [] ∧
      (startOf network bound machine).service.sent = [] ∧
      (startOf network bound machine).service.hostname =
        sanitizeToken (localHostname (network.host machine)) ∧
      (startOf network bound machine).service.videoUdpPort =
        (network.host machine).videoUdpPort.toNat := by
    unfold startOf start
    split <;> exact ⟨rfl, rfl, rfl, rfl⟩
  refine ⟨fun machine => (started machine).2.2, ?_, ?_⟩
  · intro machine message member
    rw [(started machine).2.1] at member
    cases member
  · intro machine peer member
    rw [(started machine).1] at member
    cases member

theorem receive_service (localAddresses : List (List UInt8)) (now : Nat) (payload : List UInt8)
    (sender : InAddr) (station : Station) :
    (receive localAddresses now payload sender station).service =
      if station.running then
        handlePacket localAddresses now (received payload) (addressToString sender) station.service
      else station.service := by
  unfold receive
  split <;> rfl

/-- What an event does to the service it is about. -/
theorem Honest.change (honest : Honest network world) (possible : Possible network world event) :
    ((event.apply (world event.machine)).service.sent = (world event.machine).service.sent ∧
      ((event.apply (world event.machine)).service.peers = (world event.machine).service.peers ∨
        (event.apply (world event.machine)).service.peers = [])) ∨
    ∃ now address answer, Effect network world event.machine now address answer
      (event.apply (world event.machine)).service := by
  cases event with
  | startScan machine now duration =>
    dsimp only [Event.apply, Event.machine]
    unfold startScan
    split
    · exact .inl ⟨rfl, .inr rfl⟩
    · exact .inl ⟨rfl, .inl rfl⟩
  | beginPoll machine now =>
    dsimp only [Event.apply, Event.machine]
    unfold beginPoll
    split <;> exact .inl ⟨rfl, .inl rfl⟩
  | receive machine localAddresses now payload address =>
    dsimp only [Event.apply, Event.machine]
    rw [receive_service]
    split
    · exact .inr ⟨now, address, _, honest.effect possible⟩
    · exact .inl ⟨rfl, .inl rfl⟩
  | endPoll machine =>
    obtain ⟨_, _, sent, peers, _⟩ := endPoll_kept (world machine)
    exact .inl ⟨sent, .inl peers⟩

theorem honest_step (honest : Honest network world) (possible : Possible network world event) :
    Honest network (step world event) := by
  have change := honest.change possible
  refine honest.grow (step_grows world event) ?_ ?_
  · intro machine message member
    unfold step at member
    by_cases same : machine = event.machine
    · subst same
      rw [Function.update_self] at member
      rcases change with ⟨sent, _⟩ | ⟨now, address, answer, effect⟩
      · rw [sent] at member
        exact .inl member
      · revert member
        generalize (event.apply (world event.machine)).service = after at effect
        intro member
        cases effect with
        | replied seen probed =>
          rcases List.mem_append.mp member with old | new
          · exact .inl old
          · rw [List.mem_singleton.mp new]
            exact .inr ⟨rfl, _, probed, address, seen, rfl⟩
        | ignored => exact .inl member
        | listed => exact .inl member
    · rw [Function.update_of_ne same] at member
      exact .inl member
  · intro machine peer member
    unfold step at member
    by_cases same : machine = event.machine
    · subst same
      rw [Function.update_self] at member
      rcases change with ⟨_, peers | peers⟩ | ⟨now, address, answer, effect⟩
      · rw [peers] at member
        exact .inl member
      · rw [peers] at member
        cases member
      · revert member
        generalize (event.apply (world event.machine)).service = after at effect
        intro member
        cases effect with
        | replied => exact .inl member
        | ignored => exact .inl member
        | listed apart own port replied =>
          obtain ⟨destination, seen, sent⟩ := replied
          rw [upsertPeer, withPeer_eq] at member
          rcases mem_of_upsert member with old | rfl
          · exact .inl old
          · exact .inr ⟨_, honest.answered apart own port destination seen sent now⟩
    · rw [Function.update_of_ne same] at member
      exact .inl member

theorem honest_run (network : Network ι) (bound : ι → Bool) (events : List (Event ι))
    (possible : Runs.Meets step (Possible network) (startOf network bound) events) :
    Honest network (run network bound events) :=
  Runs.invariant_after_run events (fun _ _ => honest_step) (honest_start network bound) possible

/-- However the network treats the messages, every entry of a machine is that of another one, under
an address of it and with its own name and port, which has answered a probe of this machine. -/
theorem listed_machines_have_answered (network : Network ι) (bound : ι → Bool)
    (events : List (Event ι))
    (possible : Runs.Meets step (Possible network) (startOf network bound) events) :
    ∀ machine, ∀ peer ∈ (run network bound events machine).service.peers,
      ∃ other, Answered network (run network bound events) machine other peer :=
  (honest_run network bound events possible).peers

end

theorem unnamed_plain : ∀ text ∈ (none : Option (List UInt8)),
    (∀ byte ∈ text, byte ≠ 0 ∧ byte ≠ 11 ∧ byte ≠ 12) := by
  intro text none
  cases none

theorem unnamed_short : ∀ text ∈ (none : Option (List UInt8)), text.length ≤ 127 := by
  intro text none
  cases none

def unnamed (videoUdpPort : UInt16) (addresses : List InAddr) : Host :=
  ⟨none, videoUdpPort, addresses, unnamed_plain, unnamed_short⟩

def hostOfPair : Bool → Host
  | true => unnamed 5600 [⟨10, 77, 0, 1⟩]
  | false => unnamed 5700 [⟨10, 77, 0, 2⟩]

theorem pair_apart : ∀ first second, first ≠ second →
    ∀ address ∈ (hostOfPair first).addresses, address ∉ (hostOfPair second).addresses := by
  decide

theorem pair_proper : ∀ machine, loopback ∉ (hostOfPair machine).addresses := by decide

/-- Two machines on one cable. -/
def pair : Network Bool := ⟨hostOfPair, pair_apart, pair_proper⟩

/-- One of them probes, and the other answers. -/
def scanOfPair : List (Event Bool) :=
  [.startScan true 1 (milliseconds 2500), .beginPoll true 2, .beginPoll false 3,
    .receive false (localIpv4Addresses (hostOfPair false)) 3
      (ascii "OPENHD_GLIDE_DISCOVER 1 glide 5600") ⟨10, 77, 0, 1⟩,
    .endPoll false,
    .receive true (localIpv4Addresses (hostOfPair true)) 4 (ascii "OPENHD_GLIDE_HERE 1 glide 5700")
      ⟨10, 77, 0, 2⟩,
    .endPoll true]

theorem scanOfPair_possible :
    Runs.Meets step (Possible pair) (startOf pair fun _ => true) scanOfPair := by
  refine ⟨⟨rfl, by decide +kernel, by decide⟩, ⟨rfl, by decide +kernel, by decide⟩,
    ⟨rfl, by decide +kernel, by decide⟩, ?_, Option.some_ne_none 3, ?_, Option.some_ne_none 2,
    trivial⟩
  · exact ⟨by decide +kernel, rfl, true, by decide +kernel, .inl (by decide +kernel)⟩
  · exact ⟨by decide +kernel, rfl, false, by decide +kernel, .inr (by decide +kernel)⟩

theorem answered_on_the_cable : ∃ other, Answered pair (run pair (fun _ => true) scanOfPair) true
    other ⟨ascii "10.77.0.2", ascii "glide", 5700, 4⟩ :=
  listed_machines_have_answered pair (fun _ => true) scanOfPair scanOfPair_possible true _
    (by decide +kernel)

/-! ### Which machines are listed -/

section
variable [DecidableEq ι] {network : Network ι} {world : ι → Station} {machine : ι}

/-- The addresses that have answered a machine since its scan began. -/
def hear (machine : ι) (heard : List InAddr) : Event ι → List InAddr
  | .startScan other _ _ => if other = machine then [] else heard
  | .receive other _ _ payload address =>
    if other = machine ∧ isAnswer payload = true then heard ++ [address] else heard
  | _ => heard

def heardSinceScan (machine : ι) (events : List (Event ι)) : List InAddr :=
  events.foldl (hear machine) []

/-- A machine with a socket lists the addresses of the others that it has heard, and each once. -/
structure Lists (network : Network ι) (machine : ι) (station : Station) (heard : List InAddr) :
    Prop where
  running : station.running = true
  distinct : Distinct station.service
  listed : ∀ other, other ≠ machine → (network.host other).videoUdpPort ≠ 0 →
    ∀ address ∈ (network.host other).addresses,
      (addressToString address ∈ station.service.peers.map (·.address) ↔ address ∈ heard)

theorem lists_receive (lists : Lists network machine (world machine) heard)
    (effect : Effect network world machine now address answer after) (changed : Station)
    (same : changed.service = after) (running : changed.running = true) :
    Lists network machine changed (if answer = true then heard ++ [address] else heard) := by
  cases effect with
  | replied =>
    refine ⟨running, ?_, ?_⟩
    · rw [same]
      exact lists.distinct
    · rw [same]
      exact lists.listed
  | @ignored other seen refused =>
    refine ⟨running, same ▸ lists.distinct, ?_⟩
    intro another apart port own member
    rw [same, lists.listed another apart port own member, if_pos rfl, List.mem_append,
      List.mem_singleton]
    refine ⟨.inl, fun either => either.elim id ?_⟩
    rintro rfl
    -- an address of the other machine is not one that is ignored
    unfold seenAs at seen
    by_cases itself : other = machine
    · rw [if_pos itself] at seen
      rcases List.mem_cons.mp seen with loop | mine
      · exact absurd (loop ▸ member) (network.proper another)
      · exact absurd member (network.apart other another (itself ▸ Ne.symm apart) own mine)
    · rw [if_neg itself] at seen
      rcases refused with self | none
      · exact absurd self itself
      · by_cases two : other = another
        · exact absurd (two ▸ none) port
        · exact absurd member (network.apart other another two own seen)
  | listed =>
    refine ⟨running, same ▸ upsertPeer_distinct lists.distinct _, ?_⟩
    intro another apart port own member
    rw [same, if_pos rfl, List.mem_append, List.mem_singleton,
      ← lists.listed another apart port own member]
    simp only [upsertPeer, withPeer_eq, map_upsert]
    split
    · rename_i listed
      refine ⟨.inl, fun either => either.elim id ?_⟩
      rintro rfl
      exact listed
    · rw [List.mem_append, List.mem_singleton, addressToString_injective.eq_iff]

theorem lists_step (honest : Honest network world) (possible : Possible network world event)
    (lists : Lists network machine (world machine) heard) :
    Lists network machine (step world event machine) (hear machine heard event) := by
  unfold step
  by_cases same : machine = event.machine
  · subst same
    rw [Function.update_self]
    have running := (apply_running event (world event.machine)).trans lists.running
    cases event with
    | startScan machine now duration =>
      dsimp only [Event.apply, Event.machine, hear] at running lists ⊢
      unfold startScan at running ⊢
      rw [if_pos lists.running, if_pos rfl]
      exact ⟨lists.running, List.nodup_nil, fun _ _ _ _ _ => iff_of_false List.not_mem_nil
        List.not_mem_nil⟩
    | beginPoll machine now =>
      dsimp only [Event.apply, Event.machine, hear] at running lists ⊢
      unfold beginPoll
      split <;> exact ⟨lists.running, lists.distinct, lists.listed⟩
    | receive machine localAddresses now payload address =>
      have effect := honest.effect possible
      dsimp only [Event.apply, Event.machine, hear] at running lists ⊢
      have service := receive_service localAddresses now payload address (world machine)
      rw [if_pos lists.running] at service
      have after := lists_receive lists effect _ service running
      by_cases answer : isAnswer payload = true
      · rw [if_pos ⟨rfl, answer⟩]
        rwa [if_pos answer] at after
      · rw [if_neg fun both => answer both.2]
        rwa [if_neg answer] at after
    | endPoll machine =>
      obtain ⟨_, _, _, peers, _⟩ := endPoll_kept (world machine)
      dsimp only [Event.apply, Event.machine, hear] at running lists ⊢
      refine ⟨running, ?_, ?_⟩
      · unfold Distinct
        rw [peers]
        exact lists.distinct
      · rw [peers]
        exact lists.listed
  · rw [Function.update_of_ne same]
    have unheard : hear machine heard event = heard := by
      cases event with
      | startScan other => exact if_neg (Ne.symm same)
      | receive other => exact if_neg fun both => same both.1.symm
      | beginPoll => rfl
      | endPoll => rfl
    rw [unheard]
    exact lists

theorem lists_run (events : List (Event ι)) (honest : Honest network world)
    (possible : Runs.Meets step (Possible network) world events)
    (lists : Lists network machine (world machine) heard) :
    Lists network machine (events.foldl step world machine)
      (events.foldl (hear machine) heard) := by
  induction events generalizing world heard with
  | nil => exact lists
  | cons event rest ih =>
    exact ih (honest_step honest possible.1) possible.2 (lists_step honest possible.1 lists)

/-- The machines that are listed are those with a port of which an answer has come since the scan
began, and none is listed twice. -/
theorem answers_since_scan_are_listed (network : Network ι) (bound : ι → Bool) (machine : ι)
    (events : List (Event ι)) (made : bound machine = true)
    (possible : Runs.Meets step (Possible network) (startOf network bound) events) :
    Lists network machine (run network bound events machine) (heardSinceScan machine events) := by
  refine lists_run events (honest_start network bound) possible ?_
  unfold startOf start
  rw [made]
  exact ⟨rfl, List.nodup_nil, fun _ _ _ _ _ => iff_of_false List.not_mem_nil List.not_mem_nil⟩

end

theorem heard_on_the_cable :
    Lists pair true (run pair (fun _ => true) scanOfPair true) (heardSinceScan true scanOfPair) :=
  answers_since_scan_are_listed pair (fun _ => true) true scanOfPair rfl scanOfPair_possible

/-! ### What is answered -/

section
variable [DecidableEq ι] {network : Network ι} {world : ι → Station} {machine : ι}

/-- The answer to a message: where to, and what. -/
def answerTo (network : Network ι) (machine : ι) : Event ι → Option (List UInt8 × List UInt8)
  | .receive other _ _ payload address =>
    if other = machine ∧ isAnswer payload = false then
      some (addressToString address, message herePrefix
        (sanitizeToken (localHostname (network.host machine)))
        (network.host machine).videoUdpPort.toNat)
    else none
  | _ => none

theorem answerTo_other (different : machine ≠ event.machine) :
    answerTo network machine event = none := by
  cases event with
  | receive other => exact if_neg fun both => different both.1.symm
  | startScan | beginPoll | endPoll => rfl

theorem sent_step (honest : Honest network world) (possible : Possible network world event)
    (running : (world machine).running = true) :
    (step world event machine).service.sent =
      (world machine).service.sent ++ (answerTo network machine event).toList := by
  unfold step
  by_cases same : machine = event.machine
  · subst same
    rw [Function.update_self]
    cases event with
    | startScan machine now duration =>
      dsimp only [Event.apply, Event.machine, answerTo]
      unfold startScan
      split <;> exact (List.append_nil _).symm
    | beginPoll machine now =>
      dsimp only [Event.apply, Event.machine, answerTo]
      unfold beginPoll
      split <;> exact (List.append_nil _).symm
    | receive machine localAddresses now payload address =>
      have effect := honest.effect possible
      obtain ⟨hostname, port⟩ := honest.names machine
      dsimp only [Event.apply, Event.machine, answerTo] at running ⊢
      rw [receive_service, if_pos running]
      revert effect
      generalize handlePacket localAddresses now (received payload) (addressToString address)
        (world machine).service = after
      generalize isAnswer payload = answer
      intro effect
      cases effect with
      | replied =>
        rw [if_pos ⟨rfl, rfl⟩, replyOf_eq, hostname, port]
        rfl
      | ignored =>
        rw [if_neg fun both => Bool.noConfusion both.2]
        exact (List.append_nil _).symm
      | listed =>
        rw [if_neg fun both => Bool.noConfusion both.2]
        exact (List.append_nil _).symm
    | endPoll machine =>
      dsimp only [Event.apply, Event.machine, answerTo]
      rw [(endPoll_kept _).2.2.1]
      exact (List.append_nil _).symm
  · rw [Function.update_of_ne same, answerTo_other same]
    exact (List.append_nil _).symm

/-- A machine answers each probe it receives once, to its sender, and sends no other answer: an
answer is never answered. -/
theorem probes_are_answered_once (network : Network ι) (bound : ι → Bool) (machine : ι)
    (events : List (Event ι)) (made : bound machine = true)
    (possible : Runs.Meets step (Possible network) (startOf network bound) events) :
    (run network bound events machine).service.sent =
      events.filterMap (answerTo network machine) := by
  have kept : ∀ (world : ι → Station), Honest network world → (world machine).running = true →
      Runs.Meets step (Possible network) world events →
      (events.foldl step world machine).service.sent =
        (world machine).service.sent ++ events.filterMap (answerTo network machine) := by
    clear possible
    induction events with
    | nil => exact fun world _ _ _ => (List.append_nil _).symm
    | cons event rest ih =>
      intro world honest running possible
      rw [List.foldl_cons, ih _ (honest_step honest possible.1)
        ((step_running ..).trans running) possible.2, sent_step honest possible.1 running,
        List.append_assoc]
      cases answer : answerTo network machine event with
      | none => rw [List.filterMap_cons_none answer]; rfl
      | some found => rw [List.filterMap_cons_some answer]; rfl
  refine (kept _ (honest_start network bound) ?_ possible).trans ?_
  · exact (run_running network bound [] machine).trans made
  · unfold startOf start
    rw [made]
    rfl

end

theorem answered_once_on_the_cable :
    (run pair (fun _ => true) scanOfPair false).service.sent =
      scanOfPair.filterMap (answerTo pair false) :=
  probes_are_answered_once pair (fun _ => true) false scanOfPair rfl scanOfPair_possible

end Glide.DiscoveryNetwork
