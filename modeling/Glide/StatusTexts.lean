import Glide.ZeroTruncation

/-! Texts of the flight controller. The field of the text holds 50 bytes and needs no zero
at its end, and the number and the part of a long text follow it; from a payload with these
the decoder takes up to 254 bytes. -/
namespace Glide.StatusTexts
open Library AsciiText MavlinkFrames MavlinkDecode ZeroTruncation

/-- A text as a flight controller sends it. -/
structure StatusText where
  severity : UInt8
  text : List UInt8
  id : UInt16
  chunkSeq : UInt8
  short : text.length ≤ 50
  printed : ∀ byte ∈ text, byte ≠ 0 ∧ byte ≠ 10 ∧ byte ≠ 13
  ends : ∀ last ∈ text.getLast?, last ≠ 32

namespace StatusText

/-- The fields behind the text. -/
def extension (message : StatusText) : List UInt8 :=
  [message.id.toUInt8, (message.id >>> 8).toUInt8, message.chunkSeq]

/-- The payload with all of its 54 bytes. -/
def payload (message : StatusText) : List UInt8 :=
  message.severity ::
    (message.text ++ List.replicate (50 - message.text.length) 0 ++ message.extension)

/-- What is to be shown. -/
def line (message : StatusText) : Option (List UInt8) :=
  if message.text = [] then none
  else some (ascii "mav message [" ++ decimal message.severity.toNat ++ ascii "] " ++ message.text)

/-- The fields behind the text begin with a zero, or all that stands in front of their
first zero is left out when a text is trimmed: line breaks, and spaces at the end. -/
def ExtensionTrimmed (message : StatusText) : Prop :=
  ∀ byte ∈ (message.extension.takeWhile (· ≠ 0)).rdropWhile (· = 32), byte = 13 ∨ byte = 10

instance (message : StatusText) : Decidable message.ExtensionTrimmed :=
  inferInstanceAs (Decidable (∀ _ ∈ _, _))

end StatusText

/-! ### Trimming -/

theorem rdropWhile_append_ends {front : List UInt8} (ends : ∀ last ∈ front.getLast?, last ≠ 32)
    (rest : List UInt8) :
    (front ++ rest).rdropWhile (· = 32) = front ++ rest.rdropWhile (· = 32) := by
  induction rest using List.reverseRecOn with
  | nil =>
    rw [List.append_nil, List.rdropWhile_nil, List.append_nil, List.rdropWhile_eq_self_iff]
    intro filled
    simpa using ends _ (List.getLast?_eq_some_getLast filled)
  | append_singleton rest last ih =>
    rw [← List.append_assoc]
    by_cases space : last = 32
    · rw [List.rdropWhile_concat_pos _ _ _ (by simpa using space),
        List.rdropWhile_concat_pos _ _ _ (by simpa using space), ih]
    · rw [List.rdropWhile_concat_neg _ _ _ (by simpa using space),
        List.rdropWhile_concat_neg _ _ _ (by simpa using space), List.append_assoc]

theorem trim_append (front rest : List UInt8) :
    trimPayloadString (front ++ rest) = trimPayloadString front ++ trimPayloadString rest := by
  simp [trimPayloadString]

theorem trim_printed {text : List UInt8} (printed : ∀ byte ∈ text, byte ≠ 0 ∧ byte ≠ 10 ∧ byte ≠ 13) :
    trimPayloadString text = text := by
  unfold trimPayloadString
  rw [List.filter_filter, List.filter_eq_self]
  intro byte inside
  simp [printed byte inside]

theorem trim_eq_nil {text : List UInt8} :
    trimPayloadString text = [] ↔ ∀ byte ∈ text, byte = 13 ∨ byte = 10 := by
  unfold trimPayloadString
  rw [List.filter_filter, List.filter_eq_nil_iff]
  refine forall₂_congr fun byte inside => ?_
  simp only [ne_eq, decide_not, Bool.and_eq_true, Bool.not_eq_eq_eq_not, Bool.not_true,
    decide_eq_false_iff_not]
  tauto

/-! ### The text that is read -/

namespace StatusText
variable (message : StatusText)

/-- A whole text is followed by what the decoder takes from the other fields. -/
theorem text_read : trimPayloadString (cString message.payload 1 254) =
    message.text ++ if message.text.length < 50 then [] else
      trimPayloadString ((message.extension.takeWhile (· ≠ 0)).rdropWhile (· = 32)) := by
  have bytes : message.payload.drop 1 =
      message.text ++ (List.replicate (50 - message.text.length) 0 ++ message.extension) :=
    List.append_assoc ..
  have all : (message.payload.drop 1).length ≤ 254 := by
    have short := message.short
    rw [bytes]
    simp only [List.length_append, List.length_replicate, extension, List.length_cons,
      List.length_nil]
    omega
  have nonzero : ∀ byte ∈ message.text, decide (byte ≠ 0) = true := fun byte inside =>
    decide_eq_true (message.printed byte inside).1
  rw [cString_eq, List.take_of_length_le all, bytes, List.takeWhile_append_of_pos nonzero,
    rdropWhile_append_ends message.ends, trim_append, trim_printed message.printed]
  congr 1
  by_cases room : message.text.length < 50
  · obtain ⟨free, positive⟩ : ∃ free, 50 - message.text.length = free + 1 :=
      ⟨49 - message.text.length, by omega⟩
    rw [if_pos room, positive]
    rfl
  · have full : 50 - message.text.length = 0 := by omega
    rw [if_neg room, full]
    rfl

theorem decode_payload : decodeStatustext message.payload = message.line ↔
    message.text.length < 50 ∨ message.ExtensionTrimmed := by
  have severity : readLe 1 message.payload 0 = message.severity.toNat := by
    rw [readLe, if_pos (by simp [payload])]
    exact Nat.add_zero _
  have long : message.payload.length > 51 := by
    have short := message.short
    simp only [payload, extension, List.length_append, List.length_replicate, List.length_cons,
      List.length_nil]
    omega
  unfold decodeStatustext line
  rw [severity, if_pos long, text_read]
  by_cases short : message.text.length < 50
  · rw [if_pos short, List.append_nil]
    simp [short]
  · have filled : message.text ≠ [] := by
      rintro empty
      rw [empty] at short
      exact short (by decide)
    have unread : message.text ++ trimPayloadString ((message.extension.takeWhile
        (· ≠ 0)).rdropWhile (· = 32)) ≠ [] := fun empty => filled (List.append_eq_nil_iff.1 empty).1
    rw [if_neg short, ExtensionTrimmed, ← trim_eq_nil]
    dsimp only
    rw [if_pos unread, if_neg filled]
    simp [short]

end StatusText

/-- Whatever zeros at the end of the payload were sent, a text is shown as it is exactly
when it leaves room in its field or the fields behind it are trimmed away. -/
theorem text_shown_iff (sysid compid : UInt8) (message : StatusText)
    (whole : message.payload = kept ++ List.replicate zeros 0) :
    decodeFrame ⟨sysid, compid, 253, kept⟩ = message.line ↔
      message.text.length < 50 ∨ message.ExtensionTrimmed := by
  rw [← message.decode_payload, whole, statustext_same]
  rfl

/-- A text that leaves room in its field. -/
def takeoff : StatusText where
  severity := 6
  text := ascii "Takeoff"
  id := 0
  chunkSeq := 0
  short := by decide +kernel
  printed := by decide +kernel
  ends := by decide +kernel

theorem short_text_shown :
    decodeFrame ⟨1, 1, 253, 6 :: ascii "Takeoff"⟩ = takeoff.line :=
  (text_shown_iff 1 1 takeoff
    (show takeoff.payload = (6 :: ascii "Takeoff") ++ List.replicate 46 0 from rfl)).2
    (.inl (by decide +kernel))

/-- The first part of a long text, with the number 65 of the text. -/
def firstPart : StatusText where
  severity := 4
  text := List.replicate 50 46
  id := 65
  chunkSeq := 0
  short := by decide +kernel
  printed := by
    intro byte dot
    rw [(List.mem_replicate.1 dot).2]
    decide
  ends := by decide +kernel

theorem number_shown_as_text :
    decodeFrame ⟨1, 1, 253, firstPart.payload⟩ ≠ firstPart.line ∧
      decodeFrame ⟨1, 1, 253, firstPart.payload⟩ =
        some (ascii "mav message [4] " ++ List.replicate 50 46 ++ [65]) := by
  decide +kernel

end Glide.StatusTexts
