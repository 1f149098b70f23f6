import Mathlib.Data.List.Basic
import Mathlib.Tactic.Ring

/-! RTP packets. `parseRtpPacket` is the head that every decoder's
`handle_rtp_packet` starts with; `rtpBytes` writes a packet with any contributing
sources, header extension and padding. -/
namespace Glide.RtpPackets

/-- The byte at an index. The decoders compare the index with the size first. -/
def byteAt (bytes : List UInt8) (index : Nat) : UInt8 := bytes.getD index 0

def fieldU16 (bytes : List UInt8) (offset : Nat) : Nat :=
  (byteAt bytes offset).toNat * 256 + (byteAt bytes (offset + 1)).toNat

def fieldU32 (bytes : List UInt8) (offset : Nat) : Nat :=
  fieldU16 bytes offset * 65536 + fieldU16 bytes (offset + 2)

/-- What is left of a datagram once its header is read. -/
structure RtpPacket where
  marker : Bool
  sequence : UInt16
  timestamp : UInt32
  payload : List UInt8
  deriving DecidableEq, Repr

/-- The offset of the payload, unless the datagram ends before it. -/
def payloadOffset (packet : List UInt8) : Option Nat :=
  let offset := 12 + (byteAt packet 0 &&& 0x0F).toNat * 4
  if offset > packet.length then none
  else if byteAt packet 0 &&& 0x10 = 0 then some offset
  else if offset + 4 > packet.length then none
  else
    let offset := offset + (4 + fieldU16 packet (offset + 2) * 4)
    if offset > packet.length then none else some offset

/-- The size of the payload. A padding count that exceeds it is not believed. -/
def payloadSize (packet : List UInt8) (offset : Nat) : Nat :=
  let size := packet.length - offset
  let padding := (byteAt packet (packet.length - 1)).toNat
  if byteAt packet 0 &&& 0x20 ≠ 0 ∧ size > 0 ∧ padding ≤ size then size - padding else size

/-- Datagrams that are no RTP packet, are cut short or carry no payload are ignored. -/
def parseRtpPacket (packet : List UInt8) : Option RtpPacket :=
  if packet.length < 12 ∨ byteAt packet 0 >>> 6 ≠ 2 then none
  else
    match payloadOffset packet with
    | none => none
    | some offset =>
      let size := payloadSize packet offset
      if size = 0 then none
      else some {
        marker := byteAt packet 1 &&& 0x80 ≠ 0
        sequence := UInt16.ofNat (fieldU16 packet 2)
        timestamp := UInt32.ofNat (fieldU32 packet 4)
        payload := (packet.drop offset).take size }

/-! ### Packets as a sender writes them -/

def bytesU16 (value : Nat) : List UInt8 := [UInt8.ofNat (value / 256), UInt8.ofNat value]

def bytesU32 (value : Nat) : List UInt8 := bytesU16 (value / 65536) ++ bytesU16 value

/-- The parts of a header that do not concern the decoders. `padding` is what
stands before the count byte. -/
structure HeaderOptions where
  payloadType : Fin 128 := 96
  source : UInt32 := 0
  contributors : List UInt32 := []
  extension : Option (UInt16 × List UInt32) := none
  padding : Option (List UInt8) := none
  contributors_le : contributors.length ≤ 15 := by decide
  extension_le : ∀ profile words, extension = some (profile, words) → words.length ≤ 65535 := by
    simp
  padding_le : ∀ filler, padding = some filler → filler.length ≤ 254 := by simp

namespace HeaderOptions

/-- A header of the fixed twelve bytes alone. -/
def plain : HeaderOptions := {}

def firstByte (options : HeaderOptions) : UInt8 :=
  UInt8.ofNat (128 + (if options.padding.isSome then 32 else 0) +
    (if options.extension.isSome then 16 else 0) + options.contributors.length)

def contributorBytes (options : HeaderOptions) : List UInt8 :=
  options.contributors.flatMap fun contributor => bytesU32 contributor.toNat

def extensionBytes (options : HeaderOptions) : List UInt8 :=
  match options.extension with
  | none => []
  | some (profile, words) =>
    bytesU16 profile.toNat ++ bytesU16 words.length ++ words.flatMap fun word => bytesU32 word.toNat

def paddingBytes (options : HeaderOptions) : List UInt8 :=
  match options.padding with
  | none => []
  | some filler => filler ++ [UInt8.ofNat (filler.length + 1)]

end HeaderOptions

/-- The fixed twelve bytes of the header. -/
def fixedHeader (options : HeaderOptions) (packet : RtpPacket) : List UInt8 :=
  [options.firstByte, UInt8.ofNat ((if packet.marker then 128 else 0) + options.payloadType.val)] ++
    bytesU16 packet.sequence.toNat ++ bytesU32 packet.timestamp.toNat ++
    bytesU32 options.source.toNat

def rtpBytes (options : HeaderOptions) (packet : RtpPacket) : List UInt8 :=
  fixedHeader options packet ++ (options.contributorBytes ++ (options.extensionBytes ++
    (packet.payload ++ options.paddingBytes)))

/-! ### Fields are read back -/

@[simp] theorem length_bytesU16 : (bytesU16 value).length = 2 := rfl

@[simp] theorem length_bytesU32 : (bytesU32 value).length = 4 := rfl

@[simp] theorem length_fixedHeader : (fixedHeader options packet).length = 12 := rfl

theorem length_words (words : List UInt32) :
    (words.flatMap fun word => bytesU32 word.toNat).length = words.length * 4 := by
  induction words with
  | nil => rfl
  | cons word rest ih =>
    rw [List.flatMap_cons, List.length_append, ih, length_bytesU32, List.length_cons]
    omega

theorem byteAt_append (front rest : List UInt8) (byte : UInt8) :
    byteAt (front ++ byte :: rest) front.length = byte := by
  simp [byteAt]

/-- A byte inside the front part does not depend on what follows it. -/
theorem byteAt_front {front : List UInt8} (inside : index < front.length) :
    byteAt (front ++ rest) index = byteAt front index := by
  simp [byteAt, List.getElem?_append_left inside]

theorem fieldU16_append (front rest : List UInt8) (value : Nat) (fits : value < 65536) :
    fieldU16 (front ++ (bytesU16 value ++ rest)) front.length = value := by
  have high : byteAt (front ++ (bytesU16 value ++ rest)) front.length = UInt8.ofNat (value / 256) :=
    byteAt_append front _ _
  have low : byteAt (front ++ (bytesU16 value ++ rest)) (front.length + 1) = UInt8.ofNat value := by
    have := byteAt_append (front ++ [UInt8.ofNat (value / 256)]) rest (UInt8.ofNat value)
    simpa [bytesU16] using this
  rw [fieldU16, high, low, UInt8.toNat_ofNat', UInt8.toNat_ofNat']
  omega

theorem fieldU32_append (front rest : List UInt8) (value : Nat) (fits : value < 2 ^ 32) :
    fieldU32 (front ++ (bytesU32 value ++ rest)) front.length = value := by
  have high := fieldU16_append front (bytesU16 value ++ rest) (value / 65536) (by omega)
  have low := fieldU16_append (front ++ bytesU16 (value / 65536)) rest (value % 65536) (by omega)
  have same : bytesU16 (value % 65536) = bytesU16 value := by
    simp only [bytesU16, List.cons.injEq, and_true]
    constructor <;> rw [← UInt8.toNat_inj, UInt8.toNat_ofNat', UInt8.toNat_ofNat'] <;> omega
  rw [same, List.length_append, length_bytesU16, List.append_assoc] at low
  rw [fieldU32, bytesU32, List.append_assoc, high, low]
  omega

/-- The flags and the count of the first byte are read back. -/
theorem firstByte_fields (options : HeaderOptions) :
    options.firstByte >>> 6 = 2 ∧ (options.firstByte &&& 0x0F).toNat = options.contributors.length ∧
    (options.firstByte &&& 0x10 = 0 ↔ options.extension = none) ∧
    (options.firstByte &&& 0x20 = 0 ↔ options.padding = none) := by
  have fields : ∀ (padding extension : Bool) (count : Fin 16),
      let byte := UInt8.ofNat (128 + (if padding then 32 else 0) +
        (if extension then 16 else 0) + count.val)
      byte >>> 6 = 2 ∧ (byte &&& 0x0F).toNat = count.val ∧
        (byte &&& 0x10 = 0 ↔ extension = false) ∧ (byte &&& 0x20 = 0 ↔ padding = false) := by
    decide
  have counted : options.contributors.length < 16 := Nat.lt_succ_of_le options.contributors_le
  obtain ⟨version, count, extended, padded⟩ := fields options.padding.isSome
    options.extension.isSome ⟨options.contributors.length, counted⟩
  exact ⟨version, count, extended.trans (by simp), padded.trans (by simp)⟩

theorem marker_field (options : HeaderOptions) (packet : RtpPacket) :
    decide (byteAt (fixedHeader options packet) 1 &&& 0x80 ≠ 0) = packet.marker := by
  have field : ∀ (marker : Bool) (kind : Fin 128),
      decide (UInt8.ofNat ((if marker then 128 else 0) + kind.val) &&& 0x80 ≠ 0) = marker := by
    decide +kernel
  exact field packet.marker options.payloadType

theorem sequence_field (options : HeaderOptions) (packet : RtpPacket) :
    UInt16.ofNat (fieldU16 (fixedHeader options packet) 2) = packet.sequence := by
  have read := fieldU16_append [options.firstByte,
      UInt8.ofNat ((if packet.marker then 128 else 0) + options.payloadType.val)]
    (bytesU32 packet.timestamp.toNat ++ bytesU32 options.source.toNat) _ packet.sequence.toNat_lt
  rw [fixedHeader, List.append_assoc, List.append_assoc]
  exact (congrArg UInt16.ofNat read).trans (UInt16.ofNat_toNat)

theorem timestamp_field (options : HeaderOptions) (packet : RtpPacket) :
    UInt32.ofNat (fieldU32 (fixedHeader options packet) 4) = packet.timestamp := by
  have read := fieldU32_append ([options.firstByte,
      UInt8.ofNat ((if packet.marker then 128 else 0) + options.payloadType.val)] ++
      bytesU16 packet.sequence.toNat) (bytesU32 options.source.toNat) _ packet.timestamp.toNat_lt
  rw [fixedHeader, List.append_assoc]
  exact (congrArg UInt32.ofNat read).trans (UInt32.ofNat_toNat)

/-! ### The round trip -/

theorem payloadOffset_rtpBytes (options : HeaderOptions) (packet : RtpPacket) :
    payloadOffset (rtpBytes options packet) =
      some (12 + options.contributorBytes.length + options.extensionBytes.length) := by
  obtain ⟨-, count, extended, -⟩ := firstByte_fields options
  have first : byteAt (rtpBytes options packet) 0 = options.firstByte := rfl
  have contributors : options.contributorBytes.length = options.contributors.length * 4 :=
    length_words options.contributors
  have size : (rtpBytes options packet).length = 12 + (options.contributorBytes.length +
      (options.extensionBytes.length + (packet.payload.length + options.paddingBytes.length))) := by
    simp [rtpBytes]
  rw [payloadOffset, first, count, ← contributors]
  dsimp only
  rw [if_neg (by omega)]
  cases given : options.extension with
  | none =>
    have absent : options.extensionBytes = [] := by rw [HeaderOptions.extensionBytes, given]
    rw [if_pos (extended.2 given), absent, List.length_nil, Nat.add_zero]
  | some extension =>
    obtain ⟨profile, words⟩ := extension
    have bytes : options.extensionBytes = bytesU16 profile.toNat ++ (bytesU16 words.length ++
        words.flatMap fun word => bytesU32 word.toNat) := by
      simp only [HeaderOptions.extensionBytes, given, List.append_assoc]
    have length : options.extensionBytes.length = 4 + words.length * 4 := by
      rw [bytes, List.length_append, List.length_append, length_words, length_bytesU16,
        length_bytesU16]
      omega
    have read : fieldU16 (rtpBytes options packet) (12 + options.contributorBytes.length + 2) =
        words.length := by
      have := fieldU16_append (fixedHeader options packet ++ options.contributorBytes ++
          bytesU16 profile.toNat) ((words.flatMap fun word => bytesU32 word.toNat) ++
          (packet.payload ++ options.paddingBytes))
        _ (Nat.lt_succ_of_le (options.extension_le profile words given))
      simpa [rtpBytes, bytes, Nat.add_assoc] using this
    rw [if_neg (by simp [extended, given]), if_neg (by omega), read, if_neg (by omega), length]

theorem payloadSize_rtpBytes (options : HeaderOptions) (packet : RtpPacket) :
    payloadSize (rtpBytes options packet)
        (12 + options.contributorBytes.length + options.extensionBytes.length) =
      packet.payload.length := by
  obtain ⟨-, -, -, padded⟩ := firstByte_fields options
  have first : byteAt (rtpBytes options packet) 0 = options.firstByte := rfl
  have size : (rtpBytes options packet).length = 12 + (options.contributorBytes.length +
      (options.extensionBytes.length + (packet.payload.length + options.paddingBytes.length))) := by
    simp [rtpBytes]
  rw [payloadSize, first]
  cases given : options.padding with
  | none =>
    have absent : options.paddingBytes.length = 0 := by rw [HeaderOptions.paddingBytes, given]; rfl
    rw [if_neg (by simp [padded, given])]
    omega
  | some filler =>
    have bytes : options.paddingBytes = filler ++ [UInt8.ofNat (filler.length + 1)] := by
      rw [HeaderOptions.paddingBytes, given]
    have length : options.paddingBytes.length = filler.length + 1 := by rw [bytes]; simp
    have bound := options.padding_le filler given
    have last : (byteAt (rtpBytes options packet) ((rtpBytes options packet).length - 1)).toNat =
        filler.length + 1 := by
      have read := byteAt_append (fixedHeader options packet ++ (options.contributorBytes ++
        (options.extensionBytes ++ (packet.payload ++ filler)))) []
        (UInt8.ofNat (filler.length + 1))
      have count : (UInt8.ofNat (filler.length + 1)).toNat = filler.length + 1 := by
        rw [UInt8.toNat_ofNat']
        omega
      rw [← count, ← read]
      congr 2
      · simp [rtpBytes, bytes]
      · simp [size, length]
        omega
    rw [last, if_pos ⟨by simp [padded, given], by omega, by omega⟩]
    omega

/-- Every decoder finds in the datagram what the sender put into the packet. -/
theorem parseRtpPacket_rtpBytes (options : HeaderOptions) (packet : RtpPacket)
    (filled : packet.payload ≠ []) :
    parseRtpPacket (rtpBytes options packet) = some packet := by
  obtain ⟨version, -, -, -⟩ := firstByte_fields options
  have first : byteAt (rtpBytes options packet) 0 = options.firstByte := rfl
  have long : ¬ (rtpBytes options packet).length < 12 := by simp [rtpBytes]
  have dropped : (rtpBytes options packet).drop
      (12 + options.contributorBytes.length + options.extensionBytes.length) =
      packet.payload ++ options.paddingBytes := by
    have : (fixedHeader options packet ++ (options.contributorBytes ++ options.extensionBytes) ++
        (packet.payload ++ options.paddingBytes)).drop
          (fixedHeader options packet ++ (options.contributorBytes ++
            options.extensionBytes)).length = packet.payload ++ options.paddingBytes :=
      List.drop_left
    simpa [rtpBytes, Nat.add_assoc] using this
  have taken : (packet.payload ++ options.paddingBytes).take packet.payload.length =
      packet.payload := List.take_left
  have some_payload : packet.payload.length ≠ 0 := fun empty => filled (List.length_eq_zero_iff.1 empty)
  have marker : byteAt (rtpBytes options packet) 1 = byteAt (fixedHeader options packet) 1 := rfl
  have sequence : fieldU16 (rtpBytes options packet) 2 = fieldU16 (fixedHeader options packet) 2 :=
    rfl
  have timestamp : fieldU32 (rtpBytes options packet) 4 = fieldU32 (fixedHeader options packet) 4 :=
    rfl
  rw [parseRtpPacket, first, version, if_neg (by simp [long]), payloadOffset_rtpBytes]
  dsimp only
  rw [payloadSize_rtpBytes options packet, if_neg some_payload, dropped, taken, marker,
    sequence, timestamp, marker_field, sequence_field, timestamp_field]

/-- A packet without a payload is ignored, with or without padding. -/
theorem parseRtpPacket_of_empty (options : HeaderOptions) {packet : RtpPacket}
    (empty : packet.payload = []) : parseRtpPacket (rtpBytes options packet) = none := by
  obtain ⟨version, -, -, -⟩ := firstByte_fields options
  have first : byteAt (rtpBytes options packet) 0 = options.firstByte := rfl
  have long : ¬ (rtpBytes options packet).length < 12 := by simp [rtpBytes]
  have nothing : packet.payload.length = 0 := by rw [empty, List.length_nil]
  rw [parseRtpPacket, first, version, if_neg (by simp [long]), payloadOffset_rtpBytes]
  dsimp only
  rw [payloadSize_rtpBytes, if_pos nothing]

end Glide.RtpPackets
