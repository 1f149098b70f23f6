import Glide.RtpPackets

/-! The JPEG file around the scan data of an RTP payload: the quantiser and
Huffman tables and the header that precede it. -/
namespace Glide.RtpJpeg
open RtpPackets

def jpegLumaQuantizer : List UInt8 := [
  16, 11, 10, 16, 24, 40, 51, 61, 12, 12, 14, 19, 26, 58, 60, 55,
  14, 13, 16, 24, 40, 57, 69, 56, 14, 17, 22, 29, 51, 87, 80, 62,
  18, 22, 37, 56, 68, 109, 103, 77, 24, 35, 55, 64, 81, 104, 113, 92,
  49, 64, 78, 87, 103, 121, 120, 101, 72, 92, 95, 98, 112, 100, 103, 99]

def jpegChromaQuantizer : List UInt8 := [
  17, 18, 24, 47, 99, 99, 99, 99, 18, 21, 26, 66, 99, 99, 99, 99,
  24, 26, 56, 99, 99, 99, 99, 99, 47, 66, 99, 99, 99, 99, 99, 99,
  99, 99, 99, 99, 99, 99, 99, 99, 99, 99, 99, 99, 99, 99, 99, 99,
  99, 99, 99, 99, 99, 99, 99, 99, 99, 99, 99, 99, 99, 99, 99, 99]

def jpegHuffmanLumaDc : List UInt8 := [
  0x00, 0x01, 0x05, 0x01, 0x01, 0x01, 0x01, 0x01, 0x01, 0x00, 0x00, 0x00, 0x00, 0x00,
  0x00, 0x00, 0x00, 0x01, 0x02, 0x03, 0x04, 0x05, 0x06, 0x07, 0x08, 0x09, 0x0a, 0x0b]

def jpegHuffmanChromaDc : List UInt8 := [
  0x00, 0x03, 0x01, 0x01, 0x01, 0x01, 0x01, 0x01, 0x01, 0x01, 0x01, 0x00, 0x00, 0x00,
  0x00, 0x00, 0x00, 0x01, 0x02, 0x03, 0x04, 0x05, 0x06, 0x07, 0x08, 0x09, 0x0a, 0x0b]

def jpegHuffmanLumaAc : List UInt8 := [
  0x00, 0x02, 0x01, 0x03, 0x03, 0x02, 0x04, 0x03, 0x05, 0x05, 0x04, 0x04, 0x00, 0x00,
  0x01, 0x7d, 0x01, 0x02, 0x03, 0x00, 0x04, 0x11, 0x05, 0x12, 0x21, 0x31, 0x41, 0x06,
  0x13, 0x51, 0x61, 0x07, 0x22, 0x71, 0x14, 0x32, 0x81, 0x91, 0xa1, 0x08, 0x23, 0x42,
  0xb1, 0xc1, 0x15, 0x52, 0xd1, 0xf0, 0x24, 0x33, 0x62, 0x72, 0x82, 0x09, 0x0a, 0x16,
  0x17, 0x18, 0x19, 0x1a, 0x25, 0x26, 0x27, 0x28, 0x29, 0x2a, 0x34, 0x35, 0x36, 0x37,
  0x38, 0x39, 0x3a, 0x43, 0x44, 0x45, 0x46, 0x47, 0x48, 0x49, 0x4a, 0x53, 0x54, 0x55,
  0x56, 0x57, 0x58, 0x59, 0x5a, 0x63, 0x64, 0x65, 0x66, 0x67, 0x68, 0x69, 0x6a, 0x73,
  0x74, 0x75, 0x76, 0x77, 0x78, 0x79, 0x7a, 0x83, 0x84, 0x85, 0x86, 0x87, 0x88, 0x89,
  0x8a, 0x92, 0x93, 0x94, 0x95, 0x96, 0x97, 0x98, 0x99, 0x9a, 0xa2, 0xa3, 0xa4, 0xa5,
  0xa6, 0xa7, 0xa8, 0xa9, 0xaa, 0xb2, 0xb3, 0xb4, 0xb5, 0xb6, 0xb7, 0xb8, 0xb9, 0xba,
  0xc2, 0xc3, 0xc4, 0xc5, 0xc6, 0xc7, 0xc8, 0xc9, 0xca, 0xd2, 0xd3, 0xd4, 0xd5, 0xd6,
  0xd7, 0xd8, 0xd9, 0xda, 0xe1, 0xe2, 0xe3, 0xe4, 0xe5, 0xe6, 0xe7, 0xe8, 0xe9, 0xea,
  0xf1, 0xf2, 0xf3, 0xf4, 0xf5, 0xf6, 0xf7, 0xf8, 0xf9, 0xfa]

def jpegHuffmanChromaAc : List UInt8 := [
  0x00, 0x02, 0x01, 0x02, 0x04, 0x04, 0x03, 0x04, 0x07, 0x05, 0x04, 0x04, 0x00, 0x01,
  0x02, 0x77, 0x00, 0x01, 0x02, 0x03, 0x11, 0x04, 0x05, 0x21, 0x31, 0x06, 0x12, 0x41,
  0x51, 0x07, 0x61, 0x71, 0x13, 0x22, 0x32, 0x81, 0x08, 0x14, 0x42, 0x91, 0xa1, 0xb1,
  0xc1, 0x09, 0x23, 0x33, 0x52, 0xf0, 0x15, 0x62, 0x72, 0xd1, 0x0a, 0x16, 0x24, 0x34,
  0xe1, 0x25, 0xf1, 0x17, 0x18, 0x19, 0x1a, 0x26, 0x27, 0x28, 0x29, 0x2a, 0x35, 0x36,
  0x37, 0x38, 0x39, 0x3a, 0x43, 0x44, 0x45, 0x46, 0x47, 0x48, 0x49, 0x4a, 0x53, 0x54,
  0x55, 0x56, 0x57, 0x58, 0x59, 0x5a, 0x63, 0x64, 0x65, 0x66, 0x67, 0x68, 0x69, 0x6a,
  0x73, 0x74, 0x75, 0x76, 0x77, 0x78, 0x79, 0x7a, 0x82, 0x83, 0x84, 0x85, 0x86, 0x87,
  0x88, 0x89, 0x8a, 0x92, 0x93, 0x94, 0x95, 0x96, 0x97, 0x98, 0x99, 0x9a, 0xa2, 0xa3,
  0xa4, 0xa5, 0xa6, 0xa7, 0xa8, 0xa9, 0xaa, 0xb2, 0xb3, 0xb4, 0xb5, 0xb6, 0xb7, 0xb8,
  0xb9, 0xba, 0xc2, 0xc3, 0xc4, 0xc5, 0xc6, 0xc7, 0xc8, 0xc9, 0xca, 0xd2, 0xd3, 0xd4,
  0xd5, 0xd6, 0xd7, 0xd8, 0xd9, 0xda, 0xe2, 0xe3, 0xe4, 0xe5, 0xe6, 0xe7, 0xe8, 0xe9,
  0xea, 0xf2, 0xf3, 0xf4, 0xf5, 0xf6, 0xf7, 0xf8, 0xf9, 0xfa]

/-- The quality sets one scale for all entries of a table. -/
def jpegQuantTable (q : UInt8) (quantizer : List UInt8) : List UInt8 :=
  let factor := max 1 (min q.toNat 99)
  let scale := if factor < 50 then 5000 / factor else 200 - factor * 2
  quantizer.map fun entry => UInt8.ofNat (max 1 (min ((entry.toNat * scale + 50) / 100) 255))

def makeJpegQuantTables (q : UInt8) : List UInt8 × List UInt8 :=
  (jpegQuantTable q jpegLumaQuantizer, jpegQuantTable q jpegChromaQuantizer)

def jpegMarker (marker : UInt8) : List UInt8 := [0xff, marker]

def quantHeader (table : List UInt8) (tableId : UInt8) : List UInt8 :=
  jpegMarker 0xdb ++ bytesU16 67 ++ [tableId] ++ table

def huffmanHeader (table : List UInt8) (tableId tableClass : UInt8) : List UInt8 :=
  jpegMarker 0xc4 ++ bytesU16 (3 + table.length) ++ [(tableClass <<< 4) ||| tableId] ++ table

def jfifHeader : List UInt8 :=
  jpegMarker 0xe0 ++ bytesU16 16 ++
    [0x4a, 0x46, 0x49, 0x46, 0x00, 0x01, 0x01, 0x00, 0x00, 0x01, 0x00, 0x01, 0x00, 0x00]

def restartHeader (restartInterval : Nat) : List UInt8 :=
  if restartInterval ≠ 0 then jpegMarker 0xdd ++ bytesU16 4 ++ bytesU16 restartInterval else []

/-- Three components; the first one's sampling depends on the type. -/
def startOfFrame (type : UInt8) (width height : Nat) : List UInt8 :=
  jpegMarker 0xc0 ++ bytesU16 17 ++ [8] ++ bytesU16 height ++ bytesU16 width ++
    [3, 1, if type = 0 then 0x21 else 0x22, 0, 2, 0x11, 1, 3, 0x11, 1]

def startOfScan : List UInt8 :=
  jpegMarker 0xda ++ bytesU16 12 ++ [3, 1, 0, 2, 0x11, 3, 0x11, 0, 63, 0]

/-- `append_jpeg_header` -/
def jpegHeader (type : UInt8) (width height : Nat) (luma chroma : List UInt8)
    (restartInterval : Nat) : List UInt8 :=
  jpegMarker 0xd8 ++ jfifHeader ++ quantHeader luma 0 ++ quantHeader chroma 1 ++
    restartHeader restartInterval ++ startOfFrame type width height ++
    huffmanHeader jpegHuffmanLumaDc 0 0 ++ huffmanHeader jpegHuffmanLumaAc 0 1 ++
    huffmanHeader jpegHuffmanChromaDc 1 0 ++ huffmanHeader jpegHuffmanChromaAc 1 1 ++ startOfScan

/-- A scaled table has no entry of zero and as many entries as the one it is made from. -/
theorem jpegQuantTable_entries (q : UInt8) (quantizer : List UInt8) :
    (jpegQuantTable q quantizer).length = quantizer.length ∧
      ∀ entry ∈ jpegQuantTable q quantizer, entry ≠ 0 := by
  refine ⟨List.length_map _, ?_⟩
  intro entry inside zero
  obtain ⟨given, -, scaled⟩ := List.mem_map.1 inside
  have value := congrArg UInt8.toNat (scaled.trans zero)
  rw [UInt8.toNat_ofNat', Nat.mod_eq_of_lt (by omega)] at value
  exact absurd value (by simp)

end Glide.RtpJpeg
