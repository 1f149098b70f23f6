import Glide.Library.StringConversions

/-! The theme colors, which the programs share through the files that their keys name. -/
namespace Glide.PreviewControl
open Library AsciiText NumberText StringConversions

/-- The text of each file, empty where there is none, and which files can be written. -/
structure ThemeFiles where
  /-- The file that the system finds under a path; several paths may lead to one file. -/
  resolve : List UInt8 → List UInt8 := id
  content : List UInt8 → List UInt8 := fun _ => []
  writable : List UInt8 → Bool := fun _ => true

/-- The last part of the path; a key may be any text without a blank. -/
def themeColorPath (key : List UInt8) : List UInt8 :=
  ascii "openhd-glide-theme-" ++ key ++ ascii ".rgb"

/-- The file of a key. The system gets the path as a C string, which ends at the first NUL. -/
def ThemeFiles.file (files : ThemeFiles) (key : List UInt8) : List UInt8 :=
  files.resolve ((themeColorPath key).takeWhile (· ≠ 0))

def defaultThemeColor (key : List UInt8) : UInt32 :=
  if key = ascii "bar_text" then 0xebf5ff
  else if key = ascii "bar_background" then 0x0e1318
  else if key = ascii "primary" then 0x99ffb8
  else if key = ascii "secondary" then 0x55a8ff
  else 0xffffff

/-- Text that does not write a color is not converted. -/
def themeColor (platform : Platform) (files : ThemeFiles) (key : List UInt8) :
    Except CppException UInt32 :=
  let (value, _) := nextWord (files.content (files.file key))
  if value.length = 6 ∧ value.all isHexDigit then do
    return UInt32.ofNat (← stoulHex platform value)
  else return defaultThemeColor key

def rgbHex (rgb : UInt32) : List UInt8 := hexDigits 6 (rgb &&& 0xffffff).toNat

def setThemeColor (files : ThemeFiles) (key : List UInt8) (rgb : UInt32) : ThemeFiles :=
  if files.writable (files.file key) then
    { files with content := Function.update files.content (files.file key) (rgbHex rgb ++ [10]) }
  else files

/-- The color that the text of a key's file tells. -/
def colorOf (key text : List UInt8) : UInt32 :=
  let value := (nextWord text).1
  if value.length = 6 ∧ value.all isHexDigit then UInt32.ofNat (hexValue value)
  else defaultThemeColor key

def shownColor (files : ThemeFiles) (key : List UInt8) : UInt32 :=
  colorOf key (files.content (files.file key))

/-- The check makes the conversion safe. -/
theorem themeColor_eq (long : 24 ≤ platform.longBits) (files : ThemeFiles) (key : List UInt8) :
    themeColor platform files key = .ok (shownColor files key) := by
  unfold themeColor shownColor colorOf
  dsimp only
  split
  · rename_i color
    rw [stoulHex_digits platform (List.ne_nil_of_length_pos (by omega)) color.2 (by omega)]
    rfl
  · rfl

private theorem word_of_line (digits : ∀ byte ∈ text, isHexDigit byte = true) (written : text ≠ []) :
    (nextWord (text ++ [10])).1 = text := by
  obtain ⟨first, rest, rfl⟩ := List.exists_cons_of_ne_nil written
  have plain : ∀ byte ∈ first :: rest, (!isSpace byte) = true := by
    intro byte member
    simp [(hexDigit_plain (digits byte member)).1]
  have front : (first :: rest ++ [10]).dropWhile isSpace = first :: rest ++ [10] :=
    List.dropWhile_cons_of_neg (by simpa using plain first (List.mem_cons_self ..))
  unfold nextWord
  simp only [front]
  rw [List.takeWhile_append_of_pos plain]
  simp [isSpace]

theorem colorOf_rgbHex (key : List UInt8) (rgb : UInt32) :
    colorOf key (rgbHex rgb ++ [10]) = rgb &&& 0xffffff := by
  have digits := hexDigits_digits 6 (rgb &&& 0xffffff).toNat
  have word : (nextWord (rgbHex rgb ++ [10])).1 = rgbHex rgb :=
    word_of_line (List.all_eq_true.mp digits) (List.ne_nil_of_length_pos (by simp [rgbHex]))
  have small : (rgb &&& 0xffffff).toNat < 16 ^ 6 := by
    rw [UInt32.toNat_and]
    exact Nat.lt_of_le_of_lt Nat.and_le_right (by decide)
  rw [colorOf, word, if_pos ⟨by simp [rgbHex], digits⟩, rgbHex, hexValue_hexDigits,
    Nat.mod_eq_of_lt small, UInt32.ofNat_toNat]

theorem file_setThemeColor (files : ThemeFiles) (key : List UInt8) (rgb : UInt32)
    (other : List UInt8) : (setThemeColor files key rgb).file other = files.file other := by
  unfold setThemeColor
  split <;> rfl

/-- A color that could be written is shown, less its upper byte, for every key that names the
file; the other keys keep theirs. -/
theorem shownColor_setThemeColor (files : ThemeFiles) (key : List UInt8) (rgb : UInt32) :
    shownColor (setThemeColor files key rgb) =
      if files.writable (files.file key) then fun other =>
        if files.file other = files.file key then rgb &&& 0xffffff else shownColor files other
      else shownColor files := by
  funext other
  have named := file_setThemeColor files key rgb other
  rw [shownColor, named]
  unfold setThemeColor
  split
  · dsimp only
    by_cases same : files.file other = files.file key
    · rw [if_pos same, same, Function.update_self, colorOf_rgbHex]
    · rw [if_neg same, Function.update_of_ne same]
      rfl
  · rfl

/-- The layout that the text of its file tells. -/
def osdLayout (text : List UInt8) : List UInt8 :=
  let (value, _) := nextWord text
  if value = ascii "rocket" ∨ value = ascii "rover" ∨ value = ascii "ship" then value
  else ascii "drone"

/-- The four keys the programs know. -/
def themeKeys : List (List UInt8) :=
  [ascii "bar_text", ascii "bar_background", ascii "primary", ascii "secondary"]

/-- The key and the value behind a theme command, if a blank separates them. -/
def keyAndValue (rest : List UInt8) : Option (List UInt8 × List UInt8) :=
  match rest.dropWhile (· ≠ 32) with
  | [] => none
  | _ :: value => some (rest.takeWhile (· ≠ 32), value)

end Glide.PreviewControl
