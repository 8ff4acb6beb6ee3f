import Mathlib.Data.Int.Notation
import Mathlib.Data.List.Basic

/-! Byte strings and the big-endian integers stored in them. -/
namespace AnselmGateway.Foundation

abbrev Bytes := List UInt8

/-- The bytes of a text. -/
def utf8 (text : String) : Bytes := text.toUTF8.data.toList

/-- `unicode.IsSpace`. -/
def isSpace (char : Char) : Bool :=
  let code := char.toNat
  (decide (9 ≤ code) && decide (code ≤ 13)) || code == 32 || code == 0x85 || code == 0xA0 ||
    code == 0x1680 || (decide (0x2000 ≤ code) && decide (code ≤ 0x200A)) || code == 0x2028 ||
    code == 0x2029 || code == 0x202F || code == 0x205F || code == 0x3000

/-- A text that `strings.TrimSpace` leaves empty. -/
def blank (text : String) : Bool := text.toList.all isSpace

/-- `strings.TrimSpace`. -/
def trimSpace (text : String) : String :=
  String.ofList ((text.toList.dropWhile isSpace).reverse.dropWhile isSpace).reverse

/-- `strings.ToLower`, over what `unicode.ToLower` makes of a rune beyond ASCII. -/
def toLower (beyond : Char → Char) (text : String) : String :=
  String.ofList (text.toList.map fun char => if char.toNat < 0x80 then char.toLower else beyond char)

/-- The ASCII letter that simple folding takes a rune to, where there is one. -/
def foldRune (char : Char) : Char :=
  if 'A' ≤ char ∧ char ≤ 'Z' then Char.ofNat (char.toNat + 32)
  else if char.toNat = 0x17F then 's'
  else if char.toNat = 0x212A then 'k'
  else char

/-- `strings.EqualFold` with a word of ASCII. -/
def equalFold (text word : String) : Bool := text.toList.map foldRune == word.toList.map foldRune

/-- The unsigned big-endian value of a byte string. -/
def bigEndian (bytes : Bytes) : ℕ := bytes.foldl (fun value byte => value * 256 + byte.toNat) 0

/-- The signed 64-bit value eight big-endian bytes stand for. -/
def int64BigEndian (bytes : Bytes) : ℤ := (Int64.ofNat (bigEndian bytes)).toInt

/-- `dropCR` of `bufio`, and `bytes.TrimSuffix` of a carriage return. -/
def dropCR (line : Bytes) : Bytes := if line.getLast? = some 0x0D then line.dropLast else line

/-- `strings.Split` at one separator byte. -/
def splitAtByte (separator : UInt8) : Bytes → List Bytes
  | [] => [[]]
  | byte :: rest =>
    if byte = separator then [] :: splitAtByte separator rest
    else
      match splitAtByte separator rest with
      | [] => [[byte]]
      | part :: parts => (byte :: part) :: parts

theorem splitAtByte_free {separator : UInt8} {s : Bytes} (free : separator ∉ s) : splitAtByte separator s = [s] := by
  induction s with
  | nil => rfl
  | cons c rest ih =>
    obtain ⟨here, others⟩ := not_or.mp (fun member => free (List.mem_cons.mpr member))
    rw [splitAtByte, if_neg (Ne.symm here), ih others]

end AnselmGateway.Foundation
