import AnselmGateway.Foundation.Bytes

/-! Unpadded URL-safe base64, as a lenient decoder reads it. Line breaks are
skipped and the spare bits of a last, shorter group are ignored, so decoding
inverts encoding but one byte string has many accepted spellings. -/
namespace AnselmGateway.Foundation.Base64

/-- The character of one six-bit digit. -/
def digitChar (digit : ℕ) : UInt8 :=
  if digit < 26 then UInt8.ofNat (65 + digit)
  else if digit < 52 then UInt8.ofNat (71 + digit)
  else if digit < 62 then UInt8.ofNat (digit - 4)
  else if digit = 62 then 45
  else 95

/-- The digit of one character; everything outside the alphabet has none. -/
def charDigit (char : UInt8) : Option ℕ :=
  if 65 ≤ char ∧ char ≤ 90 then some (char.toNat - 65)
  else if 97 ≤ char ∧ char ≤ 122 then some (char.toNat - 71)
  else if 48 ≤ char ∧ char ≤ 57 then some (char.toNat + 4)
  else if char = 45 then some 62
  else if char = 95 then some 63
  else none

/-- The digits of three bytes a group; a shorter last group keeps only the digits
its bits reach. -/
def encodeDigits : Bytes → List ℕ
  | a :: b :: c :: rest =>
    let group := a.toNat * 65536 + b.toNat * 256 + c.toNat
    group / 262144 :: group / 4096 % 64 :: group / 64 % 64 :: group % 64 :: encodeDigits rest
  | [a, b] =>
    let group := a.toNat * 65536 + b.toNat * 256
    [group / 262144, group / 4096 % 64, group / 64 % 64]
  | [a] => [a.toNat / 4, a.toNat % 4 * 16]
  | [] => []

/-- The encoder. -/
def encode (bytes : Bytes) : Bytes := (encodeDigits bytes).map digitChar

/-- Decode four digits a group. A last group of two or three digits gives one or
two bytes, whatever its spare bits are; a lone digit is corrupt. -/
def decodeDigits : List ℕ → Option Bytes
  | a :: b :: c :: d :: rest => do
    let group := a * 262144 + b * 4096 + c * 64 + d
    let bytes ← decodeDigits rest
    return UInt8.ofNat (group / 65536) :: UInt8.ofNat (group / 256) :: UInt8.ofNat group :: bytes
  | [a, b, c] =>
    let group := a * 262144 + b * 4096 + c * 64
    some [UInt8.ofNat (group / 65536), UInt8.ofNat (group / 256)]
  | [a, b] => some [UInt8.ofNat ((a * 262144 + b * 4096) / 65536)]
  | [_] => none
  | [] => some []

/-- The digits of a text, line breaks skipped. -/
def textDigits (text : Bytes) : Option (List ℕ) :=
  (text.filter fun char => char ≠ 10 && char ≠ 13).mapM charDigit

/-- The lenient decoder. -/
def decode (text : Bytes) : Option Bytes := (textDigits text).bind decodeDigits

/-- The one spelling an encoder writes. -/
def Canonical (text : Bytes) : Prop := ∀ bytes, decode text = some bytes → text = encode bytes

private theorem charDigit_digitChar (digit : Fin 64) :
    charDigit (digitChar digit) = some digit.val ∧ digitChar digit ≠ 10 ∧ digitChar digit ≠ 13 := by
  revert digit
  decide

private theorem textDigits_map {digits : List ℕ} (small : ∀ digit ∈ digits, digit < 64) :
    textDigits (digits.map digitChar) = some digits := by
  induction digits with
  | nil => rfl
  | cons digit rest ih =>
    obtain ⟨known, noFeed, noReturn⟩ := charDigit_digitChar ⟨digit, small digit List.mem_cons_self⟩
    simp only at known noFeed noReturn
    have tail := ih fun other member => small other (List.mem_cons_of_mem _ member)
    unfold textDigits at tail ⊢
    rw [List.map_cons, List.filter_cons_of_pos (by simp [noFeed, noReturn]), List.mapM_cons, known,
      tail]
    rfl

private theorem encodeDigits_small (bytes : Bytes) : ∀ digit ∈ encodeDigits bytes, digit < 64 := by
  induction bytes using encodeDigits.induct with
  | case1 a b c rest ih =>
    have aSmall := a.toNat_lt
    intro digit member
    simp only [encodeDigits, List.mem_cons] at member
    rcases member with rfl | rfl | rfl | rfl | inside
    · have bSmall := b.toNat_lt
      have cSmall := c.toNat_lt
      omega
    · omega
    · omega
    · omega
    · exact ih digit inside
  | case2 a b =>
    have aSmall := a.toNat_lt
    have bSmall := b.toNat_lt
    intro digit member
    simp only [encodeDigits, List.mem_cons, List.not_mem_nil, or_false] at member
    omega
  | case3 a =>
    have aSmall := a.toNat_lt
    intro digit member
    simp only [encodeDigits, List.mem_cons, List.not_mem_nil, or_false] at member
    omega
  | case4 => simp [encodeDigits]

/-- A byte is its value, up to whole turns. -/
theorem ofNat_byte (byte : UInt8) {value : ℕ} (same : value % 256 = byte.toNat) :
    UInt8.ofNat value = byte := by
  apply UInt8.toNat_inj.mp
  simpa using same

private theorem decodeDigits_encodeDigits (bytes : Bytes) :
    decodeDigits (encodeDigits bytes) = some bytes := by
  induction bytes using encodeDigits.induct with
  | case1 a b c rest ih =>
    have aSmall := a.toNat_lt
    have bSmall := b.toNat_lt
    have cSmall := c.toNat_lt
    simp only [encodeDigits, decodeDigits, ih, Option.bind_eq_bind, Option.bind_some,
      Option.pure_def]
    rw [ofNat_byte a (by omega), ofNat_byte b (by omega), ofNat_byte c (by omega)]
  | case2 a b =>
    have aSmall := a.toNat_lt
    have bSmall := b.toNat_lt
    simp only [encodeDigits, decodeDigits]
    rw [ofNat_byte a (by omega), ofNat_byte b (by omega)]
  | case3 a =>
    have aSmall := a.toNat_lt
    simp only [encodeDigits, decodeDigits]
    rw [ofNat_byte a (by omega)]
  | case4 => rfl

/-- Decoding inverts encoding. -/
theorem decode_encode (bytes : Bytes) : decode (encode bytes) = some bytes := by
  rw [decode, encode, textDigits_map (encodeDigits_small bytes), Option.bind_some,
    decodeDigits_encodeDigits]

/-- An encoder's own spelling is canonical. -/
theorem canonical_encode (bytes : Bytes) : Canonical (encode bytes) := by
  intro decoded read
  rw [decode_encode] at read
  cases read
  rfl

/-- Two canonical spellings of the same bytes are the same text. -/
theorem Canonical.unique {left right bytes : Bytes} (leftCanonical : Canonical left)
    (rightCanonical : Canonical right) (leftRead : decode left = some bytes)
    (rightRead : decode right = some bytes) : left = right :=
  (leftCanonical bytes leftRead).trans (rightCanonical bytes rightRead).symm

/-- Something is spelled by something. -/
theorem encode_ne_nil {bytes : Bytes} (some_ : bytes ≠ []) : encode bytes ≠ [] := by
  intro empty
  have read := decode_encode bytes
  rw [empty] at read
  cases read
  exact some_ rfl

/-- A character that is no digit and no line break. -/
structure Foreign (char : UInt8) : Prop where
  digit : charDigit char = none
  kept : (char ≠ 10 && char ≠ 13) = true

private theorem mapM_charDigit {text : Bytes} {digits : List ℕ} (read : text.mapM charDigit = some digits) :
    ∀ char ∈ text, charDigit char ≠ none := by
  induction text generalizing digits with
  | nil => simp
  | cons first rest ih =>
    rw [List.mapM_cons, Option.bind_eq_bind, Option.bind_eq_some_iff] at read
    obtain ⟨digit, known, read⟩ := read
    rw [Option.bind_eq_bind, Option.bind_eq_some_iff] at read
    obtain ⟨others, onward, _⟩ := read
    intro char member
    rcases List.mem_cons.mp member with rfl | inside
    · rw [known]
      nofun
    · exact ih onward char inside

/-- A text that can be read has no foreign character. -/
theorem foreign_decode {char : UInt8} (foreign : Foreign char) {text bytes : Bytes}
    (read : decode text = some bytes) : char ∉ text := by
  intro member
  rw [decode, textDigits, Option.bind_eq_some_iff] at read
  obtain ⟨digits, known, _⟩ := read
  exact mapM_charDigit known char (List.mem_filter.mpr ⟨member, foreign.kept⟩) foreign.digit

theorem foreign_encode {char : UInt8} (foreign : Foreign char) (bytes : Bytes) : char ∉ encode bytes :=
  foreign_decode foreign (decode_encode bytes)

/-- The spare bits of a last digit are not read: two spellings of one byte. -/
example : decode [81, 81] = decode [81, 82] := by decide

end AnselmGateway.Foundation.Base64
