import AnselmGateway.Foundation.Json.Locality

/-! String literals: which texts they are, that the scanner reads them whatever
follows, and the one a text is written as. -/
namespace AnselmGateway.Foundation.Json

/-! ## The texts -/

/-- What may stand between the quotes. -/
inductive Characters : Bytes → Prop
  | nil : Characters []
  | plain {c : UInt8} {rest : Bytes} (printable : 0x20 ≤ c) (notQuote : c ≠ quote)
      (notBackslash : c ≠ backslash) (more : Characters rest) : Characters (c :: rest)
  | escape {c : UInt8} {rest : Bytes} (known : isEscape c = true) (more : Characters rest) :
      Characters (backslash :: c :: rest)
  | unicode {a b c d : UInt8} {rest : Bytes} (hex : isHex a ∧ isHex b ∧ isHex c ∧ isHex d)
      (more : Characters rest) : Characters (backslash :: 0x75 :: a :: b :: c :: d :: rest)

theorem Characters.append {left right : Bytes} (first : Characters left) (second : Characters right) :
    Characters (left ++ right) := by
  induction first with
  | nil => exact second
  | plain printable notQuote notBackslash _ ih => exact .plain printable notQuote notBackslash ih
  | escape known _ ih => exact .escape known ih
  | unicode hex _ ih => exact .unicode hex ih

/-- A string literal. -/
def IsString (literal : Bytes) : Prop :=
  ∃ body, Characters body ∧ literal = quote :: (body ++ [quote])

/-! ## Scanning -/

section Scan
variable {nesting : List Nesting} {body rest : Bytes}

theorem readFrom_more {s next : Scanner} {c : UInt8} (code : s.step c = .more next) :
    readFrom s (c :: rest) = (readFrom next rest).map (· + 1) := by
  rw [readFrom, code]

theorem step_escape : Scanner.step ⟨.inString, nesting⟩ backslash = .more ⟨.inStringEsc, nesting⟩ := rfl

theorem step_hex {digits : ℕ} {c : UInt8} (hex : isHex c = true) :
    Scanner.step ⟨.inStringEscU (digits + 2), nesting⟩ c =
      .more ⟨.inStringEscU (digits + 1), nesting⟩ := by
  have notLast : ¬ digits + 2 ≤ 1 := by omega
  simp only [Scanner.step, hex, notLast, if_false, Scanner.to]
  rfl

theorem step_hexLast {c : UInt8} (hex : isHex c = true) :
    Scanner.step ⟨.inStringEscU 1, nesting⟩ c = .more ⟨.inString, nesting⟩ := by
  simp only [Scanner.step, hex, Scanner.to]
  rfl

/-- Inside a string the scanner goes over its characters. -/
theorem readFrom_characters (characters : Characters body) :
    readFrom ⟨.inString, nesting⟩ (body ++ rest) =
      (readFrom ⟨.inString, nesting⟩ rest).map (· + body.length) := by
  induction characters with
  | nil => simp
  | @plain c body printable notQuote notBackslash _ ih =>
    have steps : Scanner.step ⟨.inString, nesting⟩ c = .more ⟨.inString, nesting⟩ := by
      simp only [Scanner.step, notQuote, notBackslash, if_false, Scanner.to]
      rw [if_neg (UInt8.not_lt.mpr printable)]
    rw [List.cons_append, readFrom_more steps, ih, Option.map_map]
    rfl
  | @escape c body known _ ih =>
    have steps : Scanner.step ⟨.inStringEsc, nesting⟩ c = .more ⟨.inString, nesting⟩ := by
      simp only [Scanner.step, known, if_true, Scanner.to]
    rw [List.cons_append, List.cons_append, readFrom_more step_escape, readFrom_more steps, ih,
      Option.map_map, Option.map_map]
    rfl
  | @unicode a b c d body hex _ ih =>
    obtain ⟨hexA, hexB, hexC, hexD⟩ := hex
    have steps : Scanner.step ⟨.inStringEsc, nesting⟩ 0x75 = .more ⟨.inStringEscU 4, nesting⟩ := rfl
    simp only [List.cons_append]
    rw [readFrom_more step_escape, readFrom_more steps, readFrom_more (step_hex hexA)]
    rw [readFrom_more (step_hex hexB), readFrom_more (step_hex hexC), readFrom_more (step_hexLast hexD)]
    rw [ih]
    simp only [Option.map_map]
    rfl

/-- A string literal is a value, whatever follows it. -/
theorem readValue_string {literal : Bytes} (isString : IsString literal) :
    readValue (literal ++ rest) = some literal.length := by
  obtain ⟨body, characters, rfl⟩ := isString
  have opens : Scanner.new.step quote = .more ⟨.inString, []⟩ := rfl
  have closes : Scanner.step ⟨.inString, []⟩ quote = .more ⟨.endValue, []⟩ := rfl
  have ended : readFrom ⟨.endValue, []⟩ rest = some 0 := by
    cases rest <;> rfl
  rw [readValue, List.cons_append, readFrom_more opens, List.append_assoc,
    readFrom_characters characters, List.singleton_append, readFrom_more closes, ended]
  simp [Nat.add_comm]

/-- The scanner skips the spaces before a value. -/
theorem readValue_spaces {spaces : Bytes} (all : spaces.all isSpace = true) :
    readValue (spaces ++ rest) = (readValue rest).map (· + spaces.length) := by
  induction spaces with
  | nil => simp
  | cons c spaces ih =>
    rw [List.all_cons, Bool.and_eq_true] at all
    have steps : Scanner.new.step c = .more .new := by
      simp only [Scanner.new, Scanner.step, Scanner.beginValue, all.1, if_true]
    rw [List.cons_append, readValue, readFrom_more steps]
    rw [readValue] at ih
    rw [ih all.2, Option.map_map]
    rfl

end Scan

/-! ## Writing -/

/-- A hex digit. -/
def hexDigit (n : ℕ) : UInt8 := if n < 10 then UInt8.ofNat (48 + n) else UInt8.ofNat (87 + n)

/-- A character as it is written between quotes, HTML escaped. -/
def escapeChar (c : Char) : Bytes :=
  let code := c.toNat
  if code = 0x5C ∨ code = 0x22 then [backslash, UInt8.ofNat code]
  else if code = 8 then [backslash, 0x62]
  else if code = 12 then [backslash, 0x66]
  else if code = 10 then [backslash, 0x6E]
  else if code = 13 then [backslash, 0x72]
  else if code = 9 then [backslash, 0x74]
  else if code < 0x20 ∨ code = 0x3C ∨ code = 0x3E ∨ code = 0x26 then
    [backslash, 0x75, 0x30, 0x30, hexDigit (code / 16), hexDigit (code % 16)]
  else if code = 0x2028 ∨ code = 0x2029 then
    [backslash, 0x75, 0x32, 0x30, 0x32, hexDigit (code % 16)]
  else String.utf8EncodeChar c

/-- `Marshal` of a string. -/
def marshalString (text : String) : Bytes := quote :: (text.toList.flatMap escapeChar ++ [quote])

theorem hexDigit_isHex {n : ℕ} (small : n < 16) : isHex (hexDigit n) = true := by
  have every : ∀ n < 16, isHex (hexDigit n) = true := by decide
  exact every n small

/-- Bytes beyond ASCII stand for themselves. -/
theorem characters_high {bytes : Bytes} (high : ∀ b ∈ bytes, 0x80 ≤ b) : Characters bytes := by
  induction bytes with
  | nil => exact .nil
  | cons b bytes ih =>
    have here : 0x80 ≤ b := high b List.mem_cons_self
    have not {c : UInt8} (ascii : c < 0x80) : b ≠ c := by
      rintro rfl
      exact absurd ascii (UInt8.not_lt.mpr here)
    refine .plain (UInt8.le_trans (by decide) here) (not (by decide)) (not (by decide)) (ih ?_)
    intro b' member
    exact high b' (List.mem_cons_of_mem b member)

theorem utf8EncodeChar_ascii {c : Char} (ascii : c.toNat < 0x80) :
    String.utf8EncodeChar c = [UInt8.ofNat c.toNat] := by
  have small : c.val.toNat ≤ 0x7F := Nat.le_of_lt_succ ascii
  simp only [String.utf8EncodeChar, small, if_true]
  rfl

theorem utf8EncodeChar_high {c : Char} (high : 0x80 ≤ c.toNat) :
    ∀ b ∈ String.utf8EncodeChar c, 0x80 ≤ b := by
  have tail (n : ℕ) : (0x80 : UInt8) ≤ UInt8.ofNat (n % 0x40 + 0x80) := by
    rw [UInt8.le_iff_toNat_le, UInt8.toNat_ofNat']
    have := Nat.mod_lt n (show 0 < 0x40 by decide)
    change 128 ≤ _
    omega
  have lead {n m k : ℕ} (positive : 0 < m) (low : 0x80 ≤ k) (bound : m + k ≤ 256) :
      (0x80 : UInt8) ≤ UInt8.ofNat (n % m + k) := by
    rw [UInt8.le_iff_toNat_le, UInt8.toNat_ofNat']
    have := Nat.mod_lt n positive
    change 128 ≤ _
    omega
  have large : ¬ c.val.toNat ≤ 0x7F := Nat.not_le.mpr high
  intro b member
  simp only [String.utf8EncodeChar, large, if_false] at member
  split at member
  · simp only [List.mem_cons, List.not_mem_nil, or_false] at member
    rcases member with rfl | rfl
    · exact lead (by decide) (by decide) (by decide)
    · exact tail _
  · split at member
    · simp only [List.mem_cons, List.not_mem_nil, or_false] at member
      rcases member with rfl | rfl | rfl
      · exact lead (by decide) (by decide) (by decide)
      · exact tail _
      · exact tail _
    · simp only [List.mem_cons, List.not_mem_nil, or_false] at member
      rcases member with rfl | rfl | rfl | rfl
      · exact lead (by decide) (by decide) (by decide)
      · exact tail _
      · exact tail _
      · exact tail _

theorem escapeChar_characters (c : Char) : Characters (escapeChar c) := by
  unfold escapeChar
  dsimp only
  split
  · rename_i escaped
    rcases escaped with same | same <;> rw [same] <;> exact .escape (by decide) .nil
  · rename_i notQuoted
    split
    · exact .escape (by decide) .nil
    · split
      · exact .escape (by decide) .nil
      · split
        · exact .escape (by decide) .nil
        · split
          · exact .escape (by decide) .nil
          · split
            · exact .escape (by decide) .nil
            · split
              · exact .unicode ⟨by decide, by decide, hexDigit_isHex (by omega), hexDigit_isHex (by omega)⟩ .nil
              · rename_i printable
                split
                · exact .unicode ⟨by decide, by decide, by decide, hexDigit_isHex (by omega)⟩ .nil
                · by_cases ascii : c.toNat < 0x80
                  · have self : (UInt8.ofNat c.toNat).toNat = c.toNat := by
                      rw [UInt8.toNat_ofNat']
                      omega
                    have not {b : UInt8} (differs : c.toNat ≠ b.toNat) : UInt8.ofNat c.toNat ≠ b := by
                      rintro rfl
                      exact differs self.symm
                    rw [utf8EncodeChar_ascii ascii]
                    refine .plain ?_ (not ?_) (not ?_) .nil
                    · rw [UInt8.le_iff_toNat_le, self]
                      change 32 ≤ _
                      omega
                    · change _ ≠ 0x22
                      omega
                    · change _ ≠ 0x5C
                      omega
                  · exact characters_high (utf8EncodeChar_high (Nat.le_of_not_lt ascii))

theorem marshalString_isString (text : String) : IsString (marshalString text) := by
  refine ⟨text.toList.flatMap escapeChar, ?_, rfl⟩
  induction text.toList with
  | nil => exact .nil
  | cons c rest ih =>
    rw [List.flatMap_cons]
    exact (escapeChar_characters c).append ih

theorem escapeChar_valid (c : Char) : validUtf8 (escapeChar c) = true := by
  have ascii {n : ℕ} (small : n < 16) : hexDigit n < 0x80 := by
    have every : ∀ n < 16, hexDigit n < 0x80 := by decide
    exact every n small
  have unicode {a b : UInt8} {n m : ℕ} (a_ : a < 0x80) (b_ : b < 0x80) (n_ : n < 16) (m_ : m < 16) :
      validUtf8 [backslash, 0x75, a, 0x30, hexDigit n, hexDigit m] = true ∧
        validUtf8 [backslash, 0x75, a, 0x30, b, hexDigit m] = true := by
    constructor <;> simp [validUtf8_cons, a_, b_, ascii n_, ascii m_, backslash] <;> decide
  unfold escapeChar
  dsimp only
  split
  · rename_i escaped
    rcases escaped with same | same <;> rw [same] <;> decide
  · split
    · decide
    · split
      · decide
      · split
        · decide
        · split
          · decide
          · split
            · decide
            · split
              · exact (unicode (b := 0x30) (by decide) (by decide) (by omega) (by omega)).1
              · split
                · exact (unicode (n := 0) (by decide) (by decide) (by omega) (by omega)).2
                · exact validUtf8_encode c

theorem marshalString_valid (text : String) : validUtf8 (marshalString text) = true := by
  have body : validUtf8 (text.toList.flatMap escapeChar) = true := by
    induction text.toList with
    | nil => rfl
    | cons c rest ih => exact validUtf8_concat (escapeChar_valid c) ih
  rw [marshalString, validUtf8_cons (by decide), validUtf8_concat body (by decide)]

/-! ## Reading back what was written -/

theorem hexValue_hexDigit {n : ℕ} (small : n < 16) :
    hexValue (Char.ofNat (hexDigit n).toNat) = n := by
  have every : ∀ n < 16, hexValue (Char.ofNat (hexDigit n).toNat) = n := by decide
  exact every n small

/-- An escape of four hex digits that is no half of a pair. -/
theorem unquoteRunes_unicode {a b c d : Char} {rest : List Char} (plain : hex4 a b c d < 0xD800) :
    unquoteRunes ('\\' :: 'u' :: a :: b :: c :: d :: rest) =
      Char.ofNat (hex4 a b c d) :: unquoteRunes rest := by
  have alone : escapedRune (hex4 a b c d) = Char.ofNat (hex4 a b c d) :=
    if_neg fun half => absurd half.1 (Nat.not_le.mpr plain)
  have unpaired (low : ℕ) : isSurrogatePair (hex4 a b c d) low = false := by
    simp [isSurrogatePair, Nat.not_le.mpr plain]
  rw [unquoteRunes.eq_def]
  split
  · rename_i same
    simp only [List.cons.injEq, true_and] at same
    obtain ⟨rfl, rfl, rfl, rfl, rfl⟩ := same
    rw [if_neg (by rw [unpaired]; decide), alone]
  · rename_i same
    simp only [List.cons.injEq, true_and] at same
    obtain ⟨rfl, rfl, rfl, rfl, rfl⟩ := same
    rw [alone]
  · rename_i notUnicode same
    simp only [List.cons.injEq, true_and] at same
    exact absurd same.2.symm (notUnicode a b c d rest same.1.symm)
  · rename_i notEscape same
    simp only [List.cons.injEq] at same
    exact absurd same.2.symm (notEscape 'u' _ same.1.symm)
  · rename_i same
    cases same

/-- A single-letter escape. -/
theorem unquoteRunes_escape {c : Char} {rest : List Char} (letter : c ≠ 'u') :
    unquoteRunes ('\\' :: c :: rest) = unescape c :: unquoteRunes rest := by
  rw [unquoteRunes.eq_def]
  split
  · rename_i same
    simp only [List.cons.injEq, true_and] at same
    exact absurd same.1 letter
  · rename_i same
    simp only [List.cons.injEq, true_and] at same
    exact absurd same.1 letter
  · rename_i same
    simp only [List.cons.injEq, true_and] at same
    obtain ⟨rfl, rfl⟩ := same
    rfl
  · rename_i notEscape same
    simp only [List.cons.injEq] at same
    exact absurd same.2.symm (notEscape c rest same.1.symm)
  · rename_i same
    cases same

theorem unquoteRunes_plain {c : Char} {rest : List Char} (plain : c ≠ '\\') :
    unquoteRunes (c :: rest) = c :: unquoteRunes rest := by
  rw [unquoteRunes.eq_def]
  split
  · rename_i same
    exact absurd (List.cons.inj same).1 plain
  · rename_i same
    exact absurd (List.cons.inj same).1 plain
  · rename_i same
    exact absurd (List.cons.inj same).1 plain
  · rename_i same
    obtain ⟨rfl, rfl⟩ := List.cons.inj same
    rfl
  · rename_i same
    cases same

/-- What a character is written as is read back as that character. -/
theorem unquote_escapeChar (c : Char) (rest : Bytes) :
    unquoteRunes (runes (escapeChar c ++ rest)) = c :: unquoteRunes (runes rest) := by
  have back {code : ℕ} (same : c.toNat = code) : Char.ofNat code = c := by
    rw [← same]
    exact Char.ofNat_toNat c
  have letter {b : UInt8} (ascii : b < 0x80) (other : Char.ofNat b.toNat ≠ 'u')
      (means : unescape (Char.ofNat b.toNat) = c) :
      unquoteRunes (runes ([backslash, b] ++ rest)) = c :: unquoteRunes (runes rest) := by
    rw [List.cons_append, List.singleton_append, runes_ascii (by decide), runes_ascii ascii]
    exact (unquoteRunes_escape other).trans (congrArg (· :: _) means)
  have digits {d e f g : UInt8} (ascii : d < 0x80 ∧ e < 0x80 ∧ f < 0x80 ∧ g < 0x80)
      (means : hex4 (Char.ofNat d.toNat) (Char.ofNat e.toNat) (Char.ofNat f.toNat)
        (Char.ofNat g.toNat) = c.toNat) (small : c.toNat < 0xD800) :
      unquoteRunes (runes ([backslash, 0x75, d, e, f, g] ++ rest)) = c :: unquoteRunes (runes rest) := by
    simp only [List.cons_append, List.nil_append]
    rw [runes_ascii (by decide), runes_ascii (by decide), runes_ascii ascii.1, runes_ascii ascii.2.1,
      runes_ascii ascii.2.2.1, runes_ascii ascii.2.2.2]
    exact (unquoteRunes_unicode (by rw [means]; exact small)).trans
      (congrArg (· :: _) (back means.symm))
  have hexAscii {n : ℕ} (small : n < 16) : hexDigit n < 0x80 := by
    have every : ∀ n < 16, hexDigit n < 0x80 := by decide
    exact every n small
  unfold escapeChar
  dsimp only
  split
  · rename_i quoted
    rcases quoted with same | same <;> rw [same]
    · exact letter (by decide) (by decide) ((show _ = Char.ofNat 0x5C by decide).trans (back same))
    · exact letter (by decide) (by decide) ((show _ = Char.ofNat 0x22 by decide).trans (back same))
  · rename_i notQuoted
    split
    · rename_i same
      exact letter (by decide) (by decide) ((show _ = Char.ofNat 8 by decide).trans (back same))
    · split
      · rename_i same
        exact letter (by decide) (by decide) ((show _ = Char.ofNat 12 by decide).trans (back same))
      · split
        · rename_i same
          exact letter (by decide) (by decide) ((show _ = Char.ofNat 10 by decide).trans (back same))
        · split
          · rename_i same
            exact letter (by decide) (by decide) ((show _ = Char.ofNat 13 by decide).trans (back same))
          · split
            · rename_i same
              exact letter (by decide) (by decide) ((show _ = Char.ofNat 9 by decide).trans (back same))
            · split
              · have small : c.toNat < 256 := by omega
                have zero : hexValue (Char.ofNat (0x30 : UInt8).toNat) = 0 := by decide
                refine digits ⟨by decide, by decide, hexAscii (by omega), hexAscii (by omega)⟩ ?_ (by omega)
                rw [hex4, hexValue_hexDigit (by omega), hexValue_hexDigit (by omega), zero]
                omega
              · split
                · have two : hexValue (Char.ofNat (0x32 : UInt8).toNat) = 2 := by decide
                  have zero : hexValue (Char.ofNat (0x30 : UInt8).toNat) = 0 := by decide
                  refine digits ⟨by decide, by decide, by decide, hexAscii (by omega)⟩ ?_ (by omega)
                  rw [hex4, hexValue_hexDigit (by omega), zero, two]
                  omega
                · rw [runes_encode]
                  refine unquoteRunes_plain ?_
                  rintro rfl
                  exact notQuoted (.inl rfl)

/-- A text is read back from what it is written as. -/
theorem unquote_marshalString (text : String) : unquote (marshalString text) = text := by
  have reads (chars : List Char) : unquoteRunes (runes (chars.flatMap escapeChar)) = chars := by
    induction chars with
    | nil => rfl
    | cons c rest ih => rw [List.flatMap_cons, unquote_escapeChar, ih]
  unfold unquote marshalString
  rw [List.drop_one, List.tail_cons, List.dropLast_concat, reads, String.ofList_toList]

end AnselmGateway.Foundation.Json
