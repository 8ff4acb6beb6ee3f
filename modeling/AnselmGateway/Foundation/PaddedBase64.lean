import AnselmGateway.Foundation.Base64

/-! Padded base64 over the standard alphabet. Decoding is strict: whole groups only,
padding only at the end, and no spare bit set. Line breaks are skipped. -/
namespace AnselmGateway.Foundation.PaddedBase64
open Base64 (ofNat_byte)

/-- The padding character. -/
def pad : UInt8 := 61

/-- The character of one six-bit digit. -/
def digitChar (digit : ℕ) : UInt8 :=
  if digit < 26 then UInt8.ofNat (65 + digit)
  else if digit < 52 then UInt8.ofNat (71 + digit)
  else if digit < 62 then UInt8.ofNat (digit - 4)
  else if digit = 62 then 43
  else 47

/-- The digit of one character; padding is no digit. -/
def charDigit (char : UInt8) : Option ℕ :=
  if 65 ≤ char ∧ char ≤ 90 then some (char.toNat - 65)
  else if 97 ≤ char ∧ char ≤ 122 then some (char.toNat - 71)
  else if 48 ≤ char ∧ char ≤ 57 then some (char.toNat + 4)
  else if char = 43 then some 62
  else if char = 47 then some 63
  else none

/-- The encoder. -/
def encode : Bytes → Bytes
  | a :: b :: c :: rest =>
    let group := a.toNat * 65536 + b.toNat * 256 + c.toNat
    digitChar (group / 262144) :: digitChar (group / 4096 % 64) :: digitChar (group / 64 % 64) ::
      digitChar (group % 64) :: encode rest
  | [a, b] =>
    let group := a.toNat * 65536 + b.toNat * 256
    [digitChar (group / 262144), digitChar (group / 4096 % 64), digitChar (group / 64 % 64), pad]
  | [a] => [digitChar (a.toNat / 4), digitChar (a.toNat % 4 * 16), pad, pad]
  | [] => []

/-- The bytes of one group behind its first two digits: three, or fewer in a padded
group, which is the last one and leaves its spare bits clear. -/
def decodeGroup (x y : ℕ) (c d : UInt8) (last : Bool) : Option Bytes :=
  match charDigit c, charDigit d with
  | some z, some w =>
    let group := x * 262144 + y * 4096 + z * 64 + w
    some [UInt8.ofNat (group / 65536), UInt8.ofNat (group / 256), UInt8.ofNat group]
  | some z, none =>
    let group := x * 262144 + y * 4096 + z * 64
    if d = pad ∧ last ∧ z % 4 = 0 then some [UInt8.ofNat (group / 65536), UInt8.ofNat (group / 256)]
    else none
  | none, _ =>
    if c = pad ∧ d = pad ∧ last ∧ y % 16 = 0 then some [UInt8.ofNat ((x * 262144 + y * 4096) / 65536)]
    else none

def decodeGroups : Bytes → Option Bytes
  | a :: b :: c :: d :: rest => do
    let x ← charDigit a
    let y ← charDigit b
    let bytes ← decodeGroup x y c d rest.isEmpty
    let others ← decodeGroups rest
    return bytes ++ others
  | [] => some []
  | _ => none

/-- The strict decoder. -/
def decode (text : Bytes) : Option Bytes :=
  decodeGroups (text.filter fun char => char ≠ 10 && char ≠ 13)

/-! ## Round trip -/

theorem charDigit_digitChar {digit : ℕ} (small : digit < 64) :
    charDigit (digitChar digit) = some digit ∧ digitChar digit ≠ 10 ∧ digitChar digit ≠ 13 := by
  have each : ∀ digit : Fin 64, charDigit (digitChar digit) = some digit.val ∧
      digitChar digit ≠ 10 ∧ digitChar digit ≠ 13 := by decide
  exact each ⟨digit, small⟩

/-- The encoder writes digits and padding. -/
theorem encode_chars (bytes : Bytes) : ∀ char ∈ encode bytes,
    (∃ digit, digit < 64 ∧ char = digitChar digit) ∨ char = pad := by
  have digit {digit : ℕ} (small : digit < 64) : (∃ digit', digit' < 64 ∧ digitChar digit = digitChar digit') ∨
      digitChar digit = pad := .inl ⟨digit, small, rfl⟩
  induction bytes using encode.induct with
  | case1 a b c rest ih =>
    have aSmall := a.toNat_lt
    have bSmall := b.toNat_lt
    have cSmall := c.toNat_lt
    intro char member
    simp only [encode, List.mem_cons] at member
    rcases member with rfl | rfl | rfl | rfl | inside
    · exact digit (by omega)
    · exact digit (by omega)
    · exact digit (by omega)
    · exact digit (by omega)
    · exact ih char inside
  | case2 a b =>
    have aSmall := a.toNat_lt
    have bSmall := b.toNat_lt
    intro char member
    simp only [encode, List.mem_cons, List.not_mem_nil, or_false] at member
    rcases member with rfl | rfl | rfl | rfl
    · exact digit (by omega)
    · exact digit (by omega)
    · exact digit (by omega)
    · exact .inr rfl
  | case3 a =>
    have aSmall := a.toNat_lt
    intro char member
    simp only [encode, List.mem_cons, List.not_mem_nil, or_false] at member
    rcases member with rfl | rfl | rfl | rfl
    · exact digit (by omega)
    · exact digit (by omega)
    · exact .inr rfl
    · exact .inr rfl
  | case4 => simp [encode]

/-- The four digits of a number of three bytes. -/
theorem sextets (group : ℕ) : group / 262144 * 262144 + group / 4096 % 64 * 4096 + group / 64 % 64 * 64 + group % 64 =
    group := by omega

theorem charDigit_pad : charDigit pad = none := by decide

section Groups
variable {x y z w : ℕ} {c d : UInt8}

theorem decodeGroup_whole (third : z < 64) (fourth : w < 64) (last : Bool) :
    decodeGroup x y (digitChar z) (digitChar w) last =
      some [UInt8.ofNat ((x * 262144 + y * 4096 + z * 64 + w) / 65536),
        UInt8.ofNat ((x * 262144 + y * 4096 + z * 64 + w) / 256), UInt8.ofNat (x * 262144 + y * 4096 + z * 64 + w)] := by
  rw [decodeGroup, (charDigit_digitChar third).1, (charDigit_digitChar fourth).1]

theorem decodeGroup_two (third : z < 64) (clear : z % 4 = 0) :
    decodeGroup x y (digitChar z) pad true =
      some [UInt8.ofNat ((x * 262144 + y * 4096 + z * 64) / 65536),
        UInt8.ofNat ((x * 262144 + y * 4096 + z * 64) / 256)] := by
  rw [decodeGroup, (charDigit_digitChar third).1, charDigit_pad]
  exact if_pos ⟨rfl, rfl, clear⟩

theorem decodeGroup_one (clear : y % 16 = 0) :
    decodeGroup x y pad pad true = some [UInt8.ofNat ((x * 262144 + y * 4096) / 65536)] := by
  rw [decodeGroup, charDigit_pad]
  exact if_pos ⟨rfl, rfl, rfl, clear⟩

theorem decodeGroups_cons {rest group others : Bytes} (first : x < 64) (second : y < 64)
    (read : decodeGroup x y c d rest.isEmpty = some group) (onward : decodeGroups rest = some others) :
    decodeGroups (digitChar x :: digitChar y :: c :: d :: rest) = some (group ++ others) := by
  rw [decodeGroups, (charDigit_digitChar first).1, (charDigit_digitChar second).1]
  simp [read, onward]

end Groups

private theorem decodeGroups_encode (bytes : Bytes) : decodeGroups (encode bytes) = some bytes := by
  induction bytes using encode.induct with
  | case1 a b c rest ih =>
    have aSmall := a.toNat_lt
    have bSmall := b.toNat_lt
    have cSmall := c.toNat_lt
    rw [encode, decodeGroups_cons (by omega) (by omega) (decodeGroup_whole (by omega) (by omega) _) ih, sextets,
      ofNat_byte a (by omega), ofNat_byte b (by omega), ofNat_byte c (by omega)]
    rfl
  | case2 a b =>
    have aSmall := a.toNat_lt
    have bSmall := b.toNat_lt
    rw [encode, decodeGroups_cons (by omega) (by omega) (decodeGroup_two (by omega) (by omega)) rfl,
      ofNat_byte a (by omega), ofNat_byte b (by omega)]
    rfl
  | case3 a =>
    have aSmall := a.toNat_lt
    rw [encode, decodeGroups_cons (by omega) (by omega) (decodeGroup_one (by omega)) rfl, ofNat_byte a (by omega)]
    rfl
  | case4 => rfl

/-- Decoding inverts encoding. -/
theorem decode_encode (bytes : Bytes) : decode (encode bytes) = some bytes := by
  have whole : (encode bytes).filter (fun char => char ≠ 10 && char ≠ 13) = encode bytes := by
    refine List.filter_eq_self.mpr fun char member => ?_
    rcases encode_chars bytes char member with ⟨digit, small, rfl⟩ | rfl
    · obtain ⟨_, noFeed, noReturn⟩ := charDigit_digitChar small
      simp [noFeed, noReturn]
    · decide
  rw [decode, whole, decodeGroups_encode]

/-! ## What is no part of a text -/

/-- A character that stands for nothing. -/
structure Foreign (char : UInt8) : Prop where
  digit : charDigit char = none
  padding : char ≠ pad
  kept : (char ≠ 10 && char ≠ 13) = true

private theorem foreign_decodeGroups {char : UInt8} (foreign : Foreign char) {text bytes : Bytes}
    (read : decodeGroups text = some bytes) : char ∉ text := by
  induction text using decodeGroups.induct generalizing bytes with
  | case1 a b c d rest ih =>
    simp only [decodeGroups, Option.bind_eq_bind, Option.bind_eq_some_iff] at read
    obtain ⟨x, first, y, second, group, last, others, onward, _⟩ := read
    intro member
    simp only [List.mem_cons] at member
    rcases member with rfl | rfl | rfl | rfl | inside
    · rw [foreign.digit] at first
      cases first
    · rw [foreign.digit] at second
      cases second
    · simp [decodeGroup, foreign.digit, foreign.padding] at last
    · unfold decodeGroup at last
      rw [foreign.digit] at last
      split at last <;> simp_all [foreign.padding]
    · exact ih onward inside
  | case2 => simp
  | case3 text short none_ =>
    rw [decodeGroups] at read
    · cases read
    · exact short
    · exact none_

/-- A text that can be read has no foreign character. -/
theorem foreign_decode {char : UInt8} (foreign : Foreign char) {text bytes : Bytes}
    (read : decode text = some bytes) : char ∉ text := fun member =>
  foreign_decodeGroups foreign read (List.mem_filter.mpr ⟨member, foreign.kept⟩)

theorem foreign_encode {char : UInt8} (foreign : Foreign char) (bytes : Bytes) : char ∉ encode bytes :=
  foreign_decode foreign (decode_encode bytes)

/-! ## One text for a value -/

/-- A digit comes from its own character only. -/
theorem charDigit_some {char : UInt8} {digit : ℕ} (read : charDigit char = some digit) :
    digit < 64 ∧ char = digitChar digit := by
  unfold charDigit at read
  simp only [UInt8.le_iff_toNat_le, UInt8.reduceToNat] at read
  split at read
  · cases read
    refine ⟨by omega, ?_⟩
    rw [digitChar, if_pos (by omega), ofNat_byte char (by omega)]
  · split at read
    · cases read
      refine ⟨by omega, ?_⟩
      rw [digitChar, if_neg (by omega), if_pos (by omega), ofNat_byte char (by omega)]
    · split at read
      · cases read
        refine ⟨by omega, ?_⟩
        rw [digitChar, if_neg (by omega), if_neg (by omega), if_pos (by omega), ofNat_byte char (by omega)]
      · split at read
        · cases read
          rename_i same
          exact ⟨by omega, same⟩
        · split at read
          · cases read
            rename_i same
            exact ⟨by omega, same⟩
          · cases read

private theorem decodeGroups_some {text bytes : Bytes} (read : decodeGroups text = some bytes) :
    text = encode bytes := by
  induction text using decodeGroups.induct generalizing bytes with
  | case1 a b c d rest ih =>
    simp only [decodeGroups, Option.bind_eq_bind, Option.bind_eq_some_iff, Option.pure_def,
      Option.some.injEq] at read
    obtain ⟨x, first, y, second, group, last, others, onward, rfl⟩ := read
    obtain ⟨xSmall, rfl⟩ := charDigit_some first
    obtain ⟨ySmall, rfl⟩ := charDigit_some second
    have tail := ih onward
    unfold decodeGroup at last
    split at last
    · rename_i z w third fourth
      obtain ⟨zSmall, rfl⟩ := charDigit_some third
      obtain ⟨wSmall, rfl⟩ := charDigit_some fourth
      cases last
      have whole : (x * 262144 + y * 4096 + z * 64 + w) / 65536 % 256 * 65536 +
          (x * 262144 + y * 4096 + z * 64 + w) / 256 % 256 * 256 +
          (x * 262144 + y * 4096 + z * 64 + w) % 256 = x * 262144 + y * 4096 + z * 64 + w := by omega
      simp only [List.cons_append, List.nil_append, encode, UInt8.toNat_ofNat', Nat.reducePow, whole, ← tail]
      rw [show (x * 262144 + y * 4096 + z * 64 + w) / 262144 = x by omega,
        show (x * 262144 + y * 4096 + z * 64 + w) / 4096 % 64 = y by omega,
        show (x * 262144 + y * 4096 + z * 64 + w) / 64 % 64 = z by omega,
        show (x * 262144 + y * 4096 + z * 64 + w) % 64 = w by omega]
    · rename_i z third fourth
      obtain ⟨zSmall, rfl⟩ := charDigit_some third
      dsimp only at last
      split at last
      · rename_i padded
        obtain ⟨rfl, atEnd, clear⟩ := padded
        cases last
        cases List.isEmpty_iff.mp atEnd
        cases onward
        have whole : (x * 262144 + y * 4096 + z * 64) / 65536 % 256 * 65536 +
            (x * 262144 + y * 4096 + z * 64) / 256 % 256 * 256 = x * 262144 + y * 4096 + z * 64 := by omega
        simp only [List.append_nil, encode, UInt8.toNat_ofNat', Nat.reducePow, whole]
        rw [show (x * 262144 + y * 4096 + z * 64) / 262144 = x by omega,
          show (x * 262144 + y * 4096 + z * 64) / 4096 % 64 = y by omega,
          show (x * 262144 + y * 4096 + z * 64) / 64 % 64 = z by omega]
      · cases last
    · split at last
      · rename_i padded
        obtain ⟨rfl, rfl, atEnd, clear⟩ := padded
        cases last
        cases List.isEmpty_iff.mp atEnd
        cases onward
        simp only [List.append_nil, encode, UInt8.toNat_ofNat', Nat.reducePow]
        rw [show (x * 262144 + y * 4096) / 65536 % 256 / 4 = x by omega,
          show (x * 262144 + y * 4096) / 65536 % 256 % 4 * 16 = y by omega]
      · cases last
  | case2 =>
    cases read
    rfl
  | case3 text short none_ =>
    rw [decodeGroups] at read
    · cases read
    · exact short
    · exact none_

/-- A text that reads as these bytes is, but for line breaks, the one the encoder writes. -/
theorem decode_iff {text bytes : Bytes} :
    decode text = some bytes ↔ text.filter (fun char => char ≠ 10 && char ≠ 13) = encode bytes := by
  constructor
  · exact decodeGroups_some
  · intro same
    rw [decode, same, decodeGroups_encode]

theorem length_encode (bytes : Bytes) : (encode bytes).length = (bytes.length + 2) / 3 * 4 := by
  induction bytes using encode.induct with
  | case1 a b c rest ih =>
    simp only [encode, List.length_cons, ih]
    omega
  | case2 a b => simp [encode]
  | case3 a => simp [encode]
  | case4 => rfl

/-- A digit is no padding. -/
theorem digitChar_ne_pad {digit : ℕ} (small : digit < 64) : digitChar digit ≠ pad := by
  intro same
  have reads := (charDigit_digitChar small).1
  rw [same] at reads
  cases reads

/-- What the encoder writes: digits, and padding up to a whole group. -/
theorem encode_padded (bytes : Bytes) : ∃ digits,
    encode bytes = digits ++ List.replicate ((3 - bytes.length % 3) % 3) pad ∧ pad ∉ digits := by
  have digit {d : ℕ} (small : d < 64) : ¬pad = digitChar d := fun same => digitChar_ne_pad small same.symm
  induction bytes using encode.induct with
  | case1 a b c rest ih =>
    have aSmall := a.toNat_lt
    have bSmall := b.toNat_lt
    have cSmall := c.toNat_lt
    obtain ⟨digits, written, free⟩ := ih
    have period : (a :: b :: c :: rest).length % 3 = rest.length % 3 := Nat.add_mod_right rest.length 3
    rw [encode, written, period]
    refine ⟨_ :: _ :: _ :: _ :: digits, rfl, ?_⟩
    simp only [List.mem_cons, not_or]
    exact ⟨digit (by omega), digit (by omega), digit (by omega), digit (by omega), free⟩
  | case2 a b =>
    have aSmall := a.toNat_lt
    have bSmall := b.toNat_lt
    refine ⟨[_, _, _], rfl, ?_⟩
    simp only [List.mem_cons, List.not_mem_nil, or_false, not_or]
    exact ⟨digit (by omega), digit (by omega), digit (by omega)⟩
  | case3 a =>
    have aSmall := a.toNat_lt
    refine ⟨[_, _], rfl, ?_⟩
    simp only [List.mem_cons, List.not_mem_nil, or_false, not_or]
    exact ⟨digit (by omega), digit (by omega)⟩
  | case4 => exact ⟨[], rfl, List.not_mem_nil⟩

end AnselmGateway.Foundation.PaddedBase64
