import AnselmGateway.Foundation.Bytes

/-! UTF-8: which byte strings are valid, the runes a byte string decodes to, and
trimming white space at its ends. -/
namespace AnselmGateway.Foundation

/-! ## Validity -/

/-- How many continuation bytes are still to come, and what the next one may be. -/
structure Utf8State where
  owed : ℕ
  low : UInt8
  high : UInt8
  deriving DecidableEq

/-- Between two runes. -/
def Utf8State.start : Utf8State := ⟨0, 0x80, 0xBF⟩

/-- The state after the first byte of a rune. -/
def Utf8State.first (b : UInt8) : Option Utf8State :=
  if b < 0x80 then some .start
  else if b < 0xC2 then none
  else if b < 0xE0 then some ⟨1, 0x80, 0xBF⟩
  else if b = 0xE0 then some ⟨2, 0xA0, 0xBF⟩
  else if b = 0xED then some ⟨2, 0x80, 0x9F⟩
  else if b < 0xF0 then some ⟨2, 0x80, 0xBF⟩
  else if b = 0xF0 then some ⟨3, 0x90, 0xBF⟩
  else if b < 0xF4 then some ⟨3, 0x80, 0xBF⟩
  else if b = 0xF4 then some ⟨3, 0x80, 0x8F⟩
  else none

def Utf8State.next (s : Utf8State) (b : UInt8) : Option Utf8State :=
  if s.owed = 0 then Utf8State.first b
  else if b < s.low || s.high < b then none
  else if s.owed = 1 then some .start
  else some ⟨s.owed - 1, 0x80, 0xBF⟩

def Utf8State.run (s : Utf8State) : Bytes → Option Utf8State
  | [] => some s
  | b :: rest => (s.next b).bind fun next => next.run rest

/-- `utf8.Valid`. -/
def validUtf8 (bytes : Bytes) : Bool := (Utf8State.start.run bytes).any fun last => last.owed == 0

/-! ## Runes -/

def isContinuation (b : UInt8) : Bool := 0x80 ≤ b && b ≤ 0xBF

/-- `utf8.RuneError`. -/
def runeError : Char := Char.ofNat 0xFFFD

/-- The value of a multi-byte rune, from the bits of its first byte. -/
def joinBits (first : ℕ) (tail : Bytes) : ℕ :=
  tail.foldl (fun value b => value * 64 + b.toNat % 64) first

def isRune2 (a b : UInt8) : Bool := 0xC2 ≤ a && a < 0xE0 && isContinuation b

def isRune3 (a b c : UInt8) : Bool :=
  0xE0 ≤ a && a < 0xF0 && isContinuation b && isContinuation c && (a ≠ 0xE0 || 0xA0 ≤ b) &&
    (a ≠ 0xED || b ≤ 0x9F)

def isRune4 (a b c d : UInt8) : Bool :=
  0xF0 ≤ a && a ≤ 0xF4 && isContinuation b && isContinuation c && isContinuation d &&
    (a ≠ 0xF0 || 0x90 ≤ b) && (a ≠ 0xF4 || b ≤ 0x8F)

/-- `utf8.DecodeRune`: the first rune of a byte string that begins with `a`, and how
many bytes it takes. -/
def decodeRune (a : UInt8) (rest : Bytes) : Char × ℕ :=
  if a < 0x80 then (Char.ofNat a.toNat, 1)
  else match rest with
    | [] => (runeError, 1)
    | b :: rest =>
      if isRune2 a b then (Char.ofNat (joinBits (a.toNat % 32) [b]), 2)
      else match rest with
        | [] => (runeError, 1)
        | c :: rest =>
          if isRune3 a b c then (Char.ofNat (joinBits (a.toNat % 16) [b, c]), 3)
          else match rest with
            | [] => (runeError, 1)
            | d :: _ =>
              if isRune4 a b c d then (Char.ofNat (joinBits (a.toNat % 8) [b, c, d]), 4)
              else (runeError, 1)

/-- The runes of the first bytes of a string, at most so many. -/
def runesUpTo : ℕ → Bytes → List Char
  | 0, _ => []
  | _ + 1, [] => []
  | left + 1, a :: rest =>
    (decodeRune a rest).1 :: runesUpTo left ((a :: rest).drop (decodeRune a rest).2)

/-- The runes of a byte string, with `runeError` for every byte that belongs to none. -/
def runes (bytes : Bytes) : List Char := runesUpTo bytes.length bytes

/-! ## White space -/

/-- The one-byte encodings of `unicode.IsSpace`. -/
def isSpace1 (a : UInt8) : Bool := (0x09 ≤ a && a ≤ 0x0D) || a = 0x20

/-- The two-byte ones. -/
def isSpace2 (a b : UInt8) : Bool := a = 0xC2 && (b = 0x85 || b = 0xA0)

/-- The three-byte ones. -/
def isSpace3 (a b c : UInt8) : Bool :=
  (a = 0xE1 && b = 0x9A && c = 0x80) ||
  (a = 0xE2 && b = 0x80 && ((0x80 ≤ c && c ≤ 0x8A) || c = 0xA8 || c = 0xA9 || c = 0xAF)) ||
  (a = 0xE2 && b = 0x81 && c = 0x9F) || (a = 0xE3 && b = 0x80 && c = 0x80)

/-- Drop the spaces at the front of a list whose two- and three-byte ones are given. -/
def dropSpaces (two : UInt8 → UInt8 → Bool) (three : UInt8 → UInt8 → UInt8 → Bool) : Bytes → Bytes
  | [] => []
  | a :: rest =>
    if isSpace1 a then dropSpaces two three rest
    else match rest with
      | b :: rest1 =>
        if two a b then dropSpaces two three rest1
        else match rest1 with
          | c :: rest2 => if three a b c then dropSpaces two three rest2 else a :: rest
          | [] => a :: rest
      | [] => a :: rest

def trimLeftBytes (bytes : Bytes) : Bytes := dropSpaces isSpace2 isSpace3 bytes

def trimRightBytes (bytes : Bytes) : Bytes :=
  (dropSpaces (fun b a => isSpace2 a b) (fun c b a => isSpace3 a b c) bytes.reverse).reverse

/-- `bytes.TrimSpace`. -/
def trimSpaceBytes (bytes : Bytes) : Bytes := trimRightBytes (trimLeftBytes bytes)

/-! ## Validity of a text in parts -/

section Valid
variable {s : Utf8State} {left right : Bytes} {b : UInt8}

theorem Utf8State.run_append : s.run (left ++ right) = (s.run left).bind fun next => next.run right := by
  induction left generalizing s with
  | nil => rfl
  | cons b left ih =>
    simp only [List.cons_append, Utf8State.run]
    cases s.next b with
    | none => rfl
    | some next => exact ih

/-- An ASCII byte stands between two runes. -/
theorem Utf8State.next_ascii (ascii : b < 0x80) {next : Utf8State} (bound : 0x80 ≤ s.low)
    (ran : s.next b = some next) : s.owed = 0 ∧ next = .start := by
  unfold Utf8State.next at ran
  split at ran
  · rename_i between
    unfold Utf8State.first at ran
    rw [if_pos ascii] at ran
    exact ⟨between, (Option.some.inj ran).symm⟩
  · have below : b < s.low := UInt8.lt_of_lt_of_le ascii bound
    simp [below] at ran

theorem Utf8State.first_low {next : Utf8State} (ran : Utf8State.first b = some next) :
    0x80 ≤ next.low := by
  unfold Utf8State.first at ran
  repeat' split at ran
  all_goals first
    | cases ran; decide
    | cases ran

theorem Utf8State.next_low {next : Utf8State} (ran : s.next b = some next) : 0x80 ≤ next.low := by
  unfold Utf8State.next at ran
  split at ran
  · exact Utf8State.first_low ran
  · split at ran
    · cases ran
    · split at ran
      · cases ran
        decide
      · cases ran
        exact UInt8.le_refl 0x80

theorem Utf8State.run_low (bound : 0x80 ≤ s.low) {last : Utf8State} (ran : s.run left = some last) :
    0x80 ≤ last.low := by
  induction left generalizing s with
  | nil =>
    cases ran
    exact bound
  | cons b left ih =>
    obtain ⟨next, stepped, rest⟩ := Option.bind_eq_some_iff.mp ran
    exact ih (Utf8State.next_low stepped) rest

/-- A text that goes on with an ASCII byte is valid exactly if both parts are. -/
theorem validUtf8_append (ascii : b < 0x80) :
    validUtf8 (left ++ b :: right) = (validUtf8 left && validUtf8 (b :: right)) := by
  have here : Utf8State.start.next b = some .start := by
    simp [Utf8State.next, Utf8State.first, Utf8State.start, ascii]
  unfold validUtf8
  rw [Utf8State.run_append]
  cases ran : Utf8State.start.run left with
  | none => rfl
  | some last =>
    have bound := Utf8State.run_low (s := .start) (by decide) ran
    simp only [Option.bind_some, Option.any_some, Utf8State.run, here]
    by_cases between : last.owed = 0
    · have onward : last.next b = some .start := by
        simp [Utf8State.next, Utf8State.first, between, ascii]
      rw [onward, between]
      rfl
    · have refused : last.next b = none := by
        cases stepped : last.next b with
        | none => rfl
        | some next => exact absurd (Utf8State.next_ascii ascii bound stepped).1 between
      rw [refused]
      simp [between]

end Valid

/-! ## Runes of a text in parts -/

section Runes
variable {a b c d : UInt8} {rest : Bytes}

theorem decodeRune_pos : 0 < (decodeRune a rest).2 := by
  unfold decodeRune
  repeat' split
  all_goals exact Nat.zero_lt_succ _

theorem runesUpTo_enough {left right : ℕ} {bytes : Bytes} (few : bytes.length ≤ left)
    (also : bytes.length ≤ right) : runesUpTo left bytes = runesUpTo right bytes := by
  induction left generalizing right bytes with
  | zero =>
    obtain rfl : bytes = [] := List.length_eq_zero_iff.mp (Nat.le_zero.mp few)
    cases right <;> rfl
  | succ left ih =>
    cases bytes with
    | nil => cases right <;> rfl
    | cons a rest =>
      cases right with
      | zero => cases also
      | succ right =>
        have positive : 0 < (decodeRune a rest).2 := decodeRune_pos
        simp only [List.length_cons] at few also
        rw [runesUpTo, runesUpTo, ih]
        · rw [List.length_drop, List.length_cons]
          omega
        · rw [List.length_drop, List.length_cons]
          omega

/-- The runes of a text, one by one. -/
theorem runes_cons : runes (a :: rest) =
    (decodeRune a rest).1 :: runes ((a :: rest).drop (decodeRune a rest).2) := by
  have positive : 0 < (decodeRune a rest).2 := decodeRune_pos
  rw [runes, List.length_cons, runesUpTo, runes]
  refine congrArg _ (runesUpTo_enough ?_ (Nat.le_refl _))
  rw [List.length_drop, List.length_cons]
  omega

theorem runes_ascii (ascii : a < 0x80) : runes (a :: rest) = Char.ofNat a.toNat :: runes rest := by
  have decoded : decodeRune a rest = (Char.ofNat a.toNat, 1) := if_pos ascii
  rw [runes_cons, decoded]
  rfl

theorem isContinuation_iff : isContinuation b = true ↔ 0x80 ≤ b.toNat ∧ b.toNat ≤ 0xBF := by
  simp [isContinuation, UInt8.le_iff_toNat_le]

theorem decodeRune_two (low : 0xC2 ≤ a.toNat) (high : a.toNat < 0xE0) (contB : isContinuation b = true) :
    decodeRune a (b :: rest) = (Char.ofNat (a.toNat % 32 * 64 + b.toNat % 64), 2) := by
  have multi : ¬ a < 0x80 := by
    rw [UInt8.lt_iff_toNat_lt]
    change ¬ a.toNat < 128
    omega
  have two : isRune2 a b = true := by
    simp only [isRune2, contB, Bool.and_true, Bool.and_eq_true, decide_eq_true_eq,
      UInt8.le_iff_toNat_le, UInt8.lt_iff_toNat_lt]
    exact ⟨low, high⟩
  simp only [decodeRune, multi, two, if_false, if_true, joinBits, List.foldl_cons, List.foldl_nil]

theorem decodeRune_three (low : 0xE0 ≤ a.toNat) (high : a.toNat < 0xF0)
    (contB : isContinuation b = true) (contC : isContinuation c = true)
    (least : a.toNat = 0xE0 → 0xA0 ≤ b.toNat) (most : a.toNat = 0xED → b.toNat ≤ 0x9F) :
    decodeRune a (b :: c :: rest) =
      (Char.ofNat ((a.toNat % 16 * 64 + b.toNat % 64) * 64 + c.toNat % 64), 3) := by
  have multi : ¬ a < 0x80 := by
    rw [UInt8.lt_iff_toNat_lt]
    change ¬ a.toNat < 128
    omega
  have notTwo : isRune2 a b = false := by
    have above : ¬ a < 0xE0 := by
      rw [UInt8.lt_iff_toNat_lt]
      change ¬ a.toNat < 224
      omega
    simp [isRune2, above]
  have three : isRune3 a b c = true := by
    simp only [isRune3, contB, contC, Bool.and_true, Bool.and_eq_true, Bool.or_eq_true,
      decide_eq_true_eq, UInt8.le_iff_toNat_le, UInt8.lt_iff_toNat_lt, ne_eq, ← UInt8.toNat_inj]
    exact ⟨⟨⟨low, high⟩, Decidable.not_or_of_imp least⟩, Decidable.not_or_of_imp most⟩
  simp only [decodeRune, multi, notTwo, three, if_true, if_false, joinBits, List.foldl_cons,
    List.foldl_nil]
  rfl

theorem decodeRune_four (low : 0xF0 ≤ a.toNat) (high : a.toNat ≤ 0xF4)
    (contB : isContinuation b = true) (contC : isContinuation c = true)
    (contD : isContinuation d = true) (least : a.toNat = 0xF0 → 0x90 ≤ b.toNat)
    (most : a.toNat = 0xF4 → b.toNat ≤ 0x8F) :
    decodeRune a (b :: c :: d :: rest) =
      (Char.ofNat (((a.toNat % 8 * 64 + b.toNat % 64) * 64 + c.toNat % 64) * 64 + d.toNat % 64), 4) := by
  have multi : ¬ a < 0x80 := by
    rw [UInt8.lt_iff_toNat_lt]
    change ¬ a.toNat < 128
    omega
  have above {k : UInt8} (small : k ≤ 0xF0) : ¬ a < k := by
    rw [UInt8.lt_iff_toNat_lt]
    have : k.toNat ≤ 240 := UInt8.le_iff_toNat_le.mp small
    omega
  have notTwo : isRune2 a b = false := by
    simp [isRune2, above (show (0xE0 : UInt8) ≤ 0xF0 by decide)]
  have notThree : isRune3 a b c = false := by
    simp [isRune3, above (show (0xF0 : UInt8) ≤ 0xF0 by decide)]
  have four : isRune4 a b c d = true := by
    simp only [isRune4, contB, contC, contD, Bool.and_true, Bool.and_eq_true, Bool.or_eq_true,
      decide_eq_true_eq, UInt8.le_iff_toNat_le, ne_eq, ← UInt8.toNat_inj]
    exact ⟨⟨⟨low, high⟩, Decidable.not_or_of_imp least⟩, Decidable.not_or_of_imp most⟩
  simp only [decodeRune, multi, notTwo, notThree, four, if_true, if_false, joinBits, List.foldl_cons,
    List.foldl_nil]
  rfl

/-- A rune that was encoded is the one that is decoded. -/
theorem runes_encode {char : Char} :
    runes (String.utf8EncodeChar char ++ rest) = char :: runes rest := by
  have byte {n : ℕ} (small : n < 256) : (UInt8.ofNat n).toNat = n := by
    rw [UInt8.toNat_ofNat']
    exact Nat.mod_eq_of_lt small
  have tail (n : ℕ) : (UInt8.ofNat (n % 0x40 + 0x80)).toNat = n % 0x40 + 0x80 := byte (by omega)
  have continues (n : ℕ) : isContinuation (UInt8.ofNat (n % 0x40 + 0x80)) = true := by
    rw [isContinuation_iff, tail]
    omega
  have back : Char.ofNat char.val.toNat = char := Char.ofNat_toNat char
  have valid : char.val.toNat < 0xD800 ∨ 0xDFFF < char.val.toNat ∧ char.val.toNat < 0x110000 :=
    char.valid
  unfold String.utf8EncodeChar
  generalize char.val.toNat = v at back valid
  dsimp only
  split
  · have small : (UInt8.ofNat v).toNat = v := byte (by omega)
    rw [List.singleton_append, runes_ascii, small, back]
    rw [UInt8.lt_iff_toNat_lt, small]
    change v < 128
    omega
  · split
    · have first : (UInt8.ofNat (v / 64 % 0x20 + 0xC0)).toNat = v / 64 + 0xC0 := by
        rw [byte (by omega)]
        omega
      rw [List.cons_append, List.singleton_append, runes_cons,
        decodeRune_two (by omega) (by omega) (continues v), first, tail]
      rw [show (v / 64 + 0xC0) % 32 * 64 + (v % 0x40 + 0x80) % 64 = v by omega, back]
      rfl
    · split
      · have first : (UInt8.ofNat (v / 4096 % 0x10 + 0xE0)).toNat = v / 4096 + 0xE0 := by
          rw [byte (by omega)]
          omega
        simp only [List.cons_append, List.nil_append]
        rw [runes_cons, decodeRune_three (by omega) (by omega) (continues _) (continues _)
          (by rw [tail]; omega) (by rw [tail]; omega), first, tail, tail]
        rw [show ((v / 4096 + 0xE0) % 16 * 64 + (v / 64 % 0x40 + 0x80) % 64) * 64 +
          (v % 0x40 + 0x80) % 64 = v by omega, back]
        rfl
      · have first : (UInt8.ofNat (v / 262144 % 0x08 + 0xF0)).toNat = v / 262144 + 0xF0 := by
          rw [byte (by omega)]
          omega
        simp only [List.cons_append, List.nil_append]
        rw [runes_cons, decodeRune_four (by omega) (by omega) (continues _) (continues _)
          (continues _) (by rw [tail]; omega) (by rw [tail]; omega), first, tail, tail, tail]
        rw [show (((v / 262144 + 0xF0) % 8 * 64 + (v / 4096 % 0x40 + 0x80) % 64) * 64 +
          (v / 64 % 0x40 + 0x80) % 64) * 64 + (v % 0x40 + 0x80) % 64 = v by omega, back]
        rfl

end Runes

/-! ## Validity of what is encoded -/

section Encode
variable {s : Utf8State} {a b c d : UInt8} {left right : Bytes}

theorem validUtf8_cons (ascii : b < 0x80) : validUtf8 (b :: right) = validUtf8 right := by
  have here : Utf8State.start.next b = some .start := by
    simp [Utf8State.next, Utf8State.first, Utf8State.start, ascii]
  rw [validUtf8, Utf8State.run, here]
  rfl

theorem validUtf8_ascii {spaces : Bytes} (ascii : ∀ b ∈ spaces, b < 0x80) :
    validUtf8 (spaces ++ right) = validUtf8 right := by
  induction spaces with
  | nil => rfl
  | cons b spaces ih =>
    rw [List.cons_append, validUtf8_cons (ascii b List.mem_cons_self)]
    exact ih fun b' member => ascii b' (List.mem_cons_of_mem b member)

/-- Behind a whole rune a text goes on as if it began there. -/
theorem Utf8State.run_whole (whole : s.owed = 0) :
    ((s.run right).any fun last => last.owed == 0) = validUtf8 right := by
  cases right with
  | nil => simp [Utf8State.run, whole, validUtf8, Utf8State.start]
  | cons b right =>
    have same : s.next b = Utf8State.start.next b := by
      unfold Utf8State.next
      rw [if_pos whole]
      rfl
    rw [validUtf8, Utf8State.run, Utf8State.run, same]

theorem validUtf8_concat (left_ : validUtf8 left = true) (right_ : validUtf8 right = true) :
    validUtf8 (left ++ right) = true := by
  obtain ⟨last, ran, whole⟩ := (Option.any_eq_true _ _).mp left_
  rw [validUtf8, Utf8State.run_append, ran, Option.bind_some, Utf8State.run_whole (by simpa using whole),
    right_]

/-- A byte within the bounds continues a rune. -/
theorem Utf8State.run_within {n : ℕ} {low high : UInt8} (least : low.toNat ≤ b.toNat)
    (most : b.toNat ≤ high.toNat) : Utf8State.run ⟨n + 1, low, high⟩ (b :: right) =
      if n = 0 then Utf8State.start.run right else Utf8State.run ⟨n, 0x80, 0xBF⟩ right := by
  have inside : ¬(decide (b < low) || decide (high < b)) = true := by
    simp only [Bool.or_eq_true, decide_eq_true_eq, not_or, UInt8.not_lt, UInt8.le_iff_toNat_le]
    exact ⟨least, most⟩
  rw [Utf8State.run, Utf8State.next, if_neg (Nat.succ_ne_zero n), if_neg inside]
  cases n <;> rfl

theorem Utf8State.run_continuation {n : ℕ} (continues : isContinuation b = true) :
    Utf8State.run ⟨n + 1, 0x80, 0xBF⟩ (b :: right) =
      if n = 0 then Utf8State.start.run right else Utf8State.run ⟨n, 0x80, 0xBF⟩ right :=
  Utf8State.run_within (isContinuation_iff.mp continues).1 (isContinuation_iff.mp continues).2

/-- What a first byte says, told for every byte there is. -/
theorem Utf8State.first_eq {low high : ℕ} (next : ℕ → Utf8State)
    (every : ∀ n < 256, low ≤ n → n < high → Utf8State.first (UInt8.ofNat n) = some (next n))
    (least : low ≤ a.toNat) (most : a.toNat < high) : Utf8State.first a = some (next a.toNat) := by
  have here := every a.toNat a.toNat_lt least most
  rwa [UInt8.ofNat_toNat] at here

theorem first_two (low : 0xC2 ≤ a.toNat) (high : a.toNat < 0xE0) :
    Utf8State.first a = some ⟨1, 0x80, 0xBF⟩ :=
  Utf8State.first_eq (fun _ => ⟨1, 0x80, 0xBF⟩) (by decide +kernel) low high

theorem first_three (low : 0xE0 ≤ a.toNat) (high : a.toNat < 0xF0) :
    Utf8State.first a = some ⟨2, if a.toNat = 0xE0 then 0xA0 else 0x80,
      if a.toNat = 0xED then 0x9F else 0xBF⟩ :=
  Utf8State.first_eq (fun n => ⟨2, if n = 0xE0 then 0xA0 else 0x80,
    if n = 0xED then 0x9F else 0xBF⟩) (by decide +kernel) low high

theorem first_four (low : 0xF0 ≤ a.toNat) (high : a.toNat < 0xF5) :
    Utf8State.first a = some ⟨3, if a.toNat = 0xF0 then 0x90 else 0x80,
      if a.toNat = 0xF4 then 0x8F else 0xBF⟩ :=
  Utf8State.first_eq (fun n => ⟨3, if n = 0xF0 then 0x90 else 0x80,
    if n = 0xF4 then 0x8F else 0xBF⟩) (by decide +kernel) low high

theorem validUtf8_first (first_ : Utf8State.first a = some s) :
    validUtf8 (a :: right) = (s.run right).any fun last => last.owed == 0 := by
  have here : Utf8State.start.next a = some s := first_
  rw [validUtf8, Utf8State.run, here, Option.bind_some]

theorem validUtf8_two (low : 0xC2 ≤ a.toNat) (high : a.toNat < 0xE0) (contB : isContinuation b = true) :
    validUtf8 [a, b] = true := by
  rw [validUtf8_first (first_two low high), Utf8State.run_continuation contB]
  rfl

theorem validUtf8_three (low : 0xE0 ≤ a.toNat) (high : a.toNat < 0xF0)
    (contB : isContinuation b = true) (contC : isContinuation c = true)
    (least : a.toNat = 0xE0 → 0xA0 ≤ b.toNat) (most : a.toNat = 0xED → b.toNat ≤ 0x9F) :
    validUtf8 [a, b, c] = true := by
  obtain ⟨low_, high_⟩ := isContinuation_iff.mp contB
  rw [validUtf8_first (first_three low high), Utf8State.run_within, if_neg (by decide),
    Utf8State.run_continuation contC]
  · rfl
  · split
    · rename_i bound
      exact least bound
    · exact low_
  · split
    · rename_i bound
      exact most bound
    · exact high_

theorem validUtf8_four (low : 0xF0 ≤ a.toNat) (high : a.toNat ≤ 0xF4)
    (contB : isContinuation b = true) (contC : isContinuation c = true)
    (contD : isContinuation d = true) (least : a.toNat = 0xF0 → 0x90 ≤ b.toNat)
    (most : a.toNat = 0xF4 → b.toNat ≤ 0x8F) : validUtf8 [a, b, c, d] = true := by
  obtain ⟨low_, high_⟩ := isContinuation_iff.mp contB
  rw [validUtf8_first (first_four low (Nat.lt_succ_of_le high)), Utf8State.run_within,
    if_neg (by decide), Utf8State.run_continuation contC, if_neg (by decide),
    Utf8State.run_continuation contD]
  · rfl
  · split
    · rename_i bound
      exact least bound
    · exact low_
  · split
    · rename_i bound
      exact most bound
    · exact high_

theorem validUtf8_encode (char : Char) : validUtf8 (String.utf8EncodeChar char) = true := by
  have byte {n : ℕ} (small : n < 256) : (UInt8.ofNat n).toNat = n := by
    rw [UInt8.toNat_ofNat']
    exact Nat.mod_eq_of_lt small
  have tail (n : ℕ) : (UInt8.ofNat (n % 0x40 + 0x80)).toNat = n % 0x40 + 0x80 := byte (by omega)
  have continues (n : ℕ) : isContinuation (UInt8.ofNat (n % 0x40 + 0x80)) = true := by
    rw [isContinuation_iff, tail]
    omega
  have valid : char.val.toNat < 0xD800 ∨ 0xDFFF < char.val.toNat ∧ char.val.toNat < 0x110000 :=
    char.valid
  unfold String.utf8EncodeChar
  generalize char.val.toNat = v at valid
  dsimp only
  split
  · rw [validUtf8_cons]
    · rfl
    · rw [UInt8.lt_iff_toNat_lt, byte (by omega)]
      change v < 128
      omega
  · split
    · have first : (UInt8.ofNat (v / 64 % 0x20 + 0xC0)).toNat = v / 64 + 0xC0 := by
        rw [byte (by omega)]
        omega
      exact validUtf8_two (by omega) (by omega) (continues v)
    · split
      · have first : (UInt8.ofNat (v / 4096 % 0x10 + 0xE0)).toNat = v / 4096 + 0xE0 := by
          rw [byte (by omega)]
          omega
        exact validUtf8_three (by omega) (by omega) (continues _) (continues _)
          (by rw [tail]; omega) (by rw [tail]; omega)
      · have first : (UInt8.ofNat (v / 262144 % 0x08 + 0xF0)).toNat = v / 262144 + 0xF0 := by
          rw [byte (by omega)]
          omega
        exact validUtf8_four (by omega) (by omega) (continues _) (continues _)
          (continues _) (by rw [tail]; omega) (by rw [tail]; omega)

end Encode

/-! ## Trimming around what is no space -/

/-- An ASCII byte that is no space. -/
def Firm (c : UInt8) : Prop := c < 0x80 ∧ isSpace1 c = false

instance (c : UInt8) : Decidable (Firm c) := inferInstanceAs (Decidable (_ ∧ _))

/-- A firm byte is part of no wider space. -/
structure Wide (two : UInt8 → UInt8 → Bool) (three : UInt8 → UInt8 → UInt8 → Bool) : Prop where
  two_first : ∀ a b, Firm a → two a b = false
  two_second : ∀ a b, Firm b → two a b = false
  three_first : ∀ a b c, Firm a → three a b c = false
  three_second : ∀ a b c, Firm b → three a b c = false
  three_third : ∀ a b c, Firm c → three a b c = false

section Trim
variable {two : UInt8 → UInt8 → Bool} {three : UInt8 → UInt8 → UInt8 → Bool} {c : UInt8}

theorem dropSpaces_firm (wide : Wide two three) (firm : Firm c) (rest : Bytes) :
    dropSpaces two three (c :: rest) = c :: rest := by
  rw [dropSpaces.eq_def]
  dsimp only
  rw [firm.2, if_neg (by decide)]
  cases rest with
  | nil => rfl
  | cons b rest =>
    dsimp only
    rw [wide.two_first c b firm, if_neg (by decide)]
    cases rest with
    | nil => rfl
    | cons d rest =>
      dsimp only
      rw [wide.three_first c b d firm, if_neg (by decide)]

theorem dropSpaces_spaces {spaces rest : Bytes} (all : spaces.all isSpace1 = true) :
    dropSpaces two three (spaces ++ rest) = dropSpaces two three rest := by
  induction spaces with
  | nil => rfl
  | cons a spaces ih =>
    rw [List.all_cons, Bool.and_eq_true] at all
    rw [List.cons_append, dropSpaces.eq_def]
    dsimp only
    rw [if_pos all.1, ih all.2]

/-- What is dropped before a firm byte does not depend on what is behind it. -/
theorem dropSpaces_before (wide : Wide two three) (firm : Firm c) : (front : Bytes) →
    ∃ kept, kept <:+ front ∧ ∀ rest, dropSpaces two three (front ++ c :: rest) = kept ++ c :: rest
  | [] => ⟨[], List.suffix_refl [], dropSpaces_firm wide firm⟩
  | a :: front => by
    by_cases one : isSpace1 a = true
    · obtain ⟨kept, suffix, drops⟩ := dropSpaces_before wide firm front
      refine ⟨kept, suffix.trans (List.suffix_cons a front), fun rest => ?_⟩
      rw [List.cons_append, dropSpaces.eq_def]
      dsimp only
      rw [if_pos one, drops]
    · match front with
      | [] =>
        refine ⟨[a], List.suffix_refl _, fun rest => ?_⟩
        rw [List.singleton_append, dropSpaces.eq_def]
        dsimp only
        rw [if_neg one, wide.two_second a c firm, if_neg (by decide)]
        cases rest with
        | nil => rfl
        | cons d rest =>
          dsimp only
          rw [wide.three_second a c d firm, if_neg (by decide)]
      | b :: front =>
        by_cases pair : two a b = true
        · obtain ⟨kept, suffix, drops⟩ := dropSpaces_before wide firm front
          refine ⟨kept, suffix.trans ((List.suffix_cons b front).trans (List.suffix_cons a _)),
            fun rest => ?_⟩
          rw [List.cons_append, List.cons_append, dropSpaces.eq_def]
          dsimp only
          rw [if_neg one, if_pos pair, drops]
        · match front with
          | [] =>
            refine ⟨[a, b], List.suffix_refl _, fun rest => ?_⟩
            rw [List.cons_append, List.singleton_append, dropSpaces.eq_def]
            dsimp only
            rw [if_neg one, if_neg pair, wide.three_third a b c firm, if_neg (by decide)]
          | d :: front =>
            by_cases triple : three a b d = true
            · obtain ⟨kept, suffix, drops⟩ := dropSpaces_before wide firm front
              refine ⟨kept, suffix.trans ((List.suffix_cons d front).trans
                ((List.suffix_cons b _).trans (List.suffix_cons a _))), fun rest => ?_⟩
              simp only [List.cons_append]
              rw [dropSpaces.eq_def]
              dsimp only
              rw [if_neg one, if_neg pair, if_pos triple, drops]
            · refine ⟨a :: b :: d :: front, List.suffix_refl _, fun rest => ?_⟩
              simp only [List.cons_append]
              rw [dropSpaces.eq_def]
              dsimp only
              rw [if_neg one, if_neg pair, if_neg triple]

theorem dropSpaces_suffix (text : Bytes) : dropSpaces two three text <:+ text := by
  fun_induction dropSpaces two three text with
  | case1 => exact List.suffix_refl []
  | case2 a rest _ ih => exact ih.trans (List.suffix_cons a rest)
  | case3 a _ b rest _ ih => exact ih.trans ((List.suffix_cons b rest).trans (List.suffix_cons a _))
  | case4 a _ b _ c rest _ ih =>
    exact ih.trans ((List.suffix_cons c rest).trans
      ((List.suffix_cons b _).trans (List.suffix_cons a _)))
  | case5 => exact List.suffix_refl _
  | case6 => exact List.suffix_refl _
  | case7 => exact List.suffix_refl _

/-- What was dropped before a firm byte is dropped before it, whatever is behind it. -/
theorem dropSpaces_eq_cons (wide : Wide two three) (firm : Firm c) {text rest : Bytes}
    (dropped : dropSpaces two three text = c :: rest) :
    ∃ front, text = front ++ c :: rest ∧
      ∀ other, dropSpaces two three (front ++ c :: other) = c :: other := by
  obtain ⟨front, same⟩ : dropSpaces two three text <:+ text := dropSpaces_suffix text
  rw [dropped] at same
  obtain ⟨kept, _, drops⟩ := dropSpaces_before wide firm front
  have none_ : kept = [] := by
    have here := drops rest
    rw [same, dropped] at here
    have length := congrArg List.length here
    rw [List.length_append] at length
    exact List.length_eq_zero_iff.mp (by omega)
  refine ⟨front, same.symm, fun other => ?_⟩
  rw [drops, none_, List.nil_append]

end Trim

theorem not_firm_of_high {c : UInt8} (high : 0x80 ≤ c) : ¬Firm c :=
  fun firm => absurd firm.1 (UInt8.not_lt.mpr high)

theorem isSpace2_high {a b : UInt8} (two : isSpace2 a b = true) : 0x80 ≤ a ∧ 0x80 ≤ b := by
  simp only [isSpace2, Bool.and_eq_true, Bool.or_eq_true, decide_eq_true_eq] at two
  obtain ⟨rfl, rfl | rfl⟩ := two <;> decide

theorem isSpace3_high {a b c : UInt8} (three : isSpace3 a b c = true) :
    0x80 ≤ a ∧ 0x80 ≤ b ∧ 0x80 ≤ c := by
  simp only [isSpace3, Bool.and_eq_true, Bool.or_eq_true, decide_eq_true_eq] at three
  rcases three with ((⟨⟨rfl, rfl⟩, rfl⟩ | ⟨⟨rfl, rfl⟩, third⟩) | ⟨⟨rfl, rfl⟩, rfl⟩) | ⟨⟨rfl, rfl⟩, rfl⟩
  · decide
  · refine ⟨by decide, by decide, ?_⟩
    rcases third with ((low | rfl) | rfl) | rfl
    · exact low.1
    · decide
    · decide
    · decide
  · decide
  · decide

theorem wide_left : Wide isSpace2 isSpace3 where
  two_first _ _ firm := Bool.eq_false_iff.mpr fun two => not_firm_of_high (isSpace2_high two).1 firm
  two_second _ _ firm := Bool.eq_false_iff.mpr fun two => not_firm_of_high (isSpace2_high two).2 firm
  three_first _ _ _ firm :=
    Bool.eq_false_iff.mpr fun three => not_firm_of_high (isSpace3_high three).1 firm
  three_second _ _ _ firm :=
    Bool.eq_false_iff.mpr fun three => not_firm_of_high (isSpace3_high three).2.1 firm
  three_third _ _ _ firm :=
    Bool.eq_false_iff.mpr fun three => not_firm_of_high (isSpace3_high three).2.2 firm

theorem wide_right : Wide (fun b a => isSpace2 a b) (fun c b a => isSpace3 a b c) where
  two_first a b := wide_left.two_second b a
  two_second a b := wide_left.two_first b a
  three_first a b c := wide_left.three_third c b a
  three_second a b c := wide_left.three_second c b a
  three_third a b c := wide_left.three_first c b a

/-- Trimming at the left stops at a firm byte. -/
theorem trimLeftBytes_spaces {spaces rest : Bytes} {c : UInt8} (all : spaces.all isSpace1 = true)
    (firm : Firm c) : trimLeftBytes (spaces ++ c :: rest) = c :: rest := by
  rw [trimLeftBytes, dropSpaces_spaces all, dropSpaces_firm wide_left firm]

/-- Trimming at the right keeps all up to a firm byte. -/
theorem trimRightBytes_firm {c : UInt8} (firm : Firm c) (rest : Bytes) :
    ∃ kept, kept <+: rest ∧ ∀ front, trimRightBytes (front ++ c :: rest) = front ++ c :: kept := by
  obtain ⟨kept, suffix, drops⟩ := dropSpaces_before wide_right firm rest.reverse
  refine ⟨kept.reverse, ?_, fun front => ?_⟩
  · rw [← List.reverse_suffix, List.reverse_reverse]
    exact suffix
  · have flipped : (front ++ c :: rest).reverse = rest.reverse ++ c :: front.reverse := by simp
    rw [trimRightBytes, flipped, drops]
    simp

theorem trimRightBytes_concat {c : UInt8} (firm : Firm c) (front : Bytes) :
    trimRightBytes (front ++ [c]) = front ++ [c] := by
  obtain ⟨kept, none_, trims⟩ := trimRightBytes_firm firm []
  rw [trims, List.prefix_nil.mp none_]

theorem trimRightBytes_spaces {tail : Bytes} {c : UInt8} (all : tail.all isSpace1 = true)
    (firm : Firm c) (front : Bytes) : trimRightBytes (front ++ c :: tail) = front ++ [c] := by
  have turned : (front ++ c :: tail).reverse = tail.reverse ++ c :: front.reverse := by simp
  rw [trimRightBytes, turned, dropSpaces_spaces (by rw [List.all_reverse, all]),
    dropSpaces_firm wide_right firm]
  simp

/-- A text between two firm bytes is freed of the spaces around it. -/
theorem trimSpaceBytes_between {spaces middle tail : Bytes} {first last : UInt8}
    (spaces_ : spaces.all isSpace1 = true) (tail_ : tail.all isSpace1 = true) (first_ : Firm first)
    (last_ : Firm last) :
    trimSpaceBytes (spaces ++ first :: (middle ++ last :: tail)) = first :: (middle ++ [last]) := by
  have trimmed : trimRightBytes (first :: middle ++ last :: tail) = _ :=
    trimRightBytes_spaces tail_ last_ _
  rw [trimSpaceBytes, trimLeftBytes_spaces spaces_ first_, ← List.cons_append, trimmed]
  rfl

theorem trimSpaceBytes_blank {spaces : Bytes} (all : spaces.all isSpace1 = true) :
    trimSpaceBytes spaces = [] := by
  have dropped : trimLeftBytes spaces = dropSpaces isSpace2 isSpace3 [] := by
    rw [← List.append_nil spaces, trimLeftBytes, dropSpaces_spaces all]
  rw [trimSpaceBytes, dropped]
  rfl

/-- What is behind a firm byte is trimmed at the right alone. -/
theorem trimSpaceBytes_firm {spaces rest : Bytes} {c : UInt8} (all : spaces.all isSpace1 = true)
    (firm : Firm c) : ∃ kept, kept <+: rest ∧ trimSpaceBytes (spaces ++ c :: rest) = c :: kept := by
  obtain ⟨kept, front, trims⟩ := trimRightBytes_firm firm rest
  exact ⟨kept, front, by rw [trimSpaceBytes, trimLeftBytes_spaces all firm]; exact trims []⟩

/-- A text that is trimmed to one between two firm bytes has only spaces around it. -/
theorem trimSpaceBytes_eq {text middle : Bytes} {first last : UInt8} (first_ : Firm first)
    (last_ : Firm last) (trimmed : trimSpaceBytes text = first :: (middle ++ [last])) :
    ∃ before after, text = before ++ first :: (middle ++ last :: after) ∧
      (∀ rest, trimLeftBytes (before ++ first :: rest) = first :: rest) ∧
      ∀ front, trimRightBytes (front ++ last :: after) = front ++ [last] := by
  have flipped : dropSpaces (fun b a => isSpace2 a b) (fun c b a => isSpace3 a b c)
      (trimLeftBytes text).reverse = last :: (middle.reverse ++ [first]) := by
    rw [trimSpaceBytes, trimRightBytes, List.reverse_eq_iff] at trimmed
    rw [trimmed]
    simp
  obtain ⟨back, whole, right⟩ := dropSpaces_eq_cons wide_right last_ flipped
  have whole : trimLeftBytes text = first :: (middle ++ last :: back.reverse) := by
    rw [List.reverse_eq_iff] at whole
    rw [whole]
    simp
  obtain ⟨front, same, left⟩ := dropSpaces_eq_cons wide_left first_ whole
  refine ⟨front, back.reverse, same, left, fun front => ?_⟩
  have turned : (front ++ last :: back.reverse).reverse = back ++ last :: front.reverse := by simp
  rw [trimRightBytes, turned, right]
  simp

end AnselmGateway.Foundation
