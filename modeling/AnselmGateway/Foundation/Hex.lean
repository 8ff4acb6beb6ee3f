import AnselmGateway.Foundation.Bytes

/-! Bytes as pairs of lower-case hexadecimal digits. -/
namespace AnselmGateway.Foundation.Hex

/-- The digit of one nibble. -/
def digit (nibble : ℕ) : UInt8 := if nibble < 10 then UInt8.ofNat (48 + nibble) else UInt8.ofNat (87 + nibble)

/-- `hex.EncodeToString`. -/
def encode (bytes : Bytes) : Bytes := bytes.flatMap fun byte => [digit (byte.toNat / 16), digit (byte.toNat % 16)]

theorem digit_cases {nibble : ℕ} (small : nibble < 16) :
    48 ≤ (digit nibble).toNat ∧ (digit nibble).toNat ≤ 57 ∨ 97 ≤ (digit nibble).toNat ∧ (digit nibble).toNat ≤ 102 := by
  unfold digit
  split
  · rw [UInt8.toNat_ofNat']
    omega
  · rw [UInt8.toNat_ofNat']
    omega

/-- What is written is digits and letters. -/
theorem mem_encode {bytes : Bytes} {char : UInt8} (mem : char ∈ encode bytes) :
    48 ≤ char.toNat ∧ char.toNat ≤ 57 ∨ 97 ≤ char.toNat ∧ char.toNat ≤ 102 := by
  obtain ⟨byte, _, here⟩ := List.mem_flatMap.mp mem
  have small := byte.toNat_lt
  simp only [List.mem_cons, List.not_mem_nil, or_false] at here
  rcases here with rfl | rfl
  · exact digit_cases (by omega)
  · exact digit_cases (by omega)

theorem digit_injective : ∀ n < 16, ∀ m < 16, digit n = digit m → n = m := by decide

/-- Bytes are told by their digits. -/
theorem encode_injective : Function.Injective encode := by
  intro bytes
  induction bytes with
  | nil =>
    intro bytes' same
    cases bytes' with
    | nil => rfl
    | cons byte rest => cases same
  | cons byte rest ih =>
    intro bytes' same
    cases bytes' with
    | nil => cases same
    | cons byte' rest' =>
      simp only [encode, List.flatMap_cons, List.cons_append, List.nil_append, List.cons.injEq] at same
      obtain ⟨high, low, others⟩ := same
      have small := byte.toNat_lt
      have small' := byte'.toNat_lt
      have quotient := digit_injective _ (by omega) _ (by omega) high
      have remainder := digit_injective _ (by omega) _ (by omega) low
      have heads : byte = byte' := UInt8.toNat_inj.mp (by omega)
      rw [heads, ih others]

end AnselmGateway.Foundation.Hex
