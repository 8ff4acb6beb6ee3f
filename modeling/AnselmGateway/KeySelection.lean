import AnselmGateway.Foundation.CursorScan
import AnselmGateway.Upstream

/-! Which keys a selection can hand out. The cursor wraps where its word does: a pool whose
size divides the word never notices, any other has positions a selection across the wrap
does not look at. -/
namespace AnselmGateway.KeySelection
open Foundation CursorScan Upstream

/-- A pool as `newRedactingTransport` builds one, once it has a key: every key under its own
index, and no more of them than a slice holds. -/
structure Pool where
  transport : Transport
  some_ : transport.keys ≠ []
  fits : transport.keys.length < 2 ^ 63
  ids : (transport.keys.map KeyState.id).Nodup

/-- The health gate of one key. -/
def gated (now : ℤ) (isOpen : ℕ → Bool) (key : KeyState) : Bool :=
  decide (now < key.cooldownUntil) || isOpen key.id

/-- What `pickKey` says of itself: none only when every key is gated, and otherwise one
that is not. -/
def Complete (t : Transport) (now : ℤ) (isOpen : ℕ → Bool) : Prop :=
  match (t.pickKey now isOpen).1 with
  | none => ∀ key ∈ t.keys, gated now isOpen key = true
  | some key => key ∈ t.keys ∧ gated now isOpen key = false

/-- Whether a selection looks at the key in a position. -/
def Scans (t : Transport) (j : ℕ) : Prop := Reached (2 ^ 64) t.keys.length t.rr.toNat j

variable {t : Transport} {now : ℤ} {isOpen : ℕ → Bool}

/-! ## What a selection looks at -/

theorem scan_index {t : Transport} {i : ℕ} (fits : t.keys.length < 2 ^ 63) (inside : i < t.keys.length) :
    ((t.rr + UInt64.ofNat i) % UInt64.ofNat t.keys.length).toNat =
      position (2 ^ 64) t.keys.length t.rr.toNat i := by
  rw [UInt64.toNat_mod, UInt64.toNat_add, UInt64.toNat_ofNat_of_lt' (by simp [UInt64.size]; omega),
    UInt64.toNat_ofNat_of_lt' (by simp [UInt64.size]; omega)]
  rfl

theorem pickKey_eq (some_ : t.keys ≠ []) (fits : t.keys.length < 2 ^ 63) :
    (t.pickKey now isOpen).1 =
      ((List.range t.keys.length).filterMap fun i =>
        t.keys[position (2 ^ 64) t.keys.length t.rr.toNat i]?).find? fun key => !gated now isOpen key := by
  have nonempty : t.keys.length ≠ 0 := mt List.length_eq_zero_iff.mp some_
  unfold Transport.pickKey
  simp only [if_neg nonempty]
  congr 1
  refine List.filterMap_congr fun i listed => ?_
  rw [scan_index fits (List.mem_range.mp listed)]

/-- A key is looked at exactly when it is in a position the scan reaches. -/
theorem mem_scanned {key : KeyState} (fits : t.keys.length < 2 ^ 63) :
    key ∈ ((List.range t.keys.length).filterMap fun i =>
        t.keys[position (2 ^ 64) t.keys.length t.rr.toNat i]?) ↔
      ∃ j, t.keys[j]? = some key ∧ Scans t j := by
  have reached : ∀ j < t.keys.length, (∃ i < t.keys.length,
      position (2 ^ 64) t.keys.length t.rr.toNat i = j) ↔ Scans t j :=
    fun j inside => exists_position (by omega) inside t.rr.toNat_lt
  rw [List.mem_filterMap]
  constructor
  · rintro ⟨i, listed, found⟩
    obtain ⟨inside, _⟩ := List.getElem?_eq_some_iff.mp found
    exact ⟨_, found, (reached _ inside).mp ⟨i, List.mem_range.mp listed, rfl⟩⟩
  · rintro ⟨j, found, scans⟩
    obtain ⟨inside, _⟩ := List.getElem?_eq_some_iff.mp found
    obtain ⟨i, early, rfl⟩ := (reached j inside).mpr scans
    exact ⟨i, List.mem_range.mpr early, found⟩

theorem pickKey_none (some_ : t.keys ≠ []) (fits : t.keys.length < 2 ^ 63) :
    (t.pickKey now isOpen).1 = none ↔
      ∀ j key, t.keys[j]? = some key → Scans t j → gated now isOpen key = true := by
  rw [pickKey_eq some_ fits, List.find?_eq_none]
  constructor
  · intro passed j key found scans
    simpa using passed key ((mem_scanned fits).mpr ⟨j, found, scans⟩)
  · intro all key scanned
    obtain ⟨j, found, scans⟩ := (mem_scanned fits).mp scanned
    simp [all j key found scans]

theorem pickKey_some {key : KeyState} (some_ : t.keys ≠ []) (fits : t.keys.length < 2 ^ 63)
    (picked : (t.pickKey now isOpen).1 = some key) : key ∈ t.keys ∧ gated now isOpen key = false := by
  rw [pickKey_eq some_ fits] at picked
  obtain ⟨j, found, _⟩ := (mem_scanned fits).mp (List.mem_of_find?_eq_some picked)
  exact ⟨List.mem_of_getElem? found, by simpa using List.find?_some picked⟩

/-! ## When that is enough -/

/-- A selection is complete when there is nothing to find, or something to find where it
looks. -/
theorem complete_iff (some_ : t.keys ≠ []) (fits : t.keys.length < 2 ^ 63) :
    Complete t now isOpen ↔ (∀ key ∈ t.keys, gated now isOpen key = true) ∨
      ∃ j key, t.keys[j]? = some key ∧ gated now isOpen key = false ∧ Scans t j := by
  unfold Complete
  constructor
  · intro complete
    by_cases nothing : (t.pickKey now isOpen).1 = none
    · rw [nothing] at complete
      exact Or.inl complete
    · refine Or.inr ?_
      rw [pickKey_none some_ fits] at nothing
      push Not at nothing
      obtain ⟨j, key, found, scans, free⟩ := nothing
      exact ⟨j, key, found, by simpa using free, scans⟩
  · intro enough
    split
    · rename_i nothing
      rcases enough with all | ⟨j, key, found, free, scans⟩
      · exact all
      · rw [(pickKey_none some_ fits).mp nothing j key found scans] at free
        cases free
    · rename_i key picked
      exact pickKey_some some_ fits picked

theorem exists_after (keys : List KeyState) : ∃ now, ∀ key ∈ keys, key.cooldownUntil ≤ now := by
  induction keys with
  | nil => exact ⟨0, nofun⟩
  | cons key rest ih =>
    obtain ⟨now, after⟩ := ih
    refine ⟨max key.cooldownUntil now, fun other mem => ?_⟩
    rcases List.mem_cons.mp mem with rfl | later
    · exact le_max_left _ _
    · exact (after other later).trans (le_max_right _ _)

/-- Any one key can be the only healthy one: no cooldown is left, and every other breaker
is open. -/
theorem exists_lone {j : ℕ} {key : KeyState} (ids : (t.keys.map KeyState.id).Nodup)
    (found : t.keys[j]? = some key) :
    ∃ now isOpen, gated now isOpen key = false ∧
      ∀ i other, t.keys[i]? = some other → gated now isOpen other = false → i = j := by
  obtain ⟨now, after⟩ := exists_after t.keys
  refine ⟨now, fun id => id != key.id, ?_, fun i other here free => ?_⟩
  · simpa [gated] using after key (List.mem_of_getElem? found)
  · have same : other.id = key.id := by
      simp only [gated, Bool.or_eq_false_iff, bne_eq_false_iff_eq] at free
      exact free.2
    obtain ⟨inside, _⟩ := List.getElem?_eq_some_iff.mp here
    refine (List.getElem?_inj (by simpa using inside) ids).mp ?_
    rw [List.getElem?_map, List.getElem?_map, here, found, Option.map_some, Option.map_some, same]

/-- Every health vector is served completely exactly when every position is looked at. -/
theorem complete_always_iff (some_ : t.keys ≠ []) (fits : t.keys.length < 2 ^ 63)
    (ids : (t.keys.map KeyState.id).Nodup) :
    (∀ now isOpen, Complete t now isOpen) ↔ ∀ j < t.keys.length, Scans t j := by
  constructor
  · intro always j inside
    have found := List.getElem?_eq_getElem inside
    obtain ⟨now, isOpen, free, lone⟩ := exists_lone ids found
    rcases (complete_iff some_ fits).mp (always now isOpen) with none_ | ⟨i, other, here, healthy, scans⟩
    · rw [none_ _ (List.getElem_mem inside)] at free
      cases free
    · exact lone i other here healthy ▸ scans
  · intro all now isOpen
    rw [complete_iff some_ fits]
    by_cases none_ : ∀ key ∈ t.keys, gated now isOpen key = true
    · exact Or.inl none_
    · push Not at none_
      obtain ⟨key, mem, free⟩ := none_
      obtain ⟨j, inside, rfl⟩ := List.getElem_of_mem mem
      exact Or.inr ⟨j, _, List.getElem?_eq_getElem inside, by simpa using free, all j inside⟩

/-- A selection is complete exactly when no key is healthy or one that it looks at is; and
it is so whatever the health of the keys exactly when the cursor does not wrap in the scan,
or the size of the pool divides the cursor's word. -/
theorem selection_complete_iff (pool : Pool) :
    (∀ now isOpen, Complete pool.transport now isOpen ↔
      (∀ key ∈ pool.transport.keys, gated now isOpen key = true) ∨
        ∃ j key, pool.transport.keys[j]? = some key ∧ gated now isOpen key = false ∧
          Scans pool.transport j) ∧
    ((∀ now isOpen, Complete pool.transport now isOpen) ↔
      pool.transport.rr.toNat + pool.transport.keys.length ≤ 2 ^ 64 ∨
        pool.transport.keys.length ∣ 2 ^ 64) := by
  refine ⟨fun now isOpen => complete_iff pool.some_ pool.fits, ?_⟩
  rw [complete_always_iff pool.some_ pool.fits pool.ids]
  have some_ : 0 < pool.transport.keys.length := List.length_pos_iff.mpr pool.some_
  have fits := pool.fits
  exact all_reached some_ (by omega) pool.transport.rr.toNat_lt

/-- Three keys under the last value of the cursor, two of them cooling down. -/
def crossing : Pool where
  transport := { keys := [⟨0, 1⟩, ⟨1, 1⟩, ⟨2, 0⟩], rr := 18446744073709551615 }
  some_ := by decide
  fits := by decide
  ids := by decide

/-- Positions 0, 0 and 1 are looked at, and the healthy key in position 2 is not. -/
theorem crossing_incomplete :
    ¬ ∀ (pool : Pool) (now : ℤ) (isOpen : ℕ → Bool), Complete pool.transport now isOpen := by
  intro complete
  rcases (complete_iff crossing.some_ crossing.fits).mp (complete crossing 0 fun _ => false) with all | some_
  · have third := all ⟨2, 0⟩ (by decide)
    revert third
    decide
  · obtain ⟨j, key, found, free, scans⟩ := some_
    match j, found, scans with
    | 0, found, _ =>
      cases found
      revert free
      decide
    | 1, found, _ =>
      cases found
      revert free
      decide
    | 2, _, scans =>
      revert scans
      unfold Scans
      decide

end AnselmGateway.KeySelection
