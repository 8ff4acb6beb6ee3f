import Mathlib.Algebra.BigOperators.Fin
import Mathlib.Data.Int.ConditionallyCompleteOrder
import Mathlib.Data.Int.Interval
import Mathlib.Data.Int.ModEq
import Mathlib.Order.ConditionallyCompleteLattice.Basic

/-! A ring of cells over an unbounded line of ticks. The cell of a tick is the one of its
residue, so a ring of `width` cells holds what belongs to the last `width` ticks and nothing
older. Moving on clears the cells that are stepped into. -/
namespace AnselmGateway.Foundation.RingWindow

/-- The cell of a tick. -/
def slot (width : ℕ) (tick : ℤ) : ℕ := (tick % width).toNat

variable {α : Type} {width : ℕ} {last now : ℤ} {value : ℤ → α} {cells : List α} {zero : α}

/-- The cells hold the values of the last ticks. -/
structure Holds (width : ℕ) (last : ℤ) (value : ℤ → α) (cells : List α) : Prop where
  length : cells.length = width
  cell : ∀ tick, last - width < tick → tick ≤ last → cells[slot width tick]? = some (value tick)

theorem slot_lt (some_ : 0 < width) (tick : ℤ) : slot width tick < width := by
  have low := Int.emod_nonneg tick (b := width) (by omega)
  have high := Int.emod_lt_of_pos tick (b := width) (by omega)
  unfold slot
  omega

/-- Ticks closer than the width have cells of their own. -/
theorem slot_injective {first second : ℤ} (some_ : 0 < width) (same : slot width first = slot width second)
    (near : |first - second| < width) : first = second := by
  have low := Int.emod_nonneg first (b := width) (by omega)
  have low' := Int.emod_nonneg second (b := width) (by omega)
  have residues : first % width = second % width := by
    unfold slot at same
    omega
  have divides : (width : ℤ) ∣ first - second := Int.ModEq.dvd (residues.symm)
  have zero := Int.eq_zero_of_abs_lt_dvd divides near
  omega

/-- Clear the cells of the ticks behind `last`, `count` of them. -/
def clearFrom (width : ℕ) (zero : α) (last : ℤ) (count : ℕ) (cells : List α) : List α :=
  (List.range count).foldl (fun cells step => cells.set (slot width (last + (step + 1 : ℕ))) zero) cells

@[simp] theorem length_clearFrom (count : ℕ) : (clearFrom width zero last count cells).length = cells.length := by
  induction count with
  | zero => rfl
  | succ count ih =>
    rw [clearFrom, List.range_succ, List.foldl_append] at *
    simpa using ih

/-- A cell that is stepped into is clear, and any other is as before. -/
theorem getElem?_clearFrom {count index : ℕ} (inside : index < cells.length) :
    (clearFrom width zero last count cells)[index]? =
      if ∃ step < count, slot width (last + (step + 1 : ℕ)) = index then some zero else cells[index]? := by
  induction count with
  | zero => simp [clearFrom]
  | succ count ih =>
    have unfolded : clearFrom width zero last (count + 1) cells =
        (clearFrom width zero last count cells).set (slot width (last + (count + 1 : ℕ))) zero := by
      rw [clearFrom, List.range_succ, List.foldl_append]
      rfl
    rw [unfolded, List.getElem?_set]
    by_cases here : slot width (last + (count + 1 : ℕ)) = index
    · rw [if_pos here, if_pos (by rw [here, length_clearFrom]; exact inside), if_pos ⟨count, by omega, here⟩]
    · rw [if_neg here, ih]
      refine if_congr ?_ rfl rfl
      constructor
      · rintro ⟨step, earlier, same⟩
        exact ⟨step, by omega, same⟩
      · rintro ⟨step, earlier, same⟩
        refine ⟨step, ?_, same⟩
        rcases Nat.lt_succ_iff_lt_or_eq.mp earlier with before | rfl
        · exact before
        · exact absurd same here

theorem clear_each {count : ℕ} (fits : count ≤ cells.length) :
    (List.range count).foldl (fun cells index => cells.set index zero) cells =
      List.replicate count zero ++ cells.drop count := by
  induction count with
  | zero => simp
  | succ count ih =>
    rw [List.range_succ, List.foldl_append, ih (by omega)]
    have here := List.drop_eq_getElem_cons (l := cells) (i := count) (by omega)
    rw [here, List.foldl_cons, List.foldl_nil, List.set_append_right _ _ (by simp), List.length_replicate,
      Nat.sub_self, List.set_cons_zero, List.replicate_succ', List.append_assoc]
    rfl

/-- Fewer ticks than the width: what is stepped into was clear all along. -/
theorem Holds.clearFrom {count : ℕ} (holds : Holds width last value cells) (few : count < width)
    (clear : ∀ tick, last < tick → value tick = zero) :
    Holds width (last + count) value (clearFrom width zero last count cells) := by
  refine ⟨by rw [length_clearFrom, holds.length], fun tick recent past => ?_⟩
  have some_ : 0 < width := by omega
  rw [getElem?_clearFrom (by rw [holds.length]; exact slot_lt some_ tick)]
  by_cases new : last < tick
  · rw [if_pos, clear tick new]
    refine ⟨(tick - last - 1).toNat, by omega, congrArg _ ?_⟩
    push_cast
    omega
  · rw [if_neg, holds.cell tick (by omega) (by omega)]
    rintro ⟨step, earlier, same⟩
    have := slot_injective some_ same (by rw [abs_lt]; constructor <;> push_cast <;> omega)
    push_cast at this
    omega

/-- Every tick of the window is new. -/
theorem Holds.renew (length : cells.length = width) (far : last + width ≤ now)
    (clear : ∀ tick, last < tick → value tick = zero) (all : ∀ cell ∈ cells, cell = zero) :
    Holds width now value cells := by
  refine ⟨length, fun tick recent past => ?_⟩
  have inside : slot width tick < cells.length := by
    rw [length]
    exact slot_lt (by omega) tick
  rw [List.getElem?_eq_getElem inside, all _ (List.getElem_mem inside), clear tick (by omega)]

/-- The newest cell is changed. -/
theorem Holds.modify {change : α → α} (holds : Holds width last value cells) (some_ : 0 < width) :
    Holds width last (fun tick => if tick = last then change (value tick) else value tick)
      (cells.modify (slot width last) change) := by
  refine ⟨by rw [List.length_modify, holds.length], fun tick recent past => ?_⟩
  rw [List.getElem?_modify, holds.cell tick recent past]
  by_cases newest : tick = last
  · subst newest
    simp
  · have other : slot width last ≠ slot width tick := fun same =>
      newest (slot_injective some_ same.symm (by rw [abs_lt]; constructor <;> omega))
    simp [newest, other]

/-- The next tick takes the cell of the oldest. -/
theorem Holds.push (holds : Holds width last value cells) (some_ : 0 < width) (newest : α) :
    Holds width (last + 1) (fun tick => if tick = last + 1 then newest else value tick)
      (cells.set (slot width (last + 1)) newest) := by
  refine ⟨by rw [List.length_set, holds.length], fun tick recent past => ?_⟩
  have inside : slot width (last + 1) < cells.length := by
    rw [holds.length]
    exact slot_lt some_ _
  by_cases next : tick = last + 1
  · rw [next, List.getElem?_set_self inside, if_pos rfl]
  · have other : slot width (last + 1) ≠ slot width tick := fun same =>
      next (slot_injective some_ same.symm (by rw [abs_lt]; constructor <;> omega))
    rw [List.getElem?_set_ne other, holds.cell tick (by omega) (by omega), if_neg next]

/-- Every cell is the one of a tick in the window. -/
theorem exists_tick {index : ℕ} (inside : index < width) (last : ℤ) :
    ∃ tick, last - width < tick ∧ tick ≤ last ∧ slot width tick = index := by
  have low := Int.emod_nonneg (last - index) (b := width) (by omega)
  have high := Int.emod_lt_of_pos (last - index) (b := width) (by omega)
  refine ⟨last - (last - index) % width, by omega, by omega, ?_⟩
  have split := Int.mul_ediv_add_emod (last - index) width
  rw [slot, show last - (last - index) % width = index + width * ((last - index) / width) by omega,
    Int.add_mul_emod_self_left, Int.emod_eq_of_lt (by omega) (by omega)]
  omega

/-- The cells add up to the window. -/
theorem Holds.sum {value : ℤ → ℕ} {cells : List ℕ} (holds : Holds width last value cells) (some_ : 0 < width) :
    cells.sum = ∑ tick ∈ Finset.Ioc (last - width) last, value tick := by
  have inside : ∀ tick, slot width tick < cells.length := fun tick => by
    rw [holds.length]
    exact slot_lt some_ tick
  rw [← Fin.sum_univ_getElem]
  symm
  refine Finset.sum_nbij (fun tick => ⟨slot width tick, inside tick⟩) (fun _ _ => Finset.mem_univ _) ?_ ?_ ?_
  · intro first held second also same
    simp only [Finset.coe_Ioc, Set.mem_Ioc] at held also
    exact slot_injective some_ (Fin.mk.inj_iff.mp same) (by rw [abs_lt]; constructor <;> omega)
  · rintro ⟨index, bound⟩ _
    obtain ⟨tick, recent, past, same⟩ := exists_tick (holds.length ▸ bound) last
    refine ⟨tick, ?_, Fin.ext same⟩
    simpa using ⟨recent, past⟩
  · intro tick held
    obtain ⟨recent, past⟩ := Finset.mem_Ioc.mp held
    have cell := holds.cell tick recent past
    rw [List.getElem?_eq_getElem (inside tick)] at cell
    exact (Option.some_inj.mp cell).symm

end AnselmGateway.Foundation.RingWindow
