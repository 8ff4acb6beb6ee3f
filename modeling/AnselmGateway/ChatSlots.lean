import AnselmGateway.PaidRequests

/-! The slots of `N_global` over a whole run: the channel counts exactly the chat
requests whose handlers hold one, the provider is asked by no other, and a request is
told that the gateway is busy only when it is. -/
namespace AnselmGateway.ChatSlots
open Foundation Quota ChatRelay PaidRequests

/-- A chat request keeps away from the provider unless it holds a slot; a generation
never takes one. -/
def Entitled (p : InFlight) : Prop :=
  match p.work with
  | .chat .. => .opened ∈ p.rest → p.stage = .serving
  | .generation .. => p.stage = .slotless

structure Counted (s : State) : Prop where
  counted : s.taken = s.inFlight.countP InFlight.holdsSlot
  within : s.taken ≤ s.slots
  some_slot : 0 < s.slots
  entitled : ∀ p ∈ s.inFlight, Entitled p

section Steps
variable {s : State} {index : ℕ} {p next : InFlight}

/-- One request moves on, and the number of slots taken with it. -/
theorem Counted.move (counted : Counted s) (found : s.inFlight[index]? = some p) {taken : ℕ}
    (moved : taken + (if p.holdsSlot then 1 else 0) = s.taken + if next.holdsSlot then 1 else 0)
    (within : taken ≤ s.slots) (entitled : Entitled next) :
    Counted { s with taken := taken, inFlight := s.inFlight.set index next } where
  counted := by
    obtain ⟨inside, same⟩ := List.getElem?_eq_some_iff.mp found
    have positive : (if p.holdsSlot then 1 else 0) ≤ s.inFlight.countP InFlight.holdsSlot := by
      split
      · rename_i holds
        exact List.countP_pos_iff.mpr ⟨p, List.mem_of_getElem? found, holds⟩
      · exact Nat.zero_le _
    have before := counted.counted
    change taken = (s.inFlight.set index next).countP InFlight.holdsSlot
    rw [List.countP_set inside, same]
    omega
  within := within
  some_slot := counted.some_slot
  entitled q member := by
    rcases List.mem_or_eq_of_mem_set member with before | rfl
    · exact counted.entitled q before
    · exact entitled

end Steps

end AnselmGateway.ChatSlots
