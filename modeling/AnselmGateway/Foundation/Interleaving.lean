import AnselmGateway.Foundation.Run

/-! Calls in flight over one shared state, and the rule for what holds of them
under every interleaving: a property of the shared state, one of each call
against it, and one of each two calls, all kept by whatever step a call takes. -/
namespace AnselmGateway.Foundation
variable {σ π : Type}

/-- The shared state satisfies one property, each call another against it, and
each two calls a third. -/
structure Stable (shared : σ → Prop) (each : σ → π → Prop) (pair : σ → π → π → Prop) (state : σ)
    (procs : List π) : Prop where
  shared : shared state
  each : ∀ (i : ℕ) p, procs[i]? = some p → each state p
  pair : ∀ (i j : ℕ) p q, i ≠ j → procs[i]? = some p → procs[j]? = some q → pair state p q

/-- After one call has moved on, a call in flight is that one, or another. -/
theorem set_cases {procs : List π} {index i : ℕ} {next q : π}
    (found : (procs.set index next)[i]? = some q) :
    (i = index ∧ q = next) ∨ (i ≠ index ∧ procs[i]? = some q) := by
  by_cases same : index = i
  · rw [List.getElem?_set, if_pos same] at found
    split at found
    · exact .inl ⟨same.symm, (Option.some.inj found).symm⟩
    · cases found
  · rw [List.getElem?_set_ne same] at found
    exact .inr ⟨Ne.symm same, found⟩

/-- After a call has arrived, a call in flight was in flight, or is that one. -/
theorem arrived_cases {procs : List π} {i : ℕ} {next q : π}
    (found : (procs ++ [next])[i]? = some q) :
    (i < procs.length ∧ procs[i]? = some q) ∨ (i = procs.length ∧ q = next) := by
  by_cases before : i < procs.length
  · rw [List.getElem?_append_left before] at found
    exact .inl ⟨before, found⟩
  · rw [List.getElem?_append_right (Nat.not_lt.mp before)] at found
    obtain ⟨inside, same⟩ := List.getElem?_eq_some_iff.mp found
    have first : i - procs.length = 0 := by
      rw [List.length_singleton] at inside
      omega
    simp only [first, List.getElem_cons_zero] at same
    exact .inr ⟨by omega, same.symm⟩

/-- The calls around the one whose turn it is. -/
theorem split_turn {procs : List π} {turn : ℕ} {p : π} (found : procs[turn]? = some p) :
    ∃ before after, procs = before ++ p :: after ∧ procs.eraseIdx turn = before ++ after ∧
      ∀ next, procs.set turn next = before ++ next :: after := by
  obtain ⟨inside, same⟩ := List.getElem?_eq_some_iff.mp found
  refine ⟨procs.take turn, procs.drop (turn + 1), ?_, List.eraseIdx_eq_take_drop_succ _ _, fun next => ?_⟩
  · rw [← same, ← List.drop_eq_getElem_cons inside, List.take_append_drop]
  · exact List.set_eq_take_append_cons_drop.trans (if_pos inside)

/-- What is read off one call. -/
theorem filterMap_single {α : Type} (f : π → Option α) (p : π) : [p].filterMap f = (f p).toList := by
  rw [List.filterMap_cons]
  cases f p <;> rfl

/-- Two runs hold related calls under every number, or none. -/
theorem related_getElem? {π' : Type} {relation : π → π' → Prop} {procs : List π} {procs' : List π'}
    (all : List.Forall₂ relation procs procs') (index : ℕ) :
    Option.Rel relation procs[index]? procs'[index]? := by
  induction all generalizing index with
  | nil => exact .none
  | cons here _ ih =>
    cases index with
    | zero => exact .some here
    | succ index => exact ih index

/-- They still do when both have moved a call on to related ones. -/
theorem related_set {π' : Type} {relation : π → π' → Prop} {procs : List π} {procs' : List π'}
    {next : π} {next' : π'} (all : List.Forall₂ relation procs procs') (index : ℕ)
    (moved : relation next next') :
    List.Forall₂ relation (procs.set index next) (procs'.set index next') := by
  induction all generalizing index with
  | nil => exact .nil
  | cons here rest ih =>
    cases index with
    | zero => exact .cons moved rest
    | succ index => exact .cons here (ih index)

section
variable {shared : σ → Prop} {each : σ → π → Prop} {pair : σ → π → π → Prop} {state after : σ}
  {procs : List π} {index : ℕ} {proc next : π}

/-- The rule for a call that takes a step: it answers for itself, and leaves every
other call, and every two others, as good as it found them. -/
theorem Stable.turn (stable : Stable shared each pair state procs)
    (running : procs[index]? = some proc) (kept : shared after) (own : each after next)
    (others : ∀ (j : ℕ) q, j ≠ index → procs[j]? = some q →
      each state q → pair state proc q → pair state q proc →
      each after q ∧ pair after next q ∧ pair after q next)
    (between : ∀ p q, each state p → each state q → pair state p q → pair after p q) :
    Stable shared each pair after (procs.set index next) where
  shared := kept
  each := fun i p found => by
    rcases set_cases found with ⟨_, rfl⟩ | ⟨apart, found⟩
    · exact own
    · exact (others i p apart found (stable.each i p found)
        (stable.pair index i proc p (Ne.symm apart) running found)
        (stable.pair i index p proc apart found running)).1
  pair := fun i j p q apart first second => by
    rcases set_cases first with ⟨rfl, rfl⟩ | ⟨other, held⟩
    · rcases set_cases second with ⟨same, _⟩ | ⟨other, held⟩
      · exact absurd same.symm apart
      · exact (others j q other held (stable.each j q held)
          (stable.pair i j proc q apart running held)
          (stable.pair j i q proc (Ne.symm apart) held running)).2.1
    · rcases set_cases second with ⟨rfl, rfl⟩ | ⟨_, also⟩
      · exact (others i p other held (stable.each i p held)
          (stable.pair j i proc p (Ne.symm apart) running held)
          (stable.pair i j p proc apart held running)).2.2
      · exact between p q (stable.each i p held) (stable.each j q also)
          (stable.pair i j p q apart held also)

/-- The rule for a call that arrives. -/
theorem Stable.arrive (stable : Stable shared each pair state procs) (own : each state next)
    (others : ∀ (j : ℕ) q, procs[j]? = some q → pair state next q ∧ pair state q next) :
    Stable shared each pair state (procs ++ [next]) where
  shared := stable.shared
  each := fun i p found => by
    rcases arrived_cases found with ⟨_, found⟩ | ⟨_, rfl⟩
    · exact stable.each i p found
    · exact own
  pair := fun i j p q apart first second => by
    rcases arrived_cases first with ⟨_, held⟩ | ⟨last, rfl⟩
    · rcases arrived_cases second with ⟨_, also⟩ | ⟨_, rfl⟩
      · exact stable.pair i j p q apart held also
      · exact (others i p held).2
    · rcases arrived_cases second with ⟨_, held⟩ | ⟨also, rfl⟩
      · exact (others j q held).1
      · exact absurd (last.trans also.symm) apart

/-- Where no call is in flight only the shared state counts. -/
theorem Stable.idle (kept : shared state) : Stable shared each pair state [] where
  shared := kept
  each := fun _ _ found => by simp at found
  pair := fun _ _ _ _ _ found _ => by simp at found

end
end AnselmGateway.Foundation
