import AnselmGateway.Foundation.Json.Locality

/-! The members of an object, as a walk of the decoder. A walk is what the loop
does, it does the same over any text that begins alike, and a value that is a
string may be put in the place of another without changing what is walked. -/
namespace AnselmGateway.Foundation.Json

/-! ## Members -/

/-- What a member is, apart from what stands behind it. -/
def Member.pair (m : Member) : String × Bytes := (m.key, m.value)

theorem member_eq_some {dec next : Decoder} {m : Member} :
    dec.member = some (m, next) ↔ ∃ atColon, dec.token = .ok (.text m.key, atColon) ∧
      m.keyRest = atColon.rest ∧ atColon.decode = .ok (m.value, next) ∧ m.valueRest = next.rest := by
  unfold Decoder.member
  constructor
  · intro found
    split at found
    · rename_i key atColon token
      split at found
      · rename_i value after decoded
        cases found
        exact ⟨atColon, token, rfl, decoded, rfl⟩
      · cases found
    · cases found
  · rintro ⟨atColon, token, keyRest, decoded, valueRest⟩
    simp only [token, decoded]
    rw [← keyRest, ← valueRest]

/-- A member takes at least one byte. -/
theorem member_shorter {dec next : Decoder} {m : Member} (found : dec.member = some (m, next)) :
    next.rest.length < dec.rest.length := by
  obtain ⟨atColon, token, _, decoded, _⟩ := member_eq_some.mp found
  obtain ⟨front, _, before, _⟩ := token_local_peek token
  obtain ⟨text, some_, after, _⟩ := decode_local _ _ _ decoded
  have positive := List.length_pos_iff.mpr some_
  rw [before, after, List.length_append, List.length_append]
  omega

/-! ## The loop -/

section Loop
variable {σ ρ : Type} {body : σ → Member → σ ⊕ ρ} {broken : σ → ρ} {dec : Decoder}

/-- More rounds than there are bytes change nothing. -/
theorem rounds_enough {left right : ℕ} {s : σ} (few : dec.rest.length < left)
    (also : dec.rest.length < right) :
    dec.rounds body broken left s = dec.rounds body broken right s := by
  induction left generalizing dec right s with
  | zero => exact absurd few (Nat.not_lt_zero _)
  | succ left ih =>
    cases right with
    | zero => exact absurd also (Nat.not_lt_zero _)
    | succ right =>
      unfold Decoder.rounds
      split
      · rfl
      · cases found : dec.member with
        | none => rfl
        | some pair =>
          obtain ⟨m, next⟩ := pair
          have shorter := member_shorter found
          dsimp only
          cases body s m with
          | inl s => exact ih (by omega) (by omega)
          | inr result => rfl

/-- The loop, round by round. -/
theorem forMembers_eq (s : σ) : dec.forMembers body broken s =
    if dec.more = false then .inr (s, dec)
    else match dec.member with
      | none => .inl (broken s)
      | some (m, next) =>
        match body s m with
        | .inl s => next.forMembers body broken s
        | .inr result => .inl result := by
  unfold Decoder.forMembers
  rw [Decoder.rounds]
  simp only [Bool.not_eq_true']
  split
  · rfl
  · cases found : dec.member with
    | none => rfl
    | some pair =>
      obtain ⟨m, next⟩ := pair
      have shorter := member_shorter found
      dsimp only
      cases body s m with
      | inl s => exact rounds_enough (by omega) (by omega)
      | inr result => rfl

end Loop

/-! ## Walks -/

/-- The decoder reads these members and stands behind them. -/
inductive Walk : Decoder → List Member → Decoder → Prop
  | done {dec : Decoder} : Walk dec [] dec
  | step {dec next last : Decoder} {m : Member} {members : List Member} (more : dec.more = true)
      (found : dec.member = some (m, next)) (rest : Walk next members last) :
      Walk dec (m :: members) last

theorem Walk.append {dec middle last : Decoder} {before after : List Member}
    (first : Walk dec before middle) (second : Walk middle after last) :
    Walk dec (before ++ after) last := by
  induction first with
  | done => exact second
  | step more found _ ih => exact .step more found (ih second)

theorem Walk.split {dec last : Decoder} {before after : List Member}
    (walk : Walk dec (before ++ after) last) :
    ∃ middle, Walk dec before middle ∧ Walk middle after last := by
  induction before generalizing dec with
  | nil => exact ⟨dec, .done, walk⟩
  | cons m before ih =>
    cases walk with
    | step more found rest =>
      obtain ⟨middle, first, second⟩ := ih rest
      exact ⟨middle, .step more found first, second⟩

/-- What a body makes of members, one after another. -/
def foldMembers {σ ρ : Type} (body : σ → Member → σ ⊕ ρ) : σ → List Member → ρ ⊕ σ
  | s, [] => .inr s
  | s, m :: members =>
    match body s m with
    | .inl s => foldMembers body s members
    | .inr result => .inl result

section Loop
variable {σ ρ : Type} {body : σ → Member → σ ⊕ ρ} {broken : σ → ρ} {dec last : Decoder}
  {members : List Member}

/-- The loop does along a walk what its body does to the members. -/
theorem forMembers_walk (walk : Walk dec members last) (s : σ) :
    dec.forMembers body broken s =
      match foldMembers body s members with
      | .inl result => .inl result
      | .inr s => last.forMembers body broken s := by
  induction walk generalizing s with
  | done => rfl
  | step more found rest ih =>
    rw [forMembers_eq, if_neg (by rw [more]; decide), found]
    dsimp only [foldMembers]
    cases body s _ with
    | inl s => exact ih s
    | inr result => rfl

/-- A loop that comes to its end has walked. -/
theorem walk_of_forMembers {s s' : σ} (ran : dec.forMembers body broken s = .inr (s', last)) :
    ∃ members, Walk dec members last ∧ last.more = false ∧ foldMembers body s members = .inr s' := by
  induction length : dec.rest.length using Nat.strongRecOn generalizing dec s with
  | ind n ih =>
    rw [forMembers_eq] at ran
    split at ran
    · rename_i ends
      cases ran
      exact ⟨[], .done, ends, rfl⟩
    · rename_i more
      split at ran
      · cases ran
      · rename_i m next found
        split at ran
        · rename_i after went
          have shorter := member_shorter found
          obtain ⟨members, walk, ends, folded⟩ := ih next.rest.length (by omega) ran rfl
          refine ⟨m :: members, .step (by simpa using more) found walk, ends, ?_⟩
          rw [foldMembers, went]
          exact folded
        · cases ran

end Loop

/-! ## Objects -/

/-- The input is one object with these members. -/
theorem objectMembers_eq_some {input : Bytes} {members : List Member} :
    objectMembers input = some members ↔ ∃ dec last, openObject input = some dec ∧
      Walk dec members last ∧ last.more = false ∧ last.closes = true := by
  have collects (s : List Member) (members : List Member) :
      (foldMembers (fun members m => .inl (members ++ [m])) s members : Unit ⊕ List Member) =
        .inr (s ++ members) := by
    induction members generalizing s with
    | nil => simp [foldMembers]
    | cons m members ih => simp [foldMembers, ih]
  unfold objectMembers overObject
  constructor
  · intro found
    cases opened : openObject input with
    | none =>
      rw [opened] at found
      cases found
    | some dec =>
      rw [opened] at found
      dsimp only at found
      split at found
      · cases found
      · rename_i s last ran
        obtain ⟨walked, walk, ends, folded⟩ := walk_of_forMembers ran
        rw [collects, List.nil_append] at folded
        split at found
        · rename_i closed
          have same := Sum.inr.inj folded
          subst same
          cases found
          exact ⟨dec, last, rfl, walk, ends, closed⟩
        · cases found
  · rintro ⟨dec, last, opened, walk, ends, closed⟩
    rw [opened]
    dsimp only
    rw [forMembers_walk walk, collects]
    dsimp only
    rw [forMembers_eq, if_pos ends]
    dsimp only
    rw [closed]
    rfl

/-- Any loop over an input that is one object comes to what its body makes of the
members. -/
theorem overObject_eq {σ ρ : Type} {body : σ → Member → σ ⊕ ρ} {broken : σ → ρ} {input : Bytes}
    {members : List Member} (found : objectMembers input = some members) (s : σ) :
    overObject body broken input s = foldMembers body s members := by
  obtain ⟨dec, last, opened, walk, ends, closed⟩ := objectMembers_eq_some.mp found
  unfold overObject
  rw [opened]
  dsimp only
  rw [forMembers_walk walk]
  cases foldMembers body s members with
  | inl result => rfl
  | inr s =>
    dsimp only
    rw [forMembers_eq, if_pos ends]
    dsimp only
    rw [if_pos closed]

/-- Only an input that is one object brings a loop to its end. -/
theorem objectMembers_of_overObject {σ ρ : Type} {body : σ → Member → σ ⊕ ρ} {broken : σ → ρ}
    {input : Bytes} {s s' : σ} (ran : overObject body broken input s = .inr s') :
    ∃ members, objectMembers input = some members := by
  unfold overObject at ran
  split at ran
  · cases ran
  · rename_i dec opened
    split at ran
    · cases ran
    · rename_i after last looped
      obtain ⟨members, walk, ends, _⟩ := walk_of_forMembers looped
      split at ran
      · rename_i closed
        exact ⟨members, objectMembers_eq_some.mpr ⟨dec, last, opened, walk, ends, closed⟩⟩
      · cases ran

end AnselmGateway.Foundation.Json
