import AnselmGateway.Foundation.Run

/-! Work that is taken up again. A list of steps is to be done in order, each committed as
a whole; an attempt does some of those that are left and is cut off. Whatever the cuts,
what was done is a beginning of the list, and no step was done twice. -/
namespace AnselmGateway.Foundation
variable {σ τ ι : Type} {commits : σ → τ → σ → Prop}

/-- The steps were committed one after another. -/
inductive Advanced (commits : σ → τ → σ → Prop) : σ → List τ → σ → Prop
  | stay {state : σ} : Advanced commits state [] state
  | step {state next last : σ} {one : τ} {rest : List τ} (commit : commits state one next)
      (more : Advanced commits next rest last) : Advanced commits state (one :: rest) last

theorem Advanced.append {state middle last : σ} {before after : List τ}
    (first : Advanced commits state before middle) (second : Advanced commits middle after last) :
    Advanced commits state (before ++ after) last := by
  induction first with
  | stay => exact second
  | step commit _ ih => exact .step commit (ih second)

/-- What every commit says of a view of the state, all of them say together. -/
theorem Advanced.foldlM {υ : Type} {view : σ → υ} {next : υ → τ → Option υ}
    (same : ∀ {state one after}, commits state one after → next (view state) one = some (view after))
    {state last : σ} {steps : List τ} (advanced : Advanced commits state steps last) :
    steps.foldlM next (view state) = some (view last) := by
  induction advanced with
  | stay => rfl
  | step commit _ ih =>
    rw [List.foldlM_cons, same commit]
    exact ih

/-- An attempt does the first of what is left, as far as can be seen of it, and leaves the
rest. -/
def Resumes {υ : Type} (commits : υ → τ → υ → Prop) (view : σ → υ) (attempt : σ → ι → σ)
    (todo : υ → List τ) (sound : υ → Prop) : Prop :=
  ∀ state input, sound (view state) → sound (view (attempt state input)) ∧
    ∃ did, todo (view state) = did ++ todo (view (attempt state input)) ∧
      Advanced commits (view state) did (view (attempt state input))

/-- So do any number of attempts. -/
theorem Resumes.run {υ : Type} {commits : υ → τ → υ → Prop} {view : σ → υ} {attempt : σ → ι → σ}
    {todo : υ → List τ} {sound : υ → Prop} (resumes : Resumes commits view attempt todo sound)
    {start : σ} (initial : sound (view start)) (inputs : List ι) :
    sound (view (runSteps attempt start inputs)) ∧
      ∃ did, todo (view start) = did ++ todo (view (runSteps attempt start inputs)) ∧
        Advanced commits (view start) did (view (runSteps attempt start inputs)) := by
  induction inputs generalizing start with
  | nil => exact ⟨initial, [], rfl, .stay⟩
  | cons input rest ih =>
    obtain ⟨kept, first, split, advanced⟩ := resumes start input initial
    obtain ⟨sound_, did, more, onwards⟩ := ih kept
    refine ⟨sound_, first ++ did, ?_, advanced.append onwards⟩
    rw [List.append_assoc, split]
    exact congrArg (first ++ ·) more

end AnselmGateway.Foundation
