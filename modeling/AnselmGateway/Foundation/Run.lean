import Mathlib.Data.List.Nodup

/-! Runs of a step function over a list of inputs, and the two inductions every
safety proof about a run needs: what each step keeps, the whole run keeps. -/
namespace AnselmGateway.Foundation
variable {σ ι : Type}

/-- The state a machine is left in by a list of inputs. -/
def runSteps (step : σ → ι → σ) (start : σ) (inputs : List ι) : σ := inputs.foldl step start

variable {step : σ → ι → σ} {start : σ} {inputs : List ι}

@[simp] theorem runSteps_nil : runSteps step start [] = start := rfl

@[simp] theorem runSteps_cons (input : ι) :
    runSteps step start (input :: inputs) = runSteps step (step start input) inputs := rfl

theorem runSteps_append (later : List ι) :
    runSteps step start (inputs ++ later) = runSteps step (runSteps step start inputs) later :=
  List.foldl_append

/-- An invariant that every step on an allowed input keeps holds after every
run of allowed inputs. -/
theorem runSteps_invariant_of {invariant : σ → Prop} {allowed : ι → Prop}
    (preserved : ∀ state input, allowed input → invariant state → invariant (step state input))
    (initial : invariant start) (all : ∀ input ∈ inputs, allowed input) :
    invariant (runSteps step start inputs) := by
  induction inputs generalizing start with
  | nil => exact initial
  | cons input rest ih =>
    exact ih (preserved start input (all input List.mem_cons_self) initial)
      fun other member => all other (List.mem_cons_of_mem _ member)

/-- An invariant that every step keeps holds after every run. -/
theorem runSteps_invariant {invariant : σ → Prop}
    (preserved : ∀ state input, invariant state → invariant (step state input))
    (initial : invariant start) : invariant (runSteps step start inputs) :=
  runSteps_invariant_of (fun state input (_ : True) => preserved state input) initial
    fun _ _ => trivial

/-! ## Machines that answer -/

/-- Every input of a list is allowed in the state it meets. -/
def AllAlong (step : σ → ι → σ) (allowed : σ → ι → Prop) : σ → List ι → Prop
  | _, [] => True
  | state, input :: rest => allowed state input ∧ AllAlong step allowed (step state input) rest

theorem AllAlong.both {allowed also : σ → ι → Prop} (all : AllAlong step allowed start inputs)
    (each : AllAlong step also start inputs) :
    AllAlong step (fun state input => allowed state input ∧ also state input) start inputs := by
  induction inputs generalizing start with
  | nil => trivial
  | cons input rest ih => exact ⟨⟨all.1, each.1⟩, ih all.2 each.2⟩

/-- A condition on every input joins one on the states they meet. -/
theorem AllAlong.and {allowed : σ → ι → Prop} {also : ι → Prop}
    (all : AllAlong step allowed start inputs) (each : ∀ input ∈ inputs, also input) :
    AllAlong step (fun state input => allowed state input ∧ also input) start inputs := by
  induction inputs generalizing start with
  | nil => trivial
  | cons input rest ih =>
    exact ⟨⟨all.1, each input List.mem_cons_self⟩,
      ih all.2 fun other member => each other (List.mem_cons_of_mem _ member)⟩

theorem allAlong_append {allowed : σ → ι → Prop} {later : List ι} :
    AllAlong step allowed start (inputs ++ later) ↔ AllAlong step allowed start inputs ∧
      AllAlong step allowed (runSteps step start inputs) later := by
  induction inputs generalizing start with
  | nil => exact ⟨fun all => ⟨trivial, all⟩, fun all => all.2⟩
  | cons input rest ih =>
    rw [List.cons_append, AllAlong, AllAlong, ih, runSteps_cons, and_assoc]

/-- A relation between earlier and later inputs, seen from each input: it holds
to everything the run has recorded so far. -/
theorem allAlong_of_pairwise {τ : Type} {relation : τ → τ → Prop} {label : ι → τ}
    {seen : σ → List τ}
    (records : ∀ state input, ∀ earlier ∈ seen (step state input),
      earlier ∈ seen state ∨ earlier = label input)
    (ordered : (inputs.map label).Pairwise relation)
    (before : ∀ earlier ∈ seen start, ∀ input ∈ inputs, relation earlier (label input)) :
    AllAlong step (fun state input => ∀ earlier ∈ seen state, relation earlier (label input))
      start inputs := by
  induction inputs generalizing start with
  | nil => trivial
  | cons input rest ih =>
    obtain ⟨ahead, later⟩ := List.pairwise_cons.mp ordered
    refine ⟨fun earlier member => before earlier member input List.mem_cons_self, ih later ?_⟩
    intro earlier member other inside
    rcases records start input earlier member with known | rfl
    · exact before earlier known other (List.mem_cons_of_mem _ inside)
    · exact ahead _ (List.mem_map_of_mem inside)

/-- `AllAlong`, of what can be checked. -/
def checkAlong (step : σ → ι → σ) (check : σ → ι → Bool) : σ → List ι → Bool
  | _, [] => true
  | state, input :: rest => check state input && checkAlong step check (step state input) rest

theorem allAlong_of_check {allowed : σ → ι → Prop} {check : σ → ι → Bool}
    (enough : ∀ state input, check state input = true → allowed state input)
    (checked : checkAlong step check start inputs = true) : AllAlong step allowed start inputs := by
  induction inputs generalizing start with
  | nil => trivial
  | cons input rest ih =>
    rw [checkAlong, Bool.and_eq_true] at checked
    exact ⟨enough start input checked.1, ih checked.2⟩

/-- An invariant that every allowed step keeps holds after every run that is
allowed all along. -/
theorem runSteps_invariant_along {invariant : σ → Prop} {allowed : σ → ι → Prop}
    (preserved : ∀ state input, allowed state input → invariant state → invariant (step state input))
    (initial : invariant start) (all : AllAlong step allowed start inputs) :
    invariant (runSteps step start inputs) := by
  induction inputs generalizing start with
  | nil => exact initial
  | cons input rest ih => exact ih (preserved start input all.1 initial) all.2

/-- What is allowed all along under one condition is allowed under another that
follows from it and an invariant. -/
theorem allAlong_of_invariant {invariant : σ → Prop} {allowed also : σ → ι → Prop}
    (preserved : ∀ state input, allowed state input → invariant state → invariant (step state input))
    (enough : ∀ state input, allowed state input → invariant state → also state input)
    (initial : invariant start) (all : AllAlong step allowed start inputs) :
    AllAlong step also start inputs := by
  induction inputs generalizing start with
  | nil => trivial
  | cons input rest ih =>
    exact ⟨enough start input all.1 initial, ih (preserved start input all.1 initial) all.2⟩

/-- Where an input is allowed exactly if it keeps the invariant, the invariant holds in
every state of a run exactly if all inputs are allowed. -/
theorem holds_throughout_iff {invariant : σ → Prop} {allowed : σ → ι → Prop}
    (exact_ : ∀ state input, invariant state → (invariant (step state input) ↔ allowed state input))
    (initial : invariant start) :
    (∀ earlier later, inputs = earlier ++ later → invariant (runSteps step start earlier)) ↔
      AllAlong step allowed start inputs := by
  constructor
  · intro throughout
    induction inputs generalizing start with
    | nil => trivial
    | cons input rest ih =>
      have next : invariant (step start input) := throughout [input] rest rfl
      refine ⟨(exact_ start input initial).mp next, ih next fun earlier later same => ?_⟩
      exact throughout (input :: earlier) later (by rw [same]; rfl)
  · rintro all earlier later rfl
    exact runSteps_invariant_along (fun state input may holds => (exact_ state input holds).mpr may)
      initial (allAlong_append.mp all).1

variable {τ : Type}

/-- What a machine accepts along a list of inputs, in order. An input it refuses
still moves its state. -/
def accepted (answer : σ → ι → Option τ × σ) : σ → List ι → List τ
  | _, [] => []
  | state, input :: rest =>
    (answer state input).1.toList ++ accepted answer (answer state input).2 rest

/-- What is spent once accepted, stays spent, and is never accepted while spent,
is accepted at most once in a run. -/
theorem accepted_nodup {answer : σ → ι → Option τ × σ} {invariant : σ → Prop}
    {allowed : σ → ι → Prop} {spent : σ → τ → Prop}
    (preserved : ∀ state input, allowed state input → invariant state →
      invariant (answer state input).2)
    (spends : ∀ state input token, allowed state input → invariant state →
      (answer state input).1 = some token → ¬spent state token ∧ spent (answer state input).2 token)
    (keeps : ∀ state input token, allowed state input → invariant state → spent state token →
      spent (answer state input).2 token)
    (initial : invariant start)
    (all : AllAlong (fun state input => (answer state input).2) allowed start inputs) :
    (accepted answer start inputs).Nodup ∧ ∀ token ∈ accepted answer start inputs, ¬spent start token := by
  induction inputs generalizing start with
  | nil => exact ⟨List.nodup_nil, fun _ member => absurd member List.not_mem_nil⟩
  | cons input rest ih =>
    obtain ⟨here, later⟩ := all
    obtain ⟨distinct, unspent⟩ := ih (preserved start input here initial) later
    rw [accepted]
    cases verdict : (answer start input).1 with
    | none =>
      exact ⟨distinct, fun token member already =>
        unspent token member (keeps start input token here initial already)⟩
    | some token =>
      obtain ⟨fresh, used⟩ := spends start input token here initial verdict
      refine ⟨List.nodup_cons.mpr ⟨fun member => unspent token member used, distinct⟩, ?_⟩
      intro other member already
      rcases List.mem_cons.mp member with rfl | inside
      · exact fresh already
      · exact unspent other inside (keeps start input other here initial already)

end AnselmGateway.Foundation
