import AnselmGateway.MediaHandler

/-! Media requests with nothing beside them: a request that its handler makes a call of, and the call
taking its turns while no other call takes one. -/
namespace AnselmGateway.RequestsAlone
open Foundation MediaStore Media MediaHandler

/-- A call that takes its turns alone: what it tells, and what it leaves. -/
def drive (env : Environment) (turn : Turn) : ℕ → World → Proc → List Reply × World × Proc
  | 0, world, proc => ([], world, proc)
  | n + 1, world, proc =>
    let r := turnOf env turn world proc
    let later := drive env turn n r.world r.proc
    (r.reply.toList ++ later.1, later.2)

section Alone
variable {env : Environment} {turn : Turn} {world after : World} {proc next : Proc} {n : ℕ}

theorem drive_stay (turned : turnOf env turn world proc = stay after next) :
    drive env turn (n + 1) world proc = drive env turn n after next := by
  rw [drive, turned]
  rfl

theorem drive_done : drive env turn n world .done = ([], world, .done) := by
  induction n with
  | zero => rfl
  | succ n ih => exact (drive_stay rfl).trans ih

theorem drive_finish {reply : Reply} (turned : turnOf env turn world proc = finish after reply) :
    drive env turn (n + 1) world proc = ([reply], after, .done) := by
  rw [drive, turned]
  dsimp only [finish]
  rw [drive_done]
  rfl

/-- The turns that a request needs at most. -/
def requestTurns : ℕ := 5

/-- The events of a request that the handlers make a call of. -/
def requested (h : Handler) (owner : String) (index : ℕ) (turn : Turn) (request : Request) : List Event :=
  match h.call (.ok owner) "" request with
  | .error _ => []
  | .ok call => .arrive turn.now call :: List.replicate requestTurns (.turn index turn)

/-- Turns of one call are that call driven. -/
theorem turns_run {history : History} {index : ℕ} {told : List Reply} (running : history.state.procs[index]? = some proc)
    (drives : drive env turn n history.state.world proc = (told, after, next)) :
    (runSteps (record env) history (List.replicate n (.turn index turn))).state =
        ⟨after, history.state.procs.set index next⟩ ∧
      (runSteps (record env) history (List.replicate n (.turn index turn))).replies = history.replies ++ told := by
  induction n generalizing history proc told with
  | zero =>
    cases drives
    obtain ⟨inside, rfl⟩ := List.getElem?_eq_some_iff.mp running
    exact ⟨by rw [List.set_getElem_self]; rfl, (List.append_nil _).symm⟩
  | succ n ih =>
    simp only [drive] at drives
    obtain ⟨inside, _⟩ := List.getElem?_eq_some_iff.mp running
    have goes : step env history.state (.turn index turn) =
        ((turnOf env turn history.state.world proc).reply,
          ⟨(turnOf env turn history.state.world proc).world,
            history.state.procs.set index (turnOf env turn history.state.world proc).proc⟩) := by
      simp only [step, running]
    rw [List.replicate_succ, runSteps_cons]
    have first : (record env history (.turn index turn)).state =
        ⟨(turnOf env turn history.state.world proc).world,
          history.state.procs.set index (turnOf env turn history.state.world proc).proc⟩ :=
      congrArg Prod.snd goes
    have replied : (record env history (.turn index turn)).replies =
        history.replies ++ (turnOf env turn history.state.world proc).reply.toList :=
      congrArg (fun out : Option Reply × State => history.replies ++ out.1.toList) goes
    generalize later : drive env turn n (turnOf env turn history.state.world proc).world
      (turnOf env turn history.state.world proc).proc = rest at drives
    obtain ⟨toldLater, worldLater, last⟩ := rest
    cases drives
    have moved : (record env history (.turn index turn)).state.procs[index]? =
        some (turnOf env turn history.state.world proc).proc := by
      rw [first]
      exact List.getElem?_set_self inside
    have onward : drive env turn n (record env history (.turn index turn)).state.world
        (turnOf env turn history.state.world proc).proc = (toldLater, after, next) := by
      rw [first]
      exact later
    obtain ⟨state, replies⟩ := ih moved onward
    refine ⟨?_, ?_⟩
    · rw [state, first, List.set_set]
    · rw [replies, replied, List.append_assoc]

/-- A request that becomes a call is that call driven, behind all that are in flight. -/
theorem requested_run {h : Handler} {owner : String} {request : Request} {call : Call} {history : History}
    (called : h.call (.ok owner) "" request = .ok call) (begun : begin_ env turn.now call = .inl proc)
    {told : List Reply} (drives : drive env turn requestTurns history.state.world proc = (told, after, next)) :
    (runSteps (record env) history (requested h owner history.state.procs.length turn request)).state.world = after ∧
      (runSteps (record env) history (requested h owner history.state.procs.length turn request)).state.procs.length =
        history.state.procs.length + 1 ∧
      (runSteps (record env) history (requested h owner history.state.procs.length turn request)).replies =
        history.replies ++ told := by
  have arrived : (record env history (.arrive turn.now call)).state =
      ⟨history.state.world, history.state.procs ++ [proc]⟩ := by
    simp only [record, step, begun]
  have silent : (record env history (.arrive turn.now call)).replies = history.replies := by
    simp only [record, step, begun, Option.toList_none, List.append_nil]
  have running : (record env history (.arrive turn.now call)).state.procs[history.state.procs.length]? =
      some proc := by
    rw [arrived]
    exact List.getElem?_concat_length
  have goes : drive env turn requestTurns (record env history (.arrive turn.now call)).state.world proc =
      (told, after, next) := by
    rw [arrived]
    exact drives
  obtain ⟨state, replies⟩ := turns_run running goes
  simp only [requested, called, runSteps_cons]
  rw [state, replies, silent, arrived]
  exact ⟨rfl, by rw [List.length_set, List.length_append, List.length_singleton], rfl⟩

end Alone
end AnselmGateway.RequestsAlone
