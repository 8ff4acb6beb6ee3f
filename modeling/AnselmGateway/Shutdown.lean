import Mathlib.Data.List.Basic
import AnselmGateway.Foundation.Run

/-! The ordered teardown of `internal/bootstrap`: stop the loops, shut the servers down
one after another, wait for the detached accounting, close the database last. Requests
arrive, write and return in between, and each wait may run into its bound. -/
namespace AnselmGateway.Shutdown
open Foundation

/-- The three servers, in the order they are shut down. -/
inductive Server where
  | business
  | admin
  | dashboard
  deriving DecidableEq

/-- A write a handler has yet to make: in its own goroutine, or handed to a detached one
that `bgWG` counts. -/
inductive Write where
  | inline
  | detached
  deriving DecidableEq

/-- A running handler. `Shutdown` does not wait for one that has hijacked its
connection. -/
structure Handler where
  server : Server
  hijacked : Bool
  writes : List Write

/-- Where `shutdown` stands. -/
inductive Phase where
  | serving
  | stopping (server : Server)
  | waiting
  | drained
  | closed
  deriving DecidableEq

structure App where
  phase : Phase
  canceled : Bool
  /-- Background loops that have not returned. -/
  loops : ℕ
  /-- Detached writes that have not been made. -/
  pending : ℕ
  handlers : List Handler
  /-- Writes that found the database closed. -/
  cut : ℕ
  /-- Whether a wait was given up, or a `Shutdown` returned over a running handler. -/
  left : Bool

/-- The counter of `bgWG`. -/
def App.bgWG (s : App) : ℕ := s.loops + s.pending

def start (loops : ℕ) : App := ⟨.serving, false, loops, 0, [], 0, false⟩

/-- Whether a server still accepts; `Shutdown` closes its listeners at once. -/
def Phase.accepts : Phase → Server → Bool
  | .serving, _ => true
  | .stopping .business, server => server != .business
  | .stopping .admin, server => server == .dashboard
  | .stopping .dashboard, _ | .waiting, _ | .drained, _ | .closed, _ => false

/-- What follows the shutdown of a server. -/
def Phase.after : Server → Phase
  | .business => .stopping .admin
  | .admin => .stopping .dashboard
  | .dashboard => .waiting

/-- No handler of the server is running on a connection of its own. -/
def App.quiet (s : App) (server : Server) : Bool :=
  s.handlers.all fun h => h.server != server || h.hijacked

inductive Event where
  | accept (server : Server) (writes : List Write)
  | hijack (index : ℕ)
  | write (index : ℕ)
  | return (index : ℕ)
  /-- A detached write is made. -/
  | settle
  | loopReturns
  /-- The next step of `shutdown`; `timedOut` tells whether its wait is over. -/
  | shutdown (timedOut : Bool)

/-- A write on the database, as it is. -/
def App.commit (s : App) : App := if s.phase = .closed then { s with cut := s.cut + 1 } else s

def makeWrite (index : ℕ) (h : Handler) (s : App) : App :=
  match h.writes with
  | [] => s
  | write :: rest =>
    let s := { s with handlers := s.handlers.set index { h with writes := rest } }
    match write with
    | .inline => s.commit
    | .detached => { s with pending := s.pending + 1 }

/-- The next step of `shutdown`. -/
def advance (timedOut : Bool) (s : App) : App :=
  match s.phase with
  | .serving => { s with phase := .stopping .business, canceled := true }
  | .stopping server =>
    if s.quiet server || timedOut then
      { s with
        phase := .after server
        left := s.left || s.handlers.any fun h => h.server == server }
    else s
  | .waiting =>
    if s.bgWG = 0 then { s with phase := .drained }
    else if timedOut then { s with phase := .drained, left := true }
    else s
  | .drained => { s with phase := .closed }
  | .closed => s

def onHandler (index : ℕ) (act : Handler → App → App) (s : App) : App :=
  match s.handlers[index]? with
  | none => s
  | some h => act h s

def step (s : App) : Event → App
  | .accept server writes =>
    if s.phase.accepts server then { s with handlers := s.handlers ++ [⟨server, false, writes⟩] }
    else s
  | .hijack index => onHandler index
      (fun h s => { s with handlers := s.handlers.set index { h with hijacked := true } }) s
  | .write index => onHandler index (makeWrite index) s
  | .return index => onHandler index
      (fun h s => if h.writes = [] then { s with handlers := s.handlers.eraseIdx index } else s) s
  | .settle => if s.pending = 0 then s else ({ s with pending := s.pending - 1 } : App).commit
  | .loopReturns => if s.canceled then { s with loops := s.loops - 1 } else s
  | .shutdown timedOut => advance timedOut s

def run (s : App) (events : List Event) : App := runSteps step s events

/-! ## What is left -/

/-- The servers whose handlers may be running where nothing was left behind. -/
def Phase.serves : Phase → Server → Bool
  | .serving, _ | .stopping .business, _ => true
  | .stopping .admin, server => server != .business
  | .stopping .dashboard, server => server == .dashboard
  | .waiting, _ | .drained, _ | .closed, _ => false

/-- What holds of a teardown that has left nothing behind so far. -/
structure Clean (s : App) : Prop where
  uncut : s.cut = 0
  served : ∀ h ∈ s.handlers, s.phase.serves h.server = true
  drained : s.phase = .drained ∨ s.phase = .closed → s.loops = 0 ∧ s.pending = 0

/-- Nothing is cut off before the database is closed. -/
def Sound (s : App) : Prop := (s.phase ≠ .closed → s.cut = 0) ∧ (s.left = false → Clean s)

theorem serves_of_accepts {phase : Phase} {server : Server} (accepts : phase.accepts server = true) :
    phase.serves server = true := by
  cases phase with
  | stopping stopped => cases stopped <;> cases server <;> first | rfl | cases accepts
  | serving => rfl
  | waiting | drained | closed => cases accepts

theorem serves_after {server other : Server} (serves : (Phase.stopping server).serves other = true)
    (apart : other ≠ server) : (Phase.after server).serves other = true := by
  cases server <;> cases other <;> first | rfl | exact absurd rfl apart | cases serves

section Steps
variable {s : App} {index : ℕ} {h : Handler}

theorem Clean.handlers (clean : Clean s) {handlers : List Handler}
    (served : ∀ h ∈ handlers, s.phase.serves h.server = true) :
    Clean { s with handlers := handlers } := ⟨clean.uncut, served, clean.drained⟩

theorem Clean.set (clean : Clean s) (found : s.handlers[index]? = some h) {next : Handler}
    (same : next.server = h.server) : Clean { s with handlers := s.handlers.set index next } := by
  apply clean.handlers
  intro other member
  rcases List.mem_or_eq_of_mem_set member with before | rfl
  · exact clean.served other before
  · rw [same]
    exact clean.served h (List.mem_of_getElem? found)

/-- Where a handler is running, nothing is drained yet. -/
theorem Clean.undrained (clean : Clean s) (found : s.handlers[index]? = some h) :
    s.phase ≠ .drained ∧ s.phase ≠ .closed := by
  have served := clean.served h (List.mem_of_getElem? found)
  constructor
  · rintro drained
    rw [drained] at served
    cases served
  · rintro closed
    rw [closed] at served
    cases served

theorem sound_write (sound : Sound s) (found : s.handlers[index]? = some h) :
    Sound (makeWrite index h s) := by
  unfold makeWrite
  cases writes : h.writes with
  | nil => exact sound
  | cons write rest =>
    cases write with
    | inline =>
      simp only [App.commit]
      split
      · rename_i closed
        exact ⟨fun open_ => absurd closed open_, fun kept =>
          absurd closed ((sound.2 kept).undrained found).2⟩
      · exact ⟨sound.1, fun kept => (sound.2 kept).set found rfl⟩
    | detached =>
      refine ⟨sound.1, fun kept => ?_⟩
      have clean := sound.2 kept
      have moved : Clean { s with handlers := s.handlers.set index { h with writes := rest } } :=
        clean.set found rfl
      obtain ⟨uncut, served, _⟩ := moved
      refine ⟨uncut, served, fun drained => ?_⟩
      rcases drained with drained | closed
      · exact absurd drained (clean.undrained found).1
      · exact absurd closed (clean.undrained found).2

theorem sound_advance (sound : Sound s) (timedOut : Bool) : Sound (advance timedOut s) := by
  obtain ⟨uncut, clean⟩ := sound
  unfold advance
  cases phase : s.phase with
  | serving =>
    have open_ : s.phase ≠ .closed := by simp [phase]
    exact ⟨fun _ => uncut open_, fun kept => ⟨uncut open_, fun _ _ => rfl, nofun⟩⟩
  | stopping server =>
    have open_ : s.phase ≠ .closed := by simp [phase]
    dsimp only
    split
    · refine ⟨fun _ => uncut open_, fun kept => ?_⟩
      simp only [Bool.or_eq_false_iff, List.any_eq_false, beq_iff_eq] at kept
      obtain ⟨before, gone⟩ := kept
      refine ⟨uncut open_, fun h member => ?_, fun drained => ?_⟩
      · have served := (clean before).served h member
        rw [phase] at served
        exact serves_after served (gone h member)
      · cases server <;> simp [Phase.after] at drained
    · exact ⟨uncut, clean⟩
  | waiting =>
    have open_ : s.phase ≠ .closed := by simp [phase]
    have none_ (kept : s.left = false) : ∀ h ∈ s.handlers, Phase.drained.serves h.server = true := by
      intro h member
      have served := (clean kept).served h member
      rw [phase] at served
      cases served
    dsimp only
    split
    · rename_i empty
      refine ⟨fun _ => uncut open_, fun kept => ⟨uncut open_, none_ kept, fun _ => ?_⟩⟩
      simp only [App.bgWG] at empty
      change s.loops = 0 ∧ s.pending = 0
      omega
    · split
      · exact ⟨fun _ => uncut open_, nofun⟩
      · exact ⟨uncut, clean⟩
  | drained =>
    have open_ : s.phase ≠ .closed := by simp [phase]
    refine ⟨fun open_ => absurd rfl open_, fun kept => ⟨uncut open_, fun h member => ?_, fun _ => ?_⟩⟩
    · have served := (clean kept).served h member
      rw [phase] at served
      cases served
    · exact (clean kept).drained (.inl phase)
  | closed => exact ⟨uncut, clean⟩

theorem sound_step (event : Event) (sound : Sound s) : Sound (step s event) := by
  have one (index : ℕ) (act : Handler → App → App)
      (keeps : ∀ h, s.handlers[index]? = some h → Sound (act h s)) : Sound (onHandler index act s) := by
    unfold onHandler
    split
    · exact sound
    · exact keeps _ ‹_›
  cases event with
  | accept server writes =>
    simp only [step]
    split
    · rename_i accepts
      refine ⟨sound.1, fun kept => (sound.2 kept).handlers fun h member => ?_⟩
      rcases List.mem_append.mp member with before | new
      · exact (sound.2 kept).served h before
      · rw [List.mem_singleton.mp new]
        exact serves_of_accepts accepts
    · exact sound
  | hijack index =>
    exact one index _ fun h found => ⟨sound.1, fun kept => (sound.2 kept).set found rfl⟩
  | write index => exact one index _ fun h found => sound_write sound found
  | «return» index =>
    refine one index _ fun h found => ?_
    split
    · refine ⟨sound.1, fun kept => (sound.2 kept).handlers fun other member => ?_⟩
      exact (sound.2 kept).served other (List.mem_of_mem_eraseIdx member)
    · exact sound
  | settle =>
    simp only [step]
    split
    · exact sound
    · rename_i some_
      simp only [App.commit]
      split
      · rename_i closed
        refine ⟨fun open_ => absurd closed open_, fun kept => ?_⟩
        exact absurd ((sound.2 kept).drained (.inr closed)).2 some_
      · refine ⟨sound.1, fun kept => ⟨(sound.2 kept).uncut, (sound.2 kept).served, fun drained => ?_⟩⟩
        have before := (sound.2 kept).drained drained
        exact ⟨before.1, by rw [before.2]⟩
  | loopReturns =>
    simp only [step]
    split
    · refine ⟨sound.1, fun kept => ⟨(sound.2 kept).uncut, (sound.2 kept).served, fun drained => ?_⟩⟩
      have before := (sound.2 kept).drained drained
      exact ⟨by rw [before.1], before.2⟩
    · exact sound
  | shutdown timedOut => exact sound_advance sound timedOut

end Steps

theorem sound_run (loops : ℕ) (events : List Event) : Sound (run (start loops) events) :=
  runSteps_invariant (fun _ event => sound_step event)
    ⟨fun _ => rfl, fun _ => ⟨rfl, fun _ member => absurd member List.not_mem_nil, nofun⟩⟩

/-! ## Behind the closed database -/

/-- There is accounting that can still be made. -/
def Outstanding (s : App) : Prop := s.pending ≠ 0 ∨ ∃ h ∈ s.handlers, h.writes ≠ []

/-- What a teardown guarantees. -/
structure Orderly (s : App) : Prop where
  /-- Where no wait was given up and no `Shutdown` returned over a running handler, no
  write has been cut off, and once the database is closed nothing is running. -/
  clean : s.left = false → s.cut = 0 ∧
    (s.phase = .closed → s.handlers = [] ∧ s.pending = 0 ∧ s.loops = 0)
  /-- Behind a closed database a write can be cut off exactly if one is outstanding. -/
  closed : s.phase = .closed → ((∀ later, (run s later).cut = s.cut) ↔ ¬Outstanding s)

/-- A dictation session outlives `Shutdown`, which does not see its connection; its
settlement finds the database closed and is left to the next start. -/
example : (run (start 0) [.accept .business [.inline], .hijack 0, .shutdown false, .shutdown false,
    .shutdown false, .shutdown false, .shutdown false, .shutdown false, .write 0]).cut = 1 := rfl

end AnselmGateway.Shutdown
