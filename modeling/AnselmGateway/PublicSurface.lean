import AnselmGateway.RequestAuthenticity
import AnselmGateway.Router

/-! Every way in. Whatever arrives at the public listener goes through the wrappers and the
mux to one handler or none, and to a metered handler only past the door. A handler works on what
it is given when its turn comes, whatever came in between. The log keeps what arrived and what
became of it; it is held against the table and against what the door has let in. -/
namespace AnselmGateway.PublicSurface
open Foundation DeviceProof DeviceProofReplay ProtectedDoor Router RequestAuthenticity
open Foundation.Routing (captured)

inductive Answer where
  | turned (why : Turned)
  | refused (route : Route) (error : APIError)
  /-- A handler has it, with the words of its wildcards; one behind the door with the body
  that the door has read. -/
  | handled (route : Route) (wild : List Bytes) (body : Option Bytes)

/-- A goroutine between its door and its handler, or before the work of its handler. -/
inductive Pending where
  /-- The door has let it in, with the body that it has read. -/
  | inside (a : Arrival) (route : Route) (wild : List Bytes) (body : Bytes)
  /-- A handler outside the door has it. -/
  | outside (a : Arrival) (route : Route)

/-- The doors, what is under way behind the listener and what died with its process, and what has
arrived. -/
structure State where
  doors : RequestAuthenticity.State
  pending : List Pending
  lost : List Pending
  log : List (Arrival × Answer)

def State.start (secret : Bytes) : State := ⟨.start secret, [], [], []⟩

/-- What an arrival meets: whether the key can be read, the clock, the random bytes and the
settings of the moment. -/
structure Moment where
  fails : Bool
  now : ℤ
  random : Vector UInt8 16
  cfg : Install.Config
  powCfg : PowConfig
  installID : String
  regenerated : String

inductive Event where
  | arrive (a : Arrival) (moment : Moment)
  /-- The turn of one that is under way. -/
  | proceed (turn : ℕ) (moment : Moment)
  /-- What happens elsewhere: a device signs, an operator acts, the process restarts. -/
  | beside (event : RequestAuthenticity.Event)

variable (u : Setup) (limit : ℕ)

/-- The handlers that stand outside the door, as far as they touch what is behind it. -/
def openHandler (route : Route) (r : HTTPRequest) (moment : Moment) (doors : RequestAuthenticity.State) :
    RequestAuthenticity.State :=
  match route with
  | .install =>
    register u r moment.cfg moment.powCfg moment.installID moment.regenerated moment.now doors
  | .proofChallenge =>
    if r.method ≠ "GET" then doors
    else RequestAuthenticity.step u doors (.challenge moment.now moment.random)
  | _ => doors

/-- The door's verdict on an arrival. -/
def verdict (r : HTTPRequest) (moment : Moment) (doors : RequestAuthenticity.State) : Except APIError Bytes :=
  (protect u.beyond u.prim doors.secret moment.fails doors.gateway.db.installs r moment.now
    (some doors.replay)).1

/-- `BuildHandler`, on one arrival, up to its handler. -/
def arrive (a : Arrival) (moment : Moment) (s : State) : State :=
  match route a with
  | .error why => { s with log := s.log ++ [(a, .turned why)] }
  | .ok (m, wild) =>
    let r := a.capped limit
    if m.route.guarded then
      let doors := request u r moment.fails moment.now s.doors
      match verdict u r moment s.doors with
      | .error error => { s with doors := doors, log := s.log ++ [(a, .refused m.route error)] }
      | .ok body => { s with doors := doors, pending := s.pending ++ [.inside a m.route wild body] }
    else { s with
      pending := s.pending ++ [.outside a m.route]
      log := s.log ++ [(a, .handled m.route wild none)] }

/-- The handler is called, or does its work. -/
def proceed (turn : ℕ) (moment : Moment) (s : State) : State :=
  match s.pending[turn]? with
  | none => s
  | some (.inside a route wild body) => { s with
      pending := s.pending.eraseIdx turn
      log := s.log ++ [(a, .handled route wild (some body))] }
  | some (.outside a route) => { s with
      pending := s.pending.eraseIdx turn
      doors := openHandler u route (a.capped limit) moment s.doors }

def step (s : State) : Event → State
  | .arrive a moment => arrive u limit a moment s
  | .proceed turn moment => proceed u limit turn moment s
  | .beside (.challenge ..) | .beside (.request ..) | .beside (.register ..) => s
  | .beside (.restart secret) => { s with
      doors := RequestAuthenticity.step u s.doors (.restart secret)
      pending := []
      lost := s.lost ++ s.pending }
  | .beside event => { s with doors := RequestAuthenticity.step u s.doors event }

def run (s : State) (events : List Event) : State := runSteps (step u limit) s events

/-! ## What an answer says -/

/-- The words of a path as the mux reads them. -/
def words (a : Arrival) : List Bytes := segments (utf8 a.escapedPath)

/-- A mount is for an arrival, and no other is. -/
structure For (a : Arrival) (m : Mount) : Prop where
  sameOrigin : a.origin = ""
  mounted : m ∈ mounts
  serves : m.serves a.method (words a)
  only : ∀ other ∈ mounts, other.serves a.method (words a) → other = m

/-- How an arrival may be answered. -/
inductive Answers (a : Arrival) : Answer → Prop
  | options (own : a.method = "OPTIONS" ∧ a.escapedPath = "*") : Answers a (.turned .options)
  | forbidden (cross : a.origin ≠ "") : Answers a (.turned .forbidden)
  | badRequest (star : a.escapedPath = "*") : Answers a (.turned .badRequest)
  | moved (sameOrigin : a.origin = "") (unclean : cleanPath (utf8 a.escapedPath) ≠ utf8 a.escapedPath) :
      Answers a (.turned (.moved (cleanPath (utf8 a.escapedPath))))
  | notFound (sameOrigin : a.origin = "") (nobody : ∀ method, ∀ m ∈ mounts, ¬m.serves method (words a)) :
      Answers a (.turned .notFound)
  | methodNotAllowed (sameOrigin : a.origin = "") (allow : List String) (some_ : allow ≠ [])
      (exact_ : ∀ method, method ∈ allow ↔ ∃ m ∈ mounts, m.serves method (words a))
      (other : a.method ∉ allow) : Answers a (.turned (.methodNotAllowed allow))
  | refused (m : Mount) (for_ : For a m) (guarded : m.route.guarded = true) (error : APIError) :
      Answers a (.refused m.route error)
  | letIn (m : Mount) (for_ : For a m) (guarded : m.route.guarded = true) (whole : a.whole = true)
      (within : a.sent.length ≤ limit) :
      Answers a (.handled m.route (captured m.pattern (words a)) (some a.sent))
  | outside (m : Mount) (for_ : For a m) (unguarded : m.route.guarded = false) :
      Answers a (.handled m.route (captured m.pattern (words a)) none)

section Answering
variable {u limit} {a : Arrival} {s : State}

end Answering

/-! ## What the door has let in -/

variable (beyond : Char → Char)

/-- What the door was shown: the request as it is signed, the install it names, and its proof. -/
def shown (a : Arrival) (body : Bytes) : Request × Bytes × Bytes :=
  ((a.capped limit).signable beyond body, utf8 a.installID, a.proof)

/-- What a handler behind the door was given. -/
def metered (entry : Arrival × Answer) : Option (Request × Bytes × Bytes) :=
  match entry.2 with
  | .handled _ _ (some body) => some (shown limit beyond entry.1 body)
  | _ => none

/-- What the door has let in and no handler was given. -/
def admitted : Pending → Option (Request × Bytes × Bytes)
  | .inside a _ _ body => some (shown limit beyond a body)
  | .outside _ _ => none

/-- What came to the registration. -/
def enrolling (entry : Arrival × Answer) : Option (Bytes × Bytes × Bytes) :=
  match entry.2 with
  | .handled .install _ _ =>
    some (utf8 entry.1.method, utf8 ((entry.1.capped limit).target beyond), entry.1.proof)
  | _ => none

/-- What the registration has not yet looked at. -/
def unjudged : Pending → Option (Bytes × Bytes × Bytes)
  | .outside a .install => some (utf8 a.method, utf8 ((a.capped limit).target beyond), a.proof)
  | _ => none

def requests (accepted : List (Entrance × Verification)) : List (Request × Bytes × Bytes) :=
  (accepted.filter fun a => a.1 = .request).map fun a => (a.2.req, a.2.expectedID, a.2.compact)

def registrations (accepted : List (Entrance × Verification)) : List (Bytes × Bytes × Bytes) :=
  (accepted.filter fun a => a.1 = .registration).map fun a =>
    (a.2.req.method, a.2.req.target, a.2.compact)

/-- What is under way is on its way to the one mount it is for. -/
def OnItsWay : Pending → Prop
  | .inside a route wild body => Answers limit a (.handled route wild (some body))
  | .outside _ _ => True

/-- Everything is answered by the table; what the door has let in was given to a handler, one for
one, but for what is under way and what died with its process; and every registration that was let
in is another that came in at its route. -/
structure Covered (s : State) : Prop where
  answered : ∀ entry ∈ s.log, Answers limit entry.1 entry.2
  underWay : ∀ p ∈ s.pending, OnItsWay limit p
  given : (s.log.filterMap (metered limit beyond) ++ s.pending.filterMap (admitted limit beyond) ++
    s.lost.filterMap (admitted limit beyond)).Perm (requests s.doors.accepted)
  enrolled : (registrations s.doors.accepted ++ s.pending.filterMap (unjudged limit beyond)).Subperm
    (s.log.filterMap (enrolling limit beyond))

section Run
variable {u limit} {s : State}

end Run

end AnselmGateway.PublicSurface
