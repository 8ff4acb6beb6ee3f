import AnselmGateway.Foundation.Bytes
import Mathlib.Algebra.Group.Nat.Defs

/-! The JSON scanner, one byte at a time: the state machine that finds where a
value ends. It keeps what it waits for and what it is inside of, so reading on is
reading the rest from where it stands. -/
namespace AnselmGateway.Foundation.Json

/-! ## Bytes -/

def quote : UInt8 := 0x22
def comma : UInt8 := 0x2C
def colon : UInt8 := 0x3A
def leftBracket : UInt8 := 0x5B
def backslash : UInt8 := 0x5C
def rightBracket : UInt8 := 0x5D
def leftBrace : UInt8 := 0x7B
def rightBrace : UInt8 := 0x7D

/-- `isSpace` of the scanner. -/
def isSpace (c : UInt8) : Bool := c = 0x20 || c = 0x09 || c = 0x0D || c = 0x0A

def isDigit (c : UInt8) : Bool := 0x30 ≤ c && c ≤ 0x39

def isHex (c : UInt8) : Bool :=
  isDigit c || (0x61 ≤ c && c ≤ 0x66) || (0x41 ≤ c && c ≤ 0x46)

/-- The bytes that may follow a backslash on their own: `b f n r t \ / "`. -/
def isEscape (c : UInt8) : Bool := ([0x62, 0x66, 0x6E, 0x72, 0x74, 0x5C, 0x2F, 0x22] : Bytes).contains c

/-! ## The machine -/

/-- What the next byte may be. -/
inductive State where
  | beginValue
  | beginValueOrEmpty
  | beginString
  | beginStringOrEmpty
  | endValue
  | inString
  | inStringEsc
  /-- So many hex digits of a `\u` escape are still to come. -/
  | inStringEscU (digits : ℕ)
  | neg
  | one
  | zero
  | dot
  | dot0
  | exp
  | expSign
  | exp0
  /-- The letters of `true`, `false` or `null` that are still to come. -/
  | word (letters : Bytes)
  deriving DecidableEq

/-- What the scanner is inside of. -/
inductive Nesting where
  | objectKey
  | objectValue
  | arrayValue
  deriving DecidableEq

/-- `maxNestingDepth`. -/
def maxNestingDepth : ℕ := 10000

structure Scanner where
  state : State
  nesting : List Nesting
  deriving DecidableEq

/-- A scanner before a value. -/
def Scanner.new : Scanner := ⟨.beginValue, []⟩

/-- What a byte means: more to come, an array or object closed, the value over
before this byte, or no JSON. -/
inductive Code where
  | more (next : Scanner)
  | closed (next : Scanner)
  | ended
  | error

def Scanner.to (s : Scanner) (state : State) : Code := .more { s with state := state }

/-- `pushParseState`. -/
def Scanner.push (s : Scanner) (state : State) (inside : Nesting) : Code :=
  if s.nesting.length < maxNestingDepth then .more ⟨state, inside :: s.nesting⟩ else .error

/-- `stateEndValue`. -/
def Scanner.endValue (s : Scanner) (c : UInt8) : Code :=
  match s.nesting with
  | [] => .ended
  | inside :: outer =>
    if isSpace c then s.to .endValue
    else match inside with
      | .objectKey => if c = colon then .more ⟨.beginValue, .objectValue :: outer⟩ else .error
      | .objectValue =>
        if c = comma then .more ⟨.beginString, .objectKey :: outer⟩
        else if c = rightBrace then .closed ⟨.endValue, outer⟩
        else .error
      | .arrayValue =>
        if c = comma then s.to .beginValue
        else if c = rightBracket then .closed ⟨.endValue, outer⟩
        else .error

/-- `stateBeginValue`. -/
def Scanner.beginValue (s : Scanner) (c : UInt8) : Code :=
  if isSpace c then .more s
  else if c = leftBrace then s.push .beginStringOrEmpty .objectKey
  else if c = leftBracket then s.push .beginValueOrEmpty .arrayValue
  else if c = quote then s.to .inString
  else if c = 0x2D then s.to .neg
  else if c = 0x30 then s.to .zero
  else if c = 0x74 then s.to (.word (utf8 "rue"))
  else if c = 0x66 then s.to (.word (utf8 "alse"))
  else if c = 0x6E then s.to (.word (utf8 "ull"))
  else if isDigit c then s.to .one
  else .error

/-- `stateBeginString`. -/
def Scanner.beginString (s : Scanner) (c : UInt8) : Code :=
  if isSpace c then .more s else if c = quote then s.to .inString else .error

/-- `state0`. -/
def Scanner.zero (s : Scanner) (c : UInt8) : Code :=
  if c = 0x2E then s.to .dot
  else if c = 0x65 || c = 0x45 then s.to .exp
  else s.endValue c

/-- `stateESign`. -/
def Scanner.expSign (s : Scanner) (c : UInt8) : Code := if isDigit c then s.to .exp0 else .error

/-- One byte. -/
def Scanner.step (s : Scanner) (c : UInt8) : Code :=
  match s.state with
  | .beginValue => s.beginValue c
  | .beginValueOrEmpty =>
    if isSpace c then .more s
    else if c = rightBracket then s.endValue c
    else s.beginValue c
  | .beginString => s.beginString c
  | .beginStringOrEmpty =>
    if isSpace c then .more s
    else if c = rightBrace then
      Scanner.endValue { s with nesting := .objectValue :: s.nesting.tail } c
    else s.beginString c
  | .endValue => s.endValue c
  | .inString =>
    if c = quote then s.to .endValue
    else if c = backslash then s.to .inStringEsc
    else if c < 0x20 then .error
    else s.to .inString
  | .inStringEsc =>
    if isEscape c then s.to .inString else if c = 0x75 then s.to (.inStringEscU 4) else .error
  | .inStringEscU digits =>
    if !isHex c then .error
    else if digits ≤ 1 then s.to .inString
    else s.to (.inStringEscU (digits - 1))
  | .neg => if c = 0x30 then s.to .zero else if isDigit c then s.to .one else .error
  | .one => if isDigit c then s.to .one else s.zero c
  | .zero => s.zero c
  | .dot => if isDigit c then s.to .dot0 else .error
  | .dot0 =>
    if isDigit c then s.to .dot0 else if c = 0x65 || c = 0x45 then s.to .exp else s.endValue c
  | .exp => if c = 0x2B || c = 0x2D then s.to .expSign else s.expSign c
  | .expSign => s.expSign c
  | .exp0 => if isDigit c then s.to .exp0 else s.endValue c
  | .word letters =>
    match letters with
    | letter :: rest => if c = letter then s.to (if rest = [] then .endValue else .word rest) else .error
    | [] => .error

/-- Whatever the scanner is inside of, a byte before a value is a space, opens an object
or an array, begins a scalar, or is no JSON. -/
theorem beginValue_cases (c : UInt8) :
    (∀ s : Scanner, s.beginValue c = .more s) ∨
    (∀ s : Scanner, s.beginValue c = s.push .beginStringOrEmpty .objectKey) ∨
    (∀ s : Scanner, s.beginValue c = s.push .beginValueOrEmpty .arrayValue) ∨
    (∃ state, state ≠ .beginStringOrEmpty ∧ ∀ s : Scanner, s.beginValue c = s.to state) ∨
    ∀ s : Scanner, s.beginValue c = .error := by
  by_cases space : isSpace c = true
  · exact .inl fun s => if_pos space
  by_cases brace : c = leftBrace
  · exact .inr (.inl fun s => (if_neg space).trans (if_pos brace))
  by_cases bracket : c = leftBracket
  · exact .inr (.inr (.inl fun s => (if_neg space).trans ((if_neg brace).trans (if_pos bracket))))
  refine .inr (.inr (.inr ?_))
  simp only [Scanner.beginValue, if_neg space, if_neg brace, if_neg bracket]
  by_cases quoted : c = quote
  · exact .inl ⟨.inString, nofun, fun s => if_pos quoted⟩
  simp only [if_neg quoted]
  by_cases minus : c = 0x2D
  · exact .inl ⟨.neg, nofun, fun s => if_pos minus⟩
  simp only [if_neg minus]
  by_cases zero : c = 0x30
  · exact .inl ⟨.zero, nofun, fun s => if_pos zero⟩
  simp only [if_neg zero]
  by_cases true_ : c = 0x74
  · exact .inl ⟨.word (utf8 "rue"), nofun, fun s => if_pos true_⟩
  simp only [if_neg true_]
  by_cases false_ : c = 0x66
  · exact .inl ⟨.word (utf8 "alse"), nofun, fun s => if_pos false_⟩
  simp only [if_neg false_]
  by_cases null : c = 0x6E
  · exact .inl ⟨.word (utf8 "ull"), nofun, fun s => if_pos null⟩
  simp only [if_neg null]
  by_cases digit : isDigit c = true
  · exact .inl ⟨.one, nofun, fun s => if_pos digit⟩
  exact .inr fun s => if_neg digit

/-- `readValue`, over what is left of the input: how many bytes the value takes.
A closing byte of the outermost array or object belongs to it; any other value is
over before the byte that cannot continue it, or with the input. -/
def readFrom : Scanner → Bytes → Option ℕ
  | s, [] =>
    match s.step 0x20 with
    | .ended => some 0
    | _ => none
  | s, c :: rest =>
    match s.step c with
    | .more next => (readFrom next rest).map (· + 1)
    | .closed next => if next.nesting = [] then some 1 else (readFrom next rest).map (· + 1)
    | .ended => some 0
    | .error => none

def readValue (input : Bytes) : Option ℕ := readFrom .new input

/-! ## Reading is local -/

theorem readFrom_le {s : Scanner} {input : Bytes} {n : ℕ} (ran : readFrom s input = some n) :
    n ≤ input.length := by
  induction input generalizing s n with
  | nil =>
    unfold readFrom at ran
    split at ran
    · cases ran
      exact Nat.le_refl 0
    · cases ran
  | cons c rest ih =>
    unfold readFrom at ran
    rw [List.length_cons]
    split at ran
    · obtain ⟨m, inner, rfl⟩ := Option.map_eq_some_iff.mp ran
      exact Nat.succ_le_succ (ih inner)
    · split at ran
      · cases ran
        omega
      · obtain ⟨m, inner, rfl⟩ := Option.map_eq_some_iff.mp ran
        exact Nat.succ_le_succ (ih inner)
    · cases ran
      omega
    · cases ran

/-- How far a value reaches depends on its own bytes and the one that follows. -/
theorem readFrom_local {s : Scanner} {value rest other : Bytes} (same : other.head? = rest.head?)
    (ran : readFrom s (value ++ rest) = some value.length) :
    readFrom s (value ++ other) = some value.length := by
  induction value generalizing s with
  | nil =>
    cases rest with
    | nil =>
      obtain rfl : other = [] := List.head?_eq_none_iff.mp same
      exact ran
    | cons c rest =>
      obtain ⟨tail, rfl⟩ := List.head?_eq_some_iff.mp same
      simp only [List.nil_append, readFrom] at ran ⊢
      cases code : s.step c with
      | more next =>
        rw [code] at ran
        obtain ⟨m, _, wrong⟩ := Option.map_eq_some_iff.mp ran
        cases wrong
      | closed next =>
        rw [code] at ran
        dsimp only at ran
        split at ran
        · cases ran
        · obtain ⟨m, _, wrong⟩ := Option.map_eq_some_iff.mp ran
          cases wrong
      | ended => rfl
      | error =>
        rw [code] at ran
        cases ran
  | cons c value ih =>
    simp only [List.cons_append, readFrom, List.length_cons] at ran ⊢
    cases code : s.step c with
    | more next =>
      rw [code] at ran
      obtain ⟨m, inner, length⟩ := Option.map_eq_some_iff.mp ran
      cases length
      exact Option.map_eq_some_iff.mpr ⟨_, ih inner, rfl⟩
    | closed next =>
      rw [code] at ran
      dsimp only at ran ⊢
      split at ran
      · rename_i outermost
        rw [if_pos outermost]
        exact ran
      · rename_i inside
        rw [if_neg inside]
        obtain ⟨m, inner, length⟩ := Option.map_eq_some_iff.mp ran
        cases length
        exact Option.map_eq_some_iff.mpr ⟨_, ih inner, rfl⟩
    | ended =>
      rw [code] at ran
      cases ran
    | error =>
      rw [code] at ran
      cases ran

end AnselmGateway.Foundation.Json
