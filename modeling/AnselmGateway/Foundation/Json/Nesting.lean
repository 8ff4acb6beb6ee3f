import AnselmGateway.Foundation.Json.Literal

/-! A value inside another is scanned as if it stood alone. The scanner looks only at
what it is innermost inside of, so what is around a value matters first when the value
is over. -/
namespace AnselmGateway.Foundation.Json

/-- The scanner with more around what it is inside of. -/
def Scanner.inside (s : Scanner) (outer : List Nesting) : Scanner := ⟨s.state, s.nesting ++ outer⟩

/-- Inside something, where the state looks at what it is. -/
def Scanner.Grounded (s : Scanner) : Prop := s.state = .beginStringOrEmpty → s.nesting ≠ []

/-- The scanner goes on to this one. -/
def Code.GoesTo (code : Code) (next : Scanner) : Prop := code = .more next ∨ code = .closed next

section Inside
variable {s next : Scanner} {outer : List Nesting} {c : UInt8}

@[simp] theorem inside_state : (s.inside outer).state = s.state := rfl

@[simp] theorem inside_nesting : (s.inside outer).nesting = s.nesting ++ outer := rfl

@[simp] theorem inside_to {state : State} : (s.inside outer).to state =
    .more (Scanner.inside { s with state := state } outer) := rfl

/-- What a byte means further out, from what it means alone. -/
def Code.inside (code : Code) (outer : List Nesting) (outside : Code) : Code :=
  match code with
  | .more next => .more (next.inside outer)
  | .closed next => .closed (next.inside outer)
  | .ended => outside
  | .error => .error

theorem endValue_inside :
    (s.inside outer).endValue c = (s.endValue c).inside outer ((s.inside outer).endValue c) := by
  obtain ⟨state, nesting⟩ := s
  cases nesting with
  | nil => rfl
  | cons inner nesting =>
    simp only [Scanner.endValue, Scanner.inside, List.cons_append]
    split
    · rfl
    · cases inner with
      | objectKey => dsimp only; split <;> rfl
      | objectValue =>
        dsimp only
        split
        · rfl
        · split <;> rfl
      | arrayValue =>
        dsimp only
        split
        · rfl
        · split <;> rfl

theorem zero_inside : (s.inside outer).zero c = (s.zero c).inside outer ((s.inside outer).endValue c) := by
  unfold Scanner.zero
  split
  · rfl
  · split
    · rfl
    · exact endValue_inside

/-- A nesting may be too deep further out; else a byte means what it means alone. -/
theorem push_inside {state : State} {inner : Nesting} {outside : Code} :
    (s.inside outer).push state inner = .error ∨
      (s.inside outer).push state inner = (s.push state inner).inside outer outside := by
  unfold Scanner.push
  split
  · rename_i room
    have alone : s.nesting.length < maxNestingDepth := by
      rw [inside_nesting, List.length_append] at room
      omega
    rw [if_pos alone]
    exact .inr rfl
  · exact .inl rfl

theorem beginValue_inside {outside : Code} : (s.inside outer).beginValue c = .error ∨
    (s.inside outer).beginValue c = (s.beginValue c).inside outer outside := by
  rcases beginValue_cases c with code | code | code | ⟨state, _, code⟩ | code
  · rw [code, code]
    exact .inr rfl
  · rw [code, code]
    exact push_inside
  · rw [code, code]
    exact push_inside
  · rw [code, code]
    exact .inr rfl
  · exact .inl (code _)

theorem beginString_inside {outside : Code} :
    (s.inside outer).beginString c = (s.beginString c).inside outer outside := by
  unfold Scanner.beginString
  split
  · rfl
  · split <;> rfl

/-- One byte further out. Only the brace of an empty object looks at what is around it. -/
theorem step_inside (grounded : s.Grounded) :
    (s.inside outer).step c = .error ∨
      (s.inside outer).step c = (s.step c).inside outer ((s.inside outer).endValue c) := by
  obtain ⟨state, nesting⟩ := s
  cases state with
  | beginValue => exact beginValue_inside
  | beginValueOrEmpty =>
    simp only [Scanner.step, inside_state]
    split
    · exact .inr rfl
    · split
      · exact .inr endValue_inside
      · exact beginValue_inside
  | beginString => exact .inr beginString_inside
  | beginStringOrEmpty =>
    cases nesting with
    | nil => exact absurd rfl (grounded rfl)
    | cons inner nesting =>
      simp only [Scanner.step, inside_state]
      split
      · exact .inr rfl
      · split
        · rename_i brace
          right
          subst brace
          rfl
        · exact .inr beginString_inside
  | endValue => exact .inr endValue_inside
  | zero => exact .inr zero_inside
  | word letters =>
    right
    cases letters with
    | nil => rfl
    | cons letter rest =>
      simp only [Scanner.step, inside_state]
      split <;> rfl
  | one =>
    right
    simp only [Scanner.step, inside_state]
    split
    · rfl
    · exact zero_inside
  | dot0 =>
    right
    simp only [Scanner.step, inside_state]
    split
    · rfl
    · split
      · rfl
      · exact endValue_inside
  | exp0 =>
    right
    simp only [Scanner.step, inside_state]
    split
    · rfl
    · exact endValue_inside
  | exp =>
    right
    simp only [Scanner.step, Scanner.expSign, inside_state]
    split
    · rfl
    · split <;> rfl
  | expSign =>
    right
    simp only [Scanner.step, Scanner.expSign, inside_state]
    split <;> rfl
  | inString | inStringEsc | inStringEscU | neg =>
    right
    simp only [Scanner.step, inside_state]
    repeat' split
    all_goals rfl
  | dot =>
    right
    simp only [Scanner.step, inside_state]
    split <;> rfl

theorem to_grounded {state : State} (other : state ≠ .beginStringOrEmpty)
    (goes : (s.to state).GoesTo next) : next.Grounded := by
  rcases goes with code | code <;> cases code
  exact fun same => absurd same other

theorem endValue_grounded (goes : (s.endValue c).GoesTo next) : next.Grounded := by
  unfold Scanner.endValue at goes
  repeat' split at goes
  all_goals rcases goes with code | code <;> cases code
  all_goals nofun

/-- What was just pushed is something to be inside of. -/
theorem push_grounded {state : State} {inner : Nesting} (goes : (s.push state inner).GoesTo next) :
    next.Grounded := by
  unfold Scanner.push at goes
  split at goes
  · rcases goes with same | same <;> cases same
    exact fun _ => List.cons_ne_nil _ _
  · rcases goes with same | same <;> cases same

theorem beginValue_grounded (grounded : s.Grounded) (goes : (s.beginValue c).GoesTo next) :
    next.Grounded := by
  rcases beginValue_cases c with code | code | code | ⟨state, plain, code⟩ | code
  · rw [code] at goes
    rcases goes with same | same <;> cases same
    exact grounded
  · rw [code] at goes
    exact push_grounded goes
  · rw [code] at goes
    exact push_grounded goes
  · rw [code] at goes
    exact to_grounded plain goes
  · rw [code] at goes
    rcases goes with same | same <;> cases same

theorem step_grounded (grounded : s.Grounded) (goes : (s.step c).GoesTo next) : next.Grounded := by
  unfold Scanner.step Scanner.beginString Scanner.zero Scanner.expSign at goes
  repeat' split at goes
  all_goals first
    | exact endValue_grounded goes
    | exact beginValue_grounded grounded goes
    | refine to_grounded ?_ goes
      intro same
      cases same
    | rcases goes with code | code <;> cases code
      exact grounded
    | rcases goes with code | code <;> cases code

theorem endValue_space (some_ : s.nesting ≠ []) (space : isSpace c = true) :
    s.endValue c = s.to .endValue := by
  obtain ⟨inner, nesting, same⟩ := List.exists_cons_of_ne_nil some_
  unfold Scanner.endValue
  rw [same]
  dsimp only
  rw [if_pos space]

theorem endValue_ended (ends : s.endValue c = .ended) : s.nesting = [] := by
  unfold Scanner.endValue Scanner.to at ends
  split at ends
  · assumption
  · repeat' split at ends
    all_goals cases ends

theorem push_more {state : State} {inner : Nesting} :
    s.push state inner = .error ∨ ∃ next, s.push state inner = .more next := by
  unfold Scanner.push
  split
  · exact .inr ⟨_, rfl⟩
  · exact .inl rfl

theorem beginValue_more : s.beginValue c = .error ∨ ∃ next, s.beginValue c = .more next := by
  rcases beginValue_cases c with code | code | code | ⟨state, _, code⟩ | code
  · exact .inr ⟨_, code s⟩
  · rw [code]
    exact push_more
  · rw [code]
    exact push_more
  · exact .inr ⟨_, code s⟩
  · exact .inl (code s)

/-- Only what stands alone is over before a byte. -/
theorem step_ended (ends : s.step c = .ended) : s.nesting = [] := by
  have begins : s.beginValue c ≠ .ended := by
    rcases beginValue_more (s := s) (c := c) with code | ⟨next, code⟩ <;> rw [code] <;> nofun
  unfold Scanner.step Scanner.beginString Scanner.zero Scanner.expSign at ends
  repeat' split at ends
  all_goals first
    | exact endValue_ended ends
    | exact absurd ends begins
    | cases ends
    | exact absurd (endValue_ended ends) (List.cons_ne_nil _ _)

theorem endValue_closed (ends : s.endValue c = .closed next) : next.state = .endValue := by
  unfold Scanner.endValue Scanner.to at ends
  repeat' split at ends
  all_goals cases ends
  all_goals rfl

/-- What is closed is over. -/
theorem step_closed (ends : s.step c = .closed next) : next.state = .endValue := by
  have begins : s.beginValue c ≠ .closed next := by
    rcases beginValue_more (s := s) (c := c) with code | ⟨next, code⟩ <;> rw [code] <;> nofun
  unfold Scanner.step Scanner.beginString Scanner.zero Scanner.expSign at ends
  repeat' split at ends
  all_goals first
    | exact endValue_closed ends
    | exact absurd ends begins
    | cases ends

/-- What is scanned inside something begins with what is scanned alone, and goes on
behind it as behind a value that is over. -/
theorem readFrom_inside {text : Bytes} {n : ℕ} (some_ : outer ≠ []) (grounded : s.Grounded)
    (ran : readFrom (s.inside outer) text = some n) :
    ∃ k m, readFrom s text = some k ∧ readFrom ⟨.endValue, outer⟩ (text.drop k) = some m ∧ n = k + m := by
  induction text generalizing s n with
  | nil =>
    -- within something the input may not end
    exfalso
    rw [readFrom] at ran
    rcases (step_inside grounded : (s.inside outer).step 0x20 = _ ∨ _) with wrong | same
    · rw [wrong] at ran
      cases ran
    · rw [same] at ran
      have inside_ : (s.inside outer).nesting ≠ [] := by simp [some_]
      cases code : s.step 0x20 with
      | ended =>
        have space : isSpace 0x20 = true := by decide
        simp [code, Code.inside, endValue_space inside_ space, Scanner.to] at ran
      | _ => simp [code, Code.inside] at ran
  | cons c text ih =>
    rw [readFrom] at ran
    rcases (step_inside grounded : (s.inside outer).step c = _ ∨ _) with wrong | same
    · rw [wrong] at ran
      cases ran
    · rw [same] at ran
      cases code : s.step c with
      | more next =>
        rw [code] at ran
        obtain ⟨n', inner, rfl⟩ := Option.map_eq_some_iff.mp ran
        obtain ⟨k, m, alone, behind, rfl⟩ := ih (step_grounded grounded (.inl code)) inner
        refine ⟨k + 1, m, ?_, behind, by omega⟩
        rw [readFrom, code]
        exact Option.map_eq_some_iff.mpr ⟨k, alone, rfl⟩
      | closed next =>
        rw [code] at ran
        dsimp only [Code.inside] at ran
        have inside_ : (next.inside outer).nesting ≠ [] := by simp [some_]
        rw [if_neg inside_] at ran
        obtain ⟨n', inner, rfl⟩ := Option.map_eq_some_iff.mp ran
        by_cases outermost : next.nesting = []
        · refine ⟨1, n', ?_, ?_, by omega⟩
          · rw [readFrom, code]
            dsimp only
            rw [if_pos outermost]
          · have bare : next.inside outer = ⟨.endValue, outer⟩ := by
              unfold Scanner.inside
              rw [step_closed code, outermost, List.nil_append]
            rw [bare] at inner
            exact inner
        · obtain ⟨k, m, alone, behind, rfl⟩ := ih (step_grounded grounded (.inr code)) inner
          refine ⟨k + 1, m, ?_, behind, by omega⟩
          rw [readFrom, code]
          dsimp only
          rw [if_neg outermost]
          exact Option.map_eq_some_iff.mpr ⟨k, alone, rfl⟩
      | ended =>
        rw [code] at ran
        refine ⟨0, n, ?_, ?_, by omega⟩
        · rw [readFrom, code]
        · have bare : s.inside outer = ⟨s.state, outer⟩ := by
            unfold Scanner.inside
            rw [step_ended code, List.nil_append]
          rw [List.drop_zero, readFrom]
          dsimp only [Code.inside] at ran
          rw [bare] at ran
          exact ran
      | error =>
        rw [code] at ran
        cases ran

end Inside

/-! ## What is behind -/

/-- The scanner takes what stands before `rest`. -/
def Scanner.Reads (s : Scanner) (text rest : Bytes) : Prop :=
  ∃ value, text = value ++ rest ∧ readFrom s text = some value.length

section Reads
variable {s next : Scanner} {c : UInt8} {text rest : Bytes}

theorem reads_of_readFrom {n : ℕ} (ran : readFrom s text = some n) : s.Reads text (text.drop n) :=
  ⟨text.take n, (List.take_append_drop n text).symm, by rw [List.length_take_of_le (readFrom_le ran), ran]⟩

theorem Scanner.Reads.readFrom (reads : s.Reads text rest) :
    ∃ n, readFrom s text = some n ∧ text.drop n = rest := by
  obtain ⟨value, rfl, ran⟩ := reads
  exact ⟨value.length, ran, List.drop_left⟩

theorem Scanner.Reads.more (reads : s.Reads (c :: text) rest) (code : s.step c = .more next) :
    next.Reads text rest := by
  obtain ⟨n, ran, rfl⟩ := reads.readFrom
  rw [readFrom_more code] at ran
  obtain ⟨m, inner, rfl⟩ := Option.map_eq_some_iff.mp ran
  exact reads_of_readFrom inner

/-- The last bracket takes only itself. -/
theorem Scanner.Reads.closed {state : State} (reads : s.Reads (c :: text) rest)
    (code : s.step c = .closed ⟨state, []⟩) : text = rest := by
  obtain ⟨n, ran, rfl⟩ := reads.readFrom
  rw [Json.readFrom, code] at ran
  cases ran
  rfl

theorem Scanner.Reads.error (reads : s.Reads (c :: text) rest) : s.step c ≠ .error := by
  intro code
  obtain ⟨n, ran, _⟩ := reads.readFrom
  rw [Json.readFrom, code] at ran
  cases ran

/-- Where spaces say nothing, the first other byte does. -/
theorem Scanner.Reads.spaces (skips : ∀ c, isSpace c = true → s.step c = .more s)
    (reads : s.Reads text rest) : ∃ spaces c tail, spaces.all isSpace = true ∧ isSpace c = false ∧
      text = spaces ++ c :: tail ∧ s.Reads (c :: tail) rest := by
  induction text with
  | nil =>
    obtain ⟨n, ran, _⟩ := reads.readFrom
    rw [Json.readFrom, skips 0x20 (by decide)] at ran
    cases ran
  | cons c text ih =>
    cases space : isSpace c with
    | false => exact ⟨[], c, text, rfl, space, rfl, reads⟩
    | true =>
      obtain ⟨spaces, d, tail, all, stop, rfl, behind⟩ := ih (reads.more (skips c space))
      exact ⟨c :: spaces, d, tail, by rw [List.all_cons, space, all]; rfl, stop, rfl, behind⟩

theorem Scanner.Reads.behindSpaces {spaces : Bytes} (skips : ∀ c, isSpace c = true → s.step c = .more s)
    (all : spaces.all isSpace = true) (reads : s.Reads text rest) : s.Reads (spaces ++ text) rest := by
  obtain ⟨value, rfl, ran⟩ := reads
  refine ⟨spaces ++ value, (List.append_assoc ..).symm, ?_⟩
  induction spaces with
  | nil => exact ran
  | cons c spaces ih =>
    rw [List.all_cons, Bool.and_eq_true] at all
    rw [List.cons_append, readFrom_more (skips c all.1), ih all.2]
    rfl

/-- Only the first byte tells two states apart. -/
theorem Scanner.Reads.congr {s' : Scanner} (same : s.step c = s'.step c) (reads : s.Reads (c :: text) rest) :
    s'.Reads (c :: text) rest := by
  obtain ⟨value, whole, ran⟩ := reads
  refine ⟨value, whole, ?_⟩
  rw [Json.readFrom] at ran ⊢
  rw [← same]
  exact ran

/-- A value inside another is read alone, and what is around it behind it. -/
theorem Scanner.Reads.alone {outer : List Nesting} (some_ : outer ≠ []) (grounded : s.Grounded)
    (reads : (s.inside outer).Reads text rest) :
    ∃ middle, s.Reads text middle ∧ Scanner.Reads ⟨.endValue, outer⟩ middle rest := by
  obtain ⟨n, ran, rfl⟩ := reads.readFrom
  obtain ⟨k, m, alone, behind, rfl⟩ := readFrom_inside some_ grounded ran
  refine ⟨text.drop k, reads_of_readFrom alone, ?_⟩
  rw [← List.drop_drop]
  exact reads_of_readFrom behind

end Reads

end AnselmGateway.Foundation.Json
