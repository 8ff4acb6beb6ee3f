import AnselmGateway.Foundation.Json.Object
import AnselmGateway.Foundation.Json.Literal

/-! One value in the place of another. A decoder that reads the members of an object
up to a value reads the same members when a string stands there, and goes on behind
it as it went on before. -/
namespace AnselmGateway.Foundation.Json

/-! ## Inside an object -/

/-- Between two members, or before the first. -/
def Decoder.InObject (dec : Decoder) : Prop := dec.state = .objectStart ∨ dec.state = .objectComma

theorem decode_text {dec next : Decoder} {value : Bytes} (decoded : dec.decode = .ok (value, next))
    (atColon : dec.state = .objectColon) : next.state = .objectComma ∧ next.stack = dec.stack := by
  unfold Decoder.decode Decoder.prepare at decoded
  rw [atColon] at decoded
  dsimp only at decoded
  split at decoded
  · cases decoded
  · rename_i middle skipped
    have due : middle.state = .objectValue ∧ middle.stack = dec.stack := by
      unfold Decoder.skip at skipped
      split at skipped
      · cases skipped
      · split at skipped
        · cases skipped
          exact ⟨rfl, rfl⟩
        · cases skipped
    unfold Decoder.readRaw at decoded
    rw [due.1] at decoded
    split at decoded
    · cases decoded
    · split at decoded
      · cases decoded
      · cases decoded
        exact ⟨rfl, due.2⟩

/-- A text where no value may stand is a key. -/
theorem tokenAt_text {state : TokenState} {stack : List TokenState} {c : UInt8} {rest : Bytes}
    {key : String} {next : Decoder} (refused : state.valueAllowed = false)
    (ran : tokenAt state stack c rest = .ok (.text key, next)) :
    next.state = .objectColon ∧ next.stack = stack := by
  have opens {inside : TokenState} (opened : openToken state stack c rest inside = .ok (.text key, next)) :
      False := by
    unfold openToken at opened
    split at opened <;> cases opened
  have closes {start comma : TokenState}
      (closed : closeToken state stack c rest start comma = .ok (.text key, next)) : False := by
    unfold closeToken at closed
    split at closed
    · split at closed <;> cases closed
    · cases closed
  unfold tokenAt at ran
  split at ran
  · exact (opens ran).elim
  · split at ran
    · exact (closes ran).elim
    · split at ran
      · exact (opens ran).elim
      · split at ran
        · exact (closes ran).elim
        · split at ran
          · cases ran
          · split at ran
            · unfold scalarAt at ran
              split at ran
              · cases ran
              · split at ran
                · cases ran
                · cases ran
                  exact ⟨rfl, rfl⟩
            · rw [refused] at ran
              cases ran

theorem token_text {dec next : Decoder} {key : String} (inside : dec.InObject)
    (ran : dec.token = .ok (.text key, next)) : next.state = .objectColon ∧ next.stack = dec.stack := by
  unfold Decoder.token at ran
  split at ran
  · cases ran
  · rename_i c rest peeked
    have noValue : dec.state.valueAllowed = false := by
      rcases inside with here | here <;> rw [here] <;> rfl
    split at ran
    · exact tokenAt_text noValue ran
    · rename_i state separated
      have key_ : state = .objectKey := by
        unfold TokenState.separated at separated
        rcases inside with here | here <;> rw [here] at separated <;> simp at separated
        exact separated.2.symm
      split at ran
      · cases ran
      · exact tokenAt_text (by rw [key_]; rfl) ran

/-! ## Values -/

/-- The text begins with a byte that is no space. -/
def Solid (text : Bytes) : Prop := ∃ c rest, text = c :: rest ∧ isSpace c = false

theorem isString_solid {literal : Bytes} (isString : IsString literal) : Solid literal := by
  obtain ⟨body, _, rfl⟩ := isString
  exact ⟨quote, _, rfl, by decide⟩

theorem dropWhile_solid {spaces text : Bytes} (all : spaces.all isSpace = true) (solid : Solid text) :
    (spaces ++ text).dropWhile isSpace = text := by
  obtain ⟨c, rest, rfl, stop⟩ := solid
  exact dropWhile_spaces all stop

theorem decode_solid {dec next : Decoder} {value : Bytes} (decoded : dec.decode = .ok (value, next)) :
    Solid value := by
  unfold Decoder.decode at decoded
  split at decoded
  · cases decoded
  · rename_i middle _
    unfold Decoder.readRaw at decoded
    split at decoded
    · cases decoded
    · split at decoded
      · cases decoded
      · rename_i n found
        cases decoded
        cases trimmed : (middle.rest.take n).dropWhile isSpace with
        | nil =>
          have all : (middle.rest.take n).all isSpace = true := by
            have := List.takeWhile_append_dropWhile (p := isSpace) (l := middle.rest.take n)
            rw [trimmed, List.append_nil] at this
            rw [← this]
            exact List.all_takeWhile
          have spaces : readValue (middle.rest.take n ++ middle.rest.drop n) = _ := readValue_spaces all
          rw [List.take_append_drop, List.length_take_of_le (readFrom_le found)] at spaces
          obtain ⟨m, inner, same⟩ := Option.map_eq_some_iff.mp (spaces.symm.trans found)
          exact absurd (readValue_pos inner) (by omega)
        | cons c rest =>
          have stop := List.head_dropWhile_not isSpace (l := middle.rest.take n)
            (by rw [trimmed]; nofun)
          exact ⟨c, rest, rfl, by simpa only [trimmed, List.head_cons] using stop⟩

theorem Walk.solid {dec last : Decoder} {members : List Member} (walk : Walk dec members last) :
    ∀ m ∈ members, Solid m.value := by
  induction walk with
  | done => nofun
  | step _ found _ ih =>
    intro m member
    rcases List.mem_cons.mp member with rfl | member
    · obtain ⟨atColon, _, _, decoded, _⟩ := member_eq_some.mp found
      exact decode_solid decoded
    · exact ih m member

/-! ## Walks over other texts -/

/-- A walk stays inside its object. -/
theorem member_inObject {dec next : Decoder} {m : Member} (inside : dec.InObject)
    (found : dec.member = some (m, next)) : next.state = .objectComma ∧ next.stack = dec.stack := by
  obtain ⟨atColon, token, _, decoded, _⟩ := member_eq_some.mp found
  obtain ⟨colon_, stack⟩ := token_text inside token
  obtain ⟨comma_, same⟩ := decode_text decoded colon_
  exact ⟨comma_, same.trans stack⟩

theorem Walk.inObject {dec last : Decoder} {members : List Member} (walk : Walk dec members last)
    (inside : dec.InObject) : last.InObject ∧ last.stack = dec.stack := by
  induction walk with
  | done => exact ⟨inside, rfl⟩
  | step _ found _ ih =>
    obtain ⟨comma_, stack⟩ := member_inObject inside found
    obtain ⟨inside, same⟩ := ih (.inr comma_)
    exact ⟨inside, same.trans stack⟩

/-- A member is read alike over every text that begins alike. -/
theorem member_local {dec next : Decoder} {m : Member} (found : dec.member = some (m, next)) :
    ∃ text, text ≠ [] ∧ dec.rest = text ++ next.rest ∧ ∀ other, other.head? = next.rest.head? →
      (dec.over (text ++ other)).more = dec.more ∧ ∃ m', m'.pair = m.pair ∧
        (dec.over (text ++ other)).member = some (m', next.over other) := by
  obtain ⟨atColon, token, _, decoded, _⟩ := member_eq_some.mp found
  obtain ⟨front, some_, before, reads⟩ := token_local_peek token
  obtain ⟨text, some', after, decodes⟩ := decode_local _ _ _ decoded
  refine ⟨front ++ text, by simp [some_], by rw [before, after, List.append_assoc], ?_⟩
  intro other same
  have begins : (text ++ other).head? = atColon.rest.head? := by
    rw [after]
    obtain ⟨c, text, rfl⟩ := List.exists_cons_of_ne_nil some'
    rfl
  obtain ⟨more, again⟩ := reads (text ++ other) begins
  rw [List.append_assoc]
  exact ⟨more, ⟨m.key, text ++ other, m.value, other⟩, rfl,
    member_eq_some.mpr ⟨_, again, rfl, decodes other same, rfl⟩⟩

theorem Walk.over {dec last : Decoder} {members : List Member} (walk : Walk dec members last) :
    ∃ text, dec.rest = text ++ last.rest ∧ ∀ other, other.head? = last.rest.head? →
      ∃ members', members'.map Member.pair = members.map Member.pair ∧
        Walk (dec.over (text ++ other)) members' (last.over other) := by
  induction walk with
  | done => exact ⟨[], rfl, fun other _ => ⟨[], rfl, .done⟩⟩
  | @step dec next last m members more found _ ih =>
    obtain ⟨text, same, again⟩ := ih
    obtain ⟨front, _, before, reads⟩ := member_local found
    refine ⟨front ++ text, by rw [before, same, List.append_assoc], fun other begins => ?_⟩
    obtain ⟨members', pairs, walk⟩ := again other begins
    have head : (text ++ other).head? = next.rest.head? := by
      rw [same]
      cases text with
      | nil => exact begins
      | cons c text => rfl
    obtain ⟨more', m', pair, found'⟩ := reads (text ++ other) head
    rw [List.append_assoc]
    exact ⟨m' :: members', by rw [List.map_cons, List.map_cons, pair, pairs],
      .step (more'.trans more) found' walk⟩

/-! ## A string in the place of a value -/

/-- What stands between a key and its value. -/
def IsColon (between : Bytes) : Prop :=
  ∃ spaces spaces' : Bytes, spaces.all isSpace = true ∧ spaces'.all isSpace = true ∧
    between = spaces ++ colon :: spaces'

/-- The value behind a colon is read past the spaces before it. -/
theorem decode_colon {dec next : Decoder} {value : Bytes} (atColon : dec.state = .objectColon)
    (decoded : dec.decode = .ok (value, next)) :
    ∃ between, IsColon between ∧ dec.rest = between ++ (value ++ next.rest) ∧
      ∀ literal other, IsString literal → (dec.over (between ++ (literal ++ other))).decode =
        .ok (literal, ⟨other, .objectComma, dec.stack⟩) := by
  unfold Decoder.decode Decoder.prepare Decoder.skip at decoded
  simp only [atColon] at decoded
  split at decoded
  · cases decoded
  · rename_i middle skipped
    split at skipped
    · cases skipped
    · rename_i c rest peeked
      obtain ⟨spaces, all, stop, same⟩ := peek_eq_some.mp peeked
      split at skipped
      · rename_i due
        subst due
        cases skipped
        unfold Decoder.readRaw at decoded
        simp only [TokenState.valueAllowed, Bool.not_true, Bool.false_eq_true, if_false] at decoded
        split at decoded
        · cases decoded
        · rename_i n found
          cases decoded
          have taken := List.takeWhile_append_dropWhile (p := isSpace) (l := rest.take n)
          have whole := List.take_append_drop n rest
          refine ⟨spaces ++ colon :: (rest.take n).takeWhile isSpace,
            ⟨spaces, _, all, List.all_takeWhile, rfl⟩, ?_, ?_⟩
          · rw [same, List.append_assoc, List.cons_append, ← List.append_assoc, taken, whole]
          · intro literal other isString
            have front : ((rest.take n).takeWhile isSpace).all isSpace = true := List.all_takeWhile
            generalize (rest.take n).takeWhile isSpace = spaces' at front
            have begins : readValue (spaces' ++ (literal ++ other)) = _ := readValue_spaces front
            rw [readValue_string isString, Option.map_some, Nat.add_comm, ← List.append_assoc,
              ← List.length_append] at begins
            have peeks : (dec.over (spaces ++ colon :: (spaces' ++ literal ++ other))).peek = _ :=
              peek_over all stop
            simp only [Decoder.over] at peeks
            have trimmed := dropWhile_solid front (isString_solid isString)
            simp only [Decoder.decode, Decoder.prepare, Decoder.skip, Decoder.over, atColon,
              List.append_assoc, List.cons_append] at peeks ⊢
            rw [peeks]
            simp only [if_true, Decoder.readRaw, TokenState.valueAllowed, Bool.not_true,
              Bool.false_eq_true, if_false]
            rw [← List.append_assoc, begins]
            dsimp only
            rw [List.take_left, List.drop_left, trimmed]
            rfl
      · cases skipped

/-- A member whose value is another string. -/
theorem member_splice {dec next : Decoder} {m : Member} (inside : dec.InObject)
    (found : dec.member = some (m, next)) :
    ∃ front between, front ≠ [] ∧ IsColon between ∧
      dec.rest = front ++ (between ++ (m.value ++ m.valueRest)) ∧
      m.keyRest = between ++ (m.value ++ m.valueRest) ∧
      ∀ literal other, IsString literal →
        (dec.over (front ++ (between ++ (literal ++ other)))).more = dec.more ∧
        (dec.over (front ++ (between ++ (literal ++ other)))).member =
          some (⟨m.key, between ++ (literal ++ other), literal, other⟩,
            ⟨other, .objectComma, dec.stack⟩) := by
  obtain ⟨atColon, token, keyRest, decoded, valueRest⟩ := member_eq_some.mp found
  obtain ⟨colon_, stack⟩ := token_text inside token
  obtain ⟨front, some_, before, reads⟩ := token_local_peek token
  obtain ⟨between, isColon, after, decodes⟩ := decode_colon colon_ decoded
  rw [valueRest]
  refine ⟨front, between, some_, isColon, by rw [before, after], by rw [keyRest, after], ?_⟩
  intro literal other isString
  have begins : (between ++ (literal ++ other)).head? = atColon.rest.head? := by
    rw [after]
    obtain ⟨spaces, spaces', _, _, rfl⟩ := isColon
    cases spaces <;> rfl
  obtain ⟨more, again⟩ := reads _ begins
  have value := decodes literal other isString
  rw [stack] at value
  exact ⟨more, member_eq_some.mpr ⟨_, again, rfl, value, rfl⟩⟩

/-- The same at the end of a walk. -/
theorem Walk.splice {dec middle next : Decoder} {before : List Member} {m : Member}
    (inside : dec.InObject) (walk : Walk dec before middle) (more : middle.more = true)
    (found : middle.member = some (m, next)) :
    ∃ front between, front ≠ [] ∧ IsColon between ∧
      dec.rest = front ++ (between ++ (m.value ++ m.valueRest)) ∧
      m.keyRest = between ++ (m.value ++ m.valueRest) ∧
      ∀ literal other, IsString literal → ∃ before', before'.map Member.pair = before.map Member.pair ∧
        Walk (dec.over (front ++ (between ++ (literal ++ other))))
          (before' ++ [⟨m.key, between ++ (literal ++ other), literal, other⟩])
          ⟨other, .objectComma, dec.stack⟩ := by
  obtain ⟨within, stack⟩ := walk.inObject inside
  obtain ⟨front, between, some_, isColon, rest, keyRest, again⟩ := member_splice within found
  obtain ⟨text, whole, walks⟩ := walk.over
  refine ⟨text ++ front, between, by simp [some_], isColon, ?_, keyRest, ?_⟩
  · rw [whole, rest, List.append_assoc]
  · intro literal other isString
    obtain ⟨more', found'⟩ := again literal other isString
    have begins : (front ++ (between ++ (literal ++ other))).head? = middle.rest.head? := by
      rw [rest]
      obtain ⟨c, front, rfl⟩ := List.exists_cons_of_ne_nil some_
      rfl
    obtain ⟨before', pairs, walk'⟩ := walks _ begins
    rw [List.append_assoc, ← stack]
    exact ⟨before', pairs, walk'.append (.step (more'.trans more) found' .done)⟩

/-! ## Objects -/

/-- What is left of an object closes it behind these members. -/
def Ends (dec : Decoder) (members : List Member) : Prop :=
  ∃ last, Walk dec members last ∧ last.more = false ∧ last.closes = true

theorem Walk.ends {dec middle : Decoder} {before members : List Member}
    (walk : Walk dec before middle) :
    Ends dec members ↔ ∃ after, members = before ++ after ∧ Ends middle after := by
  constructor
  · intro ends
    induction walk generalizing members with
    | done => exact ⟨members, rfl, ends⟩
    | step more found _ ih =>
      obtain ⟨last, whole, ended, closed⟩ := ends
      cases whole with
      | done =>
        rw [more] at ended
        cases ended
      | step more' found' rest =>
        obtain ⟨rfl, rfl⟩ := Prod.mk.inj (Option.some.inj (found.symm.trans found'))
        obtain ⟨after, rfl, ends⟩ := ih ⟨last, rest, ended, closed⟩
        exact ⟨after, rfl, ends⟩
  · rintro ⟨after, rfl, last, rest, ended, closed⟩
    exact ⟨last, walk.append rest, ended, closed⟩

theorem isSpace_ascii {c : UInt8} (space : isSpace c = true) : c < 0x80 := by
  simp only [isSpace, Bool.or_eq_true, decide_eq_true_eq] at space
  rcases space with ((rfl | rfl) | rfl) | rfl <;> decide

/-- No token begins with a byte beyond ASCII where a separator is due. -/
theorem token_ascii {input : Bytes} {stack : List TokenState} {result : Token × Decoder}
    (ran : Decoder.token ⟨input, .objectComma, stack⟩ = .ok result) :
    ∃ c rest, input = c :: rest ∧ c < 0x80 := by
  unfold Decoder.token at ran
  split at ran
  · cases ran
  · rename_i c rest peeked
    obtain ⟨spaces, all, _, same⟩ := peek_eq_some.mp peeked
    cases spaces with
    | cons space spaces =>
      rw [List.all_cons, Bool.and_eq_true] at all
      exact ⟨space, _, same, isSpace_ascii all.1⟩
    | nil =>
      refine ⟨c, rest, same, ?_⟩
      by_contra high
      have not {d : UInt8} (ascii : d < 0x80) : c ≠ d := by
        rintro rfl
        exact high ascii
      have unseparated : TokenState.separated .objectComma c = none := by
        simp [TokenState.separated, not (d := comma) (by decide), not (d := colon) (by decide)]
      have refused : tokenAt .objectComma stack c rest = .error .invalid := by
        simp [tokenAt, not (d := leftBracket) (by decide), not (d := rightBracket) (by decide),
          not (d := leftBrace) (by decide), not (d := rightBrace) (by decide),
          not (d := colon) (by decide), not (d := comma) (by decide),
          not (d := quote) (by decide), TokenState.valueAllowed]
      dsimp only at ran
      rw [unseparated] at ran
      dsimp only at ran
      rw [refused] at ran
      cases ran

/-- What is left behind a member begins in ASCII. -/
theorem Ends.ascii {rest : Bytes} {stack : List TokenState} {after : List Member}
    (ends : Ends ⟨rest, .objectComma, stack⟩ after) : ∃ c tail, rest = c :: tail ∧ c < 0x80 := by
  obtain ⟨last, walk, _, closed⟩ := ends
  cases walk with
  | done =>
    unfold Decoder.closes at closed
    split at closed
    · rename_i token
      exact token_ascii token
    · cases closed
  | step _ found _ =>
    obtain ⟨_, token, _⟩ := member_eq_some.mp found
    exact token_ascii token

/-- The input is an object that begins with these members, and `rest` is behind them. -/
def Begins (input : Bytes) (members : List Member) (rest : Bytes) : Prop :=
  ∃ dec, openObject input = some dec ∧ Walk dec members ⟨rest, .objectComma, [.topValue]⟩

theorem objectMembers_begins {input rest : Bytes} {before members : List Member}
    (begins : Begins input before rest) :
    objectMembers input = some members ↔
      ∃ after, members = before ++ after ∧ Ends ⟨rest, .objectComma, [.topValue]⟩ after := by
  obtain ⟨dec, opened, walk⟩ := begins
  rw [← walk.ends, objectMembers_eq_some]
  constructor
  · rintro ⟨dec', last, opened', ends⟩
    obtain rfl := Option.some.inj (opened.symm.trans opened')
    exact ⟨last, ends⟩
  · rintro ⟨last, ends⟩
    exact ⟨dec, last, opened, ends⟩

theorem scalarToken_delim {literal : Bytes} {d : UInt8} : scalarToken literal ≠ some (.delim d) := by
  intro made
  unfold scalarToken at made
  split at made
  · split at made
    · cases made
    · split at made <;> cases made
  · cases made

/-- A delimiter is the byte it begins with. -/
theorem tokenAt_delim {state : TokenState} {stack : List TokenState} {c d : UInt8} {rest : Bytes}
    {next : Decoder} (ran : tokenAt state stack c rest = .ok (.delim d, next)) : d = c := by
  have opens {inside : TokenState} (opened : openToken state stack c rest inside = .ok (.delim d, next)) :
      d = c := by
    unfold openToken at opened
    split at opened <;> cases opened
    rfl
  have closes {start comma : TokenState}
      (closed : closeToken state stack c rest start comma = .ok (.delim d, next)) : d = c := by
    unfold closeToken at closed
    split at closed
    · split at closed <;> cases closed
      rfl
    · cases closed
  have scalar {before after : TokenState}
      (read : scalarAt before after stack (c :: rest) = .ok (.delim d, next)) : d = c := by
    unfold scalarAt at read
    split at read
    · cases read
    · split at read
      · cases read
      · rename_i token made
        cases read
        exact absurd made scalarToken_delim
  unfold tokenAt at ran
  split at ran
  · exact opens ran
  · split at ran
    · exact closes ran
    · split at ran
      · exact opens ran
      · split at ran
        · exact closes ran
        · split at ran
          · cases ran
          · split at ran
            · exact scalar ran
            · split at ran
              · cases ran
              · exact scalar ran

/-- An object opens with a brace, behind spaces. -/
theorem openObject_eq_some {input : Bytes} {dec : Decoder} :
    openObject input = some dec ↔ ∃ spaces, spaces.all isSpace = true ∧
      input = spaces ++ leftBrace :: dec.rest ∧ dec = ⟨dec.rest, .objectStart, [.topValue]⟩ := by
  have plain (c : UInt8) : TokenState.separated .topValue c = none := by simp [TokenState.separated]
  constructor
  · intro opened
    unfold openObject Decoder.new Decoder.token at opened
    cases peeked : Decoder.peek ⟨input, .topValue, []⟩ with
    | none =>
      rw [peeked] at opened
      cases opened
    | some pair =>
      obtain ⟨c, rest⟩ := pair
      obtain ⟨spaces, all, stop, same⟩ := peek_eq_some.mp peeked
      rw [peeked] at opened
      simp only [plain] at opened
      by_cases brace : c = leftBrace
      · subst brace
        cases opened
        exact ⟨spaces, all, same, rfl⟩
      · split at opened
        · rename_i d next token
          split at opened
          · rename_i isBrace
            exact absurd ((tokenAt_delim token).symm.trans isBrace) brace
          · cases opened
        · cases opened
  · rintro ⟨spaces, all, rfl, same⟩
    have peeks : (Decoder.over ⟨[], .topValue, []⟩ (spaces ++ leftBrace :: dec.rest)).peek = _ :=
      peek_over all (by decide)
    simp only [Decoder.over] at peeks
    simp only [openObject, Decoder.new, Decoder.token, peeks, plain]
    rw [same]
    rfl

/-- Spaces before an object make no difference. -/
theorem objectMembers_spaces {spaces input : Bytes} (all : spaces.all isSpace = true) :
    objectMembers (spaces ++ input) = objectMembers input := by
  have opens : openObject (spaces ++ input) = openObject input := by
    refine Option.ext fun dec => ?_
    rw [openObject_eq_some, openObject_eq_some]
    constructor
    · rintro ⟨front, front_, same, fresh⟩
      rcases List.append_eq_append_iff.mp same with ⟨more, rfl, behind⟩ | ⟨more, rfl, behind⟩
      · rw [List.all_append, Bool.and_eq_true] at front_
        exact ⟨more, front_.2, behind, fresh⟩
      · cases more with
        | nil => exact ⟨[], rfl, behind.symm, fresh⟩
        | cons c more =>
          obtain ⟨rfl, _⟩ := List.cons.inj behind
          rw [List.all_append, List.all_cons] at all
          simp [show isSpace leftBrace = false by decide] at all
    · rintro ⟨front, front_, rfl, fresh⟩
      refine ⟨spaces ++ front, ?_, (List.append_assoc ..).symm, fresh⟩
      rw [List.all_append, all, front_]
      rfl
  unfold objectMembers overObject
  rw [opens]

/-- An object reaches any of its members over every text that goes on with a string
in the place of the member's value. -/
theorem objectMembers_splice {input : Bytes} {before after : List Member} {m : Member}
    (found : objectMembers input = some (before ++ m :: after)) :
    ∃ front between, IsColon between ∧ input = front ++ (between ++ (m.value ++ m.valueRest)) ∧
      m.keyRest = between ++ (m.value ++ m.valueRest) ∧
      Ends ⟨m.valueRest, .objectComma, [.topValue]⟩ after ∧
      ∀ literal other, IsString literal → ∃ before', before'.map Member.pair = before.map Member.pair ∧
        Begins (front ++ (between ++ (literal ++ other)))
          (before' ++ [⟨m.key, between ++ (literal ++ other), literal, other⟩]) other := by
  obtain ⟨dec, last, opened, walk, ended, closed⟩ := objectMembers_eq_some.mp found
  obtain ⟨spaces, all, same, fresh⟩ := openObject_eq_some.mp opened
  have start : dec.state = .objectStart := by rw [fresh]
  have stack : dec.stack = [.topValue] := by rw [fresh]
  obtain ⟨middle, first, rest⟩ := walk.split
  have inside : dec.InObject := .inl start
  cases rest with
  | @step _ next _ _ _ more found' rest =>
    obtain ⟨front, between, _, isColon, whole, keyRest, again⟩ := first.splice inside more found'
    refine ⟨spaces ++ leftBrace :: front, between, isColon, ?_, keyRest, ?_, ?_⟩
    · rw [same, whole]
      simp only [List.append_assoc, List.cons_append]
    · obtain ⟨within, same'⟩ := first.inObject inside
      obtain ⟨comma_, stack'⟩ := member_inObject within found'
      obtain ⟨_, _, _, _, valueRest⟩ := member_eq_some.mp found'
      have behind : next = ⟨m.valueRest, .objectComma, [.topValue]⟩ := by
        rw [valueRest, ← comma_, ← stack, ← same', ← stack']
      rw [← behind]
      exact ⟨last, rest, ended, closed⟩
    · intro literal other isString
      obtain ⟨before', pairs, walk'⟩ := again literal other isString
      rw [stack] at walk'
      refine ⟨before', pairs, _, openObject_eq_some.mpr ⟨spaces, all, ?_, ?_⟩, walk'⟩
      · simp only [List.append_assoc, List.cons_append, Decoder.over_rest]
      · rw [Decoder.over_rest, Decoder.over, start, stack]

end AnselmGateway.Foundation.Json
