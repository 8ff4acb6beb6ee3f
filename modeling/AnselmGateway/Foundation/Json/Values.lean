import AnselmGateway.Foundation.Json.Bounds
import AnselmGateway.Foundation.Json.Nesting

/-! One value, read two ways. What `Decode` takes as a whole, the token stream goes
through piece by piece: a scalar is one token, an object is a walk over its members and an
array one over its elements, and both ways come out behind the same byte. -/
namespace AnselmGateway.Foundation.Json

/-! ## Values as a whole -/

section Decode
variable {dec next ready : Decoder} {value : Bytes}

theorem readRaw_eq_ok : ready.readRaw = .ok (value, next) ↔
    ready.state.valueAllowed = true ∧ ∃ taken, ready.rest = taken ++ next.rest ∧
      readValue ready.rest = some taken.length ∧ value = taken.dropWhile isSpace ∧
      next = ⟨next.rest, ready.state.valueEnd, ready.stack⟩ := by
  unfold Decoder.readRaw
  constructor
  · intro ran
    split at ran
    · cases ran
    · rename_i allowed
      split at ran
      · cases ran
      · rename_i n found
        cases ran
        refine ⟨by simpa using allowed, ready.rest.take n, (List.take_append_drop n _).symm, ?_, rfl, rfl⟩
        rw [List.length_take_of_le (readFrom_le found), found]
  · rintro ⟨allowed, taken, same, found, rfl, fresh⟩
    rw [fresh, found, same]
    simp [allowed]

/-- What `Decode` takes is what the scanner does, behind spaces. -/
theorem decode_eq_ok (prepared : dec.prepare = .ok ready) : dec.decode = .ok (value, next) ↔
    ready.state.valueAllowed = true ∧ Solid value ∧ ∃ spaces, spaces.all isSpace = true ∧
      ready.rest = spaces ++ (value ++ next.rest) ∧
      readValue (value ++ next.rest) = some value.length ∧
      next = ⟨next.rest, ready.state.valueEnd, ready.stack⟩ := by
  have whole : dec.decode = ready.readRaw := by
    unfold Decoder.decode
    rw [prepared]
  constructor
  · intro decoded
    have solid := decode_solid decoded
    rw [whole, readRaw_eq_ok] at decoded
    obtain ⟨allowed, taken, same, found, rfl, fresh⟩ := decoded
    have split := List.takeWhile_append_dropWhile (p := isSpace) (l := taken)
    have all : (taken.takeWhile isSpace).all isSpace = true := List.all_takeWhile
    generalize taken.takeWhile isSpace = spaces at split all
    have pieces : ready.rest = spaces ++ (taken.dropWhile isSpace ++ next.rest) := by
      rw [same, ← List.append_assoc, split]
    refine ⟨allowed, solid, spaces, all, pieces, ?_, fresh⟩
    rw [pieces, readValue_spaces all] at found
    obtain ⟨n, inner, length⟩ := Option.map_eq_some_iff.mp found
    rw [inner, Option.some.injEq]
    have := congrArg List.length split
    rw [List.length_append] at this
    omega
  · rintro ⟨allowed, solid, spaces, all, same, found, fresh⟩
    rw [whole, readRaw_eq_ok]
    refine ⟨allowed, spaces ++ value, by rw [same, List.append_assoc], ?_, ?_, fresh⟩
    · rw [same, readValue_spaces all, found, Option.map_some, List.length_append, Nat.add_comm]
    · exact (dropWhile_solid all solid).symm

theorem prepare_of_decode (decoded : dec.decode = .ok (value, next)) :
    ∃ ready, dec.prepare = .ok ready := by
  unfold Decoder.decode at decoded
  split at decoded
  · cases decoded
  · exact ⟨_, by assumption⟩

theorem prepare_allowed {state : TokenState} {stack : List TokenState} {rest : Bytes}
    (allowed : state.valueAllowed = true) :
    Decoder.prepare ⟨rest, state, stack⟩ = .ok ⟨rest, state, stack⟩ := by
  cases state <;> first
    | rfl
    | cases allowed

theorem skip_peek {separator c : UInt8} {state : TokenState} {rest : Bytes}
    (skipped : dec.skip separator state = .ok ready) (peeked : dec.peek = some (c, rest)) :
    c = separator ∧ ready = ⟨rest, state, dec.stack⟩ := by
  unfold Decoder.skip at skipped
  rw [peeked] at skipped
  dsimp only at skipped
  split at skipped
  · cases skipped
    exact ⟨by assumption, rfl⟩
  · cases skipped

/-- Where a value may be decoded, a token begins with the first byte of the value. -/
theorem token_prepare {c : UInt8} {rest : Bytes} (prepared : dec.prepare = .ok ready)
    (allowed : ready.state.valueAllowed = true) (peeked : ready.peek = some (c, rest)) :
    dec.token = tokenAt ready.state ready.stack c rest := by
  have found : dec.peek ≠ none := by
    intro nothing
    unfold Decoder.prepare Decoder.skip at prepared
    rw [nothing] at prepared
    split at prepared
    · cases prepared
    · cases prepared
    · cases prepared
      rw [nothing] at peeked
      cases peeked
  obtain ⟨⟨d, tail⟩, first⟩ := Option.ne_none_iff_exists'.mp found
  unfold Decoder.token
  rw [first]
  dsimp only
  unfold Decoder.prepare at prepared
  split at prepared
  · rename_i state
    obtain ⟨rfl, rfl⟩ := skip_peek prepared first
    have due : TokenState.separated .arrayComma comma = some .arrayValue := by decide
    rw [state, due]
    dsimp only
    rw [peeked]
  · rename_i state
    obtain ⟨rfl, rfl⟩ := skip_peek prepared first
    have due : TokenState.separated .objectColon colon = some .objectValue := by decide
    rw [state, due]
    dsimp only
    rw [peeked]
  · cases prepared
    rw [first] at peeked
    cases peeked
    have plain : dec.state.separated c = none := by
      unfold TokenState.separated
      cases state : dec.state with
      | topValue | arrayStart | arrayValue | objectValue => simp
      | _ =>
        rw [state] at allowed
        cases allowed
    rw [plain]

/-- No value begins with a delimiter that closes or separates. -/
theorem value_begins {c : UInt8} {rest : Bytes} {n : ℕ} (found : readValue (c :: rest) = some n) :
    c ≠ rightBracket ∧ c ≠ rightBrace ∧ c ≠ colon ∧ c ≠ comma := by
  have accepted : Scanner.new.step c ≠ .error := (reads_of_readFrom found).error
  refine ⟨?_, ?_, ?_, ?_⟩ <;> rintro rfl <;> exact accepted rfl

/-- The token at the front of a value. -/
theorem token_decode (decoded : dec.decode = .ok (value, next)) : ∃ state stack c tail,
    state.valueAllowed = true ∧ isSpace c = false ∧ value = c :: tail ∧
      readValue (c :: (tail ++ next.rest)) = some value.length ∧
      dec.token = tokenAt state stack c (tail ++ next.rest) ∧
      next = ⟨next.rest, state.valueEnd, stack⟩ := by
  obtain ⟨ready, prepared⟩ := prepare_of_decode decoded
  obtain ⟨allowed, ⟨c, tail, rfl, stop⟩, spaces, all, same, found, fresh⟩ :=
    (decode_eq_ok prepared).mp decoded
  refine ⟨ready.state, ready.stack, c, tail, allowed, stop, rfl, found, ?_, fresh⟩
  exact token_prepare prepared allowed (peek_eq_some.mpr ⟨spaces, all, stop, same⟩)

/-- A scalar is one token, and takes what its value does. -/
theorem token_scalar {token : Token} {after : Decoder} (decoded : dec.decode = .ok (value, next))
    (noObject : value.head? ≠ some leftBrace) (noArray : value.head? ≠ some leftBracket)
    (ran : dec.token = .ok (token, after)) : after = next ∧ ∀ d, token ≠ .delim d := by
  obtain ⟨state, stack, c, tail, allowed, stop, rfl, found, front, fresh⟩ := token_decode decoded
  obtain ⟨not1, not2, not3, not4⟩ := value_begins found
  have not5 : c ≠ leftBrace := fun same => noObject (congrArg some same)
  have not6 : c ≠ leftBracket := fun same => noArray (congrArg some same)
  have noKey : ¬ (c = quote ∧ (state = .objectStart ∨ state = .objectKey)) := by
    rintro ⟨_, rfl | rfl⟩ <;> cases allowed
  have again : Decoder.decode ⟨c :: (tail ++ next.rest), state, stack⟩ = .ok (c :: tail, next) :=
    (decode_eq_ok (prepare_allowed allowed)).mpr ⟨allowed, ⟨c, tail, rfl, stop⟩, [], rfl, rfl, found, fresh⟩
  rw [front] at ran
  simp only [tokenAt, not1, not2, not3, not4, not5, not6, or_self, if_false, noKey, allowed,
    Bool.not_true, Bool.false_eq_true, scalarAt, again] at ran
  split at ran
  · cases ran
  · rename_i token scalar
    cases ran
    refine ⟨fresh.symm, ?_⟩
    rintro d rfl
    exact scalarToken_delim scalar

/-- An object or an array opens with a delimiter. -/
theorem token_opens {c : UInt8} (decoded : dec.decode = .ok (value, next))
    (opens : c = leftBrace ∨ c = leftBracket) (begins : value.head? = some c) :
    ∃ state stack tail, value = c :: tail ∧
      dec.token = .ok (.delim c, ⟨tail ++ next.rest,
        if c = leftBrace then .objectStart else .arrayStart, state :: stack⟩) ∧
      readValue (c :: (tail ++ next.rest)) = some value.length ∧
      next = ⟨next.rest, state.valueEnd, stack⟩ := by
  obtain ⟨state, stack, d, tail, allowed, _, rfl, found, front, fresh⟩ := token_decode decoded
  obtain rfl : d = c := Option.some.inj begins
  refine ⟨state, stack, tail, rfl, ?_, found, fresh⟩
  rw [front]
  rcases opens with rfl | rfl
  · simp only [tokenAt, openToken, allowed]
    rfl
  · simp only [tokenAt, openToken, allowed]
    rfl

end Decode

/-! ## Inside -/

section Inside
variable {text rest : Bytes}

theorem skips_endValue {inner : Nesting} (c : UInt8) (space : isSpace c = true) :
    Scanner.step ⟨.endValue, [inner]⟩ c = .more ⟨.endValue, [inner]⟩ :=
  endValue_space (s := ⟨.endValue, [inner]⟩) (List.cons_ne_nil _ _) space

/-- A value inside something is decoded as it is scanned. -/
theorem inner_reads {inner : Nesting} (reads : Scanner.Reads ⟨.beginValue, [inner]⟩ text rest) :
    ∃ value middle, Scanner.Reads ⟨.endValue, [inner]⟩ middle rest ∧
      ∀ state : TokenState, ∀ stack, state.valueAllowed = true →
        Decoder.readRaw ⟨text, state, stack⟩ = .ok (value, ⟨middle, state.valueEnd, stack⟩) := by
  have within : (Scanner.new.inside [inner]).Reads text rest := reads
  obtain ⟨middle, ⟨taken, same, found⟩, behind⟩ := within.alone (List.cons_ne_nil _ _) (fun same => absurd same (by decide))
  refine ⟨taken.dropWhile isSpace, middle, behind, fun state stack allowed => ?_⟩
  exact readRaw_eq_ok.mpr ⟨allowed, taken, same, found, rfl, rfl⟩

/-- So is a key. -/
theorem key_reads (reads : Scanner.Reads ⟨.inString, [.objectKey]⟩ text rest) :
    ∃ key middle, Scanner.Reads ⟨.endValue, [.objectKey]⟩ middle rest ∧
      ∀ stack, scalarAt .topValue .objectColon stack (quote :: text) =
        .ok (.text key, ⟨middle, .objectColon, stack⟩) := by
  have within : (Scanner.inside ⟨.inString, []⟩ [.objectKey]).Reads text rest := reads
  obtain ⟨middle, ⟨taken, rfl, found⟩, behind⟩ := within.alone (List.cons_ne_nil _ _) (fun same => absurd same (by decide))
  refine ⟨unquote (quote :: taken), middle, behind, fun stack => ?_⟩
  have opens : Scanner.new.step quote = .more ⟨.inString, []⟩ := rfl
  have whole : readValue (quote :: taken ++ middle) = some (quote :: taken).length := by
    rw [readValue, List.cons_append, readFrom_more opens, found]
    rfl
  have decoded : Decoder.decode ⟨quote :: (taken ++ middle), .topValue, stack⟩ =
      .ok (quote :: taken, ⟨middle, .topValue, stack⟩) :=
    (decode_eq_ok rfl).mpr ⟨rfl, ⟨quote, taken, rfl, rfl⟩, [], rfl, rfl, whole, rfl⟩
  unfold scalarAt
  rw [decoded]
  rfl

/-- So is what stands behind a key. -/
theorem colon_reads (reads : Scanner.Reads ⟨.endValue, [.objectKey]⟩ text rest) :
    ∃ value middle, Scanner.Reads ⟨.endValue, [.objectValue]⟩ middle rest ∧
      ∀ stack, Decoder.decode ⟨text, .objectColon, stack⟩ = .ok (value, ⟨middle, .objectComma, stack⟩) := by
  obtain ⟨spaces, c, tail, all, stop, rfl, here⟩ := reads.spaces skips_endValue
  have isColon : c = colon := by
    by_contra other
    refine here.error ?_
    simp [Scanner.step, Scanner.endValue, stop, other]
  subst isColon
  obtain ⟨value, middle, behind, decodes⟩ := inner_reads (here.more rfl)
  refine ⟨value, middle, behind, fun stack => ?_⟩
  have peeks : (Decoder.over ⟨[], .objectColon, stack⟩ (spaces ++ colon :: tail)).peek = _ :=
    peek_over all stop
  have skipped : Decoder.prepare ⟨spaces ++ colon :: tail, .objectColon, stack⟩ =
      .ok ⟨tail, .objectValue, stack⟩ := by
    simp only [Decoder.over] at peeks
    simp only [Decoder.prepare, Decoder.skip, peeks, if_true]
  unfold Decoder.decode
  rw [skipped]
  exact decodes .objectValue stack rfl

/-- An object is read from here on: by the scanner, and by the decoder before the first
member or behind one. -/
def ReadsMembers (start : TokenState) (text rest : Bytes) : Prop :=
  start = .objectStart ∧ Scanner.Reads ⟨.beginStringOrEmpty, [.objectKey]⟩ text rest ∨
    start = .objectComma ∧ Scanner.Reads ⟨.endValue, [.objectValue]⟩ text rest

/-- The next token of it is the closing brace or a key. -/
theorem ReadsMembers.next {start : TokenState} (reads : ReadsMembers start text rest) :
    (∃ spaces, spaces.all isSpace = true ∧ text = spaces ++ rightBrace :: rest) ∨
      ∃ tail, Scanner.Reads ⟨.inString, [.objectKey]⟩ tail rest ∧ ∀ stack,
        Decoder.more ⟨text, start, stack⟩ = true ∧ Decoder.token ⟨text, start, stack⟩ =
          scalarAt .topValue .objectColon stack (quote :: tail) := by
  have peeks {spaces tail : Bytes} {c : UInt8} (state : TokenState) (stack : List TokenState)
      (all : spaces.all isSpace = true) (stop : isSpace c = false) :
      Decoder.peek ⟨spaces ++ c :: tail, state, stack⟩ = some (c, tail) :=
    peek_eq_some.mpr ⟨spaces, all, stop, rfl⟩
  rcases reads with ⟨rfl, reads⟩ | ⟨rfl, reads⟩
  · obtain ⟨spaces, c, tail, all, stop, rfl, here⟩ := reads.spaces fun c space => by
      simp [Scanner.step, space]
    by_cases closes : c = rightBrace
    · subst closes
      obtain rfl := here.closed rfl
      exact .inl ⟨spaces, all, rfl⟩
    · have isQuote : c = quote := by
        by_contra other
        exact here.error (by simp [Scanner.step, Scanner.beginString, stop, closes, other])
      subst isQuote
      refine .inr ⟨tail, here.more rfl, fun stack => ⟨?_, ?_⟩⟩
      · rw [Decoder.more, peeks _ _ all stop]
        rfl
      · rw [Decoder.token, peeks _ _ all stop]
        rfl
  · obtain ⟨spaces, c, tail, all, stop, rfl, here⟩ := reads.spaces skips_endValue
    by_cases closes : c = rightBrace
    · subst closes
      obtain rfl := here.closed rfl
      exact .inl ⟨spaces, all, rfl⟩
    · have isComma : c = comma := by
        by_contra other
        exact here.error (by simp [Scanner.step, Scanner.endValue, stop, closes, other])
      subst isComma
      have behind : Scanner.Reads ⟨.beginString, [.objectKey]⟩ tail rest := here.more rfl
      obtain ⟨spaces', d, tail', all', stop', rfl, there⟩ := behind.spaces fun c space => by
        simp [Scanner.step, Scanner.beginString, space]
      have isQuote : d = quote := by
        by_contra other
        exact there.error (by simp [Scanner.step, Scanner.beginString, stop', other])
      subst isQuote
      refine .inr ⟨tail', there.more rfl, fun stack => ⟨?_, ?_⟩⟩
      · rw [Decoder.more, peeks _ _ all stop]
        rfl
      · have due : TokenState.separated .objectComma comma = some .objectKey := by decide
        rw [Decoder.token, peeks _ _ all stop]
        dsimp only
        rw [due]
        dsimp only
        rw [peeks _ _ all' stop']
        rfl

/-- What is scanned as an object is a walk over its members, up to the closing brace. -/
theorem ReadsMembers.walk {start : TokenState} (reads : ReadsMembers start text rest) :
    ∃ members spaces last, spaces.all isSpace = true ∧ (last = .objectStart ∨ last = .objectComma) ∧
      ∀ stack, Walk ⟨text, start, stack⟩ members ⟨spaces ++ rightBrace :: rest, last, stack⟩ := by
  induction length : text.length using Nat.strongRecOn generalizing start text with
  | ind n ih =>
    rcases reads.next with ⟨spaces, all, rfl⟩ | ⟨tail, inKey, front⟩
    · exact ⟨[], spaces, start, all, reads.imp And.left And.left, fun _ => .done⟩
    · obtain ⟨key, middle, behindKey, keys⟩ := key_reads inKey
      obtain ⟨value, after, behindValue, values⟩ := colon_reads behindKey
      have found (stack : List TokenState) : Decoder.member ⟨text, start, stack⟩ =
          some (⟨key, middle, value, after⟩, ⟨after, .objectComma, stack⟩) :=
        member_eq_some.mpr ⟨_, (front stack).2.trans (keys stack), rfl, values stack, rfl⟩
      have shorter := member_shorter (found [])
      dsimp only at shorter
      obtain ⟨members, spaces, last, all, ends, walk⟩ :=
        ih after.length (by omega) (.inr ⟨rfl, behindValue⟩) rfl
      exact ⟨_ :: members, spaces, last, all, ends, fun stack =>
        .step (front stack).1 (found stack) (walk stack)⟩

/-- An array is read from here on, before the first element or behind one. -/
def ReadsElements (start : TokenState) (text rest : Bytes) : Prop :=
  start = .arrayStart ∧ Scanner.Reads ⟨.beginValueOrEmpty, [.arrayValue]⟩ text rest ∨
    start = .arrayComma ∧ Scanner.Reads ⟨.endValue, [.arrayValue]⟩ text rest

/-- The next token of it is the closing bracket, or an element begins. -/
theorem ReadsElements.next {start : TokenState} (reads : ReadsElements start text rest) :
    (∃ spaces, spaces.all isSpace = true ∧ text = spaces ++ rightBracket :: rest) ∨
      ∃ value middle, Scanner.Reads ⟨.endValue, [.arrayValue]⟩ middle rest ∧ ∀ stack,
        Decoder.more ⟨text, start, stack⟩ = true ∧
          Decoder.decode ⟨text, start, stack⟩ = .ok (value, ⟨middle, .arrayComma, stack⟩) := by
  have peeks {spaces tail : Bytes} {c : UInt8} (state : TokenState) (stack : List TokenState)
      (all : spaces.all isSpace = true) (stop : isSpace c = false) :
      Decoder.peek ⟨spaces ++ c :: tail, state, stack⟩ = some (c, tail) :=
    peek_eq_some.mpr ⟨spaces, all, stop, rfl⟩
  rcases reads with ⟨rfl, reads⟩ | ⟨rfl, reads⟩
  · obtain ⟨spaces, c, tail, all, stop, rfl, here⟩ := reads.spaces fun c space => by
      simp [Scanner.step, space]
    by_cases closes : c = rightBracket
    · subst closes
      obtain rfl := here.closed rfl
      exact .inl ⟨spaces, all, rfl⟩
    · have notBrace : c ≠ rightBrace := by
        rintro rfl
        exact here.error rfl
      have begins : Scanner.Reads ⟨.beginValue, [.arrayValue]⟩ (c :: tail) rest := by
        refine here.congr ?_
        simp only [Scanner.step, stop, closes, if_false, Bool.false_eq_true]
        simp [Scanner.beginValue, stop, Scanner.push, Scanner.to]
      obtain ⟨value, middle, behind, decodes⟩ := inner_reads <| begins.behindSpaces
        (fun c space => by simp [Scanner.step, Scanner.beginValue, space]) all
      refine .inr ⟨value, middle, behind, fun stack => ⟨?_, decodes .arrayStart stack rfl⟩⟩
      rw [Decoder.more, peeks _ _ all stop]
      simp [closes, notBrace]
  · obtain ⟨spaces, c, tail, all, stop, rfl, here⟩ := reads.spaces skips_endValue
    by_cases closes : c = rightBracket
    · subst closes
      obtain rfl := here.closed rfl
      exact .inl ⟨spaces, all, rfl⟩
    · have isComma : c = comma := by
        by_contra other
        exact here.error (by simp [Scanner.step, Scanner.endValue, stop, closes, other])
      subst isComma
      obtain ⟨value, middle, behind, decodes⟩ := inner_reads (here.more rfl)
      refine .inr ⟨value, middle, behind, fun stack => ⟨?_, ?_⟩⟩
      · rw [Decoder.more, peeks _ _ all stop]
        rfl
      · have skipped : Decoder.prepare ⟨spaces ++ comma :: tail, .arrayComma, stack⟩ =
            .ok ⟨tail, .arrayValue, stack⟩ := by
          simp only [Decoder.prepare, Decoder.skip, peeks _ _ all stop, if_true]
        unfold Decoder.decode
        rw [skipped]
        exact decodes .arrayValue stack rfl

end Inside

/-! ## Elements -/

/-- The decoder reads these elements and stands behind them. -/
inductive Elements : Decoder → List Bytes → Decoder → Prop
  | done {dec : Decoder} : Elements dec [] dec
  | step {dec next last : Decoder} {value : Bytes} {values : List Bytes} (more : dec.more = true)
      (decoded : dec.decode = .ok (value, next)) (rest : Elements next values last) :
      Elements dec (value :: values) last

/-- The input is one array of these values. -/
def IsArray (input : Bytes) (values : List Bytes) : Prop :=
  ∃ dec last after, (Decoder.new input).token = .ok (.delim leftBracket, dec) ∧
    Elements dec values last ∧ last.more = false ∧
    last.token = .ok (.delim rightBracket, after) ∧ after.decode = .error .eof

/-- What is scanned as an array is a walk over its elements, up to the closing bracket. -/
theorem ReadsElements.walk {start : TokenState} {text rest : Bytes}
    (reads : ReadsElements start text rest) :
    ∃ values spaces last, spaces.all isSpace = true ∧ (last = .arrayStart ∨ last = .arrayComma) ∧
      ∀ stack, Elements ⟨text, start, stack⟩ values ⟨spaces ++ rightBracket :: rest, last, stack⟩ := by
  induction length : text.length using Nat.strongRecOn generalizing start text with
  | ind n ih =>
    rcases reads.next with ⟨spaces, all, rfl⟩ | ⟨value, middle, behind, front⟩
    · exact ⟨[], spaces, start, all, reads.imp And.left And.left, fun _ => .done⟩
    · obtain ⟨taken, some_, same, _⟩ := decode_local _ _ _ (front []).2
      have shorter := congrArg List.length same
      have positive := List.length_pos_iff.mpr some_
      rw [List.length_append] at shorter
      dsimp only at shorter
      obtain ⟨values, spaces, last, all, ends, walk⟩ :=
        ih middle.length (by omega) (.inr ⟨rfl, behind⟩) rfl
      exact ⟨value :: values, spaces, last, all, ends, fun stack =>
        .step (front stack).1 (front stack).2 (walk stack)⟩

/-- What is decoded begins with a byte that is no space. -/
theorem decode_front {dec next : Decoder} {value : Bytes} (decoded : dec.decode = .ok (value, next)) :
    ∃ spaces c front, spaces.all isSpace = true ∧ isSpace c = false ∧
      dec.rest = spaces ++ c :: (front ++ next.rest) := by
  obtain ⟨ready, prepared⟩ := prepare_of_decode decoded
  obtain ⟨allowed, ⟨c, tail, rfl, stop⟩, spaces, all, same, _, _⟩ := (decode_eq_ok prepared).mp decoded
  have skipped {separator : UInt8} {state : TokenState} (skipped : dec.skip separator state = .ok ready) :
      ∃ spaces c front, spaces.all isSpace = true ∧ isSpace c = false ∧
        dec.rest = spaces ++ c :: (front ++ next.rest) := by
    cases peeked : dec.peek with
    | none =>
      rw [Decoder.skip, peeked] at skipped
      cases skipped
    | some pair =>
      obtain ⟨d, rest⟩ := pair
      obtain ⟨spaces', all', stop', whole⟩ := peek_eq_some.mp peeked
      obtain ⟨rfl, rfl⟩ := skip_peek skipped peeked
      dsimp only at same
      exact ⟨spaces', d, spaces ++ c :: tail, all', stop', by simp [whole, same]⟩
  unfold Decoder.prepare at prepared
  split at prepared
  · exact skipped prepared
  · exact skipped prepared
  · cases prepared
    exact ⟨spaces, c, tail, all, stop, same⟩

/-- Elements are read alike over every text that begins alike. -/
theorem Elements.over {dec last : Decoder} {values : List Bytes} (walk : Elements dec values last) :
    ∃ text, dec.rest = text ++ last.rest ∧ ∀ other, other.head? = last.rest.head? →
      Elements (dec.over (text ++ other)) values (last.over other) := by
  induction walk with
  | done => exact ⟨[], rfl, fun other _ => .done⟩
  | @step dec next last value values more decoded _ ih =>
    obtain ⟨text, same, again⟩ := ih
    obtain ⟨front, _, before, reads⟩ := decode_local _ _ _ decoded
    obtain ⟨spaces, c, tail, all, stop, whole⟩ := decode_front decoded
    refine ⟨front ++ text, by rw [before, same, List.append_assoc], fun other begins => ?_⟩
    have head : (text ++ other).head? = next.rest.head? := by
      rw [same]
      cases text with
      | nil => exact begins
      | cons c text => rfl
    have pieces : front = spaces ++ c :: tail := by
      refine (List.append_left_inj next.rest).mp ?_
      rw [← before, whole, List.append_assoc]
      rfl
    have more' : (dec.over (front ++ (text ++ other))).more = dec.more := by
      have peeked : dec.peek = some (c, tail ++ next.rest) :=
        peek_eq_some.mpr ⟨spaces, all, stop, whole⟩
      have peeks : (dec.over (spaces ++ c :: (tail ++ (text ++ other)))).peek = _ := peek_over all stop
      rw [pieces, List.append_assoc, List.cons_append, Decoder.more, Decoder.more, peeks, peeked]
    rw [List.append_assoc]
    exact .step (more'.trans more) (reads _ head) (again other begins)

/-! ## Values piece by piece -/

section Pieces
variable {dec next : Decoder} {value : Bytes}

theorem token_closes {spaces : Bytes} {c : UInt8} {state : TokenState} (rest : Bytes)
    (outer : TokenState) (stack : List TokenState) (all : spaces.all isSpace = true)
    (closes : c = rightBrace ∧ (state = .objectStart ∨ state = .objectComma) ∨
      c = rightBracket ∧ (state = .arrayStart ∨ state = .arrayComma)) :
    Decoder.more ⟨spaces ++ c :: rest, state, outer :: stack⟩ = false ∧
      Decoder.token ⟨spaces ++ c :: rest, state, outer :: stack⟩ =
        .ok (.delim c, ⟨rest, outer.valueEnd, stack⟩) := by
  have stop : isSpace c = false := by
    rcases closes with ⟨rfl, _⟩ | ⟨rfl, _⟩ <;> decide
  have peeks : Decoder.peek ⟨spaces ++ c :: rest, state, outer :: stack⟩ = some (c, rest) :=
    peek_eq_some.mpr ⟨spaces, all, stop, rfl⟩
  unfold Decoder.more Decoder.token
  rw [peeks]
  rcases closes with ⟨rfl, rfl | rfl⟩ | ⟨rfl, rfl | rfl⟩ <;> exact ⟨rfl, rfl⟩

/-- An object is its members between braces, for the token stream as for the value. -/
theorem decode_object (decoded : dec.decode = .ok (value, next)) (begins : value.head? = some leftBrace) :
    ∃ inside members last members', dec.token = .ok (.delim leftBrace, inside) ∧
      Walk inside members last ∧ last.more = false ∧ last.token = .ok (.delim rightBrace, next) ∧
      objectMembers value = some members' ∧ members'.map Member.pair = members.map Member.pair := by
  obtain ⟨state, stack, tail, rfl, opens, found, fresh⟩ := token_opens decoded (.inl rfl) begins
  have reads : Scanner.new.Reads (leftBrace :: (tail ++ next.rest)) next.rest :=
    ⟨leftBrace :: tail, rfl, found⟩
  obtain ⟨members, spaces, at_, all, inObject, walk⟩ :=
    ReadsMembers.walk (.inl ⟨rfl, reads.more rfl⟩)
  obtain ⟨more, closes⟩ := token_closes next.rest state stack all
    (.inl ⟨rfl, inObject⟩)
  rw [← fresh] at closes
  obtain ⟨text, same, again⟩ := (walk [.topValue]).over
  obtain ⟨members', pairs, walk'⟩ := again (spaces ++ [rightBrace]) (by cases spaces <;> rfl)
  have whole : tail = text ++ (spaces ++ [rightBrace]) := by
    refine (List.append_left_inj next.rest).mp ?_
    dsimp only at same
    rw [same]
    simp
  refine ⟨_, members, _, members', opens, walk _, more, closes, ?_, pairs⟩
  obtain ⟨ended, _⟩ := token_closes [] .topValue [] all
    (.inl ⟨rfl, inObject⟩)
  refine objectMembers_eq_some.mpr ⟨_, _, ?_, walk', ended, ?_⟩
  · rw [whole]
    exact openObject_eq_some.mpr ⟨[], rfl, rfl, rfl⟩
  · refine (closes_iff ?_ ?_).mpr ⟨spaces, [], all, rfl, rfl⟩
    · exact inObject
    · rfl

/-- An array is its elements between brackets. -/
theorem decode_array (decoded : dec.decode = .ok (value, next))
    (begins : value.head? = some leftBracket) :
    ∃ inside values last, dec.token = .ok (.delim leftBracket, inside) ∧
      Elements inside values last ∧ last.more = false ∧
      last.token = .ok (.delim rightBracket, next) ∧ IsArray value values := by
  obtain ⟨state, stack, tail, rfl, opens, found, fresh⟩ := token_opens decoded (.inr rfl) begins
  have reads : Scanner.new.Reads (leftBracket :: (tail ++ next.rest)) next.rest :=
    ⟨leftBracket :: tail, rfl, found⟩
  obtain ⟨values, spaces, at_, all, inArray, walk⟩ :=
    ReadsElements.walk (.inl ⟨rfl, reads.more rfl⟩)
  obtain ⟨more, closes⟩ := token_closes next.rest state stack all
    (.inr ⟨rfl, inArray⟩)
  rw [← fresh] at closes
  obtain ⟨text, same, again⟩ := (walk [.topValue]).over
  have walk' := again (spaces ++ [rightBracket]) (by cases spaces <;> rfl)
  have whole : tail = text ++ (spaces ++ [rightBracket]) := by
    refine (List.append_left_inj next.rest).mp ?_
    dsimp only at same
    rw [same]
    simp
  refine ⟨_, values, _, opens, walk _, more, closes, ?_⟩
  obtain ⟨ended, closes'⟩ := token_closes [] .topValue [] all
    (.inr ⟨rfl, inArray⟩)
  refine ⟨_, _, _, ?_, walk', ended, closes', rfl⟩
  rw [whole]
  rfl

end Pieces

end AnselmGateway.Foundation.Json
