import AnselmGateway.Foundation.Json.Splice

/-! An input that is one object runs from a brace to a brace: only spaces stand around
them, and it reads the same whatever spaces those are. -/
namespace AnselmGateway.Foundation.Json

/-- Only at the end of the input is there no value, but for spaces. -/
theorem decode_eof {rest : Bytes} {stack : List TokenState} :
    Decoder.decode ⟨rest, .topValue, stack⟩ = .error .eof ↔ rest.all isSpace = true := by
  have none_ (all : rest.all isSpace = true) : readValue rest = none := by
    have read : readValue (rest ++ []) = _ := readValue_spaces all
    rw [List.append_nil] at read
    exact read
  simp only [Decoder.decode, Decoder.prepare, Decoder.readRaw, TokenState.valueAllowed, Bool.not_true,
    Bool.false_eq_true, if_false]
  by_cases all : rest.all isSpace = true
  · simp [none_ all, all]
  · cases readValue rest <;> simp [all]

/-- An object closes where a brace follows, and only spaces follow the brace. -/
theorem closes_iff {dec : Decoder} (inside : dec.InObject) (stack : dec.stack = [.topValue]) :
    dec.closes = true ↔ ∃ spaces tail, spaces.all isSpace = true ∧ tail.all isSpace = true ∧
      dec.rest = spaces ++ rightBrace :: tail := by
  have plain : dec.state.separated rightBrace = none := by
    rcases inside with here | here <;> rw [here] <;> rfl
  have closed {rest : Bytes} : tokenAt dec.state [.topValue] rightBrace rest =
      .ok (.delim rightBrace, ⟨rest, .topValue, []⟩) := by
    rcases inside with here | here <;> rw [here] <;> rfl
  constructor
  · intro closes
    unfold Decoder.closes at closes
    split at closes
    swap
    · cases closes
    rename_i d next token
    simp only [Bool.and_eq_true, decide_eq_true_eq] at closes
    obtain ⟨rfl, ended⟩ := closes
    unfold Decoder.token at token
    split at token
    · cases token
    · rename_i c rest peeked
      obtain ⟨spaces, all, _, same⟩ := peek_eq_some.mp peeked
      split at token
      · obtain rfl := tokenAt_delim token
        rw [stack, closed] at token
        cases token
        exact ⟨spaces, rest, all, decode_eof.mp ended, same⟩
      · rename_i state separated
        -- behind a comma no brace is a token
        have key_ : state = .objectKey := by
          unfold TokenState.separated at separated
          rcases inside with here | here <;> rw [here] at separated <;> simp at separated
          exact separated.2.symm
        split at token
        · cases token
        · rename_i c rest _
          obtain rfl := tokenAt_delim token
          rw [key_, stack] at token
          cases token
  · rintro ⟨spaces, tail, spaces_, tail_, same⟩
    have peeks : (dec.over (spaces ++ rightBrace :: tail)).peek = _ := peek_over spaces_ (by decide)
    rw [← same] at peeks
    have peeks : dec.peek = some (rightBrace, tail) := peeks
    unfold Decoder.closes Decoder.token
    rw [peeks, stack]
    dsimp only
    rw [plain]
    dsimp only
    rw [closed]
    simp only [decide_true, Bool.true_and, decide_eq_true_eq, decode_eof]
    exact tail_

/-- An input that is one object stands between braces, and whatever spaces stand behind
it, it has the same members. -/
theorem objectMembers_bounds {input : Bytes} {members : List Member}
    (found : objectMembers input = some members) :
    ∃ spaces text tail, spaces.all isSpace = true ∧ tail.all isSpace = true ∧
      input = spaces ++ leftBrace :: (text ++ rightBrace :: tail) ∧
      ∀ tail', tail'.all isSpace = true → ∃ members', members'.map Member.pair = members.map Member.pair ∧
        objectMembers (leftBrace :: (text ++ rightBrace :: tail')) = some members' := by
  obtain ⟨dec, last, opened, walk, ended, closed⟩ := objectMembers_eq_some.mp found
  obtain ⟨spaces, spaces_, same, fresh⟩ := openObject_eq_some.mp opened
  have inside : dec.InObject := .inl (by rw [fresh])
  obtain ⟨inside', stack⟩ := walk.inObject inside
  rw [fresh] at stack
  obtain ⟨front, tail, front_, tail_, rest⟩ := (closes_iff inside' stack).mp closed
  obtain ⟨text, whole, again⟩ := walk.over
  refine ⟨spaces, text ++ front, tail, spaces_, tail_, ?_, fun tail' all => ?_⟩
  · rw [same, whole, rest, List.append_assoc]
  · have begins : (front ++ rightBrace :: tail').head? = last.rest.head? := by
      rw [rest]
      cases front <;> rfl
    obtain ⟨members', pairs, walk'⟩ := again (front ++ rightBrace :: tail') begins
    have ends : (last.over (front ++ rightBrace :: tail')).more = false := by
      have peeks : (last.over (front ++ rightBrace :: tail')).peek = _ := peek_over front_ (by decide)
      rw [Decoder.more, peeks]
      rfl
    have closes : (last.over (front ++ rightBrace :: tail')).closes = true := by
      have within : (last.over (front ++ rightBrace :: tail')).InObject := inside'
      exact (closes_iff within stack).mpr ⟨front, tail', front_, all, rfl⟩
    refine ⟨members', pairs, objectMembers_eq_some.mpr
      ⟨dec.over (text ++ (front ++ rightBrace :: tail')), _, ?_, walk', ends, closes⟩⟩
    refine openObject_eq_some.mpr ⟨[], rfl, ?_, ?_⟩
    · rw [List.append_assoc]
      rfl
    · rw [fresh]
      rfl

end AnselmGateway.Foundation.Json
