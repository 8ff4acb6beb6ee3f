import AnselmGateway.Foundation.Json.Decoder

/-! Decoding is local: what an operation reads, and what it answers, depends on the
bytes it takes and on the one that follows. So the members of an object are read
alike, whatever stands behind them. -/
namespace AnselmGateway.Foundation.Json

/-- The decoder, over another rest. -/
def Decoder.over (dec : Decoder) (rest : Bytes) : Decoder := { dec with rest := rest }

@[simp] theorem Decoder.over_rest (dec : Decoder) (rest : Bytes) : (dec.over rest).rest = rest := rfl
@[simp] theorem Decoder.over_state (dec : Decoder) (rest : Bytes) :
    (dec.over rest).state = dec.state := rfl
@[simp] theorem Decoder.over_stack (dec : Decoder) (rest : Bytes) :
    (dec.over rest).stack = dec.stack := rfl
@[simp] theorem Decoder.over_over (dec : Decoder) (rest other : Bytes) :
    (dec.over rest).over other = dec.over other := rfl
@[simp] theorem Decoder.over_self (dec : Decoder) : dec.over dec.rest = dec := rfl

/-- An operation takes at least one byte, and answers alike over every rest that
begins alike. -/
def Local {ε α : Type} (op : Decoder → Except ε (α × Decoder)) : Prop :=
  ∀ dec answer next, op dec = .ok (answer, next) → ∃ text, text ≠ [] ∧ dec.rest = text ++ next.rest ∧
    ∀ other, other.head? = next.rest.head? → op (dec.over (text ++ other)) = .ok (answer, next.over other)

/-! ## Peeking -/

theorem dropWhile_spaces {spaces rest : Bytes} {c : UInt8} (all : spaces.all isSpace = true)
    (stop : isSpace c = false) : (spaces ++ c :: rest).dropWhile isSpace = c :: rest := by
  induction spaces with
  | nil => rw [List.nil_append, List.dropWhile_cons_of_neg (by simp [stop])]
  | cons space spaces ih =>
    rw [List.all_cons, Bool.and_eq_true] at all
    rw [List.cons_append, List.dropWhile_cons_of_pos all.1, ih all.2]

/-- A peek finds the first byte after the spaces. -/
theorem peek_eq_some {dec : Decoder} {c : UInt8} {rest : Bytes} :
    dec.peek = some (c, rest) ↔
      ∃ spaces, spaces.all isSpace = true ∧ isSpace c = false ∧ dec.rest = spaces ++ c :: rest := by
  unfold Decoder.peek
  constructor
  · intro found
    have split := List.takeWhile_append_dropWhile (p := isSpace) (l := dec.rest)
    cases dropped : dec.rest.dropWhile isSpace with
    | nil =>
      rw [dropped] at found
      cases found
    | cons head tail =>
      rw [dropped] at found split
      cases found
      refine ⟨dec.rest.takeWhile isSpace, List.all_takeWhile, ?_, split.symm⟩
      have stop := List.head_dropWhile_not isSpace (l := dec.rest) (by rw [dropped]; nofun)
      simpa only [dropped, List.head_cons] using stop
  · rintro ⟨spaces, all, stop, same⟩
    rw [same, dropWhile_spaces all stop]

theorem peek_over {dec : Decoder} {c : UInt8} {spaces rest : Bytes} (all : spaces.all isSpace = true)
    (stop : isSpace c = false) : (dec.over (spaces ++ c :: rest)).peek = some (c, rest) :=
  peek_eq_some.mpr ⟨spaces, all, stop, rfl⟩

/-! ## Values -/

theorem readValue_pos {input : Bytes} {n : ℕ} (ran : readValue input = some n) : 0 < n := by
  unfold readValue at ran
  cases input with
  | nil => cases ran
  | cons c rest =>
    have begins : (∃ next, Scanner.new.step c = .more next) ∨ Scanner.new.step c = .error := by
      rcases beginValue_cases c with code | code | code | ⟨state, _, code⟩ | code
      · exact .inl ⟨_, code .new⟩
      · exact .inl ⟨_, code .new⟩
      · exact .inl ⟨_, code .new⟩
      · exact .inl ⟨_, code .new⟩
      · exact .inr (code .new)
    unfold readFrom at ran
    rcases begins with ⟨next, code⟩ | code
    · rw [code] at ran
      obtain ⟨m, _, rfl⟩ := Option.map_eq_some_iff.mp ran
      omega
    · rw [code] at ran
      cases ran

theorem readRaw_local : Local Decoder.readRaw := by
  intro dec value next ran
  unfold Decoder.readRaw at ran
  split at ran
  · cases ran
  · rename_i allowed
    split at ran
    · cases ran
    · rename_i n found
      cases ran
      have bound := readFrom_le found
      have length : (dec.rest.take n).length = n := List.length_take_of_le bound
      refine ⟨dec.rest.take n, ?_, (List.take_append_drop n dec.rest).symm, ?_⟩
      · intro empty
        rw [empty] at length
        exact absurd (readValue_pos found) (by rw [← length]; decide)
      · intro other same
        have again : readValue (dec.rest.take n ++ other) = some n := by
          have whole : readFrom .new (dec.rest.take n ++ dec.rest.drop n) =
              some (dec.rest.take n).length := by
            rw [List.take_append_drop, length]
            exact found
          exact (readFrom_local same whole).trans (congrArg some length)
        unfold Decoder.readRaw
        simp only [Decoder.over, again, allowed]
        rw [List.take_left' length, List.drop_left' length]
        rfl

/-- A separator that is due is taken with the spaces before it. -/
theorem skip_local {dec next : Decoder} {separator : UInt8} {state : TokenState}
    (ran : dec.skip separator state = .ok next) : ∃ text, text ≠ [] ∧ dec.rest = text ++ next.rest ∧
      ∀ other, (dec.over (text ++ other)).skip separator state = .ok (next.over other) := by
  unfold Decoder.skip at ran
  split at ran
  · cases ran
  · rename_i c rest peeked
    obtain ⟨spaces, all, stop, same⟩ := peek_eq_some.mp peeked
    split at ran
    · rename_i due
      cases ran
      refine ⟨spaces ++ [c], by simp, by simp [same], fun other => ?_⟩
      unfold Decoder.skip
      rw [List.append_assoc, List.singleton_append, peek_over all stop]
      simp only [due, if_true]
      rfl
    · cases ran

theorem prepare_local {dec next : Decoder} (ran : dec.prepare = .ok next) :
    ∃ text, dec.rest = text ++ next.rest ∧
      ∀ other, (dec.over (text ++ other)).prepare = .ok (next.over other) := by
  have skips {separator : UInt8} {state : TokenState} (skipped : dec.skip separator state = .ok next) :
      ∃ text, dec.rest = text ++ next.rest ∧
        ∀ other, (dec.over (text ++ other)).skip separator state = .ok (next.over other) := by
    obtain ⟨text, _, same, again⟩ := skip_local skipped
    exact ⟨text, same, again⟩
  unfold Decoder.prepare at ran ⊢
  simp only [Decoder.over_state]
  cases state : dec.state with
  | arrayComma => exact skips (by simpa only [state] using ran)
  | objectColon => exact skips (by simpa only [state] using ran)
  | _ =>
    simp only [state] at ran
    cases ran
    exact ⟨[], rfl, fun other => rfl⟩

theorem decode_local : Local Decoder.decode := by
  intro dec value next ran
  unfold Decoder.decode at ran
  split at ran
  · cases ran
  · rename_i middle prepared
    obtain ⟨front, before, again⟩ := prepare_local prepared
    obtain ⟨text, some_, after, reads⟩ := readRaw_local middle value next ran
    refine ⟨front ++ text, by simp [some_], by rw [before, after, List.append_assoc], ?_⟩
    intro other same
    unfold Decoder.decode
    rw [List.append_assoc, again (text ++ other)]
    exact reads other same

/-! ## Tokens -/

theorem scalarAt_local {state after : TokenState} {stack : List TokenState} {input : Bytes}
    {token : Token} {next : Decoder} (ran : scalarAt state after stack input = .ok (token, next)) :
    ∃ text, text ≠ [] ∧ input = text ++ next.rest ∧ ∀ other, other.head? = next.rest.head? →
      scalarAt state after stack (text ++ other) = .ok (token, next.over other) := by
  unfold scalarAt at ran
  split at ran
  · cases ran
  · rename_i literal middle decoded
    obtain ⟨text, some_, split_, again⟩ := decode_local _ _ _ decoded
    split at ran
    · cases ran
    · rename_i scalar
      cases ran
      refine ⟨text, some_, split_, fun other same => ?_⟩
      have reads := again other same
      simp only [Decoder.over] at reads
      simp only [scalarAt, reads, scalar]
      rfl

theorem tokenAt_local {state : TokenState} {stack : List TokenState} {c : UInt8} {rest : Bytes}
    {token : Token} {next : Decoder} (ran : tokenAt state stack c rest = .ok (token, next)) :
    ∃ text, rest = text ++ next.rest ∧ ∀ other, other.head? = next.rest.head? →
      tokenAt state stack c (text ++ other) = .ok (token, next.over other) := by
  have opens {inside : TokenState} (opened : openToken state stack c rest inside = .ok (token, next)) :
      rest = next.rest ∧ ∀ other, openToken state stack c other inside = .ok (token, next.over other) := by
    unfold openToken at opened ⊢
    split at opened
    · rename_i allowed
      cases opened
      exact ⟨rfl, fun other => if_pos allowed⟩
    · cases opened
  have closes {start comma : TokenState}
      (closed : closeToken state stack c rest start comma = .ok (token, next)) :
      rest = next.rest ∧
        ∀ other, closeToken state stack c other start comma = .ok (token, next.over other) := by
    unfold closeToken at closed ⊢
    split at closed
    · split at closed
      · rename_i ends
        cases closed
        exact ⟨rfl, fun other => if_pos ends⟩
      · cases closed
    · cases closed
  have scalar {before after : TokenState}
      (read : scalarAt before after stack (c :: rest) = .ok (token, next)) :
      ∃ text, rest = text ++ next.rest ∧ ∀ other, other.head? = next.rest.head? →
        scalarAt before after stack (c :: (text ++ other)) = .ok (token, next.over other) := by
    obtain ⟨text, some_, same, again⟩ := scalarAt_local read
    obtain ⟨head, tail, rfl⟩ := List.exists_cons_of_ne_nil some_
    obtain ⟨rfl, rfl⟩ := List.cons.inj same
    exact ⟨tail, rfl, again⟩
  unfold tokenAt at ran ⊢
  split at ran
  · rename_i here
    obtain ⟨same, again⟩ := opens ran
    exact ⟨[], same, fun other _ => by rw [if_pos here]; exact again other⟩
  · rename_i not1
    split at ran
    · rename_i here
      obtain ⟨same, again⟩ := closes ran
      exact ⟨[], same, fun other _ => by rw [if_neg not1, if_pos here]; exact again other⟩
    · rename_i not2
      split at ran
      · rename_i here
        obtain ⟨same, again⟩ := opens ran
        exact ⟨[], same, fun other _ => by rw [if_neg not1, if_neg not2, if_pos here]; exact again other⟩
      · rename_i not3
        split at ran
        · rename_i here
          obtain ⟨same, again⟩ := closes ran
          refine ⟨[], same, fun other _ => ?_⟩
          rw [if_neg not1, if_neg not2, if_neg not3, if_pos here]
          exact again other
        · rename_i not4
          split at ran
          · cases ran
          · rename_i not5
            split at ran
            · rename_i here
              obtain ⟨text, same, again⟩ := scalar ran
              refine ⟨text, same, fun other begins => ?_⟩
              rw [if_neg not1, if_neg not2, if_neg not3, if_neg not4, if_neg not5, if_pos here]
              exact again other begins
            · rename_i not6
              split at ran
              · cases ran
              · rename_i not7
                obtain ⟨text, same, again⟩ := scalar ran
                refine ⟨text, same, fun other begins => ?_⟩
                rw [if_neg not1, if_neg not2, if_neg not3, if_neg not4, if_neg not5, if_neg not6,
                  if_neg not7]
                exact again other begins

/-- A token is read alike, and so is the byte it begins with. -/
theorem token_local_peek {dec next : Decoder} {token : Token} (ran : dec.token = .ok (token, next)) :
    ∃ text, text ≠ [] ∧ dec.rest = text ++ next.rest ∧ ∀ other, other.head? = next.rest.head? →
      (dec.over (text ++ other)).more = dec.more ∧
        (dec.over (text ++ other)).token = .ok (token, next.over other) := by
  unfold Decoder.token at ran
  split at ran
  · cases ran
  · rename_i c rest peeked
    obtain ⟨spaces, all, stop, same⟩ := peek_eq_some.mp peeked
    split at ran
    · rename_i plain
      obtain ⟨text, split_, again⟩ := tokenAt_local ran
      refine ⟨spaces ++ c :: text, by simp, by simp [same, split_], fun other begins => ?_⟩
      have peeks : (dec.over (spaces ++ c :: (text ++ other))).peek = _ := peek_over all stop
      rw [List.append_assoc, List.cons_append]
      constructor
      · simp only [Decoder.more, peeks, peeked]
      · simp only [Decoder.token, peeks, Decoder.over_state, plain]
        exact again other begins
    · rename_i state separated
      split at ran
      · cases ran
      · rename_i d tail peekedNext
        obtain ⟨spaces', all', stop', same'⟩ := peek_eq_some.mp peekedNext
        obtain ⟨text, split_, again⟩ := tokenAt_local ran
        refine ⟨spaces ++ c :: (spaces' ++ d :: text), by simp, ?_, fun other begins => ?_⟩
        · dsimp only at same'
          simp [same, same', split_]
        · have peeks : (dec.over (spaces ++ c :: (spaces' ++ d :: (text ++ other)))).peek = _ :=
            peek_over all stop
          have peeks' : (Decoder.over ⟨rest, state, dec.stack⟩ (spaces' ++ d :: (text ++ other))).peek = _ :=
            peek_over all' stop'
          simp only [List.append_assoc, List.cons_append]
          constructor
          · simp only [Decoder.more, peeks, peeked]
          · simp only [Decoder.over] at peeks'
            simp only [Decoder.token, peeks, Decoder.over_state, Decoder.over_stack, separated, peeks']
            exact again other begins

end AnselmGateway.Foundation.Json
