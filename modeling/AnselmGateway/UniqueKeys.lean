import AnselmGateway.ChatUsage
import AnselmGateway.Foundation.Json.Values

/-! The walk that refuses duplicate keys reads the same value as the decoder behind it.
What it accepts has, in every object on every level, only keys of ASCII that differ beyond
case, so whoever decodes it finds no key to choose between. -/
namespace AnselmGateway.UniqueKeys
open Foundation Foundation.Json ChatUsage

/-- A key of ASCII. -/
def Plain (key : String) : Prop := ∀ c ∈ key.toList, c.toNat < 0x80

/-- No object within the value has two keys that differ only in case, or one beyond ASCII. -/
inductive UniqueKeys : Bytes → Prop
  | scalar {value : Bytes} (noObject : objectMembers value = none)
      (noArray : ∀ values, ¬IsArray value values) : UniqueKeys value
  | array {value : Bytes} {values : List Bytes} (isArray : IsArray value values)
      (each : ∀ element ∈ values, UniqueKeys element) : UniqueKeys value
  | object {value : Bytes} {members : List Member} (isObject : objectMembers value = some members)
      (plain : ∀ m ∈ members, Plain m.key) (distinct : (members.map fun m => lower m.key).Nodup)
      (each : ∀ m ∈ members, UniqueKeys m.value) : UniqueKeys value

theorem openObject_token {input : Bytes} {dec : Decoder} (opened : openObject input = some dec) :
    (Decoder.new input).token = .ok (.delim leftBrace, dec) := by
  unfold openObject at opened
  split at opened
  · rename_i token
    split at opened
    · rename_i isBrace
      cases opened
      rw [token, isBrace]
    · cases opened
  · cases opened

/-- The object that a value is has keys to tell apart, and so have its values. -/
theorem UniqueKeys.members {value : Bytes} {members : List Member} (unique : UniqueKeys value)
    (found : objectMembers value = some members) : (∀ m ∈ members, Plain m.key) ∧
      (members.map fun m => lower m.key).Nodup ∧ ∀ m ∈ members, UniqueKeys m.value := by
  cases unique with
  | scalar noObject _ =>
    rw [noObject] at found
    cases found
  | array isArray _ =>
    obtain ⟨_, _, opened, _⟩ := objectMembers_eq_some.mp found
    obtain ⟨_, _, _, token, _⟩ := isArray
    rw [openObject_token opened] at token
    cases token
  | object isObject plain distinct each =>
    cases isObject.symm.trans found
    exact ⟨plain, distinct, each⟩

/-- What begins with neither bracket nor brace has no keys. -/
theorem uniqueKeys_scalar {value : Bytes} (solid : Solid value) (noObject : value.head? ≠ some leftBrace)
    (noArray : value.head? ≠ some leftBracket) : UniqueKeys value := by
  obtain ⟨c, rest, rfl, stop⟩ := solid
  have begins {d : UInt8} {dec : Decoder} (token : (Decoder.new (c :: rest)).token = .ok (.delim d, dec)) :
      d = c := by
    have peeked : (Decoder.new (c :: rest)).peek = some (c, rest) :=
      peek_eq_some.mpr ⟨[], rfl, stop, rfl⟩
    have plain : TokenState.separated .topValue c = none := by simp [TokenState.separated]
    rw [Decoder.token, peeked] at token
    dsimp only [Decoder.new] at token
    rw [plain] at token
    exact tokenAt_delim token
  refine .scalar (Option.eq_none_iff_forall_ne_some.mpr fun members found => ?_) ?_
  · obtain ⟨_, _, opened, _⟩ := objectMembers_eq_some.mp found
    exact noObject (congrArg some (begins (openObject_token opened)).symm)
  · rintro values ⟨_, _, _, token, _⟩
    exact noArray (congrArg some (begins token).symm)

section Walk
variable {dec last after : Decoder} {left : ℕ}

theorem closedBy_eq_some {c : UInt8} :
    closedBy c dec = some after ↔ dec.token = .ok (.delim c, after) := by
  unfold closedBy
  constructor
  · intro closed
    split at closed
    · split at closed
      · rename_i token same
        cases closed
        rw [token, same]
      · cases closed
    · cases closed
  · intro token
    rw [token]
    exact if_pos rfl

/-! ## The walk and the decoder -/

/-- With so many rounds the walk takes what the decoder takes. -/
def Agrees (left : ℕ) : Prop :=
  ∀ {dec next after : Decoder} {value : Bytes}, dec.decode = .ok (value, next) →
    consumeUniqueJSONValue left dec = some after → after = next ∧ UniqueKeys value

theorem members_agree {members : List Member} {seen : List String}
    (agrees : ∀ fewer < left, Agrees fewer) (walk : Walk dec members last) (ended : last.more = false)
    (ran : consumeMembers left dec seen = some after) :
    last.token = .ok (.delim rightBrace, after) ∧
      (∀ m ∈ members, Plain m.key ∧ lower m.key ∉ seen ∧ UniqueKeys m.value) ∧
      (members.map fun m => lower m.key).Nodup := by
  induction walk generalizing left seen with
  | done =>
    cases left with
    | zero => cases ran
    | succ left =>
      rw [consumeMembers, ended] at ran
      exact ⟨closedBy_eq_some.mp ran, nofun, List.nodup_nil⟩
  | @step dec next last m members more found _ ih =>
    cases left with
    | zero => cases ran
    | succ left =>
      obtain ⟨atColon, token, _, decoded, _⟩ := member_eq_some.mp found
      rw [consumeMembers, more, token] at ran
      simp only [Bool.not_true, Bool.false_eq_true, if_false] at ran
      split at ran
      · cases ran
      · rename_i fresh
        simp only [Bool.or_eq_true, not_or, List.contains_iff_mem, List.any_eq_true, decide_eq_true_eq,
          not_exists, not_and, Nat.not_le, ge_iff_le] at fresh
        split at ran
        · cases ran
        · rename_i behind consumed
          obtain ⟨rfl, unique⟩ := agrees left (Nat.lt_succ_self left) decoded consumed
          obtain ⟨closed, each, distinct⟩ := ih
            (fun fewer few => agrees fewer (Nat.lt_succ_of_lt few)) ended ran
          refine ⟨closed, ?_, ?_⟩
          · intro other member
            rcases List.mem_cons.mp member with rfl | member
            · exact ⟨fresh.1, fresh.2, unique⟩
            · obtain ⟨plain, unseen, unique⟩ := each other member
              exact ⟨plain, fun old => unseen (List.mem_cons_of_mem _ old), unique⟩
          · rw [List.map_cons, List.nodup_cons]
            refine ⟨fun again => ?_, distinct⟩
            obtain ⟨other, member, same⟩ := List.mem_map.mp again
            exact (each other member).2.1 (by rw [same]; exact List.mem_cons_self)

theorem elements_agree {values : List Bytes} (agrees : ∀ fewer < left, Agrees fewer)
    (walk : Elements dec values last) (ended : last.more = false)
    (ran : consumeElements left dec = some after) :
    last.token = .ok (.delim rightBracket, after) ∧ ∀ element ∈ values, UniqueKeys element := by
  induction walk generalizing left with
  | done =>
    cases left with
    | zero => cases ran
    | succ left =>
      rw [consumeElements, ended] at ran
      exact ⟨closedBy_eq_some.mp ran, nofun⟩
  | @step dec next last value values more decoded _ ih =>
    cases left with
    | zero => cases ran
    | succ left =>
      rw [consumeElements, more] at ran
      simp only [Bool.not_true, Bool.false_eq_true, if_false] at ran
      split at ran
      · cases ran
      · rename_i behind consumed
        obtain ⟨rfl, unique⟩ := agrees left (Nat.lt_succ_self left) decoded consumed
        obtain ⟨closed, each⟩ := ih (fun fewer few => agrees fewer (Nat.lt_succ_of_lt few)) ended ran
        exact ⟨closed, List.forall_mem_cons.mpr ⟨unique, each⟩⟩

/-- The walk stops where the decoder does, and has seen every key of the value. -/
theorem consume_agrees (left : ℕ) : Agrees left := by
  induction left using Nat.strongRecOn with
  | ind left ih =>
    intro dec next after value decoded ran
    cases left with
    | zero => cases ran
    | succ left =>
      have fewer : ∀ few < left, Agrees few := fun few less => ih few (Nat.lt_succ_of_lt less)
      rw [consumeUniqueJSONValue] at ran
      by_cases isObject : value.head? = some leftBrace
      · obtain ⟨inside, members, last, members', token, walk, ended, closes, found, pairs⟩ :=
          decode_object decoded isObject
        rw [token] at ran
        obtain ⟨closed, each, distinct⟩ := members_agree fewer walk ended ran
        rw [closes] at closed
        cases closed
        have keys : members'.map (fun m => lower m.key) = members.map fun m => lower m.key := by
          simpa only [List.map_map, Function.comp_def, Member.pair] using
            congrArg (List.map fun pair => lower pair.1) pairs
        have each' : ∀ m ∈ members', Plain m.key ∧ UniqueKeys m.value := by
          intro m member
          obtain ⟨other, member', same⟩ := List.mem_map.mp (pairs ▸ List.mem_map_of_mem member)
          obtain ⟨plain, _, unique⟩ := each other member'
          obtain ⟨key, value⟩ := Prod.mk.inj same
          exact ⟨key ▸ plain, value ▸ unique⟩
        exact ⟨rfl, .object found (fun m member => (each' m member).1) (keys ▸ distinct)
          fun m member => (each' m member).2⟩
      · by_cases isArray : value.head? = some leftBracket
        · obtain ⟨inside, values, last, token, walk, ended, closes, found⟩ :=
            decode_array decoded isArray
          rw [token] at ran
          obtain ⟨closed, each⟩ := elements_agree fewer walk ended ran
          rw [closes] at closed
          cases closed
          exact ⟨rfl, .array found each⟩
        · cases token : dec.token with
          | error error =>
            rw [token] at ran
            cases ran
          | ok pair =>
            obtain ⟨token_, behind⟩ := pair
            obtain ⟨rfl, scalar⟩ := token_scalar decoded isObject isArray token
            rw [token] at ran
            cases token_ with
            | delim d => exact absurd rfl (scalar d)
            | text _ | other _ =>
              cases ran
              exact ⟨rfl, uniqueKeys_scalar (decode_solid decoded) isObject isArray⟩

end Walk

/-! ## Rounds -/

section Rounds
variable {dec next : Decoder} {token : Token} {left right : ℕ}

theorem token_shorter (ran : dec.token = .ok (token, next)) : next.rest.length < dec.rest.length := by
  obtain ⟨text, some_, same, _⟩ := token_local_peek ran
  have positive := List.length_pos_iff.mpr some_
  rw [same, List.length_append]
  omega

/-- What the walk takes is at least one byte. -/
theorem consume_shorter (left : ℕ) :
    (∀ {dec next}, consumeUniqueJSONValue left dec = some next → next.rest.length < dec.rest.length) ∧
    (∀ {dec next seen}, consumeMembers left dec seen = some next → next.rest.length < dec.rest.length) ∧
    ∀ {dec next}, consumeElements left dec = some next → next.rest.length < dec.rest.length := by
  induction left with
  | zero => exact ⟨nofun, nofun, nofun⟩
  | succ left ih =>
    obtain ⟨value, members, elements⟩ := ih
    refine ⟨?_, ?_, ?_⟩
    · intro dec next ran
      rw [consumeUniqueJSONValue] at ran
      split at ran
      · cases ran
      · rename_i token
        have shorter := token_shorter token
        split at ran
        · exact (members ran).trans shorter
        · split at ran
          · exact (elements ran).trans shorter
          · cases ran
      · rename_i token
        cases ran
        exact token_shorter token
    · intro dec next seen ran
      rw [consumeMembers] at ran
      split at ran
      · exact token_shorter (closedBy_eq_some.mp ran)
      · split at ran
        · rename_i token
          split at ran
          · cases ran
          · split at ran
            · cases ran
            · rename_i consumed
              exact (members ran).trans ((value consumed).trans (token_shorter token))
        · cases ran
    · intro dec next ran
      rw [consumeElements] at ran
      split at ran
      · exact token_shorter (closedBy_eq_some.mp ran)
      · split at ran
        · cases ran
        · rename_i consumed
          exact (elements ran).trans (value consumed)

/-- Two rounds for every byte are enough: more of them change nothing. -/
theorem consume_enough (left right : ℕ) :
    (∀ {dec : Decoder}, 2 * dec.rest.length < left → 2 * dec.rest.length < right →
      consumeUniqueJSONValue left dec = consumeUniqueJSONValue right dec) ∧
    (∀ {dec : Decoder} {seen}, 2 * dec.rest.length + 1 < left → 2 * dec.rest.length + 1 < right →
      consumeMembers left dec seen = consumeMembers right dec seen) ∧
    ∀ {dec : Decoder}, 2 * dec.rest.length + 1 < left → 2 * dec.rest.length + 1 < right →
      consumeElements left dec = consumeElements right dec := by
  induction left generalizing right with
  | zero => exact ⟨nofun, nofun, nofun⟩
  | succ left ih =>
    cases right with
    | zero => exact ⟨fun _ => nofun, fun _ => nofun, fun _ => nofun⟩
    | succ right =>
      obtain ⟨value, members, elements⟩ := ih right
      refine ⟨?_, ?_, ?_⟩
      · intro dec few also
        rw [consumeUniqueJSONValue, consumeUniqueJSONValue]
        split
        · rfl
        · rename_i token
          have shorter := token_shorter token
          rw [members (by omega) (by omega), elements (by omega) (by omega)]
        · rfl
      · intro dec seen few also
        rw [consumeMembers, consumeMembers]
        split
        · rfl
        · split
          · rename_i token
            have shorter := token_shorter token
            rw [value (by omega) (by omega)]
            split
            · rfl
            · split
              · rfl
              · rename_i consumed
                have behind := (consume_shorter right).1 consumed
                exact members (by omega) (by omega)
          · rfl
      · intro dec few also
        rw [consumeElements, consumeElements, value (by omega) (by omega)]
        split
        · rfl
        · split
          · rfl
          · rename_i consumed
            have behind := (consume_shorter right).1 consumed
            exact elements (by omega) (by omega)

/-- The rounds never decide what the walk answers. -/
theorem uniqueJSONKeys_rounds {raw : Bytes} {rounds : ℕ} (enough : 2 * raw.length < rounds) :
    uniqueJSONKeys raw = match consumeUniqueJSONValue rounds (Decoder.new raw) with
      | none => false
      | some dec => decide (dec.decode = .error .eof) := by
  have same : consumeUniqueJSONValue (2 * raw.length + 1) (Decoder.new raw) =
      consumeUniqueJSONValue rounds (Decoder.new raw) :=
    (consume_enough _ rounds).1 (Nat.lt_succ_self _) enough
  exact congrArg (fun answer : Option Decoder => match answer with
    | none => false
    | some dec => decide (dec.decode = Except.error DecodeError.eof)) same

end Rounds

/-- An object that is accepted has unique keys on every level. -/
theorem uniqueKeys_object {raw : Bytes} {members : List Member} (found : objectMembers raw = some members)
    (unique : uniqueJSONKeys raw = true) : UniqueKeys raw := by
  obtain ⟨dec, last, opened, walk, ended, _⟩ := objectMembers_eq_some.mp found
  unfold uniqueJSONKeys at unique
  rw [consumeUniqueJSONValue, openObject_token opened] at unique
  simp only [if_true] at unique
  split at unique
  · cases unique
  · rename_i after consumed
    obtain ⟨_, each, distinct⟩ := members_agree (fun fewer _ => consume_agrees fewer) walk ended consumed
    exact .object found (fun m member => (each m member).1) distinct fun m member => (each m member).2.2

end AnselmGateway.UniqueKeys
