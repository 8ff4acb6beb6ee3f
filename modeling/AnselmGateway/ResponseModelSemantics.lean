import AnselmGateway.ResponseModel

/-! What rewriting a response means in terms of the members of its object: at most one
of them answers to the model, and its value is what is replaced. -/
namespace AnselmGateway.ResponseModelSemantics
open Foundation Foundation.Json ResponseModel

/-! ## The value behind a key -/

theorem takeWhile_solid {spaces text : Bytes} (all : spaces.all Json.isSpace = true)
    (solid : Solid text) : (spaces ++ text).takeWhile Json.isSpace = spaces := by
  obtain ⟨c, rest, rfl, stop⟩ := solid
  rw [List.takeWhile_append_of_pos (List.all_eq_true.mp all),
    List.takeWhile_cons_of_neg (by simp [stop]), List.append_nil]

theorem skipSpaces_solid {front spaces text rest : Bytes} (all : spaces.all Json.isSpace = true)
    (solid : Solid text) :
    skipSpaces (front ++ (spaces ++ (text ++ rest))) front.length
      (front.length + (spaces.length + text.length)) = front.length + spaces.length := by
  have window : ((front ++ (spaces ++ (text ++ rest))).take
      (front.length + (spaces.length + text.length))).drop front.length = spaces ++ text := by
    rw [List.take_length_add_append, List.drop_left, ← List.append_assoc, ← List.length_append,
      List.take_left]
  rw [skipSpaces, window, takeWhile_solid all solid]

theorem inputOffset_append {front rest : Bytes} : inputOffset (front ++ rest) rest = front.length := by
  rw [inputOffset, List.length_append, Nat.add_sub_cancel]

/-- The value is found where it stands. -/
theorem valueStartAfterKey_eq {payload front between value rest : Bytes} (isColon : IsColon between)
    (solid : Solid value) (shape : payload = front ++ (between ++ (value ++ rest))) :
    valueStartAfterKey payload (inputOffset payload (between ++ (value ++ rest)))
      (inputOffset payload rest) = some (inputOffset payload (value ++ rest)) := by
  obtain ⟨spaces, spaces', all, all', rfl⟩ := isColon
  have keyEnd : inputOffset payload (spaces ++ colon :: spaces' ++ (value ++ rest)) = front.length := by
    rw [shape, inputOffset_append]
  have valueStart : inputOffset payload (value ++ rest) =
      front.length + (spaces.length + 1 + spaces'.length) := by
    rw [shape, ← List.append_assoc, inputOffset_append]
    simp
    omega
  have valueEnd : inputOffset payload rest =
      front.length + (spaces.length + 1 + spaces'.length + value.length) := by
    rw [shape, ← List.append_assoc, ← List.append_assoc, inputOffset_append]
    simp
    omega
  have positive : 0 < value.length := by
    obtain ⟨c, tail, rfl, _⟩ := solid
    exact Nat.succ_pos _
  have long : inputOffset payload rest ≤ payload.length := Nat.sub_le ..
  have toColon : skipSpaces payload front.length (inputOffset payload rest) =
      front.length + spaces.length := by
    have skipped : skipSpaces (front ++ (spaces ++ (colon :: (spaces' ++ value) ++ rest))) _ _ = _ :=
      skipSpaces_solid all ⟨colon, _, rfl, by decide⟩
    rw [valueEnd, shape]
    simp only [List.length_cons, List.length_append, List.append_assoc, List.cons_append] at skipped ⊢
    rw [← skipped]
    congr 1
    omega
  have atColon : payload[front.length + spaces.length]? = some colon := by
    rw [shape]
    simp
  have toValue : skipSpaces payload (front.length + spaces.length + 1) (inputOffset payload rest) =
      front.length + (spaces.length + 1 + spaces'.length) := by
    have skipped : skipSpaces (front ++ (spaces ++ [colon]) ++ (spaces' ++ (value ++ rest))) _ _ = _ :=
      skipSpaces_solid all' solid
    rw [valueEnd, shape]
    simp only [List.length_cons, List.length_append, List.append_assoc, List.cons_append,
      List.length_nil, List.nil_append] at skipped ⊢
    rw [show front.length + spaces.length + 1 = front.length + (spaces.length + (0 + 1)) by omega,
      show front.length + (spaces.length + 1 + spaces'.length + value.length) =
        front.length + (spaces.length + (0 + 1)) + (spaces'.length + value.length) by omega, skipped]
    omega
  unfold valueStartAfterKey
  rw [keyEnd, toColon]
  dsimp only
  rw [toValue, if_neg, if_neg, if_pos, valueStart]
  · omega
  · rw [atColon]
    simp
    omega
  · simp
    omega

/-! ## What is rewritten -/

/-- A member whose key answers to the model. -/
def isModel (m : Member) : Bool := equalFold m.key "model"

/-- The payload with another value in the place of the member's. -/
def spliced (payload : Bytes) (m : Member) (value : Bytes) : Bytes :=
  payload.take (inputOffset payload (m.value ++ m.valueRest)) ++ value ++ m.valueRest

/-- What becomes of an object with these members. -/
def rewritten (payload : Bytes) (publicModelID : String) (members : List Member) : Option Bytes :=
  match members.filter isModel with
  | [] => some payload
  | [m] => if m.key = "model" then some (spliced payload m (marshalString publicModelID)) else none
  | _ => none

/-- Where a member's value stands. -/
def spanOf (payload : Bytes) (m : Member) : Span :=
  ⟨inputOffset payload (m.value ++ m.valueRest), inputOffset payload m.valueRest⟩

/-- The member stands in the payload, its value behind a colon. -/
def Placed (payload : Bytes) (m : Member) : Prop :=
  ∃ front between, IsColon between ∧ Solid m.value ∧
    payload = front ++ (between ++ (m.value ++ m.valueRest)) ∧
    m.keyRest = between ++ (m.value ++ m.valueRest)

section Fold
variable {payload : Bytes} {m : Member} {members : List Member}

theorem modelMember_other {seen : Option Span} (other : isModel m = false) :
    modelMember payload seen m = .inl seen := by
  unfold isModel at other
  simp [modelMember, other]

theorem modelMember_again {span : Span} (isModel_ : isModel m = true) :
    modelMember payload (some span) m = .inr () := by
  unfold isModel at isModel_
  simp [modelMember, isModel_]

theorem modelMember_first (isModel_ : isModel m = true) (placed : Placed payload m) :
    modelMember payload none m =
      if m.key = "model" then .inl (some (spanOf payload m)) else .inr () := by
  obtain ⟨front, between, isColon, solid, shape, keyRest⟩ := placed
  unfold isModel at isModel_
  have start := valueStartAfterKey_eq isColon solid shape
  rw [← keyRest] at start
  by_cases spelled : m.key = "model"
  · rw [if_pos spelled]
    simp only [modelMember, isModel_, start]
    simp [spelled, spanOf]
  · rw [if_neg spelled]
    simp [modelMember, isModel_, spelled]

/-- After the model only members that do not answer to it may follow. -/
theorem fold_seen (span : Span) : foldMembers (modelMember payload) (some span) members =
    if members.filter isModel = [] then .inr (some span) else .inl () := by
  induction members with
  | nil => rfl
  | cons m members ih =>
    rw [foldMembers]
    cases isModel_ : isModel m with
    | false =>
      rw [modelMember_other isModel_, List.filter_cons_of_neg (by simp [isModel_])]
      exact ih
    | true =>
      rw [modelMember_again isModel_, List.filter_cons_of_pos isModel_, if_neg (List.cons_ne_nil _ _)]

theorem fold_model (placed : ∀ m ∈ members, Placed payload m) :
    foldMembers (modelMember payload) none members =
      match members.filter isModel with
      | [] => .inr none
      | [m] => if m.key = "model" then .inr (some (spanOf payload m)) else .inl ()
      | _ => .inl () := by
  induction members with
  | nil => rfl
  | cons m members ih =>
    rw [foldMembers]
    cases isModel_ : isModel m with
    | false =>
      rw [modelMember_other isModel_, List.filter_cons_of_neg (by simp [isModel_])]
      exact ih fun m member => placed m (List.mem_cons_of_mem _ member)
    | true =>
      rw [modelMember_first isModel_ (placed m List.mem_cons_self), List.filter_cons_of_pos isModel_]
      by_cases spelled : m.key = "model"
      · rw [if_pos spelled]
        dsimp only
        rw [fold_seen]
        cases members.filter isModel with
        | nil =>
          dsimp only
          rw [if_pos rfl, if_pos spelled]
        | cons m' rest => rfl
      · rw [if_neg spelled]
        cases members.filter isModel with
        | nil =>
          dsimp only
          rw [if_neg spelled]
        | cons m' rest => rfl

end Fold

theorem objectMembers_placed {payload : Bytes} {members : List Member}
    (found : objectMembers payload = some members) : ∀ m ∈ members, Placed payload m := by
  intro m member
  obtain ⟨before, after, rfl⟩ := List.append_of_mem member
  obtain ⟨front, between, isColon, shape, keyRest, _⟩ := objectMembers_splice found
  obtain ⟨dec, last, _, walk, _⟩ := objectMembers_eq_some.mp found
  exact ⟨front, between, isColon, walk.solid m member, shape, keyRest⟩

/-- The rewriting, as a function of the members. -/
theorem rewriteClientModelJSON_eq (payload : Bytes) (publicModelID : String) :
    rewriteClientModelJSON payload publicModelID =
      if validUtf8 payload then (objectMembers payload).bind (rewritten payload publicModelID)
      else none := by
  unfold rewriteClientModelJSON
  cases validUtf8 payload with
  | false => rfl
  | true =>
    rw [if_neg (by decide), if_pos rfl]
    cases found : objectMembers payload with
    | none =>
      split
      · rfl
      · rename_i ran
        obtain ⟨members, some_⟩ := objectMembers_of_overObject ran
        rw [found] at some_
        cases some_
      · rename_i ran
        obtain ⟨members, some_⟩ := objectMembers_of_overObject ran
        rw [found] at some_
        cases some_
    | some members =>
      have placed := objectMembers_placed found
      rw [overObject_eq found, fold_model placed, Option.bind_some, rewritten]
      cases filtered : members.filter isModel with
      | nil => rfl
      | cons m rest =>
        cases rest with
        | nil =>
          dsimp only
          by_cases spelled : m.key = "model"
          · have member : m ∈ members.filter isModel := by
              rw [filtered]
              exact List.mem_singleton_self m
            obtain ⟨front, between, _, _, shape, _⟩ := placed m (List.mem_filter.mp member).1
            have behind : payload.drop (inputOffset payload m.valueRest) = m.valueRest := by
              rw [shape, ← List.append_assoc, ← List.append_assoc, inputOffset_append, List.drop_left]
            rw [if_pos spelled, if_pos spelled]
            dsimp only
            rw [spliced, spanOf, behind]
          · rw [if_neg spelled, if_neg spelled]
        | cons m' rest => rfl

/-! ## No provider identity -/

/-- Exactly one object, in which no member answers to the model but at most one,
which is spelled so and names the public model. -/
def PublicObject (publicModelID : String) (payload : Bytes) : Prop :=
  ∃ members, objectMembers payload = some members ∧ (members.filter isModel).length ≤ 1 ∧
    ∀ m ∈ members, isModel m = true →
      m.key = "model" ∧ IsString m.value ∧ unquote m.value = publicModelID

/-- Which members answer to the model is told by their keys. -/
theorem filter_pairs {left right : List Member} (pairs : left.map Member.pair = right.map Member.pair) :
    left.filter isModel = [] ↔ right.filter isModel = [] := by
  have keyed (members : List Member) : (members.filter isModel).map Member.pair =
      (members.map Member.pair).filter fun pair => equalFold pair.1 "model" := by
    rw [List.filter_map]
    rfl
  rw [← List.map_eq_nil_iff (f := Member.pair), keyed, pairs, ← keyed, List.map_eq_nil_iff]

theorem filter_middle {before after : List Member} {m : Member} (isModel_ : isModel m = true) :
    (before ++ m :: after).filter isModel = before.filter isModel ++ m :: after.filter isModel := by
  rw [List.filter_append, List.filter_cons_of_pos isModel_]

/-- The only member that answers to the model, among the others. -/
theorem filter_single {members : List Member} {m : Member} (single : members.filter isModel = [m]) :
    isModel m = true ∧ ∃ before after, members = before ++ m :: after ∧
      before.filter isModel = [] ∧ after.filter isModel = [] := by
  obtain ⟨before, after, rfl, before_, isModel_, after_⟩ := List.filter_eq_cons_iff.mp single
  exact ⟨isModel_, before, after, rfl, List.filter_eq_nil_iff.mpr before_, after_⟩

theorem rewriteClientModelJSON_public {payload out : Bytes} {publicModelID : String}
    (passed : rewriteClientModelJSON payload publicModelID = some out) :
    PublicObject publicModelID out := by
  rw [rewriteClientModelJSON_eq] at passed
  split at passed
  · obtain ⟨members, found, rewrote⟩ := Option.bind_eq_some_iff.mp passed
    unfold rewritten at rewrote
    split at rewrote
    · rename_i none_
      cases rewrote
      refine ⟨members, found, by rw [none_]; exact Nat.zero_le 1, fun m member isModel_ => ?_⟩
      exact absurd isModel_ (List.filter_eq_nil_iff.mp none_ m member)
    · rename_i m single
      split at rewrote
      · rename_i spelled
        cases rewrote
        obtain ⟨isModel_, before, after, rfl, before_, after_⟩ := filter_single single
        obtain ⟨front, between, _, shape, _, ends, again⟩ := objectMembers_splice found
        obtain ⟨before', pairs, begins⟩ :=
          again (marshalString publicModelID) m.valueRest (marshalString_isString publicModelID)
        have out : spliced payload m (marshalString publicModelID) =
            front ++ (between ++ (marshalString publicModelID ++ m.valueRest)) := by
          rw [spliced, shape, ← List.append_assoc, inputOffset_append, List.take_left]
          simp only [List.append_assoc]
        have found' := (objectMembers_begins begins).mpr ⟨after, rfl, ends⟩
        rw [← out, List.append_assoc, List.singleton_append] at found'
        have alone := (filter_pairs pairs).mpr before_
        have renamed : isModel ⟨m.key, between ++ (marshalString publicModelID ++ m.valueRest),
            marshalString publicModelID, m.valueRest⟩ = true := isModel_
        refine ⟨_, found', ?_, fun m' member isModel' => ?_⟩
        · rw [filter_middle renamed, alone, after_]
          exact Nat.le_refl 1
        · have here := List.mem_filter.mpr ⟨member, isModel'⟩
          rw [filter_middle renamed, alone, after_] at here
          obtain rfl := List.mem_singleton.mp here
          exact ⟨spelled, marshalString_isString publicModelID, unquote_marshalString publicModelID⟩
      · cases rewrote
    · cases rewrote
  · cases passed

/-! ## Two models -/

/-- The text ends where the value of a top-level model is to stand: with an empty
string there and a brace behind it, it is an object whose last member is the model. -/
def ModelPlace (front : Bytes) : Prop :=
  ∃ before m, objectMembers (front ++ [quote, quote, rightBrace]) = some (before ++ [m]) ∧
    m.key = "model" ∧ m.value = [quote, quote] ∧ m.valueRest = [rightBrace]

/-- The name of a model, as it is written. -/
def ModelString (literal : Bytes) : Prop := IsString literal ∧ validUtf8 literal = true

theorem validUtf8_string {front literal rest : Bytes} (isString : IsString literal) :
    validUtf8 (front ++ (literal ++ rest)) =
      (validUtf8 front && (validUtf8 literal && validUtf8 (quote :: rest))) := by
  obtain ⟨body, _, rfl⟩ := isString
  have whole : quote :: (body ++ [quote]) ++ rest = quote :: body ++ quote :: rest := by simp
  have alone : quote :: (body ++ [quote]) = quote :: body ++ [quote] := rfl
  have single : validUtf8 [quote] = true := by decide
  have closed : validUtf8 (quote :: body ++ [quote]) = _ := validUtf8_append (by decide)
  rw [whole, alone, List.cons_append, validUtf8_append (by decide), ← List.cons_append,
    validUtf8_append (by decide), closed, single, Bool.and_true]

/-- What becomes of an object in which a member that names a model stands. -/
theorem rewritten_middle {front literal rest between : Bytes} {before after : List Member}
    {publicModelID : String} :
    rewritten (front ++ (literal ++ rest)) publicModelID
        (before ++ ⟨"model", between, literal, rest⟩ :: after) =
      if before.filter isModel = [] ∧ after.filter isModel = [] then
        some (front ++ (marshalString publicModelID ++ rest))
      else none := by
  have named : equalFold "model" "model" = true := by decide
  have named : isModel ⟨"model", between, literal, rest⟩ = true := named
  rw [rewritten, filter_middle named]
  cases before.filter isModel with
  | nil =>
    cases after.filter isModel with
    | nil =>
      rw [if_pos ⟨rfl, rfl⟩]
      simp only [List.nil_append, if_true, spliced]
      rw [inputOffset_append, List.take_left, List.append_assoc]
    | cons m after => exact (if_neg fun both => by cases both.2).symm
  | cons m before =>
    rw [if_neg fun both => by cases both.1]
    cases before <;> rfl

/-- Only which model is named is lost. -/
theorem rewriteClientModelJSON_same {front left right rest : Bytes} (publicModelID : String)
    (place : ModelPlace front) (isLeft : ModelString left) (isRight : ModelString right) :
    rewriteClientModelJSON (front ++ (left ++ rest)) publicModelID =
      rewriteClientModelJSON (front ++ (right ++ rest)) publicModelID := by
  obtain ⟨members, m, found, spelled, value, valueRest⟩ := place
  obtain ⟨brace, between, _, shape, _, _, again⟩ := objectMembers_splice found
  rw [value, valueRest, ← List.append_assoc] at shape
  have front_ : front = brace ++ between := List.append_cancel_right shape
  have meaning {literal : Bytes} (isString : IsString literal) :
      (objectMembers (front ++ (literal ++ rest))).bind
        (rewritten (front ++ (literal ++ rest)) publicModelID) =
      (objectMembers (front ++ (left ++ rest))).bind
        (rewritten (front ++ (left ++ rest)) publicModelID) := by
    obtain ⟨before, pairs, begins⟩ := again literal rest isString
    obtain ⟨before', pairs', begins'⟩ := again left rest isLeft.1
    rw [spelled, ← List.append_assoc, ← front_] at begins begins'
    by_cases ends : ∃ after, Ends ⟨rest, .objectComma, [.topValue]⟩ after
    · obtain ⟨after, ends⟩ := ends
      rw [(objectMembers_begins begins).mpr ⟨after, rfl, ends⟩,
        (objectMembers_begins begins').mpr ⟨after, rfl, ends⟩]
      simp only [Option.bind_some, List.append_assoc, List.singleton_append]
      rw [rewritten_middle, rewritten_middle]
      simp only [filter_pairs pairs, filter_pairs pairs']
    · have unread {text : Bytes} {before : List Member} (begins : Begins text before rest) :
          objectMembers text = none := by
        cases found : objectMembers text with
        | none => rfl
        | some members =>
          obtain ⟨after, _, closes⟩ := (objectMembers_begins begins).mp found
          exact absurd ⟨after, closes⟩ ends
      rw [unread begins, unread begins']
      rfl
  rw [rewriteClientModelJSON_eq, rewriteClientModelJSON_eq, validUtf8_string isLeft.1,
    validUtf8_string isRight.1, isLeft.2, isRight.2, meaning isRight.1]

end AnselmGateway.ResponseModelSemantics
