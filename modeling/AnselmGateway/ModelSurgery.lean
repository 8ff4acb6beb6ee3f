import AnselmGateway.ResponseModelSemantics

/-! Rewriting a response is surgery on one span: the bytes around the model stay as they
are, the object reads the same but for its model, and there is nothing left to do a
second time. -/
namespace AnselmGateway.ModelSurgery
open Foundation Foundation.Json ResponseModel ResponseModelSemantics

/-- At most one member answers to the model, and it is spelled so. -/
def Rewritable (members : List Member) : Prop :=
  (members.filter isModel).length ≤ 1 ∧ ∀ m ∈ members, isModel m = true → m.key = "model"

/-- What a member is when the model is named. -/
def renamed (publicModelID : String) (m : Member) : String × Bytes :=
  if m.key = "model" then ("model", marshalString publicModelID) else m.pair

/-- The payload read as these members, and what it is rewritten to: itself where there is
no model, and otherwise the payload with another text in the place of the model's value. -/
inductive Surgery (publicModelID : String) : Bytes → List Member → Bytes → Prop
  | untouched {payload : Bytes} {members : List Member} (none_ : members.filter isModel = []) :
      Surgery publicModelID payload members payload
  | replaced {front : Bytes} {before after : List Member} {m : Member} (spelled : m.key = "model")
      (before_ : before.filter isModel = []) (after_ : after.filter isModel = []) :
      Surgery publicModelID (front ++ (m.value ++ m.valueRest)) (before ++ m :: after)
        (front ++ (marshalString publicModelID ++ m.valueRest))

section Names
variable {members : List Member} {m : Member} {publicModelID : String}

theorem isModel_of_spelled (spelled : m.key = "model") : isModel m = true := by
  have named : equalFold "model" "model" = true := by decide
  rw [isModel, spelled, named]

theorem renamed_model (spelled : m.key = "model") :
    renamed publicModelID m = ("model", marshalString publicModelID) := if_pos spelled

/-- Members that do not answer to the model keep their values. -/
theorem map_renamed (none_ : members.filter isModel = []) :
    members.map (renamed publicModelID) = members.map Member.pair := by
  apply List.map_congr_left
  intro m member
  refine if_neg fun spelled => ?_
  exact List.filter_eq_nil_iff.mp none_ m member (isModel_of_spelled spelled)

theorem rewritten_isSome {payload : Bytes} :
    (rewritten payload publicModelID members).isSome = true ↔ Rewritable members := by
  have spelled : (∀ m ∈ members, isModel m = true → m.key = "model") ↔
      ∀ m ∈ members.filter isModel, m.key = "model" := by
    simp only [List.mem_filter, and_imp]
  rw [Rewritable, spelled, rewritten]
  cases members.filter isModel with
  | nil => simp
  | cons m rest =>
    cases rest with
    | nil => by_cases spelled : m.key = "model" <;> simp [spelled]
    | cons m' rest => simp

end Names

/-! ## Validity of the parts -/

/-- In a valid text what stands around a value is valid. -/
theorem validUtf8_around {front between value rest : Bytes} (isColon : IsColon between)
    (behind : ∃ c tail, rest = c :: tail ∧ c < 0x80)
    (valid : validUtf8 (front ++ (between ++ (value ++ rest))) = true) :
    validUtf8 (front ++ between) = true ∧ validUtf8 rest = true := by
  obtain ⟨spaces, spaces', _, all', rfl⟩ := isColon
  obtain ⟨c, tail, rfl, ascii⟩ := behind
  have spaces_ : ∀ b ∈ spaces', b < 0x80 := fun b member =>
    isSpace_ascii (List.all_eq_true.mp all' b member)
  have whole : front ++ (spaces ++ colon :: spaces' ++ (value ++ c :: tail)) =
      front ++ spaces ++ colon :: (spaces' ++ (value ++ c :: tail)) := by simp
  rw [whole, validUtf8_append (by decide), validUtf8_cons (by decide), validUtf8_ascii spaces_,
    validUtf8_append ascii, Bool.and_eq_true, Bool.and_eq_true] at valid
  refine ⟨?_, valid.2.2⟩
  rw [← List.append_assoc, validUtf8_append (by decide), validUtf8_cons (by decide), valid.1,
    ← List.append_nil spaces', validUtf8_ascii spaces_]
  rfl

/-! ## The rewriting -/

section Rewrite
variable {payload out : Bytes} {publicModelID : String}

theorem rewriteClientModelJSON_isSome (payload : Bytes) (publicModelID : String) :
    (rewriteClientModelJSON payload publicModelID).isSome = true ↔
      validUtf8 payload = true ∧ ∃ members, objectMembers payload = some members ∧ Rewritable members := by
  rw [rewriteClientModelJSON_eq]
  cases validUtf8 payload with
  | false => simp
  | true =>
    rw [if_pos rfl]
    cases objectMembers payload with
    | none => simp
    | some members => simp [rewritten_isSome]

/-- What a rewriting comes to: a valid text that reads as the payload does but for the
model, and that a second rewriting leaves alone. -/
theorem rewriteClientModelJSON_cut (rewrote : rewriteClientModelJSON payload publicModelID = some out) :
    ∃ members members', objectMembers payload = some members ∧ objectMembers out = some members' ∧
      Surgery publicModelID payload members out ∧
      members'.map Member.pair = members.map (renamed publicModelID) ∧
      validUtf8 out = true ∧ rewritten out publicModelID members' = some out := by
  rw [rewriteClientModelJSON_eq] at rewrote
  split at rewrote
  swap
  · cases rewrote
  rename_i valid
  obtain ⟨members, found, same⟩ := Option.bind_eq_some_iff.mp rewrote
  have kept := same
  unfold rewritten at same
  split at same
  · rename_i none_
    cases same
    exact ⟨members, members, found, found, .untouched none_, (map_renamed none_).symm, valid, kept⟩
  · rename_i m single
    split at same
    swap
    · cases same
    rename_i spelled
    cases same
    obtain ⟨_, before, after, rfl, before_, after_⟩ := filter_single single
    obtain ⟨front, between, isColon, shape, _, ends, again⟩ := objectMembers_splice found
    obtain ⟨before', pairs, begins⟩ :=
      again (marshalString publicModelID) m.valueRest (marshalString_isString publicModelID)
    have alone := (filter_pairs pairs).mpr before_
    have out : spliced payload m (marshalString publicModelID) =
        front ++ between ++ (marshalString publicModelID ++ m.valueRest) := by
      rw [spliced, shape, ← List.append_assoc, inputOffset_append, List.take_left]
      simp only [List.append_assoc]
    have found' := (objectMembers_begins begins).mpr ⟨after, rfl, ends⟩
    rw [← List.append_assoc, List.append_assoc before', List.singleton_append, spelled] at found'
    rw [shape] at valid
    obtain ⟨front_, rest_⟩ := validUtf8_around isColon ends.ascii valid
    rw [out]
    refine ⟨_, _, found, found', ?_, ?_, ?_, ?_⟩
    · rw [shape, ← List.append_assoc]
      exact .replaced spelled before_ after_
    · rw [List.map_append, List.map_append, List.map_cons, List.map_cons, pairs, map_renamed before_,
        map_renamed after_, renamed_model spelled]
      rfl
    · exact validUtf8_concat front_ (validUtf8_concat (marshalString_valid publicModelID) rest_)
    · rw [rewritten_middle, if_pos ⟨alone, after_⟩]
  · cases same

/-- Rewriting is exact span surgery. What an object is, and what its members are, is what the
decoder takes for one, up to its nesting depth. -/
theorem rewriteClientModelJSON_surgery (payload : Bytes) (publicModelID : String) :
    ((rewriteClientModelJSON payload publicModelID).isSome = true ↔ validUtf8 payload = true ∧
      ∃ members, objectMembers payload = some members ∧ Rewritable members) ∧
    ∀ out, rewriteClientModelJSON payload publicModelID = some out →
      ∃ members members', objectMembers payload = some members ∧ objectMembers out = some members' ∧
        Surgery publicModelID payload members out ∧
        members'.map Member.pair = members.map (renamed publicModelID) ∧
        unquote (marshalString publicModelID) = publicModelID ∧
        rewriteClientModelJSON out publicModelID = some out := by
  refine ⟨rewriteClientModelJSON_isSome payload publicModelID, fun out rewrote => ?_⟩
  obtain ⟨members, members', found, found', surgery, pairs, valid, again⟩ :=
    rewriteClientModelJSON_cut rewrote
  refine ⟨members, members', found, found', surgery, pairs, unquote_marshalString publicModelID, ?_⟩
  rw [rewriteClientModelJSON_eq, if_pos valid, found', Option.bind_some, again]

end Rewrite

end AnselmGateway.ModelSurgery
