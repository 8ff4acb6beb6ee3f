import AnselmGateway.Foundation.Int64
import AnselmGateway.UniqueKeys
import AnselmGateway.UsageSemantics

/-! Usage is accepted only where there is one way to read it: one object, one usage member
in it, and under every field at most one value. Whatever a reader does with keys that are
there twice, it reads the same vector. -/
namespace AnselmGateway.UsageAcceptance
open Foundation Foundation.Json Billing ChatUsage UniqueKeys UsageSemantics

/-! ## Stored integers -/

/-- The text is an integer in digits, and this is the integer. -/
def Spells (text : Bytes) (value : ℤ) : Prop :=
  (let digits := if text.head? = some 0x2D then text.tail else text
   digits ≠ [] ∧ digits.all isDigit = true) ∧ signedValue text = value

/-- Parsing accepts the integers in range, as they are spelled. -/
theorem parseInt64_eq_some {text : Bytes} {n : Int64} :
    parseInt64 text = some n ↔ Spells text n.toInt := by
  unfold parseInt64 Spells
  dsimp only
  generalize (if text.head? = some 0x2D then text.tail else text) = digits
  constructor
  · intro parsed
    split at parsed
    · rename_i fits
      simp only [Bool.and_eq_true, decide_eq_true_eq] at fits
      obtain ⟨⟨⟨some_, all⟩, low⟩, high⟩ := fits
      cases parsed
      exact ⟨⟨some_, all⟩, (Int64.toInt_ofInt_of_le low high).symm⟩
    · cases parsed
  · rintro ⟨⟨some_, all⟩, same⟩
    have low := Int64.le_toInt n
    have high := Int64.toInt_lt n
    rw [← same] at low high
    rw [if_pos, same, Int64.ofInt_toInt]
    simp only [Bool.and_eq_true, decide_eq_true_eq]
    exact ⟨⟨⟨some_, all⟩, low⟩, high⟩

/-- The values a reader finds under a name, in any spelling of it. -/
def valuesOf (name : String) (members : List Member) : List Bytes :=
  (members.filter fun m => lower m.key = name).map Member.value

/-- Under the name stands one value that holds this, or there is none and it is zero. A
null stands for none. -/
def Holds (stores : Bytes → Int64 → Prop) (name : String) (members : List Member) (n : Int64) : Prop :=
  valuesOf name members = [] ∧ n = 0 ∨
    ∃ value, valuesOf name members = [value] ∧ (value = utf8 "null" ∧ n = 0 ∨ stores value n)

/-- The integer stored under a field. -/
def Stored (name : String) : List Member → Int64 → Prop :=
  Holds (fun value n => Spells value n.toInt) name

/-- The integer stored under a field of the details, which are an object. -/
def StoredWithin (details name : String) : List Member → Int64 → Prop :=
  Holds (fun value n => ∃ members, objectMembers value = some members ∧ Stored name members n) details

/-- A vector that is stored in these members of a usage object. -/
structure StoredVector (members : List Member) (usage : Usage) : Prop where
  prompt : Stored "prompt_tokens" members usage.promptTokens
  completion : Stored "completion_tokens" members usage.completionTokens
  total : Stored "total_tokens" members usage.totalTokens
  cached : StoredWithin "prompt_tokens_details" "cached_tokens" members usage.cachedPromptTokens
  reasoning : StoredWithin "completion_tokens_details" "reasoning_tokens" members usage.reasoningTokens

/-- The payload is one object with one usage member, an object without doubtful keys
that stores the vector, and nothing in it is negative. -/
def Accepted (payload : Bytes) (usage : Usage) : Prop :=
  ∃ members raw fields, objectMembers payload = some members ∧ usageValues members = [raw] ∧
    objectMembers (trimSpaceBytes raw) = some fields ∧ UniqueKeys (trimSpaceBytes raw) ∧
    StoredVector fields usage ∧ usageHasNegative usage = false

/-- The payload is one object that says nothing of usage, or only a null. -/
def Silent (payload : Bytes) : Prop :=
  ∃ members, objectMembers payload = some members ∧ (usageValues members = [] ∨
    ∃ raw, usageValues members = [raw] ∧ trimSpaceBytes raw = utf8 "null")

/-! ## Fields -/

theorem valuesOf_here {name : String} {m : Member} {members : List Member} (here : lower m.key = name) :
    valuesOf name (m :: members) = m.value :: valuesOf name members := by
  simp [valuesOf, here]

theorem valuesOf_other {name : String} {m : Member} {members : List Member} (other : lower m.key ≠ name) :
    valuesOf name (m :: members) = valuesOf name members := by
  simp [valuesOf, other]

theorem valuesOf_none {name : String} {members : List Member}
    (absent : name ∉ members.map fun m => lower m.key) : valuesOf name members = [] := by
  unfold valuesOf
  rw [List.map_eq_nil_iff, List.filter_eq_nil_iff]
  intro m member same
  exact absent (List.mem_map.mpr ⟨m, member, of_decide_eq_true same⟩)

/-- A member assigns to a field if it has its name, and else leaves it. -/
def Assigns {α : Type} (take : α → Bytes → Option α) (name : String) (m : Member) (old new : α) : Prop :=
  if lower m.key = name then take old m.value = some new else new = old

/-- A field of what is decoded, where its keys differ: it keeps what it was, or takes the
one value under its name. -/
theorem foldlM_field {σ α : Type} {assign : σ → Member → Option σ} {field : σ → α}
    {take : α → Bytes → Option α} {name : String}
    (assigns : ∀ {s s' m}, assign s m = some s' → Assigns take name m (field s) (field s'))
    {members : List Member} (distinct : (members.map fun m => lower m.key).Nodup) {s s' : σ}
    (ran : members.foldlM assign s = some s') :
    valuesOf name members = [] ∧ field s' = field s ∨
      ∃ value, valuesOf name members = [value] ∧ take (field s) value = some (field s') := by
  induction members generalizing s with
  | nil =>
    cases ran
    exact .inl ⟨rfl, rfl⟩
  | cons m members ih =>
    rw [List.map_cons, List.nodup_cons] at distinct
    rw [List.foldlM_cons] at ran
    obtain ⟨middle, assigned, ran⟩ := Option.bind_eq_some_iff.mp ran
    have assigned := assigns assigned
    unfold Assigns at assigned
    by_cases here : lower m.key = name
    · have none_ : valuesOf name members = [] := valuesOf_none (here ▸ distinct.1)
      have kept : field s' = field middle := by
        rcases ih distinct.2 ran with ⟨_, same⟩ | ⟨value, found, _⟩
        · exact same
        · rw [none_] at found
          cases found
      rw [valuesOf_here here, none_, kept]
      exact .inr ⟨m.value, rfl, by rwa [if_pos here] at assigned⟩
    · rw [if_neg here] at assigned
      rw [valuesOf_other here, ← assigned]
      exact ih distinct.2 ran

theorem unmarshalInt64_eq_some {value : Bytes} {n : Int64} (taken : unmarshalInt64 0 value = some n) :
    value = utf8 "null" ∧ n = 0 ∨ Spells value n.toInt := by
  unfold unmarshalInt64 at taken
  split at taken
  · rename_i null
    cases taken
    exact .inl ⟨null, rfl⟩
  · exact .inr (parseInt64_eq_some.mp taken)

/-- The details of an accepted usage. -/
theorem unmarshalDetails_eq_some {name : String} {value : Bytes} {n : Option Int64}
    (unique : UniqueKeys value) (taken : unmarshalDetails name value = some n) :
    value = utf8 "null" ∧ n = none ∨
      ∃ members k, n = some k ∧ objectMembers value = some members ∧ Stored name members k := by
  unfold unmarshalDetails at taken
  split at taken
  · rename_i null
    cases taken
    exact .inl ⟨null, rfl⟩
  · obtain ⟨members, found, ran⟩ := Option.bind_eq_some_iff.mp taken
    obtain ⟨k, folded, rfl⟩ := Option.map_eq_some_iff.mp ran
    refine .inr ⟨members, k, rfl, found, ?_⟩
    have assigns {n n' : Int64} {m : Member} (assigned : (if lower m.key = name then
        unmarshalInt64 n m.value else some n) = some n') : Assigns unmarshalInt64 name m (id n) (id n') := by
      unfold Assigns
      split at assigned <;> rename_i here
      · rwa [if_pos here]
      · rw [if_neg here]
        exact (Option.some.inj assigned).symm
    rcases foldlM_field assigns (unique.members found).2.1 folded with
      absent | ⟨value, one, taken⟩
    · exact .inl absent
    · exact .inr ⟨value, one, unmarshalInt64_eq_some taken⟩

/-- What one member assigns to the fields. -/
structure Assigned (fields fields' : UsageFields) (m : Member) : Prop where
  prompt : Assigns unmarshalInt64 "prompt_tokens" m fields.promptTokens fields'.promptTokens
  completion : Assigns unmarshalInt64 "completion_tokens" m fields.completionTokens
    fields'.completionTokens
  total : Assigns unmarshalInt64 "total_tokens" m fields.totalTokens fields'.totalTokens
  cached : Assigns (fun _ value => unmarshalDetails "cached_tokens" value) "prompt_tokens_details" m
    fields.cachedTokens fields'.cachedTokens
  reasoning : Assigns (fun _ value => unmarshalDetails "reasoning_tokens" value)
    "completion_tokens_details" m fields.reasoningTokens fields'.reasoningTokens

theorem unmarshalMember_assigned {fields fields' : UsageFields} {m : Member}
    (assigned : unmarshalMember fields m = some fields') : Assigned fields fields' m := by
  unfold unmarshalMember at assigned
  split at assigned
  case h_6 =>
    cases assigned
    constructor <;> simp_all [Assigns]
  all_goals
    rename_i key
    obtain ⟨n, taken, rfl⟩ := Option.map_eq_some_iff.mp assigned
    constructor <;> simp [Assigns, key, taken]

section Fields
variable {raw : Bytes} {members : List Member} {fields : UsageFields}

/-- A field of the usage that is an integer. -/
theorem unmarshalUsage_stored {name : String} {field : UsageFields → Int64}
    (unique : UniqueKeys raw) (found : objectMembers raw = some members)
    (assigns : ∀ {s s' m}, unmarshalMember s m = some s' →
      Assigns unmarshalInt64 name m (field s) (field s'))
    (zero : field {} = 0) (decoded : unmarshalUsage raw = some fields) :
    Stored name members (field fields) := by
  rw [unmarshalUsage, found, Option.bind_some] at decoded
  rcases foldlM_field assigns (unique.members found).2.1 decoded with ⟨absent, same⟩ | ⟨value, one, taken⟩
  · exact .inl ⟨absent, same.trans zero⟩
  · rw [zero] at taken
    exact .inr ⟨value, one, unmarshalInt64_eq_some taken⟩

/-- A field that is one of its details. -/
theorem unmarshalUsage_storedWithin {details name : String} {field : UsageFields → Option Int64}
    (unique : UniqueKeys raw) (found : objectMembers raw = some members)
    (assigns : ∀ {s s' m}, unmarshalMember s m = some s' →
      Assigns (fun _ value => unmarshalDetails name value) details m (field s) (field s'))
    (none_ : field {} = none) (decoded : unmarshalUsage raw = some fields) :
    StoredWithin details name members ((field fields).getD 0) := by
  obtain ⟨_, distinct, each⟩ := unique.members found
  rw [unmarshalUsage, found, Option.bind_some] at decoded
  rcases foldlM_field assigns distinct decoded with ⟨absent, same⟩ | ⟨value, one, taken⟩
  · exact .inl ⟨absent, by rw [same, none_]; rfl⟩
  · have member : value ∈ valuesOf details members := by
      rw [one]
      exact List.mem_singleton_self value
    obtain ⟨m, within, rfl⟩ := List.mem_map.mp member
    refine .inr ⟨m.value, one, ?_⟩
    rcases unmarshalDetails_eq_some (each m (List.mem_of_mem_filter within)) taken with
      ⟨null, absent⟩ | ⟨inner, k, same, found, stored⟩
    · exact .inl ⟨null, by rw [absent]; rfl⟩
    · exact .inr ⟨inner, found, by rw [same]; exact stored⟩

theorem unmarshalUsage_vector (unique : UniqueKeys raw) (found : objectMembers raw = some members)
    (decoded : unmarshalUsage raw = some fields) : StoredVector members fields.vector where
  prompt := unmarshalUsage_stored unique found (fun same => (unmarshalMember_assigned same).prompt) rfl decoded
  completion :=
    unmarshalUsage_stored unique found (fun same => (unmarshalMember_assigned same).completion) rfl decoded
  total := unmarshalUsage_stored unique found (fun same => (unmarshalMember_assigned same).total) rfl decoded
  cached :=
    unmarshalUsage_storedWithin unique found (fun same => (unmarshalMember_assigned same).cached) rfl decoded
  reasoning := unmarshalUsage_storedWithin unique found
    (fun same => (unmarshalMember_assigned same).reasoning) rfl decoded

end Fields

/-! ## Payloads -/

theorem vectorOf_cases (raw : Bytes) : (vectorOf raw).malformed = true ∨
    (trimSpaceBytes raw = utf8 "null" ∧ vectorOf raw = {}) ∨
    ((vectorOf raw).present = true ∧ ∃ fields, objectMembers (trimSpaceBytes raw) = some fields ∧
      UniqueKeys (trimSpaceBytes raw) ∧ StoredVector fields (vectorOf raw) ∧
      usageHasNegative (vectorOf raw) = false) := by
  unfold vectorOf
  dsimp only
  split
  · rename_i null
    exact .inr (.inl ⟨null, rfl⟩)
  · split
    · exact .inl rfl
    · rename_i unique
      split
      · exact .inl rfl
      · rename_i fields decoded
        obtain ⟨members, found, _⟩ := Option.bind_eq_some_iff.mp decoded
        have unique := uniqueKeys_object found (by simpa using unique)
        cases negative : usageHasNegative fields.vector with
        | true => exact .inl negative
        | false =>
          exact .inr (.inr ⟨rfl, members, found, unique, unmarshalUsage_vector unique found decoded, rfl⟩)

/-- A payload is refused, says nothing, or is accepted. -/
theorem parseUsagePayload_cases (payload : Bytes) : (parseUsagePayload payload).malformed = true ∨
    (Silent payload ∧ parseUsagePayload payload = {}) ∨
    ((parseUsagePayload payload).present = true ∧ Accepted payload (parseUsagePayload payload)) := by
  cases found : objectMembers payload with
  | none => exact .inl (parseUsagePayload_other found)
  | some members =>
    rw [parseUsagePayload_object found]
    cases values : usageValues members with
    | nil => exact .inr (.inl ⟨⟨members, found, .inl values⟩, rfl⟩)
    | cons raw more =>
      cases more with
      | cons _ _ => exact .inl rfl
      | nil =>
        dsimp only
        rcases vectorOf_cases raw with malformed | ⟨null, none_⟩ | ⟨present, fields, object, unique, stored, sign⟩
        · exact .inl malformed
        · exact .inr (.inl ⟨⟨members, found, .inr ⟨raw, values, null⟩⟩, none_⟩)
        · exact .inr (.inr ⟨present, members, raw, fields, found, values, object, unique, stored, sign⟩)

/-! ## Readers -/

/-- A reader that has its own way with a key that is there twice. -/
structure Reader where
  pick : List Bytes → Option Bytes
  pick_none : pick [] = none
  pick_one : ∀ value, pick [value] = some value

def firstWins : Reader := ⟨List.head?, rfl, fun _ => rfl⟩

def lastWins : Reader := ⟨List.getLast?, rfl, fun _ => rfl⟩

namespace Reader

def readInt64 (reader : Reader) (name : String) (members : List Member) : Option Int64 :=
  match reader.pick (valuesOf name members) with
  | none => some 0
  | some value => unmarshalInt64 0 value

def readDetail (reader : Reader) (details name : String) (members : List Member) : Option Int64 :=
  match reader.pick (valuesOf details members) with
  | none => some 0
  | some value =>
    if value = utf8 "null" then some 0
    else (objectMembers value).bind fun members => reader.readInt64 name members

/-- The vector this reader reads. -/
def read (reader : Reader) (payload : Bytes) : Option Usage := do
  let members ← objectMembers payload
  let raw ← reader.pick (usageValues members)
  let fields ← objectMembers (trimSpaceBytes raw)
  let prompt ← reader.readInt64 "prompt_tokens" fields
  let completion ← reader.readInt64 "completion_tokens" fields
  let total ← reader.readInt64 "total_tokens" fields
  let cached ← reader.readDetail "prompt_tokens_details" "cached_tokens" fields
  let reasoning ← reader.readDetail "completion_tokens_details" "reasoning_tokens" fields
  return ⟨true, false, prompt, completion, total, cached, reasoning⟩

end Reader

theorem null_spells {value : ℤ} : ¬Spells (utf8 "null") value := by
  rintro ⟨⟨_, digits⟩, _⟩
  exact absurd digits (by decide)

theorem object_given {value : Bytes} {members : List Member} (found : objectMembers value = some members) :
    value ≠ utf8 "null" := by
  rintro rfl
  have noObject : objectMembers (utf8 "null") = none := by decide
  rw [noObject] at found
  cases found

theorem stored_read {name : String} {members : List Member} {n : Int64} (reader : Reader)
    (stored : Stored name members n) : reader.readInt64 name members = some n := by
  unfold Reader.readInt64
  rcases stored with ⟨absent, rfl⟩ | ⟨value, one, null | spells⟩
  · rw [absent, reader.pick_none]
  · rw [one, reader.pick_one, null.1, null.2]
    rfl
  · have given : value ≠ utf8 "null" := by
      rintro rfl
      exact null_spells spells
    rw [one, reader.pick_one]
    dsimp only
    rw [unmarshalInt64, if_neg given, parseInt64_eq_some.mpr spells]

theorem storedWithin_read {details name : String} {members : List Member} {n : Int64} (reader : Reader)
    (stored : StoredWithin details name members n) : reader.readDetail details name members = some n := by
  unfold Reader.readDetail
  rcases stored with ⟨absent, rfl⟩ | ⟨value, one, null | ⟨inner, found, stored⟩⟩
  · rw [absent, reader.pick_none]
  · rw [one, reader.pick_one, null.1, null.2]
    rfl
  · rw [one, reader.pick_one]
    dsimp only
    rw [if_neg (object_given found), found, Option.bind_some]
    exact stored_read reader stored

/-- Every reader reads what was accepted. -/
theorem accepted_read {payload : Bytes} {usage : Usage} (reader : Reader) (accepted : Accepted payload usage)
    (present : usage.present = true) (sound : usage.malformed = false) :
    reader.read payload = some usage := by
  obtain ⟨members, raw, fields, found, one, object, _, stored, _⟩ := accepted
  simp only [Reader.read, Option.bind_eq_bind, found, one, object, Option.bind_some, reader.pick_one,
    stored_read reader stored.prompt, stored_read reader stored.completion,
    stored_read reader stored.total, storedWithin_read reader stored.cached,
    storedWithin_read reader stored.reasoning]
  rw [← present, ← sound]
  rfl

/-! ## Doubtful payloads -/

/-- No integer from zero on is spelled here that a field can hold. -/
def Unfit (value : Bytes) : Prop := ∀ n : Int64, 0 ≤ n → ¬Spells value n.toInt

/-- A value for which no field of a vector may answer. -/
inductive UnfitField (members : List Member) : Prop
  | integer {name : String} {value : Bytes}
      (field : name ∈ ["prompt_tokens", "completion_tokens", "total_tokens"])
      (stored : value ∈ valuesOf name members) (given : value ≠ utf8 "null") (unfit : Unfit value)
  | noDetails {details : String} {value : Bytes}
      (field : details ∈ ["prompt_tokens_details", "completion_tokens_details"])
      (stored : value ∈ valuesOf details members) (given : value ≠ utf8 "null")
      (noObject : objectMembers value = none)
  | detail {details name : String} {value element : Bytes} {inner : List Member}
      (field : (details, name) ∈ [("prompt_tokens_details", "cached_tokens"),
        ("completion_tokens_details", "reasoning_tokens")])
      (stored : value ∈ valuesOf details members) (found : objectMembers value = some inner)
      (within : element ∈ valuesOf name inner) (given : element ≠ utf8 "null") (unfit : Unfit element)

/-- A payload whose usage cannot be told. -/
inductive Doubtful (payload : Bytes) : Prop
  /-- It is no object, or there is something behind the object. -/
  | noObject (none_ : objectMembers payload = none)
  | twice {members : List Member} (found : objectMembers payload = some members)
      (several : 2 ≤ (usageValues members).length)
  | usage {members : List Member} {raw : Bytes} (found : objectMembers payload = some members)
      (one : usageValues members = [raw]) (given : trimSpaceBytes raw ≠ utf8 "null")
      (doubt : objectMembers (trimSpaceBytes raw) = none ∨ ¬UniqueKeys (trimSpaceBytes raw) ∨
        ∃ fields, objectMembers (trimSpaceBytes raw) = some fields ∧ UnfitField fields)

theorem stored_fit {name : String} {members : List Member} {n : Int64} {value : Bytes}
    (stored : Stored name members n) (sign : 0 ≤ n) (member : value ∈ valuesOf name members)
    (given : value ≠ utf8 "null") : ¬Unfit value := by
  intro unfit
  rcases stored with ⟨absent, _⟩ | ⟨other, one, held⟩
  · rw [absent] at member
    cases member
  · rw [one, List.mem_singleton] at member
    subst member
    rcases held with ⟨null, _⟩ | spells
    · exact given null
    · exact unfit n sign spells

theorem storedWithin_fit {details name : String} {members : List Member} {n : Int64} {value : Bytes}
    (stored : StoredWithin details name members n) (member : value ∈ valuesOf details members)
    (given : value ≠ utf8 "null") :
    ∃ inner, objectMembers value = some inner ∧ Stored name inner n := by
  rcases stored with ⟨absent, _⟩ | ⟨other, one, held⟩
  · rw [absent] at member
    cases member
  · rw [one, List.mem_singleton] at member
    subst member
    rcases held with ⟨null, _⟩ | within
    · exact absurd null given
    · exact within

/-- What is stored and not negative fits. -/
theorem storedVector_fit {members : List Member} {usage : Usage} (stored : StoredVector members usage)
    (sign : usageHasNegative usage = false) : ¬UnfitField members := by
  simp only [usageHasNegative, Bool.or_eq_false_iff, decide_eq_false_iff_not, Int64.not_lt] at sign
  obtain ⟨⟨⟨⟨prompt, completion⟩, total⟩, cached⟩, reasoning⟩ := sign
  intro unfit
  cases unfit with
  | integer field member given unfit =>
    simp only [List.mem_cons, List.not_mem_nil, or_false] at field
    rcases field with rfl | rfl | rfl
    · exact stored_fit stored.prompt prompt member given unfit
    · exact stored_fit stored.completion completion member given unfit
    · exact stored_fit stored.total total member given unfit
  | noDetails field member given noObject =>
    simp only [List.mem_cons, List.not_mem_nil, or_false] at field
    rcases field with rfl | rfl
    · obtain ⟨inner, found, _⟩ := storedWithin_fit stored.cached member given
      rw [noObject] at found
      cases found
    · obtain ⟨inner, found, _⟩ := storedWithin_fit stored.reasoning member given
      rw [noObject] at found
      cases found
  | detail field member found within given unfit =>
    have some_ := object_given found
    simp only [List.mem_cons, List.not_mem_nil, or_false, Prod.mk.injEq] at field
    rcases field with ⟨rfl, rfl⟩ | ⟨rfl, rfl⟩
    · obtain ⟨inner, found', held⟩ := storedWithin_fit stored.cached member some_
      cases found.symm.trans found'
      exact stored_fit held cached within given unfit
    · obtain ⟨inner, found', held⟩ := storedWithin_fit stored.reasoning member some_
      cases found.symm.trans found'
      exact stored_fit held reasoning within given unfit

theorem silent_certain {payload : Bytes} (silent : Silent payload) : ¬Doubtful payload := by
  obtain ⟨members, found, values⟩ := silent
  intro doubtful
  cases doubtful with
  | noObject none_ =>
    rw [none_] at found
    cases found
  | twice found' several =>
    cases found.symm.trans found'
    rcases values with absent | ⟨raw, one, _⟩
    · rw [absent] at several
      exact absurd several (by decide)
    · rw [one] at several
      exact absurd several (by simp)
  | usage found' one given _ =>
    cases found.symm.trans found'
    rcases values with absent | ⟨raw, one', null⟩
    · rw [absent] at one
      cases one
    · cases one.symm.trans one'
      exact given null

theorem accepted_certain {payload : Bytes} {usage : Usage} (accepted : Accepted payload usage) :
    ¬Doubtful payload := by
  obtain ⟨members, raw, fields, found, one, object, unique, stored, sign⟩ := accepted
  intro doubtful
  cases doubtful with
  | noObject none_ =>
    rw [none_] at found
    cases found
  | twice found' several =>
    cases found.symm.trans found'
    rw [one] at several
    exact absurd several (by simp)
  | usage found' one' _ doubt =>
    cases found.symm.trans found'
    cases one.symm.trans one'
    rcases doubt with noObject | notUnique | ⟨fields', object', unfit⟩
    · rw [noObject] at object
      cases object
    · exact notUnique unique
    · cases object.symm.trans object'
      exact storedVector_fit stored sign unfit

/-- A vector that is present and not malformed is the one that every reader reads; a payload
that leaves a doubt is malformed; and of any other no vector is present. -/
theorem usage_unambiguous (payload : Bytes) :
    ((parseUsagePayload payload).present = true → (parseUsagePayload payload).malformed = false →
      Accepted payload (parseUsagePayload payload) ∧
        ∀ reader : Reader, reader.read payload = some (parseUsagePayload payload)) ∧
    (Doubtful payload → (parseUsagePayload payload).malformed = true) ∧
    ((parseUsagePayload payload).present = false → (parseUsagePayload payload).malformed = false →
      Silent payload ∧ parseUsagePayload payload = {}) := by
  rcases parseUsagePayload_cases payload with malformed | ⟨silent, none_⟩ | ⟨present, accepted⟩
  · refine ⟨fun _ sound => ?_, fun _ => malformed, fun _ sound => ?_⟩
    all_goals
      rw [malformed] at sound
      cases sound
  · refine ⟨fun present _ => ?_, fun doubtful => absurd doubtful (silent_certain silent), fun _ _ => ⟨silent, none_⟩⟩
    rw [none_] at present
    cases present
  · refine ⟨fun _ sound => ⟨accepted, fun reader => accepted_read reader accepted present sound⟩,
      fun doubtful => absurd doubtful (accepted_certain accepted), fun absent _ => ?_⟩
    rw [present] at absent
    cases absent

/-- A usage object with one field, written as it is given here. -/
def usagePayload (field : String) : Bytes :=
  leftBrace :: (utf8 "\"usage\":" ++ leftBrace :: (utf8 field ++ [rightBrace, rightBrace]))

theorem usage_unambiguous_total : Accepted (usagePayload "\"total_tokens\":5")
    (parseUsagePayload (usagePayload "\"total_tokens\":5")) ∧
    firstWins.read (usagePayload "\"total_tokens\":5") =
      lastWins.read (usagePayload "\"total_tokens\":5") := by
  obtain ⟨accepted, reads⟩ := (usage_unambiguous (usagePayload "\"total_tokens\":5")).1
    (by decide +kernel) (by decide +kernel)
  exact ⟨accepted, (reads firstWins).trans (reads lastWins).symm⟩

/-- A null is no integer, and yet a field that holds one is reported as zero. -/
theorem null_field_accepted : ¬∀ payload, (parseUsagePayload payload).present = true →
    (parseUsagePayload payload).malformed = false →
    ∃ members raw fields, objectMembers payload = some members ∧ usageValues members = [raw] ∧
      objectMembers (trimSpaceBytes raw) = some fields ∧
      (valuesOf "prompt_tokens" fields = [] ∧ (parseUsagePayload payload).promptTokens = 0 ∨
        ∃ value, valuesOf "prompt_tokens" fields = [value] ∧
          Spells value (parseUsagePayload payload).promptTokens.toInt) := by
  intro claimed
  obtain ⟨members, raw, fields, found, one, object, stored⟩ :=
    claimed (usagePayload "\"prompt_tokens\":null") (by decide +kernel) (by decide +kernel)
  have values : (objectMembers (usagePayload "\"prompt_tokens\":null")).map usageValues =
      some [leftBrace :: (utf8 "\"prompt_tokens\":null" ++ [rightBrace])] := by decide +kernel
  rw [found, Option.map_some, one] at values
  cases values
  have null : (objectMembers (trimSpaceBytes
      (leftBrace :: (utf8 "\"prompt_tokens\":null" ++ [rightBrace])))).map (valuesOf "prompt_tokens") =
      some [utf8 "null"] := by decide +kernel
  rw [object, Option.map_some, Option.some.injEq] at null
  rcases stored with ⟨absent, _⟩ | ⟨value, one, spells⟩
  · rw [null] at absent
    cases absent
  · cases null.symm.trans one
    exact null_spells spells

end AnselmGateway.UsageAcceptance
