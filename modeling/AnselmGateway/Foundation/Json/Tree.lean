import AnselmGateway.Foundation.Utf8

/-! JSON values as trees, and what `json.Unmarshal` makes of one. An object keeps its
members in order; of two under one name the later counts, and `null` leaves what it is
read into as it was. -/
namespace AnselmGateway.Foundation.Json

/-- A JSON value. -/
inductive Tree where
  | null
  | bool (value : Bool)
  | number (literal : Bytes)
  | string (text : String)
  | array (elements : List Tree)
  | object (members : List (String × Tree))

abbrev Fields := List (String × Tree)

/-- The value under a name. -/
def Fields.get? (name : String) : Fields → Option Tree
  | [] => none
  | (key, value) :: rest => (Fields.get? name rest).or (if key = name then some value else none)

/-- No name but these. -/
def Fields.only (allowed : List String) (fields : Fields) : Bool :=
  fields.all fun field => decide (field.1 ∈ allowed)

/-- `json.Unmarshal` into a string. -/
def Tree.intoString (old : String) : Tree → Option String
  | .null => some old
  | .string text => some text
  | _ => none

/-- `json.Unmarshal` into a map of raw messages. -/
def Tree.intoMap : Tree → Option Fields
  | .null => some []
  | .object members => some members
  | _ => none

/-- `json.Unmarshal` into a slice. -/
def Tree.intoSlice : Tree → Option (List Tree)
  | .null => some []
  | .array elements => some elements
  | _ => none

/-! ## Structs -/

/-- A string field of a struct: a key that folds to its name counts. -/
def Fields.text (name : String) : Fields → String → Option String
  | [], old => some old
  | (key, value) :: rest, old =>
    if equalFold key name then (value.intoString old).bind (Fields.text name rest)
    else Fields.text name rest old

/-- A raw field of a struct. -/
def Fields.raw (name : String) : Fields → Option Tree
  | [] => none
  | (key, value) :: rest => (Fields.raw name rest).or (if equalFold key name then some value else none)

/-- A member that is left out when it has nothing. -/
def optionalField (name : String) (value : Option Tree) : Fields := (value.map fun v => (name, v)).toList

/-- `omitempty` of a string. -/
def nonempty (text : String) : Option Tree := if text = "" then none else some (.string text)

/-! ## Lookups -/

section Lookups
variable {name key : String} {value : Tree} {fields rest : Fields}

@[simp] theorem get?_nil : Fields.get? name [] = none := rfl

theorem only_iff {allowed : List String} :
    Fields.only allowed fields = true ↔ ∀ field ∈ fields, field.1 ∈ allowed := by
  simp [Fields.only]

/-- A struct reads its own optional field back, whatever other fields stand behind. -/
theorem text_apart (apart : ∀ field ∈ fields, equalFold field.1 name = false) (old : String) :
    Fields.text name fields old = some old := by
  induction fields with
  | nil => rfl
  | cons field rest ih =>
    obtain ⟨key, held⟩ := field
    rw [Fields.text, apart _ List.mem_cons_self, if_neg Bool.false_ne_true]
    exact ih fun other mem => apart other (List.mem_cons_of_mem _ mem)

theorem raw_apart (apart : ∀ field ∈ fields, equalFold field.1 name = false) :
    Fields.raw name fields = none := by
  induction fields with
  | nil => rfl
  | cons field rest ih =>
    obtain ⟨key, held⟩ := field
    rw [Fields.raw, apart _ List.mem_cons_self, if_neg Bool.false_ne_true]
    rw [ih fun other mem => apart other (List.mem_cons_of_mem _ mem)]
    rfl

theorem text_append (front : Fields) (old : String) :
    Fields.text name (front ++ rest) old = (Fields.text name front old).bind (Fields.text name rest) := by
  induction front generalizing old with
  | nil => rfl
  | cons field front ih =>
    obtain ⟨key, held⟩ := field
    rw [List.cons_append, Fields.text, Fields.text]
    split
    · cases held.intoString old with
      | none => rfl
      | some text => exact ih text
    · exact ih old

theorem raw_append (front : Fields) :
    Fields.raw name (front ++ rest) = (Fields.raw name rest).or (Fields.raw name front) := by
  induction front with
  | nil => simp [Fields.raw]
  | cons field front ih =>
    obtain ⟨key, held⟩ := field
    rw [List.cons_append, Fields.raw, Fields.raw, ih, Option.or_assoc]

theorem text_optional (text : String) :
    Fields.text name (optionalField name (nonempty text)) "" = some text := by
  unfold nonempty
  split
  · rename_i empty
    rw [empty]
    rfl
  · simp [optionalField, Fields.text, Tree.intoString, equalFold]

theorem raw_optional (value : Option Tree) :
    Fields.raw name (optionalField name value) = value := by
  cases value with
  | none => rfl
  | some value => simp [optionalField, Fields.raw, equalFold]

theorem optional_apart {other : String} (apart : equalFold name other = false) (value : Option Tree) :
    ∀ field ∈ optionalField name value, equalFold field.1 other = false := by
  intro field mem
  cases value with
  | none => cases mem
  | some value =>
    cases List.mem_singleton.mp mem
    exact apart

end Lookups

end AnselmGateway.Foundation.Json
