import AnselmGateway.Foundation.Bytes

/-! The redaction floor of `internal/pkg/logx`, under the JSON handler of `log/slog`. The handler
calls the floor on every attribute that is not a group, prints an error by its text and any other
value by its JSON encoding. Its attributes are resolved, and what it prints is kept as a tree. -/
namespace AnselmGateway.Redaction
open Foundation

/-! ## Values -/

/-- `reflect.Kind`, as far as the floor tells it. -/
inductive Kind where
  | struct
  | map
  | slice
  | array
  | other
  deriving DecidableEq

/-- What reflection finds: pointers and interfaces, down to a kind or to nil. -/
inductive Shape where
  | kind (k : Kind)
  | null
  | indirect (target : Shape)
  deriving DecidableEq

/-- A value under `slog.Any`: which methods its type has, what reflection finds, and what its error
text and its JSON encoding print. -/
structure GoValue where
  isError : Bool
  isStringer : Bool
  isTime : Bool
  shape : Shape
  errorText : String
  json : String
  deriving DecidableEq

/-- `slog.Value`, when it is no group: of a kind that prints as one token, or of `KindAny`. -/
inductive Value where
  | scalar (token : String)
  | any (value : Option GoValue)
  deriving DecidableEq

/-- `slog.Attr`. -/
inductive Attr where
  | leaf (key : String) (value : Value)
  | group (key : String) (members : List Attr)

/-- The attributes of a record, its time, level and message among them. -/
abbrev Record := List Attr

/-! ## The floor -/

def redactKeys : List String :=
  ["auth", "authorization", "proxy-authorization", "api_key", "dashscope_api_key", "x-api-key", "x-goog-api-key",
    "apikey", "key", "token", "password", "secret", "credential", "credentials", "cookie", "set-cookie",
    "dashboard_user", "prompt", "completion", "content", "messages", "image_url", "input_audio", "inline_data",
    "file_data", "fetch_path", "fetch_url", "media_url", "request_uri", "raw_query", "url", "uri", "body",
    "upstream_body", "raw"]

/-- `redactValue`, as a value and as it prints. -/
def redactValue : Value := .scalar "\"[REDACTED]\""

/-- `compositeAllowlist`. -/
def compositeAllowlist : List String := []

/-- `strings.HasSuffix`. -/
def hasSuffix (text ending : String) : Bool := ending.toList.isSuffixOf text.toList

/-- `isSensitiveKey`. -/
def isSensitiveKey (key : String) : Bool :=
  redactKeys.contains key || hasSuffix key "_api_key" || hasSuffix key "_password" || hasSuffix key "_secret"

/-- The kinds the JSON encoder renders field by field. -/
def Kind.byField : Kind → Bool
  | .struct | .map | .slice | .array => true
  | .other => false

/-- What is behind pointers and interfaces. -/
def Shape.byField : Shape → Bool
  | .kind k => k.byField
  | .null => false
  | .indirect target => target.byField

/-- `isComposite`. -/
def isComposite : Option GoValue → Bool
  | none => false
  | some v => if v.isError || v.isStringer || v.isTime then false else v.shape.byField

variable (beyond : Char → Char)

/-- A key as the floor reads it. -/
def folded (key : String) : String := toLower beyond (trimSpace key)

/-- A key the floor finds sensitive. -/
@[irreducible] def sensitive (key : String) : Bool := isSensitiveKey (folded beyond key)

/-- `redactAttr`, of the open groups and one attribute: the value it leaves under the key. -/
def redactAttr (_groups : List String) (key : String) (value : Value) : Value :=
  if sensitive beyond key then redactValue
  else
    match value with
    | .scalar token => .scalar token
    | .any v => if isComposite v && !compositeAllowlist.contains (folded beyond key) then redactValue else .any v

/-! ## The handler -/

/-- What a record prints. -/
inductive Printed where
  | text (key token : String)
  | group (key : String) (members : List Printed)

/-- What a value prints. -/
def Value.token : Value → String
  | .scalar token => token
  | .any none => "null"
  | .any (some v) => if v.isError then v.errorText else v.json

/-- What a group prints: nothing if it is empty, its members where it has no key. -/
def grouped (key : String) (printed : List Printed) : List Printed :=
  if printed.isEmpty then [] else if key = "" then printed else [.group key printed]

mutual

/-- `appendAttr`; an empty attribute prints nothing. -/
def appendAttr (groups : List String) : Attr → List Printed
  | .leaf key value =>
    let value := redactAttr beyond groups key value
    if key = "" ∧ value = .any none then [] else [.text key value.token]
  | .group key members =>
    grouped key (appendAttrs (if key = "" then groups else groups ++ [key]) members)

/-- `appendAttrs`. -/
def appendAttrs (groups : List String) : List Attr → List Printed
  | [] => []
  | a :: rest => appendAttr groups a ++ appendAttrs groups rest

end

/-- `Handle`. -/
def handle (record : Record) : List Printed := appendAttrs beyond [] record

/-! ## What is to be hidden -/

/-- A composite value that is no error, whatever methods its type has. -/
def GoValue.composite (v : GoValue) : Bool := !v.isError && v.shape.byField

/-- Two composites that differ only inside. -/
def Inside : Value → Value → Prop
  | .any (some v), .any (some w) => v.composite = true ∧ w = { v with errorText := w.errorText, json := w.json }
  | _, _ => False

mutual

/-- Two attributes that differ only in what is held under a sensitive key, where anything may stand
for anything, or inside composites. -/
def Alike : Attr → Attr → Prop
  | .leaf key v, .leaf key' w => key = key' ∧ (sensitive beyond key = true ∨ v = w ∨ Inside v w)
  | .group key members, .group key' members' => key = key' ∧ (sensitive beyond key = true ∨ AlikeAll members members')
  | .leaf key _, .group key' _ => key = key' ∧ sensitive beyond key = true
  | .group key _, .leaf key' _ => key = key' ∧ sensitive beyond key = true

def AlikeAll : List Attr → List Attr → Prop
  | [], [] => True
  | a :: rest, b :: rest' => Alike a b ∧ AlikeAll rest rest'
  | [], _ :: _ => False
  | _ :: _, [] => False

end

/-- A composite the floor lets through: its type has a `String` method, or is a time. -/
def exposed : Value → Bool
  | .any (some v) => v.composite && (v.isStringer || v.isTime)
  | _ => false

mutual

/-- No group stands under a sensitive key. -/
def ungrouped : Attr → Bool
  | .leaf _ _ => true
  | .group key members => !sensitive beyond key && ungroupedAll members

def ungroupedAll : List Attr → Bool
  | [] => true
  | a :: rest => ungrouped a && ungroupedAll rest

end

mutual

/-- Under a sensitive key stands nothing, or no group if `leaves` are fine there, and under no other
key an exposed composite. -/
def covered (leaves : Bool) : Attr → Bool
  | .leaf key v => if sensitive beyond key then leaves else !exposed v
  | .group key members => !sensitive beyond key && coveredAll leaves members

def coveredAll (leaves : Bool) : List Attr → Bool
  | [] => true
  | a :: rest => covered leaves a && coveredAll leaves rest

end

/-! ## Nothing hidden shows -/

variable {beyond} {leaves : Bool} {groups : List String} {key : String} {v w : Value} {a b : Attr}

theorem redactAttr_sensitive (hidden : sensitive beyond key = true) : redactAttr beyond groups key v = redactValue := by
  simp [redactAttr, hidden]

/-- Under a plain key a scalar stays. -/
theorem redactAttr_scalar (plain : sensitive beyond key = false) (token : String) :
    redactAttr beyond groups key (.scalar token) = .scalar token := by
  simp [redactAttr, plain]

theorem redactAttr_any (plain : sensitive beyond key = false) (value : Option GoValue) :
    redactAttr beyond groups key (.any value) = if isComposite value then redactValue else .any value := by
  simp [redactAttr, plain, compositeAllowlist]

/-- What is redacted prints one text. -/
theorem appendAttr_redacted (redacted : redactAttr beyond groups key v = redactValue) :
    appendAttr beyond groups (.leaf key v) = [.text key redactValue.token] := by
  rw [appendAttr, redacted]
  simp [redactValue]

/-- A composite the floor does not let through is redacted. -/
theorem redactAttr_inside (inside : Inside v w) (kept : exposed v = false) :
    redactAttr beyond groups key v = redactValue ∧ redactAttr beyond groups key w = redactValue := by
  cases hidden : sensitive beyond key with
  | true => exact ⟨redactAttr_sensitive hidden, redactAttr_sensitive hidden⟩
  | false =>
    match v, w, inside with
    | .any (some v), .any (some w), ⟨composite, same⟩ =>
      simp only [exposed, composite, Bool.true_and, Bool.or_eq_false_iff] at kept
      simp only [GoValue.composite, Bool.and_eq_true, Bool.not_eq_true'] at composite
      rw [same, redactAttr_any hidden, redactAttr_any hidden]
      simp [isComposite, kept, composite]

/-- One attribute that is no group. -/
theorem appendAttr_leaf_alike (safe : covered beyond leaves (.leaf key v) = true)
    (alike : sensitive beyond key = true ∨ v = w ∨ Inside v w) :
    appendAttr beyond groups (.leaf key w) = appendAttr beyond groups (.leaf key v) := by
  cases hidden : sensitive beyond key with
  | true => rw [appendAttr_redacted (redactAttr_sensitive hidden), appendAttr_redacted (redactAttr_sensitive hidden)]
  | false =>
    simp only [covered, hidden, Bool.false_eq_true, if_false, Bool.not_eq_true'] at safe
    rcases alike with held | rfl | inside
    · simp [hidden] at held
    · rfl
    · obtain ⟨first, second⟩ := @redactAttr_inside beyond groups key v w inside safe
      rw [appendAttr_redacted first, appendAttr_redacted second]

mutual

/-- One attribute, by the shapes of the two. -/
theorem appendAttr_alike (groups : List String) (a b : Attr) (safe : covered beyond leaves a = true)
    (other : leaves = true → ungrouped beyond b = true) (alike : Alike beyond a b) :
    appendAttr beyond groups b = appendAttr beyond groups a := by
  match a, b with
  | .leaf key v, .leaf key' w =>
    rw [Alike] at alike
    obtain ⟨rfl, alike⟩ := alike
    exact appendAttr_leaf_alike safe alike
  | .group key members, .group key' members' =>
    rw [Alike] at alike
    rw [covered, Bool.and_eq_true, Bool.not_eq_true'] at safe
    obtain ⟨rfl, hidden | alike⟩ := alike
    · rw [safe.1] at hidden
      cases hidden
    · have others : leaves = true → ungroupedAll beyond members' = true := by
        intro fine
        have whole := other fine
        rw [ungrouped, Bool.and_eq_true] at whole
        exact whole.2
      rw [appendAttr, appendAttr, appendAttrs_alike _ members members' safe.2 others alike]
  | .leaf key v, .group key' members =>
    rw [Alike] at alike
    obtain ⟨rfl, hidden⟩ := alike
    rw [covered, if_pos hidden] at safe
    have whole := other safe
    rw [ungrouped, hidden] at whole
    cases whole
  | .group key members, .leaf key' w =>
    rw [Alike] at alike
    rw [covered, alike.2] at safe
    cases safe

theorem appendAttrs_alike (groups : List String) (as bs : List Attr) (safe : coveredAll beyond leaves as = true)
    (other : leaves = true → ungroupedAll beyond bs = true) (alike : AlikeAll beyond as bs) :
    appendAttrs beyond groups bs = appendAttrs beyond groups as := by
  match as, bs with
  | [], [] => rfl
  | a :: rest, b :: rest' =>
    rw [AlikeAll] at alike
    rw [coveredAll, Bool.and_eq_true] at safe
    simp only [ungroupedAll, Bool.and_eq_true] at other
    rw [appendAttrs, appendAttrs, appendAttr_alike groups a b safe.1 (fun fine => (other fine).1) alike.1,
      appendAttrs_alike groups rest rest' safe.2 (fun fine => (other fine).2) alike.2]
  | [], _ :: _ => rw [AlikeAll] at alike; exact alike.elim
  | _ :: _, [] => rw [AlikeAll] at alike; exact alike.elim

end

/-! ## Everything else does -/

mutual

theorem alike_refl (a : Attr) : Alike beyond a a := by
  match a with
  | .leaf key v =>
    rw [Alike]
    exact ⟨rfl, .inr (.inl rfl)⟩
  | .group key members =>
    rw [Alike]
    exact ⟨rfl, .inr (alikeAll_refl members)⟩

theorem alikeAll_refl (as : List Attr) : AlikeAll beyond as as := by
  match as with
  | [] =>
    rw [AlikeAll]
    trivial
  | a :: rest =>
    rw [AlikeAll]
    exact ⟨alike_refl a, alikeAll_refl rest⟩

end

/-- Some other text. -/
def another (text : String) : String := text ++ "0"

theorem another_ne (text : String) : another text ≠ text := by
  intro same
  have longer := congrArg String.length same
  simp [another] at longer

theorem grouped_injective (key : String) : Function.Injective (grouped key) := by
  intro printed printed' same
  unfold grouped at same
  cases printed <;> cases printed' <;> by_cases empty : key = "" <;> simp_all

/-- A group prints no less if more is in it. -/
theorem grouped_length {printed printed' : List Printed} (key : String) (longer : printed.length ≤ printed'.length) :
    (grouped key printed).length ≤ (grouped key printed').length := by
  unfold grouped
  cases printed <;> cases printed' <;> by_cases empty : key = "" <;> simp_all

/-- No key at all is not sensitive. -/
theorem named_of_sensitive (hidden : sensitive beyond key = true) : key ≠ "" := by
  rintro rfl
  unfold sensitive at hidden
  revert hidden
  change isSensitiveKey "" = true → False
  decide

/-- A group under a sensitive key prints no text there. -/
theorem grouped_ne_text (hidden : sensitive beyond key = true) (printed : List Printed) (token : String) :
    grouped key printed ≠ [.text key token] := by
  unfold grouped
  rw [if_neg (named_of_sensitive hidden)]
  split <;> simp

/-- What stands under one key, where something of it shows, may be changed so that it shows. -/
theorem appendAttr_leaf_shows (plain : sensitive beyond key = false) (through : exposed v = true) :
    ∃ w, Inside v w ∧ ∀ groups, appendAttr beyond groups (.leaf key w) ≠ appendAttr beyond groups (.leaf key v) := by
  match v, through with
  | .any (some v), through =>
    simp only [exposed, GoValue.composite, Bool.and_eq_true, Bool.not_eq_true', Bool.or_eq_true] at through
    obtain ⟨⟨noError, byField⟩, kind⟩ := through
    refine ⟨.any (some { v with json := another v.json }), ⟨?_, rfl⟩, fun groups same => ?_⟩
    · simp [GoValue.composite, noError, byField]
    · rw [appendAttr, appendAttr, redactAttr_any plain, redactAttr_any plain] at same
      have spared (w : GoValue) (methods : w.isStringer = true ∨ w.isTime = true) : isComposite (some w) = false := by
        rcases methods with methods | methods <;> simp [isComposite, methods]
      rw [spared v kind, spared { v with json := another v.json } kind] at same
      simp [Value.token, noError, another_ne] at same

mutual

/-- One attribute changed: a leaf under a sensitive key to a group, a group there to a leaf, or an
exposed composite to another. -/
theorem appendAttr_shows (a : Attr) (fine : leaves = true → ungrouped beyond a = true)
    (uncovered : covered beyond leaves a = false) :
    ∃ b, Alike beyond a b ∧ (leaves = true → ungrouped beyond b = true) ∧
      ∀ groups, appendAttr beyond groups b ≠ appendAttr beyond groups a := by
  match a with
  | .leaf key v =>
    cases hidden : sensitive beyond key with
    | true =>
      rw [covered, if_pos hidden] at uncovered
      refine ⟨.group key [.leaf key v], ?_, ?_, fun groups same => ?_⟩
      · rw [Alike]
        exact ⟨rfl, hidden⟩
      · rw [uncovered]
        exact fun leaf => absurd leaf Bool.false_ne_true
      · rw [appendAttr_redacted (redactAttr_sensitive hidden), appendAttr] at same
        exact grouped_ne_text hidden _ _ same
    | false =>
      rw [covered, hidden] at uncovered
      obtain ⟨w, inside, differs⟩ := appendAttr_leaf_shows hidden (by simpa using uncovered)
      refine ⟨.leaf key w, ?_, fun _ => by rw [ungrouped], differs⟩
      rw [Alike]
      exact ⟨rfl, .inr (.inr inside)⟩
  | .group key members =>
    cases hidden : sensitive beyond key with
    | true =>
      refine ⟨.leaf key redactValue, ?_, fun _ => by rw [ungrouped], fun groups same => ?_⟩
      · rw [Alike]
        exact ⟨rfl, hidden⟩
      · rw [appendAttr_redacted (redactAttr_sensitive hidden), appendAttr] at same
        exact grouped_ne_text hidden _ _ same.symm
    | false =>
      rw [covered, hidden, Bool.not_false, Bool.true_and] at uncovered
      simp only [ungrouped, hidden, Bool.not_false, Bool.true_and] at fine
      obtain ⟨members', alike, fine', differs⟩ := appendAttrs_shows members fine uncovered
      refine ⟨.group key members', ?_, ?_, fun groups same => ?_⟩
      · rw [Alike]
        exact ⟨rfl, .inr alike⟩
      · simpa only [ungrouped, hidden, Bool.not_false, Bool.true_and] using fine'
      · rw [appendAttr, appendAttr] at same
        exact differs _ (grouped_injective key same)

theorem appendAttrs_shows (as : List Attr) (fine : leaves = true → ungroupedAll beyond as = true)
    (uncovered : coveredAll beyond leaves as = false) :
    ∃ bs, AlikeAll beyond as bs ∧ (leaves = true → ungroupedAll beyond bs = true) ∧
      ∀ groups, appendAttrs beyond groups bs ≠ appendAttrs beyond groups as := by
  match as with
  | [] => rw [coveredAll] at uncovered; cases uncovered
  | a :: rest =>
    rw [coveredAll, Bool.and_eq_false_iff] at uncovered
    simp only [ungroupedAll, Bool.and_eq_true] at fine
    rcases uncovered with first | others
    · obtain ⟨b, alike, fine', differs⟩ := appendAttr_shows a (fun leaf => (fine leaf).1) first
      refine ⟨b :: rest, ?_, fun leaf => ?_, fun groups same => ?_⟩
      · rw [AlikeAll]
        exact ⟨alike, alikeAll_refl rest⟩
      · rw [ungroupedAll, fine' leaf, (fine leaf).2, Bool.and_self]
      · rw [appendAttrs, appendAttrs] at same
        exact differs groups (List.append_cancel_right same)
    · obtain ⟨rest', alike, fine', differs⟩ := appendAttrs_shows rest (fun leaf => (fine leaf).2) others
      refine ⟨a :: rest', ?_, fun leaf => ?_, fun groups same => ?_⟩
      · rw [AlikeAll]
        exact ⟨alike_refl a, alike⟩
      · rw [ungroupedAll, (fine leaf).1, fine' leaf, Bool.and_self]
      · rw [appendAttrs, appendAttrs] at same
        exact differs groups (List.append_cancel_left same)

end

/-! ## A group under a sensitive key shows that it is one -/

variable (beyond)

mutual

/-- The groups under sensitive keys replaced by values. -/
def leafed : Attr → Attr
  | .leaf key v => .leaf key v
  | .group key members => if sensitive beyond key then .leaf key redactValue else .group key (leafedAll members)

def leafedAll : List Attr → List Attr
  | [] => []
  | a :: rest => leafed a :: leafedAll rest

end

variable {beyond}

mutual

theorem leafed_alike (a : Attr) : Alike beyond a (leafed beyond a) ∧ ungrouped beyond (leafed beyond a) = true := by
  match a with
  | .leaf key v =>
    rw [leafed, ungrouped]
    exact ⟨alike_refl _, rfl⟩
  | .group key members =>
    obtain ⟨alike, fine⟩ := leafedAll_alike members
    cases hidden : sensitive beyond key with
    | true =>
      rw [leafed, if_pos hidden, Alike, ungrouped]
      exact ⟨⟨rfl, hidden⟩, rfl⟩
    | false =>
      rw [leafed, hidden, if_neg Bool.false_ne_true, Alike, ungrouped, hidden, fine]
      exact ⟨⟨rfl, .inr alike⟩, rfl⟩

theorem leafedAll_alike (as : List Attr) :
    AlikeAll beyond as (leafedAll beyond as) ∧ ungroupedAll beyond (leafedAll beyond as) = true := by
  match as with
  | [] =>
    rw [leafedAll, AlikeAll, ungroupedAll]
    exact ⟨trivial, rfl⟩
  | a :: rest =>
    obtain ⟨alike, fine⟩ := leafed_alike a
    obtain ⟨others, fine'⟩ := leafedAll_alike rest
    rw [leafedAll, AlikeAll, ungroupedAll, fine, fine']
    exact ⟨⟨alike, others⟩, rfl⟩

end

mutual

/-- A value prints where a group might not, so that no group before it can make up for it. -/
theorem leafed_length (groups : List String) (a : Attr) :
    (appendAttr beyond groups a).length ≤ (appendAttr beyond groups (leafed beyond a)).length := by
  match a with
  | .leaf key v => simp only [leafed, Nat.le_refl]
  | .group key members =>
    rw [leafed]
    split
    · rename_i hidden
      rw [appendAttr_redacted (redactAttr_sensitive hidden), appendAttr]
      simp only [grouped, if_neg (named_of_sensitive hidden)]
      split <;> simp
    · rw [appendAttr, appendAttr]
      exact grouped_length key (leafedAll_length _ members)

theorem leafedAll_length (groups : List String) (as : List Attr) :
    (appendAttrs beyond groups as).length ≤ (appendAttrs beyond groups (leafedAll beyond as)).length := by
  match as with
  | [] => simp only [leafedAll, Nat.le_refl]
  | a :: rest =>
    rw [leafedAll, appendAttrs, appendAttrs, List.length_append, List.length_append]
    exact Nat.add_le_add (leafed_length groups a) (leafedAll_length groups rest)

end

mutual

theorem ungrouped_of_leafed (groups : List String) (a : Attr)
    (same : appendAttr beyond groups (leafed beyond a) = appendAttr beyond groups a) : ungrouped beyond a = true := by
  match a with
  | .leaf key v => rw [ungrouped]
  | .group key members =>
    cases hidden : sensitive beyond key with
    | true =>
      rw [leafed, if_pos hidden, appendAttr_redacted (redactAttr_sensitive hidden), appendAttr] at same
      exact absurd same.symm (grouped_ne_text hidden _ _)
    | false =>
      rw [leafed, hidden, if_neg Bool.false_ne_true, appendAttr, appendAttr] at same
      rw [ungrouped, hidden, ungroupedAll_of_leafed _ members (grouped_injective key same)]
      rfl

theorem ungroupedAll_of_leafed (groups : List String) (as : List Attr)
    (same : appendAttrs beyond groups (leafedAll beyond as) = appendAttrs beyond groups as) :
    ungroupedAll beyond as = true := by
  match as with
  | [] => rw [ungroupedAll]
  | a :: rest =>
    rw [leafedAll, appendAttrs, appendAttrs] at same
    have lengths := congrArg List.length same
    rw [List.length_append, List.length_append] at lengths
    have first := @leafed_length beyond groups a
    have others := @leafedAll_length beyond groups rest
    obtain ⟨same, same'⟩ := List.append_inj same (by omega)
    rw [ungroupedAll, ungrouped_of_leafed groups a same, ungroupedAll_of_leafed groups rest same']
    rfl

end

/-- Uncovered records print unlike some that differ from them only in what is to be hidden. -/
theorem handle_shows {record : Record} (uncovered : coveredAll beyond leaves record = false) :
    ∃ other, AlikeAll beyond record other ∧ (leaves = true → ungroupedAll beyond other = true) ∧
      handle beyond other ≠ handle beyond record := by
  by_cases fine : leaves = true → ungroupedAll beyond record = true
  · obtain ⟨other, alike, others, differs⟩ := appendAttrs_shows record fine uncovered
    exact ⟨other, alike, others, differs []⟩
  · obtain ⟨alike, others⟩ := @leafedAll_alike beyond record
    exact ⟨_, alike, fun _ => others, fun same => fine fun _ => ungroupedAll_of_leafed [] record same⟩

/-- A record prints as every other does that differs from it only in what is to be hidden, exactly
if it has nothing under a sensitive key and no composite with a `String` method. It prints so as
every other that has no group under a sensitive key exactly if it has none there itself, and no such
composite under another key. -/
theorem redaction_iff_covered (beyond : Char → Char) (record : Record) :
    ((∀ other, AlikeAll beyond record other → handle beyond other = handle beyond record) ↔
      coveredAll beyond false record = true) ∧
    ((∀ other, AlikeAll beyond record other → ungroupedAll beyond other = true →
        handle beyond other = handle beyond record) ↔ coveredAll beyond true record = true) := by
  refine ⟨⟨fun hidden => ?_, fun safe other alike => ?_⟩, fun hidden => ?_, fun safe other alike fine => ?_⟩
  · by_contra shows
    obtain ⟨other, alike, _, differs⟩ := handle_shows (Bool.eq_false_iff.mpr shows)
    exact differs (hidden other alike)
  · exact appendAttrs_alike [] record other safe (fun leaf => absurd leaf Bool.false_ne_true) alike
  · by_contra shows
    obtain ⟨other, alike, fine, differs⟩ := handle_shows (Bool.eq_false_iff.mpr shows)
    exact differs (hidden other alike (fine rfl))
  · exact appendAttrs_alike [] record other safe (fun _ => fine) alike

/-- A user in a sensitive group. -/
def userRecord (name : String) : Record := [.group "auth" [.leaf "user" (.scalar name)]]

/-- A token given as one text, and as a group. -/
def tokenRecord (token : String) : Record := [.leaf "token" (.scalar token)]

def tokenGroupRecord (owner : String) : Record := [.group "token" [.leaf "user" (.scalar owner)]]

/-- A struct whose type has a `String` method, by its JSON encoding. -/
def sessionRecord (json : String) : Record := [.leaf "session" (.any (some ⟨false, true, false, .kind .struct, "", json⟩))]

theorem group_and_stringer_shown :
    (AlikeAll id (userRecord "\"alice\"") (userRecord "\"bob\"") ∧
      handle id (userRecord "\"bob\"") ≠ handle id (userRecord "\"alice\"")) ∧
    (AlikeAll id (tokenRecord "\"abc\"") (tokenGroupRecord "\"alice\"") ∧
      handle id (tokenGroupRecord "\"alice\"") ≠ handle id (tokenRecord "\"abc\"")) ∧
    AlikeAll id (sessionRecord "[\"alice\"]") (sessionRecord "[\"bob\"]") ∧
      handle id (sessionRecord "[\"bob\"]") ≠ handle id (sessionRecord "[\"alice\"]") := by
  have auth : sensitive id "auth" = true := by
    unfold sensitive
    decide
  have token : sensitive id "token" = true := by
    unfold sensitive
    decide
  have user : sensitive id "user" = false := by
    unfold sensitive
    decide
  have plain : sensitive id "session" = false := by
    unfold sensitive
    decide
  refine ⟨⟨?_, ?_⟩, ⟨?_, ?_⟩, ?_, ?_⟩
  · simp [userRecord, AlikeAll, Alike, auth]
  · simp [handle, userRecord, appendAttrs, appendAttr, redactAttr_scalar user, grouped, Value.token]
  · simp [tokenRecord, tokenGroupRecord, AlikeAll, Alike, token]
  · simp only [handle, tokenRecord, tokenGroupRecord, appendAttrs, List.append_nil,
      appendAttr_redacted (redactAttr_sensitive token)]
    rw [appendAttr]
    exact grouped_ne_text token _ _
  · simp [sessionRecord, AlikeAll, Alike, Inside, GoValue.composite, Shape.byField, Kind.byField]
  · simp [handle, sessionRecord, appendAttrs, appendAttr, redactAttr_any plain, isComposite, Value.token]

end AnselmGateway.Redaction
