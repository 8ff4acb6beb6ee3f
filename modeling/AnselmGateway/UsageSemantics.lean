import AnselmGateway.ChatUsage
import AnselmGateway.Foundation.Json.Bounds

/-! What is read of a response's usage: only the values of the top-level members that
answer to it, and of those only one. -/
namespace AnselmGateway.UsageSemantics
open Foundation Foundation.Json Billing ChatUsage

/-- A member whose key answers to the usage. -/
def isUsage (m : Member) : Bool := equalFold m.key "usage"

/-- The values of the members that do. -/
def usageValues (members : List Member) : List Bytes := (members.filter isUsage).map Member.value

/-- Which values they are is told by the keys and the values of the members. -/
theorem usageValues_eq (members : List Member) : usageValues members =
    ((members.map Member.pair).filter fun pair => equalFold pair.1 "usage").map Prod.snd := by
  rw [List.filter_map, List.map_map]
  rfl

theorem usageValues_pairs {left right : List Member}
    (pairs : left.map Member.pair = right.map Member.pair) : usageValues left = usageValues right := by
  rw [usageValues_eq, pairs, ← usageValues_eq]

/-! ## Extraction -/

theorem usageMember_other {raw : Option Bytes} {m : Member} (other : isUsage m = false) :
    usageMember raw m = .inl raw := by
  unfold isUsage at other
  simp [usageMember, other]

theorem usageMember_first {m : Member} (isUsage_ : isUsage m = true) :
    usageMember none m = .inl (some m.value) := by
  unfold isUsage at isUsage_
  simp [usageMember, isUsage_]

theorem usageMember_again {raw : Bytes} {m : Member} (isUsage_ : isUsage m = true) :
    usageMember (some raw) m = .inr true := by
  unfold isUsage at isUsage_
  simp [usageMember, isUsage_]

theorem fold_extracted (raw : Bytes) (members : List Member) :
    foldMembers usageMember (some raw) members =
      if usageValues members = [] then .inr (some raw) else .inl true := by
  induction members with
  | nil => rfl
  | cons m members ih =>
    rw [foldMembers]
    cases isUsage_ : isUsage m with
    | false =>
      rw [usageMember_other isUsage_, usageValues, List.filter_cons_of_neg (by simp [isUsage_])]
      exact ih
    | true =>
      rw [usageMember_again isUsage_, usageValues, List.filter_cons_of_pos isUsage_]
      rfl

theorem fold_usage (members : List Member) : foldMembers usageMember none members =
    match usageValues members with
    | [] => .inr none
    | [raw] => .inr (some raw)
    | _ => .inl true := by
  induction members with
  | nil => rfl
  | cons m members ih =>
    rw [foldMembers]
    cases isUsage_ : isUsage m with
    | false =>
      rw [usageMember_other isUsage_, usageValues, List.filter_cons_of_neg (by simp [isUsage_])]
      exact ih
    | true =>
      rw [usageMember_first isUsage_, usageValues, List.filter_cons_of_pos isUsage_, List.map_cons]
      dsimp only
      rw [fold_extracted, usageValues]
      cases (members.filter isUsage).map Member.value <;> rfl

/-- The extraction from an object. -/
theorem extractUsage_object {payload : Bytes} {members : List Member}
    (found : objectMembers payload = some members) : extractUsage payload =
      match usageValues members with
      | [] => .usage none
      | [raw] => .usage (some raw)
      | _ => .malformed true := by
  rw [extractUsage, overObject_eq found, fold_usage]
  split <;> rename_i same <;> split at same <;> cases same <;> rfl

/-- Only from an object is anything extracted. -/
theorem extractUsage_other {payload : Bytes} (found : objectMembers payload = none) :
    ∃ present, extractUsage payload = .malformed present := by
  unfold extractUsage
  split
  · exact ⟨_, rfl⟩
  · rename_i ran
    obtain ⟨members, some_⟩ := objectMembers_of_overObject ran
    rw [found] at some_
    cases some_

/-! ## The vector -/

/-- What is made of the one usage member. -/
def vectorOf (rawUsage : Bytes) : Usage :=
  let raw := trimSpaceBytes rawUsage
  if raw = utf8 "null" then {}
  else if !uniqueJSONKeys raw then { present := true, malformed := true }
  else match unmarshalUsage raw with
    | none => { present := true, malformed := true }
    | some fields => fields.vector

/-- The vector of an object is told by its usage members. -/
theorem parseUsagePayload_object {payload : Bytes} {members : List Member}
    (found : objectMembers payload = some members) : parseUsagePayload payload =
      match usageValues members with
      | [] => {}
      | [raw] => vectorOf raw
      | _ => { present := true, malformed := true } := by
  rw [parseUsagePayload, extractUsage_object found]
  split <;> rename_i same <;> split at same <;> cases same <;> rfl

theorem parseUsagePayload_other {payload : Bytes} (found : objectMembers payload = none) :
    (parseUsagePayload payload).malformed = true := by
  obtain ⟨present, extracted⟩ := extractUsage_other found
  rw [parseUsagePayload, extracted]

/-- Objects with the same usage members have the same vector. -/
theorem parseUsagePayload_congr {left right : Bytes} {members members' : List Member}
    (found : objectMembers left = some members) (found' : objectMembers right = some members')
    (same : usageValues members = usageValues members') :
    parseUsagePayload left = parseUsagePayload right := by
  rw [parseUsagePayload_object found, parseUsagePayload_object found', same]

end AnselmGateway.UsageSemantics
