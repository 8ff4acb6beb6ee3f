import AnselmGateway.ModelSurgery
import AnselmGateway.RelayTranscript
import AnselmGateway.UsageSemantics

/-! Three functions read the same line: the one that rewrites it for the client, the one
that looks for the sentinel, and the one that reads its usage. They trim it differently,
but of a line that is relayed they see the same payload. -/
namespace AnselmGateway.LineReaders
open Foundation Foundation.Json Billing ResponseModel ResponseModelSemantics ChatUsage UsageSemantics
open ModelSurgery RelayTranscript

/-! ## Lines that are no object -/

/-- Nothing but spaces at the start of a line. -/
def Blank (line : Bytes) : Prop := line.all isIndent = true

/-- A comment line. -/
def Comment (line : Bytes) : Prop :=
  ∃ indent text, indent.all isIndent = true ∧ line = indent ++ colon :: text

theorem isDONE_blank {line : Bytes} (all : line.all isIndent = true) : isDONE line = false := by
  simp only [isDONE, trimSpaceBytes_blank (all_isSpace1 isIndent_isSpace1 all), utf8_data]
  rfl

theorem parseUsageSnapshotLine_blank {line : Bytes} (blank : Blank line) :
    parseUsageSnapshotLine line = {} := by
  simp only [parseUsageSnapshotLine, trimSpaceBytes_blank (all_isSpace1 isIndent_isSpace1 blank),
    utf8_data]
  rfl

theorem parseUsageSnapshotLine_comment {line : Bytes} (comment : Comment line) :
    parseUsageSnapshotLine line = {} := by
  obtain ⟨indent, text, all, rfl⟩ := comment
  obtain ⟨kept, _, trimmed⟩ : ∃ kept, kept <+: text ∧
      trimSpaceBytes (indent ++ colon :: text) = colon :: kept :=
    trimSpaceBytes_firm (all_isSpace1 isIndent_isSpace1 all) (by decide)
  simp only [parseUsageSnapshotLine, trimmed, utf8_data]
  rfl

/-- What is taken for the sentinel has no usage. -/
theorem parseUsageSnapshotLine_done {line : Bytes} (done : isDONE line = true) :
    parseUsageSnapshotLine line = {} := by
  simp only [isDONE, Bool.and_eq_true, beq_iff_eq] at done
  simp only [parseUsageSnapshotLine, done.1, done.2]
  rfl

/-! ## Objects -/

/-- The usage of a data field is that of its payload, where that is one object. -/
theorem parseUsageSnapshotLine_object {head payload : Bytes} {members : List Member}
    (isHead : DataHead head) (found : objectMembers payload = some members) :
    parseUsageSnapshotLine (head ++ payload) = parseUsagePayload payload := by
  obtain ⟨indent, blanks, indent_, blanks_, rfl⟩ := isHead
  obtain ⟨spaces, text, tail, spaces_, tail_, rfl, again⟩ := objectMembers_bounds found
  obtain ⟨members', pairs, found'⟩ := again [] rfl
  have indent1 := all_isSpace1 isIndent_isSpace1 indent_
  have blanks1 := all_isSpace1 isBlank_isSpace1 blanks_
  have spaces1 := all_isSpace1 isSpace_isSpace1 spaces_
  have tail1 := all_isSpace1 isSpace_isSpace1 tail_
  have line : indent ++ (utf8 "data:" ++ blanks) ++ (spaces ++ leftBrace :: (text ++ rightBrace :: tail)) =
      indent ++ 0x64 :: ([0x61, 0x74, 0x61, 0x3A] ++ blanks ++ spaces ++ leftBrace :: text ++
        rightBrace :: tail) := by
    rw [utf8_data]
    simp
  have trimmed : trimSpaceBytes
      (indent ++ (utf8 "data:" ++ blanks) ++ (spaces ++ leftBrace :: (text ++ rightBrace :: tail))) =
      utf8 "data:" ++ (blanks ++ spaces ++ leftBrace :: (text ++ [rightBrace])) := by
    rw [line, trimSpaceBytes_between indent1 tail1 (by decide) (by decide), utf8_data]
    simp
  have payload : trimSpaceBytes (blanks ++ spaces ++ leftBrace :: (text ++ [rightBrace])) =
      leftBrace :: (text ++ [rightBrace]) :=
    trimSpaceBytes_between (by rw [List.all_append, blanks1, spaces1]; rfl) rfl (by decide) (by decide)
  have data (rest : Bytes) : (utf8 "data:").isPrefixOf (utf8 "data:" ++ rest) = true :=
    List.isPrefixOf_iff_prefix.mpr (List.prefix_append _ _)
  have open_ : leftBrace :: (text ++ [rightBrace]) ≠ utf8 "[DONE]" := by
    rw [utf8_done]
    intro same
    exact absurd (List.cons.inj same).1 (by decide)
  unfold parseUsageSnapshotLine
  rw [trimmed]
  dsimp only
  rw [data, if_neg (by decide), List.drop_left, payload, if_neg open_]
  exact parseUsagePayload_congr found' found (usageValues_pairs pairs)

/-- Nor is such a field the sentinel. -/
theorem isDONE_payload {head payload : Bytes} {members : List Member} (isHead : DataHead head)
    (found : objectMembers payload = some members) : isDONE (head ++ payload) = false := by
  obtain ⟨indent, blanks, indent_, blanks_, rfl⟩ := isHead
  obtain ⟨spaces, text, tail, spaces_, _, rfl, _⟩ := objectMembers_bounds found
  have narrow : blanks.all Json.isSpace = true := List.all_eq_true.mpr fun c member => by
    have blank := List.all_eq_true.mp blanks_ c member
    simp only [isBlank, Bool.or_eq_true, decide_eq_true_eq] at blank
    rcases blank with rfl | rfl <;> decide
  have shape : indent ++ (utf8 "data:" ++ blanks) ++
      (spaces ++ leftBrace :: (text ++ rightBrace :: tail)) =
      indent ++ (utf8 "data:" ++ (blanks ++ spaces ++ leftBrace :: (text ++ rightBrace :: tail))) := by
    simp
  rw [shape, isDONE_object indent_ (by rw [List.all_append, narrow, spaces_]; rfl)]

/-- A member that answers to the usage is not the model. -/
theorem usageValues_renamed {publicModelID : String} {members members' : List Member}
    (pairs : members'.map Member.pair = members.map (renamed publicModelID)) :
    usageValues members' = usageValues members := by
  rw [usageValues_eq, pairs]
  clear pairs
  induction members with
  | nil => rfl
  | cons m members ih =>
    have apart : equalFold "model" "usage" = false := by decide
    rw [List.map_cons, renamed]
    by_cases spelled : m.key = "model"
    · have other : isUsage m = false := by rw [isUsage, spelled, apart]
      rw [if_pos spelled, List.filter_cons_of_neg (by simp [apart]), ih, usageValues, usageValues,
        List.filter_cons_of_neg (by simp [other])]
    · rw [if_neg spelled]
      cases isUsage_ : isUsage m with
      | false =>
        rw [List.filter_cons_of_neg (by simpa [Member.pair, isUsage] using isUsage_), ih, usageValues,
          usageValues, List.filter_cons_of_neg (by simp [isUsage_])]
      | true =>
        rw [List.filter_cons_of_pos (by simpa [Member.pair, isUsage] using isUsage_), List.map_cons, ih,
          usageValues, usageValues, List.filter_cons_of_pos isUsage_]
        rfl

/-- Rewriting the model leaves the usage alone. -/
theorem parseUsagePayload_rewritten {payload out : Bytes} {publicModelID : String}
    (rewrote : rewriteClientModelJSON payload publicModelID = some out) :
    parseUsagePayload out = parseUsagePayload payload := by
  obtain ⟨members, members', found, found', _, pairs, _⟩ := rewriteClientModelJSON_cut rewrote
  exact parseUsagePayload_congr found' found (usageValues_renamed pairs)

/-! ## The readers agree -/

section Agree
variable {line out : Bytes} {publicModelID : String}

/-- Of the lines that pass, those that are neither blank nor a comment nor the sentinel
are data fields that hold an object. -/
theorem passes_object (passes : Passes publicModelID line out) (notBlank : ¬Blank line)
    (notComment : ¬Comment line) (notSentinel : ¬Sentinel line) :
    ∃ head payload payload', DataHead head ∧ line = head ++ payload ∧ out = head ++ payload' ∧
      rewriteClientModelJSON payload publicModelID = some payload' := by
  cases passes with
  | blank all => exact absurd all notBlank
  | comment all => exact absurd ⟨_, _, all, rfl⟩ notComment
  | sentinel sentinel => exact absurd sentinel notSentinel
  | object isHead rewritten _ => exact ⟨_, _, _, isHead, rfl, rfl, rewritten⟩

theorem parseUsageSnapshotLine_rewritten {head payload payload' : Bytes} (isHead : DataHead head)
    (rewrote : rewriteClientModelJSON payload publicModelID = some payload') :
    parseUsageSnapshotLine (head ++ payload) = parseUsagePayload payload' ∧
      parseUsageSnapshotLine (head ++ payload') = parseUsagePayload payload' := by
  obtain ⟨members, members', found, found', _⟩ := rewriteClientModelJSON_cut rewrote
  rw [parseUsageSnapshotLine_object isHead found, parseUsageSnapshotLine_object isHead found',
    parseUsagePayload_rewritten rewrote]
  exact ⟨rfl, rfl⟩

/-- The relay passes for the sentinel exactly what it takes for it. -/
theorem isDONE_iff_sentinel (passes : Passes publicModelID line out) :
    isDONE line = true ↔ Sentinel line := by
  refine ⟨fun done => ?_, isDONE_sentinel⟩
  cases passes with
  | blank all =>
    rw [isDONE_blank all] at done
    cases done
  | comment all =>
    rw [isDONE_comment all] at done
    cases done
  | sentinel sentinel => exact sentinel
  | object isHead rewritten _ =>
    obtain ⟨members, _, found, _⟩ := rewriteClientModelJSON_cut rewritten
    rw [isDONE_payload isHead found] at done
    cases done

/-- The three readers of a line that is relayed agree on it. -/
theorem readers_agree (fit : rewriteClientModelSSELine line publicModelID = some out) :
    (Sentinel line ↔ isDONE line = true) ∧ (Sentinel line → out = line) ∧
    (Blank line ∨ Comment line ∨ Sentinel line → parseUsageSnapshotLine line = {}) ∧
    (¬(Blank line ∨ Comment line ∨ Sentinel line) → ∃ head payload payload', DataHead head ∧
      line = head ++ payload ∧ out = head ++ payload' ∧
      rewriteClientModelJSON payload publicModelID = some payload' ∧
      parseUsageSnapshotLine line = parseUsagePayload payload') ∧
    parseUsageSnapshotLine out = parseUsageSnapshotLine line ∧
    ∀ body data, rewriteClientModelJSON body publicModelID = some data →
      parseUsageSnapshotBody data = parseUsageSnapshotBody body := by
  have passes := rewriteClientModelSSELine_passes fit
  have sentinel := isDONE_iff_sentinel passes
  refine ⟨sentinel.symm, fun isSentinel => ?_, ?_, ?_, ?_, fun _ _ => parseUsagePayload_rewritten⟩
  · have done := sentinel.mpr isSentinel
    cases passes with
    | blank => rfl
    | comment all =>
      rw [isDONE_comment all] at done
      cases done
    | sentinel => rfl
    | object isHead rewritten _ =>
      obtain ⟨members, _, found, _⟩ := rewriteClientModelJSON_cut rewritten
      rw [isDONE_payload isHead found] at done
      cases done
  · rintro (blank | comment | isSentinel)
    · exact parseUsageSnapshotLine_blank blank
    · exact parseUsageSnapshotLine_comment comment
    · exact parseUsageSnapshotLine_done (sentinel.mpr isSentinel)
  · intro other
    simp only [not_or] at other
    obtain ⟨head, payload, payload', isHead, rfl, rfl, rewrote⟩ :=
      passes_object passes other.1 other.2.1 other.2.2
    exact ⟨head, payload, payload', isHead, rfl, rfl, rewrote,
      (parseUsageSnapshotLine_rewritten isHead rewrote).1⟩
  · cases passes with
    | blank => rfl
    | comment all =>
      rw [parseUsageSnapshotLine_comment ⟨_, _, all, rfl⟩]
      exact parseUsageSnapshotLine_comment ⟨[], [], rfl, rfl⟩
    | sentinel => rfl
    | object isHead rewrote _ =>
      obtain ⟨before, after⟩ := parseUsageSnapshotLine_rewritten isHead rewrote
      rw [before, after]

/-- A sentinel between spaces that only two of the readers skip. -/
theorem readers_agree_sentinel :
    parseUsageSnapshotLine (utf8 "data: \u00A0[DONE]\u000B") = {} ∧
      isDONE (utf8 "data: \u00A0[DONE]\u000B") = true := by
  have fit : rewriteClientModelSSELine (utf8 "data: \u00A0[DONE]\u000B") "m" =
      some (utf8 "data: \u00A0[DONE]\u000B") := by decide +kernel
  obtain ⟨sentinel, _, free, _⟩ := readers_agree fit
  have done : isDONE (utf8 "data: \u00A0[DONE]\u000B") = true := by decide +kernel
  exact ⟨free (.inr (.inr (sentinel.mpr done))), done⟩

end Agree

end AnselmGateway.LineReaders
