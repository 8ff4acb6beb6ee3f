import AnselmGateway.ChatRelay
import AnselmGateway.ResponseModelSemantics
import Mathlib.Data.List.Forall2
import Mathlib.Logic.Relation

/-! What a client sees of a relayed stream: the rewriting of its first lines, of which
none names the provider's model, and nothing behind the sentinel. The relay reads of a
line only its rewriting and whether it is the sentinel, so two streams that differ in
nothing else are relayed alike. -/
namespace AnselmGateway.RelayTranscript
open Foundation Foundation.Json ResponseModel ResponseModelSemantics ChatUsage ChatRelay

/-! ## Lines -/

/-- The name of the data field and the blanks around it. -/
def DataHead (head : Bytes) : Prop :=
  ∃ indent blanks : Bytes, indent.all isIndent = true ∧ blanks.all isBlank = true ∧
    head = indent ++ (utf8 "data:" ++ blanks)

/-- A data field that holds the sentinel. -/
def Sentinel (line : Bytes) : Prop :=
  ∃ head payload, DataHead head ∧ line = head ++ payload ∧ trimSpaceBytes payload = utf8 "[DONE]"

/-- What a line may be, and what the client gets for it. -/
inductive Passes (publicModelID : String) : Bytes → Bytes → Prop
  | blank {line : Bytes} (all : line.all isIndent = true) : Passes publicModelID line line
  | comment {indent text : Bytes} (all : indent.all isIndent = true) :
      Passes publicModelID (indent ++ colon :: text) [colon]
  | sentinel {line : Bytes} (sentinel : Sentinel line) : Passes publicModelID line line
  | object {head payload out : Bytes} (isHead : DataHead head)
      (rewritten : rewriteClientModelJSON payload publicModelID = some out)
      (isPublic : PublicObject publicModelID out) : Passes publicModelID (head ++ payload) (head ++ out)

theorem utf8_data : utf8 "data:" = [0x64, 0x61, 0x74, 0x61, 0x3A] := by decide

theorem utf8_done : utf8 "[DONE]" = [0x5B, 0x44, 0x4F, 0x4E, 0x45, 0x5D] := by decide

theorem takeWhile_stop {p : UInt8 → Bool} {front rest : Bytes} {c : UInt8} (all : front.all p = true)
    (stop : p c = false) : (front ++ c :: rest).takeWhile p = front := by
  rw [List.takeWhile_append_of_pos (List.all_eq_true.mp all),
    List.takeWhile_cons_of_neg (by simp [stop]), List.append_nil]

theorem takeWhile_stop_at {p : UInt8 → Bool} {front rest : Bytes} {c : UInt8} (stop : p c = false) :
    (front ++ c :: rest).takeWhile p = front.takeWhile p := by
  induction front with
  | nil => exact List.takeWhile_cons_of_neg (by simp [stop])
  | cons a front ih => rw [List.cons_append, List.takeWhile_cons, List.takeWhile_cons, ih]

theorem dropWhile_stop {p : UInt8 → Bool} {front rest : Bytes} {c : UInt8} (stop : p c = false) :
    (front ++ c :: rest).dropWhile p = front.dropWhile p ++ c :: rest := by
  induction front with
  | nil => exact List.dropWhile_cons_of_neg (by simp [stop])
  | cons a front ih =>
    rw [List.cons_append, List.dropWhile_cons, List.dropWhile_cons, ih]
    split <;> rfl

/-- A data field passes with its payload. -/
theorem rewriteClientModelSSELine_data {indent value : Bytes} (publicModelID : String)
    (all : indent.all isIndent = true) :
    rewriteClientModelSSELine (indent ++ (utf8 "data:" ++ value)) publicModelID =
      if trimSpaceBytes (value.dropWhile isBlank) = utf8 "[DONE]" then
        some (indent ++ (utf8 "data:" ++ value))
      else (rewriteClientModelJSON (value.dropWhile isBlank) publicModelID).map fun payload =>
        indent ++ (utf8 "data:" ++ value.takeWhile isBlank) ++ payload := by
  have front : (indent ++ (utf8 "data:" ++ value)).takeWhile isIndent = indent := by
    rw [utf8_data]
    exact takeWhile_stop all (by decide)
  have notBare : dropCR (utf8 "data:" ++ value) ≠ utf8 "data" := by
    intro bare
    have length := congrArg List.length bare
    have bareLength : (utf8 "data").length = 4 := by decide
    unfold dropCR at length
    rw [bareLength, utf8_data] at length
    cases value with
    | nil => exact absurd length (by decide)
    | cons c value =>
      split at length
      · simp at length
      · simp at length
  have data : (utf8 "data:").isPrefixOf (utf8 "data:" ++ value) = true :=
    List.isPrefixOf_iff_prefix.mpr (List.prefix_append _ _)
  have split := List.takeWhile_append_dropWhile (p := isBlank) (l := value)
  have length : indent.length + (utf8 "data:").length + (value.takeWhile isBlank).length =
      (indent ++ (utf8 "data:" ++ value.takeWhile isBlank)).length := by
    simp only [List.length_append, Nat.add_assoc]
  have whole : indent ++ (utf8 "data:" ++ value) =
      indent ++ (utf8 "data:" ++ value.takeWhile isBlank) ++ value.dropWhile isBlank := by
    conv_lhs => rw [← split]
    simp only [List.append_assoc]
  unfold rewriteClientModelSSELine
  rw [front]
  dsimp only
  rw [List.drop_left, if_neg (by rw [utf8_data]; nofun), if_neg notBare, data, if_neg (by decide),
    List.drop_left, length, whole, List.drop_left, List.take_left]
  split
  · rfl
  · cases rewriteClientModelJSON (value.dropWhile isBlank) publicModelID with
    | none => rfl
    | some payload =>
      dsimp only [Option.map_some]
      split
      · rename_i same
        rw [same]
      · rfl

/-- Every line that is fit for the client is one of these. -/
theorem rewriteClientModelSSELine_passes {line out : Bytes} {publicModelID : String}
    (fit : rewriteClientModelSSELine line publicModelID = some out) : Passes publicModelID line out := by
  have split := List.takeWhile_append_dropWhile (p := isIndent) (l := line)
  have indent_ : (line.takeWhile isIndent).all isIndent = true := List.all_takeWhile
  generalize line.takeWhile isIndent = indent at split indent_
  by_cases data : utf8 "data:" <+: line.dropWhile isIndent
  · obtain ⟨value, field⟩ := data
    rw [← field] at split
    subst split
    have payload := List.takeWhile_append_dropWhile (p := isBlank) (l := value)
    have isHead : DataHead (indent ++ (utf8 "data:" ++ value.takeWhile isBlank)) :=
      ⟨indent, _, indent_, List.all_takeWhile, rfl⟩
    have whole : indent ++ (utf8 "data:" ++ value) =
        indent ++ (utf8 "data:" ++ value.takeWhile isBlank) ++ value.dropWhile isBlank := by
      conv_lhs => rw [← payload]
      simp only [List.append_assoc]
    rw [rewriteClientModelSSELine_data publicModelID indent_] at fit
    split at fit
    · rename_i done
      cases fit
      exact .sentinel ⟨_, _, isHead, whole, done⟩
    · obtain ⟨out', rewritten, rfl⟩ := Option.map_eq_some_iff.mp fit
      rw [whole]
      exact .object isHead rewritten (rewriteClientModelJSON_public rewritten)
  · have field : line.drop (line.takeWhile isIndent).length = line.dropWhile isIndent := by
      have dropped := congrArg (List.drop (line.takeWhile isIndent).length)
        (List.takeWhile_append_dropWhile (p := isIndent) (l := line))
      rw [List.drop_left] at dropped
      exact dropped.symm
    unfold rewriteClientModelSSELine at fit
    dsimp only at fit
    rw [field] at fit
    split at fit
    · rename_i empty
      rw [empty, List.append_nil] at split
      cases fit
      subst split
      exact .blank indent_
    · split at fit
      · cases fit
      · split at fit
        · split at fit
          · rename_i comment_
            cases fit
            obtain ⟨text, field⟩ := List.head?_eq_some_iff.mp comment_
            rw [field] at split
            subst split
            exact .comment indent_
          · cases fit
        · rename_i prefix_
          simp only [Bool.not_eq_true', Bool.not_eq_false, List.isPrefixOf_iff_prefix] at prefix_
          exact absurd prefix_ data

/-! ## The sentinel -/

theorem all_isSpace1 {p : UInt8 → Bool} {spaces : Bytes} (narrow : ∀ c, p c = true → isSpace1 c = true)
    (all : spaces.all p = true) : spaces.all isSpace1 = true :=
  List.all_eq_true.mpr fun c member => narrow c (List.all_eq_true.mp all c member)

theorem isIndent_isSpace1 (c : UInt8) (indent : isIndent c = true) : isSpace1 c = true := by
  simp only [isIndent, Bool.or_eq_true, decide_eq_true_eq] at indent
  rcases indent with (rfl | rfl) | rfl <;> decide

theorem isBlank_isSpace1 (c : UInt8) (blank : isBlank c = true) : isSpace1 c = true := by
  simp only [isBlank, Bool.or_eq_true, decide_eq_true_eq] at blank
  rcases blank with rfl | rfl <;> decide

theorem isSpace_isSpace1 (c : UInt8) (space : Json.isSpace c = true) : isSpace1 c = true := by
  simp only [Json.isSpace, Bool.or_eq_true, decide_eq_true_eq] at space
  rcases space with ((rfl | rfl) | rfl) | rfl <;> decide

/-- The relay takes every sentinel for one. -/
theorem isDONE_sentinel {line : Bytes} (sentinel : Sentinel line) : isDONE line = true := by
  obtain ⟨_, payload, ⟨indent, blanks, indent_, blanks_, rfl⟩, rfl, done⟩ := sentinel
  obtain ⟨word, bracketed⟩ : ∃ word : Bytes, utf8 "[DONE]" = 0x5B :: (word ++ [0x5D]) :=
    ⟨[0x44, 0x4F, 0x4E, 0x45], utf8_done⟩
  rw [bracketed] at done
  obtain ⟨before, after, rfl, left, right⟩ := trimSpaceBytes_eq (by decide) (by decide) done
  have line : indent ++ (utf8 "data:" ++ blanks) ++ (before ++ 0x5B :: (word ++ 0x5D :: after)) =
      indent ++ 0x64 :: ([0x61, 0x74, 0x61, 0x3A] ++ blanks ++ before ++ 0x5B :: word ++ 0x5D :: after) := by
    rw [utf8_data]
    simp
  have trimmed : trimSpaceBytes
      (indent ++ (utf8 "data:" ++ blanks) ++ (before ++ 0x5B :: (word ++ 0x5D :: after))) =
      utf8 "data:" ++ (blanks ++ (before ++ 0x5B :: (word ++ [0x5D]))) := by
    rw [line, trimSpaceBytes, trimLeftBytes_spaces (all_isSpace1 isIndent_isSpace1 indent_) (by decide),
      ← List.cons_append, right, utf8_data]
    simp
  have payload : trimSpaceBytes (blanks ++ (before ++ 0x5B :: (word ++ [0x5D]))) = utf8 "[DONE]" := by
    have dropped : trimLeftBytes (blanks ++ (before ++ 0x5B :: (word ++ [0x5D]))) =
        trimLeftBytes (before ++ 0x5B :: (word ++ [0x5D])) :=
      dropSpaces_spaces (all_isSpace1 isBlank_isSpace1 blanks_)
    rw [trimSpaceBytes, dropped, left, ← List.cons_append, trimRightBytes_concat (by decide), bracketed]
    rfl
  have data (rest : Bytes) : (utf8 "data:").isPrefixOf (utf8 "data:" ++ rest) = true :=
    List.isPrefixOf_iff_prefix.mpr (List.prefix_append _ _)
  unfold isDONE
  rw [trimmed]
  dsimp only
  rw [data, List.drop_left, payload]
  rfl

/-- A comment is none, whatever it says. -/
theorem isDONE_comment {indent text : Bytes} (all : indent.all isIndent = true) :
    isDONE (indent ++ colon :: text) = false := by
  have trims : ∃ kept, kept <+: text ∧ trimSpaceBytes (indent ++ colon :: text) = colon :: kept :=
    trimSpaceBytes_firm (all_isSpace1 isIndent_isSpace1 all) (by decide)
  obtain ⟨kept, _, trimmed⟩ := trims
  simp only [isDONE, trimmed, utf8_data]
  rfl

theorem trimSpaceBytes_object {spaces rest : Bytes} (all : spaces.all Json.isSpace = true) :
    trimSpaceBytes (spaces ++ leftBrace :: rest) ≠ utf8 "[DONE]" := by
  obtain ⟨kept, _, trimmed⟩ : ∃ kept, kept <+: rest ∧ _ :=
    trimSpaceBytes_firm (all_isSpace1 isSpace_isSpace1 all) (show Firm leftBrace by decide)
  rw [trimmed, utf8_done]
  intro same
  exact absurd (List.cons.inj same).1 (by decide)

/-- An object is none. -/
theorem isDONE_object {indent spaces rest : Bytes} (all : indent.all isIndent = true)
    (spaces_ : spaces.all Json.isSpace = true) :
    isDONE (indent ++ (utf8 "data:" ++ (spaces ++ leftBrace :: rest))) = false := by
  obtain ⟨kept, _, right⟩ := trimRightBytes_firm (show Firm leftBrace by decide) rest
  have line : indent ++ (utf8 "data:" ++ (spaces ++ leftBrace :: rest)) =
      indent ++ 0x64 :: ([0x61, 0x74, 0x61, 0x3A] ++ spaces ++ leftBrace :: rest) := by
    rw [utf8_data]
    simp
  have trimmed : trimSpaceBytes (indent ++ (utf8 "data:" ++ (spaces ++ leftBrace :: rest))) =
      utf8 "data:" ++ (spaces ++ leftBrace :: kept) := by
    rw [line, trimSpaceBytes, trimLeftBytes_spaces (all_isSpace1 isIndent_isSpace1 all) (by decide),
      ← List.cons_append, right, utf8_data]
    simp
  unfold isDONE
  rw [trimmed]
  dsimp only
  rw [List.drop_left, beq_false_of_ne (trimSpaceBytes_object spaces_), Bool.and_false]

/-! ## Transcripts -/

/-- All that the relay reads of a line: what the client gets for it, if anything, and
whether it is the sentinel. -/
def view (publicModelID : String) (line : Bytes) : Option (Bytes × Bool) :=
  (rewriteClientModelSSELine line publicModelID).map fun out => (out, isDONE line)

/-- What becomes of the client. -/
def replay (fails : Failures) : List (Option (Bytes × Bool)) → Client → Client
  | [], c => c
  | none :: _, c => c
  | some (out, done) :: views, c =>
    match c.write fails out with
    | (false, c) => c
    | (true, c) =>
      match c.write fails [newline] with
      | (false, c) => c
      | (true, c) => if done then c else replay fails views c

/-- Lines as they are sent. -/
def sent (outs : List Bytes) : Bytes := outs.flatMap fun out => out ++ [newline]

/-- The bytes are the rewriting of the first of these lines, up to the sentinel and to
the first that is not fit; of the last of them, as much as the client took. -/
def Relays (fails : Failures) (publicModelID : String) (lines : List Bytes) (bytes : Bytes) : Prop :=
  ∃ read outs, read <+: lines ∧
    List.Forall₂ (fun line out => rewriteClientModelSSELine line publicModelID = some out) read outs ∧
    (∀ line ∈ read.dropLast, isDONE line = false) ∧
    sent outs.dropLast <+: bytes ∧ bytes <+: sent outs ∧
    ((∀ write, fails write = none) → bytes = sent outs)

section Relay
variable {fails : Failures} {publicModelID : String}

theorem relayLines_client {failed tooLong : Bool} {lines : List (Bytes × Bool)} {r : Relayed}
    (open_ : r.terminal = false) :
    (relayLines fails publicModelID failed tooLong lines r).client =
      replay fails ((lines.map Prod.fst).map (view publicModelID)) r.client := by
  induction lines generalizing r with
  | nil =>
    rw [relayLines]
    split <;> rfl
  | cons head lines ih =>
    obtain ⟨line, ended⟩ := head
    rw [relayLines, List.map_cons, List.map_cons, view]
    cases rewriteClientModelSSELine line publicModelID with
    | none => rfl
    | some out =>
      simp only [Option.map_some, replay, Relayed.merge]
      cases done : isDONE line with
      | true =>
        simp only [if_true]
        cases r.client.write fails out with
        | mk ok c =>
          cases ok with
          | false => rfl
          | true =>
            dsimp only
            cases c.write fails [newline] with
            | mk ok c =>
              cases ok with
              | false => rfl
              | true => cases ended <;> cases failed <;> rfl
      | false =>
        simp only [Bool.false_eq_true, if_false]
        cases r.client.write fails out with
        | mk ok c =>
          cases ok with
          | false => rfl
          | true =>
            dsimp only
            cases c.write fails [newline] with
            | mk ok c =>
              cases ok with
              | false => rfl
              | true =>
                dsimp only
                rw [if_neg (by rw [open_]; decide)]
                exact ih open_

theorem relay_client (body : Stream) (client : Client) :
    (relay fails publicModelID body client).client =
      replay fails (((body.scan maxTokenSize).lines.map Prod.fst).map (view publicModelID)) client :=
  relayLines_client rfl

theorem write_cases (fails : Failures) (p : Bytes) (c : Client) :
    (fails c.writes = none ∧
      c.write fails p = (true, { c with body := c.body ++ p, writes := c.writes + 1 })) ∨
    ∃ n, fails c.writes = some n ∧
      c.write fails p = (false, { c with body := c.body ++ p.take n, writes := c.writes + 1 }) := by
  unfold Client.write
  cases fails c.writes with
  | none => exact .inl ⟨rfl, rfl⟩
  | some n => exact .inr ⟨n, rfl, rfl⟩

theorem Relays.onward {line out bytes : Bytes} {lines : List Bytes}
    (fit : rewriteClientModelSSELine line publicModelID = some out) (more : isDONE line = false)
    (relays : Relays fails publicModelID lines bytes) :
    Relays fails publicModelID (line :: lines) (out ++ [newline] ++ bytes) := by
  obtain ⟨read, outs, front, rewritten, before, low, high, whole⟩ := relays
  refine ⟨line :: read, out :: outs, List.cons_prefix_cons.mpr ⟨rfl, front⟩, .cons fit rewritten,
    ?_, ?_, ?_, fun wrote => ?_⟩
  · intro earlier member
    cases rewritten with
    | nil => exact absurd member List.not_mem_nil
    | cons _ _ =>
      rw [List.dropLast_cons_cons] at member
      rcases List.mem_cons.mp member with rfl | member
      · exact more
      · exact before earlier member
  · cases rewritten with
    | nil => exact List.nil_prefix
    | cons _ _ =>
      rw [List.dropLast_cons_cons, sent, List.flatMap_cons]
      exact (List.prefix_append_right_inj _).mpr low
  · rw [sent, List.flatMap_cons]
    exact (List.prefix_append_right_inj _).mpr high
  · rw [whole wrote, sent, sent, List.flatMap_cons]

/-- The client of a relay has the rewriting of the first lines. -/
theorem replay_relays (lines : List Bytes) (c : Client) : ∃ bytes,
    (replay fails (lines.map (view publicModelID)) c).body = c.body ++ bytes ∧
      Relays fails publicModelID lines bytes := by
  induction lines generalizing c with
  | nil =>
    refine ⟨[], (List.append_nil _).symm, [], [], List.prefix_refl [], .nil, nofun, List.prefix_refl [],
      List.prefix_refl [], fun _ => rfl⟩
  | cons line lines ih =>
    rw [List.map_cons, view]
    cases fit : rewriteClientModelSSELine line publicModelID with
    | none =>
      exact ⟨[], (List.append_nil _).symm, [], [], List.nil_prefix, .nil, nofun, List.prefix_refl [],
        List.prefix_refl [], fun _ => rfl⟩
    | some out =>
      have alone {bytes : Bytes} (front : bytes <+: out ++ [newline])
          (whole : (∀ write, fails write = none) → bytes = out ++ [newline]) :
          Relays fails publicModelID (line :: lines) bytes :=
        ⟨[line], [out], List.cons_prefix_cons.mpr ⟨rfl, List.nil_prefix⟩, .cons fit .nil, nofun,
          List.nil_prefix, by simpa [sent] using front, by simpa [sent] using whole⟩
      rw [Option.map_some, replay]
      rcases write_cases fails out c with ⟨wrote, ok⟩ | ⟨n, broke, short⟩
      · rw [ok]
        dsimp only
        rcases write_cases fails [newline]
          { c with body := c.body ++ out, writes := c.writes + 1 } with ⟨ended, ok⟩ | ⟨n, broke, short⟩
        · rw [ok]
          dsimp only
          cases done : isDONE line with
          | true =>
            exact ⟨out ++ [newline], List.append_assoc .., alone (List.prefix_refl _) fun _ => rfl⟩
          | false =>
            rw [if_neg (by decide)]
            obtain ⟨bytes, body, relays⟩ := ih _
            exact ⟨out ++ [newline] ++ bytes, body.trans (by simp), relays.onward fit done⟩
        · rw [short]
          refine ⟨out ++ [newline].take n, List.append_assoc ..,
            alone ((List.prefix_append_right_inj _).mpr (List.take_prefix ..)) fun none_ => ?_⟩
          rw [none_] at broke
          cases broke
      · rw [short]
        refine ⟨out.take n, rfl,
          alone ((List.take_prefix ..).trans (List.prefix_append ..)) fun none_ => ?_⟩
        rw [none_] at broke
        cases broke

end Relay

/-! ## Two streams -/

/-- The lines differ in the text of a comment, or in the name of a top-level model. -/
inductive Altered : Bytes → Bytes → Prop
  | comment {indent left right : Bytes} (all : indent.all isIndent = true) :
      Altered (indent ++ colon :: left) (indent ++ colon :: right)
  | model {indent front left right rest : Bytes} (all : indent.all isIndent = true)
      (place : ModelPlace front) (isLeft : ModelString left) (isRight : ModelString right) :
      Altered (indent ++ (utf8 "data:" ++ (front ++ (left ++ rest))))
        (indent ++ (utf8 "data:" ++ (front ++ (right ++ rest))))

/-- The streams differ in nothing but comment texts and top-level model names. -/
def Alike (left right : Stream) : Prop :=
  List.Forall₂ (Relation.ReflTransGen Altered) (linesOf left.bytes) (linesOf right.bytes)

/-- Every line of the stream fits the relay's scanner. -/
def Bounded (s : Stream) : Prop := ∀ line ∈ rawLines s.bytes, line.length < maxTokenSize

section Altered
variable {publicModelID : String}

theorem rewriteClientModelSSELine_comment {indent text : Bytes} (all : indent.all isIndent = true) :
    rewriteClientModelSSELine (indent ++ colon :: text) publicModelID = some [colon] := by
  have front : (indent ++ colon :: text).takeWhile isIndent = indent := takeWhile_stop all (by decide)
  have notBare : dropCR (colon :: text) ≠ utf8 "data" := by
    have bare : utf8 "data" = [0x64, 0x61, 0x74, 0x61] := by decide
    rw [bare]
    unfold dropCR
    split
    · cases text with
      | nil => nofun
      | cons c text =>
        intro same
        exact absurd (List.cons.inj same).1 (by decide)
    · intro same
      exact absurd (List.cons.inj same).1 (by decide)
  have notData : (utf8 "data:").isPrefixOf (colon :: text) = false := by
    rw [utf8_data]
    rfl
  unfold rewriteClientModelSSELine
  rw [front]
  dsimp only
  rw [List.drop_left, if_neg (List.cons_ne_nil _ _), if_neg notBare, notData]
  rfl

/-- A model stands inside an object. -/
theorem modelPlace_brace {front : Bytes} (place : ModelPlace front) :
    ∃ spaces rest, spaces.all Json.isSpace = true ∧ front = spaces ++ leftBrace :: rest := by
  obtain ⟨before, m, found, _⟩ := place
  obtain ⟨dec, _, opened, _⟩ := objectMembers_eq_some.mp found
  obtain ⟨spaces, all, same, _⟩ := openObject_eq_some.mp opened
  rcases List.append_eq_append_iff.mp same with ⟨more, rfl, behind⟩ | ⟨more, rfl, behind⟩
  · cases more with
    | nil => exact absurd (List.cons.inj behind).1 (by decide)
    | cons c more =>
      obtain ⟨rfl, _⟩ := List.cons.inj behind
      rw [List.all_append, List.all_cons] at all
      simp [show Json.isSpace quote = false by decide] at all
  · cases more with
    | nil => exact absurd (List.cons.inj behind).1 (by decide)
    | cons c more =>
      obtain ⟨rfl, _⟩ := List.cons.inj behind
      exact ⟨spaces, more, all, rfl⟩

/-- The blanks before it make no difference. -/
theorem modelPlace_spaces {spaces front : Bytes} (all : spaces.all Json.isSpace = true)
    (place : ModelPlace (spaces ++ front)) : ModelPlace front := by
  obtain ⟨before, m, found, rest⟩ := place
  rw [List.append_assoc, objectMembers_spaces all] at found
  exact ⟨before, m, found, rest⟩

/-- An altered line looks to the relay as it did. -/
theorem view_altered {left right : Bytes} (altered : Altered left right) :
    view publicModelID left = view publicModelID right := by
  cases altered with
  | comment all =>
    rw [view, view, rewriteClientModelSSELine_comment all, rewriteClientModelSSELine_comment all,
      Option.map_some, Option.map_some, isDONE_comment all, isDONE_comment all]
  | @model indent front left right rest all place isLeft isRight =>
    obtain ⟨spaces, inner, spaces_, rfl⟩ := modelPlace_brace place
    have split := List.takeWhile_append_dropWhile (p := isBlank) (l := spaces)
    have blanks_ : (spaces.takeWhile isBlank).all Json.isSpace = true := by
      rw [← split, List.all_append, Bool.and_eq_true] at spaces_
      exact spaces_.1
    have spaces' : (spaces.dropWhile isBlank).all Json.isSpace = true := by
      rw [← split, List.all_append, Bool.and_eq_true] at spaces_
      exact spaces_.2
    have place' : ModelPlace (spaces.dropWhile isBlank ++ leftBrace :: inner) := by
      rw [← split, List.append_assoc] at place
      exact modelPlace_spaces blanks_ place
    have seen (literal : Bytes) : view publicModelID
        (indent ++ (utf8 "data:" ++ (spaces ++ leftBrace :: inner ++ (literal ++ rest)))) =
        (rewriteClientModelJSON (spaces.dropWhile isBlank ++ leftBrace :: inner ++ (literal ++ rest))
          publicModelID).map fun payload =>
            (indent ++ (utf8 "data:" ++ spaces.takeWhile isBlank) ++ payload, false) := by
      rw [List.append_assoc, List.cons_append, view, rewriteClientModelSSELine_data publicModelID all,
        dropWhile_stop (show isBlank leftBrace = false by decide),
        takeWhile_stop_at (show isBlank leftBrace = false by decide),
        if_neg (trimSpaceBytes_object spaces'), isDONE_object all spaces_, Option.map_map,
        List.append_assoc, List.cons_append]
      rfl
    rw [seen, seen, rewriteClientModelJSON_same publicModelID place' isLeft isRight]

theorem view_alike {left right : Bytes} (alike : Relation.ReflTransGen Altered left right) :
    view publicModelID left = view publicModelID right := by
  induction alike with
  | refl => rfl
  | tail _ altered ih => exact ih.trans (view_altered altered)

/-- Two streams that are alike give their clients the same. -/
theorem relay_alike {fails : Failures} {left right : Stream} (client : Client) (alike : Alike left right)
    (bounded : Bounded left) (bounded' : Bounded right) :
    (relay fails publicModelID left client).client = (relay fails publicModelID right client).client := by
  have views : (linesOf left.bytes).map (view publicModelID) =
      (linesOf right.bytes).map (view publicModelID) := by
    unfold Alike at alike
    generalize linesOf left.bytes = lines at alike
    generalize linesOf right.bytes = lines' at alike
    induction alike with
    | nil => rfl
    | cons same _ ih => rw [List.map_cons, List.map_cons, view_alike same, ih]
  rw [relay_client, relay_client, (scan_bounded bounded (by decide)).1,
    (scan_bounded bounded' (by decide)).1, views]

end Altered

/-- What a client is sent of a stream: the rewriting of its first lines, each blank, a
comment, the sentinel or an object that names the public model, with nothing behind the
sentinel; and of two streams within the scanner's bound that differ in nothing but
comment texts and model names, the same. -/
theorem relay_transcript (fails : Failures) (publicModelID : String) :
    (∀ body : Stream, ∃ read outs, read <+: linesOf body.bytes ∧
      List.Forall₂ (fun line out => rewriteClientModelSSELine line publicModelID = some out ∧
        Passes publicModelID line out) read outs ∧
      (∀ line ∈ read.dropLast, ¬Sentinel line) ∧
      sent outs.dropLast <+: (relay fails publicModelID body {}).client.body ∧
      (relay fails publicModelID body {}).client.body <+: sent outs ∧
      ((∀ write, fails write = none) → (relay fails publicModelID body {}).client.body = sent outs)) ∧
    ∀ left right : Stream, Alike left right → Bounded left → Bounded right →
      (relay fails publicModelID left {}).client.body = (relay fails publicModelID right {}).client.body := by
  constructor
  · intro body
    rw [relay_client]
    obtain ⟨bytes, same, read, outs, front, rewritten, before, low, high, whole⟩ : ∃ bytes,
        (replay fails (((body.scan maxTokenSize).lines.map Prod.fst).map (view publicModelID)) {}).body =
          [] ++ bytes ∧ _ := replay_relays _ {}
    rw [List.nil_append] at same
    rw [same]
    refine ⟨read, outs, front.trans scan_prefix, ?_, ?_, low, high, whole⟩
    · exact rewritten.imp fun line out fit => ⟨fit, rewriteClientModelSSELine_passes fit⟩
    · intro line member sentinel
      have notDone := before line member
      rw [isDONE_sentinel sentinel] at notDone
      cases notDone
  · intro left right alike bounded bounded'
    rw [relay_alike {} alike bounded bounded']

/-! ## Past the bound -/

/-- A comment that is longer than the scanner's buffer. -/
def longComment : Bytes := colon :: (List.replicate maxTokenSize 0x61 ++ [0x61])

/-- With it the relay breaks off before anything is sent. -/
def longStream : Stream := ⟨longComment ++ [newline], [], false⟩

def shortStream : Stream := ⟨[colon, newline], [], false⟩

theorem newline_notMem_longComment : newline ∉ longComment := by
  simp [longComment, newline, colon, List.mem_replicate]

theorem linesOf_longStream : linesOf longStream.bytes = [longComment] := by
  have cut : cutLines (longComment ++ [newline]) = ([longComment], []) := by
    rw [cutLines_front newline_notMem_longComment]
    simp [cutLines]
  have last : longComment.getLast? = some 0x61 := by
    rw [longComment, ← List.cons_append, List.getLast?_concat]
  have kept : dropCR longComment = longComment := by
    rw [dropCR, last]
    rfl
  rw [linesOf, rawLines, Stream.bytes, longStream, List.append_nil, cut]
  simp [kept]

/-- How long a comment is shows, once it is too long for the scanner. -/
theorem long_comment_shows : ¬∀ (fails : Failures) (publicModelID : String) (left right : Stream),
    Alike left right →
      (relay fails publicModelID left {}).client.body = (relay fails publicModelID right {}).client.body := by
  intro same
  have alike : Alike longStream shortStream := by
    have short : linesOf shortStream.bytes = [[colon]] := by decide
    have comments : Altered ([] ++ colon :: (List.replicate maxTokenSize 0x61 ++ [0x61]))
        ([] ++ colon :: []) := .comment rfl
    rw [Alike, linesOf_longStream, short]
    exact .cons (.single comments) .nil
  have long : maxTokenSize ≤ longComment.length := by
    rw [longComment, List.length_cons, List.length_append, List.length_replicate]
    omega
  have stopped : longStream.scan maxTokenSize = ⟨[], true⟩ :=
    scan_tooLong newline_notMem_longComment long rfl
  have nothing : (relay (fun _ => none) "anselm" longStream {}).client.body = [] := by
    rw [relay_client, stopped]
    rfl
  have something : (relay (fun _ => none) "anselm" shortStream {}).client.body = [colon, newline] := by
    decide
  have shown := same (fun _ => none) "anselm" longStream shortStream alike
  rw [nothing, something] at shown
  cases shown

/-- `data: {"model":"a"}`, with any one letter for the model. -/
def oneModel (letter : UInt8) : Stream :=
  ⟨utf8 "data:" ++ ([0x20, 0x7B, 0x22, 0x6D, 0x6F, 0x64, 0x65, 0x6C, 0x22, 0x3A] ++
    ([quote, letter, quote] ++ [rightBrace])) ++ [newline], [], false⟩

theorem relay_transcript_oneModel :
    (relay (fun _ => none) "anselm" (oneModel 0x61) {}).client.body =
      (relay (fun _ => none) "anselm" (oneModel 0x62) {}).client.body := by
  have named (letter : UInt8) (plain : 0x20 ≤ letter ∧ letter ≠ quote ∧ letter ≠ backslash)
      (valid : validUtf8 [quote, letter, quote] = true) : ModelString [quote, letter, quote] :=
    ⟨⟨[letter], .plain plain.1 plain.2.1 plain.2.2 .nil, rfl⟩, valid⟩
  have place : ModelPlace [0x20, 0x7B, 0x22, 0x6D, 0x6F, 0x64, 0x65, 0x6C, 0x22, 0x3A] :=
    ⟨[], ⟨"model", [colon, quote, quote, rightBrace], [quote, quote], [rightBrace]⟩,
      by decide +kernel, rfl, rfl, rfl⟩
  have lines (letter : UInt8) (is : letter = 0x61 ∨ letter = 0x62) :
      linesOf (oneModel letter).bytes =
        [[] ++ (utf8 "data:" ++ ([0x20, 0x7B, 0x22, 0x6D, 0x6F, 0x64, 0x65, 0x6C, 0x22, 0x3A] ++
          ([quote, letter, quote] ++ [rightBrace])))] := by
    rcases is with rfl | rfl <;> decide +kernel
  have bounded (letter : UInt8) (is : letter = 0x61 ∨ letter = 0x62) : Bounded (oneModel letter) := by
    rcases is with rfl | rfl <;> unfold Bounded <;> decide +kernel
  refine (relay_transcript (fun _ => none) "anselm").2 _ _ ?_ (bounded _ (.inl rfl)) (bounded _ (.inr rfl))
  rw [Alike, lines _ (.inl rfl), lines _ (.inr rfl)]
  exact .cons (.single (.model rfl place (named _ (by decide) (by decide)) (named _ (by decide) (by decide))))
    .nil

end AnselmGateway.RelayTranscript
