import AnselmGateway.ChatSaga
import AnselmGateway.RelayTranscript
import Mathlib.Data.List.Infix

/-! A stream that breaks off. The scanner gives what stands behind the last newline as
one more line, whether the stream ended there or failed, and the relay does not tell
the two apart before it has passed that line on. -/
namespace AnselmGateway.CutStream
open Foundation Billing Quota ResponseModel ChatUsage ChatRelay ChatSaga RelayTranscript
open Foundation.Json (leftBrace rightBrace)

/-- The lines that were received whole, their newline included. -/
def complete (body : Stream) : List Bytes := (cutLines body.bytes).1.map dropCR

/-- The lines that are given before the stream is read to its ending. -/
def early (body : Stream) : List Bytes := (cutLines body.text).1.map dropCR

/-- The lines that are given once it is. -/
def late (body : Stream) : List Bytes := linesOf ((cutLines body.text).2 ++ body.last)

/-- What was read of the line that was not completed. -/
def cut (body : Stream) : Bytes := (cutLines body.bytes).2

section Relay
variable (fails : Failures) (publicModelID : String)

/-- After so many writes the relay passes all these lines on and asks for more: each is
fit, none is the sentinel, and none of the writes fails. -/
def GoesPast (writes : ℕ) (lines : List Bytes) : Prop :=
  (∀ line ∈ lines, isDONE line = false ∧
    ∃ out, rewriteClientModelSSELine line publicModelID = some out) ∧
  ∀ i < 2 * lines.length, fails (writes + i) = none

/-- The relay comes to read the failure of the stream. -/
def ReadsFailure (body : Stream) : Prop :=
  (body.scan maxTokenSize).tooLong = false ∧ GoesPast fails publicModelID 0 (early body)

/-- Of a text and its newline the client takes at least one byte. -/
def Taken (writes : ℕ) (out : Bytes) : Prop :=
  match fails writes with
  | some n => out.take n ≠ []
  | none => out ≠ [] ∨ fails (writes + 1) ≠ some 0

/-- The relay comes to the line that was cut off, finds it fit, and the client takes
of it. -/
def CutRelayed (body : Stream) : Prop :=
  (body.scan maxTokenSize).tooLong = false ∧ cut body ≠ [] ∧
    GoesPast fails publicModelID 0 (complete body) ∧
    ∃ out, rewriteClientModelSSELine (dropCR (cut body)) publicModelID = some out ∧
      Taken fails (2 * (complete body).length) out

/-- Behind the failure the relay finds the sentinel, cannot write it, and the usage before
it has a cost that is not the quote. -/
def SentinelUnsent (body : Stream) (resv : Reservation) : Prop :=
  (body.scan maxTokenSize).tooLong = false ∧ ∃ before line after, late body = before ++ line :: after ∧
    GoesPast fails publicModelID 0 (early body ++ before) ∧ isDONE line = true ∧
    (∃ out, rewriteClientModelSSELine line publicModelID = some out) ∧
    (fails (2 * (early body ++ before).length) ≠ none ∨
      fails (2 * (early body ++ before).length + 1) ≠ none) ∧
    ∃ cost, resv.plan.cost (merged {} (early body ++ before ++ [line])) = .ok (some cost) ∧
      cost ≠ resv.reservedPUSD

end Relay

/-! ## Scans of a stream -/

section Scan
variable {body : Stream}

theorem bytes_cut : cutLines body.bytes = ((cutLines body.text).1 ++
    (cutLines ((cutLines body.text).2 ++ body.last)).1, cut body) := by
  have whole : cutLines (body.text ++ body.last) = _ := cutLines_append
  rw [cut, Stream.bytes, whole]

/-- Where no line is too long, the scanner gives first the early lines and then the late. -/
theorem scan_lines (fits : (body.scan maxTokenSize).tooLong = false) :
    (body.scan maxTokenSize).lines =
      ((early body).map fun line => (line, false)) ++ (late body).map fun line => (line, true) := by
  unfold Stream.scan at fits ⊢
  dsimp only at fits ⊢
  split at fits
  · cases fits
  · rename_i short
    rw [if_neg short]
    simp only [Bool.or_eq_true, decide_eq_true_eq, not_or, Nat.not_lt] at short
    have front : (cutLines body.text).1.takeWhile (fun line => line.length < maxTokenSize) <+:
        (cutLines body.text).1 := List.takeWhile_prefix _
    rw [front.eq_of_length (Nat.le_antisymm front.length_le short.1), early, late, List.map_map]
    rfl

/-- The late lines complete the complete ones, and end with the one that was cut. -/
theorem early_late : early body ++ late body =
    complete body ++ if cut body = [] then [] else [dropCR (cut body)] := by
  rw [early, late, complete, linesOf, rawLines, bytes_cut]
  have same : (cutLines ((cutLines body.text).2 ++ body.last)).2 = cut body := by
    have whole : cutLines (body.text ++ body.last) = _ := cutLines_append
    rw [cut, Stream.bytes, whole]
  dsimp only
  rw [same]
  split <;> simp

/-- Where a line is too long, only complete lines were given before. -/
theorem scan_complete (long : (body.scan maxTokenSize).tooLong = true) :
    (body.scan maxTokenSize).lines.map Prod.fst <+: complete body := by
  have front : (cutLines body.text).1.takeWhile (fun line => line.length < maxTokenSize) <+:
      (cutLines body.text).1 := List.takeWhile_prefix _
  unfold Stream.scan at long ⊢
  dsimp only at long ⊢
  split at long
  · rename_i stops
    rw [if_pos stops, List.map_map, complete, bytes_cut, List.map_append]
    exact (front.map dropCR).trans (List.prefix_append _ _)
  · cases long

theorem scan_firsts (fits : (body.scan maxTokenSize).tooLong = false) :
    (body.scan maxTokenSize).lines.map Prod.fst =
      complete body ++ if cut body = [] then [] else [dropCR (cut body)] := by
  rw [scan_lines fits, List.map_append, List.map_map, List.map_map, ← early_late]
  simp [Function.comp_def]

end Scan

/-! ## What the client has -/

section Client
variable {fails : Failures} {publicModelID : String}

theorem goesPast_cons {writes : ℕ} {line : Bytes} {lines : List Bytes} :
    GoesPast fails publicModelID writes (line :: lines) ↔
      (isDONE line = false ∧ ∃ out, rewriteClientModelSSELine line publicModelID = some out) ∧
        fails writes = none ∧ fails (writes + 1) = none ∧
        GoesPast fails publicModelID (writes + 2) lines := by
  have writes_ : (∀ i < 2 * (line :: lines).length, fails (writes + i) = none) ↔
      fails writes = none ∧ fails (writes + 1) = none ∧
        ∀ i < 2 * lines.length, fails (writes + 2 + i) = none := by
    rw [List.length_cons]
    constructor
    · intro all
      refine ⟨all 0 (by omega), all 1 (by omega), fun i small => ?_⟩
      rw [Nat.add_assoc]
      exact all (2 + i) (by omega)
    · rintro ⟨first, second, rest⟩ i small
      match i with
      | 0 => exact first
      | 1 => exact second
      | i + 2 =>
        have here := rest i (by omega)
        rwa [Nat.add_assoc, Nat.add_comm 2 i] at here
  unfold GoesPast
  rw [List.forall_mem_cons, writes_]
  constructor
  · rintro ⟨⟨here, rest⟩, first, second, writes⟩
    exact ⟨here, first, second, rest, writes⟩
  · rintro ⟨here, first, second, rest, writes⟩
    exact ⟨⟨here, rest⟩, first, second, writes⟩

theorem goesPast_append {writes : ℕ} {before after : List Bytes} :
    GoesPast fails publicModelID writes (before ++ after) ↔
      GoesPast fails publicModelID writes before ∧
        GoesPast fails publicModelID (writes + 2 * before.length) after := by
  induction before generalizing writes with
  | nil => simp [GoesPast]
  | cons line before ih =>
    have count : writes + 2 + 2 * before.length = writes + 2 * (before.length + 1) := by omega
    rw [List.cons_append, goesPast_cons, goesPast_cons, ih, List.length_cons, count]
    constructor
    · rintro ⟨here, first, second, past, rest⟩
      exact ⟨⟨here, first, second, past⟩, rest⟩
    · rintro ⟨⟨here, first, second, past⟩, rest⟩
      exact ⟨here, first, second, past, rest⟩

/-- What the client gets for these lines, where it gets all of it. -/
def outs (publicModelID : String) (lines : List Bytes) : List Bytes :=
  lines.filterMap fun line => rewriteClientModelSSELine line publicModelID

theorem outs_cons {line out : Bytes} (fit : rewriteClientModelSSELine line publicModelID = some out)
    (lines : List Bytes) : outs publicModelID (line :: lines) = out :: outs publicModelID lines :=
  List.filterMap_cons_some (f := fun line => rewriteClientModelSSELine line publicModelID) fit

theorem outs_eq {lines rewritten : List Bytes}
    (all : List.Forall₂ (fun line out => rewriteClientModelSSELine line publicModelID = some out)
      lines rewritten) : rewritten = outs publicModelID lines := by
  induction all with
  | nil => rfl
  | cons fit _ ih => rw [outs_cons fit, ih]

/-- Behind lines the relay goes past, it goes on with the rest. -/
theorem replay_past {lines : List Bytes} {c : Client}
    (past : GoesPast fails publicModelID c.writes lines) (more : List Bytes) :
    replay fails ((lines ++ more).map (view publicModelID)) c =
      replay fails (more.map (view publicModelID))
        { c with
          body := c.body ++ sent (outs publicModelID lines), writes := c.writes + 2 * lines.length } := by
  induction lines generalizing c with
  | nil => simp [sent, outs]
  | cons line lines ih =>
    obtain ⟨⟨notDone, out, fit⟩, first, second, past⟩ := goesPast_cons.mp past
    have count : c.writes + 1 + 1 + 2 * lines.length = c.writes + 2 * (lines.length + 1) := by omega
    rw [List.cons_append, List.map_cons, view, fit, Option.map_some, replay, notDone]
    simp only [Client.write, first, second, Bool.false_eq_true, if_false]
    have onward := ih (c := { c with body := c.body ++ out ++ [newline], writes := c.writes + 1 + 1 }) past
    rw [onward, List.length_cons, outs_cons fit]
    simp [sent, count]

/-- Where it does not go past them, it never looks at the rest. -/
theorem replay_stops {lines : List Bytes} {c : Client}
    (stops : ¬GoesPast fails publicModelID c.writes lines) (more : List Bytes) :
    replay fails ((lines ++ more).map (view publicModelID)) c =
      replay fails (lines.map (view publicModelID)) c := by
  induction lines generalizing c with
  | nil => exact absurd ⟨nofun, nofun⟩ stops
  | cons line lines ih =>
    rw [List.cons_append, List.map_cons, List.map_cons, view]
    cases fit : rewriteClientModelSSELine line publicModelID with
    | none => rfl
    | some out =>
      rw [Option.map_some, replay, replay]
      rcases write_cases fails out c with ⟨first, wrote⟩ | ⟨n, first, wrote⟩
      · rw [wrote]
        dsimp only
        rcases write_cases fails [newline] { c with body := c.body ++ out, writes := c.writes + 1 } with
          ⟨second, wrote⟩ | ⟨n, second, wrote⟩
        · rw [wrote]
          dsimp only
          cases done : isDONE line with
          | true => rfl
          | false =>
            rw [if_neg (by decide), if_neg (by decide)]
            apply ih
            intro past
            exact stops (goesPast_cons.mpr ⟨⟨done, out, fit⟩, first, second, past⟩)
        · rw [wrote]
      · rw [wrote]

/-- Of the last line the client has what it took. -/
theorem replay_last {line out : Bytes} {c : Client}
    (fit : rewriteClientModelSSELine line publicModelID = some out) :
    ∃ taken, (replay fails [view publicModelID line] c).body = c.body ++ taken ∧
      (taken ≠ [] ↔ Taken fails c.writes out) := by
  rw [view, fit, Option.map_some, replay]
  rcases write_cases fails out c with ⟨first, wrote⟩ | ⟨n, first, wrote⟩
  · rw [wrote]
    dsimp only
    rcases write_cases fails [newline] { c with body := c.body ++ out, writes := c.writes + 1 } with
      ⟨second, wrote⟩ | ⟨n, second, wrote⟩
    · rw [wrote]
      dsimp only at second ⊢
      refine ⟨out ++ [newline], ?_, ?_⟩
      · cases isDONE line <;> simp [replay]
      · simp [Taken, first, second]
    · rw [wrote]
      dsimp only at second ⊢
      refine ⟨out ++ [newline].take n, by rw [List.append_assoc], ?_⟩
      cases n with
      | zero => simp [Taken, first, second]
      | succ n => simp [Taken, first, second]
  · rw [wrote]
    exact ⟨out.take n, rfl, by rw [Taken, first]⟩

theorem relays_mono {lines more : List Bytes} {bytes : Bytes} (front : lines <+: more)
    (relays : Relays fails publicModelID lines bytes) : Relays fails publicModelID more bytes := by
  obtain ⟨read, outs, prefix_, rest⟩ := relays
  exact ⟨read, outs, prefix_.trans front, rest⟩

/-- More than the rewriting of all the lines is not the rewriting of some of them. -/
theorem not_relays {lines : List Bytes} {taken : Bytes} (more : taken ≠ []) :
    ¬Relays fails publicModelID lines (sent (outs publicModelID lines) ++ taken) := by
  rintro ⟨read, rewritten, front, all, _, _, high, _⟩
  rw [outs_eq all] at high
  have within : outs publicModelID read <+: outs publicModelID lines := front.filterMap _
  have bound : (sent (outs publicModelID lines) ++ taken).length ≤
      (sent (outs publicModelID lines)).length := (high.trans (within.flatMap _)).length_le
  rw [List.length_append] at bound
  have positive := List.length_pos_iff.mpr more
  omega

/-- The client has nothing but the rewriting of complete lines, unless it takes of the
line that was cut off. -/
theorem relays_iff {body : Stream} {client : Client} (empty : client.body = [])
    (fresh : client.writes = 0) :
    Relays fails publicModelID (complete body) (relay fails publicModelID body client).client.body ↔
      ¬CutRelayed fails publicModelID body := by
  have front (lines : List Bytes) : Relays fails publicModelID lines
      (replay fails (lines.map (view publicModelID)) client).body := by
    obtain ⟨bytes, same, relays⟩ : ∃ bytes, _ ∧ Relays fails publicModelID lines bytes :=
      replay_relays lines client
    rw [same, empty]
    exact relays
  rw [relay_client]
  cases long : (body.scan maxTokenSize).tooLong with
  | true =>
    refine ⟨fun _ crossed => ?_, fun _ => relays_mono (scan_complete long) (front _)⟩
    cases long.symm.trans crossed.1
  | false =>
    rw [scan_firsts long]
    by_cases past : GoesPast fails publicModelID 0 (complete body)
    · rw [← fresh] at past
      have whole : Relays fails publicModelID (complete body)
          (sent (outs publicModelID (complete body))) := by
        have all := front (complete body)
        rw [← List.append_nil (complete body), replay_past past] at all
        simpa [replay, empty] using all
      rw [replay_past past]
      by_cases none_ : cut body = []
      · rw [if_pos none_]
        refine ⟨fun _ crossed => crossed.2.1 none_, fun _ => ?_⟩
        simpa [replay, empty] using whole
      · rw [if_neg none_, List.map_singleton]
        cases fit : rewriteClientModelSSELine (dropCR (cut body)) publicModelID with
        | none =>
          refine ⟨fun _ crossed => ?_, fun _ => ?_⟩
          · obtain ⟨_, _, _, out, fit', _⟩ := crossed
            rw [fit] at fit'
            cases fit'
          · simpa [view, fit, replay, empty] using whole
        | some out =>
          obtain ⟨taken, same, took⟩ : ∃ taken, _ = _ ++ taken ∧ (taken ≠ [] ↔ _) :=
            replay_last (c := { client with body := client.body ++ sent (outs publicModelID (complete body)), writes := client.writes + 2 * (complete body).length }) fit
          rw [same, empty, List.nil_append]
          dsimp only at took
          rw [fresh, Nat.zero_add] at took
          constructor
          · rintro relays ⟨_, _, _, out', fit', taken'⟩
            rw [fit] at fit'
            cases fit'
            exact not_relays (took.mpr taken') relays
          · intro crossed
            have nothing : taken = [] := by
              by_contra more
              exact crossed ⟨long, none_, fresh ▸ past, out, fit, took.mp more⟩
            rw [nothing, List.append_nil]
            exact whole
    · refine ⟨fun _ crossed => past crossed.2.2.1, fun _ => ?_⟩
      rw [← fresh] at past
      rw [replay_stops past]
      exact front (complete body)

end Client

/-! ## What is settled -/

section Settle
variable {fails : Failures} {publicModelID : String} {body : Stream} {resv : Reservation}

/-- The sentinel is read behind lines the relay goes past. -/
theorem readsToDone_iff {failed broken : Bool} {writes : ℕ} {lines : List (Bytes × Bool)}
    {read : List Bytes} : ReadsToDone fails publicModelID failed writes lines read broken ↔
      ∃ before line ended after, lines = before ++ (line, ended) :: after ∧
        GoesPast fails publicModelID writes (before.map Prod.fst) ∧ isDONE line = true ∧
        (∃ out, rewriteClientModelSSELine line publicModelID = some out) ∧
        read = before.map Prod.fst ++ [line] ∧
        broken = (ended && failed && (fails (writes + 2 * before.length)).isNone &&
          (fails (writes + 2 * before.length + 1)).isNone) := by
  constructor
  · intro reads
    induction reads with
    | @sentinel writes line out ended lines done fit =>
      exact ⟨[], line, ended, lines, rfl, ⟨nofun, nofun⟩, done, ⟨out, fit⟩, rfl, rfl⟩
    | @onward writes line out ended broken lines read more fit wrote ended_ _ ih =>
      obtain ⟨before, last, ended', after, rfl, past, done, fit', rfl, rfl⟩ := ih
      refine ⟨(line, ended) :: before, last, ended', after, rfl,
        goesPast_cons.mpr ⟨⟨more, out, fit⟩, wrote, ended_, past⟩, done, fit', rfl, ?_⟩
      have count : writes + 2 + 2 * before.length = writes + 2 * (before.length + 1) := by omega
      rw [List.length_cons, count]
  · rintro ⟨before, line, ended, after, rfl, past, done, ⟨out, fit⟩, rfl, rfl⟩
    induction before generalizing writes with
    | nil => exact .sentinel done fit
    | cons head before ih =>
      obtain ⟨first, ended'⟩ := head
      obtain ⟨⟨more, out', fit'⟩, wrote, ended_, past⟩ := goesPast_cons.mp past
      have count : writes + 2 * (before.length + 1) = writes + 2 + 2 * before.length := by omega
      rw [List.length_cons, count]
      exact .onward more fit' wrote ended_ (ih past)

/-- In the terms of the relay's reading: it reads to the sentinel, does not learn that the
stream broke off, and trusts usage that costs something else than the quote. -/
theorem sentinelUnsent_iff (failed : body.failed = true)
    (reads : ReadsFailure fails publicModelID body) :
    SentinelUnsent fails publicModelID body resv ↔ ∃ read,
      ReadsToDone fails publicModelID body.failed 0 (body.scan maxTokenSize).lines read false ∧
      ∃ cost, resv.plan.cost (merged {} read) = .ok (some cost) ∧ cost ≠ resv.reservedPUSD := by
  have firsts (flag : Bool) (lines : List Bytes) :
      (lines.map fun line => (line, flag)).map Prod.fst = lines := by
    simp [Function.comp_def]
  rw [scan_lines reads.1, failed]
  constructor
  · rintro ⟨_, before, line, after, same, past, done, fit, unsent, priced⟩
    refine ⟨early body ++ before ++ [line], readsToDone_iff.mpr
      ⟨((early body).map fun line => (line, false)) ++ before.map fun line => (line, true), line, true,
        after.map fun line => (line, true), ?_, ?_, done, fit, ?_, ?_⟩, priced⟩
    · rw [same, List.map_append, List.map_cons, List.append_assoc]
    · rw [List.map_append, firsts, firsts]
      exact past
    · rw [List.map_append, firsts, firsts]
    · rw [List.length_append, List.length_map, List.length_map, ← List.length_append, Nat.zero_add]
      rcases unsent with unsent | unsent
      · rw [Option.isNone_eq_false_iff.mpr (Option.ne_none_iff_isSome.mp unsent)]
        simp
      · rw [Option.isNone_eq_false_iff.mpr (Option.ne_none_iff_isSome.mp unsent)]
        simp
  · rintro ⟨read, readsTo, priced⟩
    obtain ⟨before, line, ended, after, same, past, done, fit, rfl, broken⟩ := readsToDone_iff.mp readsTo
    -- the sentinel is none of the early lines, for the relay goes past those
    obtain ⟨before', rfl, behind⟩ : ∃ before', before = (early body).map (fun line => (line, false)) ++
        before' ∧ (late body).map (fun line => (line, true)) = before' ++ (line, ended) :: after := by
      rcases List.append_eq_append_iff.mp same with ⟨before', rfl, behind⟩ | ⟨rest, front, behind⟩
      · exact ⟨before', rfl, behind⟩
      · cases rest with
        | nil => exact ⟨[], by rw [front, List.append_nil, List.append_nil], behind.symm⟩
        | cons head rest =>
          obtain ⟨rfl, _⟩ := List.cons.inj behind
          have member : (line, ended) ∈ (early body).map fun line => (line, false) := by
            rw [front]
            exact List.mem_append_right _ List.mem_cons_self
          obtain ⟨line', isEarly, same'⟩ := List.mem_map.mp member
          cases same'
          exact absurd done (by rw [(reads.2.1 line isEarly).1]; decide)
    obtain ⟨before, tail, late_, rfl, tail_⟩ := List.map_eq_append_iff.mp behind
    obtain ⟨line', after, rfl, same', rfl⟩ := List.map_eq_cons_iff.mp tail_
    cases same'
    rw [List.map_append, firsts, firsts] at past priced
    rw [List.length_append, List.length_map, List.length_map, ← List.length_append, Nat.zero_add] at broken
    refine ⟨reads.1, before, line, after, late_, past, done, fit, ?_, priced⟩
    by_contra written
    simp only [not_or, not_not] at written
    rw [written.1, written.2] at broken
    cases broken

theorem actualPUSD_iff {usage : Usage} : actualPUSD resv usage = resv.reservedPUSD ↔
    ¬∃ cost, resv.plan.cost usage = .ok (some cost) ∧ cost ≠ resv.reservedPUSD := by
  unfold actualPUSD
  split
  · rename_i cost priced
    constructor
    · rintro same ⟨other, priced', differs⟩
      rw [priced] at priced'
      cases priced'
      exact differs same
    · intro none_
      by_contra differs
      exact none_ ⟨cost, priced, differs⟩
  · rename_i unpriced
    exact iff_of_true rfl fun ⟨cost, priced, _⟩ => unpriced cost priced

/-- The full quote is settled, unless the sentinel behind the failure cannot be written. -/
theorem settles_iff (failed : body.failed = true) (reads : ReadsFailure fails publicModelID body) :
    (streamThrough fails publicModelID body resv {}).calls = [.settle resv.reservedPUSD] ↔
      ¬SentinelUnsent fails publicModelID body resv := by
  have settled : (streamThrough fails publicModelID body resv {}).calls =
      [.settle (actualPUSD resv (if (relay fails publicModelID body { status := some 200 }).terminal then
        (relay fails publicModelID body { status := some 200 }).usage
      else (relay fails publicModelID body { status := some 200 }).usage.mergeSnapshot malformedUsage))] := rfl
  rw [sentinelUnsent_iff failed reads, settled, List.cons.injEq, Call.settle.injEq, eq_self_iff_true,
    and_true]
  have ran : _ ∨ (_ ∧ (relay fails publicModelID body { status := some 200 }).terminal = false) :=
    relay_terminal body { status := some 200 }
  rcases ran with ⟨read, broken, readsTo, terminal, usage⟩ | ⟨unread, terminal⟩
  · rw [terminal, if_pos rfl, usage]
    cases broken with
    | true =>
      refine iff_of_true (actualPUSD_malformed (by simp [distrusted, Usage.mergeSnapshot, malformedUsage])) ?_
      rintro ⟨read', readsTo', _⟩
      cases (readsTo.unique readsTo').2
    | false =>
      rw [distrusted, if_neg (by decide), actualPUSD_iff]
      refine not_congr ⟨fun priced => ⟨read, readsTo, priced⟩, ?_⟩
      rintro ⟨read', readsTo', priced⟩
      rwa [(readsTo.unique readsTo').1]
  · rw [terminal, if_neg (by decide)]
    refine iff_of_true (actualPUSD_malformed (by simp [Usage.mergeSnapshot, malformedUsage])) ?_
    rintro ⟨read, readsTo, _⟩
    exact unread _ _ readsTo

end Settle

/-! ## Streams that break off -/

/-- A stream that breaks off is not passed off as whole: the client has only the rewriting
of lines that were received whole, and once the failure is read the quote is settled. -/
def CutSafely (fails : Failures) (publicModelID : String) (body : Stream) (resv : Reservation) : Prop :=
  Relays fails publicModelID (complete body) (streamThrough fails publicModelID body resv {}).client.body ∧
    (ReadsFailure fails publicModelID body →
      (streamThrough fails publicModelID body resv {}).calls = [.settle resv.reservedPUSD])

/-- Exactly when: the relay passes nothing on of the line that was cut off, and no sentinel
behind the failure goes unsent. -/
theorem cutSafely_iff {fails : Failures} {publicModelID : String} {body : Stream} {resv : Reservation}
    (failed : body.failed = true) : CutSafely fails publicModelID body resv ↔
      ¬CutRelayed fails publicModelID body ∧ ¬SentinelUnsent fails publicModelID body resv := by
  have client : (streamThrough fails publicModelID body resv {}).client =
      (relay fails publicModelID body { status := some 200 }).client := rfl
  rw [CutSafely, client, relays_iff rfl rfl]
  refine and_congr_right fun _ => ⟨fun settles unsent => ?_, fun sent reads => ?_⟩
  · obtain ⟨fits, before, _, _, _, past, _⟩ := id unsent
    have reads : ReadsFailure fails publicModelID body := ⟨fits, (goesPast_append.mp past).1⟩
    exact (settles_iff failed reads).mp (settles reads) unsent
  · exact (settles_iff failed reads).mpr sent

/-- A call of the chat model, reserved. -/
def chatCall : Reservation where
  requestID := "request"
  installID := "install"
  period := ⟨"2026-08", "2026-08-07"⟩
  plan := ⟨providerQwen, qwen37Plus, qwen37PlusCard.id, .standard, 1000, 100, 1760000000, qwen37PlusCard,
    { inputUpperBound := 256000, inputPUSD := 1600000,
      cacheHitInputPUSD := 320000, outputPUSD := 1600000 }⟩
  reservedPUSD := 1760000000
  sublimitApplied := false
  categoryApplied := ""
  categoryUnits := 0

/-- An event that was cut off before its newline: `data: ` and an empty object. -/
def cutEvent : Stream := ⟨utf8 "data: " ++ [leftBrace, rightBrace], [], true⟩

/-- A stream cut off inside an event, behind a whole one. -/
def cutObject : Stream :=
  ⟨utf8 "data: " ++ [leftBrace, rightBrace, newline] ++ utf8 "data: " ++ [leftBrace], [], true⟩

theorem cutSafely_iff_object : CutSafely (fun _ => none) "anselm" cutObject chatCall := by
  rw [cutSafely_iff rfl]
  refine ⟨?_, ?_⟩
  · rintro ⟨_, _, _, out, fit, _⟩
    have unfit : rewriteClientModelSSELine (dropCR (cut cutObject)) "anselm" = none := by decide +kernel
    rw [unfit] at fit
    cases fit
  · rintro ⟨_, _, _, _, _, _, _, _, unsent, _⟩
    rcases unsent with unsent | unsent <;> exact unsent rfl

/-- What was read of the last event is passed on, with a newline it never had. -/
theorem cut_event_relayed : ¬∀ (fails : Failures) (publicModelID : String) (body : Stream)
    (resv : Reservation), body.failed = true → CutSafely fails publicModelID body resv := by
  intro safe
  obtain ⟨relays, _⟩ := safe (fun _ => none) "anselm" cutEvent chatCall rfl
  have received : (streamThrough (fun _ => none) "anselm" cutEvent chatCall {}).client.body =
      utf8 "data: " ++ [leftBrace, rightBrace, newline] := by decide +kernel
  have nothing : complete cutEvent = [] := by decide +kernel
  obtain ⟨read, outs, front, rewritten, _, _, high, _⟩ := relays
  rw [nothing] at front
  obtain rfl := List.prefix_nil.mp front
  cases rewritten
  rw [received] at high
  exact absurd (List.prefix_nil.mp high) (by decide)

end AnselmGateway.CutStream
