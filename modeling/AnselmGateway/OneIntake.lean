import AnselmGateway.IntakeDoors

/-! One intake for both doors. An override of one key and a start with that key set agree on
everything but one check, which a start makes of the chunk size and the cross-field checks
make only where media is enabled. -/
namespace AnselmGateway.OneIntake
open Foundation RuntimeConfig ConfigSemantics HotConfiguration LoadBase ConfigIntake ColdSettings ConfigDump
  IntakeDoors

/-! ## What is shown can be entered again -/

/-- The configurations a process can have: what a start gives, and what accepted batches make of it. -/
inductive Reachable (platform : Platform) : Config → Prop
  | loaded {getenv : Environment} {c : Config} (started : loadBase platform getenv = .ok c) :
    Reachable platform c
  | overridden {c d : Config} {overrides : Overrides} (reached : Reachable platform c)
    (accepted : RuntimeConfig.applyOverrides c overrides = .ok d) : Reachable platform d

/-- Every overridable field has a value that a start would read of some setting. -/
def Read (c : Config) : Prop := ∀ (i : ℕ) (key : String), hotKeys[i]? = some key →
  ∃ default_ row getenv, (intakes default_)[i]? = some row ∧ row.passes getenv ∧
    (fields c)[i]? = some (row.value getenv)

theorem read_loaded {platform : Platform} {getenv : Environment} {c : Config}
    (started : loadBase platform getenv = .ok c) : Read c := by
  obtain ⟨_, rows, _, _, rfl⟩ := loadBase_iff.mp started
  intro i key place
  obtain ⟨row, _, listed, _⟩ := door_at (defaultMediaBytes getenv) place
  refine ⟨_, row, getenv, listed, rows row (List.mem_of_getElem? listed), ?_⟩
  rw [fields_assembled, List.getElem?_map, listed]
  rfl

theorem read_applyOne {c d : Config} {key raw : String} (ran : applyOne c key raw = .ok d) (read : Read c) :
    Read d := by
  obtain ⟨i, _, place, _⟩ := applyOne_accepted ran
  intro j other place'
  by_cases same : j = i
  · subst same
    obtain ⟨row, _, listed, _, door⟩ := door_at 0 place
    obtain ⟨_, passes, _, stored⟩ := door.taken ran
    refine ⟨0, row, fun _ => raw, listed, passes, ?_⟩
    obtain ⟨_, _, _, _, _, held⟩ := read j key place
    rw [stored, List.getElem?_set_self (List.getElem?_eq_some_iff.mp held).1]
  · obtain ⟨row, _, _, _, door⟩ := door_at 0 place
    obtain ⟨default_, row', getenv, listed, passes, held⟩ := read j other place'
    obtain ⟨_, _, _, stored⟩ := door.taken ran
    refine ⟨default_, row', getenv, listed, passes, ?_⟩
    rw [stored, List.getElem?_set_ne (fun equal => same equal.symm), held]

theorem read_applyEach {entries : List (String × String)} {c d : Config} (ran : applyEach entries c = .ok d)
    (read : Read c) : Read d := by
  induction entries generalizing c with
  | nil =>
    cases ran
    exact read
  | cons entry rest ih =>
    obtain ⟨middle, wrote, onward⟩ := replayLog_cons.mp ran
    exact ih onward (read_applyOne wrote read)

theorem reachable_read {platform : Platform} {c : Config} (reached : Reachable platform c) : Read c := by
  induction reached with
  | loaded started => exact read_loaded started
  | overridden _ accepted ih => exact read_applyEach (applyOverrides_ok.mp accepted).1 ih

theorem reachable_meaningful {platform : Platform} {c : Config} (reached : Reachable platform c) :
    Meaningful c := by
  cases reached with
  | loaded started =>
    obtain ⟨_, _, _, meaningful, rfl⟩ := loadBase_iff.mp started
    exact meaningful
  | overridden _ accepted => exact validateSemantics_ok.mp (applyOverrides_ok.mp accepted).2

theorem applyEach_same {entries : List (String × String)} {c : Config}
    (same : ∀ entry ∈ entries, applyOne c entry.1 entry.2 = .ok c) : applyEach entries c = .ok c := by
  induction entries with
  | nil => rfl
  | cons entry rest ih =>
    obtain ⟨first, rest⟩ := List.forall_mem_cons.mp same
    exact replayLog_cons.mpr ⟨c, first, ih rest⟩

/-- The values on the dashboard, entered again, change nothing. -/
theorem dumped_again {platform : Platform} {c : Config} (reached : Reachable platform c) :
    RuntimeConfig.applyOverrides c (dumped c) = .ok c := by
  have meaningful := reachable_meaningful reached
  refine applyOverrides_ok.mpr ⟨applyEach_same ?_, validateSemantics_ok.mpr meaningful⟩
  change ∀ entry ∈ editableValues c, _
  rw [editableValues_eq]
  intro entry member
  obtain ⟨surface, listed, rfl⟩ := List.mem_map.mp member
  obtain ⟨i, found⟩ := List.mem_iff_getElem?.mp listed
  have place : hotKeys[i]? = some surface.key := by rw [← hotKeys_surfaces, List.getElem?_map, found]; rfl
  obtain ⟨default_, row, getenv, taken, passes, held⟩ := reachable_read reached i _ place
  obtain ⟨row', surface', taken', found', door⟩ := door_at default_ place
  rw [taken] at taken'
  rw [found] at found'
  cases taken'
  cases found'
  obtain ⟨explicit, again, value⟩ := door.shown passes held
  refine door.given explicit again rfl ?_ meaningful
  obtain ⟨inside, same⟩ := List.getElem?_eq_some_iff.mp held
  rw [value, ← same, List.set_getElem_self]

/-! ## A start with one key set -/

/-- The default of one row does not matter once the key is set. -/
theorem rows_explicit {getenv : Environment} (explicit : trimSpace (getenv "MAX_MEDIA_DECODED_BYTES") ≠ "")
    (default_ : ℤ) : ((∀ row ∈ intakes default_, row.passes getenv) ↔ ∀ row ∈ intakes 0, row.passes getenv) ∧
      ((∀ row ∈ intakes 0, row.passes getenv) →
        (intakes default_).map (fun row => row.value getenv) = (intakes 0).map fun row => row.value getenv) := by
  have passes (default_ : ℤ) :
      (ConfigIntake.number "MAX_MEDIA_DECODED_BYTES" default_ 1 maxMediaDecodedBytes id).passes getenv ↔
        ∃ n, reqInt "MAX_MEDIA_DECODED_BYTES" (getenv "MAX_MEDIA_DECODED_BYTES") 1 maxMediaDecodedBytes = .ok n :=
    boundedInt_passes getenv explicit
  constructor
  · unfold intakes
    simp only [List.forall_mem_cons, passes]
  · intro all
    obtain ⟨n, taken⟩ := (passes 0).mp (all _ (List.mem_of_getElem? (i := 9) rfl))
    have value (default_ : ℤ) :
        (ConfigIntake.number "MAX_MEDIA_DECODED_BYTES" default_ 1 maxMediaDecodedBytes id).value getenv =
          .number n :=
      congrArg Value.number (int_value getenv explicit (reqInt_ok.mp taken).1)
    unfold intakes
    simp only [List.map_cons, value]

theorem map_set {α β : Type} {l : List α} {f g : α → β} {i : ℕ} {a : α} (place : l[i]? = some a)
    (same : ∀ j b, l[j]? = some b → j ≠ i → g b = f b) : l.map g = (l.map f).set i (g a) := by
  apply List.ext_getElem?
  intro j
  rw [List.getElem?_set, List.length_map, List.getElem?_map, List.getElem?_map]
  split
  · rename_i equal
    subst equal
    rw [place, if_pos (List.getElem?_eq_some_iff.mp place).1]
    rfl
  · rename_i apart
    cases held : l[j]? with
    | none => rfl
    | some b => exact congrArg some (same j b held fun equal => apart equal.symm)

/-- A batch of one. -/
def single (key raw : String) : Overrides := ⟨[(key, raw)], List.nodup_singleton _⟩

theorem applyOverrides_single {c d : Config} {key raw : String} :
    RuntimeConfig.applyOverrides c (single key raw) = .ok d ↔ applyOne c key raw = .ok d ∧ Meaningful d := by
  rw [applyOverrides_ok, validateSemantics_ok]
  refine and_congr_left fun _ => replayLog_cons.trans ⟨?_, fun ran => ⟨d, ran, rfl⟩⟩
  rintro ⟨_, ran, done⟩
  cases done
  exact ran

/-- What a start reads of the chunk size, once it has gone through. -/
theorem chunk_read {getenv : Environment} (explicit : trimSpace (getenv "MEDIA_CHUNK_MAX_BYTES") ≠ "")
    (passes : (chunk getenv).Passes getenv) :
    ∃ n, Upstream.atoi (trimSpace (getenv "MEDIA_CHUNK_MAX_BYTES")) = some n ∧ 1 ≤ n ∧ n ≤ bodyBytes getenv := by
  obtain ⟨n, taken⟩ := (boundedInt_passes getenv explicit).mp passes
  exact ⟨n, reqInt_ok.mp taken⟩

section OneKey
variable {platform : Platform} {getenv : Environment} {c d : Config} {key raw : String} {i : ℕ}
  (loaded : loadBase platform getenv = .ok c)
  (media : trimSpace (getenv "MAX_MEDIA_DECODED_BYTES") ≠ "")
  (chunk_ : trimSpace (getenv "MEDIA_CHUNK_MAX_BYTES") ≠ "")
  (place : hotKeys[i]? = some key) (filled : trimSpace raw ≠ "")

theorem agree_update (hot : key ∈ hotKeys) : Agree getenv (Function.update getenv key raw) :=
  fun _ cold => Function.update_of_ne (fun same => cold (by rw [same]; exact hot)) _ _

include loaded media in
theorem fields_loaded : fields c = (intakes 0).map (fun row => row.value getenv) ∧
    ∀ row ∈ intakes 0, row.passes getenv := by
  obtain ⟨_, rows, _, _, rfl⟩ := loadBase_iff.mp loaded
  obtain ⟨passes, values⟩ := rows_explicit media (defaultMediaBytes getenv)
  have rows := passes.mp rows
  exact ⟨(fields_assembled platform getenv).trans (values rows), rows⟩

include place in
/-- The other rows do not see it. -/
theorem row_other {j : ℕ} {row : Intake} (listed : (intakes 0)[j]? = some row) (apart : j ≠ i) :
    (row.passes (Function.update getenv key raw) ↔ row.passes getenv) ∧
      row.value (Function.update getenv key raw) = row.value getenv := by
  have place' : hotKeys[j]? = some row.key := by rw [← hotKeys_intakes 0, List.getElem?_map, listed]; rfl
  obtain ⟨row', _, listed', _, door⟩ := door_at 0 place'
  rw [listed] at listed'
  cases listed'
  refine door.alone (Function.update_of_ne (fun same => apart ?_) _ _)
  rw [same] at place'
  exact (List.getElem?_inj (List.getElem?_eq_some_iff.mp place').1 hotKeys_nodup).mp (place'.trans place.symm)

include loaded media chunk_ place filled in
/-- A start with the key set passes what it has passed before, and the row, the chunk and the
cross-field checks. -/
theorem start_with {row : Intake} (listed : (intakes 0)[i]? = some row) :
    loadBase platform (Function.update getenv key raw) = .ok d ↔
      row.passes (Function.update getenv key raw) ∧
      (chunk (Function.update getenv key raw)).Passes (Function.update getenv key raw) ∧ Meaningful d ∧
      d.toStartup = c.toStartup ∧
      fields d = (fields c).set i (row.value (Function.update getenv key raw)) := by
  obtain ⟨fields_, rows⟩ := fields_loaded loaded media
  obtain ⟨cold, _, chunked, _, rfl⟩ := loadBase_iff.mp loaded
  have hot : key ∈ hotKeys := List.mem_of_getElem? place
  have agree : Agree getenv (Function.update getenv key raw) := agree_update hot
  have media' : trimSpace (Function.update getenv key raw "MAX_MEDIA_DECODED_BYTES") ≠ "" := by
    rw [Function.update_apply]
    split
    · exact filled
    · exact media
  have sized (default_ default_' : ℤ) :
      (int "MEDIA_CHUNK_MAX_BYTES" default_').value (Function.update getenv key raw) =
        (int "MEDIA_CHUNK_MAX_BYTES" default_).value getenv := by
    obtain ⟨n, parsed, _⟩ := chunk_read chunk_ chunked
    have same := agree "MEDIA_CHUNK_MAX_BYTES" (by decide)
    rw [int_value getenv chunk_ parsed]
    exact int_value _ (by rw [same]; exact chunk_) (by rw [same]; exact parsed)
  have startup : (assembled platform (Function.update getenv key raw)).toStartup =
      (assembled platform getenv).toStartup := startup_assembled agree sized
  have stores (all : ∀ row ∈ intakes 0, row.passes (Function.update getenv key raw)) :
      fields (assembled platform (Function.update getenv key raw)) =
        (fields (assembled platform getenv)).set i (row.value (Function.update getenv key raw)) := by
    rw [fields_assembled, (rows_explicit media' _).2 all, fields_]
    exact map_set listed fun j other listed' apart => (row_other place listed' apart).2
  constructor
  · intro started
    obtain ⟨_, rows', chunked', valid, rfl⟩ := loadBase_iff.mp started
    have rows' := (rows_explicit media' _).1.mp rows'
    exact ⟨rows' row (List.mem_of_getElem? listed), chunked', valid, startup, stores rows'⟩
  · rintro ⟨passes, chunked', valid, kept, stored⟩
    have all : ∀ row ∈ intakes 0, row.passes (Function.update getenv key raw) := by
      intro other member
      obtain ⟨j, listed'⟩ := List.mem_iff_getElem?.mp member
      by_cases same : j = i
      · rw [same, listed] at listed'
        cases listed'
        exact passes
      · exact (row_other place listed' same).1.mpr (rows other member)
    have same : assembled platform (Function.update getenv key raw) = d :=
      fields_injective (startup.trans kept.symm) ((stores all).trans stored.symm)
    refine loadBase_iff.mpr ⟨cold_passes agree sized cold, (rows_explicit media' _).1.mpr all, chunked', ?_, same⟩
    rw [same]
    exact valid

include place filled in
/-- So does an override of it, apart from the chunk check. -/
theorem overridden_with {row : Intake} (listed : (intakes 0)[i]? = some row) :
    RuntimeConfig.applyOverrides c (single key raw) = .ok d ↔
      row.passes (Function.update getenv key raw) ∧ Meaningful d ∧ d.toStartup = c.toStartup ∧
      fields d = (fields c).set i (row.value (Function.update getenv key raw)) := by
  obtain ⟨row', _, listed', _, door⟩ := door_at 0 place
  rw [listed] at listed'
  cases listed'
  obtain ⟨passes, value⟩ :=
    @door.alone (fun _ => raw) (Function.update getenv key raw) (Function.update_self key raw getenv)
  rw [applyOverrides_single, passes, value]
  constructor
  · rintro ⟨ran, valid⟩
    obtain ⟨_, passes, kept, stored⟩ := door.taken ran
    exact ⟨passes, valid, kept, stored⟩
  · rintro ⟨passes, valid, kept, stored⟩
    exact ⟨door.given filled passes kept stored valid, valid⟩

include loaded media chunk_ place filled in
/-- The chunk check is all a start makes more. -/
theorem start_iff_override : loadBase platform (Function.update getenv key raw) = .ok d ↔
    (chunk (Function.update getenv key raw)).Passes (Function.update getenv key raw) ∧
      RuntimeConfig.applyOverrides c (single key raw) = .ok d := by
  obtain ⟨row, _, listed, _⟩ := door_at 0 place
  rw [start_with loaded media chunk_ place filled listed, overridden_with place filled listed]
  exact and_left_comm

end OneKey

/-! ## The check that only a start makes -/

theorem loaded_media {platform : Platform} {getenv : Environment} {c : Config}
    (loaded : loadBase platform getenv = .ok c) :
    c.mediaEnabled = (boolean "MEDIA_ENABLED" false).value getenv ∧ c.mediaChunkMaxBytes =
      (int "MEDIA_CHUNK_MAX_BYTES" (min (4 * 1024 * 1024) (bodyBytes getenv))).value getenv := by
  obtain ⟨_, _, _, _, rfl⟩ := loadBase_iff.mp loaded
  simp only [assembled, readListeners, readAllOf, readStore, readDisk, readFirstOf, readFirst, readBudget,
    readRates, readMedia, Reading.value_bind, Reading.value_pure, value_boundedInt, maxBodyBytes_readCaps,
    and_self]

/-- The body limit is to fall below the chunk size that is set, with media off, and keeps to
all else that is asked of it. -/
def Overtaken (getenv : Environment) (key raw : String) : Prop :=
  key = "MAX_BODY_BYTES" ∧ (boolean "MEDIA_ENABLED" false).value getenv = false ∧
    ∃ n, Upstream.atoi (trimSpace raw) = some n ∧ minBodyBytes ≤ n ∧ n ≤ maxBodyBytesCeiling ∧
      (int "MAX_MEDIA_DECODED_BYTES" 0).value getenv ≤ n ∧ n < (int "MEDIA_CHUNK_MAX_BYTES" 0).value getenv

theorem applyOne_maxBodyBytes {c d : Config} {raw : String} : applyOne c "MAX_BODY_BYTES" raw = .ok d ↔
    ∃ n, reqInt "MAX_BODY_BYTES" raw minBodyBytes maxBodyBytesCeiling = .ok n ∧
      { c with maxBodyBytes := n } = d := by
  have listed : bounded "MAX_BODY_BYTES" minBodyBytes maxBodyBytesCeiling
      (fun n c => { c with maxBodyBytes := n }) ∈ runtimeSpecs := List.mem_of_getElem? (i := 10) rfl
  rw [show applyOne c "MAX_BODY_BYTES" raw = _ from applyOne_listed listed rfl c raw]
  exact Fallible.map_ok

section OneKey
variable {platform : Platform} {getenv : Environment} {c d : Config} {key raw : String}
  (loaded : loadBase platform getenv = .ok c)
  (media : trimSpace (getenv "MAX_MEDIA_DECODED_BYTES") ≠ "")
  (chunk_ : trimSpace (getenv "MEDIA_CHUNK_MAX_BYTES") ≠ "")
  (hot : key ∈ hotKeys) (filled : trimSpace raw ≠ "")
include loaded media chunk_ hot filled

/-- It fails, and the override goes through, exactly there. -/
theorem overtaken_iff : Overtaken getenv key raw ↔
    ¬(chunk (Function.update getenv key raw)).Passes (Function.update getenv key raw) ∧
      ∃ d, RuntimeConfig.applyOverrides c (single key raw) = .ok d := by
  obtain ⟨fields_, _⟩ := fields_loaded loaded media
  obtain ⟨_, _, chunked, _⟩ := loadBase_iff.mp loaded
  obtain ⟨size, parsed, some_, within⟩ := chunk_read chunk_ chunked
  obtain ⟨enabled, sized⟩ := loaded_media loaded
  rw [int_value getenv chunk_ parsed] at sized
  have decoded : c.maxMediaDecodedBytes = (int "MAX_MEDIA_DECODED_BYTES" 0).value getenv :=
    Value.number.inj (Option.some.inj (congrArg (fun values => values[9]?) fields_))
  have agree : Agree getenv (Function.update getenv key raw) := agree_update hot
  have same := agree "MEDIA_CHUNK_MAX_BYTES" (by decide)
  have passes : (chunk (Function.update getenv key raw)).Passes (Function.update getenv key raw) ↔
      size ≤ bodyBytes (Function.update getenv key raw) := by
    rw [chunk, boundedInt_passes _ (by rw [same]; exact chunk_), same]
    constructor
    · rintro ⟨n, taken⟩
      obtain ⟨parsed', _, below⟩ := reqInt_ok.mp taken
      rw [parsed] at parsed'
      cases parsed'
      exact below
    · exact fun below => ⟨size, reqInt_ok.mpr ⟨parsed, some_, below⟩⟩
  rw [passes, Overtaken, int_value getenv chunk_ parsed, ← decoded, ← enabled]
  have meaningful := reachable_meaningful (.loaded loaded)
  by_cases body : key = "MAX_BODY_BYTES"
  · subst body
    have limit {n : ℤ} (parsed : Upstream.atoi (trimSpace raw) = some n) :
        bodyBytes (Function.update getenv "MAX_BODY_BYTES" raw) = n := by
      refine int_value _ ?_ ?_ <;> rw [Function.update_self]
      · exact filled
      · exact parsed
    constructor
    · rintro ⟨_, off, n, parsed', low, high, decoded', below⟩
      rw [limit parsed', not_le]
      refine ⟨below, { c with maxBodyBytes := n }, applyOverrides_single.mpr ⟨?_, ?_⟩⟩
      · exact applyOne_maxBodyBytes.mpr ⟨n, reqInt_ok.mpr ⟨parsed', low, high⟩, rfl⟩
      · refine (meaningful_maxBodyBytes meaningful n).mpr ⟨decoded', fun on => ?_⟩
        rw [off] at on
        cases on
    · rintro ⟨refused, d, accepted⟩
      obtain ⟨ran, valid⟩ := applyOverrides_single.mp accepted
      obtain ⟨n, taken, rfl⟩ := applyOne_maxBodyBytes.mp ran
      obtain ⟨parsed', low, high⟩ := reqInt_ok.mp taken
      obtain ⟨decoded', chunk'⟩ := (meaningful_maxBodyBytes meaningful n).mp valid
      rw [limit parsed', not_le] at refused
      rw [sized] at chunk'
      refine ⟨rfl, ?_, n, parsed', low, high, decoded', refused⟩
      by_contra on
      exact absurd (chunk' (by simpa using on)) (not_le.mpr refused)
  · have kept : bodyBytes (Function.update getenv key raw) = bodyBytes getenv :=
      congrArg Prod.fst (int_congr (Function.update_of_ne (fun equal => body equal.symm) _ _) _)
    rw [kept]
    exact ⟨fun overtaken => absurd overtaken.1 body, fun refused => absurd within refused.1⟩

end OneKey

/-- **One intake for both doors**: for an environment that a start accepts, with the two
settings of a derived default set, any overridable key and any text with something in it, a
start with the key set and an override of it give the same, success or not, exactly unless
the new body limit falls below the chunk size with media off. And whatever batches are
accepted from then on, the values the dashboard shows can be entered again and change
nothing. -/
theorem one_intake (platform : Platform) :
    (∀ getenv c key raw, loadBase platform getenv = .ok c →
      trimSpace (getenv "MAX_MEDIA_DECODED_BYTES") ≠ "" → trimSpace (getenv "MEDIA_CHUNK_MAX_BYTES") ≠ "" →
      key ∈ hotKeys → trimSpace raw ≠ "" →
      ((∀ d, loadBase platform (Function.update getenv key raw) = .ok d ↔
          RuntimeConfig.applyOverrides c (single key raw) = .ok d) ↔ ¬Overtaken getenv key raw)) ∧
      ∀ c, Reachable platform c → RuntimeConfig.applyOverrides c (dumped c) = .ok c := by
  refine ⟨fun getenv c key raw loaded media chunk_ hot filled => ?_, fun _ => dumped_again⟩
  obtain ⟨i, place⟩ := List.mem_iff_getElem?.mp hot
  rw [overtaken_iff loaded media chunk_ hot filled, not_and_or, not_not]
  simp only [start_iff_override loaded media chunk_ place filled]
  constructor
  · intro alike
    by_cases accepted : ∃ d, RuntimeConfig.applyOverrides c (single key raw) = .ok d
    · obtain ⟨d, accepted⟩ := accepted
      exact .inl ((alike d).mpr accepted).1
    · exact .inr accepted
  · rintro (passes | refused) d
    · exact and_iff_right passes
    · exact ⟨fun both => both.2, fun accepted => absurd ⟨d, accepted⟩ refused⟩

/-- A platform that knows one time zone. -/
def onePlace : Platform where
  parseURL _ := none
  zoneExists zone := zone = "Asia/Shanghai"
  hmac _ _ := []

/-- A workspace, and a chunk size as large as the body limit may be by default. -/
def wholeBody : Environment := fun key =>
  if key = "DASHSCOPE_API_KEY" then "key"
  else if key = "DASHSCOPE_WORKSPACE_ID" then "ws"
  else if key = "MAX_MEDIA_DECODED_BYTES" then "4096"
  else if key = "MEDIA_CHUNK_MAX_BYTES" then "262144"
  else ""

theorem loaded_wholeBody : ∃ c, loadBase onePlace wholeBody = .ok c := by
  cases ran : loadBase onePlace wholeBody with
  | error failure =>
    have accepted : (loadBase onePlace wholeBody).isOk = true := by decide +kernel
    rw [ran] at accepted
    cases accepted
  | ok c => exact ⟨c, rfl⟩

/-- A signed number between spaces is the same at both doors. -/
theorem one_intake_wholeBody : ∃ c, loadBase onePlace wholeBody = .ok c ∧
    (∀ d, loadBase onePlace (Function.update wholeBody "RATE_PER_MIN" " +30 ") = .ok d ↔
      RuntimeConfig.applyOverrides c (single "RATE_PER_MIN" " +30 ") = .ok d) ∧
    RuntimeConfig.applyOverrides c (dumped c) = .ok c := by
  obtain ⟨c, loaded⟩ := loaded_wholeBody
  obtain ⟨doors, shown⟩ := one_intake onePlace
  refine ⟨c, loaded, ?_, shown c (.loaded loaded)⟩
  refine (doors wholeBody c _ _ loaded (by decide) (by decide) (by decide +kernel) (by decide)).mpr fun overtaken => ?_
  exact absurd overtaken.1 (by decide)

/-- The override is accepted, and the process does not start with it. -/
theorem body_below_chunk : ∃ c d, loadBase onePlace wholeBody = .ok c ∧
    trimSpace (wholeBody "MAX_MEDIA_DECODED_BYTES") ≠ "" ∧ trimSpace (wholeBody "MEDIA_CHUNK_MAX_BYTES") ≠ "" ∧
    "MAX_BODY_BYTES" ∈ hotKeys ∧ trimSpace "8192" ≠ "" ∧
    RuntimeConfig.applyOverrides c (single "MAX_BODY_BYTES" "8192") = .ok d ∧
    loadBase onePlace (Function.update wholeBody "MAX_BODY_BYTES" "8192") =
      .error (.setting (.text "MEDIA_CHUNK_MAX_BYTES must be <= 8192")) := by
  obtain ⟨c, loaded⟩ := loaded_wholeBody
  have accepted : ((loadBase onePlace wholeBody).toOption.bind fun c =>
      (RuntimeConfig.applyOverrides c (single "MAX_BODY_BYTES" "8192")).toOption).isSome = true := by
    decide +kernel
  rw [loaded] at accepted
  change (RuntimeConfig.applyOverrides c (single "MAX_BODY_BYTES" "8192")).toOption.isSome = true at accepted
  cases ran : RuntimeConfig.applyOverrides c (single "MAX_BODY_BYTES" "8192") with
  | error failure =>
    rw [ran] at accepted
    cases accepted
  | ok d => exact ⟨c, d, loaded, by decide, by decide, by decide +kernel, by decide, ran, by decide +kernel⟩

end AnselmGateway.OneIntake
