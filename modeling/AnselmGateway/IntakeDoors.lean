import AnselmGateway.ColdSettings
import AnselmGateway.ConfigDump
import AnselmGateway.LeaseSigner
import Mathlib.Data.List.DropRight

/-! Three descriptions of one setting: an override of its key, a start's reading of it, and
its row of the dump. -/
namespace AnselmGateway.IntakeDoors
open Foundation RuntimeConfig ConfigSemantics HotConfiguration LoadBase ConfigIntake ColdSettings ConfigDump

/-! ## Texts and numbers -/

theorem trimSpace_trimSpace (raw : String) : trimSpace (trimSpace raw) = trimSpace raw := by
  have trims (text : String) :
      trimSpace text = String.ofList (List.rdropWhile isSpace (text.toList.dropWhile isSpace)) := rfl
  rw [trims raw, trims, String.toList_ofList]
  have front := List.rdropWhile_prefix isSpace (l := raw.toList.dropWhile isSpace)
  have begun : List.dropWhile isSpace (List.rdropWhile isSpace (raw.toList.dropWhile isSpace)) =
      List.rdropWhile isSpace (raw.toList.dropWhile isSpace) := by
    refine List.dropWhile_eq_self_iff.mpr fun some_ => ?_
    rw [front.getElem some_]
    exact List.dropWhile_get_zero_not isSpace raw.toList (Nat.lt_of_lt_of_le some_ front.length_le)
  rw [begun, List.rdropWhile_idempotent]

/-- A text without space is itself. -/
theorem trimSpace_solid {text : String} (solid : ∀ char ∈ text.toList, isSpace char = false) :
    trimSpace text = text := by
  have kept {chars : List Char} (solid : ∀ char ∈ chars, isSpace char = false) :
      chars.dropWhile isSpace = chars := by
    refine List.dropWhile_eq_self_iff.mpr fun some_ => ?_
    rw [solid _ (List.getElem_mem some_)]
    exact Bool.false_ne_true
  unfold trimSpace
  rw [kept solid, kept fun char member => solid char (List.mem_reverse.mp member), List.reverse_reverse,
    String.ofList_toList]

theorem isSpace_formatInt {value : Int64} {char : Char}
    (member : char ∈ (LeaseSigner.formatInt value).toList) : isSpace char = false := by
  have digit {n : ℕ} (member : char ∈ Nat.toDigits 10 n) : isSpace char = false := by
    obtain ⟨low, high⟩ := Char.isDigit_iff_toNat.mp (LeaseSigner.isDigit_toDigits member)
    change 48 ≤ char.toNat at low
    change char.toNat ≤ 57 at high
    simp only [isSpace, Bool.or_eq_false_iff, Bool.and_eq_false_iff, decide_eq_false_iff_not, beq_eq_false_iff_ne]
    omega
  rw [LeaseSigner.toList_formatInt] at member
  split at member
  · exact digit member
  · rcases List.mem_cons.mp member with rfl | member
    · decide
    · exact digit member

/-- A number written out is read back. -/
theorem atoi_toString {n : ℤ} (low : -2 ^ 63 ≤ n) (high : n < 2 ^ 63) :
    Upstream.atoi (trimSpace (toString n)) = some n := by
  have exact_ : (Int64.ofInt n).toInt = n := Int64.toInt_ofInt_of_le low high
  have text : LeaseSigner.formatInt (Int64.ofInt n) = toString n := by rw [LeaseSigner.formatInt, exact_]
  rw [← text, trimSpace_solid fun _ => isSpace_formatInt, LeaseSigner.atoi_formatInt, exact_]

theorem reqInt_ok {name raw : String} {min max n : ℤ} : reqInt name raw min max = .ok n ↔
    Upstream.atoi (trimSpace raw) = some n ∧ min ≤ n ∧ n ≤ max := by
  unfold reqInt
  cases Upstream.atoi (trimSpace raw) with
  | none => exact ⟨nofun, fun taken => nomatch taken.1⟩
  | some m =>
    dsimp only
    constructor
    · intro taken
      cases inside : boundInt name m min max with
      | error failure =>
        rw [inside] at taken
        cases taken
      | ok _ =>
        rw [inside] at taken
        cases taken
        exact ⟨rfl, boundInt_ok.mp inside⟩
    · rintro ⟨same, inside⟩
      cases same
      rw [boundInt_ok.mpr inside]
      rfl

section Explicit
variable (getenv : Environment) {key : String} {default_ min max n : ℤ}

theorem int_passes (explicit : trimSpace (getenv key) ≠ "") :
    (int key default_).Passes getenv ↔ ∃ n, Upstream.atoi (trimSpace (getenv key)) = some n := by
  unfold Reading.Passes Reading.failures int
  rw [if_neg explicit]
  cases Upstream.atoi (trimSpace (getenv key)) with
  | none => exact ⟨nofun, nofun⟩
  | some n => exact ⟨fun _ => ⟨n, rfl⟩, fun _ => rfl⟩

theorem int_value (explicit : trimSpace (getenv key) ≠ "")
    (parsed : Upstream.atoi (trimSpace (getenv key)) = some n) : (int key default_).value getenv = n := by
  unfold Reading.value int
  rw [if_neg explicit, parsed]

/-- What is set is taken by a start as it is by an override. -/
theorem boundedInt_passes (explicit : trimSpace (getenv key) ≠ "") :
    (boundedInt key default_ min max).Passes getenv ↔ ∃ n, reqInt key (getenv key) min max = .ok n := by
  rw [passes_boundedInt, int_passes getenv explicit, boundInt_ok]
  constructor
  · rintro ⟨⟨n, parsed⟩, inside⟩
    rw [int_value getenv explicit parsed] at inside
    exact ⟨n, reqInt_ok.mpr ⟨parsed, inside⟩⟩
  · rintro ⟨n, taken⟩
    obtain ⟨parsed, inside⟩ := reqInt_ok.mp taken
    refine ⟨⟨n, parsed⟩, ?_⟩
    rw [int_value getenv explicit parsed]
    exact inside

end Explicit

/-! ## One key, three descriptions -/

/-- An override of a key, a start's reading of it, and its row of the dump, over one field. -/
structure Door (apply : Config → String → Except ConfigError Config) (key : String) (row : Intake)
    (surface : Surface) (i : ℕ) : Prop where
  row_key : row.key = key
  surface_key : surface.key = key
  /-- A start looks at nothing else for it. -/
  alone : ∀ {getenv getenv' : Environment}, getenv' key = getenv key →
    (row.passes getenv' ↔ row.passes getenv) ∧ row.value getenv' = row.value getenv
  taken : ∀ {c d raw}, apply c raw = .ok d → trimSpace raw ≠ "" ∧ row.passes (fun _ => raw) ∧
    d.toStartup = c.toStartup ∧ fields d = (fields c).set i (row.value fun _ => raw)
  given : ∀ {c d raw}, trimSpace raw ≠ "" → row.passes (fun _ => raw) → d.toStartup = c.toStartup →
    fields d = (fields c).set i (row.value fun _ => raw) → Meaningful d → apply c raw = .ok d
  /-- What is shown of a value is read as that value. -/
  shown : ∀ {c getenv}, row.passes getenv → (fields c)[i]? = some (row.value getenv) →
    trimSpace (surface.get c) ≠ "" ∧ row.passes (fun _ => surface.get c) ∧
      row.value (fun _ => surface.get c) = row.value getenv

theorem door_bounded {key : String} {default_ min max : ℤ} {scale : ℤ → ℤ} {set : ℤ → Config → Config}
    {surface : Surface} {get : Config → ℤ} {i : ℕ} (named : surface.key = key)
    (rendered : ∀ c, surface.get c = toString (get c)) (low : -2 ^ 63 ≤ min) (high : max < 2 ^ 63)
    (startup : ∀ n c, (set n c).toStartup = c.toStartup)
    (stored : ∀ n c, fields (set n c) = (fields c).set i (.number (scale n)))
    (shown : ∀ c n, min ≤ n → n ≤ max → (fields c)[i]? = some (.number (scale n)) → get c = n) :
    ∃ apply, (bounded key min max set).tier = .runtimeHot apply ∧
      Door apply key (ConfigIntake.number key default_ min max scale) surface i := by
  have read {raw : String} (explicit : trimSpace raw ≠ "") :
      (ConfigIntake.number key default_ min max scale).passes (fun _ => raw) ↔
        ∃ n, reqInt key raw min max = .ok n :=
    boundedInt_passes (fun _ => raw) explicit
  have value {raw : String} {n : ℤ} (explicit : trimSpace raw ≠ "") (taken : reqInt key raw min max = .ok n) :
      (ConfigIntake.number key default_ min max scale).value (fun _ => raw) = .number (scale n) :=
    congrArg (fun n => Value.number (scale n))
      (int_value (fun _ => raw) explicit (reqInt_ok.mp taken).1)
  have filled {raw : String} {n : ℤ} (taken : reqInt key raw min max = .ok n) : trimSpace raw ≠ "" := by
    intro blank
    have parsed := (reqInt_ok.mp taken).1
    rw [blank] at parsed
    cases parsed
  refine ⟨_, rfl, rfl, named, fun {getenv getenv'} same => ?_, fun {c d raw} ran => ?_,
    fun {c d raw} explicit passes kept put _ => ?_, fun {c getenv} passes held => ?_⟩
  · have whole : boundedInt key default_ min max getenv' = boundedInt key default_ min max getenv :=
      Reading.bind_same (int_congr same _) fun n => by cases boundInt key n min max <;> rfl
    exact ⟨iff_of_eq (congrArg (fun read : ℤ × List LoadError => read.2 = []) whole),
      congrArg (fun read : ℤ × List LoadError => Value.number (scale read.1)) (int_congr same default_)⟩
  · obtain ⟨n, taken, rfl⟩ := Fallible.map_ok.mp ran
    have explicit := filled taken
    refine ⟨explicit, (read explicit).mpr ⟨n, taken⟩, startup n c, ?_⟩
    rw [value explicit taken, stored]
  · obtain ⟨n, taken⟩ := (read explicit).mp passes
    refine Fallible.map_ok.mpr ⟨n, taken, fields_injective ((startup n c).trans kept.symm) ?_⟩
    rw [stored, put, value explicit taken]
  · obtain ⟨_, inside⟩ := (passes_boundedInt _ _ _ _ _).mp passes
    obtain ⟨above, below⟩ := boundInt_ok.mp inside
    have taken : reqInt key (surface.get c) min max = .ok ((int key default_).value getenv) := by
      rw [reqInt_ok, rendered, shown c _ above below held, atoi_toString (low.trans above) (below.trans_lt high)]
      exact ⟨rfl, above, below⟩
    have explicit := filled taken
    exact ⟨explicit, (read explicit).mpr ⟨_, taken⟩, value explicit taken⟩

/-- A numeric row whose number is stored as it is. -/
theorem door_plain {key : String} {default_ min max : ℤ} {set : ℤ → Config → Config} {surface : Surface}
    {get : Config → ℤ} {i : ℕ} (named : surface.key = key) (rendered : ∀ c, surface.get c = toString (get c))
    (low : -2 ^ 63 ≤ min) (high : max < 2 ^ 63) (startup : ∀ n c, (set n c).toStartup = c.toStartup)
    (stored : ∀ n c, fields (set n c) = (fields c).set i (.number n))
    (held : ∀ c, (fields c)[i]? = some (.number (get c))) :
    ∃ apply, (bounded key min max set).tier = .runtimeHot apply ∧
      Door apply key (ConfigIntake.number key default_ min max id) surface i := by
  refine door_bounded named rendered low high startup stored fun c n _ _ same => ?_
  rw [held] at same
  cases same
  rfl

theorem door_text {key default_ : String} {check : String → Except ConfigError Unit}
    {apply : Config → String → Except ConfigError Config} {surface : Surface} {i : ℕ}
    (put : String → Config → Config) (named : surface.key = key) (default_solid : trimSpace default_ = default_ ∧ default_ ≠ "")
    (ran : ∀ {c d raw}, apply c raw = .ok d →
      trimSpace raw ≠ "" ∧ check (trimSpace raw) = .ok () ∧ put (trimSpace raw) c = d)
    (runs : ∀ {c raw}, trimSpace raw ≠ "" → check (trimSpace raw) = .ok () →
      Meaningful (put (trimSpace raw) c) → apply c raw = .ok (put (trimSpace raw) c))
    (startup : ∀ t c, (put t c).toStartup = c.toStartup)
    (stored : ∀ t c, fields (put t c) = (fields c).set i (.text t))
    (held : ∀ c, (fields c)[i]? = some (.text (surface.get c))) :
    Door apply key (ConfigIntake.text key default_ check) surface i := by
  have value {raw : String} (explicit : trimSpace raw ≠ "") :
      (str key default_).value (fun _ => raw) = trimSpace raw := if_neg explicit
  have solid (getenv : Environment) : trimSpace ((str key default_).value getenv) =
      (str key default_).value getenv ∧ (str key default_).value getenv ≠ "" := by
    unfold Reading.value str
    dsimp only
    split
    · exact default_solid
    · rename_i explicit
      exact ⟨trimSpace_trimSpace _, explicit⟩
  refine ⟨rfl, named, fun {getenv getenv'} same => ?_, fun {c d raw} ran_ => ?_,
    fun {c d raw} explicit passes kept put_ valid => ?_, fun {c getenv} passes held_ => ?_⟩
  · have whole : (str key default_).value getenv' = (str key default_).value getenv :=
      congrArg Prod.fst (str_congr same default_)
    exact ⟨iff_of_eq (congrArg (fun t => check t = .ok ()) whole), congrArg Value.text whole⟩
  · obtain ⟨explicit, checked, rfl⟩ := ran ran_
    refine ⟨explicit, ?_, startup _ _, ?_⟩
    · change check _ = .ok ()
      rw [value explicit, checked]
    · rw [stored]
      exact congrArg (fun t => (fields c).set i (.text t)) (value explicit).symm
  · change check _ = .ok () at passes
    rw [value explicit] at passes
    have same : put (trimSpace raw) c = d := by
      refine fields_injective ((startup _ _).trans kept.symm) ?_
      rw [stored, put_]
      exact congrArg (fun t => (fields c).set i (.text t)) (value explicit).symm
    rw [← same] at valid ⊢
    exact runs explicit passes valid
  · obtain ⟨trimmed, explicit⟩ := solid getenv
    rw [held] at held_
    rw [show surface.get c = (str key default_).value getenv from Value.text.inj (Option.some.inj held_)]
    rw [← trimmed] at explicit
    refine ⟨explicit, ?_, congrArg Value.text ((value explicit).trans trimmed)⟩
    change check _ = .ok ()
    rw [value explicit, trimmed]
    exact passes

theorem door_gatewayMode : Door applyGatewayMode "GATEWAY_MODE"
    (ConfigIntake.text "GATEWAY_MODE" runtimeModeDebug validateRuntimeMode)
    (ConfigDump.text "GATEWAY_MODE" fun c => c.runtimeMode) 0 := by
  refine door_text (fun m c => { c with runtimeMode := m }) rfl (by decide) (fun {c d raw} ran => ?_)
    (fun explicit checked _ => ?_) (fun _ _ => rfl) (fun _ _ => rfl) fun _ => rfl
  · obtain ⟨_, checked, rfl⟩ := Fallible.map_ok.mp ran
    refine ⟨fun blank => ?_, checked, rfl⟩
    rw [blank] at checked
    cases checked
  · exact Fallible.map_ok.mpr ⟨(), checked, rfl⟩

theorem door_publicModelID : Door applyPublicModelID "PUBLIC_MODEL_ID"
    (ConfigIntake.text "PUBLIC_MODEL_ID" "anselm-auto" fun _ => .ok ())
    (ConfigDump.text "PUBLIC_MODEL_ID" fun c => c.publicModelID) 1 := by
  refine door_text (fun id c => { c with publicModelID := id }) rfl (by decide) (fun {c d raw} ran => ?_)
    (fun explicit checked _ => ?_) (fun _ _ => rfl) (fun _ _ => rfl) fun _ => rfl
  · unfold applyPublicModelID at ran
    dsimp only at ran
    split at ran
    · cases ran
    · rename_i explicit
      exact ⟨explicit, rfl, Except.ok.inj ran⟩
  · exact if_neg explicit

/-- An override looks for the secret at once, a start in the cross-field checks. -/
theorem door_installPowMode : Door applyInstallPowMode "INSTALL_POW_MODE"
    (ConfigIntake.text "INSTALL_POW_MODE" powModeOff validatePowMode)
    (ConfigDump.text "INSTALL_POW_MODE" fun c => c.installPowMode) 23 := by
  refine door_text (fun m c => { c with installPowMode := m }) rfl (by decide) (fun {c d raw} ran => ?_)
    (fun {c raw} explicit checked valid => ?_) (fun _ _ => rfl) (fun _ _ => rfl) fun _ => rfl
  · unfold applyInstallPowMode at ran
    dsimp only at ran
    split at ran
    · cases ran
    · rename_i checked
      obtain ⟨_, _, stored⟩ := Fallible.map_ok.mp ran
      refine ⟨fun blank => ?_, checked, stored⟩
      rw [blank] at checked
      cases checked
  · unfold applyInstallPowMode
    dsimp only
    rw [checked]
    exact Fallible.map_ok.mpr ⟨(), valid.powSecret, rfl⟩

theorem int64_seconds {n : ℤ} (low : 1 ≤ n) (high : n ≤ maxUpstreamHeaderTimeoutSec) :
    int64 (seconds (n * second)) = n := by
  unfold maxUpstreamHeaderTimeoutSec at high
  obtain ⟨n, rfl⟩ := Int.eq_ofNat_of_zero_le (by omega : 0 ≤ n)
  have small : n < 2 ^ 53 := by omega
  have whole : (n * second : ℤ).tdiv second = n := Int.mul_tdiv_cancel _ (by decide)
  have rest : (n * second : ℤ).tmod second = 0 := Int.mul_tmod_left _ _
  have nothing : Float64.round 0 = 0 := by simpa using @Float64.round_int 0 (by decide)
  unfold seconds
  rw [whole, rest, Int.cast_zero, nothing, zero_div, nothing, add_zero, Int.cast_natCast,
    Float64.round_int small, Float64.round_int small]
  unfold int64
  rw [Rat.num_natCast, Rat.den_natCast]
  exact Int.tdiv_one _

/-- The key, the reading and the row in one place of the three lists are of one field. -/
theorem doors (default_ : ℤ) : ∀ entry ∈ (runtimeSpecs.zip ((intakes default_).zip runtimeSurfaces)).zipIdx,
    ∃ apply, entry.1.1.tier = .runtimeHot apply ∧
      Door apply entry.1.1.key entry.1.2.1 entry.1.2.2 entry.2 := by
  simp only [runtimeSpecs, intakes, runtimeSurfaces, List.zip_cons_cons, List.zip_nil_left, List.zipIdx_cons,
    List.zipIdx_nil, List.forall_mem_cons, List.not_mem_nil, Nat.reduceAdd, IsEmpty.forall_iff, implies_true,
    and_true]
  refine ⟨⟨_, rfl, door_gatewayMode⟩, ⟨_, rfl, door_publicModelID⟩, ?_, ?_, ?_, ?_, ?_, ?_, ?_, ?_, ?_, ?_, ?_, ?_,
    ?_, ?_, ?_, ?_, ?_, ?_, ?_, ?_, ?_, ⟨_, rfl, door_installPowMode⟩, ?_, ?_, ?_, ?_, ?_, ?_, ?_, ?_⟩
  case refine_1 =>
    refine door_bounded rfl (fun _ => rfl) (by decide) (by decide) (fun _ _ => rfl) (fun _ _ => rfl)
      fun c n _ _ same => ?_
    rw [show c.globalMonthlySpendPUSD = n * 1000000 from Value.number.inj (Option.some.inj same)]
    exact Int.mul_tdiv_cancel _ (by decide)
  case refine_26 =>
    refine door_bounded rfl (fun _ => rfl) (by decide) (by decide) (fun _ _ => rfl) (fun _ _ => rfl)
      fun c n _ _ same => ?_
    rw [show c.queueWait = n * millisecond from Value.number.inj (Option.some.inj same)]
    exact Int.mul_tdiv_cancel _ (by decide)
  case refine_27 =>
    refine door_bounded rfl (fun _ => rfl) (by decide) (by decide) (fun _ _ => rfl) (fun _ _ => rfl)
      fun c n low high same => ?_
    rw [show c.upstreamHeaderTimeout = n * second from Value.number.inj (Option.some.inj same)]
    exact int64_seconds low high
  all_goals
    refine door_plain rfl (fun _ => rfl) ?_ ?_ (fun _ _ => rfl) (fun _ _ => rfl) fun _ => rfl
    all_goals decide

/-! ## The three descriptions of a place in the registry -/

theorem hotKeys_nodup : hotKeys.Nodup := runtimeSurfaces_nodup

theorem hotKeys_intakes (default_ : ℤ) : (intakes default_).map Intake.key = hotKeys := (rfl)

theorem hotKeys_surfaces : runtimeSurfaces.map Surface.key = hotKeys := (rfl)

theorem applyOne_listed {spec : Spec} {apply : Config → String → Except ConfigError Config}
    (listed : spec ∈ runtimeSpecs) (tier : spec.tier = .runtimeHot apply) (c : Config) (raw : String) :
    applyOne c spec.key raw = apply c raw := by
  have found : specs.find? (fun other => other.key = spec.key) = some spec := by
    unfold specs
    rw [List.find?_append]
    cases found : runtimeSpecs.find? fun other => other.key = spec.key with
    | none => simpa using List.find?_eq_none.mp found spec listed
    | some other =>
      have named : other.key = spec.key := by simpa using List.find?_some found
      rw [List.inj_on_of_nodup_map hotKeys_nodup (List.mem_of_find?_eq_some found) listed named]
      rfl
  obtain ⟨key, _⟩ := spec
  cases tier
  rw [applyOne, found]

/-- Each place has its door, and each key its place. -/
theorem door_at (default_ : ℤ) {key : String} {i : ℕ} (place : hotKeys[i]? = some key) :
    ∃ row surface, (intakes default_)[i]? = some row ∧ runtimeSurfaces[i]? = some surface ∧
      Door (fun c raw => applyOne c key raw) key row surface i := by
  obtain ⟨inside, _⟩ := List.getElem?_eq_some_iff.mp place
  obtain ⟨spec, specs_⟩ : ∃ spec, runtimeSpecs[i]? = some spec :=
    ⟨_, List.getElem?_eq_getElem (l := runtimeSpecs) inside⟩
  obtain ⟨row, rows⟩ : ∃ row, (intakes default_)[i]? = some row :=
    ⟨_, List.getElem?_eq_getElem (l := intakes default_) inside⟩
  obtain ⟨surface, shown⟩ : ∃ surface, runtimeSurfaces[i]? = some surface :=
    ⟨_, List.getElem?_eq_getElem (l := runtimeSurfaces) inside⟩
  obtain ⟨apply, tier, door⟩ := doors default_ ((_, _, _), i) (List.mk_mem_zipIdx_iff_getElem?.mpr
    (List.getElem?_zip_eq_some.mpr ⟨specs_, List.getElem?_zip_eq_some.mpr ⟨rows, shown⟩⟩))
  have named : spec.key = key := by
    rw [hotKeys, List.getElem?_map, specs_] at place
    exact Option.some.inj place
  have same : (fun c raw => applyOne c key raw) = apply := by
    funext c raw
    rw [← named, applyOne_listed (List.mem_of_getElem? specs_) tier]
  rw [same, ← named]
  exact ⟨_, _, rows, shown, door⟩

end AnselmGateway.IntakeDoors
