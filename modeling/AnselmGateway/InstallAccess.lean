import AnselmGateway.InstallStore
import AnselmGateway.LastSeen

/-! Access by a registered install: what `internal/infra/store/installstore` reads and
rewrites of a stored row, and `LookupInstall`, which every business endpoint asks before
it serves an install. -/
namespace AnselmGateway.InstallAccess
open Foundation InstallStore

/-- `UPDATE installs SET … WHERE …`. Neither the id nor the thumbprint is ever assigned. -/
def update (installs : Installs) (matching : String → InstallRow → Bool)
    (assign : InstallRow → InstallRow)
    (same : ∀ row, (assign row).keyThumbprint = row.keyThumbprint) : Except Refusal (Installs × ℕ) :=
  match ran : installs.table.updateWhere matching assign with
  | .error refusal => .error refusal
  | .ok (table, count) => .ok (
      { table := table
        thumbprints := by
          have kept : table.rows.map (fun row => row.2.keyThumbprint) =
              installs.table.rows.map fun row => row.2.keyThumbprint := by
            rw [(Table.rows_updateWhere ran).1, List.map_map]
            apply List.map_congr_left
            intro row _
            simp only [Function.comp_apply]
            split
            · exact same row.2
            · rfl
          exact kept ▸ installs.thumbprints },
      count)

/-- `SetStatus`: whether an install was found, and the installs after it. -/
def setStatus (id : String) (status : Status) (installs : Installs) :
    Except Refusal (Bool × Installs) :=
  match update installs (Table.at' id fun _ => true) (fun row => { row with status := status })
      (fun _ => rfl) with
  | .error refusal => .error refusal
  | .ok (after, count) => .ok (decide (0 < count), after)

/-- `RefreshLastSeen`. A time that was never written is not before the cutoff. -/
def refreshLastSeen (id : String) (now interval : ℤ) (installs : Installs) :
    Except Refusal Installs :=
  match update installs
      (Table.at' id fun row => row.lastSeenAt.any fun seen => decide (seen < now - interval))
      (fun row => { row with lastSeenAt := some now }) (fun _ => rfl) with
  | .error refusal => .error refusal
  | .ok (after, _) => .ok after

/-- `Lookup`. -/
def lookup (installID : String) (installs : Installs) : Option Status :=
  (installs.table.get? installID).map InstallRow.status

/-- `PublicKey`. -/
def publicKey (installID : String) (installs : Installs) : Option Bytes :=
  (installs.table.get? installID).map InstallRow.publicKey

/-- What a lookup meets: the clock, and whether its read and its cosmetic write fail. -/
structure Visit where
  installID : String
  now : ℤ
  readFails : Bool
  writeFails : Bool

/-- `LookupInstall`, over the installs and the stamps of the last refreshes. `none` is a
failure, and a failed refresh is none. -/
def lookupInstall (visit : Visit) (installs : Installs) (lastSeen : Dict String ℤ) :
    Option (Option (String × Status)) × Installs × Dict String ℤ :=
  if visit.installID = "" then (some none, installs, lastSeen)
  else if visit.readFails then (none, installs, lastSeen)
  else
    match lookup visit.installID installs with
    | none => (some none, installs, lastSeen)
    | some status =>
      let found := some (some (visit.installID, status))
      match LastSeen.shouldRefresh lastSeen ⟨visit.installID, visit.now⟩ with
      | (false, stamps) => (found, installs, stamps)
      | (true, stamps) =>
        if visit.writeFails then (found, installs, stamps)
        else
          match refreshLastSeen visit.installID visit.now LastSeen.lastSeenRefreshInterval
              installs with
          | .error _ => (found, installs, stamps)
          | .ok after => (found, after, stamps)

/-! ## What a rewrite leaves -/

section Update
variable {installs after : Installs} {matching : String → InstallRow → Bool}
  {assign : InstallRow → InstallRow}
  {same : ∀ row, (assign row).keyThumbprint = row.keyThumbprint} {count : ℕ}

theorem update_ok (ran : update installs matching assign same = .ok (after, count)) :
    installs.table.updateWhere matching assign = .ok (after.table, count) := by
  unfold update at ran
  split at ran
  · cases ran
  · rename_i table count ran'
    cases ran
    exact ran'

/-- A thumbprint keeps its id. -/
theorem idOf_update (ran : update installs matching assign same = .ok (after, count))
    (thumbprint : String) : after.idOf thumbprint = installs.idOf thumbprint := by
  unfold Installs.idOf
  rw [(Table.rows_updateWhere (update_ok ran)).1, List.find?_map, Option.map_map]
  have unseen : (fun row : String × InstallRow =>
        decide ((if matching row.1 row.2 then assign row.2 else row.2).keyThumbprint = thumbprint)) =
      fun row => decide (row.2.keyThumbprint = thumbprint) := by
    funext row
    split
    · rw [same]
    · rfl
  change Option.map _ (List.find? (fun row : String × InstallRow =>
    decide ((if matching row.1 row.2 then assign row.2 else row.2).keyThumbprint = thumbprint))
      installs.table.rows) = _
  rw [unseen]
  rfl

end Update

section Rows
variable {installs after : Installs} {id : String}

/-- The status of one row changes, and whether there is such a row is told. -/
theorem setStatus_ok {status : Status} {found : Bool}
    (ran : setStatus id status installs = .ok (found, after)) :
    found = (installs.table.get? id).isSome ∧
      (∀ other, after.table.get? other = (installs.table.get? other).map fun row =>
        if other = id then { row with status := status } else row) ∧
      ∀ thumbprint, after.idOf thumbprint = installs.idOf thumbprint := by
  unfold setStatus at ran
  split at ran
  · cases ran
  · rename_i next count updated
    cases ran
    have written := update_ok updated
    refine ⟨?_, fun other => ?_, idOf_update updated⟩
    · rw [Table.count_updateAt written]
      cases installs.table.get? id <;> rfl
    · rw [Table.get?_updateWhere written]
      simp only [Table.at', Bool.and_true, decide_eq_true_eq]

/-- A refresh touches nothing but the time. -/
theorem refreshLastSeen_ok {now interval : ℤ}
    (ran : refreshLastSeen id now interval installs = .ok after) :
    (∀ other, ∃ seen : Option ℤ → Option ℤ, after.table.get? other =
      (installs.table.get? other).map fun row => { row with lastSeenAt := seen row.lastSeenAt }) ∧
      ∀ thumbprint, after.idOf thumbprint = installs.idOf thumbprint := by
  unfold refreshLastSeen at ran
  split at ran
  · cases ran
  · rename_i next count updated
    cases ran
    refine ⟨fun other => ?_, idOf_update updated⟩
    refine ⟨fun seen => if other = id ∧ seen.any (fun seen => decide (seen < now - interval)) then
      some now else seen, ?_⟩
    rw [Table.get?_updateWhere (update_ok updated)]
    simp only [Table.at', Bool.and_eq_true, decide_eq_true_eq]
    congr 1
    funext row
    split <;> rfl

end Rows

end AnselmGateway.InstallAccess
