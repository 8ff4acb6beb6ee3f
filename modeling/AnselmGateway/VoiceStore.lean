import AnselmGateway.Foundation.Clock
import AnselmGateway.Foundation.Index

/-! The voice store of `internal/infra/store/voicestore`: one row for each
recorded registration. Every operation is one serialized statement or
transaction. -/
namespace AnselmGateway.VoiceStore
open Foundation

/-- `PerInstallInventory`. -/
def perInstallInventory : ℕ := 2

/-- `Voice`. -/
structure Voice where
  id : String
  name : String
  upstreamID : String
  createdAt : ℤ
  deriving DecidableEq, Repr

/-- An `install_voices` row below its primary key `id`; `created_at` counts
seconds. -/
structure VoiceRow where
  installID : String
  name : String
  upstreamID : String
  createdAt : ℤ
  deriving DecidableEq, Repr

def installVoicesSchema : Schema String VoiceRow := ⟨fun _ _ => true⟩

/-- `idx_install_voice_name`. -/
def nameEntry (row : VoiceRow) : String × String := (row.installID, row.name)

/-- `install_voices`. -/
abbrev Voices := Indexed installVoicesSchema nameEntry

/-- `ErrInventoryFull`, `ErrNameTaken`, and a failed statement, wrapped. -/
inductive VoiceError where
  | inventoryFull
  | nameTaken
  | failed
  deriving DecidableEq, Repr

/-- The rows of one install. -/
def ownedBy (installID : String) (voices : Voices) : List (String × VoiceRow) :=
  voices.table.rows.filter fun row => row.2.installID = installID

/-- What one row scans to. -/
def scan (row : String × VoiceRow) : Voice :=
  ⟨row.1, row.2.name, row.2.upstreamID, unix row.2.createdAt⟩

/-- `ListVoices`, in the order `created_at ASC, id ASC`. -/
def listVoices (installID : String) (voices : Voices) : List Voice :=
  ((ownedBy installID voices).mergeSort fun a b =>
    decide (a.2.createdAt < b.2.createdAt) ||
      (decide (a.2.createdAt = b.2.createdAt) && decide (a.1 ≤ b.1))).map scan

/-- `CountAllVoices`. -/
def countAllVoices (voices : Voices) : ℕ := voices.table.rows.length

/-- The row `CreateVoice` inserts. -/
def newRow (installID : String) (v : Voice) : VoiceRow :=
  ⟨installID, v.name, v.upstreamID, v.createdAt / second⟩

/-- `CreateVoice`. The driver reports a taken id and a taken name in one text. -/
def createVoice (installID : String) (v : Voice) (voices : Voices) : Except VoiceError Voices :=
  if (ownedBy installID voices).length ≥ perInstallInventory then .error .inventoryFull
  else
    match voices.insert v.id (newRow installID v) with
    | .ok after => .ok after
    | .error .unique => .error .nameTaken
    | .error _ => .error .failed

/-- The lookup of `DeleteVoice`. -/
def lookupVoice (installID id : String) (voices : Voices) : Option String :=
  ((voices.table.get? id).filter fun row => decide (row.installID = installID)).map VoiceRow.upstreamID

/-- Its `DELETE`, a statement of its own. -/
def deleteRow (installID id : String) (voices : Voices) : Voices :=
  voices.deleteWhere fun other row => decide (other = id) && decide (row.installID = installID)

/-! ## What the operations leave -/

section
variable {voices after : Voices} {installID id : String} {v : Voice}

theorem mem_listVoices : v ∈ listVoices installID voices ↔
    ∃ row, voices.table.get? v.id = some row ∧ row.installID = installID ∧ v = scan (v.id, row) := by
  unfold listVoices ownedBy
  rw [List.mem_map]
  constructor
  · rintro ⟨⟨key, row⟩, member, rfl⟩
    rw [List.mem_mergeSort, List.mem_filter] at member
    exact ⟨row, Table.get?_eq_some.mpr member.1, of_decide_eq_true member.2, rfl⟩
  · rintro ⟨row, held, owner, same⟩
    refine ⟨(v.id, row), ?_, same.symm⟩
    rw [List.mem_mergeSort, List.mem_filter]
    exact ⟨Table.get?_eq_some.mp held, decide_eq_true owner⟩

/-- A recorded voice is one new row under a free id, of an install that had room. -/
theorem createVoice_ok (ran : createVoice installID v voices = .ok after) :
    after.table.rows = voices.table.rows ++ [(v.id, newRow installID v)] ∧
      voices.table.get? v.id = none ∧ (ownedBy installID voices).length < perInstallInventory := by
  unfold createVoice at ran
  split at ran
  · cases ran
  · rename_i room
    split at ran
    · rename_i inserted
      cases ran
      obtain ⟨rows, free⟩ := Indexed.insert_ok inserted
      exact ⟨rows, free, Nat.lt_of_not_le room⟩
    · cases ran
    · cases ran

/-- A deletion takes the one row of its id away, if it belongs to the install. -/
theorem get?_deleteRow (key : String) : (deleteRow installID id voices).table.get? key =
    (voices.table.get? key).filter fun row =>
      !(decide (key = id) && decide (row.installID = installID)) :=
  Table.get?_deleteWhere voices.table
    (fun other row => decide (other = id) && decide (row.installID = installID)) key

end
end AnselmGateway.VoiceStore
