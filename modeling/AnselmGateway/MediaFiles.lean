import AnselmGateway.Foundation.Bytes

/-! The staging area of `internal/infra/mediafs`. Every operation runs under one
process-wide mutex, so each is one indivisible step on the files. An upload id
names one file for good: after its removal the path is gone, but a reader that
holds it open still sees its bytes. -/
namespace AnselmGateway.MediaFiles
open Foundation

structure StagedFile where
  bytes : Bytes
  /-- The path still leads to it. -/
  linked : Bool
  deriving DecidableEq

abbrev Files := String → Option StagedFile

inductive FileError where
  | badUploadID
  | offset
  | exists
  | notExist
  /-- Any other failure of the file system, or a cancelled request. -/
  | io
  deriving DecidableEq, Repr

/-- `validUploadID`: `mup_` and 32 lowercase hex digits. -/
def validUploadID (uploadID : String) : Bool :=
  let bytes := utf8 uploadID
  bytes.take 4 == [109, 117, 112, 95] && decide (bytes.length = 36) &&
    (bytes.drop 4).all fun c => (decide (48 ≤ c) && decide (c ≤ 57)) || (decide (97 ≤ c) && decide (c ≤ 102))

/-- The bytes the path of an id leads to. -/
def Files.read (files : Files) (uploadID : String) : Except FileError Bytes :=
  if validUploadID uploadID then
    match files uploadID with
    | some ⟨bytes, true⟩ => .ok bytes
    | _ => .error .notExist
  else .error .badUploadID

def Files.write (files : Files) (uploadID : String) (file : StagedFile) : Files :=
  fun other => if other = uploadID then some file else files other

/-- `Create`, exclusively. -/
def create (uploadID : String) (files : Files) : Except FileError Files :=
  match files.read uploadID with
  | .ok _ => .error .exists
  | .error .notExist => .ok (files.write uploadID ⟨[], true⟩)
  | .error failure => .error failure

/-- `Append`: at exactly the end of the file. -/
def append (uploadID : String) (expectedOffset : ℕ) (chunk : Bytes) (files : Files) :
    Except FileError Files :=
  if chunk = [] then .error .offset
  else
    match files.read uploadID with
    | .error failure => .error failure
    | .ok bytes =>
      if bytes.length ≠ expectedOffset then .error .offset
      else .ok (files.write uploadID ⟨bytes ++ chunk, true⟩)

/-- `Size`. -/
def size (uploadID : String) (files : Files) : Except FileError ℕ :=
  (files.read uploadID).map List.length

/-- `Truncate`: never grows a file. -/
def truncate (uploadID : String) (size : ℕ) (files : Files) : Except FileError Files :=
  match files.read uploadID with
  | .error failure => .error failure
  | .ok bytes =>
    if size > bytes.length then .error .offset
    else .ok (files.write uploadID ⟨bytes.take size, true⟩)

/-- `Remove`: a missing file is fine. -/
def remove (uploadID : String) (files : Files) : Except FileError Files :=
  if validUploadID uploadID then
    match files uploadID with
    | some ⟨bytes, true⟩ => .ok (files.write uploadID ⟨bytes, false⟩)
    | _ => .ok files
  else .error .badUploadID

/-- `detectMIME`, over the first 64 bytes. -/
def detectMIME (pfx : Bytes) : String :=
  let riff := decide (pfx.length ≥ 12) && pfx.take 4 == utf8 "RIFF"
  if pfx.take 8 = [137, 80, 78, 71, 13, 10, 26, 10] then "image/png"
  else if pfx.take 3 = [255, 216, 255] then "image/jpeg"
  else if riff && (pfx.drop 8).take 4 == utf8 "WEBP" then "image/webp"
  else if decide (pfx.length ≥ 12) && (pfx.drop 4).take 4 == utf8 "ftyp" then "video/mp4"
  else if riff && (pfx.drop 8).take 4 == utf8 "WAVE" then "audio/wav"
  else if pfx.take 3 = utf8 "ID3" then "audio/mpeg"
  else
    match pfx with
    | first :: second :: _ =>
      if first = 255 ∧ second &&& 224 = 224 then "audio/mpeg" else ""
    | _ => ""

/-- `MIMEType`. -/
def mimeType (uploadID : String) (files : Files) : Except FileError String :=
  (files.read uploadID).map fun bytes => detectMIME (bytes.take 64)

/-! ## What each operation does to the files -/

section Operations
variable {files after : Files} {uploadID : String}

theorem read_ok {bytes : Bytes} (found : files.read uploadID = .ok bytes) :
    files uploadID = some ⟨bytes, true⟩ := by
  unfold Files.read at found
  split at found
  · split at found
    · rename_i same
      cases found
      exact same
    · cases found
  · cases found

@[simp] theorem write_same (file : StagedFile) : files.write uploadID file uploadID = some file := by
  simp [Files.write]

theorem write_other {other : String} (apart : other ≠ uploadID) (file : StagedFile) :
    files.write uploadID file other = files other := by
  simp [Files.write, apart]

/-- A created file is empty, and its path was free. -/
theorem create_ok (ran : create uploadID files = .ok after) :
    after = files.write uploadID ⟨[], true⟩ := by
  unfold create at ran
  split at ran
  · cases ran
  · cases ran
    rfl
  · cases ran

theorem append_ok {offset : ℕ} {chunk : Bytes} (ran : append uploadID offset chunk files = .ok after) :
    ∃ bytes, files uploadID = some ⟨bytes, true⟩ ∧ bytes.length = offset ∧ chunk ≠ [] ∧
      after = files.write uploadID ⟨bytes ++ chunk, true⟩ := by
  unfold append at ran
  split at ran
  · cases ran
  · rename_i nonempty
    split at ran
    · cases ran
    · rename_i bytes found
      split at ran
      · cases ran
      · rename_i atEnd
        cases ran
        exact ⟨bytes, read_ok found, not_not.mp atEnd, nonempty, rfl⟩

theorem truncate_ok {size : ℕ} (ran : truncate uploadID size files = .ok after) :
    ∃ bytes, files uploadID = some ⟨bytes, true⟩ ∧ size ≤ bytes.length ∧
      after = files.write uploadID ⟨bytes.take size, true⟩ := by
  unfold truncate at ran
  split at ran
  · cases ran
  · rename_i bytes found
    split at ran
    · cases ran
    · rename_i fits
      cases ran
      exact ⟨bytes, read_ok found, Nat.not_lt.mp fits, rfl⟩

/-- A removal unlinks the file and keeps its bytes for whoever has it open. -/
theorem remove_ok (ran : remove uploadID files = .ok after) :
    after = files ∨ ∃ bytes, files uploadID = some ⟨bytes, true⟩ ∧
      after = files.write uploadID ⟨bytes, false⟩ := by
  unfold remove at ran
  split at ran
  · split at ran
    · rename_i bytes found
      cases ran
      exact .inr ⟨bytes, found, rfl⟩
    · cases ran
      exact .inl rfl
  · cases ran

/-- After a removal no path leads to the file. -/
theorem remove_unlinked (ran : remove uploadID files = .ok after) (bytes : Bytes) :
    after uploadID ≠ some ⟨bytes, true⟩ := by
  unfold remove at ran
  split at ran
  · split at ran
    · cases ran
      rw [write_same]
      simp
    · rename_i unlinked
      cases ran
      exact unlinked bytes
  · cases ran

end Operations
end AnselmGateway.MediaFiles
