import AnselmGateway.ChatContent
import AnselmGateway.Foundation.Base64
import AnselmGateway.LeaseSigner

/-! The handle of `internal/domain/video`: what an install polls a task by. It spells the task
and carries a tag over install and task; the digest is a parameter. Texts are byte strings. -/
namespace AnselmGateway.VideoHandle
open Foundation LeaseSigner

/-- `handleSep`. -/
def handleSep : UInt8 := 0x2E

/-- `tagBytes`. -/
def tagBytes : ℕ := 16

variable (hmac : Hmac)

/-- `DeriveKey`. -/
def deriveKey (material : Bytes) : Bytes :=
  if material = [] then [] else hmac material (utf8 "anselm-gateway-video-handle-v1")

/-- What `tag` writes to the digest. -/
def tagInput (installID body : Bytes) : Bytes := installID ++ 0 :: body

/-- `tag`. -/
def tag (key installID body : Bytes) : Bytes := (hmac key (tagInput installID body)).take tagBytes

/-- `SignHandle`. -/
def signHandle (key installID taskID : Bytes) : Bytes :=
  if key = [] ∨ installID = [] ∨ taskID = [] then []
  else
    let body := Base64.encode taskID
    body ++ handleSep :: Base64.encode (tag hmac key installID body)

/-- `ParseHandle`; `none` is `ErrHandleInvalid`. Where there is no separator, nothing is behind it. -/
def parseHandle (key installID handle : Bytes) : Option Bytes :=
  if key = [] ∨ installID = [] then none
  else
    let (body, got) := ChatContent.cut handleSep handle
    if body = [] ∨ got = [] then none
    else
      match Base64.decode got with
      | none => none
      | some gotTag =>
        if gotTag ≠ tag hmac key installID body then none
        else (Base64.decode body).filter fun taskID => !taskID.isEmpty

/-- The tag a handle carries. -/
def presentedTag (handle : Bytes) : Option Bytes := Base64.decode (ChatContent.cut handleSep handle).2

/-- What its tag is checked against, for one install. -/
def presentedInput (installID handle : Bytes) : Bytes :=
  tagInput installID (ChatContent.cut handleSep handle).1

/-- An ideal MAC on the messages it is asked about: no two of them share a tag. -/
def Ideal (key : Bytes) (asked : Set Bytes) : Prop :=
  asked.InjOn fun message => (hmac key message).take tagBytes

variable {hmac} {key installID taskID handle : Bytes}

/-! ## The two encodings -/

private theorem foreign_sep : Base64.Foreign handleSep := ⟨by decide, by decide⟩

private theorem foreign_zero : Base64.Foreign 0 := ⟨by decide, by decide⟩

/-- What two texts without the separator stand behind is told by the last separator. -/
theorem split_at_last {separator : UInt8} {first second behind behind' : Bytes}
    (free : separator ∉ behind) (free' : separator ∉ behind')
    (same : first ++ separator :: behind = second ++ separator :: behind') :
    first = second ∧ behind = behind' := by
  have reversed := congrArg List.reverse same
  simp only [List.reverse_append, List.reverse_cons, List.append_assoc, List.singleton_append] at reversed
  have ends := congrArg (ChatContent.cut separator) reversed
  rw [ChatContent.cut_append (by simpa using free), ChatContent.cut_append (by simpa using free')] at ends
  obtain ⟨tails, heads⟩ := Prod.mk.inj ends
  exact ⟨List.reverse_inj.mp heads, List.reverse_inj.mp tails⟩

/-- Whatever the install, a text that can be read is told apart from what is before it. -/
theorem tagInput_injective {installID' body body' taskID' : Bytes} (read : Base64.decode body = some taskID)
    (read' : Base64.decode body' = some taskID') (same : tagInput installID body = tagInput installID' body') :
    installID = installID' ∧ body = body' :=
  split_at_last (Base64.foreign_decode foreign_zero read) (Base64.foreign_decode foreign_zero read') same

theorem cut_signHandle (present : key ≠ []) (owned : installID ≠ []) (some_ : taskID ≠ []) :
    ChatContent.cut handleSep (signHandle hmac key installID taskID) =
      (Base64.encode taskID, Base64.encode (tag hmac key installID (Base64.encode taskID))) := by
  rw [signHandle, if_neg (by simp [present, owned, some_])]
  exact ChatContent.cut_append (Base64.foreign_encode foreign_sep taskID)

/-- What an accepted handle is. -/
theorem parseHandle_some {task : Bytes} (accepted : parseHandle hmac key installID handle = some task) :
    Base64.decode (ChatContent.cut handleSep handle).1 = some task ∧
      presentedTag handle = some ((hmac key (presentedInput installID handle)).take tagBytes) := by
  unfold parseHandle at accepted
  split at accepted
  · cases accepted
  · dsimp only at accepted
    split at accepted
    · cases accepted
    · split at accepted
      · cases accepted
      · rename_i gotTag got
        split at accepted
        · cases accepted
        · rename_i same
          obtain ⟨read, _⟩ := Option.filter_eq_some_iff.mp accepted
          exact ⟨read, got.trans (congrArg some (not_not.mp same))⟩

/-! ## Binding -/

/-- A handle is read back by the install it was signed for, and a tag minted for one install
and task is accepted for no other. -/
theorem handle_binds_install_and_task (digest : ∀ key message, (hmac key message).length = 32) (key : Bytes) :
    (∀ installID taskID : Bytes, key ≠ [] → installID ≠ [] → taskID ≠ [] →
      parseHandle hmac key installID (signHandle hmac key installID taskID) = some taskID) ∧
    ∀ asked : Set Bytes, Ideal hmac key asked → ∀ installID taskID : Bytes,
      tagInput installID (Base64.encode taskID) ∈ asked →
      ∀ presenter handle task : Bytes, presentedInput presenter handle ∈ asked →
        parseHandle hmac key presenter handle = some task →
        presentedTag handle = some (tag hmac key installID (Base64.encode taskID)) →
        presenter = installID ∧ task = taskID := by
  constructor
  · intro installID taskID present owned some_
    have tagged : tag hmac key installID (Base64.encode taskID) ≠ [] := by
      intro empty
      have length := congrArg List.length empty
      rw [tag, List.length_take, digest] at length
      cases length
    rw [parseHandle, if_neg (by simp [present, owned]), cut_signHandle present owned some_]
    dsimp only
    rw [if_neg (by simp [Base64.encode_ne_nil some_, Base64.encode_ne_nil tagged]), Base64.decode_encode]
    dsimp only
    rw [if_neg (by simp), Base64.decode_encode]
    simp [some_]
  · intro asked ideal installID taskID minted presenter handle task presented accepted tagged
    obtain ⟨read, checked⟩ := parseHandle_some accepted
    rw [tagged] at checked
    have inputs := ideal presented minted (Option.some_inj.mp checked).symm
    obtain ⟨same, spelled⟩ := tagInput_injective read (Base64.decode_encode taskID) inputs
    refine ⟨same, ?_⟩
    rw [spelled, Base64.decode_encode] at read
    exact (Option.some_inj.mp read).symm

/-- What the standard library answers to two installs that name one task. -/
def sampleHmac (_ message : Bytes) : Bytes :=
  if message = tagInput (utf8 "ins_1") (Base64.encode (utf8 "task-1")) then
    [57, 135, 206, 167, 137, 15, 8, 201, 167, 36, 184, 37, 139, 90, 193, 80, 189, 225, 216,
      14, 32, 83, 158, 138, 178, 101, 78, 128, 32, 119, 50, 40]
  else if message = tagInput (utf8 "ins_2") (Base64.encode (utf8 "task-1")) then
    [141, 202, 15, 185, 4, 233, 152, 49, 208, 23, 174, 161, 70, 229, 241, 242, 162, 172, 231,
      20, 64, 136, 8, 233, 1, 63, 234, 128, 36, 166, 194, 201]
  else List.replicate 32 0

def sampleKey : Bytes := utf8 "0123456789abcdef0123456789abcdef"

/-- The install that paid polls its task, and another does not. -/
theorem handle_binds_install_and_task_polled :
    parseHandle sampleHmac sampleKey (utf8 "ins_1") (signHandle sampleHmac sampleKey (utf8 "ins_1") (utf8 "task-1")) =
        some (utf8 "task-1") ∧
      parseHandle sampleHmac sampleKey (utf8 "ins_2")
        (signHandle sampleHmac sampleKey (utf8 "ins_1") (utf8 "task-1")) = none := by
  have digest : ∀ key message, (sampleHmac key message).length = 32 := by
    intro key message
    unfold sampleHmac
    split
    · rfl
    · split <;> rfl
  obtain ⟨own, other⟩ := handle_binds_install_and_task digest sampleKey
  refine ⟨own (utf8 "ins_1") (utf8 "task-1") (by decide +kernel) (by decide +kernel) (by decide +kernel), ?_⟩
  have ideal : Ideal sampleHmac sampleKey {tagInput (utf8 "ins_1") (Base64.encode (utf8 "task-1")),
      tagInput (utf8 "ins_2") (Base64.encode (utf8 "task-1"))} := by
    rintro first (rfl | rfl) second (rfl | rfl) same
    · rfl
    · exact absurd same (by decide +kernel)
    · exact absurd same (by decide +kernel)
    · rfl
  have presented : presentedInput (utf8 "ins_2") (signHandle sampleHmac sampleKey (utf8 "ins_1") (utf8 "task-1")) =
      tagInput (utf8 "ins_2") (Base64.encode (utf8 "task-1")) := by decide +kernel
  cases accepted : parseHandle sampleHmac sampleKey (utf8 "ins_2")
      (signHandle sampleHmac sampleKey (utf8 "ins_1") (utf8 "task-1")) with
  | none => rfl
  | some task =>
    obtain ⟨same, _⟩ := other _ ideal (utf8 "ins_1") (utf8 "task-1") (.inl rfl) (utf8 "ins_2") _ task
      (presented ▸ .inr rfl) accepted (by decide +kernel)
    exact absurd same (by decide +kernel)

/-- Without a key nothing is signed, so nothing is read back. -/
theorem unsigned_task_unreadable :
    ¬∀ key installID taskID : Bytes, taskID ≠ [] →
      parseHandle sampleHmac key installID (signHandle sampleHmac key installID taskID) = some taskID := by
  intro always
  have read := always [] (utf8 "ins_1") (utf8 "task-1") (by decide +kernel)
  cases read

end AnselmGateway.VideoHandle
