import AnselmGateway.VideoGeneration

/-! An image request from its body to the provider: the handler of `handlers/business/images`, the
service of `internal/app/image`, the plan it freezes and the size the client spells. -/
namespace AnselmGateway.ImageGeneration
open Foundation Billing Genrun GenerationClients
open VideoGeneration (Attempt)

/-! ## The handler -/

def maxPromptChars : ℕ := 2000
def defaultSize : String := "1024x1024"
def minSidePixels : ℤ := 256
def maxSidePixels : ℤ := 4096
def minTotalPixels : ℤ := 512 * 512
def maxTotalPixels : ℤ := 2048 * 2048

/-- `maxSourceChars`, in bytes. -/
def maxSourceChars : ℕ := 14000000

/-- `requestBody`. -/
structure RequestBody where
  model : String := ""
  prompt : String := ""
  size : String := ""
  n : Option ℤ := none
  image : String := ""
  deriving DecidableEq

/-- `strings.Cut` around one character. -/
def cut (separator : Char) : List Char → Option (List Char × List Char)
  | [] => none
  | char :: rest =>
    if char = separator then some ([], rest)
    else (cut separator rest).map fun parts => (char :: parts.1, parts.2)

/-- The width and the height that a text spells around a separator. -/
def sides (separator : Char) (text : String) : Option (ℤ × ℤ) :=
  match cut separator text.toList with
  | none => none
  | some (w, hgt) =>
    match Upstream.atoi (String.ofList w), Upstream.atoi (String.ofList hgt) with
    | some wd, some ht => some (wd, ht)
    | _, _ => none

/-- The pixel envelope. -/
def Envelope (side : ℤ × ℤ) : Prop :=
  (minSidePixels ≤ side.1 ∧ side.1 ≤ maxSidePixels) ∧ (minSidePixels ≤ side.2 ∧ side.2 ≤ maxSidePixels) ∧
    minTotalPixels ≤ side.1 * side.2 ∧ side.1 * side.2 ≤ maxTotalPixels

instance (side : ℤ × ℤ) : Decidable (Envelope side) := inferInstanceAs (Decidable (_ ∧ _ ∧ _ ∧ _))

/-- `validSize`. -/
def validSize (beyond : Char → Char) (s : String) : Bool :=
  match sides 'x' (toLower beyond s) with
  | none => false
  | some side => decide (Envelope side)

/-- The size asked for. -/
def RequestBody.asked (body : RequestBody) : String :=
  if trimSpace body.size = "" then defaultSize else trimSpace body.size

/-- What the handler hands to the service. -/
inductive Call where
  | generate (prompt size : String)
  | edit (prompt size source : String)
  deriving DecidableEq

/-- `ServeHTTP`, up to the service; `none` is a body that does not decode. Both routes decode one
structure, so a source on the generation route is read and dropped. -/
def serveHTTP (beyond : Char → Char) (edit : Bool) (body : Option RequestBody) : Except APIError Call :=
  match body with
  | none => .error .badRequest
  | some body =>
    let prompt := trimSpace body.prompt
    if prompt = "" ∨ maxPromptChars < prompt.length then .error .badRequest
    else if body.n ≠ none ∧ body.n ≠ some 1 then .error .badRequest
    else if !validSize beyond body.asked then .error .badRequest
    else if edit then
      if body.image = "" ∨ maxSourceChars < body.image.utf8ByteSize then .error .imageSourceInvalid
      else .ok (.edit prompt body.asked body.image)
    else .ok (.generate prompt body.asked)

/-! ## The service -/

/-- What the service reads of the live configuration, and whether it is wired. -/
structure Settings where
  ready : Bool
  imageAvailable : Bool
  imageUpstreamModel : String

/-- The call of an attempt. -/
def upstreamCall (model prompt size source : String) : GenerationCall :=
  if source = "" then .generateImage model prompt size else .editImage model prompt size source

/-- `Service.run`, up to `genrun.Do`. -/
def Settings.run (s : Settings) (authorized : Except APIError String) (prompt size source : String) :
    Except APIError Attempt :=
  if !s.ready then .error .internal
  else if !s.imageAvailable then .error .imageUnavailable
  else
    match authorized with
    | .error error => .error error
    | .ok got =>
      match newUnitPlan providerQwen (trimSpace s.imageUpstreamModel) .images 1 with
      | .error _ => .error .internal
      | .ok plan =>
        .ok ⟨got, ⟨plan, .images, 1⟩, upstreamCall (trimSpace s.imageUpstreamModel) prompt size source⟩

/-- The shape guard of `Service.Edit`. -/
def dataURL (source : String) : Bool :=
  "data:".toList.isPrefixOf source.toList && !Upstream.contains source "://"

/-- `Service.Edit`. -/
def Settings.edit (s : Settings) (authorized : Except APIError String) (prompt size source : String) :
    Except APIError Attempt :=
  if !dataURL source then .error .imageSourceInvalid else s.run authorized prompt size source

/-- A request, through the handler and the service. -/
def Settings.accept (s : Settings) (beyond : Char → Char) (authorized : Except APIError String) (edit : Bool)
    (body : Option RequestBody) : Except APIError Attempt :=
  match serveHTTP beyond edit body with
  | .error error => .error error
  | .ok (.generate prompt size) => s.run authorized prompt size ""
  | .ok (.edit prompt size source) => s.edit authorized prompt size source

/-! ## What is sent -/

/-- What an image call marshals. -/
def imageBody : GenerationCall → Option Payload
  | .generateImage model prompt size => some (imagePayload model prompt size "")
  | .editImage model prompt size source => some (imagePayload model prompt size source)
  | _ => none

/-- The request an image call hands to the HTTP client. -/
def imageRequest (g : Option NativeClient) (out : Outside) : GenerationCall → Option Request
  | .generateImage model prompt size => (generateImage g out model prompt size).request
  | .editImage model prompt size source => (editImage g out model prompt size source).request
  | _ => none

/-- The sides that a body spells in the provider's dialect. -/
def sentSides (body : Payload) : Option (ℤ × ℤ) :=
  (((body.get? "parameters").bind (Payload.get? "size")).bind Payload.asText).bind (sides '*')

/-- The sides a body asks for, in whatever letters. -/
def RequestBody.sides (beyond : Char → Char) (body : RequestBody) : Option (ℤ × ℤ) :=
  ImageGeneration.sides 'x' (toLower beyond body.asked)

/-- `unicode.ToLower` takes nothing beyond ASCII to the letter or the digits of a size. -/
def Lowers (beyond : Char → Char) : Prop :=
  ∀ char : Char, 0x80 ≤ char.toNat → beyond char ∉ "x+-0123456789".toList

/-! ## Sizes -/

section Sizes
variable {beyond : Char → Char} {separator : Char} {text : String} {w hgt : List Char} {side : ℤ × ℤ}

/-- The part before the first separator, and the part behind it. -/
theorem cut_eq_some {chars : List Char} : cut separator chars = some (w, hgt) ↔
    chars = w ++ separator :: hgt ∧ separator ∉ w := by
  induction chars generalizing w with
  | nil => exact ⟨nofun, fun ⟨spelled, _⟩ => by cases w <;> cases spelled⟩
  | cons char rest ih =>
    unfold cut
    by_cases here : char = separator
    · rw [if_pos here, here]
      cases w with
      | nil => simp [eq_comm]
      | cons first w => simp +contextual [eq_comm]
    · rw [if_neg here, Option.map_eq_some_iff]
      constructor
      · rintro ⟨⟨w, hgt⟩, found, same⟩
        cases same
        obtain ⟨spelled, none_⟩ := ih.mp found
        exact ⟨congrArg (char :: ·) spelled, by simp [none_, Ne.symm here]⟩
      · rintro ⟨spelled, none_⟩
        cases w with
        | nil => exact absurd (List.cons.inj spelled).1 here
        | cons first w =>
          obtain ⟨rfl, behind⟩ := List.cons.inj spelled
          exact ⟨(w, hgt), ih.mpr ⟨behind, fun member => none_ (List.mem_cons_of_mem _ member)⟩, rfl⟩

theorem sides_eq_some : sides separator text = some side ↔
    ∃ w hgt, (text.toList = w ++ separator :: hgt ∧ separator ∉ w) ∧
      Upstream.atoi (String.ofList w) = some side.1 ∧ Upstream.atoi (String.ofList hgt) = some side.2 := by
  unfold sides
  constructor
  · intro found
    split at found
    · cases found
    · rename_i w hgt parts
      split at found
      · rename_i wd ht width height
        cases found
        exact ⟨w, hgt, cut_eq_some.mp parts, width, height⟩
      · cases found
  · rintro ⟨w, hgt, parts, width, height⟩
    simp only [cut_eq_some.mpr parts, width, height]

/-- What holds of every ASCII character. -/
theorem ascii {p : Char → Prop} (each : ∀ n : Fin 128, p (Char.ofNat n)) {char : Char} (small : char.toNat < 0x80) :
    p char := by
  have here := each ⟨char.toNat, small⟩
  rwa [Char.ofNat_toNat] at here

/-- What a number is spelled with. -/
def numeral : List Char := "+-0123456789".toList

theorem digit_numeral {char : Char} (digit : char.isDigit = true) : char ∈ numeral := by
  have small : char.toNat < 0x80 := by
    simp only [Char.isDigit, Bool.and_eq_true, decide_eq_true_eq, UInt32.le_iff_toNat_le] at digit
    exact lt_of_le_of_lt digit.2 (by decide)
  exact ascii (p := fun char => char.isDigit = true → char ∈ numeral) (by decide) small digit

/-- A number is spelled in digits, but for its sign. -/
theorem atoi_numeral {chars : List Char} {value : ℤ} (read : Upstream.atoi (String.ofList chars) = some value) :
    ∀ char ∈ chars, char ∈ numeral := by
  unfold Upstream.atoi at read
  rw [String.toList_ofList] at read
  split at read
  rename_i sign rest parts
  split at read
  · cases read
  · rename_i all
    have digits : ∀ char ∈ rest, char ∈ numeral := fun char member =>
      digit_numeral (List.all_eq_true.mp (not_not.mp (not_or.mp all).2) char member)
    split at parts <;> cases parts
    · exact List.forall_mem_cons.mpr ⟨by decide, digits⟩
    · exact List.forall_mem_cons.mpr ⟨by decide, digits⟩
    · exact digits

/-! ## Letters -/

/-- What `strings.ToLower` makes of a character. -/
def lower (beyond : Char → Char) (char : Char) : Char :=
  if char.toNat < 0x80 then char.toLower else beyond char

theorem toLower_toList : (toLower beyond text).toList = text.toList.map (lower beyond) := by
  rw [toLower, String.toList_ofList]
  rfl

/-- Only the letter itself becomes the letter of a size, and only a numeral a numeral. -/
theorem lower_size (lowers : Lowers beyond) {char : Char} :
    (lower beyond char = 'x' → char = 'x' ∨ char = 'X') ∧ (lower beyond char ∈ numeral → lower beyond char = char) := by
  by_cases small : char.toNat < 0x80
  · rw [lower, if_pos small]
    exact ascii (p := fun char => (char.toLower = 'x' → char = 'x' ∨ char = 'X') ∧
      (char.toLower ∈ numeral → char.toLower = char)) (by decide) small
  · rw [lower, if_neg small]
    have spared := lowers char (Nat.le_of_not_lt small)
    refine ⟨fun is => absurd ?_ spared, fun is => absurd ?_ spared⟩
    · rw [is]
      exact List.mem_cons_self
    · exact List.mem_cons_of_mem _ is

theorem map_lower_numeral (lowers : Lowers beyond) {chars lowered : List Char} (same : chars.map (lower beyond) = lowered)
    (numerals : ∀ char ∈ lowered, char ∈ numeral) : chars = lowered := by
  subst same
  rw [List.forall_mem_map] at numerals
  have each : chars.map (lower beyond) = chars.map id :=
    List.map_congr_left fun char member => (lower_size lowers).2 (numerals char member)
  rw [each, List.map_id]

/-- A size that reads as two numbers is spelled by them, around the letter in one of its cases. -/
theorem sides_lowered (lowers : Lowers beyond) (read : sides 'x' (toLower beyond text) = some side) :
    ∃ w letter hgt, text.toList = w ++ letter :: hgt ∧ (letter = 'x' ∨ letter = 'X') ∧
      Upstream.atoi (String.ofList w) = some side.1 ∧ Upstream.atoi (String.ofList hgt) = some side.2 := by
  obtain ⟨w, hgt, ⟨spelled, _⟩, width, height⟩ := sides_eq_some.mp read
  rw [toLower_toList] at spelled
  obtain ⟨before, rest, whole, left, right⟩ := List.map_eq_append_iff.mp spelled
  obtain ⟨letter, behind, cons, here, behind_⟩ := List.map_eq_cons_iff.mp right
  rw [map_lower_numeral lowers left (atoi_numeral width), cons,
    map_lower_numeral lowers behind_ (atoi_numeral height)] at whole
  exact ⟨w, letter, hgt, whole, (lower_size lowers).1 here, width, height⟩

/-- The spelling of the provider: a star for the letter. -/
def respelled (text : String) : String :=
  String.ofList (text.toList.map fun char => if char = 'x' then '*' else char)

theorem respelled_numerals {chars : List Char} (numerals : ∀ char ∈ chars, char ∈ numeral) :
    chars.map (fun char => if char = 'x' then '*' else char) = chars := by
  have absent : 'x' ∉ numeral := by decide
  conv_rhs => rw [← List.map_id chars]
  refine List.map_congr_left fun char member => if_neg ?_
  rintro rfl
  exact absent (numerals _ member)

/-- The spelling has the same two numbers where the letter was the small one. -/
theorem sides_respelled (lowers : Lowers beyond) (read : sides 'x' (toLower beyond text) = some side) :
    sides '*' (respelled text) = some side ↔ 'x' ∈ text.toList := by
  obtain ⟨w, letter, hgt, whole, letters, width, height⟩ := sides_lowered lowers read
  have before := atoi_numeral width
  have behind := atoi_numeral height
  have star : '*' ∉ numeral := by decide
  have small : 'x' ∉ numeral := by decide
  have spelled : (respelled text).toList = w ++ (if letter = 'x' then '*' else letter) :: hgt := by
    rw [respelled, String.toList_ofList, whole, List.map_append, List.map_cons, respelled_numerals before,
      respelled_numerals behind]
  rcases letters with rfl | rfl
  · rw [if_pos rfl] at spelled
    apply iff_of_true
    · exact sides_eq_some.mpr ⟨w, hgt, ⟨spelled, fun member => star (before _ member)⟩, width, height⟩
    · rw [whole]
      exact List.mem_append_right _ List.mem_cons_self
  · rw [if_neg (by decide)] at spelled
    have nowhere {char : Char} (other : char ≠ 'X') (none_ : char ∉ numeral) : char ∉ w ++ 'X' :: hgt := by
      intro member
      rcases List.mem_append.mp member with here | here
      · exact none_ (before _ here)
      · rcases List.mem_cons.mp here with same | here
        · exact other same
        · exact none_ (behind _ here)
    apply iff_of_false
    · intro found
      obtain ⟨_, _, ⟨split_, _⟩, _⟩ := sides_eq_some.mp found
      apply nowhere (by decide) star
      rw [← spelled, split_]
      exact List.mem_append_right _ List.mem_cons_self
    · rw [whole]
      exact nowhere (by decide) small

end Sizes

/-! ## Requests -/

section Requests
variable {beyond : Char → Char} {edit : Bool} {body : RequestBody} {s : Settings}
  {authorized : Except APIError String} {a : Attempt} {prompt size source : String}

/-- What is sent for a body, and what is charged for it. -/
structure SentAsAsked (beyond : Char → Char) (edit : Bool) (body : RequestBody) (authorized : Except APIError String)
    (a : Attempt) : Prop where
  gate : authorized = .ok a.installID
  /-- One image, at the price of its card. -/
  charged : ∃ plan, newUnitPlan providerQwen qwenImage20 .images 1 = .ok plan ∧ a.charge = ⟨plan, .images, 1⟩
  /-- The words and the size of the caller, and the source only where it was asked to be edited. -/
  sent : imageBody a.call = some (imagePayload qwenImage20 (trimSpace body.prompt) body.asked
    (if edit then body.image else ""))
  source : edit = true → dataURL body.image = true ∧ body.image.utf8ByteSize ≤ maxSourceChars
  handed : ∀ g out request, imageRequest g out a.call = some request → request.payload = imageBody a.call
  within : ∃ side, body.sides beyond = some side ∧ Envelope side
  /-- The provider reads the sides that were checked exactly if they came with the small letter. -/
  spelled : (imageBody a.call).bind sentSides = body.sides beyond ↔ 'x' ∈ body.asked.toList

/-- What the handler hands on. -/
theorem serveHTTP_ok {call : Call} (read : serveHTTP beyond edit (some body) = .ok call) :
    validSize beyond body.asked = true ∧
      ((edit = false ∧ call = .generate (trimSpace body.prompt) body.asked) ∨
        edit = true ∧ body.image ≠ "" ∧ body.image.utf8ByteSize ≤ maxSourceChars ∧
          call = .edit (trimSpace body.prompt) body.asked body.image) := by
  unfold serveHTTP at read
  dsimp only at read
  split at read
  · cases read
  · split at read
    · cases read
    · split at read
      · cases read
      · rename_i valid
        refine ⟨by simpa using valid, ?_⟩
        split at read
        · rename_i edits
          split at read
          · cases read
          · rename_i fits
            cases read
            exact .inr ⟨edits, (not_or.mp fits).1, Nat.le_of_not_lt (not_or.mp fits).2, rfl⟩
        · rename_i generates
          cases read
          exact .inl ⟨by simpa using generates, rfl⟩

/-- An image plan is one image of the one card. -/
theorem imagePlan_ok {model : String} {plan : Plan} (priced : newUnitPlan providerQwen model .images 1 = .ok plan) :
    model = qwenImage20 := by
  obtain ⟨card, tier, inCost, outCost, total, found, admitted, _⟩ := newPlan_ok priced
  have listed : [qwenImage20].contains model = true := by
    rw [classAdmits, if_neg (by decide)] at admitted
    simp only [unitClasses, Bool.and_eq_true] at admitted
    exact admitted.1.1.2
  simpa using listed

theorem run_ok (ran : s.run authorized prompt size source = .ok a) : authorized = .ok a.installID ∧
    (∃ plan, newUnitPlan providerQwen qwenImage20 .images 1 = .ok plan ∧ a.charge = ⟨plan, .images, 1⟩) ∧
      a.call = upstreamCall qwenImage20 prompt size source := by
  unfold Settings.run at ran
  split at ran
  · cases ran
  · split at ran
    · cases ran
    · split at ran
      · cases ran
      · split at ran
        · cases ran
        · rename_i plan priced
          have model := imagePlan_ok priced
          rw [model] at priced ran
          cases ran
          exact ⟨rfl, ⟨plan, priced, rfl⟩, rfl⟩

theorem imageBody_upstreamCall (model prompt size source : String) :
    imageBody (upstreamCall model prompt size source) = some (imagePayload model prompt size source) := by
  unfold upstreamCall
  split
  · rename_i none_
    rw [none_]
    rfl
  · rfl

theorem sentSides_imagePayload {model : String} (named : size ≠ "") :
    sentSides (imagePayload model prompt size source) = sides '*' (respelled size) := by
  rw [imagePayload, if_neg named]
  rfl

/-- Whatever the client hands over is the body of the call. -/
theorem imageRequest_payload {g : Option NativeClient} {out : Outside} {call : GenerationCall} {request : Request}
    (handed : imageRequest g out call = some request) : request.payload = imageBody call := by
  have posted {model prompt size source : String}
      (handed : (imageCall g out model prompt size source).request = some request) :
      request.payload = some (imagePayload model prompt size source) := by
    unfold imageCall at handed
    split at handed
    · cases handed
    · split at handed
      · cases handed
      · dsimp only at handed
        split at handed
        · cases handed
        · split at handed
          · rename_i trip
            exact VideoGeneration.do_payload ((congrArg Prod.fst trip).trans handed)
          · rename_i trip
            refine VideoGeneration.do_payload ((congrArg Prod.fst trip).trans ?_)
            split_ifs at handed <;> first | exact handed | (split at handed <;> exact handed)
  unfold imageRequest at handed
  split at handed
  · exact posted handed
  · exact posted handed
  · cases handed

theorem asked_named (body : RequestBody) : body.asked ≠ "" := by
  unfold RequestBody.asked
  split
  · decide
  · assumption

/-- What the run of a valid size comes to. -/
theorem sentAsAsked (lowers : Lowers beyond) (valid : validSize beyond body.asked = true)
    (gated : edit = true → dataURL body.image = true ∧ body.image.utf8ByteSize ≤ maxSourceChars)
    (ran : s.run authorized (trimSpace body.prompt) body.asked (if edit then body.image else "") = .ok a) :
    SentAsAsked beyond edit body authorized a := by
  obtain ⟨gate, charged, call⟩ := run_ok ran
  have sent := congrArg imageBody call
  rw [imageBody_upstreamCall] at sent
  cases read : body.sides beyond with
  | none =>
    simp only [RequestBody.sides] at read
    simp only [validSize, read, Bool.false_eq_true] at valid
  | some side =>
    refine ⟨gate, charged, sent, gated, fun _ _ _ => imageRequest_payload, ⟨side, read, ?_⟩, ?_⟩
    · simp only [RequestBody.sides] at read
      simpa only [validSize, read, decide_eq_true_eq] using valid
    · rw [sent, read, Option.bind_some, sentSides_imagePayload (asked_named body)]
      exact sides_respelled lowers read

end Requests

/-- **An image is sent as it was asked for.** Whatever the handler of either route and the service
let through reaches the provider as one image of the one card, with the words and the size of its
caller and a source only on the route that edits one, which is then no address. The size reads
there as the sides that were checked exactly if it came with the small letter. -/
theorem image_sent_as_asked (beyond : Char → Char) (lowers : Lowers beyond) (edit : Bool) (body : RequestBody)
    (s : Settings) (authorized : Except APIError String) (a : Attempt)
    (accepted : s.accept beyond authorized edit (some body) = .ok a) :
    SentAsAsked beyond edit body authorized a := by
  unfold Settings.accept at accepted
  split at accepted
  · cases accepted
  · rename_i prompt size read
    obtain ⟨valid, ⟨generates, same⟩ | ⟨_, _, _, same⟩⟩ := serveHTTP_ok read
    · cases same
      subst generates
      exact sentAsAsked lowers valid nofun accepted
    · cases same
  · rename_i prompt size source read
    obtain ⟨valid, ⟨_, same⟩ | ⟨edits, _, fits, same⟩⟩ := serveHTTP_ok read
    · cases same
    · cases same
      subst edits
      unfold Settings.edit at accepted
      split at accepted
      · cases accepted
      · rename_i url
        exact sentAsAsked lowers valid (fun _ => ⟨by simpa using url, fits⟩) accepted

def imageSettings : Settings := ⟨true, true, qwenImage20⟩

/-- A source that the generation route does not pass on, and a size in the large letter. -/
def largeLetter : RequestBody := { prompt := " a cat ", size := "512X768", image := "data:image/png;base64,AA==" }

theorem image_sent_as_asked_large : ∃ a, imageSettings.accept id (.ok "ins_1") false (some largeLetter) = .ok a ∧
    SentAsAsked id false largeLetter (.ok "ins_1") a ∧ (imageBody a.call).bind sentSides = none := by
  have lowers : Lowers id := fun char large member => by
    have small : "x+-0123456789".toList.all (fun char => char.toNat < 0x80) = true := by decide
    exact absurd (of_decide_eq_true (List.all_eq_true.mp small char member)) (Nat.not_lt.mpr large)
  refine ⟨_, rfl, image_sent_as_asked id lowers false largeLetter imageSettings (.ok "ins_1") _ rfl, ?_⟩
  decide

end AnselmGateway.ImageGeneration
