import AnselmGateway.ChatContent
import AnselmGateway.Foundation.Hex

/-! Which texts name a lease. A reference is recognised by taking a fixed front and a fixed
end off its path; both may take the same slash. -/
namespace AnselmGateway.LeaseReferences
open Foundation ChatContent

/-! ## Minted references -/

/-- `MediaLeaseID` over the bytes it draws. -/
def mediaLeaseID (random : Bytes) : Bytes := utf8 "mls_" ++ Hex.encode random

/-- A byte that `shouldEscape` lets stand in a query component. -/
def unreserved (c : UInt8) : Bool :=
  97 ≤ c && c ≤ 122 || 65 ≤ c && c ≤ 90 || 48 ≤ c && c ≤ 57 || c = 0x2D || c = 0x5F || c = 0x2E || c = 0x7E

def upperHex (nibble : ℕ) : UInt8 := if nibble < 10 then UInt8.ofNat (48 + nibble) else UInt8.ofNat (55 + nibble)

def escapeByte (c : UInt8) : Bytes :=
  if unreserved c then [c]
  else if c = 0x20 then [0x2B]
  else [0x25, upperHex (c.toNat / 16), upperHex (c.toNat % 16)]

/-- `url.QueryEscape`. -/
def queryEscape (s : Bytes) : Bytes := s.flatMap escapeByte

/-- `fetchPath`. -/
def fetchPath (leaseID token : Bytes) : Bytes :=
  utf8 "/v1/media/leases/" ++ leaseID ++ utf8 "/content?token=" ++ queryEscape token

theorem unhex_upperHex {nibble : ℕ} (small : nibble < 16) :
    unhex (upperHex nibble) = some (UInt8.ofNat nibble) ∧ unreserved (upperHex nibble) = true := by
  have each : ∀ nibble : Fin 16, unhex (upperHex nibble) = some (UInt8.ofNat nibble) ∧
      unreserved (upperHex nibble) = true := by decide
  exact each ⟨nibble, small⟩

theorem nibbles (c : UInt8) : UInt8.ofNat (c.toNat / 16) * 16 + UInt8.ofNat (c.toNat % 16) = c := by
  have small := c.toNat_lt
  apply UInt8.toNat_inj.mp
  simp only [UInt8.toNat_add, UInt8.toNat_mul, UInt8.toNat_ofNat', UInt8.reduceToNat]
  omega

/-- What is no percent sign stands for itself, or for a space. -/
theorem unescape_plain {plus : Bool} {c : UInt8} (plain : c ≠ 0x25) (rest : Bytes) :
    unescape plus (c :: rest) =
      (unescape plus rest).map fun others => (if c = 0x2B && plus then 0x20 else c) :: others := by
  rw [unescape.eq_def]
  exact if_neg plain

/-- An escaped byte reads as itself. -/
theorem unescape_escapeByte (c : UInt8) (rest : Bytes) :
    unescape true (escapeByte c ++ rest) = (unescape true rest).map (c :: ·) := by
  have small := c.toNat_lt
  unfold escapeByte
  split
  · rename_i plain
    have percent : c ≠ 0x25 := by
      rintro rfl
      cases plain
    have plus : c ≠ 0x2B := by
      rintro rfl
      cases plain
    rw [List.singleton_append, unescape_plain percent]
    simp [plus]
  · split
    · rename_i space
      rw [List.singleton_append, unescape_plain (by decide), space]
      rfl
    · simp only [List.cons_append, List.nil_append, unescape, if_true,
        (unhex_upperHex (show c.toNat / 16 < 16 by omega)).1, (unhex_upperHex (show c.toNat % 16 < 16 by omega)).1,
        Option.bind_eq_bind, Option.bind_some, Option.pure_def, nibbles]
      cases unescape true rest <;> rfl

theorem unescape_queryEscape (s : Bytes) : unescape true (queryEscape s) = some s := by
  induction s with
  | nil => rfl
  | cons c rest ih =>
    rw [queryEscape, List.flatMap_cons, unescape_escapeByte]
    exact congrArg (Option.map (c :: ·)) ih

/-- What an escaped text is made of. -/
theorem mem_queryEscape {s : Bytes} {char : UInt8} (mem : char ∈ queryEscape s) :
    unreserved char = true ∨ char = 0x2B ∨ char = 0x25 := by
  obtain ⟨c, _, here⟩ := List.mem_flatMap.mp mem
  have small := c.toNat_lt
  unfold escapeByte at here
  split at here
  · rename_i plain
    cases List.mem_singleton.mp here
    exact .inl plain
  · split at here
    · exact .inr (.inl (List.mem_singleton.mp here))
    · simp only [List.mem_cons, List.not_mem_nil, or_false] at here
      rcases here with rfl | rfl | rfl
      · exact .inr (.inr rfl)
      · exact .inl (unhex_upperHex (by omega)).2
      · exact .inl (unhex_upperHex (by omega)).2

/-- A byte that no part of a path or of a query is split or refused at. -/
structure Quiet (c : UInt8) : Prop where
  printable : ¬(c < 0x20 ∨ c = 0x7F)
  hash : c ≠ 0x23
  question : c ≠ 0x3F
  ampersand : c ≠ 0x26
  semicolon : c ≠ 0x3B

theorem quiet_iff {c : UInt8} : Quiet c ↔ ¬(c < 0x20 ∨ c = 0x7F) ∧ c ≠ 0x23 ∧ c ≠ 0x3F ∧ c ≠ 0x26 ∧ c ≠ 0x3B :=
  ⟨fun ⟨a, b, c, d, e⟩ => ⟨a, b, c, d, e⟩, fun ⟨a, b, c, d, e⟩ => ⟨a, b, c, d, e⟩⟩

theorem quiet_unreserved {c : UInt8} (plain : unreserved c = true) : Quiet c ∧ c ≠ 0x25 ∧ c ≠ 0x2F ∧ c ≠ 0x5C := by
  rw [quiet_iff]
  simp only [unreserved, Bool.or_eq_true, Bool.and_eq_true, decide_eq_true_eq, UInt8.le_iff_toNat_le,
    UInt8.lt_iff_toNat_lt, ← UInt8.toNat_inj, ne_eq, UInt8.reduceToNat] at plain ⊢
  omega

theorem quiet_queryEscape {s : Bytes} {char : UInt8} (mem : char ∈ queryEscape s) : Quiet char := by
  rcases mem_queryEscape mem with plain | rfl | rfl
  · exact (quiet_unreserved plain).1
  · rw [quiet_iff]
    decide
  · rw [quiet_iff]
    decide

theorem mediaLeaseID_unreserved {random : Bytes} {char : UInt8} (mem : char ∈ mediaLeaseID random) :
    unreserved char = true := by
  rcases List.mem_append.mp mem with front | digit
  · have each : (utf8 "mls_").all unreserved = true := by decide
    exact List.all_eq_true.mp each char front
  · have range := Hex.mem_encode digit
    simp only [unreserved, Bool.or_eq_true, Bool.and_eq_true, decide_eq_true_eq, UInt8.le_iff_toNat_le,
      ← UInt8.toNat_inj, UInt8.reduceToNat]
    omega

theorem unescape_quiet {plus : Bool} {s : Bytes} (plain : ∀ c ∈ s, c ≠ 0x25 ∧ c ≠ 0x2B) :
    unescape plus s = some s := by
  induction s with
  | nil => rfl
  | cons c rest ih =>
    obtain ⟨⟨percent, plus'⟩, others⟩ := List.forall_mem_cons.mp plain
    rw [unescape_plain percent, ih others]
    simp [plus']

/-- An address whose path and query have no byte of their own meaning splits there. -/
theorem parseURL_split {path query : Bytes} (plain : ∀ c ∈ path, Quiet c ∧ c ≠ 0x25 ∧ c ≠ 0x2B)
    (quiet : ∀ c ∈ query, Quiet c) : parseURL (path ++ 0x3F :: query) = some ⟨path, query⟩ := by
  have mark : ∀ c ∈ path ++ 0x3F :: query, c ≠ 0x23 ∧ ¬(c < 0x20 ∨ c = 0x7F) := by
    intro c member
    rcases List.mem_append.mp member with here | here
    · exact ⟨(plain c here).1.hash, (plain c here).1.printable⟩
    · rcases List.mem_cons.mp here with rfl | here
      · decide
      · exact ⟨(quiet c here).hash, (quiet c here).printable⟩
  have printable : ((path ++ 0x3F :: query).any fun c => c < 0x20 || c = 0x7F) = false := by
    rw [List.any_eq_false]
    intro c member
    simpa using (mark c member).2
  rw [parseURL, cut_absent fun member => (mark _ member).1 rfl]
  dsimp only
  rw [printable, cut_append fun member => (plain _ member).1.question rfl]
  simp only [Bool.false_eq_true, if_false]
  rw [unescape_quiet fun c member => (plain c member).2, unescape]

theorem get_token (path token : Bytes) :
    URL.get ⟨path, utf8 "token=" ++ queryEscape token⟩ (utf8 "token") = token := by
  have whole : 0x26 ∉ utf8 "token=" ++ queryEscape token := by
    rw [List.mem_append, not_or]
    exact ⟨by decide, fun member => (quiet_queryEscape member).ampersand rfl⟩
  have clear : 0x3B ∉ utf8 "token=" ++ queryEscape token := by
    rw [List.mem_append, not_or]
    exact ⟨by decide, fun member => (quiet_queryEscape member).semicolon rfl⟩
  have equals : utf8 "token=" ++ queryEscape token = utf8 "token" ++ 0x3D :: queryEscape token := by
    rw [show utf8 "token=" = utf8 "token" ++ [0x3D] by decide, List.append_assoc]
    rfl
  have pair : queryPair (utf8 "token=" ++ queryEscape token) = some (utf8 "token", token) := by
    have read : unescape true (utf8 "token") = some (utf8 "token") := by decide
    rw [queryPair, if_neg]
    · rw [equals, cut_append (by decide)]
      dsimp only
      rw [read, unescape_queryEscape]
    · rw [equals] at clear ⊢
      simpa using clear
  rw [URL.get, splitAtByte_free whole, List.filterMap_cons, pair]
  simp

/-! ## Recognition -/

/-- Only a slash is the end of the one and the beginning of the other. -/
theorem one_slash : ∀ m : Fin 8, leasePathSuffix.take (8 - m) =
    (leasePathPrefix.drop (17 + m - 8)).take (8 - m) → m.val = 7 := by
  decide

/-- What is left of a path behind the front is an id with the end, or the end without the
slash that stands in both. -/
theorem path_cases {path : Bytes} : leasePathPrefix <+: path ∧ leasePathSuffix <:+ path ↔
    (∃ id, path = leasePathPrefix ++ id ++ leasePathSuffix) ∨ path = utf8 "/v1/media/leases/content" := by
  have front : leasePathPrefix.length = 17 := by decide
  have end_ : leasePathSuffix.length = 8 := by decide
  constructor
  · rintro ⟨⟨rest, rfl⟩, ends⟩
    by_cases long : 8 ≤ rest.length
    · obtain ⟨id, rfl⟩ := List.suffix_of_suffix_length_le ends (List.suffix_append _ rest) (by omega)
      exact .inl ⟨id, by rw [List.append_assoc]⟩
    · have same := List.suffix_iff_eq_drop.mp ends
      rw [List.length_append, front, end_, List.drop_append_of_le_length (by omega)] at same
      have length : rest.length < 8 := by omega
      have overlap := congrArg (List.take (8 - rest.length)) same
      rw [List.take_append_of_le_length (by rw [List.length_drop]; omega)] at overlap
      have seven : rest.length = 7 := one_slash ⟨rest.length, length⟩ overlap
      have tail := congrArg (List.drop 1) same
      rw [seven, List.drop_append_of_le_length (by decide)] at tail
      right
      rw [show rest = utf8 "content" from tail.symm]
      decide
  · rintro (⟨id, rfl⟩ | rfl)
    · exact ⟨by rw [List.append_assoc]; exact List.prefix_append _ _, List.suffix_append _ _⟩
    · decide

/-- The path that has the front and the end, and nothing between them. -/
def barePath : Bytes := utf8 "/v1/media/leases/content"

/-- An id is one path segment. -/
def Segment (id : Bytes) : Prop := id ≠ [] ∧ 0x2F ∉ id ∧ 0x5C ∉ id

theorem segment_iff {id : Bytes} :
    ¬(id = [] ∨ (id.any fun c => c = 0x2F || c = 0x5C) = true) ↔ Segment id := by
  simp only [Segment, List.any_eq_true, Bool.or_eq_true, decide_eq_true_eq, not_or, not_exists, not_and, ne_eq]
  constructor
  · rintro ⟨some_, apart⟩
    exact ⟨some_, fun member => (apart _ member).1 rfl, fun member => (apart _ member).2 rfl⟩
  · rintro ⟨some_, slash, backslash⟩
    refine ⟨some_, fun c member => ⟨?_, ?_⟩⟩
    · rintro rfl
      exact slash member
    · rintro rfl
      exact backslash member

/-- What is taken off a path with the front and the end. -/
theorem trimmed (id : Bytes) :
    trimSuffix ((leasePathPrefix ++ id ++ leasePathSuffix).drop leasePathPrefix.length) leasePathSuffix = id := by
  rw [List.append_assoc, List.drop_left, trimSuffix, if_pos (List.suffix_append _ _), List.length_append,
    Nat.add_sub_cancel, List.take_left]

theorem parse_iff {rawURL : Bytes} {ref : MediaLeaseRef} : parseMediaLeaseRef rawURL = some ref ↔
    leasePathPrefix <+: rawURL ∧ ∃ u id, parseURL rawURL = some u ∧
      (u.path = leasePathPrefix ++ id ++ leasePathSuffix ∨ u.path = barePath ∧ id = utf8 "content") ∧
      Segment id ∧ u.get (utf8 "token") ≠ [] ∧ ref = ⟨id, u.get (utf8 "token"), rawURL⟩ := by
  have bare : trimSuffix (barePath.drop leasePathPrefix.length) leasePathSuffix = utf8 "content" := by decide
  unfold parseMediaLeaseRef
  constructor
  · intro parsed
    split at parsed
    · cases parsed
    · rename_i here
      refine ⟨not_not.mp here, ?_⟩
      split at parsed
      · cases parsed
      · rename_i u split_
        split at parsed
        · cases parsed
        · rename_i shape
          obtain ⟨front, ends⟩ := not_or.mp shape
          dsimp only at parsed
          split at parsed
          · cases parsed
          · rename_i segment
            split at parsed
            · cases parsed
            · rename_i token
              cases parsed
              refine ⟨u, _, split_, ?_, segment_iff.mp segment, token, rfl⟩
              rcases path_cases.mp ⟨not_not.mp front, not_not.mp ends⟩ with ⟨id, path⟩ | path
              · left
                rw [path, trimmed]
              · right
                rw [path]
                exact ⟨rfl, bare⟩
  · rintro ⟨here, u, id, split_, path, segment, token, rfl⟩
    have taken : trimSuffix (u.path.drop leasePathPrefix.length) leasePathSuffix = id := by
      rcases path with path | ⟨path, rfl⟩
      · rw [path, trimmed]
      · rw [path, bare]
    have shape : leasePathPrefix <+: u.path ∧ leasePathSuffix <:+ u.path :=
      path_cases.mpr (path.imp (fun path => ⟨id, path⟩) And.left)
    rw [if_neg (not_not.mpr here), split_]
    dsimp only
    rw [if_neg (not_or.mpr ⟨not_not.mpr shape.1, not_not.mpr shape.2⟩), taken, if_neg (segment_iff.mpr segment),
      if_neg token]

/-! ## The intended references -/

/-- A parsed address. -/
structure Address extends URL where
  scheme : Bytes
  opaquePart : Bytes
  user : Option Bytes
  host : Bytes

/-- Neither a scheme nor anybody's host. -/
def Address.Relative (u : Address) : Prop :=
  u.scheme = [] ∧ u.opaquePart = [] ∧ u.user = none ∧ u.host = []

/-- The address a path on this host is. -/
def here (u : URL) : Address := ⟨u, [], [], none, []⟩

section Parse
variable (parse : Bytes → Option Address)

/-- `url.Parse`, where a text begins with the path of a lease. -/
def ReadsPaths : Prop := ∀ rawURL, leasePathPrefix <+: rawURL → parse rawURL = (parseURL rawURL).map here

/-- A relative reference to the content of a lease, with a token. -/
def LeaseReference (rawURL id token : Bytes) : Prop :=
  ∃ u, parse rawURL = some u ∧ u.Relative ∧ u.path = leasePathPrefix ++ id ++ leasePathSuffix ∧ Segment id ∧
    u.get (utf8 "token") = token ∧ token ≠ []

/-- Exactly the intended references are recognised at a text, each by its id and token. -/
def Recognised (rawURL : Bytes) : Prop :=
  ∀ id token, parseMediaLeaseRef rawURL = some ⟨id, token, rawURL⟩ ↔ LeaseReference parse rawURL id token

/-- The front and the end share the slash, and there is a token. -/
def Overlapping (rawURL : Bytes) : Prop :=
  leasePathPrefix <+: rawURL ∧ ∃ u, parseURL rawURL = some u ∧ u.path = barePath ∧ u.get (utf8 "token") ≠ []

/-- A reference whose front is not spelled out. -/
def Disguised (rawURL : Bytes) : Prop :=
  ¬leasePathPrefix <+: rawURL ∧ ∃ id token, LeaseReference parse rawURL id token

end Parse

theorem bare_no_reference {id : Bytes} : barePath ≠ leasePathPrefix ++ id ++ leasePathSuffix := by
  intro same
  have lengths := congrArg List.length same
  rw [List.length_append, List.length_append, show barePath.length = 24 by decide,
    show leasePathPrefix.length = 17 by decide, show leasePathSuffix.length = 8 by decide] at lengths
  omega

theorem reference_iff {parse : Bytes → Option Address} (reads : ReadsPaths parse) {rawURL id token : Bytes}
    (front : leasePathPrefix <+: rawURL) : LeaseReference parse rawURL id token ↔ ∃ u, parseURL rawURL = some u ∧
      u.path = leasePathPrefix ++ id ++ leasePathSuffix ∧ Segment id ∧ u.get (utf8 "token") = token ∧ token ≠ [] := by
  unfold LeaseReference
  rw [reads rawURL front]
  constructor
  · rintro ⟨u, is, _, path, segment, carried, some_⟩
    obtain ⟨u, split_, rfl⟩ := Option.map_eq_some_iff.mp is
    exact ⟨u, split_, path, segment, carried, some_⟩
  · rintro ⟨u, split_, path, segment, carried, some_⟩
    exact ⟨here u, by rw [split_, Option.map_some], ⟨rfl, rfl, rfl, rfl⟩, path, segment, carried, some_⟩

theorem minted_split (random token : Bytes) : parseURL (fetchPath (mediaLeaseID random) token) =
    some ⟨leasePathPrefix ++ mediaLeaseID random ++ leasePathSuffix, utf8 "token=" ++ queryEscape token⟩ := by
  have each : (leasePathPrefix ++ leasePathSuffix ++ utf8 "token=").all (fun c => decide
      ((¬(c < 0x20 ∨ c = 0x7F) ∧ c ≠ 0x23 ∧ c ≠ 0x3F ∧ c ≠ 0x26 ∧ c ≠ 0x3B) ∧ c ≠ 0x25 ∧ c ≠ 0x2B)) = true := by
    decide
  have fixed : ∀ c ∈ leasePathPrefix ++ leasePathSuffix ++ utf8 "token=",
      (¬(c < 0x20 ∨ c = 0x7F) ∧ c ≠ 0x23 ∧ c ≠ 0x3F ∧ c ≠ 0x26 ∧ c ≠ 0x3B) ∧ c ≠ 0x25 ∧ c ≠ 0x2B := by
    intro c member
    exact of_decide_eq_true (List.all_eq_true.mp each c member)
  have plain : ∀ c ∈ leasePathPrefix ++ mediaLeaseID random ++ leasePathSuffix, Quiet c ∧ c ≠ 0x25 ∧ c ≠ 0x2B := by
    intro c member
    rcases List.mem_append.mp member with front | suffix
    · rcases List.mem_append.mp front with front | id
      · obtain ⟨quiet, others⟩ := fixed c (by simp [front])
        exact ⟨quiet_iff.mpr quiet, others⟩
      · have is := mediaLeaseID_unreserved id
        obtain ⟨quiet, percent, _⟩ := quiet_unreserved is
        refine ⟨quiet, percent, ?_⟩
        rintro rfl
        cases is
    · obtain ⟨quiet, others⟩ := fixed c (by simp [suffix])
      exact ⟨quiet_iff.mpr quiet, others⟩
  have quiet : ∀ c ∈ utf8 "token=" ++ queryEscape token, Quiet c := by
    intro c member
    rcases List.mem_append.mp member with name | value
    · exact quiet_iff.mpr (fixed c (by simp [name])).1
    · exact quiet_queryEscape value
  have whole : fetchPath (mediaLeaseID random) token = (leasePathPrefix ++ mediaLeaseID random ++ leasePathSuffix) ++
      0x3F :: (utf8 "token=" ++ queryEscape token) := by
    rw [fetchPath, show utf8 "/content?token=" = leasePathSuffix ++ 0x3F :: utf8 "token=" by decide]
    simp only [leasePathPrefix, List.append_assoc, List.cons_append]
  rw [whole, parseURL_split plain quiet]

theorem segment_minted (random : Bytes) : Segment (mediaLeaseID random) := by
  refine ⟨?_, fun member => ?_, fun member => ?_⟩
  · rw [mediaLeaseID, show utf8 "mls_" = 0x6D :: utf8 "ls_" by decide]
    exact List.cons_ne_nil _ _
  · exact (quiet_unreserved (mediaLeaseID_unreserved member)).2.2.1 rfl
  · exact (quiet_unreserved (mediaLeaseID_unreserved member)).2.2.2 rfl

theorem prefix_minted (leaseID token : Bytes) : leasePathPrefix <+: fetchPath leaseID token := by
  rw [fetchPath, List.append_assoc, List.append_assoc]
  exact List.prefix_append _ _

/-- The minted reference of every lease reads as its id and its token. -/
theorem parse_fetchPath {random token : Bytes} (some_ : token ≠ []) :
    parseMediaLeaseRef (fetchPath (mediaLeaseID random) token) =
      some ⟨mediaLeaseID random, token, fetchPath (mediaLeaseID random) token⟩ := by
  refine parse_iff.mpr ⟨prefix_minted _ _, _, _, minted_split random token, .inl rfl, segment_minted random, ?_, ?_⟩
  · rwa [get_token]
  · rw [get_token]

/-- A text is taken as intended exactly when the front and the end of its path do not
overlap and its front is spelled out if it is a reference; what was minted always is. -/
theorem recognised_iff {parse : Bytes → Option Address} (reads : ReadsPaths parse) :
    (∀ rawURL, Recognised parse rawURL ↔ ¬Overlapping rawURL ∧ ¬Disguised parse rawURL) ∧
    ∀ random token, token ≠ [] →
      parseMediaLeaseRef (fetchPath (mediaLeaseID random) token) =
        some ⟨mediaLeaseID random, token, fetchPath (mediaLeaseID random) token⟩ ∧
      LeaseReference parse (fetchPath (mediaLeaseID random) token) (mediaLeaseID random) token := by
  refine ⟨fun rawURL => ?_, fun random token some_ => ?_⟩
  · by_cases front : leasePathPrefix <+: rawURL
    · have spelled : ¬Disguised parse rawURL := fun disguised => disguised.1 front
      rw [and_iff_left spelled]
      constructor
      · rintro taken ⟨_, u, split_, path, token⟩
        have segment : Segment (utf8 "content") := by
          refine ⟨?_, ?_, ?_⟩ <;> decide
        have accepted := parse_iff.mpr ⟨front, u, _, split_, .inr ⟨path, rfl⟩, segment, token, rfl⟩
        obtain ⟨u', split', path', _⟩ := (reference_iff reads front).mp ((taken _ _).mp accepted)
        rw [split_] at split'
        cases split'
        exact bare_no_reference (path.symm.trans path')
      · intro apart id token
        rw [parse_iff, reference_iff reads front]
        constructor
        · rintro ⟨_, u, id', split_, path, segment, some_, same⟩
          cases same
          rcases path with path | ⟨path, _⟩
          · exact ⟨u, split_, path, segment, rfl, some_⟩
          · exact absurd ⟨front, u, split_, path, some_⟩ apart
        · rintro ⟨u, split_, path, segment, rfl, some_⟩
          exact ⟨front, u, id, split_, .inl path, segment, some_, rfl⟩
    · have silent : ¬Overlapping rawURL := fun overlapping => front overlapping.1
      rw [and_iff_right silent]
      constructor
      · rintro taken ⟨_, id, token, reference⟩
        exact front (parse_iff.mp ((taken id token).mpr reference)).1
      · intro plain id token
        constructor
        · exact fun parsed => absurd (parse_iff.mp parsed).1 front
        · exact fun reference => absurd ⟨front, id, token, reference⟩ plain
  · refine ⟨parse_fetchPath some_, (reference_iff reads (prefix_minted _ _)).mpr ?_⟩
    exact ⟨_, minted_split random token, rfl, segment_minted random, get_token _ _, some_⟩

/-- `url.Parse` of texts that begin with one slash. -/
def parsePath (rawURL : Bytes) : Option Address :=
  if rawURL.head? = some 0x2F ∧ rawURL.tail.head? ≠ some 0x2F then (parseURL rawURL).map here else none

theorem parsePath_reads : ReadsPaths parsePath := by
  rintro rawURL ⟨rest, rfl⟩
  refine if_pos ⟨?_, ?_⟩
  · rfl
  · intro double
    cases double

/-- A plain reference. -/
theorem recognised_iff_plain : Recognised parsePath (utf8 "/v1/media/leases/mls_1/content?token=t") := by
  refine ((recognised_iff parsePath_reads).1 _).mpr ⟨?_, fun disguised => disguised.1 (by decide)⟩
  rintro ⟨_, u, split_, path, _⟩
  have whole : parseURL (utf8 "/v1/media/leases/mls_1/content?token=t") =
      some ⟨utf8 "/v1/media/leases/mls_1/content", utf8 "token=t"⟩ := by rfl
  rw [whole] at split_
  cases split_
  revert path
  decide

/-- The path without an id is taken for the lease `content`. -/
theorem content_is_taken : ReadsPaths parsePath ∧
    parseMediaLeaseRef (utf8 "/v1/media/leases/content?token=t") =
      some ⟨utf8 "content", utf8 "t", utf8 "/v1/media/leases/content?token=t"⟩ ∧
    ¬Recognised parsePath (utf8 "/v1/media/leases/content?token=t") := by
  have parsed : parseMediaLeaseRef (utf8 "/v1/media/leases/content?token=t") =
      some ⟨utf8 "content", utf8 "t", utf8 "/v1/media/leases/content?token=t"⟩ := by decide
  refine ⟨parsePath_reads, parsed, fun taken => ?_⟩
  obtain ⟨u, is, _, path, _⟩ := (taken _ _).mp parsed
  have whole : parsePath (utf8 "/v1/media/leases/content?token=t") = some (here ⟨barePath, utf8 "token=t"⟩) := by rfl
  rw [whole] at is
  cases is
  exact bare_no_reference path

end AnselmGateway.LeaseReferences
