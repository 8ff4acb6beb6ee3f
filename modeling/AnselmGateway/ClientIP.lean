import AnselmGateway.Foundation.Hex
import AnselmGateway.Foundation.IPAddress
import AnselmGateway.Foundation.Utf8

/-! The client's address behind one trusted hop, and the bucket it is limited by:
`internal/pkg/clientip`. Texts are byte strings, and the digest is a parameter. -/
namespace AnselmGateway.ClientIP
open Foundation IPAddress

/-- What is behind the last comma, or the whole text. -/
def lastHop (xff : Bytes) : Bytes :=
  match cutLast 0x2C xff with
  | some (_, right) => right
  | none => xff

/-- The host of `host` or `host:port`. -/
def hostOf (addr : Bytes) : Bytes :=
  match splitHostPort addr with
  | some (host, _) => host
  | none => addr

/-- `isLoopback`. -/
def isLoopback (addr : Bytes) : Bool :=
  match parseIP (hostOf addr) with
  | some ip => IPAddress.isLoopback ip
  | none => false

/-- `ClientIP`. -/
def clientIP (remoteAddr xff : Bytes) : Bytes :=
  if isLoopback remoteAddr = true ∧ xff ≠ [] then
    let right := trimSpaceBytes (lastHop xff)
    if right ≠ [] then right else remoteAddr
  else remoteAddr

/-- `bucket`. -/
def bucket (ip : Bytes) : Bytes :=
  let host := hostOf ip
  match parseIP host with
  | none => host
  | some parsed =>
    match to4 parsed with
    | some v4 => string4 v4
    | none => toText (mask64 parsed) ++ utf8 "/64"

/-- `Key`, with `hashKey`. -/
def key (sha256 : Bytes → Bytes) (ip : Bytes) : Bytes := Hex.encode (sha256 (bucket ip))

/-! ## What a text denotes -/

/-- A port. -/
def Port (port : Bytes) : Prop := ∀ c ∈ port, c ≠ colon ∧ c ≠ opening ∧ c ≠ closing

/-- An address in one of its forms: bare, before a port, or in brackets before a port. -/
inductive Spelled : Bytes → IP → Prop where
  | bare {s : Bytes} {ip : IP} (read : parseIP s = some ip) : Spelled s ip
  | port {s port : Bytes} {ip : IP} (read : parseIP s = some ip) (free : colon ∉ s) (clean : Port port) :
    Spelled (s ++ colon :: port) ip
  | brackets {s port : Bytes} {ip : IP} (read : parseIP s = some ip) (clean : Port port) :
    Spelled (opening :: s ++ closing :: colon :: port) ip

/-- One client: the same IPv4 address, or two IPv6 addresses in one `/64`. -/
def SameClient (ip ip' : IP) : Prop :=
  match to4 ip, to4 ip' with
  | some v4, some v4' => v4 = v4'
  | none, none => ip.take 8 = ip'.take 8
  | _, _ => False

section Keys
variable {text text' : Bytes} {ip ip' : IP}

/-- Every form has the address for its host. -/
theorem parseIP_hostOf (spelled : Spelled text ip) : parseIP (hostOf text) = some ip := by
  cases spelled with
  | bare read =>
    obtain ⟨_, plain, colons⟩ := parseIP_some read
    rw [hostOf, splitHostPort_bare plain colons]
    exact read
  | port read free clean =>
    obtain ⟨_, plain, _⟩ := parseIP_some read
    rw [hostOf, splitHostPort_port plain free (fun empty => by subst empty; cases read) clean]
    exact read
  | brackets read clean =>
    obtain ⟨_, plain, _⟩ := parseIP_some read
    rw [hostOf, splitHostPort_brackets plain clean]
    exact read

theorem isLoopback_spelled (spelled : Spelled text ip) : isLoopback text = IPAddress.isLoopback ip := by
  rw [isLoopback, parseIP_hostOf spelled]

/-- The bucket of an address. -/
def bucketOf (ip : IP) : Bytes :=
  match to4 ip with
  | some v4 => string4 v4
  | none => string6 (mask64 ip) ++ utf8 "/64"

/-- Nothing of an IPv4 address is left under the mask. -/
theorem to4_mask64 (width : ip.length = 16) : to4 (mask64 ip) = none := by
  match ip, width with
  | [_, _, _, _, _, _, _, _, _, _, _, _, _, _, _, _], _ => simp [mask64, to4, v4InV6Prefix]

theorem bucket_spelled (spelled : Spelled text ip) : bucket text = bucketOf ip := by
  have read := parseIP_hostOf spelled
  rw [bucket]
  simp only [read]
  rw [bucketOf]
  cases four : to4 ip with
  | some v4 => rfl
  | none => rw [toText, to4_mask64 (parseIP_some read).1]

/-- The bucket tells the client. -/
theorem bucketOf_eq_iff (width : ip.length = 16) (width' : ip'.length = 16) :
    bucketOf ip = bucketOf ip' ↔ SameClient ip ip' := by
  have slash (front v4 : Bytes) : front ++ utf8 "/64" ≠ string4 v4 := fun same =>
    slash_not_mem_string4 v4 (same ▸ List.mem_append_right _ (by decide))
  have present {ip : IP} {v4 : Bytes} (width : ip.length = 16) (four : to4 ip = some v4) : v4 ≠ [] := by
    unfold to4 at four
    split at four
    · cases four
      intro empty
      have short := congrArg List.length empty
      simp [width] at short
    · cases four
  unfold bucketOf SameClient
  cases four : to4 ip with
  | some v4 =>
    cases four' : to4 ip' with
    | some v4' => exact ⟨string4_injective (present width four) (present width' four'), congrArg string4⟩
    | none => exact iff_of_false (fun same => slash _ _ same.symm) not_false
  | none =>
    cases four' : to4 ip' with
    | some v4' => exact iff_of_false (slash _ _) not_false
    | none =>
      constructor
      · exact fun same => string6_injective width width' (List.append_cancel_right same)
      · intro same
        rw [mask64, mask64, same]

end Keys

/-! ## The client -/

/-- Behind a trusted peer the last hop decides, empty or not. -/
theorem clientIP_loopback {peer : Bytes} (trusted : isLoopback peer = true) (xff : Bytes) :
    clientIP peer xff = if trimSpaceBytes (lastHop xff) ≠ [] then trimSpaceBytes (lastHop xff) else peer := by
  unfold clientIP
  by_cases empty : xff = []
  · subst empty
    rw [if_neg (by simp)]
    exact (if_neg (not_not.mpr rfl)).symm
  · rw [if_pos ⟨trusted, empty⟩]

/-- A peer that is not loopback is the client, whatever the header; behind a loopback peer only what
is behind the last comma counts; and two addresses in any of their forms have one key exactly if
they are one client. -/
theorem client_identity (sha256 : Bytes → Bytes) (injective : Function.Injective sha256) :
    (∀ peer xff, isLoopback peer = false → clientIP peer xff = peer) ∧
    (∀ peer xff xff', isLoopback peer = true → lastHop xff = lastHop xff' → clientIP peer xff = clientIP peer xff') ∧
    (∀ peer ip, Spelled peer ip → isLoopback peer = IPAddress.isLoopback ip) ∧
    ∀ text text' ip ip', Spelled text ip → Spelled text' ip' →
      (key sha256 text = key sha256 text' ↔ SameClient ip ip') := by
  refine ⟨fun peer xff foreign => ?_, fun peer xff xff' trusted same => ?_, fun _ _ => isLoopback_spelled, ?_⟩
  · rw [clientIP, if_neg (by simp [foreign])]
  · rw [clientIP_loopback trusted, clientIP_loopback trusted, same]
  · intro text text' ip ip' spelled spelled'
    have width := (parseIP_some (parseIP_hostOf spelled)).1
    have width' := (parseIP_some (parseIP_hostOf spelled')).1
    rw [← bucketOf_eq_iff width width', ← bucket_spelled spelled, ← bucket_spelled spelled']
    exact ⟨fun same => injective (Hex.encode_injective same), fun same => congrArg (fun b => Hex.encode (sha256 b)) same⟩

/-- SHA-256 on the two buckets of the sample, and something else on the rest. -/
def sampleDigest (text : Bytes) : Bytes :=
  if text = utf8 "1.2.3.4" then
    [0x66, 0x94, 0xF8, 0x3C, 0x9F, 0x47, 0x6D, 0xA3, 0x1F, 0x5D, 0xF6, 0xBC, 0xC5, 0x20, 0x03, 0x4E,
      0x7E, 0x57, 0xD4, 0x21, 0xD2, 0x47, 0xB9, 0xD3, 0x4F, 0x49, 0xED, 0xBF, 0xC8, 0x4A, 0x76, 0x4C]
  else if text = utf8 "2001:db8:abcd:1234::/64" then
    [0x33, 0xFE, 0x46, 0xA6, 0xE4, 0x6B, 0xFA, 0x87, 0xD0, 0xC8, 0x1A, 0xC5, 0x10, 0x36, 0x27, 0xE7,
      0x3D, 0x9E, 0x30, 0x1E, 0x35, 0x7F, 0x94, 0x63, 0x9D, 0x1E, 0xF6, 0xFD, 0x48, 0xDC, 0xF3, 0xD4]
  else 0 :: text

theorem sampleDigest_injective : Function.Injective sampleDigest := by
  intro text text' same
  unfold sampleDigest at same
  by_cases first : text = utf8 "1.2.3.4" <;> by_cases second : text = utf8 "2001:db8:abcd:1234::/64" <;>
    by_cases first' : text' = utf8 "1.2.3.4" <;> by_cases second' : text' = utf8 "2001:db8:abcd:1234::/64" <;>
      simp_all

/-- `2001:db8:abcd:1234::`, with one interface. -/
def sampleV6 (interface : Bytes) : IP := [0x20, 0x01, 0x0D, 0xB8, 0xAB, 0xCD, 0x12, 0x34] ++ interface

/-- Two addresses of one `/64`, and an IPv4 address in its mapped form. -/
theorem client_identity_forms :
    clientIP (utf8 "203.0.113.7:60000") (utf8 "9.9.9.9") = utf8 "203.0.113.7:60000" ∧
      key sampleDigest (utf8 "[2001:db8:abcd:1234::1]:443") =
        key sampleDigest (utf8 "2001:db8:abcd:1234:ffff:ffff:ffff:ffff") ∧
      key sampleDigest (utf8 "::ffff:1.2.3.4") = key sampleDigest (utf8 "1.2.3.4:80") := by
  obtain ⟨foreign, _, _, keys⟩ := client_identity sampleDigest sampleDigest_injective
  have bracketed : Spelled (utf8 "[2001:db8:abcd:1234::1]:443") (sampleV6 [0, 0, 0, 0, 0, 0, 0, 1]) :=
    @Spelled.brackets (utf8 "2001:db8:abcd:1234::1") [0x34, 0x34, 0x33] _ (by decide)
      (by simp [Port, colon, opening, closing])
  have bare : Spelled (utf8 "2001:db8:abcd:1234:ffff:ffff:ffff:ffff") (sampleV6 (List.replicate 8 0xFF)) :=
    .bare (by decide)
  have mapped : Spelled (utf8 "::ffff:1.2.3.4") (v4InV6Prefix ++ [1, 2, 3, 4]) := .bare (by decide)
  have ported : Spelled (utf8 "1.2.3.4:80") (v4InV6Prefix ++ [1, 2, 3, 4]) :=
    @Spelled.port (utf8 "1.2.3.4") [0x38, 0x30] _ (by decide) (by decide) (by simp [Port, colon, opening, closing])
  refine ⟨foreign _ _ (by decide), (keys _ _ _ _ bracketed bare).mpr ?_, (keys _ _ _ _ mapped ported).mpr ?_⟩
  · simp [SameClient, sampleV6, to4, v4InV6Prefix]
  · simp [SameClient, to4, v4InV6Prefix]

end AnselmGateway.ClientIP
