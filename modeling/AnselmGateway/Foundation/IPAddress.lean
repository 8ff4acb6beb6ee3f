import AnselmGateway.Foundation.Bytes
import Mathlib.Data.List.Basic

/-! Internet addresses as text, after `net.ParseIP`, `net.SplitHostPort` and `net.IP.String`. An
address is sixteen bytes; the four of an IPv4 address stand behind a fixed prefix. -/
namespace AnselmGateway.Foundation.IPAddress

def dot : UInt8 := 0x2E
def colon : UInt8 := 0x3A
def percent : UInt8 := 0x25
def opening : UInt8 := 0x5B
def closing : UInt8 := 0x5D

/-- `net.IP`, in sixteen bytes. -/
abbrev IP := Bytes

/-- `v4InV6Prefix`. -/
def v4InV6Prefix : Bytes := [0, 0, 0, 0, 0, 0, 0, 0, 0, 0, 0xFF, 0xFF]

/-- `To4`. -/
def to4 (ip : IP) : Option Bytes := if ip.take 12 = v4InV6Prefix then some (ip.drop 12) else none

/-- `Mask` with the first 64 bits. -/
def mask64 (ip : IP) : IP := ip.take 8 ++ List.replicate 8 0

/-- `IsLoopback`. -/
def isLoopback (ip : IP) : Bool :=
  match to4 ip with
  | some v4 => v4.head? == some 127
  | none => ip == List.replicate 15 0 ++ [1]

/-! ## Reading -/

def isDigit (c : UInt8) : Bool := 0x30 ≤ c && c ≤ 0x39

/-- A decimal field: at least one digit, none of them a leading zero, and within a byte. -/
def octet (field : Bytes) : Option UInt8 :=
  let value := field.foldl (fun value c => value * 10 + (c.toNat - 0x30)) 0
  if field = [] ∨ field.all isDigit = false ∨ (field.head? = some 0x30 ∧ field.length ≠ 1) ∨ 255 < value then none
  else some (UInt8.ofNat value)

/-- `parseIPv4Fields`. -/
def parseIPv4Fields (s : Bytes) : Option Bytes :=
  match (splitAtByte dot s).map octet with
  | [some a, some b, some c, some d] => some [a, b, c, d]
  | _ => none

/-- The value of a hex digit. -/
def hexValue (c : UInt8) : Option ℕ :=
  if isDigit c then some (c.toNat - 0x30)
  else if 0x61 ≤ c && c ≤ 0x66 then some (c.toNat - 0x61 + 10)
  else if 0x41 ≤ c && c ≤ 0x46 then some (c.toNat - 0x41 + 10)
  else none

def isHex (c : UInt8) : Bool := (hexValue c).isSome

/-- One hex field of `parseIPv6`, and what follows it. -/
def hexField (s : Bytes) : Option (ℕ × Bytes) :=
  let digits := s.takeWhile isHex
  if digits = [] ∨ 4 < digits.length then none
  else some (digits.foldl (fun acc c => acc * 16 + (hexValue c).getD 0) 0, s.dropWhile isHex)

/-- The loop of `parseIPv6`, with room for so many fields: the bytes read, where the ellipsis
stands in them, and the text that is left. -/
def fields : ℕ → Bytes → Option ℕ → Bytes → Option (Bytes × Option ℕ × Bytes)
  | 0, ip, ellipsis, s => some (ip, ellipsis, s)
  | room + 1, ip, ellipsis, s =>
    match hexField s with
    | none => none
    | some (acc, rest) =>
      if rest.head? = some dot then
        if ellipsis = none ∧ ip.length ≠ 12 then none
        else if 16 < ip.length + 4 then none
        else (parseIPv4Fields s).map fun v4 => (ip ++ v4, ellipsis, [])
      else
        let ip := ip ++ [UInt8.ofNat (acc / 256), UInt8.ofNat (acc % 256)]
        match rest with
        | [] => some (ip, ellipsis, [])
        | c :: rest =>
          if c ≠ colon then none
          else
            match rest with
            | [] => none
            | d :: rest' =>
              if d = colon then
                if ellipsis.isSome then none
                else if rest' = [] then some (ip, some ip.length, [])
                else fields room ip (some ip.length) rest'
              else fields room ip ellipsis rest

/-- The end of `parseIPv6`: the ellipsis is filled with zeros, of which there is at least one field. -/
def expand : Bytes × Option ℕ × Bytes → Option IP
  | (ip, ellipsis, s) =>
    if s ≠ [] then none
    else
      match ellipsis with
      | none => if ip.length < 16 then none else some ip
      | some at_ =>
        if ip.length < 16 then some (ip.take at_ ++ List.replicate (16 - ip.length) 0 ++ ip.drop at_) else none

/-- `parseIPv6`, for an address without a zone. -/
def parseIPv6 (s : Bytes) : Option IP :=
  if percent ∈ s then none
  else if s.take 2 = [colon, colon] then
    if s.drop 2 = [] then some (List.replicate 16 0)
    else (fields 8 [] (some 0) (s.drop 2)).bind expand
  else (fields 8 [] none s).bind expand

/-- `net.ParseIP`. -/
def parseIP (s : Bytes) : Option IP :=
  match s.find? fun c => c = dot || c = colon || c = percent with
  | none => none
  | some c =>
    if c = dot then (parseIPv4Fields s).map fun v4 => v4InV6Prefix ++ v4
    else if c = colon then parseIPv6 s
    else none

/-! ## Hosts and ports -/

/-- A text at the last of a byte in it. -/
def cutLast (separator : UInt8) : Bytes → Option (Bytes × Bytes)
  | [] => none
  | c :: rest =>
    match cutLast separator rest with
    | some (before, behind) => some (c :: before, behind)
    | none => if c = separator then some ([], rest) else none

/-- `net.SplitHostPort`. -/
def splitHostPort (hostport : Bytes) : Option (Bytes × Bytes) :=
  match cutLast colon hostport with
  | none => none
  | some (before, port) =>
    match before with
    | c :: inside =>
      if c = opening then
        -- the first closing bracket stands right before the last colon
        if inside.dropWhile (· ≠ closing) = [closing] then
          let host := inside.takeWhile (· ≠ closing)
          if opening ∈ inside ++ colon :: port ∨ closing ∈ port then none else some (host, port)
        else none
      else if colon ∈ before ∨ opening ∈ hostport ∨ closing ∈ hostport then none
      else some (before, port)
    | [] => if opening ∈ hostport ∨ closing ∈ hostport then none else some ([], port)

/-! ## Writing -/

/-- The digits of a number in a base, as bytes. -/
def digits (base n : ℕ) : Bytes := (Nat.toDigits base n).map fun c => UInt8.ofNat c.toNat

/-- Parts with a separator between them. -/
def join (separator : UInt8) : List Bytes → Bytes
  | [] => []
  | [part] => part
  | part :: rest => part ++ separator :: join separator rest

/-- The dotted form. -/
def string4 (v4 : Bytes) : Bytes := join dot (v4.map fun b => digits 10 b.toNat)

/-- The fields of sixteen bits. -/
def words : Bytes → List ℕ
  | a :: b :: rest => (a.toNat * 256 + b.toNat) :: words rest
  | _ => []

/-- The first longest run of at least two zero fields. -/
def zeroRun (zero : List Bool) : ℕ × ℕ :=
  (List.range 8).foldl (fun best i =>
    let l := ((zero.drop i).takeWhile id).length
    if 2 ≤ l ∧ best.2 - best.1 < l then (i, i + l) else best) (255, 255)

/-- The form in hex fields, with the run of zeros left out. -/
def string6 (ip : IP) : Bytes :=
  let ws := words ip
  let (start, stop) := zeroRun (ws.map (· == 0))
  if start = 255 then join colon (ws.map (digits 16))
  else join colon ((ws.take start).map (digits 16)) ++ [colon, colon] ++ join colon ((ws.drop stop).map (digits 16))

/-- `IP.String`. -/
def toText (ip : IP) : Bytes :=
  match to4 ip with
  | some v4 => string4 v4
  | none => string6 ip

/-! ## Texts in parts -/

section Parts
variable {separator : UInt8} {part : Bytes} {parts : List Bytes} {s : Bytes}

theorem splitAtByte_append (free : separator ∉ part) (rest : Bytes) :
    splitAtByte separator (part ++ separator :: rest) = part :: splitAtByte separator rest := by
  induction part with
  | nil => simp [splitAtByte]
  | cons c front ih =>
    obtain ⟨here, others⟩ := not_or.mp (fun member => free (List.mem_cons.mpr member))
    rw [List.cons_append, splitAtByte, if_neg (Ne.symm here), ih others]

theorem join_cons (part next : Bytes) (rest : List Bytes) :
    join separator (part :: next :: rest) = part ++ separator :: join separator (next :: rest) := rfl

/-- What is joined splits into its parts. -/
theorem splitAtByte_join (some_ : parts ≠ []) (free : ∀ part ∈ parts, separator ∉ part) :
    splitAtByte separator (join separator parts) = parts := by
  induction parts with
  | nil => exact absurd rfl some_
  | cons part rest ih =>
    obtain ⟨here, others⟩ := List.forall_mem_cons.mp free
    cases rest with
    | nil => exact splitAtByte_free here
    | cons next rest =>
      rw [join_cons, splitAtByte_append here, ih nofun others]

theorem join_injective {parts' : List Bytes} (some_ : parts ≠ []) (some_' : parts' ≠ [])
    (free : ∀ part ∈ parts, separator ∉ part) (free' : ∀ part ∈ parts', separator ∉ part)
    (same : join separator parts = join separator parts') : parts = parts' := by
  rw [← splitAtByte_join some_ free, ← splitAtByte_join some_' free', same]

/-- A byte is the separator, or stands in a part. -/
theorem mem_splitAtByte {c : UInt8} (member : c ∈ s) : c = separator ∨ ∃ part ∈ splitAtByte separator s, c ∈ part := by
  induction s with
  | nil => cases member
  | cons d rest ih =>
    rw [splitAtByte]
    split
    · rename_i here
      rcases List.mem_cons.mp member with rfl | member
      · exact .inl here
      · rcases ih member with same | ⟨part, mem, within⟩
        · exact .inl same
        · exact .inr ⟨part, List.mem_cons_of_mem _ mem, within⟩
    · split
      · rename_i none_
        rcases List.mem_cons.mp member with rfl | member
        · exact .inr ⟨_, List.mem_singleton_self _, List.mem_singleton_self _⟩
        · rcases ih member with same | ⟨part, mem, _⟩
          · exact .inl same
          · rw [none_] at mem
            cases mem
      · rename_i part parts split_
        rcases List.mem_cons.mp member with rfl | member
        · exact .inr ⟨_, List.mem_cons_self, List.mem_cons_self⟩
        · rcases ih member with same | ⟨p, mem, within⟩
          · exact .inl same
          · rw [split_] at mem
            rcases List.mem_cons.mp mem with rfl | mem
            · exact .inr ⟨_, List.mem_cons_self, List.mem_cons_of_mem _ within⟩
            · exact .inr ⟨p, List.mem_cons_of_mem _ mem, within⟩

end Parts

/-! ## Digits -/

/-- A digit. -/
def byteDigit (d : ℕ) : UInt8 := UInt8.ofNat d.digitChar.toNat

theorem byteDigit_injective : ∀ d < 16, ∀ e < 16, byteDigit d = byteDigit e → d = e := by decide

theorem byteDigit_plain : ∀ d < 16, byteDigit d ≠ dot ∧ byteDigit d ≠ colon ∧ byteDigit d ≠ 0x2F := by decide

section Digits
variable {base n m : ℕ}

theorem digits_ne_nil : digits base n ≠ [] := by
  simp [digits, Nat.toDigits_ne_nil]

theorem digits_eq_if (big : 1 < base) :
    digits base n = if n < base then [byteDigit n] else digits base (n / base) ++ [byteDigit (n % base)] := by
  rw [digits, Nat.toDigits_eq_if big]
  split
  · rfl
  · simp [digits, byteDigit]

theorem mem_digits (big : 1 < base) {c : UInt8} (member : c ∈ digits base n) : ∃ d < base, c = byteDigit d := by
  induction n using Nat.strongRecOn with
  | ind n ih =>
    rw [digits_eq_if big] at member
    split at member
    · rename_i small
      exact ⟨n, small, List.mem_singleton.mp member⟩
    · rename_i large
      rcases List.mem_append.mp member with front | last
      · exact ih (n / base) (Nat.div_lt_self (by omega) big) front
      · exact ⟨n % base, Nat.mod_lt n (by omega), List.mem_singleton.mp last⟩

/-- A number is told by its digits. -/
theorem digits_injective (big : 1 < base) (small : base ≤ 16) : Function.Injective (digits base) := by
  intro n
  induction n using Nat.strongRecOn with
  | ind n ih =>
    intro m same
    rw [digits_eq_if big, digits_eq_if (n := m) big] at same
    split at same <;> split at same
    · rename_i low low'
      exact byteDigit_injective n (by omega) m (by omega) (List.singleton_inj.mp same)
    · exact absurd (@List.append_inj' _ [] _ _ _ same rfl).1.symm digits_ne_nil
    · exact absurd (@List.append_inj' _ _ _ [] _ same rfl).1 digits_ne_nil
    · rename_i high high'
      obtain ⟨front, last⟩ := List.append_inj' same rfl
      have quotient := ih (n / base) (Nat.div_lt_self (by omega) big) front
      have remainder := byteDigit_injective (n % base) (Nat.lt_of_lt_of_le (Nat.mod_lt n (by omega)) small) (m % base)
        (Nat.lt_of_lt_of_le (Nat.mod_lt m (by omega)) small) (List.singleton_inj.mp last)
      rw [← Nat.div_add_mod n base, ← Nat.div_add_mod m base, quotient, remainder]

theorem digits_free (big : 1 < base) (small : base ≤ 16) :
    dot ∉ digits base n ∧ colon ∉ digits base n ∧ 0x2F ∉ digits base n := by
  have plain {c : UInt8} (member : c ∈ digits base n) : c ≠ dot ∧ c ≠ colon ∧ c ≠ 0x2F := by
    obtain ⟨d, within, rfl⟩ := mem_digits big member
    exact byteDigit_plain d (by omega)
  exact ⟨fun member => (plain member).1 rfl, fun member => (plain member).2.1 rfl, fun member => (plain member).2.2 rfl⟩

end Digits

/-! ## What is written tells the address -/

theorem map_digits_injective {base : ℕ} (big : 1 < base) (small : base ≤ 16) {ns ms : List ℕ}
    (same : ns.map (digits base) = ms.map (digits base)) : ns = ms :=
  List.map_injective_iff.mpr (digits_injective big small) same

/-- The dotted form. -/
theorem string4_injective {v4 v4' : Bytes} (some_ : v4 ≠ []) (some_' : v4' ≠ []) (same : string4 v4 = string4 v4') :
    v4 = v4' := by
  have free (v : Bytes) : ∀ part ∈ v.map fun b => digits 10 b.toNat, dot ∉ part := by
    intro part member
    obtain ⟨b, _, rfl⟩ := List.mem_map.mp member
    exact (digits_free (by omega) (by omega)).1
  have parts := join_injective (by simpa using some_) (by simpa using some_') (free v4) (free v4') same
  refine List.map_injective_iff.mpr (fun b c equal => ?_) parts
  exact UInt8.toNat_inj.mp (digits_injective (by omega) (by omega) equal)

/-- Parts that are not empty are told by their join, of any number. -/
theorem join_injective_of_ne_nil {separator : UInt8} {parts parts' : List Bytes}
    (free : ∀ part ∈ parts, separator ∉ part) (free' : ∀ part ∈ parts', separator ∉ part)
    (some_ : ∀ part ∈ parts, part ≠ []) (some_' : ∀ part ∈ parts', part ≠ [])
    (same : join separator parts = join separator parts') : parts = parts' := by
  have shown {part : Bytes} {rest : List Bytes} (present : part ≠ []) : join separator (part :: rest) ≠ [] := by
    cases rest with
    | nil => exact present
    | cons next rest =>
      rw [join_cons]
      simp
  match parts, parts', free, free', some_, some_', same with
  | [], [], _, _, _, _, _ => rfl
  | [], part :: rest, _, _, _, some_', same => exact absurd same.symm (shown (some_' part List.mem_cons_self))
  | part :: rest, [], _, _, some_, _, same => exact absurd same (shown (some_ part List.mem_cons_self))
  | _ :: _, _ :: _, free, free', _, _, same => exact join_injective nofun nofun free free' same

theorem mem_join {separator c : UInt8} {parts : List Bytes} (member : c ∈ join separator parts) :
    c = separator ∨ ∃ part ∈ parts, c ∈ part := by
  induction parts with
  | nil => cases member
  | cons part rest ih =>
    cases rest with
    | nil => exact .inr ⟨part, List.mem_singleton_self _, member⟩
    | cons next rest =>
      rw [join_cons] at member
      rcases List.mem_append.mp member with here | here
      · exact .inr ⟨part, List.mem_cons_self, here⟩
      · rcases List.mem_cons.mp here with same | here
        · exact .inl same
        · rcases ih here with same | ⟨p, mem, within⟩
          · exact .inl same
          · exact .inr ⟨p, List.mem_cons_of_mem _ mem, within⟩

theorem slash_not_mem_string4 (v4 : Bytes) : 0x2F ∉ string4 v4 := by
  intro member
  rcases mem_join member with same | ⟨part, mem, within⟩
  · exact absurd same (by decide)
  · obtain ⟨b, _, rfl⟩ := List.mem_map.mp mem
    exact (digits_free (by omega) (by omega)).2.2 within

/-- How many of four fields stand before the zeros at their end. -/
def lead (a b c d : Bool) : ℕ := if !d then 4 else if !c then 3 else if !b then 2 else if !a then 1 else 0

/-- A masked address ends in its longest run. -/
theorem zeroRun_masked : ∀ a b c d : Bool, zeroRun [a, b, c, d, true, true, true, true] = (lead a b c d, 8) := by decide

/-- The fields of a masked address. -/
theorem words_mask64 {ip : IP} (width : ip.length = 16) : ∃ a b c d : ℕ,
    words (mask64 ip) = [a, b, c, d, 0, 0, 0, 0] ∧ words (ip.take 8) = [a, b, c, d] := by
  match ip, width with
  | [_, _, _, _, _, _, _, _, _, _, _, _, _, _, _, _], _ => exact ⟨_, _, _, _, rfl, rfl⟩

/-- The first fields of an address, without the zeros at their end. -/
def leading (a b c d : ℕ) : List ℕ := [a, b, c, d].take (lead (a == 0) (b == 0) (c == 0) (d == 0))

theorem leading_injective {a b c d a' b' c' d' : ℕ} (same : leading a b c d = leading a' b' c' d') :
    [a, b, c, d] = [a', b', c', d'] := by
  have padded (a b c d : ℕ) : [a, b, c, d] = leading a b c d ++ List.replicate (4 - (leading a b c d).length) 0 := by
    unfold leading lead
    by_cases hd : d = 0 <;> by_cases hc : c = 0 <;> by_cases hb : b = 0 <;> by_cases ha : a = 0 <;> simp [*]
  rw [padded a b c d, padded a' b' c' d', same]

/-- A masked address in hex fields. -/
theorem string6_masked {ip : IP} {a b c d : ℕ} (fields : words (mask64 ip) = [a, b, c, d, 0, 0, 0, 0]) :
    string6 (mask64 ip) = join colon ((leading a b c d).map (digits 16)) ++ [colon, colon] := by
  have run : zeroRun ((words (mask64 ip)).map (· == 0)) = (lead (a == 0) (b == 0) (c == 0) (d == 0), 8) := by
    rw [fields]
    exact zeroRun_masked (a == 0) (b == 0) (c == 0) (d == 0)
  have few : lead (a == 0) (b == 0) (c == 0) (d == 0) ≤ 4 := by
    unfold lead
    split_ifs <;> decide
  have front : (words (mask64 ip)).take (lead (a == 0) (b == 0) (c == 0) (d == 0)) = leading a b c d := by
    rw [fields]
    change ([a, b, c, d] ++ [0, 0, 0, 0]).take _ = _
    exact List.take_append_of_le_length few
  rw [string6, run]
  dsimp only
  rw [if_neg (by omega), front, fields]
  exact List.append_nil _

/-- Eight bytes by their fields. -/
theorem words_injective {front front' : Bytes} (width : front.length = 8) (width' : front'.length = 8)
    (same : words front = words front') : front = front' := by
  match front, width, front', width' with
  | [a, b, c, d, e, f, g, h], _, [a', b', c', d', e', f', g', h'], _ =>
    simp only [words, List.cons.injEq, and_true] at same
    obtain ⟨first, second, third, fourth⟩ := same
    have pair {x y x' y' : UInt8} (equal : x.toNat * 256 + y.toNat = x'.toNat * 256 + y'.toNat) : x = x' ∧ y = y' := by
      have low := y.toNat_lt
      have low' := y'.toNat_lt
      constructor
      · exact UInt8.toNat_inj.mp (by omega)
      · exact UInt8.toNat_inj.mp (by omega)
    obtain ⟨rfl, rfl⟩ := pair first
    obtain ⟨rfl, rfl⟩ := pair second
    obtain ⟨rfl, rfl⟩ := pair third
    obtain ⟨rfl, rfl⟩ := pair fourth
    rfl

/-- The text of a masked address tells its first eight bytes. -/
theorem string6_injective {ip ip' : IP} (width : ip.length = 16) (width' : ip'.length = 16)
    (same : string6 (mask64 ip) = string6 (mask64 ip')) : ip.take 8 = ip'.take 8 := by
  obtain ⟨a, b, c, d, fields, front⟩ := words_mask64 width
  obtain ⟨a', b', c', d', fields', front'⟩ := words_mask64 width'
  rw [string6_masked fields, string6_masked fields'] at same
  have heads := List.append_cancel_right same
  refine words_injective (by simp [width]) (by simp [width']) ?_
  rw [front, front']
  apply leading_injective
  have free (ws : List ℕ) : ∀ part ∈ ws.map (digits 16), colon ∉ part := by
    intro part member
    obtain ⟨w, _, rfl⟩ := List.mem_map.mp member
    exact (digits_free (by omega) (by omega)).2.1
  have some_ (ws : List ℕ) : ∀ part ∈ ws.map (digits 16), part ≠ [] := by
    intro part member
    obtain ⟨w, _, rfl⟩ := List.mem_map.mp member
    exact digits_ne_nil
  exact map_digits_injective (by omega) (by omega)
    (join_injective_of_ne_nil (free _) (free _) (some_ _) (some_ _) heads)

/-! ## What is read -/

/-- The bytes of an address. -/
def Plain (c : UInt8) : Prop := isHex c = true ∨ c = dot ∨ c = colon

theorem Plain.not_bracket {c : UInt8} (plain : Plain c) : c ≠ opening ∧ c ≠ closing := by
  rcases plain with hex | rfl | rfl
  · constructor <;> (rintro rfl; exact absurd hex (by decide))
  · decide
  · decide

theorem isHex_of_isDigit {c : UInt8} (digit : isDigit c = true) : isHex c = true := by
  rw [isHex, hexValue, if_pos digit]
  rfl

theorem not_colon_of_isHex {c : UInt8} (hex : isHex c = true) : c ≠ colon := by
  rintro rfl
  exact absurd hex (by decide)

theorem octet_some {field : Bytes} {b : UInt8} (read : octet field = some b) : ∀ c ∈ field, isDigit c = true := by
  unfold octet at read
  dsimp only at read
  split at read
  · cases read
  · rename_i accepted
    exact List.all_eq_true.mp (by simpa using (not_or.mp (not_or.mp accepted).2).1)

/-- Four bytes, from digits and dots. -/
theorem parseIPv4Fields_some {s v4 : Bytes} (read : parseIPv4Fields s = some v4) :
    v4.length = 4 ∧ ∀ c ∈ s, isDigit c = true ∨ c = dot := by
  unfold parseIPv4Fields at read
  split at read
  · rename_i a b c d parts
    cases read
    refine ⟨rfl, fun c member => ?_⟩
    rcases @mem_splitAtByte dot _ _ member with same | ⟨part, mem, within⟩
    · exact .inr same
    · have read := List.mem_map_of_mem (f := octet) mem
      rw [parts] at read
      obtain ⟨b, some_⟩ : ∃ b, octet part = some b := by
        simp only [List.mem_cons, List.not_mem_nil, or_false] at read
        rcases read with same | same | same | same <;> exact ⟨_, same⟩
      exact .inl (octet_some some_ c within)
  · cases read

theorem hexField_some {s rest : Bytes} {acc : ℕ} (read : hexField s = some (acc, rest)) :
    ∃ digits : Bytes, s = digits ++ rest ∧ ∀ c ∈ digits, isHex c = true := by
  unfold hexField at read
  dsimp only at read
  split at read
  · cases read
  · cases read
    exact ⟨s.takeWhile isHex, (List.takeWhile_append_dropWhile).symm, List.all_eq_true.mp List.all_takeWhile⟩

/-- What the loop reads: its bytes are plain, and where it finds no ellipsis of its own, a colon
stands for every two bytes but the last. -/
theorem fields_some {room : ℕ} {ip ip' s : Bytes} {ellipsis ellipsis' : Option ℕ}
    (within : ip.length + 2 * room = 16) (read : fields room ip ellipsis s = some (ip', ellipsis', [])) :
    ip'.length ≤ 16 ∧ (∀ c ∈ s, Plain c) ∧
      ((ellipsis' = ellipsis ∧ ip'.length ≤ ip.length + 2 * s.count colon + 4) ∨
        (ellipsis = none ∧ 2 ≤ s.count colon)) := by
  induction room generalizing ip ellipsis s with
  | zero =>
    cases read
    exact ⟨by omega, nofun, .inl ⟨rfl, by omega⟩⟩
  | succ room ih =>
    unfold fields at read
    split at read
    · cases read
    · rename_i acc rest hexed
      obtain ⟨digits, rfl, hex⟩ := hexField_some hexed
      have plain : ∀ c ∈ digits, Plain c := fun c member => .inl (hex c member)
      have none_ : digits.count colon = 0 :=
        List.count_eq_zero.mpr fun member => not_colon_of_isHex (hex colon member) rfl
      split at read
      · -- an IPv4 address at the end
        split at read
        · cases read
        · split at read
          · cases read
          · rename_i fits
            obtain ⟨v4, parsed, ended⟩ := Option.map_eq_some_iff.mp read
            cases ended
            obtain ⟨four, decimal⟩ := parseIPv4Fields_some parsed
            refine ⟨by rw [List.length_append, four]; omega, fun c member => ?_, .inl ⟨rfl, ?_⟩⟩
            · rcases decimal c member with digit | same
              · exact .inl (isHex_of_isDigit digit)
              · exact .inr (.inl same)
            · rw [List.length_append, four]
              omega
      · dsimp only at read
        rw [List.count_append, none_]
        split at read
        · cases read
          refine ⟨by simp; omega, by simpa using plain, .inl ⟨rfl, by simp⟩⟩
        · rename_i c rest
          split at read
          · cases read
          · rename_i follows
            obtain rfl := not_not.mp follows
            split at read
            · cases read
            · rename_i d rest'
              split at read
              · rename_i twice
                subst twice
                split at read
                · cases read
                · rename_i fresh
                  have two : 2 ≤ (colon :: colon :: rest').count colon := by simp
                  have first : ellipsis = none := by simpa using fresh
                  split at read
                  · rename_i ended
                    cases read
                    subst ended
                    refine ⟨by simp; omega, ?_, .inr ⟨first, by simp⟩⟩
                    intro c member
                    rcases List.mem_append.mp member with here | here
                    · exact plain c here
                    · exact .inr (.inr (by simpa using here))
                  · obtain ⟨length, others, _⟩ := ih (by simp; omega) read
                    refine ⟨length, ?_, .inr ⟨first, by omega⟩⟩
                    intro c member
                    rcases List.mem_append.mp member with here | here
                    · exact plain c here
                    · rcases List.mem_cons.mp here with same | here
                      · exact .inr (.inr same)
                      · rcases List.mem_cons.mp here with same | here
                        · exact .inr (.inr same)
                        · exact others c here
              · obtain ⟨length, others, counted⟩ := ih (by simp; omega) read
                refine ⟨length, ?_, ?_⟩
                · intro c member
                  rcases List.mem_append.mp member with here | here
                  · exact plain c here
                  · rcases List.mem_cons.mp here with same | here
                    · exact .inr (.inr same)
                    · exact others c here
                · rw [List.count_cons_self]
                  rcases counted with ⟨same, bound⟩ | ⟨fresh, two⟩
                  · refine .inl ⟨same, ?_⟩
                    simp only [List.length_append, List.length_cons, List.length_nil] at bound
                    omega
                  · exact .inr ⟨fresh, by omega⟩

theorem expand_some {ip : Bytes} {ellipsis : Option ℕ} {s : Bytes} {full : IP}
    (read : expand (ip, ellipsis, s) = some full) :
    s = [] ∧ (ip.length ≤ 16 → full.length = 16 ∧ (ellipsis = none → ip.length = 16)) := by
  unfold expand at read
  dsimp only at read
  by_cases ended : s = []
  · refine ⟨ended, fun small => ?_⟩
    rw [if_neg (not_not.mpr ended)] at read
    split at read
    · split at read
      · cases read
      · cases read
        exact ⟨by omega, fun _ => by omega⟩
    · split at read
      · cases read
        exact ⟨by simp; omega, nofun⟩
      · cases read
  · rw [if_pos ended] at read
    cases read

/-- An IPv6 text has sixteen bytes to it, and two colons. -/
theorem parseIPv6_some {s : Bytes} {ip : IP} (read : parseIPv6 s = some ip) :
    ip.length = 16 ∧ (∀ c ∈ s, Plain c) ∧ 2 ≤ s.count colon := by
  unfold parseIPv6 at read
  split at read
  · cases read
  · split at read
    · rename_i twice
      have front : s = [colon, colon] ++ s.drop 2 := by rw [← twice, List.take_append_drop]
      have counted : 2 ≤ s.count colon := by
        rw [front, List.count_append]
        exact Nat.le_add_right _ _
      split at read
      · rename_i only
        cases read
        refine ⟨rfl, fun c member => ?_, counted⟩
        rw [front, only] at member
        exact .inr (.inr (by simpa using member))
      · obtain ⟨⟨bytes, ellipsis, left⟩, looped, expanded⟩ := Option.bind_eq_some_iff.mp read
        obtain ⟨rfl, filled⟩ := expand_some expanded
        obtain ⟨small, plain, _⟩ := fields_some rfl looped
        refine ⟨(filled small).1, fun c member => ?_, counted⟩
        rw [front] at member
        rcases List.mem_append.mp member with here | here
        · exact .inr (.inr (by simpa using here))
        · exact plain c here
    · obtain ⟨⟨bytes, ellipsis, left⟩, looped, expanded⟩ := Option.bind_eq_some_iff.mp read
      obtain ⟨rfl, filled⟩ := expand_some expanded
      obtain ⟨small, plain, counted⟩ := fields_some rfl looped
      refine ⟨(filled small).1, plain, ?_⟩
      rcases counted with ⟨same, bound⟩ | ⟨_, two⟩
      · rw [(filled small).2 same] at bound
        simp only [List.length_nil] at bound
        omega
      · exact two

/-- An address in a text: sixteen bytes, from plain ones, and with no colon or at least two. -/
theorem parseIP_some {s : Bytes} {ip : IP} (read : parseIP s = some ip) :
    ip.length = 16 ∧ (∀ c ∈ s, Plain c) ∧ (colon ∉ s ∨ 2 ≤ s.count colon) := by
  unfold parseIP at read
  split at read
  · cases read
  · split at read
    · obtain ⟨v4, parsed, rfl⟩ := Option.map_eq_some_iff.mp read
      obtain ⟨four, decimal⟩ := parseIPv4Fields_some parsed
      refine ⟨by simp [v4InV6Prefix, four], fun c member => ?_, .inl fun member => ?_⟩
      · rcases decimal c member with digit | same
        · exact .inl (isHex_of_isDigit digit)
        · exact .inr (.inl same)
      · rcases decimal colon member with digit | same
        · exact absurd digit (by decide)
        · exact absurd same (by decide)
    · split at read
      · obtain ⟨width, plain, counted⟩ := parseIPv6_some read
        exact ⟨width, plain, .inr counted⟩
      · cases read

/-! ## The host of a text -/

section Hosts
variable {separator : UInt8} {s front behind port : Bytes}

theorem cutLast_free (free : separator ∉ s) : cutLast separator s = none := by
  induction s with
  | nil => rfl
  | cons c rest ih =>
    obtain ⟨here, others⟩ := not_or.mp (fun member => free (List.mem_cons.mpr member))
    rw [cutLast, ih others]
    exact if_neg (Ne.symm here)

theorem cutLast_append (free : separator ∉ behind) : cutLast separator (front ++ separator :: behind) = some (front, behind) := by
  induction front with
  | nil =>
    rw [List.nil_append, cutLast, cutLast_free free]
    exact if_pos rfl
  | cons c front ih => rw [List.cons_append, cutLast, ih]

/-- A text with the byte is cut at its last. -/
theorem cutLast_mem (member : separator ∈ s) :
    ∃ front behind, s = front ++ separator :: behind ∧ separator ∉ behind := by
  induction s with
  | nil => cases member
  | cons c rest ih =>
    by_cases later : separator ∈ rest
    · obtain ⟨front, behind, rfl, free⟩ := ih later
      exact ⟨c :: front, behind, rfl, free⟩
    · rcases List.mem_cons.mp member with rfl | later'
      · exact ⟨[], rest, rfl, later⟩
      · exact absurd later' later

/-- A bare address has no port: it has no colon, or too many. -/
theorem splitHostPort_bare (plain : ∀ c ∈ s, Plain c) (colons : colon ∉ s ∨ 2 ≤ s.count colon) :
    splitHostPort s = none := by
  rcases colons with free | two
  · rw [splitHostPort, cutLast_free free]
  · obtain ⟨front, behind, rfl, free⟩ := cutLast_mem (List.count_pos_iff.mp (Nat.lt_of_lt_of_le (by omega) two))
    have inside : colon ∈ front := by
      rw [List.count_append, List.count_cons_self, List.count_eq_zero.mpr free] at two
      exact List.count_pos_iff.mp (by omega)
    rw [splitHostPort, cutLast_append free]
    cases front with
    | nil => cases inside
    | cons c front =>
      have bare : c ≠ opening := ((plain c List.mem_cons_self).not_bracket).1
      simp [bare, inside]

/-- No bracket stands in an address with its port. -/
theorem bracket_free (plain : ∀ c ∈ s, Plain c) (clean : ∀ c ∈ port, c ≠ colon ∧ c ≠ opening ∧ c ≠ closing) :
    opening ∉ s ++ colon :: port ∧ closing ∉ s ++ colon :: port := by
  have free : ∀ c ∈ s ++ colon :: port, c ≠ opening ∧ c ≠ closing := by
    intro c member
    rcases List.mem_append.mp member with here | here
    · exact (plain c here).not_bracket
    · rcases List.mem_cons.mp here with rfl | here
      · decide
      · exact (clean c here).2
  exact ⟨fun member => (free _ member).1 rfl, fun member => (free _ member).2 rfl⟩

/-- A host with a port. -/
theorem splitHostPort_port (plain : ∀ c ∈ s, Plain c) (free : colon ∉ s) (some_ : s ≠ [])
    (clean : ∀ c ∈ port, c ≠ colon ∧ c ≠ opening ∧ c ≠ closing) :
    splitHostPort (s ++ colon :: port) = some (s, port) := by
  obtain ⟨unopened, unclosed⟩ := bracket_free plain clean
  rw [splitHostPort, cutLast_append fun member => (clean colon member).1 rfl]
  cases s with
  | nil => exact absurd rfl some_
  | cons c rest =>
    have bare : c ≠ opening := ((plain c List.mem_cons_self).not_bracket).1
    simp only [bare, if_false, free, unopened, unclosed, or_self]

/-- A host in brackets. -/
theorem splitHostPort_brackets (plain : ∀ c ∈ s, Plain c)
    (clean : ∀ c ∈ port, c ≠ colon ∧ c ≠ opening ∧ c ≠ closing) :
    splitHostPort (opening :: s ++ closing :: colon :: port) = some (s, port) := by
  have shape : opening :: s ++ closing :: colon :: port = (opening :: (s ++ [closing])) ++ colon :: port := by simp
  have open_ : ∀ c ∈ s, decide (c ≠ closing) = true := fun c member => decide_eq_true (plain c member).not_bracket.2
  have unopened : opening ∉ (s ++ [closing]) ++ colon :: port := by
    intro member
    rw [List.append_assoc] at member
    rcases List.mem_append.mp member with here | here
    · exact (plain _ here).not_bracket.1 rfl
    · rcases List.mem_cons.mp here with same | here
      · exact absurd same (by decide)
      · exact (@bracket_free [] _ nofun clean).1 here
  have unclosed : closing ∉ port := fun member => (clean closing member).2.2 rfl
  have dropped : (s ++ [closing]).dropWhile (· ≠ closing) = [closing] := by
    rw [List.dropWhile_append_of_pos open_]
    rfl
  have taken : (s ++ [closing]).takeWhile (· ≠ closing) = s := by
    rw [List.takeWhile_append_of_pos open_]
    exact List.append_nil s
  rw [shape, splitHostPort, cutLast_append fun member => (clean colon member).1 rfl]
  simp only [if_true, dropped, taken]
  exact if_neg (not_or.mpr ⟨unopened, unclosed⟩)

end Hosts

end AnselmGateway.Foundation.IPAddress
