import AnselmGateway.Foundation.Json.Scanner
import AnselmGateway.Foundation.Utf8

/-! The JSON token stream over a whole input: delimiters, keys and values one after
another, and the loop over the members of an object. -/
namespace AnselmGateway.Foundation.Json

/-! ## Strings -/

/-- The value of a hex digit. -/
def hexValue (c : Char) : ℕ :=
  if '0' ≤ c ∧ c ≤ '9' then c.toNat - 48
  else if 'a' ≤ c ∧ c ≤ 'f' then c.toNat - 87
  else c.toNat - 55

/-- `getu4`, of four hex digits. -/
def hex4 (a b c d : Char) : ℕ :=
  ((hexValue a * 16 + hexValue b) * 16 + hexValue c) * 16 + hexValue d

/-- What a single-letter escape stands for. -/
def unescape (c : Char) : Char :=
  if c = 'b' then Char.ofNat 8
  else if c = 'f' then Char.ofNat 12
  else if c = 'n' then Char.ofNat 10
  else if c = 'r' then Char.ofNat 13
  else if c = 't' then Char.ofNat 9
  else c

/-- The rune of one `\u` escape; half a surrogate pair stands for none. -/
def escapedRune (code : ℕ) : Char :=
  if 0xD800 ≤ code ∧ code < 0xE000 then runeError else Char.ofNat code

def isSurrogatePair (high low : ℕ) : Bool :=
  0xD800 ≤ high && high < 0xDC00 && 0xDC00 ≤ low && low < 0xE000

/-- `unquote`, over the runes between the quotes of a scanned string. -/
def unquoteRunes : List Char → List Char
  | '\\' :: 'u' :: a :: b :: c :: d :: '\\' :: 'u' :: e :: f :: g :: h :: rest =>
    if isSurrogatePair (hex4 a b c d) (hex4 e f g h) then
      Char.ofNat (0x10000 + (hex4 a b c d - 0xD800) * 0x400 + (hex4 e f g h - 0xDC00)) ::
        unquoteRunes rest
    else escapedRune (hex4 a b c d) :: unquoteRunes ('\\' :: 'u' :: e :: f :: g :: h :: rest)
  | '\\' :: 'u' :: a :: b :: c :: d :: rest => escapedRune (hex4 a b c d) :: unquoteRunes rest
  | '\\' :: c :: rest => unescape c :: unquoteRunes rest
  | c :: rest => c :: unquoteRunes rest
  | [] => []

/-- `unquote` of a scanned string literal. -/
def unquote (literal : Bytes) : String :=
  String.ofList (unquoteRunes (runes (literal.drop 1).dropLast))

/-! ## Numbers -/

/-- The digits of a scanned number: its whole part, its fraction, and its exponent
with the sign in front. -/
def numberParts (literal : Bytes) : Bytes × Bytes × Bytes :=
  let unsigned := literal.dropWhile fun c => c = 0x2D
  let whole := unsigned.takeWhile isDigit
  let rest := unsigned.drop whole.length
  let fraction := if rest.head? = some 0x2E then (rest.drop 1).takeWhile isDigit else []
  let rest := if rest.head? = some 0x2E then rest.drop (1 + fraction.length) else rest
  (whole, fraction, rest.drop 1)

def digitsValue (digits : Bytes) : ℕ := digits.foldl (fun value c => value * 10 + (c.toNat - 48)) 0

/-- The value of a signed run of digits. -/
def signedValue (text : Bytes) : ℤ :=
  match text with
  | 0x2D :: digits => -(digitsValue digits : ℤ)
  | 0x2B :: digits => digitsValue digits
  | digits => digitsValue digits

/-- Whether `strconv.ParseFloat` finds a scanned number out of range: it rounds to
at least two to the power 1024. -/
def overflowsFloat64 (literal : Bytes) : Bool :=
  let (whole, fraction, exponent) := numberParts literal
  let mantissa := digitsValue (whole ++ fraction)
  let scale := signedValue exponent - fraction.length
  let limit := 2 ^ 1024 - 2 ^ 970
  if mantissa = 0 then false
  else if scale > 400 then true
  else if -scale ≥ (whole ++ fraction).length then false
  else if scale < 0 then decide (mantissa ≥ limit * 10 ^ (-scale).toNat)
  else decide (mantissa * 10 ^ scale.toNat ≥ limit)

/-! ## The token stream -/

/-- `tokenState`. -/
inductive TokenState where
  | topValue
  | arrayStart
  | arrayValue
  | arrayComma
  | objectStart
  | objectKey
  | objectColon
  | objectValue
  | objectComma
  deriving DecidableEq

/-- A decoder over the rest of its input. -/
structure Decoder where
  rest : Bytes
  state : TokenState
  stack : List TokenState
  deriving DecidableEq

def Decoder.new (input : Bytes) : Decoder := ⟨input, .topValue, []⟩

/-- `InputOffset` of a decoder made over an input, from what is left of it. -/
def inputOffset (input rest : Bytes) : ℕ := input.length - rest.length

/-- Why a token or a value could not be read. -/
inductive DecodeError where
  | eof
  | invalid
  deriving DecidableEq

/-- A delimiter, a string, or another value. -/
inductive Token where
  | delim (c : UInt8)
  | text (s : String)
  | other (literal : Bytes)
  deriving DecidableEq

/-- `peek`: the next byte that is no space, and the input from it on. -/
def Decoder.peek (dec : Decoder) : Option (UInt8 × Bytes) :=
  match dec.rest.dropWhile isSpace with
  | [] => none
  | c :: rest => some (c, rest)

/-- `More`. -/
def Decoder.more (dec : Decoder) : Bool :=
  match dec.peek with
  | none => false
  | some (c, _) => c ≠ rightBracket && c ≠ rightBrace

/-- The input after a separator that is due. -/
def Decoder.skip (dec : Decoder) (separator : UInt8) (next : TokenState) :
    Except DecodeError Decoder :=
  match dec.peek with
  | none => .error .eof
  | some (c, rest) => if c = separator then .ok ⟨rest, next, dec.stack⟩ else .error .invalid

/-- `tokenPrepareForDecode`. -/
def Decoder.prepare (dec : Decoder) : Except DecodeError Decoder :=
  match dec.state with
  | .arrayComma => dec.skip comma .arrayValue
  | .objectColon => dec.skip colon .objectValue
  | _ => .ok dec

/-- `tokenValueAllowed`. -/
def TokenState.valueAllowed : TokenState → Bool
  | .topValue | .arrayStart | .arrayValue | .objectValue => true
  | _ => false

/-- `tokenValueEnd`. -/
def TokenState.valueEnd : TokenState → TokenState
  | .arrayStart | .arrayValue => .arrayComma
  | .objectValue => .objectComma
  | state => state

/-- The value at the front of the input as it stands, without the space before it. -/
def Decoder.readRaw (dec : Decoder) : Except DecodeError (Bytes × Decoder) :=
  if !dec.state.valueAllowed then .error .invalid
  else match readValue dec.rest with
    | none => .error (if dec.rest.all isSpace then .eof else .invalid)
    | some n => .ok ((dec.rest.take n).dropWhile isSpace,
        ⟨dec.rest.drop n, dec.state.valueEnd, dec.stack⟩)

/-- `Decode` into a `RawMessage`. -/
def Decoder.decode (dec : Decoder) : Except DecodeError (Bytes × Decoder) :=
  match dec.prepare with
  | .error error => .error error
  | .ok dec => dec.readRaw

/-- A scalar as the token `Decode` makes of it. -/
def scalarToken (literal : Bytes) : Option Token :=
  match literal.head? with
  | some c =>
    if c = quote then some (.text (unquote literal))
    else if (c = 0x2D || isDigit c) && overflowsFloat64 literal then none
    else some (.other literal)
  | none => none

/-- An opening delimiter. -/
def openToken (state : TokenState) (stack : List TokenState) (c : UInt8) (rest : Bytes)
    (inside : TokenState) : Except DecodeError (Token × Decoder) :=
  if state.valueAllowed then .ok (.delim c, ⟨rest, inside, state :: stack⟩) else .error .invalid

/-- A closing one, where an array or object may end. -/
def closeToken (state : TokenState) (stack : List TokenState) (c : UInt8) (rest : Bytes)
    (start comma : TokenState) : Except DecodeError (Token × Decoder) :=
  match stack with
  | outer :: stack =>
    if state = start ∨ state = comma then .ok (.delim c, ⟨rest, outer.valueEnd, stack⟩)
    else .error .invalid
  | [] => .error .invalid

/-- A scalar, decoded in one state and left in another. -/
def scalarAt (state next : TokenState) (stack : List TokenState) (input : Bytes) :
    Except DecodeError (Token × Decoder) :=
  match Decoder.decode ⟨input, state, stack⟩ with
  | .error error => .error error
  | .ok (literal, after) =>
    match scalarToken literal with
    | none => .error .invalid
    | some token => .ok (token, ⟨after.rest, next, stack⟩)

/-- The token that begins with `c`, which is no separator that is due. -/
def tokenAt (state : TokenState) (stack : List TokenState) (c : UInt8) (rest : Bytes) :
    Except DecodeError (Token × Decoder) :=
  if c = leftBracket then openToken state stack c rest .arrayStart
  else if c = rightBracket then closeToken state stack c rest .arrayStart .arrayComma
  else if c = leftBrace then openToken state stack c rest .objectStart
  else if c = rightBrace then closeToken state stack c rest .objectStart .objectComma
  else if c = colon ∨ c = comma then .error .invalid
  else if c = quote ∧ (state = .objectStart ∨ state = .objectKey) then
    scalarAt .topValue .objectColon stack (c :: rest)
  else if !state.valueAllowed then .error .invalid
  else scalarAt state state.valueEnd stack (c :: rest)

/-- The state after a separator, where one is due. -/
def TokenState.separated (state : TokenState) (c : UInt8) : Option TokenState :=
  if c = colon ∧ state = .objectColon then some .objectValue
  else if c = comma ∧ state = .arrayComma then some .arrayValue
  else if c = comma ∧ state = .objectComma then some .objectKey
  else none

/-- `Token`. No separator is due after another. -/
def Decoder.token (dec : Decoder) : Except DecodeError (Token × Decoder) :=
  match dec.peek with
  | none => .error .eof
  | some (c, rest) =>
    match dec.state.separated c with
    | none => tokenAt dec.state dec.stack c rest
    | some state =>
      match Decoder.peek ⟨rest, state, dec.stack⟩ with
      | none => .error .eof
      | some (c, rest) => tokenAt state dec.stack c rest

/-! ## Objects -/

/-- A member of an object: its key, its value, and the input after each. -/
structure Member where
  key : String
  keyRest : Bytes
  value : Bytes
  valueRest : Bytes
  deriving DecidableEq

/-- The next member of an object: a key that is a string, then a value. -/
def Decoder.member (dec : Decoder) : Option (Member × Decoder) :=
  match dec.token with
  | .ok (.text key, atColon) =>
    match atColon.decode with
    | .ok (value, next) => some (⟨key, atColon.rest, value, next.rest⟩, next)
    | .error _ => none
  | _ => none

/-- The loop over the members of an object, for so many rounds: `body` goes on or
returns, `broken` answers for what cannot be read. -/
def Decoder.rounds {σ ρ : Type} (body : σ → Member → σ ⊕ ρ) (broken : σ → ρ) :
    ℕ → Decoder → σ → ρ ⊕ (σ × Decoder)
  | 0, _, s => .inl (broken s)
  | left + 1, dec, s =>
    if !dec.more then .inr (s, dec)
    else match dec.member with
      | none => .inl (broken s)
      | some (m, next) =>
        match body s m with
        | .inl s => Decoder.rounds body broken left next s
        | .inr result => .inl result

/-- The whole loop. Every round takes at least one byte, so there are enough. -/
def Decoder.forMembers {σ ρ : Type} (body : σ → Member → σ ⊕ ρ) (broken : σ → ρ) (dec : Decoder)
    (s : σ) : ρ ⊕ (σ × Decoder) :=
  dec.rounds body broken (dec.rest.length + 1) s

/-- What follows the members: the closing brace and the end of the input. -/
def Decoder.closes (dec : Decoder) : Bool :=
  match dec.token with
  | .ok (.delim c, dec) => c = rightBrace && decide (dec.decode = .error .eof)
  | _ => false

/-- The opening brace of an object. -/
def openObject (input : Bytes) : Option Decoder :=
  match (Decoder.new input).token with
  | .ok (.delim c, dec) => if c = leftBrace then some dec else none
  | _ => none

/-- The loop over the members of an input that is to be exactly one object. -/
def overObject {σ ρ : Type} (body : σ → Member → σ ⊕ ρ) (broken : σ → ρ) (input : Bytes) (s : σ) :
    ρ ⊕ σ :=
  match openObject input with
  | none => .inl (broken s)
  | some dec =>
    match dec.forMembers body broken s with
    | .inl result => .inl result
    | .inr (s, dec) => if dec.closes then .inr s else .inl (broken s)

/-- The members of an input that is exactly one object, as `encoding/json` has it: an object that
nests deeper than `maxNestingDepth` is none. -/
def objectMembers (input : Bytes) : Option (List Member) :=
  (overObject (fun members m => .inl (members ++ [m])) (fun _ => ()) input []).getRight?

end AnselmGateway.Foundation.Json
