import AnselmGateway.Foundation.Json.Splice

/-! What the relay makes of a provider's response before it crosses the public wire:
one JSON object, its top-level model replaced by the public model id. -/
namespace AnselmGateway.ResponseModel
open Foundation Foundation.Json

/-- Where a value stands in its payload. -/
structure Span where
  start : ℕ
  stop : ℕ
  deriving DecidableEq

/-- The first index from `i` on, below `valueEnd`, that holds no space. -/
def skipSpaces (payload : Bytes) (i valueEnd : ℕ) : ℕ :=
  i + (((payload.take valueEnd).drop i).takeWhile Json.isSpace).length

/-- The start of the value whose end is `valueEnd`, from behind its key. -/
def valueStartAfterKey (payload : Bytes) (keyEnd valueEnd : ℕ) : Option ℕ :=
  if valueEnd < keyEnd || payload.length < valueEnd then none
  else
    let i := skipSpaces payload keyEnd valueEnd
    if i ≥ valueEnd || payload[i]? ≠ some colon then none
    else
      let i := skipSpaces payload (i + 1) valueEnd
      if i < valueEnd then some i else none

/-- One round of the walk over the members: where the model stands, if it was seen. -/
def modelMember (payload : Bytes) (modelSpan : Option Span) (m : Member) : Option Span ⊕ Unit :=
  let keyEnd := inputOffset payload m.keyRest
  let valueEnd := inputOffset payload m.valueRest
  if !equalFold m.key "model" then .inl modelSpan
  else if m.key ≠ "model" || modelSpan.isSome then .inr ()
  else match valueStartAfterKey payload keyEnd valueEnd with
    | none => .inr ()
    | some valueStart => .inl (some ⟨valueStart, valueEnd⟩)

/-- Only exactly one object passes; of its bytes only the model's are replaced. -/
def rewriteClientModelJSON (payload : Bytes) (publicModelID : String) : Option Bytes :=
  if !validUtf8 payload then none
  else match overObject (modelMember payload) (fun _ => ()) payload none with
    | .inl () => none
    | .inr none => some payload
    | .inr (some modelSpan) =>
      some (payload.take modelSpan.start ++ marshalString publicModelID ++ payload.drop modelSpan.stop)

/-- A space at the start of a line. -/
def isIndent (c : UInt8) : Bool := c = 0x20 || c = 0x09 || c = 0x0D

/-- A space behind the name of the field. -/
def isBlank (c : UInt8) : Bool := c = 0x20 || c = 0x09

/-- A blank line and the sentinel pass as they are, a comment as a bare colon, a data
field with its payload rewritten; nothing else passes. -/
def rewriteClientModelSSELine (line : Bytes) (publicModelID : String) : Option Bytes :=
  let indent := line.takeWhile isIndent
  let field := line.drop indent.length
  if field = [] then some line
  else if dropCR field = utf8 "data" then none
  else if !(utf8 "data:").isPrefixOf field then
    if field.head? = some colon then some [colon] else none
  else
    let value := field.drop (utf8 "data:").length
    let i := indent.length + (utf8 "data:").length + (value.takeWhile isBlank).length
    if trimSpaceBytes (line.drop i) = utf8 "[DONE]" then some line
    else match rewriteClientModelJSON (line.drop i) publicModelID with
      | none => none
      | some payload =>
        if payload = line.drop i then some line else some (line.take i ++ payload)

end AnselmGateway.ResponseModel
