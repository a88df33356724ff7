import ImportScan.Yaml.Node

/-! # Data from YAML

    The datum that a document stands for.

    * `data`  : the datum of a node.
    * `parse` : the datum of a text.
    * `tell`  : what is told from the portions of a text.
-/

namespace ImportScan.Yaml

/-! ## Scalars -/

/-- The text without underscores. -/
def withoutBars (t : Text) : Text := t.filter (!·.is '_')

/-- The integer that digits to a base spell. -/
def inBase (base : Nat) (t : Text) : Except Failure Int :=
  if isMadeOf (fun c => c.isHexDigit && c.hexValue < base) t then
    .ok (t.foldl (fun n d => base * n + d.hexValue) 0 : Nat)
  else .error (.fault (.notInteger base t))

/-- A decimal integer. -/
def decimal (t : Text) : Except Failure Int :=
  match Number.readInt? t with
  | some n => .ok n
  | none => .error (.fault (.unreadInteger t))

/-- Whether a text starts with a minus sign. -/
def isNegative (t : Text) : Bool := t.head?.any (·.is '-')

/-- The integer that a scalar spells. -/
def intValue (t : Text) : Except Failure Int := do
  let t := withoutBars t
  let body := unsigned t
  let n ← (
    match body with
    | [] => throw (.fault .emptyNumber)
    | a :: rest =>
      if body == Text.ofString "0" then pure 0
      else if body.startsWith (Text.ofString "0b") then inBase 2 (rest.drop 1)
      else if body.startsWith (Text.ofString "0x") then inBase 16 (rest.drop 1)
      else if a.is '0' then inBase 8 body
      else if body.any (·.is ':') then do
        let digits ← (body.splitOn (CodePoint.ofChar ':')).mapM decimal
        pure (digits.foldl (fun n d => 60 * n + d) 0)
      else decimal body : Except Failure Int)
  return if isNegative t then -n else n

/-- A real number. -/
def realNumber (t : Text) : Except Failure Binary64 :=
  match Number.readReal? t with
  | some x => .ok x
  | none => .error (.fault (.notReal t))

/-- The sum of digits to the base sixty, the last of which counts once. -/
def sexagesimal (digits : List Binary64) : Binary64 :=
  (digits.reverse.foldl
    (fun (sum, base) d => (sum.add (d.scale base), 60 * base)) (Binary64.zero, 1)).1

/-- The real that a scalar spells. -/
def realValue (t : Text) : Except Failure Binary64 := do
  let t := (withoutBars t).lower
  let body := unsigned t
  if t.isEmpty then throw (.fault .emptyNumber)
  if body == Text.ofString ".nan" then return .nan
  let x ← (
    if body == Text.ofString ".inf" then pure (.inf false)
    else if body.any (·.is ':') then do
      return sexagesimal (← (body.splitOn (CodePoint.ofChar ':')).mapM realNumber)
    else realNumber body : Except Failure Binary64)
  return if isNegative t then x.negate else x

/-- The truth value that a scalar spells. -/
def boolValue (t : Text) : Except Failure Bool :=
  let word := t.lower
  if isWord ["yes", "true", "on"] word then .ok true
  else if isWord ["no", "false", "off"] word then .ok false
  else .error (.fault (.missingKey (.text word)))

/-- The moment that a scalar spells, if the calendar has it. -/
def momentValue (t : Text) : Except Failure Moment :=
  match moment? t with
  | none => .error (.fault (.lacking (Text.ofString "not a date or time")))
  | some m =>
    match m.problem? with
    | some what => .error (.fault (.noSuchMoment what))
    | none => .ok m

/-- The datum of a scalar. -/
def scalarValue (tag : Tag) (t : Text) : Except Failure Datum :=
  match tag with
  | .null => .ok .null
  | .bool => (boolValue t).map .bool
  | .int => (intValue t).map .int
  | .float => (realValue t).map .real
  | .str => .ok (.text t)
  | .timestamp => (momentValue t).map .moment
  | _ => .error .malformed

/-! ## Collections -/

/-- The tag of a node. -/
def Node.tag : Node → Tag
  | .scalar tag _ => tag
  | .sequence tag _ => tag
  | .mapping tag _ => tag

/-- The datum of a key, which must not be a collection. -/
def keyDatum (k : Node) (d : Except Failure Datum) : Except Failure Datum := do
  match k with
  | .scalar .value t => return .text t
  | _ =>
    let d ← d
    if d.isScalar then return d else throw .malformed

mutual

/-- The datum of a node. -/
def data : Node → Except Failure Datum
  | .scalar tag t => scalarValue tag t
  | .sequence tag items =>
    if tag = .seq then (dataItems items).map .list else .error .malformed
  | .mapping tag entries =>
    if tag = .map then do
      let (merged, own) ← dataEntries entries
      return .map (Datum.overlay [] (merged ++ own))
    else .error .malformed

/-- The data of the items of a sequence. -/
def dataItems : List Node → Except Failure (List Datum)
  | [] => .ok []
  | n :: rest => do
    let d ← data n
    return d :: (← dataItems rest)

/-- The entries that are merged into a mapping, and its own. -/
def dataEntries :
    List (Node × Node) → Except Failure (List (Datum × Datum) × List (Datum × Datum))
  | [] => .ok ([], [])
  | (k, v) :: rest => do
    if k.tag = .merge then
      let more ← mergedEntries v
      let (merged, own) ← dataEntries rest
      return (more ++ merged, own)
    else
      let key ← keyDatum k (data k)
      let value ← data v
      let (merged, own) ← dataEntries rest
      return (merged, (key, value) :: own)

/-- The entries of a mapping that is merged into another, or of several. -/
def mergedEntries : Node → Except Failure (List (Datum × Datum))
  | .mapping _ entries => do
    let (merged, own) ← dataEntries entries
    return merged ++ own
  | .sequence _ items => mergedItems items
  | .scalar .. => .error .malformed

/-- The entries of several mappings, the first of which counts most. -/
def mergedItems : List Node → Except Failure (List (Datum × Datum))
  | [] => .ok []
  | n :: rest => do
    let entries ← (
      match n with
      | .mapping _ entries => do
        let (merged, own) ← dataEntries entries
        return merged ++ own
      | _ => throw .malformed : Except Failure (List (Datum × Datum)))
    return (← mergedItems rest) ++ entries

end

/-! ## Texts -/

/-- The datum of a text, which may go on behind what is known of it; an empty text is null.  What
    is wrong with the tokens comes before what is wrong with the text behind them. -/
def parse (t : Text) (goesOn : Bool) : Except Stop Datum :=
  if !t.all isPrintable then .error .malformed
  else
    let (tokens, stop) := Token.scan t goesOn
    match Node.ofTokens tokens with
    | .error .starved => .error (stop.getD .malformed)
    | .error (.failed why) => .error (.failed why)
    | .ok none => .ok .null
    | .ok (some n) =>
      match data n with
      | .ok d => .ok d
      | .error why => .error (.failed why)

/-- What is told from the portions of a text.  Two of them are looked at before anything is told,
    and then as many as it takes to find out what is wrong; the data are those of a whole text. -/
def tell (portions : List Text) : Option (Except Failure Datum) :=
  if portions.contains [] then
    match parse portions.flatten false with
    | .ok d => some (.ok d)
    | .error (.failed why) => some (.error why)
    | .error .starved => some (.error .malformed)
  else if portions.length < 2 then none
  else
    match parse portions.flatten true with
    | .error (.failed why) => some (.error why)
    | _ => none

end ImportScan.Yaml
