import ImportScan.Yaml.Token

/-! # YAML nodes

    The document that a sequence of tokens describes, as a tree of nodes.  Every node has a
    tag, which a scalar without one gets from its spelling.  An alias stands for the node
    that its anchor names.

    * `Tag.ofSpelling`  : the tag of a plain scalar.
    * `Node.ofTokens`   : the only document of a text; none if the text is empty.
-/

namespace ImportScan.Yaml

/-- The kinds of node. -/
inductive Tag where
  /-- The absent value. -/
  | null
  /-- A truth value. -/
  | bool
  /-- An integer. -/
  | int
  /-- A real number. -/
  | float
  /-- A text. -/
  | str
  /-- A date or a time. -/
  | timestamp
  /-- The key whose value is merged into the mapping. -/
  | merge
  /-- The key of a mapping's own value. -/
  | value
  /-- A sequence. -/
  | seq
  /-- A mapping. -/
  | map
  /-- Anything else. -/
  | other
deriving Repr, DecidableEq

namespace Tag

/-- The first part of the names of the standard tags. -/
def domain : Text := Text.ofString "tag:yaml.org,2002:"

/-- The tag of a name. -/
def ofName (t : Text) : Tag :=
  let names : List (String × Tag) :=
    [("null", .null), ("bool", .bool), ("int", .int), ("float", .float), ("str", .str),
     ("timestamp", .timestamp), ("merge", .merge), ("value", .value), ("seq", .seq), ("map", .map)]
  match names.find? fun n => t == domain ++ Text.ofString n.1 with
  | some (_, tag) => tag
  | none => .other

end Tag

/-! ## The spelling of plain scalars -/

/-- Whether a text is one of some words. -/
def isWord (words : List String) (t : Text) : Bool := words.any fun w => t == Text.ofString w

/-- The spellings of truth values. -/
def boolWords : List String :=
  ["yes", "Yes", "YES", "no", "No", "NO", "true", "True", "TRUE", "false", "False", "FALSE",
   "on", "On", "ON", "off", "Off", "OFF"]

/-- Whether a text is not empty and made of code points that satisfy a test. -/
def isMadeOf (p : CodePoint → Bool) (t : Text) : Bool := !t.isEmpty && t.all p

/-- A digit or an underscore. -/
def isDigitOrBar (c : CodePoint) : Bool := c.isDigit || c.is '_'

/-- The text without a sign in front. -/
def unsigned : Text → Text
  | c :: rest => if c.is '-' || c.is '+' then rest else c :: rest
  | [] => []

/-- A digit, and then digits and underscores. -/
def isNumeral : Text → Bool
  | c :: rest => c.isDigit && rest.all isDigitOrBar
  | [] => false

/-- A digit below sixty, written with one or two digits. -/
def isSixtieth : Text → Bool
  | [a] => a.isDigit
  | [a, b] => a.isBetween '0' '5' && b.isDigit
  | _ => false

/-- Digits to the base sixty, with colons between them. -/
def isSexagesimal (t : Text) : Bool :=
  match t.splitOn (CodePoint.ofChar ':') with
  | first :: second :: rest => isNumeral first && (second :: rest).all isSixtieth
  | _ => false

/-- An integer without its sign. -/
def isIntBody : Text → Bool
  | a :: rest =>
    if a.is '0' then
      match rest with
      | [] => true
      | b :: digits =>
        (b.is 'b' && isMadeOf (fun c => isOneOf c "01_") digits)
          || (b.is 'x' && isMadeOf (fun c => c.isHexDigit || c.is '_') digits)
          || rest.all fun c => c.isBetween '0' '7' || c.is '_'
    else isNumeral (a :: rest) || (a.isDigit && isSexagesimal (a :: rest))
  | [] => false

/-- An exponent with its sign, or nothing. -/
def isExponent : Text → Bool
  | [] => true
  | e :: s :: digits => isOneOf e "eE" && isOneOf s "+-" && isMadeOf CodePoint.isDigit digits
  | _ => false

/-- The digits behind a point, and the exponent if there is one. -/
def isFraction (t : Text) : Bool := isExponent (t.dropWhile isDigitOrBar)

/-- A real number. -/
def isFloat (t : Text) : Bool :=
  let point := CodePoint.ofChar '.'
  let body := unsigned t
  let whole := body.takeWhile (· != point)
  let tail := body.dropWhile (· != point)
  match tail with
  | [] => false
  | _ :: fraction =>
    if whole.isEmpty then
      isWord ["inf", "Inf", "INF"] fraction
        || (body == t && (isWord ["nan", "NaN", "NAN"] fraction
            || (fraction.head?.any CodePoint.isDigit && isFraction fraction)))
    else
      (isNumeral whole && isFraction fraction)
        || (isSexagesimal whole && fraction.all isDigitOrBar)

/-- One or two digits, and the rest. -/
def shortNumber? : Text → Option (Nat × Text)
  | a :: b :: rest =>
    if a.isDigit then
      if b.isDigit then some (10 * a.hexValue + b.hexValue, rest) else some (a.hexValue, b :: rest)
    else none
  | [a] => if a.isDigit then some (a.hexValue, []) else none
  | [] => none

/-- A number of exactly so many digits, and the rest. -/
def fixedNumber? (size : Nat) (t : Text) : Option (Nat × Text) :=
  let digits := t.take size
  if digits.length == size && digits.all CodePoint.isDigit then
    some (digits.foldl (fun n d => 10 * n + d.hexValue) 0, t.drop size)
  else none

/-- What follows a character, if the text starts with it. -/
def after? (ch : Char) : Text → Option Text
  | c :: rest => if c.is ch then some rest else none
  | [] => none

/-- A date with months and days of one or two digits, and the rest. -/
def date? (t : Text) : Option (Nat × Nat × Nat × Text) := do
  let (year, t) ← fixedNumber? 4 t
  let (month, t) ← shortNumber? (← after? '-' t)
  let (day, t) ← shortNumber? (← after? '-' t)
  return (year, month, day, t)

/-- The digits of a fraction of a second as millionths. -/
def micros (digits : Text) : Nat :=
  ((digits.take 6).foldl (fun n d => 10 * n + d.hexValue) 0) * Nat.pow 10 (6 - (digits.take 6).length)

/-- A time zone as minutes ahead of UTC; none if there is no zone. -/
def zone? (t : Text) : Option (Option Int) :=
  match t.dropWhile isBlank with
  | [] => if t.isEmpty then some none else none
  | c :: rest =>
    if c.is 'Z' then (if rest.isEmpty then some (some 0) else none)
    else if c.is '+' || c.is '-' then do
      let (hours, rest) ← shortNumber? rest
      let minutes ←
        match rest with
        | [] => some 0
        | _ => (after? ':' rest).bind (fixedNumber? 2) |>.bind fun (n, t) =>
          if t.isEmpty then some n else none
      let offset : Int := 60 * hours + minutes
      return some (if c.is '-' then -offset else offset)
    else none

/-- A time of day behind a date. -/
def time? (t : Text) : Option TimeOfDay := do
  let body ← match t with
    | c :: rest =>
      if c.is 'T' || c.is 't' then some rest
      else if isBlank c then some (rest.dropWhile isBlank)
      else none
    | [] => none
  let (hour, t) ← shortNumber? body
  let (minute, t) ← fixedNumber? 2 (← after? ':' t)
  let (second, t) ← fixedNumber? 2 (← after? ':' t)
  let (fraction, t) := match after? '.' t with
    | some rest => (rest.takeWhile CodePoint.isDigit, rest.dropWhile CodePoint.isDigit)
    | none => ([], t)
  return ⟨hour, minute, second, micros fraction, ← zone? t⟩

/-- A date, or a date and a time, as it is written; the calendar may not have it. -/
def moment? (t : Text) : Option Moment := do
  let (year, month, day, rest) ← date? t
  if rest.isEmpty then return ⟨year, month, day, none⟩
  else return ⟨year, month, day, some (← time? rest)⟩

/-- Whether a plain scalar is a date or a time: a date alone needs all its digits. -/
def isTimestamp (t : Text) : Bool :=
  match moment? t with
  | some m => m.time.isSome || t.length == 10
  | none => false

/-- The tag of a plain scalar. -/
def Tag.ofSpelling (t : Text) : Tag :=
  if isWord boolWords t then .bool
  else if isFloat t then .float
  else if isIntBody (unsigned t) then .int
  else if isWord ["<<"] t then .merge
  else if isWord ["~", "null", "Null", "NULL", ""] t then .null
  else if isTimestamp t then .timestamp
  else if isWord ["="] t then .value
  else .str

/-! ## Nodes -/

/-- A node of a document. -/
inductive Node where
  /-- A scalar. -/
  | scalar (tag : Tag) (text : Text)
  /-- A sequence. -/
  | sequence (tag : Tag) (items : List Node)
  /-- A mapping. -/
  | mapping (tag : Tag) (entries : List (Node × Node))
deriving Repr

/-- A node that was left out. -/
def Node.empty : Node := .scalar .null []

/-- The tokens that are left, and the nodes that have names. -/
structure Reader where
  /-- The tokens that are left. -/
  tokens : List Token
  /-- The named nodes. -/
  anchors : List (Text × Node) := []
deriving Repr

/-- A step of reading nodes. -/
abbrev Read := StateT Reader (Except Stop)

namespace Read

/-- Gives up. -/
def fail {α : Type} : Read α := throw .malformed

/-- The next token. -/
def peek : Read Token := do
  match (← get).tokens with
  | t :: _ => return t
  | [] => throw .starved

/-- Passes over the next token. -/
def skip : Read Unit := modify fun r => { r with tokens := r.tokens.drop 1 }

/-- Passes over a token if it comes next; tells whether it did. -/
def accept (t : Token) : Read Bool := do
  if (← peek) == t then
    skip
    return true
  else return false

/-- Names a node. -/
def nameNode (anchor : Option Text) (n : Node) : Read Node := do
  match anchor with
  | none => return n
  | some a =>
    if (← get).anchors.any (·.1 == a) then fail
    modify fun r => { r with anchors := (a, n) :: r.anchors }
    return n

/-- The node that a name stands for. -/
def named (anchor : Text) : Read Node := do
  match (← get).anchors.find? (·.1 == anchor) with
  | some (_, n) => return n
  | none => fail

/-- An anchor, if it comes next. -/
def anchor : Read (Option Text) := do
  match ← peek with
  | .anchor a =>
    skip
    return some a
  | _ => return none

/-- A tag, if it comes next, in full. -/
def tag (handles : List (Text × Text)) : Read (Option Text) := do
  match ← peek with
  | .tag none suffix =>
    skip
    return some suffix
  | .tag (some h) suffix =>
    skip
    match handles.find? (·.1 == h) with
    | some (_, expansion) => return some (expansion ++ suffix)
    | none => fail
  | _ => return none

/-- An anchor and a tag in either order. -/
def properties (handles : List (Text × Text)) : Read (Option Text × Option Text) := do
  match ← anchor with
  | some a => return (some a, ← tag handles)
  | none =>
    let t ← tag handles
    if t.isSome then return (← anchor, t) else return (none, none)

/-- The tag that a node is left to choose for itself. -/
def isFree (tag : Option Text) : Bool := tag.all (· == Text.ofString "!")

/-- The tag of a collection. -/
def collectionTag (tag : Option Text) (own : Tag) : Tag :=
  if isFree tag then own else Tag.ofName (tag.getD [])

/-- The tag of a scalar. -/
def scalarTag (tag : Option Text) (isPlain : Bool) (text : Text) : Tag :=
  match tag with
  | none => if isPlain then .ofSpelling text else .str
  | some t => if t == Text.ofString "!" then .ofSpelling text else .ofName t

mutual

/-- A node.  Block collections may be forbidden; a sequence without an indentation of its own
    may be allowed. -/
def node (handles : List (Text × Text)) (inBlock indentless : Bool) : Nat → Read Node
  | 0 => fail
  | n + 1 => do
    match ← peek with
    | .alias a =>
      skip
      named a
    | _ =>
      let (anchor, tag) ← properties handles
      match ← peek with
      | .scalar isPlain text =>
        skip
        nameNode anchor (.scalar (scalarTag tag isPlain text) text)
      | .flowSequenceStart =>
        skip
        nameNode anchor (.sequence (collectionTag tag .seq) (← flowItems handles true n))
      | .flowMappingStart =>
        skip
        nameNode anchor (.mapping (collectionTag tag .map) (← flowEntries handles true n))
      | .blockEntry =>
        if indentless then
          nameNode anchor (.sequence (collectionTag tag .seq) (← indentlessItems handles n))
        else bare anchor tag
      | .blockSequenceStart =>
        if inBlock then
          skip
          nameNode anchor (.sequence (collectionTag tag .seq) (← blockItems handles n))
        else bare anchor tag
      | .blockMappingStart =>
        if inBlock then
          skip
          nameNode anchor (.mapping (collectionTag tag .map) (← blockEntries handles n))
        else bare anchor tag
      | _ => bare anchor tag

/-- A node that consists of its properties alone. -/
def bare (anchor tag : Option Text) : Read Node :=
  if anchor.isSome || tag.isSome then nameNode anchor (.scalar (scalarTag tag true []) [])
  else fail

/-- A node, unless one of some tokens shows that it was left out. -/
def nodeBefore (handles : List (Text × Text)) (inBlock indentless : Bool) (ends : List Token) :
    Nat → Read Node
  | 0 => fail
  | n + 1 => do
    if ends.contains (← peek) then return .empty else node handles inBlock indentless n

/-- The items of a block sequence. -/
def blockItems (handles : List (Text × Text)) : Nat → Read (List Node)
  | 0 => fail
  | n + 1 => do
    if ← accept .blockEntry then
      let item ← nodeBefore handles true false [.blockEntry, .blockEnd] n
      return item :: (← blockItems handles n)
    else if ← accept .blockEnd then return []
    else fail

/-- The items of a sequence without an indentation of its own. -/
def indentlessItems (handles : List (Text × Text)) : Nat → Read (List Node)
  | 0 => fail
  | n + 1 => do
    if ← accept .blockEntry then
      let item ← nodeBefore handles true false [.blockEntry, .key, .value, .blockEnd] n
      return item :: (← indentlessItems handles n)
    else return []

/-- The entries of a block mapping. -/
def blockEntries (handles : List (Text × Text)) : Nat → Read (List (Node × Node))
  | 0 => fail
  | n + 1 => do
    let ends : List Token := [.key, .value, .blockEnd]
    if ← accept .key then
      let key ← nodeBefore handles true true ends n
      let value ← if ← accept .value then nodeBefore handles true true ends n else pure .empty
      return (key, value) :: (← blockEntries handles n)
    else if ← accept .blockEnd then return []
    else fail

/-- The items of a flow sequence; an item may be a mapping with one entry. -/
def flowItems (handles : List (Text × Text)) (first : Bool) : Nat → Read (List Node)
  | 0 => fail
  | n + 1 => do
    if ← accept .flowSequenceEnd then return []
    let separated ← if first then pure true else accept .flowEntry
    if !separated then fail
    if ← accept .flowSequenceEnd then return []
    if ← accept .key then
      let key ← nodeBefore handles false false [.value, .flowEntry, .flowSequenceEnd] n
      let value ← if ← accept .value then
          nodeBefore handles false false [.flowEntry, .flowSequenceEnd] n
        else pure .empty
      return .mapping .map [(key, value)] :: (← flowItems handles false n)
    else
      let item ← node handles false false n
      return item :: (← flowItems handles false n)

/-- The entries of a flow mapping; a value may be left out. -/
def flowEntries (handles : List (Text × Text)) (first : Bool) : Nat → Read (List (Node × Node))
  | 0 => fail
  | n + 1 => do
    if ← accept .flowMappingEnd then return []
    let separated ← if first then pure true else accept .flowEntry
    if !separated then fail
    if ← accept .flowMappingEnd then return []
    if ← accept .key then
      let key ← nodeBefore handles false false [.value, .flowEntry, .flowMappingEnd] n
      let value ← if ← accept .value then
          nodeBefore handles false false [.flowEntry, .flowMappingEnd] n
        else pure .empty
      return (key, value) :: (← flowEntries handles false n)
    else
      let key ← node handles false false n
      return (key, .empty) :: (← flowEntries handles false n)

end

/-- The handles of tags when there are no directives. -/
def standardHandles : List (Text × Text) :=
  [(Text.ofString "!", Text.ofString "!"), (Text.ofString "!!", Tag.domain)]

/-- The directives before a document, as the handles they define. -/
def directives (versioned : Bool) (handles : List (Text × Text)) :
    List Token → Except Stop (List (Text × Text) × List Token)
  | .version major :: rest =>
    if versioned || major != 1 then .error .malformed else directives true handles rest
  | .handle h expansion :: rest =>
    if handles.any (·.1 == h) then .error .malformed
    else directives versioned ((h, expansion) :: handles) rest
  | .directive :: rest => directives versioned handles rest
  | rest => .ok (handles ++ standardHandles, rest)

/-- A document, behind which nothing may follow. -/
def document (handles : List (Text × Text)) (fuel : Nat) : Read Node := do
  let root ← node handles true false fuel
  match (← get).tokens.dropWhile (· == .documentEnd) with
  | [.streamEnd] => return root
  | [] => throw .starved
  | _ => fail

end Read

/-- The only document of a text; none if the text is empty.  Tokens may be missing at the end. -/
def Node.ofTokens (tokens : List Token) : Except Stop (Option Node) := do
  let fuel := 3 * tokens.length + 3
  match tokens with
  | [.streamEnd] => return none
  | .version _ :: _ | .handle _ _ :: _ | .directive :: _ | .documentStart :: _ =>
    let (handles, rest) ← Read.directives false [] tokens
    match rest with
    | .documentStart :: rest =>
      match rest with
      | .documentEnd :: _ | [.streamEnd] =>
        match rest.dropWhile (· == .documentEnd) with
        | [.streamEnd] => return some .empty
        | [] => throw .starved
        | _ => throw .malformed
      | _ => return some ((← (Read.document handles fuel) { tokens := rest }).1)
    | [] => throw .starved
    | _ => throw .malformed
  | _ => return some ((← (Read.document Read.standardHandles fuel) { tokens }).1)

end ImportScan.Yaml
