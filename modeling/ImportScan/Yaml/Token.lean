import ImportScan.Yaml.Scalar

/-! # YAML tokens

    The tokens of a text.  Indentation becomes tokens of its own: a block collection has a
    start and an end like a flow collection.  A key is recognised only at the colon behind it,
    so the place of everything that could be a key is kept until then.

    * `Token.scan` : the tokens of a text.
-/

namespace ImportScan.Yaml

/-- A token. -/
inductive Token where
  /-- A directive that names the version of the format. -/
  | version (major : Nat)
  /-- A directive that defines a tag handle. -/
  | handle (name expansion : Text)
  /-- Any other directive. -/
  | directive
  /-- The start of a document. -/
  | documentStart
  /-- The end of a document. -/
  | documentEnd
  /-- The end of the text. -/
  | streamEnd
  /-- The start of a block sequence. -/
  | blockSequenceStart
  /-- The start of a block mapping. -/
  | blockMappingStart
  /-- The end of a block collection. -/
  | blockEnd
  /-- The start of a flow sequence. -/
  | flowSequenceStart
  /-- The end of a flow sequence. -/
  | flowSequenceEnd
  /-- The start of a flow mapping. -/
  | flowMappingStart
  /-- The end of a flow mapping. -/
  | flowMappingEnd
  /-- The mark before an item of a block sequence. -/
  | blockEntry
  /-- The mark between items of a flow collection. -/
  | flowEntry
  /-- What follows is a key. -/
  | key
  /-- What follows is the value of a key. -/
  | value
  /-- A node that was named before. -/
  | alias (name : Text)
  /-- The name of the node that follows. -/
  | anchor (name : Text)
  /-- The tag of the node that follows, with its handle if it has one. -/
  | tag (handle : Option Text) (suffix : Text)
  /-- A scalar. -/
  | scalar (isPlain : Bool) (text : Text)
deriving Repr, DecidableEq

/-! ## The parts of tokens -/

/-- A name and the cursor behind it. -/
def name (c : Cursor) : Except Stop (Text × Cursor) :=
  let name := c.run isNameChar
  if name.isEmpty then .error c.stop else .ok (name, c.skip name.length)

/-- The name of an anchor or alias, with the cursor at its sign. -/
def anchorName (c : Cursor) : Except Stop (Text × Cursor) := do
  let (name, c) ← name (c.skip 1)
  if isGap c.peek || c.peek.any (isOneOf · "?:,]\x7d%@\x60") then return (name, c)
  else throw .malformed

/-- A code point that may stand in a tag. -/
def isTagChar (c : CodePoint) : Bool := isNameChar c || isOneOf c ";/?:@&=+$,.!~*\x27()[]"

/-- The octets that a run of percent escapes spells, none when an escape is malformed. -/
def percentEscapes? : Text → Option Bytes
  | p :: rest =>
    if p.is '%' then
      match rest with
      | a :: b :: rest =>
        if a.isHexDigit && b.isHexDigit then
          (percentEscapes? rest).map fun bytes =>
            UInt8.ofNat (16 * a.hexValue + b.hexValue) :: bytes
        else none
      | _ => none
    else some []
  | [] => some []

/-- The text of a tag, where percent escapes spell octets. -/
def tagText : Nat → Cursor → Except Stop (Text × Cursor)
  | 0, c => .ok ([], c)
  | n + 1, c =>
    match c.peek with
    | none => .ok ([], c)
    | some x =>
      if x.is '%' then do
        let some bytes := percentEscapes? c.rest
          | throw (c.skipWhile fun x => x.is '%' || x.isHexDigit).stop
        match Text.ofUtf8? bytes with
        | none => throw (c.skip (3 * bytes.length)).stop
        | some part =>
          let (more, c) ← tagText n (c.skip (3 * bytes.length))
          return (part ++ more, c)
      else if isTagChar x then (tagText n (c.skip 1)).map fun (more, c) => (x :: more, c)
      else .ok ([], c)

/-- The text of a tag, which must not be empty. -/
def tagName (c : Cursor) : Except Stop (Text × Cursor) := do
  let (text, c) ← tagText (c.rest.length + 1) c
  if text.isEmpty then throw c.stop else return (text, c)

/-- A tag handle: an exclamation mark, or a name between two. -/
def tagHandle (c : Cursor) : Except Stop (Text × Cursor) :=
  if !c.sees '!' then .error c.stop
  else if (c.peekAt 1).any (·.is ' ') then .ok (c.rest.take 1, c.skip 1)
  else
    let size := 1 + ((c.rest.drop 1).takeWhile isNameChar).length
    if (c.peekAt size).any (·.is '!') then .ok (c.rest.take (size + 1), c.skip (size + 1))
    else .error (c.skip size).stop

/-- A tag, with the cursor at its exclamation mark. -/
def tag (c : Cursor) : Except Stop (Token × Cursor) := do
  let (token, c) ← (
    if (c.peekAt 1).any (·.is '<') then do
      let (suffix, c) ← tagName (c.skip 2)
      if c.sees '>' then pure (.tag none suffix, c.skip 1) else throw c.stop
    else if isGap (c.peekAt 1) then pure (.tag none (c.rest.take 1), c.skip 1)
    else do
      let word := (c.rest.drop 1).takeWhile fun x => !(x.is ' ' || isBreak x)
      if !word.any (·.is '!') then (c.skip (word.length + 1)).known
      let (handle, c) ←
        if word.any (·.is '!') then tagHandle c else pure (c.rest.take 1, c.skip 1)
      let (suffix, c) ← tagName c
      pure (.tag (some handle) suffix, c) : Except Stop (Token × Cursor))
  if isSpaceGap c.peek then return (token, c) else throw .malformed

/-- A number made of decimal digits. -/
def number (c : Cursor) : Except Stop (Nat × Cursor) :=
  let digits := c.run CodePoint.isDigit
  if digits.isEmpty then .error c.stop
  else
    match Number.readInt? digits with
    | some n => .ok (n.toNat, c.skip digits.length)
    | none => .error (.fault (.unreadInteger digits))

/-- A directive, with the cursor at its percent sign. -/
def directive (c : Cursor) : Except Stop (Token × Cursor) := do
  let (name, c) ← name (c.skip 1)
  if !isSpaceGap c.peek then throw .malformed
  let (token, c) ← (
    if name == Text.ofString "YAML" then do
      let (major, c) ← number (c.skipWhile (·.is ' '))
      if !c.sees '.' then throw c.stop
      let (_, c) ← number (c.skip 1)
      if isSpaceGap c.peek then pure (.version major, c) else throw .malformed
    else if name == Text.ofString "TAG" then do
      let (handle, c) ← tagHandle (c.skipWhile (·.is ' '))
      if !c.sees ' ' then throw c.stop
      let (expansion, c) ← tagName (c.skipWhile (·.is ' '))
      if isSpaceGap c.peek then pure (.handle handle expansion, c) else throw .malformed
    else pure (.directive, c.skipWhile (!isBreak ·)) : Except Stop (Token × Cursor))
  return (token, ← c.finishLine)

/-! ## The scan -/

/-- The place of something that could turn out to be a key. -/
structure Candidate where
  /-- The number of the token at that place. -/
  number : Nat
  /-- Whether it must turn out to be a key. -/
  required : Bool
  /-- Where it stands in the text. -/
  place : Cursor
deriving Repr

/-- A scan in progress. -/
structure Scan where
  /-- The place in the text. -/
  cursor : Cursor
  /-- The tokens so far. -/
  tokens : List Token := []
  /-- How many flow collections are open. -/
  level : Nat := 0
  /-- The indentation of the innermost block collection. -/
  indent : Int := -1
  /-- The indentations of the others, innermost first. -/
  indents : List Int := []
  /-- Whether a key may start here. -/
  keyAllowed : Bool := true
  /-- The candidates for keys, one for each level. -/
  candidates : List (Nat × Candidate) := []
deriving Repr

namespace Scan

/-- The scan with a token added. -/
def push (s : Scan) (t : Token) : Scan := { s with tokens := s.tokens ++ [t] }

/-- The scan with a token added that takes some code points. -/
def take (s : Scan) (t : Token) (size : Nat) : Scan :=
  { s.push t with cursor := s.cursor.skip size }

/-- The scan at the next token.  A line end allows a key, except in a flow collection. -/
def advance : Nat → Scan → Scan
  | 0, s => s
  | n + 1, s =>
    let c := (s.cursor.skipWhile (·.is ' ')).skipComment
    if c.peek.any isBreak then
      advance n { s with cursor := c.lineBreak.2, keyAllowed := s.keyAllowed || s.level == 0 }
    else { s with cursor := c }

/-- Whether a line end or too long a text has ruled out a candidate. -/
def isStale (s : Scan) (e : Nat × Candidate) : Bool :=
  e.2.place.line != s.cursor.line || s.cursor.index - e.2.place.index > 1024

/-- Drops the candidates that have been ruled out. -/
def dropStale (s : Scan) : Except Stop Scan :=
  if s.candidates.any fun e => s.isStale e && e.2.required then .error .malformed
  else .ok { s with candidates := s.candidates.filter (!s.isStale ·) }

/-- Drops the candidate of the current level. -/
def dropCandidate (s : Scan) : Except Stop Scan :=
  if s.candidates.any fun e => e.1 == s.level && e.2.required then .error .malformed
  else .ok { s with candidates := s.candidates.filter (·.1 != s.level) }

/-- Notes that what follows could be a key. -/
def saveCandidate (s : Scan) : Except Stop Scan :=
  if s.keyAllowed then do
    let required := s.level == 0 && s.indent == s.cursor.column
    let candidate : Candidate := ⟨s.tokens.length, required, s.cursor⟩
    let s ← s.dropCandidate
    return { s with candidates := (s.level, candidate) :: s.candidates }
  else .ok s

/-- Ends the block collections that are indented more than a column. -/
def unwindTo (column : Int) : List Int → Scan → Scan
  | [], s => s
  | outer :: rest, s =>
    if s.indent > column then
      unwindTo column rest { s.push .blockEnd with indent := outer, indents := rest }
    else s

/-- Ends the block collections that are indented more than a column; in a flow collection
    indentation does not count. -/
def unwind (s : Scan) (column : Int) : Scan :=
  if s.level == 0 then unwindTo column s.indents s else s

/-- Starts a block collection at a column if that is deeper than the innermost one. -/
def openBlock (s : Scan) (column : Nat) (t : Token) (position : Nat) : Scan :=
  if s.indent < column then
    { s with indents := s.indent :: s.indents, indent := column,
             tokens := s.tokens.insertIdx position t }
  else s

/-- A directive, or a mark between documents: all block collections end. -/
def outside (s : Scan) : Except Stop Scan := do
  let s ← (s.unwind (-1)).dropCandidate
  return { s with keyAllowed := false }

/-- The start of a flow collection. -/
def openFlow (s : Scan) (t : Token) : Except Stop Scan := do
  let s ← s.saveCandidate
  return { s.take t 1 with level := s.level + 1, keyAllowed := true }

/-- The end of a flow collection. -/
def closeFlow (s : Scan) (t : Token) : Except Stop Scan := do
  let s ← s.dropCandidate
  return { s.take t 1 with level := s.level - 1, keyAllowed := false }

/-- The mark before an item of a block sequence. -/
def blockEntry (s : Scan) : Except Stop Scan := do
  if s.level == 0 && !s.keyAllowed then throw .malformed
  let s := if s.level == 0 then
      s.openBlock s.cursor.column .blockSequenceStart s.tokens.length else s
  let s ← ({ s with keyAllowed := true }).dropCandidate
  return s.take .blockEntry 1

/-- The mark before a key. -/
def keyMark (s : Scan) : Except Stop Scan := do
  if s.level == 0 && !s.keyAllowed then throw .malformed
  let s := if s.level == 0 then
      s.openBlock s.cursor.column .blockMappingStart s.tokens.length else s
  let s ← ({ s with keyAllowed := s.level == 0 }).dropCandidate
  return s.take .key 1

/-- The mark before a value: the candidate of the level, if there is one, is a key. -/
def valueMark (s : Scan) : Except Stop Scan := do
  match s.candidates.find? (·.1 == s.level) with
  | some (_, candidate) =>
    let s := { s with
      candidates := s.candidates.filter (·.1 != s.level)
      tokens := s.tokens.insertIdx candidate.number .key
      keyAllowed := false }
    let s := if s.level == 0 then
        s.openBlock candidate.place.column .blockMappingStart candidate.number else s
    return s.take .value 1
  | none =>
    if s.level == 0 && !s.keyAllowed then throw .malformed
    let s := if s.level == 0 then
        s.openBlock s.cursor.column .blockMappingStart s.tokens.length else s
    let s ← ({ s with keyAllowed := s.level == 0 }).dropCandidate
    return s.take .value 1

/-- Something that could be a key, read by a reader. -/
def item (s : Scan) (read : Cursor → Except Stop (Token × Cursor)) : Except Stop Scan := do
  let s ← s.saveCandidate
  let (t, c) ← read s.cursor
  return { s.push t with cursor := c, keyAllowed := false }

/-- A plain scalar; a line end behind it allows a key. -/
def plainItem (s : Scan) : Except Stop Scan := do
  let s ← s.saveCandidate
  let (text, ended, c) := plain (s.level != 0) (s.indent + 1) s.cursor
  return { s.push (.scalar true text) with cursor := c, keyAllowed := ended }

/-- A block scalar, behind which a key may start. -/
def blockItem (s : Scan) (folded : Bool) : Except Stop Scan := do
  let s ← s.dropCandidate
  let (text, c) ← block folded s.indent s.cursor
  return { s.push (.scalar false text) with cursor := c, keyAllowed := true }

/-- Whether a plain scalar may start with a code point. -/
def startsPlain (s : Scan) (c : CodePoint) : Bool :=
  !(isBlank c || isBreak c || isOneOf c "-?:,[]\x7b\x7d#&*!|>\x27\"%@\x60")
    || (!isGap (s.cursor.peekAt 1) && (c.is '-' || (s.level == 0 && isOneOf c "?:")))

/-- Reads the token that starts with a code point. -/
def next (s : Scan) (c : CodePoint) : Except Stop Scan := do
  let atStart := s.cursor.column == 0
  let isMark := s.level != 0 || isGap (s.cursor.peekAt 1)
  if c.is '%' && atStart then
    let s ← s.outside
    let (t, c) ← directive s.cursor
    return { s.push t with cursor := c }
  else if atStart && s.cursor.seesMark "---" then return (← s.outside).take .documentStart 3
  else if atStart && s.cursor.seesMark "..." then return (← s.outside).take .documentEnd 3
  else if c.is '[' then s.openFlow .flowSequenceStart
  else if c.is '\x7b' then s.openFlow .flowMappingStart
  else if c.is ']' then s.closeFlow .flowSequenceEnd
  else if c.is '\x7d' then s.closeFlow .flowMappingEnd
  else if c.is ',' then
    return (← ({ s with keyAllowed := true }).dropCandidate).take .flowEntry 1
  else if c.is '-' && isGap (s.cursor.peekAt 1) then s.blockEntry
  else if c.is '?' && isMark then s.keyMark
  else if c.is ':' && isMark then s.valueMark
  else if c.is '*' then s.item fun c => (anchorName c).map fun (n, c) => (.alias n, c)
  else if c.is '&' then s.item fun c => (anchorName c).map fun (n, c) => (.anchor n, c)
  else if c.is '!' then s.item tag
  else if c.is '|' && s.level == 0 then s.blockItem false
  else if c.is '>' && s.level == 0 then s.blockItem true
  else if c.is '\'' then s.item fun c => (quoted false c).map fun (t, c) => (.scalar false t, c)
  else if c.is '"' then s.item fun c => (quoted true c).map fun (t, c) => (.scalar false t, c)
  else if s.startsPlain c then s.plainItem
  else throw .malformed

/-- How many code points have to be known at a token that starts with a code point. -/
def window (s : Scan) (c : CodePoint) : Nat :=
  if s.cursor.column == 0 && isOneOf c "-." then 3 else if isOneOf c "-?:" then 2 else 1

/-- Reads another token, if there is one; tells whether the text is at its end. -/
def fetch (s : Scan) : Except Stop (Scan × Bool) := do
  let s := s.advance (s.cursor.rest.length + 1)
  s.cursor.known
  let s ← s.dropStale
  let s := s.unwind s.cursor.column
  match s.cursor.peek with
  | none =>
    let s ← (s.unwind (-1)).dropCandidate
    return (s.push .streamEnd, true)
  | some c =>
    (s.cursor.skip (s.window c - 1)).known
    let s ← s.next c
    s.cursor.known
    return (s, false)

/-- The tokens in front of the first one that may still turn out to be a key. -/
def settled (s : Scan) : List Token :=
  match ((s.candidates.filter (!s.isStale ·)).map (·.2.number)).min? with
  | some n => s.tokens.take n
  | none => s.tokens

/-- Reads tokens up to the end of the text.  When that is not reached, there are the settled
    tokens and why the scan has stopped. -/
def finish : Nat → Scan → List Token × Option Stop
  | 0, s => (s.settled, some .malformed)
  | n + 1, s =>
    match s.fetch with
    | .error stop => (s.settled, some stop)
    | .ok (s, true) => (s.tokens, none)
    | .ok (s, false) => finish n s

end Scan

/-- The cursor at the start of a text, behind its byte order mark. -/
def Cursor.ofText (t : Text) (goesOn : Bool) : Cursor :=
  let c : Cursor := { rest := t, goesOn }
  if c.peek.any (·.val == 0xFEFF) then c.skip 1 else c

/-- The tokens of a text, which may go on; if they end early, why. -/
def Token.scan (t : Text) (goesOn : Bool) : List Token × Option Stop :=
  Scan.finish (t.length + 1) { cursor := .ofText t goesOn }

end ImportScan.Yaml
