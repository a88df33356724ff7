import ImportScan.Yaml.Cursor

/-! # The spelling of scalars

    A scalar is plain, in quotes, or a block of lines.  Each reader takes the cursor at the
    first code point and gives the text that is meant and the cursor behind it.

    * `quoted` : a scalar in single or double quotes.
    * `plain`  : a plain scalar.
    * `block`  : a literal or folded block.
-/

namespace ImportScan.Yaml

/-! ## Quotes -/

/-- The ends of the empty lines that follow; a document may not start or end there. -/
def emptyLines : Nat → Cursor → Except Stop (Text × Cursor)
  | 0, c => .ok ([], c)
  | n + 1, c =>
    if c.seesSeparator then .error (c.skip 3).stop
    else
      let c := c.skipWhile isBlank
      if c.peek.any isBreak then
        let (ended, c) := c.lineBreak
        (emptyLines n c).map fun (more, c) => (ended ++ more, c)
      else .ok ([], c)

/-- White space within quotes, where a single line end counts as a space. -/
def quotedGap (c : Cursor) : Except Stop (Text × Cursor) :=
  let blanks := c.run isBlank
  let c := c.skip blanks.length
  match c.peek with
  | none => .error c.stop
  | some x =>
    if isBreak x then do
      let (ended, c) := c.lineBreak
      let (more, c) ← emptyLines (c.rest.length + 1) c
      let folded :=
        if ended != [CodePoint.ofChar '\n'] then ended
        else if more.isEmpty then [CodePoint.ofChar ' ']
        else []
      return (folded ++ more, c)
    else .ok (blanks, c)

/-- What a letter after a backslash stands for. -/
def escapes : List (Char × Nat) :=
  [('0', 0), ('a', 7), ('b', 8), ('t', 9), ('\t', 9), ('n', 10), ('v', 11), ('f', 12), ('r', 13),
   ('e', 0x1B), (' ', 0x20), ('"', 0x22), ('\\', 0x5C), ('/', 0x2F), ('N', 0x85), ('_', 0xA0),
   ('L', 0x2028), ('P', 0x2029)]

/-- How many hexadecimal digits follow a letter after a backslash. -/
def codeLength? (c : CodePoint) : Option Nat :=
  if c.is 'x' then some 2 else if c.is 'u' then some 4 else if c.is 'U' then some 8 else none

/-- The code point with a number. -/
def codePoint (n : Nat) : Except Stop CodePoint :=
  if h : n < 0x110000 then .ok ⟨n, h⟩
  else if n ≤ 0x7FFFFFFF then .error (.fault .codePointRange)
  else .error (.fault .codePointOverflow)

/-- What an escape stands for, with the cursor behind its backslash. -/
def escape (c : Cursor) : Except Stop (Text × Cursor) :=
  match c.peek with
  | none => .error c.stop
  | some x =>
    match escapes.find? fun e => x.is e.1, codeLength? x with
    | some (_, n), _ => .ok ([CodePoint.ofNat n], c.skip 1)
    | none, some size =>
      let digits := ((c.rest.drop 1).take size).takeWhile CodePoint.isHexDigit
      if digits.length == size then
        (codePoint (digits.foldl (fun n d => 16 * n + d.hexValue) 0)).map fun p =>
          ([p], c.skip (size + 1))
      else .error (c.skip (digits.length + 1)).stop
    | none, none =>
      if isBreak x then emptyLines (c.rest.length + 1) c.lineBreak.2 else .error .malformed

/-- The rest of a scalar in quotes, with the cursor behind the opening quote. -/
def quotedRest (double : Bool) : Nat → Cursor → Except Stop (Text × Cursor)
  | 0, _ => .error .malformed
  | n + 1, c =>
    let more (part : Text) (c : Cursor) : Except Stop (Text × Cursor) :=
      (quotedRest double n c).map fun (t, c) => (part ++ t, c)
    match c.peek with
    | none => .error c.stop
    | some x =>
      if double && x.is '"' then .ok ([], c.skip 1)
      else if !double && x.is '\'' then
        if (c.peekAt 1).any (·.is '\'') then more [x] (c.skip 2) else .ok ([], c.skip 1)
      else if double && x.is '\\' then do
        let (part, c) ← escape (c.skip 1)
        more part c
      else if isBlank x || isBreak x then do
        let (part, c) ← quotedGap c
        more part c
      else more [x] (c.skip 1)

/-- A scalar in single or double quotes. -/
def quoted (double : Bool) (c : Cursor) : Except Stop (Text × Cursor) :=
  quotedRest double (c.rest.length + 1) (c.skip 1)

/-! ## Plain scalars -/

/-- The code points up to the next gap, or to a mark that ends a plain scalar.  In a flow
    collection there are more such marks. -/
def plainRun (flow : Bool) : Text → Text
  | [] => []
  | c :: rest =>
    let ends (d : CodePoint) : Bool :=
      isBlank d || isBreak d || (flow && isOneOf d ",[]\x7b\x7d")
    if isBlank c || isBreak c || (c.is ':' && isEndOr ends rest.head?)
        || (flow && isOneOf c ",?[]\x7b\x7d") then []
    else c :: plainRun flow rest

/-- The ends of the lines between two lines of a plain scalar; none when a document starts or
    ends there. -/
def plainLines : Nat → Cursor → Option Text × Cursor
  | 0, c => (some [], c)
  | n + 1, c =>
    if c.sees ' ' then plainLines n (c.skip 1)
    else if c.peek.any isBreak then
      let (ended, c) := c.lineBreak
      if c.seesSeparator then (none, c)
      else
        let (more, c) := plainLines n c
        (more.map (ended ++ ·), c)
    else (some [], c)

/-- White space within a plain scalar, whether a line ended there, and the cursor behind it;
    nothing when the scalar cannot go on. -/
def plainGap (c : Cursor) : Text × Bool × Cursor :=
  let spaces := c.run (·.is ' ')
  let c := c.skip spaces.length
  if c.peek.any isBreak then
    let (ended, c) := c.lineBreak
    if c.seesSeparator then ([], true, c)
    else
      match plainLines (c.rest.length + 1) c with
      | (none, c) => ([], true, c)
      | (some more, c) =>
        let folded :=
          if ended != [CodePoint.ofChar '\n'] then ended
          else if more.isEmpty then [CodePoint.ofChar ' ']
          else []
        (folded ++ more, true, c)
  else (spaces, false, c)

/-- The rest of a plain scalar behind a gap, and whether the last gap read has ended a line.
    Lines of a block must be indented. -/
def plainRest (flow : Bool) (indent : Int) (gap : Text) (ended : Bool) :
    Nat → Cursor → Text × Bool × Cursor
  | 0, c => ([], ended, c)
  | n + 1, c =>
    let run := if c.sees '#' then [] else plainRun flow c.rest
    if run.isEmpty then ([], ended, c)
    else
      let (next, ended, c) := plainGap (c.skip run.length)
      if next.isEmpty || c.sees '#' || (!flow && (c.column : Int) < indent) then
        (gap ++ run, ended, c)
      else
        let (more, ended, c) := plainRest flow indent next ended n c
        (gap ++ run ++ more, ended, c)

/-- A plain scalar, and whether a line ended behind it. -/
def plain (flow : Bool) (indent : Int) (c : Cursor) : Text × Bool × Cursor :=
  plainRest flow indent [] false (c.rest.length + 1) c

/-! ## Blocks -/

/-- What becomes of the line ends behind a block. -/
inductive Chomping where
  /-- One stays. -/
  | clip
  /-- None stays. -/
  | strip
  /-- All stay. -/
  | keep
deriving Repr, DecidableEq

/-- The chomping mark, if there is one. -/
def chompingMark (c : Cursor) : Chomping × Cursor :=
  if c.sees '+' then (.keep, c.skip 1) else if c.sees '-' then (.strip, c.skip 1) else (.clip, c)

/-- The indentation mark, if there is one. -/
def indentMark (c : Cursor) : Except Stop (Option Nat × Cursor) :=
  match c.peek with
  | some x =>
    if x.is '0' then .error .malformed
    else if x.isDigit then .ok (some x.hexValue, c.skip 1)
    else .ok (none, c)
  | none => .ok (none, c)

/-- The two marks behind the sign of a block, in either order. -/
def blockMarks (c : Cursor) : Except Stop (Chomping × Option Nat × Cursor) := do
  let (chomping, d) := chompingMark c
  if chomping == .clip then
    let (indent, c) ← indentMark c
    let (chomping, c) := if indent.isSome then chompingMark c else (.clip, c)
    if isSpaceGap c.peek then return (chomping, indent, c) else throw .malformed
  else
    let (indent, c) ← indentMark d
    if isSpaceGap c.peek then return (chomping, indent, c) else throw .malformed

/-- The ends of the empty lines before a block, and the deepest indentation seen. -/
def leadingLines (deepest : Nat) : Nat → Cursor → List Text × Nat × Cursor
  | 0, c => ([], deepest, c)
  | n + 1, c =>
    if c.sees ' ' then
      let c := c.skip 1
      leadingLines (max deepest c.column) n c
    else if c.peek.any isBreak then
      let (ended, c) := c.lineBreak
      let (more, deepest, c) := leadingLines deepest n c
      (ended :: more, deepest, c)
    else ([], deepest, c)

/-- The cursor behind the spaces of an indentation. -/
def skipIndent (indent : Nat) (c : Cursor) : Cursor :=
  c.skip (min (indent - c.column) (c.run (·.is ' ')).length)

/-- The ends of the empty lines in a block, with the cursor behind the indentation. -/
def innerLines (indent : Nat) : Nat → Cursor → List Text × Cursor
  | 0, c => ([], c)
  | n + 1, c =>
    if c.peek.any isBreak then
      let (ended, c) := c.lineBreak
      let (more, c) := innerLines indent n (skipIndent indent c)
      (ended :: more, c)
    else ([], c)

/-- The empty lines at the cursor. -/
def emptyBlockLines (indent : Nat) (c : Cursor) : List Text × Cursor :=
  innerLines indent (c.rest.length + 1) (skipIndent indent c)

/-- The lines of a block, the end of the last line, and the ends of the empty lines behind. -/
def blockLines (folded : Bool) (indent : Nat) (breaks : List Text) :
    Nat → Cursor → Text × Text × List Text × Cursor
  | 0, c => ([], [], breaks, c)
  | n + 1, c =>
    if c.column != indent || c.rest.isEmpty then ([], [], breaks, c)
    else
      let indented := c.peek.any isBlank
      let line := c.run (!isBreak ·)
      let (ended, c) := (c.skip line.length).lineBreak
      let (next, c) := emptyBlockLines indent c
      if c.column == indent && !c.rest.isEmpty then
        let joint :=
          if folded && ended == [CodePoint.ofChar '\n'] && !indented && !c.peek.any isBlank then
            if next.isEmpty then [CodePoint.ofChar ' '] else []
          else ended
        let (more, last, tail, c) := blockLines folded indent next n c
        (breaks.flatten ++ line ++ joint ++ more, last, tail, c)
      else (breaks.flatten ++ line, ended, next, c)

/-- A literal or folded block inside a collection of some indentation. -/
def block (folded : Bool) (outer : Int) (c : Cursor) : Except Stop (Text × Cursor) := do
  let (chomping, mark, c) ← blockMarks (c.skip 1)
  let c ← c.finishLine
  let least := (max (outer + 1) 1).toNat
  let (indent, breaks, c) :=
    match mark with
    | some n =>
      let indent := least + n - 1
      let (breaks, c) := emptyBlockLines indent c
      (indent, breaks, c)
    | none =>
      let (breaks, deepest, c) := leadingLines 0 (c.rest.length + 1) c
      (max least deepest, breaks, c)
  let (text, last, tail, c) := blockLines folded indent breaks (c.rest.length + 1) c
  return match chomping with
    | .strip => (text, c)
    | .clip => (text ++ last, c)
    | .keep => (text ++ last ++ tail.flatten, c)

end ImportScan.Yaml
