import ImportScan.Cst.Node
import ImportScan.Script.Dialect
import ImportScan.Text.Encoding

/-! # Parsing with a tree under construction

    A parse moves a cursor over the source.  It may fail, and an alternative then starts again
    where the failed one did.  The cursor carries the nodes that were finished so far; `node`
    gathers those that a parse finishes below a new one, and `extend` puts the last finished
    node below a new one together with what follows it.
-/

namespace ImportScan.Script

/-- A place in the source, and the nodes finished so far, latest first. -/
structure Cursor where
  /-- What is still to be read. -/
  rest : Text
  /-- The octets read so far. -/
  offset : Nat := 0
  /-- The row, from zero. -/
  row : Nat := 0
  /-- The octet in the row. -/
  column : Nat := 0
  /-- Whether a line ended since the last token. -/
  newline : Bool := false
  /-- The nodes finished so far, latest first. -/
  nodes : List Cst.Node := []
deriving Inhabited

namespace Cursor

/-- The cursor one code point further. -/
def step (c : Cursor) (x : CodePoint) (rest : Text) : Cursor :=
  let size := x.utf8Size
  if x.is '\n' then { c with rest, offset := c.offset + size, row := c.row + 1, column := 0 }
  else { c with rest, offset := c.offset + size, column := c.column + size }

/-- The cursor behind some code points. -/
def pass (c : Cursor) (consumed rest : Text) : Cursor :=
  consumed.foldl (fun c x => c.step x rest) { c with rest }

/-- What is known about a node that starts at one cursor and ends at another. -/
def span (k : Cst.Kind) (start stop : Cursor) : Cst.Info :=
  { kind := k, start := start.offset, stop := stop.offset, row := start.row, column := start.column }

/-- The cursor with a childless node pushed that covers what was read since another one. -/
def push (c : Cursor) (k : Cst.Kind) (start : Cursor) : Cursor :=
  { c with nodes := .mk (span k start c) [] :: c.nodes }

end Cursor

/-- The text up to and with the first `*/`, reversed, and what follows. -/
def blockComment (read : Text) : Text → Option (Text × Text)
  | [] => none
  | c :: rest =>
    match rest with
    | d :: more =>
      if c.is '*' && d.is '/' then some (d :: c :: read, more) else blockComment (c :: read) rest
    | [] => none

/-- The cursor at the next token, with the comments before it pushed as nodes; none when a
    comment does not end.  The fuel bounds the number of blanks and comments. -/
def skipTrivia (d : Dialect) : Nat → Cursor → Option Cursor
  | 0, c => some c
  | n + 1, c =>
    match c.rest with
    | x :: rest =>
      if d.isSpace x then
        skipTrivia d n { c.step x rest with newline := c.newline || d.isBreak x }
      else if x.is '/' then
        match rest with
        | y :: more =>
          if y.is '/' then
            let body := more.takeWhile (!Dialect.endsComment ·)
            let after := c.pass (x :: y :: body) (more.dropWhile (!Dialect.endsComment ·))
            skipTrivia d n (after.push .comment c)
          else if y.is '*' then
            match blockComment [y, x] more with
            | some (body, more) =>
              let after := c.pass body.reverse more
              skipTrivia d n
                { after.push .comment c with newline := c.newline || body.any d.isBreak }
            | none => none
          else some c
        | [] => some c
      else some c
    | [] => some c

/-- A parse: it gives a value and a new cursor, or fails. -/
def Parse (α : Type) : Type := Context → Cursor → Option (α × Cursor)

namespace Parse

instance : Monad Parse where
  pure a := fun _ c => some (a, c)
  bind p f := fun ctx c =>
    match p ctx c with
    | some (a, c) => f a ctx c
    | none => none

instance : Alternative Parse where
  failure := fun _ _ => none
  orElse p q := fun ctx c =>
    match p ctx c with
    | some r => some r
    | none => q () ctx c

/-- The context. -/
def context : Parse Context := fun ctx c => some (ctx, c)

/-- The dialect. -/
def dialect : Parse Dialect := fun ctx c => some (ctx.dialect, c)

/-- The cursor. -/
def cursor : Parse Cursor := fun _ c => some (c, c)

/-- Goes on at a cursor. -/
def moveTo (c : Cursor) : Parse Unit := fun _ _ => some ((), c)

/-- A parse in a changed context. -/
def within (f : Context → Context) (p : Parse α) : Parse α := fun ctx c => p (f ctx) c

/-- Fails unless a condition holds. -/
def check (b : Bool) : Parse Unit := fun _ c => if b then some ((), c) else none

/-- Tells whether a parse would succeed, and stays where it is. -/
def comesNext (p : Parse α) : Parse Bool := fun ctx c => some ((p ctx c).isSome, c)

/-- The value of a parse that is not carried out. -/
def lookahead (p : Parse α) : Parse α := fun ctx c => (p ctx c).map fun r => (r.1, c)

/-- Carries out a parse if it succeeds, and tells whether it did. -/
def attempt (p : Parse α) : Parse Bool := fun ctx c =>
  match p ctx c with
  | some (_, c) => some (true, c)
  | none => some (false, c)

/-- Carries out a parse if it succeeds. -/
def perhaps (p : Parse α) : Parse Unit := do
  let _ ← attempt p

/-- Rounds of a parse until it says that it is done. -/
def rounds (p : Parse Bool) : Nat → Parse Unit
  | 0 => failure
  | n + 1 => do
    if ← p then rounds p n

/-- Repeats a parse for as long as it tells to go on; every round has to read something. -/
def repeated (p : Parse Bool) : Parse Unit := do
  rounds p ((← context).budget + 2)

/-! ## Places -/

/-- Skips blanks and comments. -/
def trivia : Parse Unit := fun ctx c => (skipTrivia ctx.dialect (ctx.budget + 2) c).map fun c => ((), c)

/-- What comes next, blanks and comments skipped. -/
def ahead : Parse Text := lookahead do
  trivia
  return (← cursor).rest

/-- Whether a line ends before the next token. -/
def breaks : Parse Bool := lookahead do
  trivia
  return (← cursor).newline

/-- Fails if a line ends before the next token. -/
def sameLine : Parse Unit := do check (!(← breaks))

/-- Reads code points that are known to come next. -/
def consume (consumed rest : Text) : Parse Unit := do
  moveTo { (← cursor).pass consumed rest with newline := false }

/-- Whether the next token starts with a character. -/
def startsWith (ch : Char) : Parse Bool := do
  return ((← ahead).head?.map (·.is ch)).getD false

/-- Reads given characters that come next, without skipping anything. -/
def exactly (s : String) : Parse Unit := do
  let t := Text.ofString s
  let rest := (← cursor).rest
  check (t.isPrefixOf rest)
  consume t (rest.drop t.length)

/-- Reads given characters, blanks and comments skipped. -/
def symbol (s : String) : Parse Unit := do
  trivia
  exactly s

/-- Whether the source ends here. -/
def atEnd : Parse Bool := do return (← ahead).isEmpty

/-! ## Nodes -/

/-- The node last finished. -/
def last? : Parse (Option Cst.Node) := do return (← cursor).nodes.head?

/-- The kind of the node last finished. -/
def lastKind : Parse Cst.Kind := do return ((← last?).map (·.kind)).getD .error

/-- Gathers the nodes that a parse finishes below a new one. -/
def node (k : Cst.Kind) (p : Parse α) : Parse α := do
  trivia
  let start ← cursor
  moveTo { start with nodes := [] }
  let a ← p
  let stop ← cursor
  moveTo { stop with nodes := .mk (Cursor.span k start stop) stop.nodes.reverse :: start.nodes }
  return a

/-- A node with the part it plays in its parent. -/
def inPart (f : Option Cst.Field) : Cst.Node → Cst.Node
  | .mk info children => .mk { info with field := f } children

/-- Puts the node last finished, in a field, below a new one together with those that a parse
    finishes. -/
def extend (k : Cst.Kind) (f : Option Cst.Field) (p : Parse α) : Parse α := do
  let before ← cursor
  match before.nodes with
  | [] => failure
  | first :: others =>
    moveTo { before with nodes := [inPart f first] }
    let a ← p
    let stop ← cursor
    let info : Cst.Info := { first.info with kind := k, stop := stop.offset, field := none }
    moveTo { stop with nodes := .mk info stop.nodes.reverse :: others }
    return a

/-- A parse whose last finished node plays a part in its parent. -/
def inField (f : Cst.Field) (p : Parse α) : Parse α := do
  let a ← p
  let c ← cursor
  match c.nodes with
  | [] => failure
  | n :: others =>
    moveTo { c with nodes := inPart (some f) n :: others }
    return a

end Parse

end ImportScan.Script
