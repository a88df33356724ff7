import ImportScan.Platform

/-! # Places in a YAML text

    Configuration files are YAML 1.1.  A cursor knows what is left of the text and where in
    the text it stands; line ends are normalised before a text is read.  The text may go on
    behind what is known of it, and then nothing can be told from its end.
-/

namespace ImportScan.Yaml

/-- Why a text is not read any further. -/
inductive Stop where
  /-- What comes next is not known yet. -/
  | starved
  /-- It gives no data. -/
  | failed (why : Failure)
deriving Repr

namespace Stop

/-- The text is no YAML. -/
abbrev malformed : Stop := .failed .malformed

/-- A scalar does not spell a value of its kind. -/
abbrev fault (cause : Fault) : Stop := .failed (.fault cause)

end Stop

/-- A code point that ends a line. -/
def isBreak (c : CodePoint) : Bool :=
  c.is '\n' || c.val == 0x85 || c.val == 0x2028 || c.val == 0x2029

/-- A space or a tab. -/
def isBlank (c : CodePoint) : Bool := c.is ' ' || c.is '\t'

/-- A code point that may stand in a text at all. -/
def isPrintable (c : CodePoint) : Bool :=
  c.is '\t' || c.is '\n' || c.is '\r' || (0x20 ≤ c.val && c.val ≤ 0x7E) || c.val == 0x85
    || (0xA0 ≤ c.val && c.val ≤ 0xD7FF) || (0xE000 ≤ c.val && c.val ≤ 0xFFFD)
    || 0x10000 ≤ c.val

/-- Whether a code point is one of the given characters. -/
def isOneOf (c : CodePoint) (chars : String) : Bool := chars.toList.any c.is

/-- Whether a code point is absent, or one that satisfies a test. -/
def isEndOr (p : CodePoint → Bool) (c : Option CodePoint) : Bool := c.all p

/-- The end of the text, a blank or the end of a line. -/
def isGap (c : Option CodePoint) : Bool := isEndOr (fun c => isBlank c || isBreak c) c

/-- The end of the text, a space or the end of a line, but no tab. -/
def isSpaceGap (c : Option CodePoint) : Bool := isEndOr (fun c => c.is ' ' || isBreak c) c

/-- The end of the text or of a line. -/
def isLineEnd (c : Option CodePoint) : Bool := isEndOr isBreak c

/-- A letter, digit, dash or underscore, of which names consist. -/
def isNameChar (c : CodePoint) : Bool :=
  c.isDigit || c.isBetween 'a' 'z' || c.isBetween 'A' 'Z' || c.is '-' || c.is '_'

/-- A place in a text. -/
structure Cursor where
  /-- What is left of the text. -/
  rest : Text
  /-- How many code points came before. -/
  index : Nat := 0
  /-- The line, from zero. -/
  line : Nat := 0
  /-- The column, from zero. -/
  column : Nat := 0
  /-- Whether the text goes on behind what is known of it. -/
  goesOn : Bool := false
deriving Repr

namespace Cursor

/-- The next code point. -/
def peek (c : Cursor) : Option CodePoint := c.rest.head?

/-- The code point after some others. -/
def peekAt (c : Cursor) (n : Nat) : Option CodePoint := c.rest[n]?

/-- Whether what comes next is not known yet. -/
def isStarved (c : Cursor) : Bool := c.goesOn && c.rest.isEmpty

/-- Why the text is not read any further when something else should come next. -/
def stop (c : Cursor) : Stop := if c.isStarved then .starved else .malformed

/-- Nothing, if it is known what comes next. -/
def known (c : Cursor) : Except Stop Unit := if c.isStarved then .error .starved else .ok ()

/-- Whether the next code point is a character. -/
def sees (c : Cursor) (ch : Char) : Bool := c.peek.any (·.is ch)

/-- The cursor behind one code point; a byte order mark takes no column. -/
def step (c : Cursor) (x : CodePoint) (rest : Text) : Cursor :=
  if isBreak x then { c with rest, index := c.index + 1, line := c.line + 1, column := 0 }
  else
    { c with rest, index := c.index + 1, column := if x.val == 0xFEFF then c.column else c.column + 1 }

/-- The cursor behind some code points. -/
def skip : Nat → Cursor → Cursor
  | 0, c => c
  | n + 1, c =>
    match c.rest with
    | [] => c
    | x :: rest => skip n (c.step x rest)

/-- The code points that satisfy a test. -/
def run (p : CodePoint → Bool) (c : Cursor) : Text := c.rest.takeWhile p

/-- The cursor behind the code points that satisfy a test. -/
def skipWhile (p : CodePoint → Bool) (c : Cursor) : Cursor := skip (c.run p).length c

/-- The cursor behind a comment, if there is one. -/
def skipComment (c : Cursor) : Cursor :=
  if c.sees '#' then c.skipWhile (!isBreak ·) else c

/-- The end of a line as it counts in a scalar, and the cursor behind it. -/
def lineBreak (c : Cursor) : Text × Cursor :=
  match c.rest with
  | x :: rest =>
    if isBreak x then
      (if x.val == 0x2028 || x.val == 0x2029 then [x] else [CodePoint.ofChar '\n'], c.step x rest)
    else ([], c)
  | [] => ([], c)

/-- Whether the line begins with a mark of three characters that stands alone. -/
def seesMark (c : Cursor) (mark : String) : Bool :=
  c.rest.take 3 == Text.ofString mark && isGap (c.peekAt 3)

/-- Whether a document starts or ends here. -/
def seesSeparator (c : Cursor) : Bool := c.seesMark "---" || c.seesMark "..."

/-- The cursor behind spaces, a comment and the end of the line; nothing else may stand in
    the line. -/
def finishLine (c : Cursor) : Except Stop Cursor :=
  let c := (c.skipWhile (·.is ' ')).skipComment
  if isLineEnd c.peek then .ok c.lineBreak.2 else .error .malformed

end Cursor

end ImportScan.Yaml
