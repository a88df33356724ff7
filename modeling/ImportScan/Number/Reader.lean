import ImportScan.Number.Binary64
import ImportScan.Text.Case

/-! # Reading numbers

    Integers and reals as a setting may spell them: white space around, a sign, digits of any
    script, and single underscores between digits.  Integers have a limit on their digits.
-/

namespace ImportScan

namespace Number

/-- Decimal digits and what follows them; an underscore may stand between two digits, so one
    is passed over when a digit was seen before it and another comes next. -/
def digitsAfter (seen : Bool) : Text → List Nat × Text
  | [] => ([], [])
  | c :: rest =>
    match Unicode.decimalValue? c with
    | some d =>
      let (ds, tail) := digitsAfter true rest
      (d :: ds, tail)
    | none =>
      if seen && c.is '_' then
        match digitsAfter false rest with
        | ([], _) => ([], c :: rest)
        | found => found
      else ([], c :: rest)

/-- Decimal digits with single underscores between them, and what follows. -/
def digits (t : Text) : List Nat × Text := digitsAfter false t

/-- The number that decimal digits spell. -/
def ofDigits (ds : List Nat) : Nat := ds.foldl (fun n d => 10 * n + d) 0

/-- A sign, if there is one, and the rest. -/
def sign (t : Text) : Bool × Text :=
  match t with
  | c :: rest => if c.is '-' then (true, rest) else if c.is '+' then (false, rest) else (false, t)
  | [] => (false, [])

/-- White space that may stand around a number: the information separators may not. -/
def isPadding (c : CodePoint) : Bool :=
  Unicode.blank.contains c && !(0x1C ≤ c.val && c.val ≤ 0x1F)

/-- The most digits that an integer may be spelled with. -/
def maxDigits : Nat := 4300

/-- How many digits a text has, if that is too many for an integer.  A misplaced underscore is
    noticed before. -/
def overlong? (t : Text) : Option Nat :=
  let (ds, tail) := digits (sign (t.trim isPadding)).2
  if maxDigits < ds.length && !tail.head?.any (·.is '_') then some ds.length else none

/-- The integer that a text spells in full. -/
def readInt? (t : Text) : Option Int :=
  let (negative, t) := sign (t.trim isPadding)
  match digits t with
  | ([], _) => none
  | (ds, []) =>
    if maxDigits < ds.length then none
    else some (if negative then -(ofDigits ds : Int) else ofDigits ds)
  | (_, _ :: _) => none

/-- The exponent part of a real, if there is one; `none` when it is malformed. -/
def exponentPart? (t : Text) : Option Int :=
  match t with
  | [] => some 0
  | c :: rest =>
    if c.is 'e' || c.is 'E' then
      let (negative, rest) := sign rest
      match digits rest with
      | ([], _) => none
      | (ds, []) => some (if negative then -(ofDigits ds : Int) else ofDigits ds)
      | (_, _ :: _) => none
    else none

/-- The number nearest to decimal digits with a power of ten, where a power that is out of
    every range is not computed. -/
def nearest (negative : Bool) (ds : List Nat) (exponent : Int) : Binary64 :=
  let n := ofDigits ds
  if n = 0 then .finite negative 0 Binary64.minExponent
  else if exponent > 400 then .inf negative
  else if exponent + ds.length < -400 then .finite negative 0 Binary64.minExponent
  else .ofDecimal negative n exponent

/-- The real that a text spells in full. -/
def readReal? (t : Text) : Option Binary64 :=
  let (negative, t) := sign (t.trim isPadding)
  let word := Text.lower t
  if word = Text.ofString "inf" ∨ word = Text.ofString "infinity" then some (.inf negative)
  else if word = Text.ofString "nan" then some .nan
  else
    let (whole, rest) := digits t
    let (fraction, rest) :=
      match rest with
      | c :: more => if c.is '.' then digits more else ([], rest)
      | [] => ([], [])
    if whole.isEmpty && fraction.isEmpty then none
    else
      (exponentPart? rest).map fun e => nearest negative (whole ++ fraction) (e - fraction.length)

end Number

end ImportScan
