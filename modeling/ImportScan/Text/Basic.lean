/-! # Text

    Everything the scanner reads or reports is a sequence of Unicode code points.
    Surrogate code points are members of the alphabet: an escape such as `\uD800`
    denotes one on its own, and a specifier may hold it.  `String` cannot, so the
    library has its own text type, with the handful of list operations it needs.

    * `CodePoint` : a number below `0x110000`.
    * `Text`      : a list of code points; order, splitting, joining and padding.
-/

namespace ImportScan

/-- A Unicode code point, surrogates included. -/
abbrev CodePoint := Fin 0x110000

instance : LawfulBEq CodePoint := instLawfulBEq

/-- A sequence of code points. -/
abbrev Text := List CodePoint

namespace CodePoint

/-- The code point of a character. -/
def ofChar (c : Char) : CodePoint :=
  ⟨c.toNat, by
    have h := c.valid
    simp only [UInt32.isValidChar, Nat.isValidChar] at h
    show c.val.toNat < 0x110000
    omega⟩

/-- The code point with number `n`, or U+FFFD when there is none. -/
def ofNat (n : Nat) : CodePoint :=
  if h : n < 0x110000 then ⟨n, h⟩ else ⟨0xFFFD, by decide⟩

/-- Whether the code point is the given character. -/
def is (c : CodePoint) (ch : Char) : Bool := c.val == ch.toNat

/-- Whether the code point lies between two characters, ends included. -/
def isBetween (c : CodePoint) (lo hi : Char) : Bool :=
  lo.toNat ≤ c.val && c.val ≤ hi.toNat

/-- An ASCII decimal digit. -/
def isDigit (c : CodePoint) : Bool := c.isBetween '0' '9'

/-- An ASCII hexadecimal digit. -/
def isHexDigit (c : CodePoint) : Bool :=
  c.isDigit || c.isBetween 'a' 'f' || c.isBetween 'A' 'F'

/-- The value of an ASCII hexadecimal digit (and `0` for anything else). -/
def hexValue (c : CodePoint) : Nat :=
  if c.isDigit then c.val - 48
  else if c.isBetween 'a' 'f' then c.val - 87
  else if c.isBetween 'A' 'F' then c.val - 55
  else 0

/-- A leading (high) surrogate. -/
def isHighSurrogate (c : CodePoint) : Bool := 0xD800 ≤ c.val && c.val < 0xDC00

/-- A trailing (low) surrogate. -/
def isLowSurrogate (c : CodePoint) : Bool := 0xDC00 ≤ c.val && c.val < 0xE000

/-- A surrogate of either kind. -/
def isSurrogate (c : CodePoint) : Bool := 0xD800 ≤ c.val && c.val < 0xE000

end CodePoint

namespace Text

/-- The code points of a string. -/
def ofString (s : String) : Text := s.toList.map CodePoint.ofChar

instance : Coe String Text := ⟨ofString⟩

/-- One character as a text. -/
def ofChar (c : Char) : Text := [CodePoint.ofChar c]

/-- The decimal digits of a natural number. -/
def ofNat (n : Nat) : Text := ofString (toString n)

/-- The decimal digits of an integer, with a minus sign when it is negative. -/
def ofInt (n : Int) : Text :=
  if n < 0 then CodePoint.ofChar '-' :: ofNat n.natAbs else ofNat n.natAbs

/-- The string with the same code points; a surrogate becomes U+FFFD. -/
def asString (t : Text) : String :=
  String.ofList (t.map fun c => if c.isSurrogate then Char.ofNat 0xFFFD else Char.ofNat c.val)

/-- Code-point order, a proper initial segment before its extensions. -/
def le : Text → Text → Bool
  | [], _ => true
  | _ :: _, [] => false
  | a :: as, b :: bs => if a.val < b.val then true else if b.val < a.val then false else le as bs

/-- Texts in ascending code-point order. -/
def sorted (ts : List Text) : List Text := ts.mergeSort le

/-- The pieces between the occurrences of a separator; there is always at least one. -/
def splitOn (sep : CodePoint) : Text → List Text
  | [] => [[]]
  | c :: rest =>
    if c = sep then [] :: splitOn sep rest
    else
      match splitOn sep rest with
      | [] => [[c]]
      | piece :: pieces => (c :: piece) :: pieces

/-- The parts of a message one after the other. -/
def concat (parts : List Text) : Text := parts.flatten

/-- Texts with a separator between them. -/
def join (sep : Text) : List Text → Text
  | [] => []
  | [t] => t
  | t :: ts => t ++ sep ++ join sep ts

/-- The text without the leading code points that satisfy `p`. -/
def trimStart (p : CodePoint → Bool) (t : Text) : Text := t.dropWhile p

/-- The text without the trailing code points that satisfy `p`. -/
def trimEnd (p : CodePoint → Bool) (t : Text) : Text := (t.reverse.dropWhile p).reverse

/-- The text without the code points that satisfy `p` at either end. -/
def trim (p : CodePoint → Bool) (t : Text) : Text := trimEnd p (trimStart p t)

/-- The text with spaces added on the right up to a width in code points. -/
def padRight (width : Nat) (t : Text) : Text :=
  t ++ List.replicate (width - t.length) (CodePoint.ofChar ' ')

/-- Whether the first text begins with the second. -/
def startsWith (t start : Text) : Bool := start.isPrefixOf t

/-- Every `CR LF` and every remaining `CR` becomes one `LF`. -/
def normalizeNewlines : Text → Text
  | [] => []
  | [c] => if c.is '\r' then [CodePoint.ofChar '\n'] else [c]
  | c :: d :: rest =>
    if c.is '\r' then
      if d.is '\n' then CodePoint.ofChar '\n' :: normalizeNewlines rest
      else CodePoint.ofChar '\n' :: normalizeNewlines (d :: rest)
    else c :: normalizeNewlines (d :: rest)

end Text

end ImportScan
