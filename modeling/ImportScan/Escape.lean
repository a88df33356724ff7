import ImportScan.Fault

/-! # Escapes

    The text that the raw form of a JavaScript literal stands for.

    * `Escape.Token`    : a character or an escape.
    * `Escape.tokens`   : a raw text cut into tokens, left to right.
    * `Escape.cook`     : the value of a raw text; the halves of a surrogate pair are joined.
-/

namespace ImportScan

namespace Escape

/-- A piece of raw text. -/
inductive Token where
  /-- A character that stands for itself. -/
  | char (c : CodePoint)
  /-- An escape that gives the number of a code point. -/
  | number (n : Nat)
  /-- A backslash and a character. -/
  | single (c : CodePoint)
deriving Repr, DecidableEq

/-- The number that hexadecimal digits spell. -/
def hexNumber (digits : Text) : Nat := digits.foldl (fun n c => 16 * n + c.hexValue) 0

/-- The digits of a braced number and the text after its closing brace. -/
def braced? (t : Text) : Option (Text × Text) :=
  let digits := t.takeWhile CodePoint.isHexDigit
  match t.dropWhile CodePoint.isHexDigit with
  | c :: rest => if c.is '}' && !digits.isEmpty then some (digits, rest) else none
  | [] => none

/-- The first `n` code points if all are hexadecimal digits, and the text after them. -/
def fixed? (n : Nat) (t : Text) : Option (Text × Text) :=
  let digits := t.take n
  if digits.length = n ∧ digits.all CodePoint.isHexDigit then some (digits, t.drop n) else none

/-- The numeric escape that follows a backslash, if one does, and the text after it. -/
def numeric? (t : Text) : Option (Nat × Text) :=
  let found : Option (Text × Text) :=
    match t with
    | c :: rest =>
      if c.is 'u' then
        match rest with
        | d :: more => if d.is '{' then (braced? more).or (fixed? 4 rest) else fixed? 4 rest
        | [] => none
      else if c.is 'x' then fixed? 2 rest
      else none
    | [] => none
  found.map fun (digits, rest) => (hexNumber digits, rest)

/-- Cuts a text into tokens.  The fuel bounds the number of tokens, of which there are never
    more than code points. -/
def tokensWithin : Nat → Text → List Token
  | 0, _ => []
  | _ + 1, [] => []
  | n + 1, c :: rest =>
    if c.is '\\' then
      match numeric? rest with
      | some (number, rest) => .number number :: tokensWithin n rest
      | none =>
        match rest with
        | d :: rest => .single d :: tokensWithin n rest
        | [] => [.char c]
    else .char c :: tokensWithin n rest

/-- A raw text cut into tokens. -/
def tokens (t : Text) : List Token := tokensWithin t.length t

/-- The value of a backslash and a character: nothing for a line terminator, the control
    character that a letter names, and the character itself otherwise. -/
def singleValue (c : CodePoint) : Text :=
  if c.is '\n' || c.val == 0x2028 || c.val == 0x2029 then []
  else if c.is 'n' then Text.ofChar '\n'
  else if c.is 't' then Text.ofChar '\t'
  else if c.is 'r' then Text.ofChar '\r'
  else if c.is 'b' then [CodePoint.ofNat 8]
  else if c.is 'f' then [CodePoint.ofNat 12]
  else if c.is 'v' then [CodePoint.ofNat 11]
  else if c.is '0' then [CodePoint.ofNat 0]
  else [c]

/-- The value of a token. -/
def Token.value : Token → Except Fault Text
  | .char c => .ok [c]
  | .number n =>
    if h : n < 0x110000 then .ok [⟨n, h⟩]
    else if n ≤ 0x7FFFFFFF then .error .codePointRange
    else .error .codePointOverflow
  | .single c => .ok (singleValue c)

/-- The values of tokens one after the other. -/
def values : List Token → Except Fault Text
  | [] => .ok []
  | t :: ts => do
    let v ← t.value
    let vs ← values ts
    return v ++ vs

/-- The text with every surrogate pair joined to the code point it encodes. -/
def joinPairs (t : Text) : Text := Text.ofUnits t.units

/-- The text that a raw text stands for.  One without a backslash stands for itself, with its
    line breaks normalised. -/
def cook (raw : Text) : Except Fault Text :=
  let t := raw.normalizeNewlines
  if t.any (·.is '\\') then (values (tokens t)).map joinPairs else .ok t

end Escape

end ImportScan
