import ImportScan.Datum.Basic
import ImportScan.Text.Encoding

/-! # JSON

    A datum as a JSON document in ASCII: two blanks of indentation per level, one item or
    field a line, and every code point beyond ASCII as its UTF-16 units.
-/

namespace ImportScan

namespace Json

/-- One code point inside a JSON string. -/
def escape (c : CodePoint) : Text :=
  if c.is '"' then Text.ofString "\\\""
  else if c.is '\\' then Text.ofString "\\\\"
  else if c.is '\n' then Text.ofString "\\n"
  else if c.is '\r' then Text.ofString "\\r"
  else if c.is '\t' then Text.ofString "\\t"
  else if c.val = 8 then Text.ofString "\\b"
  else if c.val = 12 then Text.ofString "\\f"
  else if 32 ≤ c.val ∧ c.val < 127 then [c]
  else c.units.flatMap fun u => Text.ofString "\\u" ++ Text.hex 4 u

/-- A JSON string. -/
def string (t : Text) : Text := Text.ofString "\"" ++ t.flatMap escape ++ Text.ofString "\""

/-- A line break and the indentation of a level. -/
def newline (level : Nat) : Text :=
  CodePoint.ofChar '\n' :: List.replicate (2 * level) (CodePoint.ofChar ' ')

/-- Lines between brackets, or the empty pair of brackets. -/
def bracketed (opening closing : Char) (level : Nat) (lines : List Text) : Text :=
  if lines.isEmpty then [CodePoint.ofChar opening, CodePoint.ofChar closing]
  else
    CodePoint.ofChar opening
      :: (newline (level + 1) ++ Text.join (Text.ofString "," ++ newline (level + 1)) lines
        ++ newline level ++ [CodePoint.ofChar closing])

/-- A number, with the names that JSON writers use for what is not finite. -/
def number : Binary64 → Text
  | .nan => Text.ofString "NaN"
  | .inf negative => Text.ofString (if negative then "-Infinity" else "Infinity")
  | x => x.text

mutual

/-- The document of a datum at a level of indentation. -/
def document (level : Nat) : Datum → Text
  | .null => Text.ofString "null"
  | .bool b => Text.ofString (if b then "true" else "false")
  | .int n => Text.ofInt n
  | .real x => number x
  | .text t => string t
  | .moment m => string m.text
  | .list xs => bracketed '[' ']' level (items (level + 1) xs)
  | .map es => bracketed '{' '}' level (fields (level + 1) es)

/-- The documents of the items of a list. -/
def items (level : Nat) : List Datum → List Text
  | [] => []
  | x :: xs => document level x :: items level xs

/-- The documents of the fields of a mapping. -/
def fields (level : Nat) : List (Datum × Datum) → List Text
  | [] => []
  | (k, v) :: rest =>
    (string k.display ++ Text.ofString ": " ++ document level v) :: fields level rest

end

end Json

/-- The JSON document of a datum. -/
def Datum.json (d : Datum) : Text := Json.document 0 d

end ImportScan
