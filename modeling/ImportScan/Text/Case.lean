import ImportScan.Text.Unicode.Classes
import ImportScan.Text.Unicode.CaseTable

/-! # Letter case

    Lower and upper case of a text.  A letter may become several (`ß` is raised to `SS`),
    and a capital sigma at the end of a word is lowered to its final form.
-/

namespace ImportScan

namespace Unicode

/-- The code points that the tables give for `n`, which stays as it is when they give none. -/
def mapCase (runs : List (Nat × Nat × Nat × Int)) (special : List (Nat × List Nat))
    (c : CodePoint) : Text :=
  match special.find? (·.1 == c.val) with
  | some (_, codes) => codes.map CodePoint.ofNat
  | none =>
    match runs.find? fun (first, last, stride, _) =>
        first ≤ c.val && c.val ≤ last && (c.val - first) % stride == 0 with
    | some (_, _, _, offset) => [CodePoint.ofNat ((c.val : Int) + offset).toNat]
    | none => [c]

/-- The first code point that the final-sigma rule does not look through is cased. -/
def meetsCased (t : Text) : Bool :=
  match t.dropWhile caseIgnorable.contains with
  | [] => false
  | c :: _ => cased.contains c

/-- Lower case of the rest of a text, given the code points before it, nearest first. -/
def lowerFrom (before : Text) : Text → Text
  | [] => []
  | c :: rest =>
    let image :=
      if c.val == 0x3A3 then
        if meetsCased before && !meetsCased rest then [CodePoint.ofNat 0x3C2]
        else [CodePoint.ofNat 0x3C3]
      else mapCase lowerRuns lowerSpecial c
    image ++ lowerFrom (c :: before) rest

end Unicode

namespace Text

/-- The text in lower case. -/
def lower (t : Text) : Text := Unicode.lowerFrom [] t

/-- The text in upper case. -/
def upper (t : Text) : Text := t.flatMap (Unicode.mapCase Unicode.upperRuns Unicode.upperSpecial)

/-- The text without the white space at its ends. -/
def strip (t : Text) : Text := t.trim Unicode.blank.contains

end Text

end ImportScan
