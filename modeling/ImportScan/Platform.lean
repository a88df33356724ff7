import ImportScan.Fault
import ImportScan.Text.Stream

/-! # What the program runs on

    The library that reads YAML, the accounts of the system and its output streams are not part
    of the program; it takes them as they come.

    * `Platform`   : what they do.
    * `Yaml.told?` : what the library tells from the portions of a text file.
    * `Yaml.load`  : what it tells from a whole text.
-/

namespace ImportScan

/-- Why a text gives no data. -/
inductive Yaml.Failure where
  /-- The text is no YAML, or its data cannot be built. -/
  | malformed
  /-- A scalar does not spell a value of its kind. -/
  | fault (cause : Fault)
deriving Repr

/-- What the program leaves to others.  The YAML library asks for a text portion by portion, and
    may find it to be at fault before its end; it tells nothing before it has asked, it gives the
    data of whole texts only, and it asks for nothing behind the empty portion at the end.  Every
    stream has the code points of ASCII. -/
class Platform where
  /-- What the YAML library makes of the portions that it was given, unless it asks for another. -/
  yaml : List Text → Option (Except Yaml.Failure Datum)
  /-- The YAML library asks before it tells anything. -/
  yaml_nil : yaml [] = none
  /-- It gives the data of whole texts only. -/
  yaml_ok {portions : List Text} {d : Datum} : yaml portions = some (.ok d) → [] ∈ portions
  /-- It asks for nothing behind the end. -/
  yaml_ended {portions : List Text} : [] ∈ portions → (yaml portions).isSome
  /-- The home directory of the account that the program runs under. -/
  home : Text
  /-- Whether a code point can be printed on standard output. -/
  prints : CodePoint → Bool
  /-- Those of ASCII can. -/
  prints_ascii {c : CodePoint} : c.val < 0x80 → prints c = true

namespace Yaml

variable [Platform]

/-- What the YAML library tells when it has some portions and is given others one after the
    other, nothing when it asks for more of them. -/
def toldAfter? (given : List Text) : List Text → Option (Except Failure Datum)
  | [] => Platform.yaml given
  | portion :: rest =>
    match Platform.yaml given with
    | some told => some told
    | none => toldAfter? (given ++ [portion]) rest

/-- What the YAML library tells from the portions that a text file has to give. -/
def told? (portions : List Text) : Option (Except Failure Datum) := toldAfter? [] portions

/-- What the YAML library tells from a text. -/
def load (t : Text) : Except Failure Datum :=
  (told? (TextFile.portionsOf t)).getD (.error .malformed)

end Yaml

end ImportScan
