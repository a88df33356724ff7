import ImportScan.Package
import ImportScan.Datum.Json

/-! # Import records

    One record per import found: where it stands, whether it is dynamic, and its target,
    which is a specifier or a template with holes.

    A template is its first text segment and then, for each hole, the name hint of the hole
    and the segment after it, so there is always one segment more than there are holes.

    * `Import.same`     : equality of records; packages count by identity only.
    * `Import.datum`    : the record as an ordered mapping.
    * `Import.describe` : the record as a line of a listing.
    * `Import.calls`    : a list of records as what is printed call by call.
-/

namespace ImportScan

/-- What is imported. -/
inductive Target where
  /-- A specifier; a parsed program gives a text, a program given as data may give anything. -/
  | literal (specifier : Datum)
  /-- A template: the first segment, then a hint (null if none) and a segment per hole. -/
  | template (first : Datum) (holes : List (Datum × Datum))
deriving Repr

namespace Target

/-- The text segments of a template. -/
def quasis (first : Datum) (holes : List (Datum × Datum)) : List Datum := first :: holes.map (·.2)

/-- The name hints of a template. -/
def hints (holes : List (Datum × Datum)) : List Datum := holes.map (·.1)

/-- The target with given segments and hints, of which there must be one fewer; a single
    segment is a specifier. -/
def ofParts (path : Text) (quasis hints : List Datum) : Except Fault Target :=
  match quasis with
  | [only] => .ok (.literal only)
  | first :: rest =>
    if rest.length = hints.length then .ok (.template first (hints.zip rest))
    else .error (.unbalancedTemplate path quasis.length hints.length)
  | [] => .error (.unbalancedTemplate path 0 hints.length)

/-- Equality of targets. -/
def same : Target → Target → Bool
  | .literal a, .literal b => a == b
  | .template a hs, .template b ks =>
    a == b && hs.length == ks.length
      && (hs.zip ks).all fun (h, k) => h.1 == k.1 && h.2 == k.2
  | _, _ => false

instance : BEq Target := ⟨same⟩

end Target

/-- An import found in a file. -/
structure Import where
  /-- The file. -/
  path : Text
  /-- The package that owns the file. -/
  package : Package
  /-- Whether the import happens at run time. -/
  isDynamic : Bool
  /-- The tree type of the package. -/
  treeType : Option Text
  /-- What is imported. -/
  target : Target
deriving Repr

namespace Import

/-- Equality of records. -/
def same (a b : Import) : Bool :=
  a.path == b.path && a.package == b.package && a.isDynamic == b.isDynamic
    && a.treeType == b.treeType && a.target == b.target

instance : BEq Import := ⟨same⟩

/-- The fields that tell the target. -/
def targetFields : Target → List (Datum × Datum)
  | .literal specifier => [(.str "specifier", specifier)]
  | .template first holes =>
    [(.str "cooked_quasis", .list (Target.quasis first holes)),
     (.str "expression_name_hints", .list (Target.hints holes))]

/-- The record as an ordered mapping. -/
def datum (i : Import) : Datum :=
  .map (targetFields i.target ++
    [(.str "path", .text i.path),
     (.str "is_dynamic", .bool i.isDynamic),
     (.str "package", i.package.name),
     (.str "tree_type", (i.treeType.map Datum.text).getD .null)])

/-- The holes of a template as they are shown: the hint, or a question mark. -/
def shownHoles (holes : List (Datum × Datum)) : Text :=
  holes.flatMap fun (hint, quasi) =>
    Text.ofString "$\x7b" ++ (hint.orElse (.str "?")).display ++ Text.ofString "\x7d" ++ quasi.display

/-- The target as a listing shows it. -/
def shownTarget : Target → Text
  | .literal specifier => specifier.display
  | .template first holes =>
    Text.ofString "\x60" ++ first.display ++ shownHoles holes ++ Text.ofString "\x60"

/-- The record as a line of a listing. -/
def describe (i : Import) : Text :=
  Text.concat
    ["  ", i.path.padRight 40, " ",
     Text.padRight 8 (Text.ofString (if i.isDynamic then "dynamic" else "static")), " ",
     shownTarget i.target]

/-- The JSON document of a list of records. -/
def json (imports : List Import) : Text := (Datum.list (imports.map datum)).json

/-- Why a record has no line in a listing, if it has none: the parts of a template must be texts,
    and an integer may have too many digits. -/
def undescribed? (i : Import) : Option Fault :=
  match i.target with
  | .literal specifier => if specifier.isOverlong then some .unspelledInteger else none
  | .template first holes =>
    match (Target.hints holes).find? fun hint => hint.truthy && !hint.isText with
    | some hint =>
      some (.wrongKind (Text.concat ["can only concatenate str (not \"", hint.kindName, "\") to str"]))
    | none =>
      -- the parts are put together last, and every other one comes from a hint
      (((Target.quasis first holes).zipIdx.find? fun q => !q.1.isText)).map fun (quasi, index) =>
        .wrongKind (Text.concat ["sequence item ", Text.ofNat (2 * index),
          ": expected str instance, ", quasi.kindName, " found"])

/-- The record as a line of a listing, if it has one. -/
def entry (i : Import) : Except Fault Text :=
  match i.undescribed? with
  | some cause => .error cause
  | none => .ok i.describe

/-- The line that is printed for no records. -/
def nothingFound : Text := Text.ofString "  (no imports found)"

/-- The heading of a listing. -/
def heading (count : Nat) : Text := Text.concat ["\nImports  [", Text.ofNat count, " result(s)]"]

/-- What is printed for a list of records, as a JSON document or a listing, call by call. -/
def calls (imports : List Import) (asJson : Bool) : List (Except Fault Text) :=
  if asJson then
    [if (Datum.list (imports.map datum)).isOverlong then .error .unspelledInteger
      else .ok (json imports)]
  else if imports.isEmpty then [.ok nothingFound]
  else
    [.ok (heading imports.length), .ok (List.replicate 60 (CodePoint.ofChar '-'))]
      ++ imports.map entry

/-- What a call prints that is not refused: its text and the end of a line. -/
def shownCall : Except Fault Text → Text
  | .ok t => t ++ Text.ofString "\n"
  | .error _ => []

/-- The printed form of a list of records if no call is refused. -/
def listing (imports : List Import) (asJson : Bool) : Text :=
  (calls imports asJson).flatMap shownCall

end Import

end ImportScan
