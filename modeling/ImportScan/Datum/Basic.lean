import ImportScan.Datum.Moment
import ImportScan.Number.Shortest
import ImportScan.Number.Reader
import ImportScan.Text.Quoted

/-! # Data

    The values that configuration files, parser options and ESTree programs are made of:
    scalars, lists and ordered mappings.

    * `Datum.same`   : equality, numbers being compared by value across their kinds.
    * `Datum.truthy` : what counts as "switched on".
    * `Datum.shown`  : the text of a datum in a message; `Datum.display` : as a whole.
    * `Datum.field`  : the value of a field, null when there is none.
-/

namespace ImportScan

/-- A scalar, a list or an ordered mapping. -/
inductive Datum where
  /-- The absent value. -/
  | null
  /-- A truth value. -/
  | bool (b : Bool)
  /-- An integer of any size. -/
  | int (n : Int)
  /-- A double-precision number. -/
  | real (x : Binary64)
  /-- A text. -/
  | text (t : Text)
  /-- A date or a time. -/
  | moment (m : Moment)
  /-- A list. -/
  | list (items : List Datum)
  /-- A mapping, in the order in which its keys were first set. -/
  | map (entries : List (Datum × Datum))
deriving Repr, Inhabited

namespace Datum

/-- A text given as a string literal. -/
def str (s : String) : Datum := .text (Text.ofString s)

instance : Coe Text Datum := ⟨Datum.text⟩

/-! ## Equality -/

/-- Equality of two scalars; truth values count as the integers 0 and 1, and a NaN is the same
    as itself. -/
def sameScalar : Datum → Datum → Bool
  | .null, .null => true
  | .bool a, .bool b => a == b
  | .bool a, .int n => (if a then 1 else 0) == n
  | .int n, .bool a => (if a then 1 else 0) == n
  | .bool a, .real x => x.equalInt (if a then 1 else 0)
  | .real x, .bool a => x.equalInt (if a then 1 else 0)
  | .int m, .int n => m == n
  | .int n, .real x => x.equalInt n
  | .real x, .int n => x.equalInt n
  | .real x, .real y => x.equal y || x == y
  | .text s, .text t => s == t
  | .moment a, .moment b => a == b
  | _, _ => false

mutual

/-- Equality of data: lists item by item, mappings key by key in any order. -/
def same : Datum → Datum → Bool
  | .list xs, d =>
    match d with
    | .list ys => sameItems xs ys
    | _ => false
  | .map es, d =>
    match d with
    | .map fs => es.length == fs.length && sameEntries es fs
    | _ => false
  | .null, d => sameScalar .null d
  | .bool b, d => sameScalar (.bool b) d
  | .int n, d => sameScalar (.int n) d
  | .real x, d => sameScalar (.real x) d
  | .text t, d => sameScalar (.text t) d
  | .moment m, d => sameScalar (.moment m) d

/-- Equality of two lists of items. -/
def sameItems : List Datum → List Datum → Bool
  | [], ys => ys.isEmpty
  | _ :: _, [] => false
  | x :: xs, y :: ys => same x y && sameItems xs ys

/-- Every entry of the first mapping has an equal one in the second. -/
def sameEntries : List (Datum × Datum) → List (Datum × Datum) → Bool
  | [], _ => true
  | (k, v) :: rest, fs => fs.any (fun f => same k f.1 && same v f.2) && sameEntries rest fs

end

instance : BEq Datum := ⟨same⟩

/-- Whether the datum may be a key or the member of a set: collections may not. -/
def isScalar : Datum → Bool
  | .list _ => false
  | .map _ => false
  | _ => true

/-- Whether the datum counts as switched on: null, false, zero and the empty do not. -/
def truthy : Datum → Bool
  | .null => false
  | .bool b => b
  | .int n => n != 0
  | .real x => !x.isZero
  | .text t => !t.isEmpty
  | .moment _ => true
  | .list xs => !xs.isEmpty
  | .map es => !es.isEmpty

/-- The datum itself, or a second one when it does not count as switched on. -/
def orElse (a b : Datum) : Datum := if a.truthy then a else b

/-- Whether the datum is a text. -/
def isText : Datum → Bool
  | .text _ => true
  | _ => false

/-- The name of the kind of a datum, as a message about a wrong kind gives it. -/
def kindName : Datum → Text
  | .null => Text.ofString "NoneType"
  | .bool _ => Text.ofString "bool"
  | .int _ => Text.ofString "int"
  | .real _ => Text.ofString "float"
  | .text _ => Text.ofString "str"
  | .moment m => Text.ofString (if m.time.isNone then "datetime.date" else "datetime.datetime")
  | .list _ => Text.ofString "list"
  | .map _ => Text.ofString "dict"

/-- The items that a collection runs through: those of a list, the keys of a mapping, the
    code points of a text.  Other data have none. -/
def items? : Datum → Option (List Datum)
  | .text t => some (t.map fun c => .text [c])
  | .list xs => some xs
  | .map es => some (es.map (·.1))
  | _ => none

/-! ## Mappings -/

/-- The value of a key, null when the key is absent. -/
def lookup (entries : List (Datum × Datum)) (key : Datum) : Datum :=
  ((entries.find? fun e => e.1 == key).map (·.2)).getD .null

/-- The value of a field of a mapping, null when there is none or the datum is no mapping. -/
def field (name : String) : Datum → Datum
  | .map entries => lookup entries (.str name)
  | _ => .null

/-- The entries with a key set: in its old place if it was there, else at the end. -/
def insert (entries : List (Datum × Datum)) (key value : Datum) : List (Datum × Datum) :=
  match entries with
  | [] => [(key, value)]
  | (k, v) :: rest => if k == key then (k, value) :: rest else (k, v) :: insert rest key value

/-- The first mapping with the entries of the second set in it one by one. -/
def overlay (base top : List (Datum × Datum)) : List (Datum × Datum) :=
  top.foldl (fun es e => insert es e.1 e.2) base

/-! ## Text of a datum -/

mutual

/-- The datum as a message shows it: texts are quoted, collections spelled out. -/
def shown : Datum → Text
  | .null => Text.ofString "None"
  | .bool b => Text.ofString (if b then "True" else "False")
  | .int n => Text.ofInt n
  | .real x => x.text
  | .text t => t.quoted
  | .moment m => m.fields
  | .list xs => Text.ofString "[" ++ Text.join (Text.ofString ", ") (shownItems xs) ++ Text.ofString "]"
  | .map es =>
    Text.ofChar '{' ++ Text.join (Text.ofString ", ") (shownEntries es) ++ Text.ofChar '}'

/-- The items of a list as a message shows them. -/
def shownItems : List Datum → List Text
  | [] => []
  | x :: xs => shown x :: shownItems xs

/-- The entries of a mapping as a message shows them. -/
def shownEntries : List (Datum × Datum) → List Text
  | [] => []
  | (k, v) :: rest => (shown k ++ Text.ofString ": " ++ shown v) :: shownEntries rest

end

/-- The datum as the whole of a text: like `shown`, but a text stands for itself. -/
def display : Datum → Text
  | .text t => t
  | .moment m => m.text
  | d => d.shown

mutual

/-- Whether there is an integer in the datum with too many digits to be spelled. -/
def isOverlong : Datum → Bool
  | .int n => 10 ^ Number.maxDigits ≤ n.natAbs
  | .list xs => areOverlong xs
  | .map es => entriesOverlong es
  | _ => false

/-- Whether there is such an integer in a list of items. -/
def areOverlong : List Datum → Bool
  | [] => false
  | x :: xs => isOverlong x || areOverlong xs

/-- Whether there is such an integer in the entries of a mapping. -/
def entriesOverlong : List (Datum × Datum) → Bool
  | [] => false
  | (k, v) :: rest => isOverlong k || isOverlong v || entriesOverlong rest

end

end Datum

end ImportScan
