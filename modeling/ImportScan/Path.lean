import ImportScan.Text.Basic

/-! # Paths

    Paths are texts with components between slashes.  Resolution is lexical: a path is put
    behind the current directory, empty and `.` components are dropped, and `..` cancels the
    component before it.

    * `Path.join`       : one path behind another, unless the second is absolute.
    * `Path.components` : the components that remain after lexical resolution.
    * `Path.absolute`   : the resolved path; exactly two leading slashes are kept as they are.
    * `Path.extension`  : what follows the last dot of the base name.
    * `Path.isWithin`   : whether one resolved path is another or lies below it.
-/

namespace ImportScan

namespace Path

/-- The separator of components. -/
def slash : CodePoint := CodePoint.ofChar '/'

/-- Whether a path starts at the root. -/
def isAbsolute (p : Text) : Bool := p.head? == some slash

/-- The second path behind the first, with one slash between them; an absolute path stands
    for itself. -/
def join (a b : Text) : Text :=
  if isAbsolute b then b
  else if a.isEmpty || a.getLast? == some slash then a ++ b
  else a ++ slash :: b

/-- What one component does to those before it, which are given nearest first. -/
def enter (before : List Text) (c : Text) : List Text :=
  if c.isEmpty || c == Text.ofString "." then before
  else if c == Text.ofString ".." then before.tail
  else c :: before

/-- The components of an absolute path after lexical resolution. -/
def components (p : Text) : List Text := ((p.splitOn slash).foldl enter []).reverse

/-- The leading slashes that a resolved path keeps: two if there were exactly two, else one. -/
def lead (p : Text) : Text :=
  match p with
  | a :: b :: rest =>
    if a = slash ∧ b = slash ∧ rest.head? ≠ some slash then [slash, slash] else [slash]
  | _ => [slash]

/-- The path, resolved from a current directory. -/
def absolute (cwd p : Text) : Text :=
  let full := join cwd p
  lead full ++ Text.join [slash] (components full)

/-- The last component, empty when the path ends with a slash. -/
def base (p : Text) : Text := (p.reverse.takeWhile (· != slash)).reverse

/-- The path without its last component and the slashes before that; the root keeps its own. -/
def parent (p : Text) : Text :=
  let head := (p.reverse.dropWhile (· != slash)).reverse
  if head.all (· == slash) then head else Text.trimEnd (· == slash) head

/-- What follows the last dot of the base name; leading dots of the name do not count. -/
def extension (p : Text) : Text :=
  let backward := p.reverse.takeWhile (· != slash)
  let ext := backward.takeWhile (!·.is '.')
  let stem := (backward.dropWhile (!·.is '.')).drop 1
  if stem.any (!·.is '.') then ext.reverse else []

/-- The path without the slashes at its end. -/
def trimSlashes (p : Text) : Text := p.trimEnd (· == slash)

/-- Whether the first of two resolved paths is the second or lies below it. -/
def isWithin (p root : Text) : Bool :=
  p == root || p.startsWith (trimSlashes root ++ [slash])

end Path

end ImportScan
