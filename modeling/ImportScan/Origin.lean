import ImportScan.Import

/-! # Origins

    Where records come from: the file and its package, whose tree type every record carries.
    The module and the name that make a call a build-time import are fixed here, too.
-/

namespace ImportScan

/-- A file and the package that owns it. -/
structure Origin where
  /-- The file. -/
  path : Text
  /-- The package. -/
  package : Package
deriving Repr

namespace Origin

/-- The record of a target found at the origin. -/
def record (o : Origin) (isDynamic : Bool) (target : Target) : Import :=
  { path := o.path, package := o.package, isDynamic, treeType := o.package.treeType, target }

end Origin

/-- The module that exports the build-time import. -/
def macroModule : Text := Text.ofString "@embroider/macros"

/-- The name under which it exports it. -/
def macroName : Text := Text.ofString "importSync"

end ImportScan
