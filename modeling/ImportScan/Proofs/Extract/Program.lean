import ImportScan.Origin

/-! # Programs and what they import

    What a program imports does not depend on how a parser writes the program down.  Here a
    program is a list of terms, one constructor for each phrase that matters and one for all
    the others, and its records are read off the terms.

    * `Term`            : a phrase of a program with the phrases inside it.
    * `Term.own`        : the record that a term gives itself, if any.
    * `Term.recordsAll` : the records of terms and of all that is inside them.
    * `Term.extract`    : the records of a program; `Term.extract_cases` tells the one way in
                          which there may be none.
-/

namespace ImportScan

/-- A phrase of a program. -/
inductive Term where
  /-- An import declaration: the module, and the imported and local name of each binding. -/
  | importFrom (source : Text) (bindings : List (Text × Text))
  /-- An export of names from a module. -/
  | exportFrom (source : Text)
  /-- An export of what the file itself holds. -/
  | exportLocal (inside : List Term)
  /-- An export of everything that a module exports. -/
  | exportAll (source : Text)
  /-- A dynamic import with its arguments. -/
  | importCall (arguments : List Term)
  /-- A call of a name. -/
  | nameCall (name : Text) (arguments : List Term)
  /-- An identifier. -/
  | identifier (name : Text)
  /-- A string literal. -/
  | string (value : Text)
  /-- A template literal: its first segment, then the expression of each hole and the segment
      after it. -/
  | template (first : Text) (holes : List (Term × Text))
  /-- Any other phrase. -/
  | other (inside : List Term)
deriving Repr, Inhabited

namespace Term

/-- The expressions that stand in places of their own: the arguments of a call, and the
    expression of each hole of a template. -/
def groups : Term → List (List Term)
  | .importCall arguments => [arguments]
  | .nameCall _ arguments => [arguments]
  | .template _ holes => holes.map fun hole => [hole.1]
  | _ => []

/-- The phrases inside a phrase, in their order. -/
def inside : Term → List Term
  | .exportLocal inside => inside
  | .other inside => inside
  | t => t.groups.flatten

/-! ## Targets -/

/-- The name hint that an expression gives to its hole: the identifier it is, or null. -/
def hint : Term → Datum
  | .identifier name => .text name
  | _ => .null

/-- What an argument names, if it is a string or a template; one without holes is a string. -/
def target? : Term → Option Target
  | .string value => some (.literal (.text value))
  | .template first [] => some (.literal (.text first))
  | .template first holes =>
    some (.template (.text first) (holes.map fun hole => (hole.1.hint, .text hole.2)))
  | _ => none

/-- What the first of the arguments names. -/
def target (path : Text) (arguments : List Term) : Except Fault Target :=
  match arguments.head?.bind target? with
  | some target => .ok target
  | none => .error (.argument path)

/-! ## Records -/

/-- The local name that a binding from a module gives to the build-time import, if it does. -/
def macroName? (source : Text) (binding : Text × Text) : List Text :=
  if source = macroModule ∧ binding.1 = macroName then [binding.2] else []

/-- The local names that a declaration gives to the build-time import. -/
def macroNames : Term → List Text
  | .importFrom source bindings => bindings.flatMap (macroName? source)
  | _ => []

/-- The record that a term gives itself, if any. -/
def own (o : Origin) (names : List Text) : Term → Except Fault (Option Import)
  | .importFrom source _ => .ok (some (o.record false (.literal (.text source))))
  | .exportFrom source => .ok (some (o.record false (.literal (.text source))))
  | .importCall arguments => do return some (o.record true (← target o.path arguments))
  | .nameCall name arguments =>
    if names.contains name then do return some (o.record false (← target o.path arguments))
    else .ok none
  | _ => .ok none

/-- A record, if any, then the records below it, then those of what follows. -/
def gather (own : Except Fault (Option Import)) (below rest : Except Fault (List Import)) :
    Except Fault (List Import) := do
  let first ← own
  let inner ← below
  let others ← rest
  return first.toList ++ inner ++ others

mutual

/-- The records of everything inside a term. -/
def recordsInside (o : Origin) (names : List Text) : Term → Except Fault (List Import)
  | .exportLocal inside => recordsAll o names inside
  | .importCall arguments => recordsAll o names arguments
  | .nameCall _ arguments => recordsAll o names arguments
  | .template _ holes => recordsHoles o names holes
  | .other inside => recordsAll o names inside
  | _ => .ok []

/-- The records of terms one after the other, each before those inside it. -/
def recordsAll (o : Origin) (names : List Text) : List Term → Except Fault (List Import)
  | [] => .ok []
  | t :: ts => gather (t.own o names) (recordsInside o names t) (recordsAll o names ts)

/-- The records of the expressions of holes. -/
def recordsHoles (o : Origin) (names : List Text) :
    List (Term × Text) → Except Fault (List Import)
  | [] => .ok []
  | (t, _) :: rest => gather (t.own o names) (recordsInside o names t) (recordsHoles o names rest)

end

/-- The records of a program.  Only its own statements bind names to the build-time import. -/
def extract (o : Origin) (program : List Term) : Except Fault (List Import) :=
  recordsAll o (program.flatMap macroNames) program

/-! ## Laws -/

variable {o : Origin} {names : List Text}

/-- The target of a template is that of its segments and hints. -/
theorem ofParts_template (path first : Text) (holes : List (Term × Text)) (ts : List Term) :
    Target.ofParts path ((first :: holes.map (·.2)).map .text) (holes.map fun hole => hole.1.hint)
      = target path (.template first holes :: ts) := by
  cases holes with
  | nil => rfl
  | cons hole holes =>
    simp [Target.ofParts, target, target?, List.zip_map', Function.comp_def]

/-- The records below and the records of the rest may be gathered in either grouping. -/
theorem gather_assoc (own : Except Fault (Option Import))
    (below middle rest : Except Fault (List Import)) :
    gather own below (gather (.ok none) middle rest)
      = gather (.ok none) (gather own below middle) rest := by
  cases own <;> cases below <;> cases middle <;> cases rest <;>
    simp [gather, bind, Except.bind, pure, Except.pure]

@[simp]
theorem gather_ok_nil (rest : Except Fault (List Import)) :
    gather (.ok none) (.ok []) rest = rest := by
  cases rest <;> rfl

theorem recordsHoles_eq (holes : List (Term × Text)) :
    recordsHoles o names holes = recordsAll o names (holes.map (·.1)) := by
  induction holes with
  | nil => simp only [List.map_nil, recordsHoles, recordsAll]
  | cons hole holes ih => simp only [List.map_cons, recordsHoles, recordsAll, ih]

/-- What is below a term are the records of the phrases inside it. -/
theorem recordsInside_eq (t : Term) : recordsInside o names t = recordsAll o names t.inside := by
  cases t with
  | template first holes =>
    have hflat : (holes.map fun hole => [hole.1]).flatten = holes.map (·.1) := by
      rw [← List.flatMap_def, ← List.map_eq_flatMap]
    simp only [recordsInside, inside, groups, recordsHoles_eq, hflat]
  | _ => simp [recordsInside, inside, groups, recordsAll]

theorem recordsAll_cons (t : Term) (ts : List Term) :
    recordsAll o names (t :: ts)
      = gather (t.own o names) (recordsAll o names t.inside) (recordsAll o names ts) := by
  rw [recordsAll, recordsInside_eq]

theorem recordsAll_append (ss ts : List Term) :
    recordsAll o names (ss ++ ts)
      = gather (.ok none) (recordsAll o names ss) (recordsAll o names ts) := by
  induction ss with
  | nil => rw [List.nil_append, recordsAll.eq_1, gather_ok_nil]
  | cons s ss ih => rw [List.cons_append, recordsAll_cons, recordsAll_cons, ih, gather_assoc]

/-! ## The one way to fail -/

theorem target_error {path : Text} {arguments : List Term} {f : Fault}
    (h : target path arguments = .error f) : f = .argument path := by
  unfold target at h
  split at h
  · cases h
  · exact (Except.error.inj h).symm

/-- A term fails only for what its first argument is. -/
theorem own_error {t : Term} {f : Fault} (h : t.own o names = .error f) :
    f = .argument o.path := by
  have hcall {isDynamic : Bool} {arguments : List Term}
      (h : (do return some (o.record isDynamic (← target o.path arguments)))
        = (.error f : Except Fault (Option Import))) : f = .argument o.path := by
    cases htarget : target o.path arguments with
    | ok => rw [htarget] at h; cases h
    | error g =>
      rw [htarget] at h
      cases h
      exact target_error htarget
  cases t with
  | importCall arguments => exact hcall h
  | nameCall name arguments =>
    rw [own] at h
    split at h
    · exact hcall h
    · cases h
  | _ => cases h

theorem gather_error {own : Except Fault (Option Import)}
    {below rest : Except Fault (List Import)} {f : Fault} (h : gather own below rest = .error f) :
    own = .error f ∨ below = .error f ∨ rest = .error f := by
  cases own <;> cases below <;> cases rest <;>
    simp_all [gather, bind, Except.bind, pure, Except.pure]

mutual

theorem recordsInside_error (t : Term) {f : Fault} (h : recordsInside o names t = .error f) :
    f = .argument o.path := by
  cases t with
  | exportLocal inside => exact recordsAll_error inside (by simpa only [recordsInside] using h)
  | importCall arguments => exact recordsAll_error arguments (by simpa only [recordsInside] using h)
  | nameCall _ arguments => exact recordsAll_error arguments (by simpa only [recordsInside] using h)
  | template _ holes => exact recordsHoles_error holes (by simpa only [recordsInside] using h)
  | other inside => exact recordsAll_error inside (by simpa only [recordsInside] using h)
  | _ => simp [recordsInside] at h

theorem recordsAll_error (ts : List Term) {f : Fault} (h : recordsAll o names ts = .error f) :
    f = .argument o.path := by
  match ts with
  | [] => simp [recordsAll] at h
  | t :: ts =>
    rw [recordsAll] at h
    obtain h | h | h := gather_error h
    · exact own_error h
    · exact recordsInside_error t h
    · exact recordsAll_error ts h

theorem recordsHoles_error (holes : List (Term × Text)) {f : Fault}
    (h : recordsHoles o names holes = .error f) : f = .argument o.path := by
  match holes with
  | [] => simp [recordsHoles] at h
  | (t, _) :: rest =>
    rw [recordsHoles] at h
    obtain h | h | h := gather_error h
    · exact own_error h
    · exact recordsInside_error t h
    · exact recordsHoles_error rest h

end

/-- A program has records, or an argument of an import call is neither string nor template. -/
theorem extract_cases (o : Origin) (program : List Term) :
    (∃ records, extract o program = .ok records)
      ∨ extract o program = .error (.argument o.path) := by
  cases h : extract o program with
  | ok records => exact .inl ⟨records, rfl⟩
  | error f => exact .inr (by rw [recordsAll_error program h])

end Term

/-- How closely the nodes of a tree follow the terms they encode. -/
inductive Fit where
  /-- One node for each term. -/
  | exact
  /-- There may be nodes that give no record themselves and only hold others together. -/
  | loose
deriving Repr, DecidableEq

end ImportScan
