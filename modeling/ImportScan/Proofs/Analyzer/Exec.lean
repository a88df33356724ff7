import ImportScan.Analyzer.Build
import ImportScan.Proofs.Store.Laziness

/-! # Steps of a session, executed

    A step is executed on a session and gives its result, or the fault that stopped it,
    together with the session that it leaves.

    * `Act.exec`         : the execution of a step.
    * `Analyzer.parser`  : the parser that is set up, or would be.
    * `Session.Frame`    : what every step of a patch leaves alone.
    * `Act.Does`         : what a step does within that frame.
-/

namespace ImportScan

namespace Act

variable {α β : Type}

/-- The result of a step and the session that it leaves. -/
def exec (x : Act α) (s : Session) : Except Fault α × Session := x.run s

@[simp] theorem exec_pure (a : α) (s : Session) : exec (pure a) s = (.ok a, s) := rfl

@[simp] theorem exec_throw (e : Fault) (s : Session) :
    exec (throw e : Act α) s = (.error e, s) := rfl

@[simp] theorem exec_get (s : Session) : exec get s = (.ok s, s) := rfl

@[simp] theorem exec_modify (f : Session → Session) (s : Session) :
    exec (modify f) s = (.ok ⟨⟩, f s) := rfl

@[simp] theorem exec_report (lines : List LogLine) (s : Session) :
    exec (report lines) s = (.ok (), { s with log := s.log ++ lines }) := rfl

@[simp] theorem exec_update (f : Analyzer → Analyzer) (s : Session) :
    exec (update f) s = (.ok (), { s with analyzer := f s.analyzer }) := rfl

theorem exec_bind (x : Act α) (f : α → Act β) (s : Session) :
    exec (x >>= f) s =
      match exec x s with
      | (.ok a, s') => exec (f a) s'
      | (.error e, s') => (.error e, s') := by
  simp only [exec, bind, ExceptT.bind, ExceptT.run, ExceptT.mk, StateT.bind]
  rcases x s with ⟨r, s'⟩
  cases r <;> rfl

/-- A step goes on from where the one before it succeeded. -/
theorem exec_bind_ok {x : Act α} {s s' : Session} {a : α} (h : exec x s = (.ok a, s'))
    (f : α → Act β) : exec (x >>= f) s = exec (f a) s' := by
  rw [exec_bind, h]

theorem exec_bind_error {x : Act α} {s s' : Session} {e : Fault} (h : exec x s = (.error e, s'))
    (f : α → Act β) : exec (x >>= f) s = (.error e, s') := by
  rw [exec_bind, h]

theorem exec_tryCatch (x : Act α) (f : Fault → Act α) (s : Session) :
    exec (tryCatch x f) s =
      match exec x s with
      | (.ok a, s') => (.ok a, s')
      | (.error e, s') => exec (f e) s' := by
  simp only [exec, tryCatch, tryCatchThe, MonadExceptOf.tryCatch, ExceptT.tryCatch, ExceptT.run,
    ExceptT.mk, StateT.bind, bind]
  rcases x s with ⟨r, s'⟩
  cases r <;> rfl

theorem exec_discard (x : Act α) (s : Session) :
    exec (discard x) s = ((exec x s).1.map fun _ => (), (exec x s).2) := by
  simp only [discard, Functor.discard, Functor.mapConst, exec, Function.comp]
  -- discarding maps the result, which leaves the session alone
  show ExceptT.run (ExceptT.map _ x) s = _
  simp only [ExceptT.map, ExceptT.run, ExceptT.mk, bind, StateT.bind]
  rcases x s with ⟨r, s'⟩
  cases r <;> rfl

theorem exec_onDisk (call : Disk → Except Fault Disk) (s : Session) :
    exec (onDisk call) s =
      match call s.disk with
      | .ok d => (.ok (), { s with disk := d })
      | .error e => (.error e, s) := by
  unfold onDisk
  rw [exec_bind_ok (exec_get s)]
  cases call s.disk <;> rfl

end Act

/-! ## Parsers -/

namespace Backend

/-- The parser without the grammars loaded so far. -/
def unloaded (b : Backend) : Backend := { b with loaded := [] }

theorem unloaded_load (b : Backend) (g : Grammar) : (b.load g).1.unloaded = b.unloaded := by
  unfold load
  split <;> rfl

/-- Reading a source at most loads a grammar. -/
theorem unloaded_read [Parsers] (b : Backend) (o : Origin) (source : Text) :
    (b.read o source).2.1.unloaded = b.unloaded := by
  unfold read
  split
  · split <;> rfl
  · split
    · rfl
    · exact unloaded_load b _

/-- What is read does not depend on the grammars loaded so far. -/
theorem read_unloaded [Parsers] (b : Backend) (o : Origin) (source : Text) :
    (b.unloaded.read o source).1 = (b.read o source).1 := by
  obtain ⟨kind, options, loaded⟩ := b
  cases kind with
  | esprima =>
    simp only [read, unloaded]
    split <;> rfl
  | treeSitter =>
    simp only [read, unloaded]
    split
    · rfl
    · next bytes _ =>
      -- loading a grammar keeps the options, the only part of a parser that counts here
      have htree : ∀ b : Backend, b.unloaded = ⟨.treeSitter, options, []⟩ → ∀ root,
          b.treeImports o bytes root =
            (⟨.treeSitter, options, []⟩ : Backend).treeImports o bytes root := by
        intro b hb root
        have hoptions : b.unloaded.options = options := by rw [hb]
        simp only [treeImports, accept]
        rw [show b.options = options from hoptions]
      exact (htree _ (unloaded_load _ _) _).trans (htree _ (unloaded_load _ _) _).symm

/-- The records of a source; a source that is rejected has none. -/
def records [Parsers] (b : Backend) (o : Origin) (source : Text) : Except Fault (List Import) :=
  match (b.read o source).1 with
  | .ok imports => .ok imports
  | .error (.source _) => .ok []
  | .error e => .error e

theorem records_unloaded [Parsers] (b : Backend) (o : Origin) (source : Text) :
    b.unloaded.records o source = b.records o source := by
  unfold records
  rw [read_unloaded]

end Backend

/-- The parser that is set up, or else the one that would be, without its grammars. -/
def Analyzer.parser (a : Analyzer) : Except Fault Backend :=
  match a.backend with
  | some b => .ok b.unloaded
  | none => (Backend.setup a.package).1.map Backend.unloaded

/-- The records of a source, by the parser of the analyzer. -/
def Analyzer.records [Parsers] (a : Analyzer) (path source : Text) : Except Fault (List Import) :=
  match a.parser with
  | .error e => .error e
  | .ok b => b.records ⟨path, a.package⟩ source

/-- Analyzers that find the same records in the same sources. -/
structure Analyzer.Alike (a a' : Analyzer) : Prop where
  package : a'.package = a.package
  input : a'.input = a.input
  parser : a'.parser = a.parser

theorem Analyzer.Alike.trans {a a' a'' : Analyzer} (h : Alike a a') (h' : Alike a' a'') :
    Alike a a'' where
  package := h'.package.trans h.package
  input := h'.input.trans h.input
  parser := h'.parser.trans h.parser

theorem Analyzer.Alike.records [Parsers] {a a' : Analyzer} (h : Alike a a') (path source : Text) :
    a'.records path source = a.records path source := by
  simp only [Analyzer.records, h.parser, h.package]

/-! ## Frames -/

namespace Session

variable {s s' s'' : Session}

/-- What a patch leaves alone: where records are found, the output directory, the tree of the
    last build, and the coherence of the view. -/
structure Frame (s s' : Session) : Prop extends Analyzer.Alike s.analyzer s'.analyzer where
  output : s'.analyzer.output = s.analyzer.output
  previous : s'.analyzer.previous = s.analyzer.previous
  view : s.analyzer.view.Coherent s.analyzer.store → s'.analyzer.view.Coherent s'.analyzer.store

theorem Frame.of_analyzer (h : s'.analyzer = s.analyzer) : Frame s s' := by
  refine ⟨⟨?_, ?_, ?_⟩, ?_, ?_, ?_⟩ <;> rw [h]
  exact id

theorem Frame.refl (s : Session) : Frame s s := .of_analyzer rfl

theorem Frame.trans (h : Frame s s') (h' : Frame s' s'') : Frame s s'' where
  toAlike := h.toAlike.trans h'.toAlike
  output := h'.output.trans h.output
  previous := h'.previous.trans h.previous
  view := h'.view ∘ h.view

end Session

/-! ## What a step does -/

namespace Act

variable {α β : Type} {s : Session}

/-- Executed on a session, a step has a result and leaves a store and a disk; the frame it
    leaves alone. -/
structure Does (x : Act α) (s : Session) (o : Except Fault α × Store × Disk) : Prop where
  frame : Session.Frame s (exec x s).2
  outcome : ((exec x s).1, (exec x s).2.analyzer.store, (exec x s).2.disk) = o

/-- The session in which a step ends. -/
theorem Does.exists_exec {x : Act α} {r : Except Fault α} {store : Store} {d : Disk}
    (h : Does x s (r, store, d)) :
    ∃ s', exec x s = (r, s') ∧ Session.Frame s s' ∧ s'.analyzer.store = store ∧
      s'.disk = d := by
  obtain ⟨hframe, houtcome⟩ := h
  cases houtcome
  exact ⟨_, rfl, hframe, rfl, rfl⟩

/-- A step that is known to end in a session with the same frame. -/
theorem Does.of_exec {x : Act α} {r : Except Fault α} {s' : Session} {store : Store} {d : Disk}
    (h : exec x s = (r, s')) (hframe : Session.Frame s s') (hstore : s'.analyzer.store = store)
    (hdisk : s'.disk = d) : Does x s (r, store, d) := by
  constructor
  · rw [h]
    exact hframe
  · rw [h, ← hstore, ← hdisk]

theorem does_pure (a : α) (s : Session) : Does (pure a) s (.ok a, s.analyzer.store, s.disk) :=
  .of_exec rfl (.refl s) rfl rfl

theorem does_report (lines : List LogLine) (s : Session) :
    Does (report lines) s (.ok (), s.analyzer.store, s.disk) :=
  .of_exec (exec_report lines s) (.of_analyzer rfl) rfl rfl

theorem does_update {f : Analyzer → Analyzer}
    (hframe : Session.Frame s { s with analyzer := f s.analyzer }) :
    Does (update f) s (.ok (), (f s.analyzer).store, s.disk) :=
  .of_exec (exec_update f s) hframe rfl rfl

/-- What a call on the disk comes to, next to a store: if it is refused, the disk stays. -/
def called (store : Store) (d : Disk) : Except Fault Disk → Except Fault Unit × Store × Disk
  | .ok d' => (.ok (), store, d')
  | .error e => (.error e, store, d)

theorem does_onDisk (call : Disk → Except Fault Disk) (s : Session) :
    Does (onDisk call) s (called s.analyzer.store s.disk (call s.disk)) := by
  have heq := exec_onDisk call s
  cases h : call s.disk with
  | ok d =>
    rw [h] at heq
    exact .of_exec heq (.of_analyzer rfl) rfl rfl
  | error e =>
    rw [h] at heq
    exact .of_exec heq (.refl s) rfl rfl

theorem Does.get_bind {f : Session → Act α} {o : Except Fault α × Store × Disk}
    (h : Does (f s) s o) : Does (get >>= f) s o := by
  have heq := exec_bind_ok (exec_get s) f
  exact ⟨heq ▸ h.frame, heq ▸ h.outcome⟩

/-- A step goes on from the session in which the one before it ended. -/
theorem Does.bind_exec {x : Act α} {f : α → Act β} {a : α} {s' : Session}
    {o : Except Fault β × Store × Disk} (hx : exec x s = (.ok a, s'))
    (hframe : Session.Frame s s') (hf : Does (f a) s' o) : Does (x >>= f) s o := by
  have heq := exec_bind_ok hx f
  exact ⟨heq ▸ hframe.trans hf.frame, heq ▸ hf.outcome⟩

/-- A step goes on from what the one before it left.  What it results in may depend on more
    of the session than the store and the disk. -/
theorem Does.bind_exists {x : Act α} {f : α → Act β} {a : α} {store : Store} {d : Disk}
    {P : Except Fault β × Store × Disk → Prop} (hx : Does x s (.ok a, store, d))
    (hf : ∀ s', Session.Frame s s' → s'.analyzer.store = store → s'.disk = d →
      ∃ o, Does (f a) s' o ∧ P o) :
    ∃ o, Does (x >>= f) s o ∧ P o := by
  obtain ⟨s', hexec, hframe, hstore, hdisk⟩ := hx.exists_exec
  obtain ⟨o, hnext, ho⟩ := hf s' hframe hstore hdisk
  exact ⟨o, hnext.bind_exec hexec hframe, ho⟩

/-- A step goes on from what the one before it left. -/
theorem Does.bind {x : Act α} {f : α → Act β} {a : α} {store : Store} {d : Disk}
    {o : Except Fault β × Store × Disk} (hx : Does x s (.ok a, store, d))
    (hf : ∀ s', Session.Frame s s' → s'.analyzer.store = store → s'.disk = d → Does (f a) s' o) :
    Does (x >>= f) s o := by
  obtain ⟨_, h, rfl⟩ := hx.bind_exists (P := (· = o))
    fun s' hframe hstore hdisk => ⟨o, hf s' hframe hstore hdisk, rfl⟩
  exact h

/-- A call on the store that answers stays within the frame. -/
theorem does_setStore {answer : Bool} {store : Store}
    (hm : Store.Moves answer s.analyzer.store store) :
    Does (do update fun a => { a with store }; return answer) s (.ok answer, store, s.disk) := by
  have hupdate : Does (update fun a => { a with store }) s (.ok (), store, s.disk) :=
    does_update ⟨⟨rfl, rfl, rfl⟩, rfl, rfl, fun hv => hv.moves hm⟩
  refine hupdate.bind fun s₁ _ hstore hdisk => ?_
  rw [← hstore, ← hdisk]
  exact does_pure answer s₁

/-- A fault stops the steps that follow. -/
theorem Does.bind_error {x : Act α} {e : Fault} {store : Store} {d : Disk}
    (hx : Does x s (.error e, store, d)) (f : α → Act β) :
    Does (x >>= f) s (.error e, store, d) := by
  obtain ⟨s', hexec, hframe, hstore, hdisk⟩ := hx.exists_exec
  exact .of_exec (exec_bind_error hexec f) hframe hstore hdisk

theorem Does.discard {x : Act α} {r : Except Fault α} {store : Store} {d : Disk}
    (hx : Does x s (r, store, d)) : Does (discard x) s (r.map fun _ => (), store, d) := by
  obtain ⟨s', hexec, hframe, hstore, hdisk⟩ := hx.exists_exec
  have heq := exec_discard x s
  rw [hexec] at heq
  exact .of_exec heq hframe hstore hdisk

end Act

end ImportScan
