import ImportScan.Analyzer.Build
import ImportScan.Disk.Edit

/-! # The build scheduler

    Notices of change are gathered: each one starts a quiet period anew, and when a quiet
    period has passed without another notice, one build runs.

    * `Watch.notify`   : note a change.
    * `Watch.advance`  : let time pass, and build when the quiet period is over.
    * `Watch.runBuild` : build now; a build that fails is reported and otherwise ignored.
    * `Watch.receive`  : note a change unless it is irrelevant or in the output tree.
-/

namespace ImportScan

/-- A session that is kept up to date. -/
structure Watch where
  /-- The analyzer at work. -/
  session : Session
  /-- The length of the quiet period in seconds. -/
  quiet : Binary64
  /-- The directory whose changes are ignored, if there is one, resolved. -/
  ignored : Option Text := none
  /-- The time in seconds. -/
  clock : Binary64 := .zero
  /-- When the next build is due, if one is waiting. -/
  due : Option Binary64 := none
  /-- What the successful builds have done, oldest first. -/
  builds : List Stats := []
  /-- How many writes to the disk there were. -/
  writes : Nat := 0
  /-- Whether the tree was ever observed. -/
  observed : Bool := false
deriving Repr

namespace Watch

variable [Parsers]

/-- Notes a change; a build that was waiting waits anew. -/
def notify (w : Watch) : Watch := { w with due := some (w.clock.add w.quiet) }

/-- Gives up the build that is waiting. -/
def cancel (w : Watch) : Watch := { w with due := none }

/-- Reports lines. -/
def report (w : Watch) (lines : List LogLine) : Watch :=
  { w with session := { w.session with log := w.session.log ++ lines } }

/-- The line that reports a failed build. -/
def failedLine (cause : Fault) : LogLine :=
  ⟨.warning, .watcher,
    Text.concat ["[watcher] Build failed, next build starts from scratch: ", cause.message]⟩

/-- Builds now, and tells what the build has done unless it failed. -/
def runBuild (w : Watch) : Option Stats × Watch :=
  match Act.build w.session with
  | (.ok stats, session) => (some stats, { w with session, builds := w.builds ++ [stats] })
  | (.error cause, session) => (none, ({ w with session }).report [failedLine cause])

/-- Whether a build is due. -/
def isDue (w : Watch) : Bool :=
  match w.due with
  | some due => due.le w.clock
  | none => false

/-- Lets time pass, and builds when the quiet period is over. -/
def advance (w : Watch) (seconds : Binary64) : Watch :=
  let w := { w with clock := w.clock.add seconds }
  if w.isDue then (w.cancel.runBuild).2 else w

/-! ## Events -/

/-- Events that change nothing. -/
def idleEvents : List Text := ["opened", "closed", "closed_no_write"].map Text.ofString

/-- Whether a path lies in the directory whose changes are ignored. -/
def ignores (cwd : Text) (ignored : Option Text) (path : Text) : Bool :=
  match ignored with
  | none => false
  | some root =>
    let path := Path.absolute cwd path
    path == root || path.startsWith (root ++ [Path.slash])

/-- Whether an event counts as a change. -/
def isRelevant (cwd : Text) (ignored : Option Text) (event path : Text) : Bool :=
  !idleEvents.contains event && !ignores cwd ignored path

/-- Takes notice of an event. -/
def receive (w : Watch) (cwd event path : Text) : Watch :=
  if isRelevant cwd w.ignored event path then w.notify else w

/-- The watch on a session; changes of the output tree are ignored. -/
def ofSession (session : Session) (quiet : Binary64) (writes : Nat) : Watch :=
  { session, quiet, writes, ignored := session.analyzer.output }

end Watch

end ImportScan
