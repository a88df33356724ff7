import ImportScan.Watch.Scheduler

/-! # Observing a tree

    While a tree is observed, signals come in one after the other: edits of the disk, events,
    the passing of time, and interruptions.

    * `Watch.observe` : take signals until the observation ends.
    * `Watch.start`   : observe the input tree.
    * `Watch.stop`    : end the observation and give up a waiting build.
-/

namespace ImportScan

/-- What can happen while a tree is observed. -/
inductive Signal where
  /-- Someone edits the disk. -/
  | edit (e : Edit)
  /-- An event of some type at a path. -/
  | event (type path : Text)
  /-- Time passes. -/
  | pass (seconds : Binary64)
  /-- The user interrupts the observation. -/
  | interrupt
  /-- The observation is over; further signals have to wait. -/
  | stop
  /-- The observation is over, and the user interrupts the wait for its end. -/
  | interruptEnd
deriving Repr

/-- How an observation ended. -/
inductive Ending where
  /-- In good order. -/
  | finished
  /-- The user was too impatient for that. -/
  | interrupted
  /-- An edit was impossible. -/
  | failed (cause : Fault)
deriving Repr

namespace Watch

variable [Parsers]

/-- The watch after an edit. -/
def edit (w : Watch) (e : Edit) : Except Fault Watch :=
  match e.apply w.writes w.session.disk with
  | .ok disk => .ok { w with session := { w.session with disk }, writes := e.count w.writes }
  | .error cause => .error cause

/-- Takes signals until the observation ends.  Gives the signals that are left over, and the
    cause if an edit was impossible. -/
def observe (cwd : Text) (w : Watch) : List Signal → Option Fault × List Signal × Watch
  | [] => (none, [], w)
  | .stop :: rest => (none, .stop :: rest, w)
  | .interruptEnd :: rest => (none, .interruptEnd :: rest, w)
  | .interrupt :: rest => (none, rest, w)
  | .event type path :: rest => observe cwd (w.receive cwd type path) rest
  | .pass seconds :: rest => observe cwd (w.advance seconds) rest
  | .edit e :: rest =>
    match w.edit e with
    | .ok w => observe cwd w rest
    | .error cause => (some cause, rest, w)

/-- The line that reports the start. -/
def watchingLine (w : Watch) : LogLine :=
  ⟨.info, .watcher, Text.concat ["[watcher] Watching ", w.session.analyzer.input]⟩

/-- The line that reports the stop. -/
def stoppedLine : LogLine := ⟨.info, .watcher, Text.ofString "[watcher] Stopped"⟩

/-- Observes the input tree until the observation ends.  Gives the signals left over. -/
def start (cwd : Text) (w : Watch) (signals : List Signal) : Ending × List Signal × Watch :=
  let w := ({ w with observed := true }).report [w.watchingLine]
  match observe cwd w signals with
  | (some cause, rest, w) => (.failed cause, rest, w)
  | (none, .interruptEnd :: rest, w) => (.interrupted, rest, w)
  | (none, rest, w) => (.finished, rest, w)

/-- Ends the observation and gives up a waiting build. -/
def stop (w : Watch) : Watch :=
  if w.observed then w.cancel.report [stoppedLine] else w.cancel

end Watch

end ImportScan
