import ImportScan.Proofs.Watch.NoLostUpdate

/-! # The debounce schedule

    Notices, cancellations, builds at once and the passing of time come in any order.  Every
    notice starts a timer; a timer that is cancelled in time never rings, and every other one
    rings once, when the clock has reached its deadline.  The timers are followed through
    every list of calls, beside the watch, which remembers a single deadline.

    * `Watch.run`         : the watch after a list of calls.
    * `Timers.after`      : the timers after a list of calls, with what became of them.
    * `rung`              : the deadlines of the notices that were left alone, in order.
    * `Timers.Serves`     : the invariant that ties the timers to the deadline of the watch.
    * `debounce_schedule` : which timers ring, which one is armed, and what is built.
-/

namespace ImportScan

theorem Binary64.le_trans {x y z : Binary64} (hxy : x ≤ y) (hyz : y ≤ z) : x ≤ z := by
  change Binary64.le x y = true at hxy
  change Binary64.le y z = true at hyz
  show Binary64.le x z = true
  unfold Binary64.le at *
  split at hxy <;> split at hyz <;> simp_all
  -- finite numbers are compared as multiples of one quantum
  omega

namespace Watch

/-! ## Calls -/

/-- A call of the scheduler, or the passing of time. -/
inductive Call where
  /-- A change is noted. -/
  | notify
  /-- The build that is waiting is given up. -/
  | cancel
  /-- A build is made at once. -/
  | build
  /-- Time passes. -/
  | pass (seconds : Binary64)
deriving DecidableEq

namespace Call

/-- The time after a call that comes at a time. -/
def clock (t : Binary64) : Call → Binary64
  | pass seconds => t.add seconds
  | _ => t

/-- Whether a call takes a waiting build away. -/
def disturbs : Call → Bool
  | notify => true
  | cancel => true
  | _ => false

end Call

/-- The watch after a call. -/
def call [Parsers] (w : Watch) : Call → Watch
  | .notify => w.notify
  | .cancel => w.cancel
  | .build => w.runBuild.2
  | .pass seconds => w.advance seconds

/-- The watch after a list of calls. -/
def run [Parsers] (w : Watch) (calls : List Call) : Watch := calls.foldl call w

/-- The watch after some builds in a row. -/
def rebuild [Parsers] (w : Watch) (n : Nat) : Watch := (fun v => v.runBuild.2)^[n] w

/-! ## Timers -/

/-- What has become of a timer. -/
inductive Fate where
  | armed
  | cancelled
  | fired
deriving DecidableEq

/-- A timer that was started. -/
structure Timer where
  deadline : Binary64
  fate : Fate

namespace Timer

/-- Cancels a timer, which is too late once it has fired. -/
def cancel (timer : Timer) : Timer :=
  if timer.fate = .armed then { timer with fate := .cancelled } else timer

/-- Lets the clock reach a time, and the timer fire if that is its deadline or past it. -/
def reach (now : Binary64) (timer : Timer) : Timer :=
  if timer.fate = .armed ∧ timer.deadline ≤ now then { timer with fate := .fired } else timer

end Timer

/-- All timers that were ever started. -/
structure Timers where
  /-- The timers, the latest first. -/
  started : List Timer := []
  /-- Whether the scheduler refers to the latest one; it does so also after that has fired. -/
  held : Bool := false

namespace Timers

/-- The timers once the one that the scheduler refers to is cancelled. -/
def dropped (ts : Timers) : List Timer :=
  match ts.held, ts.started with
  | true, timer :: older => timer.cancel :: older
  | _, started => started

/-- The timers after a call on a watch. -/
def call (ts : Timers) (w : Watch) : Call → Timers
  | .notify => ⟨⟨w.clock.add w.quiet, .armed⟩ :: ts.dropped, true⟩
  | .cancel => ⟨ts.dropped, false⟩
  | .build => ts
  | .pass seconds => { ts with started := ts.started.map (Timer.reach (w.clock.add seconds)) }

/-- The timers after a list of calls on a watch. -/
def after [Parsers] (ts : Timers) (w : Watch) : List Call → Timers
  | [] => ts
  | c :: rest => (ts.call w c).after (w.call c) rest

/-- The deadlines of the timers with a given fate, in the order in which they were started. -/
def deadlines (ts : Timers) (fate : Fate) : List Binary64 :=
  ((ts.started.filter fun timer => timer.fate = fate).map (·.deadline)).reverse

end Timers

/-! ## Notices that are left alone -/

/-- Whether a timer that was started at a time rings in the course of calls: the clock reaches
    the deadline `x`, and before that nothing takes the timer away. -/
def rings (x t : Binary64) : List Call → Bool
  | .build :: rest => rings x t rest
  | .pass seconds :: rest => x.le (t.add seconds) || rings x (t.add seconds) rest
  | _ => false

/-- The deadlines of the notices among calls whose timers ring, in order. -/
def rung (quiet t : Binary64) : List Call → List Binary64
  | [] => []
  | .notify :: rest =>
    if rings (t.add quiet) t rest then t.add quiet :: rung quiet t rest else rung quiet t rest
  | c :: rest => rung quiet (c.clock t) rest

/-- The calls, each with the time at which it comes. -/
def timed (t : Binary64) : List Call → List (Binary64 × Call)
  | [] => []
  | c :: rest => (t, c) :: timed (c.clock t) rest

/-- The clock is never put back. -/
def Forward (t : Binary64) (calls : List Call) : Prop :=
  ∀ p ∈ timed t calls, p.2.clock p.1 = p.1 ∨ p.1 ≤ p.2.clock p.1

instance (t : Binary64) (calls : List Call) : Decidable (Forward t calls) :=
  inferInstanceAs (Decidable (∀ p ∈ timed t calls, _))

variable {w : Watch} {ts : Timers} {x t : Binary64} {seconds : Binary64}

/-! ## What a call does to a watch -/

theorem fires_iff : w.fires seconds = true ↔ ∃ x, w.due = some x ∧ x ≤ w.clock.add seconds := by
  unfold fires isDue
  dsimp only
  cases w.due with
  | none => simp
  | some due => simp [LE.le]

/-- A build leaves the schedule as it is, and is the same under any schedule. -/
theorem runBuild_schedule [Parsers] (w : Watch) (clock : Binary64) (due : Option Binary64) :
    ({ w with clock, due } : Watch).runBuild.2 = { w.runBuild.2 with clock, due } := by
  unfold runBuild
  dsimp only
  rcases Act.build w.session with ⟨e | stats, s'⟩
  · rfl
  · rfl

@[simp] theorem runBuild_due [Parsers] (w : Watch) : w.runBuild.2.due = w.due := by
  obtain ⟨log, builds, hbuilt⟩ := runBuild_eq w
  rw [hbuilt]

@[simp] theorem runBuild_clock [Parsers] (w : Watch) : w.runBuild.2.clock = w.clock := by
  obtain ⟨log, builds, hbuilt⟩ := runBuild_eq w
  rw [hbuilt]

@[simp] theorem runBuild_quiet [Parsers] (w : Watch) : w.runBuild.2.quiet = w.quiet := by
  obtain ⟨log, builds, hbuilt⟩ := runBuild_eq w
  rw [hbuilt]

/-- When time passes, the clock moves on, and the build that is due by then is made. -/
theorem advance_eq [Parsers] (w : Watch) (seconds : Binary64) :
    w.advance seconds =
      if w.fires seconds then
        { w.runBuild.2 with clock := w.clock.add seconds, due := none }
      else { w with clock := w.clock.add seconds } := by
  unfold advance
  show (if w.fires seconds then _ else _) = _
  by_cases hfires : w.fires seconds = true
  · rw [if_pos hfires, if_pos hfires]
    exact runBuild_schedule w _ none
  · rw [if_neg hfires, if_neg hfires]

@[simp] theorem call_clock [Parsers] (w : Watch) (c : Call) : (w.call c).clock = c.clock w.clock := by
  cases c with
  | notify => rfl
  | cancel => rfl
  | build => exact runBuild_clock w
  | pass seconds =>
    show (w.advance seconds).clock = _
    rw [advance_eq]
    split <;> rfl

@[simp] theorem call_quiet [Parsers] (w : Watch) (c : Call) : (w.call c).quiet = w.quiet := by
  cases c with
  | notify => rfl
  | cancel => rfl
  | build => exact runBuild_quiet w
  | pass seconds =>
    show (w.advance seconds).quiet = _
    rw [advance_eq]
    split
    · exact runBuild_quiet w
    · rfl

/-- The deadline after time has passed. -/
theorem call_pass_due [Parsers] (w : Watch) (seconds : Binary64) :
    (w.call (.pass seconds)).due = if w.fires seconds then none else w.due := by
  show (w.advance seconds).due = _
  rw [advance_eq]
  split <;> rfl

/-! ## Forecasts -/

/-- The deadline of the timer that a call lets ring, if there is one. -/
def ringing (w : Watch) : Call → List Binary64
  | .pass seconds => if w.fires seconds then w.due.toList else []
  | _ => []

/-- The deadlines of the timers that ring in the course of calls: first the one that is armed
    already, then those of the notices among the calls. -/
def forecast (w : Watch) (calls : List Call) : List Binary64 :=
  (w.due.toList.filter fun x => rings x w.clock calls) ++ rung w.quiet w.clock calls

/-- A forecast comes true call by call. -/
theorem forecast_cons [Parsers] (w : Watch) (c : Call) (rest : List Call) :
    w.forecast (c :: rest) = w.ringing c ++ (w.call c).forecast rest := by
  unfold forecast
  rw [call_clock, call_quiet]
  cases c with
  | notify =>
    -- the timer that was armed is lost, and the one of the notice takes its place
    show (w.due.toList.filter fun _ => false) ++ rung w.quiet w.clock (.notify :: rest) =
      [] ++ (([w.clock.add w.quiet].filter fun x => rings x w.clock rest) ++ _)
    by_cases hrings : rings (w.clock.add w.quiet) w.clock rest = true
    · simp [rung, hrings, Call.clock]
    · simp [rung, hrings, Call.clock]
  | cancel =>
    show (w.due.toList.filter fun _ => false) ++ rung w.quiet w.clock rest = [] ++ ([] ++ _)
    simp [Call.clock]
  | build =>
    show _ = [] ++ ((w.runBuild.2.due.toList.filter fun x => rings x w.clock rest) ++ _)
    rw [runBuild_due]
    rfl
  | pass seconds =>
    -- an armed timer rings now, or everything depends on the later calls as before
    rw [call_pass_due]
    show (w.due.toList.filter fun x =>
        x.le (w.clock.add seconds) || rings x (w.clock.add seconds) rest) ++ _ =
      (if w.fires seconds then w.due.toList else []) ++ (_ ++ _)
    by_cases hfires : w.fires seconds = true
    · obtain ⟨x, hdue, hreached⟩ := fires_iff.mp hfires
      have hle : x.le (w.clock.add seconds) = true := hreached
      simp [hfires, hdue, hle, rung, Call.clock]
    · have hfilter : (w.due.toList.filter fun x =>
          x.le (w.clock.add seconds) || rings x (w.clock.add seconds) rest) =
          w.due.toList.filter fun x => rings x (w.clock.add seconds) rest := by
        refine List.filter_congr fun x hx => ?_
        have hnot : ¬ x ≤ w.clock.add seconds := fun hle =>
          hfires (fires_iff.mpr ⟨x, Option.mem_toList.mp hx, hle⟩)
        rw [Bool.eq_false_iff.mpr hnot, Bool.false_or]
      rw [hfilter, if_neg hfires, if_neg hfires]
      rfl

/-! ## Builds -/

theorem rebuild_rebuild [Parsers] (w : Watch) (m n : Nat) :
    (w.rebuild m).rebuild n = w.rebuild (n + m) :=
  (Function.iterate_add_apply (fun v : Watch => v.runBuild.2) n m w).symm

theorem rebuild_schedule [Parsers] (w : Watch) (clock : Binary64) (due : Option Binary64)
    (n : Nat) : ({ w with clock, due } : Watch).rebuild n = { w.rebuild n with clock, due } := by
  unfold rebuild
  induction n generalizing w with
  | zero => rfl
  | succ n ih =>
    rw [Function.iterate_succ_apply, Function.iterate_succ_apply, runBuild_schedule]
    exact ih w.runBuild.2

/-- A call makes one build when a timer rings, and one when it is a build. -/
theorem call_eq [Parsers] (w : Watch) (c : Call) :
    w.call c = { w.rebuild ((w.ringing c).length + [c].count .build) with
      clock := (w.call c).clock, due := (w.call c).due } := by
  cases c with
  | notify => rfl
  | cancel => rfl
  | build => rfl
  | pass seconds =>
    show w.advance seconds = _
    rw [call_clock, call_pass_due, advance_eq]
    by_cases hfires : w.fires seconds = true
    · obtain ⟨x, hdue, -⟩ := fires_iff.mp hfires
      simp [ringing, hfires, hdue, rebuild, Call.clock]
    · simp [ringing, hfires, rebuild, Call.clock]

theorem rebuild_call [Parsers] (w : Watch) (c : Call) (n : Nat) :
    (w.call c).rebuild n = { w.rebuild (n + ((w.ringing c).length + [c].count .build)) with
      clock := (w.call c).clock, due := (w.call c).due } := by
  conv_lhs => rw [call_eq w c, rebuild_schedule, rebuild_rebuild]

/-- Besides the schedule, calls change a watch by as many builds as timers ring and builds are
    among them. -/
theorem run_eq [Parsers] (w : Watch) (calls : List Call) :
    w.run calls = { w.rebuild ((w.forecast calls).length + calls.count .build) with
      clock := (w.run calls).clock, due := (w.run calls).due } := by
  induction calls generalizing w with
  | nil =>
    have hnone : (w.forecast []).length = 0 := by simp [forecast, rings, rung]
    rw [hnone]
    rfl
  | cons c rest ih =>
    have hcount : (c :: rest).count .build = [c].count .build + rest.count .build := by
      rw [← List.count_append]
      rfl
    have hsplit : (w.forecast (c :: rest)).length + (c :: rest).count .build =
        (((w.call c).forecast rest).length + rest.count .build) +
          ((w.ringing c).length + [c].count .build) := by
      rw [forecast_cons, List.length_append, hcount]
      omega
    have hrest := ih (w.call c)
    rw [rebuild_call, ← hsplit] at hrest
    exact hrest

/-! ## The timers beside the watch -/

namespace Timers

/-- How timers stand to the deadline of a watch: no timer is armed but the latest one, which
    is then the one that the scheduler refers to. -/
inductive Serves : Timers → Option Binary64 → Prop where
  | idle {ts : Timers} : (∀ timer ∈ ts.started, timer.fate ≠ .armed) → Serves ts none
  | waiting {older : List Timer} {x : Binary64} : (∀ timer ∈ older, timer.fate ≠ .armed) →
      Serves ⟨⟨x, .armed⟩ :: older, true⟩ (some x)

theorem filter_armed {timers : List Timer} (h : ∀ timer ∈ timers, timer.fate ≠ .armed) :
    (timers.filter fun timer => timer.fate = .armed) = [] :=
  List.filter_eq_nil_iff.mpr fun timer htimer => by simpa using h timer htimer

/-- At most one timer is armed, and it is due when the watch says. -/
theorem Serves.armed {due : Option Binary64} (h : ts.Serves due) :
    ts.deadlines .armed = due.toList := by
  cases h with
  | idle hnone => simp [deadlines, filter_armed hnone]
  | waiting holder => simp [deadlines, filter_armed holder]

theorem cancel_not_armed (timer : Timer) : timer.cancel.fate ≠ .armed := by
  unfold Timer.cancel
  by_cases harmed : timer.fate = .armed
  · simp [harmed]
  · simp [harmed]

/-- Once the scheduler has cancelled the timer that it refers to, none is armed. -/
theorem Serves.dropped {due : Option Binary64} (h : ts.Serves due) :
    ∀ timer ∈ ts.dropped, timer.fate ≠ .armed := by
  cases h with
  | idle hnone =>
    -- the scheduler may still refer to a timer that has fired, and cancels it to no effect
    unfold Timers.dropped
    split
    · next latest older _ hlatest =>
      rw [hlatest] at hnone
      have holder := (List.forall_mem_cons.mp hnone).2
      exact List.forall_mem_cons.mpr ⟨cancel_not_armed latest, holder⟩
    · exact hnone
  | waiting holder => exact List.forall_mem_cons.mpr ⟨cancel_not_armed _, holder⟩

/-- A timer that has fired cannot be cancelled any more. -/
theorem fired_dropped (ts : Timers) (held : Bool) :
    (⟨ts.dropped, held⟩ : Timers).deadlines .fired = ts.deadlines .fired := by
  unfold Timers.dropped deadlines
  split
  · next latest older _ hlatest =>
    rw [hlatest]
    cases hfate : latest.fate <;> simp [Timer.cancel, hfate]
  · rfl

/-- Only an armed timer takes notice of the clock. -/
theorem map_reach {timers : List Timer} (h : ∀ timer ∈ timers, timer.fate ≠ .armed)
    (now : Binary64) : timers.map (Timer.reach now) = timers := by
  have hreach : ∀ timer ∈ timers, timer.reach now = timer := by
    intro timer htimer
    exact if_neg fun hboth => h timer htimer hboth.1
  rw [List.map_congr_left hreach, List.map_id']

theorem reach_armed (now x : Binary64) :
    Timer.reach now ⟨x, .armed⟩ = if x ≤ now then ⟨x, .fired⟩ else ⟨x, .armed⟩ := by
  by_cases hreached : x ≤ now
  · rw [if_pos hreached]
    exact if_pos ⟨rfl, hreached⟩
  · rw [if_neg hreached]
    exact if_neg fun hboth => hreached hboth.2

/-- The passing of time: the armed timer fires exactly when the watch builds. -/
theorem Serves.pass (h : ts.Serves w.due) (seconds : Binary64) :
    (ts.call w (.pass seconds)).Serves (if w.fires seconds then none else w.due) ∧
      (ts.call w (.pass seconds)).deadlines .fired =
        ts.deadlines .fired ++ if w.fires seconds then w.due.toList else [] := by
  unfold Timers.call
  generalize hdue : w.due = due at h
  cases h with
  | idle hnone =>
    have hquiet : ¬ w.fires seconds = true := by
      intro hfires
      obtain ⟨x, hx, -⟩ := fires_iff.mp hfires
      rw [hdue] at hx
      cases hx
    simp only [map_reach hnone, if_neg hquiet, List.append_nil]
    exact ⟨.idle hnone, trivial⟩
  | @waiting older x holder =>
    have hfires : w.fires seconds = true ↔ x ≤ w.clock.add seconds := by
      rw [fires_iff, hdue]
      simp
    simp only [List.map_cons, map_reach holder, reach_armed]
    by_cases hreached : x ≤ w.clock.add seconds
    · rw [if_pos hreached, if_pos (hfires.mpr hreached), if_pos (hfires.mpr hreached)]
      refine ⟨.idle (List.forall_mem_cons.mpr ⟨by simp, holder⟩), ?_⟩
      simp [deadlines]
    · have hquiet : ¬ w.fires seconds = true := fun hrung => hreached (hfires.mp hrung)
      rw [if_neg hreached, if_neg hquiet, if_neg hquiet, List.append_nil]
      exact ⟨.waiting holder, rfl⟩

/-- A call on the watch and the timers: they stay in step, and the timers that fire are the
    ones that the watch builds for. -/
theorem Serves.call [Parsers] (h : ts.Serves w.due) (c : Call) :
    (ts.call w c).Serves (w.call c).due ∧
      (ts.call w c).deadlines .fired = ts.deadlines .fired ++ w.ringing c := by
  cases c with
  | notify =>
    refine ⟨.waiting h.dropped, ?_⟩
    show (⟨⟨w.clock.add w.quiet, .armed⟩ :: ts.dropped, true⟩ : Timers).deadlines .fired = _ ++ []
    rw [List.append_nil, ← fired_dropped ts true]
    simp [deadlines]
  | cancel =>
    refine ⟨.idle h.dropped, ?_⟩
    show (⟨ts.dropped, false⟩ : Timers).deadlines .fired = _ ++ []
    rw [List.append_nil]
    exact fired_dropped ts false
  | build =>
    refine ⟨?_, (List.append_nil _).symm⟩
    show ts.Serves w.runBuild.2.due
    rw [runBuild_due]
    exact h
  | pass seconds =>
    rw [call_pass_due]
    exact h.pass seconds

/-- Along a list of calls the timers and the watch stay in step, and what was forecast has
    fired. -/
theorem Serves.after [Parsers] (h : ts.Serves w.due) (calls : List Call) :
    (ts.after w calls).Serves (w.run calls).due ∧
      (ts.after w calls).deadlines .fired = ts.deadlines .fired ++ w.forecast calls := by
  -- from the front, for the deadline of the watch decides what the next call does
  induction calls generalizing ts w with
  | nil =>
    have hnone : w.forecast [] = [] := by simp [forecast, rings, rung]
    rw [hnone, List.append_nil]
    exact ⟨h, rfl⟩
  | cons c rest ih =>
    obtain ⟨hserves, hfired⟩ := h.call c
    obtain ⟨hserves', hfired'⟩ := ih hserves
    refine ⟨hserves', ?_⟩
    rw [forecast_cons, ← List.append_assoc, ← hfired]
    exact hfired'

end Timers

/-! ## Deadlines -/

theorem run_append [Parsers] (w : Watch) (calls later : List Call) :
    w.run (calls ++ later) = (w.run calls).run later :=
  List.foldl_append

@[simp] theorem run_quiet [Parsers] (w : Watch) (calls : List Call) : (w.run calls).quiet = w.quiet := by
  induction calls generalizing w with
  | nil => rfl
  | cons c rest ih => exact (ih (w.call c)).trans (call_quiet w c)

theorem run_clock [Parsers] (w : Watch) (calls : List Call) :
    (w.run calls).clock = calls.foldl Call.clock w.clock := by
  induction calls generalizing w with
  | nil => rfl
  | cons c rest ih =>
    have hrest := ih (w.call c)
    rw [call_clock] at hrest
    exact hrest

/-- The deadline of a watch is that of the latest notice, and no cancellation has come since. -/
theorem due_run [Parsers] (hidle : w.due = none) {calls : List Call}
    (hdue : (w.run calls).due = some x) :
    ∃ earlier later, calls = earlier ++ .notify :: later ∧ (∀ c ∈ later, c.disturbs = false) ∧
      x = (w.run earlier).clock.add w.quiet := by
  induction calls using List.reverseRecOn with
  | nil =>
    rw [show w.run [] = w from rfl, hidle] at hdue
    cases hdue
  | append_singleton calls c ih =>
    have hlast : w.run (calls ++ [c]) = (w.run calls).call c := run_append w calls [c]
    rw [hlast] at hdue
    -- a call that leaves the deadline alone comes after the latest notice
    have hextend : (w.run calls).due = some x → c.disturbs = false →
        ∃ earlier later, calls ++ [c] = earlier ++ .notify :: later ∧
          (∀ c ∈ later, c.disturbs = false) ∧ x = (w.run earlier).clock.add w.quiet := by
      intro hkept hc
      obtain ⟨earlier, later, rfl, hlater, hx⟩ := ih hkept
      refine ⟨earlier, later ++ [c], by simp, ?_, hx⟩
      intro c' hmem
      obtain hmem | hmem := List.mem_append.mp hmem
      · exact hlater c' hmem
      · rw [List.mem_singleton.mp hmem]
        exact hc
    cases c with
    | notify =>
      refine ⟨calls, [], rfl, by simp, ?_⟩
      have hnew : some ((w.run calls).clock.add (w.run calls).quiet) = some x := hdue
      rw [run_quiet] at hnew
      exact (Option.some.inj hnew).symm
    | cancel => cases hdue
    | build =>
      have hkept : (w.run calls).runBuild.2.due = some x := hdue
      rw [runBuild_due] at hkept
      exact hextend hkept rfl
    | pass seconds =>
      rw [call_pass_due] at hdue
      split at hdue
      · cases hdue
      · exact hextend hdue rfl

/-! ## Times -/

theorem Forward.tail {c : Call} {rest : List Call} (h : Forward t (c :: rest)) :
    Forward (c.clock t) rest :=
  fun p hp => h p (.tail _ hp)

/-- Once the clock has reached a time, it has for good. -/
theorem Forward.reached {calls : List Call} (h : Forward t calls) (hx : x ≤ t) :
    (∀ p ∈ timed t calls, x ≤ p.1) ∧ x ≤ calls.foldl Call.clock t := by
  induction calls generalizing t with
  | nil => exact ⟨by simp [timed], hx⟩
  | cons c rest ih =>
    have hnext : x ≤ c.clock t := by
      obtain hstays | hmoves := h (t, c) (.head _)
      · rw [hstays]
        exact hx
      · exact Binary64.le_trans hx hmoves
    obtain ⟨hrest, hend⟩ := ih h.tail hnext
    refine ⟨?_, hend⟩
    intro p hp
    obtain rfl | hp := List.mem_cons.mp hp
    · exact hx
    · exact hrest p hp

/-- Told by the times alone: a timer rings if no notice and no cancellation comes before its
    deadline, and the clock reaches it. -/
theorem rings_iff {calls : List Call} (h : Forward t calls) (hx : ¬ x ≤ t) :
    rings x t calls = true ↔
      (∀ p ∈ timed t calls, p.2.disturbs = true → x ≤ p.1) ∧ x ≤ calls.foldl Call.clock t := by
  induction calls generalizing t with
  | nil => simp [rings, hx]
  | cons c rest ih =>
    have hdisturbed : c.disturbs = true →
        ¬ ((∀ p ∈ timed t (c :: rest), p.2.disturbs = true → x ≤ p.1) ∧
          x ≤ (c :: rest).foldl Call.clock t) :=
      fun hc hall => hx (hall.1 (t, c) (.head _) hc)
    have hstep : c.disturbs = false →
        ((∀ p ∈ timed t (c :: rest), p.2.disturbs = true → x ≤ p.1) ↔
          ∀ p ∈ timed (c.clock t) rest, p.2.disturbs = true → x ≤ p.1) := by
      intro hc
      simp [timed, hc]
    cases c with
    | notify => simpa [rings] using hdisturbed rfl
    | cancel => simpa [rings] using hdisturbed rfl
    | build =>
      rw [hstep rfl]
      exact ih h.tail hx
    | pass seconds =>
      rw [hstep rfl]
      show (x.le (t.add seconds) || rings x (t.add seconds) rest) = true ↔ _
      by_cases hreached : x ≤ t.add seconds
      · have hle : x.le (t.add seconds) = true := hreached
        obtain ⟨hrest, hend⟩ := h.tail.reached hreached
        rw [hle, Bool.true_or]
        exact ⟨fun _ => ⟨fun p hp _ => hrest p hp, hend⟩, fun _ => rfl⟩
      · rw [Bool.eq_false_iff.mpr hreached, Bool.false_or]
        exact ih h.tail hreached

/-! ## The schedule -/

/-- What timers do in the course of any calls on a watch for which no build waits.  The
    timers that fire are, in order, those of the notices that are left alone until the clock
    reaches their deadline, the quiet period after the notice, and no others.  At the end, and
    so after every call, at most one timer is armed: the one of the latest notice, if no
    cancellation has come since.  A build at once leaves the timers alone.  And besides the
    schedule the watch has changed by exactly one build for every timer that has fired and
    one for every build at once.

    Where the clock is never put back, and the quiet period is not lost in rounding, the
    times alone tell which notices are left alone: no notice and no cancellation comes at a
    time before the deadline, and the clock gets there. -/
theorem debounce_schedule [Parsers] (hidle : w.due = none) (calls : List Call) :
    let timers := Timers.after {} w calls
    let fired := timers.deadlines .fired
    fired = rung w.quiet w.clock calls ∧
    timers.deadlines .armed = (w.run calls).due.toList ∧
    (∀ x, (w.run calls).due = some x → ∃ earlier later, calls = earlier ++ .notify :: later ∧
      (∀ c ∈ later, c.disturbs = false) ∧ x = (w.run earlier).clock.add w.quiet) ∧
    (w.run (calls ++ [.build])).due = (w.run calls).due ∧
    w.run calls = { w.rebuild (fired.length + calls.count .build) with
      clock := (w.run calls).clock, due := (w.run calls).due } ∧
    ∀ earlier later, calls = earlier ++ .notify :: later →
      let t := (w.run earlier).clock
      let x := t.add w.quiet
      Forward t later → ¬ x ≤ t →
      (rings x t later = true ↔
        (∀ p ∈ timed t later, p.2.disturbs = true → x ≤ p.1) ∧ x ≤ (w.run calls).clock) := by
  intro timers fired
  have hstart : Timers.Serves {} w.due := by
    rw [hidle]
    exact .idle (by simp)
  obtain ⟨hserves, hfired⟩ := hstart.after calls
  have hforecast : w.forecast calls = rung w.quiet w.clock calls := by simp [forecast, hidle]
  have hrung : fired = rung w.quiet w.clock calls := by
    rw [← hforecast]
    exact hfired
  refine ⟨hrung, hserves.armed, fun x hdue => due_run hidle hdue, ?_, ?_, ?_⟩
  · rw [run_append]
    exact runBuild_due (w.run calls)
  · rw [hrung, ← hforecast]
    exact run_eq w calls
  · rintro earlier later rfl t x hforward hx
    have hend : (w.run (earlier ++ .notify :: later)).clock = later.foldl Call.clock t := by
      rw [run_append]
      exact run_clock (w.run earlier).notify later
    rw [hend]
    exact rings_iff hforward hx

/-- A watch with a quiet period of half a second, and two bursts of notices, of which the
    second one is given up in between. -/
def bursts : Watch × List Call :=
  let quarter := Binary64.ofRatio false 1 4
  (ofSession ⟨Act.noted.1, ⟨[(["r"], .directory)]⟩, [], []⟩ (Binary64.ofRatio false 1 2) 0,
   [.notify, .pass quarter, .notify, .build, .pass quarter, .pass quarter,
     .notify, .cancel, .notify, .build, .pass quarter])

theorem debounce_schedule_bursts :
    let timers := Timers.after {} bursts.1 bursts.2
    timers.deadlines .fired = [Binary64.ofRatio false 3 4] ∧
    timers.deadlines .armed = [Binary64.ofRatio false 5 4] ∧
    ∀ p ∈ timed (Binary64.ofRatio false 1 4) (bursts.2.drop 3),
      p.2.disturbs = true → Binary64.ofRatio false 3 4 ≤ p.1 := by
  have hidle : bursts.1.due = none := rfl
  obtain ⟨hfired, harmed, -, -, -, htimes⟩ := debounce_schedule hidle bursts.2
  have hrung : rung bursts.1.quiet bursts.1.clock bursts.2 = [Binary64.ofRatio false 3 4] := by
    decide +kernel
  have hdue : (bursts.1.run bursts.2).due.toList = [Binary64.ofRatio false 5 4] := by
    decide +kernel
  -- the second notice comes after a quarter of a second
  have hclock : (bursts.1.run (bursts.2.take 2)).clock = Binary64.ofRatio false 1 4 := by
    decide +kernel
  have hdeadline : (Binary64.ofRatio false 1 4).add bursts.1.quiet = Binary64.ofRatio false 3 4 := by
    decide +kernel
  have hsecond := htimes (bursts.2.take 2) (bursts.2.drop 3) rfl
  simp only [hclock, hdeadline] at hsecond
  have hrings : rings (Binary64.ofRatio false 3 4) (Binary64.ofRatio false 1 4)
      (bursts.2.drop 3) = true := by decide +kernel
  exact ⟨hfired.trans hrung, harmed.trans hdue,
    ((hsecond (by decide +kernel) (by decide +kernel)).mp hrings).1⟩

end Watch

end ImportScan
