import ImportScan.Proofs.Analyzer.Incremental
import ImportScan.Watch.Scheduler

/-! # No lost update

    While a tree is watched, edits, events, the passing of time and builds come in any order.
    A change that was noted and not yet built has a build waiting for it, so once nothing
    waits, the last build has found the disk as it is.

    * `Watch.LastBuild` : what the last build found, and whether it succeeded.
    * `Watch.Watched`   : the watches that come about.
    * `Watch.Abreast`   : the invariant of watches.
    * `no_lost_update`  : when nothing waits, the records are those of a first build.
-/

namespace ImportScan

namespace Act

theorem telltale_refl (input : Text) (d : Disk) : Telltale input d d :=
  fun _ _ _ _ _ _ _ hne => absurd rfl hne

/-- A first build of the disk that an up-to-date session has seen finds the same records. -/
theorem Complete.first_build [Parsers] {a : Analyzer} {s : Session} {d : Disk} (h : Complete a s d)
    (hnew : a.forget = a) (houtput : a.output = none) :
    ∃ stats s₀, exec Act.build ⟨a, d, [], []⟩ = (.ok stats, s₀) ∧
      ∀ p, s.analyzer.store.get? p = s₀.analyzer.store.get? p := by
  obtain ⟨r₀, s₀, hexec₀, -, -, hr₀⟩ :=
    (upToDate_new hnew houtput d).build (.inl (hnew ▸ rfl))
  cases r₀ with
  | error e => exact absurd hr₀ (h.not_hindered e)
  | ok stats₀ => exact ⟨stats₀, s₀, hexec₀, h.records_eq hr₀⟩

/-- A build of an up-to-date session succeeds where a first build does. -/
theorem UpToDate.isOk_of_first_build [Parsers] {a : Analyzer} {s : Session} {d : Disk}
    (h : UpToDate a s d)
    (hpre : s.analyzer.previous = {} ∨ Telltale a.input d s.disk) (hnew : a.forget = a)
    (houtput : a.output = none)
    (hfirst : (exec Act.build ⟨a, s.disk, [], []⟩).1.isOk = true) :
    (exec Act.build s).1.isOk = true := by
  obtain ⟨r₀, s₀, hexec₀, -, -, hr₀⟩ :=
    (upToDate_new hnew houtput s.disk).build (.inl (hnew ▸ rfl))
  obtain ⟨r, s', hexec, -, -, hr⟩ := h.build hpre
  rw [hexec]
  rw [hexec₀] at hfirst
  cases r₀ with
  | error e => cases hfirst
  | ok stats₀ =>
    cases r with
    | error e => exact absurd hr (hr₀.not_hindered e)
    | ok stats => rfl

end Act

namespace Watch

open Act

/-! ## Watches that come about -/

/-- The last build of a watch: the disk that it found, and whether it succeeded. -/
structure LastBuild where
  /-- The disk that the build found. -/
  disk : Disk
  /-- Whether the build succeeded. -/
  succeeded : Bool

/-- The build that a watch would make now. -/
def made [Parsers] (w : Watch) : LastBuild := ⟨w.session.disk, (exec build w.session).1.isOk⟩

/-- Whether a build begins when time passes. -/
def fires (w : Watch) (seconds : Binary64) : Bool :=
  ({ w with clock := w.clock.add seconds }).isDue

/-- The watches on an analyzer that come about without being cancelled, with the last build, if
    there was one, and whether every edit so far was followed by an event that counts. -/
inductive Watched [Parsers] (a : Analyzer)
    (quiet : Binary64) : Watch → Option LastBuild → Bool → Prop where
  /-- Nothing has happened. -/
  | start (d : Disk) (writes : Nat) :
      Watched a quiet (ofSession ⟨a, d, [], []⟩ quiet writes) none true
  /-- The disk was edited, in a way that shows against the disk of the last build. -/
  | edit {w : Watch} {last : Option LastBuild} {heard : Bool} (d : Disk) (writes : Nat) :
      Watched a quiet w last heard → (∀ b ∈ last, Telltale a.input b.disk d) →
      Watched a quiet { w with session := { w.session with disk := d }, writes } last false
  /-- An event came in. -/
  | event {w : Watch} {last : Option LastBuild} {heard : Bool} (cwd event path : Text) :
      Watched a quiet w last heard →
      Watched a quiet (w.receive cwd event path) last (heard || !idleEvents.contains event)
  /-- Time passed, and a build that was due was made. -/
  | pass {w : Watch} {last : Option LastBuild} {heard : Bool} (seconds : Binary64) :
      Watched a quiet w last heard →
      Watched a quiet (w.advance seconds) (if w.fires seconds then some w.made else last) heard
  /-- A build was made at once. -/
  | build {w : Watch} {last : Option LastBuild} {heard : Bool} :
      Watched a quiet w last heard → Watched a quiet w.runBuild.2 (some w.made) heard

/-! ## The invariant -/

variable {a : Analyzer} {quiet : Binary64} {w : Watch} {last : Option LastBuild} {heard : Bool}

/-- The records are those of the last build, of which nothing is left if it failed; and if
    every edit was heard of and no build waits, the disk is the one that the last build
    found. -/
structure Abreast [Parsers] (a : Analyzer) (w : Watch) (last : Option LastBuild)
    (heard : Bool) : Prop where
  attentive : w.ignored = none
  records : ∃ d, UpToDate a w.session d ∧
    (w.session.analyzer.previous = {} ∨ ∃ b ∈ last, b.disk = d)
  telltale : ∀ b ∈ last, Telltale a.input b.disk w.session.disk
  complete : ∀ b ∈ last, b.succeeded = true → Complete a w.session b.disk
  settled : heard = true → w.due = none → ∀ b ∈ last, w.session.disk = b.disk

/-- A build changes the session as builds do, and otherwise only what is reported. -/
theorem runBuild_eq [Parsers] (w : Watch) :
    ∃ log builds, w.runBuild.2 =
      { w with session := { (exec build w.session).2 with log }, builds } := by
  unfold runBuild
  show ∃ log builds, _ = { w with session := { (Act.build w.session).2 with log }, builds }
  rcases Act.build w.session with ⟨e | stats, s'⟩
  · exact ⟨_, _, rfl⟩
  · exact ⟨_, _, rfl⟩

/-- What is known of a session depends on its analyzer alone. -/
theorem upToDate_of_analyzer [Parsers] {s s' : Session} {d : Disk} (h : UpToDate a s d)
    (heq : s'.analyzer = s.analyzer) : UpToDate a s' d := by
  obtain ⟨halike, houtput, hview, hplain, htree, hrecords⟩ := h
  refine ⟨?_, ?_, ?_, ?_, ?_, ?_⟩ <;> rw [heq] <;> assumption

theorem complete_of_analyzer [Parsers] {s s' : Session} {d : Disk} (h : Complete a s d)
    (heq : s'.analyzer = s.analyzer) : Complete a s' d :=
  ⟨upToDate_of_analyzer h.toUpToDate heq, h.named, heq ▸ h.previous, h.ready⟩

/-- When a build begins because time has passed, none is waiting any more. -/
theorem due_advance [Parsers] {seconds : Binary64} (h : w.fires seconds = true) :
    (w.advance seconds).due = none := by
  have hdue : ({ w with clock := w.clock.add seconds } : Watch).isDue = true := h
  unfold advance
  simp only [hdue, if_true]
  obtain ⟨log, builds, hbuilt⟩ := runBuild_eq ({ w with clock := w.clock.add seconds } : Watch).cancel
  rw [hbuilt]
  rfl

/-- What the last build has left fits the disk as it is. -/
theorem Abreast.usable [Parsers] (h : Abreast a w last heard) :
    ∃ d, UpToDate a w.session d ∧
      (w.session.analyzer.previous = {} ∨ Telltale a.input d w.session.disk) := by
  obtain ⟨d, hup, hlast⟩ := h.records
  refine ⟨d, hup, hlast.imp id ?_⟩
  rintro ⟨b, hb, rfl⟩
  exact h.telltale b hb

/-- After a build the disk is the one that it found, whatever was heard of and waits. -/
theorem Abreast.build [Parsers] (h : Abreast a w last heard) (heard' : Bool) :
    Abreast a w.runBuild.2 (some w.made) heard' := by
  obtain ⟨d, hup, hpre⟩ := h.usable
  obtain ⟨r, s', hexec, hup', hdisk, hr⟩ := hup.build hpre
  obtain ⟨log, builds, hbuilt⟩ := runBuild_eq w
  rw [hbuilt, hexec]
  have hup'' : UpToDate a { s' with log } w.session.disk := upToDate_of_analyzer hup' rfl
  refine ⟨h.attentive, ⟨_, hup'', .inr ⟨w.made, rfl, rfl⟩⟩, ?_, ?_, ?_⟩
  · rintro b ⟨⟩
    show Telltale a.input w.session.disk s'.disk
    rw [hdisk]
    exact telltale_refl _ _
  · rintro b ⟨⟩ hok
    cases r with
    | error e =>
      simp only [made, hexec] at hok
      cases hok
    | ok stats => exact complete_of_analyzer hr rfl
  · rintro _ _ b ⟨⟩
    exact hdisk

/-- The clock and the build that waits matter only for what is settled. -/
theorem Abreast.reschedule [Parsers] (h : Abreast a w last heard) (clock : Binary64)
    {due : Option Binary64} {heard' : Bool}
    (hdue : heard' = true → due = none → heard = true ∧ w.due = none) :
    Abreast a { w with clock, due } last heard' :=
  ⟨h.attentive, h.records, h.telltale, h.complete, fun hheard hnone =>
    have ⟨hheard', hnone'⟩ := hdue hheard hnone
    h.settled hheard' hnone'⟩

/-- An event that counts makes a build wait, and any other changes nothing. -/
theorem Abreast.event [Parsers] (h : Abreast a w last heard) (cwd event path : Text) :
    Abreast a (w.receive cwd event path) last (heard || !idleEvents.contains event) := by
  have hrelevant : isRelevant cwd w.ignored event path = !idleEvents.contains event := by
    rw [h.attentive]
    simp [isRelevant, ignores]
  unfold receive
  rw [hrelevant]
  cases hidle : idleEvents.contains event with
  | true => simpa using h
  | false =>
    rw [Bool.not_false, if_pos rfl]
    exact h.reschedule w.clock fun _ hnone => by cases hnone

theorem Abreast.pass [Parsers] (h : Abreast a w last heard) (seconds : Binary64) :
    Abreast a (w.advance seconds) (if w.fires seconds then some w.made else last) heard := by
  unfold advance
  cases hfires : w.fires seconds with
  | false =>
    have hnot : ({ w with clock := w.clock.add seconds } : Watch).isDue = false := hfires
    simp only [hnot, Bool.false_eq_true, if_false]
    exact h.reschedule _ fun hheard hnone => ⟨hheard, hnone⟩
  | true =>
    have hdue : ({ w with clock := w.clock.add seconds } : Watch).isDue = true := hfires
    simp only [hdue, if_true]
    -- the build that was waiting is made of the same session
    have hcleared : Abreast a ({ w with clock := w.clock.add seconds } : Watch).cancel last false :=
      h.reschedule _ fun hheard => by cases hheard
    exact hcleared.build heard

theorem Watched.abreast [Parsers] (hnew : a.forget = a) (houtput : a.output = none)
    (h : Watched a quiet w last heard) : Abreast a w last heard := by
  induction h with
  | start d writes =>
    have hup := upToDate_new hnew houtput d
    refine ⟨houtput, ⟨d, hup, .inl (hnew ▸ rfl)⟩, ?_, ?_, ?_⟩ <;> simp
  | edit d writes _ htell ih =>
    obtain ⟨d', hup, hlast⟩ := ih.records
    refine ⟨ih.attentive, ⟨d', upToDate_of_analyzer hup rfl, hlast⟩, htell, ?_, ?_⟩
    · intro b hb hok
      exact complete_of_analyzer (ih.complete b hb hok) rfl
    · intro hheard
      cases hheard
  | event cwd event path _ ih => exact ih.event cwd event path
  | pass seconds _ ih => exact ih.pass seconds
  | build _ ih => exact ih.build _

/-- In every watch on an analyzer without an output tree that comes about, with edits, events,
    the passing of time and builds in any order, failed builds among them: when every edit was
    followed by an event that counts, no build waits, and the last build succeeded, a first
    build of the disk as it is succeeds too, and both have found the same records for every
    path. -/
theorem no_lost_update [Parsers] {cwd : Text} {package : Package} {input output : Option Text}
    (hmake : Analyzer.make cwd package input output = .ok a) (houtput : a.output = none)
    {b : LastBuild} (hwatched : Watched a quiet w (some b) true) (hdue : w.due = none)
    (hok : b.succeeded = true) :
    ∃ stats s₀, exec build ⟨a, w.session.disk, [], []⟩ = (.ok stats, s₀) ∧
      ∀ p, w.session.analyzer.store.get? p = s₀.analyzer.store.get? p := by
  have hnew := make_new hmake
  have habreast := hwatched.abreast hnew houtput
  have hdisk : w.session.disk = b.disk := habreast.settled rfl hdue b rfl
  rw [hdisk]
  exact (habreast.complete b rfl hok).first_build hnew houtput

/-- A watch on a directory that was edited after a first build, once an event has come in. -/
def stirred : Watch :=
  let w := (ofSession ⟨noted.1, noted.2.1, [], []⟩ .zero 0).runBuild.2
  ({ w with session := { w.session with disk := noted.2.2 }, writes := 2 } : Watch).receive
    "/" "modified" "/r/n"

theorem watched_stirred : ∃ b, Watched noted.1 .zero stirred (some b) true := by
  have hstart : Watched noted.1 .zero (ofSession ⟨noted.1, noted.2.1, [], []⟩ .zero 0) none true :=
    .start noted.2.1 0
  have hbuilt := hstart.build
  have hedited := hbuilt.edit noted.2.2 2 (by rintro b ⟨⟩; exact noted_telltale)
  exact ⟨_, hedited.event "/" "modified" "/r/n"⟩

theorem no_lost_update_stirred :
    let w := stirred.advance .zero
    ∃ stats s₀, exec build ⟨noted.1, w.session.disk, [], []⟩ = (.ok stats, s₀) ∧
      ∀ p, w.session.analyzer.store.get? p = s₀.analyzer.store.get? p := by
  have hmake : Analyzer.make "/" noted.1.package none none = .ok noted.1 := rfl
  obtain ⟨log, builds, hbuilt⟩ := runBuild_eq (ofSession ⟨noted.1, noted.2.1, [], []⟩ .zero 0)
  obtain ⟨b, hstirred⟩ := watched_stirred
  have hdisk : stirred.session.disk = noted.2.2 := by
    unfold stirred
    rw [hbuilt]
    rfl
  have hfires : stirred.fires .zero = true := by
    unfold stirred
    rw [hbuilt]
    rfl
  have hok : stirred.made.succeeded = true := by
    obtain ⟨d, hup, hpre⟩ := (hstirred.abreast rfl rfl).usable
    refine hup.isOk_of_first_build hpre rfl rfl ?_
    rw [hdisk]
    cbv
  have hwatched := hstirred.pass .zero
  rw [hfires, if_pos rfl] at hwatched
  exact no_lost_update hmake rfl hwatched (due_advance hfires) hok

end Watch

end ImportScan
