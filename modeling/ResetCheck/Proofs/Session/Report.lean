import ResetCheck.Check
import ResetCheck.Device.Tabulated
import ResetCheck.Proofs.Session.Course
import ResetCheck.Proofs.Session.Follow

/-!
# What a session reports

A session that is not cut short reports what its watch sees by the end of the window or, if that is
later, by the time it begins to listen.  A slow command or a long delay after it may hold the
session up for longer than the window.

* `Session.listening_alone`: what becomes of the watch once the session listens.
* `Session.follow_listening`: what following gives then.
* `Session.drive_eq`: a session up to the outcome of its command.
* `Session.run_closed_form`: the report of a session, and when the session is over.
-/

namespace ResetCheck

/-- When the reply to the command is there. -/
def Timeline.replied (tl : Timeline) : Instant :=
  tl.issue + tl.reply.after

theorem Outcome.not_isNotSupported {outcome : Outcome}
    (h : outcome.support = .supported ∨ outcome.support = .unknown) : ¬outcome.isNotSupported := by
  rcases h with h | h
  · simp [isNotSupported, h]
  · simp [isNotSupported, h]

namespace Session

/-! ## The window -/

section Window

variable (s : Session) (issued : Instant)

theorem le_deadline : issued ≤ s.deadline issued := by
  rw [deadline]
  rcases issued.alarm?_limit? s.budget.window with
    ⟨limit, alarm, hlimit, -, hle, -, -⟩ | ⟨hlimit, -⟩
  · rw [hlimit]
    exact hle
  · rw [hlimit]
    exact Int.le_add_of_nonneg_right (Int.natCast_nonneg _)

/-- The timer goes off at the deadline, or in the millisecond after it. -/
theorem timer_bounds :
    s.deadline issued ≤ s.timer issued ∧ s.timer issued ≤ s.deadline issued + 1 := by
  rw [deadline, timer]
  rcases issued.alarm?_limit? s.budget.window with
    ⟨limit, alarm, hlimit, halarm, -, hbounds⟩ | ⟨hlimit, halarm⟩
  · rw [hlimit, halarm]
    exact hbounds
  · rw [hlimit, halarm]
    exact ⟨Int.le_refl _, Int.le_of_lt (Int.lt_add_one_iff.2 (Int.le_refl _))⟩

end Window

/-! ## Up to the outcome of the command -/

variable {σ : Type} [Device σ] (s : Session) (device : σ) (now : Instant) (calls : List Call)

/-- When a session begins to listen to its watch. -/
def listens (s : Session) (tl : Timeline) : Instant :=
  tl.replied.wake s.variant.postIssue

/-- The watch when the reply is there. -/
def answered : Watch σ :=
  ((s.readied device now calls).issue s.variant.command).pass (s.timeline device now).reply.after

/-- The watch when the session begins to listen. -/
def listening : Watch σ :=
  (s.answered device now calls).sleep s.variant.postIssue

theorem readied_reply :
    (s.readied device now calls).reply s.variant.command = (s.timeline device now).reply :=
  congrArg Prod.fst (s.timeline_course device now calls)

theorem answered_now : (s.answered device now calls).now = (s.timeline device now).replied := by
  rw [answered, Watch.pass_now, Timeline.replied, ← s.readied_now device now calls]
  rfl

theorem listening_now :
    (s.listening device now calls).now = s.listens (s.timeline device now) := by
  rw [listening, Watch.sleep_now, answered_now, listens]

theorem answered_coherent : (s.answered device now calls).Coherent [] :=
  (((Watch.coherent_start device s.times now calls).sleep s.variant.start).issue _).pass _

theorem listening_coherent : (s.listening device now calls).Coherent [] :=
  (s.answered_coherent device now calls).sleep _

/-- The clock goes on while the session does not listen, and nothing else. -/
theorem listening_alone :
    (s.listening device now calls).alone =
      (((s.readied device now calls).issue s.variant.command).alone.clockAt
        (s.timeline device now).replied).clockAt (s.listens (s.timeline device now)) := by
  have hissued : ((s.readied device now calls).issue s.variant.command).now =
      (s.timeline device now).issue := s.readied_now device now calls
  rw [listening, Watch.alone_sleep, answered_now, answered, Watch.alone_pass, hissued]
  rfl

theorem listening_queue :
    (s.listening device now calls).alone.queue = (s.timeline device now).sightings := by
  rw [listening_alone]
  exact congrArg (·.2.1) (s.timeline_course device now calls)

theorem issue_le_replied (tl : Timeline) : tl.issue ≤ tl.replied :=
  Int.le_add_of_nonneg_right (Int.natCast_nonneg _)

theorem listening_end? :
    (s.listening device now calls).end? =
      (s.timeline device now).finish?.map (max (s.listens (s.timeline device now))) := by
  have hcourse : ((s.readied device now calls).issue s.variant.command).end? =
      (s.timeline device now).finish?.map (max (s.timeline device now).issue) :=
    congrArg (·.2.2) (s.timeline_course device now calls)
  have hanswered := issue_le_replied (s.timeline device now)
  have hlistens : (s.timeline device now).replied ≤ s.listens (s.timeline device now) :=
    Instant.le_wake _ _
  have halone := s.listening_alone device now calls
  have hclock : (((s.readied device now calls).issue s.variant.command).alone.clockAt
      (s.timeline device now).replied).clockAt (s.listens (s.timeline device now)) =
      ((s.readied device now calls).issue s.variant.command).alone.clockAt
        (s.listens (s.timeline device now)) := by
    simp only [Watch.clockAt]
    grind
  rw [hclock] at halone
  rw [Watch.end?_of_clockAt halone, hcourse, Option.map_map]
  congr 1
  funext e
  simp only [Function.comp]
  grind

/-- When the session begins to listen it is not too late, or nothing is due at that instant. -/
theorem listening_due :
    (s.listening device now calls).now ≤ s.deadline (s.timeline device now).issue ∨
      ∀ d, (s.listening device now calls).due? = some d →
        (s.listening device now calls).now < d := by
  by_cases hpost : s.variant.postIssue.nanos = 0
  · have hlisten : s.listening device now calls = s.answered device now calls := by
      rw [listening, Watch.sleep, if_pos hpost]
    rw [hlisten]
    by_cases hreply : (s.timeline device now).reply.after = 0
    · left
      rw [answered_now, Timeline.replied, hreply]
      exact Int.le_trans (Int.le_of_eq (Int.add_zero _)) (s.le_deadline _)
    · exact .inr (Watch.lt_due?_pass hreply)
  · exact .inr (Watch.lt_due?_sleep hpost)

/-- What a session saw when it has followed its watch. -/
def seen (s : Session) (tl : Timeline) : List Sighting :=
  tl.sightings.filter (·.instant ≤ max (s.listens tl) (s.deadline tl.issue))

/-- When a session has followed its watch: at the end of the watch or when the timer goes off, but
not before it began to listen. -/
def finish (s : Session) (tl : Timeline) : Instant :=
  max (s.listens tl) (tl.finish?.elim (s.timer tl.issue) (min · (s.timer tl.issue)))

theorem follow_listening :
    let tl := s.timeline device now
    (s.follow (Observation.start tl.issue) (s.listening device now calls)).1 =
        .ok ((Observation.start tl.issue).after (s.seen tl)) ∧
      (s.follow (Observation.start tl.issue) (s.listening device now calls)).2.now =
        s.finish tl := by
  dsimp only
  have htimer := s.timer_bounds (s.timeline device now).issue
  obtain ⟨hseen, hover⟩ := followWithin_eq (s.timeline device now).issue htimer.1 htimer.2
    (s.listening_coherent device now calls) (Nat.le_refl _) (s.listening_due device now calls)
  rw [List.nil_append, listening_queue, listening_now] at hseen
  rw [listening_now, listening_end?] at hover
  refine ⟨hseen, hover.trans ?_⟩
  rw [finish]
  cases (s.timeline device now).finish? with
  | none => rfl
  | some e =>
    simp only [Option.map_some, Option.elim_some]
    grind

/-- A session up to the outcome of its command. -/
theorem drive_eq :
    s.drive (Watch.start device s.times now calls) =
      match Outcome.ofReply s.phrases s.issuedAt (s.timeline device now).reply.result with
      | .error e => (.error e, s.answered device now calls)
      | .ok outcome =>
        let (o, w) := s.observe (.start (s.timeline device now).issue) outcome
          (s.answered device now calls)
        (o.map fun o => o.report s.variant.name s.budget outcome, w) := by
  have hreply := s.readied_reply device now calls
  have hissue := s.readied_now device now calls
  rw [drive]
  dsimp only
  rw [Watch.execute_eq]
  dsimp only
  rw [← readied, hreply, hissue]
  rfl

/-- What a session does once the command has its outcome. -/
theorem observe_answered (o : Observation) (outcome : Outcome) :
    s.observe o outcome (s.answered device now calls) =
      if outcome.isNotSupported then
        match s.variant.shortCircuit with
        | .beforeDelay => takeQueued o (s.answered device now calls)
        | .afterDelay => takeQueued o (s.listening device now calls)
      else s.follow o (s.listening device now calls) := rfl

/-- What a session reports if its command had an outcome, and when it is over. -/
theorem run_of_outcome {outcome : Outcome}
    (houtcome : Outcome.ofReply s.phrases s.issuedAt (s.timeline device now).reply.result =
      .ok outcome) :
    let ended := s.observe (.start (s.timeline device now).issue) outcome
      (s.answered device now calls)
    (s.run device now calls).1 =
        ended.1.map (fun o => o.report s.variant.name s.budget outcome) ∧
      (s.run device now calls).2.now = ended.2.now := by
  have hdrive := s.drive_eq device now calls
  rw [houtcome] at hdrive
  rw [run, hdrive]
  exact ⟨rfl, rfl⟩

/-- The report of a session that followed its watch, and when the session was over. -/
theorem run_of_follow {outcome : Outcome}
    (houtcome : Outcome.ofReply s.phrases s.issuedAt (s.timeline device now).reply.result =
      .ok outcome)
    (hsupport : ¬outcome.isNotSupported) :
    let tl := s.timeline device now
    (s.run device now calls).1 =
        .ok (((Observation.start tl.issue).after (s.seen tl)).report s.variant.name s.budget
          outcome) ∧
      (s.run device now calls).2.now = s.finish tl := by
  obtain ⟨hseen, hover⟩ := s.follow_listening device now calls
  obtain ⟨hrun, hnow⟩ := s.run_of_outcome device now calls houtcome
  rw [observe_answered, if_neg hsupport] at hrun hnow
  rw [hseen] at hrun
  exact ⟨hrun, hnow.trans hover⟩

/-- **The closed form of a session.**  A session that follows its watch reports the sightings up to
the deadline or up to the instant at which it begins to listen, whichever is later, in the order in
which they were made.  It is over when the watch ends or the timer goes off, but not before it
begins to listen. -/
theorem run_closed_form {outcome : Outcome}
    (houtcome : Outcome.ofReply s.phrases s.issuedAt (s.timeline device now).reply.result =
      .ok outcome)
    (hsupport : outcome.support = .supported ∨ outcome.support = .unknown) :
    let tl := s.timeline device now
    let listens := (tl.issue + tl.reply.after : Instant).wake s.variant.postIssue
    let seen := tl.sightings.filter (·.instant ≤ max listens (s.deadline tl.issue))
    (s.run device now calls).1 = .ok {
        variant := s.variant.name
        final := (seen.map (·.state)).getLastD .awaitingDisconnect
        milestones := seen.map fun x => ⟨x.state, .ofMillis (x.instant - tl.issue).toNat⟩
        budget := s.budget
        outcome } ∧
      (s.run device now calls).2.now =
        max listens (tl.finish?.elim (s.timer tl.issue) (min · (s.timer tl.issue))) := by
  exact s.run_of_follow device now calls houtcome (Outcome.not_isNotSupported hsupport)

end Session

/-- A device that replies only after it has left and returned. -/
def Tabulated.sluggish : Tabulated where
  properties := []
  propertyFault := none
  gone := ⟨1000, .reached⟩
  back := ⟨6000, .reached⟩
  reply := ⟨8000, .ok "ok"⟩

/-- Both sightings count although the second is more than seven seconds after the command. -/
theorem Session.run_closed_form_sluggish :
    let s := Check.standard.session .gadget (.ok none) .epoch
    (s.run Tabulated.sluggish 0 []).1 =
        .ok ⟨"gadget", .reconnected,
          [⟨.awaitingReconnect, .ofMillis 900⟩, ⟨.reconnected, .ofMillis 7200⟩],
          ⟨.ofMillis 5000, 1, 0⟩, ⟨"ok", .supported, .epoch⟩⟩ ∧
      (s.run Tabulated.sluggish 0 []).2.now = 8100 := by
  intro s
  have hreply : (s.timeline Tabulated.sluggish 0).reply.result = .ok "ok" := by
    rw [Tabulated.timeline_eq]
    rfl
  have houtcome : Outcome.ofReply s.phrases s.issuedAt
      (s.timeline Tabulated.sluggish 0).reply.result = .ok ⟨"ok", .supported, .epoch⟩ := by
    rw [hreply]
    exact congrArg Except.ok (by decide +kernel)
  obtain ⟨hreport, hover⟩ := s.run_closed_form Tabulated.sluggish 0 [] houtcome (.inl rfl)
  refine ⟨hreport.trans (congrArg Except.ok ?_), hover.trans ?_⟩
  · decide +kernel
  · decide +kernel

/-- A device that leaves and returns soon. -/
def Tabulated.prompt : Tabulated where
  properties := []
  propertyFault := none
  gone := ⟨5, .reached⟩
  back := ⟨10, .reached⟩
  reply := ⟨0, .ok "ok"⟩

/-- What is seen counts from the issue of the command, and this comes when the timer for the start
delay goes off: after a whole millisecond for a fifth of one, and after thirty years for forty. -/
theorem Session.elapsed_from_issue :
    let brief := { Variant.gadget with start := .ofNanos 200000 }
    let thirty := Span.ofMillis 946080000000
    let long := { Variant.gadget with start := .ofMillis 1261440000000, settle := thirty }
    let c := { Check.standard with base := .ofMillis 1576800000000 }
    let elapsed := fun v : Variant =>
      ((c.session v (.ok none) .epoch).run Tabulated.prompt 0 []).1.toOption.map fun r =>
        (r.outcome.support, r.milestones.map (·.elapsed))
    let afterStart := fun v : Variant =>
      ((c.session v (.ok none) .epoch).timeline Tabulated.prompt 0).sightings.map fun x =>
        Span.ofNanos (x.instant.toNat * 1000000 - v.start.nanos)
    elapsed brief = some (.supported, [.ofMillis 4, .ofMillis 314]) ∧
      afterStart brief = [.ofNanos 4800000, .ofNanos 314800000] ∧
      elapsed long = some (.supported, [0, .ofMillis 15]) ∧ afterStart long = [0, 0] :=
  ⟨by decide +kernel, by decide +kernel, by decide +kernel, by decide +kernel⟩

end ResetCheck
