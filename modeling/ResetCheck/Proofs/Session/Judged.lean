import ResetCheck.Proofs.Session.Report

/-!
# Every session can be judged

A session takes its sightings from the queue of one watch, and the watch publishes them in order.
So no observation refuses a sighting, and every report holds together, also where the session ends
early or where its deadline leaves sightings out.

* `Observation.check_report`: sightings that climb in the order of time make a report that holds
  together.
* `Session.exists_observe`: whatever way a session takes, it ends with such sightings.
* `Check.run_judged`: a check gives a verdict unless the command was refused.
-/

namespace ResetCheck

/-! ## Sightings in order -/

/-- Sightings that an observation takes and that make a report which holds together. -/
def InOrder (seen : List Sighting) : Prop :=
  Connectivity.awaitingDisconnect.Climbs (seen.map (·.state)) ∧
    seen.Pairwise (·.instant ≤ ·.instant)

theorem InOrder.initial {a b : List Sighting} (h : InOrder b) (hab : a <+: b) : InOrder a :=
  ⟨h.1.initial (hab.map _), h.2.sublist hab.sublist⟩

/-- Up to an instant, what was seen in order was seen in order. -/
theorem InOrder.filter {seen : List Sighting} (h : InOrder seen) (t : Instant) :
    InOrder (seen.filter (·.instant ≤ t)) := by
  rw [← takeWhile_instant_le h.2]
  exact h.initial (List.takeWhile_prefix _)

theorem Watch.Coherent.inOrder {σ : Type} {w : Watch σ} (h : w.Coherent []) : InOrder w.queue :=
  ⟨h.climbs, h.order⟩

/-- Clamping what came before the command to zero keeps the order of time. -/
theorem Observation.check_report {seen : List Sighting} (h : InOrder seen) (issued : Instant)
    (variant : String) (budget : Budget) (outcome : Outcome) :
    (((start issued).after seen).report variant budget outcome).check = .ok () := by
  refine (check_report_iff h.1 issued variant budget outcome).2 (h.2.imp ?_)
  intro s s' hle
  exact issued.spanTo_mono hle

/-! ## Every way a session takes -/

namespace Session

variable {σ : Type} [Device σ] (s : Session) (device : σ) (now : Instant) (calls : List Call)

theorem sightings_inOrder : InOrder (s.timeline device now).sightings := by
  rw [← s.listening_queue device now []]
  exact (s.listening_coherent device now []).alone.inOrder

theorem seen_inOrder : InOrder (s.seen (s.timeline device now)) :=
  (s.sightings_inOrder device now).filter _

omit [Device σ] in
/-- A session that is cut short takes what its watch has queued. -/
theorem takeQueued_start {w : Watch σ} (h : w.Coherent []) (issued : Instant) :
    (takeQueued (.start issued) w).1 = .ok ((Observation.start issued).after w.queue) := by
  have htaken := takeQueued_eq issued h
  rw [Observation.after_nil, List.nil_append] at htaken
  rw [htaken]

/-- Whatever way a session takes, no sighting is refused. -/
theorem exists_observe (outcome : Outcome) :
    ∃ seen, InOrder seen ∧
      (s.observe (.start (s.timeline device now).issue) outcome (s.answered device now calls)).1 =
        .ok ((Observation.start (s.timeline device now).issue).after seen) := by
  have hanswered := s.answered_coherent device now calls
  have hlistening := s.listening_coherent device now calls
  rw [observe_answered]
  split
  · cases s.variant.shortCircuit with
    | beforeDelay => exact ⟨_, hanswered.inOrder, takeQueued_start hanswered _⟩
    | afterDelay => exact ⟨_, hlistening.inOrder, takeQueued_start hlistening _⟩
  · exact ⟨_, s.seen_inOrder device now, (s.follow_listening device now calls).1⟩

/-- A command that was not refused has an outcome. -/
theorem exists_ofReply (phrases : List String) (issuedAt : WallTime)
    {result : Except CommandFault String} (h : ∀ text, result ≠ .error (.rejected text)) :
    ∃ outcome, Outcome.ofReply phrases issuedAt result = .ok outcome := by
  cases result with
  | ok raw => exact ⟨_, rfl⟩
  | error fault =>
    cases fault with
    | linkLost text => exact ⟨_, rfl⟩
    | rejected text => exact absurd rfl (h text)

/-- The report of a session holds together, whatever way the session took. -/
theorem exists_run {outcome : Outcome}
    (houtcome : Outcome.ofReply s.phrases s.issuedAt (s.timeline device now).reply.result =
      .ok outcome) :
    ∃ report, (s.run device now calls).1 = .ok report ∧ report.check = .ok () ∧
      report.outcome = outcome := by
  obtain ⟨seen, hseen, hobserve⟩ := s.exists_observe device now calls outcome
  have hrun := (s.run_of_outcome device now calls houtcome).1
  rw [hobserve] at hrun
  exact ⟨_, hrun, Observation.check_report hseen _ _ _ _, rfl⟩

/-- A refused command ends a session without a report. -/
theorem run_of_error {e : CheckFault}
    (houtcome : Outcome.ofReply s.phrases s.issuedAt (s.timeline device now).reply.result =
      .error e) :
    (s.run device now calls).1 = .error e := by
  have hdrive := s.drive_eq device now calls
  rw [houtcome] at hdrive
  rw [run, hdrive]

end Session

/-! ## Verdicts -/

namespace Check

variable {σ : Type} [Device σ] (c : Check) (v : Variant) (issuedAt : WallTime) (device : σ)

/-- The device after its multiplier was read. -/
def asked : σ :=
  (Device.property device c.policy.property).2

/-- The session of a check of a device. -/
def sessionOn : Session :=
  c.session v (Device.property device c.policy.property).1 issuedAt

/-- The timeline of a check of a device. -/
def timeline : Timeline :=
  (c.sessionOn v issuedAt device).timeline (c.asked device) 0

/-- The verdict of a check is the one on the report of its session. -/
theorem run_of_report {report : Report} (hcheck : report.check = .ok ())
    (hrun : ((c.sessionOn v issuedAt device).run (c.asked device) 0
      [.property c.policy.property]).1 = .ok report) :
    (c.run v issuedAt (some device)).1 = .ok ⟨report.kind, report.reason, report⟩ := by
  have hjudge : (c.run v issuedAt (some device)).1 =
      ((c.sessionOn v issuedAt device).run (c.asked device) 0
        [.property c.policy.property]).1.bind Report.judge := rfl
  rw [hjudge, hrun]
  show report.judge = _
  rw [Report.judge, hcheck]

/-- The report of a check that followed its watch. -/
def reportOn (outcome : Outcome) : Report :=
  ((Observation.start (c.timeline v issuedAt device).issue).after
    ((c.sessionOn v issuedAt device).seen (c.timeline v issuedAt device))).report v.name
    (c.sessionOn v issuedAt device).budget outcome

theorem reportOn_milestones (outcome : Outcome) :
    (c.reportOn v issuedAt device outcome).milestones =
      ((c.sessionOn v issuedAt device).seen (c.timeline v issuedAt device)).map
        (Observation.milestone (c.timeline v issuedAt device).issue) :=
  List.nil_append _

theorem reportOn_final (outcome : Outcome) :
    (c.reportOn v issuedAt device outcome).final =
      Connectivity.awaitingDisconnect.last
        (((c.sessionOn v issuedAt device).seen (c.timeline v issuedAt device)).map (·.state)) := rfl

theorem reportOn_kind {outcome : Outcome} (hsupport : ¬outcome.isNotSupported) :
    (c.reportOn v issuedAt device outcome).kind =
      if (c.reportOn v issuedAt device outcome).final.isTerminal then .pass else .fail :=
  if_neg hsupport

/-- A check that followed its watch passes if and only if it saw the device return. -/
theorem reportOn_kind_eq_pass_iff {outcome : Outcome} (hsupport : ¬outcome.isNotSupported) :
    (c.reportOn v issuedAt device outcome).kind = .pass ↔
      (c.reportOn v issuedAt device outcome).final = .reconnected := by
  rw [c.reportOn_kind v issuedAt device hsupport, Connectivity.isTerminal]
  simp

theorem seen_inOrder :
    InOrder ((c.sessionOn v issuedAt device).seen (c.timeline v issuedAt device)) :=
  (c.sessionOn v issuedAt device).seen_inOrder (c.asked device) 0

theorem run_of_follow {outcome : Outcome}
    (houtcome : Outcome.ofReply (refusalPhrases ++ c.phrases) issuedAt
      (c.timeline v issuedAt device).reply.result = .ok outcome)
    (hsupport : ¬outcome.isNotSupported) :
    let report := c.reportOn v issuedAt device outcome
    (c.run v issuedAt (some device)).1 = .ok ⟨report.kind, report.reason, report⟩ := by
  obtain ⟨hrun, -⟩ := (c.sessionOn v issuedAt device).run_of_follow (c.asked device) 0
    [.property c.policy.property] houtcome hsupport
  exact c.run_of_report v issuedAt device
    (Observation.check_report (c.seen_inOrder v issuedAt device) _ _ _ _) hrun

/-- A check that passes followed its watch. -/
theorem exists_outcome_of_isPass {verdict : Verdict}
    (hrun : (c.run v issuedAt (some device)).1 = .ok verdict) (hpass : verdict.isPass) :
    ∃ outcome, Outcome.ofReply (refusalPhrases ++ c.phrases) issuedAt
        (c.timeline v issuedAt device).reply.result = .ok outcome ∧
      ¬outcome.isNotSupported ∧
      verdict = ⟨(c.reportOn v issuedAt device outcome).kind,
        (c.reportOn v issuedAt device outcome).reason, c.reportOn v issuedAt device outcome⟩ := by
  cases houtcome : Outcome.ofReply (refusalPhrases ++ c.phrases) issuedAt
      (c.timeline v issuedAt device).reply.result with
  | error e =>
    have herror := (c.sessionOn v issuedAt device).run_of_error (c.asked device) 0
      [.property c.policy.property] houtcome
    have hbind : (c.run v issuedAt (some device)).1 = .error e :=
      congrArg (·.bind Report.judge) herror
    rw [hbind] at hrun
    cases hrun
  | ok outcome =>
    obtain ⟨report, hreport, hcheck, hout⟩ := (c.sessionOn v issuedAt device).exists_run
      (c.asked device) 0 [.property c.policy.property] houtcome
    have hverdict := c.run_of_report v issuedAt device hcheck hreport
    obtain rfl := Except.ok.inj (hrun.symm.trans hverdict)
    have hsupport : ¬outcome.isNotSupported := by
      intro h
      simp [Verdict.isPass, Report.kind, hout, h] at hpass
    have hfollow := c.run_of_follow v issuedAt device houtcome hsupport
    exact ⟨outcome, rfl, hsupport, Except.ok.inj (hrun.symm.trans hfollow)⟩

end Check

/-- **A check gives a verdict.**  Unless the command is refused, the session of a check ends in a
report that holds together, and the verdict is the one on this report. -/
theorem Check.run_judged {σ : Type} [Device σ] (c : Check) (v : Variant) (issuedAt : WallTime)
    (device : σ)
    (hreply : ∀ text, (c.timeline v issuedAt device).reply.result ≠ .error (.rejected text)) :
    ∃ report,
      ((c.sessionOn v issuedAt device).run (c.asked device) 0 [.property c.policy.property]).1 =
        .ok report ∧
      report.check = .ok () ∧
      (c.run v issuedAt (some device)).1 = .ok ⟨report.kind, report.reason, report⟩ := by
  obtain ⟨outcome, houtcome⟩ :=
    Session.exists_ofReply (c.sessionOn v issuedAt device).phrases issuedAt hreply
  obtain ⟨report, hrun, hcheck, -⟩ :=
    (c.sessionOn v issuedAt device).exists_run (c.asked device) 0 [.property c.policy.property]
      houtcome
  exact ⟨report, hrun, hcheck, c.run_of_report v issuedAt device hcheck hrun⟩

theorem Check.run_judged_sluggish :
    (∀ text, (Check.standard.timeline .port .epoch Tabulated.sluggish).reply.result ≠
        .error (.rejected text)) ∧
      ∃ report, (Check.standard.run .port .epoch (some Tabulated.sluggish)).1 =
        .ok ⟨report.kind, report.reason, report⟩ := by
  have hreply : ∀ text, (Check.standard.timeline .port .epoch Tabulated.sluggish).reply.result ≠
      .error (.rejected text) := by
    intro text
    rw [Check.timeline, Tabulated.timeline_eq]
    exact nofun
  obtain ⟨report, -, -, hverdict⟩ :=
    Check.standard.run_judged .port .epoch Tabulated.sluggish hreply
  exact ⟨hreply, report, hverdict⟩

end ResetCheck
