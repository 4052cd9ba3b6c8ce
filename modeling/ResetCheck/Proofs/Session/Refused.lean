import ResetCheck.Device.Scripted
import ResetCheck.Proofs.Session.Judged

/-!
# Resets that are not supported

A session whose reset is not supported does not wait for its window.  It is over when the reply is
there or, if the variant says so, after the delay that follows the command.  What the watch has
published by then goes into the report, and the verdict is a skip whatever that is.

* `Watch.Coherent.queue_eq_filter`: what is queued is what is seen before the present instant.
* `Session.observe_of_refused`: what a session that is cut short has observed, and when it is over.
* `Check.run_skip`: the verdict, the report and the end of a check whose reset is not supported.
-/

namespace ResetCheck

/-! ## What is queued -/

/-- Out of all that a watch makes if it is left alone, what is seen before the present instant is
queued, and nothing else, unless something is seen at this very instant. -/
theorem Watch.Coherent.queue_eq_filter {σ : Type} [Device σ] {w : Watch σ} (h : w.Coherent [])
    (hnow : ∀ x ∈ w.alone.queue, x.instant ≠ w.now) :
    w.queue = w.alone.queue.filter (·.instant < w.now) := by
  obtain ⟨later, hlater, hdue⟩ := exists_alone_queue (w := w)
  rw [hlater] at hnow
  have hqueue : w.queue.filter (·.instant < w.now) = w.queue := by
    refine List.filter_eq_self.2 fun x hx => ?_
    have hle := h.past x hx
    have hne := hnow x (List.mem_append_left _ hx)
    simp only [decide_eq_true_eq]
    grind
  have hrest : later.filter (·.instant < w.now) = [] := by
    refine List.filter_eq_nil_iff.2 fun x hx => ?_
    obtain ⟨d, hd, hle⟩ := hdue x hx
    have := Int.le_trans (now_le_due? hd) hle
    simpa using this
  rw [hlater, List.filter_append, hqueue, hrest, List.append_nil]

namespace Session

variable {σ : Type} [Device σ] (s : Session) (device : σ) (now : Instant) (calls : List Call)

/-- When a session is over whose reset is not supported. -/
def cutShort (s : Session) (tl : Timeline) : Instant :=
  match s.variant.shortCircuit with
  | .beforeDelay => tl.replied
  | .afterDelay => s.listens tl

/-- The watch of a session whose reset is not supported, when the session is over. -/
def refused : Watch σ :=
  match s.variant.shortCircuit with
  | .beforeDelay => s.answered device now calls
  | .afterDelay => s.listening device now calls

theorem refused_now :
    (s.refused device now calls).now = s.cutShort (s.timeline device now) := by
  rw [refused, cutShort]
  cases s.variant.shortCircuit with
  | beforeDelay => exact s.answered_now device now calls
  | afterDelay => exact s.listening_now device now calls

theorem refused_coherent : (s.refused device now calls).Coherent [] := by
  rw [refused]
  cases s.variant.shortCircuit with
  | beforeDelay => exact s.answered_coherent device now calls
  | afterDelay => exact s.listening_coherent device now calls

theorem answered_queue :
    (s.answered device now calls).alone.queue = (s.timeline device now).sightings := by
  rw [answered, Watch.alone_pass]
  exact congrArg (·.2.1) (s.timeline_course device now calls)

theorem refused_queue :
    (s.refused device now calls).alone.queue = (s.timeline device now).sightings := by
  rw [refused]
  cases s.variant.shortCircuit with
  | beforeDelay => exact s.answered_queue device now calls
  | afterDelay => exact s.listening_queue device now calls

variable {s device now} in
/-- What is queued when a session is cut short was seen before its end. -/
theorem queue_refused
    (hend : ∀ x ∈ (s.timeline device now).sightings,
      x.instant ≠ s.cutShort (s.timeline device now)) :
    (s.refused device now calls).queue =
      (s.timeline device now).sightings.filter
        (·.instant < s.cutShort (s.timeline device now)) := by
  have hqueue := (s.refused_coherent device now calls).queue_eq_filter
  rw [refused_queue, refused_now] at hqueue
  exact hqueue hend

theorem inOrder_refused
    (hend : ∀ x ∈ (s.timeline device now).sightings,
      x.instant ≠ s.cutShort (s.timeline device now)) :
    InOrder ((s.timeline device now).sightings.filter
      (·.instant < s.cutShort (s.timeline device now))) := by
  rw [← queue_refused [] hend]
  exact (s.refused_coherent device now []).inOrder

/-- A session that is cut short takes what is queued. -/
theorem observe_refused (o : Observation) {outcome : Outcome} (hrefused : outcome.isNotSupported) :
    s.observe o outcome (s.answered device now calls) =
      takeQueued o (s.refused device now calls) := by
  rw [observe_answered, if_pos hrefused, refused]
  cases s.variant.shortCircuit <;> rfl

/-- A session that is cut short has observed what was seen before its end. -/
theorem observe_of_refused {outcome : Outcome} (hrefused : outcome.isNotSupported)
    (hend : ∀ x ∈ (s.timeline device now).sightings,
      x.instant ≠ s.cutShort (s.timeline device now)) :
    let tl := s.timeline device now
    let ended := s.observe (.start tl.issue) outcome (s.answered device now calls)
    ended.1 = .ok ((Observation.start tl.issue).after
        (tl.sightings.filter (·.instant < s.cutShort tl))) ∧
      ended.2.now = s.cutShort tl := by
  have htaken := takeQueued_eq (s.timeline device now).issue (s.refused_coherent device now calls)
  rw [Observation.after_nil, List.nil_append, queue_refused calls hend] at htaken
  dsimp only
  rw [s.observe_refused device now calls _ hrefused, htaken]
  exact ⟨rfl, s.refused_now device now calls⟩

/-- The report of a session that is cut short, and when the session is over. -/
theorem run_of_refused {outcome : Outcome}
    (houtcome : Outcome.ofReply s.phrases s.issuedAt (s.timeline device now).reply.result =
      .ok outcome)
    (hrefused : outcome.isNotSupported)
    (hend : ∀ x ∈ (s.timeline device now).sightings,
      x.instant ≠ s.cutShort (s.timeline device now)) :
    let tl := s.timeline device now
    (s.run device now calls).1 =
        .ok (((Observation.start tl.issue).after
          (tl.sightings.filter (·.instant < s.cutShort tl))).report s.variant.name s.budget
          outcome) ∧
      (s.run device now calls).2.now = s.cutShort tl := by
  obtain ⟨hseen, hover⟩ := s.observe_of_refused device now calls hrefused hend
  obtain ⟨hrun, hnow⟩ := s.run_of_outcome device now calls houtcome
  rw [hseen] at hrun
  exact ⟨hrun, hnow.trans hover⟩

end Session

/-! ## Skipping -/

/-- The verdict of a check whose reset is not supported, and when the check is over. -/
theorem Check.run_of_refused {σ : Type} [Device σ] (c : Check) (v : Variant) (issuedAt : WallTime)
    (device : σ) {outcome : Outcome}
    (houtcome : Outcome.ofReply (refusalPhrases ++ c.phrases) issuedAt
      (c.timeline v issuedAt device).reply.result = .ok outcome)
    (hrefused : outcome.isNotSupported)
    (hend : ∀ x ∈ (c.timeline v issuedAt device).sightings,
      x.instant ≠ (c.sessionOn v issuedAt device).cutShort (c.timeline v issuedAt device)) :
    let tl := c.timeline v issuedAt device
    let ended := (c.sessionOn v issuedAt device).cutShort tl
    let seen := tl.sightings.filter (·.instant < ended)
    let report := ((Observation.start tl.issue).after seen).report v.name
      (c.sessionOn v issuedAt device).budget outcome
    (c.run v issuedAt (some device)).1 = .ok ⟨.skip, report.reason, report⟩ ∧
      (c.run v issuedAt (some device)).2.map (·.now) = some ended := by
  intro tl ended seen report
  obtain ⟨hrun, hover⟩ := (c.sessionOn v issuedAt device).run_of_refused (c.asked device) 0
    [.property c.policy.property] houtcome hrefused hend
  have hcheck : report.check = .ok () :=
    Observation.check_report ((c.sessionOn v issuedAt device).inOrder_refused _ _ hend) _ _ _ _
  have hkind : report.kind = .skip := if_pos hrefused
  have hverdict := c.run_of_report v issuedAt device hcheck hrun
  rw [hkind] at hverdict
  exact ⟨hverdict, congrArg some hover⟩

/-- **Skipping.**  If the reply says that the reset is not supported, the check ends in a skip, as
soon as the reply is there or after the delay that follows the command.  The reason quotes the
reply, and the report has what was seen before the end. -/
theorem Check.run_skip {σ : Type} [Device σ] (c : Check) (v : Variant) (issuedAt : WallTime)
    (device : σ) {raw : String}
    (hreply : (c.timeline v issuedAt device).reply.result = .ok raw)
    (hrefused : Support.classify (Text.trim raw) (refusalPhrases ++ c.phrases) = .notSupported) :
    let tl := c.timeline v issuedAt device
    let replied : Instant := tl.issue + tl.reply.after
    let ended := if v.shortCircuit = .beforeDelay ∨ v.postIssue = 0 then replied
      else replied.wake v.postIssue
    let seen := tl.sightings.filter (·.instant < ended)
    (∀ x ∈ tl.sightings, x.instant ≠ ended) →
      (c.run v issuedAt (some device)).1 = .ok {
          kind := .skip
          reason := s!"{v.name} reset not supported on this device: {Text.trim raw}"
          report := {
            variant := v.name
            final := (seen.map (·.state)).getLastD .awaitingDisconnect
            milestones := seen.map fun x => ⟨x.state, .ofMillis (x.instant - tl.issue).toNat⟩
            budget := (c.sessionOn v issuedAt device).budget
            outcome := ⟨Text.trim raw, .notSupported, issuedAt⟩ } } ∧
        (c.run v issuedAt (some device)).2.map (·.now) = some ended := by
  intro tl replied ended seen hend
  have houtcome : Outcome.ofReply (refusalPhrases ++ c.phrases) issuedAt tl.reply.result =
      .ok ⟨Text.trim raw, .notSupported, issuedAt⟩ := by
    rw [hreply, Outcome.ofReply, hrefused]
  have hover : (c.sessionOn v issuedAt device).cutShort tl = ended := by
    have hvariant : (c.sessionOn v issuedAt device).variant = v := rfl
    simp only [Session.cutShort, Session.listens, hvariant, ended]
    cases v.shortCircuit with
    | beforeDelay => simp [replied, Timeline.replied]
    | afterDelay =>
      by_cases hpost : v.postIssue = 0
      · simp [hpost, replied, Timeline.replied, Instant.wake_of_nanos_eq_zero]
      · simp [hpost, replied, Timeline.replied]
  have hrun := c.run_of_refused v issuedAt device houtcome rfl (hover ▸ hend)
  dsimp only at hrun
  rw [hover] at hrun
  exact hrun

/-- A device that refuses the reset and yet leaves for some seconds. -/
def Tabulated.reluctant : Tabulated where
  properties := []
  propertyFault := none
  gone := ⟨150, .reached⟩
  back := ⟨6000, .reached⟩
  reply := ⟨20, .ok " no usb ports\n"⟩

/-- The session ends a hundred milliseconds after the reply and reports that the device left. -/
theorem Check.run_skip_reluctant :
    let tl := standard.timeline .port .epoch Tabulated.reluctant
    tl.reply.result = .ok " no usb ports\n" ∧
      Support.classify (Text.trim " no usb ports\n") (refusalPhrases ++ standard.phrases) =
        .notSupported ∧
      (∀ x ∈ tl.sightings, x.instant ≠ 220) ∧
      (standard.run .port .epoch (some Tabulated.reluctant)).1 = .ok ⟨.skip,
        "port reset not supported on this device: no usb ports",
        ⟨"port", .awaitingReconnect, [⟨.awaitingReconnect, .ofMillis 50⟩],
          ⟨.ofMillis 5000, 1, .ofMillis 1000⟩, ⟨"no usb ports", .notSupported, .epoch⟩⟩⟩ ∧
      (standard.run .port .epoch (some Tabulated.reluctant)).2.map (·.now) = some 220 := by
  intro tl
  have hreply : tl.reply.result = .ok " no usb ports\n" := rfl
  have hrefused : Support.classify (Text.trim " no usb ports\n")
      (refusalPhrases ++ standard.phrases) = .notSupported := by decide +kernel
  have hend : ∀ x ∈ tl.sightings, x.instant ≠ 220 := by decide +kernel
  obtain ⟨hverdict, hover⟩ :=
    standard.run_skip .port .epoch Tabulated.reluctant hreply hrefused hend
  exact ⟨hreply, hrefused, hend, hverdict.trans (congrArg Except.ok (by decide +kernel)),
    hover.trans (by decide +kernel)⟩

/-- A device that refuses the reset, and yet leaves and is back after thirty-one years. -/
def Scripted.unwilling : Scripted where
  serial := "SN1"
  properties := []
  propertyFault := none
  reply := .ok "No USB ports"
  script := .reconnects (.ofMillis 5) (.ofMillis 977616000000)
  flips := []
  commands := []
  reads := 0

/-- The delay after the command is fifty years.  The session ends after thirty of them, and does not
report that the device was back a year later. -/
theorem Check.skip_ends_after_thirty_years :
    let c := { standard with base := .longest }
    let v := { Variant.port with postIssue := .ofMillis 1576800000000 }
    let tl := c.timeline v .epoch Scripted.unwilling
    v.shortCircuit = .afterDelay ∧ tl.replied = 100 ∧
      (⟨.reconnected, 977616000100⟩ : Sighting) ∈ tl.sightings ∧
      (977616000100 : Instant) < tl.replied + (v.postIssue.millis : Int) ∧
      (∃ verdict, (c.run v .epoch (some Scripted.unwilling)).1 = .ok verdict ∧ verdict.isSkip ∧
        verdict.report.milestones = [⟨.awaitingReconnect, .ofMillis 5⟩]) ∧
      (c.run v .epoch (some Scripted.unwilling)).2.map (·.now) = some 946080000100 :=
  ⟨rfl, by decide, by decide, by decide, ⟨_, rfl, rfl, rfl⟩, rfl⟩

end ResetCheck
