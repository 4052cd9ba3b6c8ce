import ResetCheck.Proofs.Session.Outage

/-!
# The verdict on an outage

The offsets of a script, the delays of the variant and the times of the budget decide what a check
finds.  Whether the check sees the device leave depends on the timeout, which is counted from the
start of the watch; whether the return counts depends on the window, which is counted from the
command.

* `Scripted.Outage.seen_of_le`, `Scripted.Outage.seen_of_lt`, `Scripted.Outage.seen_of_never`: what
  a session has seen of an outage, and when it is over.
* `Check.run_reconnects`: the verdict on an outage, and when the check is over.
-/

namespace ResetCheck

/-! ## The session -/

/-- What ends before the timeout of a budget ends within its window. -/
theorem Budget.le_window_of_lt_timeout (b : Budget) {n m : Nat} (h : m + n < b.timeout.ticks) :
    n ≤ b.window.millis := by
  have htimeout := Span.ticks_mono b.timeout_le_window
  have hticks := b.window.ticks_le_millis_succ
  omega

namespace Session

variable {s : Session} (hwindow : s.budget.window.seconds < Instant.spanLimit) (issued : Instant)

include hwindow

theorem deadline_eq : s.deadline issued = issued + s.budget.window.millis := by
  rw [deadline, Instant.limit?, if_pos hwindow]
  rfl

theorem timer_eq : s.timer issued = issued + s.budget.window.ticks := by
  rw [timer, Instant.alarm?, if_pos hwindow]
  rfl

end Session

namespace Scripted.Outage

variable {d : Scripted} {issue t : Instant} {away back : Span} {s : Session}
  (hissue : Instant.wake 0 s.variant.start = issue) (h : d.Outage issue away back)
  (hwindow : s.budget.window.seconds < Instant.spanLimit)

include hissue h

theorem listens_eq :
    s.listens (s.timeline d 0) = issue + (Instant.slept s.variant.postIssue : Nat) := by
  have hreplied : (s.timeline d 0).replied = issue := by
    rw [Timeline.replied, s.timeline_issue, timeline_reply s h.reply, hissue]
    exact Int.add_zero issue
  rw [Session.listens, hreplied, Instant.wake_eq]

include hwindow

/-- The last instant at which a sighting counts. -/
theorem limit_eq : max (s.listens (s.timeline d 0)) (s.deadline (s.timeline d 0).issue) =
    issue + (max (Instant.slept s.variant.postIssue) s.budget.window.millis : Nat) := by
  rw [listens_eq hissue h, s.timeline_issue, hissue, Session.deadline_eq hwindow, Instant.max_add]

theorem finish_eq {e : Instant} (he : (s.timeline d 0).finish? = some e) :
    s.finish (s.timeline d 0) = max (issue + (Instant.slept s.variant.postIssue : Nat))
      (min e (issue + s.budget.window.ticks)) := by
  rw [Session.finish, he, listens_eq hissue h, s.timeline_issue, hissue, Session.timer_eq hwindow]
  rfl

section Left

variable (hleft : Instant.slept s.variant.start + away.ticks < s.budget.timeout.ticks)
  (hlt : away.ticks < back.ticks)

include hleft hlt

/-- A session over an outage that ends in time sees the device leave and return. -/
theorem seen_of_le
    (hback : max (away.ticks + Instant.slept s.variant.settle) back.ticks ≤
      s.budget.window.millis)
    (htie : ¬(away.ticks = 0 ∧ Instant.slept s.variant.settle = 0 ∧
      .ofMillis back.ticks = s.budget.window)) :
    let returned := max (away.ticks + Instant.slept s.variant.settle) back.ticks
    s.seen (s.timeline d 0) =
        [⟨.awaitingReconnect, issue + away.ticks⟩, ⟨.reconnected, issue + (returned : Nat)⟩] ∧
      s.finish (s.timeline d 0) =
        issue + (max (Instant.slept s.variant.postIssue) returned : Nat) := by
  intro returned
  obtain ⟨hsightings, hfinish⟩ := sightings_of_le hissue h hwindow hleft hlt hback htie
  have haway := s.budget.le_window_of_lt_timeout hleft
  have hticks := s.budget.window.millis_le_ticks
  constructor
  · rw [Session.seen, hsightings, limit_eq hissue h hwindow, List.filter_eq_self]
    intro x hx
    simp only [List.mem_cons, List.not_mem_nil, or_false] at hx
    rw [decide_eq_true_eq]
    rcases hx with rfl | rfl
    · exact Int.add_le_add_left (Int.ofNat_le.2 (Nat.le_trans haway (Nat.le_max_right _ _))) _
    · exact Int.add_le_add_left (Int.ofNat_le.2 (Nat.le_trans hback (Nat.le_max_right _ _))) _
  · have hmin : min (issue + ((returned : Nat) : Int)) (issue + s.budget.window.ticks) =
        issue + (returned : Nat) :=
      Int.min_eq_left (Int.add_le_add_left (Int.ofNat_le.2 (Nat.le_trans hback hticks)) _)
    rw [finish_eq hissue h hwindow hfinish, hmin, Instant.max_add]

/-- A session over an outage that ends after the window sees the device leave. -/
theorem seen_of_lt
    (hpost : Instant.slept s.variant.postIssue ≤ s.budget.window.millis)
    (hback : s.budget.window.millis <
      max (away.ticks + Instant.slept s.variant.settle) back.ticks) :
    s.seen (s.timeline d 0) = [⟨.awaitingReconnect, issue + away.ticks⟩] ∧
      s.finish (s.timeline d 0) = issue + s.budget.window.ticks := by
  obtain ⟨e, hsightings, hfinish, htimer, hlate⟩ :=
    sightings_of_lt hissue h hwindow hleft hlt hback
  have haway := s.budget.le_window_of_lt_timeout hleft
  have hticks := s.budget.window.millis_le_ticks
  constructor
  · rw [Session.seen, hsightings, limit_eq hissue h hwindow, Nat.max_eq_right hpost,
      List.filter_cons_of_pos]
    · refine congrArg (_ :: ·) (List.filter_eq_nil_iff.2 fun x hx => ?_)
      obtain ⟨-, rfl⟩ := WaitEnd.mem_seen.1 hx
      simpa using hlate rfl
    · rw [decide_eq_true_eq]
      exact Int.add_le_add_left (Int.ofNat_le.2 haway) _
  · rw [finish_eq hissue h hwindow hfinish, Int.min_eq_right htimer, Instant.max_add,
      Nat.max_eq_right (Nat.le_trans hpost hticks)]

end Left

/-- A device that is hidden after the timeout, or for less than a millisecond, is not hidden while
the watch waits for that. -/
theorem shown_of_never
    (hnever : s.budget.timeout.millis < Instant.slept s.variant.start + away.ticks ∨
      away.ticks = back.ticks) (ht : 0 ≤ t) (hlt : t = 0 ∨ t < (s.budget.timeout.ticks : Int)) :
    visibleAfter (d.issued issue s.variant.command).flips t = true := by
  refine eq_true_of_ne_false fun hhidden => ?_
  obtain ⟨⟨a, ha, hle⟩, hback⟩ := (h.hidden_iff ht).1 hhidden
  obtain rfl := Instant.eq_of_alarm? ha
  have htimeout : s.budget.timeout.seconds < Instant.spanLimit :=
    Nat.lt_of_le_of_lt (Span.seconds_mono s.budget.timeout_le_window) hwindow
  -- The device is hidden when the wait begins, or before its time is over.
  obtain ⟨n, rfl⟩ := Int.eq_ofNat_of_zero_le ht
  rw [← hissue, Instant.wake_eq, Instant.add_add, Int.zero_add] at hle
  have hhides : Instant.slept s.variant.start + away.ticks ≤ n := Int.ofNat_le.1 hle
  have hwaits : n = 0 ∨ n < s.budget.timeout.ticks :=
    hlt.imp Int.ofNat_eq_zero.1 Int.ofNat_lt.1
  have hticks := s.budget.timeout.ticks_le_millis_succ
  rcases hnever with hafter | hshort
  · omega
  · by_cases hseconds : back.seconds < Instant.spanLimit
    · have hshows := hback _ (Instant.alarm?_of_seconds_lt _ hseconds)
      rw [← hissue, Instant.wake_eq, Instant.add_add, Int.zero_add] at hshows
      have := Int.ofNat_lt.1 hshows
      omega
    · have hlong : s.budget.timeout < back :=
        Span.lt_of_seconds_lt (Nat.lt_of_lt_of_le htimeout (Nat.not_lt.1 hseconds))
      have htrue : ¬back.ticks ≤ s.budget.timeout.millis := fun hle =>
        absurd (Span.le_of_ticks_le_millis hle) (Nat.not_le.2 hlong)
      omega

/-- A session does not see a device leave that is hidden after the timeout, or for less than a
millisecond. -/
theorem seen_of_never
    (hnever : s.budget.timeout.millis < Instant.slept s.variant.start + away.ticks ∨
      away.ticks = back.ticks) :
    s.seen (s.timeline d 0) = [] ∧
      s.finish (s.timeline d 0) = max (issue + (Instant.slept s.variant.postIssue : Nat))
        (s.budget.timeout.ticks : Nat) := by
  have htimeout : s.budget.timeout.seconds < Instant.spanLimit :=
    Nat.lt_of_le_of_lt (Span.seconds_mono s.budget.timeout_le_window) hwindow
  have hlimit : Instant.alarm? 0 s.budget.timeout = some (s.budget.timeout.ticks : Int) := by
    rw [Instant.alarm?_of_seconds_lt _ htimeout, Int.zero_add]
  obtain ⟨hsightings, e, hfinish, hend⟩ := timeline_failed hissue h hlimit fun t ht hlt =>
    shown_of_never hissue h hwindow hnever ht hlt
  constructor
  · rw [Session.seen, hsightings]
    rfl
  · have hwindow' := Int.ofNat_le.2 (Span.ticks_mono s.budget.timeout_le_window)
    rw [finish_eq hissue h hwindow hfinish]
    exact Instant.max_min_eq h.issue_nonneg hwindow' hend

end Scripted.Outage

/-! ## The verdict -/

theorem Observation.milestone_add (issued : Instant) (state : Connectivity) (n : Nat) :
    milestone issued ⟨state, issued + n⟩ = ⟨state, .ofMillis n⟩ := by
  rw [milestone, Instant.spanTo_add]

namespace Check

variable {σ : Type} [Device σ] (c : Check) (v : Variant) (issuedAt : WallTime) (device : σ)
  {outcome : Outcome}
  (houtcome : Outcome.ofReply (refusalPhrases ++ c.phrases) issuedAt
    (c.timeline v issuedAt device).reply.result = .ok outcome)
  (hsupport : ¬outcome.isNotSupported)

include houtcome hsupport

/-- When a check is over that followed its watch. -/
theorem over_of_follow :
    (c.run v issuedAt (some device)).2.map (·.now) =
      some ((c.sessionOn v issuedAt device).finish (c.timeline v issuedAt device)) := by
  obtain ⟨-, hover⟩ := (c.sessionOn v issuedAt device).run_of_follow (c.asked device) 0
    [.property c.policy.property] houtcome hsupport
  exact congrArg some hover

/-- The verdict of a check by what its session saw. -/
theorem verdict_of_seen {seen : List Sighting} {report : Report} {kind : VerdictKind}
    {reason : String}
    (hseen : (c.sessionOn v issuedAt device).seen (c.timeline v issuedAt device) = seen)
    (hreport : report = {
      variant := v.name
      final := Connectivity.awaitingDisconnect.last (seen.map (·.state))
      milestones := seen.map (Observation.milestone (c.timeline v issuedAt device).issue)
      budget := (c.sessionOn v issuedAt device).budget
      outcome })
    (hkind : report.kind = kind) (hreason : report.reason = reason) :
    (c.run v issuedAt (some device)).1 = .ok ⟨kind, reason, report⟩ := by
  subst hreport hseen hkind hreason
  exact c.run_of_follow v issuedAt device houtcome hsupport

end Check

/-- **The verdict on an outage.**  A script hides a device some time after the command and shows it
again later.  The times count in whole milliseconds, and no delay is longer than thirty years.  If
the device is hidden before the timeout is over, counted from the start of the check, and is seen
to be back within the window, counted from the command, the check passes; if it is back later, the
check fails at the end of the window; and if it is hidden later, or for less than a millisecond, the
check fails as if the device had never left. -/
theorem Check.run_reconnects (c : Check) (v : Variant) (issuedAt : WallTime) (device : Scripted)
    {away back : Span} {outcome : Outcome} (hscript : device.script = .reconnects away back)
    (hless : away < back) (hstill : device.Still)
    (houtcome : Outcome.ofReply (refusalPhrases ++ c.phrases) issuedAt device.reply = .ok outcome)
    (hsupport : outcome.support = .supported ∨ outcome.support = .unknown)
    (hwindow : (c.sessionOn v issuedAt device).budget.window.seconds < Instant.spanLimit)
    (hpost : .ofMillis (Instant.slept v.postIssue) ≤
      (c.sessionOn v issuedAt device).budget.window)
    (htie : ¬(away.ticks = 0 ∧ Instant.slept v.settle = 0 ∧
      .ofMillis back.ticks = (c.sessionOn v issuedAt device).budget.window)) :
    let budget := (c.sessionOn v issuedAt device).budget
    let start := Instant.slept v.start
    let post := Instant.slept v.postIssue
    let left := away.ticks
    let returned := max (left + Instant.slept v.settle) back.ticks
    let verdict := (c.run v issuedAt (some device)).1
    let ended : Option Instant := (c.run v issuedAt (some device)).2.map (·.now)
    (.ofMillis (start + left) < budget.timeout → left < back.ticks →
        (.ofMillis returned ≤ budget.window →
          verdict = .ok ⟨.pass,
            s!"usb disconnected and reconnected within {budget.window.millis} ms",
            ⟨v.name, .reconnected,
              [⟨.awaitingReconnect, .ofMillis left⟩, ⟨.reconnected, .ofMillis returned⟩],
              budget, outcome⟩⟩ ∧
          ended = some ((start + max post returned : Nat) : Int)) ∧
        (budget.window < .ofMillis returned →
          verdict = .ok ⟨.fail,
            s!"usb disconnected, but never reconnected within {budget.window.millis} ms",
            ⟨v.name, .awaitingReconnect, [⟨.awaitingReconnect, .ofMillis left⟩],
              budget, outcome⟩⟩ ∧
          ended = some ((start + budget.window.ticks : Nat) : Int))) ∧
      (budget.timeout < .ofMillis (start + left) ∨ left = back.ticks →
        verdict = .ok ⟨.fail, s!"usb never disconnected within {budget.window.millis} ms",
          ⟨v.name, .awaitingDisconnect, [], budget, outcome⟩⟩ ∧
        ended = some ((max (start + post) budget.timeout.ticks : Nat) : Int)) := by
  intro budget start post left returned verdict ended
  have hreply : ∀ text, device.reply ≠ .error (.rejected text) := by
    intro text h
    rw [h] at houtcome
    cases houtcome
  have h : (c.asked device).Outage (Instant.wake 0 v.start) away back :=
    ⟨⟨hstill.past, hstill.shown⟩, hscript, hreply, Nat.le_of_lt hless, Instant.le_wake 0 v.start⟩
  have hfollows := Outcome.not_isNotSupported hsupport
  have hanswer : (c.timeline v issuedAt device).reply = ⟨0, device.reply⟩ :=
    Scripted.timeline_reply (d := c.asked device) (c.sessionOn v issuedAt device) hreply
  have htold : Outcome.ofReply (refusalPhrases ++ c.phrases) issuedAt
      (c.timeline v issuedAt device).reply.result = .ok outcome := by
    rw [hanswer]
    exact houtcome
  have hissue : (c.timeline v issuedAt device).issue = Instant.wake 0 v.start :=
    Session.timeline_issue _ _ _
  have hlater : ∀ n : Nat, Instant.wake 0 v.start + (n : Int) = ((start + n : Nat) : Int) := by
    intro n
    rw [Instant.wake_eq, Instant.add_add, Int.zero_add]
  have htimeout : budget.timeout.seconds < Instant.spanLimit :=
    Nat.lt_of_le_of_lt (Span.seconds_mono budget.timeout_le_window) hwindow
  have hvariant : (c.sessionOn v issuedAt device).variant = v := rfl
  have hover := c.over_of_follow v issuedAt device htold hfollows
  rw [Span.ofMillis_le_iff hwindow] at hpost
  rw [Span.ofMillis_lt_iff htimeout, Span.ofMillis_le_iff hwindow, Span.lt_ofMillis_iff hwindow,
    Span.lt_ofMillis_iff htimeout]
  refine ⟨fun hleft hshown => ⟨fun hback => ?_, fun hback => ?_⟩, fun hnever => ?_⟩
  · obtain ⟨hseen, hfinish⟩ := Scripted.Outage.seen_of_le rfl h hwindow hleft hshown hback htie
    refine ⟨c.verdict_of_seen v issuedAt device htold hfollows hseen ?_ (if_neg hfollows)
      (if_neg hfollows), hover.trans (congrArg some (hfinish.trans (hlater _)))⟩
    simp only [hissue, hvariant, List.map_cons, List.map_nil, Observation.milestone_add]
    rfl
  · obtain ⟨hseen, hfinish⟩ := Scripted.Outage.seen_of_lt rfl h hwindow hleft hshown hpost hback
    refine ⟨c.verdict_of_seen v issuedAt device htold hfollows hseen ?_ (if_neg hfollows)
      (if_neg hfollows), hover.trans (congrArg some (hfinish.trans (hlater _)))⟩
    simp only [hissue, hvariant, List.map_cons, List.map_nil, Observation.milestone_add]
    rfl
  · obtain ⟨hseen, hfinish⟩ := Scripted.Outage.seen_of_never rfl h hwindow hnever
    refine ⟨c.verdict_of_seen v issuedAt device htold hfollows hseen rfl (if_neg hfollows)
      (if_neg hfollows), hover.trans (congrArg some (hfinish.trans ?_))⟩
    have hmax := Instant.max_add 0 (start + post) budget.timeout.ticks
    rw [Int.zero_add, Int.zero_add, Int.zero_add] at hmax
    rw [hvariant, hlater]
    exact hmax

theorem Scripted.still_brief : Scripted.brief.Still :=
  ⟨by simp [brief], rfl⟩

/-- The link settles long after the device is back, and that is when the device is seen. -/
theorem Check.run_reconnects_brief :
    Scripted.brief.script = .reconnects (.ofMillis 5) (.ofMillis 10) ∧
      Outcome.ofReply (refusalPhrases ++ standard.phrases) .epoch Scripted.brief.reply =
        .ok ⟨"", .supported, .epoch⟩ ∧
      (standard.run .gadget .epoch (some Scripted.brief)).1 = .ok ⟨.pass,
        "usb disconnected and reconnected within 5000 ms",
        ⟨"gadget", .reconnected,
          [⟨.awaitingReconnect, .ofMillis 5⟩, ⟨.reconnected, .ofMillis 305⟩],
          ⟨.ofMillis 5000, 1, 0⟩, ⟨"", .supported, .epoch⟩⟩⟩ ∧
      (standard.run .gadget .epoch (some Scripted.brief)).2.map (·.now) = some 405 := by
  have houtcome : Outcome.ofReply (refusalPhrases ++ standard.phrases) .epoch
      Scripted.brief.reply = .ok ⟨"", .supported, .epoch⟩ := rfl
  obtain ⟨hleaves, -⟩ := standard.run_reconnects .gadget .epoch Scripted.brief rfl (by decide)
    Scripted.still_brief houtcome (.inl rfl) (by decide +kernel) (by decide +kernel)
    (fun h => absurd h.1 (by decide))
  obtain ⟨hverdict, hover⟩ := (hleaves (by decide +kernel) (by decide)).1 (by decide +kernel)
  exact ⟨rfl, houtcome, hverdict.trans (congrArg Except.ok (by decide +kernel)),
    hover.trans (by decide +kernel)⟩

/-- A device that is away for half a millisecond after a command. -/
def Scripted.fleeting : Scripted :=
  { brief with script := .reconnects (.ofNanos 200000) (.ofNanos 700000) }

/-- With forty years for the link to settle, the device is seen to be back after thirty of them.
With an outage that begins and ends in the same millisecond, it is not seen to leave. -/
theorem Check.outages_beyond_timers :
    let years := Span.ofMillis 1576800000000
    let c := { standard with base := years }
    let v := { Variant.gadget with settle := .ofMillis 1261440000000 }
    (v.start + .ofMillis 5 < years ∧ .ofMillis 5 + v.settle ≤ years ∧
      ∃ verdict, (c.run v .epoch (some Scripted.brief)).1 = .ok verdict ∧ verdict.isPass ∧
        verdict.report.budget = ⟨years, 1, 0⟩ ∧
        verdict.report.milestones =
          [⟨.awaitingReconnect, .ofMillis 5⟩, ⟨.reconnected, .ofMillis 946080000005⟩]) ∧
      Variant.gadget.start + .ofNanos 200000 < standard.base ∧
      .ofNanos 200000 + Variant.gadget.settle ≤ standard.base ∧
      ∃ verdict, (standard.run .gadget .epoch (some Scripted.fleeting)).1 = .ok verdict ∧
        verdict.reason = "usb never disconnected within 5000 ms" ∧
        verdict.report.budget = ⟨standard.base, 1, 0⟩ :=
  ⟨⟨by decide, by decide, _, rfl, rfl, rfl, rfl⟩, by decide, by decide, _, rfl, rfl, rfl⟩

end ResetCheck
