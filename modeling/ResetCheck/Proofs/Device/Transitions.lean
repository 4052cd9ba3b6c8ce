import ResetCheck.Proofs.Bridge.Reply
import ResetCheck.Proofs.Device.Polled
import ResetCheck.Proofs.Session.Noted
import ResetCheck.Proofs.Session.Window

/-!
# Transitions seen by polling

A check of a device behind the bridge sees the device go and return by what the polls of its two
waits show.  So it passes only on polls that show the device first on the host, then gone, and then
back.  And a poll that fails ends its wait, so that the check sees nothing more.

* `Session.noted_sublist`: a session observes nothing that its watch did not see.
* `Bridged.Transits`: the polls that show a device go and return.
* `Check.run_transits`: what a check makes of the answers of the bridge.
-/

namespace ResetCheck

/-! ## What a session observes -/

namespace Session

variable {σ : Type} [Device σ] (s : Session) (device : σ) (now : Instant) (calls : List Call)

theorem noted_sublist (outcome : Outcome) :
    (s.noted device now calls outcome).Sublist (s.timeline device now).sightings := by
  rw [noted]
  split
  · obtain ⟨later, hlater, -⟩ := Watch.exists_alone_queue (w := s.refused device now calls)
    rw [← s.refused_queue device now calls, hlater]
    exact List.sublist_append_left _ _
  · exact List.filter_sublist

/-- What a device does before the time to leave is over is within the window, unless that is longer
than the session lasts. -/
theorem le_deadline_of_early {left issue : Instant} (hissue : now ≤ issue)
    (hearly : ∀ e ∈ now.alarm? s.budget.timeout, left < e) (hfar : left ≤ issue.far) :
    left ≤ s.deadline issue := by
  have hle := s.budget.timeout_le_window
  rw [deadline, Instant.limit?]
  split
  · next hshort =>
    have htimeout : s.budget.timeout.seconds < Instant.spanLimit :=
      Nat.lt_of_le_of_lt (Span.seconds_mono hle) hshort
    have halarm := hearly _ (Instant.alarm?_of_seconds_lt now htimeout)
    have hmillis : s.budget.timeout.millis ≤ s.budget.window.millis := Nat.div_le_div_right hle
    have hticks := Span.ticks_le_millis_succ (a := s.budget.timeout)
    rw [Option.getD_some]
    unfold Instant at *
    omega
  · exact hfar

end Session

namespace Check

section AnyDevice

variable {σ : Type} [Device σ] (c : Check) (v : Variant) (issuedAt : WallTime) (device : σ)

theorem issue_le : (0 : Instant) ≤ (c.timeline v issuedAt device).issue := by
  rw [timeline, Session.timeline_issue]
  exact Instant.le_wake _ _

/-- The report of any verdict is what its session observed. -/
theorem exists_noted {verdict : Verdict} (hrun : (c.run v issuedAt (some device)).1 = .ok verdict) :
    ∃ outcome seen, seen = (c.sessionOn v issuedAt device).noted (c.asked device) 0
        [.property c.policy.property] outcome ∧
      verdict.report.outcome = outcome ∧
      verdict.report.milestones =
        seen.map (Observation.milestone (c.timeline v issuedAt device).issue) ∧
      verdict.report.final = Connectivity.awaitingDisconnect.last (seen.map (·.state)) := by
  have hjudged : (c.sessionOn v issuedAt device).judged (c.asked device) 0
      [.property c.policy.property] = .ok verdict := hrun
  cases houtcome : Outcome.ofReply (c.sessionOn v issuedAt device).phrases
      (c.sessionOn v issuedAt device).issuedAt
      ((c.sessionOn v issuedAt device).timeline (c.asked device) 0).reply.result with
  | error e =>
    rw [Session.judged_of_error _ _ _ _ houtcome] at hjudged
    cases hjudged
  | ok outcome =>
    have hverdict := hjudged.symm.trans (Session.judged_of_outcome _ _ _ _ houtcome)
    obtain rfl := Except.ok.inj hverdict
    exact ⟨outcome, _, rfl, rfl, List.nil_append _, rfl⟩

end AnyDevice

end Check

/-! ## Devices behind the bridge -/

namespace Bridged

theorem poll_of_output {d : Bridged} (h : d.bridge.obstacle? (.state d.serial) = none)
    (o : Output) :
    d.poll (.ok o) = .ok o.isOnline := by
  have hstarts : d.bridge.outcome (.state d.serial) (.ok o) = .ok o := by
    simp only [Bridge.outcome, h]
  rw [poll, hstarts]

theorem poll_of_unstarted {d : Bridged} (h : d.bridge.obstacle? (.state d.serial) = none)
    (reason : String) : ∃ fault, d.poll (.error reason) = .error fault := by
  have hfails : d.bridge.outcome (.state d.serial) (.error reason) =
      .error (.process s!"failed to execute {d.bridge.path}: {reason}") := by
    simp only [Bridge.outcome, h]
  rw [poll, hfails]
  exact ⟨_, rfl⟩

theorem exists_transport_of_poll {d : Bridged} {launch : Launch} {fault : DeviceFault}
    (h : d.poll launch = .error fault) : ∃ text, fault = .transport text := by
  rw [poll] at h
  split at h
  · cases h
  · exact ⟨_, (Except.error.inj h).symm⟩

/-- Whether polls show a device on the host until poll `k`, then gone, and back with poll `m`.  None
of them fails. -/
structure Transits (d : Bridged) (a : Answers) (k m : Nat) : Prop where
  lt : k < m
  before : ∀ i < k, d.poll (a.nth i) = .ok true
  leaves : d.poll (a.nth k) = .ok false
  away : ∀ i, k < i → i < m → d.poll (a.nth i) = .ok false
  returns : d.poll (a.nth m) = .ok true

/-- The polls of two waits, one after the other, show a device go and return. -/
theorem Polls.transits {d : Bridged} {a : Answers} {k n : Nat} {w w' : Wait} (h : d.Polls w a k)
    (h' : d.Polls w' (a.drop (k + 1)) n) (hgone : w.wanted = .gone) (hback : w'.wanted = .back)
    (hleaves : d.poll (a.nth k) = .ok (!opposite w))
    (hreturns : d.poll (a.nth (k + 1 + n)) = .ok (!opposite w')) :
    d.Transits a k (k + 1 + n) where
  lt := by omega
  before i hi := by
    have hshows := h.unshown i hi
    rwa [opposite, hgone] at hshows
  leaves := by rwa [not_opposite, hgone] at hleaves
  away i hk hm := by
    have hshows := h'.unshown (i - (k + 1)) (by omega)
    rw [opposite, hback, Answers.nth_drop, Nat.add_sub_cancel' hk] at hshows
    exact hshows
  returns := by rwa [not_opposite, hback] at hreturns

theorem Agrees.waitOver {d' d : Bridged} (h : d'.Agrees d) : d'.waitOver = d.waitOver := by
  funext w a
  exact h.pollFrom w _ _ _ _

end Bridged

namespace Check

section Polled

variable (c : Check) (v : Variant) (issuedAt : WallTime) (d : Bridged)

/-- The first wait of a check. -/
def leaving : Wait :=
  ⟨.gone, 0, (c.sessionOn v issuedAt d).budget.timeout⟩

/-- The second wait of a check, if the device left at an instant. -/
def returning (left : Instant) : Wait :=
  ⟨.back, left.wake v.settle, (c.sessionOn v issuedAt d).budget.window⟩

/-- The two waits of a check of a device behind the bridge, as the answers of the bridge have it. -/
theorem timeline_bridged :
    let tl := c.timeline v issuedAt d
    let gone := d.waitOver (c.leaving v issuedAt d) d.bridge.states
    tl.gone = gone.1.map (Bridged.waitEnd (c.leaving v issuedAt d)) ∧
      tl.back = d.endAfter (c.returning v issuedAt d) gone.2 tl.gone := by
  obtain ⟨hagrees, hstates⟩ := d.agrees_property c.policy.property
  have hwaits := Bridged.timeline_waits (c.sessionOn v issuedAt d) (c.asked d) 0
  have hover : (c.asked d).waitOver = d.waitOver := hagrees.waitOver
  have hafter : (c.asked d).endAfter = d.endAfter := by
    funext wait a gone
    rcases gone with _ | ⟨left, _ | _ | _⟩
    · rfl
    · rw [Bridged.endAfter_reached, Bridged.endAfter_reached, hover]
    · rfl
    · rfl
  have hanswers : (c.asked d).bridge.states = d.bridge.states := hstates
  rw [hover, hafter, hanswers] at hwaits
  exact hwaits

/-- A check passes only if the polls of its two waits show the device go and return. -/
theorem transits_of_isPass {verdict : Verdict}
    (hrun : (c.run v issuedAt (some d)).1 = .ok verdict) (hpass : verdict.isPass) :
    let a := d.bridge.states
    ∃ k m, d.Transits a k m ∧
      let issue := (c.timeline v issuedAt d).issue
      let left := d.shownTime a 0 k
      let back := d.shownTime (a.drop (k + 1)) (left.wake v.settle) (m - (k + 1))
      verdict.report.milestones =
        [⟨.awaitingReconnect, issue.spanTo left⟩, ⟨.reconnected, issue.spanTo back⟩] := by
  intro a
  obtain ⟨outcome, -, -, hreport, x, hx, hstate, hle⟩ :=
    c.exists_return_of_isPass v issuedAt d hrun hpass
  obtain ⟨hgone, hback⟩ := c.timeline_bridged v issuedAt d
  have hxback : (c.timeline v issuedAt d).back = some ⟨x.instant, .reached⟩ := by
    rcases Timeline.mem_sightings.1 (List.mem_filter.1 hx).1 with ⟨hother, -⟩ | ⟨-, h⟩
    · rw [hstate] at hother
      cases hother
    · exact h
  have hwait := hback.symm.trans hxback
  obtain ⟨left, hleft⟩ := Bridged.exists_of_endAfter hwait
  rw [hleft, Bridged.endAfter_reached] at hwait
  obtain ⟨k, hpolls, -, hleaves, rfl, hrest⟩ :=
    Bridged.exists_poll_of_reached (hgone.symm.trans hleft)
  rw [hrest] at hwait
  obtain ⟨n, hpolls', -, hreturns, hinstant, -⟩ := Bridged.exists_poll_of_reached hwait
  rw [Answers.nth_drop] at hreturns
  refine ⟨k, k + 1 + n, hpolls.transits hpolls' rfl rfl hleaves hreturns, ?_⟩
  intro issue left back
  have hn : k + 1 + n - (k + 1) = n := Nat.add_sub_cancel_left _ _
  have hxinstant : x.instant = back := by
    show x.instant = d.shownTime _ _ (k + 1 + n - (k + 1))
    rw [hn]
    exact hinstant
  -- what was seen is all there was to see, since the return was seen
  have hsightings : (c.timeline v issuedAt d).sightings =
      [⟨.awaitingReconnect, left⟩, ⟨.reconnected, back⟩] := by
    rw [Timeline.sightings, hleft, hxback, hxinstant]
    rfl
  have hseen : (c.sessionOn v issuedAt d).seen (c.timeline v issuedAt d) =
      (c.timeline v issuedAt d).sightings := by
    have hlast := of_decide_eq_true (List.mem_filter.1 hx).2
    have horder : left ≤ back :=
      Int.le_trans (Instant.le_wake _ _) (d.le_shownTime _ _ _)
    rw [hxinstant] at hlast
    refine List.filter_eq_self.2 fun y hy => decide_eq_true ?_
    rw [hsightings, List.mem_cons, List.mem_singleton] at hy
    rcases hy with rfl | rfl
    · exact Int.le_trans horder hlast
    · exact hlast
  rw [hreport, reportOn_milestones, hseen, hsightings]
  rfl

/-- A check whose first wait fails sees nothing. -/
theorem of_leaving_failed {n : Nat} {fault : DeviceFault}
    (hpolls : d.Polls (c.leaving v issuedAt d) d.bridge.states n)
    (hfailed : d.poll (d.bridge.states.nth n) = .error fault) :
    let tl := c.timeline v issuedAt d
    tl.gone = some ⟨d.pollTime d.bridge.states 0 n, .failed fault⟩ ∧ tl.back = none ∧
      ∀ verdict, (c.run v issuedAt (some d)).1 = .ok verdict →
        verdict.report.milestones = [] ∧ verdict.report.final = .awaitingDisconnect := by
  intro tl
  obtain ⟨hgone, hback⟩ := c.timeline_bridged v issuedAt d
  have hleft : tl.gone = some ⟨d.pollTime d.bridge.states 0 n, .failed fault⟩ :=
    hgone.trans (Bridged.waitOver_of_failed hpolls hfailed).1
  have hnone : tl.back = none := by
    rw [show (c.timeline v issuedAt d).gone = _ from hleft] at hback
    exact hback
  refine ⟨hleft, hnone, fun verdict hrun => ?_⟩
  have hsightings : tl.sightings = [] := by
    rw [Timeline.sightings, hleft, hnone]
    rfl
  obtain ⟨outcome, seen, hseen, -, hmilestones, hfinal⟩ := c.exists_noted v issuedAt d hrun
  have hsub : seen.Sublist tl.sightings := hseen ▸ Session.noted_sublist _ _ _ _ outcome
  rw [hsightings, List.sublist_nil] at hsub
  rw [hmilestones, hfinal, hsub]
  exact ⟨rfl, rfl⟩

/-- A check whose second wait fails has seen the device go, and sees nothing after that. -/
theorem of_returning_failed {k n : Nat} {fault : DeviceFault} :
    let a := d.bridge.states
    let tl := c.timeline v issuedAt d
    let left := d.shownTime a 0 k
    d.Polls (c.leaving v issuedAt d) a k →
    (∀ e ∈ Instant.alarm? 0 (c.sessionOn v issuedAt d).budget.timeout, left < e) →
    d.poll (a.nth k) = .ok false →
    d.Polls (c.returning v issuedAt d left) (a.drop (k + 1)) n →
    d.poll (a.nth (k + 1 + n)) = .error fault →
    tl.gone = some ⟨left, .reached⟩ ∧
      tl.back = some ⟨d.pollTime (a.drop (k + 1)) (left.wake v.settle) n, .failed fault⟩ ∧
      ∀ verdict, (c.run v issuedAt (some d)).1 = .ok verdict →
        (verdict.report.milestones <+: [⟨.awaitingReconnect, tl.issue.spanTo left⟩] ∧
          verdict.report.final ≠ .reconnected) ∧
        (¬verdict.report.outcome.isNotSupported → left ≤ tl.issue.far →
          verdict.report.milestones = [⟨.awaitingReconnect, tl.issue.spanTo left⟩] ∧
            verdict.report.final = .awaitingReconnect) := by
  intro a tl left hpolls hearly hleaves hpolls' hfailed
  obtain ⟨hgone, hback⟩ := c.timeline_bridged v issuedAt d
  obtain ⟨hreached, hrest⟩ := Bridged.waitOver_of_shown hpolls hearly hleaves
  have hleft : tl.gone = some ⟨left, .reached⟩ := hgone.trans hreached
  rw [← Answers.nth_drop] at hfailed
  have hreturn : tl.back =
      some ⟨d.pollTime (a.drop (k + 1)) (left.wake v.settle) n, .failed fault⟩ := by
    rw [show (c.timeline v issuedAt d).gone = _ from hleft, hrest] at hback
    exact hback.trans (Bridged.waitOver_of_failed hpolls' hfailed).1
  refine ⟨hleft, hreturn, fun verdict hrun => ?_⟩
  have hsightings : tl.sightings = [⟨.awaitingReconnect, left⟩] := by
    rw [Timeline.sightings, hleft, hreturn]
    rfl
  obtain ⟨outcome, seen, hseen, houtcome, hmilestones, hfinal⟩ := c.exists_noted v issuedAt d hrun
  have hsub : seen.Sublist tl.sightings := hseen ▸ Session.noted_sublist _ _ _ _ outcome
  rw [hsightings, List.sublist_cons_iff] at hsub
  rw [hmilestones, hfinal]
  constructor
  · rcases hsub with hnil | ⟨later, rfl, hnil⟩
    · rw [List.sublist_nil.1 hnil]
      refine ⟨List.nil_prefix, ?_⟩
      intro h
      cases h
    · rw [List.sublist_nil.1 hnil]
      refine ⟨List.prefix_rfl, ?_⟩
      intro h
      cases h
  · intro hsupport hfar
    rw [houtcome] at hsupport
    have hdeadline := (c.sessionOn v issuedAt d).le_deadline_of_early 0
      (c.issue_le v issuedAt d) hearly hfar
    have hall : seen = tl.sightings := by
      rw [hseen, Session.noted, if_neg hsupport]
      refine List.filter_eq_self.2 fun y hy => decide_eq_true ?_
      rw [show (Session.timeline _ _ _).sightings = _ from hsightings, List.mem_singleton] at hy
      subst hy
      exact Int.le_trans hdeadline (Int.le_max_right _ _)
    rw [hall, hsightings]
    exact ⟨rfl, rfl⟩

end Polled

/-- **No transition is invented.**  A check of a device behind the bridge passes only on polls that
show the device on the host, then gone, and then, after the link settled, back, and none of which
failed.  A poll that fails ends its wait with the fault of the transport, and the check has seen
nothing but what the wait before it reached. -/
theorem run_transits (c : Check) (v : Variant) (issuedAt : WallTime) (d : Bridged) :
    let a := d.bridge.states
    let tl := c.timeline v issuedAt d
    let result := (c.run v issuedAt (some d)).1
    (∀ verdict, result = .ok verdict → verdict.isPass →
      ∃ k m, d.Transits a k m ∧
        let left := d.shownTime a 0 k
        let back := d.shownTime (a.drop (k + 1)) (left.wake v.settle) (m - (k + 1))
        verdict.report.milestones =
          [⟨.awaitingReconnect, tl.issue.spanTo left⟩, ⟨.reconnected, tl.issue.spanTo back⟩]) ∧
      (∀ n fault, d.Polls (c.leaving v issuedAt d) a n → d.poll (a.nth n) = .error fault →
        (∃ text, fault = .transport text) ∧
          tl.gone = some ⟨d.pollTime a 0 n, .failed fault⟩ ∧ tl.back = none ∧
          ∀ verdict, result = .ok verdict →
            verdict.report.milestones = [] ∧ verdict.report.final = .awaitingDisconnect) ∧
      ∀ k n fault, d.Polls (c.leaving v issuedAt d) a k →
        let left := d.shownTime a 0 k
        (∀ e ∈ Instant.alarm? 0 (c.sessionOn v issuedAt d).budget.timeout, left < e) →
        d.poll (a.nth k) = .ok false →
        d.Polls (c.returning v issuedAt d left) (a.drop (k + 1)) n →
        d.poll (a.nth (k + 1 + n)) = .error fault →
        (∃ text, fault = .transport text) ∧
          tl.gone = some ⟨left, .reached⟩ ∧
          tl.back = some ⟨d.pollTime (a.drop (k + 1)) (left.wake v.settle) n, .failed fault⟩ ∧
          ∀ verdict, result = .ok verdict →
            (verdict.report.milestones <+: [⟨.awaitingReconnect, tl.issue.spanTo left⟩] ∧
              verdict.report.final ≠ .reconnected) ∧
            (¬verdict.report.outcome.isNotSupported → left ≤ tl.issue.far →
              verdict.report.milestones = [⟨.awaitingReconnect, tl.issue.spanTo left⟩] ∧
                verdict.report.final = .awaitingReconnect) := by
  intro a tl result
  refine ⟨fun verdict hrun hpass => c.transits_of_isPass v issuedAt d hrun hpass, ?_, ?_⟩
  · intro n fault hpolls hfailed
    exact ⟨Bridged.exists_transport_of_poll hfailed,
      c.of_leaving_failed v issuedAt d hpolls hfailed⟩
  · intro k n fault hpolls left hearly hleaves hpolls' hfailed
    exact ⟨Bridged.exists_transport_of_poll hfailed,
      c.of_returning_failed v issuedAt d hpolls hearly hleaves hpolls' hfailed⟩

end Check

/-! ## A device that goes -/

namespace Bridged

/-- A device that shows itself, is gone for two polls, and then gives a last answer.  Each answer
but the last takes 40 milliseconds, and a second later comes the next poll. -/
def departing (last : Launch) : Bridged :=
  let silent := Answers.always (.ok ⟨[], [], 0, 0⟩)
  let online : Launch := .ok { Output.ofTexts "device\n" "" 0 with duration := 40 }
  let offline : Launch :=
    .ok { Output.ofTexts "" "error: device not found\n" 1 with duration := 40 }
  ⟨⟨"adb", silent, silent, silent, ⟨online, [offline, offline, last]⟩, []⟩, "SN1",
    .ofMillis 1000⟩

theorem starts_departing (last : Launch) :
    (departing last).bridge.obstacle? (.state (departing last).serial) = none := by
  have hplain : ["adb", "-s", "SN1", "get-state"].any (·.toList.contains '\x00') = false := by
    decide +kernel
  exact if_neg (Bool.eq_false_iff.1 hplain)

theorem poll_departing (last : Launch) :
    (departing last).poll ((departing last).bridge.states.nth 0) = .ok true ∧
      (departing last).poll ((departing last).bridge.states.nth 1) = .ok false ∧
      (departing last).poll ((departing last).bridge.states.nth 2) = .ok false := by
  have honline : (Output.ofTexts "device\n" "" 0).isOnline = true := by decide +kernel
  have hoffline : (Output.ofTexts "" "error: device not found\n" 1).isOnline = false := by
    decide +kernel
  refine ⟨?_, ?_, ?_⟩
  · exact (poll_of_output (starts_departing last) _).trans (congrArg _ honline)
  · exact (poll_of_output (starts_departing last) _).trans (congrArg _ hoffline)
  · exact (poll_of_output (starts_departing last) _).trans (congrArg _ hoffline)

/-- The device returns with the fourth poll. -/
def rejoining : Bridged :=
  departing (.ok (.ofTexts "device\n" "" 0))

/-- The bridge does not start for the fourth poll. -/
def stranded : Bridged :=
  departing (.error "No such file")

end Bridged

theorem Check.run_transits_departing :
    (∃ verdict k m, (standard.run .gadget .epoch (some Bridged.rejoining)).1 = .ok verdict ∧
        verdict.isPass ∧ Bridged.rejoining.Transits Bridged.rejoining.bridge.states k m) ∧
      ∃ text, (standard.timeline .gadget .epoch Bridged.stranded).gone = some ⟨1080, .reached⟩ ∧
        (standard.timeline .gadget .epoch Bridged.stranded).back =
          some ⟨2420, .failed (.transport text)⟩ := by
  constructor
  · have hpasses : (standard.run .gadget .epoch (some Bridged.rejoining)).1.toOption.any
        (·.isPass) = true := by
      decide +kernel
    cases hrun : (standard.run .gadget .epoch (some Bridged.rejoining)).1 with
    | error e =>
      rw [hrun] at hpasses
      cases hpasses
    | ok verdict =>
      rw [hrun] at hpasses
      obtain ⟨k, m, htransits, -⟩ :=
        (run_transits standard .gadget .epoch .rejoining).1 verdict hrun hpasses
      exact ⟨verdict, k, m, rfl, hpasses, htransits⟩
  · obtain ⟨hzero, hone, htwo⟩ := Bridged.poll_departing (.error "No such file")
    obtain ⟨fault, hfault⟩ :=
      Bridged.poll_of_unstarted (Bridged.starts_departing (.error "No such file")) "No such file"
    let d := Bridged.stranded
    let rest := d.bridge.states.drop 2
    have hleft : d.shownTime d.bridge.states 0 1 = 1080 := by decide +kernel
    have hlost : d.pollTime rest (Instant.wake 1080 Variant.gadget.settle) 1 = 2420 := by
      decide +kernel
    have hleave : ∀ i ≤ 1, ∀ e ∈ Instant.alarm? 0
        (standard.sessionOn .gadget .epoch d).budget.timeout,
        d.shownTime d.bridge.states 0 i < e := by
      decide +kernel
    have hreturn : ∀ i ≤ 1, ∀ e ∈ Instant.alarm? (Instant.wake 1080 Variant.gadget.settle)
        (standard.sessionOn .gadget .epoch d).budget.window,
        d.shownTime rest (Instant.wake 1080 Variant.gadget.settle) i < e := by
      decide +kernel
    have hpolls : d.Polls (standard.leaving .gadget .epoch d) d.bridge.states 1 := by
      refine Bridged.polls_of_early (fun i hi => ?_) hleave
      obtain rfl := Nat.lt_one_iff.1 hi
      exact hzero
    have hpolls' : d.Polls
        (standard.returning .gadget .epoch d (d.shownTime d.bridge.states 0 1)) rest 1 := by
      rw [hleft]
      refine Bridged.polls_of_early (fun i hi => ?_) hreturn
      obtain rfl := Nat.lt_one_iff.1 hi
      exact htwo
    obtain ⟨⟨text, rfl⟩, hgone, hback, -⟩ :=
      (run_transits standard .gadget .epoch d).2.2 1 1 fault hpolls
        (hleave 1 (Nat.le_refl 1)) hone hpolls' hfault
    rw [hleft] at hgone hback
    exact ⟨text, hgone, hlost ▸ hback⟩

end ResetCheck
