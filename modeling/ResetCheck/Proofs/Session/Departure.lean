import ResetCheck.Proofs.Device.Scripted
import ResetCheck.Proofs.Session.Judged

/-!
# Whether a device was seen to leave

A check that fails because the device never left speaks of the window, which is counted from the
command.  The watch waits for the device to leave from its own start on, and gives up when the time
for that is over.  Between the two ends a device may leave unseen.

* `Scripted.gone_of_hidden`, `Scripted.hidden_of_gone`: the watch sees a device leave if and only if
  the device is hidden while the watch waits for that.
* `Report.reason_eq_never_iff`: the reason of a report tells the state it ends in.
* `Check.not_never_left_iff`: when exactly a check does not fail because the device never left.
-/

namespace ResetCheck

/-! ## Leaving -/

namespace Scripted

variable {d : Scripted} {now issue t : Instant} {command : String} {b : Stage Scripted}

/-- A watch over a device begins before the command is issued or right after it. -/
def Begun (d : Scripted) (now issue : Instant) (command : String) (b : Stage Scripted) : Prop :=
  b = ⟨d, none⟩ ∧ now < issue ∨ b = ⟨d.issued issue command, some ⟨0, d.reply⟩⟩

theorem Begun.issued_eq (hb : d.Begun now issue command b)
    (hreply : ∀ text, d.reply ≠ .error (.rejected text)) :
    b.issued issue command = (⟨0, d.reply⟩, d.issued issue command) := by
  rcases hb with ⟨rfl, -⟩ | rfl
  · exact execute_eq hreply
  · rfl

/-- A wait that is not over when the command is issued ends as the device shows after it. -/
theorem Begun.await_of_late (hb : d.Begun now issue command b)
    (hreply : ∀ text, d.reply ≠ .error (.rejected text)) {w : Wait}
    (he : b.early? issue w = none) :
    (b.await issue command w).1 =
      ((d.issued issue command).await w).map fun a =>
        ⟨max issue (w.since + a.after), a.result⟩ := by
  rw [Stage.await_of_late he, hb.issued_eq hreply]
  rfl

/-- The instant at which a wait was given up. -/
theorem alarm?_of_await {w : Wait} {answer : WaitAnswer} (hscript : d.script ≠ .transportFailure)
    (h : d.await w = some answer) (hr : answer.result ≠ .reached) :
    w.since.alarm? w.timeout = some (w.since + answer.after) := by
  have hgiveUp : giveUp? w = some answer →
      w.since.alarm? w.timeout = some (w.since + answer.after) := by
    intro hg
    rw [giveUp?, Option.map_eq_some_iff] at hg
    obtain ⟨deadline, halarm, rfl⟩ := hg
    have hle : w.since ≤ deadline := by
      rw [Instant.alarm?] at halarm
      split at halarm
      · exact Option.some.inj halarm ▸ Int.le_add_of_nonneg_right (Int.natCast_nonneg _)
      · cases halarm
    rw [halarm]
    unfold Instant at *
    dsimp only
    congr 1
    omega
  rw [await, if_neg hscript] at h
  split at h
  · split at h
    · exact absurd (Option.some.inj h ▸ rfl) hr
    · exact hgiveUp h
  · exact hgiveUp h

/-- The watch sees the device leave if the device is hidden while the watch waits for that. -/
theorem gone_of_hidden {w : Wait} (hw : w.wanted = .gone) (hb : d.Begun w.since issue command b)
    (hhides : d.script.Hides) (hreply : ∀ text, d.reply ≠ .error (.rejected text))
    (ht : w.Covers t) (hhidden : visibleAfter (d.flipsAfter issue) t = false) :
    ∃ e, (b.await issue command w).1 = some ⟨e, .reached⟩ ∧ e ≤ max issue t := by
  have hscript : d.script ≠ .transportFailure := by
    intro h
    rw [h] at hhides
    exact hhides
  cases he : b.early? issue w with
  | none =>
    have hs : (d.issued issue command).satisfies w.wanted t := hw ▸ satisfies_gone.2 hhidden
    obtain ⟨t₁, hle, hsince, hawait⟩ := await_of_satisfies (d := d.issued issue command) hscript
      ht hs
    rw [hb.await_of_late hreply he, hawait]
    refine ⟨_, rfl, ?_⟩
    unfold Instant at *
    dsimp only
    omega
  | some early =>
    obtain ⟨e, st⟩ := early
    obtain ⟨answer, device, hnone, ha, hend, rfl, rfl⟩ := Stage.early?_eq_some he
    obtain ⟨rfl, hlt⟩ | rfl := hb
    · have hanswer : d.await w = some answer := congrArg Prod.fst ha
      rw [Stage.await, he]
      by_cases hr : answer.result = .reached
      · exact ⟨_, by rw [hr], Int.le_trans hend (Int.le_max_left _ _)⟩
      · -- the wait was given up before the command, so the device was visible all along
        have halarm := alarm?_of_await hscript hanswer hr
        have hbefore : t < issue := by
          obtain ⟨-, rfl | hcovers⟩ := ht
          · exact hlt
          · rw [halarm, Option.all_some, decide_eq_true_eq] at hcovers
            exact Int.lt_of_lt_of_le hcovers hend
        have hs : d.satisfies w.wanted t := by
          rw [flipsAfter, visibleAfter_append_flips hbefore] at hhidden
          exact hw ▸ satisfies_gone.2 hhidden
        obtain ⟨t₁, -, -, hreached⟩ := await_of_satisfies hscript ht hs
        rw [hanswer] at hreached
        exact absurd (congrArg WaitAnswer.result (Option.some.inj hreached)) hr
    · cases hnone

/-- The watch sees the device leave only if the device is hidden while the watch waits for that. -/
theorem hidden_of_gone {w : Wait} {e : Instant} (hw : w.wanted = .gone)
    (hb : d.Begun w.since issue command b) (hhides : d.script.Hides)
    (hreply : ∀ text, d.reply ≠ .error (.rejected text))
    (h : (b.await issue command w).1 = some ⟨e, .reached⟩) :
    ∃ t, w.Covers t ∧ t ≤ e ∧ visibleAfter (d.flipsAfter issue) t = false := by
  cases he : b.early? issue w with
  | none =>
    rw [hb.await_of_late hreply he, Option.map_eq_some_iff] at h
    obtain ⟨answer, hanswer, hend⟩ := h
    obtain ⟨rfl, hr⟩ := WaitEnd.mk.inj hend
    obtain ⟨hcovers, hs⟩ := satisfies_of_await hanswer hr
    rw [hw] at hs
    exact ⟨_, hcovers, Int.le_max_right _ _, satisfies_gone.1 hs⟩
  | some early =>
    obtain ⟨e', st⟩ := early
    obtain ⟨answer, device, hnone, ha, hend, rfl, rfl⟩ := Stage.early?_eq_some he
    obtain ⟨rfl, hlt⟩ | rfl := hb
    · have hanswer : d.await w = some answer := congrArg Prod.fst ha
      rw [Stage.await, he] at h
      obtain ⟨rfl, hr⟩ := WaitEnd.mk.inj (Option.some.inj h)
      obtain ⟨hcovers, hs⟩ := satisfies_of_await hanswer hr
      refine ⟨_, hcovers, Int.le_refl _, ?_⟩
      rw [hw] at hs
      have hhidden := satisfies_gone.1 hs
      rcases Int.lt_or_eq_of_le hend with hbefore | hissue
      · rw [flipsAfter, visibleAfter_append_flips hbefore, hhidden]
      · rw [hissue] at hhidden ⊢
        exact hhides.hidden_append_flips hhidden
    · cases hnone

/-- The timeline of a session over a scripted device begins before the command or right after it. -/
theorem exists_begun (now : Instant) (s : Session)
    (hreply : ∀ text, d.reply ≠ .error (.rejected text)) :
    ∃ b, d.Begun now (now.wake s.variant.start) s.variant.command b ∧
      s.timeline d now =
        b.timeline s.times now (now.wake s.variant.start) s.variant.command := by
  rw [Session.timeline]
  by_cases hstart : s.variant.start.nanos = 0
  · rw [if_pos hstart, execute_eq hreply]
    exact ⟨_, .inr rfl, rfl⟩
  · rw [if_neg hstart]
    exact ⟨_, .inl ⟨rfl, Instant.lt_wake now hstart⟩, rfl⟩

theorem timeline_reply (s : Session) (hreply : ∀ text, d.reply ≠ .error (.rejected text)) :
    (s.timeline d now).reply = ⟨0, d.reply⟩ := by
  obtain ⟨b, hb, htimeline⟩ := exists_begun now s hreply
  rw [htimeline, Stage.timeline_reply fun _ _ => rfl, hb.issued_eq hreply]

/-- The watch of a session sees the device leave by an instant if and only if the device is hidden
by then while the watch waits for that. -/
theorem exists_gone_iff (now : Instant) (s : Session) (hhides : d.script.Hides)
    (hreply : ∀ text, d.reply ≠ .error (.rejected text)) {limit : Instant}
    (hlimit : now.wake s.variant.start ≤ limit) :
    (∃ e, (s.timeline d now).gone = some ⟨e, .reached⟩ ∧ e ≤ limit) ↔
      ∃ t, Wait.Covers ⟨.gone, now, s.budget.timeout⟩ t ∧ t ≤ limit ∧
        visibleAfter (d.flipsAfter (now.wake s.variant.start)) t = false := by
  obtain ⟨b, hb, htimeline⟩ := exists_begun now s hreply
  rw [htimeline, Stage.timeline_gone]
  constructor
  · rintro ⟨e, he, hle⟩
    obtain ⟨t, ht, hte, hhidden⟩ :=
      hidden_of_gone (w := ⟨.gone, now, s.budget.timeout⟩) rfl hb hhides hreply he
    exact ⟨t, ht, Int.le_trans hte hle, hhidden⟩
  · rintro ⟨t, ht, hle, hhidden⟩
    obtain ⟨e, he, hte⟩ :=
      gone_of_hidden (w := ⟨.gone, now, s.budget.timeout⟩) rfl hb hhides hreply ht hhidden
    exact ⟨e, he, Int.le_trans hte (Int.max_le.2 ⟨hlimit, hle⟩)⟩

end Scripted

/-! ## Having seen nothing -/

/-- A session ends where it began if it did not see the device leave in time. -/
theorem Session.last_seen_eq_iff (s : Session) {tl : Timeline} (h : InOrder (s.seen tl)) :
    Connectivity.awaitingDisconnect.last ((s.seen tl).map (·.state)) = .awaitingDisconnect ↔
      ¬∃ e, tl.gone = some ⟨e, .reached⟩ ∧ e ≤ max (s.listens tl) (s.deadline tl.issue) := by
  constructor
  · rintro hlast ⟨e, hgone, hle⟩
    have hmem : (⟨.awaitingReconnect, e⟩ : Sighting) ∈ s.seen tl :=
      List.mem_filter.2 ⟨Timeline.mem_sightings.2 (.inl ⟨rfl, hgone⟩), by simpa using hle⟩
    have hrank := h.1.rank_last
    rw [hlast, List.length_map] at hrank
    have hempty : s.seen tl = [] := List.length_eq_zero_iff.1 (by omega)
    rw [hempty] at hmem
    cases hmem
  · intro hnone
    cases hseen : s.seen tl with
    | nil => rfl
    | cons x rest =>
      rw [hseen] at h
      have hx : x.state = .awaitingReconnect :=
        (Option.some.inj (Connectivity.climbs_cons.1 h.1).1).symm
      have hmem : x ∈ s.seen tl := hseen ▸ List.mem_cons_self
      obtain ⟨hsighting, hle⟩ := List.mem_filter.1 hmem
      rcases Timeline.mem_sightings.1 hsighting with ⟨-, hgone⟩ | ⟨hback, -⟩
      · exact absurd ⟨x.instant, hgone, by simpa using hle⟩ hnone
      · rw [hx] at hback
        cases hback

/-- The reason of a report tells the state it ends in. -/
theorem Report.reason_eq_never_iff {r : Report} (hsupport : ¬r.outcome.isNotSupported) :
    r.reason = s!"usb never disconnected within {r.budget.window.millis} ms" ↔
      r.final = .awaitingDisconnect := by
  rw [reason, if_neg hsupport]
  cases hfinal : r.final with
  | awaitingDisconnect => simp
  | awaitingReconnect =>
    simp only [reduceCtorEq, iff_false]
    intro h
    have hletter := congrArg (fun text : String => text.toList[4]?) h
    simp [toString] at hletter
  | reconnected =>
    simp only [reduceCtorEq, iff_false]
    intro h
    have hletter := congrArg (fun text : String => text.toList[4]?) h
    simp [toString] at hletter

namespace Check

variable (c : Check) (v : Variant) (issuedAt : WallTime)

/-- A report of a check says that the device never left if and only if it ends where it began. -/
theorem never_iff_final (d : Scripted) {outcome : Outcome}
    (hrun : let report := c.reportOn v issuedAt d outcome
      (c.run v issuedAt (some d)).1 = .ok ⟨report.kind, report.reason, report⟩)
    (hsupport : ¬outcome.isNotSupported) :
    (∃ report, (c.run v issuedAt (some d)).1 = .ok ⟨.fail,
        s!"usb never disconnected within {(c.sessionOn v issuedAt d).budget.window.millis} ms",
        report⟩) ↔
      (c.reportOn v issuedAt d outcome).final = .awaitingDisconnect := by
  have hreason := Report.reason_eq_never_iff (r := c.reportOn v issuedAt d outcome) hsupport
  constructor
  · rintro ⟨report, hnever⟩
    obtain ⟨-, hsame, -⟩ := Verdict.mk.inj (Except.ok.inj (hrun.symm.trans hnever))
    exact hreason.1 hsame
  · intro hfinal
    have hkind : (c.reportOn v issuedAt d outcome).kind = .fail := by
      rw [reportOn_kind _ _ _ _ hsupport, hfinal]
      rfl
    dsimp only at hrun
    rw [hkind, hreason.2 hfinal] at hrun
    exact ⟨_, hrun⟩

/-- The reply of a scripted device is there at once. -/
theorem listens_scripted (d : Scripted) (hreply : ∀ text, d.reply ≠ .error (.rejected text)) :
    (c.sessionOn v issuedAt d).listens (c.timeline v issuedAt d) =
      (Instant.wake 0 v.start).wake v.postIssue := by
  have hissue : (c.timeline v issuedAt d).issue = Instant.wake 0 v.start :=
    Session.timeline_issue _ _ _
  have hanswer : (c.timeline v issuedAt d).reply = ⟨0, d.reply⟩ :=
    Scripted.timeline_reply (d := c.asked d) (c.sessionOn v issuedAt d) hreply
  rw [Session.listens, Timeline.replied, hissue, hanswer]
  exact congrArg (Instant.wake · v.postIssue) (Int.add_zero (Instant.wake 0 v.start))

/-- A check of a scripted device ends where it began if and only if the device is not hidden while
the watch waits for that. -/
theorem final_scripted_iff (d : Scripted) (outcome : Outcome) (hhides : d.script.Hides)
    (hreply : ∀ text, d.reply ≠ .error (.rejected text)) :
    (c.reportOn v issuedAt d outcome).final = .awaitingDisconnect ↔
      ¬∃ t, Wait.Covers ⟨.gone, 0, (c.sessionOn v issuedAt d).budget.timeout⟩ t ∧
        t ≤ max ((Instant.wake 0 v.start).wake v.postIssue)
          ((c.sessionOn v issuedAt d).deadline (Instant.wake 0 v.start)) ∧
        visibleAfter (d.flipsAfter (Instant.wake 0 v.start)) t = false := by
  have hissue : (c.timeline v issuedAt d).issue = Instant.wake 0 v.start :=
    Session.timeline_issue _ _ _
  have hlimit : Instant.wake 0 v.start ≤ max ((Instant.wake 0 v.start).wake v.postIssue)
      ((c.sessionOn v issuedAt d).deadline (Instant.wake 0 v.start)) :=
    Int.le_trans (Instant.le_wake _ _) (Int.le_max_left _ _)
  have hlast := (c.sessionOn v issuedAt d).last_seen_eq_iff (c.seen_inOrder v issuedAt d)
  rw [c.listens_scripted v issuedAt d hreply, hissue] at hlast
  rw [reportOn_final, hlast]
  exact not_congr (Scripted.exists_gone_iff (d := c.asked d) 0 (c.sessionOn v issuedAt d) hhides
    hreply hlimit)

/-- **Never having left.**  Let a command to a scripted device be carried out and the script hide
the device.  The check does not fail because the device never left, if and only if the device is
hidden at some instant up to the end of the session at which the watch waits for it to leave. -/
theorem not_never_left_iff (d : Scripted) {outcome : Outcome} (hhides : d.script.Hides)
    (houtcome : Outcome.ofReply (refusalPhrases ++ c.phrases) issuedAt d.reply = .ok outcome)
    (hsupport : outcome.support = .supported ∨ outcome.support = .unknown) :
    let budget := (c.sessionOn v issuedAt d).budget
    let issue := Instant.wake 0 v.start
    (¬∃ report, (c.run v issuedAt (some d)).1 =
        .ok ⟨.fail, s!"usb never disconnected within {budget.window.millis} ms", report⟩) ↔
      ∃ t, 0 ≤ t ∧ (t = 0 ∨ (Instant.alarm? 0 budget.timeout).all (t < ·)) ∧
        t ≤ max (issue.wake v.postIssue) ((issue.limit? budget.window).getD issue.far) ∧
        visibleAfter (d.flips ++ d.script.flips issue) t = false := by
  intro budget issue
  have hreply : ∀ text, d.reply ≠ .error (.rejected text) := by
    intro text h
    rw [h] at houtcome
    cases houtcome
  have hfollows := Outcome.not_isNotSupported hsupport
  have hanswer : (c.timeline v issuedAt d).reply = ⟨0, d.reply⟩ :=
    Scripted.timeline_reply (d := c.asked d) (c.sessionOn v issuedAt d) hreply
  have hrun := c.run_of_follow v issuedAt d (hanswer ▸ houtcome) hfollows
  rw [c.never_iff_final v issuedAt d hrun hfollows,
    c.final_scripted_iff v issuedAt d outcome hhides hreply, Classical.not_not]
  constructor
  · rintro ⟨t, ⟨hstart, hcovers⟩, hle, hhidden⟩
    exact ⟨t, hstart, hcovers, hle, hhidden⟩
  · rintro ⟨t, hstart, hcovers, hle, hhidden⟩
    exact ⟨t, ⟨hstart, hcovers⟩, hle, hhidden⟩

end Check

/-- A device that leaves almost five seconds after a command and stays away. -/
def Scripted.lingering : Scripted where
  serial := "SN0001"
  properties := []
  propertyFault := none
  reply := .ok ""
  script := .staysDisconnected (.ofMillis 4950)
  flips := []
  commands := []
  reads := 0

/-- Twice the base time is enough to see the device leave. -/
theorem Check.not_never_left_lingering :
    let c := { Check.standard with base := .ofMillis 10000 }
    Scripted.lingering.script.Hides ∧
      Outcome.ofReply (refusalPhrases ++ c.phrases) .epoch Scripted.lingering.reply =
        .ok ⟨"", .supported, .epoch⟩ ∧
      ¬∃ report, (c.run .gadget .epoch (some Scripted.lingering)).1 =
        .ok ⟨.fail, "usb never disconnected within 10000 ms", report⟩ := by
  intro c
  let budget := (c.sessionOn .gadget .epoch Scripted.lingering).budget
  have houtcome : Outcome.ofReply (refusalPhrases ++ c.phrases) .epoch Scripted.lingering.reply =
      .ok ⟨"", .supported, .epoch⟩ := rfl
  refine ⟨trivial, houtcome, ?_⟩
  have hreason : s!"usb never disconnected within {budget.window.millis} ms" =
      "usb never disconnected within 10000 ms" := by decide +kernel
  rw [← hreason]
  have hiff := c.not_never_left_iff .gadget .epoch Scripted.lingering trivial houtcome (.inl rfl)
  exact hiff.2 ⟨5050, by decide, .inr (by decide), by decide, by decide⟩

/-- The device leaves 4950 ms after the command, and the check fails as if it had not left within
5000 ms. -/
theorem Check.never_left_lingering :
    let issue := Instant.wake 0 Variant.gadget.start
    (∃ t, issue < t ∧ issue.spanTo t < .ofMillis 5000 ∧
        visibleAfter (Scripted.lingering.script.flips issue) t = false) ∧
      ∃ report, (Check.standard.run .gadget .epoch (some Scripted.lingering)).1 =
        .ok ⟨.fail, "usb never disconnected within 5000 ms", report⟩ := by
  refine ⟨⟨5060, by decide, by decide, by decide⟩, ?_⟩
  exact ⟨⟨"gadget", .awaitingDisconnect, [], ⟨.ofMillis 5000, 1, 0⟩, ⟨"", .supported, .epoch⟩⟩, rfl⟩

end ResetCheck
