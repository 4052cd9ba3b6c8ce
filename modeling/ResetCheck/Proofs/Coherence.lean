import ResetCheck.Proofs.Climb

/-!
# Reports that hold together

A report holds together if it tells of the states in their order, leaves none out, goes forward in
time, and ends in the last state it tells of.  These are the reports there is a verdict on.  The
verdict takes the report as it is, so judging it again changes nothing.

* `Report.Coherent`: what it takes to hold together.
* `Report.kind_eq_pass_iff`, `Report.kind_eq_skip_iff`, `Report.kind_eq_fail_iff`: which verdict a
  report gets.
* `Report.judge_coherent`: which reports there is a verdict on, and what that verdict is.
-/

namespace ResetCheck

namespace Report

/-! ## Which reports are judged -/

/-- Whether a report holds together. -/
structure Coherent (r : Report) : Prop where
  /-- The states come one by one, and none is left out. -/
  states : r.milestones.map (·.state) <+: [.awaitingReconnect, .reconnected]
  times : r.milestones.Pairwise (·.elapsed ≤ ·.elapsed)
  final : r.final = (r.milestones.map (·.state)).getLastD .awaitingDisconnect

theorem check_eq_ok_iff_coherent {r : Report} : r.check = .ok () ↔ r.Coherent := by
  rw [check_eq_ok_iff, List.pairwise_map]
  constructor
  · rintro ⟨hstates, htimes, hfinal⟩
    exact ⟨hstates, htimes, hfinal⟩
  · intro h
    exact ⟨h.states, h.times, h.final⟩

theorem exists_fault_of_not_coherent {r : Report} (h : ¬r.Coherent) :
    ∃ cause, r.judge = .error (.inconsistent cause) := by
  rw [← check_eq_ok_iff_coherent] at h
  cases hcheck : r.check with
  | error cause => exact ⟨cause, by rw [judge, hcheck]⟩
  | ok u => exact absurd hcheck h

/-! ## Which verdict a report gets -/

theorem isNotSupported_iff {r : Report} :
    r.outcome.isNotSupported ↔ r.outcome.support = .notSupported := by
  simp [Outcome.isNotSupported]

theorem kind_eq_skip_iff {r : Report} :
    r.kind = .skip ↔ r.outcome.support = .notSupported := by
  rw [← isNotSupported_iff, kind]
  by_cases hrefused : r.outcome.isNotSupported
  · simp [hrefused]
  · cases hterm : r.final.isTerminal <;> simp [hrefused]

theorem kind_eq_pass_iff {r : Report} :
    r.kind = .pass ↔ r.outcome.support ≠ .notSupported ∧ r.final = .reconnected := by
  rw [Ne, ← isNotSupported_iff, kind]
  by_cases hrefused : r.outcome.isNotSupported
  · simp [hrefused]
  · cases hfinal : r.final <;> simp [hrefused, Connectivity.isTerminal]

theorem kind_eq_fail_iff {r : Report} :
    r.kind = .fail ↔ r.outcome.support ≠ .notSupported ∧ r.final ≠ .reconnected := by
  rw [Ne, ← isNotSupported_iff, kind]
  by_cases hrefused : r.outcome.isNotSupported
  · simp [hrefused]
  · cases hfinal : r.final <;> simp [hrefused, Connectivity.isTerminal]

/-- The reason for a failure names the first state that was not reached. -/
theorem reason_of_fail {r : Report} (h : r.kind = .fail) :
    (r.final = .awaitingDisconnect ∧
        r.reason = s!"usb never disconnected within {r.budget.window.millis} ms") ∨
      r.final = .awaitingReconnect ∧
        r.reason =
          s!"usb disconnected, but never reconnected within {r.budget.window.millis} ms" := by
  obtain ⟨hsupport, hfinal⟩ := kind_eq_fail_iff.1 h
  have hrefused : ¬r.outcome.isNotSupported := fun hr => hsupport (isNotSupported_iff.1 hr)
  rw [reason, if_neg hrefused]
  cases hstate : r.final with
  | awaitingDisconnect => exact .inl ⟨rfl, rfl⟩
  | awaitingReconnect => exact .inr ⟨rfl, rfl⟩
  | reconnected => exact absurd hstate hfinal

/-- **Judging a report.**  There is a verdict on a report if and only if the report holds together;
on any other there is a fault.  The verdict is a skip if the reset is not supported; otherwise the
check passes if the device returned, and fails if not, for a reason that names what did not happen.
The report is kept as it is, and judging it again gives the same verdict. -/
theorem judge_coherent (r : Report) :
    ((∃ verdict, r.judge = .ok verdict) ↔ r.Coherent) ∧
      ((∃ cause, r.judge = .error (.inconsistent cause)) ↔ ¬r.Coherent) ∧
      ∀ verdict, r.judge = .ok verdict →
        verdict.report = r ∧ verdict.report.judge = .ok verdict ∧
          (verdict.kind = .skip ↔ r.outcome.support = .notSupported) ∧
          (verdict.kind = .pass ↔
            r.outcome.support ≠ .notSupported ∧ r.final = .reconnected) ∧
          (verdict.kind = .fail ↔
            r.outcome.support ≠ .notSupported ∧ r.final ≠ .reconnected) ∧
          (verdict.kind = .fail →
            let window := r.budget.window.millis
            (r.final = .awaitingDisconnect ∧
                verdict.reason = s!"usb never disconnected within {window} ms") ∨
              r.final = .awaitingReconnect ∧
                verdict.reason =
                  s!"usb disconnected, but never reconnected within {window} ms") := by
  have hjudged : (∃ verdict, r.judge = .ok verdict) ↔ r.Coherent :=
    exists_judge_iff.trans check_eq_ok_iff_coherent
  refine ⟨hjudged, ⟨?_, exists_fault_of_not_coherent⟩, ?_⟩
  · rintro ⟨cause, hcause⟩ hcoherent
    obtain ⟨verdict, hverdict⟩ := hjudged.2 hcoherent
    rw [hcause] at hverdict
    cases hverdict
  · intro verdict hverdict
    obtain ⟨-, rfl⟩ := judge_eq_ok_iff.1 hverdict
    exact ⟨rfl, hverdict, kind_eq_skip_iff, kind_eq_pass_iff, kind_eq_fail_iff, reason_of_fail⟩

/-- A report that leaves out that the device left. -/
def abrupt : Report where
  variant := "gadget"
  final := .reconnected
  milestones := [⟨.reconnected, .ofMillis 100⟩]
  budget := ⟨.ofMillis 5000, 1, 0⟩
  outcome := ⟨"ok", .supported, .epoch⟩

/-- There is no verdict on this report.  There is one if it says at that place that the device left,
and nothing more. -/
theorem judge_coherent_abrupt :
    let waiting := { abrupt with
      final := .awaitingReconnect, milestones := [⟨.awaitingReconnect, .ofMillis 100⟩] }
    ¬abrupt.Coherent ∧ (∃ cause, abrupt.judge = .error (.inconsistent cause)) ∧
      waiting.Coherent ∧
      ∃ verdict, waiting.judge = .ok verdict ∧ verdict.report = waiting ∧
        verdict.reason = "usb disconnected, but never reconnected within 5000 ms" := by
  intro waiting
  have habrupt : ¬abrupt.Coherent := fun h => absurd h.states (by decide)
  have hwaiting : waiting.Coherent := ⟨by decide, List.pairwise_singleton _ _, rfl⟩
  obtain ⟨verdict, hverdict⟩ := waiting.judge_coherent.1.2 hwaiting
  obtain ⟨hreport, -, -, -, hfail, hreason⟩ := waiting.judge_coherent.2.2 verdict hverdict
  obtain ⟨hfinal, -⟩ | ⟨-, htext⟩ := hreason (hfail.2 ⟨by decide, by decide⟩)
  · cases hfinal
  · exact ⟨habrupt, abrupt.judge_coherent.2.1.2 habrupt, hwaiting, verdict, hverdict, hreport,
      htext.trans (by decide +kernel)⟩

end Report

end ResetCheck
