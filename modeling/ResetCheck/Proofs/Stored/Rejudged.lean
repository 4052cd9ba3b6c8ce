import ResetCheck.Proofs.Climb
import ResetCheck.Proofs.Stored.RoundTrip

/-!
# Judging a stored report again

Storing a report rounds its spans down to whole milliseconds.  Rounding down keeps the order of
time, so a report that held together still does when it is read back, and its verdict is of the
same kind.  Only the window that the reason names may be another, and only if the spans of the
budget were not whole.

* `Report.check_inMillis`: rounding keeps a report together.
* `Report.judge_stored`: the verdict on a report before it was stored, and after.
-/

namespace ResetCheck

namespace Span

/-- Whether a span is a whole number of milliseconds. -/
def Whole (a : Span) : Prop :=
  1000000 ∣ a.nanos

instance (a : Span) : Decidable a.Whole :=
  inferInstanceAs (Decidable (1000000 ∣ a.nanos))

instance (a : Span) : Decidable a.Fits :=
  inferInstanceAs (Decidable (a.millis < UInt64.size))

theorem inMillis_of_whole {a : Span} (h : a.Whole) : a.inMillis = a := by
  apply Span.ext
  show a.nanos - a.nanos % 1000000 = a.nanos
  rw [Nat.mod_eq_zero_of_dvd h, Nat.sub_zero]

/-- Rounding down keeps the order of spans. -/
theorem inMillis_mono {a b : Span} (h : a ≤ b) : a.inMillis ≤ b.inMillis := by
  rw [le_def] at h ⊢
  show a.nanos - a.nanos % 1000000 ≤ b.nanos - b.nanos % 1000000
  omega

end Span

instance (b : Budget) : Decidable b.Fits :=
  inferInstanceAs (Decidable (b.base.Fits ∧ b.allowance.Fits))

instance (m : Milestone) : Decidable m.Fits :=
  inferInstanceAs (Decidable m.elapsed.Fits)

theorem Budget.inMillis_of_whole {b : Budget} (hbase : b.base.Whole)
    (hallowance : b.allowance.Whole) : b.inMillis = b := by
  rw [inMillis, Span.inMillis_of_whole hbase, Span.inMillis_of_whole hallowance]

theorem Milestone.inMillis_of_whole {m : Milestone} (h : m.elapsed.Whole) : m.inMillis = m := by
  rw [inMillis, Span.inMillis_of_whole h]

namespace Report

/-- Whether every span of a report is a whole number of milliseconds. -/
def Whole (r : Report) : Prop :=
  (∀ m ∈ r.milestones, m.elapsed.Whole) ∧ r.budget.base.Whole ∧ r.budget.allowance.Whole

instance (r : Report) : Decidable r.Whole :=
  inferInstanceAs (Decidable ((∀ m ∈ r.milestones, m.elapsed.Whole) ∧
    r.budget.base.Whole ∧ r.budget.allowance.Whole))

instance (r : Report) : Decidable r.Fits :=
  inferInstanceAs (Decidable ((∀ m ∈ r.milestones, m.Fits) ∧ r.budget.Fits))

theorem inMillis_of_whole {r : Report} (h : r.Whole) : r.inMillis = r := by
  obtain ⟨hmilestones, hbase, hallowance⟩ := h
  have hrounded : r.milestones.map Milestone.inMillis = r.milestones := by
    refine (List.map_congr_left fun m hm => ?_).trans (List.map_id _)
    exact Milestone.inMillis_of_whole (hmilestones m hm)
  rw [inMillis, hrounded, Budget.inMillis_of_whole hbase hallowance]

theorem states_inMillis (r : Report) :
    r.inMillis.milestones.map (·.state) = r.milestones.map (·.state) := by
  show (r.milestones.map Milestone.inMillis).map (·.state) = _
  rw [List.map_map]
  rfl

/-- What came in the order of time still does once it is rounded down. -/
theorem elapsed_inMillis {r : Report}
    (h : (r.milestones.map (·.elapsed.nanos)).Pairwise (· ≤ ·)) :
    (r.inMillis.milestones.map (·.elapsed.nanos)).Pairwise (· ≤ ·) := by
  rw [List.pairwise_map] at h
  show ((r.milestones.map Milestone.inMillis).map (·.elapsed.nanos)).Pairwise (· ≤ ·)
  rw [List.map_map, List.pairwise_map]
  refine h.imp ?_
  intro a b hab
  exact Span.inMillis_mono (a := a.elapsed) (b := b.elapsed) hab

/-- Rounding keeps a report together. -/
theorem check_inMillis {r : Report} (h : r.check = .ok ()) : r.inMillis.check = .ok () := by
  rw [check_eq_ok_iff] at h ⊢
  obtain ⟨hclimbs, helapsed, hfinal⟩ := h
  rw [states_inMillis]
  exact ⟨hclimbs, elapsed_inMillis helapsed, hfinal⟩

theorem kind_inMillis (r : Report) : r.inMillis.kind = r.kind := rfl

/-- The reason is the same if the spans of the budget are whole. -/
theorem reason_inMillis {r : Report} (hbase : r.budget.base.Whole)
    (hallowance : r.budget.allowance.Whole) : r.inMillis.reason = r.reason := by
  have hbudget : r.inMillis.budget = r.budget := Budget.inMillis_of_whole hbase hallowance
  rw [reason, reason, hbudget]
  rfl

/-- **Judging a stored report again.**  A report whose spans fit the stored form is read back, and
if there was a verdict on it, there is one on what is read back: of the same kind, after the same
states, and for the same reason if the spans of the budget are whole milliseconds.  If all spans
are, the judgement is the very same, whether it is a verdict or a fault. -/
theorem judge_stored {r : Report} (hfits : r.Fits) :
    ∃ stored, decode r.encode = .ok stored ∧
      (∀ verdict, r.judge = .ok verdict →
        ∃ again, stored.judge = .ok again ∧ again.kind = verdict.kind ∧
          again.report.milestones.map (·.state) = verdict.report.milestones.map (·.state) ∧
          (r.budget.base.Whole → r.budget.allowance.Whole → again.reason = verdict.reason)) ∧
      (r.Whole → stored.judge = r.judge) := by
  refine ⟨r.inMillis, stored.decode_encode r hfits, ?_, ?_⟩
  · intro verdict hjudge
    obtain ⟨hcheck, rfl⟩ := judge_eq_ok_iff.1 hjudge
    refine ⟨_, judge_eq_ok_iff.2 ⟨check_inMillis hcheck, rfl⟩, r.kind_inMillis, ?_, ?_⟩
    · exact r.states_inMillis
    · intro hbase hallowance
      exact reason_inMillis hbase hallowance
  · intro hwhole
    rw [inMillis_of_whole hwhole]

/-- A report on a device that left and returned within one millisecond. -/
def fleeting : Report where
  variant := "gadget"
  final := .reconnected
  milestones := [⟨.awaitingReconnect, .ofNanos 100200000⟩, ⟨.reconnected, .ofNanos 100900000⟩]
  budget := ⟨.ofMillis 5000, 3, 0⟩
  outcome := ⟨"ok", .supported, .epoch⟩

/-- A report whose states came in the wrong order of time. -/
def backward : Report where
  variant := "gadget"
  final := .reconnected
  milestones := [⟨.awaitingReconnect, .ofMillis 500⟩, ⟨.reconnected, .ofMillis 100⟩]
  budget := ⟨.ofMillis 5000, 1, 0⟩
  outcome := ⟨"ok", .supported, .epoch⟩

/-- What is stored of the one report tells of one instant for both states, and it passes as before.
The other one has the same fault as before. -/
theorem judge_stored_fleeting :
    fleeting.Fits ∧ ¬fleeting.Whole ∧ backward.Fits ∧ backward.Whole ∧
      (∃ stored verdict again, decode fleeting.encode = .ok stored ∧ stored ≠ fleeting ∧
        fleeting.judge = .ok verdict ∧ stored.judge = .ok again ∧ again.kind = verdict.kind ∧
        again.reason = verdict.reason ∧
        again.reason = "usb disconnected and reconnected within 15000 ms") ∧
      ∃ stored, decode backward.encode = .ok stored ∧
        stored.judge = .error (.inconsistent (.outOfTime .reconnected)) := by
  have hfits : fleeting.Fits := by decide +kernel
  have hfits' : backward.Fits := by decide +kernel
  have hwhole : backward.Whole := by decide +kernel
  refine ⟨hfits, by decide +kernel, hfits', hwhole, ?_, ?_⟩
  · obtain ⟨stored, hstored, hagain, -⟩ := judge_stored hfits
    have hjudge : fleeting.judge = .ok ⟨.pass,
        "usb disconnected and reconnected within 15000 ms", fleeting⟩ :=
      judge_eq_ok_iff.2 ⟨rfl, by decide +kernel⟩
    obtain ⟨again, hjudge', hkind, -, hreason⟩ := hagain _ hjudge
    have hsame := hreason (by decide +kernel) (by decide +kernel)
    refine ⟨stored, _, again, hstored, ?_, hjudge, hjudge', hkind, hsame, hsame⟩
    rintro rfl
    have hread : (decode fleeting.encode).toOption ≠ some fleeting := by decide +kernel
    exact hread (by rw [hstored]; rfl)
  · obtain ⟨stored, hstored, -, hsame⟩ := judge_stored hfits'
    exact ⟨stored, hstored, hsame hwhole⟩

end Report

end ResetCheck
