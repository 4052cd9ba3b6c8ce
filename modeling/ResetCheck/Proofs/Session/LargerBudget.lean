import ResetCheck.Proofs.Session.Noted
import ResetCheck.Proofs.Watch.Patience

/-!
# Larger budgets

A larger budget lets the watch wait longer and the session listen longer.  On a device that is not
hurried by timeouts, nothing that was seen is lost: the session sees at least as much, so a pass
stays a pass.  Whether the reset is supported does not depend on the budget at all.

* `Session.extended`: the session with more time.
* `Session.sightings_extended`: under a larger budget the watch sees what it saw before, and maybe
  more.
* `Session.judged_extended`: the verdict under a larger budget.
-/

namespace ResetCheck

/-- In the order of time, what was seen by an instant comes first in what was seen by a later one.
-/
theorem filter_instant_isPrefix {seen : List Sighting} {t t' : Instant}
    (h : seen.Pairwise (·.instant ≤ ·.instant))
    (hle : ∀ x ∈ seen, x.instant ≤ t → x.instant ≤ t') :
    seen.filter (·.instant ≤ t) <+: seen.filter (·.instant ≤ t') := by
  have hfilter : seen.filter (·.instant ≤ t) =
      (seen.filter (·.instant ≤ t')).filter (·.instant ≤ t) := by
    rw [List.filter_filter]
    refine List.filter_congr fun x hx => ?_
    rw [← Bool.decide_and]
    exact decide_eq_decide.2 ⟨fun ht => ⟨ht, hle x hx ht⟩, And.left⟩
  rw [hfilter, ← takeWhile_instant_le (h.sublist List.filter_sublist)]
  exact List.takeWhile_prefix _

/-- Once the device was seen to return, nothing more is seen. -/
theorem InOrder.eq_of_isTerminal {a b : List Sighting} (h : InOrder b) (hab : a <+: b)
    (hlast : (Connectivity.awaitingDisconnect.last (a.map (·.state))).isTerminal) : b = a := by
  obtain ⟨rest, rfl⟩ := hab
  have hclimbs := h.1
  rw [List.map_append, Connectivity.climbs_append] at hclimbs
  have hrest : rest = [] := List.map_eq_nil_iff.1 (hclimbs.2.eq_nil hlast)
  rw [hrest, List.append_nil]

/-- More sightings leave a skip and a pass as they are. -/
theorem Observation.report_of_isPrefix {a b : List Sighting} (h : InOrder b) (hab : a <+: b)
    (issued : Instant) (variant : String) (budget budget' : Budget) (outcome : Outcome) :
    let report := ((start issued).after a).report variant budget outcome
    let report' := ((start issued).after b).report variant budget' outcome
    report.milestones <+: report'.milestones ∧
      (report'.kind = .skip ↔ report.kind = .skip) ∧
      (report.kind = .pass → report'.kind = .pass ∧ report'.milestones = report.milestones) := by
  intro report report'
  by_cases hsupport : outcome.isNotSupported
  · have hkind : report.kind = .skip := if_pos hsupport
    have hkind' : report'.kind = .skip := if_pos hsupport
    refine ⟨hab.map _, iff_of_true hkind' hkind, fun hpass => ?_⟩
    exact absurd (hkind.symm.trans hpass) nofun
  · have hkind : report.kind = if report.final.isTerminal then .pass else .fail := if_neg hsupport
    have hkind' : report'.kind = if report'.final.isTerminal then .pass else .fail :=
      if_neg hsupport
    refine ⟨hab.map _, ?_, fun hpass => ?_⟩
    · rw [hkind, hkind']
      split <;> split <;> simp
    · have hfinal : report.final.isTerminal := by
        by_cases hfinal : report.final.isTerminal
        · exact hfinal
        · rw [hkind, if_neg hfinal] at hpass
          cases hpass
      obtain rfl := h.eq_of_isTerminal hab hfinal
      exact ⟨hkind'.trans (if_pos hfinal), rfl⟩

namespace Session

variable {σ : Type} [Device σ] {s : Session} {device : σ} {now : Instant} (calls : List Call)
  (allowance : Span) {budget : Budget}

/-! ## More time -/

/-- The session with another allowance and another budget. -/
def extended (s : Session) (allowance : Span) (budget : Budget) : Session :=
  { s with variant := { s.variant with allowance }, budget }

/-- What is in time for a window is in time for a longer one, unless it is too far away. -/
theorem le_deadline_extended (hwindow : s.budget.window ≤ budget.window) {issued t : Instant}
    (ht : t ≤ s.deadline issued) (hfar : t ≤ issued.far) :
    t ≤ (s.extended allowance budget).deadline issued := by
  have hseconds := Span.seconds_mono hwindow
  have hmillis : s.budget.window.millis ≤ budget.window.millis := Nat.div_le_div_right hwindow
  rw [deadline, Instant.limit?] at ht ⊢
  show t ≤ Option.getD (if budget.window.seconds < _ then some (issued + budget.window.millis)
    else none) _
  split
  · next hlong =>
    rw [if_pos (by omega)] at ht
    exact Int.le_trans ht (Int.add_le_add_left (Int.ofNat_le.2 hmillis) _)
  · exact hfar

section Trails

variable (device now) (hpatient : Device.Patient σ) (htimeout : s.budget.timeout ≤ budget.timeout)
  (hwindow : s.budget.window ≤ budget.window)

include hpatient htimeout hwindow

theorem readied_trails :
    (s.readied device now calls).Trails ((s.extended allowance budget).readied device now calls) :=
  (Watch.Trails.abreast (s.extended allowance budget).times calls
    ⟨htimeout, rfl, hwindow⟩).sleep hpatient _

theorem timeline_extended :
    ((s.extended allowance budget).timeline device now).issue = (s.timeline device now).issue ∧
      ((s.extended allowance budget).timeline device now).reply =
        (s.timeline device now).reply := by
  have htrails := readied_trails device now [] allowance hpatient htimeout hwindow
  refine ⟨?_, ?_⟩
  · rw [timeline_issue, timeline_issue]
    rfl
  · rw [← readied_reply _ device now [], ← readied_reply _ device now []]
    exact htrails.reply_eq _

theorem answered_trails :
    (s.answered device now calls).Trails
      ((s.extended allowance budget).answered device now calls) := by
  rw [answered, answered, (timeline_extended device now allowance hpatient htimeout hwindow).2]
  have hreadied := readied_trails device now calls allowance hpatient htimeout hwindow
  exact (hreadied.issue _).pass hpatient _

theorem listening_trails :
    (s.listening device now calls).Trails
      ((s.extended allowance budget).listening device now calls) :=
  (answered_trails device now calls allowance hpatient htimeout hwindow).sleep hpatient _

theorem refused_trails :
    (s.refused device now calls).Trails
      ((s.extended allowance budget).refused device now calls) := by
  have hshort : (s.extended allowance budget).variant.shortCircuit = s.variant.shortCircuit := rfl
  rw [refused, refused, hshort]
  cases s.variant.shortCircuit with
  | beforeDelay => exact answered_trails device now calls allowance hpatient htimeout hwindow
  | afterDelay => exact listening_trails device now calls allowance hpatient htimeout hwindow

/-- Under a larger budget the watch sees what it saw before, and maybe more. -/
theorem sightings_extended :
    (s.timeline device now).sightings <+:
      ((s.extended allowance budget).timeline device now).sightings := by
  rw [← listening_queue _ device now [], ← listening_queue _ device now []]
  exact (listening_trails device now [] allowance hpatient htimeout hwindow).alone_queue hpatient

/-- What was seen in time stays so. -/
theorem seen_extended
    (hfar : ∀ x ∈ (s.timeline device now).sightings,
      x.instant ≤ Instant.far (s.timeline device now).issue) :
    s.seen (s.timeline device now) <+:
      (s.extended allowance budget).seen ((s.extended allowance budget).timeline device now) := by
  obtain ⟨hissue, hreply⟩ := timeline_extended device now allowance hpatient htimeout hwindow
  have hlistens : (s.extended allowance budget).listens
      ((s.extended allowance budget).timeline device now) = s.listens (s.timeline device now) := by
    rw [listens, Timeline.replied, hissue, hreply]
    rfl
  rw [seen, seen, hlistens, hissue]
  refine (filter_instant_isPrefix (s.sightings_inOrder device now).2 fun x hx hle => ?_).trans
    ((sightings_extended device now allowance hpatient htimeout hwindow).filter _)
  by_cases hlisten : x.instant ≤ s.listens (s.timeline device now)
  · exact Int.le_trans hlisten (Int.le_max_left _ _)
  · have hdeadline : x.instant ≤ s.deadline (s.timeline device now).issue := by grind
    have hextended := le_deadline_extended allowance hwindow hdeadline (hfar x hx)
    exact Int.le_trans hextended (Int.le_max_right _ _)

theorem noted_extended
    (hfar : ∀ x ∈ (s.timeline device now).sightings,
      x.instant ≤ Instant.far (s.timeline device now).issue) (outcome : Outcome) :
    s.noted device now calls outcome <+:
      (s.extended allowance budget).noted device now calls outcome := by
  rw [noted, noted]
  split
  · exact (refused_trails device now calls allowance hpatient htimeout hwindow).queue_isPrefix
  · exact seen_extended device now allowance hpatient htimeout hwindow hfar

end Trails

/-- **A larger budget.**  On a device that is not hurried by timeouts, a session under a larger
budget ends with the same fault, or it sees what it saw before and maybe more.  A skip stays a skip,
and a pass stays a pass with the same milestones. -/
theorem judged_extended (hunhurried : Device.Unhurried σ)
    (htimeout : s.budget.timeout ≤ budget.timeout) (hwindow : s.budget.window ≤ budget.window)
    (hfar : ∀ x ∈ (s.timeline device now).sightings,
      x.instant ≤ Instant.far (s.timeline device now).issue) :
    (∀ fault, s.judged device now calls = .error fault →
        (s.extended allowance budget).judged device now calls = .error fault) ∧
      ∀ verdict, s.judged device now calls = .ok verdict →
        ∃ verdict', (s.extended allowance budget).judged device now calls = .ok verdict' ∧
          verdict.report.milestones <+: verdict'.report.milestones ∧
          verdict'.isSkip = verdict.isSkip ∧
          (verdict.isPass →
            verdict'.isPass ∧ verdict'.report.milestones = verdict.report.milestones) := by
  have hpatient := hunhurried.patient
  obtain ⟨hissue, hreply⟩ := timeline_extended device now allowance hpatient htimeout hwindow
  cases houtcome : Outcome.ofReply s.phrases s.issuedAt (s.timeline device now).reply.result with
  | error e =>
    have hjudged := s.judged_of_error device now calls houtcome
    have hjudged' := (s.extended allowance budget).judged_of_error device now calls
      (by rw [hreply]; exact houtcome)
    rw [hjudged, hjudged']
    exact ⟨fun _ h => h, nofun⟩
  | ok outcome =>
    have hjudged := s.judged_of_outcome device now calls houtcome
    have hjudged' := (s.extended allowance budget).judged_of_outcome device now calls
      (by rw [hreply]; exact houtcome)
    obtain ⟨hmilestones, hskip, hpass⟩ := Observation.report_of_isPrefix
      ((s.extended allowance budget).noted_inOrder device now calls outcome)
      (noted_extended device now calls allowance hpatient htimeout hwindow hfar outcome)
      (s.timeline device now).issue s.variant.name s.budget budget outcome
    rw [hissue] at hjudged'
    rw [hjudged, hjudged']
    refine ⟨nofun, fun verdict h => ?_⟩
    obtain rfl := Except.ok.inj h
    refine ⟨_, rfl, hmilestones, decide_eq_decide.2 hskip, fun h => ?_⟩
    obtain ⟨hkind, hsame⟩ := hpass (of_decide_eq_true h)
    exact ⟨decide_eq_true hkind, hsame⟩

end Session

/-- A device that is back after six seconds. -/
def Scripted.leisurely : Scripted :=
  { brief with script := .reconnects (.ofMillis 200) (.ofMillis 6000) }

/-- A session with a base time of five seconds and a multiplier. -/
def Session.multiplied (multiplier : UInt32) : Session where
  variant := .gadget
  budget := .of Check.standardBase multiplier 0
  phrases := refusalPhrases
  issuedAt := .epoch

/-- With a multiplier of three the session sees the return that it misses with a multiplier of one.
-/
theorem Session.judged_extended_leisurely :
    (multiplied 1).budget.timeout ≤ (multiplied 3).budget.timeout ∧
      (multiplied 1).budget.window ≤ (multiplied 3).budget.window ∧
      (∀ x ∈ ((multiplied 1).timeline Scripted.leisurely 0).sightings,
        x.instant ≤ Instant.far ((multiplied 1).timeline Scripted.leisurely 0).issue) ∧
      ∃ missed verdict, (multiplied 1).judged Scripted.leisurely 0 [] = .ok missed ∧
        missed.isFail ∧ missed.report.milestones = [⟨.awaitingReconnect, .ofMillis 200⟩] ∧
        (multiplied 3).judged Scripted.leisurely 0 [] = .ok verdict ∧
        missed.report.milestones <+: verdict.report.milestones ∧ verdict.isSkip = missed.isSkip ∧
        verdict.report.final = .reconnected := by
  have htimeout : (multiplied 1).budget.timeout ≤ (multiplied 3).budget.timeout := by decide
  have hwindow : (multiplied 1).budget.window ≤ (multiplied 3).budget.window := by decide
  have hfar : ∀ x ∈ ((multiplied 1).timeline Scripted.leisurely 0).sightings,
      x.instant ≤ Instant.far ((multiplied 1).timeline Scripted.leisurely 0).issue := by decide
  have hmissed : ∃ missed, (multiplied 1).judged Scripted.leisurely 0 [] = .ok missed ∧
      missed.isFail ∧ missed.report.milestones = [⟨.awaitingReconnect, .ofMillis 200⟩] :=
    ⟨_, rfl, rfl, rfl⟩
  have hfinal : ((multiplied 3).judged Scripted.leisurely 0 []).map (·.report.final) =
    .ok .reconnected := rfl
  obtain ⟨-, hlarger⟩ := judged_extended [] 0 Device.Unhurried.scripted
    htimeout hwindow hfar
  obtain ⟨missed, hmissed, hfail, hseen⟩ := hmissed
  obtain ⟨verdict, hjudged, hmilestones, hskip, -⟩ := hlarger missed hmissed
  have hsame : (multiplied 3).judged Scripted.leisurely 0 [] = .ok verdict := hjudged
  rw [hsame] at hfinal
  exact ⟨htimeout, hwindow, hfar, missed, verdict, hmissed, hfail, hseen, hsame, hmilestones, hskip,
    Except.ok.inj hfinal⟩

end ResetCheck
