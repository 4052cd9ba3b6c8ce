import ResetCheck.Proofs.Session.Judged

/-!
# Passing within the window

A check that passes says that the device was back within the window.  What is seen after the session
began to listen is held to the window.  What was seen before, while the command was running or the
delay after it, is not, so a check may pass although the device was back too late.

* `Session.spanTo_le_window`: up to the deadline the window is kept.
* `InOrder.le_of_isTerminal`: after the last state nothing is seen.
* `Check.within_or_unheeded`: what a session saw too late it saw before it began to listen.
* `Check.pass_within_window_iff`: when exactly a check that passes keeps its word.
-/

namespace ResetCheck

theorem Session.spanTo_le_window (s : Session) {issued t : Instant} (h : t ≤ s.deadline issued) :
    issued.spanTo t ≤ s.budget.window := by
  rw [Span.le_def]
  simp only [Instant.spanTo, Span.ofMillis, Span.nanos_ofNanos]
  unfold Session.deadline Instant.limit? Instant.far at h
  unfold Instant at *
  by_cases hlong : s.budget.window.seconds < Instant.spanLimit
  · rw [if_pos hlong, Option.getD_some, Span.millis] at h
    omega
  · rw [if_neg hlong, Option.getD_none] at h
    unfold Span.seconds Instant.spanLimit at hlong
    unfold Instant.farMillis at h
    omega

/-! ## The last state -/

/-- Whatever else was seen was seen before a state after which nothing is left to observe. -/
theorem InOrder.le_of_isTerminal {seen : List Sighting} {x : Sighting} (h : InOrder seen)
    (hx : x ∈ seen) (hterm : x.state.isTerminal) :
    Connectivity.awaitingDisconnect.last (seen.map (·.state)) = x.state ∧
      ∀ y ∈ seen, y.instant ≤ x.instant := by
  obtain ⟨before, later, rfl⟩ := List.append_of_mem hx
  obtain ⟨hclimbs, horder⟩ := h
  rw [List.map_append, List.map_cons, Connectivity.climbs_append,
    Connectivity.climbs_cons] at hclimbs
  have hlater : later = [] := List.map_eq_nil_iff.1 (hclimbs.2.2.eq_nil hterm)
  subst hlater
  constructor
  · simp
  · intro y hy
    rcases List.mem_append.1 hy with hy | hy
    · exact (List.pairwise_append.1 horder).2.2 y hy x (List.mem_singleton_self x)
    · exact Int.le_of_eq (congrArg Sighting.instant (List.mem_singleton.1 hy))

/-- A state that sightings lead to is one of them, unless there was nothing to see. -/
theorem exists_mem_of_last {seen : List Sighting} {state : Connectivity}
    (h : Connectivity.awaitingDisconnect.last (seen.map (·.state)) = state)
    (hne : state ≠ .awaitingDisconnect) : ∃ x ∈ seen, x.state = state := by
  have hmem : state ∈ Connectivity.awaitingDisconnect :: seen.map (·.state) :=
    h ▸ List.getLastD_mem_cons
  rcases List.mem_cons.1 hmem with hstart | hmem
  · exact absurd hstart hne
  · exact List.mem_map.1 hmem

/-! ## Late returns -/

namespace Check

variable {σ : Type} [Device σ] (c : Check) (v : Variant) (issuedAt : WallTime) (device : σ)

/-- What a session saw was seen within the window or before the session began to listen. -/
theorem within_or_unheeded {x : Sighting}
    (hx : x ∈ (c.sessionOn v issuedAt device).seen (c.timeline v issuedAt device)) :
    (c.timeline v issuedAt device).issue.spanTo x.instant ≤
        (c.sessionOn v issuedAt device).budget.window ∨
      x.instant ≤ (c.sessionOn v issuedAt device).listens (c.timeline v issuedAt device) := by
  have hinstant := (List.mem_filter.1 hx).2
  rw [decide_eq_true_eq] at hinstant
  by_cases hdeadline : x.instant ≤
      (c.sessionOn v issuedAt device).deadline (c.timeline v issuedAt device).issue
  · exact .inl (Session.spanTo_le_window _ hdeadline)
  · right
    grind

/-- A check that passes saw the device return, and nothing after that. -/
theorem exists_return_of_isPass {verdict : Verdict}
    (hrun : (c.run v issuedAt (some device)).1 = .ok verdict) (hpass : verdict.isPass) :
    ∃ outcome, Outcome.ofReply (refusalPhrases ++ c.phrases) issuedAt
        (c.timeline v issuedAt device).reply.result = .ok outcome ∧
      ¬outcome.isNotSupported ∧ verdict.report = c.reportOn v issuedAt device outcome ∧
      ∃ x ∈ (c.sessionOn v issuedAt device).seen (c.timeline v issuedAt device),
        x.state = .reconnected ∧
        ∀ y ∈ (c.sessionOn v issuedAt device).seen (c.timeline v issuedAt device),
          y.instant ≤ x.instant := by
  obtain ⟨outcome, houtcome, hsupport, rfl⟩ :=
    c.exists_outcome_of_isPass v issuedAt device hrun hpass
  rw [Verdict.isPass, decide_eq_true_eq,
    c.reportOn_kind_eq_pass_iff v issuedAt device hsupport, reportOn_final] at hpass
  obtain ⟨x, hx, hstate⟩ := exists_mem_of_last hpass (by decide)
  have hterm : x.state.isTerminal := by rw [hstate]; rfl
  obtain ⟨-, hle⟩ := (c.seen_inOrder v issuedAt device).le_of_isTerminal hx hterm
  exact ⟨outcome, houtcome, hsupport, rfl, x, hx, hstate, hle⟩

/-- A check that followed its watch and saw the device return passes. -/
theorem run_of_return {outcome : Outcome} {x : Sighting}
    (houtcome : Outcome.ofReply (refusalPhrases ++ c.phrases) issuedAt
      (c.timeline v issuedAt device).reply.result = .ok outcome)
    (hsupport : ¬outcome.isNotSupported)
    (hx : x ∈ (c.sessionOn v issuedAt device).seen (c.timeline v issuedAt device))
    (hstate : x.state = .reconnected) :
    ∃ reason, (c.run v issuedAt (some device)).1 =
      .ok ⟨.pass, reason, c.reportOn v issuedAt device outcome⟩ := by
  have hrun := c.run_of_follow v issuedAt device houtcome hsupport
  have hterm : x.state.isTerminal := by rw [hstate]; rfl
  obtain ⟨hlast, -⟩ := (c.seen_inOrder v issuedAt device).le_of_isTerminal hx hterm
  have hkind : (c.reportOn v issuedAt device outcome).kind = .pass := by
    rw [c.reportOn_kind_eq_pass_iff v issuedAt device hsupport, reportOn_final, hlast, hstate]
  dsimp only at hrun
  rw [hkind] at hrun
  exact ⟨_, hrun⟩

/-- **Passing within the window.**  Whatever check passes has seen each state within the window, if
and only if it is not the case that the device returned after the window and yet before the session
began to listen. -/
theorem pass_within_window_iff :
    (∀ verdict, (c.run v issuedAt (some device)).1 = .ok verdict → verdict.isPass →
        ∀ m ∈ verdict.report.milestones, m.elapsed ≤ verdict.report.budget.window) ↔
      ¬∃ outcome, Outcome.ofReply (refusalPhrases ++ c.phrases) issuedAt
          (c.timeline v issuedAt device).reply.result = .ok outcome ∧
        ¬outcome.isNotSupported ∧
        ∃ x ∈ (c.timeline v issuedAt device).sightings, x.state = .reconnected ∧
          (c.sessionOn v issuedAt device).budget.window <
            (c.timeline v issuedAt device).issue.spanTo x.instant ∧
          x.instant ≤ (c.sessionOn v issuedAt device).listens (c.timeline v issuedAt device) := by
  constructor
  · rintro hpass ⟨outcome, houtcome, hsupport, x, hx, hstate, hlate, hlistens⟩
    have hmem : x ∈ (c.sessionOn v issuedAt device).seen (c.timeline v issuedAt device) :=
      List.mem_filter.2 ⟨hx, by simpa using Int.le_trans hlistens (Int.le_max_left _ _)⟩
    obtain ⟨reason, hrun⟩ := c.run_of_return v issuedAt device houtcome hsupport hmem hstate
    have hmilestone := hpass _ hrun rfl
      (Observation.milestone (c.timeline v issuedAt device).issue x)
      (by rw [reportOn_milestones]; exact List.mem_map_of_mem hmem)
    exact absurd hlate (Nat.not_lt.2 hmilestone)
  · intro hnone verdict hrun hpass m hm
    obtain ⟨outcome, houtcome, hsupport, hreport, x, hx, hstate, hle⟩ :=
      c.exists_return_of_isPass v issuedAt device hrun hpass
    rw [hreport, reportOn_milestones] at hm
    obtain ⟨y, hy, rfl⟩ := List.mem_map.1 hm
    -- no state was seen later than the return of the device
    have hreturn : (c.timeline v issuedAt device).issue.spanTo x.instant ≤
        (c.sessionOn v issuedAt device).budget.window := by
      rcases c.within_or_unheeded v issuedAt device hx with hwithin | hlistens
      · exact hwithin
      · refine Nat.not_lt.1 fun hlate => hnone ?_
        exact ⟨outcome, houtcome, hsupport, x, (List.mem_filter.1 hx).1, hstate, hlate, hlistens⟩
    rw [hreport]
    exact Nat.le_trans (Instant.spanTo_mono _ (hle y hy)) hreturn

/-- The device returns while the command is still running, after more than seven seconds, and the
check passes as if it had returned within five. -/
theorem passes_late_sluggish :
    ∃ verdict, (standard.run .gadget .epoch (some Tabulated.sluggish)).1 = .ok verdict ∧
      verdict.isPass ∧ verdict.reason = "usb disconnected and reconnected within 5000 ms" ∧
      ∃ m ∈ verdict.report.milestones, verdict.report.budget.window < m.elapsed := by
  refine ⟨⟨.pass, "usb disconnected and reconnected within 5000 ms", "gadget", .reconnected,
      [⟨.awaitingReconnect, .ofMillis 900⟩, ⟨.reconnected, .ofMillis 7200⟩],
      ⟨.ofMillis 5000, 1, 0⟩, ⟨"ok", .supported, .epoch⟩⟩, ?_, rfl, rfl,
    ⟨.reconnected, .ofMillis 7200⟩, by simp, by decide⟩
  rfl

end Check

end ResetCheck
