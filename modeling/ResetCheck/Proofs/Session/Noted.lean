import ResetCheck.Proofs.Session.Refused

/-!
# The verdict on a session

Whichever way a session takes, what it has observed in the end makes a report that can be judged.

* `Session.noted`: what a session has observed in the end.
* `Session.judged`: the verdict on the report of a session.
* `Session.judged_of_outcome`, `Session.judged_of_error`: the verdict, by what came of the command.
-/

namespace ResetCheck

namespace Session

variable {σ : Type} [Device σ] (s : Session) (device : σ) (now : Instant) (calls : List Call)

/-- What a session has observed in the end if its command had an outcome. -/
def noted (outcome : Outcome) : List Sighting :=
  if outcome.isNotSupported then (s.refused device now calls).queue
  else s.seen (s.timeline device now)

theorem noted_inOrder (outcome : Outcome) : InOrder (s.noted device now calls outcome) := by
  rw [noted]
  split
  · exact (s.refused_coherent device now calls).inOrder
  · exact s.seen_inOrder device now

/-- The report of a session whose command had an outcome. -/
theorem run_noted {outcome : Outcome}
    (houtcome : Outcome.ofReply s.phrases s.issuedAt (s.timeline device now).reply.result =
      .ok outcome) :
    (s.run device now calls).1 =
      .ok (((Observation.start (s.timeline device now).issue).after
        (s.noted device now calls outcome)).report s.variant.name s.budget outcome) := by
  by_cases hsupport : outcome.isNotSupported
  · have hrun := (s.run_of_outcome device now calls houtcome).1
    have htaken := takeQueued_start (s.refused_coherent device now calls)
      (s.timeline device now).issue
    rw [s.observe_refused device now calls _ hsupport, htaken] at hrun
    rw [noted, if_pos hsupport]
    exact hrun
  · rw [noted, if_neg hsupport]
    exact (s.run_of_follow device now calls houtcome hsupport).1

/-- The verdict on the report of a session. -/
def judged : Except CheckFault Verdict :=
  (s.run device now calls).1.bind Report.judge

theorem judged_of_outcome {outcome : Outcome}
    (houtcome : Outcome.ofReply s.phrases s.issuedAt (s.timeline device now).reply.result =
      .ok outcome) :
    let report := ((Observation.start (s.timeline device now).issue).after
      (s.noted device now calls outcome)).report s.variant.name s.budget outcome
    s.judged device now calls = .ok ⟨report.kind, report.reason, report⟩ := by
  intro report
  have hcheck : report.check = .ok () :=
    Observation.check_report (s.noted_inOrder device now calls outcome) _ _ _ _
  rw [judged, s.run_noted device now calls houtcome]
  show report.judge = _
  rw [Report.judge, hcheck]

/-- A refused command ends in its fault. -/
theorem judged_of_error {e : CheckFault}
    (houtcome : Outcome.ofReply s.phrases s.issuedAt (s.timeline device now).reply.result =
      .error e) :
    s.judged device now calls = .error e := by
  rw [judged, s.run_of_error device now calls houtcome]
  rfl

end Session

end ResetCheck
