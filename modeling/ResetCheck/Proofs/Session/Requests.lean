import ResetCheck.Proofs.Session.Refused
import ResetCheck.Proofs.Watch.Listening

/-!
# What a session asks of its device

A session issues its command once and then does nothing but listen to its watch.  So the watch asks
for the device to go, and for it to return once it went, whatever way the session takes; and since
the session shuts the watch down, nothing is asked after its end.

* `Session.exists_takes_followWithin`, `Session.exists_takes_drive`: a session is a listener.
* `Session.waits_run`: the waits that are begun in a session.
* `Check.run_requests`: what a check asks of its device.
-/

namespace ResetCheck

/-! ## Draining -/

namespace Observation

/-- Draining takes the first sightings off a queue. -/
theorem exists_drain_rest (o : Observation) (queue : List Sighting) :
    ∃ got, queue = got ++ (o.drain queue).rest := by
  induction queue generalizing o with
  | nil => exact ⟨[], rfl⟩
  | cons s rest ih =>
    rw [drain]
    split
    · next o' _ =>
      obtain ⟨got, hgot⟩ := ih o'
      exact ⟨s :: got, congrArg (s :: ·) hgot⟩
    · exact ⟨[s], rfl⟩

theorem exists_drainUntil_rest (o : Observation) (deadline : Instant) (queue : List Sighting) :
    ∃ got, queue = got ++ (o.drainUntil deadline queue).rest := by
  induction queue generalizing o with
  | nil => exact ⟨[], rfl⟩
  | cons s rest ih =>
    rw [drainUntil]
    split
    · exact ⟨[s], rfl⟩
    · split
      · next o' _ =>
        obtain ⟨got, hgot⟩ := ih o'
        exact ⟨s :: got, congrArg (s :: ·) hgot⟩
      · exact ⟨[s], rfl⟩

end Observation

namespace Session

/-! ## A session is a listener -/

section Listening

variable {σ : Type} [Device σ]

theorem takes_handOn {w : Watch σ} {d : Drained} {got : List Sighting}
    (h : w.queue = got ++ d.rest) : w.Takes got (handOn d w).2 := by
  have htakes := Watch.Takes.of_queue h
  rw [handOn]
  cases d.refusal with
  | none => exact htakes
  | some e => exact htakes

theorem exists_takes_takeQueued (o : Observation) (w : Watch σ) :
    ∃ got, w.Takes got (takeQueued o w).2 := by
  obtain ⟨got, hgot⟩ := o.exists_drain_rest w.queue
  exact ⟨got, takes_handOn hgot⟩

theorem exists_takes_waitOut (o : Observation) (deadline timer : Instant) (w : Watch σ) :
    ∃ got, w.Takes got (waitOut o deadline timer w).2 := by
  obtain ⟨got, hgot⟩ := o.exists_drainUntil_rest deadline (w.runUntil (max w.now timer)).queue
  exact ⟨_, ((Watch.Takes.refl w).runUntil _).trans (takes_handOn hgot)⟩

theorem exists_takes_followWithin (deadline timer : Instant) (n : Nat) (o : Observation)
    (w : Watch σ) : ∃ got, w.Takes got (followWithin deadline timer n o w).2 := by
  induction n generalizing o w with
  | zero => exact exists_takes_takeQueued o w
  | succ n ih =>
    obtain ⟨got, hgot⟩ := exists_takes_takeQueued o w
    rw [followWithin]
    split
    · next e w' htake =>
      rw [htake] at hgot
      exact ⟨got, hgot⟩
    · next o' w' htake =>
      rw [htake] at hgot
      split
      · exact ⟨got, hgot⟩
      · split
        · obtain ⟨more, hmore⟩ := exists_takes_waitOut o' deadline timer w'
          exact ⟨_, hgot.trans hmore⟩
        · next next _ =>
          split
          · obtain ⟨more, hmore⟩ := exists_takes_waitOut o' deadline timer w'
            exact ⟨_, hgot.trans hmore⟩
          · obtain ⟨more, hmore⟩ := ih o' (w'.runUntil next)
            exact ⟨_, (hgot.runUntil next).trans hmore⟩

end Listening

variable {σ : Type} [Device σ] (s : Session) (device : σ) (now : Instant) (calls : List Call)

theorem exists_takes_observe (o : Observation) (outcome : Outcome) (w : Watch σ) :
    ∃ got, w.Takes got (s.observe o outcome w).2 := by
  have hsleep := Watch.Takes.sleep w s.variant.postIssue
  rw [observe]
  split
  · cases s.variant.shortCircuit with
    | beforeDelay => exact exists_takes_takeQueued o w
    | afterDelay =>
      obtain ⟨got, hgot⟩ := exists_takes_takeQueued o (w.sleep s.variant.postIssue)
      exact ⟨_, hsleep.trans hgot⟩
  · obtain ⟨got, hgot⟩ := exists_takes_followWithin (s.deadline o.issued) (s.timer o.issued)
      (w.sleep s.variant.postIssue).phase.stepsLeft o (w.sleep s.variant.postIssue)
    exact ⟨_, hsleep.trans hgot⟩

/-- Whatever way a session takes after the reply, it only listens to its watch. -/
theorem exists_takes_drive :
    ∃ got, (s.answered device now calls).Takes got
      (s.drive (Watch.start device s.times now calls)).2 := by
  rw [drive_eq]
  split
  · exact ⟨[], .refl _⟩
  · next outcome _ => exact s.exists_takes_observe _ outcome _

/-- What was published by the time the reply is there is queued. -/
theorem answered_recorded (hcalls : calls.filterMap Call.wait? = []) :
    (s.answered device now calls).Recorded s.times now (s.answered device now calls).queue := by
  have hstart : (Watch.start device s.times now calls).Recorded s.times now [] :=
    Watch.recorded_start device s.times now hcalls
  have hready : (s.readied device now calls).Recorded s.times now
      (s.readied device now calls).queue :=
    (Watch.Takes.sleep _ s.variant.start).recorded_queue hstart
  have hissued : ((s.readied device now calls).issue s.variant.command).Recorded s.times now
      (s.readied device now calls).queue := hready.issue s.variant.command
  exact (Watch.Takes.pass _ (s.timeline device now).reply.after).recorded_queue hissued

/-- By the time the reply is there, the command was issued once. -/
theorem answered_commands (hcalls : calls.filterMap Call.command? = []) :
    (s.answered device now calls).commands =
      [(s.variant.command, now.wake s.variant.start)] := by
  have hready : (s.readied device now calls).commands = [] :=
    (Watch.Takes.sleep (Watch.start device s.times now calls) s.variant.start).commands_eq.trans
      hcalls
  have hnow : (s.readied device now calls).now = now.wake s.variant.start :=
    (s.readied_now device now calls).trans (s.timeline_issue device now)
  rw [answered, (Watch.Takes.pass _ _).commands_eq, Watch.issue_commands, hready, hnow]
  rfl

/-- The command is issued once, whatever way the session takes. -/
theorem commands_run (hcalls : calls.filterMap Call.command? = []) :
    (s.run device now calls).2.commands = [(s.variant.command, now.wake s.variant.start)] := by
  obtain ⟨got, hgot⟩ := s.exists_takes_drive device now calls
  exact hgot.commands_eq.trans (s.answered_commands device now calls hcalls)

/-- The waits that are begun in a session: one for the device to go, and after that, when the link
has settled, one for it to return. -/
theorem waits_run (hcalls : calls.filterMap Call.wait? = []) :
    let gone : Wait := ⟨.gone, now, s.budget.timeout⟩
    let w := (s.run device now calls).2
    (w.waits <+: [gone] ∨
      ∃ t : Instant, (s.timeline device now).gone = some ⟨t, .reached⟩ ∧
        w.waits = [gone, ⟨.back, t.wake s.variant.settle, s.budget.window⟩]) ∧
      ∀ wait ∈ w.waits, wait.since ≤ w.now := by
  intro gone w
  obtain ⟨got, hgot⟩ := s.exists_takes_drive device now calls
  have hrecorded := hgot.recorded_queue (s.answered_recorded device now calls hcalls)
  refine ⟨?_, hrecorded.begun⟩
  rcases hrecorded.history.waits_eq with hwaits | ⟨t, hleft, hwaits⟩
  · exact .inl hwaits
  · -- All that was published is what the device shows in the session.
    have hseen : ⟨.awaitingReconnect, t⟩ ∈ (s.timeline device now).sightings := by
      rw [← s.answered_queue device now calls, hgot.alone_queue, Watch.alone_queue_eq,
        ← List.append_assoc]
      exact List.mem_append_left _ hleft
    rcases Timeline.mem_sightings.1 hseen with ⟨-, hgone⟩ | ⟨hstate, -⟩
    · exact .inr ⟨t, hgone, hwaits⟩
    · cases hstate

/-- Nothing is asked after the end of a session. -/
theorem runUntil_run (t : Instant) :
    ((s.run device now calls).2.runUntil t).calls = (s.run device now calls).2.calls := by
  rw [Watch.runUntil_of_idle]
  · rfl
  · intro d hd
    cases hd

/-- A session whose command is rejected is over when the reply is there. -/
theorem run_of_rejected {text : String}
    (hreply : (s.timeline device now).reply.result = .error (.rejected text)) :
    (s.run device now calls).1 = .error (.command (.rejected text)) ∧
      (s.run device now calls).2.now = (s.timeline device now).replied := by
  have houtcome : Outcome.ofReply s.phrases s.issuedAt (s.timeline device now).reply.result =
      .error (.command (.rejected text)) := by
    rw [hreply]
    rfl
  have hdrive := s.drive_eq device now calls
  rw [houtcome] at hdrive
  refine ⟨s.run_of_error device now calls houtcome, ?_⟩
  rw [run, hdrive]
  exact s.answered_now device now calls

end Session

/-- **What a check asks of its device.**  A check without a device asks nothing.  With a device it
issues its command once.  It waits for the device to go at most once, and at most once for it to
return, and that only after it went and the link had time to settle.  No wait is begun after the
end of the check, and if the command is rejected, the check is over at once. -/
theorem Check.run_requests {σ : Type} [Device σ] (c : Check) (v : Variant) (issuedAt : WallTime) :
    c.run v issuedAt (none : Option σ) = (.error .noDevice, none) ∧
      ∀ device : σ,
        let tl := c.timeline v issuedAt device
        let budget := (c.sessionOn v issuedAt device).budget
        let gone : Wait := ⟨.gone, 0, budget.timeout⟩
        ∃ verdict w, c.run v issuedAt (some device) = (verdict, some w) ∧
          w.commands = [(v.command, Instant.wake 0 v.start)] ∧
          (w.waits <+: [gone] ∨
            ∃ t : Instant, tl.gone = some ⟨t, .reached⟩ ∧
              w.waits = [gone, ⟨.back, t.wake v.settle, budget.window⟩]) ∧
          (∀ wait ∈ w.waits, wait.since ≤ w.now) ∧
          (∀ t, (w.runUntil t).calls = w.calls) ∧
          ∀ text, tl.reply.result = .error (.rejected text) →
            verdict = .error (.command (.rejected text)) ∧ w.now = tl.issue + tl.reply.after := by
  refine ⟨rfl, fun device => ?_⟩
  obtain ⟨hwaits, hbegun⟩ := (c.sessionOn v issuedAt device).waits_run (c.asked device) 0
    [.property c.policy.property] rfl
  refine ⟨_, _, rfl, (c.sessionOn v issuedAt device).commands_run (c.asked device) 0 _ rfl,
    hwaits, hbegun, (c.sessionOn v issuedAt device).runUntil_run (c.asked device) 0 _, ?_⟩
  intro text hreply
  obtain ⟨hresult, hover⟩ := (c.sessionOn v issuedAt device).run_of_rejected (c.asked device) 0
    [.property c.policy.property] hreply
  exact ⟨congrArg (·.bind Report.judge) hresult, hover⟩

/-- A device that rejects every command, and leaves for a while before it gets one. -/
def Tabulated.refusing : Tabulated where
  properties := []
  propertyFault := none
  gone := ⟨50, .reached⟩
  back := ⟨6000, .reached⟩
  reply := ⟨20, .error (.rejected "device busy")⟩

/-- The check is over twenty milliseconds after the command, while the link still settles. -/
theorem Check.run_requests_refusing :
    (standard.timeline .gadget .epoch Tabulated.refusing).reply.result =
        .error (.rejected "device busy") ∧
      ∃ w, standard.run .gadget .epoch (some Tabulated.refusing) =
          (.error (.command (.rejected "device busy")), some w) ∧
        w.commands = [("svc usb resetUsbGadget", 100)] ∧ w.now = 120 ∧
        w.waits = [⟨.gone, 0, .ofMillis 5000⟩] := by
  have hreply : (standard.timeline .gadget .epoch Tabulated.refusing).reply.result =
      .error (.rejected "device busy") := by
    rw [Check.timeline, Tabulated.timeline_eq]
    rfl
  obtain ⟨verdict, w, hrun, hcommands, -, -, -, hrejected⟩ :=
    (standard.run_requests .gadget .epoch).2 Tabulated.refusing
  obtain ⟨rfl, hnow⟩ := hrejected _ hreply
  have hwaits : some w.waits = some [⟨.gone, 0, .ofMillis 5000⟩] :=
    (congrArg (·.2.map (·.waits)) hrun).symm.trans (by decide +kernel)
  exact ⟨hreply, w, hrun, hcommands.trans (by decide +kernel), hnow.trans (by decide +kernel),
    Option.some.inj hwaits⟩

/-- With delays of forty years, the command is issued and the second wait begins after thirty of
them.  A delay of less than a millisecond takes a whole one. -/
theorem Check.issues_after_thirty_years :
    let forty := Span.ofMillis 1261440000000
    let c := { standard with base := .ofMillis 1576800000000 }
    let v := { Variant.gadget with start := forty, settle := forty }
    let short := { Variant.gadget with start := .ofNanos 200000 }
    (c.run v .epoch (some Tabulated.prompt)).2.map (fun w => (w.commands, w.waits)) =
        some ([(v.command, 946080000000)],
          [⟨.gone, 0, c.base⟩, ⟨.back, 946080000005, c.base⟩]) ∧
      (946080000000 : Instant) < (forty.millis : Int) ∧
      (standard.run short .epoch (some Tabulated.prompt)).2.map (·.commands) =
        some [(short.command, 1)] :=
  ⟨by decide +kernel, by decide +kernel, by decide +kernel⟩

end ResetCheck
