import ResetCheck.Device.Tabulated
import ResetCheck.Proofs.Instant
import ResetCheck.Session

/-!
# The timeline of a session

What a device does in a session comes down to few facts: how it replies to the command, and when and
how its two waits end.  A wait that is over when the command is issued ends as the device answered
before the command; any other ends as the device answers after it.

* `Stage`: a device before or after the command.
* `Stage.await`: how a wait ends, from a stage on.
* `Session.timeline`: these facts, for any device.
* `Tabulated.timeline_eq`: the timeline of a device whose answers do not depend on the command.
-/

namespace ResetCheck

/-! ## Waits around a command -/

/-- When and how a wait ended. -/
structure WaitEnd where
  instant : Instant
  result : WaitResult

/-- What is seen at the end of a wait for a state. -/
def WaitEnd.seen (state : Connectivity) (e : WaitEnd) : List Sighting :=
  if e.result = .reached then [⟨state, e.instant⟩] else []

theorem WaitEnd.mem_seen {state : Connectivity} {e : WaitEnd} {x : Sighting} :
    x ∈ e.seen state ↔ x.state = state ∧ e = ⟨x.instant, .reached⟩ := by
  obtain ⟨instant, result⟩ := e
  obtain ⟨state', instant'⟩ := x
  by_cases hr : result = .reached
  · subst hr
    simp [seen, eq_comm]
  · simp [seen, hr]

/-- A device in a session, with its reply to the command once that was issued. -/
structure Stage (σ : Type) where
  device : σ
  reply? : Option Reply

namespace Stage

variable {σ : Type} [Device σ]

/-- The reply to the command, and the device after it. -/
def issued (st : Stage σ) (issue : Instant) (command : String) : Reply × σ :=
  match st.reply? with
  | some reply => (reply, st.device)
  | none => Device.execute st.device issue command

/-- How a wait ends that is over when the command is issued. -/
def early? (st : Stage σ) (issue : Instant) (wait : Wait) : Option (WaitEnd × Stage σ) :=
  match st.reply?, Device.await st.device wait with
  | none, (some answer, device) =>
    if wait.since + answer.after ≤ issue then
      some (⟨wait.since + answer.after, answer.result⟩, ⟨device, none⟩)
    else none
  | _, _ => none

/-- How a wait ends, unless it has no end.  One that goes on when the command is issued does not end
before that. -/
def await (st : Stage σ) (issue : Instant) (command : String) (wait : Wait) :
    Option WaitEnd × Stage σ :=
  match st.early? issue wait with
  | some (e, st) => (some e, st)
  | none =>
    let (reply, device) := st.issued issue command
    let (answer, device) := Device.await device wait
    (answer.map fun a => ⟨max issue (wait.since + a.after), a.result⟩, ⟨device, some reply⟩)

/-- Whether a device can be in this stage at an instant: the command was issued by then, unless it
is yet to come. -/
def FitsAt (st : Stage σ) (issue t : Instant) : Prop :=
  match st.reply? with
  | none => t ≤ issue
  | some _ => issue ≤ t

theorem early?_eq_some {st st' : Stage σ} {issue : Instant} {wait : Wait} {e : WaitEnd}
    (h : st.early? issue wait = some (e, st')) :
    ∃ answer device, st.reply? = none ∧ Device.await st.device wait = (some answer, device) ∧
      wait.since + answer.after ≤ issue ∧ e = ⟨wait.since + answer.after, answer.result⟩ ∧
      st' = ⟨device, none⟩ := by
  rw [early?] at h
  split at h
  · next answer device hreply ha =>
    split at h
    · next hle =>
      obtain ⟨rfl, rfl⟩ := Prod.mk.inj (Option.some.inj h)
      exact ⟨answer, device, hreply, ha, hle, rfl, rfl⟩
    · cases h
  · cases h

/-- A wait that is not over when the command is issued ends later, as the device answered. -/
theorem lt_of_early?_eq_none {st : Stage σ} {issue : Instant} {wait : Wait} {answer : WaitAnswer}
    {device : σ} (h : st.early? issue wait = none) (hreply : st.reply? = none)
    (ha : Device.await st.device wait = (some answer, device)) :
    issue < wait.since + answer.after := by
  rw [early?, hreply, ha] at h
  dsimp only at h
  split at h
  · cases h
  · next hlt => exact Int.not_le.1 hlt

/-- Only a wait that begins before the command is issued is over by then. -/
theorem early?_of_lt {st : Stage σ} {issue : Instant} {wait : Wait} (h : issue < wait.since) :
    st.early? issue wait = none := by
  cases he : st.early? issue wait with
  | none => rfl
  | some e =>
    obtain ⟨answer, device, -, -, hle, -, -⟩ := early?_eq_some he
    exact absurd (Int.le_trans (Int.le_add_of_nonneg_right (Int.natCast_nonneg _)) hle)
      (Int.not_le.2 h)

theorem await_of_late {st : Stage σ} {issue : Instant} {command : String} {wait : Wait}
    (h : st.early? issue wait = none) :
    st.await issue command wait =
      ((Device.await (st.issued issue command).2 wait).1.map fun a =>
          ⟨max issue (wait.since + a.after), a.result⟩,
        ⟨(Device.await (st.issued issue command).2 wait).2, some (st.issued issue command).1⟩) := by
  rw [await, h]

/-- Waiting does not change the reply to the command if it does not change the device. -/
theorem issued_await (hstill : ∀ (device : σ) wait, (Device.await device wait).2 = device)
    (st : Stage σ) (issue : Instant) (command : String) (wait : Wait) :
    ((st.await issue command wait).2.issued issue command).1 = (st.issued issue command).1 := by
  cases he : st.early? issue wait with
  | none => rw [await_of_late he]; rfl
  | some early =>
    obtain ⟨e, st'⟩ := early
    obtain ⟨answer, device, hreply, ha, -, -, rfl⟩ := early?_eq_some he
    have hdevice : device = st.device := by rw [← hstill st.device wait, ha]
    rw [await, he, issued, issued, hreply, hdevice]

/-- A wait that begins after the command was issued meets the device after the command. -/
theorem await_of_lt {st : Stage σ} {issue : Instant} {command : String} {wait : Wait}
    (h : issue < wait.since) :
    st.await issue command wait =
      (⟨(st.issued issue command).2, some (st.issued issue command).1⟩ : Stage σ).await issue
        command wait := by
  rw [await_of_late (early?_of_lt h), await_of_late (early?_of_lt h)]
  rfl

end Stage

/-- What a device does in a session. -/
structure Timeline where
  /-- When the command is issued. -/
  issue : Instant
  reply : Reply
  /-- How the wait for the device to go ends, unless it has no end. -/
  gone : Option WaitEnd
  /-- How the wait for the device to return ends, if it is begun and has an end. -/
  back : Option WaitEnd

namespace Timeline

/-- What the watch sees: each wait that reached what it waited for. -/
def sightings (tl : Timeline) : List Sighting :=
  tl.gone.elim [] (·.seen .awaitingReconnect) ++ tl.back.elim [] (·.seen .reconnected)

/-- Each sighting is the end of one of the two waits. -/
theorem mem_sightings {tl : Timeline} {x : Sighting} :
    x ∈ tl.sightings ↔
      x.state = .awaitingReconnect ∧ tl.gone = some ⟨x.instant, .reached⟩ ∨
        x.state = .reconnected ∧ tl.back = some ⟨x.instant, .reached⟩ := by
  rw [sightings, List.mem_append]
  refine or_congr ?_ ?_
  · cases tl.gone with
    | none => simp
    | some e => simp [WaitEnd.mem_seen]
  · cases tl.back with
    | none => simp
    | some e => simp [WaitEnd.mem_seen]

/-- When the watch ends, unless it is stuck in a wait that has no end. -/
def finish? (tl : Timeline) : Option Instant :=
  tl.gone.bind fun e => if e.result = .reached then tl.back.map (·.instant) else some e.instant

end Timeline

/-- The timeline of a watch, from an instant on. -/
def Stage.timeline {σ : Type} [Device σ] (st : Stage σ) (times : WatchTimes)
    (now issue : Instant) (command : String) : Timeline :=
  let (gone, st) := st.await issue command ⟨.gone, now, times.leave⟩
  let (back, st) :=
    match gone with
    | some ⟨left, .reached⟩ =>
      st.await issue command ⟨.back, left.wake times.settle, times.recover⟩
    | _ => (none, st)
  ⟨issue, (st.issued issue command).1, gone, back⟩

/-- The timeline of a session.  The watch has a head start over the command unless the start delay
is zero. -/
def Session.timeline {σ : Type} [Device σ] (s : Session) (device : σ) (now : Instant) : Timeline :=
  let issue := now.wake s.variant.start
  let command := s.variant.command
  if s.variant.start.nanos = 0 then
    let (reply, device) := Device.execute device issue command
    Stage.timeline ⟨device, some reply⟩ s.times now issue command
  else Stage.timeline ⟨device, none⟩ s.times now issue command

theorem Session.timeline_issue {σ : Type} [Device σ] (s : Session) (device : σ) (now : Instant) :
    (s.timeline device now).issue = now.wake s.variant.start := by
  rw [timeline]
  split <;> rfl

/-- The reply in a timeline, if waiting does not change the device. -/
theorem Stage.timeline_reply {σ : Type} [Device σ]
    (hstill : ∀ (device : σ) wait, (Device.await device wait).2 = device) (st : Stage σ)
    (times : WatchTimes) (now issue : Instant) (command : String) :
    (st.timeline times now issue command).reply = (st.issued issue command).1 := by
  have hgone := issued_await hstill st issue command ⟨.gone, now, times.leave⟩
  rw [timeline]
  rcases hst : st.await issue command ⟨.gone, now, times.leave⟩ with ⟨_ | ⟨left, _ | _ | _⟩, st'⟩
  all_goals rw [hst] at hgone
  · exact hgone
  · exact (issued_await hstill st' issue command _).trans hgone
  · exact hgone
  · exact hgone

theorem Stage.timeline_gone {σ : Type} [Device σ] (st : Stage σ) (times : WatchTimes)
    (now issue : Instant) (command : String) :
    (st.timeline times now issue command).gone =
      (st.await issue command ⟨.gone, now, times.leave⟩).1 := rfl

/-! ## Tabulated devices -/

namespace Tabulated

/-- The reply of a device to any command. -/
def answeredReply (d : Tabulated) : Reply :=
  { d.reply with after := pause d.reply.after }

/-- Whether a stage before a wait is one of a device: nothing but the command comes in between. -/
def Staged (d : Tabulated) (issue since : Instant) (st : Stage Tabulated) : Prop :=
  st = ⟨d, none⟩ ∨ st = ⟨d, some d.answeredReply⟩ ∧ issue ≤ since

theorem Staged.issued_eq {d : Tabulated} {issue since : Instant} {st : Stage Tabulated}
    (h : d.Staged issue since st) (command : String) :
    st.issued issue command = (d.answeredReply, d) := by
  rcases h with rfl | ⟨rfl, -⟩
  · rfl
  · rfl

theorem Staged.mono {d : Tabulated} {issue since later : Instant} {st : Stage Tabulated}
    (h : d.Staged issue since st) (hle : since ≤ later) : d.Staged issue later st := by
  rcases h with h | ⟨h, hissue⟩
  · exact .inl h
  · exact .inr ⟨h, Int.le_trans hissue hle⟩

/-- A wait ends when the table says, whether or not the command comes in between. -/
theorem await_eq {d : Tabulated} {issue : Instant} {st : Stage Tabulated} (wait : Wait)
    (h : d.Staged issue wait.since st) (command : String) :
    ∃ st', d.Staged issue (wait.since + (d.answer wait.wanted).after) st' ∧
      st.await issue command wait =
        (some ⟨wait.since + (d.answer wait.wanted).after, (d.answer wait.wanted).result⟩, st') := by
  have hle : wait.since ≤ wait.since + (d.answer wait.wanted).after :=
    Int.le_add_of_nonneg_right (Int.natCast_nonneg _)
  cases he : st.early? issue wait with
  | some early =>
    obtain ⟨e, st'⟩ := early
    obtain ⟨answer, device, hreply, ha, -, rfl, rfl⟩ := Stage.early?_eq_some he
    rcases h with rfl | ⟨rfl, -⟩
    · cases ha
      exact ⟨_, .inl rfl, by rw [Stage.await, he]⟩
    · cases hreply
  | none =>
    have hend : issue ≤ wait.since + (d.answer wait.wanted).after := by
      rcases h with rfl | ⟨rfl, hissue⟩
      · exact Int.le_of_lt (Stage.lt_of_early?_eq_none he rfl rfl)
      · exact Int.le_trans hissue hle
    refine ⟨⟨d, some d.answeredReply⟩, .inr ⟨rfl, hend⟩, ?_⟩
    rw [Stage.await_of_late he, h.issued_eq]
    show (some (⟨max issue _, _⟩ : WaitEnd), _) = _
    rw [Int.max_eq_right hend]
    rfl

theorem Staged.timeline_eq {d : Tabulated} {now issue : Instant} {st : Stage Tabulated}
    (h : d.Staged issue now st) (times : WatchTimes) (command : String) :
    let left : Instant := now + pause d.gone.after
    st.timeline times now issue command =
      { issue
        reply := d.answeredReply
        gone := some ⟨left, d.gone.result⟩
        back :=
          if d.gone.result = .reached then
            some ⟨left.wake times.settle + pause d.back.after, d.back.result⟩
          else none } := by
  dsimp only
  obtain ⟨st₁, hst₁, hgone⟩ := await_eq ⟨.gone, now, times.leave⟩ h command
  have hanswer : d.answer .gone = ⟨pause d.gone.after, d.gone.result⟩ := rfl
  simp only [hanswer] at hst₁ hgone
  rw [Stage.timeline, hgone]
  cases hr : d.gone.result with
  | reached =>
    obtain ⟨st₂, hst₂, hback⟩ := await_eq
      ⟨.back, Instant.wake (now + pause d.gone.after) times.settle, times.recover⟩
      (hst₁.mono (Instant.le_wake _ _)) command
    dsimp only
    rw [hback]
    dsimp only
    rw [hst₂.issued_eq]
    rfl
  | _ =>
    dsimp only
    rw [hst₁.issued_eq]
    rfl

/-- The timeline of a tabulated device: the first wait begins with the watch, and the second when
the link has settled. -/
theorem timeline_eq (s : Session) (d : Tabulated) (now : Instant) :
    let left : Instant := now + pause d.gone.after
    s.timeline d now =
      { issue := now.wake s.variant.start
        reply := d.answeredReply
        gone := some ⟨left, d.gone.result⟩
        back :=
          if d.gone.result = .reached then
            some ⟨left.wake s.variant.settle + pause d.back.after, d.back.result⟩
          else none } := by
  rw [Session.timeline]
  split
  · next hstart =>
    have hissue : now.wake s.variant.start ≤ now :=
      Int.le_of_eq (Instant.wake_of_nanos_eq_zero hstart)
    exact Staged.timeline_eq (.inr ⟨rfl, hissue⟩) s.times s.variant.command
  · exact Staged.timeline_eq (.inl rfl) s.times s.variant.command

end Tabulated

end ResetCheck
