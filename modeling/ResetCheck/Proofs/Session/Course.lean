import ResetCheck.Proofs.Session.Timeline
import ResetCheck.Proofs.Watch.Coherent

/-!
# The course of a watch

A watch does nothing else than put its two waits one after the other, while the command is issued at
some instant of its own.  So what it sees, and when it ends, is what the timeline says.

* `Watch.course`: what comes of a watch and a command.
* `Watch.course_waiting`: the end of a wait is the end that the stage of the device gives it.
* `Session.timeline_course`: the course of a session is its timeline.
-/

namespace ResetCheck

/-! ## The two waits of a watch -/

/-- The state that a wait leads to. -/
def Presence.state : Presence → Connectivity
  | gone => .awaitingReconnect
  | back => .reconnected

/-- The phase in which a wait goes on. -/
def Phase.waiting : Presence → Instant → Phase
  | .gone, since => .awaitingGone since
  | .back, since => .awaitingBack since

namespace WatchTimes

/-- The wait of a watch that began at an instant. -/
def wait (times : WatchTimes) : Presence → Instant → Wait
  | .gone, since => ⟨.gone, since, times.leave⟩
  | .back, since => ⟨.back, since, times.recover⟩

/-- What a watch does after a wait reached what it waited for. -/
def next (times : WatchTimes) : Presence → Instant → Phase
  | .gone, t => .settling (t.wake times.settle)
  | .back, _ => .ended

end WatchTimes

namespace Watch

variable {σ : Type} [Device σ] {w : Watch σ} {p : Presence} {since d issue : Instant}

/-- The watch after a wait ended, if it is heard. -/
def afterWait (w : Watch σ) (p : Presence) (device : σ) (e : WaitEnd) : Watch σ :=
  { w with
    device
    phase := if e.result = .reached then w.times.next p e.instant else .ended
    queue := w.queue ++ e.seen p.state
    now := e.instant }

theorem due?_waiting (hp : w.phase = .waiting p since) :
    w.due? = w.endOf? (w.times.wait p since) := by
  rw [due?, hp]
  cases p <;> rfl

theorem step_waiting (hp : w.phase = .waiting p since) (hheard : w.heard = true)
    {answer : WaitAnswer} {device : σ}
    (ha : Device.await w.device (w.times.wait p since) = (some answer, device)) :
    w.step = w.afterWait p device ⟨max w.now (since + answer.after), answer.result⟩ := by
  have hsince : (w.times.wait p since).since = since := by cases p <;> rfl
  have hstep : w.step = w.finishWait (w.times.wait p since) p.state (w.times.next p) := by
    rw [step, hp]
    cases p <;> rfl
  rw [hstep, finishWait_of_await ha]
  simp only [endOf, hsince, publish, hheard, afterWait, WaitEnd.seen]
  by_cases hr : answer.result = .reached
  · simp [hr]
  · simp [hr]

/-! ## The course of a watch -/

/-- The stage of the device of a watch. -/
def stage (w : Watch σ) (reply? : Option Reply) : Stage σ :=
  ⟨w.device, reply?⟩

/-- The reply to the command, what the watch sees in all, and when it ends, if the command was
replied to already or is issued at an instant to come. -/
def course (w : Watch σ) (reply? : Option Reply) (issue : Instant) (command : String) :
    Reply × List Sighting × Option Instant :=
  match reply? with
  | some reply => (reply, w.alone.queue, w.end?)
  | none =>
    let w := w.runUntil issue
    (w.reply command, (w.issue command).alone.queue, (w.issue command).end?)

theorem course_of_due {command : String} (st : Stage σ) (h : w.due? = some d)
    (hd : st.FitsAt issue w.step.now) :
    w.course st.reply? issue command = w.step.course st.reply? issue command := by
  rw [Stage.FitsAt, step_now h] at hd
  cases hreply : st.reply? with
  | some reply => rw [course, course, alone_of_due h, end?_of_due h]
  | none =>
    rw [hreply] at hd
    rw [course, course, runUntil_of_due h hd]

/-- The watch when the command was issued. -/
def commanded (w : Watch σ) (reply? : Option Reply) (issue : Instant) (command : String)
    (calls : List Call) : Watch σ :=
  { w with
    device := ((w.stage reply?).issued issue command).2
    now := max issue w.now
    calls }

/-- The command is issued while nothing is due, unless it was issued before. -/
theorem course_of_late (command : String) {reply? : Option Reply}
    (h : reply? = none → ∀ d, w.due? = some d → issue < d)
    (hfits : (w.stage reply?).FitsAt issue w.now) :
    ∃ calls, w.course reply? issue command =
      (w.commanded reply? issue command calls).course
        (some ((w.stage reply?).issued issue command).1) issue command := by
  cases reply? with
  | some reply =>
    have hle : issue ≤ w.now := hfits
    refine ⟨w.calls, ?_⟩
    rw [commanded, Int.max_eq_right hle]
    rfl
  | none =>
    have hle : w.now ≤ issue := hfits
    have hrun : w.runUntil issue = { w with now := issue } := by
      rw [runUntil_of_idle (h rfl), clockAt, Int.max_eq_right hle]
    refine ⟨w.calls ++ [Call.execute command issue], ?_⟩
    rw [commanded, Int.max_eq_left hle]
    conv => lhs; rw [course, hrun]
    rfl

/-- Once the command was issued, a wait ends as the device answers. -/
theorem course_issued (command : String) (reply : Reply) (hp : w.phase = .waiting p since)
    (hheard : w.heard = true) (hnow : w.now = max issue since) :
    match Device.await w.device (w.times.wait p since) with
    | (some answer, device) =>
      w.course (some reply) issue command =
        (w.afterWait p device ⟨max issue (since + answer.after), answer.result⟩).course (some reply)
          issue command
    | (none, _) => w.course (some reply) issue command = (reply, w.queue, none) := by
  have hdue := due?_waiting hp
  rcases ha : Device.await w.device (w.times.wait p since) with ⟨_ | answer, device⟩
  · have hidle : w.due? = none := by rw [hdue, endOf?, ha]; rfl
    have hopen : ¬w.isFinished := by
      cases p <;> simp [isFinished, hp, Phase.waiting]
    dsimp only
    rw [course, end?, alone_of_idle hidle, if_neg hopen]
  · have hend : max w.now (since + answer.after) = max issue (since + answer.after) := by
      rw [hnow]
      grind
    have hsome : w.due? = some (w.endOf (w.times.wait p since) answer) := by
      rw [hdue, endOf?, ha]
      rfl
    dsimp only
    rw [course, course, alone_of_due hsome, end?_of_due hsome, step_waiting hp hheard ha, hend]

/-- A wait that is over when the command is issued ends as the device answers before it. -/
theorem course_of_early (command : String) {reply? : Option Reply} {e : WaitEnd} {st : Stage σ}
    (hp : w.phase = .waiting p since) (hheard : w.heard = true) (hnow : w.now = since)
    (he : (w.stage reply?).early? issue (w.times.wait p since) = some (e, st)) :
    st.FitsAt issue e.instant ∧
      w.course reply? issue command =
        (w.afterWait p st.device e).course st.reply? issue command := by
  obtain ⟨answer, device, rfl, ha, hle, rfl, rfl⟩ := Stage.early?_eq_some he
  have hanswer : Device.await w.device (w.times.wait p since) = (some answer, device) := ha
  have hsince : (w.times.wait p since).since = since := by cases p <;> rfl
  rw [hsince] at hle ⊢
  have hend : max w.now (since + answer.after) = since + answer.after := by
    rw [hnow]
    exact Int.max_eq_right (Int.le_add_of_nonneg_right (Int.natCast_nonneg _))
  have hdue : w.due? = some (w.endOf (w.times.wait p since) answer) := by
    rw [due?_waiting hp, endOf?, hanswer]
    rfl
  have hstep := step_waiting hp hheard hanswer
  rw [hend] at hstep
  have hcourse : w.course none issue command = w.step.course none issue command :=
    course_of_due (w.stage none) hdue (by rw [hstep]; exact hle)
  exact ⟨hle, hcourse.trans (by rw [hstep])⟩

/-- The end of a wait is the end that its stage gives it. -/
theorem course_waiting (command : String) {reply? : Option Reply} {wend? : Option WaitEnd}
    {st : Stage σ} (hp : w.phase = .waiting p since) (hheard : w.heard = true)
    (hnow : w.now = since) (hfits : (w.stage reply?).FitsAt issue since) :
    (w.stage reply?).await issue command (w.times.wait p since) = (wend?, st) →
    match wend? with
    | some e =>
      st.FitsAt issue e.instant ∧
        ∃ calls, w.course reply? issue command =
          (Watch.afterWait { w with calls } p st.device e).course st.reply? issue command
    | none => w.course reply? issue command = ((st.issued issue command).1, w.queue, none) := by
  intro ha
  have hsince : (w.times.wait p since).since = since := by cases p <;> rfl
  cases he : (w.stage reply?).early? issue (w.times.wait p since) with
  | some early =>
    obtain ⟨e, st'⟩ := early
    obtain ⟨hend, hcourse⟩ := course_of_early command hp hheard hnow he
    rw [Stage.await, he] at ha
    obtain ⟨rfl, rfl⟩ := Prod.mk.inj ha
    exact ⟨hend, w.calls, hcourse⟩
  | none =>
    have hlate : reply? = none → ∀ d, w.due? = some d → issue < d := by
      rintro rfl d hd
      rw [due?_waiting hp] at hd
      obtain ⟨answer, device, hanswer, rfl⟩ := exists_await_of_endOf? hd
      have hlt := Stage.lt_of_early?_eq_none he rfl hanswer
      exact Int.lt_of_lt_of_le hlt (Int.le_max_right _ _)
    obtain ⟨calls, hcourse⟩ := course_of_late command hlate (by rwa [hnow])
    let v := w.commanded reply? issue command calls
    have hissued := course_issued (w := v) command ((w.stage reply?).issued issue command).1 hp
      hheard (congrArg (max issue) hnow)
    rw [Stage.await_of_late he] at ha
    rcases hanswer : Device.await v.device (v.times.wait p since) with ⟨_ | answer, device⟩
    · have hstage : Device.await ((w.stage reply?).issued issue command).2 (w.times.wait p since) =
          _ := hanswer
      rw [hanswer] at hissued
      rw [hstage] at ha
      obtain ⟨rfl, rfl⟩ := Prod.mk.inj ha
      exact hcourse.trans hissued
    · have hstage : Device.await ((w.stage reply?).issued issue command).2 (w.times.wait p since) =
          _ := hanswer
      rw [hanswer] at hissued
      rw [hstage] at ha
      obtain ⟨rfl, rfl⟩ := Prod.mk.inj ha
      dsimp only [Option.map_some]
      rw [hsince]
      exact ⟨Int.le_max_left _ _, calls, hcourse.trans hissued⟩

/-- Nothing more happens after the end but the command. -/
theorem course_ended (command : String) {reply? : Option Reply} (hp : w.phase = .ended)
    (hfits : (w.stage reply?).FitsAt issue w.now) :
    w.course reply? issue command =
      (((w.stage reply?).issued issue command).1, w.queue, some (max issue w.now)) := by
  have hidle : w.due? = none := by rw [due?, hp]
  obtain ⟨calls, hcourse⟩ := course_of_late command
    (fun _ d hd => absurd (hidle.symm.trans hd) (by simp)) hfits
  have hfin : (w.commanded reply? issue command calls).isFinished := by
    rw [isFinished]
    exact decide_eq_true hp
  rw [hcourse, course, end?_of_isFinished hfin, alone_of_isFinished hfin]
  rfl

theorem step_settling {finish : Instant} (hp : w.phase = .settling finish) (hle : w.now ≤ finish) :
    w.due? = some finish ∧
      ∃ calls, w.step = { w with phase := .awaitingBack finish, now := finish, calls } := by
  have hmax : max w.now finish = finish := Int.max_eq_right hle
  rw [due?, step, hp]
  dsimp only
  rw [hmax]
  exact ⟨rfl, _, rfl⟩

/-- After the link settled, the wait for the device to return begins. -/
theorem course_settling (command : String) {reply? : Option Reply} {finish : Instant}
    (hp : w.phase = .settling finish) (hfits : (w.stage reply?).FitsAt issue w.now)
    (hle : w.now ≤ finish) :
    ∃ st : Stage σ, st.FitsAt issue finish ∧
      (∀ wait, wait.since = finish →
        (w.stage reply?).await issue command wait = st.await issue command wait) ∧
      ∃ calls, w.course reply? issue command =
        Watch.course
          { w with device := st.device, phase := .awaitingBack finish, now := finish, calls }
          st.reply? issue command := by
  obtain ⟨hdue, calls, hstep⟩ := step_settling hp hle
  by_cases hfinish : (w.stage reply?).FitsAt issue finish
  · refine ⟨w.stage reply?, hfinish, fun _ _ => rfl, calls, ?_⟩
    have hcourse : w.course reply? issue command = w.step.course reply? issue command :=
      course_of_due (w.stage reply?) hdue (by rwa [hstep])
    rw [hcourse, hstep]
    rfl
  · -- the command is issued while the link settles
    have hlt : issue < finish := by
      cases reply? with
      | none => exact Int.not_le.1 hfinish
      | some reply => exact absurd (Int.le_trans (show issue ≤ w.now from hfits) hle) hfinish
    obtain ⟨calls, hissued⟩ := course_of_late command
      (fun _ d hd => Option.some.inj (hdue.symm.trans hd) ▸ hlt) hfits
    let v := w.commanded reply? issue command calls
    obtain ⟨hdue', calls', hstep'⟩ := step_settling (w := v) hp
      (Int.max_le.2 ⟨Int.le_of_lt hlt, hle⟩)
    let st := v.stage (some ((w.stage reply?).issued issue command).1)
    refine ⟨st, Int.le_of_lt hlt, fun wait hwait => Stage.await_of_lt (by rwa [hwait]), calls', ?_⟩
    have hcourse : v.course st.reply? issue command = v.step.course st.reply? issue command :=
      course_of_due st hdue' (by rw [hstep']; exact Int.le_of_lt hlt)
    rw [hissued]
    refine hcourse.trans ?_
    rw [hstep']
    rfl

/-- From the settling of the link on, the course is that of the wait for the device to return. -/
theorem course_of_settling (command : String) {reply? : Option Reply} {finish : Instant}
    {back : Option WaitEnd} {st : Stage σ} (hp : w.phase = .settling finish)
    (hheard : w.heard = true) (hfits : (w.stage reply?).FitsAt issue w.now) (hle : w.now ≤ finish)
    (hback : (w.stage reply?).await issue command ⟨.back, finish, w.times.recover⟩ = (back, st)) :
    w.course reply? issue command =
      ((st.issued issue command).1, w.queue ++ back.elim [] (·.seen .reconnected),
        back.map (max issue ·.instant)) := by
  obtain ⟨st', hst', hawait, calls, hcourse⟩ := course_settling command hp hfits hle
  rw [hawait _ rfl] at hback
  let v : Watch σ :=
    { w with device := st'.device, phase := .awaitingBack finish, now := finish, calls }
  have hend := course_waiting (w := v) (p := .back) command rfl hheard rfl hst' hback
  rw [hcourse]
  cases back with
  | none =>
    refine hend.trans ?_
    rw [Option.elim_none, List.append_nil]
    rfl
  | some e =>
    obtain ⟨hfitsEnd, calls', hcourse'⟩ := hend
    have hended : (Watch.afterWait { v with calls := calls' } .back st.device e).phase = .ended :=
      ite_self _
    exact hcourse'.trans (course_ended command hended hfitsEnd)

/-- The course of a watch that has not begun is its timeline. -/
theorem course_unstarted (command : String) (reply? : Option Reply) (hp : w.phase = .unstarted)
    (hheard : w.heard = true) (hqueue : w.queue = [])
    (hfits : (w.stage reply?).FitsAt issue w.now) :
    w.course reply? issue command =
      let tl := (w.stage reply?).timeline w.times w.now issue command
      (tl.reply, tl.sightings, tl.finish?.map (max issue)) := by
  obtain ⟨device, times, phase, queue, heard, now, calls⟩ := w
  obtain rfl : phase = .unstarted := hp
  obtain rfl : queue = [] := hqueue
  have hbegin :
      Watch.course ⟨device, times, .unstarted, [], heard, now, calls⟩ reply? issue command =
        Watch.course _ reply? issue command :=
    course_of_due (⟨device, reply?⟩ : Stage σ) rfl hfits
  let v : Watch σ := Watch.step ⟨device, times, .unstarted, [], heard, now, calls⟩
  rw [hbegin, Stage.timeline]
  rcases hgone : Stage.await ⟨device, reply?⟩ issue command ⟨.gone, now, times.leave⟩ with
    ⟨_ | ⟨left, result⟩, st⟩
  · have hstuck := course_waiting (w := v) (p := .gone) command rfl hheard rfl hfits hgone
    rw [show stage _ reply? = (⟨device, reply?⟩ : Stage σ) from rfl, hgone]
    exact hstuck
  obtain ⟨hleft, calls', hcourse⟩ :=
    course_waiting (w := v) (p := .gone) command rfl hheard rfl hfits hgone
  rw [show stage _ reply? = (⟨device, reply?⟩ : Stage σ) from rfl, hgone]
  refine hcourse.trans ?_
  cases result with
  | reached =>
    rcases hback : st.await issue command ⟨.back, left.wake times.settle, times.recover⟩ with
      ⟨back, st'⟩
    refine (course_of_settling
      (w := Watch.afterWait { v with calls := calls' } .gone st.device ⟨left, .reached⟩)
      command rfl hheard hleft (Instant.le_wake _ _) hback).trans ?_
    dsimp only
    rw [hback]
    cases back <;> rfl
  | _ =>
    exact course_ended (w := Watch.afterWait { v with calls := calls' } .gone st.device ⟨left, _⟩)
      command rfl hleft

end Watch

/-! ## The course of a session -/

namespace Session

variable {σ : Type} [Device σ] (s : Session) (device : σ) (now : Instant) (calls : List Call)

/-- The watch of a session when the command is about to be issued. -/
def readied : Watch σ :=
  (Watch.start device s.times now calls).sleep s.variant.start

theorem readied_now :
    (s.readied device now calls).now = (s.timeline device now).issue := by
  rw [readied, Watch.sleep_now, timeline_issue]
  rfl

/-- What a session gets as the reply, what its watch sees, and when its watch ends. -/
theorem timeline_course :
    let w := s.readied device now calls
    let tl := s.timeline device now
    (w.reply s.variant.command, (w.issue s.variant.command).alone.queue,
        (w.issue s.variant.command).end?) =
      (tl.reply, tl.sightings, tl.finish?.map (max tl.issue)) := by
  have hissue := Instant.le_wake now s.variant.start
  by_cases hstart : s.variant.start.nanos = 0
  · have hready : s.readied device now calls = Watch.start device s.times now calls := by
      rw [readied, Watch.sleep, if_pos hstart]
    have hwake : now.wake s.variant.start = now := Instant.wake_of_nanos_eq_zero hstart
    rw [hready, timeline, if_pos hstart, hwake]
    exact Watch.course_unstarted
      (w := (Watch.start device s.times now calls).issue s.variant.command) s.variant.command
      (some ((Watch.start device s.times now calls).reply s.variant.command)) rfl rfl rfl
      (Int.le_refl now)
  · have hready : s.readied device now calls =
        (Watch.start device s.times now calls).runUntil (now.wake s.variant.start) := by
      rw [readied, Watch.sleep, if_neg hstart]
      rfl
    rw [hready, timeline, if_neg hstart]
    exact Watch.course_unstarted (w := Watch.start device s.times now calls) s.variant.command none
      rfl rfl rfl hissue

end Session

end ResetCheck
