import ResetCheck.Proofs.Watch.Alone

/-!
# What a watch asks and publishes

A watch asks for the device to go and publishes that it went, and only after that, when the link has
settled, it asks for the device to return and publishes that it returned.  At every instant it has
done some part of this, and where it stands tells which part.  This is kept by every step of the
watch, whether or not anybody listens.

* `WatchTimes.History`: the parts of what a watch does, with the waits asked and what was published.
* `Watch.Recorded`: the invariant.
* `Watch.Recorded.step`, `Watch.Recorded.runUntil`: it is kept, and what is published is queued.
* `Watch.exists_alone_calls`: what is asked later is asked when the next step is due, or later.
-/

namespace ResetCheck

/-! ## Requests -/

def Call.wait? : Call → Option Wait
  | wait w => some w
  | _ => none

def Call.command? : Call → Option (String × Instant)
  | execute command t => some (command, t)
  | _ => none

/-- What a watch that began at an instant has asked and published so far. -/
inductive WatchTimes.History (times : WatchTimes) (origin : Instant) :
    List Wait → List Sighting → Prop
  | fresh : History times origin [] []
  | begun : History times origin [⟨.gone, origin, times.leave⟩] []
  | left (t : Instant) :
      History times origin [⟨.gone, origin, times.leave⟩] [⟨.awaitingReconnect, t⟩]
  | settled (t : Instant) :
      History times origin
        [⟨.gone, origin, times.leave⟩, ⟨.back, t.wake times.settle, times.recover⟩]
        [⟨.awaitingReconnect, t⟩]
  | returned (t t' : Instant) (h : t.wake times.settle ≤ t') :
      History times origin
        [⟨.gone, origin, times.leave⟩, ⟨.back, t.wake times.settle, times.recover⟩]
        [⟨.awaitingReconnect, t⟩, ⟨.reconnected, t'⟩]

theorem WatchTimes.History.exists_isPrefix {times : WatchTimes} {origin : Instant}
    {waits : List Wait} {seen : List Sighting} (h : times.History origin waits seen) :
    ∃ t t' : Instant, t.wake times.settle ≤ t' ∧
      seen <+: [⟨.awaitingReconnect, t⟩, ⟨.reconnected, t'⟩] := by
  cases h with
  | fresh => exact ⟨origin, _, Int.le_refl _, List.nil_prefix⟩
  | begun => exact ⟨origin, _, Int.le_refl _, List.nil_prefix⟩
  | left t => exact ⟨t, _, Int.le_refl _, _, rfl⟩
  | settled t => exact ⟨t, _, Int.le_refl _, _, rfl⟩
  | returned t t' hle => exact ⟨t, t', hle, List.prefix_rfl⟩

/-- A watch that has published nothing has not asked for the device to return. -/
theorem WatchTimes.History.wanted_eq_gone {times : WatchTimes} {origin : Instant}
    {waits : List Wait} (h : times.History origin waits []) :
    ∀ wait ∈ waits, wait.wanted = .gone := by
  cases h with
  | fresh => simp
  | begun => simp

/-- A watch asks for the device to return only after it went and the link had time to settle. -/
theorem WatchTimes.History.waits_eq {times : WatchTimes} {origin : Instant} {waits : List Wait}
    {seen : List Sighting} (h : times.History origin waits seen) :
    waits <+: [⟨.gone, origin, times.leave⟩] ∨
      ∃ t : Instant, ⟨.awaitingReconnect, t⟩ ∈ seen ∧
        waits = [⟨.gone, origin, times.leave⟩, ⟨.back, t.wake times.settle, times.recover⟩] := by
  cases h with
  | fresh => exact .inl List.nil_prefix
  | begun => exact .inl List.prefix_rfl
  | left t => exact .inl List.prefix_rfl
  | settled t => exact .inr ⟨t, List.mem_cons_self, rfl⟩
  | returned t t' hle => exact .inr ⟨t, List.mem_cons_self, rfl⟩

/-- Whether a watch that has asked some waits and published some sightings stands in a phase. -/
def Phase.Fits (times : WatchTimes) (origin now : Instant) (waits : List Wait)
    (seen : List Sighting) : Phase → Prop
  | unstarted => now = origin ∧ waits = [] ∧ seen = []
  | awaitingGone since => since = origin ∧ waits = [⟨.gone, origin, times.leave⟩] ∧ seen = []
  | settling finish =>
    now ≤ finish ∧ ∃ t : Instant, finish = t.wake times.settle ∧
      waits = [⟨.gone, origin, times.leave⟩] ∧ seen = [⟨.awaitingReconnect, t⟩]
  | awaitingBack since =>
    ∃ t : Instant, since = t.wake times.settle ∧
      waits = [⟨.gone, origin, times.leave⟩, ⟨.back, since, times.recover⟩] ∧
      seen = [⟨.awaitingReconnect, t⟩]
  | ended => times.History origin waits seen

theorem Phase.Fits.history {times : WatchTimes} {origin now : Instant} {waits : List Wait}
    {seen : List Sighting} {phase : Phase} (h : phase.Fits times origin now waits seen) :
    times.History origin waits seen := by
  cases phase with
  | unstarted =>
    obtain ⟨-, rfl, rfl⟩ := h
    exact .fresh
  | awaitingGone since =>
    obtain ⟨-, rfl, rfl⟩ := h
    exact .begun
  | settling finish =>
    obtain ⟨-, t, -, rfl, rfl⟩ := h
    exact .left t
  | awaitingBack since =>
    obtain ⟨t, rfl, rfl, rfl⟩ := h
    exact .settled t
  | ended => exact h

namespace Watch

variable {σ : Type} {w : Watch σ} {times : WatchTimes} {origin d t : Instant} {seen : List Sighting}

/-- The waits that were asked of the device. -/
def waits (w : Watch σ) : List Wait :=
  w.calls.filterMap Call.wait?

/-- The commands that were issued to the device, and when. -/
def commands (w : Watch σ) : List (String × Instant) :=
  w.calls.filterMap Call.command?

section Frame

variable [Device σ]

theorem finishWait_frame (wait : Wait) (state : Connectivity) (next : Instant → Phase) :
    (w.finishWait wait state next).heard = w.heard ∧
      (w.finishWait wait state next).calls = w.calls := by
  rcases ha : Device.await w.device wait with ⟨_ | answer, device⟩
  · rw [finishWait, ha]
    exact ⟨rfl, rfl⟩
  · rw [finishWait_of_await ha]
    dsimp only
    split
    · rw [publish]
      split <;> exact ⟨rfl, rfl⟩
    · exact ⟨rfl, rfl⟩

theorem step_heard : w.step.heard = w.heard := by
  obtain ⟨device, times, phase, queue, heard, now, calls⟩ := w
  cases phase with
  | unstarted => rfl
  | awaitingGone since => exact (finishWait_frame _ _ _).1
  | settling finish => rfl
  | awaitingBack since => exact (finishWait_frame _ _ _).1
  | ended => rfl

theorem runUntil_heard : (w.runUntil t).heard = w.heard := by
  induction w using runInduction (σ := σ) t with
  | idle w h => rw [runUntil_of_idle h]; rfl
  | due w d h hd ih => rw [runUntil_of_due h hd, ih, step_heard]

/-- A step asks for nothing but a wait, and that at its own instant. -/
theorem step_calls (h : w.due? = some d) :
    ∃ new, w.step.calls = w.calls ++ new ∧
      ∀ c ∈ new, ∃ wait : Wait, c = .wait wait ∧ wait.since = d := by
  obtain ⟨device, times, phase, queue, heard, now, calls⟩ := w
  cases phase with
  | unstarted =>
    refine ⟨_, rfl, fun c hc => ⟨_, List.mem_singleton.1 hc, ?_⟩⟩
    exact Option.some.inj h
  | awaitingGone since =>
    exact ⟨[], (finishWait_frame _ _ _).2.trans (List.append_nil _).symm, by simp⟩
  | settling finish =>
    refine ⟨_, rfl, fun c hc => ⟨_, List.mem_singleton.1 hc, ?_⟩⟩
    exact Option.some.inj h
  | awaitingBack since =>
    exact ⟨[], (finishWait_frame _ _ _).2.trans (List.append_nil _).symm, by simp⟩
  | ended => cases h

theorem step_commands (h : w.due? = some d) : w.step.commands = w.commands := by
  obtain ⟨new, hcalls, hnew⟩ := step_calls h
  have hnone : new.filterMap Call.command? = [] := by
    refine List.filterMap_eq_nil_iff.2 fun c hc => ?_
    obtain ⟨wait, rfl, -⟩ := hnew c hc
    rfl
  rw [commands, hcalls, List.filterMap_append, hnone, List.append_nil]
  rfl

/-- A watch issues no command of its own. -/
theorem runUntil_commands : (w.runUntil t).commands = w.commands := by
  induction w using runInduction (σ := σ) t with
  | idle w h => rw [runUntil_of_idle h]; rfl
  | due w d h hd ih => rw [runUntil_of_due h hd, ih, step_commands h]

/-- All further requests of a watch come when its next step is due, or later. -/
theorem exists_alone_calls :
    ∃ later, w.alone.calls = w.calls ++ later ∧
      ∀ c ∈ later, ∃ wait : Wait, c = .wait wait ∧ ∃ d, w.due? = some d ∧ d ≤ wait.since := by
  induction w using stepInduction with
  | idle w h => exact ⟨[], by rw [alone_of_idle h, List.append_nil], by simp⟩
  | due w d h ih =>
    obtain ⟨new, hnew, hinst⟩ := step_calls h
    obtain ⟨later, hlater, hdue⟩ := ih
    refine ⟨new ++ later, by rw [alone_of_due h, hlater, hnew, List.append_assoc], ?_⟩
    intro c hc
    rcases List.mem_append.1 hc with hc | hc
    · obtain ⟨wait, hwait, hsince⟩ := hinst c hc
      exact ⟨wait, hwait, d, h, Int.le_of_eq hsince.symm⟩
    · obtain ⟨wait, hwait, d', hd', hle⟩ := hdue c hc
      have hstep := now_le_due? hd'
      rw [step_now h] at hstep
      exact ⟨wait, hwait, d, h, Int.le_trans hstep hle⟩

theorem issue_waits (command : String) : (w.issue command).waits = w.waits := by
  rw [waits, issue, List.filterMap_append]
  exact List.append_nil _

theorem issue_commands (command : String) :
    (w.issue command).commands = w.commands ++ [(command, w.now)] :=
  List.filterMap_append

/-- What a watch asks does not depend on what is queued. -/
theorem alone_calls_requeue (queue : List Sighting) :
    Watch.calls { w with queue }.alone = w.alone.calls := by
  rw [alone_eq_emptied, alone_eq_emptied (w := w)]
  rfl

end Frame

/-- A watch that began at an instant and has published `seen` since. -/
structure Recorded (times : WatchTimes) (origin : Instant) (seen : List Sighting) (w : Watch σ) :
    Prop where
  times_eq : w.times = times
  fits : w.phase.Fits times origin w.now w.waits seen
  begun : ∀ wait ∈ w.waits, wait.since ≤ w.now
  past : ∀ s ∈ seen, s.instant ≤ w.now

theorem recorded_start (device : σ) (times : WatchTimes) (now : Instant) {calls : List Call}
    (h : calls.filterMap Call.wait? = []) :
    (start device times now calls).Recorded times now [] := by
  refine ⟨rfl, ⟨rfl, h, rfl⟩, ?_, by simp⟩
  intro wait hwait
  rw [waits, start, h] at hwait
  cases hwait

namespace Recorded

theorem history (h : w.Recorded times origin seen) : times.History origin w.waits seen :=
  h.fits.history

theorem shutdown (h : w.Recorded times origin seen) : w.shutdown.Recorded times origin seen :=
  ⟨h.times_eq, h.history, h.begun, h.past⟩

theorem requeue (h : w.Recorded times origin seen) (queue : List Sighting) :
    Recorded times origin seen { w with queue } :=
  ⟨h.times_eq, h.fits, h.begun, h.past⟩

theorem stopListening (h : w.Recorded times origin seen) :
    w.stopListening.Recorded times origin seen :=
  ⟨h.times_eq, h.fits, h.begun, h.past⟩

variable [Device σ]

theorem issue (h : w.Recorded times origin seen) (command : String) :
    (w.issue command).Recorded times origin seen := by
  have hwaits := issue_waits (w := w) command
  exact ⟨h.times_eq, hwaits ▸ h.fits, hwaits ▸ h.begun, h.past⟩

/-- The clock may go on until the next step is due. -/
theorem clockAt (h : w.Recorded times origin seen) (hdue : ∀ d, w.due? = some d → t ≤ d) :
    (w.clockAt t).Recorded times origin seen := by
  have hle : w.now ≤ (w.clockAt t).now := Int.le_max_left _ _
  refine ⟨h.times_eq, ?_, fun wait hwait => Int.le_trans (h.begun wait hwait) hle,
    fun s hs => Int.le_trans (h.past s hs) hle⟩
  obtain ⟨device, times, phase, queue, heard, now, calls⟩ := w
  have hfits := h.fits
  cases phase with
  | unstarted =>
    obtain ⟨hnow, hrest⟩ := hfits
    exact ⟨(Int.max_eq_left (hdue now rfl)).trans hnow, hrest⟩
  | awaitingGone since => exact hfits
  | settling finish =>
    obtain ⟨hfinish, hrest⟩ := hfits
    have ht : t ≤ max now finish := hdue _ rfl
    rw [Int.max_eq_right hfinish] at ht
    exact ⟨Int.max_le.2 ⟨hfinish, ht⟩, hrest⟩
  | awaitingBack since => exact hfits
  | ended => exact hfits

omit [Device σ] in
theorem beginWait (h : w.Recorded times origin seen) {wait : Wait} {phase : Phase}
    (hsince : wait.since = w.now)
    (hfits : phase.Fits times origin w.now (w.waits ++ [wait]) seen) :
    (w.beginWait wait phase).Recorded times origin seen := by
  have hwaits : (w.beginWait wait phase).waits = w.waits ++ [wait] :=
    List.filterMap_append.trans rfl
  refine ⟨h.times_eq, hwaits ▸ hfits, ?_, h.past⟩
  intro x hx
  rw [hwaits] at hx
  rcases List.mem_append.1 hx with hx | hx
  · exact h.begun x hx
  · obtain rfl := List.mem_singleton.1 hx
    exact Int.le_of_eq hsince

/-- The end of a wait publishes at most what was waited for, and only if somebody listens. -/
theorem finishWait (h : w.Recorded times origin seen) {wait : Wait} (hd : w.endOf? wait = some d)
    (state : Connectivity) (next : Instant → Phase)
    (hnext : ∀ t, wait.since ≤ t →
      (next t).Fits times origin t w.waits (seen ++ [⟨state, t⟩])) :
    ∃ new, (w.finishWait wait state next).queue = w.queue ++ new ∧ (new = [] ∨ w.heard) ∧
      (w.finishWait wait state next).Recorded times origin (seen ++ new) := by
  obtain ⟨answer, device, ha, rfl⟩ := exists_await_of_endOf? hd
  have hle : w.now ≤ w.endOf wait answer := Int.le_max_left _ _
  have hsince : wait.since ≤ w.endOf wait answer :=
    Int.le_trans (Int.le_add_of_nonneg_right (Int.natCast_nonneg _)) (Int.le_max_right _ _)
  have hbegun : ∀ x ∈ w.waits, x.since ≤ w.endOf wait answer :=
    fun x hx => Int.le_trans (h.begun x hx) hle
  have hpast : ∀ s ∈ seen, s.instant ≤ w.endOf wait answer :=
    fun s hs => Int.le_trans (h.past s hs) hle
  rw [finishWait_of_await ha]
  dsimp only
  split
  · rw [publish]
    split
    · next hheard =>
      refine ⟨[⟨state, w.endOf wait answer⟩], rfl, .inr hheard, h.times_eq, hnext _ hsince,
        hbegun, ?_⟩
      intro s hs
      rcases List.mem_append.1 hs with hs | hs
      · exact hpast s hs
      · obtain rfl := List.mem_singleton.1 hs
        exact Int.le_refl _
    · refine ⟨[], (List.append_nil _).symm, .inl rfl, ?_⟩
      rw [List.append_nil]
      exact ⟨h.times_eq, h.history, hbegun, hpast⟩
  · refine ⟨[], (List.append_nil _).symm, .inl rfl, ?_⟩
    rw [List.append_nil]
    exact ⟨h.times_eq, h.history, hbegun, hpast⟩

/-- What a step publishes is queued. -/
theorem step (h : w.Recorded times origin seen) (hd : w.due? = some d) :
    ∃ new, w.step.queue = w.queue ++ new ∧ (new = [] ∨ w.heard) ∧
      w.step.Recorded times origin (seen ++ new) := by
  obtain ⟨device, times', phase, queue, heard, now, calls⟩ := w
  have hfits := h.fits
  obtain rfl : times' = times := h.times_eq
  cases phase with
  | unstarted =>
    obtain ⟨hnow, hwaits, hseen⟩ := hfits
    refine ⟨[], (List.append_nil _).symm, .inl rfl, ?_⟩
    rw [List.append_nil]
    refine h.beginWait rfl ⟨hnow, ?_, hseen⟩
    rw [hwaits]
    exact hnow ▸ rfl
  | awaitingGone since =>
    obtain ⟨rfl, hwaits, rfl⟩ := hfits
    refine h.finishWait hd .awaitingReconnect (fun t => .settling (t.wake times'.settle)) ?_
    exact fun t _ => ⟨Instant.le_wake t times'.settle, t, rfl, hwaits, rfl⟩
  | settling finish =>
    obtain ⟨hle, t, hfinish, hwaits, hseen⟩ := hfits
    have hmax : max now finish = finish := Int.max_eq_right hle
    refine ⟨[], (List.append_nil _).symm, .inl rfl, ?_⟩
    rw [List.append_nil]
    refine (h.clockAt fun d hd => ?_).beginWait (w := Watch.clockAt _ finish) rfl ⟨t, ?_, ?_, hseen⟩
    · exact Option.some.inj hd ▸ Int.le_max_right _ _
    · exact hmax.trans hfinish
    · exact congrArg (· ++ _) hwaits
  | awaitingBack since =>
    obtain ⟨t, hsince, hwaits, rfl⟩ := hfits
    refine h.finishWait hd .reconnected (fun _ => .ended) fun t' ht' => ?_
    have hend : times'.History origin
        [⟨.gone, origin, times'.leave⟩, ⟨.back, since, times'.recover⟩]
        [⟨.awaitingReconnect, t⟩, ⟨.reconnected, t'⟩] := by
      rw [hsince]
      exact .returned t t' (hsince ▸ ht')
    exact hwaits ▸ hend
  | ended => cases hd

/-- As time passes, what the watch publishes is queued. -/
theorem runUntil (h : w.Recorded times origin seen) (t : Instant) :
    ∃ new, (w.runUntil t).queue = w.queue ++ new ∧ (new = [] ∨ w.heard) ∧
      (w.runUntil t).Recorded times origin (seen ++ new) := by
  induction w using runInduction (σ := σ) t generalizing seen with
  | idle w hd =>
    rw [runUntil_of_idle hd]
    refine ⟨[], (List.append_nil _).symm, .inl rfl, ?_⟩
    rw [List.append_nil]
    exact h.clockAt fun d hdue => Int.le_of_lt (hd d hdue)
  | due w d hd hle ih =>
    obtain ⟨new, hqueue, hnew, hstep⟩ := h.step hd
    obtain ⟨later, hlater, hheard, hrun⟩ := ih hstep
    rw [runUntil_of_due hd hle]
    refine ⟨new ++ later, by rw [hlater, hqueue, List.append_assoc], ?_,
      by rwa [← List.append_assoc]⟩
    rw [step_heard] at hheard
    rcases hheard with rfl | hheard
    · rwa [List.append_nil]
    · exact .inr hheard

end Recorded

end Watch

end ResetCheck
