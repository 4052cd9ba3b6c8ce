import ResetCheck.Proofs.Device.Scripted
import ResetCheck.Proofs.Watch.Alone

/-!
# Watches with longer timeouts

Two watches over one device differ in their timeouts only.  They go abreast until the one with the
shorter timeouts gives up a wait that the other goes on with.  From then on it is behind: it does
nothing more, and the other one may see more.

* `Device.Patient`: what a longer timeout may change in the answer to a wait.
* `Watch.Trails`: the relation between the two watches.
* `Watch.Trails.runUntil`, `Watch.Trails.issue`: it is kept by the passing of time and by a command.
* `Watch.Trails.alone_queue`: in the end the one watch has seen the first part of what the other
  has.
-/

namespace ResetCheck

/-! ## Waits with longer timeouts -/

/-- Whether waiting leaves the devices of a type as they are. -/
def Device.Still (σ : Type) [Device σ] : Prop :=
  ∀ (device : σ) (wait : Wait), (Device.await device wait).2 = device

/-- A longer timeout changes nothing in a wait, unless the wait is given up.  It is given up before
it could end otherwise, and then waiting leaves the devices as they are. -/
def Device.Patient (σ : Type) [Device σ] : Prop :=
  ∀ (device : σ) (wait : Wait) (timeout : Span), wait.timeout ≤ timeout →
    Device.await device { wait with timeout } = Device.await device wait ∨
      Device.Still σ ∧ ∃ answer, (Device.await device wait).1 = some answer ∧
        answer.result ≠ .reached ∧
        ∀ later, (Device.await device { wait with timeout }).1 = some later →
          answer.after ≤ later.after

/-- The two kinds of devices that a timeout does not hurry: scripted ones, and those whose answers
do not depend on it. -/
inductive Device.Unhurried : (σ : Type) → [Device σ] → Prop
  | scripted : Unhurried Scripted
  | heedless {σ : Type} [Device σ]
      (h : ∀ (device : σ) (wait : Wait) (timeout : Span),
        Device.await device { wait with timeout } = Device.await device wait) : Unhurried σ

namespace Scripted

variable {d : Scripted} {w : Wait} {timeout : Span}

/-- A wait reaches what it waits for at the first instant that shows it, or is given up. -/
theorem await_cases (hscript : d.script ≠ .transportFailure) (w : Wait) :
    (∃ t, d.firstSatisfied? w.wanted w.since = some t ∧ w.Covers t ∧
      d.await w = some ⟨(t - w.since).toNat, .reached⟩) ∨
    (∀ t, d.firstSatisfied? w.wanted w.since = some t → ¬w.Covers t) ∧ d.await w = giveUp? w := by
  rw [await, if_neg hscript]
  cases hfirst : d.firstSatisfied? w.wanted w.since with
  | none =>
    refine .inr ⟨fun t ht => ?_, rfl⟩
    cases ht
  | some t =>
    have hsince := (satisfies_of_firstSatisfied? hfirst).1
    by_cases hcovers : t = w.since ∨ (w.since.alarm? w.timeout).all (t < ·)
    · exact .inl ⟨t, rfl, ⟨hsince, hcovers⟩, if_pos hcovers⟩
    · refine .inr ⟨?_, if_neg hcovers⟩
      intro t' ht' hcovers'
      obtain rfl := Option.some.inj ht'
      exact hcovers hcovers'.2

/-- A longer wait covers what a shorter one covers. -/
theorem covers_of_longer (h : w.timeout ≤ timeout) {t : Instant} (ht : w.Covers t) :
    Wait.Covers { w with timeout } t := by
  refine ⟨ht.1, ht.2.imp id fun hlt => ?_⟩
  rw [Option.all_eq_true] at hlt ⊢
  intro limit' hlimit'
  cases hlimit : w.since.alarm? w.timeout with
  | none =>
    have hnone := Instant.alarm?_eq_none_mono h hlimit
    exact absurd (hlimit'.symm.trans hnone) (Option.some_ne_none _)
  | some limit =>
    have hlate := hlt limit hlimit
    have hle : limit ≤ limit' := Instant.alarm?_mono h hlimit hlimit'
    simp only [decide_eq_true_eq] at hlate ⊢
    exact Int.lt_of_lt_of_le hlate hle

/-- A wait that does not cover a later instant is over by then. -/
theorem le_of_not_covers {t limit : Instant} (hsince : w.since ≤ t)
    (hlimit : w.since.alarm? w.timeout = some limit) (h : ¬w.Covers t) : limit ≤ t := by
  refine Int.not_lt.1 fun hlt => h ⟨hsince, .inr ?_⟩
  rw [hlimit]
  simpa using hlt

theorem giveUp?_eq_none (h : w.since.alarm? w.timeout = none) : giveUp? w = none := by
  rw [giveUp?, h]
  rfl

/-- Scripted devices are patient: only the time at which a wait is given up depends on its
timeout. -/
theorem patient : Device.Patient Scripted := by
  intro d w timeout h
  show (d.await { w with timeout }, d) = (d.await w, d) ∨ _
  by_cases hscript : d.script = .transportFailure
  · left
    rw [await, await, if_pos hscript, if_pos hscript]
  rcases await_cases hscript w with ⟨t, hfirst, hcovers, hawait⟩ | ⟨hmissed, hawait⟩
  · -- what the shorter wait reaches, the longer one reaches at the same instant
    left
    rcases await_cases hscript { w with timeout } with ⟨t', hfirst', -, hawait'⟩ | ⟨hmissed', -⟩
    · obtain rfl := Option.some.inj (hfirst.symm.trans hfirst')
      rw [hawait, hawait']
    · exact absurd (covers_of_longer h hcovers) (hmissed' t hfirst)
  cases hlimit : w.since.alarm? w.timeout with
  | none =>
    left
    have hnone := giveUp?_eq_none (w := { w with timeout }) (Instant.alarm?_eq_none_mono h hlimit)
    rcases await_cases hscript { w with timeout } with ⟨t', hfirst', -, -⟩ | ⟨-, hawait'⟩
    · refine absurd ⟨(satisfies_of_firstSatisfied? hfirst').1, .inr ?_⟩ (hmissed t' hfirst')
      rw [hlimit]
      rfl
    · rw [hawait, hawait', giveUp?_eq_none hlimit, hnone]
  | some limit =>
    right
    refine ⟨fun _ _ => rfl, ⟨(limit - w.since).toNat, .failed (.unavailable w.timeout)⟩, ?_, ?_, ?_⟩
    · show d.await w = _
      rw [hawait, giveUp?, hlimit]
      rfl
    · intro h
      cases h
    · intro later hlater
      have hlater : d.await { w with timeout } = some later := hlater
      rcases await_cases hscript { w with timeout } with
        ⟨t', hfirst', -, hawait'⟩ | ⟨-, hawait'⟩
      · have hlate : limit ≤ t' := le_of_not_covers (w := w)
          (satisfies_of_firstSatisfied? hfirst').1 hlimit (hmissed t' hfirst')
        obtain rfl := Option.some.inj (hlater.symm.trans hawait')
        exact Int.toNat_le_toNat (Int.sub_le_sub_right hlate _)
      · have hgiveUp := hlater.symm.trans hawait'
        rw [giveUp?, eq_comm, Option.map_eq_some_iff] at hgiveUp
        obtain ⟨limit', hlimit', rfl⟩ := hgiveUp
        exact Int.toNat_le_toNat (Int.sub_le_sub_right (Instant.alarm?_mono h hlimit hlimit') _)

end Scripted

theorem Device.Unhurried.patient {σ : Type} [Device σ] (h : Device.Unhurried σ) :
    Device.Patient σ := by
  cases h with
  | scripted => exact Scripted.patient
  | heedless h => exact fun device wait timeout _ => .inl (h device wait timeout)

/-! ## One watch behind another -/

/-- Whether a watch with other times settles as long and waits at least as long. -/
structure WatchTimes.Within (a b : WatchTimes) : Prop where
  leave : a.leave ≤ b.leave
  settle : b.settle = a.settle
  recover : a.recover ≤ b.recover

namespace Watch

variable {σ : Type} [Device σ] {w v : Watch σ} {times : WatchTimes} {d t : Instant}

/-- The watch with other times, after other requests. -/
def retimed (w : Watch σ) (times : WatchTimes) (calls : List Call) : Watch σ :=
  { w with times, calls }

/-- A watch that was to give up a wait is at its end. -/
def givenUp (w : Watch σ) (d : Instant) : Watch σ :=
  { w with phase := .ended, now := d }

/-- Under a longer timeout a wait ends as it does under a shorter one, unless that is given up. -/
theorem finishWait_retimed (hpatient : Device.Patient σ) (calls : List Call) {wait : Wait}
    {timeout : Span} (hle : wait.timeout ≤ timeout) (hd : w.endOf? wait = some d)
    (state : Connectivity) (next : Instant → Phase) :
    ((w.retimed times calls).endOf? { wait with timeout } = some d ∧
        (w.retimed times calls).finishWait { wait with timeout } state next =
          (w.finishWait wait state next).retimed times calls) ∨
      Device.Still σ ∧ w.finishWait wait state next = w.givenUp d ∧
        ∀ d', (w.retimed times calls).endOf? { wait with timeout } = some d' → d ≤ d' := by
  obtain ⟨answer, device, ha, rfl⟩ := exists_await_of_endOf? hd
  rcases hpatient w.device wait timeout hle with hsame | ⟨hstill, answer', ha', hr, hlater⟩
  · left
    rw [ha] at hsame
    have hretimed : Device.await (w.retimed times calls).device { wait with timeout } =
      (some answer, device) := hsame
    refine ⟨?_, ?_⟩
    · rw [endOf?, hretimed]
      rfl
    · rw [finishWait_of_await ha, finishWait_of_await hretimed]
      dsimp only
      by_cases hr : answer.result = .reached
      · rw [if_pos hr, publish, if_pos hr, publish]
        obtain ⟨device, times, phase, queue, heard, now, calls⟩ := w
        cases heard <;> rfl
      · rw [if_neg hr, if_neg hr]
        rfl
  · right
    have hdevice : device = w.device := by rw [← hstill w.device wait, ha]
    rw [ha] at ha'
    obtain rfl : answer = answer' := Option.some.inj ha'
    refine ⟨hstill, ?_, ?_⟩
    · rw [finishWait_of_await ha, hdevice]
      exact if_neg hr
    · intro d' hd'
      obtain ⟨later, device', hlate, rfl⟩ := exists_await_of_endOf? hd'
      have hafter := hlater later (congrArg Prod.fst hlate)
      refine Int.max_le.2 ⟨Int.le_max_left _ _, Int.le_trans ?_ (Int.le_max_right _ _)⟩
      exact Int.add_le_add_left (Int.ofNat_le.2 hafter) _

/-- Under a longer timeout a wait without end has no end either. -/
theorem endOf?_retimed_eq_none (times : WatchTimes) (hpatient : Device.Patient σ)
    (calls : List Call) {wait : Wait} {timeout : Span} (hle : wait.timeout ≤ timeout)
    (h : w.endOf? wait = none) :
    (w.retimed times calls).endOf? { wait with timeout } = none := by
  rw [endOf?, Option.map_eq_none_iff] at h ⊢
  rcases hpatient w.device wait timeout hle with hsame | ⟨-, answer, ha, -⟩
  · exact (congrArg Prod.fst hsame).trans h
  · exact absurd (ha.symm.trans h) (Option.some_ne_none _)

/-- A watch with longer timeouts takes the same step at the same instant, unless a wait is given up.
Then its own wait goes on at least as long. -/
theorem step_retimed (hpatient : Device.Patient σ) (htimes : w.times.Within times)
    (calls : List Call) (hd : w.due? = some d) :
    ((w.retimed times calls).due? = some d ∧
        ∃ calls', (w.retimed times calls).step = w.step.retimed times calls') ∨
      Device.Still σ ∧ w.step = w.givenUp d ∧
        ∀ d', (w.retimed times calls).due? = some d' → d ≤ d' := by
  obtain ⟨device, ⟨leave, settle, recover⟩, phase, queue, heard, now, calls'⟩ := w
  obtain ⟨leave', settle', recover'⟩ := times
  obtain ⟨hleave, hsettle, hrecover⟩ := htimes
  obtain rfl : settle' = settle := hsettle
  cases phase with
  | unstarted => exact .inl ⟨hd, _, rfl⟩
  | awaitingGone since =>
    rcases finishWait_retimed hpatient calls hleave hd .awaitingReconnect
      fun t => .settling (t.wake settle') with ⟨hdue, hstep⟩ | hgivenUp
    · exact .inl ⟨hdue, calls, hstep⟩
    · exact .inr hgivenUp
  | settling finish => exact .inl ⟨hd, _, rfl⟩
  | awaitingBack since =>
    rcases finishWait_retimed hpatient calls hrecover hd .reconnected fun _ => .ended with
      ⟨hdue, hstep⟩ | hgivenUp
    · exact .inl ⟨hdue, calls, hstep⟩
    · exact .inr hgivenUp
  | ended => cases hd

/-- A watch with longer timeouts is not due before the other. -/
theorem due?_retimed (hpatient : Device.Patient σ) (htimes : w.times.Within times)
    (calls : List Call) {d' : Instant} (hd' : (w.retimed times calls).due? = some d') :
    ∃ d, w.due? = some d ∧ d ≤ d' := by
  cases hd : w.due? with
  | some d =>
    refine ⟨d, rfl, ?_⟩
    rcases step_retimed hpatient htimes calls hd with ⟨hdue, -⟩ | ⟨-, -, hlater⟩
    · exact Int.le_of_eq (Option.some.inj (hdue.symm.trans hd'))
    · exact hlater d' hd'
  | none =>
    obtain ⟨device, ⟨leave, settle, recover⟩, phase, queue, heard, now, calls'⟩ := w
    obtain ⟨leave', settle', recover'⟩ := times
    cases phase with
    | unstarted => cases hd
    | awaitingGone since =>
      have hnone := endOf?_retimed_eq_none ⟨leave', settle', recover'⟩ hpatient calls htimes.leave
        hd
      exact absurd (hd'.symm.trans hnone) (Option.some_ne_none _)
    | settling finish => cases hd
    | awaitingBack since =>
      have hnone := endOf?_retimed_eq_none ⟨leave', settle', recover'⟩ hpatient calls
        htimes.recover hd
      exact absurd (hd'.symm.trans hnone) (Option.some_ne_none _)
    | ended => cases hd'

/-- The end of a wait leaves the times as they are, and the device too if waiting does. -/
theorem finishWait_keeps (wait : Wait) (state : Connectivity) (next : Instant → Phase) :
    (w.finishWait wait state next).times = w.times ∧
      (Device.Still σ → (w.finishWait wait state next).device = w.device) := by
  rcases ha : Device.await w.device wait with ⟨_ | answer, device⟩
  · rw [finishWait, ha]
    exact ⟨rfl, fun _ => rfl⟩
  · have hdevice : Device.Still σ → device = w.device := fun hstill => by
      rw [← hstill w.device wait, ha]
    rw [finishWait_of_await ha]
    dsimp only
    split
    · rw [publish]
      split <;> exact ⟨rfl, hdevice⟩
    · exact ⟨rfl, hdevice⟩

theorem step_keeps : w.step.times = w.times ∧ (Device.Still σ → w.step.device = w.device) := by
  obtain ⟨device, times, phase, queue, heard, now, calls⟩ := w
  cases phase with
  | unstarted => exact ⟨rfl, fun _ => rfl⟩
  | awaitingGone since => exact finishWait_keeps _ _ _
  | settling finish => exact ⟨rfl, fun _ => rfl⟩
  | awaitingBack since => exact finishWait_keeps _ _ _
  | ended => exact ⟨rfl, fun _ => rfl⟩

theorem device_runUntil (hstill : Device.Still σ) : (w.runUntil t).device = w.device := by
  induction w using runInduction (σ := σ) t with
  | idle w h => rw [runUntil_of_idle h]; rfl
  | due w d h hd ih => rw [runUntil_of_due h hd, ih, step_keeps.2 hstill]

/-- What is queued stays queued. -/
theorem queue_isPrefix_runUntil : w.queue <+: (w.runUntil t).queue := by
  induction w using runInduction (σ := σ) t with
  | idle w h => rw [runUntil_of_idle h]; exact List.prefix_rfl
  | due w d h hd ih =>
    obtain ⟨new, hnew, -⟩ := step_queue h
    rw [runUntil_of_due h hd]
    exact List.IsPrefix.trans ⟨new, hnew.symm⟩ ih

theorem queue_isPrefix_alone : w.queue <+: w.alone.queue := by
  obtain ⟨later, hlater, -⟩ := exists_alone_queue (w := w)
  exact ⟨later, hlater.symm⟩

/-- The two watches go abreast, or the one with the shorter timeouts is at its end. -/
inductive Trails : Watch σ → Watch σ → Prop
  | abreast {w : Watch σ} (times : WatchTimes) (calls : List Call) (h : w.times.Within times) :
      Trails w (w.retimed times calls)
  | behind {w v : Watch σ} (hstill : Device.Still σ) (hended : w.phase = .ended)
      (hnow : v.now = w.now) (hdevice : v.device = w.device) (hqueue : w.queue <+: v.queue) :
      Trails w v

namespace Trails

theorem now_eq (h : w.Trails v) : v.now = w.now := by
  cases h with
  | abreast => rfl
  | behind hstill hended hnow => exact hnow

theorem device_eq (h : w.Trails v) : v.device = w.device := by
  cases h with
  | abreast => rfl
  | behind hstill hended hnow hdevice => exact hdevice

theorem queue_isPrefix (h : w.Trails v) : w.queue <+: v.queue := by
  cases h with
  | abreast => exact List.prefix_rfl
  | behind hstill hended hnow hdevice hqueue => exact hqueue

/-- A watch at its end falls behind one that goes on. -/
theorem of_ended (hstill : Device.Still σ) (hended : w.phase = .ended)
    (hnow : max v.now t = max w.now t) (hdevice : v.device = w.device)
    (hqueue : w.queue <+: v.queue) : (w.runUntil t).Trails (v.runUntil t) := by
  have hidle : ∀ d, w.due? = some d → t < d := by
    intro d hd
    rw [due?, hended] at hd
    cases hd
  have hrun : w.runUntil t = w.clockAt t := runUntil_of_idle hidle
  refine .behind hstill ?_ ?_ ?_ ?_
  · rw [hrun]
    exact hended
  · rw [runUntil_now, runUntil_now, hnow]
  · rw [device_runUntil hstill, device_runUntil hstill, hdevice]
  · rw [hrun]
    exact hqueue.trans queue_isPrefix_runUntil

/-- The passing of time. -/
theorem runUntil (hpatient : Device.Patient σ) (h : w.Trails v) (t : Instant) :
    (w.runUntil t).Trails (v.runUntil t) := by
  cases h with
  | abreast times calls htimes =>
    induction w using runInduction (σ := σ) t generalizing calls with
    | idle w hidle =>
      have hidle' : ∀ d', (w.retimed times calls).due? = some d' → t < d' := by
        intro d' hd'
        obtain ⟨d, hd, hle⟩ := due?_retimed hpatient htimes calls hd'
        exact Int.lt_of_lt_of_le (hidle d hd) hle
      rw [runUntil_of_idle hidle, runUntil_of_idle hidle']
      exact .abreast times calls htimes
    | due w d hd hle ih =>
      rw [runUntil_of_due hd hle]
      rcases step_retimed hpatient htimes calls hd with ⟨hdue, calls', hstep⟩ | ⟨hstill, hstep, -⟩
      · rw [runUntil_of_due hdue hle, hstep]
        exact ih calls' (by rwa [step_keeps.1])
      · rw [hstep]
        have hnow : w.now ≤ t := Int.le_trans (now_le_due? hd) hle
        refine of_ended hstill rfl ?_ rfl List.prefix_rfl
        exact (Int.max_eq_right hnow).trans (Int.max_eq_right hle).symm
  | behind hstill hended hnow hdevice hqueue =>
    exact of_ended hstill hended (congrArg (max · t) hnow) hdevice hqueue

theorem sleep (hpatient : Device.Patient σ) (h : w.Trails v) (a : Span) :
    (w.sleep a).Trails (v.sleep a) := by
  rw [Watch.sleep, Watch.sleep]
  split
  · exact h
  · rw [h.now_eq]
    exact h.runUntil hpatient _

theorem pass (hpatient : Device.Patient σ) (h : w.Trails v) (n : Nat) :
    (w.pass n).Trails (v.pass n) := by
  rw [Watch.pass, Watch.pass]
  split
  · exact h
  · rw [h.now_eq]
    exact h.runUntil hpatient _

theorem reply_eq (h : w.Trails v) (command : String) : v.reply command = w.reply command := by
  rw [reply, reply, h.device_eq, h.now_eq]

theorem issue (h : w.Trails v) (command : String) : (w.issue command).Trails (v.issue command) := by
  cases h with
  | abreast times calls htimes =>
    exact .abreast times (calls ++ [Call.execute command w.now]) htimes
  | behind hstill hended hnow hdevice hqueue =>
    refine .behind hstill hended hnow ?_ hqueue
    show (Device.execute v.device v.now command).2 = (Device.execute w.device w.now command).2
    rw [hdevice, hnow]

/-- In the end the watch with the shorter timeouts has seen the first part of what the other has. -/
theorem alone_queue (hpatient : Device.Patient σ) (h : w.Trails v) :
    w.alone.queue <+: v.alone.queue := by
  cases h with
  | abreast times calls htimes =>
    induction w using stepInduction generalizing calls with
    | idle w hidle =>
      rw [alone_of_idle hidle]
      exact queue_isPrefix_alone (w := w.retimed times calls)
    | due w d hd ih =>
      rw [alone_of_due hd]
      rcases step_retimed hpatient htimes calls hd with ⟨hdue, calls', hstep⟩ | ⟨-, hstep, -⟩
      · rw [alone_of_due hdue, hstep]
        exact ih calls' (by rwa [step_keeps.1])
      · have hended : (w.givenUp d).isFinished := rfl
        rw [hstep, alone_of_isFinished hended]
        exact queue_isPrefix_alone (w := w.retimed times calls)
  | behind hstill hended hnow hdevice hqueue =>
    have hfin : w.isFinished := decide_eq_true hended
    rw [alone_of_isFinished hfin]
    exact hqueue.trans queue_isPrefix_alone

end Trails

end Watch

end ResetCheck
