import ResetCheck.Proofs.Device.Bridged

/-!
# The polls of a wait

A wait for a device behind the bridge polls at its start and an interval after each answer, and each
poll uses up one of the answers.  So the number of a poll gives its answer, its instant and the
instant at which the answer is there.  The wait reaches what it waits for with the first poll that
shows it, if that comes before the deadline, and it fails with the first poll that fails.

* `Answers.nth`, `Bridged.pollTime`, `Bridged.shownTime`: the answer to a poll, and the instants of
  the poll and of its answer.
* `Bridged.Polls`: which polls a wait makes.
* `Bridged.waitOver_of_shown`, `Bridged.waitOver_of_failed`: the two ways in which a poll ends a
  wait.
* `Bridged.exists_poll_of_reached`: a wait is over in the first of these ways only with such a poll.
* `Bridged.timeline_waits`: the two waits of a session over a device behind the bridge.
-/

namespace ResetCheck

/-! ## Answers one by one -/

namespace Answers

/-- The answers after the first `n` of them. -/
def drop (a : Answers) : Nat → Answers
  | 0 => a
  | n + 1 => a.next.drop n

/-- The answer after `n` others. -/
def nth (a : Answers) (n : Nat) : Launch :=
  (a.drop n).first

theorem drop_drop (a : Answers) (m n : Nat) : (a.drop m).drop n = a.drop (m + n) := by
  induction m generalizing a with
  | zero => rw [drop, Nat.zero_add]
  | succ m ih => rw [drop, ih, Nat.succ_add, drop]

theorem nth_drop (a : Answers) (m n : Nat) : (a.drop m).nth n = a.nth (m + n) := by
  rw [nth, nth, drop_drop]

/-- The last answer is given again and again. -/
theorem drop_last (launch : Launch) (n : Nat) : drop ⟨launch, []⟩ n = ⟨launch, []⟩ := by
  induction n with
  | zero => rfl
  | succ n ih => exact ih

end Answers

namespace Bridged

/-! ## Polls one by one -/

/-- The instant of the poll after `n` others, if polling begins at an instant. -/
def pollTime (d : Bridged) (a : Answers) (start : Instant) : Nat → Instant
  | 0 => start
  | n + 1 => d.pollTime a.next ((d.shownAt start a.first).wake d.interval) n

/-- The instant at which the answer to that poll is there. -/
def shownTime (d : Bridged) (a : Answers) (start : Instant) (n : Nat) : Instant :=
  d.shownAt (d.pollTime a start n) (a.nth n)

theorem le_shownAt (d : Bridged) (t : Instant) (launch : Launch) : t ≤ d.shownAt t launch :=
  Int.le_add_of_nonneg_right (Int.natCast_nonneg _)

theorem le_pollTime (d : Bridged) (a : Answers) (start : Instant) (n : Nat) :
    start ≤ d.pollTime a start n := by
  induction n generalizing a start with
  | zero => exact Int.le_refl _
  | succ n ih =>
    exact Int.le_trans (d.le_shownAt _ _) (Int.le_trans (Instant.le_wake _ _) (ih _ _))

theorem le_shownTime (d : Bridged) (a : Answers) (start : Instant) (n : Nat) :
    start ≤ d.shownTime a start n :=
  Int.le_trans (d.le_pollTime a start n) (d.le_shownAt _ _)

/-- A poll that fails does so at once. -/
theorem shownAt_of_failed {d : Bridged} {launch : Launch} {fault : DeviceFault}
    (h : d.poll launch = .error fault) (t : Instant) : d.shownAt t launch = t := by
  rw [shownAt]
  rw [poll] at h
  split at h
  · cases h
  · next e hfails =>
    rw [hfails]
    exact Int.add_zero t

/-- What a poll says that does not show what is waited for. -/
def opposite (w : Wait) : Bool :=
  w.wanted = .gone

theorem not_opposite (w : Wait) : (!opposite w) = decide (w.wanted = .back) := by
  rw [opposite]
  cases w.wanted <;> rfl

theorem not_any_of_forall {deadline : Option Instant} {p : Instant → Bool}
    (h : ∀ e ∈ deadline, ¬p e) : ¬deadline.any p := by
  intro hany
  obtain ⟨e, he, hp⟩ := (Option.any_eq_true ..).1 hany
  exact h e he hp

section EndAt

variable {d : Bridged} {w : Wait} {deadline : Option Instant} {t : Instant} {launch : Launch}

theorem endAt?_of_inTime (h : ∀ e ∈ deadline, t ≤ e) :
    d.endAt? w deadline t launch =
      match d.poll launch with
      | .error e => some (.failed e)
      | .ok online =>
        if deadline.any (· ≤ d.shownAt t launch) then some (.failed (.unavailable w.timeout))
        else if online = opposite w then none
        else some .reached := by
  have hlate : ¬deadline.any (· < t) :=
    not_any_of_forall fun e he hlt => Int.not_le.2 (of_decide_eq_true hlt) (h e he)
  rw [endAt?, if_neg hlate]
  cases d.poll launch with
  | error e => rfl
  | ok online => cases online <;> cases hw : w.wanted <;> simp [opposite, hw]

theorem endAt?_of_early (h : ∀ e ∈ deadline, d.shownAt t launch < e) :
    d.endAt? w deadline t launch =
      match d.poll launch with
      | .error e => some (.failed e)
      | .ok online => if online = opposite w then none else some .reached := by
  have hlate : ¬deadline.any (· ≤ d.shownAt t launch) :=
    not_any_of_forall fun e he hle => Int.not_le.2 (h e he) (of_decide_eq_true hle)
  rw [endAt?_of_inTime fun e he => Int.le_trans (d.le_shownAt t launch) (Int.le_of_lt (h e he))]
  simp only [hlate, Bool.false_eq_true, if_false]

/-- Only a poll that fails or has its answer before the deadline can do otherwise than tell that the
time is over. -/
theorem early_of_endAt? {result : Option WaitResult} (h : d.endAt? w deadline t launch = result)
    (hresult : ∀ fault, result ≠ some (.failed fault)) :
    ∀ e ∈ deadline, d.shownAt t launch < e := by
  intro e he
  refine Int.not_le.1 fun hle => ?_
  rw [endAt?] at h
  split at h
  · exact hresult _ h.symm
  · split at h
    · exact hresult _ h.symm
    · have hany : deadline.any (· ≤ d.shownAt t launch) := by
        rw [he]
        exact decide_eq_true hle
      rw [if_pos hany] at h
      exact hresult _ h.symm

theorem endAt?_eq_none_iff :
    d.endAt? w deadline t launch = none ↔
      (∀ e ∈ deadline, d.shownAt t launch < e) ∧ d.poll launch = .ok (opposite w) := by
  constructor
  · intro h
    have hearly := early_of_endAt? h nofun
    refine ⟨hearly, ?_⟩
    rw [endAt?_of_early hearly] at h
    cases hpoll : d.poll launch with
    | error fault => simp [hpoll] at h
    | ok online => simpa [hpoll] using h
  · rintro ⟨hearly, hpoll⟩
    rw [endAt?_of_early hearly, hpoll]
    exact if_pos rfl

theorem endAt?_eq_reached_iff :
    d.endAt? w deadline t launch = some .reached ↔
      (∀ e ∈ deadline, d.shownAt t launch < e) ∧ d.poll launch = .ok (!opposite w) := by
  constructor
  · intro h
    have hearly := early_of_endAt? h nofun
    refine ⟨hearly, ?_⟩
    rw [endAt?_of_early hearly] at h
    cases hpoll : d.poll launch with
    | error fault => simp [hpoll] at h
    | ok online => simpa [hpoll, Bool.eq_not] using h
  · rintro ⟨hearly, hpoll⟩
    rw [endAt?_of_early hearly, hpoll]
    exact if_neg (by simp)

end EndAt

/-! ## The end of a wait -/

/-- How a wait ends if the bridge has these answers left, and the answers it has left then. -/
def waitOver (d : Bridged) (w : Wait) (a : Answers) : Option WaitAnswer × Answers :=
  d.pollFrom w (w.since.alarm? w.timeout) w.since a.first a.later

/-- Whether a wait makes the poll after `n` others: each of them had its answer before the deadline
and did not show what is waited for, and the time is not over yet. -/
structure Polls (d : Bridged) (w : Wait) (a : Answers) (n : Nat) : Prop where
  unshown : ∀ i < n, d.poll (a.nth i) = .ok (opposite w)
  early : ∀ i < n, ∀ e ∈ w.since.alarm? w.timeout, d.shownTime a w.since i < e
  inTime : ∀ e ∈ w.since.alarm? w.timeout, d.pollTime a w.since n ≤ e

theorem polls_of_early {d : Bridged} {w : Wait} {a : Answers} {n : Nat}
    (hunshown : ∀ i < n, d.poll (a.nth i) = .ok (opposite w))
    (hearly : ∀ i ≤ n, ∀ e ∈ w.since.alarm? w.timeout, d.shownTime a w.since i < e) :
    d.Polls w a n where
  unshown := hunshown
  early i hi := hearly i (Nat.le_of_lt hi)
  inTime e he := Int.le_trans (d.le_shownAt _ _) (Int.le_of_lt (hearly n (Nat.le_refl n) e he))

section PollFrom

variable {d : Bridged} {w : Wait} {deadline : Option Instant}

theorem answerAt_of_late {e t : Instant} (h : e ≤ t) (result : WaitResult) :
    answerAt w (some e) t result = answerAt w (some e) e result := by
  rw [answerAt, answerAt]
  simp only [Option.elim_some]
  rw [Int.min_eq_right h, Int.min_self]

/-- The first poll with which a wait ends decides how it ends. -/
theorem pollFrom_of_endAt? {n : Nat} {t : Instant} {a : Answers} {result : WaitResult}
    (hbefore : ∀ i < n, d.endAt? w deadline (d.pollTime a t i) (a.nth i) = none)
    (hinTime : ∀ e ∈ deadline, d.pollTime a t n ≤ e)
    (hend : d.endAt? w deadline (d.pollTime a t n) (a.nth n) = some result) :
    d.pollFrom w deadline t a.first a.later =
      (some (answerAt w deadline (d.shownTime a t n) result), a.drop (n + 1)) := by
  induction n generalizing t a with
  | zero =>
    have hfirst : d.endAt? w deadline t a.first = some result := hend
    have hlate : ¬deadline.any (· < t) :=
      not_any_of_forall fun e he hlt => Int.not_le.2 (of_decide_eq_true hlt) (hinTime e he)
    rw [pollFrom.eq_def, hfirst]
    exact congrArg _ (if_neg hlate)
  | succ n ih =>
    have hfirst : d.endAt? w deadline t a.first = none := hbefore 0 (Nat.succ_pos n)
    obtain ⟨first, later⟩ := a
    cases later with
    | cons second later =>
      rw [pollFrom.eq_def, hfirst]
      exact ih (a := ⟨second, later⟩) (fun i hi => hbefore (i + 1) (Nat.succ_lt_succ hi)) hinTime
        hend
    | nil =>
      -- the same answer again can only end the wait because the time is over
      have hpoll := (endAt?_eq_none_iff.1 hfirst).2
      have hlast : Answers.nth ⟨first, []⟩ (n + 1) = first := by
        rw [Answers.nth, Answers.drop_last]
      rw [endAt?_of_inTime hinTime, hlast, hpoll] at hend
      dsimp only at hend
      split at hend
      · next hany =>
        obtain ⟨e, rfl, hle⟩ := (Option.any_eq_true ..).1 hany
        obtain rfl := Option.some.inj hend
        rw [pollFrom.eq_def, hfirst, Answers.drop_last, shownTime, hlast,
          answerAt_of_late (of_decide_eq_true hle)]
        rfl
      · rw [if_pos rfl] at hend
        cases hend

/-- A wait that reaches what it waits for ends with a poll. -/
theorem exists_of_pollFrom {t : Instant} {first : Launch} {later : List Launch}
    {answer : WaitAnswer} {left : Answers}
    (h : d.pollFrom w deadline t first later = (some answer, left))
    (hreached : answer.result = .reached) :
    let a : Answers := ⟨first, later⟩
    ∃ n, (∀ i < n, d.endAt? w deadline (d.pollTime a t i) (a.nth i) = none) ∧
      d.endAt? w deadline (d.pollTime a t n) (a.nth n) = some .reached ∧
      answer = answerAt w deadline (d.shownTime a t n) .reached := by
  intro a
  induction later generalizing t first with
  | nil =>
    rw [pollFrom.eq_def] at h
    cases hend : d.endAt? w deadline t first with
    | some result =>
      rw [hend] at h
      obtain rfl := Option.some.inj (Prod.mk.inj h).1
      obtain rfl : result = .reached := hreached
      exact ⟨0, fun i hi => absurd hi (Nat.not_lt_zero i), hend, rfl⟩
    | none =>
      rw [hend] at h
      obtain ⟨e, -, rfl⟩ := Option.map_eq_some_iff.1 (Prod.mk.inj h).1
      cases hreached
  | cons second later ih =>
    rw [pollFrom.eq_def] at h
    cases hend : d.endAt? w deadline t first with
    | some result =>
      rw [hend] at h
      obtain rfl := Option.some.inj (Prod.mk.inj h).1
      obtain rfl : result = .reached := hreached
      exact ⟨0, fun i hi => absurd hi (Nat.not_lt_zero i), hend, rfl⟩
    | none =>
      rw [hend] at h
      obtain ⟨n, hbefore, hn, rfl⟩ := ih h
      refine ⟨n + 1, fun i hi => ?_, hn, rfl⟩
      cases i with
      | zero => exact hend
      | succ i => exact hbefore i (Nat.lt_of_succ_lt_succ hi)

end PollFrom

/-- The end of a wait, from how the device answered to it. -/
def waitEnd (w : Wait) (answer : WaitAnswer) : WaitEnd :=
  ⟨w.since + answer.after, answer.result⟩

theorem waitEnd_answerAt {w : Wait} {deadline : Option Instant} {t : Instant} (result : WaitResult)
    (hsince : w.since ≤ t) (hinTime : ∀ e ∈ deadline, t ≤ e) :
    waitEnd w (answerAt w deadline t result) = ⟨t, result⟩ := by
  have hmin : deadline.elim t (min t) = t := by
    cases deadline with
    | none => rfl
    | some e => exact Int.min_eq_left (hinTime e rfl)
  rw [waitEnd, answerAt, hmin]
  have hsub : w.since + ((t - w.since).toNat : Int) = t := by
    unfold Instant at *
    omega
  exact congrArg (WaitEnd.mk · result) hsub

section WaitOver

variable {d : Bridged} {w : Wait} {a : Answers} {n : Nat}

theorem Polls.endAt?_before (h : d.Polls w a n) :
    ∀ i < n, d.endAt? w (w.since.alarm? w.timeout) (d.pollTime a w.since i) (a.nth i) = none :=
  fun i hi => endAt?_eq_none_iff.2 ⟨h.early i hi, h.unshown i hi⟩

theorem waitOver_of_endAt? {result : WaitResult} (h : d.Polls w a n)
    (hinTime : ∀ e ∈ w.since.alarm? w.timeout, d.shownTime a w.since n ≤ e)
    (hend : d.endAt? w (w.since.alarm? w.timeout) (d.pollTime a w.since n) (a.nth n) =
      some result) :
    (d.waitOver w a).1.map (waitEnd w) = some ⟨d.shownTime a w.since n, result⟩ ∧
      (d.waitOver w a).2 = a.drop (n + 1) := by
  rw [waitOver, pollFrom_of_endAt? h.endAt?_before h.inTime hend]
  exact ⟨congrArg some (waitEnd_answerAt result (d.le_shownTime a _ _) hinTime), rfl⟩

/-- A poll with its answer before the deadline that shows what a wait waits for ends it. -/
theorem waitOver_of_shown (h : d.Polls w a n)
    (hearly : ∀ e ∈ w.since.alarm? w.timeout, d.shownTime a w.since n < e)
    (hshown : d.poll (a.nth n) = .ok (!opposite w)) :
    (d.waitOver w a).1.map (waitEnd w) = some ⟨d.shownTime a w.since n, .reached⟩ ∧
      (d.waitOver w a).2 = a.drop (n + 1) :=
  waitOver_of_endAt? h (fun e he => Int.le_of_lt (hearly e he))
    (endAt?_eq_reached_iff.2 ⟨hearly, hshown⟩)

/-- A poll that fails ends a wait, and its fault is that of the wait. -/
theorem waitOver_of_failed {fault : DeviceFault} (h : d.Polls w a n)
    (hfailed : d.poll (a.nth n) = .error fault) :
    (d.waitOver w a).1.map (waitEnd w) = some ⟨d.pollTime a w.since n, .failed fault⟩ ∧
      (d.waitOver w a).2 = a.drop (n + 1) := by
  have hshown : d.shownTime a w.since n = d.pollTime a w.since n := shownAt_of_failed hfailed _
  have hend : d.endAt? w (w.since.alarm? w.timeout) (d.pollTime a w.since n) (a.nth n) =
      some (.failed fault) := by
    rw [endAt?_of_inTime h.inTime, hfailed]
  have hover := waitOver_of_endAt? h (hshown ▸ h.inTime) hend
  rwa [hshown] at hover

/-- Only a poll that shows what a wait waits for makes it reach that. -/
theorem exists_poll_of_reached {t : Instant}
    (h : (d.waitOver w a).1.map (waitEnd w) = some ⟨t, .reached⟩) :
    ∃ n, d.Polls w a n ∧ (∀ e ∈ w.since.alarm? w.timeout, d.shownTime a w.since n < e) ∧
      d.poll (a.nth n) = .ok (!opposite w) ∧ t = d.shownTime a w.since n ∧
      (d.waitOver w a).2 = a.drop (n + 1) := by
  obtain ⟨answer, hanswer, hover⟩ := Option.map_eq_some_iff.1 h
  have hreached : answer.result = .reached := congrArg WaitEnd.result hover
  have hpoll : d.pollFrom w (w.since.alarm? w.timeout) w.since a.first a.later =
      (some answer, (d.waitOver w a).2) := Prod.ext hanswer rfl
  obtain ⟨n, hbefore, hend, -⟩ := exists_of_pollFrom hpoll hreached
  obtain ⟨hearly, hshown⟩ := endAt?_eq_reached_iff.1 hend
  have hpolls : d.Polls w a n := by
    refine polls_of_early (fun i hi => (endAt?_eq_none_iff.1 (hbefore i hi)).2) fun i hi => ?_
    rcases Nat.lt_or_eq_of_le hi with hlt | rfl
    · exact (endAt?_eq_none_iff.1 (hbefore i hlt)).1
    · exact hearly
  obtain ⟨hwait, hleft⟩ := waitOver_of_shown hpolls hearly hshown
  have ht : t = d.shownTime a w.since n :=
    congrArg WaitEnd.instant (Option.some.inj (h.symm.trans hwait))
  exact ⟨n, hpolls, hearly, hshown, ht, hleft⟩

end WaitOver

/-! ## Polling in a session -/

/-- Whether polls of one device tell what polls of another one tell. -/
structure Agrees (d' d : Bridged) : Prop where
  poll : d'.poll = d.poll
  shownAt : d'.shownAt = d.shownAt
  interval : d'.interval = d.interval

theorem agrees_of_path {d' d : Bridged} (hpath : d'.bridge.path = d.bridge.path)
    (hserial : d'.serial = d.serial) (hinterval : d'.interval = d.interval) : d'.Agrees d := by
  refine ⟨?_, ?_, hinterval⟩
  · funext launch
    rw [poll, poll, hserial, Bridge.outcome_congr hpath]
  · funext t launch
    rw [shownAt, shownAt, hserial, Bridge.outcome_congr hpath]

theorem Agrees.trans {d₁ d₂ d₃ : Bridged} (h : d₁.Agrees d₂) (h' : d₂.Agrees d₃) : d₁.Agrees d₃ :=
  ⟨h.poll.trans h'.poll, h.shownAt.trans h'.shownAt, h.interval.trans h'.interval⟩

theorem agrees_property (d : Bridged) (name : String) :
    (d.property name).2.Agrees d ∧ (d.property name).2.bridge.states = d.bridge.states := by
  refine ⟨agrees_of_path (d.bridge.path_record _ _) rfl rfl, ?_⟩
  show (d.bridge.record _ _).states = _
  cases d.bridge.outcome (.property d.serial name) d.bridge.properties.first <;> rfl

theorem agrees_execute (d : Bridged) (command : String) :
    (d.execute command).2.Agrees d ∧ (d.execute command).2.bridge.states = d.bridge.states := by
  refine ⟨agrees_of_path (d.bridge.path_record _ _) rfl rfl, ?_⟩
  show (d.bridge.record _ _).states = _
  cases d.bridge.outcome (.shell d.serial command) d.bridge.commands.first <;> rfl

theorem Agrees.pollFrom {d' d : Bridged} (h : d'.Agrees d) (w : Wait) (deadline : Option Instant)
    (t : Instant) (first : Launch) (later : List Launch) :
    d'.pollFrom w deadline t first later = d.pollFrom w deadline t first later := by
  have hend : d'.endAt? w deadline = d.endAt? w deadline := by
    funext t launch
    rw [endAt?, endAt?, h.poll, h.shownAt]
  induction later generalizing t first with
  | nil => rw [pollFrom.eq_def, pollFrom.eq_def, hend, h.shownAt]
  | cons second later ih =>
    rw [pollFrom.eq_def, pollFrom.eq_def d, hend, h.shownAt, h.interval]
    dsimp only
    rw [ih]

/-- Whether a stage before a wait is one of a device with these answers left. -/
structure Staged (d : Bridged) (a : Answers) (issue since : Instant) (st : Stage Bridged) :
    Prop where
  agrees : st.device.Agrees d
  states : st.device.bridge.states = a
  issued : ∀ reply, st.reply? = some reply → issue ≤ since

section Staged

variable {d : Bridged} {a : Answers} {issue since : Instant} {st : Stage Bridged}

theorem Staged.mono {later : Instant} (h : d.Staged a issue since st) (hle : since ≤ later) :
    d.Staged a issue later st :=
  ⟨h.agrees, h.states, fun reply hreply => Int.le_trans (h.issued reply hreply) hle⟩

theorem Agrees.await {d' : Bridged} (h : d'.Agrees d) (hstates : d'.bridge.states = a) (w : Wait) :
    ∃ left, Device.await d' w = ((d.waitOver w a).1, left) ∧ left.Agrees d ∧
      left.bridge.states = (d.waitOver w a).2 := by
  subst hstates
  have hpoll := h.pollFrom w (w.since.alarm? w.timeout) w.since d'.bridge.states.first
    d'.bridge.states.later
  have hfst : (d'.await w).1 = (d.waitOver w d'.bridge.states).1 := congrArg Prod.fst hpoll
  refine ⟨(d'.await w).2, Prod.ext hfst rfl, ?_, congrArg Prod.snd hpoll⟩
  exact (agrees_of_path rfl rfl rfl : (d'.await w).2.Agrees d').trans h

/-- A wait of a session ends as the answers have it, whether or not the command comes in between. -/
theorem Staged.await {w : Wait} (h : d.Staged a issue w.since st) (command : String) :
    ∃ st', st.await issue command w = ((d.waitOver w a).1.map (waitEnd w), st') ∧
      ∀ e, (d.waitOver w a).1.map (waitEnd w) = some e →
        d.Staged (d.waitOver w a).2 issue e.instant st' := by
  cases he : st.early? issue w with
  | some early =>
    obtain ⟨e, st'⟩ := early
    obtain ⟨answer, device, -, hanswer, -, rfl, rfl⟩ := Stage.early?_eq_some he
    obtain ⟨left, hleft, hagrees, hstates⟩ := h.agrees.await h.states w
    obtain ⟨hover, rfl⟩ := Prod.mk.inj (hanswer.symm.trans hleft)
    refine ⟨⟨device, none⟩, ?_, fun e _ => ⟨hagrees, hstates, fun _ h => nomatch h⟩⟩
    rw [Stage.await, he, ← hover]
    rfl
  | none =>
    have hissued : (st.issued issue command).2.Agrees d ∧
        (st.issued issue command).2.bridge.states = a := by
      rw [Stage.issued]
      cases st.reply? with
      | some reply => exact ⟨h.agrees, h.states⟩
      | none =>
        obtain ⟨hagrees, hstates⟩ := agrees_execute st.device command
        exact ⟨hagrees.trans h.agrees, hstates.trans h.states⟩
    obtain ⟨left, hleft, hagrees, hstates⟩ := hissued.1.await hissued.2 w
    -- the wait does not end before the command is issued
    have hlate : ∀ answer, (d.waitOver w a).1 = some answer → issue ≤ w.since + answer.after := by
      intro answer hanswer
      cases hreply : st.reply? with
      | some reply =>
        exact Int.le_trans (h.issued reply hreply)
          (Int.le_add_of_nonneg_right (Int.natCast_nonneg _))
      | none =>
        obtain ⟨left', hleft', -, -⟩ := h.agrees.await h.states w
        rw [hanswer] at hleft'
        exact Int.le_of_lt (Stage.lt_of_early?_eq_none he hreply hleft')
    refine ⟨_, Prod.ext ?_ rfl, ?_⟩
    · rw [Stage.await_of_late he, hleft]
      cases hanswer : (d.waitOver w a).1 with
      | none => rfl
      | some answer =>
        show some (⟨max issue _, _⟩ : WaitEnd) = _
        rw [Int.max_eq_right (hlate answer hanswer)]
        rfl
    · intro e he'
      obtain ⟨answer, hanswer, rfl⟩ := Option.map_eq_some_iff.1 he'
      rw [Stage.await_of_late he, hleft]
      exact ⟨hagrees, hstates, fun _ _ => hlate answer hanswer⟩

/-- The end of the wait to return, if there is one after that to leave, from the answers there are
then. -/
def endAfter (d : Bridged) (wait : Instant → Wait) (a : Answers) :
    Option WaitEnd → Option WaitEnd
  | some ⟨left, .reached⟩ => (d.waitOver (wait left) a).1.map (waitEnd (wait left))
  | _ => none

theorem endAfter_reached (d : Bridged) (wait : Instant → Wait) (a : Answers)
    (left : Instant) : d.endAfter wait a (some ⟨left, .reached⟩) =
      (d.waitOver (wait left) a).1.map (waitEnd (wait left)) := rfl

/-- There is a wait to return only after the device left. -/
theorem exists_of_endAfter {d : Bridged} {wait : Instant → Wait} {a : Answers}
    {gone : Option WaitEnd} {back : WaitEnd} (h : d.endAfter wait a gone = some back) :
    ∃ left, gone = some ⟨left, .reached⟩ := by
  rcases gone with _ | ⟨left, _ | _ | _⟩
  · cases h
  · exact ⟨left, rfl⟩
  · cases h
  · cases h

/-- The two waits of a session, as the answers have it. -/
theorem Staged.timeline {now : Instant} (h : d.Staged a issue now st) (times : WatchTimes)
    (command : String) :
    let tl := st.timeline times now issue command
    let gone := d.waitOver ⟨.gone, now, times.leave⟩ a
    tl.gone = gone.1.map (waitEnd ⟨.gone, now, times.leave⟩) ∧
      tl.back =
        d.endAfter (fun left => ⟨.back, left.wake times.settle, times.recover⟩) gone.2 tl.gone := by
  intro tl gone
  obtain ⟨st', hgone, hstaged⟩ := Staged.await (w := ⟨.gone, now, times.leave⟩) h command
  have htl : tl.gone = gone.1.map (waitEnd ⟨.gone, now, times.leave⟩) :=
    congrArg Prod.fst hgone
  refine ⟨htl, ?_⟩
  show (st.timeline times now issue command).back = _
  rw [Stage.timeline, hgone, htl]
  rcases hend : gone.1.map (waitEnd ⟨.gone, now, times.leave⟩) with _ | ⟨left, _ | _ | _⟩
  · rfl
  · obtain ⟨st'', hback, -⟩ :=
      Staged.await (w := ⟨.back, left.wake times.settle, times.recover⟩)
        ((hstaged _ hend).mono (Instant.le_wake _ _)) command
    exact congrArg Prod.fst hback
  · rfl
  · rfl

end Staged

/-- The two waits of a session over a device behind the bridge, as its answers have it. -/
theorem timeline_waits (s : Session) (d : Bridged) (now : Instant) :
    let tl := s.timeline d now
    let gone := d.waitOver ⟨.gone, now, s.budget.timeout⟩ d.bridge.states
    tl.gone = gone.1.map (waitEnd ⟨.gone, now, s.budget.timeout⟩) ∧
      tl.back = d.endAfter (fun left => ⟨.back, left.wake s.variant.settle, s.budget.window⟩)
        gone.2 tl.gone := by
  rw [Session.timeline]
  split
  · next hstart =>
    have hissue : now.wake s.variant.start ≤ now :=
      Int.le_of_eq (Instant.wake_of_nanos_eq_zero hstart)
    obtain ⟨hagrees, hstates⟩ := agrees_execute d s.variant.command
    exact Staged.timeline ⟨hagrees, hstates, fun _ _ => hissue⟩ s.times s.variant.command
  · have hstaged : d.Staged d.bridge.states (now.wake s.variant.start) now ⟨d, none⟩ := by
      refine ⟨⟨rfl, rfl, rfl⟩, rfl, ?_⟩
      intro reply h
      cases h
    exact hstaged.timeline s.times s.variant.command

end Bridged

end ResetCheck
