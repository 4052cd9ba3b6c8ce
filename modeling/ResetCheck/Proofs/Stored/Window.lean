import Mathlib.Control.Monad.Basic
import ResetCheck.Device.Scripted
import ResetCheck.Proofs.Session.Judged
import ResetCheck.Proofs.Stored.Rejudged

/-!
# The window of a stored verdict

The reason of a verdict names the window of its budget in whole milliseconds.  The stored form of
the verdict holds the parts of the budget, each in whole milliseconds of 64 bits, and whoever reads
it back computes the window from these.

* `Verdict.decode_encode`: what is read back of a verdict, however long its spans are.
* `Budget.window_kept_iff`: when a stored budget has the window of the budget.
* `Check.names_iff_of_run`: the number that the reason of a verdict names.
* `runReconnectCheck_window`: when the stored verdict agrees with its reason.
-/

namespace ResetCheck

/-! ## What is left in the stored form -/

namespace Span

/-- What is left of a span in its stored form: its whole milliseconds, and 64 bits of these. -/
def kept (a : Span) : Span :=
  ofMillis (a.millis % UInt64.size)

theorem millis_kept (a : Span) : a.kept.millis = a.millis % UInt64.size :=
  millis_ofMillis (Nat.mod_lt _ (by decide))

theorem kept_fits (a : Span) : a.kept.Fits := by
  rw [Fits, millis_kept]
  exact Nat.mod_lt _ (by decide)

theorem inMillis_kept (a : Span) : a.kept.inMillis = a.kept := by
  rw [← ofMillis_millis, millis_kept]
  rfl

/-- Nothing else of the span is stored. -/
theorem encode_kept (a : Span) : a.kept.encode = a.encode := by
  rw [encode, encode, millis_kept, Nat.mod_mod]

end Span

/-- What is left of a milestone in its stored form. -/
def Milestone.kept (m : Milestone) : Milestone :=
  { m with elapsed := m.elapsed.kept }

/-- What is left of a budget in its stored form. -/
def Budget.kept (b : Budget) : Budget :=
  { b with base := b.base.kept, allowance := b.allowance.kept }

/-- What is left of a report in its stored form. -/
def Report.kept (r : Report) : Report :=
  { r with milestones := r.milestones.map Milestone.kept, budget := r.budget.kept }

/-- What is left of a verdict in its stored form. -/
def Verdict.kept (v : Verdict) : Verdict :=
  { v with report := v.report.kept }

theorem Milestone.encode_kept (m : Milestone) : m.kept.encode = m.encode := by
  rw [encode, encode, kept, Span.encode_kept]

theorem Budget.encode_kept (b : Budget) : b.kept.encode = b.encode := by
  rw [encode, encode, kept, Span.encode_kept, Span.encode_kept]

theorem Report.encode_kept (r : Report) : r.kept.encode = r.encode := by
  have hmilestones : (r.milestones.map Milestone.kept).map Milestone.encode =
      r.milestones.map Milestone.encode := by
    rw [List.map_map]
    exact List.map_congr_left fun m _ => m.encode_kept
  rw [encode, encode, kept, hmilestones, Budget.encode_kept]

theorem Report.kept_fits (r : Report) : r.kept.Fits := by
  refine ⟨?_, r.budget.base.kept_fits, r.budget.allowance.kept_fits⟩
  intro m hm
  obtain ⟨m, -, rfl⟩ := List.mem_map.1 hm
  exact m.elapsed.kept_fits

theorem Budget.inMillis_kept (b : Budget) : b.kept.inMillis = b.kept := by
  rw [inMillis, kept, Span.inMillis_kept, Span.inMillis_kept]

theorem Report.inMillis_kept (r : Report) : r.kept.inMillis = r.kept := by
  have hmilestones : (r.milestones.map Milestone.kept).map Milestone.inMillis =
      r.milestones.map Milestone.kept := by
    rw [List.map_map]
    refine List.map_congr_left fun m _ => ?_
    show Milestone.inMillis m.kept = m.kept
    rw [Milestone.inMillis, Milestone.kept, Span.inMillis_kept]
  rw [inMillis, kept, hmilestones, Budget.inMillis_kept]

/-- A stored verdict is read back with what is left of its spans, however long these are. -/
theorem Verdict.decode_encode (v : Verdict) : decode v.encode = .ok v.kept := by
  have hencode : v.kept.encode = v.encode := by
    rw [encode, encode, kept, Report.encode_kept]
  have hkept : v.kept.inMillis = v.kept := by
    rw [inMillis, kept, Report.inMillis_kept]
  rw [← hencode, stored.decode_encode v.kept v.report.kept_fits, hkept]

/-! ## Windows in whole milliseconds -/

/-- The longest span has the most nanoseconds beyond its whole milliseconds, so cutting off at it
and counting whole milliseconds can be done in either order. -/
theorem Span.min_maxNanos_div (n : Nat) :
    min n Span.maxNanos / 1000000 = min (n / 1000000) Span.longest.millis := by
  have hmax : Span.maxNanos = Span.longest.millis * 1000000 + 999999 := by decide
  rw [hmax]
  generalize Span.longest.millis = most
  omega

namespace Budget

/-- The nanoseconds that a budget is longer than its parts in whole milliseconds. -/
def lost (b : Budget) : Nat :=
  b.base.nanos % 1000000 * b.multiplier.toNat + b.allowance.nanos % 1000000

theorem window_nanos (b : Budget) :
    b.window.nanos =
      min (b.base.nanos * b.multiplier.toNat + b.allowance.nanos) Span.maxNanos := by
  rw [window, timeout, Span.nanos_add, Span.nanos_scale]
  omega

/-- The window in whole milliseconds: that of the parts, and what these have beyond whole
milliseconds. -/
theorem window_millis (b : Budget) :
    b.window.millis =
      min (b.base.millis * b.multiplier.toNat + b.allowance.millis + b.lost / 1000000)
        Span.longest.millis := by
  have hparts : b.base.nanos * b.multiplier.toNat + b.allowance.nanos =
      (b.base.millis * b.multiplier.toNat + b.allowance.millis) * 1000000 + b.lost := by
    rw [lost, Nat.add_mul, Nat.mul_right_comm, Nat.add_add_add_comm, ← Nat.add_mul,
      Span.millis, Nat.div_add_mod', Span.millis, Nat.div_add_mod']
  rw [Span.millis, window_nanos, Span.min_maxNanos_div, hparts, Nat.add_comm (_ * _),
    Nat.add_mul_div_right _ _ (by decide), Nat.add_comm (b.lost / _)]

theorem lost_kept (b : Budget) : b.kept.lost = 0 := by
  have hwhole : ∀ a : Span, a.kept.nanos % 1000000 = 0 := by
    intro a
    have hlt : a.millis % UInt64.size < UInt64.size := Nat.mod_lt _ (by decide)
    have hmax : Span.maxNanos = UInt64.size * 1000000000 - 1 := rfl
    rw [Span.kept, Span.ofMillis, Span.nanos_ofNanos]
    unfold UInt64.size at *
    omega
  show b.base.kept.nanos % 1000000 * _ + b.allowance.kept.nanos % 1000000 = 0
  rw [hwhole, hwhole, Nat.zero_mul]

theorem multiplier_kept : ∀ b : Budget, b.kept.multiplier = b.multiplier
  | ⟨base, multiplier, allowance⟩ =>
    -- with the multiplier named, the spans beside it are not looked at
    show (Budget.kept ⟨base, multiplier, allowance⟩).multiplier = multiplier from rfl

theorem window_millis_kept (b : Budget) :
    b.kept.window.millis =
      min (b.base.millis % UInt64.size * b.multiplier.toNat + b.allowance.millis % UInt64.size)
        Span.longest.millis := by
  have hbase : b.kept.base.millis = b.base.millis % UInt64.size := b.base.millis_kept
  have hallowance : b.kept.allowance.millis = b.allowance.millis % UInt64.size :=
    b.allowance.millis_kept
  rw [window_millis, lost_kept, Nat.zero_div, Nat.add_zero, hbase, hallowance, multiplier_kept]

/-- A stored budget has the window of the budget in whole milliseconds, if its parts fit the stored
form and what they have beyond whole milliseconds does not make another millisecond.  Otherwise
it has it only if that window is the longest one. -/
theorem window_kept_iff {b : Budget} (hmultiplier : 1 ≤ b.multiplier) :
    b.kept.window.millis = b.window.millis ↔
      b.Fits ∧ b.lost < 1000000 ∨ b.kept.window.millis = Span.longest.millis := by
  have hpos : 0 < b.multiplier.toNat := UInt32.le_iff_toNat_le.1 hmultiplier
  have hallowance : b.allowance.millis % UInt64.size ≤ b.allowance.millis := Nat.mod_le _ _
  rw [window_millis_kept, window_millis, Fits, Span.Fits, Span.Fits]
  by_cases hbase : b.base.millis < UInt64.size
  · rw [Nat.mod_eq_of_lt hbase]
    by_cases hfits : b.allowance.millis < UInt64.size
    · rw [Nat.mod_eq_of_lt hfits]
      omega
    · have hlt : b.allowance.millis % UInt64.size < b.allowance.millis :=
        Nat.lt_of_lt_of_le (Nat.mod_lt _ (by decide)) (Nat.not_lt.1 hfits)
      omega
  · have hlt : b.base.millis % UInt64.size < b.base.millis :=
      Nat.lt_of_lt_of_le (Nat.mod_lt _ (by decide)) (Nat.not_lt.1 hbase)
    have hless := Nat.mul_lt_mul_of_pos_right hlt hpos
    omega

end Budget

/-! ## The number in a reason -/

/-- Whether the reason of a verdict names a number of milliseconds. -/
def Verdict.Names (v : Verdict) (n : Nat) : Prop :=
  ∃ opening, v.reason = opening ++ " within " ++ toString n ++ " ms"

/-- A text that ends in a number behind a blank ends in no other number. -/
theorem eq_of_append_toString {a b : String} {m n : Nat}
    (h : a ++ " " ++ toString m = b ++ " " ++ toString n) : m = n := by
  -- the digits are what stands behind the last blank
  have hdigits : ∀ (k : Nat) (s : List Char),
      ((Nat.toDigits 10 k).reverse ++ ' ' :: s).takeWhile (· ≠ ' ') =
        (Nat.toDigits 10 k).reverse := by
    intro k s
    rw [List.takeWhile_append_of_pos, List.takeWhile_cons_of_neg (by simp), List.append_nil]
    intro c hc
    have hdigit : c.isDigit :=
      Nat.isDigit_of_mem_toDigits (by decide) (by decide) (List.mem_reverse.1 hc)
    have hne : c ≠ ' ' := by
      rintro rfl
      exact absurd hdigit (by decide)
    simpa using hne
  have hreverse := congrArg (·.toList.reverse) h
  simp only [String.toList_append, List.reverse_append, Nat.toString_eq_ofList_toDigits,
    String.toList_ofList] at hreverse
  have hsame : (Nat.toDigits 10 m).reverse = (Nat.toDigits 10 n).reverse :=
    (hdigits m a.toList.reverse).symm.trans
      ((congrArg (List.takeWhile (· ≠ ' ')) hreverse).trans (hdigits n b.toList.reverse))
  rw [← Nat.ofDigitChars_ten_toDigits (n := m), List.reverse_inj.1 hsame,
    Nat.ofDigitChars_ten_toDigits]

/-- The reason of a verdict names the window, unless the reset is not supported. -/
theorem Report.exists_reason {r : Report} (h : ¬r.outcome.isNotSupported) :
    ∃ opening, r.reason = opening ++ " within " ++ toString r.budget.window.millis ++ " ms" := by
  rw [reason, if_neg h]
  cases r.final with
  | awaitingDisconnect => exact ⟨"usb never disconnected", rfl⟩
  | awaitingReconnect => exact ⟨"usb disconnected, but never reconnected", rfl⟩
  | reconnected => exact ⟨"usb disconnected and reconnected", rfl⟩

/-- The reason of a verdict names no other number. -/
theorem Verdict.names_iff {v : Verdict} (hreason : v.reason = v.report.reason)
    (h : ¬v.report.outcome.isNotSupported) {n : Nat} :
    v.Names n ↔ n = v.report.budget.window.millis := by
  obtain ⟨opening, hopening⟩ := Report.exists_reason h
  rw [Names, hreason, hopening]
  constructor
  · rintro ⟨opening', hsame⟩
    rw [String.append_left_inj] at hsame
    have hblank : " within " = " within" ++ " " := by decide
    rw [hblank, ← String.append_assoc, ← String.append_assoc] at hsame
    exact (eq_of_append_toString hsame).symm
  · rintro rfl
    exact ⟨opening, rfl⟩

/-! ## Verdicts of a check -/

/-- What a session reports is on its own budget. -/
theorem Session.budget_run {σ : Type} [Device σ] (s : Session) (device : σ) (now : Instant)
    (calls : List Call) {report : Report} (h : (s.run device now calls).1 = .ok report) :
    report.budget = s.budget := by
  cases houtcome : Outcome.ofReply s.phrases s.issuedAt (s.timeline device now).reply.result with
  | error e =>
    rw [s.run_of_error device now calls houtcome] at h
    cases h
  | ok outcome =>
    have hrun := (s.run_of_outcome device now calls houtcome).1
    rw [h] at hrun
    cases hobserved : (s.observe (.start (s.timeline device now).issue) outcome
        (s.answered device now calls)).1 with
    | error e =>
      rw [hobserved] at hrun
      cases hrun
    | ok o =>
      rw [hobserved] at hrun
      obtain rfl := Except.ok.inj hrun
      rfl

/-- A verdict of a check is the one on its report, and that is on the budget of the check. -/
theorem Check.judged_of_run {σ : Type} [Device σ] (c : Check) (v : Variant) (issuedAt : WallTime)
    (device : σ) {verdict : Verdict} (h : (c.run v issuedAt (some device)).1 = .ok verdict) :
    verdict = ⟨verdict.report.kind, verdict.report.reason, verdict.report⟩ ∧
      verdict.report.budget = (c.sessionOn v issuedAt device).budget := by
  have hrun : (c.run v issuedAt (some device)).1 =
      ((c.sessionOn v issuedAt device).run (c.asked device) 0
        [.property c.policy.property]).1.bind Report.judge := rfl
  rw [hrun] at h
  cases hreport : ((c.sessionOn v issuedAt device).run (c.asked device) 0
      [.property c.policy.property]).1 with
  | error e =>
    rw [hreport] at h
    cases h
  | ok report =>
    rw [hreport] at h
    obtain ⟨-, rfl⟩ := Report.judge_eq_ok_iff.1 h
    exact ⟨rfl, (c.sessionOn v issuedAt device).budget_run _ _ _ hreport⟩

theorem Report.not_isNotSupported_of_kind {r : Report} (h : r.kind = .pass ∨ r.kind = .fail) :
    ¬r.outcome.isNotSupported := by
  intro hrefused
  rw [kind, if_pos hrefused] at h
  rcases h with h | h <;> cases h

/-- The reason of a verdict of a check names the window of its budget, unless it skips. -/
theorem Check.names_iff_of_run {σ : Type} [Device σ] (c : Check) (v : Variant)
    (issuedAt : WallTime) (device : σ) {verdict : Verdict}
    (h : (c.run v issuedAt (some device)).1 = .ok verdict)
    (hkind : verdict.isPass ∨ verdict.isFail) {n : Nat} :
    verdict.Names n ↔ n = (c.sessionOn v issuedAt device).budget.window.millis := by
  obtain ⟨hverdict, hbudget⟩ := c.judged_of_run v issuedAt device h
  have hreason : verdict.reason = verdict.report.reason := congrArg Verdict.reason hverdict
  have hsame : verdict.kind = verdict.report.kind := congrArg Verdict.kind hverdict
  have hsupport : ¬verdict.report.outcome.isNotSupported := by
    refine Report.not_isNotSupported_of_kind ?_
    rw [← hsame]
    exact hkind.imp of_decide_eq_true of_decide_eq_true
  rw [Verdict.names_iff hreason hsupport, hbudget]

/-- The allowance in effect fits the stored form if the given one does. -/
theorem Variant.forCommandWith_fits (command : String) {allowance : Span} (h : allowance.Fits) :
    (forCommandWith command allowance).allowance.Fits := by
  rw [forCommandWith]
  split
  · rw [forCommand]
    split
    · exact (by decide : gadget.allowance.Fits)
    · split
      · exact (by decide : port.allowance.Fits)
      · exact (by decide : gadget.allowance.Fits)
  · exact h

/-- **The window of a stored verdict.**  If the base time and the allowance of a check fit the
stored form, a verdict that passes or fails is stored and read back with a budget whose window is
the number that its reason names, exactly if what the base time, taken as often as the multiplier
says, and the allowance have beyond whole milliseconds makes less than one more, or that window is
the longest one. -/
theorem runReconnectCheck_window {σ : Type} [Device σ] (device : σ) (command : String)
    (base allowance : Span) (issuedAt : WallTime) {verdict : Verdict} (hbase : base.Fits)
    (hallowance : allowance.Fits)
    (hrun : (runReconnectCheck (some device) command base allowance issuedAt).1 = .ok verdict)
    (hkind : verdict.isPass ∨ verdict.isFail) :
    let budget := Policy.budget base (Variant.forCommandWith command allowance).allowance
      (Device.property device Policy.standard.property).1
    ∃ stored, Verdict.decode verdict.encode = .ok stored ∧
      (verdict.Names stored.report.budget.window.millis ↔
        budget.lost < 1000000 ∨ stored.report.budget.window.millis = Span.longest.millis) := by
  intro budget
  obtain ⟨-, hbudget⟩ : _ ∧ verdict.report.budget = budget :=
    Check.judged_of_run _ _ issuedAt device hrun
  have hstored : verdict.kept.report.budget = budget.kept := congrArg Budget.kept hbudget
  have hfits : budget.Fits := ⟨hbase, Variant.forCommandWith_fits command hallowance⟩
  have hone : 1 ≤ budget.multiplier := Budget.one_le_multiplier_of _ _ _
  refine ⟨verdict.kept, verdict.decode_encode, ?_⟩
  rw [Check.names_iff_of_run _ _ issuedAt device hrun hkind, hstored]
  exact (Budget.window_kept_iff hone).trans (or_congr_left (and_iff_right hfits))

/-- A device that asks for three times the time. -/
def Scripted.slow (script : Script) : Scripted where
  serial := "SN0001"
  properties := [("ro.hw_timeout_multiplier", "3")]
  propertyFault := none
  reply := .ok ""
  script
  flips := []
  commands := []
  reads := 0

/-- Three times three tenths of a millisecond do not make a whole one. -/
theorem runReconnectCheck_window_slow :
    let base := Span.ofNanos 5000300000
    let device := Scripted.slow (.reconnects (.ofMillis 100) (.ofMillis 600))
    base.Fits ∧ (0 : Span).Fits ∧
      ∃ verdict stored,
        (runReconnectCheck (some device) Variant.gadgetCommand base 0 .epoch).1 = .ok verdict ∧
        verdict.isPass ∧ Verdict.decode verdict.encode = .ok stored ∧
        verdict.Names stored.report.budget.window.millis := by
  intro base device
  have hbase : base.Fits := by decide
  have hallowance : (0 : Span).Fits := by decide
  let verdict : Verdict := ⟨.pass, "usb disconnected and reconnected within 15000 ms", "gadget",
    .reconnected, [⟨.awaitingReconnect, .ofMillis 100⟩, ⟨.reconnected, .ofMillis 600⟩],
    ⟨base, 3, 0⟩, ⟨"", .supported, .epoch⟩⟩
  have hrun : (runReconnectCheck (some device) Variant.gadgetCommand base 0 .epoch).1 =
      .ok verdict := by decide +kernel
  obtain ⟨stored, hstored, hiff⟩ :=
    runReconnectCheck_window device _ base 0 .epoch hbase hallowance hrun (.inl rfl)
  have hnames := hiff.2 (.inl (by decide +kernel))
  exact ⟨hbase, hallowance, verdict, stored, hrun, rfl, hstored, hnames⟩

/-- Three times four tenths do, and it is missing from the window that is read back. -/
theorem runReconnectCheck_window_short :
    let base := Span.ofNanos 400000
    let device := Scripted.slow .neverDisconnects
    ∃ verdict stored,
      (runReconnectCheck (some device) Variant.gadgetCommand base 0 .epoch).1 = .ok verdict ∧
      verdict.isFail ∧ verdict.reason = "usb never disconnected within 1 ms" ∧
      Verdict.decode verdict.encode = .ok stored ∧
      stored.report.budget.window.millis = 0 ∧
      ¬verdict.Names stored.report.budget.window.millis := by
  intro base device
  let verdict : Verdict := ⟨.fail, "usb never disconnected within 1 ms", "gadget",
    .awaitingDisconnect, [], ⟨base, 3, 0⟩, ⟨"", .supported, .epoch⟩⟩
  have hrun : (runReconnectCheck (some device) Variant.gadgetCommand base 0 .epoch).1 =
      .ok verdict := by decide +kernel
  have hwindow : verdict.kept.report.budget.window.millis = 0 := by decide +kernel
  refine ⟨verdict, verdict.kept, hrun, rfl, rfl, verdict.decode_encode, hwindow, ?_⟩
  rw [Check.names_iff_of_run _ _ _ _ hrun (.inr rfl), hwindow]
  decide +kernel

end ResetCheck
