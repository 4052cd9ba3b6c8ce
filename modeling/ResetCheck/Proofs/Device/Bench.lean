import Mathlib.Data.List.Induction
import ResetCheck.Device.Scripted.Bench
import ResetCheck.Proofs.Device.Scripted

/-!
# A scripted device follows its scripts

Scripts that were started one after the other run side by side, and all of them move the one
visibility of the device.  Whatever is done on a bench, what the device shows at an instant is what
the latest flip up to that instant sets, and every wait ends at the first instant at which the
device shows what is waited for, or when its time is over.

* `Script.mem_flips_iff`: the flips that a start of a script makes.
* `latestFlip?_latest`: which flip decides.
* `Bench.waits_act`: how a wait ends.
* `Bench.act_device`, `Bench.after_device`: what becomes of the device.
* `Bench.follows_script`: the device after any actions.
-/

namespace ResetCheck

/-! ## The flips of a script -/

theorem Flip.mem_after_iff {start : Instant} {offset : Span} {visible : Bool} {f : Flip} :
    f ∈ Flip.after start offset visible ↔ ∃ t, start.alarm? offset = some t ∧ ⟨t, visible⟩ = f := by
  rw [Flip.after, Option.mem_toList, Option.map_eq_some_iff]

/-- The flips that a start of a script makes, as far as the clock has their instants.  The device is
shown again when both offsets are over. -/
inductive Script.Makes (start : Instant) : Script → Flip → Prop
  | hides {d r : Span} {gone : Instant} (hgone : start.alarm? d = some gone) :
      Makes start (.reconnects d r) ⟨gone, false⟩
  | shows {d r : Span} {gone back : Instant} (hgone : start.alarm? d = some gone)
      (hback : start.alarm? r = some back) : Makes start (.reconnects d r) ⟨max gone back, true⟩
  | loses {d : Span} {gone : Instant} (hgone : start.alarm? d = some gone) :
      Makes start (.staysDisconnected d) ⟨gone, false⟩

/-- The clock has the instants of shorter spans, too. -/
theorem Instant.exists_alarm?_le {now t : Instant} {a b : Span} (hab : a ≤ b)
    (h : now.alarm? b = some t) : ∃ t' ≤ t, now.alarm? a = some t' := by
  cases ha : now.alarm? a with
  | none =>
    rw [Instant.alarm?_eq_none_mono hab ha] at h
    cases h
  | some t' => exact ⟨t', Instant.alarm?_mono hab ha h, rfl⟩

theorem Script.mem_flips_iff {script : Script} {start : Instant} {f : Flip} :
    f ∈ script.flips start ↔ script.Makes start f := by
  constructor
  · intro h
    cases script with
    | reconnects d r =>
      rw [flips, List.mem_append, Flip.mem_after_iff, Flip.mem_after_iff] at h
      rcases h with ⟨gone, hgone, rfl⟩ | ⟨t, ht, rfl⟩
      · exact .hides hgone
      · split at ht
        · next hle =>
          obtain ⟨gone, hgone, hgt⟩ := Instant.exists_alarm?_le (a := d) (b := r) hle ht
          rw [← Int.max_eq_right hgone]
          exact .shows hgt ht
        · next hlt =>
          obtain ⟨back, hback, hbt⟩ := Instant.exists_alarm?_le (a := r) (b := d)
            (Nat.le_of_lt (Nat.lt_of_not_le hlt)) ht
          rw [← Int.max_eq_left hback]
          exact .shows ht hbt
    | staysDisconnected d =>
      obtain ⟨gone, hgone, rfl⟩ := Flip.mem_after_iff.1 h
      exact .loses hgone
    | neverDisconnects => cases h
    | transportFailure => cases h
  · intro h
    cases h with
    | hides hgone => exact List.mem_append_left _ (Flip.mem_after_iff.2 ⟨_, hgone, rfl⟩)
    | @shows d r gone back hgone hback =>
      refine List.mem_append_right _ (Flip.mem_after_iff.2 ⟨max gone back, ?_, rfl⟩)
      split
      · next hle =>
        rw [Int.max_eq_right (Instant.alarm?_mono (a := d) (b := r) hle hgone hback)]
        exact hback
      · next hlt =>
        rw [Int.max_eq_left (Instant.alarm?_mono (a := r) (b := d)
          (Nat.le_of_lt (Nat.lt_of_not_le hlt)) hback hgone)]
        exact hgone
    | loses hgone => exact Flip.mem_after_iff.2 ⟨_, hgone, rfl⟩

/-! ## The flip that decides -/

namespace Flip

/-- Whether a flip is the latest one up to an instant.  Of flips at one instant one that shows the
device is the latest. -/
structure Latest (made : Flip → Prop) (t : Instant) (f : Flip) : Prop where
  mem : made f
  le : f.instant ≤ t
  last : ∀ g, made g → g.instant ≤ t → g.instant ≤ f.instant
  shown : ∀ g, made g → g.instant = f.instant → g.visible → f.visible

/-- Whether flips at one instant come in an order in which the device is hidden before it is
shown. -/
def HiddenFirst (flips : List Flip) : Prop :=
  flips.Pairwise fun f g => f.instant = g.instant → f.visible → g.visible

theorem hiddenFirst_after (start : Instant) (offset : Span) (visible : Bool) :
    HiddenFirst (after start offset visible) := by
  rw [after]
  cases start.alarm? offset with
  | none => exact List.Pairwise.nil
  | some t => exact List.pairwise_singleton _ _

theorem hiddenFirst_flips (script : Script) (start : Instant) :
    HiddenFirst (script.flips start) := by
  cases script with
  | reconnects d r =>
    refine List.pairwise_append.2 ⟨hiddenFirst_after .., hiddenFirst_after .., ?_⟩
    intro f _ g hg _ _
    obtain ⟨t, -, rfl⟩ := mem_after_iff.1 hg
    rfl
  | staysDisconnected d => exact hiddenFirst_after ..
  | neverDisconnects => exact List.Pairwise.nil
  | transportFailure => exact List.Pairwise.nil

end Flip

theorem latestFlip?_concat_eq (flips : List Flip) (g : Flip) (t : Instant) :
    latestFlip? (flips ++ [g]) t = Flip.later t (latestFlip? flips t) g := by
  rw [latestFlip?, List.foldl_append]
  rfl

/-- A flip after which no other comes up to an instant is the latest one. -/
theorem Flip.latest_concat {flips : List Flip} {g : Flip} {t : Instant} (hgt : g.instant ≤ t)
    (hlast : ∀ f ∈ flips, f.instant ≤ t → f.instant ≤ g.instant)
    (hshown : ∀ f ∈ flips, f.instant = g.instant → f.visible → g.visible) :
    Latest (· ∈ flips ++ [g]) t g := by
  refine ⟨List.mem_append_right _ List.mem_cons_self, hgt, fun f hf hft => ?_,
    fun f hf hinstant hvisible => ?_⟩
  · rcases List.mem_append.1 hf with hf | hf
    · exact hlast f hf hft
    · exact List.mem_singleton.1 hf ▸ Int.le_refl _
  · rcases List.mem_append.1 hf with hf | hf
    · exact hshown f hf hinstant hvisible
    · exact List.mem_singleton.1 hf ▸ hvisible

/-- The latest flip stays so if one comes to it that is before it, or after the instant. -/
theorem Flip.Latest.concat {flips : List Flip} {g l : Flip} {t : Instant}
    (hl : Latest (· ∈ flips) t l) (hbefore : g.instant ≤ t → g.instant < l.instant) :
    Latest (· ∈ flips ++ [g]) t l := by
  refine ⟨List.mem_append_left _ hl.mem, hl.le, fun f hf hft => ?_,
    fun f hf hinstant hvisible => ?_⟩
  · rcases List.mem_append.1 hf with hf | hf
    · exact hl.last f hf hft
    · obtain rfl := List.mem_singleton.1 hf
      exact Int.le_of_lt (hbefore hft)
  · rcases List.mem_append.1 hf with hf | hf
    · exact hl.shown f hf hinstant hvisible
    · obtain rfl := List.mem_singleton.1 hf
      exact absurd hinstant (Int.ne_of_lt (hbefore (hinstant ▸ hl.le)))

/-- The flip that decides is the latest one. -/
theorem latestFlip?_latest {flips : List Flip} {t : Instant} (h : Flip.HiddenFirst flips) :
    (∀ f, latestFlip? flips t = some f → Flip.Latest (· ∈ flips) t f) ∧
      (latestFlip? flips t = none → ∀ f ∈ flips, t < f.instant) := by
  induction flips using List.reverseRecOn with
  | nil =>
    refine ⟨fun f hf => ?_, fun _ => List.forall_mem_nil _⟩
    cases hf
  | append_singleton flips g ih =>
    obtain ⟨hflips, -, hg⟩ := List.pairwise_append.1 h
    obtain ⟨hsome, hnone⟩ := ih hflips
    rw [latestFlip?_concat_eq, Flip.later]
    cases hlatest : latestFlip? flips t with
    | none =>
      have hafter := hnone hlatest
      by_cases hgt : g.instant ≤ t
      · rw [if_pos ⟨hgt, rfl⟩]
        refine ⟨fun f hf => ?_, fun hnever => absurd hnever (Option.some_ne_none g)⟩
        obtain rfl := Option.some.inj hf
        exact Flip.latest_concat hgt (fun f hf hft => absurd hft (Int.not_le.2 (hafter f hf)))
          fun f hf => hg f hf _ List.mem_cons_self
      · rw [if_neg fun hlater => hgt hlater.1]
        refine ⟨fun f hf => ?_, fun _ => List.forall_mem_append.2 ⟨hafter, ?_⟩⟩
        · cases hf
        · exact List.forall_mem_singleton.2 (Int.not_le.1 hgt)
    | some l =>
      have hl := hsome l hlatest
      by_cases hlater : g.instant ≤ t ∧ (some l).all (·.instant ≤ g.instant)
      · rw [if_pos hlater]
        refine ⟨fun f hf => ?_, fun hnever => absurd hnever (Option.some_ne_none g)⟩
        obtain rfl := Option.some.inj hf
        exact Flip.latest_concat hlater.1
          (fun f hf hft => Int.le_trans (hl.last f hf hft) (of_decide_eq_true hlater.2))
          fun f hf => hg f hf _ List.mem_cons_self
      · rw [if_neg hlater]
        refine ⟨fun f hf => ?_, fun hnever => absurd hnever (Option.some_ne_none l)⟩
        obtain rfl := Option.some.inj hf
        exact hl.concat fun hgt => Int.not_le.1 fun hle => hlater ⟨hgt, decide_eq_true hle⟩

/-- What is shown at an instant is what the latest flip up to it sets. -/
theorem exists_latest_or {flips : List Flip} (h : Flip.HiddenFirst flips) (t : Instant) :
    (∃ f, Flip.Latest (· ∈ flips) t f ∧ visibleAfter flips t = f.visible) ∨
      (∀ f ∈ flips, t < f.instant) ∧ visibleAfter flips t = true := by
  obtain ⟨hsome, hnone⟩ := latestFlip?_latest (t := t) h
  rw [visibleAfter_eq]
  cases hlatest : latestFlip? flips t with
  | none => exact .inr ⟨hnone hlatest, rfl⟩
  | some f => exact .inl ⟨f, hsome f hlatest, rfl⟩

/-! ## Waits -/

namespace Bench

variable {b : Bench} {a : Action} {actions : List Action}

/-- Whether a device shows at an instant what is waited for. -/
def Shows (b : Bench) (t : Instant) : Presence → Prop
  | .gone => b.device.visibleAt t = false
  | .back => b.device.visibleAt t = true

theorem satisfies_iff {wanted : Presence} {t : Instant} :
    b.device.satisfies wanted t ↔ b.Shows t wanted := by
  cases wanted with
  | gone => exact Scripted.satisfies_gone
  | back => exact Scripted.satisfies_back

/-- How a wait ends, and the bench after it.  A wait covers the instant at which it begins, and
those from there on that come before its timer goes off. -/
inductive Waits (b : Bench) (wanted : Presence) (timeout : Span) : Result × Bench → Prop
  | refused (hscript : b.device.script = .transportFailure) :
      Waits b wanted timeout (.waited (.failed (.transport
        s!"device {b.device.serial} connection refused")), b)
  | reached {t : Instant} (hscript : b.device.script ≠ .transportFailure)
      (hcovers : Wait.Covers ⟨wanted, b.now, timeout⟩ t) (hshows : b.Shows t wanted)
      (hfirst : ∀ t', b.now ≤ t' → t' < t → ¬b.Shows t' wanted) :
      Waits b wanted timeout (.waited .reached, { b with now := t })
  | givenUp {alarm : Instant} (hscript : b.device.script ≠ .transportFailure)
      (hnone : ∀ t, Wait.Covers ⟨wanted, b.now, timeout⟩ t → ¬b.Shows t wanted)
      (halarm : b.now.alarm? timeout = some alarm) :
      Waits b wanted timeout (.waited (.failed (.unavailable timeout)), { b with now := alarm })
  | endless (hscript : b.device.script ≠ .transportFailure)
      (hnone : ∀ t, Wait.Covers ⟨wanted, b.now, timeout⟩ t → ¬b.Shows t wanted)
      (halarm : b.now.alarm? timeout = none) : Waits b wanted timeout (.endless, b)

theorem act_wait (b : Bench) (wanted : Presence) (timeout : Span) :
    b.act (.wait wanted timeout) =
      match b.device.await ⟨wanted, b.now, timeout⟩ with
      | some answer => (.waited answer.result, { b with now := b.now + answer.after })
      | none => (.endless, b) := rfl

theorem now_add_toNat {t : Instant} (h : b.now ≤ t) : b.now + (t - b.now).toNat = t := by
  unfold Instant at *
  omega

/-- Of the instants that a wait covers there is a first one with what is waited for, if any. -/
theorem exists_first {wanted : Presence} {timeout : Span} {t : Instant}
    (hcovers : Wait.Covers ⟨wanted, b.now, timeout⟩ t) (hshows : b.Shows t wanted) :
    ∃ t₁, Wait.Covers ⟨wanted, b.now, timeout⟩ t₁ ∧ b.Shows t₁ wanted ∧
      ∀ t', b.now ≤ t' → t' < t₁ → ¬b.Shows t' wanted := by
  obtain ⟨t₁, hfirst, hle⟩ :=
    Scripted.firstSatisfied?_of_satisfies hcovers.1 (satisfies_iff.2 hshows)
  obtain ⟨hsince, hs⟩ := Scripted.satisfies_of_firstSatisfied? hfirst
  refine ⟨t₁, hcovers.of_le hsince hle, satisfies_iff.1 hs, fun t' ht' hlt hshows' => ?_⟩
  obtain ⟨t₂, hfirst', hle'⟩ :=
    Scripted.firstSatisfied?_of_satisfies ht' (satisfies_iff.2 hshows')
  obtain rfl := Option.some.inj (hfirst.symm.trans hfirst')
  exact Int.not_lt.2 hle' hlt

theorem waits_act (b : Bench) (wanted : Presence) (timeout : Span) :
    b.Waits wanted timeout (b.act (.wait wanted timeout)) := by
  rw [act_wait]
  by_cases hscript : b.device.script = .transportFailure
  · rw [Scripted.await, if_pos hscript]
    dsimp only
    rw [Int.natCast_zero, Int.add_zero]
    exact .refused hscript
  by_cases hany : ∃ t, Wait.Covers ⟨wanted, b.now, timeout⟩ t ∧ b.Shows t wanted
  · obtain ⟨t, hcovers, hshows⟩ := hany
    obtain ⟨t₁, hcovers₁, hshows₁, hfirst⟩ := exists_first hcovers hshows
    rw [Scripted.await_eq_reached hscript hcovers₁ (satisfies_iff.2 hshows₁)
      fun t' ht' hlt hs => hfirst t' ht' hlt (satisfies_iff.1 hs)]
    dsimp only
    rw [now_add_toNat hcovers₁.1]
    exact .reached hscript hcovers₁ hshows₁ hfirst
  · have hnone : ∀ t, Wait.Covers ⟨wanted, b.now, timeout⟩ t → ¬b.Shows t wanted :=
      fun t hcovers hshows => hany ⟨t, hcovers, hshows⟩
    rw [Scripted.await_eq_giveUp? hscript
      fun t hcovers hs => hnone t hcovers (satisfies_iff.1 hs), Scripted.giveUp?]
    cases halarm : b.now.alarm? timeout with
    | none => exact .endless hscript hnone halarm
    | some alarm =>
      dsimp only [Option.map_some]
      rw [now_add_toNat (Instant.le_alarm? halarm)]
      exact .givenUp hscript hnone halarm

/-- A wait that is given no time covers the instant at which it begins, though no instant comes
before its end.  If it is given a part of a millisecond, it ends at the next whole one, and if the
clock does not have its end, it has none. -/
theorem act_wait_briefly :
    let b : Bench := ⟨Scripted.brief, 0⟩
    (¬∃ t, b.now ≤ t ∧ t < b.now + (0 : Span).ticks) ∧
      b.act (.wait .back 0) = (.waited .reached, b) ∧
      b.act (.wait .gone (.ofNanos 1)) =
        (.waited (.failed (.unavailable (.ofNanos 1))), ⟨b.device, 1⟩) ∧
      b.act (.wait .gone (.ofNanos Span.maxNanos)) = (.endless, b) := by
  refine ⟨?_, rfl, rfl, rfl⟩
  rintro ⟨t, hle, hlt⟩
  exact Int.not_lt.2 hle hlt

/-! ## Actions -/

/-- Whether an action starts the script of a device.  A command that is refused does not. -/
def starting (d : Scripted) : Action → Bool
  | .trigger => true
  | .execute _ =>
    match d.reply with
    | .error (.rejected _) => false
    | _ => true
  | .sleep _ => false
  | .wait _ _ => false

/-- The instants at which actions start the script of the device. -/
def starts (b : Bench) : List Action → List Instant
  | [] => []
  | a :: rest => (if starting b.device a then [b.now] else []) ++ (b.act a).2.starts rest

/-- The command of an action. -/
def Action.command? : Action → Option String
  | .execute command => some command
  | _ => none

/-- The device after further starts of its script and further commands. -/
def continued (d : Scripted) (starts : List Instant) (commands : List String) : Scripted :=
  { d with
    flips := d.flips ++ starts.flatMap fun start => d.script.flips start
    commands := d.commands ++ commands }

theorem continued_nil (d : Scripted) : continued d [] [] = d := by
  rw [continued, List.flatMap_nil, List.append_nil, List.append_nil]

theorem continued_append (d : Scripted) (s s' : List Instant) (c c' : List String) :
    continued (continued d s c) s' c' = continued d (s ++ s') (c ++ c') := by
  simp only [continued, List.flatMap_append, List.append_assoc]

/-- The bench after some actions. -/
def after (b : Bench) (actions : List Action) : Bench :=
  ((b.run actions).getLast?.map (·.2)).getD b

theorem after_cons (b : Bench) (a : Action) (actions : List Action) :
    b.after (a :: actions) = (b.act a).2.after actions := by
  rw [after, after, run, List.getLast?_cons]
  cases (Bench.run (b.act a).2 actions).getLast? <;> rfl

theorem act_device (b : Bench) (a : Action) :
    (b.act a).2.device = continued b.device (b.starts [a]) ([a].filterMap Action.command?) := by
  obtain ⟨⟨serial, properties, propertyFault, reply, script, flips, commands, reads⟩, now⟩ := b
  cases a with
  | execute command =>
    cases reply with
    | ok raw => simp [act, Scripted.execute, Scripted.trigger, continued, starts, starting,
        Action.command?]
    | error fault =>
      cases fault with
      | rejected text => simp [act, Scripted.execute, continued, starts, starting, Action.command?]
      | linkLost text => simp [act, Scripted.execute, Scripted.trigger, continued, starts, starting,
          Action.command?]
  | trigger => simp [act, Scripted.trigger, continued, starts, starting, Action.command?]
  | sleep d => exact (continued_nil _).symm
  | wait wanted timeout =>
    rw [act_wait]
    split
    · exact (continued_nil _).symm
    · exact (continued_nil _).symm

theorem after_device (b : Bench) (actions : List Action) :
    (b.after actions).device =
      continued b.device (b.starts actions) (actions.filterMap Action.command?) := by
  induction actions generalizing b with
  | nil => exact (continued_nil _).symm
  | cons a actions ih =>
    have hstarts : b.starts (a :: actions) = b.starts [a] ++ (b.act a).2.starts actions := by
      rw [starts, starts, starts, List.append_nil]
    have hcommands : (a :: actions).filterMap Action.command? =
        [a].filterMap Action.command? ++ actions.filterMap Action.command? :=
      List.filterMap_append (l := [a])
    rw [after_cons, ih, act_device, continued_append, hstarts, hcommands]

/-! ## A fresh device -/

/-- The flips that the starts of actions make. -/
def Made (b : Bench) (actions : List Action) (f : Flip) : Prop :=
  ∃ start ∈ b.starts actions, b.device.script.Makes start f

/-- Whether no two starts make flips at one instant. -/
def Apart (b : Bench) (actions : List Action) : Prop :=
  (b.starts actions).Pairwise fun start start' => ∀ f g, b.device.script.Makes start f →
    b.device.script.Makes start' g → f.instant ≠ g.instant

theorem mem_flips_after (hfresh : b.device.flips = []) {f : Flip} :
    f ∈ (b.after actions).device.flips ↔ b.Made actions f := by
  rw [after_device, continued, hfresh, List.nil_append, List.mem_flatMap]
  simp only [Script.mem_flips_iff]
  rfl

theorem hiddenFirst_after (hfresh : b.device.flips = []) (hapart : b.Apart actions) :
    Flip.HiddenFirst (b.after actions).device.flips := by
  rw [after_device, continued, hfresh, List.nil_append, Flip.HiddenFirst, List.pairwise_flatMap]
  refine ⟨fun start _ => Flip.hiddenFirst_flips _ start, hapart.imp fun h f hf g hg hinstant => ?_⟩
  exact absurd hinstant (h f g (Script.mem_flips_iff.1 hf) (Script.mem_flips_iff.1 hg))

/-- **A scripted device follows its scripts.**  Whatever is done with a fresh device, as long as no
two starts of its script make flips at one instant, the device shows at every instant what the
latest flip up to it sets, and without any it is visible; so a script that shows the device no later
than it hides it hides it at no instant.  Every wait ends at the first instant that it covers and at
which the device shows what is waited for.  If there is none, it ends when its timer goes off.  A
command that is refused does nothing, and every command is noted, in their order. -/
theorem follows_script (hfresh : b.device.flips = []) (hapart : b.Apart actions) :
    let last := b.after actions
    (∀ t, (∃ f, Flip.Latest (b.Made actions) t f ∧ last.device.visibleAt t = f.visible) ∨
        (∀ f, b.Made actions f → t < f.instant) ∧ last.device.visibleAt t = true) ∧
      (∀ d r, b.device.script = .reconnects d r → r ≤ d →
        ∀ t, last.device.visibleAt t = true) ∧
      (∀ wanted timeout, last.Waits wanted timeout (last.act (.wait wanted timeout))) ∧
      (∀ text command, b.device.reply = .error (.rejected text) →
        last.act (.execute command) = (.replied (.error (.rejected text)),
          ⟨{ last.device with commands := last.device.commands ++ [command] }, last.now⟩)) ∧
      last.device.commands = b.device.commands ++ actions.filterMap Action.command? := by
  intro last
  have hmade : (· ∈ last.device.flips) = b.Made actions :=
    funext fun f => propext (mem_flips_after hfresh)
  have hshown : ∀ t, (∃ f, Flip.Latest (b.Made actions) t f ∧
      last.device.visibleAt t = f.visible) ∨
      (∀ f, b.Made actions f → t < f.instant) ∧ last.device.visibleAt t = true := by
    intro t
    rw [← hmade]
    exact exists_latest_or (hiddenFirst_after hfresh hapart) t
  refine ⟨hshown, ?_, last.waits_act, ?_, ?_⟩
  · intro d r hscript hle t
    rcases hshown t with ⟨f, hlatest, hvisible⟩ | ⟨-, hvisible⟩
    · rw [hvisible]
      obtain ⟨start, hstart, hmakes⟩ := hlatest.mem
      rw [hscript] at hmakes
      cases hmakes with
      | @hides _ _ gone hgone =>
        -- the device is shown again at the same instant
        obtain ⟨back, hback, halarm⟩ := Instant.exists_alarm?_le hle hgone
        refine hlatest.shown ⟨max gone back, true⟩ ⟨start, hstart, ?_⟩ (Int.max_eq_left hback) rfl
        rw [hscript]
        exact .shows hgone halarm
      | shows hgone hback => rfl
    · exact hvisible
  · intro text command hreply
    have hlast : last.device.reply = .error (.rejected text) := by
      show (b.after actions).device.reply = _
      rw [after_device]
      exact hreply
    rw [act, Scripted.execute]
    dsimp only
    rw [hlast]
  · show (b.after actions).device.commands = _
    rw [after_device]
    rfl

/-- The script is started again while it runs.  Flips come at 5 and 10, and at 7 and 12. -/
theorem follows_script_overlapping :
    let b : Bench := ⟨Scripted.brief, 0⟩
    let actions : List Action := [.trigger, .sleep (.ofMillis 2), .execute "svc usb resetUsbPort"]
    let last := b.after actions
    b.device.flips = [] ∧ b.Apart actions ∧ last.device.commands = ["svc usb resetUsbPort"] ∧
      last.Waits .gone (.ofMillis 10) (.waited .reached, ⟨last.device, 5⟩) := by
  intro b actions last
  have hapart : b.Apart actions := by
    have hstarts : b.starts actions = [0, 2] := rfl
    have hflips : ∀ f ∈ b.device.script.flips 0, ∀ g ∈ b.device.script.flips 2,
        f.instant ≠ g.instant := by
      decide
    rw [Apart, hstarts, List.pairwise_pair]
    exact fun f g hf hg => hflips f (Script.mem_flips_iff.2 hf) g (Script.mem_flips_iff.2 hg)
  have hawait : last.device.await ⟨.gone, last.now, .ofMillis 10⟩ = some ⟨3, .reached⟩ := by
    decide +kernel
  have hact : last.act (.wait .gone (.ofMillis 10)) = (.waited .reached, ⟨last.device, 5⟩) := by
    rw [act_wait, hawait]
    rfl
  obtain ⟨-, -, hwaits, -, hcommands⟩ := follows_script (b := b) rfl hapart
  refine ⟨rfl, hapart, hcommands, ?_⟩
  rw [← hact]
  exact hwaits .gone (.ofMillis 10)

end Bench

end ResetCheck
