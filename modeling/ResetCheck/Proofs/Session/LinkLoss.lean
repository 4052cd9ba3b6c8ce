import ResetCheck.Proofs.Device.Scripted
import ResetCheck.Proofs.Session.Noted

/-!
# A link that is lost

Resetting USB may cut the link before the reply is there.  A session takes this for a reply that
does not tell whether the reset is supported, and goes on.  It ends as it would have ended with a
reply that supports the reset; only the outcome in the report is another.

* `Device.Alike`: devices that differ in nothing but the texts of their replies.
* `Session.timeline_alike`: what such devices do in a session.
* `Session.judged_linkLost`: the verdicts on two sessions, one of which lost the link.
-/

namespace ResetCheck

/-! ## Devices that reply differently -/

/-- A relation between devices whose waits end alike and whose replies take the same time, whatever
was asked of both before. -/
structure Device.Twins {σ τ : Type} [Device σ] [Device τ] (R : σ → τ → Prop) : Prop where
  await : ∀ {d : σ} {e : τ}, R d e → ∀ wait,
    (Device.await d wait).1 = (Device.await e wait).1 ∧
      R (Device.await d wait).2 (Device.await e wait).2
  execute : ∀ {d : σ} {e : τ}, R d e → ∀ now command,
    (Device.execute d now command).1.after = (Device.execute e now command).1.after ∧
      R (Device.execute d now command).2 (Device.execute e now command).2

/-- Two devices that differ in nothing but the texts of their replies. -/
def Device.Alike {σ τ : Type} [Device σ] [Device τ] (d : σ) (e : τ) : Prop :=
  ∃ R : σ → τ → Prop, Device.Twins R ∧ R d e

/-- Scripted devices are alike if nothing but the reply is another and both run their commands. -/
theorem Scripted.alike (d : Scripted) {reply : Except CommandFault String}
    (h : ∀ text, d.reply ≠ .error (.rejected text))
    (h' : ∀ text, reply ≠ .error (.rejected text)) : Device.Alike d { d with reply } := by
  refine ⟨fun a b => a.reply = d.reply ∧ b = { a with reply }, ⟨?_, ?_⟩, rfl, rfl⟩
  · rintro a _ ⟨ha, rfl⟩ wait
    exact ⟨rfl, ha, rfl⟩
  · rintro a _ ⟨ha, rfl⟩ now command
    rw [execute_eq (ha ▸ h), execute_eq (d := { a with reply }) h']
    exact ⟨rfl, ha, rfl⟩

/-! ## Timelines -/

section Alike

variable {σ τ : Type} [Device σ] [Device τ] {R : σ → τ → Prop}

/-- Stages of related devices, before the command or after replies that took the same time. -/
structure Stage.Alike (R : σ → τ → Prop) (a : Stage σ) (b : Stage τ) : Prop where
  device : R a.device b.device
  reply? : a.reply?.map (·.after) = b.reply?.map (·.after)

namespace Stage.Alike

variable {a : Stage σ} {b : Stage τ} {issue : Instant} {command : String}

theorem issued (hR : Device.Twins R) (h : Stage.Alike R a b) (issue : Instant) (command : String) :
    (a.issued issue command).1.after = (b.issued issue command).1.after ∧
      R (a.issued issue command).2 (b.issued issue command).2 := by
  obtain ⟨d, reply?⟩ := a
  obtain ⟨e, reply?'⟩ := b
  obtain ⟨hdevice, hreply⟩ := h
  cases reply? with
  | none =>
    obtain rfl : reply?' = none := Option.map_eq_none_iff.1 hreply.symm
    exact hR.execute hdevice issue command
  | some reply =>
    obtain ⟨reply', rfl, hafter⟩ := Option.map_eq_some_iff.1 hreply.symm
    exact ⟨hafter.symm, hdevice⟩

/-- A wait that is over before the command is over before it in both stages. -/
theorem early? (hR : Device.Twins R) (h : Stage.Alike R a b) (issue : Instant) (wait : Wait) :
    Option.Rel (fun x y => x.1 = y.1 ∧ Stage.Alike R x.2 y.2) (a.early? issue wait)
      (b.early? issue wait) := by
  obtain ⟨d, reply?⟩ := a
  obtain ⟨e, reply?'⟩ := b
  obtain ⟨hdevice, hreply⟩ := h
  cases reply? with
  | some reply =>
    obtain ⟨reply', rfl, -⟩ := Option.map_eq_some_iff.1 hreply.symm
    exact .none
  | none =>
    obtain rfl : reply?' = none := Option.map_eq_none_iff.1 hreply.symm
    obtain ⟨hanswer, hafter⟩ := hR.await hdevice wait
    rcases hd : Device.await d wait with ⟨answer?, d'⟩
    rcases he : Device.await e wait with ⟨answer?', e'⟩
    rw [hd, he] at hanswer hafter
    obtain rfl : answer? = answer?' := hanswer
    rw [Stage.early?, Stage.early?, hd, he]
    cases answer? with
    | none => exact .none
    | some answer =>
      dsimp only
      split
      · exact .some ⟨rfl, hafter, rfl⟩
      · exact .none

theorem await (hR : Device.Twins R) (h : Stage.Alike R a b) (issue : Instant) (command : String)
    (wait : Wait) :
    (a.await issue command wait).1 = (b.await issue command wait).1 ∧
      Stage.Alike R (a.await issue command wait).2 (b.await issue command wait).2 := by
  have hearly := h.early? hR issue wait
  generalize ha : a.early? issue wait = x, hb : b.early? issue wait = y at hearly
  cases hearly with
  | none =>
    obtain ⟨hafter, hdevice⟩ := h.issued hR issue command
    obtain ⟨hanswer, hdevice'⟩ := hR.await hdevice wait
    rw [Stage.await_of_late ha, Stage.await_of_late hb, hanswer]
    exact ⟨rfl, hdevice', congrArg some hafter⟩
  | some hend =>
    rw [Stage.await, Stage.await, ha, hb]
    exact ⟨congrArg some hend.1, hend.2⟩

/-- The timelines of related stages differ in what the reply says. -/
theorem timeline (hR : Device.Twins R) (h : Stage.Alike R a b) (times : WatchTimes)
    (now issue : Instant) (command : String) :
    ∃ result, b.timeline times now issue command =
      { a.timeline times now issue command with
        reply := { (a.timeline times now issue command).reply with result } } := by
  have hreply : ∀ {a : Stage σ} {b : Stage τ} (gone back : Option WaitEnd), Stage.Alike R a b →
      ∃ result, (⟨issue, (b.issued issue command).1, gone, back⟩ : Timeline) =
        ⟨issue, { (a.issued issue command).1 with result }, gone, back⟩ := by
    intro a b gone back h
    refine ⟨(b.issued issue command).1.result, ?_⟩
    dsimp only
    rw [(h.issued hR issue command).1]
  obtain ⟨hgone, hstage⟩ := h.await hR issue command ⟨.gone, now, times.leave⟩
  rw [Stage.timeline, Stage.timeline]
  rcases ha : a.await issue command ⟨.gone, now, times.leave⟩ with ⟨gone, a'⟩
  rcases hb : b.await issue command ⟨.gone, now, times.leave⟩ with ⟨gone', b'⟩
  rw [ha, hb] at hgone hstage
  obtain rfl : gone = gone' := hgone
  rcases gone with _ | ⟨left, _ | _ | _⟩
  · exact hreply none none hstage
  · obtain ⟨hback, hstage'⟩ :=
      hstage.await hR issue command ⟨.back, left.wake times.settle, times.recover⟩
    dsimp only
    rw [← hback]
    exact hreply _ _ hstage'
  · exact hreply _ none hstage
  · exact hreply _ none hstage

end Stage.Alike

/-- In a session, devices that differ in the texts of their replies have timelines that differ in
what the reply says. -/
theorem Session.timeline_alike {d : σ} {e : τ} (h : Device.Alike d e) (s : Session)
    (now : Instant) :
    ∃ result, s.timeline e now =
      { s.timeline d now with reply := { (s.timeline d now).reply with result } } := by
  obtain ⟨R, hR, hde⟩ := h
  rw [timeline, timeline]
  split
  · obtain ⟨hafter, hdevice⟩ := hR.execute hde (now.wake s.variant.start) s.variant.command
    have hstage : Stage.Alike R ⟨_, some _⟩ ⟨_, some _⟩ := ⟨hdevice, congrArg some hafter⟩
    exact hstage.timeline hR s.times now _ _
  · have hstage : Stage.Alike R ⟨d, none⟩ ⟨e, none⟩ := ⟨hde, rfl⟩
    exact hstage.timeline hR s.times now _ _

end Alike

/-! ## Verdicts -/

/-- The verdict on a report whose reset is not refused does not depend on its outcome. -/
theorem Report.judge_withOutcome (r : Report) {outcome outcome' : Outcome}
    (h : ¬outcome.isNotSupported) (h' : ¬outcome'.isNotSupported) :
    Report.kind { r with outcome } = Report.kind { r with outcome := outcome' } ∧
      Report.reason { r with outcome } = Report.reason { r with outcome := outcome' } := by
  refine ⟨(if_neg h).trans (if_neg h').symm, (if_neg h).trans (if_neg h').symm⟩

/-- **A lost link.**  Take two devices that differ in the texts of their replies only.  Let the link
be lost before the reply of one of them, and let the other reply that it supports the reset.  Then
both sessions end at the same instant, with the same verdict, and their reports differ in the
outcome only. -/
theorem Session.judged_linkLost {σ τ : Type} [Device σ] [Device τ] {d : σ} {e : τ}
    (h : Device.Alike d e) (s : Session) (now : Instant) (calls : List Call) {reason text : String}
    (hlost : (s.timeline d now).reply.result = .error (.linkLost reason))
    (hreplied : (s.timeline e now).reply.result = .ok text)
    (hsupported : Support.classify (Text.trim text) s.phrases = .supported) :
    ∃ (kind : VerdictKind) (why : String) (report : Report),
      s.judged d now calls =
          .ok ⟨kind, why, { report with outcome := ⟨"", .unknown, s.issuedAt⟩ }⟩ ∧
        s.judged e now calls =
          .ok ⟨kind, why, { report with outcome := ⟨Text.trim text, .supported, s.issuedAt⟩ }⟩ ∧
        (s.run d now calls).2.now = (s.run e now calls).2.now := by
  have hlostOutcome : Outcome.ofReply s.phrases s.issuedAt (s.timeline d now).reply.result =
      .ok ⟨"", .unknown, s.issuedAt⟩ := by
    rw [hlost]
    rfl
  have houtcome : Outcome.ofReply s.phrases s.issuedAt (s.timeline e now).reply.result =
      .ok ⟨Text.trim text, .supported, s.issuedAt⟩ := by
    rw [hreplied, Outcome.ofReply, hsupported]
  have hrun : ¬Outcome.isNotSupported ⟨"", .unknown, s.issuedAt⟩ := Bool.false_ne_true
  have hrun' : ¬Outcome.isNotSupported ⟨Text.trim text, .supported, s.issuedAt⟩ :=
    Bool.false_ne_true
  obtain ⟨result, htimeline⟩ := s.timeline_alike h now
  have hseen : s.seen (s.timeline e now) = s.seen (s.timeline d now) := by
    rw [htimeline]
    rfl
  have hissue : (s.timeline e now).issue = (s.timeline d now).issue := by rw [htimeline]
  have hfinish : s.finish (s.timeline e now) = s.finish (s.timeline d now) := by
    rw [htimeline]
    rfl
  have hjudged := s.judged_of_outcome d now calls hlostOutcome
  have hjudged' := s.judged_of_outcome e now calls houtcome
  have hover := (s.run_of_follow d now calls hlostOutcome hrun).2
  have hover' := (s.run_of_follow e now calls houtcome hrun').2
  rw [noted, if_neg hrun] at hjudged
  rw [noted, if_neg hrun', hseen, hissue] at hjudged'
  let report := ((Observation.start (s.timeline d now).issue).after
    (s.seen (s.timeline d now))).report s.variant.name s.budget ⟨"", .unknown, s.issuedAt⟩
  obtain ⟨hkind, hreason⟩ := report.judge_withOutcome hrun hrun'
  refine ⟨report.kind, report.reason, report, hjudged,
    hjudged'.trans (congrArg Except.ok ?_), ?_⟩
  · rw [Verdict.mk.injEq]
    exact ⟨hkind.symm, hreason.symm, rfl⟩
  · rw [hover, hover', hfinish]

/-- A device that is away for five milliseconds and loses the link to its shell with that. -/
def Scripted.severed : Scripted :=
  { brief with reply := .error (.linkLost "closed") }

/-- A session for the reset of the port. -/
def Session.ofPort : Session :=
  Check.standard.session .port (.ok none) .epoch

/-- The reset passes, whether the reply is lost or not. -/
theorem Session.judged_linkLost_severed :
    let answering : Scripted := { Scripted.severed with reply := .ok "done\n" }
    (ofPort.timeline Scripted.severed 0).reply.result = .error (.linkLost "closed") ∧
      (ofPort.timeline answering 0).reply.result = .ok "done\n" ∧
      Support.classify (Text.trim "done\n") ofPort.phrases = .supported ∧
      ∃ (why : String) (report : Report),
        ofPort.judged Scripted.severed 0 [] =
            .ok ⟨.pass, why, { report with outcome := ⟨"", .unknown, .epoch⟩ }⟩ ∧
          ofPort.judged answering 0 [] = .ok
            ⟨.pass, why, { report with outcome := ⟨Text.trim "done\n", .supported, .epoch⟩ }⟩ ∧
          (ofPort.run Scripted.severed 0 []).2.now = (ofPort.run answering 0 []).2.now := by
  intro answering
  have hlost : (ofPort.timeline Scripted.severed 0).reply.result = .error (.linkLost "closed") :=
    rfl
  have hreplied : (ofPort.timeline answering 0).reply.result = .ok "done\n" := rfl
  have hsupported : Support.classify (Text.trim "done\n") ofPort.phrases = .supported := by
    decide +kernel
  have halike : Device.Alike Scripted.severed answering := Scripted.severed.alike nofun nofun
  have hpass : (ofPort.judged Scripted.severed 0 []).map (·.kind) = .ok .pass := rfl
  obtain ⟨kind, why, report, hjudged, hjudged', hover⟩ :=
    judged_linkLost halike ofPort 0 [] hlost hreplied hsupported
  rw [hjudged] at hpass
  obtain rfl : kind = .pass := Except.ok.inj hpass
  exact ⟨hlost, hreplied, hsupported, why, report, hjudged, hjudged', hover⟩

end ResetCheck
