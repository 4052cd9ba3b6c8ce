import ResetCheck.Proofs.Session.Requests

/-!
# What a session leaves of its device

A wait may change a device: one that is polled has fewer answers left afterwards.  But most of a
device lasts through its waits.  A session does nothing to its device but wait, apart from the
command that it issues once, so what lasts is in the end what the command has made of it.

* `Device.Lasting`: a part of a device that no wait changes.
* `Watch.Takes.lasting`: listening to a watch does not change it either.
* `Session.exists_issued`: in a session only the command changes it.
-/

namespace ResetCheck

/-- Whether no wait changes a part of a device. -/
def Device.Lasting {σ α : Type} [Device σ] (part : σ → α) : Prop :=
  ∀ device wait, part (Device.await device wait).2 = part device

section Lasting

variable {σ α : Type} [Device σ] {part : σ → α} (hlasting : Device.Lasting part)

include hlasting

namespace Watch

theorem finishWait_lasting (w : Watch σ) (wait : Wait) (state : Connectivity)
    (next : Instant → Phase) : part (w.finishWait wait state next).device = part w.device := by
  have hdevice := hlasting w.device wait
  rw [finishWait]
  split
  · rfl
  · next answer device ha =>
    rw [ha] at hdevice
    dsimp only
    split
    · rw [publish]
      split <;> exact hdevice
    · exact hdevice

theorem step_lasting (w : Watch σ) : part w.step.device = part w.device := by
  obtain ⟨device, times, phase, queue, heard, now, calls⟩ := w
  cases phase with
  | unstarted => rfl
  | awaitingGone since => exact finishWait_lasting hlasting _ _ _ _
  | settling finish => rfl
  | awaitingBack since => exact finishWait_lasting hlasting _ _ _ _
  | ended => rfl

theorem runUntil_lasting (w : Watch σ) (t : Instant) :
    part (w.runUntil t).device = part w.device := by
  induction w using runInduction (σ := σ) t with
  | idle w h => rw [runUntil_of_idle h]; rfl
  | due w d h hd ih => rw [runUntil_of_due h hd, ih, step_lasting hlasting]

theorem Takes.lasting {w w' : Watch σ} {got : List Sighting} (h : w.Takes got w') :
    part w'.device = part w.device := by
  induction h with
  | refl => rfl
  | runUntil _ t ih => rw [runUntil_lasting hlasting, ih]
  | take _ _ ih => exact ih

end Watch

/-- In a session, only the command changes what lasts, and the reply is the one to that command. -/
theorem Session.exists_issued (s : Session) (device : σ) (now : Instant) (calls : List Call) :
    let tl := s.timeline device now
    ∃ d, part d = part device ∧ tl.reply = (Device.execute d tl.issue s.variant.command).1 ∧
      part (s.run device now calls).2.device =
        part (Device.execute d tl.issue s.variant.command).2 := by
  intro tl
  have hready : part (s.readied device now calls).device = part device :=
    (Watch.Takes.sleep _ s.variant.start).lasting hlasting
  have hissue : (s.readied device now calls).now = tl.issue := s.readied_now device now calls
  obtain ⟨got, hgot⟩ := s.exists_takes_drive device now calls
  have hanswered : part (s.answered device now calls).device =
      part ((s.readied device now calls).issue s.variant.command).device :=
    (Watch.Takes.pass _ tl.reply.after).lasting hlasting
  refine ⟨(s.readied device now calls).device, hready, ?_, ?_⟩
  · rw [← hissue]
    exact (s.readied_reply device now calls).symm
  · rw [← hissue]
    exact (hgot.lasting hlasting).trans hanswered

end Lasting

end ResetCheck
