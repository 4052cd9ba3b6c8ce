import ResetCheck.Proofs.Device.Bridged
import ResetCheck.Proofs.Outcome

/-!
# Refusals on either stream

A device may refuse the reset on either of the two streams of the bridge.  The reply is what stands
on both, one after the other.  So a refusal on one stream is found, unless a complaint of the bridge
on the error stream ends the command before the reply is looked at; and something is found that
stands on neither stream if a phrase begins at the end of the one and goes on at the front of the
other.

* `Text.Refuses`: texts that hold a phrase with which devices refuse a reset.
* `Output.refused_reply_iff`: when an output of the bridge counts as a refusal.
* `Bridged.refused_either_iff`: when this is the same as a refusal on one of the streams.
-/

namespace ResetCheck

/-! ## Texts that refuse a reset -/

namespace Text

/-- Whether a text holds a phrase with which devices refuse a reset, up to the case of ASCII
letters. -/
def Refuses (s : List Char) : Prop :=
  ∃ phrase ∈ refusalPhrases, folded phrase.toList <:+: folded s

instance (s : List Char) : Decidable (Refuses s) :=
  inferInstanceAs (Decidable (∃ phrase ∈ refusalPhrases, folded phrase.toList <:+: folded s))

/-- What searching a text for one of the phrases comes down to. -/
structure Searchable (phrase : List Char) : Prop where
  ne_nil : phrase ≠ []
  plain : Plain (folded phrase)
  first : ∀ c, (folded phrase).head? = some c → ¬isBlank c
  last : ∀ c, (folded phrase).getLast? = some c → ¬isBlank c

theorem searchable_of_mem : ∀ phrase ∈ refusalPhrases, Searchable phrase.toList := by
  have hends : ∀ phrase ∈ refusalPhrases, phrase.toList ≠ [] ∧ Plain (folded phrase.toList) ∧
      (folded phrase.toList).head?.any isBlank = false ∧
      (folded phrase.toList).getLast?.any isBlank = false := by
    decide +kernel
  intro phrase hphrase
  obtain ⟨hne, hplain, hfirst, hlast⟩ := hends phrase hphrase
  refine ⟨hne, hplain, fun c hc => ?_, fun c hc => ?_⟩
  · rw [hc] at hfirst
    exact Bool.eq_false_iff.1 hfirst
  · rw [hc] at hlast
    exact Bool.eq_false_iff.1 hlast

theorem refuses_trimChars_iff {s : List Char} : Refuses (trimChars s) ↔ Refuses s := by
  have hphrase : ∀ phrase ∈ refusalPhrases,
      (folded phrase.toList <:+: folded (trimChars s) ↔ folded phrase.toList <:+: folded s) :=
    fun phrase h => infix_folded_trimChars_iff (searchable_of_mem phrase h).first
      (searchable_of_mem phrase h).last s
  exact exists_congr fun phrase => and_congr_right fun h => hphrase phrase h

/-- Whether a phrase begins at the end of one text and goes on at the front of another. -/
def Bridges (a b : List Char) : Prop :=
  ∃ phrase ∈ refusalPhrases, ∃ front back, front ≠ [] ∧ back ≠ [] ∧
    folded phrase.toList = front ++ back ∧ front <:+ folded a ∧ back <+: folded b

theorem refuses_append_iff {a b : List Char} :
    Refuses (a ++ b) ↔ Refuses a ∨ Refuses b ∨ Bridges a b := by
  simp only [Refuses, Bridges, folded_append, List.infix_append_iff_ne_nil, and_or_left,
    exists_or]

end Text

namespace Support

/-- A reply tells that the reset is not supported if it refuses it. -/
theorem classify_refusalPhrases_iff {output : String} :
    classify output refusalPhrases = .notSupported ↔ Text.Refuses output.toList := by
  rw [classify_eq_notSupported_iff]
  refine exists_congr fun phrase => and_congr_right fun h => ?_
  have hsearch := Text.searchable_of_mem phrase h
  rw [mentions_iff, Text.infix_lower_iff hsearch.plain]
  exact and_iff_right hsearch.ne_nil

theorem classify_trim_iff {output : String} :
    classify (Text.trim output) refusalPhrases = .notSupported ↔ Text.Refuses output.toList := by
  rw [classify_refusalPhrases_iff, Text.trim, String.toList_ofList, Text.refuses_trimChars_iff]

end Support

/-! ## Complaints of the bridge -/

/-- Whether an error stream holds a line of the bridge's own. -/
def Complains (errors : String) : Prop :=
  ∃ line ∈ Text.lines (Text.trim errors).toList, Complaint.ofLine? line ≠ none

instance (errors : String) : Decidable (Complains errors) :=
  inferInstanceAs
    (Decidable (∃ line ∈ Text.lines (Text.trim errors).toList, Complaint.ofLine? line ≠ none))

theorem ofErrors?_eq_none_iff {errors : String} :
    CommandFault.ofErrors? errors = none ↔
      Text.Refuses errors.toList ∨ ¬Complains errors := by
  rw [CommandFault.ofErrors?, Complains]
  split
  · next h => exact iff_of_true rfl (.inl (Support.classify_trim_iff.1 h))
  · next h =>
    rw [Support.classify_trim_iff] at h
    simp [h, List.findSome?_eq_none_iff]

/-! ## Replies -/

namespace Output

/-- Whether the bridge says that a command failed, and why. -/
def Complains (o : Output) : Prop :=
  ¬o.succeeded ∧ ResetCheck.Complains o.errText

instance (o : Output) : Decidable o.Complains :=
  inferInstanceAs (Decidable (¬o.succeeded ∧ ResetCheck.Complains o.errText))

/-- The reply is what stands on both streams, unless the bridge complains and the error stream does
not refuse the reset. -/
theorem reply_cases (o : Output) :
    (o.Complains ∧ ¬Text.Refuses o.errText.toList ∧ ∃ fault, o.reply = .error fault) ∨
      (¬o.Complains ∨ Text.Refuses o.errText.toList) ∧ o.reply = .ok (o.outText ++ o.errText) := by
  rw [reply, Complains]
  cases hstatus : o.succeeded with
  | true => simp
  | false =>
    cases hfault : CommandFault.ofErrors? o.errText with
    | none =>
      have hnone := ofErrors?_eq_none_iff.1 hfault
      refine .inr ⟨hnone.symm.imp_left fun h => ?_, rfl⟩
      exact fun hc => h hc.2
    | some fault =>
      have hsome : ¬(Text.Refuses o.errText.toList ∨ ¬ResetCheck.Complains o.errText) := by
        rw [← ofErrors?_eq_none_iff, hfault]
        exact nofun
      rw [not_or, Classical.not_not] at hsome
      exact .inl ⟨⟨Bool.false_ne_true, hsome.2⟩, hsome.1, fault, rfl⟩

/-- Whether an answer to the reset command counts as a refusal. -/
def Refused (issuedAt : WallTime) (answer : Except CommandFault String) : Prop :=
  (Outcome.ofReply refusalPhrases issuedAt answer).map (·.support) = .ok .notSupported

theorem refused_ok_iff {issuedAt : WallTime} {raw : String} :
    Refused issuedAt (.ok raw) ↔ Text.Refuses raw.toList := by
  rw [Refused, Outcome.support_ofReply_ok, Except.ok.injEq, Support.classify_trim_iff]

theorem not_refused_error {issuedAt : WallTime} {fault : CommandFault} :
    ¬Refused issuedAt (.error fault) := by
  cases fault with
  | linkLost text => exact fun h => nomatch Except.ok.inj h
  | rejected text => exact nofun

/-- An output counts as a refusal if its error stream refuses the reset, or if the bridge does not
complain and the other stream refuses it or a phrase lies where the streams meet. -/
theorem refused_reply_iff {issuedAt : WallTime} {o : Output} :
    Refused issuedAt o.reply ↔
      Text.Refuses o.errText.toList ∨
        ¬o.Complains ∧
          (Text.Refuses o.outText.toList ∨ Text.Bridges o.outText.toList o.errText.toList) := by
  rcases o.reply_cases with ⟨hcomplains, herr, fault, hreply⟩ | ⟨hlistens, hreply⟩
  · rw [hreply]
    refine iff_of_false not_refused_error ?_
    rintro (h | ⟨h, -⟩)
    · exact herr h
    · exact h hcomplains
  · rw [hreply, refused_ok_iff, String.toList_append, Text.refuses_append_iff]
    rcases hlistens with h | h
    · simp only [h, not_false_eq_true, true_and]
      exact or_left_comm
    · simp only [h, true_or, or_true]

/-- What a run of the bridge leaves behind that printed two texts of ASCII characters. -/
def ofTexts (out err : String) (status : UInt8) : Output :=
  ⟨out.toList.map (·.toNat.toUInt8), err.toList.map (·.toNat.toUInt8), status, 0⟩

end Output

/-! ## Devices behind the bridge -/

namespace Bridged

/-- An answer of the bridge counts as a refusal for what stands on its streams. -/
theorem refused_execute_iff {d : Bridged} {command : String} {o : Output} {issuedAt : WallTime}
    (h : (d.bridge.askShell d.serial command).1 = .ok o) :
    Output.Refused issuedAt (d.execute command).1 ↔
      Text.Refuses o.errText.toList ∨
        ¬o.Complains ∧
          (Text.Refuses o.outText.toList ∨ Text.Bridges o.outText.toList o.errText.toList) := by
  rw [execute_of_ok h]
  exact Output.refused_reply_iff

/-- **Refusals on either stream.**  That a device behind the bridge refuses the reset is found if
and only if one of the two streams holds one of the phrases, except in two cases.  A complaint of
the bridge hides the refusal if only the other stream holds it.  And what stands on neither stream
is found if a phrase lies where they meet. -/
theorem refused_either_iff {d : Bridged} {command : String} {o : Output} (issuedAt : WallTime)
    (h : (d.bridge.askShell d.serial command).1 = .ok o) :
    let outcome := Outcome.ofReply refusalPhrases issuedAt (d.execute command).1
    let refused := outcome.map (·.support) = .ok .notSupported
    let out := o.outText.toList
    let err := o.errText.toList
    (refused ↔ Text.Refuses out ∨ Text.Refuses err) ↔
      ¬(o.Complains ∧ Text.Refuses out ∧ ¬Text.Refuses err ∨
        ¬o.Complains ∧ ¬Text.Refuses out ∧ ¬Text.Refuses err ∧ Text.Bridges out err) := by
  intro outcome refused out err
  have hrefused : refused ↔ Text.Refuses err ∨
      ¬o.Complains ∧ (Text.Refuses out ∨ Text.Bridges out err) :=
    refused_execute_iff h
  rw [hrefused]
  by_cases herr : Text.Refuses err
  · simp [herr]
  · by_cases hcomplains : o.Complains
    · simp [herr, hcomplains]
    · by_cases hout : Text.Refuses out
      · simp [herr, hcomplains, hout]
      · simp [herr, hcomplains, hout]

/-- A device behind a bridge that answers every command with the same texts, of ASCII characters,
and the same status. -/
def answering (out err : String) (status : UInt8) : Bridged :=
  let silent := Answers.always (.error "")
  ⟨⟨"adb", silent, silent, .always (.ok (.ofTexts out err status)), silent, []⟩, "SN1",
    .ofMillis 1⟩

theorem askShell_answering (out err : String) (status : UInt8) :
    ((answering out err status).bridge.askShell "SN1" "svc usb resetUsbPort").1 =
      .ok (.ofTexts out err status) := by
  have hstarts : (answering out err status).bridge.obstacle? (.shell "SN1" "svc usb resetUsbPort") =
      none := by
    have hplain : ["adb", "-s", "SN1", "shell", "svc usb resetUsbPort"].any
        (·.toList.contains '\x00') = false := by decide +kernel
    exact if_neg (Bool.eq_false_iff.1 hplain)
  simp only [Bridge.askShell, Bridge.outcome, hstarts]
  rfl

/-- The command failed on the device, which writes in capitals why, and the other stream holds lines
that are none of the bridge's own. -/
theorem refused_either_capitals :
    let command := "svc usb resetUsbPort"
    let o := Output.ofTexts "reset failed\r\nNO USB PORTS\n" "warning: adb: slow\n" 255
    let d := answering "reset failed\r\nNO USB PORTS\n" "warning: adb: slow\n" 255
    (d.bridge.askShell d.serial command).1 = .ok o ∧ Text.Refuses o.outText.toList ∧
      (Outcome.ofReply refusalPhrases .epoch (d.execute command).1).map (·.support) =
        .ok .notSupported := by
  intro command o d
  have hlaunched : (d.bridge.askShell d.serial command).1 = .ok o := askShell_answering ..
  have hcomplains : ¬o.Complains := by decide +kernel
  have hout : Text.Refuses o.outText.toList := by decide +kernel
  refine ⟨hlaunched, hout, ?_⟩
  refine ((refused_either_iff .epoch hlaunched).2 ?_).2 (.inl hout)
  rintro (⟨h, -⟩ | ⟨-, h, -⟩)
  · exact hcomplains h
  · exact h hout

/-- The bridge says that the link was closed, and the refusal on the other stream does not count.
And two streams of which neither holds a phrase refuse the reset together. -/
theorem refusals_misjudged :
    let command := "svc usb resetUsbPort"
    let found := fun d : Bridged =>
      (Outcome.ofReply refusalPhrases .epoch (d.execute command).1).map (·.support) =
        .ok .notSupported
    let hidden := Output.ofTexts "No USB ports\n" "error: closed\n" 1
    let parted := Output.ofTexts "No USB" " ports" 0
    (Text.Refuses hidden.outText.toList ∧
        ¬found (answering "No USB ports\n" "error: closed\n" 1)) ∧
      ¬Text.Refuses parted.outText.toList ∧ ¬Text.Refuses parted.errText.toList ∧
        found (answering "No USB" " ports" 0) := by
  intro command found hidden parted
  have hhidden : Text.Refuses hidden.outText.toList ∧ ¬Text.Refuses hidden.errText.toList ∧
      hidden.Complains := by decide +kernel
  have hparted : ¬Text.Refuses parted.outText.toList ∧ ¬Text.Refuses parted.errText.toList ∧
      ¬parted.Complains ∧ Text.Refuses (parted.outText.toList ++ parted.errText.toList) := by
    decide +kernel
  refine ⟨⟨hhidden.1, fun hfound => ?_⟩, hparted.1, hparted.2.1, ?_⟩
  · rcases (refused_execute_iff (askShell_answering ..)).1 hfound with h | h
    · exact hhidden.2.1 h
    · exact h.1 hhidden.2.2
  · have hmeet := Text.refuses_append_iff.1 hparted.2.2.2
    refine (refused_execute_iff (askShell_answering ..)).2 (.inr ⟨hparted.2.2.1, .inr ?_⟩)
    exact (hmeet.resolve_left hparted.1).resolve_left hparted.2.1

end Bridged

end ResetCheck
