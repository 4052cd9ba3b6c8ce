import ResetCheck.Proofs.Text.Casing.Blank
import ResetCheck.Proofs.Text.Phrase

/-!
# What a reply tells

A reply refuses the reset if its lowercase holds that of one of the phrases.  Only the set of these
lowercase phrases matters, and the blanks around the reply do not, if no phrase begins or ends with
one.  A phrase that stands in a reply is found there, unless its own lowercase and the one in the
reply differ: the last sigma of a word is written in another way.

* `Support.Searched`: what a reply is searched for.
* `Support.classify_trim`: the blanks around a reply.
* `Support.classify_embedded_iff`: which phrases are found wherever they stand.
* `Outcome.support_ofReply`: what the reply to a command tells.
-/

namespace ResetCheck

namespace Support

variable {output : String} {phrases others : List String}

/-- Whether a list of phrases has a reply searched for a text in lowercase. -/
def Searched (phrases : List String) (w : List Char) : Prop :=
  ∃ phrase ∈ phrases, phrase ≠ "" ∧ Text.lower phrase.toList = w

theorem searched_append {w : List Char} :
    Searched (phrases ++ others) w ↔ Searched phrases w ∨ Searched others w := by
  simp only [Searched, List.mem_append, or_and_right, exists_or]

theorem mentions_iff_ne_empty {phrase : String} :
    mentions output.toList phrase.toList ↔
      phrase ≠ "" ∧ Text.lower phrase.toList <:+: Text.lower output.toList := by
  rw [mentions_iff, ne_eq, ne_eq, String.toList_eq_nil_iff]

theorem classify_eq_notSupported_iff_searched :
    classify output phrases = .notSupported ↔
      ∃ w, Searched phrases w ∧ w <:+: Text.lower output.toList := by
  rw [classify_eq_notSupported_iff]
  constructor
  · rintro ⟨phrase, hphrase, hmentions⟩
    obtain ⟨hne, hinfix⟩ := mentions_iff_ne_empty.1 hmentions
    exact ⟨_, ⟨phrase, hphrase, hne, rfl⟩, hinfix⟩
  · rintro ⟨_, ⟨phrase, hphrase, hne, rfl⟩, hinfix⟩
    exact ⟨phrase, hphrase, mentions_iff_ne_empty.2 ⟨hne, hinfix⟩⟩

theorem classify_ne_notSupported_iff :
    classify output phrases ≠ .notSupported ↔ classify output phrases = .supported := by
  rw [classify]
  split <;> simp

/-- There is nothing to tell of a reply but whether it is a refusal. -/
theorem classify_eq_of_iff {output' : String}
    (h : classify output phrases = .notSupported ↔ classify output' others = .notSupported) :
    classify output phrases = classify output' others := by
  by_cases hrefused : classify output phrases = .notSupported
  · rw [hrefused, h.1 hrefused]
  · have hrefused' := mt h.2 hrefused
    rw [classify_ne_notSupported_iff.1 hrefused, classify_ne_notSupported_iff.1 hrefused']

/-- Only the phrases in lowercase matter. -/
theorem classify_congr (h : ∀ w, Searched phrases w ↔ Searched others w) :
    classify output phrases = classify output others := by
  apply classify_eq_of_iff
  simp only [classify_eq_notSupported_iff_searched, h]

/-- With more phrases no refusal is lost. -/
theorem classify_of_subset (h : phrases ⊆ others)
    (hrefused : classify output phrases = .notSupported) :
    classify output others = .notSupported := by
  obtain ⟨phrase, hphrase, hmentions⟩ := classify_eq_notSupported_iff.1 hrefused
  exact classify_eq_notSupported_iff.2 ⟨phrase, h hphrase, hmentions⟩

/-- The blanks around a reply do not matter for phrases without blanks at their ends. -/
theorem classify_trim (h : ∀ phrase ∈ phrases, Text.Trimmed phrase.toList) :
    classify (Text.trim output) phrases = classify output phrases := by
  apply classify_eq_of_iff
  rw [classify_eq_notSupported_iff, classify_eq_notSupported_iff]
  refine exists_congr fun phrase => and_congr_right fun hphrase => ?_
  rw [mentions_iff, mentions_iff, Text.trim, String.toList_ofList,
    Text.infix_lower_trimChars_iff (h phrase hphrase)]

/-! ## Phrases that stand in a reply -/

theorem classify_of_undisturbed {phrase a b : String} (hne : phrase ≠ "") (hmem : phrase ∈ phrases)
    (h : Text.Undisturbed a.toList.reverse phrase.toList b.toList) :
    classify (a ++ phrase ++ b) phrases = .notSupported := by
  refine classify_eq_notSupported_iff.2 ⟨phrase, hmem, mentions_iff_ne_empty.2 ⟨hne, ?_⟩⟩
  rw [String.toList_append, String.toList_append]
  exact h.infix_lower

/-- Whether a reply that is made of a phrase and what stands around it holds a phrase of a list, in
lowercase, elsewhere than at the place where this one stands. -/
def FoundElsewhere (phrases : List String) (a phrase b : String) : Prop :=
  ∃ other ∈ phrases, other ≠ "" ∧ ∃ front back,
    Text.lower (a ++ phrase ++ b).toList = front ++ Text.lower other.toList ++ back ∧
      (other = phrase → front.length ≠ (Text.lower a.toList).length)

theorem undisturbed_or_foundElsewhere {phrase a b : String}
    (h : classify (a ++ phrase ++ b) phrases = .notSupported) :
    Text.Undisturbed a.toList.reverse phrase.toList b.toList ∨
      FoundElsewhere phrases a phrase b := by
  obtain ⟨other, hother, hmentions⟩ := classify_eq_notSupported_iff.1 h
  obtain ⟨hne, front, back, hfound⟩ := mentions_iff_ne_empty.1 hmentions
  by_cases hplace : other = phrase ∧ front.length = (Text.lower a.toList).length
  · left
    obtain ⟨rfl, hlength⟩ := hplace
    rw [String.toList_append, String.toList_append] at hfound
    exact Text.undisturbed_of_lower_eq hfound.symm hlength
  · right
    exact ⟨other, hother, hne, front, back, hfound.symm, fun heq hlength => hplace ⟨heq, hlength⟩⟩

theorem classify_of_foundElsewhere {phrase a b : String} (h : FoundElsewhere phrases a phrase b) :
    classify (a ++ phrase ++ b) phrases = .notSupported := by
  obtain ⟨other, hother, hne, front, back, hfound, -⟩ := h
  refine classify_eq_notSupported_iff.2 ⟨other, hother, mentions_iff_ne_empty.2 ⟨hne, ?_⟩⟩
  exact ⟨front, back, hfound.symm⟩

/-- **Phrases that stand in a reply.**  A phrase is found where it stands if and only if the reply
around it does not disturb it: every capital sigma of the phrase has to end a word in the reply if
and only if it does in the phrase alone.  If it is disturbed, the reply is a refusal only for what
is found elsewhere.  And a phrase is found wherever it stands if and only if it is settled: it shows
of every capital sigma by itself whether this ends a word. -/
theorem classify_embedded_iff {phrase : String} (hne : phrase ≠ "") :
    (∀ phrases a b, phrase ∈ phrases →
        (classify (a ++ phrase ++ b) phrases = .notSupported ↔
          Text.Undisturbed a.toList.reverse phrase.toList b.toList ∨
            FoundElsewhere phrases a phrase b)) ∧
      ((∀ phrases a b, phrase ∈ phrases → classify (a ++ phrase ++ b) phrases = .notSupported) ↔
        Text.Settled phrase.toList) := by
  constructor
  · intro phrases a b hmem
    constructor
    · exact undisturbed_or_foundElsewhere
    · rintro (h | h)
      · exact classify_of_undisturbed hne hmem h
      · exact classify_of_foundElsewhere h
  · constructor
    · intro h
      refine Text.settled_iff_infix.2 fun a b => ?_
      have hfound := h [phrase] (.ofList a) (.ofList b) (List.mem_singleton.2 rfl)
      obtain ⟨other, hother, hmentions⟩ := classify_eq_notSupported_iff.1 hfound
      obtain rfl := List.mem_singleton.1 hother
      simpa using (mentions_iff.1 hmentions).2
    · intro h phrases a b hmem
      exact classify_of_undisturbed hne hmem (h.undisturbed _ _)

/-- A word in capitals that ends in a sigma is found between blanks.  Followed by a blank within the
phrase it is found anywhere. -/
theorem classify_embedded_capitals :
    classify ("USB: " ++ "ΛΑΘΟΣ" ++ " (1)") ["ΛΑΘΟΣ"] = .notSupported ∧
      classify ("usb:" ++ "ΛΑΘΟΣ USB" ++ "Σ") ["", "ΛΑΘΟΣ USB"] = .notSupported := by
  have hundisturbed :
      Text.Undisturbed "USB: ".toList.reverse "ΛΑΘΟΣ".toList " (1)".toList :=
    Text.lowerBetween_eq_lower_iff.1 (by decide +kernel)
  have hsettled : Text.Settled "ΛΑΘΟΣ USB".toList := by decide +kernel
  constructor
  · exact ((classify_embedded_iff (by decide)).1 _ _ _ (by decide)).2 (.inl hundisturbed)
  · exact (classify_embedded_iff (by decide)).2.2 hsettled _ _ _ (by decide)

/-- Before a colon and a letter the same word is not found. -/
theorem classify_embedded_disturbed :
    "ΛΑΘΟΣ" ≠ "" ∧ "ΛΑΘΟΣ" ∈ ["ΛΑΘΟΣ"] ∧
      classify ("" ++ "ΛΑΘΟΣ" ++ ":USB") ["ΛΑΘΟΣ"] = .supported := by
  decide +kernel

/-- The phrases with which devices refuse a reset are found wherever they stand. -/
example : ∀ phrase ∈ refusalPhrases, Text.Settled phrase.toList := by
  decide +kernel

end Support

/-! ## The reply to a command -/

namespace Outcome

theorem support_ofReply_ok (phrases : List String) (issuedAt : WallTime) (raw : String) :
    (ofReply phrases issuedAt (.ok raw)).map (·.support) =
      .ok (.classify (Text.trim raw) phrases) := rfl

/-- The phrases with which devices refuse a reset have no blanks at their ends. -/
theorem trimmed_of_mem_refusalPhrases : ∀ phrase ∈ refusalPhrases, Text.Trimmed phrase.toList := by
  decide +kernel

/-- **What the reply to a command tells.**  It is what the reply tells with the blanks around it, if
no phrase that was added begins or ends with a blank.  It depends on nothing but the set of the
phrases in lowercase, the empty one left out.  And with more phrases added it is the same, or a
refusal where there was none. -/
theorem support_ofReply (raw : String) (added : List String) (issuedAt : WallTime) :
    let told := fun added : List String =>
      (ofReply (refusalPhrases ++ added) issuedAt (.ok raw)).map (·.support)
    ((∀ phrase ∈ added, Text.Trimmed phrase.toList) →
        told added = .ok (.classify raw (refusalPhrases ++ added))) ∧
      (∀ others,
        (∀ w, Support.Searched (refusalPhrases ++ added) w ↔
          Support.Searched (refusalPhrases ++ others) w) → told added = told others) ∧
      ∀ more, added ⊆ more →
        told more = told added ∨ told added = .ok .supported ∧ told more = .ok .notSupported := by
  intro told
  have htold : ∀ added, told added =
      .ok (.classify (Text.trim raw) (refusalPhrases ++ added)) :=
    fun added => support_ofReply_ok (refusalPhrases ++ added) issuedAt raw
  refine ⟨?_, ?_, ?_⟩
  · intro htrimmed
    rw [htold, Support.classify_trim]
    intro phrase hphrase
    rcases List.mem_append.1 hphrase with hphrase | hphrase
    · exact trimmed_of_mem_refusalPhrases phrase hphrase
    · exact htrimmed phrase hphrase
  · intro others h
    rw [htold, htold, Support.classify_congr h]
  · intro more h
    rw [htold, htold]
    have hmore : refusalPhrases ++ added ⊆ refusalPhrases ++ more :=
      List.append_subset.2 ⟨List.subset_append_left .., List.subset_append_of_subset_right _ h⟩
    by_cases hrefused : Support.classify (Text.trim raw) (refusalPhrases ++ added) = .notSupported
    · left
      rw [hrefused, Support.classify_of_subset hmore hrefused]
    · rw [Support.classify_ne_notSupported_iff.1 hrefused]
      by_cases hadded : Support.classify (Text.trim raw) (refusalPhrases ++ more) = .notSupported
      · right
        rw [hadded]
        exact ⟨rfl, rfl⟩
      · left
        rw [Support.classify_ne_notSupported_iff.1 hadded]

/-- A phrase that ends in a sigma is found before the blanks that end a reply.  The empty phrase and
the same phrase in small letters change nothing, nor does one that the reply does not hold. -/
theorem support_ofReply_blanks :
    let told := fun added : List String =>
      (ofReply (refusalPhrases ++ added) .epoch (.ok "\t USB: ΛΑΘΟΣ \r\n")).map (·.support)
    Text.Trimmed "ΛΑΘΟΣ".toList ∧ told ["ΛΑΘΟΣ"] = .ok .notSupported ∧
      told ["", "λαθος", "ΛΑΘΟΣ"] = told ["ΛΑΘΟΣ"] ∧ told ["ΛΑΘΟΣ", "HAL"] = told ["ΛΑΘΟΣ"] := by
  intro told
  obtain ⟨hblanks, hcongr, hmore⟩ := support_ofReply "\t USB: ΛΑΘΟΣ \r\n" ["ΛΑΘΟΣ"] .epoch
  have htrimmed : Text.Trimmed "ΛΑΘΟΣ".toList := by decide +kernel
  have hrefused : told ["ΛΑΘΟΣ"] = .ok .notSupported := by
    refine (hblanks (by simpa using htrimmed)).trans (congrArg _ ?_)
    decide +kernel
  have hsmall : Text.lower "λαθος".toList = Text.lower "ΛΑΘΟΣ".toList := by decide +kernel
  refine ⟨htrimmed, hrefused, (hcongr _ fun w => ?_).symm, ?_⟩
  · rw [Support.searched_append, Support.searched_append]
    refine or_congr_right ⟨?_, ?_⟩
    · rintro ⟨phrase, hphrase, hw⟩
      exact ⟨phrase, List.mem_cons_of_mem _ (List.mem_cons_of_mem _ hphrase), hw⟩
    · rintro ⟨phrase, hphrase, hne, rfl⟩
      rcases List.mem_cons.1 hphrase with rfl | hphrase
      · exact absurd rfl hne
      · rcases List.mem_cons.1 hphrase with rfl | hphrase
        · exact ⟨"ΛΑΘΟΣ", List.mem_singleton.2 rfl, by decide, hsmall.symm⟩
        · exact ⟨phrase, hphrase, hne, rfl⟩
  · refine (hmore ["ΛΑΘΟΣ", "HAL"] (by simp)).resolve_right fun h => ?_
    cases hrefused.symm.trans h.1

end Outcome

end ResetCheck
