import ResetCheck.Text.Blank

/-!
# Blanks at the ends of a text

Trimming takes the blanks off both ends of a text and nothing else.  What it leaves is the only
text without blanks at its ends that, with blanks put around it, gives the text back.

* `Text.Trimmed`: texts that neither begin nor end with a blank.
* `Text.trimChars_eq_iff`: what trimming leaves of a text.
* `Text.infix_padded_iff`: blanks around a text hold no more of such texts than the text does.
-/

namespace ResetCheck.Text

/-- Whether a text consists of blanks. -/
def Blank (s : List Char) : Prop :=
  ∀ c ∈ s, isBlank c

instance (s : List Char) : Decidable (Blank s) :=
  decidable_of_iff (s.all isBlank) List.all_eq_true

/-- Whether a text neither begins nor ends with a blank. -/
structure Trimmed (s : List Char) : Prop where
  first : ∀ c, s.head? = some c → ¬isBlank c
  last : ∀ c, s.getLast? = some c → ¬isBlank c

theorem trimmed_iff {s : List Char} :
    Trimmed s ↔ ¬s.head?.any isBlank ∧ ¬s.getLast?.any isBlank := by
  simp only [Option.any_eq_true, not_exists, not_and]
  exact ⟨fun h => ⟨h.first, h.last⟩, fun h => ⟨h.1, h.2⟩⟩

instance (s : List Char) : Decidable (Trimmed s) :=
  decidable_of_iff _ trimmed_iff.symm

/-- Whether a text is another one with blanks around it, or that one itself. -/
def Padded (s padded : List Char) : Prop :=
  ∃ before after, padded = before ++ s ++ after ∧ Blank before ∧ Blank after

variable {before s after : List Char}

theorem Blank.reverse (h : Blank s) : Blank s.reverse := by
  intro c hc
  exact h c (List.mem_reverse.1 hc)

theorem Trimmed.reverse (h : Trimmed s) : Trimmed s.reverse where
  first := by simpa using h.last
  last := by simpa using h.first

/-! ## Trimming one end -/

theorem trimStart_append (h : Blank before) (s : List Char) :
    trimStart (before ++ s) = trimStart s := by
  induction before with
  | nil => rfl
  | cons c before ih =>
    obtain ⟨hc, hbefore⟩ := List.forall_mem_cons.1 h
    rw [← ih hbefore, trimStart, List.cons_append, List.dropWhile_cons_of_pos hc]
    rfl

theorem trimStart_of_first (h : ∀ c, s.head? = some c → ¬isBlank c) : trimStart s = s := by
  cases s with
  | nil => rfl
  | cons c s => exact List.dropWhile_cons_of_neg (h c rfl)

theorem exists_blank_trimStart (s : List Char) :
    ∃ before, Blank before ∧ s = before ++ trimStart s := by
  refine ⟨s.takeWhile isBlank, ?_, List.takeWhile_append_dropWhile.symm⟩
  intro c hc
  exact List.all_eq_true.1 List.all_takeWhile c hc

theorem trimStart_first (s : List Char) : ∀ c, (trimStart s).head? = some c → ¬isBlank c := by
  intro c hc
  have hhead := List.head?_dropWhile_not isBlank s
  rw [trimStart] at hc
  simpa [hc] using hhead

theorem trimEnd_eq (s : List Char) : trimEnd s = (trimStart s.reverse).reverse := rfl

theorem exists_blank_trimEnd (s : List Char) :
    ∃ after, Blank after ∧ s = trimEnd s ++ after := by
  obtain ⟨before, hbefore, hs⟩ := exists_blank_trimStart s.reverse
  refine ⟨before.reverse, hbefore.reverse, ?_⟩
  rw [trimEnd_eq, ← List.reverse_append, ← hs, List.reverse_reverse]

/-! ## Trimming both ends -/

/-- Trimming takes nothing off but blanks. -/
theorem padded_trimChars (s : List Char) : Padded (trimChars s) s := by
  obtain ⟨before, hbefore, hs⟩ := exists_blank_trimStart s
  obtain ⟨after, hafter, hstart⟩ := exists_blank_trimEnd (trimStart s)
  refine ⟨before, after, ?_, hbefore, hafter⟩
  rw [List.append_assoc, trimChars, ← hstart, ← hs]

theorem trimmed_trimChars (s : List Char) : Trimmed (trimChars s) where
  first := by
    intro c hc
    obtain ⟨after, -, hstart⟩ := exists_blank_trimEnd (trimStart s)
    apply trimStart_first s c
    rw [hstart, List.head?_append, ← trimChars, hc]
    rfl
  last := by
    intro c hc
    rw [trimChars, trimEnd_eq, List.getLast?_reverse] at hc
    exact trimStart_first _ c hc

/-- Blanks around a text without blanks at its ends are all that is taken off. -/
theorem Trimmed.trimChars_append (h : Trimmed s) (hbefore : Blank before) (hafter : Blank after) :
    trimChars (before ++ s ++ after) = s := by
  rw [trimChars, List.append_assoc, trimStart_append hbefore]
  cases s with
  | nil =>
    rw [← List.append_nil after, List.nil_append, trimStart_append hafter]
    rfl
  | cons c s =>
    have hstart : trimStart (c :: s ++ after) = c :: s ++ after :=
      trimStart_of_first fun d hd => h.first d hd
    rw [hstart, trimEnd_eq, List.reverse_append, trimStart_append hafter.reverse,
      trimStart_of_first h.reverse.first, List.reverse_reverse]

/-- What trimming leaves of a text. -/
theorem trimChars_eq_iff {padded : List Char} :
    trimChars padded = s ↔ Trimmed s ∧ Padded s padded := by
  constructor
  · rintro rfl
    exact ⟨trimmed_trimChars padded, padded_trimChars padded⟩
  · rintro ⟨h, before, after, rfl, hbefore, hafter⟩
    exact h.trimChars_append hbefore hafter

/-! ## Texts among blanks -/

theorem infix_append_blank_iff {p : List Char} (hp : ∀ c, p.head? = some c → ¬isBlank c)
    (hbefore : Blank before) : p <:+: before ++ s ↔ p <:+: s := by
  induction before with
  | nil => rfl
  | cons c before ih =>
    obtain ⟨hc, hrest⟩ := List.forall_mem_cons.1 hbefore
    rw [List.cons_append, List.infix_cons_iff, ih hrest]
    cases p with
    | nil => simp
    | cons a p =>
      have hfront : ¬a :: p <+: c :: (before ++ s) := by
        intro h
        obtain ⟨rfl, -⟩ := List.cons_prefix_cons.1 h
        exact hp a rfl hc
      simp only [hfront, false_or]

/-- A text without blanks at its ends is found among blanks if and only if it is found between
them. -/
theorem infix_padded_iff {p : List Char} (hp : Trimmed p) (hbefore : Blank before)
    (hafter : Blank after) : p <:+: before ++ s ++ after ↔ p <:+: s := by
  rw [List.append_assoc, infix_append_blank_iff hp.first hbefore, ← List.reverse_infix,
    List.reverse_append, infix_append_blank_iff hp.reverse.first hafter.reverse,
    List.reverse_infix]

end ResetCheck.Text
