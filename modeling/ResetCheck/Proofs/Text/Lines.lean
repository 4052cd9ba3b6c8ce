import ResetCheck.Proofs.Text.Blank

/-!
# Lines and fields

A text is cut into lines at its newlines, and a line into fields at its blanks.  Most readers of a
line take no notice of the blanks around it, a carriage return among them, and read nothing in a
line of blanks.  For such a reader the lines of a text are what stands between its newlines, and the
blanks around the whole text do not matter either.

* `Text.Heedless`: readers that take no notice of blanks around a line.
* `Text.Heedless.filterMap_lines`, `Text.Heedless.filterMap_trimChars`: what they read in a text.
* `Text.bareLines`: the lines of a text as they see them.
* `Text.infix_iff_exists_line`: what goes on in one line is found there.
* `Text.Word.exists_fields_two`: the first two fields of a line.
-/

namespace ResetCheck.Text

variable {before s after line : List Char}

/-! ## Lists of pieces -/

section Cons

variable {c : Char} {piece : List Char} {rest : List (List Char)}

theorem splitOn_newline (s : List Char) :
    ('\n' :: s).splitOn '\n' = [] :: s.splitOn '\n' := by
  rw [List.splitOn_cons_eq_if_modifyHead, if_pos (by rfl)]

theorem splitOn_cons_of_ne (hc : c ≠ '\n') (h : s.splitOn '\n' = piece :: rest) :
    (c :: s).splitOn '\n' = (c :: piece) :: rest := by
  rw [List.splitOn_cons_eq_if_modifyHead, if_neg (mt beq_iff_eq.1 hc), h, List.modifyHead_cons]

theorem splitNewlines_newline (s : List Char) :
    splitNewlines ('\n' :: s) = [] :: splitNewlines s :=
  rfl

theorem splitNewlines_cons_of_ne (hc : c ≠ '\n') (h : splitNewlines s = piece :: rest) :
    splitNewlines (c :: s) = (c :: piece) :: rest := by
  rw [splitNewlines] at h
  rw [splitNewlines, List.foldr_cons, if_neg hc, h]

end Cons

theorem splitNewlines_eq (s : List Char) : splitNewlines s = s.splitOn '\n' := by
  induction s with
  | nil => exact (List.splitOn_nil '\n').symm
  | cons c s ih =>
    by_cases hc : c = '\n'
    · rw [hc, splitNewlines_newline, splitOn_newline, ih]
    · obtain ⟨piece, rest, hpieces⟩ := List.exists_cons_of_ne_nil (List.splitOn_ne_nil '\n' s)
      rw [splitNewlines_cons_of_ne hc (ih.trans hpieces), splitOn_cons_of_ne hc hpieces]

/-- Where two texts meet, the last line of the one and the first of the other are one line. -/
theorem exists_splitOn_append (s t : List Char) :
    ∃ lines last first rest, s.splitOn '\n' = lines ++ [last] ∧ t.splitOn '\n' = first :: rest ∧
      (s ++ t).splitOn '\n' = lines ++ (last ++ first) :: rest := by
  obtain ⟨first, rest, ht⟩ := List.exists_cons_of_ne_nil (List.splitOn_ne_nil '\n' t)
  induction s with
  | nil => exact ⟨[], [], first, rest, List.splitOn_nil '\n', ht, ht⟩
  | cons c s ih =>
    obtain ⟨lines, last, first', rest', hs, ht', hst⟩ := ih
    obtain ⟨rfl, rfl⟩ := List.cons.inj (ht'.symm.trans ht)
    by_cases hc : c = '\n'
    · subst hc
      refine ⟨[] :: lines, last, first', rest', ?_, ht, ?_⟩
      · rw [splitOn_newline, hs, List.cons_append]
      · rw [List.cons_append, splitOn_newline, hst, List.cons_append]
    · cases lines with
      | nil =>
        exact ⟨[], c :: last, first', rest', splitOn_cons_of_ne hc hs, ht,
          splitOn_cons_of_ne hc hst⟩
      | cons line lines =>
        exact ⟨(c :: line) :: lines, last, first', rest', splitOn_cons_of_ne hc hs, ht,
          splitOn_cons_of_ne hc hst⟩

/-! ## What stands in a line -/

theorem prefix_of_splitOn {piece : List Char} {rest : List (List Char)}
    (h : s.splitOn '\n' = piece :: rest) : piece <+: s := by
  induction s generalizing piece rest with
  | nil =>
    obtain ⟨rfl, -⟩ := List.cons.inj ((List.splitOn_nil '\n').symm.trans h)
    exact List.prefix_rfl
  | cons c s ih =>
    by_cases hc : c = '\n'
    · rw [hc, splitOn_newline] at h
      obtain ⟨rfl, -⟩ := List.cons.inj h
      exact List.nil_prefix
    · obtain ⟨first, rest', hs⟩ := List.exists_cons_of_ne_nil (List.splitOn_ne_nil '\n' s)
      rw [splitOn_cons_of_ne hc hs] at h
      obtain ⟨rfl, -⟩ := List.cons.inj h
      exact List.cons_prefix_cons.2 ⟨rfl, ih hs⟩

theorem infix_of_mem_splitOn (h : line ∈ s.splitOn '\n') : line <:+: s := by
  induction s with
  | nil =>
    rw [List.splitOn_nil, List.mem_singleton] at h
    exact h ▸ List.infix_rfl
  | cons c s ih =>
    by_cases hc : c = '\n'
    · rw [hc, splitOn_newline, List.mem_cons] at h
      rcases h with rfl | h
      · exact List.nil_infix
      · exact List.infix_cons (ih h)
    · obtain ⟨first, rest, hs⟩ := List.exists_cons_of_ne_nil (List.splitOn_ne_nil '\n' s)
      have hfirst := splitOn_cons_of_ne hc hs
      rw [hfirst, List.mem_cons] at h
      rcases h with rfl | h
      · exact (prefix_of_splitOn hfirst).isInfix
      · exact List.infix_cons (ih (hs ▸ List.mem_cons_of_mem _ h))

/-- A text without newlines is found in a text if and only if it is found in one of its lines. -/
theorem infix_iff_exists_line {p : List Char} (hp : '\n' ∉ p) :
    p <:+: s ↔ ∃ line ∈ s.splitOn '\n', p <:+: line := by
  constructor
  · rintro ⟨front, back, rfl⟩
    obtain ⟨lines, last, first, rest, hplain, -, hback⟩ := exists_splitOn_append p back
    rw [List.splitOn_eq_singleton hp] at hplain
    obtain ⟨rfl, rfl⟩ : lines = [] ∧ last = p := by
      cases lines with
      | nil => exact ⟨rfl, (List.cons.inj hplain).1.symm⟩
      | cons line lines => simp at hplain
    obtain ⟨lines', last', first', rest', -, hfirst, hfront⟩ :=
      exists_splitOn_append front (last ++ back)
    obtain ⟨rfl, -⟩ := List.cons.inj (hback.symm.trans hfirst)
    refine ⟨last' ++ (last ++ first), ?_, ?_⟩
    · rw [List.append_assoc, hfront]
      exact List.mem_append_right _ List.mem_cons_self
    · rw [← List.append_assoc]
      exact List.infix_append _ _ _
  · rintro ⟨line, hline, h⟩
    exact h.trans (infix_of_mem_splitOn hline)

theorem Blank.of_mem_splitOn (h : Blank s) (hline : line ∈ s.splitOn '\n') : Blank line :=
  fun c hc => h c ((infix_of_mem_splitOn hline).subset hc)

/-! ## Readers of lines -/

theorem blank_nil : Blank [] :=
  List.forall_mem_nil _

theorem trimChars_of_blank (h : Blank s) : trimChars s = [] :=
  trimChars_eq_iff.2 ⟨by decide, s, [], by simp, h, blank_nil⟩

theorem trimChars_trimChars (s : List Char) : trimChars (trimChars s) = trimChars s := by
  have h := (trimmed_trimChars s).trimChars_append blank_nil blank_nil
  rwa [List.nil_append, List.append_nil] at h

theorem trimChars_padded (s : List Char) (hbefore : Blank before) (hafter : Blank after) :
    trimChars (before ++ s ++ after) = trimChars s := by
  obtain ⟨front, back, hs, hfront, hback⟩ := padded_trimChars s
  refine trimChars_eq_iff.2 ⟨trimmed_trimChars s, before ++ front, back ++ after, ?_, ?_, ?_⟩
  · rw [congrArg (before ++ · ++ after) hs]
    simp only [List.append_assoc]
  · exact fun c hc => (List.mem_append.1 hc).elim (hbefore c) (hfront c)
  · exact fun c hc => (List.mem_append.1 hc).elim (hback c) (hafter c)

/-- Where a text without blanks at its ends stands at the front of a line, trimming leaves it. -/
theorem Trimmed.trimChars_indented {w : List Char} (h : Trimmed w) (hne : w ≠ [])
    (hbefore : Blank before) (rest : List Char) :
    trimChars (before ++ (w ++ rest)) = w ++ trimEnd rest := by
  have hfront : trimStart (w ++ rest) = w ++ rest := by
    obtain ⟨c, w, rfl⟩ := List.exists_cons_of_ne_nil hne
    exact trimStart_of_first fun d hd => h.first d hd
  have hback : w.reverse.dropWhile isBlank = w.reverse := trimStart_of_first h.reverse.first
  rw [trimChars, trimStart_append hbefore, hfront, trimEnd, List.reverse_append,
    List.dropWhile_append, trimEnd]
  by_cases hrest : rest.reverse.dropWhile isBlank = []
  · rw [hrest, List.isEmpty_nil, if_pos rfl, hback, List.reverse_reverse, List.reverse_nil,
      List.append_nil]
  · rw [if_neg (by simpa using hrest), List.reverse_append, List.reverse_reverse]

theorem trimEnd_prefix (s : List Char) : trimEnd s <+: s := by
  obtain ⟨after, -, hs⟩ := exists_blank_trimEnd s
  exact ⟨after, hs.symm⟩

/-- The lines of a text without the blanks around them, and without those that are blank. -/
def bareLines (s : List Char) : List (List Char) :=
  ((s.splitOn '\n').map trimChars).filter (!·.isEmpty)

/-- Whether a reader of a line takes no notice of the blanks around it, and reads nothing in a line
of blanks. -/
structure Heedless {α : Type} (f : List Char → Option α) : Prop where
  trim : ∀ line, f line = f (trimChars line)
  nil : f [] = none

namespace Heedless

variable {α : Type} {f : List Char → Option α}

theorem padded (hf : Heedless f) (s : List Char) (hbefore : Blank before) (hafter : Blank after) :
    f (before ++ s ++ after) = f s := by
  rw [hf.trim, trimChars_padded s hbefore hafter, ← hf.trim]

theorem append_blank (hf : Heedless f) (s : List Char) (hafter : Blank after) :
    f (s ++ after) = f s :=
  hf.padded s blank_nil hafter

theorem blank_append (hf : Heedless f) (s : List Char) (hbefore : Blank before) :
    f (before ++ s) = f s := by
  have h := hf.padded s hbefore blank_nil
  rwa [List.append_nil] at h

theorem of_blank (hf : Heedless f) (h : Blank s) : f s = none := by
  rw [hf.trim, trimChars_of_blank h, hf.nil]

theorem dropReturn (hf : Heedless f) (line : List Char) : f (dropReturn line) = f line := by
  rw [Text.dropReturn]
  split
  · next hreturn =>
    obtain ⟨front, rfl⟩ := List.getLast?_eq_some_iff.1 hreturn
    have hblank : Blank ['\r'] := by decide +kernel
    rw [List.dropLast_concat, hf.append_blank front hblank]
  · rfl

/-- What is read in the lines of a text is what is read between its newlines. -/
theorem filterMap_lines (hf : Heedless f) (s : List Char) :
    (lines s).filterMap f = (s.splitOn '\n').filterMap f := by
  have hreturns : f ∘ Text.dropReturn = f := funext hf.dropReturn
  obtain ⟨pieces, last, hs⟩ : ∃ pieces last, s.splitOn '\n' = pieces ++ [last] := by
    obtain ⟨pieces, last, -, -, hs, -⟩ := exists_splitOn_append s []
    exact ⟨pieces, last, hs⟩
  rw [lines, splitNewlines_eq, hs, List.getLast?_concat, List.dropLast_concat,
    List.filterMap_append]
  cases last with
  | nil => rw [List.filterMap_map, hreturns, List.filterMap_cons_none hf.nil, List.filterMap_nil,
      List.append_nil]
  | cons c last => rw [List.filterMap_append, List.filterMap_map, hreturns, Option.toList_some]

theorem filterMap_of_blank (hf : Heedless f) {pieces : List (List Char)}
    (h : ∀ line ∈ pieces, Blank line) : pieces.filterMap f = [] :=
  List.filterMap_eq_nil_iff.2 fun line hline => hf.of_blank (h line hline)

theorem filterMap_blank_append (hf : Heedless f) (hbefore : Blank before) (s : List Char) :
    ((before ++ s).splitOn '\n').filterMap f = (s.splitOn '\n').filterMap f := by
  obtain ⟨pieces, last, first, rest, hpieces, hs, happend⟩ := exists_splitOn_append before s
  have hblank : ∀ line ∈ pieces ++ [last], Blank line :=
    fun line hline => hbefore.of_mem_splitOn (hpieces ▸ hline)
  rw [List.forall_mem_append, List.forall_mem_singleton] at hblank
  rw [happend, hs, List.filterMap_append, hf.filterMap_of_blank hblank.1, List.nil_append,
    List.filterMap_cons, List.filterMap_cons, hf.blank_append first hblank.2]

theorem filterMap_append_blank (hf : Heedless f) (s : List Char) (hafter : Blank after) :
    ((s ++ after).splitOn '\n').filterMap f = (s.splitOn '\n').filterMap f := by
  obtain ⟨pieces, last, first, rest, hs, hpieces, happend⟩ := exists_splitOn_append s after
  have hblank : ∀ line ∈ first :: rest, Blank line :=
    fun line hline => hafter.of_mem_splitOn (hpieces ▸ hline)
  rw [List.forall_mem_cons] at hblank
  rw [happend, hs, List.filterMap_append, List.filterMap_append, List.filterMap_cons,
    hf.append_blank last hblank.1, hf.filterMap_of_blank hblank.2, List.filterMap_cons,
    List.filterMap_nil]

/-- The blanks around a text do not matter. -/
theorem filterMap_trimChars (hf : Heedless f) (s : List Char) :
    ((trimChars s).splitOn '\n').filterMap f = (s.splitOn '\n').filterMap f := by
  obtain ⟨before, after, hs, hbefore, hafter⟩ := padded_trimChars s
  calc ((trimChars s).splitOn '\n').filterMap f
      = ((before ++ trimChars s).splitOn '\n').filterMap f :=
        (hf.filterMap_blank_append hbefore _).symm
    _ = ((before ++ trimChars s ++ after).splitOn '\n').filterMap f :=
        (hf.filterMap_append_blank _ hafter).symm
    _ = (s.splitOn '\n').filterMap f := by rw [← hs]

/-- Nor do the blanks around each line, nor the blank lines. -/
theorem filterMap_bareLines (hf : Heedless f) (s : List Char) :
    (bareLines s).filterMap f = (s.splitOn '\n').filterMap f := by
  rw [bareLines, List.filterMap_filter, List.filterMap_map]
  congr 1
  funext line
  by_cases hline : trimChars line = []
  · rw [Function.comp_apply, hf.trim line, hline]
    exact hf.nil.symm
  · rw [Function.comp_apply, if_pos (by simpa using hline), ← hf.trim]

theorem findSome?_bareLines (hf : Heedless f) (s : List Char) :
    (bareLines s).findSome? f = (s.splitOn '\n').findSome? f := by
  rw [← List.head?_filterMap, ← List.head?_filterMap, hf.filterMap_bareLines]

theorem findSome?_lines_trimChars (hf : Heedless f) (s : List Char) :
    (lines (trimChars s)).findSome? f = (s.splitOn '\n').findSome? f := by
  rw [← List.head?_filterMap, ← List.head?_filterMap, hf.filterMap_lines, hf.filterMap_trimChars]

end Heedless

/-! ## Fields -/

/-- Whether a text can stand as one field: it is not empty and holds no blank. -/
structure Word (w : List Char) : Prop where
  ne_nil : w ≠ []
  solid : ∀ c ∈ w, ¬isBlank c

instance (w : List Char) : Decidable (Word w) :=
  decidable_of_iff (w ≠ [] ∧ ¬w.any isBlank)
    ⟨fun h => ⟨h.1, by simpa using h.2⟩, fun h => ⟨h.ne_nil, by simpa using h.solid⟩⟩

theorem Word.trimmed {w : List Char} (h : Word w) : Trimmed w where
  first c hc := h.solid c (List.mem_of_head? hc)
  last c hc := h.solid c (List.mem_of_getLast? hc)

/-- What a character does to the piece in hand and the pieces behind it. -/
def cutStep (sep : Char → Bool) (c : Char) (st : List Char × List (List Char)) :
    List Char × List (List Char) :=
  if sep c then ([], if st.1.isEmpty then st.2 else st.1 :: st.2) else (c :: st.1, st.2)

theorem piecesOf_eq_foldr (sep : Char → Bool) (s : List Char) :
    piecesOf sep s =
      let st := s.foldr (cutStep sep) ([], [])
      if st.1.isEmpty then st.2 else st.1 :: st.2 := rfl

/-- The piece in hand is the first one, and empty ones are missing only among the others. -/
theorem exists_splitOnP (sep : Char → Bool) (s : List Char) :
    ∃ rest, s.splitOnP sep = (s.foldr (cutStep sep) ([], [])).1 :: rest ∧
      (s.foldr (cutStep sep) ([], [])).2 = rest.filter (!·.isEmpty) := by
  induction s with
  | nil => exact ⟨[], List.splitOnP_nil, rfl⟩
  | cons c s ih =>
    obtain ⟨rest, hfirst, hrest⟩ := ih
    rw [List.splitOnP_cons_eq_if_modifyHead, hfirst, List.foldr_cons, cutStep]
    by_cases hc : sep c
    · rw [if_pos hc, if_pos hc]
      refine ⟨_, rfl, ?_⟩
      rw [List.filter_cons, hrest]
      cases List.isEmpty _ <;> rfl
    · rw [if_neg hc, if_neg hc]
      exact ⟨rest, List.modifyHead_cons, hrest⟩

theorem piecesOf_eq (sep : Char → Bool) (s : List Char) :
    piecesOf sep s = (s.splitOnP sep).filter (!·.isEmpty) := by
  obtain ⟨rest, hfirst, hrest⟩ := exists_splitOnP sep s
  rw [hfirst, List.filter_cons, ← hrest, piecesOf_eq_foldr]
  dsimp only
  cases List.isEmpty _ <;> rfl

theorem fields_append_cons {c : Char} (hc : isBlank c) (s t : List Char) :
    fields (s ++ c :: t) = fields s ++ fields t := by
  rw [fields, piecesOf_eq, List.splitOnP_append_cons s t hc, List.filter_append, fields, fields,
    piecesOf_eq, piecesOf_eq]

theorem Word.fields_eq {w : List Char} (h : Word w) : fields w = [w] := by
  have hplain : ∀ c ∈ w, isBlank c = false := fun c hc => Bool.eq_false_iff.2 (h.solid c hc)
  have hsome : w.isEmpty = false := by simpa using h.ne_nil
  rw [fields, piecesOf_eq, List.splitOnP_eq_singleton hplain]
  simp [hsome]

theorem fields_blank_append (hbefore : Blank before) (s : List Char) :
    fields (before ++ s) = fields s := by
  induction before with
  | nil => rfl
  | cons c before ih =>
    obtain ⟨hc, hrest⟩ := List.forall_mem_cons.1 hbefore
    rw [List.cons_append, ← ih hrest]
    exact fields_append_cons hc [] (before ++ s)

/-- The fields of a line that begins with a word. -/
theorem Word.exists_fields {w : List Char} (h : Word w) {rest : List Char}
    (hrest : ∀ c, rest.head? = some c → isBlank c) : ∃ more, fields (w ++ rest) = w :: more := by
  cases rest with
  | nil => exact ⟨[], by rw [List.append_nil, h.fields_eq]⟩
  | cons c rest => exact ⟨fields rest, by rw [fields_append_cons (hrest c rfl), h.fields_eq]; rfl⟩

/-- The fields of a line that begins with two words. -/
theorem Word.exists_fields_two {w v gap : List Char} (hw : Word w) (hv : Word v) (hgap : Blank gap)
    (hne : gap ≠ []) {rest : List Char} (hrest : ∀ c, rest.head? = some c → isBlank c) :
    ∃ more, fields (w ++ gap ++ v ++ rest) = w :: v :: more := by
  obtain ⟨c, gap, rfl⟩ := List.exists_cons_of_ne_nil hne
  obtain ⟨hc, hgap⟩ := List.forall_mem_cons.1 hgap
  obtain ⟨more, hmore⟩ := hv.exists_fields hrest
  refine ⟨more, ?_⟩
  calc fields (w ++ c :: gap ++ v ++ rest)
      = fields (w ++ c :: (gap ++ (v ++ rest))) := by simp
    _ = fields w ++ fields (gap ++ (v ++ rest)) := fields_append_cons hc _ _
    _ = w :: v :: more := by rw [hw.fields_eq, fields_blank_append hgap, hmore]; rfl

end ResetCheck.Text
