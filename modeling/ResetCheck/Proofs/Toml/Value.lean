import ResetCheck.Proofs.Toml.Text

/-!
# Values of assignments

Texts, integers and lists of texts are read back from what is written for them, as long as a newline
follows.  An integer is written in digits without a leading zero, so nothing that is tried before
integers takes it.

* `Plain`: these values.
* `Numeral.scalar?`: integers are read back.
* `value?_of_texts`: lists of texts are read back, in each of the forms in which they are written.
* `value?_of_plain`: what is written for a value, and that it is read back.
-/

namespace ResetCheck.Toml

/-! ## Digits -/

theorem isDigit_of_mem_toDigits {n : Nat} {c : Char} (h : c ∈ Nat.toDigits 10 n) :
    Text.isDigit c := by
  have hdigit := Nat.isDigit_of_mem_toDigits (by decide) (by decide) h
  simpa [Text.isDigit, Char.isDigit, Char.le_def] using hdigit

theorem digitsValue_toDigits (n : Nat) : Text.digitsValue (Nat.toDigits 10 n) = n :=
  Nat.ofDigitChars_ten_toDigits

theorem head?_toDigits {n : Nat} (h : n ≠ 0) : (Nat.toDigits 10 n).head? ≠ some '0' := by
  induction n using Nat.strongRecOn with
  | ind n ih =>
    by_cases hlt : n < 10
    · have hdigit : ∀ k < 10, k ≠ 0 → k.digitChar ≠ '0' := by decide
      rw [Nat.toDigits_of_lt_base hlt]
      exact fun heq => hdigit n hlt h (Option.some.inj heq)
    · have hsmaller := ih (n / 10) (by omega) (by omega)
      obtain ⟨c, t, hdigits⟩ :=
        List.exists_cons_of_ne_nil (Nat.toDigits_ne_nil (n := n / 10) (b := 10))
      rw [Nat.toDigits_of_base_le (by decide) (Nat.not_lt.1 hlt), hdigits, List.cons_append]
      rwa [hdigits] at hsmaller

theorem moreDigits_append {digits : List Char} (h : ∀ c ∈ digits, Text.isDigit c)
    (rest : List Char) :
    moreDigits Text.isDigit (digits ++ '\n' :: rest) = (digits, '\n' :: rest) := by
  induction digits with
  | nil => rfl
  | cons c digits ih =>
    have hc : Text.isDigit c := h c List.mem_cons_self
    have hunder : c ≠ '_' := by
      rintro rfl
      exact absurd hc (by decide)
    rw [List.cons_append, moreDigits.eq_def]
    split
    · next heq => exact absurd (List.cons.inj heq).1 hunder
    · next heq =>
      obtain ⟨rfl, rfl⟩ := List.cons.inj heq
      rw [if_pos hc, ih fun d hd => h d (List.mem_cons_of_mem _ hd)]
    · next heq => cases heq

/-- Digits of a fixed number are digits before the newline. -/
theorem drop_of_fixedDigits? {digits rest s : List Char} {k low high value : Nat}
    (hfixed : fixedDigits? k low high (digits ++ '\n' :: rest) = some (value, s)) :
    k ≤ digits.length ∧ s = (digits ++ '\n' :: rest).drop k := by
  rw [fixedDigits?] at hfixed
  dsimp only at hfixed
  split at hfixed
  · next hdigits =>
    split at hfixed
    · refine ⟨Nat.not_lt.1 fun hlt => ?_, (Prod.mk.inj (Option.some.inj hfixed)).2.symm⟩
      -- beyond the digits, a newline would have to be one of them
      have hmem : '\n' ∈ (digits ++ '\n' :: rest).take k := by
        rw [List.take_append, List.mem_append]
        refine .inr ?_
        obtain ⟨j, hj⟩ : ∃ j, k - digits.length = j + 1 := ⟨k - digits.length - 1, by omega⟩
        rw [hj, List.take_succ_cons]
        exact List.mem_cons_self
      exact absurd (List.all_eq_true.1 hdigits.2 _ hmem) (by decide)
    · cases hfixed
  · cases hfixed

/-- Whether a text is what is written for a natural number. -/
structure Numeral (digits : List Char) (n : Nat) : Prop where
  ne_nil : digits ≠ []
  isDigit : ∀ c ∈ digits, Text.isDigit c
  value : Text.digitsValue digits = n
  leading : digits = ['0'] ∨ digits.head? ≠ some '0'

theorem numeral_toDigits (n : Nat) : Numeral (Nat.toDigits 10 n) n where
  ne_nil := Nat.toDigits_ne_nil
  isDigit _ := isDigit_of_mem_toDigits
  value := digitsValue_toDigits n
  leading := by
    by_cases h : n = 0
    · subst h
      exact .inl rfl
    · exact .inr (head?_toDigits h)

section Numeral

variable {digits : List Char} {n : Nat} (h : Numeral digits n) (rest : List Char)

include h

theorem Numeral.exists_cons :
    ∃ c t, digits = c :: t ∧ Text.isDigit c ∧ ∀ d ∈ t, Text.isDigit d := by
  obtain ⟨c, t, rfl⟩ := List.exists_cons_of_ne_nil h.ne_nil
  exact ⟨c, t, rfl, List.forall_mem_cons.1 h.isDigit⟩

theorem Numeral.wholeDigits? :
    wholeDigits? (digits ++ '\n' :: rest) = some (digits, '\n' :: rest) := by
  obtain ⟨c, t, rfl, hc, ht⟩ := h.exists_cons
  rcases h.leading with hzero | hleading
  · rw [hzero]
    rfl
  · rw [List.cons_append, Toml.wholeDigits?.eq_def]
    split
    · next heq => exact absurd (congrArg some (List.cons.inj heq).1) hleading
    · rw [digitGroup?, if_pos hc, moreDigits_append ht]

theorem Numeral.sign : sign (digits ++ '\n' :: rest) = (false, digits ++ '\n' :: rest) := by
  obtain ⟨c, t, rfl, hc, -⟩ := h.exists_cons
  rw [List.cons_append, Toml.sign.eq_def]
  split
  · next heq => exact absurd ((List.cons.inj heq).1 ▸ hc) (by decide)
  · next heq => exact absurd ((List.cons.inj heq).1 ▸ hc) (by decide)
  · rfl

/-- What follows on some of the digits is a digit or a newline. -/
theorem Numeral.exactly?_drop {c : Char} (hdigit : ¬Text.isDigit c) (hnewline : c ≠ '\n') {k : Nat}
    (hk : k ≤ digits.length) : exactly? c ((digits ++ '\n' :: rest).drop k) = none := by
  rw [List.drop_append_of_le_length hk]
  cases hd : digits.drop k with
  | nil => exact if_neg hnewline.symm
  | cons d t =>
    have hmem : d ∈ digits := List.mem_of_mem_drop (hd ▸ List.mem_cons_self)
    refine if_neg ?_
    rintro rfl
    exact hdigit (h.isDigit d hmem)

theorem Numeral.moment? : moment? (digits ++ '\n' :: rest) = none := by
  have hdate : date? (digits ++ '\n' :: rest) = none := by
    rw [date?]
    cases hyear : fixedDigits? 4 0 9999 (digits ++ '\n' :: rest) with
    | none => rfl
    | some year =>
      obtain ⟨hk, hs⟩ := drop_of_fixedDigits? hyear
      have hdash := h.exactly?_drop rest (c := '-') (by decide) (by decide) hk
      rw [← hs] at hdash
      show (exactly? '-' year.2).bind _ = none
      rw [hdash]
      rfl
  have htime : time? (digits ++ '\n' :: rest) = none := by
    rw [time?]
    cases hhour : fixedDigits? 2 0 23 (digits ++ '\n' :: rest) with
    | none => rfl
    | some hour =>
      obtain ⟨hk, hs⟩ := drop_of_fixedDigits? hhour
      have hcolon := h.exactly?_drop rest (c := ':') (by decide) (by decide) hk
      rw [← hs] at hcolon
      show (exactly? ':' hour.2).bind _ = none
      rw [hcolon]
      rfl
  rw [Toml.moment?, momentEnd?, hdate, htime]
  rfl

theorem Numeral.real? : real? (digits ++ '\n' :: rest) = none := by
  have hdecimal : decimalReal? false (digits ++ '\n' :: rest) = none := by
    rw [decimalReal?, h.wholeDigits? rest]
    rfl
  have hspecial : specialReal? false (digits ++ '\n' :: rest) = none := by
    obtain ⟨c, t, rfl, hc, -⟩ := h.exists_cons
    rw [List.cons_append, specialReal?.eq_def]
    split
    · next heq => exact absurd ((List.cons.inj heq).1 ▸ hc) (by decide)
    · next heq => exact absurd ((List.cons.inj heq).1 ▸ hc) (by decide)
    · rfl
  rw [Toml.real?, h.sign rest]
  show (decimalReal? false _ <|> specialReal? false _) = none
  rw [hdecimal, hspecial]
  rfl

theorem Numeral.integer? (hn : n < Text.signedBound) :
    integer? (digits ++ '\n' :: rest) = some (.int n, '\n' :: rest) := by
  obtain ⟨c, t, hcons, hc, ht⟩ := h.exists_cons
  -- a second character is a digit or a newline
  have hsecond : ∀ d u, ¬Text.isDigit d → d ≠ '\n' → digits ++ '\n' :: rest ≠ '0' :: d :: u := by
    intro d u hdigit hnewline heq
    rw [hcons, List.cons_append] at heq
    obtain ⟨-, heq⟩ := List.cons.inj heq
    cases t with
    | nil => exact hnewline (List.cons.inj heq).1.symm
    | cons e t => exact hdigit ((List.cons.inj heq).1 ▸ ht e List.mem_cons_self)
  rw [Toml.integer?.eq_def]
  split
  · next heq => exact absurd heq (hsecond _ _ (by decide) (by decide))
  · next heq => exact absurd heq (hsecond _ _ (by decide) (by decide))
  · next heq => exact absurd heq (hsecond _ _ (by decide) (by decide))
  · rw [h.sign rest]
    show (Toml.wholeDigits? _).bind _ = _
    rw [h.wholeDigits? rest]
    show (if Text.digitsValue digits < Text.signedBound then _ else _) = _
    rw [h.value, if_pos hn]

/-- A number is read back up to the end of its line. -/
theorem Numeral.scalar? (hn : n < Text.signedBound) :
    scalar? (digits ++ '\n' :: rest) = some (.int n, '\n' :: rest) := by
  obtain ⟨c, t, hcons, hc, -⟩ := h.exists_cons
  have hfirst : ∀ d u, ¬Text.isDigit d → digits ++ '\n' :: rest ≠ d :: u := by
    intro d u hdigit heq
    rw [hcons, List.cons_append] at heq
    exact hdigit ((List.cons.inj heq).1 ▸ hc)
  have hunquoted : ¬((digits ++ '\n' :: rest).head? = some '"' ||
      (digits ++ '\n' :: rest).head? = some '\'') := by
    rw [hcons, List.cons_append, List.head?_cons]
    simp only [Option.some.injEq, Bool.or_eq_true, decide_eq_true_eq, not_or]
    constructor
    · rintro rfl
      exact absurd hc (by decide)
    · rintro rfl
      exact absurd hc (by decide)
  rw [Toml.scalar?.eq_def]
  split
  · next heq => exact absurd heq (hfirst _ _ (by decide))
  · next heq => exact absurd heq (hfirst _ _ (by decide))
  · rw [if_neg hunquoted, h.moment? rest, h.real? rest, h.integer? rest hn]
    rfl

end Numeral

/-! ## Gaps between values -/

/-- Whether a character begins something other than a gap: no blank, newline or comment. -/
def IsSolid (c : Char) : Prop :=
  IsMark c ∧ c ≠ '#'

instance (c : Char) : Decidable (IsSolid c) :=
  inferInstanceAs (Decidable (IsMark c ∧ c ≠ '#'))

section Solid

variable {c : Char} (h : IsSolid c) (s : List Char)

include h

theorem skipBlanks_of_solid (k : Nat) : skipBlanks (List.replicate k ' ' ++ c :: s) = c :: s := by
  have hblank : ∀ d ∈ List.replicate k ' ', isBlankChar d = true := fun d hd => by
    rw [List.eq_of_mem_replicate hd]
    rfl
  rw [skipBlanks, List.dropWhile_append_of_pos hblank]
  exact List.dropWhile_cons_of_neg h.1.1

theorem skipBlanks_solid : skipBlanks (c :: s) = c :: s :=
  skipBlanks_of_solid h s 0

theorem skipComment_of_solid : skipComment (c :: s) = c :: s := by
  rw [skipComment.eq_def]
  split
  · next heq => exact absurd (List.cons.inj heq).1 h.2
  · rfl

theorem newline?_of_solid : newline? (c :: s) = none :=
  newline?_of_isMark h.1 s

theorem skipGaps_of_solid (fuel k : Nat) :
    skipGaps (fuel + 1) (List.replicate k ' ' ++ c :: s) = c :: s := by
  rw [skipGaps, skipBlanks_of_solid h, skipComment_of_solid h, newline?_of_solid h]

theorem skipAllGaps_of_solid : skipAllGaps (c :: s) = c :: s :=
  skipGaps_of_solid h s _ 0

theorem skipAllGaps_newline (k : Nat) :
    skipAllGaps ('\n' :: (List.replicate k ' ' ++ c :: s)) = c :: s :=
  skipGaps_of_solid h s _ k

end Solid

/-! ## Texts and lists of texts -/

theorem textLiteral_cons (s : List Char) :
    ∃ quote t, textLiteral s = quote :: t ∧ (quote = '"' ∨ quote = '\'') := by
  rw [textLiteral]
  cases quoting s with
  | basic => exact ⟨_, _, rfl, .inl rfl⟩
  | literal => exact ⟨_, _, rfl, .inr rfl⟩
  | longBasic => exact ⟨_, _, rfl, .inl rfl⟩
  | longLiteral => exact ⟨_, _, rfl, .inr rfl⟩

theorem value?_eq_scalar? (levels : Nat) {c : Char} (hlist : c ≠ '[') (htable : c ≠ '{')
    (s : List Char) : value? levels (c :: s) = scalar? (c :: s) := by
  rw [value?.eq_def]
  split
  · rfl
  split
  · next heq => exact absurd (List.cons.inj heq).1 hlist
  · next heq => exact absurd (List.cons.inj heq).1 htable
  · rfl

theorem scalar?_textLiteral (s : List Char) {rest : List Char} (hrest : Unquoted rest) :
    scalar? (textLiteral s ++ rest) = some (.text (String.ofList s), rest) := by
  have htext := text?_textLiteral s hrest
  obtain ⟨quote, t, hcons, hquote⟩ := textLiteral_cons s
  rw [hcons, List.cons_append] at htext ⊢
  have hhead : (quote :: (t ++ rest)).head? = some '"' ||
      (quote :: (t ++ rest)).head? = some '\'' := by
    simpa using hquote
  rw [scalar?.eq_def]
  split
  · next heq => rcases hquote with rfl | rfl <;> cases heq
  · next heq => rcases hquote with rfl | rfl <;> cases heq
  · rw [if_pos hhead, htext]
    rfl

theorem value?_textLiteral (levels : Nat) (s : List Char) {rest : List Char}
    (hrest : Unquoted rest) :
    value? levels (textLiteral s ++ rest) = some (.text (String.ofList s), rest) := by
  have hscalar := scalar?_textLiteral s hrest
  obtain ⟨quote, t, hcons, hquote⟩ := textLiteral_cons s
  rw [hcons, List.cons_append] at hscalar ⊢
  rw [value?_eq_scalar?, hscalar]
  · rintro rfl
    revert hquote
    decide
  · rintro rfl
    revert hquote
    decide

section Items

variable {item : Reader Data} {fuel : Nat} {acc : List Data} {v : Data} {c : Char}
  {s t u rest : List Char}

theorem items?_close (h : skipAllGaps s = ']' :: rest) :
    items? item (fuel + 1) acc s = some (.list acc.reverse, rest) := by
  rw [items?, h]
  rfl

theorem items?_item (h : skipAllGaps s = c :: t) (hc : c ≠ ']')
    (hitem : item (c :: t) = some (v, u))
    (hnext : skipAllGaps u = ',' :: rest) :
    items? item (fuel + 1) acc s = items? item fuel (v :: acc) rest := by
  rw [items?, h]
  split
  · next heq => exact absurd (List.cons.inj heq).1 hc
  · rw [hitem, Option.bind_eq_bind, Option.bind_some]
    dsimp only
    rw [hnext]
    rfl

theorem items?_last (h : skipAllGaps s = c :: t) (hc : c ≠ ']')
    (hitem : item (c :: t) = some (v, u))
    (hnext : skipAllGaps u = ']' :: rest) :
    items? item (fuel + 1) acc s = some (.list (v :: acc).reverse, rest) := by
  rw [items?, h]
  split
  · next heq => exact absurd (List.cons.inj heq).1 hc
  · rw [hitem, Option.bind_eq_bind, Option.bind_some]
    dsimp only
    rw [hnext]
    rfl

end Items

/-- The lines of several texts in an array. -/
def itemLines (ss : List String) : List Char :=
  (ss.map fun s => textLiteral s.toList).flatMap
    fun item => List.replicate 4 ' ' ++ item ++ [',', '\n']

theorem itemLines_cons (s : String) (ss : List String) (rest : List Char) :
    itemLines (s :: ss) ++ rest =
      List.replicate 4 ' ' ++ (textLiteral s.toList ++ ',' :: '\n' :: (itemLines ss ++ rest)) := by
  simp only [itemLines, List.map_cons, List.flatMap_cons, List.append_assoc, List.cons_append,
    List.nil_append]

theorem items?_itemLines (levels : Nat) (ss : List String) (rest : List Char) {fuel : Nat}
    {acc : List Data} (hfuel : ss.length < fuel) :
    items? (value? levels) fuel acc ('\n' :: (itemLines ss ++ ']' :: rest)) =
      some (.list (acc.reverse ++ ss.map .text), rest) := by
  induction ss generalizing fuel acc with
  | nil =>
    obtain ⟨fuel, rfl⟩ := Nat.exists_eq_succ_of_ne_zero (Nat.ne_of_gt hfuel)
    rw [List.map_nil, List.append_nil]
    exact items?_close (skipAllGaps_newline (by decide) rest 0)
  | cons s ss ih =>
    obtain ⟨fuel, rfl⟩ := Nat.exists_eq_succ_of_ne_zero (Nat.ne_of_gt (Nat.zero_lt_of_lt hfuel))
    have hnext : Unquoted (',' :: '\n' :: (itemLines ss ++ ']' :: rest)) := ⟨by simp, by simp⟩
    have hread := value?_textLiteral levels s.toList hnext
    obtain ⟨quote, t, hcons, hquote⟩ := textLiteral_cons s.toList
    have hsolid : IsSolid quote ∧ quote ≠ ']' := by
      rcases hquote with rfl | rfl <;> decide
    rw [hcons, List.cons_append] at hread
    rw [itemLines_cons, hcons, List.cons_append,
      items?_item (skipAllGaps_newline hsolid.1 _ 4) hsolid.2 hread
        (skipAllGaps_of_solid (by decide) _),
      ih (Nat.lt_of_succ_lt_succ hfuel)]
    simp

/-- Lists of texts are read back. -/
theorem value?_of_texts (levels : Nat) (ss : List String) (rest : List Char) :
    value? (levels + 1) (arrayText (ss.map fun s => textLiteral s.toList) ++ rest) =
      some (.list (ss.map .text), rest) := by
  match ss with
  | [] =>
    have harray : arrayText (([] : List String).map fun s => textLiteral s.toList) ++ rest =
        '[' :: ']' :: rest := rfl
    rw [harray, value?]
    exact items?_close (skipAllGaps_of_solid (by decide) rest)
  | [s] =>
    have hclose : Unquoted (']' :: rest) := ⟨by simp, by simp⟩
    have hread := value?_textLiteral levels s.toList hclose
    obtain ⟨quote, t, hcons, hquote⟩ := textLiteral_cons s.toList
    have hsolid : IsSolid quote ∧ quote ≠ ']' := by
      rcases hquote with rfl | rfl <;> decide
    have harray : arrayText ([s].map fun s => textLiteral s.toList) ++ rest =
        '[' :: (textLiteral s.toList ++ ']' :: rest) := by
      simp [arrayText]
    rw [harray, value?]
    rw [hcons, List.cons_append] at hread ⊢
    rw [items?_last (skipAllGaps_of_solid hsolid.1 _) hsolid.2 hread
      (skipAllGaps_of_solid (by decide) _), String.ofList_toList]
    rfl
  | s :: s' :: ss =>
    have harray : arrayText ((s :: s' :: ss).map fun s => textLiteral s.toList) ++ rest =
        '[' :: '\n' :: (itemLines (s :: s' :: ss) ++ ']' :: rest) := by
      simp [arrayText, itemLines]
    have hitem : ∀ ss : List String, ss.length ≤ (itemLines ss).length := by
      intro ss
      induction ss with
      | nil => exact Nat.le_refl 0
      | cons s ss ih =>
        have hcons := congrArg List.length (itemLines_cons s ss [])
        simp only [List.append_nil, List.length_append, List.length_cons] at hcons ⊢
        omega
    rw [harray, value?, items?_itemLines]
    · rfl
    · have hlength := hitem (s :: s' :: ss)
      simp only [List.length_cons, List.length_append] at hlength ⊢
      omega

/-! ## Values of assignments -/

/-- Values that assignments are written for, other than truth values, reals and dates: texts,
natural numbers and lists of texts. -/
inductive Plain : Data → Prop
  | text (s : String) : Plain (.text s)
  | int {n : Nat} (h : n < Text.signedBound) : Plain (.int n)
  | texts (ss : List String) : Plain (.list (ss.map .text))

theorem itemTexts_texts (ss : List String) :
    itemTexts (ss.map .text) = .ok (ss.map fun s => textLiteral s.toList) := by
  induction ss with
  | nil => rfl
  | cons s ss ih =>
    rw [List.map_cons, itemTexts, ih]
    rfl

/-- What is written for a plain value is read back up to the end of its line. -/
theorem value?_of_plain {v : Data} (h : Plain v) (levels : Nat) :
    ∃ c t, valueText v = .ok (c :: t) ∧ IsSolid c ∧
      ∀ rest, value? (levels + 1) (c :: t ++ '\n' :: rest) = some (v, '\n' :: rest) := by
  cases h with
  | text s =>
    obtain ⟨quote, t, hcons, hquote⟩ := textLiteral_cons s.toList
    refine ⟨quote, t, by rw [valueText, hcons], by rcases hquote with rfl | rfl <;> decide, ?_⟩
    intro rest
    have hnewline : Unquoted ('\n' :: rest) := ⟨by simp, by simp⟩
    have hread := value?_textLiteral (levels + 1) s.toList hnewline
    rwa [hcons, String.ofList_toList] at hread
  | int hn =>
    next n =>
    have hnumeral := numeral_toDigits n
    obtain ⟨c, t, hcons, hc, -⟩ := hnumeral.exists_cons
    have hother : ∀ d, ¬Text.isDigit d → c ≠ d := fun d hd heq => hd (heq ▸ hc)
    have hsolid : IsSolid c := by
      refine ⟨⟨fun hblank => ?_, hother _ (by decide), hother _ (by decide)⟩, hother _ (by decide)⟩
      simp only [isBlankChar, Bool.or_eq_true, decide_eq_true_eq] at hblank
      rcases hblank with h | h
      · exact hother _ (by decide) h
      · exact hother _ (by decide) h
    refine ⟨c, t, ?_, hsolid, fun rest => ?_⟩
    · have hbound : (n : Int) < Text.signedBound := Int.ofNat_lt.2 hn
      have htext : (toString (n : Int)).toList = Nat.toDigits 10 n := by
        show (String.ofList (Nat.toDigits 10 n)).toList = _
        rw [String.toList_ofList]
      rw [valueText, integerText, if_pos hbound, htext, hcons]
    · have hscalar := hnumeral.scalar? rest hn
      rw [hcons] at hscalar
      exact (value?_eq_scalar? _ (hother _ (by decide)) (hother _ (by decide)) _).trans hscalar
  | texts ss =>
    have harray : ∀ items, ∃ t, arrayText items = '[' :: t := by
      intro items
      match items with
      | [] => exact ⟨_, rfl⟩
      | [item] => exact ⟨_, rfl⟩
      | _ :: _ :: _ => exact ⟨_, rfl⟩
    obtain ⟨t, ht⟩ := harray (ss.map fun s => textLiteral s.toList)
    refine ⟨'[', t, ?_, by decide, fun rest => ?_⟩
    · rw [valueText, itemTexts_texts, ← ht]
      rfl
    · rw [← ht]
      exact value?_of_texts levels ss _

end ResetCheck.Toml
