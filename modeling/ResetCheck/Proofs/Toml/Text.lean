import ResetCheck.Toml.Writer

/-!
# Texts in quotes

A text is written in the plainest quotes that can hold it, and read back from these.  In double
quotes it may need escapes; in three quotes, runs of quotes must stay shorter than the quotes that
close it.

* `escape_spec`: every escape is read back as its character.
* `basicText?_basicBody`, `longBasicText?_longBasicBody`, `longLiteralText?_of_longestRun`: the
  three kinds of quotes that are read character by character.
* `text?_textLiteral`: every text is read back from the quotes it is written in.
-/

namespace ResetCheck.Toml

/-! ## Escapes -/

theorem codePoint?_append {n code : Nat} {digits : List Char} (hlength : digits.length = n)
    (hcode : Text.inBase? 16 digits = some code) (hvalid : code.isValidChar) (rest : List Char) :
    codePoint? n (digits ++ rest) = some (Char.ofNat code, rest) := by
  subst hlength
  rw [codePoint?, List.take_left, if_neg (Nat.lt_irrefl _), hcode, List.drop_left]
  exact if_pos hvalid

/-- The four digits of a control character. -/
theorem digits_of_control : ∀ n < 128, n < 0x20 ∨ n = 0x7F →
    ((Text.padded 16 4 n).toList.map Char.toUpper).length = 4 ∧
      Text.inBase? 16 ((Text.padded 16 4 n).toList.map Char.toUpper) = some n := by
  decide +kernel

theorem control_of_needsEscape {c : Char} (h : needsEscape c) :
    c.toNat < 0x20 ∨ c.toNat = 0x7F := by
  simp only [needsEscape, Bool.or_eq_true, Bool.and_eq_true, decide_eq_true_eq,
    beq_iff_eq] at h
  omega

/-- Whether a character stands for itself after a backslash: no blank and no end of a line. -/
def IsMark (c : Char) : Prop :=
  ¬isBlankChar c ∧ c ≠ '\n' ∧ c ≠ '\r'

instance (c : Char) : Decidable (IsMark c) :=
  inferInstanceAs (Decidable (¬isBlankChar c ∧ c ≠ '\n' ∧ c ≠ '\r'))

/-- An escape is a backslash with something that is read as the character. -/
theorem escape_spec {c : Char} (h : isEscaped c ∨ c = '"' ∨ c = '\n') :
    ∃ d e, escape c = '\\' :: d :: e ∧ IsMark d ∧
      ∀ rest, escape? (d :: (e ++ rest)) = some (c, rest) := by
  have hofNat : ∀ n, c.toNat = n → c = Char.ofNat n := fun n hn => by
    rw [← hn, Char.ofNat_toNat]
  rw [escape]
  split
  · next hc => exact ⟨'b', [], rfl, by decide, fun rest => by rw [hofNat _ (beq_iff_eq.1 hc)]; rfl⟩
  split
  · next hc => exact ⟨'t', [], rfl, by decide, fun rest => by rw [hc]; rfl⟩
  split
  · next hc => exact ⟨'n', [], rfl, by decide, fun rest => by rw [hc]; rfl⟩
  split
  · next hc => exact ⟨'f', [], rfl, by decide, fun rest => by rw [hofNat _ (beq_iff_eq.1 hc)]; rfl⟩
  split
  · next hc => exact ⟨'r', [], rfl, by decide, fun rest => by rw [hc]; rfl⟩
  split
  · next hc => exact ⟨'"', [], rfl, by decide, fun rest => by rw [hc]; rfl⟩
  split
  · next hc => exact ⟨'\\', [], rfl, by decide, fun rest => by rw [hc]; rfl⟩
  · next htab hnewline _ _ hquote hbackslash =>
    have hneeds : needsEscape c := by
      simpa [isEscaped, htab, hnewline, hquote, hbackslash] using h
    have hcontrol := control_of_needsEscape hneeds
    obtain ⟨hlength, hvalue⟩ := digits_of_control c.toNat (by omega) hcontrol
    refine ⟨'u', _, rfl, by decide, fun rest => ?_⟩
    have hread := codePoint?_append hlength hvalue c.valid rest
    rw [Char.ofNat_toNat] at hread
    exact hread

theorem isPrintable_of_not_needsEscape {c : Char} (h : ¬needsEscape c) (hnewline : c ≠ '\n') :
    isPrintable c := by
  by_cases htab : c = '\t'
  · subst htab
    rfl
  · have hbounds : ¬c.toNat < 0x20 ∧ c.toNat ≠ 0x7F := by
      simpa [needsEscape, htab, hnewline] using h
    simp [isPrintable, Nat.not_lt.1 hbounds.1, hbounds.2]

/-! ## Double quotes -/

section Basic

variable {fuel : Nat} {acc s : List Char} {c : Char}

theorem basicText?_escape {e : List Char} (h : escape? e = some (c, s)) :
    basicText? (fuel + 1) acc ('\\' :: e) = basicText? fuel (c :: acc) s := by
  rw [basicText?, h]
  rfl

theorem basicText?_plain (hquote : c ≠ '"') (hbackslash : c ≠ '\\') (hprintable : isPrintable c) :
    basicText? (fuel + 1) acc (c :: s) = basicText? fuel (c :: acc) s := by
  rw [basicText?]
  · exact if_pos hprintable
  · exact hquote
  · exact hbackslash

end Basic

theorem basicBody_cons (c : Char) (s : List Char) :
    basicBody (c :: s) =
      (if isEscaped c || c = '"' || c = '\n' then escape c else [c]) ++ basicBody s :=
  List.flatMap_cons

theorem basicText?_basicBody (s rest : List Char) {fuel : Nat} {acc : List Char}
    (hfuel : (basicBody s).length < fuel) :
    basicText? fuel acc (basicBody s ++ '"' :: rest) =
      some (String.ofList (acc.reverse ++ s), rest) := by
  induction s generalizing fuel acc with
  | nil =>
    obtain ⟨fuel, rfl⟩ := Nat.exists_eq_succ_of_ne_zero (Nat.ne_of_gt hfuel)
    rw [List.append_nil]
    rfl
  | cons c s ih =>
    obtain ⟨fuel, rfl⟩ := Nat.exists_eq_succ_of_ne_zero (Nat.ne_of_gt (Nat.zero_lt_of_lt hfuel))
    rw [basicBody_cons, List.length_append] at hfuel
    rw [basicBody_cons, List.append_assoc]
    have hacc : (c :: acc).reverse ++ s = acc.reverse ++ c :: s := by simp
    split at hfuel
    · next hescaped =>
      rw [if_pos hescaped]
      obtain ⟨d, e, he, -, hread⟩ := escape_spec (c := c) (by simpa [or_assoc] using hescaped)
      rw [he] at hfuel ⊢
      rw [List.cons_append, List.cons_append, basicText?_escape (hread _),
        ih (by simp at hfuel; omega), hacc]
    · next hplain =>
      rw [if_neg hplain]
      simp only [Bool.or_eq_true, decide_eq_true_eq, not_or, isEscaped] at hplain
      have hprintable := isPrintable_of_not_needsEscape hplain.1.1.2 hplain.2
      rw [List.singleton_append, basicText?_plain hplain.1.2 hplain.1.1.1.1 hprintable,
        ih (by simp at hfuel; omega), hacc]

/-! ## Single quotes -/

theorem literalText?_append {s : List Char} (h : ∀ c ∈ s, c ≠ '\'' ∧ isPrintable c)
    (rest : List Char) : literalText? (s ++ '\'' :: rest) = some (String.ofList s, rest) := by
  have hall : ∀ c ∈ s, (c != '\'' && isPrintable c) = true := fun c hc => by
    simpa using h c hc
  rw [literalText?, List.dropWhile_append_of_pos hall, List.takeWhile_append_of_pos hall]
  simp

/-! ## Three quotes -/

/-- A text that begins with at most `n` of the given quotes. -/
inductive Quotes (quote : Char) : Nat → List Char → Prop
  | all {n k : Nat} (h : k ≤ n) : Quotes quote n (List.replicate k quote)
  | before {n k : Nat} {c : Char} {s : List Char} (h : k ≤ n) (hc : c ≠ quote) :
    Quotes quote n (List.replicate k quote ++ c :: s)

theorem countQuotes_replicate_append {quote : Char} {k : Nat} {s : List Char}
    (h : s.head? ≠ some quote) : countQuotes quote (List.replicate k quote ++ s) = k := by
  have hall : ∀ c ∈ List.replicate k quote, decide (c = quote) = true := fun c hc =>
    decide_eq_true (List.eq_of_mem_replicate hc)
  have hrest : s.takeWhile (· = quote) = [] := by
    cases s with
    | nil => rfl
    | cons c s => exact List.takeWhile_cons_of_neg (by simpa using fun hc => h (congrArg some hc))
  rw [countQuotes, List.takeWhile_append_of_pos hall, hrest, List.append_nil,
    List.length_replicate]

/-- Three quotes that close a text and the text after them. -/
def closing (quote : Char) (rest : List Char) : List Char :=
  List.replicate 3 quote ++ rest

/-- Quotes in a text are either fewer than three or stand right before those that close it. -/
theorem Quotes.count {quote : Char} {body : List Char} (h : Quotes quote 1 body)
    (rest : List Char) :
    countQuotes quote (body ++ closing quote rest) + 1 < 3 ∨
      ∃ k ≤ 1, body = List.replicate k quote := by
  cases h with
  | all h => exact .inr ⟨_, h, rfl⟩
  | before h hc =>
    left
    rw [List.append_assoc, List.cons_append,
      countQuotes_replicate_append (by simpa using hc)]
    omega

theorem Quotes.mono {quote : Char} {m n : Nat} {s : List Char} (h : Quotes quote m s)
    (hle : m ≤ n) :
    Quotes quote n s := by
  cases h with
  | all h => exact .all (Nat.le_trans h hle)
  | before h hc => exact .before (Nat.le_trans h hle) hc

theorem Quotes.cons {quote : Char} {n : Nat} {s : List Char} (h : Quotes quote n s) :
    Quotes quote (n + 1) (quote :: s) := by
  cases h with
  | all h => exact .all (Nat.succ_le_succ h)
  | before h hc => exact .before (Nat.succ_le_succ h) hc

theorem Quotes.other {quote c : Char} {n : Nat} {s : List Char} (hc : c ≠ quote) :
    Quotes quote n (c :: s) :=
  .before (Nat.zero_le n) hc

theorem replicate_append_closing (quote : Char) (k : Nat) (rest : List Char) :
    List.replicate k quote ++ closing quote rest =
      quote :: (List.replicate (k + 2) quote ++ rest) := by
  rw [closing, ← List.append_assoc, List.replicate_append_replicate]
  rfl

theorem drop_closing (quote : Char) (k : Nat) (rest : List Char) :
    (List.replicate (k + 2) quote ++ rest).drop (k + 2) = rest := by
  rw [List.drop_append_of_le_length (by simp), List.drop_replicate, Nat.sub_self]
  rfl

theorem newline?_eq_none {s : List Char} (hnewline : s.head? ≠ some '\n')
    (hreturn : s.head? ≠ some '\r') : newline? s = none := by
  rw [newline?.eq_def]
  split
  · exact absurd rfl hnewline
  · exact absurd rfl hreturn
  · rfl

theorem newline?_of_isPrintable {c : Char} (h : isPrintable c) (s : List Char) :
    newline? (c :: s) = none := by
  apply newline?_eq_none
  · intro heq
    exact absurd (Option.some.inj heq ▸ h) (by decide)
  · intro heq
    exact absurd (Option.some.inj heq ▸ h) (by decide)

theorem newline?_of_isMark {c : Char} (h : IsMark c) (s : List Char) :
    newline? (c :: s) = none := by
  apply newline?_eq_none
  · intro heq
    exact h.2.1 (Option.some.inj heq)
  · intro heq
    exact h.2.2 (Option.some.inj heq)

section LongBasic

variable {fuel : Nat} {acc s rest : List Char} {c d : Char}

theorem longBasicText?_quote (h : countQuotes '"' s + 1 < 3) :
    longBasicText? (fuel + 1) acc ('"' :: s) = longBasicText? fuel ('"' :: acc) s :=
  if_pos h

theorem longBasicText?_close {k : Nat} (hk : k ≤ 2) (hrest : rest.head? ≠ some '"') :
    longBasicText? (fuel + 1) acc (List.replicate k '"' ++ closing '"' rest) =
      some (String.ofList (acc.reverse ++ List.replicate k '"'), rest) := by
  have hkept : min (k + 2 + 1 - 3) 2 = k := by omega
  rw [replicate_append_closing, longBasicText?, countQuotes_replicate_append hrest]
  dsimp only
  rw [if_neg (by omega), hkept, drop_closing]

theorem longBasicText?_escape {e : List Char} (hmark : IsMark d)
    (h : escape? (d :: e) = some (c, s)) :
    longBasicText? (fuel + 1) acc ('\\' :: d :: e) = longBasicText? fuel (c :: acc) s := by
  have hcontinued : ∀ n, continued? n (d :: e) = none := by
    intro n
    have hskip : skipBlanks (d :: e) = d :: e := List.dropWhile_cons_of_neg hmark.1
    cases n with
    | zero => rfl
    | succ n => rw [continued?, hskip, newline?_of_isMark hmark]; rfl
  rw [longBasicText?, hcontinued, h]
  rfl

theorem longBasicText?_plain (hquote : c ≠ '"') (hbackslash : c ≠ '\\')
    (h : c = '\n' ∨ isPrintable c) :
    longBasicText? (fuel + 1) acc (c :: s) = longBasicText? fuel (c :: acc) s := by
  rw [longBasicText?]
  · rcases h with rfl | h
    · rfl
    · rw [newline?_of_isPrintable h]
      exact if_pos h
  · exact hquote
  · exact hbackslash

end LongBasic

theorem quotes_longBasicBody (s : List Char) {run : Nat} (hrun : run ≤ 2) :
    Quotes '"' (2 - run) (longBasicBody run s) := by
  induction s generalizing run with
  | nil => exact .all (Nat.zero_le _)
  | cons c s ih =>
    rw [longBasicBody]
    split
    · split
      · next hlt =>
        have hnext : 2 - run = 2 - (run + 1) + 1 := by omega
        rw [hnext]
        exact (ih hlt).cons
      · exact .other (by decide)
    · next hquote =>
      split
      · next hescaped =>
        obtain ⟨d, e, he, -⟩ := escape_spec (.inl hescaped)
        rw [he]
        exact .other (by decide)
      · exact .other hquote

theorem eq_of_longBasicBody {s : List Char} {run k : Nat}
    (h : longBasicBody run s = List.replicate k '"') : s = List.replicate k '"' := by
  induction s generalizing run k with
  | nil => exact h
  | cons c s ih =>
    have hhead : ∀ d t, d ≠ '"' → d :: t ≠ List.replicate k '"' := by
      intro d t hd heq
      exact hd (List.eq_of_mem_replicate (heq ▸ List.mem_cons_self))
    rw [longBasicBody] at h
    split at h
    · next hquote =>
      split at h
      · obtain ⟨k, rfl⟩ : ∃ n, k = n + 1 := by
          cases k with
          | zero => cases h
          | succ k => exact ⟨k, rfl⟩
        rw [List.replicate_succ] at h ⊢
        rw [hquote, ih (List.cons.inj h).2]
      · exact absurd h (hhead _ _ (by decide))
    · next hquote =>
      split at h
      · next hescaped =>
        obtain ⟨d, e, he, -⟩ := escape_spec (.inl hescaped)
        rw [he] at h
        exact absurd h (hhead _ _ (by decide))
      · exact absurd h (hhead _ _ hquote)

theorem longBasicText?_longBasicBody (s : List Char) {rest : List Char}
    (hrest : rest.head? ≠ some '"') {run fuel : Nat} {acc : List Char} (hrun : run ≤ 2)
    (hfuel : (longBasicBody run s).length < fuel) :
    longBasicText? fuel acc (longBasicBody run s ++ closing '"' rest) =
      some (String.ofList (acc.reverse ++ s), rest) := by
  induction s generalizing run fuel acc with
  | nil =>
    obtain ⟨fuel, rfl⟩ := Nat.exists_eq_succ_of_ne_zero (Nat.ne_of_gt hfuel)
    exact longBasicText?_close (Nat.zero_le 2) hrest
  | cons c s ih =>
    obtain ⟨fuel, rfl⟩ := Nat.exists_eq_succ_of_ne_zero (Nat.ne_of_gt (Nat.zero_lt_of_lt hfuel))
    have hacc : (c :: acc).reverse ++ s = acc.reverse ++ c :: s := by simp
    -- an escape is read as one character, whatever stands before it
    have hescape : ∀ d e, escape c = '\\' :: d :: e → IsMark d →
        (∀ rest, escape? (d :: (e ++ rest)) = some (c, rest)) →
        (escape c ++ longBasicBody 0 s).length < fuel + 1 →
        longBasicText? (fuel + 1) acc (escape c ++ longBasicBody 0 s ++ closing '"' rest) =
          some (String.ofList (acc.reverse ++ c :: s), rest) := by
      intro d e he hmark hread hlength
      rw [he] at hlength ⊢
      rw [List.append_assoc, List.cons_append, List.cons_append,
        longBasicText?_escape hmark (hread _), ih (Nat.zero_le 2) (by simp at hlength; omega), hacc]
    rw [longBasicBody] at hfuel ⊢
    split at hfuel
    · next hquote =>
      subst hquote
      rw [if_pos rfl]
      split at hfuel
      · next hlt =>
        rw [if_pos hlt, List.cons_append]
        have hquotes := (quotes_longBasicBody s hlt).mono (n := 1) (by omega)
        rcases hquotes.count rest with hfew | ⟨k, hk, hbody⟩
        · rw [longBasicText?_quote hfew, ih hlt (Nat.lt_of_succ_lt_succ hfuel), hacc]
        · have hs : s = List.replicate k '"' := eq_of_longBasicBody hbody
          have hclose : longBasicText? (fuel + 1) acc
              (List.replicate (k + 1) '"' ++ closing '"' rest) =
                some (String.ofList (acc.reverse ++ List.replicate (k + 1) '"'), rest) :=
            longBasicText?_close (by omega) hrest
          rw [hbody, hs]
          exact hclose
      · next hmany =>
        rw [if_neg hmany]
        obtain ⟨d, e, he, hmark, hread⟩ := escape_spec (c := '"') (.inr (.inl rfl))
        exact hescape d e he hmark hread hfuel
    · next hquote =>
      rw [if_neg hquote]
      split at hfuel
      · next hescaped =>
        rw [if_pos hescaped]
        obtain ⟨d, e, he, hmark, hread⟩ := escape_spec (.inl hescaped)
        exact hescape d e he hmark hread hfuel
      · next hplain =>
        rw [if_neg hplain, List.cons_append]
        simp only [isEscaped, Bool.or_eq_true, decide_eq_true_eq, not_or] at hplain
        have hprintable : c = '\n' ∨ isPrintable c := by
          by_cases hnewline : c = '\n'
          · exact .inl hnewline
          · exact .inr (isPrintable_of_not_needsEscape hplain.2 hnewline)
        rw [longBasicText?_plain hquote hplain.1.1 hprintable,
          ih (Nat.zero_le 2) (Nat.lt_of_succ_lt_succ hfuel), hacc]

/-! ## Runs of a character -/

/-- One step of finding the longest run of a character. -/
def runStep (c : Char) (state : Nat × Nat) (d : Char) : Nat × Nat :=
  if d = c then (max state.1 (state.2 + 1), state.2 + 1) else (state.1, 0)

theorem longestRun_eq (c : Char) (s : List Char) :
    longestRun c s = (s.foldl (runStep c) (0, 0)).1 := rfl

theorem runStep_mono {c : Char} {a b : Nat × Nat} (h : a.1 ≤ b.1 ∧ a.2 ≤ b.2) (d : Char) :
    (runStep c a d).1 ≤ (runStep c b d).1 ∧ (runStep c a d).2 ≤ (runStep c b d).2 := by
  unfold runStep
  split
  · dsimp only
    omega
  · exact ⟨h.1, Nat.le_refl 0⟩

theorem foldl_runStep_mono {c : Char} (s : List Char) {a b : Nat × Nat}
    (h : a.1 ≤ b.1 ∧ a.2 ≤ b.2) :
    (s.foldl (runStep c) a).1 ≤ (s.foldl (runStep c) b).1 := by
  induction s generalizing a b with
  | nil => exact h.1
  | cons d s ih => exact ih (runStep_mono h d)

theorem longestRun_le_cons (c d : Char) (s : List Char) :
    longestRun c s ≤ longestRun c (d :: s) :=
  foldl_runStep_mono s ⟨Nat.zero_le _, Nat.zero_le _⟩

theorem foldl_runStep_replicate (c : Char) (k : Nat) (state : Nat × Nat) (h : state.2 ≤ state.1) :
    (List.replicate k c).foldl (runStep c) state = (max state.1 (state.2 + k), state.2 + k) := by
  induction k generalizing state with
  | zero => rw [Nat.add_zero, Nat.max_eq_left h]; rfl
  | succ k ih =>
    have hstep : runStep c state c = (max state.1 (state.2 + 1), state.2 + 1) := if_pos rfl
    rw [List.replicate_succ, List.foldl_cons, hstep, ih _ (Nat.le_max_right _ _)]
    refine Prod.ext ?_ ?_
    · show max (max state.1 (state.2 + 1)) (state.2 + 1 + k) = max state.1 (state.2 + (k + 1))
      omega
    · show state.2 + 1 + k = state.2 + (k + 1)
      omega

theorem le_longestRun (c : Char) (k : Nat) (s : List Char) :
    k ≤ longestRun c (List.replicate k c ++ s) := by
  have hle : ∀ (s : List Char) (state : Nat × Nat),
      state.1 ≤ (s.foldl (runStep c) state).1 := by
    intro s
    induction s with
    | nil => exact fun state => Nat.le_refl _
    | cons d s ih =>
      intro state
      refine Nat.le_trans ?_ (ih _)
      unfold runStep
      split
      · exact Nat.le_max_left _ _
      · exact Nat.le_refl _
  rw [longestRun_eq, List.foldl_append, foldl_runStep_replicate c k _ (Nat.le_refl 0)]
  refine Nat.le_trans ?_ (hle s _)
  omega

theorem exists_replicate (quote : Char) (s : List Char) :
    ∃ k, s = List.replicate k quote ∨
      ∃ c t, c ≠ quote ∧ s = List.replicate k quote ++ c :: t := by
  induction s with
  | nil => exact ⟨0, .inl rfl⟩
  | cons d s ih =>
    by_cases hd : d = quote
    · subst hd
      obtain ⟨k, rfl | ⟨c, t, hc, rfl⟩⟩ := ih
      · exact ⟨k + 1, .inl rfl⟩
      · exact ⟨k + 1, .inr ⟨c, t, hc, rfl⟩⟩
    · exact ⟨0, .inr ⟨d, s, hd, rfl⟩⟩

/-- In a text without long runs of a quote, few follow on a quote. -/
theorem quotes_of_longestRun {quote : Char} {n : Nat} {s : List Char}
    (h : longestRun quote (quote :: s) ≤ n + 1) : Quotes quote n s := by
  obtain ⟨k, rfl | ⟨c, t, hc, rfl⟩⟩ := exists_replicate quote s
  · have hk := le_longestRun quote (k + 1) []
    rw [List.append_nil, List.replicate_succ] at hk
    exact .all (Nat.le_of_succ_le_succ (Nat.le_trans hk h))
  · have hk := le_longestRun quote (k + 1) (c :: t)
    rw [List.replicate_succ, List.cons_append] at hk
    exact .before (Nat.le_of_succ_le_succ (Nat.le_trans hk h)) hc

section LongLiteral

variable {fuel : Nat} {acc s rest : List Char} {c : Char}

theorem longLiteralText?_quote (h : countQuotes '\'' s + 1 < 3) :
    longLiteralText? (fuel + 1) acc ('\'' :: s) = longLiteralText? fuel ('\'' :: acc) s :=
  if_pos h

theorem longLiteralText?_close {k : Nat} (hk : k ≤ 2) (hrest : rest.head? ≠ some '\'') :
    longLiteralText? (fuel + 1) acc (List.replicate k '\'' ++ closing '\'' rest) =
      some (String.ofList (acc.reverse ++ List.replicate k '\''), rest) := by
  have hkept : min (k + 2 + 1 - 3) 2 = k := by omega
  rw [replicate_append_closing, longLiteralText?, countQuotes_replicate_append hrest]
  dsimp only
  rw [if_neg (by omega), hkept, drop_closing]

theorem longLiteralText?_plain (hquote : c ≠ '\'') (h : c = '\n' ∨ isPrintable c) :
    longLiteralText? (fuel + 1) acc (c :: s) = longLiteralText? fuel (c :: acc) s := by
  rw [longLiteralText?]
  · rcases h with rfl | h
    · rfl
    · rw [newline?_of_isPrintable h]
      exact if_pos h
  · exact hquote

end LongLiteral

theorem longLiteralText?_of_longestRun (s : List Char) {rest : List Char}
    (hrest : rest.head? ≠ some '\'') {fuel : Nat} {acc : List Char} (hrun : longestRun '\'' s ≤ 2)
    (hplain : ∀ c ∈ s, c = '\n' ∨ isPrintable c) (hfuel : s.length < fuel) :
    longLiteralText? fuel acc (s ++ closing '\'' rest) =
      some (String.ofList (acc.reverse ++ s), rest) := by
  induction s generalizing fuel acc with
  | nil =>
    obtain ⟨fuel, rfl⟩ := Nat.exists_eq_succ_of_ne_zero (Nat.ne_of_gt hfuel)
    exact longLiteralText?_close (Nat.zero_le 2) hrest
  | cons c s ih =>
    obtain ⟨fuel, rfl⟩ := Nat.exists_eq_succ_of_ne_zero (Nat.ne_of_gt (Nat.zero_lt_of_lt hfuel))
    have hacc : (c :: acc).reverse ++ s = acc.reverse ++ c :: s := by simp
    have hnext : ∀ acc, longLiteralText? fuel acc (s ++ closing '\'' rest) =
        some (String.ofList (acc.reverse ++ s), rest) := fun acc =>
      ih (Nat.le_trans (longestRun_le_cons _ _ _) hrun)
        (fun d hd => hplain d (List.mem_cons_of_mem _ hd)) (Nat.lt_of_succ_lt_succ hfuel)
    rw [List.cons_append]
    by_cases hquote : c = '\''
    · subst hquote
      rcases (quotes_of_longestRun hrun).count rest with hfew | ⟨k, hk, hs⟩
      · rw [longLiteralText?_quote hfew, hnext, hacc]
      · have hclose : longLiteralText? (fuel + 1) acc
            (List.replicate (k + 1) '\'' ++ closing '\'' rest) =
              some (String.ofList (acc.reverse ++ List.replicate (k + 1) '\''), rest) :=
          longLiteralText?_close (by omega) hrest
        rw [hs]
        exact hclose
    · rw [longLiteralText?_plain hquote (hplain c List.mem_cons_self), hnext, hacc]

/-! ## All quotes -/

/-- Whether a kind of quotes can hold a text. -/
def Quoting.Holds (s : List Char) : Quoting → Prop
  | basic => True
  | literal => s ≠ [] ∧ ∀ c ∈ s, c ≠ '\'' ∧ isPrintable c
  | longBasic => True
  | longLiteral => longestRun '\'' s ≤ 2 ∧ ∀ c ∈ s, c = '\n' ∨ isPrintable c

theorem quoting_holds (s : List Char) : (quoting s).Holds s := by
  have hprintable : (!s.any needsEscape) = true → ∀ c ∈ s, c ≠ '\n' → isPrintable c := by
    intro hescapes c hc hnewline
    refine isPrintable_of_not_needsEscape (fun hneeds => ?_) hnewline
    simp [List.any_eq_true.2 ⟨c, hc, hneeds⟩] at hescapes
  rw [quoting]
  split
  · trivial
  split
  · next hbasic hliteral =>
    simp only [Bool.and_eq_true] at hliteral
    refine ⟨?_, fun c hc => ⟨?_, hprintable hliteral.1.1 c hc ?_⟩⟩
    · rintro rfl
      exact hbasic rfl
    · rintro rfl
      simp [hc] at hliteral
    · rintro rfl
      simp [hc] at hliteral
  split
  · trivial
  split
  · next hlong =>
    rw [Bool.and_eq_true] at hlong
    refine ⟨of_decide_eq_true hlong.2, fun c hc => ?_⟩
    by_cases hnewline : c = '\n'
    · exact .inl hnewline
    · exact .inr (hprintable hlong.1 c hc hnewline)
  split <;> trivial

/-- Whether a text does not begin with a quote, so that it does not go on with a text before it. -/
def Unquoted (rest : List Char) : Prop :=
  rest.head? ≠ some '"' ∧ rest.head? ≠ some '\''

theorem text?_eq_shortText? {s : List Char} (h : ∀ t, s ≠ '"' :: '"' :: '"' :: t)
    (h' : ∀ t, s ≠ '\'' :: '\'' :: '\'' :: t) : text? s = shortText? s := by
  rw [text?.eq_def]
  split
  · next t => exact absurd rfl (h t)
  · next t => exact absurd rfl (h' t)
  · rfl

/-- The newline after three quotes keeps one that the text begins with. -/
theorem dropFirstNewline_longQuotes {s body : List Char} (h : '\n' ∉ s → newline? body = none) :
    dropFirstNewline ((if s.contains '\n' then ['\n'] else []) ++ body) = body := by
  split
  · rfl
  · next hnone =>
    rw [List.nil_append, dropFirstNewline, h (by simpa using hnone)]
    rfl

theorem longQuotes_append (quote : Char) (s body rest : List Char) :
    longQuotes quote s body ++ rest = quote :: quote :: quote ::
      ((if s.contains '\n' then ['\n'] else []) ++ (body ++ closing quote rest)) := by
  simp [longQuotes, closing, List.append_assoc, List.replicate]

theorem length_le_longQuotes (s t : List Char) :
    t.length ≤ ((if s.contains '\n' then ['\n'] else []) ++ t).length := by
  rw [List.length_append]
  exact Nat.le_add_left _ _

theorem text?_basic (s : List Char) {rest : List Char} (hrest : Unquoted rest) :
    text? ('"' :: basicBody s ++ ['"'] ++ rest) = some (String.ofList s, rest) := by
  have hbody : '"' :: basicBody s ++ ['"'] ++ rest = '"' :: (basicBody s ++ '"' :: rest) := by simp
  rw [hbody, text?_eq_shortText?]
  · refine basicText?_basicBody s rest ?_
    rw [List.length_append]
    omega
  · intro t ht
    cases s with
    | nil => exact hrest.1 (congrArg List.head? (List.cons.inj (List.cons.inj ht).2).2)
    | cons c s =>
      have hhead := (List.cons.inj ht).2
      rw [basicBody_cons] at hhead
      split at hhead
      · next hescaped =>
        obtain ⟨d, e, he, -⟩ := escape_spec (c := c) (by simpa [or_assoc] using hescaped)
        rw [he] at hhead
        exact absurd (List.cons.inj hhead).1 (by decide)
      · next hplain =>
        simp only [Bool.or_eq_true, decide_eq_true_eq, not_or] at hplain
        exact hplain.1.2 (List.cons.inj hhead).1
  · exact fun t ht => absurd (List.cons.inj ht).1 (by decide)

theorem text?_literal {s : List Char} (hne : s ≠ []) (h : ∀ c ∈ s, c ≠ '\'' ∧ isPrintable c)
    (rest : List Char) : text? ('\'' :: s ++ ['\''] ++ rest) = some (String.ofList s, rest) := by
  have hbody : '\'' :: s ++ ['\''] ++ rest = '\'' :: (s ++ '\'' :: rest) := by simp
  rw [hbody, text?_eq_shortText?]
  · exact literalText?_append h rest
  · exact fun t ht => absurd (List.cons.inj ht).1 (by decide)
  · intro t ht
    obtain ⟨c, s, rfl⟩ := List.exists_cons_of_ne_nil hne
    exact (h c List.mem_cons_self).1 (List.cons.inj (List.cons.inj ht).2).1

theorem text?_longBasic (s : List Char) {rest : List Char} (hrest : Unquoted rest) :
    text? (longQuotes '"' s (longBasicBody 0 s) ++ rest) = some (String.ofList s, rest) := by
  have hnewline : '\n' ∉ s → newline? (longBasicBody 0 s ++ closing '"' rest) = none := by
    intro hnone
    cases s with
    | nil => rfl
    | cons c s =>
      rw [longBasicBody]
      split
      · rfl
      split
      · next hescaped =>
        obtain ⟨d, e, he, -⟩ := escape_spec (.inl hescaped)
        rw [he]
        rfl
      · next hplain =>
        refine newline?_eq_none ?_ ?_
        · rintro heq
          exact hnone (Option.some.inj heq ▸ List.mem_cons_self)
        · rintro heq
          exact hplain (Option.some.inj heq ▸ rfl)
  rw [longQuotes_append, text?, dropFirstNewline_longQuotes hnewline]
  refine longBasicText?_longBasicBody s hrest.1 (Nat.zero_le 2) (Nat.lt_succ_of_le ?_)
  refine Nat.le_trans ?_ (length_le_longQuotes s _)
  rw [List.length_append]
  exact Nat.le_add_right _ _

theorem text?_longLiteral {s : List Char} (hrun : longestRun '\'' s ≤ 2)
    (hplain : ∀ c ∈ s, c = '\n' ∨ isPrintable c) {rest : List Char} (hrest : Unquoted rest) :
    text? (longQuotes '\'' s s ++ rest) = some (String.ofList s, rest) := by
  have hnewline : '\n' ∉ s → newline? (s ++ closing '\'' rest) = none := by
    intro hnone
    cases s with
    | nil => rfl
    | cons c s =>
      rcases hplain c List.mem_cons_self with rfl | hprintable
      · exact absurd List.mem_cons_self hnone
      · exact newline?_of_isPrintable hprintable _
  rw [longQuotes_append, text?, dropFirstNewline_longQuotes hnewline]
  refine longLiteralText?_of_longestRun s hrest.2 hrun hplain (Nat.lt_succ_of_le ?_)
  refine Nat.le_trans ?_ (length_le_longQuotes s _)
  rw [List.length_append]
  exact Nat.le_add_right _ _

/-- **Texts are read back** from the quotes they are written in. -/
theorem text?_textLiteral (s : List Char) {rest : List Char} (hrest : Unquoted rest) :
    text? (textLiteral s ++ rest) = some (String.ofList s, rest) := by
  have hholds := quoting_holds s
  rw [textLiteral]
  cases hquoting : quoting s with
  | basic => exact text?_basic s hrest
  | literal =>
    rw [hquoting] at hholds
    exact text?_literal hholds.1 hholds.2 rest
  | longBasic => exact text?_longBasic s hrest
  | longLiteral =>
    rw [hquoting] at hholds
    exact text?_longLiteral hholds.1 hholds.2 hrest

end ResetCheck.Toml
