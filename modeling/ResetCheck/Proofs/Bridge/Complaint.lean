import ResetCheck.Proofs.Bridge.Reply
import ResetCheck.Proofs.Text.Lines

/-!
# The first complaint decides

What the bridge writes to its error stream is looked through line by line, and the first line of
the bridge's own decides what became of the command.  Within a line, that the link went counts
before a rejection; between lines, only their order counts.  So nothing changes if other lines are
put in anywhere, or if letters are written in the other case.

* `Complaint.Makes`: lines that make a complaint, `Complaint.Idle`: lines that make none.
* `Interspersed`: lists with more members put in.
* `CommandFault.ofErrors?_eq`: an error stream, line by line.
* `CommandFault.ofErrors?_first_line`: what an error stream tells.
-/

namespace ResetCheck

/-! ## Letters in the other case -/

namespace Text

/-- What holds of the ASCII characters, and of all that are their own small letters, holds of every
character. -/
theorem forall_of_ascii {P : Char → Prop} (hascii : ∀ n < 0x80, P (Char.ofNat n))
    (hother : ∀ c : Char, c.toLower = c → P c) (c : Char) : P c := by
  by_cases hc : c.toNat < 0x80
  · rw [← Char.ofNat_toNat c]
    exact hascii _ hc
  · exact hother c (toLower_of_not_ascii (by omega))

theorem isBlank_toLower : ∀ c : Char, isBlank c.toLower = isBlank c :=
  forall_of_ascii (by decide) fun c hc => by rw [hc]

theorem toLower_eq_newline_iff : ∀ c : Char, c.toLower = '\n' ↔ c = '\n' :=
  forall_of_ascii (by decide) fun c hc => by rw [hc]

theorem toLower_toLower : ∀ c : Char, c.toLower.toLower = c.toLower :=
  forall_of_ascii (by decide) fun c hc => by rw [hc, hc]

theorem folded_folded (s : List Char) : folded (folded s) = folded s := by
  rw [folded, folded, List.map_map]
  exact List.map_congr_left fun c _ => toLower_toLower c

theorem trimStart_folded (s : List Char) : trimStart (folded s) = folded (trimStart s) := by
  have hblank : isBlank ∘ Char.toLower = isBlank := funext isBlank_toLower
  rw [trimStart, folded, List.dropWhile_map, hblank]
  rfl

theorem trimChars_folded (s : List Char) : trimChars (folded s) = folded (trimChars s) := by
  have hreverse : ∀ t, (folded t).reverse = folded t.reverse := fun t => List.map_reverse.symm
  rw [trimChars, trimChars, trimEnd_eq, trimEnd_eq, trimStart_folded, hreverse, trimStart_folded,
    hreverse]

theorem splitOn_folded (s : List Char) :
    (folded s).splitOn '\n' = (s.splitOn '\n').map folded := by
  induction s with
  | nil => rfl
  | cons c s ih =>
    rw [folded_cons]
    by_cases hc : c = '\n'
    · rw [hc, splitOn_newline, List.map_cons, ← ih]
      exact splitOn_newline _
    · obtain ⟨piece, rest, hs⟩ := List.exists_cons_of_ne_nil (List.splitOn_ne_nil '\n' s)
      rw [hs, List.map_cons] at ih
      rw [splitOn_cons_of_ne hc hs, splitOn_cons_of_ne (mt (toLower_eq_newline_iff c).1 hc) ih]
      rfl

theorem newline_not_mem_of_mem : ∀ phrase ∈ refusalPhrases, '\n' ∉ folded phrase.toList := by
  decide +kernel

theorem not_refuses_nil : ¬Refuses [] := by
  decide +kernel

theorem refuses_iff_exists_line {s : List Char} :
    Refuses s ↔ ∃ line ∈ s.splitOn '\n', Refuses line := by
  constructor
  · rintro ⟨phrase, hphrase, hfound⟩
    obtain ⟨small, hsmall, hfound⟩ :=
      (infix_iff_exists_line (newline_not_mem_of_mem _ hphrase)).1 hfound
    rw [splitOn_folded] at hsmall
    obtain ⟨line, hline, rfl⟩ := List.mem_map.1 hsmall
    exact ⟨line, hline, phrase, hphrase, hfound⟩
  · rintro ⟨line, hline, phrase, hphrase, hfound⟩
    exact ⟨phrase, hphrase, hfound.trans ((infix_of_mem_splitOn hline).map _)⟩

/-- A text refuses the reset if one of its lines does, whatever blanks are around it. -/
theorem refuses_iff_exists_bareLine {s : List Char} :
    Refuses s ↔ ∃ line ∈ bareLines s, Refuses line := by
  rw [refuses_iff_exists_line]
  constructor
  · rintro ⟨line, hline, hrefuses⟩
    rw [← refuses_trimChars_iff] at hrefuses
    have hsome : trimChars line ≠ [] := fun h => not_refuses_nil (h ▸ hrefuses)
    refine ⟨trimChars line, List.mem_filter.2 ⟨List.mem_map_of_mem hline, ?_⟩, hrefuses⟩
    simpa using hsome
  · rintro ⟨_, hbare, hrefuses⟩
    obtain ⟨line, hline, rfl⟩ := List.mem_map.1 (List.mem_filter.1 hbare).1
    exact ⟨line, hline, refuses_trimChars_iff.1 hrefuses⟩

theorem refuses_trim_iff {s : String} : Refuses (trim s).toList ↔ Refuses s.toList := by
  rw [trim, String.toList_ofList, refuses_trimChars_iff]

theorem refuses_congr {s t : List Char} (h : folded s = folded t) : Refuses s ↔ Refuses t := by
  rw [Refuses, Refuses, h]

end Text

/-! ## Lines with more lines among them -/

/-- Whether a list is another one with more members put in, all of one kind. -/
inductive Interspersed {α : Type} (p : α → Prop) : List α → List α → Prop
  | nil : Interspersed p [] []
  | keep (x : α) {xs ys : List α} (h : Interspersed p xs ys) : Interspersed p (x :: xs) (x :: ys)
  | add {y : α} (hy : p y) {xs ys : List α} (h : Interspersed p xs ys) :
    Interspersed p xs (y :: ys)

namespace Interspersed

variable {α β : Type} {p : α → Prop} {xs ys : List α}

theorem refl (p : α → Prop) (xs : List α) : Interspersed p xs xs := by
  induction xs with
  | nil => exact .nil
  | cons x xs ih => exact .keep x ih

theorem subset (h : Interspersed p xs ys) : xs ⊆ ys := by
  induction h with
  | nil => exact List.Subset.refl _
  | keep x h ih => exact List.cons_subset_cons x ih
  | add hy h ih => exact List.subset_cons_of_subset _ ih

theorem mem_or (h : Interspersed p xs ys) {y : α} (hy : y ∈ ys) : y ∈ xs ∨ p y := by
  induction h with
  | nil => exact .inl hy
  | keep x h ih =>
    rcases List.mem_cons.1 hy with rfl | hy
    · exact .inl List.mem_cons_self
    · exact (ih hy).imp_left (List.mem_cons_of_mem x)
  | add hz h ih =>
    rcases List.mem_cons.1 hy with rfl | hy
    · exact .inr hz
    · exact ih hy

/-- A search does not come upon members that it passes over. -/
theorem findSome?_eq (h : Interspersed p xs ys) {f : α → Option β} (hp : ∀ y, p y → f y = none) :
    ys.findSome? f = xs.findSome? f := by
  induction h with
  | nil => rfl
  | keep x h ih => rw [List.findSome?_cons, List.findSome?_cons, ih]
  | add hy h ih => rw [List.findSome?_cons, hp _ hy, ih]

end Interspersed

/-! ## What a line complains of -/

namespace Complaint

variable {line : List Char}

/-- How the lines begin that make a complaint. -/
def openings : Complaint → List String
  | linkLost => linkLostOpenings
  | rejected => rejectedOpenings

/-- Whether a line begins in one of the ways of a complaint, up to the blanks around it and the case
of its ASCII letters. -/
def Opens (c : Complaint) (line : List Char) : Prop :=
  ∃ opening ∈ c.openings, opening.toList <+: Text.folded (Text.trimChars line)

instance (c : Complaint) (line : List Char) : Decidable (c.Opens line) :=
  inferInstanceAs
    (Decidable (∃ opening ∈ c.openings, opening.toList <+: Text.folded (Text.trimChars line)))

/-- Whether a line makes a complaint.  Where it could make both, the link went. -/
def Makes : Complaint → List Char → Prop
  | linkLost, line => linkLost.Opens line
  | rejected, line => rejected.Opens line ∧ ¬linkLost.Opens line

/-- Whether a line begins in none of the ways of a complaint. -/
def Idle (line : List Char) : Prop :=
  ¬linkLost.Opens line ∧ ¬rejected.Opens line

instance (line : List Char) : Decidable (Idle line) :=
  inferInstanceAs (Decidable (¬linkLost.Opens line ∧ ¬rejected.Opens line))

theorem opens_iff (c : Complaint) :
    opens c.openings (Text.folded (Text.trimChars line)) ↔ c.Opens line := by
  simp [opens, Opens, List.isPrefixOf_iff_prefix]

theorem ofLine?_eq (line : List Char) :
    ofLine? line =
      if linkLost.Opens line then some linkLost
      else if rejected.Opens line then some rejected else none := by
  simp only [ofLine?, ← opens_iff]
  rfl

theorem ofLine?_eq_some_iff {c : Complaint} : ofLine? line = some c ↔ c.Makes line := by
  rw [ofLine?_eq]
  by_cases hlink : linkLost.Opens line
  · cases c <;> simp [Makes, hlink]
  · by_cases hreject : rejected.Opens line
    · cases c <;> simp [Makes, hlink, hreject]
    · cases c <;> simp [Makes, hlink, hreject]

theorem ofLine?_eq_none_iff : ofLine? line = none ↔ Idle line := by
  rw [ofLine?_eq, Idle]
  by_cases hlink : linkLost.Opens line
  · simp [hlink]
  · by_cases hreject : rejected.Opens line
    · simp [hlink, hreject]
    · simp [hlink, hreject]

theorem heedless_ofLine? : Text.Heedless ofLine? where
  trim line := by rw [ofLine?, ofLine?, Text.trimChars_trimChars]
  nil := by decide

theorem ofLine?_folded (line : List Char) : ofLine? (Text.folded line) = ofLine? line := by
  have hopens : ∀ c : Complaint, c.Opens (Text.folded line) ↔ c.Opens line := by
    intro c
    rw [Opens, Opens, Text.trimChars_folded, Text.folded_folded]
  simp only [ofLine?_eq, hopens]

/-- The complaint that a fault came of. -/
def ofFault : CommandFault → Complaint
  | .linkLost _ => linkLost
  | .rejected _ => rejected

theorem ofFault_fault (c : Complaint) (text : String) : ofFault (c.fault text) = c := by
  cases c <;> rfl

end Complaint

/-! ## What an error stream tells -/

namespace CommandFault

variable {errors changed : String}

/-- An error stream, line by line. -/
theorem ofErrors?_eq (errors : String) :
    ofErrors? errors =
      if Text.Refuses errors.toList then none
      else ((errors.toList.splitOn '\n').findSome? Complaint.ofLine?).map
        (·.fault (Text.trim errors)) := by
  have hlines : (Text.lines (Text.trim errors).toList).findSome? Complaint.ofLine? =
      (errors.toList.splitOn '\n').findSome? Complaint.ofLine? := by
    rw [Text.trim, String.toList_ofList, Complaint.heedless_ofLine?.findSome?_lines_trimChars]
  simp only [ofErrors?, Support.classify_trim_iff, hlines]

/-- Whether an error stream tells of a fault, and of which kind. -/
def kind? (errors : String) : Option Complaint :=
  (ofErrors? errors).map Complaint.ofFault

theorem kind?_eq (errors : String) :
    kind? errors =
      if Text.Refuses errors.toList then none
      else (errors.toList.splitOn '\n').findSome? Complaint.ofLine? := by
  have hfault : (Complaint.ofFault ∘ fun c => c.fault (Text.trim errors)) = id :=
    funext fun c => Complaint.ofFault_fault c _
  rw [kind?, ofErrors?_eq]
  split
  · rfl
  · rw [Option.map_map, hfault, Option.map_id, id_eq]

/-- Whether a line may be put in: it makes no complaint, and it does not make the text refuse the
reset. -/
def Harmless (errors : String) (line : List Char) : Prop :=
  Complaint.Idle line ∧ (Text.Refuses line → Text.Refuses errors.toList)

theorem refuses_interspersed
    (h : Interspersed (Harmless errors) (Text.bareLines errors.toList)
      (Text.bareLines changed.toList)) :
    Text.Refuses changed.toList ↔ Text.Refuses errors.toList := by
  constructor
  · intro hchanged
    obtain ⟨line, hline, hrefuses⟩ := Text.refuses_iff_exists_bareLine.1 hchanged
    rcases h.mem_or hline with hline | hharmless
    · exact Text.refuses_iff_exists_bareLine.2 ⟨line, hline, hrefuses⟩
    · exact hharmless.2 hrefuses
  · intro herrors
    obtain ⟨line, hline, hrefuses⟩ := Text.refuses_iff_exists_bareLine.1 herrors
    exact Text.refuses_iff_exists_bareLine.2 ⟨line, h.subset hline, hrefuses⟩

theorem kind?_interspersed
    (h : Interspersed (Harmless errors) (Text.bareLines errors.toList)
      (Text.bareLines changed.toList)) :
    kind? changed = kind? errors := by
  have hfirst := h.findSome?_eq fun line hline => Complaint.ofLine?_eq_none_iff.2 hline.1
  rw [Complaint.heedless_ofLine?.findSome?_bareLines,
    Complaint.heedless_ofLine?.findSome?_bareLines] at hfirst
  simp only [kind?_eq, refuses_interspersed h, hfirst]

theorem kind?_folded (h : Text.folded changed.toList = Text.folded errors.toList) :
    kind? changed = kind? errors := by
  have hlines : ∀ s : List Char, (s.splitOn '\n').findSome? Complaint.ofLine? =
      ((Text.folded s).splitOn '\n').findSome? Complaint.ofLine? := by
    intro s
    have hofLine : Complaint.ofLine? ∘ Text.folded = Complaint.ofLine? :=
      funext Complaint.ofLine?_folded
    rw [Text.splitOn_folded, List.findSome?_map, hofLine]
  simp only [kind?_eq, Text.refuses_congr h]
  rw [hlines, h, ← hlines]

/-- **The first complaint decides.**  An error stream that refuses the reset tells of no fault.  Any
other tells of the fault that the first line makes that begins in one of the ways of a complaint,
and the fault holds the whole text without the blanks around it; it tells of none if there is no
such line.  Lines that begin in none of these ways and do not make the text refuse the reset may be
put in anywhere, and the case of ASCII letters may be changed: the kind of the fault stays.  Nor do
blank lines, the blanks around a line or the kind of its end matter. -/
theorem ofErrors?_first_line (errors : String) :
    let text := Text.trim errors
    let lines := errors.toList.splitOn '\n'
    (Text.Refuses text.toList → ofErrors? errors = none) ∧
      (¬Text.Refuses text.toList →
        (∀ fault, ofErrors? errors = some fault ↔
          ∃ before line after, ∃ c : Complaint, lines = before ++ line :: after ∧
            (∀ l ∈ before, Complaint.Idle l) ∧ c.Makes line ∧ fault = c.fault text) ∧
        (ofErrors? errors = none ↔ ∀ l ∈ lines, Complaint.Idle l)) ∧
      (∀ changed : String,
        Interspersed (Harmless errors) (Text.bareLines errors.toList)
            (Text.bareLines changed.toList) →
          kind? changed = kind? errors) ∧
      ∀ changed : String, Text.folded changed.toList = Text.folded errors.toList →
        kind? changed = kind? errors := by
  intro text lines
  have htext : Text.Refuses text.toList ↔ Text.Refuses errors.toList := Text.refuses_trim_iff
  rw [htext]
  refine ⟨?_, ?_, fun changed => kind?_interspersed, fun changed => kind?_folded⟩
  · intro hrefuses
    rw [ofErrors?_eq, if_pos hrefuses]
  · intro hrefuses
    rw [ofErrors?_eq, if_neg hrefuses]
    constructor
    · intro fault
      rw [Option.map_eq_some_iff]
      constructor
      · rintro ⟨c, hfirst, rfl⟩
        obtain ⟨before, line, after, hlines, hline, hbefore⟩ := List.findSome?_eq_some_iff.1 hfirst
        exact ⟨before, line, after, c, hlines,
          fun l hl => Complaint.ofLine?_eq_none_iff.1 (hbefore l hl),
          Complaint.ofLine?_eq_some_iff.1 hline, rfl⟩
      · rintro ⟨before, line, after, c, hlines, hbefore, hline, rfl⟩
        refine ⟨c, List.findSome?_eq_some_iff.2 ⟨before, line, after, hlines, ?_, ?_⟩, rfl⟩
        · exact Complaint.ofLine?_eq_some_iff.2 hline
        · exact fun l hl => Complaint.ofLine?_eq_none_iff.2 (hbefore l hl)
    · rw [Option.map_eq_none_iff, List.findSome?_eq_none_iff]
      exact forall₂_congr fun l _ => Complaint.ofLine?_eq_none_iff

/-- A line that begins like a protocol fault, which is also how a rejection may begin, decides
before the rejection after it.  A greeting in front of it all, a line between the two, other ends of
lines and capitals do not matter. -/
theorem ofErrors?_first_line_fault :
    let errors := "up\r\n adb: Protocol fault\nerror: device 'X'\n"
    let text := "up\r\n adb: Protocol fault\nerror: device 'X'"
    let more := "* on\nup\n adb: Protocol fault\r\nbye\r\nerror: device 'X'"
    let large := "UP\r\n ADB: PROTOCOL FAULT\nERROR: DEVICE 'X'\n"
    ¬Text.Refuses (Text.trim errors).toList ∧
      Interspersed (Harmless errors) (Text.bareLines errors.toList) (Text.bareLines more.toList) ∧
      Text.folded large.toList = Text.folded errors.toList ∧
      ofErrors? errors = some (.linkLost text) ∧ kind? more = some .linkLost ∧
      kind? large = some .linkLost := by
  intro errors text more large
  obtain ⟨-, hfirst, hmore, hlarge⟩ := ofErrors?_first_line errors
  have hrefuses : ¬Text.Refuses (Text.trim errors).toList := by decide +kernel
  have hlines : errors.toList.splitOn '\n' = "up\r".toList :: " adb: Protocol fault".toList ::
      ["error: device 'X'".toList, []] := by
    decide +kernel
  have hbare : Text.bareLines errors.toList =
      ["up".toList, "adb: Protocol fault".toList, "error: device 'X'".toList] := by
    decide +kernel
  have hmoreBare : Text.bareLines more.toList = ["* on".toList, "up".toList,
      "adb: Protocol fault".toList, "bye".toList, "error: device 'X'".toList] := by
    decide +kernel
  have hplain : ∀ line ∈ ["* on".toList, "bye".toList],
      Complaint.Idle line ∧ ¬Text.Refuses line := by decide +kernel
  have hharmless : ∀ line ∈ ["* on".toList, "bye".toList], Harmless errors line :=
    fun line hline => ⟨(hplain line hline).1, fun h => absurd h (hplain line hline).2⟩
  have hinterspersed :
      Interspersed (Harmless errors) (Text.bareLines errors.toList)
        (Text.bareLines more.toList) := by
    rw [hbare, hmoreBare]
    exact .add (hharmless _ (by simp))
      (.keep _ (.keep _ (.add (hharmless _ (by simp)) (.refl _ _))))
  have hsame : Text.folded large.toList = Text.folded errors.toList := by decide +kernel
  have hfault : ofErrors? errors = some (.linkLost text) := by
    have hidle : ∀ l ∈ ["up\r".toList], Complaint.Idle l := by decide +kernel
    have hopens : Complaint.linkLost.Opens " adb: Protocol fault".toList := by decide +kernel
    have htext : text = Text.trim errors := by decide +kernel
    exact ((hfirst hrefuses).1 _).2
      ⟨_, _, _, .linkLost, hlines, hidle, hopens, congrArg CommandFault.linkLost htext⟩
  have hkind : kind? errors = some .linkLost := by rw [kind?, hfault]; rfl
  exact ⟨hrefuses, hinterspersed, hsame, hfault, (hmore more hinterspersed).trans hkind,
    (hlarge large hsame).trans hkind⟩

end CommandFault

end ResetCheck
