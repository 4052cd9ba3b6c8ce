import ResetCheck.Proofs.Toml.Value

/-!
# The lines of a document

A document is written block by block: a header, and below it the assignments of one table.  Read
line by line, each block comes back as one section.

* `Bare`: keys that stand in a document without quotes.
* `key?_append`, `assignment?_append`: keys and assignments are read back.
* `Block`: a header and the assignments below it.
* `lines?_blocks`: the sections of a document are those of its blocks.
* `read?_blocks`: reading a document comes down to assembling its blocks.
-/

namespace ResetCheck.Toml

/-! ## Keys -/

/-- Whether a key stands in a document without quotes. -/
def Bare (key : String) : Prop :=
  !key.isEmpty && key.toList.all isBareKeyChar

instance (key : String) : Decidable (Bare key) :=
  inferInstanceAs (Decidable ((!key.isEmpty && key.toList.all isBareKeyChar) = true))

theorem ne_of_isBareKeyChar {c d : Char} (h : isBareKeyChar c) (hd : ¬isBareKeyChar d) : c ≠ d :=
  fun heq => hd (heq ▸ h)

theorem isSolid_of_isBareKeyChar {c : Char} (h : isBareKeyChar c) : IsSolid c := by
  have hother : ∀ d, ¬isBareKeyChar d → c ≠ d := fun d => ne_of_isBareKeyChar h
  refine ⟨⟨fun hblank => ?_, hother _ (by decide), hother _ (by decide)⟩, hother _ (by decide)⟩
  simp only [isBlankChar, Bool.or_eq_true, decide_eq_true_eq] at hblank
  rcases hblank with hspace | htab
  · exact hother _ (by decide) hspace
  · exact hother _ (by decide) htab

/-- Whether a text does not go on with a bare key. -/
def EndsKey (rest : List Char) : Prop :=
  ∀ c, rest.head? = some c → ¬isBareKeyChar c

section Key

variable {key : String} (h : Bare key)

include h

theorem Bare.keyText : keyText key = key.toList :=
  if_pos h

theorem Bare.exists_cons :
    ∃ c t, key.toList = c :: t ∧ isBareKeyChar c ∧ ∀ d ∈ t, isBareKeyChar d := by
  rw [Bare, Bool.and_eq_true] at h
  have hne : key.toList ≠ [] := by
    intro hnil
    rw [String.toList_eq_nil_iff] at hnil
    subst hnil
    exact absurd h.1 (by decide)
  obtain ⟨c, t, hcons⟩ := List.exists_cons_of_ne_nil hne
  rw [hcons, List.all_eq_true, List.forall_mem_cons] at h
  exact ⟨c, t, hcons, h.2⟩

theorem Bare.keyPart? {rest : List Char} (hrest : EndsKey rest) :
    keyPart? (key.toList ++ rest) = some (key, rest) := by
  obtain ⟨c, t, hcons, hc, ht⟩ := h.exists_cons
  have hall : ∀ d ∈ c :: t, isBareKeyChar d = true := List.forall_mem_cons.2 ⟨hc, ht⟩
  have hunquoted : ¬((c :: t ++ rest).head? = some '"' || (c :: t ++ rest).head? = some '\'') := by
    rw [List.cons_append, List.head?_cons]
    simpa using ⟨ne_of_isBareKeyChar hc (by decide), ne_of_isBareKeyChar hc (by decide)⟩
  have hnone : rest.takeWhile isBareKeyChar = [] ∧ rest.dropWhile isBareKeyChar = rest := by
    cases rest with
    | nil => exact ⟨rfl, rfl⟩
    | cons d rest =>
      have hd := hrest d rfl
      exact ⟨List.takeWhile_cons_of_neg hd, List.dropWhile_cons_of_neg hd⟩
  rw [Toml.keyPart?, hcons, if_neg hunquoted, List.takeWhile_append_of_pos hall,
    List.dropWhile_append_of_pos hall, hnone.1, hnone.2, List.append_nil, ← hcons]
  show (if key.toList.isEmpty then none else some (String.ofList key.toList, rest)) = _
  rw [String.ofList_toList, hcons]
  rfl

theorem Bare.skipBlanks (rest : List Char) :
    skipBlanks (key.toList ++ rest) = key.toList ++ rest := by
  obtain ⟨c, t, hcons, hc, -⟩ := h.exists_cons
  rw [hcons, List.cons_append]
  exact skipBlanks_solid (isSolid_of_isBareKeyChar hc) _

end Key

/-- The parts of a key with points between them. -/
def dotted (parts : List String) : List Char :=
  List.intercalate ['.'] (parts.map keyText)

theorem dotted_cons_cons (part next : String) (parts : List String) :
    dotted (part :: next :: parts) = keyText part ++ '.' :: dotted (next :: parts) := by
  simp [dotted, List.intercalate_cons_cons]

section KeyParts

variable {fuel : Nat} {acc : List String} {part : String} {s t rest : List Char}

theorem keyParts?_last (h : keyPart? (skipBlanks s) = some (part, rest))
    (hdot : (skipBlanks rest).head? ≠ some '.') :
    keyParts? (fuel + 1) acc s = some (part :: acc, skipBlanks rest) := by
  rw [keyParts?, h, Option.bind_eq_bind, Option.bind_some]
  dsimp only
  split
  · next heq => exact absurd (congrArg List.head? heq) hdot
  · rfl

theorem keyParts?_point (h : keyPart? (skipBlanks s) = some (part, rest))
    (hdot : skipBlanks rest = '.' :: t) :
    keyParts? (fuel + 1) acc s = keyParts? fuel (part :: acc) t := by
  rw [keyParts?, h, Option.bind_eq_bind, Option.bind_some]
  dsimp only
  rw [hdot]
  rfl

end KeyParts

theorem keyParts?_dotted {parts : List String} (hne : parts ≠ []) (hbare : ∀ p ∈ parts, Bare p)
    {rest : List Char} (hrest : EndsKey rest) (hdot : (skipBlanks rest).head? ≠ some '.')
    {fuel : Nat} {acc : List String} (hfuel : parts.length ≤ fuel) :
    keyParts? fuel acc (dotted parts ++ rest) = some (parts.reverse ++ acc, skipBlanks rest) := by
  induction parts generalizing fuel acc with
  | nil => exact absurd rfl hne
  | cons part parts ih =>
    obtain ⟨fuel, rfl⟩ := Nat.exists_eq_succ_of_ne_zero (Nat.ne_of_gt (Nat.zero_lt_of_lt hfuel))
    obtain ⟨hpart, hparts⟩ := List.forall_mem_cons.1 hbare
    cases parts with
    | nil =>
      have hdotted : dotted [part] = part.toList := by
        simp [dotted, hpart.keyText]
      rw [hdotted]
      exact keyParts?_last (by rw [hpart.skipBlanks, hpart.keyPart? hrest]) hdot
    | cons next parts =>
      have hends : EndsKey ('.' :: (dotted (next :: parts) ++ rest)) := by
        intro c hc
        rw [← Option.some.inj hc]
        decide
      have hpoint := skipBlanks_solid (c := '.') (by decide) (dotted (next :: parts) ++ rest)
      rw [dotted_cons_cons, hpart.keyText, List.append_assoc, List.cons_append,
        keyParts?_point (by rw [hpart.skipBlanks, hpart.keyPart? hends]) hpoint,
        ih nofun hparts (Nat.le_of_succ_le_succ hfuel)]
      simp

theorem exists_cons_dotted {parts : List String} (hne : parts ≠ [])
    (hbare : ∀ p ∈ parts, Bare p) : ∃ c t, dotted parts = c :: t ∧ isBareKeyChar c := by
  obtain ⟨part, parts, rfl⟩ := List.exists_cons_of_ne_nil hne
  have hpart := hbare part List.mem_cons_self
  obtain ⟨c, t, hcons, hc, -⟩ := hpart.exists_cons
  cases parts with
  | nil => exact ⟨c, t, by rw [← hcons, ← hpart.keyText, dotted, List.map_singleton,
      List.intercalate_singleton], hc⟩
  | cons next parts =>
    refine ⟨c, t ++ '.' :: dotted (next :: parts), ?_, hc⟩
    rw [dotted_cons_cons, hpart.keyText, hcons, List.cons_append]

theorem length_le_dotted {parts : List String} (hbare : ∀ p ∈ parts, Bare p) :
    parts.length ≤ (dotted parts).length := by
  induction parts with
  | nil => exact Nat.zero_le _
  | cons part parts ih =>
    obtain ⟨hpart, hparts⟩ := List.forall_mem_cons.1 hbare
    have hlength : 1 ≤ (keyText part).length := by
      obtain ⟨c, t, hcons, -⟩ := hpart.exists_cons
      rw [hpart.keyText, hcons, List.length_cons]
      exact Nat.le_add_left 1 _
    cases parts with
    | nil =>
      rw [dotted, List.map_singleton, List.intercalate_singleton]
      exact hlength
    | cons next parts =>
      have hrest := ih hparts
      rw [dotted_cons_cons]
      simp only [List.length_cons, List.length_append] at hrest ⊢
      omega

/-- The path and the last part of a key are read back. -/
theorem key?_append (path : List String) (key : String) (hbare : ∀ p ∈ path ++ [key], Bare p)
    (hlevels : path.length + 1 < levelLimit) {rest : List Char} (hrest : EndsKey rest)
    (hdot : (skipBlanks rest).head? ≠ some '.') :
    key? (dotted (path ++ [key]) ++ rest) = some ((path, key), skipBlanks rest) := by
  have hfuel : (path ++ [key]).length ≤ (dotted (path ++ [key]) ++ rest).length + 1 := by
    have hlength := length_le_dotted hbare
    have happend : (dotted (path ++ [key]) ++ rest).length =
        (dotted (path ++ [key])).length + rest.length := List.length_append
    omega
  have hparts : keyParts? _ [] _ = some ((path ++ [key]).reverse ++ [], skipBlanks rest) :=
    keyParts?_dotted (by simp) hbare hrest hdot hfuel
  have hreverse : (path ++ [key]).reverse ++ [] = key :: path.reverse := by simp
  rw [hreverse] at hparts
  have hlength : (key :: path.reverse).length < levelLimit := by
    rwa [List.length_cons, List.length_reverse]
  rw [key?, hparts]
  show (if (key :: path.reverse).length < levelLimit then _ else _) = _
  rw [if_pos hlength, List.reverse_reverse]

/-! ## Single lines -/

/-- The line of an assignment. -/
theorem assignment?_append {key : String} {v : Data} (hkey : Bare key) (hv : Plain v)
    (levels : Nat) :
    ∃ c t, assignmentText (key, v) = .ok (c :: t ++ ['\n']) ∧ isBareKeyChar c ∧
      ∀ rest, assignment? (value? (levels + 1)) (c :: t ++ '\n' :: rest) =
        some (⟨[], key, v⟩, '\n' :: rest) := by
  obtain ⟨d, u, htext, hsolid, hread⟩ := value?_of_plain hv levels
  obtain ⟨c, t, hcons, hc, -⟩ := hkey.exists_cons
  have hassign : assignmentText (key, v) = (valueText v).map fun text =>
      keyText key ++ [' ', '=', ' '] ++ text ++ ['\n'] := by
    cases hv <;> rfl
  refine ⟨c, t ++ [' ', '=', ' '] ++ d :: u, ?_, hc, fun rest => ?_⟩
  · rw [hassign, htext, hkey.keyText, hcons]
    rfl
  · have hline : c :: (t ++ [' ', '=', ' '] ++ d :: u) ++ '\n' :: rest =
        dotted ([] ++ [key]) ++ ' ' :: '=' :: ' ' :: (d :: u ++ '\n' :: rest) := by
      simp [dotted, hkey.keyText, hcons]
    have hends : EndsKey (' ' :: '=' :: ' ' :: (d :: u ++ '\n' :: rest)) := by
      intro e he
      rw [← Option.some.inj he]
      decide
    have hequals : skipBlanks (' ' :: '=' :: ' ' :: (d :: u ++ '\n' :: rest)) =
        '=' :: ' ' :: (d :: u ++ '\n' :: rest) :=
      skipBlanks_of_solid (c := '=') (by decide) _ 1
    have hvalue : skipBlanks (' ' :: (d :: u ++ '\n' :: rest)) = d :: u ++ '\n' :: rest :=
      skipBlanks_of_solid hsolid _ 1
    have hkey' := key?_append [] key (by simpa using hkey) (by decide) hends
      (by rw [hequals]; simp)
    rw [hline, assignment?, hkey', hequals]
    show (value? (levels + 1) (skipBlanks _)).bind _ = _
    rw [hvalue, hread]
    rfl

section Step

variable {fuel : Nat} {sections : List Section} {header : Header} {as : List Assignment}

theorem lines?_nil :
    lines? (fuel + 1) sections header as [] =
      some (⟨header, as.reverse⟩ :: sections).reverse := rfl

theorem lines?_newline (rest : List Char) :
    lines? (fuel + 1) sections header as ('\n' :: rest) = lines? fuel sections header as rest := rfl

theorem lines?_assignment {key : String} {v : Data} (hkey : Bare key) (hv : Plain v) :
    ∃ text, assignmentText (key, v) = .ok text ∧ 1 ≤ text.length ∧ ∀ fuel sections header as rest,
      lines? (fuel + 1) sections header as (text ++ rest) =
        lines? fuel sections header (⟨[], key, v⟩ :: as) rest := by
  obtain ⟨c, t, htext, hc, hread⟩ := assignment?_append hkey hv (levelLimit - 2)
  refine ⟨_, htext, by simp, fun fuel sections header as rest => ?_⟩
  have hline : c :: t ++ ['\n'] ++ rest = c :: (t ++ '\n' :: rest) := by simp
  have hsolid := isSolid_of_isBareKeyChar hc
  have hend : lineEnd? (c :: (t ++ '\n' :: rest)) = none := by
    rw [lineEnd?, skipBlanks_solid hsolid, skipComment_of_solid hsolid]
    exact newline?_of_solid hsolid _
  rw [hline, lines?, skipBlanks_solid hsolid]
  split
  · next heq => cases heq
  · next heq => exact absurd (List.cons.inj heq).1 (ne_of_isBareKeyChar hc (by decide))
  · rw [hend]
    show (assignment? (value? (levelLimit - 2 + 1)) (c :: t ++ '\n' :: rest)).bind _ = _
    rw [hread]
    rfl

theorem lines?_header {path : List String} {key : String} (hbare : ∀ p ∈ path ++ [key], Bare p)
    (hlevels : path.length + 1 < levelLimit) (rest : List Char) :
    lines? (fuel + 1) sections header as (headerText (path ++ [key]) ++ rest) =
      lines? fuel (⟨header, as.reverse⟩ :: sections) (.table path key) [] rest := by
  have hline : headerText (path ++ [key]) ++ rest =
      '[' :: (dotted (path ++ [key]) ++ ']' :: '\n' :: rest) := by
    simp [headerText, dotted]
  have hends : EndsKey (']' :: '\n' :: rest) := by
    intro c hc
    rw [← Option.some.inj hc]
    decide
  have hbracket : skipBlanks (']' :: '\n' :: rest) = ']' :: '\n' :: rest :=
    skipBlanks_solid (by decide) _
  have hkey := key?_append path key hbare hlevels hends (by rw [hbracket]; simp)
  have hheader : header? (dotted (path ++ [key]) ++ ']' :: '\n' :: rest) =
      some (.table path key, '\n' :: rest) := by
    rw [header?.eq_def]
    split
    · next heq =>
      obtain ⟨c, t, hcons, hc⟩ := exists_cons_dotted (by simp) hbare
      rw [hcons, List.cons_append] at heq
      exact absurd (List.cons.inj heq).1 (ne_of_isBareKeyChar hc (by decide))
    · rw [hkey, hbracket]
      rfl
  rw [hline, lines?, skipBlanks_solid (by decide)]
  show (header? _).bind _ = _
  rw [hheader]
  rfl

end Step

/-! ## Blocks -/

/-- A header and the assignments below it. -/
structure Block where
  path : List String
  key : String
  entries : List (String × Data)

namespace Block

/-- What is written for a block. -/
def text (b : Block) : Except WriteFault (List Char) :=
  (b.entries.mapM assignmentText).map fun lines => headerText (b.path ++ [b.key]) ++ lines.flatten

/-- What is read from a block. -/
def toSection (b : Block) : Section where
  header := .table b.path b.key
  assignments := b.entries.map fun (key, v) => ⟨[], key, v⟩

/-- Whether a block is read back from what is written for it. -/
structure Fits (b : Block) : Prop where
  bare : ∀ p ∈ b.path ++ [b.key], Bare p
  levels : b.path.length + 1 < levelLimit
  entries : ∀ e ∈ b.entries, Bare e.1 ∧ Plain e.2

end Block

theorem lines?_assignments {entries : List (String × Data)}
    (h : ∀ e ∈ entries, Bare e.1 ∧ Plain e.2) :
    ∃ lines, entries.mapM assignmentText = .ok lines ∧ entries.length ≤ lines.flatten.length ∧
      ∀ fuel sections header as rest,
        lines? (fuel + entries.length) sections header as (lines.flatten ++ rest) =
          lines? fuel sections header
            ((entries.map fun (key, v) => ⟨[], key, v⟩).reverse ++ as) rest := by
  induction entries with
  | nil => exact ⟨[], rfl, Nat.le_refl 0, fun _ _ _ _ _ => rfl⟩
  | cons e entries ih =>
    obtain ⟨⟨hkey, hv⟩, hentries⟩ := List.forall_mem_cons.1 h
    obtain ⟨lines, hlines, hlength, hread⟩ := ih hentries
    obtain ⟨text, htext, hone, hline⟩ := lines?_assignment hkey hv
    refine ⟨text :: lines, ?_, ?_, fun fuel sections header as rest => ?_⟩
    · rw [List.mapM_cons, htext, hlines]
      rfl
    · rw [List.flatten_cons, List.length_append, List.length_cons]
      omega
    · have hfuel : fuel + (e :: entries).length = fuel + entries.length + 1 := by
        rw [List.length_cons]
        omega
      rw [hfuel, List.flatten_cons, List.append_assoc, hline, hread]
      simp

theorem lines?_block {b : Block} (h : b.Fits) :
    ∃ text, b.text = .ok text ∧ b.entries.length + 1 ≤ text.length ∧
      ∀ fuel sections header as rest,
        lines? (fuel + (b.entries.length + 1)) sections header as (text ++ rest) =
          lines? fuel (⟨header, as.reverse⟩ :: sections) b.toSection.header
            b.toSection.assignments.reverse rest := by
  obtain ⟨lines, hlines, hlength, hread⟩ := lines?_assignments h.entries
  refine ⟨headerText (b.path ++ [b.key]) ++ lines.flatten, ?_, ?_,
    fun fuel sections header as rest => ?_⟩
  · rw [Block.text, hlines]
    rfl
  · have hheader : 1 ≤ (headerText (b.path ++ [b.key])).length := Nat.le_add_left 1 _
    rw [List.length_append]
    omega
  · rw [← Nat.add_assoc, List.append_assoc, lines?_header h.bare h.levels, hread,
      List.append_nil]
    rfl

/-- Blocks are read one after the other, each into its section. -/
theorem lines?_blocks {bs : List Block} (h : ∀ b ∈ bs, b.Fits) :
    ∃ texts, bs.mapM Block.text = .ok texts ∧
      ∃ n ≤ (List.intercalate ['\n'] texts).length, ∀ fuel sections header as,
        lines? (fuel + n + 1) sections header as (List.intercalate ['\n'] texts) =
          some (sections.reverse ++ ⟨header, as.reverse⟩ :: bs.map Block.toSection) := by
  induction bs with
  | nil => exact ⟨[], rfl, 0, Nat.le_refl 0, fun fuel sections header as => by simp [lines?_nil]⟩
  | cons b bs ih =>
    obtain ⟨hb, hbs⟩ := List.forall_mem_cons.1 h
    obtain ⟨text, htext, hlength, hread⟩ := lines?_block hb
    obtain ⟨texts, htexts, n, hn, hrest⟩ := ih hbs
    have hmap : (b :: bs).mapM Block.text = .ok (text :: texts) := by
      rw [List.mapM_cons, htext, htexts]
      rfl
    refine ⟨text :: texts, hmap, ?_⟩
    cases texts with
    | nil =>
      -- nothing follows on the last block
      refine ⟨b.entries.length + 1, ?_, fun fuel sections header as => ?_⟩
      · rwa [List.intercalate_singleton]
      · obtain rfl : n = 0 := Nat.le_zero.1 hn
        have hfuel : fuel + (b.entries.length + 1) + 1 = fuel + 1 + (b.entries.length + 1) := by
          omega
        have hblock := hread (fuel + 1) sections header as []
        rw [List.append_nil] at hblock
        rw [List.intercalate_singleton, hfuel, hblock]
        refine (hrest fuel _ _ _).trans ?_
        rw [List.reverse_reverse]
        simp
    | cons next texts =>
      refine ⟨b.entries.length + 1 + 1 + n, ?_, fun fuel sections header as => ?_⟩
      · rw [List.intercalate_cons_cons]
        simp only [List.length_append, List.length_cons, List.length_nil]
        omega
      · have hfuel : fuel + (b.entries.length + 1 + 1 + n) + 1 =
            fuel + n + 1 + 1 + (b.entries.length + 1) := by
          omega
        rw [List.intercalate_cons_cons, hfuel, List.append_assoc, hread]
        show lines? (fuel + n + 1 + 1) _ _ _ ('\n' :: List.intercalate ['\n'] (next :: texts)) = _
        rw [lines?_newline, hrest, List.reverse_reverse]
        simp

/-- What is written for a block begins with the bracket of its header. -/
theorem Block.exists_cons {b : Block} {text : List Char} (h : b.text = .ok text) :
    ∃ t, text = '[' :: t := by
  rw [Block.text] at h
  cases hlines : b.entries.mapM assignmentText with
  | error e =>
    rw [hlines] at h
    cases h
  | ok lines =>
    rw [hlines] at h
    exact ⟨_, (Except.ok.inj h).symm⟩

theorem exists_of_mapM_cons {α β ε : Type} {f : α → Except ε β} {a : α} {as : List α} {bs : List β}
    (h : (a :: as).mapM f = .ok bs) :
    ∃ b bs', f a = .ok b ∧ as.mapM f = .ok bs' ∧ bs = b :: bs' := by
  rw [List.mapM_cons] at h
  cases hb : f a with
  | error e =>
    rw [hb] at h
    cases h
  | ok b =>
    cases hbs : as.mapM f with
    | error e =>
      rw [hb, hbs] at h
      cases h
    | ok bs' =>
      rw [hb, hbs] at h
      exact ⟨b, bs', rfl, rfl, (Except.ok.inj h).symm⟩

theorem dropMark_blocks {bs : List Block} {texts : List (List Char)}
    (h : bs.mapM Block.text = .ok texts) :
    dropMark (List.intercalate ['\n'] texts) = List.intercalate ['\n'] texts := by
  cases bs with
  | nil =>
    obtain rfl := Except.ok.inj h
    rfl
  | cons b bs =>
    obtain ⟨text, rest, htext, -, rfl⟩ := exists_of_mapM_cons h
    obtain ⟨t, rfl⟩ := b.exists_cons htext
    cases rest with
    | nil => rw [List.intercalate_singleton]; rfl
    | cons next rest => rw [List.intercalate_cons_cons]; rfl

/-- Reading a document comes down to assembling the sections of its blocks. -/
theorem read?_blocks {bs : List Block} (h : ∀ b ∈ bs, b.Fits) :
    ∃ texts, bs.mapM Block.text = .ok texts ∧
      read? (String.ofList (List.intercalate ['\n'] texts)) =
        assemble? (⟨.top, []⟩ :: bs.map Block.toSection) := by
  obtain ⟨texts, htexts, n, hn, hread⟩ := lines?_blocks h
  refine ⟨texts, htexts, ?_⟩
  obtain ⟨fuel, hfuel⟩ := Nat.exists_eq_add_of_le' hn
  rw [read?, String.toList_ofList, dropMark_blocks htexts, hfuel, hread]
  rfl

end ResetCheck.Toml
