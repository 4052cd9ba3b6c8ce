import ResetCheck.Proofs.Toml.Document

/-!
# Every key stands once

Whatever a text looks like, in what is read of it no key stands twice in a table, tables in lists
left aside.  An assignment makes a new entry or none, and a header opens a table under a new key or
one that was only passed.  The same holds of inline tables, which are put together in the same way.

* `Entries.descend_distinct`: what holds of a change to a table holds of a change further down.
* `Entries.addSection_distinct`: a section does not make a key stand twice.
* `value?_distinct`: nor does a value.
* `read?_distinct`: nor does a document.
-/

namespace ResetCheck.Toml

theorem distinct_of_not_isTable {v : Data} (h : ¬isTable v) : Distinct v := by
  cases v with
  | record entries => exact absurd rfl h
  | _ => trivial

theorem distinctEntries_iff {entries : List (String × Data)} :
    DistinctEntries entries ↔ ∀ e ∈ entries, Distinct e.2 := by
  induction entries with
  | nil => exact ⟨fun _ => nofun, fun _ => trivial⟩
  | cons e entries ih => rw [DistinctEntries, ih, List.forall_mem_cons]

theorem entriesData_eq_map (es : Entries) :
    entriesData es = es.map fun e => (e.1, e.2.toData) := by
  induction es with
  | nil => rfl
  | cons e es ih => rw [entriesData, ih, List.map_cons]

/-! ## Tables that are put together -/

namespace Entries

variable {es es' sub : Entries} {key : String} {node : Node}

/-- Whether no key stands twice, neither among entries nor in a table below them. -/
def Distinct (es : Entries) : Prop :=
  (es.map (·.1)).Nodup ∧ ∀ e ∈ es, Toml.Distinct e.2.toData

theorem distinct_toData (origin : Origin) :
    Toml.Distinct (Node.table origin es).toData ↔ es.Distinct := by
  rw [Node.toData, Toml.Distinct, distinctEntries_iff, entriesData_eq_map, List.map_map,
    List.forall_mem_map]
  rfl

theorem Distinct.nil : Distinct [] :=
  ⟨List.nodup_nil, nofun⟩

theorem mem_of_find? (h : es.find? key = some node) : (key, node) ∈ es := by
  obtain ⟨before, rest, rfl, -⟩ := List.lookup_eq_some_iff.1 h
  exact List.mem_append_right _ List.mem_cons_self

theorem fresh_of_find? (h : es.find? key = none) : Fresh key es := by
  intro e he heq
  exact absurd (List.lookup_eq_none_iff.1 h e he) (by simp [heq])

namespace Distinct

theorem find? (h : es.Distinct) (hfind : es.find? key = some node) :
    Toml.Distinct node.toData :=
  h.2 _ (mem_of_find? hfind)

theorem concat (h : es.Distinct) (hfresh : Fresh key es) (hnode : Toml.Distinct node.toData) :
    Distinct (es ++ [(key, node)]) := by
  constructor
  · rw [List.map_append, List.nodup_append]
    refine ⟨h.1, List.pairwise_singleton _ _, ?_⟩
    intro a ha b hb
    obtain ⟨e, he, rfl⟩ := List.mem_map.1 ha
    rw [List.mem_singleton.1 hb]
    exact hfresh e he
  · intro e he
    rcases List.mem_append.1 he with he | he
    · exact h.2 e he
    · rw [List.mem_singleton.1 he]
      exact hnode

theorem replace (h : es.Distinct) (hnode : Toml.Distinct node.toData) :
    (es.replace key node).Distinct := by
  have hkeys : (es.replace key node).map (·.1) = es.map (·.1) := by
    rw [Entries.replace, List.map_map]
    refine List.map_congr_left fun e _ => ?_
    show (if e.1 = key then (e.1, node) else (e.1, e.2)).1 = e.1
    split <;> rfl
  refine ⟨hkeys ▸ h.1, fun e he => ?_⟩
  obtain ⟨old, hold, rfl⟩ := List.mem_map.1 he
  dsimp only
  split
  · exact hnode
  · exact h.2 old hold

theorem erase (h : es.Distinct) : (es.erase key).Distinct :=
  ⟨(List.filter_sublist.map _).nodup h.1, fun e he => h.2 e (List.mem_filter.1 he).1⟩

end Distinct

theorem fresh_erase (key : String) (es : Entries) : Fresh key (es.erase key) :=
  fun _ he => bne_iff_ne.1 (List.mem_filter.1 he).2

/-- If a change to a table keeps its keys distinct, the same change further down does. -/
theorem descend_distinct {way : Origin} {change : Origin → Entries → Option Entries}
    (hchange : ∀ origin es es', es.Distinct → change origin es = some es' → es'.Distinct)
    {path : List String} {origin : Origin} (h : es.Distinct)
    (hdescend : descend way change path origin es = some es') : es'.Distinct := by
  induction path generalizing origin es es' with
  | nil => exact hchange origin es es' h hdescend
  | cons key path ih =>
    rw [descend] at hdescend
    split at hdescend
    · next hnone =>
      obtain ⟨sub, hsub, rfl⟩ := Option.map_eq_some_iff.1 hdescend
      exact h.concat (fresh_of_find? hnone) ((distinct_toData _).2 (ih .nil hsub))
    · cases hdescend
    · obtain ⟨sub, -, rfl⟩ := Option.map_eq_some_iff.1 hdescend
      exact h.replace trivial
    · next origin' sub hfind =>
      split at hdescend
      · cases hdescend
      · obtain ⟨sub', hsub', rfl⟩ := Option.map_eq_some_iff.1 hdescend
        exact h.replace ((distinct_toData _).2 (ih ((distinct_toData _).1 (h.find? hfind)) hsub'))

variable {a : Assignment} {as : List Assignment}

theorem assign_distinct (h : es.Distinct) (hvalue : Toml.Distinct a.value)
    (hassign : assign es a = some es') : es'.Distinct := by
  refine descend_distinct (fun origin es es' hes hchange => ?_) h hassign
  split at hchange
  · cases hchange
  · next hnew =>
    obtain rfl := Option.some.inj hchange
    rw [not_or, Option.not_isSome_iff_eq_none] at hnew
    exact hes.concat (fresh_of_find? hnew.2) hvalue

theorem assignAll_distinct (h : es.Distinct) (hvalues : ∀ a ∈ as, Toml.Distinct a.value)
    (hassign : assignAll es as = some es') : es'.Distinct := by
  induction as generalizing es with
  | nil => exact Option.some.inj hassign ▸ h
  | cons a as ih =>
    obtain ⟨ha, has⟩ := List.forall_mem_cons.1 hvalues
    obtain ⟨es₁, hfirst, hrest⟩ := Option.bind_eq_some_iff.1 hassign
    exact ih (assign_distinct h ha hfirst) has hrest

/-- What a table holds when a header opens it. -/
def opening? (key : String) (es : Entries) : Option Entries :=
  match es.find? key with
  | none => some []
  | some (.table .passed sub) => some sub
  | some _ => none

theorem openTable_eq (key : String) (as : List Assignment) (es : Entries) :
    openTable key as es = (opening? key es).bind fun start =>
      (assignAll start as).map fun sub => es.erase key ++ [(key, .table .opened sub)] := by
  show (opening? key es).bind (fun start => (assignAll start as).bind fun sub => some _) = _
  simp only [Option.map_eq_bind]
  rfl

theorem opening?_distinct (h : es.Distinct) (hopening : opening? key es = some sub) :
    sub.Distinct := by
  rw [opening?] at hopening
  split at hopening
  · exact Option.some.inj hopening ▸ .nil
  · next sub' hfind =>
    exact Option.some.inj hopening ▸ (distinct_toData _).1 (h.find? hfind)
  · cases hopening

theorem openTable_distinct (h : es.Distinct) (hvalues : ∀ a ∈ as, Toml.Distinct a.value)
    (hopen : openTable key as es = some es') : es'.Distinct := by
  rw [openTable_eq] at hopen
  obtain ⟨start, hstart, hopen⟩ := Option.bind_eq_some_iff.1 hopen
  obtain ⟨sub, hsub, rfl⟩ := Option.map_eq_some_iff.1 hopen
  exact h.erase.concat (fresh_erase key es) ((distinct_toData _).2
    (assignAll_distinct (opening?_distinct h hstart) hvalues hsub))

theorem addTable_distinct (h : es.Distinct) (hadd : addTable key as es = some es') :
    es'.Distinct := by
  rw [addTable] at hadd
  split at hadd
  · next hnone =>
    obtain ⟨sub, -, rfl⟩ := Option.map_eq_some_iff.1 hadd
    exact h.concat (fresh_of_find? hnone) trivial
  · obtain ⟨sub, -, rfl⟩ := Option.map_eq_some_iff.1 hadd
    exact h.replace trivial
  · cases hadd

theorem addSection_distinct {s : Section} (h : es.Distinct)
    (hvalues : ∀ a ∈ s.assignments, Toml.Distinct a.value)
    (hadd : addSection es s = some es') : es'.Distinct := by
  rw [addSection] at hadd
  split at hadd
  · exact assignAll_distinct h hvalues hadd
  · exact descend_distinct (fun _ _ _ hes hopen => openTable_distinct hes hvalues hopen) h hadd
  · exact descend_distinct (fun _ _ _ hes hopen => addTable_distinct hes hopen) h hadd

end Entries

/-- Whether the values of sections are data in which no key stands twice in a table. -/
def DistinctSections (sections : List Section) : Prop :=
  ∀ s ∈ sections, ∀ a ∈ s.assignments, Distinct a.value

theorem foldlM_distinct {sections : List Section} {start es : Entries}
    (h : DistinctSections sections) (hstart : Entries.Distinct start)
    (hes : sections.foldlM Entries.addSection start = some es) : Entries.Distinct es := by
  induction sections generalizing start with
  | nil => exact Option.some.inj hes ▸ hstart
  | cons s sections ih =>
    obtain ⟨hs, hsections⟩ := List.forall_mem_cons.1 h
    obtain ⟨es₁, hfirst, hrest⟩ := Option.bind_eq_some_iff.1 hes
    exact ih hsections (Entries.addSection_distinct hstart hs hfirst) hrest

theorem assemble?_distinct {sections : List Section} {data : Data} (h : DistinctSections sections)
    (hassemble : assemble? sections = some data) :
    ∃ entries, data = .record entries ∧ Distinct data := by
  obtain ⟨es, hes, rfl⟩ := Option.map_eq_some_iff.1 hassemble
  exact ⟨_, rfl, (Entries.distinct_toData .opened).2 (foldlM_distinct h .nil hes)⟩

theorem inline?_distinct {as : List Assignment} {v : Data} (h : ∀ a ∈ as, Distinct a.value)
    (hinline : inline? as = some v) : Distinct v := by
  obtain ⟨es, hes, rfl⟩ := Option.map_eq_some_iff.1 hinline
  exact (Entries.distinct_toData .opened).2 (Entries.assignAll_distinct .nil h hes)

/-! ## Values -/

theorem or_of_orElse {α : Type} {x y : Option α} {a : α} (h : (x <|> y) = some a) :
    x = some a ∨ y = some a := by
  cases x with
  | none => exact .inr h
  | some b => exact .inl h

section Scalar

variable {s rest : List Char} {v : Data}

theorem decimalReal?_not_isTable {negative : Bool} (h : decimalReal? negative s = some (v, rest)) :
    ¬isTable v := by
  simp only [decimalReal?, Option.bind_eq_bind, Option.bind_eq_some_iff] at h
  obtain ⟨whole, -, fraction, -, exponent, -, h⟩ := h
  split at h
  · cases h
  · split at h
    · cases h
    · cases h
      exact Bool.false_ne_true

theorem specialReal?_not_isTable {negative : Bool} (h : specialReal? negative s = some (v, rest)) :
    ¬isTable v := by
  rw [specialReal?.eq_def] at h
  split at h
  · cases h
    exact Bool.false_ne_true
  · cases h
    exact Bool.false_ne_true
  · cases h

theorem basedInteger?_not_isTable {base : Nat} (h : basedInteger? base s = some (v, rest)) :
    ¬isTable v := by
  simp only [basedInteger?, Option.bind_eq_bind, Option.bind_eq_some_iff] at h
  obtain ⟨digits, -, n, -, h⟩ := h
  split at h
  · cases h
    exact Bool.false_ne_true
  · cases h

theorem integer?_not_isTable (h : integer? s = some (v, rest)) : ¬isTable v := by
  rw [integer?.eq_def] at h
  split at h
  · exact basedInteger?_not_isTable h
  · exact basedInteger?_not_isTable h
  · exact basedInteger?_not_isTable h
  · generalize sign s = signed at h
    obtain ⟨negative, t⟩ := signed
    obtain ⟨⟨digits, u⟩, -, h⟩ := Option.bind_eq_some_iff.1 h
    have hint : ∃ n, v = .int n := by
      dsimp only at h
      split at h
      · split at h
        · exact ⟨_, (congrArg Prod.fst (Option.some.inj h)).symm⟩
        · cases h
      · split at h
        · exact ⟨_, (congrArg Prod.fst (Option.some.inj h)).symm⟩
        · cases h
    obtain ⟨n, rfl⟩ := hint
    exact Bool.false_ne_true

theorem scalar?_not_isTable (h : scalar? s = some (v, rest)) : ¬isTable v := by
  rw [scalar?.eq_def] at h
  split at h
  · cases h
    exact Bool.false_ne_true
  · cases h
    exact Bool.false_ne_true
  · split at h
    · obtain ⟨t, -, heq⟩ := Option.map_eq_some_iff.1 h
      cases heq
      exact Bool.false_ne_true
    · rcases or_of_orElse h with hmoment | h
      · obtain ⟨t, -, heq⟩ := Option.map_eq_some_iff.1 hmoment
        cases heq
        exact Bool.false_ne_true
      rcases or_of_orElse h with hreal | hinteger
      · rcases or_of_orElse hreal with hdecimal | hspecial
        · exact decimalReal?_not_isTable hdecimal
        · exact specialReal?_not_isTable hspecial
      · exact integer?_not_isTable hinteger

end Scalar

/-- Whether what a reader reads is data in which no key stands twice in a table. -/
def ReadsDistinct (value : Reader Data) : Prop :=
  ∀ s v rest, value s = some (v, rest) → Distinct v

section Nested

variable {value : Reader Data} {fuel : Nat} {s rest : List Char} {v : Data}

theorem items?_not_isTable {acc : List Data} (h : items? value fuel acc s = some (v, rest)) :
    ¬isTable v := by
  induction fuel generalizing acc s with
  | zero => cases h
  | succ fuel ih =>
    rw [items?] at h
    split at h
    · cases h
      exact Bool.false_ne_true
    · obtain ⟨⟨item, t⟩, -, h⟩ := Option.bind_eq_some_iff.1 h
      dsimp only at h
      split at h
      · exact ih h
      · cases h
        exact Bool.false_ne_true
      · cases h

theorem assignment?_distinct {a : Assignment} (hvalue : ReadsDistinct value)
    (h : assignment? value s = some (a, rest)) : Distinct a.value := by
  simp only [assignment?, Option.bind_eq_bind, Option.bind_eq_some_iff] at h
  obtain ⟨⟨⟨path, key⟩, t⟩, -, u, -, ⟨v, w⟩, hv, heq⟩ := h
  cases heq
  exact hvalue _ _ _ hv

theorem members?_distinct {acc as : List Assignment} (hvalue : ReadsDistinct value)
    (hacc : ∀ a ∈ acc, Distinct a.value) (h : members? value fuel acc s = some (as, rest)) :
    ∀ a ∈ as, Distinct a.value := by
  induction fuel generalizing acc s with
  | zero => cases h
  | succ fuel ih =>
    obtain ⟨⟨a, t⟩, ha, h⟩ := Option.bind_eq_some_iff.1 h
    have hall : ∀ a' ∈ a :: acc, Distinct a'.value :=
      List.forall_mem_cons.2 ⟨assignment?_distinct hvalue ha, hacc⟩
    dsimp only at h
    split at h
    · exact ih hall h
    · cases h
      exact fun a' ha' => hall a' (List.mem_reverse.1 ha')
    · cases h

end Nested

theorem value?_distinct (levels : Nat) : ReadsDistinct (value? levels) := by
  induction levels with
  | zero => exact fun s v rest h => distinct_of_not_isTable (scalar?_not_isTable h)
  | succ levels ih =>
    intro s v rest h
    rw [value?.eq_def] at h
    dsimp only at h
    split at h
    · exact distinct_of_not_isTable (items?_not_isTable h)
    · split at h
      · cases h
        exact ⟨List.nodup_nil, trivial⟩
      · simp only [Option.bind_eq_bind, Option.bind_eq_some_iff] at h
        obtain ⟨⟨as, t⟩, has, v', hinline, heq⟩ := h
        cases heq
        exact inline?_distinct (members?_distinct ih (List.forall_mem_nil _) has) hinline
    · exact distinct_of_not_isTable (scalar?_not_isTable h)

/-! ## Documents -/

theorem lines?_distinct {fuel : Nat} {sections done : List Section} {header : Header}
    {as : List Assignment} {s : List Char} (hdone : DistinctSections done)
    (has : ∀ a ∈ as, Distinct a.value) (h : lines? fuel done header as s = some sections) :
    DistinctSections sections := by
  induction fuel generalizing done header as s with
  | zero => cases h
  | succ fuel ih =>
    have hnext : DistinctSections (⟨header, as.reverse⟩ :: done) :=
      List.forall_mem_cons.2 ⟨fun a ha => has a (List.mem_reverse.1 ha), hdone⟩
    rw [lines?] at h
    dsimp only at h
    split at h
    · cases h
      exact fun s hs => hnext s (List.mem_reverse.1 hs)
    · simp only [Option.bind_eq_bind, Option.bind_eq_some_iff] at h
      obtain ⟨⟨next, t⟩, -, u, -, h⟩ := h
      exact ih hnext (List.forall_mem_nil _) h
    · split at h
      · exact ih hdone has h
      · simp only [Option.bind_eq_bind, Option.bind_eq_some_iff] at h
        obtain ⟨⟨a, t⟩, ha, u, -, h⟩ := h
        exact ih hdone (List.forall_mem_cons.2
          ⟨assignment?_distinct (value?_distinct _) ha, has⟩) h

/-- A text that can be read is a table in which no key stands twice. -/
theorem read?_distinct {text : String} {data : Data} (h : read? text = some data) :
    ∃ entries, data = .record entries ∧ Distinct data := by
  obtain ⟨sections, hsections, hassemble⟩ := Option.bind_eq_some_iff.1 h
  exact assemble?_distinct
    (lines?_distinct (List.forall_mem_nil _) (List.forall_mem_nil _) hsections) hassemble

end ResetCheck.Toml
