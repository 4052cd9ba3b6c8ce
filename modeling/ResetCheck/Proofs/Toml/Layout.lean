import Mathlib.Data.List.Induction
import ResetCheck.Proofs.Toml.Keys

/-!
# Documents in any order

A document is made of assignments before the first header and of blocks below headers.  In whatever
order the blocks come, and the assignments in them, the same values stand under the same paths: a
header may come before or after those of the tables around its table, and tables without a header
are there if a header passes through them.

* `Data.at?`, `Contents`: what stands under which path.
* `Entries.exists_descend`: what a block adds to the tables there are.
* `Holds`, `exists_assembled`: what stands in the tables that a document makes.
* `read?_document`: what is read of a document.
-/

namespace ResetCheck

namespace Data

/-- What a path of keys leads to. -/
def at? : List String → Data → Option Data
  | [], v => some v
  | key :: path, v => (v.get? key).bind (at? path)

theorem at?_append (data : Data) (path rest : List String) :
    data.at? (path ++ rest) = (data.at? path).bind (at? rest) := by
  induction path generalizing data with
  | nil => rfl
  | cons key path ih =>
    show (data.get? key).bind (at? (path ++ rest)) =
      ((data.get? key).bind (at? path)).bind (at? rest)
    cases data.get? key with
    | none => rfl
    | some v => exact ih v

/-- The entries that data has under a path, none if there is no table. -/
def entriesAt (data : Data) (path : List String) : List (String × Data) :=
  match data.at? path with
  | some (.record entries) => entries
  | _ => []

theorem at?_concat (data : Data) (path : List String) (key : String) :
    data.at? (path ++ [key]) = find? key (data.entriesAt path) := by
  rw [at?_append, entriesAt]
  cases data.at? path with
  | none => rfl
  | some v =>
    cases v with
    | record entries =>
      show (find? key entries).bind (at? []) = find? key entries
      cases find? key entries <;> rfl
    | _ => rfl

end Data

namespace Toml

/-! ## What stands under a path -/

/-- What a path leads to while a document is put together, but for lists of tables. -/
def Node.at? : List String → Node → Option Node
  | [], n => some n
  | key :: path, .table _ es => (Entries.find? key es).bind (at? path)
  | _ :: _, _ => none

/-- What a node is, without what a table holds. -/
inductive Kind
  | value (v : Data)
  | table (origin : Origin)
  | tables

def Node.kind : Node → Kind
  | leaf v => .value v
  | table origin _ => .table origin
  | tables _ _ => .tables

/-- What kind of node a path leads to. -/
def Node.kindAt? (path : List String) (n : Node) : Option Kind :=
  (n.at? path).map kind

section Kinds

variable {key : String} {origin : Origin} {es : Entries}

theorem kindAt?_cons (key : String) (path : List String) (origin : Origin) (es : Entries) :
    (Node.table origin es).kindAt? (key :: path) = (es.find? key).bind (Node.kindAt? path) := by
  show ((es.find? key).bind (Node.at? path)).map Node.kind = _
  rw [Option.map_bind]
  rfl

theorem find?_eq_none_iff : es.find? key = none ↔ (Node.table origin es).kindAt? [key] = none := by
  rw [kindAt?_cons]
  cases es.find? key with
  | none => exact ⟨fun _ => rfl, fun _ => rfl⟩
  | some node => exact ⟨nofun, nofun⟩

end Kinds

namespace Entries

variable {key : String} {es es' : Entries} {node old : Node}

/-- Whether entries have a node under a key, and else what other entries have. -/
def Puts (key : String) (node : Node) (es es' : Entries) : Prop :=
  ∀ k, es'.find? k = if k = key then some node else es.find? k

theorem find?_cons (e : String × Node) (es : Entries) (k : String) :
    Entries.find? k (e :: es) = if k = e.1 then some e.2 else es.find? k := by
  rw [Entries.find?, List.lookup_cons]
  by_cases hk : k = e.1
  · rw [if_pos hk, beq_iff_eq.2 hk]
  · rw [if_neg hk, beq_eq_false_iff_ne.2 hk]
    rfl

theorem find?_append (es es' : Entries) (k : String) :
    Entries.find? k (es ++ es') = (es.find? k).or (es'.find? k) :=
  List.lookup_append

theorem find?_concat (es : Entries) (key : String) (node : Node) (k : String) :
    Entries.find? k (es ++ [(key, node)]) =
      (es.find? k).or (if k = key then some node else none) := by
  rw [find?_append, find?_cons]
  rfl

theorem puts_concat (h : es.find? key = none) : Puts key node es (es ++ [(key, node)]) := by
  intro k
  rw [find?_concat]
  by_cases hk : k = key
  · rw [if_pos hk, if_pos hk, hk, h]
    rfl
  · rw [if_neg hk, if_neg hk, Option.or_none]

theorem find?_erase (es : Entries) {k : String} (hk : k ≠ key) :
    (es.erase key).find? k = es.find? k := by
  induction es with
  | nil => rfl
  | cons e es ih =>
    by_cases he : e.1 = key
    · have hne : k ≠ e.1 := he ▸ hk
      have herase : Entries.erase key (e :: es) = Entries.erase key es :=
        List.filter_cons_of_neg (by simpa using he)
      rw [herase, ih, find?_cons, if_neg hne]
    · have herase : Entries.erase key (e :: es) = e :: Entries.erase key es :=
        List.filter_cons_of_pos (by simpa using he)
      rw [herase, find?_cons, find?_cons, ih]

theorem puts_erase : Puts key node es (es.erase key ++ [(key, node)]) := by
  intro k
  rw [find?_concat]
  by_cases hk : k = key
  · have hnone : (es.erase key).find? k = none := hk ▸ (fresh_erase key es).find?
    rw [if_pos hk, if_pos hk, hnone]
    rfl
  · rw [if_neg hk, if_neg hk, Option.or_none, find?_erase es hk]

theorem find?_replace (es : Entries) (key : String) (node : Node) (k : String) :
    (es.replace key node).find? k =
      if k = key then (es.find? k).map fun _ => node else es.find? k := by
  induction es with
  | nil => exact (ite_self _).symm
  | cons e es ih =>
    have hreplace : Entries.replace key node (e :: es) =
        (e.1, if e.1 = key then node else e.2) :: Entries.replace key node es := by
      refine List.cons_eq_cons.2 ⟨?_, rfl⟩
      show (if e.1 = key then (e.1, node) else (e.1, e.2)) = _
      split <;> rfl
    rw [hreplace, find?_cons, find?_cons, ih]
    by_cases hk : k = e.1
    · subst hk
      rw [if_pos rfl, if_pos rfl]
      split <;> rfl
    · rw [if_neg hk, if_neg hk]

theorem puts_replace (h : es.find? key = some old) : Puts key node es (es.replace key node) := by
  intro k
  rw [find?_replace]
  by_cases hk : k = key
  · rw [if_pos hk, if_pos hk, hk, h]
    rfl
  · rw [if_neg hk, if_neg hk]

theorem Puts.kindAt? (h : Puts key node es es') (k : String) (path : List String)
    (origin : Origin) :
    (Node.table origin es').kindAt? (k :: path) =
      if k = key then node.kindAt? path else (Node.table origin es).kindAt? (k :: path) := by
  rw [kindAt?_cons, kindAt?_cons, h k]
  split <;> rfl

/-! ## Blocks -/

end Entries

/-- The path of the table that a block is about. -/
def Block.name (b : Block) : List String :=
  b.path ++ [b.key]

/-- Whether there is room for a block: nothing but tables on the way to its own, its own table not
opened yet, and nothing under its keys. -/
structure Block.Room (b : Block) (n : Node) : Prop where
  nodup : (b.entries.map (·.1)).Nodup
  way : ∀ q, q <+: b.path → n.kindAt? q = none ∨ ∃ origin, n.kindAt? q = some (.table origin)
  name : n.kindAt? b.name = none ∨ n.kindAt? b.name = some (.table .passed)
  entries : ∀ e ∈ b.entries, n.kindAt? (b.name ++ [e.1]) = none

/-- What a block adds to the tables there are. -/
structure Block.Adds (b : Block) (n n' : Node) : Prop where
  opened : n'.kindAt? b.name = some (.table .opened)
  assigned : ∀ e ∈ b.entries, n'.kindAt? (b.name ++ [e.1]) = some (.value e.2)
  way : ∀ q, q <+: b.path → n'.kindAt? q = some ((n.kindAt? q).getD (.table .passed))
  other : ∀ q, ¬q <+: b.path → q ≠ b.name → (∀ e ∈ b.entries, q ≠ b.name ++ [e.1]) →
    n'.kindAt? q = n.kindAt? q

namespace Entries

variable {key : String} {es : Entries} {entries : List (String × Data)} {origin : Origin}

theorem find?_leaves (hnodup : (entries.map (·.1)).Nodup) {e : String × Data} (he : e ∈ entries) :
    (leaves entries).find? e.1 = some (.leaf e.2) := by
  induction entries with
  | nil => cases he
  | cons e' entries ih =>
    rw [List.map_cons, List.nodup_cons] at hnodup
    have hleaves : leaves (e' :: entries) = (e'.1, .leaf e'.2) :: leaves entries := rfl
    rw [hleaves, find?_cons]
    rcases List.mem_cons.1 he with rfl | he
    · exact if_pos rfl
    · have hne : e.1 ≠ e'.1 := fun heq => hnodup.1 (heq ▸ List.mem_map.2 ⟨e, he, rfl⟩)
      rw [if_neg hne]
      exact ih hnodup.2 he

theorem find?_leaves_eq_none {k : String} (h : ∀ e ∈ entries, k ≠ e.1) :
    (leaves entries).find? k = none := by
  refine Fresh.find? fun e he => ?_
  obtain ⟨a, ha, rfl⟩ := List.mem_map.1 he
  exact (h a ha).symm

/-- What a header finds in the table that it opens. -/
theorem exists_opening
    (h : (Node.table origin es).kindAt? [key] = none ∨
      (Node.table origin es).kindAt? [key] = some (.table .passed)) :
    ∃ start, opening? key es = some start ∧ ∀ k path o,
      (Node.table o start).kindAt? (k :: path) =
        (Node.table origin es).kindAt? (key :: k :: path) := by
  rw [opening?]
  cases hfind : es.find? key with
  | none =>
    refine ⟨[], rfl, fun k path o => ?_⟩
    rw [kindAt?_cons, kindAt?_cons, hfind]
    rfl
  | some node =>
    have hkind : (Node.table origin es).kindAt? [key] = some node.kind := by
      rw [kindAt?_cons, hfind]
      rfl
    rw [hkind] at h
    cases node with
    | table origin' sub =>
      have hpassed : origin' = .passed := by
        rcases h with h | h
        · cases h
        · exact Kind.table.inj (Option.some.inj h)
      subst hpassed
      refine ⟨sub, rfl, fun k path o => ?_⟩
      rw [kindAt?_cons, kindAt?_cons _ _ origin, hfind]
      exact (kindAt?_cons k path .passed sub).symm
    | leaf v => rcases h with h | h <;> cases h
    | tables earlier last => rcases h with h | h <;> cases h

/-- A header opens its table if there is room, and adds its block. -/
theorem exists_openTable {b : Block} (hpath : b.path = []) (h : b.Room (.table origin es)) :
    ∃ es', openTable b.key b.toSection.assignments es = some es' ∧
      b.Adds (.table origin es) (.table origin es') := by
  have hname : b.name = [b.key] := by rw [Block.name, hpath, List.nil_append]
  obtain ⟨hnodup, -, hopen, hentries⟩ := h
  rw [hname] at hopen hentries
  obtain ⟨start, hstart, hbelow⟩ := exists_opening hopen
  have hnew : ∀ e ∈ b.entries, start.find? e.1 = none := fun e he =>
    find?_eq_none_iff.2 ((hbelow e.1 [] .opened).trans (hentries e he))
  have hassign : assignAll start b.toSection.assignments = some (start ++ leaves b.entries) :=
    assignAll_leaves hnodup fun e he => fresh_of_find? (hnew e he)
  have hputs : Puts b.key (.table .opened (start ++ leaves b.entries)) es
      (es.erase b.key ++ [(b.key, .table .opened (start ++ leaves b.entries))]) := puts_erase
  refine ⟨_, by rw [openTable_eq, hstart, Option.bind_some, hassign]; rfl, ?_, ?_, ?_, ?_⟩
  · rw [hname, hputs.kindAt?, if_pos rfl]
    rfl
  · intro e he
    rw [hname, List.singleton_append, hputs.kindAt?, if_pos rfl, kindAt?_cons,
      find?_append, hnew e he, find?_leaves hnodup he]
    rfl
  · intro q hq
    rw [hpath, List.prefix_nil] at hq
    rw [hq]
    rfl
  · intro q hq hne hnone
    rw [hname] at hne hnone
    cases q with
    | nil => exact absurd List.nil_prefix hq
    | cons k q =>
      rw [hputs.kindAt?]
      split
      · next hk =>
        subst hk
        cases q with
        | nil => exact absurd rfl hne
        | cons k' q =>
          rw [← hbelow k' q .opened, kindAt?_cons, kindAt?_cons, find?_append]
          by_cases hk' : ∃ e ∈ b.entries, k' = e.1
          · -- below an assigned value there is nothing
            obtain ⟨e, he, rfl⟩ := hk'
            rw [hnew e he, find?_leaves hnodup he]
            cases q with
            | nil => exact absurd rfl (hnone e he)
            | cons k'' q => rfl
          · rw [find?_leaves_eq_none fun e he heq => hk' ⟨e, he, heq⟩, Option.or_none]
      · rfl

/-- The first table on the way of a header comes to be if it is not there yet, and else is changed
where it is. -/
theorem exists_way {k : String} {path : List String} {change : Origin → Entries → Option Entries}
    (h : (Node.table origin es).kindAt? [k] = none ∨
      ∃ o, (Node.table origin es).kindAt? [k] = some (.table o)) :
    ∃ o sub, ((Node.table origin es).kindAt? [k]).getD (.table .passed) = .table o ∧
      (∀ q, q ≠ [] → (Node.table o sub).kindAt? q = (Node.table origin es).kindAt? (k :: q)) ∧
      ∀ sub', descend .passed change path o sub = some sub' →
        ∃ es', descend .passed change (k :: path) origin es = some es' ∧
          Puts k (.table o sub') es es' := by
  simp only [kindAt?_cons k] at h ⊢
  rw [descend]
  cases hfind : es.find? k with
  | none =>
    refine ⟨.passed, [], rfl, fun q hq => ?_, fun sub' hsub' => ?_⟩
    · cases q with
      | nil => exact absurd rfl hq
      | cons k' q => rfl
    · exact ⟨_, by dsimp only; rw [hsub']; rfl, puts_concat hfind⟩
  | some node =>
    rw [hfind] at h
    cases node with
    | table o sub =>
      refine ⟨o, sub, rfl, fun q _ => rfl, fun sub' hsub' => ⟨_, ?_, puts_replace hfind⟩⟩
      have hway : ¬(Origin.passed = .dotted ∧ o = .opened) := by rintro ⟨⟨⟩, -⟩
      dsimp only
      rw [if_neg hway, hsub']
      rfl
    | leaf v => rcases h with h | ⟨_, h⟩ <;> cases h
    | tables earlier last => rcases h with h | ⟨_, h⟩ <;> cases h

/-- A block is added if there is room for it. -/
theorem exists_descend {path : List String} {key : String} {as : List Assignment}
    (has : as = (Block.toSection ⟨path, key, entries⟩).assignments)
    (h : Block.Room ⟨path, key, entries⟩ (.table origin es)) :
    ∃ es', descend .passed (fun _ => openTable key as) path origin es = some es' ∧
      Block.Adds ⟨path, key, entries⟩ (.table origin es) (.table origin es') := by
  induction path generalizing origin es with
  | nil =>
    subst has
    exact exists_openTable rfl h
  | cons k path ih =>
    obtain ⟨hnodup, hway, hname, hentries⟩ := h
    obtain ⟨o, sub, hhere, hbelow, hdescend⟩ :=
      exists_way (hway [k] (List.cons_prefix_cons.2 ⟨rfl, List.nil_prefix⟩))
    have hroom : Block.Room ⟨path, key, entries⟩ (.table o sub) := by
      refine ⟨hnodup, fun q hq => ?_, ?_, fun e he => ?_⟩
      · cases q with
        | nil => exact .inr ⟨o, rfl⟩
        | cons k' q =>
          rw [hbelow _ (List.cons_ne_nil k' q)]
          exact hway _ (List.cons_prefix_cons.2 ⟨rfl, hq⟩)
      · rw [hbelow _ (by simp [Block.name])]
        exact hname
      · rw [hbelow _ (by simp)]
        exact hentries e he
    obtain ⟨sub', hsub', hopened, hassigned, hway', hother⟩ := ih has hroom
    obtain ⟨es', hes', hputs⟩ := hdescend sub' hsub'
    refine ⟨es', hes', ?_, fun e he => ?_, fun q hq => ?_, fun q hq hne hnone => ?_⟩
    · exact (hputs.kindAt? k _ origin).trans ((if_pos rfl).trans hopened)
    · exact (hputs.kindAt? k _ origin).trans ((if_pos rfl).trans (hassigned e he))
    · cases q with
      | nil => rfl
      | cons k' q =>
        obtain ⟨rfl, hpre⟩ := List.cons_prefix_cons.1 hq
        rw [hputs.kindAt?, if_pos rfl, hway' q hpre]
        cases q with
        | nil => exact congrArg some hhere.symm
        | cons k'' q => rw [hbelow _ (List.cons_ne_nil k'' q)]
    · cases q with
      | nil => exact absurd List.nil_prefix hq
      | cons k' q =>
        rw [hputs.kindAt?]
        split
        · next hk =>
          subst hk
          have hq' : ¬q <+: path := fun hpre => hq (List.cons_prefix_cons.2 ⟨rfl, hpre⟩)
          have hnil : q ≠ [] := fun hnil => hq' (hnil ▸ List.nil_prefix)
          rw [← hbelow q hnil]
          refine hother q hq' (fun heq => hne ?_) fun e he heq => hnone e he ?_
          · rw [heq]
            rfl
          · rw [heq]
            rfl
        · rfl

end Entries

/-! ## Documents -/

/-- What stands where: the values that are assigned and the tables there are. -/
structure Contents where
  assigns : List String → Data → Prop
  opens : List String → Prop

/-- The contents of data. -/
def Contents.ofData (data : Data) : Contents where
  assigns path v := data.at? path = some v ∧ ¬isTable v
  opens path := ∃ entries, data.at? path = some (.record entries)

section Paths

variable {data : Data} {path : List String}

theorem Distinct.at? (h : Distinct data) {v : Data} (hat : data.at? path = some v) :
    Distinct v := by
  induction path generalizing data with
  | nil => exact Option.some.inj hat ▸ h
  | cons key path ih =>
    cases data with
    | record entries =>
      obtain ⟨w, hw, hrest⟩ := Option.bind_eq_some_iff.1 hat
      obtain ⟨e, he, rfl⟩ := Option.map_eq_some_iff.1 hw
      exact ih (distinctEntries_iff.1 h.2 e (List.mem_of_find?_eq_some he)) hrest
    | _ => cases hat

/-- Where nothing is assigned and no table is, there is nothing. -/
theorem at?_eq_none (hassigns : ∀ v, ¬(Contents.ofData data).assigns path v)
    (hopens : ¬(Contents.ofData data).opens path) : data.at? path = none := by
  cases hat : data.at? path with
  | none => rfl
  | some v =>
    cases v with
    | record entries => exact absurd ⟨entries, hat⟩ hopens
    | _ => exact absurd ⟨hat, Bool.false_ne_true⟩ (hassigns _)

theorem nodup_entriesAt (h : Distinct data) (path : List String) :
    ((data.entriesAt path).map (·.1)).Nodup := by
  rw [Data.entriesAt]
  split
  · next entries hat => exact (h.at? hat).1
  · exact List.nodup_nil

end Paths

/-- What stands before the first header, and the blocks after it, in any order. -/
structure Document where
  top : List (String × Data)
  blocks : List Block

namespace Document

def Assigns (d : Document) (path : List String) (v : Data) : Prop :=
  (∃ e ∈ d.top, path = [e.1] ∧ v = e.2) ∨
    ∃ b ∈ d.blocks, ∃ e ∈ b.entries, path = b.name ++ [e.1] ∧ v = e.2

/-- Whether a document has a table, with a header of its own or on the way to another. -/
def Opens (d : Document) (path : List String) : Prop :=
  path = [] ∨ ∃ b ∈ d.blocks, path <+: b.name

def contents (d : Document) : Contents :=
  ⟨d.Assigns, d.Opens⟩

/-- Whether a document defines nothing twice. -/
structure Unambiguous (d : Document) : Prop where
  top : (d.top.map (·.1)).Nodup
  keys : ∀ b ∈ d.blocks, (b.entries.map (·.1)).Nodup
  names : (d.blocks.map Block.name).Nodup
  apart : ∀ path v, d.Assigns path v → ¬d.Opens path

end Document

/-- Whether the tables that are put together show what stands in a document. -/
structure Holds (d : Document) (n : Node) : Prop where
  value : ∀ path v, n.kindAt? path = some (.value v) ↔ d.Assigns path v
  table : ∀ path, (∃ origin, n.kindAt? path = some (.table origin)) ↔ d.Opens path
  passed : ∀ path origin, n.kindAt? path = some (.table origin) →
    origin = .passed ∨ path = [] ∨ path ∈ d.blocks.map Block.name
  tables : ∀ path, n.kindAt? path ≠ some .tables

namespace Document

variable {top : List (String × Data)} {bs : List Block} {b : Block}

theorem assigns_concat {path : List String} {v : Data} :
    Assigns ⟨top, bs ++ [b]⟩ path v ↔
      Assigns ⟨top, bs⟩ path v ∨ ∃ e ∈ b.entries, path = b.name ++ [e.1] ∧ v = e.2 := by
  simp only [Assigns, List.mem_append, List.mem_singleton, or_and_right, exists_or,
    exists_eq_left, or_assoc]

theorem opens_concat {path : List String} :
    Opens ⟨top, bs ++ [b]⟩ path ↔ Opens ⟨top, bs⟩ path ∨ path <+: b.name := by
  simp only [Opens, List.mem_append, List.mem_singleton, or_and_right, exists_or, exists_eq_left,
    or_assoc]

theorem Unambiguous.of_concat (h : Unambiguous ⟨top, bs ++ [b]⟩) : Unambiguous ⟨top, bs⟩ where
  top := h.top
  keys b' hb' := h.keys b' (List.mem_append_left _ hb')
  names := by
    have hnames := h.names
    rw [List.map_append] at hnames
    exact (List.nodup_append.1 hnames).1
  apart path v hassigns hopens :=
    h.apart path v (assigns_concat.2 (.inl hassigns)) (opens_concat.2 (.inl hopens))

/-- There is room for the next block of a document that defines nothing twice. -/
theorem Unambiguous.room (h : Unambiguous ⟨top, bs ++ [b]⟩) {n : Node}
    (hn : Holds ⟨top, bs⟩ n) : b.Room n := by
  have hnew : b.name ∉ bs.map Block.name := by
    have hnames := h.names
    rw [List.map_append] at hnames
    exact fun hmem => (List.nodup_append.1 hnames).2.2 _ hmem _ (List.mem_singleton_self _) rfl
  -- no value stands under a path to a table
  have hvalue : ∀ q v, q <+: b.name → n.kindAt? q ≠ some (.value v) := fun q v hq hkind =>
    h.apart q v (assigns_concat.2 (.inl ((hn.value q v).1 hkind))) (opens_concat.2 (.inr hq))
  have htable : ∀ q, q <+: b.name →
      n.kindAt? q = none ∨ ∃ origin, n.kindAt? q = some (.table origin) := by
    intro q hq
    cases hkind : n.kindAt? q with
    | none => exact .inl rfl
    | some kind =>
      cases kind with
      | value v => exact absurd hkind (hvalue q v hq)
      | table origin => exact .inr ⟨origin, rfl⟩
      | tables => exact absurd hkind (hn.tables q)
  refine ⟨h.keys b (by simp), fun q hq => htable q (hq.trans (List.prefix_append _ _)), ?_, ?_⟩
  · refine (htable b.name List.prefix_rfl).imp_right ?_
    rintro ⟨origin, hkind⟩
    rcases hn.passed _ _ hkind with rfl | hnil | hmem
    · exact hkind
    · simp [Block.name] at hnil
    · exact absurd hmem hnew
  · intro e he
    have hassigns : Assigns ⟨top, bs ++ [b]⟩ (b.name ++ [e.1]) e.2 :=
      assigns_concat.2 (.inr ⟨e, he, rfl, rfl⟩)
    cases hkind : n.kindAt? (b.name ++ [e.1]) with
    | none => rfl
    | some kind =>
      cases kind with
      | value v =>
        -- another block would have the same name
        rcases (hn.value _ v).1 hkind with ⟨e', -, heq, -⟩ | ⟨b', hb', e', -, heq, -⟩
        · exact absurd (congrArg List.length heq) (by simp [Block.name])
        · obtain ⟨hname, -⟩ := List.append_inj' heq rfl
          exact absurd (List.mem_map.2 ⟨b', hb', hname.symm⟩) hnew
      | table origin =>
        exact absurd (opens_concat.2 (.inl ((hn.table _).1 ⟨origin, hkind⟩)))
          (h.apart _ _ hassigns)
      | tables => exact absurd hkind (hn.tables _)

end Document

/-- Where a block is added, a path leads to a table on the way of the block, to one of its values,
or to what it led to before. -/
theorem Block.Adds.cases {b : Block} {n n' : Node} (h : b.Adds n n') (hroom : b.Room n)
    (path : List String) :
    (path <+: b.name ∧ ∃ origin, n'.kindAt? path = some (.table origin) ∧
        (path = b.name ∨ origin = .passed ∨ n.kindAt? path = some (.table origin))) ∨
      (∃ e ∈ b.entries, path = b.name ++ [e.1] ∧ n'.kindAt? path = some (.value e.2)) ∨
      (¬path <+: b.name ∧ (∀ e ∈ b.entries, path ≠ b.name ++ [e.1]) ∧
        n'.kindAt? path = n.kindAt? path) := by
  obtain ⟨hopened, hassigned, hway, hother⟩ := h
  by_cases hname : path = b.name
  · exact .inl ⟨hname ▸ List.prefix_rfl, .opened, hname ▸ hopened, .inl hname⟩
  by_cases hpath : path <+: b.path
  · have hpre : path <+: b.name := hpath.trans (List.prefix_append _ _)
    have hkind := hway path hpath
    rcases hroom.way path hpath with hnone | ⟨origin, hsome⟩
    · rw [hnone] at hkind
      exact .inl ⟨hpre, .passed, hkind, .inr (.inl rfl)⟩
    · rw [hsome] at hkind
      exact .inl ⟨hpre, origin, hkind, .inr (.inr hsome)⟩
  by_cases hvalue : ∃ e ∈ b.entries, path = b.name ++ [e.1]
  · obtain ⟨e, he, rfl⟩ := hvalue
    exact .inr (.inl ⟨e, he, rfl, hassigned e he⟩)
  · have hnone : ∀ e ∈ b.entries, path ≠ b.name ++ [e.1] :=
      fun e he heq => hvalue ⟨e, he, heq⟩
    refine .inr (.inr ⟨fun hpre => ?_, hnone, hother path hpath hname hnone⟩)
    rcases List.prefix_concat_iff.1 hpre with heq | hpre
    · exact hname heq
    · exact hpath hpre

namespace Holds

variable {top : List (String × Data)} {bs : List Block} {b : Block} {n n' : Node}

open Document

/-- A block that is added to the tables of a document adds it to what they show. -/
theorem concat (h : Unambiguous ⟨top, bs ++ [b]⟩) (hn : Holds ⟨top, bs⟩ n) (hadds : b.Adds n n') :
    Holds ⟨top, bs ++ [b]⟩ n' := by
  have hroom := h.room hn
  refine ⟨fun path v => ?_, fun path => ?_, fun path origin hkind => ?_, fun path hkind => ?_⟩
  · rcases hadds.cases hroom path with ⟨hpre, origin, htable, -⟩ | ⟨e, he, rfl, hvalue⟩ |
      ⟨-, hnone, hsame⟩
    · rw [htable]
      exact ⟨nofun, fun hassigns => absurd (opens_concat.2 (.inr hpre)) (h.apart _ _ hassigns)⟩
    · rw [hvalue]
      constructor
      · intro heq
        exact assigns_concat.2 (.inr ⟨e, he, rfl, (Kind.value.inj (Option.some.inj heq)).symm⟩)
      · intro hassigns
        rcases assigns_concat.1 hassigns with hold | ⟨e', he', heq, rfl⟩
        · have hkind := (hn.value _ v).2 hold
          rw [hroom.entries e he] at hkind
          cases hkind
        · have hkey : e.1 = e'.1 := List.singleton_inj.1 (List.append_cancel_left heq)
          rw [eq_of_nodup_keys hroom.nodup he he' hkey]
    · rw [hsame, hn.value, assigns_concat]
      refine ⟨.inl, fun hassigns => hassigns.resolve_right ?_⟩
      rintro ⟨e, he, heq, -⟩
      exact hnone e he heq
  · rcases hadds.cases hroom path with ⟨hpre, origin, htable, -⟩ | ⟨e, he, rfl, hvalue⟩ |
      ⟨hpre, -, hsame⟩
    · exact ⟨fun _ => opens_concat.2 (.inr hpre), fun _ => ⟨origin, htable⟩⟩
    · rw [hvalue]
      refine ⟨?_, fun hopens => ?_⟩
      · rintro ⟨_, ⟨⟩⟩
      exact absurd hopens (h.apart _ _ (assigns_concat.2 (.inr ⟨e, he, rfl, rfl⟩)))
    · rw [hsame, hn.table, opens_concat]
      exact ⟨.inl, fun hopens => hopens.resolve_right hpre⟩
  · have hbefore : n.kindAt? path = some (.table origin) →
        origin = .passed ∨ path = [] ∨ path ∈ (bs ++ [b]).map Block.name := by
      intro hkind
      refine (hn.passed path origin hkind).imp_right (Or.imp_right fun hmem => ?_)
      rw [List.map_append]
      exact List.mem_append_left _ hmem
    rcases hadds.cases hroom path with ⟨-, origin', htable, hwhich⟩ | ⟨e, -, -, hvalue⟩ |
      ⟨-, -, hsame⟩
    · obtain rfl := Kind.table.inj (Option.some.inj (hkind.symm.trans htable))
      rcases hwhich with rfl | hpassed | hold
      · exact .inr (.inr (List.mem_map.2 ⟨b, by simp, rfl⟩))
      · exact .inl hpassed
      · exact hbefore hold
    · rw [hvalue] at hkind
      cases hkind
    · exact hbefore (hsame ▸ hkind)
  · rcases hadds.cases hroom path with ⟨-, origin', htable, -⟩ | ⟨e, -, -, hvalue⟩ | ⟨-, -, hsame⟩
    · rw [htable] at hkind
      cases hkind
    · rw [hvalue] at hkind
      cases hkind
    · exact hn.tables path (hsame ▸ hkind)

/-- Entries that were made by assignments alone show these. -/
theorem kindAt?_leaves (h : (top.map (·.1)).Nodup) (path : List String) :
    path = [] ∨ (∃ e ∈ top, path = [e.1] ∧
        (Node.table .opened (Entries.leaves top)).kindAt? path = some (.value e.2)) ∨
      path ≠ [] ∧ (∀ e ∈ top, path ≠ [e.1]) ∧
        (Node.table .opened (Entries.leaves top)).kindAt? path = none := by
  cases path with
  | nil => exact .inl rfl
  | cons key path =>
    rw [kindAt?_cons]
    by_cases hkey : ∃ e ∈ top, key = e.1
    · obtain ⟨e, he, rfl⟩ := hkey
      rw [Entries.find?_leaves h he]
      cases path with
      | nil => exact .inr (.inl ⟨e, he, rfl, rfl⟩)
      | cons key path =>
        refine .inr (.inr ⟨List.cons_ne_nil _ _, fun e' _ heq => ?_, rfl⟩)
        cases (List.cons.inj heq).2
    · rw [Entries.find?_leaves_eq_none fun e he heq => hkey ⟨e, he, heq⟩]
      exact .inr (.inr ⟨nofun, fun e he heq => hkey ⟨e, he, (List.cons.inj heq).1⟩, rfl⟩)

theorem of_top (h : (top.map (·.1)).Nodup) :
    Holds ⟨top, []⟩ (.table .opened (Entries.leaves top)) := by
  refine ⟨fun path v => ?_, fun path => ?_, fun path origin hkind => ?_, fun path hkind => ?_⟩
  · rcases kindAt?_leaves h path with rfl | ⟨e, he, rfl, hvalue⟩ | ⟨-, hnone, hkind⟩
    · refine ⟨nofun, ?_⟩
      rintro (⟨_, -, ⟨⟩, -⟩ | ⟨_, ⟨⟩, -⟩)
    · rw [hvalue]
      constructor
      · intro heq
        exact .inl ⟨e, he, rfl, (Kind.value.inj (Option.some.inj heq)).symm⟩
      · rintro (⟨e', he', heq, rfl⟩ | ⟨_, ⟨⟩, -⟩)
        rw [eq_of_nodup_keys h he he' (List.singleton_inj.1 heq)]
    · rw [hkind]
      refine ⟨nofun, ?_⟩
      rintro (⟨e, he, heq, -⟩ | ⟨_, ⟨⟩, -⟩)
      exact absurd heq (hnone e he)
  · rcases kindAt?_leaves h path with rfl | ⟨e, he, rfl, hvalue⟩ | ⟨hne, -, hkind⟩
    · exact ⟨fun _ => .inl rfl, fun _ => ⟨.opened, rfl⟩⟩
    · rw [hvalue]
      constructor
      · rintro ⟨_, ⟨⟩⟩
      · rintro (heq | ⟨_, ⟨⟩, -⟩)
        cases heq
    · rw [hkind]
      constructor
      · rintro ⟨_, ⟨⟩⟩
      · rintro (heq | ⟨_, ⟨⟩, -⟩)
        exact absurd heq hne
  · rcases kindAt?_leaves h path with hnil | ⟨e, -, -, hvalue⟩ | ⟨-, -, hnone⟩
    · exact .inr (.inl hnil)
    · rw [hvalue] at hkind
      cases hkind
    · rw [hnone] at hkind
      cases hkind
  · rcases kindAt?_leaves h path with rfl | ⟨e, -, -, hvalue⟩ | ⟨-, -, hnone⟩
    · cases hkind
    · rw [hvalue] at hkind
      cases hkind
    · rw [hnone] at hkind
      cases hkind

end Holds

/-- What is read of a document. -/
def Document.toSections (d : Document) : List Section :=
  ⟨.top, d.top.map fun (key, v) => ⟨[], key, v⟩⟩ :: d.blocks.map Block.toSection

/-- The blocks of a document that defines nothing twice can be put together in their order. -/
theorem exists_assembled {top : List (String × Data)} {bs : List Block}
    (h : Document.Unambiguous ⟨top, bs⟩) :
    ∃ es, (Entries.leaves top).addBlocks bs = some es ∧
      Holds ⟨top, bs⟩ (.table .opened es) := by
  induction bs using List.reverseRecOn with
  | nil => exact ⟨_, rfl, .of_top h.top⟩
  | append_singleton bs b ih =>
    obtain ⟨es, hes, hholds⟩ := ih h.of_concat
    obtain ⟨es', hes', hadds⟩ := Entries.exists_descend rfl (h.room hholds)
    refine ⟨es', ?_, hholds.concat h hadds⟩
    rw [Entries.addBlocks_append, hes, Option.bind_some, Entries.addBlocks_cons]
    show (Entries.addSection es b.toSection).bind _ = _
    have hadd : Entries.addSection es b.toSection = some es' := hes'
    rw [hadd]
    rfl

/-! ## The data of a document -/

theorem find?_entriesData (es : Entries) (key : String) :
    Data.find? key (entriesData es) = (es.find? key).map Node.toData := by
  induction es with
  | nil => rfl
  | cons e es ih =>
    rw [Data.find?] at ih ⊢
    rw [entriesData, Entries.find?_cons, List.find?_cons]
    by_cases hkey : key = e.1
    · rw [if_pos hkey, beq_iff_eq.2 hkey.symm]
      rfl
    · rw [if_neg hkey, beq_eq_false_iff_ne.2 (Ne.symm hkey)]
      exact ih

theorem Data.get?_eq_none {v : Data} (h : ¬isTable v) (key : String) : v.get? key = none := by
  cases v with
  | record entries => exact absurd rfl h
  | _ => rfl

/-- Where no value is a table of its own, paths lead to the same in the tables and in their data. -/
theorem at?_toData {n : Node} (h : ∀ q v, n.kindAt? q = some (.value v) → ¬isTable v)
    (path : List String) : n.toData.at? path = (n.at? path).map Node.toData := by
  induction path generalizing n with
  | nil => rfl
  | cons key path ih =>
    cases n with
    | leaf v =>
      show ((v.get? key).bind _) = none
      rw [Data.get?_eq_none (h [] v rfl)]
      rfl
    | tables earlier last =>
      rw [Node.toData]
      rfl
    | table origin es =>
      have hget : (Node.table origin es).toData.get? key =
          (Entries.find? key es).map Node.toData := by
        rw [Node.toData]
        exact find?_entriesData es key
      show ((Node.table origin es).toData.get? key).bind (Data.at? path) =
        ((Entries.find? key es).bind (Node.at? path)).map Node.toData
      rw [hget]
      cases hfind : Entries.find? key es with
      | none => rfl
      | some node =>
        refine ih fun q v hkind => h (key :: q) v ?_
        rw [kindAt?_cons, hfind]
        exact hkind

/-- The data shows what stands in the document. -/
theorem Holds.contents_eq {d : Document} {n : Node} (h : Holds d n)
    (hplain : ∀ path v, d.Assigns path v → ¬isTable v) : Contents.ofData n.toData = d.contents := by
  have hat := at?_toData fun q v hkind => hplain q v ((h.value q v).1 hkind)
  have hassigns : (Contents.ofData n.toData).assigns = d.Assigns := by
    funext path v
    refine propext ?_
    rw [← h.value, Node.kindAt?, Option.map_eq_some_iff]
    show n.toData.at? path = some v ∧ ¬isTable v ↔ _
    rw [hat, Option.map_eq_some_iff]
    constructor
    · rintro ⟨⟨node, hnode, rfl⟩, hv⟩
      refine ⟨node, hnode, ?_⟩
      cases node with
      | leaf v => rw [Node.toData]; rfl
      | table origin es => exact absurd (by rw [Node.toData]; rfl) hv
      | tables earlier last =>
        exact absurd (congrArg (Option.map Node.kind) hnode) (h.tables path)
    · rintro ⟨node, hnode, hkind⟩
      cases node with
      | leaf v' =>
        obtain rfl := Kind.value.inj hkind
        refine ⟨⟨_, hnode, rfl⟩, hplain path v' ((h.value path v').1 ?_)⟩
        exact congrArg (Option.map Node.kind) hnode
      | _ => cases hkind
  have hopens : (Contents.ofData n.toData).opens = d.Opens := by
    funext path
    refine propext ?_
    rw [← h.table]
    show (∃ entries, n.toData.at? path = some (.record entries)) ↔ _
    simp only [hat, Node.kindAt?, Option.map_eq_some_iff]
    constructor
    · rintro ⟨entries, node, hnode, hdata⟩
      cases node with
      | leaf v =>
        rw [Node.toData] at hdata
        have hv := hplain path v ((h.value path v).1 (congrArg (Option.map Node.kind) hnode))
        exact absurd (by rw [hdata]; rfl) hv
      | table origin es => exact ⟨origin, _, hnode, rfl⟩
      | tables earlier last =>
        rw [Node.toData] at hdata
        cases hdata
    · rintro ⟨origin, node, hnode, hkind⟩
      cases node with
      | table origin' es => exact ⟨entriesData es, _, hnode, by rw [Node.toData]⟩
      | _ => cases hkind
  show (⟨(Contents.ofData n.toData).assigns, (Contents.ofData n.toData).opens⟩ : Contents) = _
  rw [hassigns, hopens]
  rfl

/-! ## The text of a document -/

namespace Document

/-- Whether a document is read back from what is written for it. -/
structure Fits (d : Document) : Prop where
  top : ∀ e ∈ d.top, Bare e.1 ∧ Plain e.2
  blocks : ∀ b ∈ d.blocks, b.Fits

/-- What is written for a document. -/
def text (d : Document) : Except WriteFault String := do
  let lines ← d.top.mapM assignmentText
  let texts ← d.blocks.mapM Block.text
  return String.ofList (lines.flatten ++ List.intercalate ['\n'] texts)

variable {d : Document}

theorem Fits.not_isTable (h : d.Fits) : ∀ path v, d.Assigns path v → ¬isTable v := by
  rintro path v (⟨e, he, -, rfl⟩ | ⟨b, hb, e, he, -, rfl⟩)
  · exact (h.top e he).2.not_isTable
  · exact ((h.blocks b hb).entries e he).2.not_isTable

/-- What is written for a document begins with no byte order mark. -/
theorem Fits.dropMark (h : d.Fits) {lines texts : List (List Char)}
    (hlines : d.top.mapM assignmentText = .ok lines)
    (htexts : d.blocks.mapM Block.text = .ok texts) :
    dropMark (lines.flatten ++ List.intercalate ['\n'] texts) =
      lines.flatten ++ List.intercalate ['\n'] texts := by
  cases htop : d.top with
  | nil =>
    rw [htop] at hlines
    obtain rfl := Except.ok.inj hlines
    exact dropMark_blocks htexts
  | cons e top =>
    rw [htop] at hlines
    obtain ⟨line, rest, hline, -, rfl⟩ := exists_of_mapM_cons hlines
    obtain ⟨hkey, hv⟩ := h.top e (htop ▸ List.mem_cons_self)
    obtain ⟨c, t, hcons, hc, -⟩ := assignment?_append hkey hv 0
    obtain rfl := Except.ok.inj (hline.symm.trans hcons)
    have hmark : c.toNat ≠ 0xFEFF := by
      intro hmark
      rw [← Char.ofNat_toNat c, hmark] at hc
      exact absurd hc (by decide)
    exact if_neg hmark

theorem Fits.read? (h : d.Fits) :
    ∃ text, d.text = .ok text ∧ read? text = assemble? d.toSections := by
  obtain ⟨lines, hlines, hlength, hread⟩ := lines?_assignments h.top
  obtain ⟨texts, htexts, n, hn, hreads⟩ := lines?_blocks h.blocks
  refine ⟨String.ofList (lines.flatten ++ List.intercalate ['\n'] texts), ?_, ?_⟩
  · rw [text, hlines, htexts]
    rfl
  · obtain ⟨fuel, hfuel⟩ : ∃ fuel, (lines.flatten ++ List.intercalate ['\n'] texts).length + 1 =
        fuel + n + 1 + d.top.length := by
      refine ⟨(lines.flatten ++ List.intercalate ['\n'] texts).length - n - d.top.length, ?_⟩
      rw [List.length_append]
      omega
    rw [Toml.read?, String.toList_ofList, h.dropMark hlines htexts, hfuel, hread, hreads]
    show assemble? _ = _
    rw [List.append_nil, List.reverse_reverse]
    rfl

end Document

/-- **Documents are read in any order.**  A document that defines nothing twice is written, and what
is read of it has the same contents. -/
theorem read?_document {d : Document} (hfits : d.Fits) (h : d.Unambiguous) :
    ∃ text data, d.text = .ok text ∧ read? text = some data ∧
      Contents.ofData data = d.contents := by
  obtain ⟨text, htext, hread⟩ := hfits.read?
  obtain ⟨es, hes, hholds⟩ := exists_assembled h
  have htop : Entries.addSection [] ⟨.top, d.top.map fun (key, v) => ⟨[], key, v⟩⟩ =
      some (Entries.leaves d.top) :=
    Entries.assignAll_leaves h.top fun e he e' he' => nomatch he'
  have hassemble : assemble? d.toSections = some (.record (entriesData es)) := by
    rw [assemble?, Document.toSections, List.foldlM_cons, htop]
    show ((Entries.leaves d.top).addBlocks d.blocks).map _ = _
    rw [hes]
    rfl
  refine ⟨text, .record (entriesData es), htext, hread.trans hassemble, ?_⟩
  have hcontents := hholds.contents_eq hfits.not_isTable
  rw [Node.toData] at hcontents
  exact hcontents

end Toml

end ResetCheck
