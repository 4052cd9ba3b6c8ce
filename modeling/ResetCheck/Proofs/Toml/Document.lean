import ResetCheck.Proofs.Toml.Lines

/-!
# Documents

A document is written with one block for each of its tables, and reading puts the tables together
again.  What comes back is the document with the values that are null left out, and in each table
the assignments before the tables below it.

* `entryBlocks`: the blocks of a document.
* `write_eq`: what is written for a document is what is written for its blocks.
* `Distinct`: data in which no key stands twice in a table.
* `addBlocks_entries`: the sections of the blocks make up the tables of the document.
* `read?_write`: documents are read back.
* `exists_assignmentText`: what can be written of a document that was written.
* `Flat`: tables that are written as a single block.
-/

namespace ResetCheck.Toml

/-! ## The blocks of a document -/

/-- The entries of a table that are assigned below its header. -/
def assigned (entries : List (String × Data)) : List (String × Data) :=
  entries.filter (isAssignment ·.2)

/-- Whether a table has a header of its own. -/
def hasHeader (entries : List (String × Data)) : Bool :=
  entries.any (isAssignment ·.2) || entries.all (·.2 matches .null)

/-- Nothing is assigned in a table without a header. -/
theorem assigned_eq_nil {entries : List (String × Data)} (h : ¬hasHeader entries) :
    assigned entries = [] := by
  refine List.filter_eq_nil_iff.2 fun e he hassign => h ?_
  rw [hasHeader, Bool.or_eq_true]
  exact .inl (List.any_eq_true.2 ⟨e, he, hassign⟩)

mutual

/-- The blocks of a table, its own one first. -/
def tableBlocks (path : List String) (key : String) : Data → List Block
  | .record entries =>
    (if hasHeader entries then [⟨path, key, assigned entries⟩] else []) ++
      entryBlocks (path ++ [key]) entries
  | _ => []

def entryBlocks (path : List String) : List (String × Data) → List Block
  | [] => []
  | (key, v) :: rest => tableBlocks path key v ++ entryBlocks path rest

end

theorem assignmentText_of_not {e : String × Data} (h : ¬isAssignment e.2) :
    assignmentText e = .ok [] := by
  obtain ⟨key, v⟩ := e
  cases v with
  | null => rfl
  | record entries => rfl
  | _ => exact absurd rfl h

/-- What is written for the assignments among the entries of a table. -/
def assignmentLines (entries : List (String × Data)) : Except WriteFault (List Char) :=
  (entries.mapM assignmentText).map List.flatten

theorem assignmentLines_cons (e : String × Data) (entries : List (String × Data)) :
    assignmentLines (e :: entries) =
      (assignmentText e).bind fun text => (assignmentLines entries).map (text ++ ·) := by
  rw [assignmentLines, assignmentLines, List.mapM_cons]
  cases assignmentText e with
  | error fault => rfl
  | ok text => cases entries.mapM assignmentText <;> rfl

theorem assigned_cons (e : String × Data) (entries : List (String × Data)) :
    assigned (e :: entries) =
      if isAssignment e.2 then e :: assigned entries else assigned entries :=
  List.filter_cons

theorem assignmentLines_assigned (entries : List (String × Data)) :
    assignmentLines (assigned entries) = assignmentLines entries := by
  induction entries with
  | nil => rfl
  | cons e entries ih =>
    rw [assignmentLines_cons, assigned_cons]
    split
    · rw [assignmentLines_cons, ih]
    · next he =>
      rw [ih, assignmentText_of_not he]
      show assignmentLines entries = (assignmentLines entries).map ([] ++ ·)
      cases assignmentLines entries <;> rfl

theorem Block.text_eq (b : Block) :
    b.text = (assignmentLines b.entries).map (headerText (b.path ++ [b.key]) ++ ·) := by
  rw [Block.text, assignmentLines]
  cases b.entries.mapM assignmentText <;> rfl

theorem sectionText?_eq (path : List String) (key : String) (entries : List (String × Data)) :
    sectionText? (path ++ [key]) entries =
      if hasHeader entries then (Block.text ⟨path, key, assigned entries⟩).map some
      else .ok none := by
  have hbind : sectionText? (path ++ [key]) entries =
      (assignmentLines entries).bind fun body =>
        if hasHeader entries then .ok (some (headerText (path ++ [key]) ++ body))
        else .ok none := by
    rw [sectionText?, assignmentLines]
    cases entries.mapM assignmentText with
    | error fault => rfl
    | ok lines => rfl
  rw [hbind, Block.text_eq, assignmentLines_assigned]
  split
  · cases assignmentLines entries <;> rfl
  · next hnone =>
    rw [← assignmentLines_assigned, assigned_eq_nil hnone]
    rfl

mutual

theorem tableSections_eq (path : List String) (key : String) (v : Data) :
    tableSections (path ++ [key]) v = (tableBlocks path key v).mapM Block.text := by
  match v with
  | .record entries =>
    rw [tableSections, tableBlocks, List.mapM_append, sectionText?_eq,
      entrySections_eq (path ++ [key]) entries]
    split
    · rw [List.mapM_cons]
      cases Block.text ⟨path, key, assigned entries⟩ with
      | error fault => rfl
      | ok text => cases (entryBlocks (path ++ [key]) entries).mapM Block.text <;> rfl
    · rfl
  | .null | .bool _ | .int _ | .real _ | .text _ | .moment _ | .list _ => rfl

theorem entrySections_eq (path : List String) (entries : List (String × Data)) :
    entrySections path entries = (entryBlocks path entries).mapM Block.text := by
  match entries with
  | [] => rfl
  | (key, v) :: rest =>
    rw [entrySections, entryBlocks, List.mapM_append, tableSections_eq path key v,
      entrySections_eq path rest]

end

/-- What is written for a document is what is written for its blocks. -/
theorem write_eq (entries : List (String × Data)) :
    write entries = ((entryBlocks [] entries).mapM Block.text).map fun texts =>
      String.ofList (List.intercalate ['\n'] texts) := by
  rw [write, entrySections_eq]

/-! ## Entries under new keys -/

namespace Entries

/-- Whether a key stands for nothing yet. -/
def Fresh (key : String) (es : Entries) : Prop :=
  ∀ e ∈ es, e.1 ≠ key

variable {key : String} {es : Entries}

theorem Fresh.find? (h : Fresh key es) : es.find? key = none := by
  rw [Entries.find?, List.lookup_eq_none_iff]
  intro e he
  simpa using (h e he).symm

theorem Fresh.find?_concat (h : Fresh key es) (node : Node) :
    Entries.find? key (es ++ [(key, node)]) = some node := by
  have hnone := h.find?
  rw [Entries.find?] at hnone
  rw [Entries.find?, List.lookup_append, hnone]
  simp

theorem Fresh.replace (h : Fresh key es) (node : Node) : es.replace key node = es := by
  refine (List.map_congr_left fun e he => ?_).trans (List.map_id es)
  exact if_neg (h e he)

theorem Fresh.replace_concat (h : Fresh key es) (old node : Node) :
    Entries.replace key node (es ++ [(key, old)]) = es ++ [(key, node)] := by
  have happend : Entries.replace key node (es ++ [(key, old)]) =
      es.replace key node ++ Entries.replace key node [(key, old)] := List.map_append
  have hlast : Entries.replace key node [(key, old)] = [(key, node)] :=
    congrArg (fun e => [e]) (if_pos rfl)
  rw [happend, h.replace, hlast]

theorem Fresh.erase (h : Fresh key es) : es.erase key = es :=
  List.filter_eq_self.2 fun e he => bne_iff_ne.2 (h e he)

/-- The entries that assignments make. -/
def leaves (entries : List (String × Data)) : Entries :=
  entries.map fun (key, v) => (key, .leaf v)

/-- Assignments to new keys are all taken. -/
theorem assignAll_leaves {entries : List (String × Data)} (hnodup : (entries.map (·.1)).Nodup)
    (hfresh : ∀ e ∈ entries, Fresh e.1 es) :
    assignAll es (entries.map fun (key, v) => ⟨[], key, v⟩) = some (es ++ leaves entries) := by
  induction entries generalizing es with
  | nil => exact congrArg some (List.append_nil es).symm
  | cons e entries ih =>
    obtain ⟨key, v⟩ := e
    obtain ⟨hkey, hentries⟩ := List.forall_mem_cons.1 hfresh
    rw [List.map_cons, List.nodup_cons] at hnodup
    have hassign : assign es ⟨[], key, v⟩ = some (es ++ [(key, .leaf v)]) := by
      have hnone : es.find? key = none := Fresh.find? hkey
      simp [assign, descend, hnone]
    have hrest := @ih (es ++ [(key, .leaf v)]) hnodup.2 fun e he e' he' => by
      rcases List.mem_append.1 he' with he' | he'
      · exact hentries e he e' he'
      · rw [List.mem_singleton.1 he']
        intro heq
        exact hnodup.1 (List.mem_map.2 ⟨e, he, heq.symm⟩)
    show (assign es ⟨[], key, v⟩).bind (fun es => assignAll es _) = _
    rw [hassign]
    refine hrest.trans ?_
    rw [List.append_assoc]
    rfl

/-- A header with a new key opens a table. -/
theorem addSection_fresh (h : Fresh key es) {entries : List (String × Data)}
    (hnodup : (entries.map (·.1)).Nodup) :
    addSection es (Block.toSection ⟨[], key, entries⟩) =
      some (es ++ [(key, .table .opened (leaves entries))]) := by
  have hassign : assignAll [] _ = some ([] ++ leaves entries) :=
    assignAll_leaves hnodup fun e he e' he' => nomatch he'
  show openTable key _ es = _
  rw [openTable, h.find?]
  show (assignAll [] (entries.map fun (key, v) => ⟨[], key, v⟩)).bind _ = _
  rw [hassign, List.nil_append]
  show some (es.erase key ++ _) = _
  rw [h.erase]

end Entries

/-! ## Tables below a key -/

/-- A block of a table below a key. -/
def Block.under (key : String) (b : Block) : Block :=
  { b with path := key :: b.path }

mutual

theorem tableBlocks_cons (parent : String) (path : List String) (key : String) (v : Data) :
    tableBlocks (parent :: path) key v = (tableBlocks path key v).map (Block.under parent) := by
  match v with
  | .record entries =>
    have hentries := entryBlocks_cons parent (path ++ [key]) entries
    rw [tableBlocks, tableBlocks, List.map_append, ← hentries]
    split <;> rfl
  | .null | .bool _ | .int _ | .real _ | .text _ | .moment _ | .list _ => rfl

theorem entryBlocks_cons (parent : String) (path : List String) (entries : List (String × Data)) :
    entryBlocks (parent :: path) entries = (entryBlocks path entries).map (Block.under parent) := by
  match entries with
  | [] => rfl
  | (key, v) :: rest =>
    rw [entryBlocks, entryBlocks, List.map_append, tableBlocks_cons parent path key v,
      entryBlocks_cons parent path rest]

end

namespace Entries

variable {key : String} {es : Entries}

/-- A header does not tell how the table it is below came to be. -/
theorem descend_origin (way : Origin) (change : Entries → Option Entries) (path : List String)
    (o o' : Origin) (es : Entries) :
    descend way (fun _ => change) path o es = descend way (fun _ => change) path o' es := by
  cases path <;> rfl

/-- A section below the last table changes only that. -/
theorem addSection_under_concat (h : Fresh key es) (origin : Origin) (sub : Entries) (b : Block) :
    addSection (es ++ [(key, .table origin sub)]) (b.under key).toSection =
      (addSection sub b.toSection).map fun sub => es ++ [(key, .table origin sub)] := by
  show descend .passed _ (key :: b.path) .opened _ = (descend .passed _ b.path .opened sub).map _
  rw [descend, h.find?_concat]
  dsimp only
  rw [if_neg (fun hway => nomatch hway.1), descend_origin .passed _ b.path origin .opened]
  simp only [h.replace_concat]
  rfl

theorem addSection_under_fresh (h : Fresh key es) (b : Block) :
    addSection es (b.under key).toSection =
      (addSection [] b.toSection).map fun sub => es ++ [(key, .table .passed sub)] := by
  show descend .passed _ (key :: b.path) .opened _ = (descend .passed _ b.path .opened []).map _
  rw [descend, h.find?]
  dsimp only
  rw [descend_origin .passed _ b.path .passed .opened]
  rfl

/-- The entries that the sections of blocks make. -/
def addBlocks (es : Entries) (bs : List Block) : Option Entries :=
  (bs.map Block.toSection).foldlM addSection es

theorem addBlocks_append (es : Entries) (bs cs : List Block) :
    es.addBlocks (bs ++ cs) = (es.addBlocks bs).bind (·.addBlocks cs) := by
  rw [addBlocks, List.map_append, List.foldlM_append]
  rfl

theorem addBlocks_cons (es : Entries) (b : Block) (bs : List Block) :
    es.addBlocks (b :: bs) = (addSection es b.toSection).bind (·.addBlocks bs) := rfl

theorem addBlocks_under_concat (h : Fresh key es) (origin : Origin) (sub : Entries)
    (bs : List Block) :
    addBlocks (es ++ [(key, .table origin sub)]) (bs.map (Block.under key)) =
      (sub.addBlocks bs).map fun sub => es ++ [(key, .table origin sub)] := by
  induction bs generalizing sub with
  | nil => rfl
  | cons b bs ih =>
    rw [List.map_cons, addBlocks_cons, addBlocks_cons, addSection_under_concat h]
    cases addSection sub b.toSection with
    | none => rfl
    | some sub => exact ih sub

/-- Sections below a new key make a table that was passed on the way. -/
theorem addBlocks_under_fresh (h : Fresh key es) {bs : List Block} (hne : bs ≠ []) :
    es.addBlocks (bs.map (Block.under key)) =
      (addBlocks [] bs).map fun sub => es ++ [(key, .table .passed sub)] := by
  obtain ⟨b, bs, rfl⟩ := List.exists_cons_of_ne_nil hne
  rw [List.map_cons, addBlocks_cons, addBlocks_cons, addSection_under_fresh h]
  cases addSection [] b.toSection with
  | none => rfl
  | some sub => exact addBlocks_under_concat h .passed sub bs

end Entries

/-! ## The tables of a document -/

mutual

/-- Whether no key stands twice in a table of the data. -/
def Distinct : Data → Prop
  | .record entries => (entries.map (·.1)).Nodup ∧ DistinctEntries entries
  | _ => True

def DistinctEntries : List (String × Data) → Prop
  | [] => True
  | (_, v) :: rest => Distinct v ∧ DistinctEntries rest

end

def isTable : Data → Bool
  | .record _ => true
  | _ => false

mutual

/-- The data as it is read back: without null, and with the tables behind the assignments. -/
def tidied : Data → Data
  | .record entries => .record (assigned entries ++ tidiedTables entries)
  | v => v

def tidiedTables : List (String × Data) → List (String × Data)
  | [] => []
  | (key, v) :: rest => (if isTable v then [(key, tidied v)] else []) ++ tidiedTables rest

end

mutual

/-- What the sections of a table make of it. -/
def node : Data → Node
  | .record entries =>
    .table (if hasHeader entries then .opened else .passed)
      (Entries.leaves (assigned entries) ++ tableNodes entries)
  | v => .leaf v

def tableNodes : List (String × Data) → Entries
  | [] => []
  | (key, v) :: rest => (if isTable v then [(key, node v)] else []) ++ tableNodes rest

end

theorem entriesData_append (es es' : Entries) :
    entriesData (es ++ es') = entriesData es ++ entriesData es' := by
  induction es with
  | nil => rfl
  | cons e es ih => rw [List.cons_append, entriesData, entriesData, ih, List.cons_append]

theorem entriesData_leaves (entries : List (String × Data)) :
    entriesData (Entries.leaves entries) = entries := by
  induction entries with
  | nil => rfl
  | cons e entries ih =>
    show (e.1, Node.toData (.leaf e.2)) :: entriesData (Entries.leaves entries) = _
    rw [ih]
    rfl

mutual

theorem toData_node (v : Data) : (node v).toData = tidied v := by
  match v with
  | .record entries =>
    rw [node, tidied, Node.toData, entriesData_append, entriesData_leaves,
      entriesData_tableNodes entries]
  | .null | .bool _ | .int _ | .real _ | .text _ | .moment _ | .list _ => rfl

theorem entriesData_tableNodes (entries : List (String × Data)) :
    entriesData (tableNodes entries) = tidiedTables entries := by
  match entries with
  | [] => rfl
  | (key, v) :: rest =>
    rw [tableNodes, tidiedTables, entriesData_append, entriesData_tableNodes rest,
      ← toData_node v]
    split <;> rfl

end

/-- A table without a header of its own has tables below it. -/
theorem exists_isTable_of_not_hasHeader {entries : List (String × Data)} (h : ¬hasHeader entries) :
    ∃ e ∈ entries, isTable e.2 := by
  rw [hasHeader, Bool.or_eq_true, not_or] at h
  obtain ⟨e, he, hnull⟩ : ∃ e ∈ entries, ¬(e.2 matches .null) := by
    simpa using h.2
  refine ⟨e, he, ?_⟩
  have hassign : ¬isAssignment e.2 := fun hassign => h.1 (List.any_eq_true.2 ⟨e, he, hassign⟩)
  cases hv : e.2 with
  | record entries => rfl
  | null => simp [hv] at hnull
  | _ => simp [hv, isAssignment] at hassign

mutual

theorem tableBlocks_ne_nil (path : List String) (key : String) {v : Data} (h : isTable v) :
    tableBlocks path key v ≠ [] := by
  match v with
  | .record entries =>
    rw [tableBlocks]
    split
    · exact nofun
    · next hnone =>
      exact entryBlocks_ne_nil (path ++ [key]) (exists_isTable_of_not_hasHeader hnone)
  | .null | .bool _ | .int _ | .real _ | .text _ | .moment _ | .list _ => cases h

theorem entryBlocks_ne_nil (path : List String) {entries : List (String × Data)}
    (h : ∃ e ∈ entries, isTable e.2) : entryBlocks path entries ≠ [] := by
  match entries with
  | [] =>
    obtain ⟨e, he, -⟩ := h
    cases he
  | (key, v) :: rest =>
    rw [entryBlocks]
    intro hnil
    obtain ⟨hfirst, hrest⟩ := List.append_eq_nil_iff.1 hnil
    obtain ⟨e, he, htable⟩ := h
    rcases List.mem_cons.1 he with rfl | he
    · exact tableBlocks_ne_nil path key htable hfirst
    · exact entryBlocks_ne_nil path ⟨e, he, htable⟩ hrest

end

theorem eq_of_nodup_keys {entries : List (String × Data)} (h : (entries.map (·.1)).Nodup)
    {a b : String × Data} (ha : a ∈ entries) (hb : b ∈ entries) (hkey : a.1 = b.1) : a = b := by
  induction entries with
  | nil => cases ha
  | cons e entries ih =>
    rw [List.map_cons, List.nodup_cons] at h
    rcases List.mem_cons.1 ha with rfl | harest <;> rcases List.mem_cons.1 hb with rfl | hbrest
    · rfl
    · exact (h.1 (List.mem_map.2 ⟨b, hbrest, hkey.symm⟩)).elim
    · exact (h.1 (List.mem_map.2 ⟨a, harest, hkey⟩)).elim
    · exact ih h.2 harest hbrest

theorem nodup_assigned {entries : List (String × Data)} (h : (entries.map (·.1)).Nodup) :
    ((assigned entries).map (·.1)).Nodup :=
  (List.filter_sublist.map _).nodup h

mutual

/-- The sections of a table under a new key make that table. -/
theorem addBlocks_table {key : String} {es : Entries} (hfresh : Entries.Fresh key es) {v : Data}
    (hdistinct : Distinct v) :
    es.addBlocks (tableBlocks [] key v) =
      some (es ++ if isTable v then [(key, node v)] else []) := by
  match v with
  | .record entries =>
    obtain ⟨hnodup, hentries⟩ := hdistinct
    have hunder : tableBlocks [] key (.record entries) =
        (if hasHeader entries then [⟨[], key, assigned entries⟩] else []) ++
          (entryBlocks [] entries).map (Block.under key) := by
      rw [tableBlocks, List.nil_append, entryBlocks_cons]
    have hleaves : ∀ e ∈ entries, isTable e.2 →
        Entries.Fresh e.1 (Entries.leaves (assigned entries)) := by
      intro e he htable e' he' heq
      obtain ⟨a, ha, rfl⟩ := List.mem_map.1 he'
      obtain ⟨hmem, hassign⟩ := List.mem_filter.1 ha
      obtain rfl := eq_of_nodup_keys hnodup hmem he heq
      cases hv : a.2 with
      | record entries => simp [hv, isAssignment] at hassign
      | _ => simp [hv, isTable] at htable
    have hbelow := addBlocks_entries hleaves hnodup hentries
    rw [hunder, Entries.addBlocks_append, node]
    by_cases hheader : hasHeader entries
    · rw [if_pos hheader, if_pos hheader, Entries.addBlocks_cons,
        Entries.addSection_fresh hfresh (nodup_assigned hnodup)]
      show Entries.addBlocks _ _ = _
      rw [Entries.addBlocks_under_concat hfresh, hbelow]
      rfl
    · have hnone := assigned_eq_nil hheader
      rw [hnone] at hbelow
      rw [if_neg hheader, if_neg hheader, hnone]
      show Entries.addBlocks es _ = _
      rw [Entries.addBlocks_under_fresh hfresh
        (entryBlocks_ne_nil [] (exists_isTable_of_not_hasHeader hheader))]
      have hbelow' : Entries.addBlocks [] (entryBlocks [] entries) =
          some ([] ++ tableNodes entries) := hbelow
      rw [hbelow']
      rfl
  | .null | .bool _ | .int _ | .real _ | .text _ | .moment _ | .list _ =>
    exact congrArg some (List.append_nil es).symm

theorem addBlocks_entries {es : Entries} {entries : List (String × Data)}
    (hfresh : ∀ e ∈ entries, isTable e.2 → Entries.Fresh e.1 es)
    (hnodup : (entries.map (·.1)).Nodup) (hdistinct : DistinctEntries entries) :
    es.addBlocks (entryBlocks [] entries) = some (es ++ tableNodes entries) := by
  match entries with
  | [] => exact congrArg some (List.append_nil es).symm
  | (key, v) :: rest =>
    obtain ⟨hkey, hrest⟩ := List.forall_mem_cons.1 hfresh
    rw [List.map_cons, List.nodup_cons] at hnodup
    rw [entryBlocks, tableNodes, Entries.addBlocks_append]
    by_cases htable : isTable v
    · rw [addBlocks_table (hkey htable) hdistinct.1, if_pos htable]
      show Entries.addBlocks (es ++ [(key, node v)]) _ = _
      rw [addBlocks_entries ?_ hnodup.2 hdistinct.2, List.append_assoc]
      intro e he htable' e' he'
      rcases List.mem_append.1 he' with he' | he'
      · exact hrest e he htable' e' he'
      · rw [List.mem_singleton.1 he']
        intro heq
        exact hnodup.1 (List.mem_map.2 ⟨e, he, heq.symm⟩)
    · have hnone : tableBlocks [] key v = [] := by
        cases v with
        | record entries => exact absurd rfl htable
        | _ => rfl
      rw [hnone, if_neg htable]
      exact addBlocks_entries hrest hnodup.2 hdistinct.2

end

/-- **Documents are read back.**  A document of tables in which no key stands twice is written, and
read back but for what is null and for the order of assignments and tables. -/
theorem read?_write {entries : List (String × Data)} (hfits : ∀ b ∈ entryBlocks [] entries, b.Fits)
    (hnodup : (entries.map (·.1)).Nodup) (hdistinct : DistinctEntries entries) :
    ∃ text, write entries = .ok text ∧ read? text = some (.record (tidiedTables entries)) := by
  obtain ⟨texts, htexts, hread⟩ := read?_blocks hfits
  refine ⟨_, by rw [write_eq, htexts]; rfl, ?_⟩
  have hassemble : Entries.addBlocks [] _ = some ([] ++ tableNodes entries) :=
    addBlocks_entries (fun _ _ _ e he => nomatch he) hnodup hdistinct
  have htop : assemble? (⟨.top, []⟩ :: (entryBlocks [] entries).map Block.toSection) =
      (Entries.addBlocks [] (entryBlocks [] entries)).map fun es => .record (entriesData es) := rfl
  rw [hread, htop, hassemble, List.nil_append, Option.map_some, entriesData_tableNodes]

/-! ## What can be written -/

theorem exists_of_mapM {α β ε : Type} {f : α → Except ε β} {as : List α} {bs : List β}
    (h : as.mapM f = .ok bs) : ∀ a ∈ as, ∃ b, f a = .ok b := by
  induction as generalizing bs with
  | nil => exact nofun
  | cons a as ih =>
    obtain ⟨b, bs', hb, hbs, -⟩ := exists_of_mapM_cons h
    exact List.forall_mem_cons.2 ⟨⟨b, hb⟩, ih hbs⟩

/-- A document is written only if each of its assignments is. -/
theorem exists_assignmentText {entries : List (String × Data)} {text : String}
    (h : write entries = .ok text) :
    ∀ b ∈ entryBlocks [] entries, ∀ e ∈ b.entries, ∃ line, assignmentText e = .ok line := by
  intro b hb
  rw [write_eq] at h
  cases htexts : (entryBlocks [] entries).mapM Block.text with
  | error e =>
    rw [htexts] at h
    cases h
  | ok texts =>
    obtain ⟨t, ht⟩ := exists_of_mapM htexts b hb
    rw [Block.text] at ht
    cases hlines : b.entries.mapM assignmentText with
    | error e =>
      rw [hlines] at ht
      cases ht
    | ok lines => exact exists_of_mapM hlines

theorem mem_entryBlocks {path : List String} {b : Block} {entries : List (String × Data)} :
    b ∈ entryBlocks path entries ↔ ∃ e ∈ entries, b ∈ tableBlocks path e.1 e.2 := by
  induction entries with
  | nil => simp [entryBlocks]
  | cons e entries ih =>
    obtain ⟨key, v⟩ := e
    rw [entryBlocks, List.mem_append, ih]
    simp only [List.mem_cons, exists_eq_or_imp]

/-- What is assigned in a table is in a block of it. -/
theorem exists_block (path : List String) (key : String) {entries : List (String × Data)}
    {e : String × Data} (h : e ∈ assigned entries) :
    ∃ b ∈ tableBlocks path key (.record entries), e ∈ b.entries := by
  have hheader : hasHeader entries := by
    cases hnone : hasHeader entries with
    | true => rfl
    | false =>
      rw [assigned_eq_nil (Bool.not_eq_true _ ▸ hnone)] at h
      cases h
  rw [tableBlocks, if_pos hheader]
  exact ⟨_, List.mem_cons_self, h⟩

/-- A table with no tables below it is a single block. -/
theorem tableBlocks_of_no_tables (path : List String) (key : String)
    {entries : List (String × Data)} (h : ∀ e ∈ entries, ¬isTable e.2) :
    tableBlocks path key (.record entries) = [⟨path, key, assigned entries⟩] := by
  have hheader : hasHeader entries := by
    cases hnone : hasHeader entries with
    | true => rfl
    | false =>
      obtain ⟨e, he, htable⟩ := exists_isTable_of_not_hasHeader (Bool.not_eq_true _ ▸ hnone)
      exact absurd htable (h e he)
  have hbelow : entryBlocks (path ++ [key]) entries = [] := by
    refine List.eq_nil_iff_forall_not_mem.2 fun b hb => ?_
    obtain ⟨e, he, hb⟩ := mem_entryBlocks.1 hb
    have htable := h e he
    cases hv : e.2 with
    | record entries => exact htable (by rw [hv]; rfl)
    | _ =>
      rw [hv] at hb
      cases hb
  rw [tableBlocks, if_pos hheader, hbelow, List.append_nil]

/-- Whether a table holds nothing but plain values and null, under keys without quotes. -/
def Flat (entries : List (String × Data)) : Prop :=
  ∀ e ∈ entries, Bare e.1 ∧ (e.2 = .null ∨ Plain e.2)

theorem Flat.nil : Flat [] :=
  nofun

theorem Flat.cons {key : String} {v : Data} {entries : List (String × Data)} (hkey : Bare key)
    (hv : v = .null ∨ Plain v) (hentries : Flat entries) : Flat ((key, v) :: entries) :=
  List.forall_mem_cons.2 ⟨⟨hkey, hv⟩, hentries⟩

theorem Plain.not_isTable {v : Data} (h : Plain v) : ¬isTable v := by
  cases h <;> exact nofun

namespace Flat

variable {entries : List (String × Data)} (h : Flat entries)

include h

theorem not_isTable : ∀ e ∈ entries, ¬isTable e.2 := by
  intro e he
  rcases (h e he).2 with hnull | hplain
  · rw [hnull]
    exact nofun
  · exact hplain.not_isTable

theorem fits {path : List String} {key : String} (hbare : ∀ p ∈ path ++ [key], Bare p)
    (hlevels : path.length + 1 < levelLimit) :
    ∀ b ∈ tableBlocks path key (.record entries), b.Fits := by
  rw [tableBlocks_of_no_tables path key h.not_isTable]
  refine List.forall_mem_singleton.2 ⟨hbare, hlevels, fun e he => ?_⟩
  obtain ⟨hmem, hassign⟩ := List.mem_filter.1 he
  refine ⟨(h e hmem).1, (h e hmem).2.resolve_left fun hnull => ?_⟩
  rw [hnull] at hassign
  cases hassign

theorem distinct (hnodup : (entries.map (·.1)).Nodup) : Distinct (.record entries) := by
  refine ⟨hnodup, ?_⟩
  clear hnodup
  induction entries with
  | nil => trivial
  | cons e entries ih =>
    refine ⟨?_, ih (List.forall_mem_cons.1 h).2⟩
    have htable := h.not_isTable e List.mem_cons_self
    cases hv : e.2 with
    | record entries => exact absurd (by rw [hv]; rfl) htable
    | _ => trivial

end Flat

end ResetCheck.Toml
