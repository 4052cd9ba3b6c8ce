import ResetCheck.Stored.Report

/-!
# Reading back what was stored

What is stored is read back as it was, but for spans, which lose what they have beyond whole
milliseconds.  Whatever was read, in any form that is accepted, is stored in the one form that is
written, and read back from that without any loss.

* `RoundTrips`: these two laws.
* `Shape.exists_build_sourceOf`, `Shape.Field.exists_find?`: what reading a record and a field comes
  down to.
* `Verdict.stored`: the laws for verdicts, from those for their parts.
* `stored_roundTrips`: the laws for all that is stored of a check.
-/

namespace ResetCheck

/-! ## Records and lists -/

namespace Shape

variable {α β : Type}

theorem exists_of_bind {x : Except ShapeFault α} {f : α → Except ShapeFault β} {b : β}
    (h : x >>= f = .ok b) : ∃ a, x = .ok a ∧ f a = .ok b := by
  cases x with
  | error e => cases h
  | ok a => exact ⟨a, rfl, h⟩

theorem exists_of_map {x : Except ShapeFault α} {f : α → β} {b : β} (h : x.map f = .ok b) :
    ∃ a, x = .ok a ∧ f a = b := by
  cases x with
  | error e => cases h
  | ok a => exact ⟨a, rfl, Except.ok.inj h⟩

theorem bind_of_ok {x : Except ShapeFault α} {a : α} (h : x = .ok a)
    (f : α → Except ShapeFault β) : x >>= f = f a := by
  rw [h]
  rfl

theorem discard_bind_of_ok {x : Except ShapeFault α} {a : α} (h : x = .ok a)
    (f : Unit → Except ShapeFault β) : discard x >>= f = f () := by
  rw [h]
  rfl

/-- Where the fields of a record come from that data holds. -/
def sourceOf : Data → Source
  | .record entries => .byName entries
  | .list items => .byPlace items
  | _ => .byName []

/-- What a source has for the field of a name or, in a list, of a place. -/
def Source.find? (name : String) (place : Nat) : Source → Option Data
  | byName entries => Data.find? name entries
  | byPlace items => items[place]?

/-- Whatever form a record comes in, its fields were read from there. -/
theorem exists_build_sourceOf {dialect : Dialect} {name : String} {checks : List FieldCheck}
    {build : String → Source → Except ShapeFault α} {v : Data} {a : α}
    (h : record dialect name checks build v = .ok a) :
    ∃ expected, build expected (sourceOf v) = .ok a := by
  cases v with
  | record entries =>
    obtain ⟨-, -, hbuild⟩ := exists_of_bind h
    exact ⟨_, hbuild⟩
  | list items =>
    obtain ⟨a', hbuild, hrest⟩ := exists_of_bind h
    split at hrest
    · cases hrest
    · cases hrest
      exact ⟨_, hbuild⟩
  | moment s => exact ⟨_, h⟩
  | _ => cases h

theorem exists_build {dialect : Dialect} {name : String} {checks : List FieldCheck}
    {build : String → Source → Except ShapeFault α} {v : Data} {a : α}
    (h : record dialect name checks build v = .ok a) :
    ∃ expected source, build expected source = .ok a := by
  obtain ⟨expected, hbuild⟩ := exists_build_sourceOf h
  exact ⟨expected, _, hbuild⟩

/-- A field that was read is in its source, unless it may be missing. -/
theorem Field.exists_find? {field : Field α} {place : Nat} {expected : String} {source : Source}
    {a : α} (hdefault : field.default = none) (h : field.read place expected source = .ok a) :
    ∃ v, source.find? field.name place = some v ∧ field.shape v = .ok a := by
  cases source with
  | byName entries =>
    rw [read, hdefault] at h
    cases hfind : Data.find? field.name entries with
    | none => rw [hfind] at h; cases h
    | some v => rw [hfind] at h; exact ⟨v, hfind, h⟩
  | byPlace items =>
    rw [read, hdefault] at h
    cases hitem : items[place]? with
    | none => rw [hitem] at h; cases h
    | some v => rw [hitem] at h; exact ⟨v, hitem, h⟩

theorem Field.exists_shape {field : Field α} {place : Nat} {expected : String} {source : Source}
    {a : α} (hdefault : field.default = none) (h : field.read place expected source = .ok a) :
    ∃ v, field.shape v = .ok a := by
  obtain ⟨v, -, hv⟩ := exists_find? hdefault h
  exact ⟨v, hv⟩

theorem record_byName {dialect : Dialect} {name : String} {checks : List FieldCheck}
    {build : String → Source → Except ShapeFault α} {entries : List (String × Data)}
    (h : checkEntries checks entries = .ok ()) :
    record dialect name checks build (.record entries) = build name (.byName entries) := by
  rw [record, h]
  rfl

theorem checkEntries_cons {checks : List FieldCheck} {field : Field α} {key : String} {v : Data}
    {rest : List (String × Data)} {a : α}
    (hfind : checks.find? (·.name == key) = some field.toCheck) (hv : field.shape v = .ok a) :
    checkEntries checks ((key, v) :: rest) = checkEntries checks rest := by
  have hcheck : field.toCheck.check v = .ok () := by
    show (field.shape v).map _ = _
    rw [hv]
    rfl
  rw [checkEntries, hfind]
  dsimp only
  rw [hcheck]

theorem Field.read_byName {field : Field α} {place : Nat} {expected : String}
    {entries : List (String × Data)} {v : Data} {a : α}
    (hfind : Data.find? field.name entries = some v) (hv : field.shape v = .ok a) :
    field.read place expected (.byName entries) = .ok a := by
  rw [read, hfind]
  exact hv

theorem natural_int {n bound : Nat} (h : n < bound) (wanted : String) :
    natural bound wanted (.int n) = .ok n :=
  if_pos ⟨Int.natCast_nonneg n, Int.ofNat_lt.2 h⟩

theorem lt_of_natural {n bound : Nat} {wanted : String} {v : Data}
    (h : natural bound wanted v = .ok n) : n < bound := by
  cases v with
  | int k =>
    rw [natural] at h
    split at h
    · next hk =>
      obtain rfl := Except.ok.inj h
      omega
    · cases h
  | _ => cases h

/-- Every element of a list that was read has its shape. -/
theorem exists_of_mapM {shape : Shape α} {items : List Data} {as : List α}
    (h : items.mapM shape = .ok as) : ∀ a ∈ as, ∃ v, shape v = .ok a := by
  induction items generalizing as with
  | nil => cases h; exact nofun
  | cons v items ih =>
    rw [List.mapM_cons] at h
    obtain ⟨a, ha, h⟩ := exists_of_bind h
    obtain ⟨rest, hrest, h⟩ := exists_of_bind h
    cases h
    exact List.forall_mem_cons.2 ⟨⟨v, ha⟩, ih hrest⟩

theorem mapM_encode {encode : α → Data} {shape : Shape β} {f : α → β} {as : List α}
    (h : ∀ a ∈ as, shape (encode a) = .ok (f a)) :
    (as.map encode).mapM shape = .ok (as.map f) := by
  induction as with
  | nil => rfl
  | cons a as ih =>
    obtain ⟨ha, has⟩ := List.forall_mem_cons.1 h
    rw [List.map_cons, List.mapM_cons, ha, ih has]
    rfl

end Shape

/-! ## The laws -/

/-- What fits is read back, rounded, and what was read is read back exactly. -/
def RoundTrips {α : Type} (encode : α → Data) (decode : Shape α) (rounded : α → α)
    (Fits : α → Prop) : Prop :=
  (∀ a, Fits a → decode (encode a) = .ok (rounded a)) ∧
    ∀ v a, decode v = .ok a → decode (encode a) = .ok a

/-- The same laws, in the form in which they pass from the parts of a record to the whole. -/
structure Stored {α : Type} (encode : α → Data) (decode : Shape α) (rounded : α → α)
    (Fits : α → Prop) : Prop where
  decode_encode : ∀ a, Fits a → decode (encode a) = .ok (rounded a)
  /-- What was read fits and is rounded already. -/
  kept : ∀ {v a}, decode v = .ok a → Fits a ∧ rounded a = a

theorem Stored.roundTrips {α : Type} {encode : α → Data} {decode : Shape α} {rounded : α → α}
    {Fits : α → Prop} (h : Stored encode decode rounded Fits) :
    RoundTrips encode decode rounded Fits := by
  refine ⟨h.decode_encode, fun v a ha => ?_⟩
  obtain ⟨hfits, hrounded⟩ := h.kept ha
  rw [h.decode_encode a hfits, hrounded]

/-- What is read back as it was, always. -/
theorem Stored.of_exact {α : Type} {encode : α → Data} {decode : Shape α}
    (h : ∀ a, decode (encode a) = .ok a) : Stored encode decode id fun _ => True :=
  ⟨fun a _ => h a, fun _ => ⟨trivial, rfl⟩⟩

theorem Stored.list {α : Type} {encode : α → Data} {decode : Shape α} {rounded : α → α}
    {Fits : α → Prop} (h : Stored encode decode rounded Fits) :
    Stored (fun as => .list (as.map encode)) (Shape.list decode) (·.map rounded)
      fun as => ∀ a ∈ as, Fits a where
  decode_encode as hfits := Shape.mapM_encode fun a ha => h.decode_encode a (hfits a ha)
  kept {v as} has := by
    cases v with
    | list items =>
      have hkept : ∀ a ∈ as, Fits a ∧ rounded a = a := by
        intro a ha
        obtain ⟨v, hv⟩ := Shape.exists_of_mapM has a ha
        exact h.kept hv
      refine ⟨fun a ha => (hkept a ha).1, ?_⟩
      exact (List.map_congr_left fun a ha => (hkept a ha).2).trans (List.map_id as)
    | _ => cases has

/-! ## Names -/

theorem Connectivity.stored : Stored encode decode id fun _ => True :=
  .of_exact fun s => by cases s <;> rfl

theorem Support.stored : Stored encode decode id fun _ => True :=
  .of_exact fun s => by cases s <;> rfl

theorem VerdictKind.stored : Stored encode decode id fun _ => True :=
  .of_exact fun k => by cases k <;> rfl

theorem ShortCircuit.stored (dialect : Dialect) : Stored encode (decode dialect) id fun _ => True :=
  .of_exact fun s => by cases s <;> rfl

/-! ## Spans and times -/

namespace Span

/-- A span rounded down to whole milliseconds. -/
def inMillis (a : Span) : Span where
  nanos := a.nanos - a.nanos % 1000000
  nanos_le := Nat.le_trans (Nat.sub_le _ _) a.nanos_le

/-- Whether the milliseconds of a span fit 64 bits. -/
def Fits (a : Span) : Prop :=
  a.millis < UInt64.size

theorem ofMillis_millis (a : Span) : ofMillis a.millis = a.inMillis := by
  have hle := a.nanos_le
  apply Span.ext
  rw [ofMillis, millis, nanos_ofNanos]
  show min (a.nanos / 1000000 * 1000000) maxNanos = a.nanos - a.nanos % 1000000
  omega

theorem millis_ofMillis {n : Nat} (h : n < UInt64.size) : (ofMillis n).millis = n := by
  rw [millis, ofMillis, nanos_ofNanos, maxNanos]
  unfold UInt64.size at *
  omega

theorem stored : Stored encode decode inMillis Fits where
  decode_encode a ha := by
    have hmod : a.millis % UInt64.size = a.millis := Nat.mod_eq_of_lt ha
    rw [encode, decode, hmod, Shape.natural_int ha]
    exact congrArg Except.ok a.ofMillis_millis
  kept h := by
    obtain ⟨n, hn, rfl⟩ := Shape.exists_of_map h
    have hmillis := millis_ofMillis (Shape.lt_of_natural hn)
    constructor
    · rw [Fits, hmillis]
      exact Shape.lt_of_natural hn
    · rw [← ofMillis_millis, hmillis]

end Span

namespace WallTime

theorem seconds_lt (t : WallTime) : t.seconds < UInt64.size := by
  have h := t.nanos_lt
  unfold bound Text.signedBound at h
  unfold seconds UInt64.size
  omega

theorem subsecond_lt (t : WallTime) : t.subsecond < UInt32.size := by
  unfold subsecond UInt32.size
  omega

theorem stored : Stored encode decode id fun _ => True := by
  refine .of_exact fun t => ?_
  have hseconds : secondsField.shape (.int t.seconds) = .ok t.seconds := by
    have hshape : secondsField.shape = Shape.natural UInt64.size "u64" := rfl
    rw [hshape, Shape.natural_int t.seconds_lt]
  have hsubsecond : nanosField.shape (.int t.subsecond) = .ok t.subsecond := by
    have hshape : nanosField.shape = Shape.natural UInt32.size "u32" := rfl
    rw [hshape, Shape.natural_int t.subsecond_lt]
  have hcheck : checkEntries
      [("secs_since_epoch", .int t.seconds), ("nanos_since_epoch", .int t.subsecond)] = .ok () := by
    have hfirst : "secs_since_epoch" = secondsField.name := rfl
    have hother : "nanos_since_epoch" ≠ secondsField.name := by decide
    have hsecond : "nanos_since_epoch" = nanosField.name := rfl
    rw [checkEntries, if_pos hfirst, Shape.discard_bind_of_ok hseconds, checkEntries,
      if_neg hother, if_pos hsecond, Shape.discard_bind_of_ok hsubsecond, checkEntries]
  have hcarry : t.seconds + t.subsecond / 1000000000 < UInt64.size := by
    have hnone : t.subsecond / 1000000000 = 0 := Nat.div_eq_of_lt (Nat.mod_lt _ (by decide))
    rw [hnone]
    exact t.seconds_lt
  have hparts : ∀ expected, readParts expected (.byName
      [("secs_since_epoch", .int t.seconds), ("nanos_since_epoch", .int t.subsecond)]) =
        .ok t.nanos := by
    intro expected
    rw [readParts, Shape.bind_of_ok (Shape.Field.read_byName rfl hseconds),
      Shape.bind_of_ok (Shape.Field.read_byName rfl hsubsecond), if_neg (Nat.not_le.2 hcarry)]
    exact congrArg Except.ok (Nat.div_add_mod' t.nanos 1000000000)
  have hread : readNanos t.encode = .ok t.nanos := by
    rw [encode, readNanos, Shape.bind_of_ok hcheck, hparts]
  have hnanos : ofNanos? t.nanos = some t := dif_pos t.nanos_lt
  rw [decode, Shape.bind_of_ok hread, hnanos]
  rfl

end WallTime

theorem word32_stored :
    Stored (fun n : UInt32 => .int n.toNat) Shape.word32 id fun _ => True := by
  refine .of_exact fun n => ?_
  rw [Shape.word32, Shape.natural_int n.toNat_lt]
  show Except.ok (UInt32.ofNat n.toNat) = _
  rw [UInt32.ofNat_toNat]

theorem text_stored : Stored .text Shape.text id fun _ => True :=
  .of_exact fun _ => rfl

/-! ## Records of a check -/

namespace Milestone

/-- The milestone with its spans in whole milliseconds. -/
def inMillis (m : Milestone) : Milestone :=
  { m with elapsed := m.elapsed.inMillis }

def Fits (m : Milestone) : Prop :=
  m.elapsed.Fits

theorem state_stored : Stored Connectivity.encode stateField.shape id fun _ => True :=
  Connectivity.stored

theorem elapsed_stored : Stored Span.encode elapsedField.shape Span.inMillis Span.Fits :=
  Span.stored

theorem stored : Stored encode decode inMillis Fits where
  decode_encode m hfits := by
    have hstate := state_stored.decode_encode m.state trivial
    have helapsed := elapsed_stored.decode_encode m.elapsed hfits
    have hcheck : Shape.checkEntries [stateField.toCheck, elapsedField.toCheck]
        [("state", m.state.encode), ("elapsed", m.elapsed.encode)] = .ok () :=
      (Shape.checkEntries_cons rfl hstate).trans (Shape.checkEntries_cons rfl helapsed)
    rw [decode, encode, Shape.record_byName hcheck]
    rw [Shape.Field.read_byName rfl hstate, Shape.Field.read_byName rfl helapsed]
    rfl
  kept h := by
    obtain ⟨expected, source, h⟩ := Shape.exists_build h
    obtain ⟨state, -, h⟩ := Shape.exists_of_bind h
    obtain ⟨elapsed, helapsed, h⟩ := Shape.exists_of_bind h
    cases h
    obtain ⟨v, hv⟩ := Shape.Field.exists_shape rfl helapsed
    obtain ⟨hfits, hmillis⟩ := elapsed_stored.kept hv
    refine ⟨hfits, ?_⟩
    rw [inMillis, hmillis]

end Milestone

namespace Budget

/-- The budget with its spans in whole milliseconds. -/
def inMillis (b : Budget) : Budget :=
  { b with base := b.base.inMillis, allowance := b.allowance.inMillis }

def Fits (b : Budget) : Prop :=
  b.base.Fits ∧ b.allowance.Fits

theorem base_stored : Stored Span.encode baseField.shape Span.inMillis Span.Fits :=
  Span.stored

theorem multiplier_stored :
    Stored (fun n : UInt32 => .int n.toNat) multiplierField.shape id fun _ => True :=
  word32_stored

theorem allowance_stored : Stored Span.encode allowanceField.shape Span.inMillis Span.Fits :=
  Span.stored

theorem stored : Stored encode decode inMillis Fits where
  decode_encode b hfits := by
    have hbase := base_stored.decode_encode b.base hfits.1
    have hmultiplier := multiplier_stored.decode_encode b.multiplier trivial
    have hallowance := allowance_stored.decode_encode b.allowance hfits.2
    have hcheck : Shape.checkEntries
        [baseField.toCheck, multiplierField.toCheck, allowanceField.toCheck]
        [("base", b.base.encode), ("multiplier", .int b.multiplier.toNat),
          ("extra_recovery", b.allowance.encode)] = .ok () :=
      (Shape.checkEntries_cons rfl hbase).trans
        ((Shape.checkEntries_cons rfl hmultiplier).trans (Shape.checkEntries_cons rfl hallowance))
    rw [decode, encode, Shape.record_byName hcheck,
      Shape.bind_of_ok (Shape.Field.read_byName rfl hbase),
      Shape.bind_of_ok (Shape.Field.read_byName rfl hmultiplier),
      Shape.bind_of_ok (Shape.Field.read_byName rfl hallowance)]
    rfl
  kept h := by
    obtain ⟨expected, source, h⟩ := Shape.exists_build h
    obtain ⟨base, hbase, h⟩ := Shape.exists_of_bind h
    obtain ⟨multiplier, -, h⟩ := Shape.exists_of_bind h
    obtain ⟨allowance, hallowance, h⟩ := Shape.exists_of_bind h
    cases h
    obtain ⟨_, hv⟩ := Shape.Field.exists_shape rfl hbase
    obtain ⟨_, hv'⟩ := Shape.Field.exists_shape rfl hallowance
    obtain ⟨hfits, hmillis⟩ := base_stored.kept hv
    obtain ⟨hfits', hmillis'⟩ := allowance_stored.kept hv'
    refine ⟨⟨hfits, hfits'⟩, ?_⟩
    rw [inMillis, hmillis, hmillis']

end Budget

namespace Outcome

theorem output_stored : Stored .text outputField.shape id fun _ => True :=
  text_stored

theorem support_stored : Stored Support.encode supportField.shape id fun _ => True :=
  Support.stored

theorem issuedAt_stored : Stored WallTime.encode issuedAtField.shape id fun _ => True :=
  WallTime.stored

theorem stored : Stored encode decode id fun _ => True := by
  refine .of_exact fun o => ?_
  have houtput := output_stored.decode_encode o.output trivial
  have hsupport := support_stored.decode_encode o.support trivial
  have hissuedAt := issuedAt_stored.decode_encode o.issuedAt trivial
  have hcheck : Shape.checkEntries
      [outputField.toCheck, supportField.toCheck, issuedAtField.toCheck]
      [("output", .text o.output), ("class", o.support.encode),
        ("issued_at", o.issuedAt.encode)] = .ok () :=
    (Shape.checkEntries_cons rfl houtput).trans
      ((Shape.checkEntries_cons rfl hsupport).trans (Shape.checkEntries_cons rfl hissuedAt))
  rw [decode, encode, Shape.record_byName hcheck,
    Shape.bind_of_ok (Shape.Field.read_byName rfl houtput),
    Shape.bind_of_ok (Shape.Field.read_byName rfl hsupport),
    Shape.bind_of_ok (Shape.Field.read_byName rfl hissuedAt)]
  rfl

end Outcome

namespace Report

/-- The report with its spans in whole milliseconds. -/
def inMillis (r : Report) : Report :=
  { r with milestones := r.milestones.map Milestone.inMillis, budget := r.budget.inMillis }

def Fits (r : Report) : Prop :=
  (∀ m ∈ r.milestones, m.Fits) ∧ r.budget.Fits

theorem variant_stored : Stored .text variantField.shape id fun _ => True :=
  text_stored

theorem final_stored : Stored Connectivity.encode finalField.shape id fun _ => True :=
  Connectivity.stored

theorem milestones_stored :
    Stored (fun ms => .list (ms.map Milestone.encode)) milestonesField.shape
      (·.map Milestone.inMillis) fun ms => ∀ m ∈ ms, m.Fits :=
  Milestone.stored.list

theorem budget_stored : Stored Budget.encode budgetField.shape Budget.inMillis Budget.Fits :=
  Budget.stored

theorem outcome_stored : Stored Outcome.encode outcomeField.shape id fun _ => True :=
  Outcome.stored

theorem stored : Stored encode decode inMillis Fits where
  decode_encode r hfits := by
    have hvariant := variant_stored.decode_encode r.variant trivial
    have hfinal := final_stored.decode_encode r.final trivial
    have hmilestones := milestones_stored.decode_encode r.milestones hfits.1
    have hbudget := budget_stored.decode_encode r.budget hfits.2
    have houtcome := outcome_stored.decode_encode r.outcome trivial
    have hcheck : Shape.checkEntries
        [variantField.toCheck, finalField.toCheck, milestonesField.toCheck, budgetField.toCheck,
          outcomeField.toCheck]
        [("variant", .text r.variant), ("final_state", r.final.encode),
          ("transitions", .list (r.milestones.map Milestone.encode)),
          ("budget", r.budget.encode), ("outcome", r.outcome.encode)] = .ok () :=
      (Shape.checkEntries_cons rfl hvariant).trans
        ((Shape.checkEntries_cons rfl hfinal).trans
          ((Shape.checkEntries_cons rfl hmilestones).trans
            ((Shape.checkEntries_cons rfl hbudget).trans
              (Shape.checkEntries_cons rfl houtcome))))
    rw [decode, encode, Shape.record_byName hcheck,
      Shape.bind_of_ok (Shape.Field.read_byName rfl hvariant),
      Shape.bind_of_ok (Shape.Field.read_byName rfl hfinal),
      Shape.bind_of_ok (Shape.Field.read_byName rfl hmilestones),
      Shape.bind_of_ok (Shape.Field.read_byName rfl hbudget),
      Shape.bind_of_ok (Shape.Field.read_byName rfl houtcome)]
    rfl
  kept h := by
    obtain ⟨expected, source, h⟩ := Shape.exists_build h
    obtain ⟨variant, -, h⟩ := Shape.exists_of_bind h
    obtain ⟨final, -, h⟩ := Shape.exists_of_bind h
    obtain ⟨milestones, hmilestones, h⟩ := Shape.exists_of_bind h
    obtain ⟨budget, hbudget, h⟩ := Shape.exists_of_bind h
    obtain ⟨outcome, -, h⟩ := Shape.exists_of_bind h
    cases h
    obtain ⟨_, hv⟩ := Shape.Field.exists_shape rfl hmilestones
    obtain ⟨_, hv'⟩ := Shape.Field.exists_shape rfl hbudget
    obtain ⟨hfits, hmillis⟩ := milestones_stored.kept hv
    obtain ⟨hfits', hmillis'⟩ := budget_stored.kept hv'
    refine ⟨⟨hfits, hfits'⟩, ?_⟩
    rw [inMillis, hmillis, hmillis']

end Report

namespace Verdict

/-- The verdict with its spans in whole milliseconds. -/
def inMillis (v : Verdict) : Verdict :=
  { v with report := v.report.inMillis }

def Fits (v : Verdict) : Prop :=
  v.report.Fits

theorem kind_stored : Stored VerdictKind.encode kindField.shape id fun _ => True :=
  VerdictKind.stored

theorem reason_stored : Stored .text reasonField.shape id fun _ => True :=
  text_stored

theorem report_stored : Stored Report.encode reportField.shape Report.inMillis Report.Fits :=
  Report.stored

theorem stored : Stored encode decode inMillis Fits where
  decode_encode v hfits := by
    have hkind := kind_stored.decode_encode v.kind trivial
    have hreason := reason_stored.decode_encode v.reason trivial
    have hreport := report_stored.decode_encode v.report hfits
    have hcheck : Shape.checkEntries
        [kindField.toCheck, reasonField.toCheck, reportField.toCheck]
        [("kind", v.kind.encode), ("reason", .text v.reason), ("report", v.report.encode)] =
          .ok () :=
      (Shape.checkEntries_cons rfl hkind).trans
        ((Shape.checkEntries_cons rfl hreason).trans (Shape.checkEntries_cons rfl hreport))
    rw [decode, encode, Shape.record_byName hcheck,
      Shape.bind_of_ok (Shape.Field.read_byName rfl hkind),
      Shape.bind_of_ok (Shape.Field.read_byName rfl hreason),
      Shape.bind_of_ok (Shape.Field.read_byName rfl hreport)]
    rfl
  kept h := by
    obtain ⟨expected, source, h⟩ := Shape.exists_build h
    obtain ⟨kind, -, h⟩ := Shape.exists_of_bind h
    obtain ⟨reason, -, h⟩ := Shape.exists_of_bind h
    obtain ⟨report, hreport, h⟩ := Shape.exists_of_bind h
    cases h
    obtain ⟨_, hv⟩ := Shape.Field.exists_shape rfl hreport
    obtain ⟨hfits, hmillis⟩ := report_stored.kept hv
    refine ⟨hfits, ?_⟩
    rw [inMillis, hmillis]

end Verdict

/-- **Reading back.**  Everything that is stored of a check is read back, with its spans in whole
milliseconds, if these fit 64 bits.  Whatever was read, in whatever form, is stored and read back
exactly. -/
theorem stored_roundTrips :
    RoundTrips Connectivity.encode Connectivity.decode id (fun _ => True) ∧
      RoundTrips Support.encode Support.decode id (fun _ => True) ∧
      RoundTrips VerdictKind.encode VerdictKind.decode id (fun _ => True) ∧
      RoundTrips ShortCircuit.encode (ShortCircuit.decode .json) id (fun _ => True) ∧
      RoundTrips Milestone.encode Milestone.decode Milestone.inMillis Milestone.Fits ∧
      RoundTrips Budget.encode Budget.decode Budget.inMillis Budget.Fits ∧
      RoundTrips Outcome.encode Outcome.decode id (fun _ => True) ∧
      RoundTrips Report.encode Report.decode Report.inMillis Report.Fits ∧
      RoundTrips Verdict.encode Verdict.decode Verdict.inMillis Verdict.Fits :=
  ⟨Connectivity.stored.roundTrips, Support.stored.roundTrips, VerdictKind.stored.roundTrips,
    (ShortCircuit.stored .json).roundTrips, Milestone.stored.roundTrips, Budget.stored.roundTrips,
    Outcome.stored.roundTrips, Report.stored.roundTrips, Verdict.stored.roundTrips⟩

/-- A milestone may come by place, with its state as the only key of a record. -/
example : (Milestone.decode (.list [.record [("reconnected", .null)], .int 5])).toOption =
    some ⟨.reconnected, .ofMillis 5⟩ := by decide +kernel

/-- Nanoseconds may be a second and more. -/
example : (WallTime.decode (.list [.int 1, .int 2500000000])).toOption.map (·.seconds) =
    some 3 := by decide +kernel

end ResetCheck
