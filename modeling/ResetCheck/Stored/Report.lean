import ResetCheck.Stored.Name

/-!
# Stored reports

Budgets, milestones, outcomes, reports and verdicts as data.  Spans are stored in whole
milliseconds of 64 bits, times of the calendar in seconds and nanoseconds.
-/

namespace ResetCheck

namespace Span

/-- A span in milliseconds, of which 64 bits are kept. -/
def encode (a : Span) : Data :=
  .int ((a.millis % UInt64.size : Nat) : Int)

def decode : Shape Span :=
  fun v => (Shape.natural UInt64.size "u64" v).map ofMillis

end Span

namespace Milestone

def stateField : Shape.Field Connectivity :=
  ⟨"state", Connectivity.decode, none⟩

def elapsedField : Shape.Field Span :=
  ⟨"elapsed", Span.decode, none⟩

def encode (m : Milestone) : Data :=
  .record [("state", m.state.encode), ("elapsed", m.elapsed.encode)]

def decode : Shape Milestone :=
  Shape.record .json "struct TransitionRecord" [stateField.toCheck, elapsedField.toCheck]
    fun expected source => do
      let state ← stateField.read 0 expected source
      let elapsed ← elapsedField.read 1 expected source
      return ⟨state, elapsed⟩

end Milestone

namespace Budget

def baseField : Shape.Field Span :=
  ⟨"base", Span.decode, none⟩

def multiplierField : Shape.Field UInt32 :=
  ⟨"multiplier", Shape.word32, none⟩

def allowanceField : Shape.Field Span :=
  ⟨"extra_recovery", Span.decode, none⟩

def encode (b : Budget) : Data :=
  .record [("base", b.base.encode), ("multiplier", .int b.multiplier.toNat),
    ("extra_recovery", b.allowance.encode)]

/-- A stored multiplier of zero is kept as it is. -/
def decode : Shape Budget :=
  Shape.record .json "struct TimeoutBudget"
    [baseField.toCheck, multiplierField.toCheck, allowanceField.toCheck]
    fun expected source => do
      let base ← baseField.read 0 expected source
      let multiplier ← multiplierField.read 1 expected source
      let allowance ← allowanceField.read 2 expected source
      return ⟨base, multiplier, allowance⟩

end Budget

namespace WallTime

/-- The time `nanos` nanoseconds after the start of 1970, if the calendar reaches so far. -/
def ofNanos? (nanos : Nat) : Option WallTime :=
  if h : nanos < bound then some ⟨nanos, h⟩ else none

def encode (t : WallTime) : Data :=
  .record [("secs_since_epoch", .int t.seconds), ("nanos_since_epoch", .int t.subsecond)]

def secondsField : Shape.Field Nat :=
  ⟨"secs_since_epoch", Shape.natural UInt64.size "u64", none⟩

def nanosField : Shape.Field Nat :=
  ⟨"nanos_since_epoch", Shape.natural UInt32.size "u32", none⟩

def fieldNames : List String :=
  ["secs_since_epoch", "nanos_since_epoch"]

/-- The first entry that is unknown or does not fit. -/
def checkEntries : List (String × Data) → Except ShapeFault Unit
  | [] => .ok ()
  | (key, v) :: rest => do
    if key = secondsField.name then discard (secondsField.shape v)
    else if key = nanosField.name then discard (nanosField.shape v)
    else throw (.unknownField key fieldNames)
    checkEntries rest

/-- Seconds and nanoseconds.  Nanoseconds of a second or more carry into the seconds, which must
then still fit 64 bits. -/
def readParts (expected : String) (source : Shape.Source) : Except ShapeFault Nat := do
  let seconds ← secondsField.read 0 expected source
  let nanos ← nanosField.read 1 expected source
  if UInt64.size ≤ seconds + nanos / 1000000000 then
    throw (.described "overflow deserializing SystemTime epoch offset")
  return seconds * 1000000000 + nanos

def readNanos : Shape Nat
  | .record entries => do
    checkEntries entries
    readParts "struct SystemTime" (.byName entries)
  | .list items => do
    let nanos ← readParts "struct SystemTime" (.byPlace items)
    if 2 < items.length then throw (.wrongLength items.length "fewer elements in array")
    return nanos
  | v => .error (.mistyped v "struct SystemTime")

def decode : Shape WallTime :=
  fun v => do
    let nanos ← readNanos v
    match ofNanos? nanos with
    | some t => return t
    | none => throw (.described "overflow deserializing SystemTime")

end WallTime

namespace Outcome

def outputField : Shape.Field String :=
  ⟨"output", Shape.text, none⟩

def supportField : Shape.Field Support :=
  ⟨"class", Support.decode, none⟩

def issuedAtField : Shape.Field WallTime :=
  ⟨"issued_at", WallTime.decode, none⟩

def encode (o : Outcome) : Data :=
  .record [("output", .text o.output), ("class", o.support.encode),
    ("issued_at", o.issuedAt.encode)]

def decode : Shape Outcome :=
  Shape.record .json "struct ResetOutcome"
    [outputField.toCheck, supportField.toCheck, issuedAtField.toCheck]
    fun expected source => do
      let output ← outputField.read 0 expected source
      let support ← supportField.read 1 expected source
      let issuedAt ← issuedAtField.read 2 expected source
      return ⟨output, support, issuedAt⟩

end Outcome

namespace Report

def variantField : Shape.Field String :=
  ⟨"variant", Shape.text, none⟩

def finalField : Shape.Field Connectivity :=
  ⟨"final_state", Connectivity.decode, none⟩

def milestonesField : Shape.Field (List Milestone) :=
  ⟨"transitions", Shape.list Milestone.decode, none⟩

def budgetField : Shape.Field Budget :=
  ⟨"budget", Budget.decode, none⟩

def outcomeField : Shape.Field Outcome :=
  ⟨"outcome", Outcome.decode, none⟩

def encode (r : Report) : Data :=
  .record [("variant", .text r.variant), ("final_state", r.final.encode),
    ("transitions", .list (r.milestones.map Milestone.encode)), ("budget", r.budget.encode),
    ("outcome", r.outcome.encode)]

def decode : Shape Report :=
  Shape.record .json "struct SessionReport"
    [variantField.toCheck, finalField.toCheck, milestonesField.toCheck, budgetField.toCheck,
      outcomeField.toCheck]
    fun expected source => do
      let variant ← variantField.read 0 expected source
      let final ← finalField.read 1 expected source
      let milestones ← milestonesField.read 2 expected source
      let budget ← budgetField.read 3 expected source
      let outcome ← outcomeField.read 4 expected source
      return ⟨variant, final, milestones, budget, outcome⟩

end Report

namespace Verdict

def kindField : Shape.Field VerdictKind :=
  ⟨"kind", VerdictKind.decode, none⟩

def reasonField : Shape.Field String :=
  ⟨"reason", Shape.text, none⟩

def reportField : Shape.Field Report :=
  ⟨"report", Report.decode, none⟩

def encode (v : Verdict) : Data :=
  .record [("kind", v.kind.encode), ("reason", .text v.reason), ("report", v.report.encode)]

def decode : Shape Verdict :=
  Shape.record .json "struct Verdict" [kindField.toCheck, reasonField.toCheck, reportField.toCheck]
    fun expected source => do
      let kind ← kindField.read 0 expected source
      let reason ← reasonField.read 1 expected source
      let report ← reportField.read 2 expected source
      return ⟨kind, reason, report⟩

end Verdict

end ResetCheck
