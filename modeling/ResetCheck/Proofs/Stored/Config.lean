import ResetCheck.Config.File
import ResetCheck.Proofs.Stored.RoundTrip
import ResetCheck.Proofs.Text.Utf8
import ResetCheck.Proofs.Toml.Document

/-!
# Saved configurations

A configuration is saved with the settings left out that are not set, and read back as it was: what
is missing has the default that it was not set to.  Only integers beyond 63 bits cannot be saved,
and then nothing is done to the files.

* `Shape.Field.Keeps`: what is read of a field of a record that was written and read back.
* `Config.decode_tidied`: what is read back of a configuration gives that configuration.
* `Config.Fits.blocks_fit`, `Config.fits_of_write`: which configurations can be written.
* `Config.parse_of_write`: what was written is parsed as what it was written for.
* `Config.load_saved`: what becomes of a configuration that is saved.
-/

namespace ResetCheck

open Toml

/-! ## Records that were written -/

namespace Shape

variable {α : Type}

/-- The entries of a record as they are read back. -/
def tidiedEntries (entries : List (String × Data)) : List (String × Data) :=
  assigned entries ++ tidiedTables entries

theorem mem_tidiedTables {e : String × Data} {entries : List (String × Data)}
    (h : e ∈ tidiedTables entries) : ∃ v, (e.1, v) ∈ entries ∧ isTable v ∧ e.2 = tidied v := by
  induction entries with
  | nil => cases h
  | cons a entries ih =>
    rw [tidiedTables, List.mem_append] at h
    rcases h with h | h
    · split at h
      · next htable =>
        obtain rfl := List.mem_singleton.1 h
        exact ⟨a.2, List.mem_cons_self, htable, rfl⟩
      · cases h
    · obtain ⟨v, hv, htable, he⟩ := ih h
      exact ⟨v, List.mem_cons_of_mem _ hv, htable, he⟩

/-- What is read back of a record was in it, and was not null. -/
theorem mem_tidiedEntries {e : String × Data} {entries : List (String × Data)}
    (h : e ∈ tidiedEntries entries) :
    ∃ v, (e.1, v) ∈ entries ∧ (isAssignment v ∨ isTable v) ∧ e.2 = tidied v := by
  rcases List.mem_append.1 h with h | h
  · obtain ⟨hmem, hassign⟩ := List.mem_filter.1 h
    refine ⟨e.2, hmem, .inl hassign, ?_⟩
    cases hv : e.2 with
    | record entries => simp [hv, isAssignment] at hassign
    | _ => rfl
  · obtain ⟨v, hv, htable, he⟩ := mem_tidiedTables h
    exact ⟨v, hv, .inr htable, he⟩

theorem mem_tidiedEntries_of_mem {key : String} {v : Data} {entries : List (String × Data)}
    (h : (key, v) ∈ entries) (hv : isAssignment v ∨ isTable v) :
    (key, tidied v) ∈ tidiedEntries entries := by
  rw [tidiedEntries, List.mem_append]
  rcases hv with hassign | htable
  · have htidied : tidied v = v := by
      cases v with
      | record entries => simp [isAssignment] at hassign
      | _ => rfl
    rw [htidied]
    exact .inl (List.mem_filter.2 ⟨h, hassign⟩)
  · refine .inr ?_
    induction entries with
    | nil => cases h
    | cons e entries ih =>
      rw [tidiedTables, List.mem_append]
      rcases List.mem_cons.1 h with rfl | h
      · rw [if_pos htable]
        exact .inl (List.mem_singleton_self _)
      · exact .inr (ih h)

section Find

variable {key : String} {v : Data} {entries : List (String × Data)}

theorem find?_tidiedEntries (hnodup : (entries.map (·.1)).Nodup) (h : (key, v) ∈ entries)
    (hv : isAssignment v ∨ isTable v) :
    Data.find? key (tidiedEntries entries) = some (tidied v) := by
  have hmem := mem_tidiedEntries_of_mem h hv
  cases hfind : (tidiedEntries entries).find? (·.1 == key) with
  | none => exact absurd (List.find?_eq_none.1 hfind _ hmem) (by simp)
  | some e =>
    have hkey : e.1 = key := by simpa using List.find?_some hfind
    obtain ⟨w, hw, -, he⟩ := mem_tidiedEntries (List.mem_of_find?_eq_some hfind)
    obtain rfl := (Prod.mk.inj (eq_of_nodup_keys hnodup hw h hkey)).2
    rw [Data.find?, hfind, Option.map_some, he]

/-- What is null is not found any more. -/
theorem find?_tidiedEntries_null (hnodup : (entries.map (·.1)).Nodup) (h : (key, .null) ∈ entries) :
    Data.find? key (tidiedEntries entries) = none := by
  rw [Data.find?, Option.map_eq_none_iff, List.find?_eq_none]
  intro e he hkey
  obtain ⟨w, hw, hkind, -⟩ := mem_tidiedEntries he
  obtain rfl := (Prod.mk.inj (eq_of_nodup_keys hnodup hw h (by simpa using hkey))).2
  rcases hkind with hassign | htable
  · cases hassign
  · cases htable

end Find

/-- Whether a field has a value if data that was written for it is read back: the value that is read
from the data, or the default if the data was null. -/
def Field.Keeps (field : Field α) (v : Data) (a : α) : Prop :=
  (v = .null ∧ field.default = some a) ∨
    (isAssignment v ∨ isTable v) ∧ field.shape (tidied v) = .ok a

theorem Field.read_tidied {field : Field α} {place : Nat} {expected : String}
    {entries : List (String × Data)} {v : Data} {a : α} (hnodup : (entries.map (·.1)).Nodup)
    (hmem : (field.name, v) ∈ entries) (h : field.Keeps v a) :
    field.read place expected (.byName (tidiedEntries entries)) = .ok a := by
  rcases h with ⟨rfl, hdefault⟩ | ⟨hkind, hshape⟩
  · rw [read, find?_tidiedEntries_null hnodup hmem, hdefault]
  · exact read_byName (find?_tidiedEntries hnodup hmem hkind) hshape

theorem checkEntries_of_forall {checks : List FieldCheck} {entries : List (String × Data)}
    (h : ∀ e ∈ entries, ∀ c, checks.find? (·.name == e.1) = some c → c.check e.2 = .ok ()) :
    checkEntries checks entries = .ok () := by
  induction entries with
  | nil => rfl
  | cons e entries ih =>
    obtain ⟨he, hentries⟩ := List.forall_mem_cons.1 h
    rw [checkEntries]
    split
    · next c hc =>
      rw [he c hc]
      exact ih hentries
    · exact ih hentries

/-- Whether the entries of a record fit its fields once they are read back. -/
def Fitting (checks : List FieldCheck) (entries : List (String × Data)) : Prop :=
  ∀ e ∈ entries, isAssignment e.2 ∨ isTable e.2 →
    ∀ c, checks.find? (·.name == e.1) = some c → c.check (tidied e.2) = .ok ()

theorem Fitting.nil (checks : List FieldCheck) : Fitting checks [] :=
  fun _ he => nomatch he

theorem Fitting.cons {checks : List FieldCheck} {field : Field α} {key : String} {v : Data} {a : α}
    {entries : List (String × Data)}
    (hfind : checks.find? (·.name == key) = some field.toCheck) (h : field.Keeps v a)
    (hentries : Fitting checks entries) : Fitting checks ((key, v) :: entries) := by
  refine List.forall_mem_cons.2 ⟨fun hkind c hc => ?_, hentries⟩
  obtain rfl := Option.some.inj (hfind.symm.trans hc)
  rcases h with ⟨rfl, -⟩ | ⟨-, hshape⟩
  · rcases hkind with hassign | htable
    · cases hassign
    · cases htable
  · show (field.shape (tidied v)).map _ = _
    rw [hshape]
    rfl

theorem record_tidied {dialect : Dialect} {name : String} {checks : List FieldCheck}
    {build : String → Source → Except ShapeFault α} {entries : List (String × Data)}
    (h : Fitting checks entries) :
    record dialect name checks build (tidied (.record entries)) =
      build name (.byName (tidiedEntries entries)) := by
  refine record_byName (checkEntries_of_forall fun e he c hc => ?_)
  obtain ⟨v, hv, hkind, heq⟩ := mem_tidiedEntries he
  rw [heq]
  exact h _ hv hkind c hc

theorem text_keeps {field : Field String} (h : field.shape = text) (s : String) :
    field.Keeps (.text s) s := by
  refine .inr ⟨.inl rfl, ?_⟩
  rw [h]
  rfl

theorem word64_ofWord (n : UInt64) : word64 (.ofWord n) = .ok n := by
  rw [word64, Data.ofWord, natural_int n.toNat_lt]
  show Except.ok (UInt64.ofNat n.toNat) = _
  rw [UInt64.ofNat_toNat]

theorem word_keeps {field : Field UInt64} (h : field.shape = word64) (n : UInt64) :
    field.Keeps (.ofWord n) n := by
  have htidied : tidied (.ofWord n) = .ofWord n := rfl
  refine .inr ⟨.inl rfl, ?_⟩
  rw [h, htidied, word64_ofWord]

end Shape

/-! ## The parts of a configuration -/

namespace RunnerSettings

def entries (s : RunnerSettings) : List (String × Data) :=
  [("log_level", .text s.logLevel), ("adb_path", .text s.adbPath),
    ("poll_interval_ms", .ofWord s.pollInterval)]

theorem nodup_entries (s : RunnerSettings) : (s.entries.map (·.1)).Nodup := by
  show ["log_level", "adb_path", "poll_interval_ms"].Nodup
  decide

theorem decode_tidied (s : RunnerSettings) : decode (tidied s.encode) = .ok s := by
  have hlevel : logLevelField.Keeps (.text s.logLevel) s.logLevel := Shape.text_keeps rfl _
  have hpath : adbPathField.Keeps (.text s.adbPath) s.adbPath := Shape.text_keeps rfl _
  have hinterval : pollIntervalField.Keeps (.ofWord s.pollInterval) s.pollInterval :=
    Shape.word_keeps rfl _
  have hencode : s.encode = .record s.entries := rfl
  have hfitting : Shape.Fitting
      [logLevelField.toCheck, adbPathField.toCheck, pollIntervalField.toCheck] s.entries :=
    .cons rfl hlevel (.cons rfl hpath (.cons rfl hinterval (.nil _)))
  rw [decode, hencode, Shape.record_tidied hfitting,
    Shape.bind_of_ok (Shape.Field.read_tidied s.nodup_entries (.head _) hlevel),
    Shape.bind_of_ok (Shape.Field.read_tidied s.nodup_entries (.tail _ (.head _)) hpath),
    Shape.bind_of_ok
      (Shape.Field.read_tidied s.nodup_entries (.tail _ (.tail _ (.head _))) hinterval)]
  rfl

theorem flat_entries {s : RunnerSettings} (h : s.pollInterval.toNat < Text.signedBound) :
    Flat s.entries :=
  .cons (by decide) (.inr (.text _)) (.cons (by decide) (.inr (.text _))
    (.cons (by decide) (.inr (.int h)) .nil))

end RunnerSettings

namespace TimeoutSettings

def entries (s : TimeoutSettings) : List (String × Data) :=
  [("base_ms", .ofWord s.base), ("multiplier_property", .text s.multiplierProperty)]

theorem nodup_entries (s : TimeoutSettings) : (s.entries.map (·.1)).Nodup := by
  show ["base_ms", "multiplier_property"].Nodup
  decide

theorem decode_tidied (s : TimeoutSettings) : decode (tidied s.encode) = .ok s := by
  have hbase : baseField.Keeps (.ofWord s.base) s.base := Shape.word_keeps rfl _
  have hproperty : propertyField.Keeps (.text s.multiplierProperty) s.multiplierProperty :=
    Shape.text_keeps rfl _
  have hencode : s.encode = .record s.entries := rfl
  have hfitting : Shape.Fitting [baseField.toCheck, propertyField.toCheck] s.entries :=
    .cons rfl hbase (.cons rfl hproperty (.nil _))
  rw [decode, hencode, Shape.record_tidied hfitting,
    Shape.bind_of_ok (Shape.Field.read_tidied s.nodup_entries (.head _) hbase),
    Shape.bind_of_ok (Shape.Field.read_tidied s.nodup_entries (.tail _ (.head _)) hproperty)]
  rfl

theorem flat_entries {s : TimeoutSettings} (h : s.base.toNat < Text.signedBound) :
    Flat s.entries :=
  .cons (by decide) (.inr (.int h)) (.cons (by decide) (.inr (.text _)) .nil)

end TimeoutSettings

namespace VariantSettings

def entries (s : VariantSettings) : List (String × Data) :=
  [("settle_delay_ms", .ofOption .ofWord s.settle),
    ("start_delay_ms", .ofOption .ofWord s.start),
    ("post_issue_delay_ms", .ofOption .ofWord s.postIssue),
    ("extra_recovery_ms", .ofOption .ofWord s.allowance),
    ("short_circuit", .ofOption ShortCircuit.encode s.shortCircuit)]

theorem nodup_entries (s : VariantSettings) : (s.entries.map (·.1)).Nodup := by
  show ["settle_delay_ms", "start_delay_ms", "post_issue_delay_ms", "extra_recovery_ms",
    "short_circuit"].Nodup
  decide

theorem delayField_keeps (name : String) (o : Option UInt64) :
    (delayField name).Keeps (.ofOption .ofWord o) o := by
  cases o with
  | none => exact .inl ⟨rfl, rfl⟩
  | some n =>
    have hshape : (delayField name).shape = Shape.optional Shape.word64 := rfl
    have htidied : tidied (.ofOption .ofWord (some n)) = .int n.toNat := rfl
    have hword : Shape.word64 (.int n.toNat) = .ok n := Shape.word64_ofWord n
    refine .inr ⟨.inl rfl, ?_⟩
    rw [hshape, htidied, Shape.optional, hword]
    · rfl
    · exact nofun

theorem shortCircuitField_keeps (o : Option ShortCircuit) :
    shortCircuitField.Keeps (.ofOption ShortCircuit.encode o) o := by
  cases o with
  | none => exact .inl ⟨rfl, rfl⟩
  | some s => exact .inr ⟨.inl rfl, by cases s <;> rfl⟩

theorem decode_tidied (s : VariantSettings) : decode (tidied s.encode) = .ok s := by
  have hsettle : settleField.Keeps _ s.settle := delayField_keeps _ _
  have hstart : startField.Keeps _ s.start := delayField_keeps _ _
  have hpostIssue : postIssueField.Keeps _ s.postIssue := delayField_keeps _ _
  have hallowance : allowanceField.Keeps _ s.allowance := delayField_keeps _ _
  have hcircuit := shortCircuitField_keeps s.shortCircuit
  have hencode : s.encode = .record s.entries := rfl
  have hfitting : Shape.Fitting [settleField.toCheck, startField.toCheck, postIssueField.toCheck,
      allowanceField.toCheck, shortCircuitField.toCheck] s.entries :=
    .cons rfl hsettle (.cons rfl hstart (.cons rfl hpostIssue (.cons rfl hallowance
      (.cons rfl hcircuit (.nil _)))))
  rw [decode, hencode, Shape.record_tidied hfitting,
    Shape.bind_of_ok (Shape.Field.read_tidied s.nodup_entries (.head _) hsettle),
    Shape.bind_of_ok (Shape.Field.read_tidied s.nodup_entries (.tail _ (.head _)) hstart),
    Shape.bind_of_ok
      (Shape.Field.read_tidied s.nodup_entries (.tail _ (.tail _ (.head _))) hpostIssue),
    Shape.bind_of_ok
      (Shape.Field.read_tidied s.nodup_entries (.tail _ (.tail _ (.tail _ (.head _)))) hallowance),
    Shape.bind_of_ok (Shape.Field.read_tidied s.nodup_entries
      (.tail _ (.tail _ (.tail _ (.tail _ (.head _))))) hcircuit)]
  rfl

/-- The delays that are set. -/
def integers (s : VariantSettings) : List UInt64 :=
  [s.settle, s.start, s.postIssue, s.allowance].filterMap id

theorem mem_integers {s : VariantSettings} {n : UInt64} :
    n ∈ s.integers ↔
      s.settle = some n ∨ s.start = some n ∨ s.postIssue = some n ∨ s.allowance = some n := by
  simp [integers, eq_comm]

/-- The delays that are set are assigned in the table of the settings. -/
theorem exists_assigned {s : VariantSettings} {n : UInt64} (h : n ∈ s.integers) :
    ∃ key, (key, .ofWord n) ∈ assigned s.entries := by
  have hassigned : ∀ key, (key, .ofOption .ofWord (some n)) ∈ s.entries →
      ∃ key, (key, .ofWord n) ∈ assigned s.entries :=
    fun key hmem => ⟨key, List.mem_filter.2 ⟨hmem, rfl⟩⟩
  rcases mem_integers.1 h with hn | hn | hn | hn
  · exact hassigned "settle_delay_ms" (hn ▸ .head _)
  · exact hassigned "start_delay_ms" (hn ▸ .tail _ (.head _))
  · exact hassigned "post_issue_delay_ms" (hn ▸ .tail _ (.tail _ (.head _)))
  · exact hassigned "extra_recovery_ms" (hn ▸ .tail _ (.tail _ (.tail _ (.head _))))

theorem flat_entries {s : VariantSettings} (h : ∀ n ∈ s.integers, n.toNat < Text.signedBound) :
    Flat s.entries := by
  have hdelay : ∀ o : Option UInt64, (∀ n, o = some n → n ∈ s.integers) →
      Data.ofOption .ofWord o = .null ∨ Plain (.ofOption .ofWord o) := by
    intro o ho
    cases o with
    | none => exact .inl rfl
    | some n => exact .inr (.int (h n (ho n rfl)))
  have hcircuit : Data.ofOption ShortCircuit.encode s.shortCircuit = .null ∨
      Plain (.ofOption ShortCircuit.encode s.shortCircuit) := by
    cases s.shortCircuit with
    | none => exact .inl rfl
    | some c => exact .inr (.text _)
  have hsettle := hdelay s.settle fun n hn => mem_integers.2 (.inl hn)
  have hstart := hdelay s.start fun n hn => mem_integers.2 (.inr (.inl hn))
  have hpostIssue := hdelay s.postIssue fun n hn => mem_integers.2 (.inr (.inr (.inl hn)))
  have hallowance := hdelay s.allowance fun n hn => mem_integers.2 (.inr (.inr (.inr hn)))
  exact .cons (by decide) hsettle (.cons (by decide) hstart (.cons (by decide) hpostIssue
    (.cons (by decide) hallowance (.cons (by decide) hcircuit .nil))))

end VariantSettings

namespace VariantOverrides

def entries (o : VariantOverrides) : List (String × Data) :=
  [("gadget", .ofOption VariantSettings.encode o.gadget),
    ("port", .ofOption VariantSettings.encode o.port)]

theorem nodup_entries (o : VariantOverrides) : (o.entries.map (·.1)).Nodup := by
  show ["gadget", "port"].Nodup
  decide

theorem field_keeps (name : String) (o : Option VariantSettings) :
    (⟨name, Shape.optional VariantSettings.decode, some none⟩ : Shape.Field _).Keeps
      (.ofOption VariantSettings.encode o) o := by
  cases o with
  | none => exact .inl ⟨rfl, rfl⟩
  | some s =>
    refine .inr ⟨.inr rfl, ?_⟩
    show (VariantSettings.decode (tidied s.encode)).map some = _
    rw [VariantSettings.decode_tidied]
    rfl

theorem decode_tidied (o : VariantOverrides) : decode (tidied o.encode) = .ok o := by
  have hgadget : gadgetField.Keeps _ o.gadget := field_keeps _ _
  have hport : portField.Keeps _ o.port := field_keeps _ _
  have hencode : o.encode = .record o.entries := rfl
  have hfitting : Shape.Fitting [gadgetField.toCheck, portField.toCheck] o.entries :=
    .cons rfl hgadget (.cons rfl hport (.nil _))
  rw [decode, hencode, Shape.record_tidied hfitting,
    Shape.bind_of_ok (Shape.Field.read_tidied o.nodup_entries (.head _) hgadget),
    Shape.bind_of_ok (Shape.Field.read_tidied o.nodup_entries (.tail _ (.head _)) hport)]
  rfl

/-- The settings that are there for some preset. -/
def all (o : VariantOverrides) : List VariantSettings :=
  [o.gadget, o.port].filterMap id

theorem mem_all {o : VariantOverrides} {s : VariantSettings} :
    s ∈ o.all ↔ o.gadget = some s ∨ o.port = some s := by
  simp [all, eq_comm]

theorem assigned_entries (o : VariantOverrides) : assigned o.entries = [] := by
  have hnone : ∀ o : Option VariantSettings,
      isAssignment (.ofOption VariantSettings.encode o) = false := by
    intro o
    cases o <;> rfl
  simp [assigned, entries, hnone]

end VariantOverrides

/-! ## Configurations -/

namespace Config

/-- The entries of the table of phrases. -/
def phraseEntries (phrases : List String) : List (String × Data) :=
  [("not_supported_phrases", .list (phrases.map .text))]

theorem nodup_phraseEntries (phrases : List String) :
    ((phraseEntries phrases).map (·.1)).Nodup := by
  show ["not_supported_phrases"].Nodup
  decide

theorem flat_phraseEntries (phrases : List String) : Flat (phraseEntries phrases) :=
  .cons (by decide) (.inr (.texts _)) .nil

theorem decodePhrases_tidied (phrases : List String) :
    decodePhrases (tidied (encodePhrases phrases)) = .ok phrases := by
  have hphrases : phrasesField.Keeps (.list (phrases.map .text)) phrases := by
    refine .inr ⟨.inl rfl, ?_⟩
    have hmap : (phrases.map Data.text).mapM Shape.text = .ok (phrases.map id) :=
      Shape.mapM_encode fun _ _ => rfl
    rw [List.map_id] at hmap
    exact hmap
  have hencode : encodePhrases phrases = .record (phraseEntries phrases) := rfl
  have hfitting : Shape.Fitting [phrasesField.toCheck] (phraseEntries phrases) :=
    .cons rfl hphrases (.nil _)
  rw [decodePhrases, hencode, Shape.record_tidied hfitting]
  exact Shape.Field.read_tidied (nodup_phraseEntries phrases) (.head _) hphrases

theorem nodup_sections (c : Config) : (c.sections.map (·.1)).Nodup := by
  show ["runner", "timeouts", "invoker", "variants"].Nodup
  decide

/-- What is read back of a configuration gives that configuration. -/
theorem decode_tidied (c : Config) : decode (.record (tidiedTables c.sections)) = .ok c := by
  have hrunner : runnerField.Keeps c.runner.encode c.runner :=
    .inr ⟨.inr rfl, c.runner.decode_tidied⟩
  have htimeouts : timeoutsField.Keeps c.timeouts.encode c.timeouts :=
    .inr ⟨.inr rfl, c.timeouts.decode_tidied⟩
  have hinvoker : invokerField.Keeps (encodePhrases c.phrases) c.phrases :=
    .inr ⟨.inr rfl, decodePhrases_tidied c.phrases⟩
  have hvariants : variantsField.Keeps c.variants.encode c.variants :=
    .inr ⟨.inr rfl, c.variants.decode_tidied⟩
  have hfitting : Shape.Fitting [runnerField.toCheck, timeoutsField.toCheck, invokerField.toCheck,
      variantsField.toCheck] c.sections :=
    .cons rfl hrunner (.cons rfl htimeouts (.cons rfl hinvoker (.cons rfl hvariants (.nil _))))
  have htidied : Data.record (tidiedTables c.sections) = tidied (.record c.sections) := by
    rw [tidied]
    rfl
  rw [decode, htidied, Shape.record_tidied hfitting,
    Shape.bind_of_ok (Shape.Field.read_tidied c.nodup_sections (.head _) hrunner),
    Shape.bind_of_ok (Shape.Field.read_tidied c.nodup_sections (.tail _ (.head _)) htimeouts),
    Shape.bind_of_ok
      (Shape.Field.read_tidied c.nodup_sections (.tail _ (.tail _ (.head _))) hinvoker),
    Shape.bind_of_ok
      (Shape.Field.read_tidied c.nodup_sections (.tail _ (.tail _ (.tail _ (.head _)))) hvariants)]
  rfl

/-- All integers that a configuration sets. -/
def integers (c : Config) : List UInt64 :=
  c.runner.pollInterval :: c.timeouts.base :: c.variants.all.flatMap VariantSettings.integers

/-- Whether the integers of a configuration have no more than 63 bits. -/
def Fits (c : Config) : Prop :=
  ∀ n ∈ c.integers, n.toNat < Text.signedBound

instance (c : Config) : Decidable c.Fits :=
  decidable_of_iff (c.integers.all (·.toNat < Text.signedBound)) (by simp [Fits])

/-- The blocks of a configuration: one for each of the first three sections, and those of the
changes to presets. -/
theorem mem_entryBlocks_sections {c : Config} {b : Block} :
    b ∈ entryBlocks [] c.sections ↔
      b ∈ tableBlocks [] "runner" (.record c.runner.entries) ∨
      b ∈ tableBlocks [] "timeouts" (.record c.timeouts.entries) ∨
      b ∈ tableBlocks [] "invoker" (.record (phraseEntries c.phrases)) ∨
      b ∈ tableBlocks [] "variants" (.record c.variants.entries) := by
  rw [mem_entryBlocks]
  simp only [sections, List.mem_cons, List.not_mem_nil, or_false, exists_eq_or_imp, exists_eq_left]
  rfl

section Fits

variable {c : Config} (h : c.Fits)

include h

theorem Fits.flat_runner : Flat c.runner.entries :=
  RunnerSettings.flat_entries (List.forall_mem_cons.1 h).1

theorem Fits.flat_timeouts : Flat c.timeouts.entries :=
  TimeoutSettings.flat_entries (List.forall_mem_cons.1 (List.forall_mem_cons.1 h).2).1

theorem Fits.flat_override {s : VariantSettings} (hs : s ∈ c.variants.all) : Flat s.entries := by
  refine VariantSettings.flat_entries fun n hn => h n ?_
  exact .tail _ (.tail _ (List.mem_flatMap.2 ⟨s, hs, hn⟩))

/-- Whatever holds without settings and with those of a configuration holds of the entries for
presets. -/
theorem Fits.forall_overrides {P : Data → Prop} (hnull : P .null)
    (hflat : ∀ s : VariantSettings, Flat s.entries → P s.encode) :
    ∀ e ∈ c.variants.entries, P e.2 := by
  have hoption : ∀ o : Option VariantSettings, (∀ s, o = some s → s ∈ c.variants.all) →
      P (.ofOption VariantSettings.encode o) := by
    intro o ho
    cases o with
    | none => exact hnull
    | some s => exact hflat s (h.flat_override (ho s rfl))
  refine List.forall_mem_cons.2 ⟨?_, List.forall_mem_singleton.2 ?_⟩
  · exact hoption _ fun s hs => VariantOverrides.mem_all.2 (.inl hs)
  · exact hoption _ fun s hs => VariantOverrides.mem_all.2 (.inr hs)

/-- All that a configuration assigns is written so that it can be read back. -/
theorem Fits.blocks_fit : ∀ b ∈ entryBlocks [] c.sections, b.Fits := by
  intro b hb
  rcases mem_entryBlocks_sections.1 hb with hb | hb | hb | hb
  · exact h.flat_runner.fits (by decide) (by decide) b hb
  · exact h.flat_timeouts.fits (by decide) (by decide) b hb
  · exact (flat_phraseEntries _).fits (by decide) (by decide) b hb
  · rw [tableBlocks, c.variants.assigned_entries, List.mem_append] at hb
    rcases hb with hb | hb
    · -- a header with nothing below it
      split at hb
      · rw [List.mem_singleton.1 hb]
        exact ⟨by decide, by decide, nofun⟩
      · cases hb
    · obtain ⟨e, he, hb⟩ := mem_entryBlocks.1 hb
      have hname : e.1 = "gadget" ∨ e.1 = "port" := by
        have hkey : e.1 ∈ ["gadget", "port"] := List.mem_map.2 ⟨e, he, rfl⟩
        simpa using hkey
      have hbare : ∀ p ∈ ["variants"] ++ [e.1], Bare p := by
        rcases hname with hname | hname <;> rw [hname] <;> decide
      refine h.forall_overrides (P := fun v => ∀ b ∈ tableBlocks _ e.1 v, b.Fits) nofun ?_ e he b hb
      exact fun s hflat => hflat.fits hbare (by decide)

theorem Fits.distinctEntries : DistinctEntries c.sections := by
  have hvariants : DistinctEntries c.variants.entries := by
    have hall := h.forall_overrides (P := Distinct) trivial
      fun s hflat => hflat.distinct s.nodup_entries
    exact ⟨hall _ (.head _), hall _ (.tail _ (.head _)), trivial⟩
  exact ⟨h.flat_runner.distinct c.runner.nodup_entries,
    h.flat_timeouts.distinct c.timeouts.nodup_entries,
    (flat_phraseEntries _).distinct (nodup_phraseEntries _),
    ⟨c.variants.nodup_entries, hvariants⟩, trivial⟩

/-- A configuration whose integers fit is written, and its data is read back. -/
theorem Fits.exists_write :
    ∃ text, c.write = .ok text ∧ read? text = some (.record (tidiedTables c.sections)) :=
  read?_write h.blocks_fit c.nodup_sections h.distinctEntries

end Fits

/-- Each integer of a configuration is assigned in one of its blocks. -/
theorem exists_assignment {c : Config} {n : UInt64} (h : n ∈ c.integers) :
    ∃ b ∈ entryBlocks [] c.sections, ∃ key, (key, .ofWord n) ∈ b.entries := by
  rcases List.mem_cons.1 h with rfl | h
  · have hmem : ("poll_interval_ms", .ofWord c.runner.pollInterval) ∈ assigned c.runner.entries :=
      List.mem_filter.2 ⟨.tail _ (.tail _ (.head _)), rfl⟩
    obtain ⟨b, hb, he⟩ := exists_block [] "runner" hmem
    exact ⟨b, mem_entryBlocks_sections.2 (.inl hb), _, he⟩
  rcases List.mem_cons.1 h with rfl | h
  · have hmem : ("base_ms", .ofWord c.timeouts.base) ∈ assigned c.timeouts.entries :=
      List.mem_filter.2 ⟨.head _, rfl⟩
    obtain ⟨b, hb, he⟩ := exists_block [] "timeouts" hmem
    exact ⟨b, mem_entryBlocks_sections.2 (.inr (.inl hb)), _, he⟩
  obtain ⟨s, hs, hn⟩ := List.mem_flatMap.1 h
  obtain ⟨key, hmem⟩ := VariantSettings.exists_assigned hn
  have hbelow : ∃ name, (name, s.encode) ∈ c.variants.entries := by
    rcases VariantOverrides.mem_all.1 hs with hs | hs
    · exact ⟨"gadget", by simp [VariantOverrides.entries, hs, Data.ofOption]⟩
    · exact ⟨"port", by simp [VariantOverrides.entries, hs, Data.ofOption]⟩
  obtain ⟨name, hname⟩ := hbelow
  obtain ⟨b, hb, he⟩ := exists_block ["variants"] name hmem
  refine ⟨b, mem_entryBlocks_sections.2 (.inr (.inr (.inr ?_))), key, he⟩
  rw [tableBlocks, List.mem_append]
  exact .inr (mem_entryBlocks.2 ⟨_, hname, hb⟩)

/-- A configuration is written only if its integers fit. -/
theorem fits_of_write {c : Config} {text : String} (h : c.write = .ok text) : c.Fits := by
  intro n hn
  obtain ⟨b, hb, key, he⟩ := exists_assignment hn
  obtain ⟨line, hline⟩ := exists_assignmentText h b hb _ he
  have hinteger : assignmentText (key, .ofWord n) =
      (integerText n.toNat).map fun text => keyText key ++ [' ', '=', ' '] ++ text ++ ['\n'] := rfl
  rw [hinteger, integerText] at hline
  split at hline
  · next hbound => exact Int.ofNat_lt.1 hbound
  · cases hline

theorem parse_of_read {c : Config} {text : String} {data : Data} (hread : read? text = some data)
    (hdecode : decode data = .ok c) (hvalid : c.fault? = none) : parse text = .ok c := by
  rw [parse, hread]
  dsimp only
  rw [hdecode]
  dsimp only
  rw [hvalid]

/-- What was written for an acceptable configuration is parsed as that configuration. -/
theorem parse_of_write {c : Config} {text : String} (hvalid : c.fault? = none)
    (hwrite : c.write = .ok text) : parse text = .ok c := by
  obtain ⟨written, hwritten, hread⟩ := (fits_of_write hwrite).exists_write
  obtain rfl := Except.ok.inj (hwrite.symm.trans hwritten)
  exact parse_of_read hread c.decode_tidied hvalid

/-! ## Saving -/

section Save

variable {c : Config} {φ : Type} [Storage φ]

theorem save_of_write {text : String} (hwrite : c.write = .ok text) (path : String)
    (files saved : φ) :
    c.save path files = (.ok (), saved) ↔
      ∃ home, makeHome path files = .ok home ∧
        Storage.write home path text.toUTF8.toList = .ok saved := by
  rw [save, hwrite, saveWritten]
  constructor
  · intro h
    split at h
    · cases h
    · next home hhome =>
      split at h
      · cases h
      · next written hwritten =>
        obtain rfl := (Prod.mk.inj h).2
        exact ⟨home, hhome, hwritten⟩
  · rintro ⟨home, hhome, hsaved⟩
    rw [hhome]
    dsimp only
    rw [hsaved]

theorem save_of_not_fits (h : ¬c.Fits) (path : String) (files : φ) :
    ∃ cause, c.save path files = (.error (.unwritable cause), files) := by
  cases hwrite : c.write with
  | error cause =>
    refine ⟨cause, ?_⟩
    rw [save, hwrite, saveWritten]
  | ok text => exact absurd (fits_of_write hwrite) h

theorem load_of_parse {text path : String} {files : φ} (hparse : parse text = .ok c)
    (hread : Storage.read files path = .ok text.toUTF8.toList) : load path files = .ok c := by
  rw [load, hread]
  dsimp only
  rw [Text.decode?_toUTF8]
  dsimp only
  rw [hparse]

end Save

/-- **Saved configurations load back unchanged.**  If its integers have no more than 63 bits, an
acceptable configuration has a text that is parsed as that configuration.  Saving it means making
the directory and writing that text, and wherever that text is read, the configuration is loaded.
If its integers have more, saving fails and nothing is done to the files. -/
theorem load_saved {c : Config} (hvalid : c.fault? = none) :
    (c.Fits → ∃ text, parse text = .ok c ∧
      ∀ {φ : Type} [Storage φ] (path : String) (files saved : φ),
        (c.save path files = (.ok (), saved) ↔
          ∃ home, makeHome path files = .ok home ∧
            Storage.write home path text.toUTF8.toList = .ok saved) ∧
        (Storage.read saved path = .ok text.toUTF8.toList → load path saved = .ok c)) ∧
    (¬c.Fits → ∀ {φ : Type} [Storage φ] (path : String) (files : φ),
      ∃ cause, c.save path files = (.error (.unwritable cause), files)) := by
  constructor
  · intro h
    obtain ⟨text, hwrite, -⟩ := h.exists_write
    have hparse := parse_of_write hvalid hwrite
    refine ⟨text, hparse, ?_⟩
    intro φ _ path files saved
    exact ⟨save_of_write hwrite path files saved, load_of_parse hparse⟩
  · intro h φ _ path files
    exact save_of_not_fits h path files

/-- A configuration with quotes, backslashes, newlines and control characters in its texts, the
largest integer that can be written, and settings for a preset that set nothing. -/
def awkward : Config where
  runner := ⟨"info", "C:\\tools\\\"adb\"", 1⟩
  timeouts := ⟨9223372036854775807, "timeout\n'''\t\"\"\""⟩
  phrases := ["not 'supported'", "no\r\x01\\", "\"\"\"'''\n"]
  variants := ⟨some .unset, some ⟨some 0, none, none, none, some .afterDelay⟩⟩

/-- The same with an integer that is larger by one. -/
def oversized : Config :=
  { awkward with timeouts := ⟨9223372036854775808, awkward.timeouts.multiplierProperty⟩ }

theorem load_saved_awkward :
    awkward.fault? = none ∧ awkward.Fits ∧
      (∃ text, parse text = .ok awkward ∧
        let saved : Files := ⟨.directory [("config.toml", .file text.toUTF8.toList)], []⟩
        awkward.save "config.toml" (⟨.directory [], []⟩ : Files) = (.ok (), saved) ∧
          load "config.toml" saved = .ok awkward) ∧
    oversized.fault? = none ∧ ¬oversized.Fits ∧
      ∃ cause, oversized.save "config.toml" (⟨.directory [], []⟩ : Files) =
        (.error (.unwritable cause), ⟨.directory [], []⟩) := by
  have hvalid : awkward.fault? = none := by decide +kernel
  have hfits : awkward.Fits := by decide
  have hvalid' : oversized.fault? = none := by decide +kernel
  have hlarge : ¬oversized.Fits := by decide
  obtain ⟨text, hparse, hsave⟩ := (load_saved hvalid).1 hfits
  refine ⟨hvalid, hfits, ⟨text, hparse, ?_⟩, hvalid', hlarge, (load_saved hvalid').2 hlarge _ _⟩
  intro saved
  obtain ⟨hwritten, hload⟩ := hsave "config.toml" (⟨.directory [], []⟩ : Files) saved
  exact ⟨hwritten.2 ⟨_, rfl, rfl⟩, hload rfl⟩

end Config

end ResetCheck
