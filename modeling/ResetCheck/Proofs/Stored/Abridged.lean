import ResetCheck.Proofs.Stored.Config
import ResetCheck.Proofs.Toml.Layout

/-!
# Abridged configurations

A text need not state all of a configuration.  What it leaves out has its default, a setting by
itself as well as a whole table, and what nobody asks for is passed over.  So a configuration is
parsed from every text that states what differs from the defaults, wherever the text does it.  Only
the log level has no default.

* `Shape.Field.Given`: what entries give a field, by data or by leaving it out.
* `Config.settings`: what can be stated, and what it means not to.
* `Config.Stated`: whether contents state a configuration.
* `Config.decode_of_stated`: data that states a configuration is read as that configuration.
* `Config.parse_abridged`: texts that state a configuration, and texts that state none.
-/

namespace ResetCheck

open Toml

/-! ## Records that leave fields out -/

namespace Shape

variable {α : Type} {entries : List (String × Data)}

/-- Whether entries give a field a value, by data that is read as the value, or by leaving the field
out if the value is its default. -/
def Field.Given (field : Field α) (entries : List (String × Data)) (a : α) : Prop :=
  (∃ v, Data.find? field.name entries = some v ∧ field.shape v = .ok a) ∨
    Data.find? field.name entries = none ∧ field.default = some a

theorem Field.Given.read {field : Field α} {a : α} (h : field.Given entries a) (place : Nat)
    (expected : String) : field.read place expected (.byName entries) = .ok a := by
  rcases h with ⟨v, hfind, hv⟩ | ⟨hfind, hdefault⟩
  · exact read_byName hfind hv
  · rw [Field.read, hfind, hdefault]

/-- Whether what entries have for a check passes it. -/
def FieldCheck.Passes (c : FieldCheck) (entries : List (String × Data)) : Prop :=
  ∀ v, Data.find? c.name entries = some v → c.check v = .ok ()

theorem Field.Given.passes {field : Field α} {a : α} (h : field.Given entries a) :
    field.toCheck.Passes entries := by
  intro v hfind
  rcases h with ⟨v', hfind', hv⟩ | ⟨hnone, -⟩
  · obtain rfl := Option.some.inj (hfind.symm.trans hfind')
    show (field.shape v).map _ = _
    rw [hv]
    rfl
  · exact absurd (hfind.symm.trans hnone) nofun

theorem find?_of_mem (hnodup : (entries.map (·.1)).Nodup) {e : String × Data} (he : e ∈ entries) :
    Data.find? e.1 entries = some e.2 := by
  cases hfind : entries.find? (·.1 == e.1) with
  | none => exact absurd (List.find?_eq_none.1 hfind e he) (by simp)
  | some e' =>
    have hkey : e'.1 = e.1 := by simpa using List.find?_some hfind
    rw [Data.find?, hfind, eq_of_nodup_keys hnodup (List.mem_of_find?_eq_some hfind) he hkey]
    rfl

/-- Entries that no check is about are passed over. -/
theorem record_of_passes {dialect : Dialect} {name : String} {checks : List FieldCheck}
    {build : String → Source → Except ShapeFault α} (hnodup : (entries.map (·.1)).Nodup)
    (h : ∀ c ∈ checks, c.Passes entries) :
    record dialect name checks build (.record entries) = build name (.byName entries) := by
  refine record_byName (checkEntries_of_forall fun e he c hc => ?_)
  have hname : c.name = e.1 := by simpa using List.find?_some hc
  exact h c (List.mem_of_find?_eq_some hc) e.2 (hname ▸ find?_of_mem hnodup he)

end Shape

/-! ## The parts of a configuration -/

section Parts

variable {entries : List (String × Data)} (hnodup : (entries.map (·.1)).Nodup)

include hnodup

theorem RunnerSettings.decode_of_given {s : RunnerSettings}
    (hlevel : logLevelField.Given entries s.logLevel)
    (hpath : adbPathField.Given entries s.adbPath)
    (hinterval : pollIntervalField.Given entries s.pollInterval) :
    decode (.record entries) = .ok s := by
  rw [decode, Shape.record_of_passes hnodup (by
      simpa using ⟨hlevel.passes, hpath.passes, hinterval.passes⟩),
    Shape.bind_of_ok (hlevel.read 0 _), Shape.bind_of_ok (hpath.read 1 _),
    Shape.bind_of_ok (hinterval.read 2 _)]
  rfl

theorem TimeoutSettings.decode_of_given {s : TimeoutSettings}
    (hbase : baseField.Given entries s.base)
    (hproperty : propertyField.Given entries s.multiplierProperty) :
    decode (.record entries) = .ok s := by
  rw [decode, Shape.record_of_passes hnodup (by simpa using ⟨hbase.passes, hproperty.passes⟩),
    Shape.bind_of_ok (hbase.read 0 _), Shape.bind_of_ok (hproperty.read 1 _)]
  rfl

theorem VariantSettings.decode_of_given {s : VariantSettings}
    (hsettle : settleField.Given entries s.settle) (hstart : startField.Given entries s.start)
    (hpostIssue : postIssueField.Given entries s.postIssue)
    (hallowance : allowanceField.Given entries s.allowance)
    (hcircuit : shortCircuitField.Given entries s.shortCircuit) :
    decode (.record entries) = .ok s := by
  rw [decode, Shape.record_of_passes hnodup (by
      simpa using ⟨hsettle.passes, hstart.passes, hpostIssue.passes, hallowance.passes,
        hcircuit.passes⟩),
    Shape.bind_of_ok (hsettle.read 0 _), Shape.bind_of_ok (hstart.read 1 _),
    Shape.bind_of_ok (hpostIssue.read 2 _), Shape.bind_of_ok (hallowance.read 3 _),
    Shape.bind_of_ok (hcircuit.read 4 _)]
  rfl

theorem VariantOverrides.decode_of_given {o : VariantOverrides}
    (hgadget : gadgetField.Given entries o.gadget) (hport : portField.Given entries o.port) :
    decode (.record entries) = .ok o := by
  rw [decode, Shape.record_of_passes hnodup (by simpa using ⟨hgadget.passes, hport.passes⟩),
    Shape.bind_of_ok (hgadget.read 0 _), Shape.bind_of_ok (hport.read 1 _)]
  rfl

namespace Config

theorem decodePhrases_of_given {phrases : List String} (h : phrasesField.Given entries phrases) :
    decodePhrases (.record entries) = .ok phrases := by
  rw [decodePhrases, Shape.record_of_passes hnodup (by simpa using h.passes)]
  exact h.read 0 _

theorem decode_of_given {c : Config} (hrunner : runnerField.Given entries c.runner)
    (htimeouts : timeoutsField.Given entries c.timeouts)
    (hinvoker : invokerField.Given entries c.phrases)
    (hvariants : variantsField.Given entries c.variants) :
    decode (.record entries) = .ok c := by
  rw [decode, Shape.record_of_passes hnodup (by
      simpa using ⟨hrunner.passes, htimeouts.passes, hinvoker.passes, hvariants.passes⟩),
    Shape.bind_of_ok (hrunner.read 0 _), Shape.bind_of_ok (htimeouts.read 1 _),
    Shape.bind_of_ok (hinvoker.read 2 _), Shape.bind_of_ok (hvariants.read 3 _)]
  rfl

end Config

end Parts

/-! ## What a configuration sets -/

/-- A setting of the file: the path to its key, its value, and what it is if it is not stated, if it
may be left out.  A setting that is not set is null. -/
structure FileSetting where
  path : List String
  value : Data
  default? : Option Data

def RunnerSettings.settings (s : RunnerSettings) : List FileSetting :=
  [⟨["runner", "log_level"], .text s.logLevel, none⟩,
    ⟨["runner", "adb_path"], .text s.adbPath, some (.text "adb")⟩,
    ⟨["runner", "poll_interval_ms"], .ofWord s.pollInterval, some (.ofWord 250)⟩]

def TimeoutSettings.settings (s : TimeoutSettings) : List FileSetting :=
  [⟨["timeouts", "base_ms"], .ofWord s.base, some (.ofWord 5000)⟩,
    ⟨["timeouts", "multiplier_property"], .text s.multiplierProperty,
      some (.text "ro.hw_timeout_multiplier")⟩]

def VariantSettings.settings (table : List String) (s : VariantSettings) : List FileSetting :=
  [⟨table ++ ["settle_delay_ms"], .ofOption .ofWord s.settle, some .null⟩,
    ⟨table ++ ["start_delay_ms"], .ofOption .ofWord s.start, some .null⟩,
    ⟨table ++ ["post_issue_delay_ms"], .ofOption .ofWord s.postIssue, some .null⟩,
    ⟨table ++ ["extra_recovery_ms"], .ofOption .ofWord s.allowance, some .null⟩,
    ⟨table ++ ["short_circuit"], .ofOption ShortCircuit.encode s.shortCircuit, some .null⟩]

namespace Config

def phraseSettings (phrases : List String) : List FileSetting :=
  [⟨["invoker", "not_supported_phrases"], .list (phrases.map .text), some (.list [])⟩]

/-- The settings of a preset, if the configuration changes it. -/
def overrideSettings (c : Config) (p : Preset) : List FileSetting :=
  match c.overrides p with
  | some s => s.settings ["variants", p.name]
  | none => []

/-- All that a configuration sets. -/
def settings (c : Config) : List FileSetting :=
  c.runner.settings ++ c.timeouts.settings ++ phraseSettings c.phrases
    ++ c.overrideSettings .gadget ++ c.overrideSettings .port

/-- The paths that lead to tables of a configuration. -/
def tablePaths : List (List String) :=
  [["runner"], ["timeouts"], ["invoker"], ["variants"], ["variants", "gadget"],
    ["variants", "port"]]

end Config

/-- Whether contents state a setting: they assign its value, or they have nothing there and it is
what it is by default. -/
def FileSetting.Stated (s : FileSetting) (x : Contents) : Prop :=
  x.assigns s.path s.value ∨
    (∀ v, ¬x.assigns s.path v) ∧ ¬x.opens s.path ∧ s.default? = some s.value

/-- Whether contents state a configuration.  Whatever else they hold does not matter, as long as
nothing but a table stands where a table is asked for. -/
structure Config.Stated (c : Config) (x : Contents) : Prop where
  settings : ∀ s ∈ c.settings, s.Stated x
  tables : ∀ path ∈ tablePaths, ∀ v, ¬x.assigns path v
  overrides : ∀ p : Preset, x.opens ["variants", p.name] ↔ (c.overrides p).isSome

/-! ## Data that states a configuration -/

section Data

variable {data : Data} {path : List String}

/-- A stated setting is given to its field. -/
theorem FileSetting.Stated.given {α : Type} {field : Shape.Field α} {v : Data}
    {default? : Option Data} {a : α}
    (h : FileSetting.Stated ⟨path ++ [field.name], v, default?⟩ (.ofData data))
    (hshape : field.shape v = .ok a) (hdefault : default? = some v → field.default = some a) :
    field.Given (data.entriesAt path) a := by
  rcases h with ⟨hat, -⟩ | ⟨hassigns, hopens, hv⟩
  · exact .inl ⟨v, (Data.at?_concat data path field.name).symm.trans hat, hshape⟩
  · refine .inr ⟨?_, hdefault hv⟩
    rw [← Data.at?_concat]
    exact at?_eq_none hassigns hopens

/-- A table is given to its field, also by leaving it out if that is what an empty table means. -/
theorem given_table {α : Type} {field : Shape.Field α} {a : α} (path : List String)
    (htable : ∀ v, ¬(Contents.ofData data).assigns (path ++ [field.name]) v)
    (hdecode : field.shape (.record (data.entriesAt (path ++ [field.name]))) = .ok a)
    (hdefault : field.shape (.record []) = .ok a → field.default = some a) :
    field.Given (data.entriesAt path) a := by
  rw [Shape.Field.Given, ← Data.at?_concat]
  cases hat : data.at? (path ++ [field.name]) with
  | none =>
    rw [Data.entriesAt, hat] at hdecode
    exact .inr ⟨rfl, hdefault hdecode⟩
  | some v =>
    cases v with
    | record entries =>
      rw [Data.entriesAt, hat] at hdecode
      exact .inl ⟨_, rfl, hdecode⟩
    | _ => exact absurd ⟨hat, Bool.false_ne_true⟩ (htable _)

end Data

theorem Data.ofWord_inj {m n : UInt64} (h : Data.ofWord m = .ofWord n) : m = n :=
  UInt64.toNat_inj.1 (Int.ofNat.inj (Data.int.inj h))

/-- A value that may be left unset is read back. -/
theorem Shape.optional_ofOption {α : Type} {encode : α → Data} {shape : Shape α}
    (hshape : ∀ a, shape (encode a) = .ok a) (hnull : ∀ a, encode a ≠ .null) (o : Option α) :
    Shape.optional shape (.ofOption encode o) = .ok o := by
  cases o with
  | none => rfl
  | some a =>
    show Shape.optional shape (encode a) = _
    rw [Shape.optional, hshape]
    · rfl
    · exact hnull a

theorem Data.eq_none_of_ofOption {α : Type} {encode : α → Data} (hnull : ∀ a, encode a ≠ .null)
    {o : Option α} (h : some .null = some (Data.ofOption encode o)) : o = none := by
  cases o with
  | none => rfl
  | some a => exact absurd (Option.some.inj h).symm (hnull a)

section Given

variable {data : Data} {path : List String}

theorem FileSetting.Stated.given_text {field : Shape.Field String} {s : String}
    (default? : Option String) (hshape : field.shape = Shape.text)
    (hdefault : field.default = default?)
    (h : FileSetting.Stated ⟨path ++ [field.name], .text s, default?.map .text⟩ (.ofData data)) :
    field.Given (data.entriesAt path) s := by
  refine h.given (by rw [hshape]; rfl) fun hs => ?_
  obtain ⟨a, ha, htext⟩ := Option.map_eq_some_iff.1 hs
  rw [hdefault, ha, Data.text.inj htext]

theorem FileSetting.Stated.given_word {field : Shape.Field UInt64} {n : UInt64}
    (default? : Option UInt64) (hshape : field.shape = Shape.word64)
    (hdefault : field.default = default?)
    (h : FileSetting.Stated ⟨path ++ [field.name], .ofWord n, default?.map .ofWord⟩
      (.ofData data)) :
    field.Given (data.entriesAt path) n := by
  refine h.given (by rw [hshape, Shape.word64_ofWord]) fun hn => ?_
  obtain ⟨a, ha, hword⟩ := Option.map_eq_some_iff.1 hn
  rw [hdefault, ha, Data.ofWord_inj hword]

end Given

section Parts

variable {data : Data} (hdistinct : Distinct data)

include hdistinct

theorem RunnerSettings.decode_of_stated {s : RunnerSettings}
    (h : ∀ x ∈ s.settings, x.Stated (.ofData data)) :
    decode (.record (data.entriesAt ["runner"])) = .ok s := by
  obtain ⟨hlevel, hpath, hinterval, -⟩ : _ ∧ _ ∧ _ ∧ _ := by
    simpa only [settings, List.forall_mem_cons] using h
  exact decode_of_given (nodup_entriesAt hdistinct _)
    (FileSetting.Stated.given_text none rfl rfl hlevel)
    (FileSetting.Stated.given_text (some "adb") rfl rfl hpath)
    (FileSetting.Stated.given_word (some 250) rfl rfl hinterval)

theorem TimeoutSettings.decode_of_stated {s : TimeoutSettings}
    (h : ∀ x ∈ s.settings, x.Stated (.ofData data)) :
    decode (.record (data.entriesAt ["timeouts"])) = .ok s := by
  obtain ⟨hbase, hproperty, -⟩ : _ ∧ _ ∧ _ := by
    simpa only [settings, List.forall_mem_cons] using h
  exact decode_of_given (nodup_entriesAt hdistinct _)
    (FileSetting.Stated.given_word (some 5000) rfl rfl hbase)
    (FileSetting.Stated.given_text (some "ro.hw_timeout_multiplier") rfl rfl hproperty)

theorem Config.decodePhrases_of_stated {phrases : List String}
    (h : ∀ x ∈ phraseSettings phrases, x.Stated (.ofData data)) :
    decodePhrases (.record (data.entriesAt ["invoker"])) = .ok phrases := by
  have hphrases := h _ (List.mem_singleton_self _)
  have hshape : Shape.list Shape.text (.list (phrases.map .text)) = .ok phrases := by
    have hmap : (phrases.map Data.text).mapM Shape.text = .ok (phrases.map id) :=
      Shape.mapM_encode fun _ _ => rfl
    rw [List.map_id] at hmap
    exact hmap
  refine decodePhrases_of_given (nodup_entriesAt hdistinct _)
    (FileSetting.Stated.given hphrases hshape fun hdefault => ?_)
  rw [List.map_eq_nil_iff.1 (Data.list.inj (Option.some.inj hdefault)).symm]
  rfl

theorem VariantSettings.decode_of_stated {table : List String} {s : VariantSettings}
    (h : ∀ x ∈ s.settings table, x.Stated (.ofData data)) :
    decode (.record (data.entriesAt table)) = .ok s := by
  obtain ⟨hsettle, hstart, hpostIssue, hallowance, hcircuit, -⟩ : _ ∧ _ ∧ _ ∧ _ ∧ _ ∧ _ := by
    simpa only [settings, List.forall_mem_cons] using h
  have hword : ∀ n, Data.ofWord n ≠ .null := fun n => nofun
  have hname : ∀ c, ShortCircuit.encode c ≠ .null := fun c => nofun
  have hdelay : ∀ (name : String) (o : Option UInt64),
      FileSetting.Stated ⟨table ++ [name], .ofOption .ofWord o, some .null⟩ (.ofData data) →
        (delayField name).Given (data.entriesAt table) o := by
    intro name o hstated
    refine FileSetting.Stated.given hstated (Shape.optional_ofOption Shape.word64_ofWord hword o)
      fun hdefault => ?_
    rw [Data.eq_none_of_ofOption hword hdefault]
    rfl
  have hcircuit' : shortCircuitField.Given (data.entriesAt table) s.shortCircuit := by
    refine FileSetting.Stated.given hcircuit
      (Shape.optional_ofOption (fun c => by cases c <;> rfl) hname _) fun hdefault => ?_
    rw [Data.eq_none_of_ofOption hname hdefault]
    rfl
  exact decode_of_given (nodup_entriesAt hdistinct table) (hdelay _ _ hsettle)
    (hdelay _ _ hstart) (hdelay _ _ hpostIssue) (hdelay _ _ hallowance) hcircuit'

end Parts

namespace Config

variable {c : Config} {data : Data}

/-- The changes to a preset are given to its field. -/
theorem Stated.given_override (h : c.Stated (.ofData data)) (hdistinct : Distinct data) (p : Preset)
    (hpath : ["variants", p.name] ∈ tablePaths)
    (hsettings : ∀ x ∈ c.overrideSettings p, x ∈ c.settings) :
    Shape.Field.Given ⟨p.name, Shape.optional VariantSettings.decode, some none⟩
      (data.entriesAt ["variants"]) (c.overrides p) := by
  have hat : data.at? ["variants", p.name] = Data.find? p.name (data.entriesAt ["variants"]) :=
    Data.at?_concat data ["variants"] p.name
  have hopens := h.overrides p
  cases hoverride : c.overrides p with
  | none =>
    rw [hoverride] at hopens
    exact .inr ⟨hat.symm.trans (at?_eq_none (h.tables _ hpath) fun hopen => nomatch hopens.1 hopen),
      rfl⟩
  | some s =>
    rw [hoverride] at hopens
    obtain ⟨entries, hentries⟩ := hopens.2 rfl
    have hread :
        VariantSettings.decode (.record (data.entriesAt ["variants", p.name])) = .ok s := by
      refine VariantSettings.decode_of_stated hdistinct fun x hx => h.settings x (hsettings x ?_)
      rw [overrideSettings, hoverride]
      exact hx
    rw [Data.entriesAt, hentries] at hread
    refine .inl ⟨.record entries, hat.symm.trans hentries, ?_⟩
    show (VariantSettings.decode (.record entries)).map some = _
    rw [hread]
    rfl

theorem mem_settings {s : FileSetting} :
    s ∈ c.settings ↔ s ∈ c.runner.settings ∨ s ∈ c.timeouts.settings ∨
      s ∈ phraseSettings c.phrases ∨ s ∈ c.overrideSettings .gadget ∨
      s ∈ c.overrideSettings .port := by
  simp only [settings, List.mem_append, or_assoc]

/-- Data that states a configuration is read as that configuration. -/
theorem decode_of_stated {root : List (String × Data)} (hdistinct : Distinct (.record root))
    (h : c.Stated (.ofData (.record root))) : decode (.record root) = .ok c := by
  have hrunner := RunnerSettings.decode_of_stated hdistinct
    fun s hs => h.settings s (mem_settings.2 (.inl hs))
  have htimeouts := TimeoutSettings.decode_of_stated hdistinct
    fun s hs => h.settings s (mem_settings.2 (.inr (.inl hs)))
  have hinvoker := decodePhrases_of_stated hdistinct
    fun s hs => h.settings s (mem_settings.2 (.inr (.inr (.inl hs))))
  have hvariants :
      VariantOverrides.decode (.record ((Data.record root).entriesAt ["variants"])) =
        .ok c.variants :=
    VariantOverrides.decode_of_given (nodup_entriesAt hdistinct _)
      (h.given_override hdistinct .gadget (by decide)
        fun s hs => mem_settings.2 (.inr (.inr (.inr (.inl hs)))))
      (h.given_override hdistinct .port (by decide)
        fun s hs => mem_settings.2 (.inr (.inr (.inr (.inr hs)))))
  have hroot : (Data.record root).entriesAt [] = root := rfl
  have hgiven : ∀ {α : Type} {field : Shape.Field α} {a : α}, [field.name] ∈ tablePaths →
      field.shape (.record ((Data.record root).entriesAt [field.name])) = .ok a →
      (field.shape (.record []) = .ok a → field.default = some a) → field.Given root a :=
    fun {_ _ _} hpath hdecode hdefault => given_table [] (h.tables _ hpath) hdecode hdefault
  refine decode_of_given hdistinct.1 (hgiven (by decide) hrunner nofun)
    (hgiven (by decide) htimeouts fun hempty => ?_) (hgiven (by decide) hinvoker fun hempty => ?_)
    (hgiven (by decide) hvariants fun hempty => ?_)
  · exact congrArg some (Except.ok.inj hempty)
  · exact congrArg some (Except.ok.inj hempty)
  · exact congrArg some (Except.ok.inj hempty)

end Config

/-! ## Texts -/

/-- Settings of the runner are read only from data that has a log level, under its key or, in a
list, at its place. -/
theorem RunnerSettings.find?_of_decode {v : Data} {s : RunnerSettings} (h : decode v = .ok s) :
    (Shape.sourceOf v).find? "log_level" 0 = some (.text s.logLevel) := by
  obtain ⟨expected, hbuild⟩ := Shape.exists_build_sourceOf h
  obtain ⟨level, hlevel, hrest⟩ := Shape.exists_of_bind hbuild
  have heq : s.logLevel = level := by
    obtain ⟨path, -, hrest⟩ := Shape.exists_of_bind hrest
    obtain ⟨interval, -, hrest⟩ := Shape.exists_of_bind hrest
    exact congrArg logLevel (Except.ok.inj hrest).symm
  obtain ⟨w, hw, htext⟩ := Shape.Field.exists_find? rfl hlevel
  cases w with
  | text t =>
    rw [heq, ← Except.ok.inj htext]
    exact hw
  | _ => cases htext

namespace Config

variable {c : Config}

/-- A configuration is read only from data that has settings of the runner. -/
theorem find?_of_decode {root : List (String × Data)} (h : decode (.record root) = .ok c) :
    ∃ v, Data.find? "runner" root = some v ∧ RunnerSettings.decode v = .ok c.runner := by
  obtain ⟨expected, hbuild⟩ := Shape.exists_build_sourceOf h
  obtain ⟨settings, hsettings, hrest⟩ := Shape.exists_of_bind hbuild
  have heq : c.runner = settings := by
    obtain ⟨timeouts, -, hrest⟩ := Shape.exists_of_bind hrest
    obtain ⟨phrases, -, hrest⟩ := Shape.exists_of_bind hrest
    obtain ⟨variants, -, hrest⟩ := Shape.exists_of_bind hrest
    exact congrArg runner (Except.ok.inj hrest).symm
  rw [heq]
  exact Shape.Field.exists_find? rfl hsettings

/-- Whether data states a log level: under its key in the table of the runner, or as the first item
of a list in place of that table. -/
def StatesLevel (data : Data) (level : String) : Prop :=
  data.at? ["runner", "log_level"] = some (.text level) ∨
    ∃ rest, data.at? ["runner"] = some (.list (.text level :: rest))

theorem statesLevel_of_decode {root : List (String × Data)} (h : decode (.record root) = .ok c) :
    StatesLevel (.record root) c.runner.logLevel := by
  obtain ⟨v, hv, hrunner⟩ := find?_of_decode h
  have hat : (Data.record root).at? ["runner"] = some v :=
    (Data.at?_concat (.record root) [] "runner").trans hv
  have hlevel := RunnerSettings.find?_of_decode hrunner
  cases v with
  | record entries =>
    refine .inl ((Data.at?_concat (.record root) ["runner"] "log_level").trans ?_)
    rw [Data.entriesAt, hat]
    exact hlevel
  | list items =>
    refine .inr ?_
    cases items with
    | nil => cases hlevel
    | cons item rest =>
      obtain rfl := Option.some.inj hlevel
      exact ⟨rest, hat⟩
  | _ => cases hlevel

/-- **Omitted settings mean their defaults.**  However a text does it, if what is read of it states
an acceptable configuration, the text is parsed as that configuration.  In particular a document
whose tables and keys come in any order, with any others among them, is parsed as the configuration
that it states.  No text is parsed as a configuration that does not state the log level. -/
theorem parse_abridged :
    (∀ (c : Config) (text : String) (data : Data), c.fault? = none → read? text = some data →
        c.Stated (.ofData data) → parse text = .ok c) ∧
      (∀ (c : Config) (d : Document), c.fault? = none → d.Fits → d.Unambiguous →
        c.Stated d.contents → ∃ text, d.text = .ok text ∧ parse text = .ok c) ∧
      ∀ (c : Config) (text : String), parse text = .ok c →
        ∃ data, read? text = some data ∧ StatesLevel data c.runner.logLevel := by
  have hparse : ∀ (c : Config) (text : String) (data : Data), c.fault? = none →
      read? text = some data → c.Stated (.ofData data) → parse text = .ok c := by
    intro c text data hvalid hread hstated
    obtain ⟨root, rfl, hdistinct⟩ := read?_distinct hread
    exact parse_of_read hread (decode_of_stated hdistinct hstated) hvalid
  refine ⟨hparse, fun c d hvalid hfits hunambiguous hstated => ?_, fun c text h => ?_⟩
  · obtain ⟨text, data, htext, hread, hcontents⟩ := read?_document hfits hunambiguous
    exact ⟨text, htext, hparse c text data hvalid hread (hcontents ▸ hstated)⟩
  · rw [parse] at h
    split at h
    · cases h
    · next data hread =>
      obtain ⟨root, rfl, -⟩ := read?_distinct hread
      refine ⟨_, hread, ?_⟩
      split at h
      · cases h
      · next c' hdecode =>
        split at h
        · cases h
        · obtain rfl := Except.ok.inj h
          exact statesLevel_of_decode hdecode

/-- A configuration that changes a preset, and has its defaults in all else. -/
def terse : Config :=
  { default with variants := ⟨none, some { VariantSettings.unset with settle := some 0 }⟩ }

/-- A document that states the configuration, with keys of its own among the others. -/
def terseDocument : Document where
  top := [("version", .int 3)]
  blocks := [⟨["variants"], "port", [("color", .text "red"), ("settle_delay_ms", .int 0)]⟩,
    ⟨[], "runner", [("log_level", .text "info")]⟩]

theorem assigns_terseDocument {path : List String} {v : Data} :
    terseDocument.Assigns path v ↔ path = ["version"] ∧ v = .int 3 ∨
      path = ["variants", "port", "color"] ∧ v = .text "red" ∨
      path = ["variants", "port", "settle_delay_ms"] ∧ v = .int 0 ∨
      path = ["runner", "log_level"] ∧ v = .text "info" := by
  simp only [Document.Assigns, terseDocument, Block.name, List.mem_cons, List.not_mem_nil, or_false,
    exists_eq_or_imp, exists_eq_left, or_assoc]
  rfl

theorem opens_terseDocument {path : List String} :
    terseDocument.Opens path ↔
      path = [] ∨ path <+: ["variants", "port"] ∨ path <+: ["runner"] := by
  simp [Document.Opens, terseDocument, Block.name]

theorem fits_terseDocument : terseDocument.Fits where
  top := List.forall_mem_singleton.2 ⟨by decide, .int (by decide : 3 < Text.signedBound)⟩
  blocks := by
    refine List.forall_mem_cons.2 ⟨⟨by decide, by decide, ?_⟩,
      List.forall_mem_singleton.2 ⟨by decide, by decide, ?_⟩⟩
    · exact List.forall_mem_cons.2 ⟨⟨by decide, .text _⟩,
        List.forall_mem_singleton.2 ⟨by decide, .int (by decide : 0 < Text.signedBound)⟩⟩
    · exact List.forall_mem_singleton.2 ⟨by decide, .text _⟩

theorem unambiguous_terseDocument : terseDocument.Unambiguous := by
  refine ⟨by decide, by decide, by decide, fun path v => ?_⟩
  rw [assigns_terseDocument, opens_terseDocument]
  rintro (⟨rfl, -⟩ | ⟨rfl, -⟩ | ⟨rfl, -⟩ | ⟨rfl, -⟩) <;> decide

theorem stated_terseDocument : terse.Stated terseDocument.contents := by
  refine ⟨?_, ?_, fun p => ?_⟩
  · simp [settings, RunnerSettings.settings, TimeoutSettings.settings, phraseSettings,
      overrideSettings, VariantSettings.settings, overrides, terse, default, Preset.name,
      RunnerSettings.defaultAdbPath, RunnerSettings.defaultPollInterval, TimeoutSettings.default,
      Policy.standard, VariantSettings.unset, Data.ofOption, Data.ofWord, FileSetting.Stated,
      Document.contents, assigns_terseDocument, opens_terseDocument]
  · simp [tablePaths, Document.contents, assigns_terseDocument]
  · show terseDocument.Opens ["variants", p.name] ↔ _
    rw [opens_terseDocument]
    cases p <;> decide

theorem parse_abridged_terse :
    let text := "version = 3\n[variants.port]\ncolor = \"red\"\nsettle_delay_ms = 0\n" ++
      "\n[runner]\nlog_level = \"info\"\n"
    terse.fault? = none ∧ terseDocument.Fits ∧ terseDocument.Unambiguous ∧
      terse.Stated terseDocument.contents ∧ terseDocument.text = .ok text ∧
      ∃ data, read? text = some data ∧ terse.Stated (.ofData data) ∧
        parse text = .ok terse ∧ StatesLevel data "info" := by
  intro text
  have hfault : terse.fault? = none := by decide +kernel
  have htext : terseDocument.text = .ok text := rfl
  obtain ⟨text', data, htext', hread, hcontents⟩ :=
    read?_document fits_terseDocument unambiguous_terseDocument
  obtain rfl := Except.ok.inj (htext'.symm.trans htext)
  have hstated : terse.Stated (.ofData data) := hcontents ▸ stated_terseDocument
  have hparse : parse text = .ok terse := parse_abridged.1 terse text data hfault hread hstated
  obtain ⟨data', hread', hlevel⟩ := parse_abridged.2.2 terse text hparse
  obtain rfl := Option.some.inj (hread.symm.trans hread')
  exact ⟨hfault, fits_terseDocument, unambiguous_terseDocument, stated_terseDocument, htext, data,
    hread, hstated, hparse, hlevel⟩

/-- A text without a table for the runner, and without a key for the log level, may still state the
log level. -/
theorem parse_runner_list :
    ∃ data, read? "runner = [\"info\"]\n" = some data ∧
      (∀ entries, data.at? ["runner"] ≠ some (.record entries)) ∧
      data.at? ["runner", "log_level"] = none ∧
      parse "runner = [\"info\"]\n" = .ok .default := by
  let d : Document := ⟨[("runner", .list [.text "info"])], []⟩
  have hfits : d.Fits := ⟨List.forall_mem_singleton.2 ⟨by decide, .texts ["info"]⟩,
    List.forall_mem_nil _⟩
  obtain ⟨text, htext, hread⟩ := hfits.read?
  have hliteral : d.text = .ok "runner = [\"info\"]\n" := rfl
  obtain rfl := Except.ok.inj (htext.symm.trans hliteral)
  refine ⟨.record [("runner", .list [.text "info"])], hread, fun entries hat => ?_, rfl,
    parse_of_read hread rfl (by decide +kernel)⟩
  cases hat

end Config

end ResetCheck
