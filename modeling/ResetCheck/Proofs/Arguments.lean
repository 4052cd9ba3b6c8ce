import ResetCheck.Arguments.Reader
import ResetCheck.Proofs.Text.Blank

/-!
# The reset that is meant

A reset that is meant by its name has three layers: the preset, the changes the configuration makes
to this preset, and the allowance of the command line.  What an upper layer leaves open is seen of
the one below.  A reset that is meant by the command of a preset lacks the layer in the middle, so
the two are the same only where this layer shows what is below it anyway.

* `Variant.Layered`: the variant that is seen from above.
* `Arguments.variant?_layered`: a reset that is meant by its name.
* `VariantSettings.Repeats`: changes that change nothing.
* `Arguments.variant?_commanded`: a reset that is meant by its command.
-/

namespace ResetCheck

/-- Whether a span is the one a setting gives, or the one there was if nothing is set. -/
def Span.ComesFrom (setting : Option UInt64) (old new : Span) : Prop :=
  (∀ ms, setting = some ms → new = .ofMillis ms.toNat) ∧ (setting = none → new = old)

namespace VariantSettings

theorem comesFrom_iff {setting : Option UInt64} {old new : Span} :
    Span.ComesFrom setting old new ↔ new = spanOr old setting := by
  cases setting with
  | none => exact ⟨fun h => h.2 rfl, fun h => ⟨nofun, fun _ => h⟩⟩
  | some ms =>
    refine ⟨fun h => h.1 ms rfl, fun h => ⟨?_, nofun⟩⟩
    rintro _ ⟨⟩
    exact h

theorem spanOr_spanOr (old : Span) (upper lower : Option UInt64) :
    spanOr (spanOr old lower) upper = spanOr old (upper.or lower) := by
  cases upper with
  | none => rfl
  | some ms => rfl

/-- Applying settings again changes nothing. -/
theorem apply_apply (s : VariantSettings) (v : Variant) : s.apply (s.apply v) = s.apply v := by
  have hcircuit : s.shortCircuit.getD (s.shortCircuit.getD v.shortCircuit) =
      s.shortCircuit.getD v.shortCircuit := by
    cases s.shortCircuit <;> rfl
  simp only [apply, spanOr_spanOr, Option.or_self, hcircuit]

/-- Whether settings give a preset nothing but what it has.  An allowance that is given for it hides
the one in the settings. -/
structure Repeats (s : VariantSettings) (given : Option UInt64) (preset : Variant) : Prop where
  settle : ∀ ms, s.settle = some ms → preset.settle = .ofMillis ms.toNat
  start : ∀ ms, s.start = some ms → preset.start = .ofMillis ms.toNat
  postIssue : ∀ ms, s.postIssue = some ms → preset.postIssue = .ofMillis ms.toNat
  allowance : given = none → ∀ ms, s.allowance = some ms → preset.allowance = .ofMillis ms.toNat
  shortCircuit : ∀ x, s.shortCircuit = some x → preset.shortCircuit = x

end VariantSettings

open VariantSettings

/-! ## Layers -/

namespace Variant

/-- A variant with the allowance that is given for it, if one is. -/
def allow (v : Variant) (given : Option UInt64) : Variant :=
  { v with allowance := spanOr v.allowance given }

/-- Whether a variant is what is seen of a preset under settings and a given allowance. -/
structure Layered (v : Variant) (given : Option UInt64) (settings : Option VariantSettings)
    (preset : Variant) : Prop where
  name : v.name = preset.name
  command : v.command = preset.command
  settle : Span.ComesFrom (settings.bind (·.settle)) preset.settle v.settle
  start : Span.ComesFrom (settings.bind (·.start)) preset.start v.start
  postIssue : Span.ComesFrom (settings.bind (·.postIssue)) preset.postIssue v.postIssue
  allowance : Span.ComesFrom (given.or (settings.bind (·.allowance))) preset.allowance v.allowance
  shortCircuit : v.shortCircuit = (settings.bind (·.shortCircuit)).getD preset.shortCircuit

/-- The layers, put one over the other. -/
def layers (given : Option UInt64) (settings : Option VariantSettings) (preset : Variant) :
    Variant :=
  (settings.elim preset (·.apply preset)).allow given

section Layered

variable {given : Option UInt64} {settings : Option VariantSettings} {preset v w : Variant}

theorem Layered.unique (hv : v.Layered given settings preset)
    (hw : w.Layered given settings preset) : v = w := by
  have hspan : ∀ {setting : Option UInt64} {old new new' : Span}, Span.ComesFrom setting old new →
      Span.ComesFrom setting old new' → new = new' :=
    fun hnew hnew' => (comesFrom_iff.1 hnew).trans (comesFrom_iff.1 hnew').symm
  obtain ⟨⟩ := v
  obtain ⟨⟩ := w
  rw [mk.injEq]
  exact ⟨hv.name.trans hw.name.symm, hv.command.trans hw.command.symm, hspan hv.settle hw.settle,
    hspan hv.start hw.start, hspan hv.postIssue hw.postIssue, hspan hv.allowance hw.allowance,
    hv.shortCircuit.trans hw.shortCircuit.symm⟩

theorem layered_layers : (layers given settings preset).Layered given settings preset := by
  cases settings with
  | none =>
    have hgiven : given.or (none.bind VariantSettings.allowance) = given := Option.or_none
    exact ⟨rfl, rfl, comesFrom_iff.2 rfl, comesFrom_iff.2 rfl, comesFrom_iff.2 rfl,
      comesFrom_iff.2 (by rw [hgiven]; rfl), rfl⟩
  | some s =>
    exact ⟨rfl, rfl, comesFrom_iff.2 rfl, comesFrom_iff.2 rfl, comesFrom_iff.2 rfl,
      comesFrom_iff.2 (spanOr_spanOr _ _ _), rfl⟩

theorem layered_iff : v.Layered given settings preset ↔ v = layers given settings preset :=
  ⟨fun h => h.unique layered_layers, fun h => h ▸ layered_layers⟩

/-- Settings are not seen exactly if they repeat the preset. -/
theorem layered_allow_iff :
    (preset.allow given).Layered given settings preset ↔
      ∀ s, settings = some s → s.Repeats given preset := by
  constructor
  · rintro h s rfl
    refine ⟨h.settle.1, h.start.1, h.postIssue.1, ?_, ?_⟩
    · rintro rfl
      exact h.allowance.1
    · intro x hx
      have hcircuit := h.shortCircuit
      rw [Option.bind_some, hx] at hcircuit
      exact hcircuit
  · intro h
    cases settings with
    | none => exact layered_iff.2 rfl
    | some s =>
      have hrepeats := h s rfl
      refine ⟨rfl, rfl, ⟨hrepeats.settle, fun _ => rfl⟩, ⟨hrepeats.start, fun _ => rfl⟩,
        ⟨hrepeats.postIssue, fun _ => rfl⟩, ?_, ?_⟩
      · cases given with
        | none => exact ⟨hrepeats.allowance rfl, fun _ => rfl⟩
        | some ms => exact comesFrom_iff.2 rfl
      · cases hx : s.shortCircuit with
        | none => rw [Option.bind_some, hx]; rfl
        | some x =>
          rw [Option.bind_some, hx]
          exact hrepeats.shortCircuit x hx

end Layered

end Variant

/-! ## Resets that are meant by a name -/

theorem Preset.byName?_eq_some_iff {name : String} {p : Preset} :
    byName? name = some p ↔ p.name = name := by
  constructor
  · intro h
    rw [byName?] at h
    simpa using List.find?_some h
  · rintro rfl
    cases p <;> decide +kernel

theorem Config.variant_eq (c : Config) (p : Preset) :
    c.variant p = .layers none (c.overrides p) p.variant := by
  rw [variant]
  cases c.overrides p <;> rfl

theorem Config.variant?_eq_some_iff {c : Config} {name : String} {v : Variant} :
    c.variant? name = some v ↔
      ∃ p : Preset, p.name = name ∧ v.Layered none (c.overrides p) p.variant := by
  rw [variant?, Option.map_eq_some_iff]
  refine exists_congr fun p => and_congr Preset.byName?_eq_some_iff ?_
  rw [variant_eq, Variant.layered_iff, eq_comm]

namespace Arguments

/-- The preset that is meant if no command is given. -/
def named (a : Arguments) : Preset :=
  a.preset.getD defaultPreset

theorem variant?_eq (a : Arguments) (c : Config) :
    a.variant? c = (a.baseVariant? c).map (·.allow a.allowance) := by
  rw [variant?]
  cases a.allowance <;> rfl

theorem variant?_of_named {a : Arguments} (hnamed : a.command = none) (c : Config) :
    a.variant? c = some (.layers a.allowance (c.overrides a.named) a.named.variant) := by
  rw [variant?_eq, baseVariant?, hnamed, Option.map_some, Config.variant_eq]
  rfl

theorem variant?_eq_some_iff {a : Arguments} (hnamed : a.command = none) {c : Config}
    {v : Variant} :
    a.variant? c = some v ↔ v.Layered a.allowance (c.overrides a.named) a.named.variant := by
  rw [variant?_of_named hnamed, Option.some_inj, Variant.layered_iff, eq_comm]

/-- **Resets that are meant by a name.**  A name leads to a variant if and only if it is the name of
a preset.  The variant is what is seen of this preset under the changes that are made to it, with
the allowance of the command line above both.  No other part of the configuration is seen, and
applying changes again changes nothing. -/
theorem variant?_layered {a : Arguments} (hnamed : a.command = none) (c : Config) :
    (∀ name v, c.variant? name = some v ↔
        (name = "gadget" ∧ v.Layered none c.variants.gadget .gadget) ∨
          (name = "port" ∧ v.Layered none c.variants.port .port)) ∧
      (∃ v, a.variant? c = some v) ∧
      (∀ v, a.variant? c = some v ↔
        (a.named = .gadget ∧ v.Layered a.allowance c.variants.gadget .gadget) ∨
          (a.named = .port ∧ v.Layered a.allowance c.variants.port .port)) ∧
      (∀ c' : Config, (a.named = .gadget → c'.variants.gadget = c.variants.gadget) →
        (a.named = .port → c'.variants.port = c.variants.port) → a.variant? c' = a.variant? c) ∧
      ∀ (s : VariantSettings) (v : Variant), s.apply (s.apply v) = s.apply v := by
  refine ⟨?_, ⟨_, variant?_of_named hnamed c⟩, ?_, ?_, apply_apply⟩
  · intro name v
    rw [Config.variant?_eq_some_iff]
    constructor
    · rintro ⟨p, rfl, hlayered⟩
      cases p with
      | gadget => exact .inl ⟨rfl, hlayered⟩
      | port => exact .inr ⟨rfl, hlayered⟩
    · rintro (⟨rfl, hlayered⟩ | ⟨rfl, hlayered⟩)
      · exact ⟨.gadget, rfl, hlayered⟩
      · exact ⟨.port, rfl, hlayered⟩
  · intro v
    rw [variant?_eq_some_iff hnamed]
    cases a.named <;> simp [Config.overrides, Preset.variant]
  · intro c' hgadget hport
    have hoverrides : c'.overrides a.named = c.overrides a.named := by
      cases hmeant : a.named with
      | gadget => exact hgadget hmeant
      | port => exact hport hmeant
    rw [variant?_of_named hnamed, variant?_of_named hnamed, hoverrides]

/-- An allowance of zero hides the one in the changes to the port preset, the delay in them is seen,
and the changes to the gadget preset are not. -/
theorem variant?_layered_zero :
    let gadget : VariantSettings := { VariantSettings.unset with settle := some 1 }
    let port : VariantSettings :=
      { VariantSettings.unset with settle := some 700, allowance := some 2500 }
    let c : Config := { Config.default with variants := ⟨some gadget, some port⟩ }
    let c' : Config := { Config.default with variants := ⟨none, some port⟩, phrases := ["no"] }
    let a : Arguments := { unset with preset := some .port, allowance := some 0 }
    a.command = none ∧
      a.variant? c = some { Variant.port with settle := .ofMillis 700, allowance := 0 } ∧
      a.variant? c' = a.variant? c ∧ port.apply (port.apply .port) = port.apply .port := by
  intro gadget port c c' a
  obtain ⟨-, -, hport, hsame, hagain⟩ := variant?_layered (rfl : a.command = none) c
  refine ⟨rfl, (hport _).2 (.inr ⟨rfl, ?_⟩), hsame c' nofun fun _ => rfl, hagain port .port⟩
  exact Variant.layered_iff.2 (by decide +kernel)

end Arguments

/-! ## Resets that are meant by a command -/

theorem Preset.trimChars_command {p : Preset} {command : String}
    (hpadded : Text.Padded p.variant.command.toList command.toList) :
    Text.trimChars command.toList = p.variant.command.toList := by
  have htrimmed : Text.Trimmed p.variant.command.toList := by cases p <;> decide +kernel
  exact Text.trimChars_eq_iff.2 ⟨htrimmed, hpadded⟩

theorem Preset.forCommand_padded {p : Preset} {command : String}
    (hpadded : Text.Padded p.variant.command.toList command.toList) :
    Variant.forCommand command = p.variant := by
  rw [Variant.forCommand, Text.trim, trimChars_command hpadded, String.ofList_toList]
  cases p <;> decide +kernel

theorem Preset.not_isBlankText_padded {p : Preset} {command : String}
    (hpadded : Text.Padded p.variant.command.toList command.toList) :
    ¬Config.isBlankText command := by
  rw [Config.isBlankText, trimChars_command hpadded]
  cases p <;> decide +kernel

namespace Arguments

/-- **Resets that are meant by a command.**  The command of a preset, with any blanks around it,
means the preset under the allowance of the command line alone.  This is the reset that the name of
the preset means if and only if the changes that the configuration makes to the preset repeat what
it has; where an allowance is given, the one in the changes does not count. -/
theorem variant?_commanded {a b : Arguments} {command : String} (hnamed : a.command = none)
    (hcommand : b.command = some command)
    (hpadded : Text.Padded a.named.variant.command.toList command.toList)
    (hallowance : b.allowance = a.allowance) (c : Config) :
    (∃ v, b.variant? c = some v ∧ v.Layered a.allowance none a.named.variant) ∧
      (b.variant? c = a.variant? c ↔
        ∀ s, c.overrides a.named = some s → s.Repeats a.allowance a.named.variant) := by
  have hcommanded : b.variant? c = some (a.named.variant.allow a.allowance) := by
    rw [variant?_eq, baseVariant?, hcommand]
    dsimp only
    rw [if_neg (Preset.not_isBlankText_padded hpadded), Preset.forCommand_padded hpadded,
      Option.map_some, hallowance]
  refine ⟨⟨_, hcommanded, Variant.layered_iff.2 rfl⟩, ?_⟩
  rw [hcommanded, eq_comm, variant?_eq_some_iff hnamed, Variant.layered_allow_iff]

/-- An allowance that is given hides the one in the changes, and their delay is the preset's own.
So the command of the preset, with blanks around it, means the same as its name. -/
theorem variant?_commanded_repeated :
    let port : VariantSettings :=
      { VariantSettings.unset with settle := some 500, allowance := some 2500 }
    let c : Config := { Config.default with variants := ⟨none, some port⟩ }
    let a : Arguments := { unset with preset := some .port, allowance := some 0 }
    let b : Arguments :=
      { unset with command := some "\t svc usb resetUsbPort\n", allowance := some 0 }
    Text.Padded a.named.variant.command.toList "\t svc usb resetUsbPort\n".toList ∧
      b.variant? c = a.variant? c ∧ (a.variant? c).map (·.allowance) = some 0 := by
  intro port c a b
  have hpadded : Text.Padded a.named.variant.command.toList "\t svc usb resetUsbPort\n".toList :=
    ⟨"\t ".toList, ['\n'], by decide +kernel, by decide +kernel, by decide +kernel⟩
  have hrepeats : ∀ s, c.overrides a.named = some s → s.Repeats a.allowance a.named.variant := by
    rintro _ ⟨⟩
    refine ⟨?_, nofun, nofun, nofun, nofun⟩
    rintro _ ⟨⟩
    decide +kernel
  obtain ⟨-, hsame⟩ := variant?_commanded (rfl : a.command = none) (rfl : b.command = some _)
    hpadded rfl c
  exact ⟨hpadded, hsame.2 hrepeats, by decide +kernel⟩

/-- A delay that the configuration changes is seen of the port preset by its name, and not by its
command. -/
theorem variant?_command_differs :
    let port : VariantSettings := { VariantSettings.unset with settle := some 700 }
    let c : Config := { Config.default with variants := ⟨none, some port⟩ }
    ∃ a b : Arguments, Arguments.read ["--variant", "port"] = .ok a ∧
      Arguments.read ["--command", "svc usb resetUsbPort"] = .ok b ∧ c.fault? = none ∧
      (a.variant? c).map (·.settle) = some (.ofMillis 700) ∧
      (b.variant? c).map (·.settle) = some (.ofMillis 500) ∧ b.variant? c ≠ a.variant? c := by
  intro port c
  refine ⟨{ unset with preset := some .port },
    { unset with command := some "svc usb resetUsbPort" }, ?_, ?_, ?_, ?_, ?_, ?_⟩
  · rfl
  · rfl
  · decide +kernel
  · rfl
  · decide +kernel
  · decide +kernel

end Arguments

end ResetCheck
