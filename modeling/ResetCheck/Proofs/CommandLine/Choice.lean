import ResetCheck.Proofs.Bridge.Attached
import ResetCheck.Proofs.Bridge.Reply
import ResetCheck.Proofs.CommandLine.Contract

/-!
# Choosing a device

A run to which no serial is given asks the bridge for the attached devices and checks the only one
that is online.  With none online or several it ends in a fault, and the bridge is asked for nothing
more.

* `Host.Chooses`: what a run has found when it comes to choose.
* `Host.selected`: the serial it selects.
* `Host.selected_listing`: the choice, by the devices that the bridge lists.
-/

namespace ResetCheck

namespace Bridge

variable {b : Bridge} {o : Output}

theorem choose_of_listed (hanswer : b.outcome .devices b.devices.first = .ok o)
    (hsucceeded : o.succeeded) :
    b.choose none =
      ((Attached.only (Attached.ofText o.outText)).mapError .choice, b.askDevices.2) := by
  have hasked : b.askDevices.1 = .ok (Attached.ofText o.outText) := by
    rw [askDevices, hanswer]
    exact if_pos hsucceeded
  have hlist : b.list = (.ok (Attached.ofText o.outText), b.askDevices.2) := by
    show (b.askDevices.1.mapError RunFault.listing, b.askDevices.2) = _
    rw [hasked]
    rfl
  rw [choose, hlist]

theorem requests_askDevices (hanswer : b.outcome .devices b.devices.first = .ok o) :
    b.askDevices.2.requests = b.requests ++ [.devices] := by
  show (b.record .devices (b.outcome .devices b.devices.first)).requests = _
  rw [hanswer]
  rfl

end Bridge

/-- Where no configuration is kept, the standard one is used. -/
theorem Config.loadKept_of_none {φ : Type} [Storage φ] {paths : List String} {files : φ}
    (h : paths.find? (Storage.holds files) = none) : loadKept paths files = .default := by
  rw [loadKept, h]

/-- Whatever comes of the check of a device, commands go to no other one. -/
theorem Arguments.commandRequests_checkDevice (a : Arguments) (c : Config) (issuedAt : Clock)
    (serial : String) (b : Bridge) :
    (a.checkDevice c issuedAt serial b).2.commandRequests = b.commandRequests ∨
      ∃ v, a.variant? c = some v ∧ (a.checkDevice c issuedAt serial b).2.commandRequests =
        b.commandRequests ++ [.shell serial v.command] := by
  rw [checkDevice]
  split
  · exact .inl rfl
  · next v hv =>
    split
    · exact .inl rfl
    · have hcases := (check c (a.base c)).runOn_bridged v issuedAt.time
        ⟨b, serial, c.pollInterval⟩
      dsimp only at hcases ⊢
      rcases hcases with ⟨-, -, -, h⟩ | ⟨-, -, -, -, -, h⟩ | ⟨-, -, -, -, -, h⟩
      · exact .inl h
      · exact .inr ⟨v, hv, h⟩
      · exact .inr ⟨v, hv, h⟩

namespace Host

variable {φ : Type}

/-- The bridge of a run under a configuration. -/
def bridgeUnder (h : Host φ) (c : Config) : Bridge :=
  h.bridge (c.adbPath h.home)

/-- The serial that a run under a configuration selects. -/
def selected (h : Host φ) (a : Arguments) (c : Config) : Except RunFault String :=
  ((h.bridgeUnder c).choose a.serial).1

variable [Storage φ]

/-- What a run with some arguments has found when it comes to choose a device: nothing was in its
way, no serial is given, and the bridge, which was not started before, answers with a listing. -/
structure Chooses (h : Host φ) (arguments : List String) (a : Arguments) (c : Config)
    (text : String) : Prop where
  read : Arguments.read arguments = .ok a
  checks : a.Checks
  unnamed : a.serial = none
  config : h.config a = .ok c
  logs : h.logFault? (a.logLevel.getD c.runner.logLevel) = none
  fresh : (h.bridgeUnder c).requests = []
  listed : ∃ o, (h.bridgeUnder c).outcome .devices (h.bridgeUnder c).devices.first = .ok o ∧
    o.succeeded ∧ o.outText = text

namespace Chooses

variable {h : Host φ} {arguments : List String} {a : Arguments} {c : Config} {text : String}

theorem run_eq (hchooses : h.Chooses arguments a c text) :
    h.run arguments = ⟨(a.checkRun c h.issuedAt (h.bridgeUnder c)).1, h.files,
      (a.checkRun c h.issuedAt (h.bridgeUnder c)).2.requests⟩ := by
  rw [run, hchooses.read]
  dsimp only
  rw [hchooses.checks.1, if_neg Bool.false_ne_true, hchooses.config]
  dsimp only
  rw [runUnder, hchooses.logs]
  dsimp only
  rw [hchooses.checks.2, if_neg Bool.false_ne_true]
  rfl

theorem selected_eq (hchooses : h.Chooses arguments a c text) :
    h.selected a c = (Attached.only (Attached.ofText text)).mapError .choice := by
  obtain ⟨o, hanswer, hsucceeded, rfl⟩ := hchooses.listed
  rw [selected, hchooses.unnamed, Bridge.choose_of_listed hanswer hsucceeded]

theorem choose_eq (hchooses : h.Chooses arguments a c text) :
    (h.bridgeUnder c).choose a.serial = (h.selected a c, (h.bridgeUnder c).askDevices.2) := by
  obtain ⟨o, hanswer, hsucceeded, rfl⟩ := hchooses.listed
  rw [selected, hchooses.unnamed, Bridge.choose_of_listed hanswer hsucceeded]

theorem requests_eq (hchooses : h.Chooses arguments a c text) :
    (h.bridgeUnder c).askDevices.2.requests = [.devices] := by
  obtain ⟨o, hanswer, -, -⟩ := hchooses.listed
  rw [Bridge.requests_askDevices hanswer, hchooses.fresh, List.nil_append]

/-- A device that is selected is the one that is checked. -/
theorem run_of_selected (hchooses : h.Chooses arguments a c text) {x : String}
    (hselected : h.selected a c = .ok x) :
    (h.run arguments).result =
        (a.checkDevice c h.issuedAt x (h.bridgeUnder c).askDevices.2).1 ∧
      ((h.run arguments).commandRequests = [] ∨
        ∃ v, a.variant? c = some v ∧
          (h.run arguments).commandRequests = [.shell x v.command]) := by
  have hchoose : (h.bridgeUnder c).choose a.serial = (.ok x, (h.bridgeUnder c).askDevices.2) := by
    rw [hchooses.choose_eq, hselected]
  have hnone : (h.bridgeUnder c).askDevices.2.commandRequests = [] := by
    rw [Bridge.commandRequests, hchooses.requests_eq]
    rfl
  have hcommands := a.commandRequests_checkDevice c h.issuedAt x (h.bridgeUnder c).askDevices.2
  simp only [hnone, List.nil_append] at hcommands
  rw [hchooses.run_eq, Arguments.checkRun, hchoose]
  exact ⟨rfl, hcommands⟩

/-- Where no device is selected, the run ends without having asked for more than the listing. -/
theorem run_of_fault (hchooses : h.Chooses arguments a c text) {fault : ChoiceFault}
    (hselected : h.selected a c = .error (.choice fault)) :
    (h.run arguments).result = .error (.choice fault) ∧ (h.run arguments).status = 2 ∧
      (h.run arguments).requests = [.devices] := by
  have hchoose : (h.bridgeUnder c).choose a.serial =
      (.error (.choice fault), (h.bridgeUnder c).askDevices.2) := by
    rw [hchooses.choose_eq, hselected]
  have hresult : (h.run arguments).result = .error (.choice fault) := by
    rw [hchooses.run_eq, Arguments.checkRun, hchoose]
  refine ⟨hresult, Run.status_of_error hresult, ?_⟩
  rw [hchooses.run_eq, Arguments.checkRun, hchoose]
  exact hchooses.requests_eq

end Chooses

/-- **Choosing a device.**  Reading a text that lists devices gives these devices, in their order.
When a run to which no serial is given is answered with such a text, it selects a serial if and only
if exactly one of the devices listed is online and this is its serial; then this device is checked,
and no command goes to another one.  With any other number online, the run ends in a fault, with a
status of two, and the bridge was started for the listing alone. -/
theorem selected_listing {devices : List Attached} {text : String}
    (hlisting : Attached.Listing devices text.toList) :
    Attached.ofText text = devices ∧
      ∀ {φ : Type} [Storage φ] (h : Host φ) (arguments : List String) (a : Arguments) (c : Config),
        h.Chooses arguments a c text →
          (∀ x, h.selected a c = .ok x ↔
            Attached.onlineCount devices = 1 ∧ ⟨x, "device"⟩ ∈ devices) ∧
          (∀ x, h.selected a c = .ok x →
            (h.run arguments).result =
                (a.checkDevice c h.issuedAt x (h.bridgeUnder c).askDevices.2).1 ∧
              ((h.run arguments).commandRequests = [] ∨
                ∃ v, a.variant? c = some v ∧
                  (h.run arguments).commandRequests = [.shell x v.command])) ∧
          (Attached.onlineCount devices ≠ 1 →
            ∃ fault, (h.run arguments).result = .error (.choice fault) ∧
              (h.run arguments).status = 2 ∧ (h.run arguments).requests = [.devices]) := by
  have hread : Attached.ofText text = devices := Attached.ofText_listing hlisting
  refine ⟨hread, ?_⟩
  intro φ _ h arguments a c hchooses
  have hselected : h.selected a c = (Attached.only devices).mapError .choice := by
    rw [hchooses.selected_eq, hread]
  refine ⟨?_, fun x => hchooses.run_of_selected, ?_⟩
  · intro x
    rw [← Attached.only_eq_ok_iff, hselected]
    cases Attached.only devices with
    | error fault => exact ⟨nofun, nofun⟩
    | ok serial =>
      exact ⟨fun h => congrArg _ (Except.ok.inj h), fun h => congrArg _ (Except.ok.inj h)⟩
  · intro hcount
    obtain ⟨fault, hfault⟩ := Attached.exists_only_of_count hcount
    refine ⟨fault, hchooses.run_of_fault ?_⟩
    rw [hselected, hfault]
    rfl

/-- A host without files, whose bridge answers every request with a text. -/
def answering (text : String) : Host Files where
  home := "/home"
  configDirectory := none
  files := ⟨.directory [], []⟩
  bridge path :=
    let answers := Answers.always (.ok (.ofTexts text "" 0))
    ⟨path, answers, answers, answers, answers, []⟩
  issuedAt := .epoch

theorem config_answering (text : String) : (answering text).config .unset = .ok .default := by
  have hbare : [defaultConfigPath "/home" none, sharedConfigPath].find?
      (Storage.holds (⟨.directory [], []⟩ : Files)) = none := by
    decide +kernel
  exact congrArg Except.ok (Config.loadKept_of_none hbare)

theorem answering_chooses {text : String} (htext : (Output.ofTexts text "" 0).outText = text) :
    (answering text).Chooses [] .unset .default text := by
  have hlogs : LogFilter.fault? "info" = none := by decide +kernel
  have hstarts : ((answering text).bridgeUnder .default).obstacle? .devices = none := by
    have hplain : ["adb", "devices"].any (·.toList.contains '\x00') = false := by decide +kernel
    exact if_neg (Bool.eq_false_iff.1 hplain)
  have hlisted : ((answering text).bridgeUnder .default).outcome .devices
      ((answering text).bridgeUnder .default).devices.first = .ok (.ofTexts text "" 0) := by
    simp only [Bridge.outcome, hstarts]
    rfl
  exact ⟨rfl, ⟨rfl, rfl⟩, rfl, config_answering text, hlogs, rfl, _, hlisted, rfl, htext⟩

/-- With a heading, a remark and a blank line around two devices, one of them online, this one is
selected.  A device that is listed as online twice is not. -/
theorem selected_listing_pair :
    let text := "List of devices attached\r\n* daemon\n  SN1\tdevice usb:1-1\r\n\nSN2 \toffline"
    let twice := "SN1\tdevice\nSN1\tdevice\n"
    Attached.Listing [⟨"SN1", "device"⟩, ⟨"SN2", "offline"⟩] text.toList ∧
      (answering text).Chooses [] .unset .default text ∧
      (answering text).selected .unset .default = .ok "SN1" ∧
      Attached.Listing [⟨"SN1", "device"⟩, ⟨"SN1", "device"⟩] twice.toList ∧
      (answering twice).Chooses [] .unset .default twice ∧
      ((answering twice).run []).status = 2 ∧ ((answering twice).run []).requests = [.devices] := by
  intro text twice
  have hchooses : (answering text).Chooses [] .unset .default text :=
    answering_chooses (by decide +kernel)
  have htwice : (answering twice).Chooses [] .unset .default twice :=
    answering_chooses (by decide +kernel)
  have hword : ∀ word ∈ ["SN1", "SN2", "device", "offline"], Text.Word word.toList := by
    decide +kernel
  have hlisting : Attached.Listing [⟨"SN1", "device"⟩, ⟨"SN2", "offline"⟩] text.toList := by
    have hheading := Attached.Tells.heading Text.blank_nil " attached".toList
    have hremark := Attached.Tells.remark Text.blank_nil " daemon".toList
    have hapart : ∀ c, (' ' :: "usb:1-1".toList).head? = some c → Text.isBlank c := by
      rintro _ ⟨⟩
      rfl
    have hfirst := @Attached.Tells.device [' ', ' '] ['\t'] (' ' :: "usb:1-1".toList)
      ⟨"SN1", "device"⟩ (by decide +kernel) (hword _ (by simp)) (hword _ (by simp))
      (by decide +kernel) (List.cons_ne_nil _ _) hapart (by decide +kernel) (by decide +kernel)
    have hblank := Attached.Tells.blank Text.blank_nil
    have hsecond := @Attached.Tells.device [] [' ', '\t'] [] ⟨"SN2", "offline"⟩
      Text.blank_nil (hword _ (by simp)) (hword _ (by simp)) (by decide +kernel)
      (List.cons_ne_nil _ _) nofun (by decide +kernel) (by decide +kernel)
    have hlines := Attached.Listing.cons hheading (by decide +kernel) (.inr rfl)
      (.cons hremark (by decide +kernel) (.inl rfl)
        (.cons hfirst (by decide +kernel) (.inr rfl)
          (.cons hblank (by decide +kernel) (.inl rfl)
            (.last hsecond (by decide +kernel)))))
    exact Eq.mp (congrArg (Attached.Listing _) (by decide +kernel)) hlines
  have hlistingTwice :
      Attached.Listing [⟨"SN1", "device"⟩, ⟨"SN1", "device"⟩] twice.toList := by
    have htells := @Attached.Tells.device [] ['\t'] [] ⟨"SN1", "device"⟩
      Text.blank_nil (hword _ (by simp)) (hword _ (by simp)) (by decide +kernel)
      (List.cons_ne_nil _ _) nofun (by decide +kernel) (by decide +kernel)
    have hlines := Attached.Listing.cons htells (by decide +kernel) (.inl rfl)
      (.cons htells (by decide +kernel) (.inl rfl) .nil)
    exact Eq.mp (congrArg (Attached.Listing _) (by decide +kernel)) hlines
  obtain ⟨-, hone⟩ := selected_listing hlisting
  obtain ⟨-, hboth⟩ := selected_listing hlistingTwice
  have hselected : (answering text).selected .unset .default = .ok "SN1" :=
    ((hone _ _ _ _ hchooses).1 "SN1").2 ⟨by decide +kernel, List.mem_cons_self⟩
  obtain ⟨fault, -, hstatus, hrequests⟩ := (hboth _ _ _ _ htwice).2.2 (by decide +kernel)
  exact ⟨hlisting, hchooses, hselected, hlistingTwice, htwice, hstatus, hrequests⟩

end Host

end ResetCheck
