import ResetCheck.Bridge.Attached
import ResetCheck.Proofs.Text.Lines

/-!
# Reading a listing

A listing gives one line to each attached device, with the serial and the state first, and may have
blank lines, remarks and headings between them.  `Attached.Listing` relates the devices to every
text that lists them: how the lines are indented, what parts the fields, what follows them and how
the lines end is left open.  Reading any such text gives back the devices, in their order and with
none left out or added, and the only device that is online is the one that is chosen.

* `Attached.Tells`: what a line tells of, `Attached.Listing`: the texts that list devices.
* `Attached.ofText_listing`: reading undoes listing.
* `Attached.only_eq_ok_iff`, `Attached.exists_only_of_count`: the choice by the devices listed.
-/

namespace ResetCheck.Attached

/-- What a line tells of: a device, or nothing.  Any line may begin with blanks. -/
inductive Tells : List Char → Option Attached → Prop
  /-- Blanks part the serial from the state, and the state from whatever follows it. -/
  | device {indent gap rest : List Char} {a : Attached} (hindent : Text.Blank indent)
      (hserial : Text.Word a.serial.toList) (hstate : Text.Word a.state.toList)
      (hgap : Text.Blank gap) (hne : gap ≠ [])
      (hrest : ∀ c, rest.head? = some c → Text.isBlank c)
      (hremark : a.serial.toList.head? ≠ some '*')
      (hheading : ¬heading <+: a.serial.toList ++ gap ++ a.state.toList ++ rest) :
      Tells (indent ++ (a.serial.toList ++ gap ++ a.state.toList ++ rest)) (some a)
  | blank {line : List Char} (hline : Text.Blank line) : Tells line none
  | remark {indent : List Char} (hindent : Text.Blank indent) (rest : List Char) :
      Tells (indent ++ '*' :: rest) none
  | heading {indent : List Char} (hindent : Text.Blank indent) (rest : List Char) :
      Tells (indent ++ (heading ++ rest)) none

/-- The texts that list devices, line by line. -/
inductive Listing : List Attached → List Char → Prop
  | nil : Listing [] []
  /-- The last line may go without an end. -/
  | last {line : List Char} {shown : Option Attached} (htells : Tells line shown)
      (hline : '\n' ∉ line) : Listing shown.toList line
  /-- A line ends in a newline, and a carriage return may stand before it. -/
  | cons {line ending text : List Char} {shown : Option Attached} {devices : List Attached}
      (htells : Tells line shown) (hline : '\n' ∉ line) (hending : ending = [] ∨ ending = ['\r'])
      (hrest : Listing devices text) :
      Listing (shown.toList ++ devices) (line ++ ending ++ '\n' :: text)

/-! ## Reading a line -/

theorem isRemark_iff {line : List Char} :
    isRemark line ↔ heading <+: line ∨ line.head? = some '*' := by
  simp [isRemark, List.isPrefixOf_iff_prefix]

theorem heedless_ofLine? : Text.Heedless ofLine? where
  trim line := by rw [ofLine?, ofLine?, Text.trimChars_trimChars]
  nil := by decide

theorem ofLine?_of_isRemark {line : List Char} (h : isRemark (Text.trimChars line)) :
    ofLine? line = none := by
  rw [ofLine?]
  exact if_pos h

theorem ofLine?_of_fields {line : List Char} {serial state : List Char} {more : List (List Char)}
    (h : ¬isRemark (Text.trimChars line))
    (hfields : Text.fields (Text.trimChars line) = serial :: state :: more) :
    ofLine? line = some ⟨String.ofList serial, String.ofList state⟩ := by
  rw [ofLine?, if_neg h, hfields]

/-- Two fields with blanks between them neither begin nor end with a blank. -/
theorem trimmed_pair {serial gap state : List Char} (hserial : Text.Word serial)
    (hstate : Text.Word state) : Text.Trimmed (serial ++ gap ++ state) where
  first c hc := by
    obtain ⟨a, serial, rfl⟩ := List.exists_cons_of_ne_nil hserial.ne_nil
    exact hserial.trimmed.first c hc
  last c hc := by
    rw [List.getLast?_append] at hc
    cases hlast : state.getLast? with
    | none => exact absurd (List.getLast?_eq_none_iff.1 hlast) hstate.ne_nil
    | some d =>
      rw [hlast, Option.some_or] at hc
      exact hstate.trimmed.last c (hlast.trans hc)

/-- What is read in a line is what the line tells of. -/
theorem ofLine?_of_tells {line : List Char} {shown : Option Attached} (h : Tells line shown) :
    ofLine? line = shown := by
  cases h with
  | @device indent gap rest a hindent hserial hstate hgap hne hrest hremark hheading =>
    have hpair : a.serial.toList ++ gap ++ a.state.toList ≠ [] := by
      simp [hserial.ne_nil]
    have htrim := (trimmed_pair hserial hstate).trimChars_indented hpair hindent rest
    obtain ⟨c, serial, hfirst⟩ := List.exists_cons_of_ne_nil hserial.ne_nil
    have hplain : ¬isRemark (a.serial.toList ++ gap ++ a.state.toList ++ Text.trimEnd rest) := by
      rw [isRemark_iff]
      rintro (h | h)
      · exact hheading (h.trans (List.prefix_append_right_inj _ |>.2 (Text.trimEnd_prefix rest)))
      · rw [hfirst] at h hremark
        exact hremark h
    have hhead : ∀ c, (Text.trimEnd rest).head? = some c → Text.isBlank c := by
      intro c hc
      obtain ⟨after, hafter⟩ := Text.trimEnd_prefix rest
      apply hrest c
      rw [← hafter, List.head?_append, hc, Option.some_or]
    obtain ⟨more, hfields⟩ := hserial.exists_fields_two hstate hgap hne hhead
    rw [← htrim] at hplain hfields
    rw [ofLine?_of_fields hplain hfields, String.ofList_toList, String.ofList_toList]
  | blank hline => exact heedless_ofLine?.of_blank hline
  | @remark indent hindent rest =>
    have hstar : Text.Trimmed ['*'] := by decide
    apply ofLine?_of_isRemark
    rw [← List.singleton_append, hstar.trimChars_indented (List.cons_ne_nil _ _) hindent]
    exact isRemark_iff.2 (.inr rfl)
  | @heading indent hindent rest =>
    have htrimmed : Text.Trimmed Attached.heading := by decide +kernel
    apply ofLine?_of_isRemark
    rw [htrimmed.trimChars_indented (by decide) hindent]
    exact isRemark_iff.2 (.inl (List.prefix_append _ _))

/-! ## Reading a listing -/

theorem filterMap_listing {devices : List Attached} {text : List Char} (h : Listing devices text) :
    (text.splitOn '\n').filterMap ofLine? = devices := by
  induction h with
  | nil => decide
  | last htells hline =>
    rw [List.splitOn_eq_singleton hline, List.filterMap_cons, ofLine?_of_tells htells]
    cases htells <;> rfl
  | @cons line ending text shown devices htells hline hending hrest ih =>
    have hplain : '\n' ∉ line ++ ending := by
      rcases hending with rfl | rfl
      · simpa using hline
      · simpa using hline
    have hblank : Text.Blank ending := by
      rcases hending with rfl | rfl
      · exact Text.blank_nil
      · decide +kernel
    rw [List.splitOn_append_cons_self_of_not_mem hplain, List.filterMap_cons,
      heedless_ofLine?.append_blank line hblank, ofLine?_of_tells htells, ih]
    cases htells <;> rfl

/-- Reading undoes listing. -/
theorem ofText_listing {devices : List Attached} {text : String} (h : Listing devices text.toList) :
    ofText text = devices := by
  rw [ofText, heedless_ofLine?.filterMap_lines, filterMap_listing h]

/-! ## The choice -/

/-- How many devices are online. -/
def onlineCount (devices : List Attached) : Nat :=
  devices.countP fun a => a.state = "device"

theorem onlineCount_eq (devices : List Attached) :
    onlineCount devices = (devices.filter isOnline).length :=
  List.countP_eq_length_filter

theorem mem_filter_isOnline {devices : List Attached} {a : Attached} :
    a ∈ devices.filter isOnline ↔ a ∈ devices ∧ a.state = "device" := by
  rw [List.mem_filter, isOnline, decide_eq_true_eq]

/-- The device chosen is the only one online. -/
theorem only_eq_ok_iff {devices : List Attached} {serial : String} :
    only devices = .ok serial ↔ onlineCount devices = 1 ∧ ⟨serial, "device"⟩ ∈ devices := by
  have hmem : (⟨serial, "device"⟩ : Attached) ∈ devices ↔
      ⟨serial, "device"⟩ ∈ devices.filter isOnline := by
    rw [mem_filter_isOnline, and_iff_left rfl]
  have hstate : ∀ a ∈ devices.filter isOnline, a.state = "device" :=
    fun a ha => (mem_filter_isOnline.1 ha).2
  rw [hmem, onlineCount_eq, only, online]
  match devices.filter isOnline, hstate with
  | [], _ => simp
  | [a], hstate =>
    obtain ⟨x, state⟩ := a
    obtain rfl : state = "device" := hstate _ List.mem_cons_self
    simp [eq_comm]
  | a :: b :: more, _ => simp

/-- With none online or several there is no choice. -/
theorem exists_only_of_count {devices : List Attached} (h : onlineCount devices ≠ 1) :
    ∃ fault, only devices = .error fault := by
  cases honly : only devices with
  | error fault => exact ⟨fault, rfl⟩
  | ok serial => exact absurd (only_eq_ok_iff.1 honly).1 h

end ResetCheck.Attached
