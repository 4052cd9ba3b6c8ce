import ResetCheck.Bridge.Attached
import ResetCheck.Json.Writer
import ResetCheck.Stored.Report

/-!
# Printouts

What a run of the command line prints when it comes to an end without a fault.
-/

namespace ResetCheck

inductive Printout
  | help
  | version
  /-- The configuration was saved to a path. -/
  | saved (path : String)
  | devices (list : List Attached)
  | verdict (json : Bool) (v : Verdict)
deriving DecidableEq

namespace Printout

/-- Blanks behind a text up to a width. -/
def padRight (width : Nat) (s : String) : String :=
  s ++ String.ofList (List.replicate (width - s.length) ' ')

/-- Blanks before a text up to a width. -/
def padLeft (width : Nat) (s : String) : String :=
  String.ofList (List.replicate (width - s.length) ' ') ++ s

def lines (texts : List String) : String :=
  String.join (texts.map (· ++ "\n"))

def deviceLine (a : Attached) : String :=
  s!"  {padRight 24 a.serial} {a.state}"

def milestoneLine (m : Milestone) : String :=
  s!"  +{padLeft 6 (toString m.elapsed.millis)} ms  {m.state.text}"

def helpText : String :=
  lines
    ["Verify that a USB reset makes a device disconnect and reconnect",
      "",
      "Usage: usb-reset-check [OPTIONS]",
      "",
      "Options:",
      "  -s, --serial <SERIAL>         Serial of the device under test",
      "  -v, --variant <VARIANT>       Reset preset to run: gadget or port",
      "      --command <CMD>           Run this shell command instead of a preset",
      "      --base-timeout-ms <MS>    Base timeout before the multiplier is applied",
      "      --extra-recovery-ms <MS>  Extra time allowed for the device to come back",
      "  -c, --config <PATH>           Path to configuration file",
      "      --save-config             Save default configuration and exit",
      "      --list-devices            List attached devices and exit",
      "  -l, --log-level <LEVEL>       Log level (trace, debug, info, warn, error)",
      "      --json                    Print the verdict as JSON",
      "  -h, --help                    Print help",
      "  -V, --version                 Print version"]

def text : Printout → String
  | help => helpText
  | version => "usb-reset-check 0.1.0\n"
  | saved path => s!"Configuration saved to: {path}\n"
  | devices [] => "No devices attached.\n"
  | devices list =>
    s!"Found {list.length} device(s):\n\n" ++ lines (list.map deviceLine)
  | verdict true v => Json.pretty v.encode ++ "\n"
  | verdict false v => lines (v.text :: v.report.milestones.map milestoneLine)

/-- The exit status of a run that prints this: one if the device failed the check. -/
def status : Printout → UInt8
  | verdict _ v => if v.isFail then 1 else 0
  | _ => 0

end Printout

end ResetCheck
