import ResetCheck.Device.Bridged
import ResetCheck.Proofs.Session.Judged
import ResetCheck.Proofs.Session.Lasting

/-!
# Checking a device behind the bridge

All that polling changes of a bridge are the answers it has left to questions for a state.  So in a
check the bridge is asked for a property and started for the command once, whatever the polls before
and after it showed, and what it answers to the command alone decides whether there is a verdict.

* `Bridge.commandRequests`: the commands for which a bridge was started.
* `Bridged.lasting_unpolled`: what polling leaves as it was.
* `Check.runOn_bridged`: what a check gives, and the commands for which the bridge was started.
-/

namespace ResetCheck

/-! ## Requests for commands -/

def Request.isCommand : Request → Bool
  | shell _ _ => true
  | _ => false

namespace Bridge

/-- The requests for commands among those the bridge was started for. -/
def commandRequests (b : Bridge) : List Request :=
  b.requests.filter Request.isCommand

theorem commandRequests_record {r : Request} (h : ¬r.isCommand) (b : Bridge)
    (answer : Except HostFault Output) :
    (b.record r answer).commandRequests = b.commandRequests := by
  cases answer with
  | error e => rfl
  | ok o =>
    show (b.requests ++ [r]).filter Request.isCommand = _
    rw [List.filter_append, List.filter_cons_of_neg h, List.filter_nil, List.append_nil]
    rfl

theorem commandRequests_askProperty (b : Bridge) (serial name : String) :
    (b.askProperty serial name).2.commandRequests = b.commandRequests :=
  b.commandRequests_record (r := .property serial name) Bool.false_ne_true _

theorem commandRequests_askShell_of_ok {b : Bridge} {serial command : String} {o : Output}
    (h : (b.askShell serial command).1 = .ok o) :
    (b.askShell serial command).2.commandRequests =
      b.commandRequests ++ [.shell serial command] := by
  show (b.record (.shell serial command) (b.askShell serial command).1).commandRequests = _
  rw [h]
  exact List.filter_append _ _

theorem commandRequests_askShell_of_error {b : Bridge} {serial command : String} {e : HostFault}
    (h : (b.askShell serial command).1 = .error e) :
    (b.askShell serial command).2.commandRequests = b.commandRequests := by
  show (b.record (.shell serial command) (b.askShell serial command).1).commandRequests = _
  rw [h]
  rfl

theorem path_record (b : Bridge) (r : Request) (answer : Except HostFault Output) :
    (b.record r answer).path = b.path := by
  cases answer <;> rfl

theorem commands_record (b : Bridge) (r : Request) (answer : Except HostFault Output) :
    (b.record r answer).commands = b.commands := by
  cases answer <;> rfl

/-- What a launch comes to depends on nothing of the bridge but its path. -/
theorem outcome_congr {b b' : Bridge} (hpath : b.path = b'.path) (r : Request) (launch : Launch) :
    b.outcome r launch = b'.outcome r launch := by
  have hobstacle : b.obstacle? r = b'.obstacle? r := by
    unfold obstacle?
    rw [hpath]
  unfold outcome
  rw [hobstacle, hpath]

theorem askShell_congr {b b' : Bridge} (hpath : b.path = b'.path)
    (hcommands : b.commands = b'.commands) (serial command : String) :
    (b.askShell serial command).1 = (b'.askShell serial command).1 := by
  show b.outcome _ b.commands.first = b'.outcome _ b'.commands.first
  rw [hcommands, outcome_congr hpath]

theorem askShell_askProperty (b : Bridge) (serial name command : String) :
    ((b.askProperty serial name).2.askShell serial command).1 = (b.askShell serial command).1 :=
  askShell_congr (b.path_record _ _) (b.commands_record _ _) serial command

end Bridge

/-! ## Polling -/

namespace Bridged

/-- A device without the answers that polling uses up. -/
def unpolled (d : Bridged) : Bridged :=
  { d with bridge := { d.bridge with states := .always (.error "") } }

theorem lasting_unpolled : Device.Lasting unpolled :=
  fun _ _ => rfl

theorem execute_unpolled (d : Bridged) (command : String) :
    d.unpolled.execute command = ((d.execute command).1, (d.execute command).2.unpolled) := by
  have hrecord : ∀ r answer, d.unpolled.bridge.record r answer =
      { d.bridge.record r answer with states := d.unpolled.bridge.states } := by
    intro r answer
    cases answer <;> rfl
  rw [execute, Bridge.askShell, hrecord]
  rfl

theorem execute_of_ok {d : Bridged} {command : String} {o : Output}
    (h : (d.bridge.askShell d.serial command).1 = .ok o) : (d.execute command).1 = o.reply := by
  rw [execute, Bridge.askShell] at *
  dsimp only at *
  rw [h]

theorem execute_of_error {d : Bridged} {command : String} {e : HostFault}
    (h : (d.bridge.askShell d.serial command).1 = .error e) :
    (d.execute command).1 = .error (.rejected e.message) := by
  rw [execute, Bridge.askShell] at *
  dsimp only at *
  rw [h]

/-- Whatever is polled in a session, the reply and the requests for commands are those of the device
before it. -/
theorem execute_session (s : Session) (d : Bridged) (now : Instant) (calls : List Call) :
    (s.timeline d now).reply.result = (d.execute s.variant.command).1 ∧
      (s.run d now calls).2.device.bridge.commandRequests =
        (d.execute s.variant.command).2.bridge.commandRequests := by
  obtain ⟨d', hd, hreply, hleft⟩ := s.exists_issued lasting_unpolled d now calls
  have hexecute : ((d'.execute s.variant.command).1, (d'.execute s.variant.command).2.unpolled) =
      ((d.execute s.variant.command).1, (d.execute s.variant.command).2.unpolled) := by
    rw [← execute_unpolled, ← execute_unpolled, hd]
  obtain ⟨hresult, hunpolled⟩ := Prod.mk.inj hexecute
  exact ⟨(congrArg Reply.result hreply).trans hresult,
    congrArg (·.bridge.commandRequests) (hleft.trans hunpolled)⟩

end Bridged

/-! ## Checks -/

namespace Check

section AnyDevice

variable {σ : Type} [Device σ] (c : Check) (v : Variant) (issuedAt : WallTime) (device : σ)

theorem runOn_of_rejected {text : String}
    (h : (c.timeline v issuedAt device).reply.result = .error (.rejected text)) :
    (c.runOn v issuedAt device 0).1 = .error (.command (.rejected text)) :=
  congrArg (·.bind Report.judge)
    ((c.sessionOn v issuedAt device).run_of_rejected (c.asked device) 0 _ h).1

theorem exists_runOn
    (h : ∀ text, (c.timeline v issuedAt device).reply.result ≠ .error (.rejected text)) :
    ∃ verdict, (c.runOn v issuedAt device 0).1 = .ok verdict := by
  obtain ⟨outcome, houtcome⟩ :=
    Session.exists_ofReply (c.sessionOn v issuedAt device).phrases issuedAt h
  obtain ⟨report, hrun, hcheck, -⟩ :=
    (c.sessionOn v issuedAt device).exists_run (c.asked device) 0 [.property c.policy.property]
      houtcome
  exact ⟨_, c.run_of_report v issuedAt device hcheck hrun⟩

end AnyDevice

variable (c : Check) (v : Variant) (issuedAt : WallTime) (d : Bridged)

/-- What a check of a device behind the bridge comes to.  Either the bridge was not even started for
the command, or it was started for it once, and then there is a verdict unless it said that the
command was rejected. -/
theorem runOn_bridged :
    let request := Request.shell d.serial v.command
    let answer := (d.bridge.askShell d.serial v.command).1
    let result := (c.runOn v issuedAt d 0).1
    let requests := (c.runOn v issuedAt d 0).2.device.bridge.commandRequests
    (∃ e, answer = .error e ∧ result = .error (.command (.rejected e.message)) ∧
        requests = d.bridge.commandRequests) ∨
      (∃ o text, answer = .ok o ∧ o.reply = .error (.rejected text) ∧
        result = .error (.command (.rejected text)) ∧
        requests = d.bridge.commandRequests ++ [request]) ∨
      ∃ o verdict, answer = .ok o ∧ (∀ text, o.reply ≠ .error (.rejected text)) ∧
        result = .ok verdict ∧ requests = d.bridge.commandRequests ++ [request] := by
  intro request answer result requests
  obtain ⟨hreply, hrequests⟩ := Bridged.execute_session (c.sessionOn v issuedAt d) (c.asked d) 0
    [.property c.policy.property]
  have hasked : (c.asked d).bridge.commandRequests = d.bridge.commandRequests :=
    d.bridge.commandRequests_askProperty d.serial c.policy.property
  have hanswer : ((c.asked d).bridge.askShell d.serial v.command).1 = answer :=
    d.bridge.askShell_askProperty _ _ _
  cases ha : answer with
  | error e =>
    rw [ha] at hanswer
    have hrejected := hreply.trans (Bridged.execute_of_error hanswer)
    have hleft := hrequests.trans (Bridge.commandRequests_askShell_of_error hanswer)
    exact .inl ⟨e, rfl, c.runOn_of_rejected v issuedAt d hrejected, hleft.trans hasked⟩
  | ok o =>
    rw [ha] at hanswer
    have hreply' := hreply.trans (Bridged.execute_of_ok hanswer)
    have hleft := hrequests.trans (Bridge.commandRequests_askShell_of_ok hanswer)
    rw [hasked] at hleft
    by_cases hrejected : ∃ text, o.reply = .error (.rejected text)
    · obtain ⟨text, htext⟩ := hrejected
      exact .inr (.inl ⟨o, text, rfl, htext,
        c.runOn_of_rejected v issuedAt d (hreply'.trans htext), hleft⟩)
    · have hnot : ∀ text, o.reply ≠ .error (.rejected text) := fun text h => hrejected ⟨text, h⟩
      obtain ⟨verdict, hverdict⟩ := c.exists_runOn v issuedAt d fun text h =>
        hnot text (hreply'.symm.trans h)
      exact .inr (.inr ⟨o, verdict, rfl, hnot, hverdict, hleft⟩)

end Check

end ResetCheck
