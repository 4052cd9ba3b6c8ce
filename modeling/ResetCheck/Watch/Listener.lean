import ResetCheck.Watch

/-!
# Listeners

What somebody who listens to a watch may do, one action after the other.
-/

namespace ResetCheck.Watch

variable {σ : Type} [Device σ]

inductive Action
  | receive
  | tryReceive
  | stopListening
  | sleep (d : Span)
  | isFinished
  | shutdown

inductive Result
  | done
  | received (r : Received)
  | answered (b : Bool)

def act (w : Watch σ) : Action → Result × Watch σ
  | .receive => let (r, w) := w.receive; (.received r, w)
  | .tryReceive => let (r, w) := w.tryReceive; (.received r, w)
  | .stopListening => (.done, w.stopListening)
  | .sleep d => (.done, w.sleep d)
  | .isFinished => (.answered w.isFinished, w)
  | .shutdown => (.done, w.shutdown)

/-- Carries out actions, giving what came of each and the watch after it. -/
def run (w : Watch σ) : List Action → List (Result × Watch σ)
  | [] => []
  | a :: rest => w.act a :: run (w.act a).2 rest

end ResetCheck.Watch
