import ControlDeck.Button

/-!
# Jobs

What a dispatcher is asked to do with one virtual button.

* `Action`: something done with a button; a pulse carries its length, and a release that ends a
  pulse carries the generation of that pulse.
* `Job`: an action on a button.
-/

namespace ControlDeck.Dispatch

/-- An action on a button, with what belongs to it. -/
inductive Action
  | press
  | release
  | pulse (ms : UInt32)
  | toggle
  | pulseRelease (generation : UInt64)
  deriving DecidableEq, Repr

/-- One unit of work for the worker. -/
structure Job where
  key : ButtonKey
  action : Action
  deriving DecidableEq, Repr

/-- The mode of an action; the release that ends a pulse is a release like any other. -/
def Action.mode : Action → Mode
  | .press => .press
  | .release | .pulseRelease _ => .release
  | .pulse _ => .pulse
  | .toggle => .toggle

/-- The action of a mode; only a pulse takes the time. -/
def Action.ofMode (mode : Mode) (ms : UInt32) : Action :=
  match mode with
  | .press => .press
  | .release => .release
  | .pulse => .pulse ms
  | .toggle => .toggle

namespace Job

/-- The mode of a job. -/
def mode (j : Job) : Mode := j.action.mode

/-- The length of a pulse, and zero for every other job. -/
def ms (j : Job) : UInt32 :=
  match j.action with
  | .pulse ms => ms
  | _ => 0

/-- The generation of the pulse that a release ends. -/
def generation? (j : Job) : Option UInt64 :=
  match j.action with
  | .pulseRelease generation => some generation
  | _ => none

/-- The text of a job. -/
def text (j : Job) : String :=
  match j.action with
  | .pulse ms => s!"{j.mode.name} {j.key.text} {ms}ms"
  | _ => s!"{j.mode.name} {j.key.text}"

end Job

end ControlDeck.Dispatch
