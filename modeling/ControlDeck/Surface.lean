import ControlDeck.Command.Cache
import ControlDeck.Dispatch.Worker
import ControlDeck.Text.Quoted

/-!
# Surface events

A control on the surface is configured with a command. Turning an encoder pulses its left or right
button once for each event, and the fast one of that side if it was turned by enough ticks at
once. Pushing a control issues the push action of its command.

* `Producer`: how a producer puts jobs into a dispatcher's queue.
* `Surface.rotate`, `Surface.push`: the two events; each decodes the command, checks it and queues
  at most one job.
-/

namespace ControlDeck

open Command Dispatch

/-! ## Producers -/

/-- The producer's side of a dispatcher: the pulse length that stands for zero. -/
structure Producer where
  defaultPulse : UInt32 := defaultDuration
  deriving DecidableEq, Repr

namespace Producer

/-- Queues a pulse; a length of zero means the default. -/
def pulse (p : Producer) (q : Queue) (k : ButtonKey) (length : UInt32) :
    Logged (Except DispatchError Queue) :=
  q.enqueue ⟨k, .pulse (if length = 0 then p.defaultPulse else length)⟩

/-- Queues an action of a given mode. -/
def request (p : Producer) (q : Queue) (k : ButtonKey) (mode : Mode) (length : UInt32) :
    Logged (Except DispatchError Queue) :=
  if mode = .pulse then p.pulse q k length else q.enqueue ⟨k, .ofMode mode length⟩

/-- Issues the push action of a descriptor; answers nothing where it is invalid or has none. -/
def dispatch (p : Producer) (q : Queue) (d : Descriptor) :
    Logged (Except DispatchError (Option Queue)) :=
  match d.isValid, d.push? with
  | true, some (button, mode) => do
    return (← p.request q ⟨d.device, button⟩ mode d.duration).map some
  | _, _ => return .ok none

end Producer

/-! ## The surface -/

/-- A surface over a dispatcher, and the ticks from which on a turn is fast. -/
structure Surface where
  fastTicks : UInt32 := 5
  producer : Producer := {}
  deriving DecidableEq, Repr

/-- What the surface did with an event. -/
inductive Outcome
  | dispatched
  | ignored
  | invalid (problem : Problem)
  deriving DecidableEq, Repr

/-- How fast an encoder was turned. -/
inductive Speed
  | slow
  | fast
  deriving DecidableEq, Repr

/-- The name of a speed. -/
def Speed.name : Speed → String
  | .slow => "Slow"
  | .fast => "Fast"

/-! ## Log records -/

namespace Notice

/-- A command is not acted on because a check fails. -/
def invalidCommand (command : String) (problem : Problem) : Record :=
  ⟨.warn, s!"Dropping invalid command {Text.quoted command}: {problem.message}"⟩

/-- A command without an encoder was turned. -/
def notAnEncoder (command : String) : Record :=
  ⟨.debug, s!"Rotation on non-encoder command {Text.quoted command} ignored"⟩

/-- An encoder was turned. -/
def rotated (diff : Int32) (d : Descriptor) (speed : Speed) : Record :=
  ⟨.info, s!"ROTATE: direction: {diff} data: {d.text} {speed.name}"⟩

/-- A control was pushed. -/
def pushed (d : Descriptor) : Record := ⟨.info, s!"PUSH: data: {d.text}"⟩

/-- A control without a push action was pushed. -/
def nothingToPush (command : String) : Record :=
  ⟨.debug, s!"Command {Text.quoted command} has no push action"⟩

end Notice

/-- What a surface event changes besides its own answer. -/
structure Desk where
  cache : Cache
  queue : Queue

namespace Surface

/-- A turn is fast from the threshold on, in either direction. -/
def speed (s : Surface) (diff : Int32) : Speed :=
  if s.fastTicks.toNat ≤ diff.toInt.natAbs then .fast else .slow

/-- The button for a direction and a speed. -/
def button (e : EncoderAction) (diff : Int32) : Speed → UInt32
  | .slow => if diff < 0 then e.left else e.right
  | .fast => if diff < 0 then e.fastLeft else e.fastRight

/-- Decodes a command; one that fails a check goes no further. -/
def decodeValid (desk : Desk) (command : String) :
    Logged (Except Problem Descriptor × Desk) := do
  let (d, cache) ← desk.cache.decode command
  let desk := { desk with cache }
  match d.problem? with
  | some problem =>
    Logged.note (Notice.invalidCommand command problem)
    return (.error problem, desk)
  | none => return (.ok d, desk)

/-- An encoder was turned by some ticks, to the left if they are negative. -/
def rotate (s : Surface) (desk : Desk) (command : String) (diff : Int32) :
    Logged (Except DispatchError Outcome × Desk) := do
  match ← decodeValid desk command with
  | (.error problem, desk) => return (.ok (.invalid problem), desk)
  | (.ok d, desk) =>
    match d.control with
    | .button _ =>
      Logged.note (Notice.notAnEncoder command)
      return (.ok .ignored, desk)
    | .encoder e =>
      if diff = 0 then return (.ok .ignored, desk)
      else
        let speed := s.speed diff
        Logged.note (Notice.rotated diff d speed)
        match ← s.producer.pulse desk.queue ⟨d.device, button e diff speed⟩ d.duration with
        | .ok queue => return (.ok .dispatched, { desk with queue })
        | .error e => return (.error e, desk)

/-- A control was pushed. -/
def push (s : Surface) (desk : Desk) (command : String) :
    Logged (Except DispatchError Outcome × Desk) := do
  match ← decodeValid desk command with
  | (.error problem, desk) => return (.ok (.invalid problem), desk)
  | (.ok d, desk) =>
    Logged.note (Notice.pushed d)
    match ← s.producer.dispatch desk.queue d with
    | .ok (some queue) => return (.ok .dispatched, { desk with queue })
    | .ok none =>
      Logged.note (Notice.nothingToPush command)
      return (.ok .ignored, desk)
    | .error e => return (.error e, desk)

end Surface

end ControlDeck
