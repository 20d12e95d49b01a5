import ControlDeck.Button

/-!
# Descriptors

A decoded command: one button, or the five buttons of a rotary encoder, with the device and the
pulse length they share.

* `Descriptor.button`, `Descriptor.encoder`: the two kinds; a fast button that is not named is the
  slow one.
* `Descriptor.problem?`: the first check that a descriptor fails.
* `Descriptor.push?`: the button that a push of the control acts on.
-/

namespace ControlDeck.Command

/-- The pulse length of a command that names none, in milliseconds. -/
def defaultDuration : UInt32 := 250

/-- The highest device of a button command. -/
def maxButtonDevice : UInt32 := 16

/-- The highest device of an encoder command. -/
def maxEncoderDevice : UInt32 := 8

/-- The part that a button plays in a command. -/
inductive Role
  | button
  | left
  | right
  | fastLeft
  | fastRight
  | action
  deriving DecidableEq, Repr

/-- The name of a role. -/
def Role.name : Role → String
  | .button => "button"
  | .left => "left"
  | .right => "right"
  | .fastLeft => "fast left"
  | .fastRight => "fast right"
  | .action => "action"

/-- Why a command is rejected. -/
inductive Problem
  | deviceOutOfRange (device max : UInt32)
  | missingButton (role : Role)
  | buttonOutOfRange (role : Role) (button : UInt32)
  deriving DecidableEq, Repr

/-- The wording of a problem. -/
def Problem.message : Problem → String
  | .deviceOutOfRange device max => s!"device id {device} outside 1..={max}"
  | .missingButton role => s!"missing {role.name} button id"
  | .buttonOutOfRange role button => s!"{role.name} button id {button} outside 1..={maxButton}"

/-- What a button command acts on. -/
structure ButtonAction where
  button : UInt32
  mode : Mode
  deriving DecidableEq, Repr

/-- What an encoder command acts on; the push button is `0` where there is none. -/
structure EncoderAction where
  left : UInt32
  right : UInt32
  fastLeft : UInt32
  fastRight : UInt32
  action : UInt32
  mode : Mode
  deriving DecidableEq, Repr

/-- The kind of control that a command is for. -/
inductive Control
  | button (action : ButtonAction)
  | encoder (action : EncoderAction)
  deriving DecidableEq, Repr

/-- A decoded command. It is always complete, also where a check fails. -/
structure Descriptor where
  device : UInt32
  duration : UInt32
  control : Control
  deriving DecidableEq, Repr

/-- Gives each fast button that is not named the slow button of its side. -/
def EncoderAction.resolved (e : EncoderAction) : EncoderAction :=
  { e with
    fastLeft := if e.fastLeft = 0 then e.left else e.fastLeft
    fastRight := if e.fastRight = 0 then e.right else e.fastRight }

/-! ## Checks -/

/-- A device must be between one and `max`. -/
def checkDevice (device max : UInt32) : Option Problem :=
  if device = 0 ∨ max < device then some (.deviceOutOfRange device max) else none

/-- A button that may be absent must not be above the highest. -/
def checkOptional (role : Role) (button : UInt32) : Option Problem :=
  if maxButton < button then some (.buttonOutOfRange role button) else none

/-- A button that must be there is neither zero nor above the highest. -/
def checkRequired (role : Role) (button : UInt32) : Option Problem :=
  if button = 0 then some (.missingButton role) else checkOptional role button

namespace Descriptor

/-- The descriptor of a button. -/
def button (device button duration : UInt32) (mode : Mode) : Descriptor :=
  ⟨device, duration, .button ⟨button, mode⟩⟩

/-- The descriptor of an encoder. -/
def encoder (device : UInt32) (action : EncoderAction) (duration : UInt32) : Descriptor :=
  ⟨device, duration, .encoder action.resolved⟩

/-- The first check that a descriptor fails: the device, then the buttons in order. -/
def problem? (d : Descriptor) : Option Problem :=
  match d.control with
  | .button b => checkDevice d.device maxButtonDevice <|> checkRequired .button b.button
  | .encoder e =>
    checkDevice d.device maxEncoderDevice <|> checkRequired .left e.left <|>
      checkRequired .right e.right <|> checkOptional .fastLeft e.fastLeft <|>
      checkOptional .fastRight e.fastRight <|> checkOptional .action e.action

/-- Whether a descriptor passes every check. -/
def isValid (d : Descriptor) : Bool := d.problem?.isNone

/-- Whether a descriptor is for an encoder. -/
def isEncoder (d : Descriptor) : Bool := d.control matches .encoder _

/-- The button and mode that a push of the control triggers, unless there is nothing to push. -/
def push? (d : Descriptor) : Option (UInt32 × Mode) :=
  let (button, mode) :=
    match d.control with
    | .button b => (b.button, b.mode)
    | .encoder e => (e.action, e.mode)
  if 0 < button then some (button, mode) else none

/-- The text of a descriptor. -/
def text (d : Descriptor) : String :=
  match d.control with
  | .encoder e =>
    s!"Encoder: deviceID: {d.device} left: {e.left}/{e.fastLeft} right: {e.right}/{e.fastRight} " ++
      s!"action: {e.action} action mode: {e.mode.name} duration: {d.duration} valid: {d.isValid}"
  | .button b =>
    s!"Button: deviceID: {d.device} action: {b.button} action mode: {b.mode.name} " ++
      s!"duration {d.duration} valid: {d.isValid}"

end Descriptor

end ControlDeck.Command
