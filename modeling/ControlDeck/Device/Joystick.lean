import ControlDeck.Device.Axis
import ControlDeck.Device.Bank
import ControlDeck.Device.Hat
import ControlDeck.Log
import Std.Data.TreeSet

/-!
# The virtual joystick

A bank of virtual devices held in memory. A device can be acquired while it is available, feeds
its buttons, axes and hats while it is acquired, and starts each acquisition with its buttons up.
Every change is entered into a journal.

* `Joystick.acquire`, `Joystick.relinquish`: taking a device and handing it back.
* `Joystick.setButton`, `Joystick.setAxis`, `Joystick.setHat`: writes to an acquired device. An
  operation that fails answers its error alone, so that the joystick stays as it was.
* `Joystick.isPressed`, `Joystick.axis?`, `Joystick.hat?`: readings, of any device at any time.
* `isPressed_of_setButton`: a write changes the button it names, and no other one.
-/

namespace ControlDeck.Device

/-- Why a device operation fails. -/
inductive DeviceError
  | notAcquirable (device : UInt32)
  | notAcquired (device : UInt32)
  | buttonOutOfRange (device button : UInt32)
  | backend (message : String)
  deriving DecidableEq, Repr

/-- The wording of a failure. -/
def DeviceError.message : DeviceError → String
  | .notAcquirable device => s!"device {device} cannot be acquired"
  | .notAcquired device => s!"device {device} is not acquired"
  | .buttonOutOfRange device button => s!"button {button} does not exist on device {device}"
  | .backend message => s!"backend error: {message}"

/-- What happened to a device. -/
inductive Change
  | acquire
  | relinquish
  | button (button : UInt32) (down : Bool)
  | axis (axis : Axis) (value : Int32)
  | hat (hat : UInt8) (position : Hat)
  deriving DecidableEq, Repr

/-- The text of a change. -/
def Change.text : Change → String
  | .acquire => "Acquire"
  | .relinquish => "Relinquish"
  | .button number down => s!"Button \x7b button_id: {number}, down: {down} \x7d"
  | .axis which value => s!"Axis \x7b axis: {which.name}, value: {value} \x7d"
  | .hat number position => s!"Hat \x7b hat: {number}, position: {position.name} \x7d"

/-- One journal entry. -/
structure Entry where
  device : UInt32
  change : Change
  deriving DecidableEq, Repr

/-- What one device was last fed with. -/
structure Panel where
  buttons : Bank := {}
  axes : Std.TreeMap Axis Int32 := ∅
  hats : Std.TreeMap UInt8 Hat := ∅

/-- A set of device ids, listed in ascending order. -/
abbrev DeviceSet := Std.TreeSet UInt32

/-- The state of all virtual devices, and the journal of what happened to them. -/
structure Joystick where
  available : DeviceSet := ∅
  acquired : DeviceSet := ∅
  panels : Std.TreeMap UInt32 Panel := ∅
  journal : Array Entry := #[]

/-! ## Log records -/

/-- A device was newly taken. -/
def Notice.simulatedAcquired (device : UInt32) : Record :=
  ⟨.debug, s!"Simulated device {device} acquired"⟩

/-- A device was handed back. -/
def Notice.simulatedRelinquished (device : UInt32) : Record :=
  ⟨.debug, s!"Simulated device {device} relinquished"⟩

namespace Joystick

/-- A joystick of which the listed devices can be acquired. -/
def ofAvailable (devices : List UInt32) : Joystick :=
  { available := Std.TreeSet.ofList devices }

/-! ## Readings -/

/-- What a device was last fed with; a device never used shows nothing. -/
def panel (j : Joystick) (device : UInt32) : Panel := j.panels.getD device {}

/-- Whether a device is acquired. -/
def isAcquired (j : Joystick) (device : UInt32) : Bool := j.acquired.contains device

/-- Whether a button is down. -/
def isPressed (j : Joystick) (k : ButtonKey) : Bool := (j.panel k.device).buttons.isDown k.button

/-- The last value of an axis. -/
def axis? (j : Joystick) (device : UInt32) (axis : Axis) : Option Int32 :=
  (j.panel device).axes[axis]?

/-- The last position of a hat. -/
def hat? (j : Joystick) (device : UInt32) (hat : UInt8) : Option Hat :=
  (j.panel device).hats[hat]?

/-- The button writes of the journal, in order. -/
def buttonWrites (j : Joystick) : List (ButtonKey × Bool) :=
  j.journal.toList.filterMap fun e =>
    match e.change with
    | .button button down => some (⟨e.device, button⟩, down)
    | _ => none

/-! ## Operations -/

/-- Allows or forbids that a device is acquired from now on. -/
def setAvailable (j : Joystick) (device : UInt32) (on : Bool) : Joystick :=
  { j with available := if on then j.available.insert device else j.available.erase device }

/-- Gives a device new contents and enters the change that made them. -/
def feed (j : Joystick) (device : UInt32) (panel : Panel) (change : Change) : Joystick :=
  { j with
    panels := j.panels.insert device panel
    journal := j.journal.push ⟨device, change⟩ }

/-- Takes a device. A device that is newly taken starts with its buttons up; one that is already
taken stays as it is. -/
def acquire (j : Joystick) (device : UInt32) : Logged (Except DeviceError Joystick) :=
  if !j.available.contains device then return .error (.notAcquirable device)
  else if j.isAcquired device then return .ok j
  else do
    Logged.note (Notice.simulatedAcquired device)
    return .ok
      { j.feed device { j.panel device with buttons := {} } .acquire with
        acquired := j.acquired.insert device }

/-- Hands a device back; one that is not taken stays as it is. -/
def relinquish (j : Joystick) (device : UInt32) : Logged Joystick :=
  if j.isAcquired device then do
    Logged.note (Notice.simulatedRelinquished device)
    return { j with
      acquired := j.acquired.erase device
      journal := j.journal.push ⟨device, .relinquish⟩ }
  else return j

/-- Fails unless a device is acquired. -/
def requireAcquired (j : Joystick) (device : UInt32) : Except DeviceError Unit :=
  if j.isAcquired device then .ok () else .error (.notAcquired device)

/-- Fails unless a button exists. -/
def requireButton (k : ButtonKey) : Except DeviceError Unit :=
  if hasButton k.button then .ok () else .error (.buttonOutOfRange k.device k.button)

/-- Writes a button of an acquired device. -/
def setButton (j : Joystick) (k : ButtonKey) (down : Bool) : Except DeviceError Joystick := do
  j.requireAcquired k.device
  requireButton k
  let panel := j.panel k.device
  return j.feed k.device { panel with buttons := panel.buttons.set k.button down }
    (.button k.button down)

/-- Reads a button of an acquired device. -/
def buttonState (j : Joystick) (k : ButtonKey) : Except DeviceError Bool := do
  j.requireAcquired k.device
  requireButton k
  return j.isPressed k

/-- Writes an axis of an acquired device. -/
def setAxis (j : Joystick) (device : UInt32) (axis : Axis) (value : Int32) :
    Except DeviceError Joystick := do
  j.requireAcquired device
  let panel := j.panel device
  return j.feed device { panel with axes := panel.axes.insert axis value } (.axis axis value)

/-- Writes a hat of an acquired device. -/
def setHat (j : Joystick) (device : UInt32) (hat : UInt8) (position : Hat) :
    Except DeviceError Joystick := do
  j.requireAcquired device
  let panel := j.panel device
  return j.feed device { panel with hats := panel.hats.insert hat position } (.hat hat position)

/-! ## What a write changes -/

theorem panel_feed (j : Joystick) (device other : UInt32) (p : Panel) (change : Change) :
    (j.feed device p change).panel other = if other = device then p else j.panel other := by
  simp [feed, panel, Std.TreeMap.getD_insert, @eq_comm _ other device]

/-- A button is written exactly if its device is acquired and it exists. -/
theorem setButton_eq_ok_iff {j next : Joystick} {k : ButtonKey} {down : Bool} :
    j.setButton k down = .ok next ↔
      j.isAcquired k.device = true ∧ hasButton k.button = true ∧
        next = j.feed k.device
          { j.panel k.device with buttons := (j.panel k.device).buttons.set k.button down }
          (.button k.button down) := by
  unfold setButton requireAcquired requireButton
  cases ha : j.isAcquired k.device <;> cases hb : hasButton k.button <;>
    simp [bind, Except.bind, pure, Except.pure, eq_comm]

/-- A write changes the button it names, and no other one. -/
theorem isPressed_of_setButton {j next : Joystick} {k : ButtonKey} {down : Bool}
    (h : j.setButton k down = .ok next) (other : ButtonKey) :
    next.isPressed other = if other = k then down else j.isPressed other := by
  obtain ⟨-, hb, rfl⟩ := setButton_eq_ok_iff.mp h
  unfold isPressed
  rw [panel_feed]
  by_cases hd : other.device = k.device
  · have hk : other = k ↔ other.button = k.button := by
      cases other; cases k; simp_all
    simp only [hd, ↓reduceIte, Bank.isDown_set _ hb, hk]
  · have hk : other ≠ k := fun e => hd (e ▸ rfl)
    simp [hd, hk]

end Joystick

end ControlDeck.Device
