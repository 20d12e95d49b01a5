import ControlDeck.Decimal.Shortest
import ControlDeck.Device.Backend

/-!
# Feeding devices

A feeder acquires each device when it is first used and holds it until all are handed back. An
operation that cannot be carried out changes nothing and is only logged; a device that the backend
reports as lost is acquired again by the next operation on it.

* `Feeder.ensureAcquired`, `Feeder.absorb`: how a device is gained and how it is lost.
* `Feeder.press`, `Feeder.release`, `Feeder.toggle`, `Feeder.setAxis`, `Feeder.setHat`: the writes.
* `Feeder.relinquishAll`: hands every held device back, in ascending order.
-/

namespace ControlDeck.Device

/-- A backend, and the devices that were acquired through this feeder. -/
structure Feeder where
  backend : Backend
  held : DeviceSet := ∅

/-! ## Log records -/

/-- A device is now held. -/
def Notice.acquired (device : UInt32) : Record := ⟨.info, s!"Acquired virtual device {device}"⟩

/-- A device could not be acquired. -/
def Notice.skipped (device : UInt32) (e : DeviceError) : Record :=
  ⟨.warn, s!"Skipping operation on device {device}: {e.message}"⟩

/-- The backend refused an operation. -/
def Notice.rejected (device : UInt32) (e : DeviceError) : Record :=
  ⟨.warn, s!"Virtual device {device} rejected operation: {e.message}"⟩

/-- A button is about to be written. -/
def Notice.settingButton (k : ButtonKey) (down : Bool) : Record :=
  let state := if down then "down" else "up"
  ⟨.debug, s!"Device {k.device} button {k.button} -> {state}"⟩

/-- An axis is about to be written. -/
def Notice.settingAxis (device : UInt32) (axis : Axis) (position : Float) (value : Int32) :
    Record :=
  ⟨.debug, s!"Device {device} axis {axis.label} -> {Decimal.positional position} ({value})"⟩

/-- A device is about to be handed back. -/
def Notice.relinquishing (device : UInt32) : Record :=
  ⟨.info, s!"Relinquishing virtual device {device}"⟩

namespace Feeder

/-- Acquires a device that is not held yet; says whether it is held then. -/
def ensureAcquired (f : Feeder) (device : UInt32) : Logged (Bool × Feeder) :=
  if f.held.contains device then return (true, f)
  else do
    let (outcome, backend) ← f.backend.acquire device
    match outcome with
    | .ok () =>
      Logged.note (Notice.acquired device)
      return (true, { backend, held := f.held.insert device })
    | .error e =>
      Logged.note (Notice.skipped device e)
      return (false, { f with backend })

/-- Takes note of a failure; a device that was lost is no longer held. -/
def absorb (f : Feeder) (device : UInt32) (e : DeviceError) : Logged Feeder := do
  Logged.note (Notice.rejected device e)
  match e with
  | .notAcquired _ => return { f with held := f.held.erase device }
  | _ => return f

/-- Goes on with the outcome of a backend call. -/
def settle (f : Feeder) (device : UInt32) (outcome : Except DeviceError Unit × Backend) :
    Logged Feeder :=
  let f := { f with backend := outcome.2 }
  match outcome.1 with
  | .ok () => return f
  | .error e => f.absorb device e

/-- Carries out a write if the device can be held. -/
def withDevice (f : Feeder) (device : UInt32) (write : Feeder → Logged Feeder) :
    Logged Feeder := do
  let (isHeld, f) ← f.ensureAcquired device
  if isHeld then write f else return f

/-- Writes a button. -/
def setButton (f : Feeder) (k : ButtonKey) (down : Bool) : Logged Feeder :=
  f.withDevice k.device fun f => do
    Logged.note (Notice.settingButton k down)
    f.settle k.device (← f.backend.setButton k down)

/-- Presses a button. -/
def press (f : Feeder) (k : ButtonKey) : Logged Feeder := f.setButton k true

/-- Releases a button. -/
def release (f : Feeder) (k : ButtonKey) : Logged Feeder := f.setButton k false

/-- Reads a button and writes the opposite. -/
def toggle (f : Feeder) (k : ButtonKey) : Logged Feeder :=
  f.withDevice k.device fun f => do
    let (outcome, backend) ← f.backend.buttonState k
    let f := { f with backend }
    match outcome with
    | .ok pressed => f.setButton k !pressed
    | .error e => f.absorb k.device e

/-- Reads a button; a button that cannot be read is up. -/
def buttonState (f : Feeder) (k : ButtonKey) : Logged (Bool × Feeder) := do
  let (isHeld, f) ← f.ensureAcquired k.device
  if isHeld then
    let (outcome, backend) ← f.backend.buttonState k
    let f := { f with backend }
    match outcome with
    | .ok pressed => return (pressed, f)
    | .error e => return (false, ← f.absorb k.device e)
  else return (false, f)

/-- Moves an axis to a position between `-1` and `1`. -/
def setAxis (f : Feeder) (device : UInt32) (axis : Axis) (position : Float) : Logged Feeder :=
  f.withDevice device fun f => do
    let value := Axis.toDevice position
    Logged.note (Notice.settingAxis device axis position value)
    f.settle device (← f.backend.setAxis device axis value)

/-- Moves a hat. -/
def setHat (f : Feeder) (device : UInt32) (hat : UInt8) (position : Hat) : Logged Feeder :=
  f.withDevice device fun f => do
    f.settle device (← f.backend.setHat device hat position)

/-- The held devices, in ascending order. -/
def heldDevices (f : Feeder) : List UInt32 := f.held.toList

/-- Hands one device back to the backend. -/
def relinquish (f : Feeder) (device : UInt32) : Logged Feeder := do
  Logged.note (Notice.relinquishing device)
  return { backend := ← f.backend.relinquish device, held := f.held.erase device }

/-- Hands every held device back, in ascending order. -/
def relinquishAll (f : Feeder) : Logged Feeder :=
  f.heldDevices.foldlM relinquish f

end Feeder

end ControlDeck.Device
