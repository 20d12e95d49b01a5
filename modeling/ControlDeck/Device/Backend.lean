import ControlDeck.Device.Joystick

/-!
# A joystick that may fail

A joystick behind a connection on which calls can fail for reasons of their own. The faults wait in
a queue. The next few calls may still be spared; after them each call but `relinquish` takes one
fault and then does nothing else. While the queue is empty, every call reaches the joystick.
-/

namespace ControlDeck.Device

/-- A joystick and the messages of the faults that its calls meet once `spared` further calls have
gone through. -/
structure Backend where
  joystick : Joystick
  faults : List String := []
  spared : Nat := 0

namespace Backend

/-- The fault that the next call meets. -/
def fault? (b : Backend) : Option String := if b.spared = 0 then b.faults.head? else none

/-- The connection after a call: the call took the fault in front, or was spared it. -/
def passed (b : Backend) : Backend :=
  match b.faults, b.spared with
  | [], _ => b
  | _ :: rest, 0 => { b with faults := rest }
  | _ :: _, spared + 1 => { b with spared }

/-- Makes a call, unless it meets a fault. -/
def call {α : Type} (b : Backend)
    (operation : Joystick → Logged (Except DeviceError (α × Joystick))) :
    Logged (Except DeviceError α × Backend) :=
  match b.fault? with
  | some message => return (.error (.backend message), b.passed)
  | none => do
    match ← operation b.joystick with
    | .ok (answer, joystick) => return (.ok answer, { b.passed with joystick })
    | .error e => return (.error e, b.passed)

theorem fault?_of_nil {b : Backend} (h : b.faults = []) : b.fault? = none := by
  simp [fault?, h]

theorem passed_of_nil {b : Backend} (h : b.faults = []) : b.passed = b := by
  simp [passed, h]

@[simp] theorem passed_joystick (b : Backend) : b.passed.joystick = b.joystick := by
  unfold passed
  split <;> rfl

/-- A call meets its fault, or does to the joystick what it would do without any. -/
theorem value_call {α : Type} (b : Backend)
    (operation : Joystick → Logged (Except DeviceError (α × Joystick))) :
    (b.call operation).value =
      match b.fault? with
      | some message => (.error (.backend message), b.passed)
      | none =>
        match (operation b.joystick).value with
        | .ok (answer, joystick) => (.ok answer, { b.passed with joystick })
        | .error e => (.error e, b.passed) := by
  unfold call
  cases b.fault? with
  | some message => rfl
  | none =>
    rw [Logged.value_bind]
    split <;> simp [*]

/-- Takes a device. -/
def acquire (b : Backend) (device : UInt32) : Logged (Except DeviceError Unit × Backend) :=
  b.call fun j => do return (← j.acquire device).map ((), ·)

/-- Writes a button. -/
def setButton (b : Backend) (k : ButtonKey) (down : Bool) :
    Logged (Except DeviceError Unit × Backend) :=
  b.call fun j => return (j.setButton k down).map ((), ·)

/-- Reads a button. -/
def buttonState (b : Backend) (k : ButtonKey) : Logged (Except DeviceError Bool × Backend) :=
  b.call fun j => return (j.buttonState k).map (·, j)

/-- Writes an axis. -/
def setAxis (b : Backend) (device : UInt32) (axis : Axis) (value : Int32) :
    Logged (Except DeviceError Unit × Backend) :=
  b.call fun j => return (j.setAxis device axis value).map ((), ·)

/-- Writes a hat. -/
def setHat (b : Backend) (device : UInt32) (hat : UInt8) (position : Hat) :
    Logged (Except DeviceError Unit × Backend) :=
  b.call fun j => return (j.setHat device hat position).map ((), ·)

/-- Hands a device back, which never meets a fault. -/
def relinquish (b : Backend) (device : UInt32) : Logged Backend := do
  return { b with joystick := ← b.joystick.relinquish device }

end Backend

end ControlDeck.Device
