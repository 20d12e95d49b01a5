import Std.Data.TreeMap

/-!
# Axes

* `Axis`: the axes of a virtual joystick.
* `Axis.toDevice`, `Axis.ofDevice`: positions between `-1` and `1`, and the device's own range from
  `0` to `0x8000` with its centre at `0x4000`.
-/

namespace ControlDeck.Device

/-- An axis of a virtual joystick. -/
inductive Axis
  | x
  | y
  | z
  | rx
  | ry
  | rz
  | slider0
  | slider1
  deriving DecidableEq, Repr

namespace Axis

/-- The position of an axis in the list of all axes. -/
def index : Axis → Nat
  | x => 0
  | y => 1
  | z => 2
  | rx => 3
  | ry => 4
  | rz => 5
  | slider0 => 6
  | slider1 => 7

instance : Ord Axis := ⟨compareOn index⟩

instance : Std.TransOrd Axis := inferInstanceAs (Std.TransCmp (compareOn index))

theorem index_inj {a b : Axis} : a.index = b.index ↔ a = b := by
  cases a <;> cases b <;> decide

instance : Std.LawfulEqOrd Axis where
  eq_of_compare {a b} h := by
    have h' : compare a.index b.index = .eq := h
    exact index_inj.mp (Std.compare_eq_iff_eq.mp h')

/-- The name that a device shows for an axis. -/
def label : Axis → String
  | x => "X"
  | y => "Y"
  | z => "Z"
  | rx => "RX"
  | ry => "RY"
  | rz => "RZ"
  | slider0 => "SL0"
  | slider1 => "SL1"

/-- The name of an axis in the journal. -/
def name : Axis → String
  | x => "X"
  | y => "Y"
  | z => "Z"
  | rx => "Rx"
  | ry => "Ry"
  | rz => "Rz"
  | slider0 => "Slider0"
  | slider1 => "Slider1"

/-- The device value of a centred axis. -/
def centre : Float := 16384

/-- The device value of a position: positions beyond either end count as that end, fractions are
cut off, and what is not a number counts as zero. -/
def toDevice (position : Float) : Int32 :=
  let clamped := if position < -1 then -1 else if 1 < position then 1 else position
  ((clamped + 1) * centre).toInt32

/-- The position of a device value. -/
def ofDevice (value : Int32) : Float := value.toFloat / centre - 1

end Axis

end ControlDeck.Device
