import Std.Data.TreeMap

/-!
# Virtual buttons

* `ButtonKey`: a button, by device and number, ordered by device and then by number.
* `Mode`: the four things that can be done with a button.
* `maxButton`: the highest button number of a virtual joystick.
-/

namespace ControlDeck

/-- The highest button number of a virtual joystick. -/
def maxButton : UInt32 := 128

/-- One virtual button. -/
structure ButtonKey where
  device : UInt32
  button : UInt32
  deriving DecidableEq, Repr

namespace ButtonKey

/-- Keys are ordered by device, and on one device by number. -/
instance : Ord ButtonKey := ⟨compareLex (compareOn device) (compareOn button)⟩

instance : Std.TransOrd ButtonKey :=
  inferInstanceAs (Std.TransCmp (compareLex (compareOn device) (compareOn button)))

instance : Std.LawfulEqOrd ButtonKey where
  eq_of_compare {a b} h := by
    have h' : (compare a.device b.device).then (compare a.button b.button) = .eq := h
    rw [Ordering.then_eq_eq, Std.compare_eq_iff_eq, Std.compare_eq_iff_eq] at h'
    cases a; cases b; simp_all

/-- The text of a key. -/
def text (k : ButtonKey) : String := s!"D{k.device}B{k.button}"

end ButtonKey

/-- What is done with a button. -/
inductive Mode
  | press
  | release
  | pulse
  | toggle
  deriving DecidableEq, Repr

/-- The name of a mode. -/
def Mode.name : Mode → String
  | .press => "Press"
  | .release => "Release"
  | .pulse => "Pulse"
  | .toggle => "Toggle"

end ControlDeck
