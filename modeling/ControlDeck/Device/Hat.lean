/-!
# Hats

A hat points in one of eight directions or rests in the centre.

* `Hat.pov`, `Hat.ofPov?`: directions as hundredths of a degree clockwise from north.
* `Hat.toXY`, `Hat.ofXY`: directions as vectors.
-/

namespace ControlDeck.Device

/-- The position of a hat. -/
inductive Hat
  | center
  | north
  | northEast
  | east
  | southEast
  | south
  | southWest
  | west
  | northWest
  deriving DecidableEq, Repr

namespace Hat

/-- The name of a position. -/
def name : Hat → String
  | center => "Center"
  | north => "North"
  | northEast => "NorthEast"
  | east => "East"
  | southEast => "SouthEast"
  | south => "South"
  | southWest => "SouthWest"
  | west => "West"
  | northWest => "NorthWest"

/-- Every position, the centre first and the others clockwise from north. -/
def all : List Hat :=
  [center, north, northEast, east, southEast, south, southWest, west, northWest]

/-- Hundredths of a degree clockwise from north, or `-1` for the centre. -/
def pov : Hat → Int32
  | center => -1
  | north => 0
  | northEast => 4500
  | east => 9000
  | southEast => 13500
  | south => 18000
  | southWest => 22500
  | west => 27000
  | northWest => 31500

/-- The position with the given value, if there is one. -/
def ofPov? (value : Int32) : Option Hat := all.find? (·.pov == value)

/-- The vector of a position; east and north are positive. -/
def toXY : Hat → Int × Int
  | center => (0, 0)
  | north => (0, 1)
  | northEast => (1, 1)
  | east => (1, 0)
  | southEast => (1, -1)
  | south => (0, -1)
  | southWest => (-1, -1)
  | west => (-1, 0)
  | northWest => (-1, 1)

/-- The position in which a vector points, by the signs of its two components. -/
def ofXY (x y : Int) : Hat := (all.find? (·.toXY == (x.sign, y.sign))).getD center

@[simp] theorem ofPov?_pov (h : Hat) : ofPov? h.pov = some h := by cases h <;> decide

@[simp] theorem ofXY_toXY (h : Hat) : ofXY h.toXY.1 h.toXY.2 = h := by cases h <;> decide

end Hat

end ControlDeck.Device
