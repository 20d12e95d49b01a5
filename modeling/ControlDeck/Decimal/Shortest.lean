/-!
# The shortest decimal of a double

A finite double is `m * 2 ^ q`. The reals that round to it form an interval around it, whose ends
belong to it exactly when `m` is even. Of the powers of ten, `shortest` takes the largest with a
multiple in that interval, and there the multiple nearest to the double; of two equally near ones
the larger. All comparisons are exact, in natural numbers.

* `Reading.ofBits`: what the bits of a double stand for.
* `shortest`: the digits and the power of ten.
* `positional`: a double written without an exponent.
-/

namespace ControlDeck.Decimal

/-- The magnitude `significand * 2 ^ exponent` of a finite double. `isBinade` says that the double
is the least one of its binade, where the gap below it is half the gap above. -/
structure Finite where
  significand : Nat
  exponent : Int
  isBinade : Bool
  deriving DecidableEq, Repr

/-- What the bits of a double stand for. -/
inductive Reading
  | nan
  | infinite (negative : Bool)
  | finite (negative : Bool) (magnitude : Finite)
  deriving DecidableEq, Repr

/-- Takes the 64 bits of a double apart. -/
def Reading.ofBits (bits : UInt64) : Reading :=
  let n := bits.toNat
  let negative := n >>> 63 == 1
  let biased : Nat := n >>> 52 % 2048
  let fraction : Nat := n % 1 <<< 52
  if biased = 2047 then
    if fraction = 0 then .infinite negative else .nan
  else if biased = 0 then
    .finite negative ⟨fraction, -1074, false⟩
  else
    .finite negative ⟨1 <<< 52 + fraction, biased - 1075, fraction == 0 && biased != 1⟩

/-- A point and the two ends of its rounding interval, all over one denominator, measured in units
of a power of ten. -/
structure Scaled where
  low : Nat
  value : Nat
  high : Nat
  denominator : Nat
  closed : Bool

/-- The double and its rounding interval in units of `10 ^ power`. -/
def Finite.scaled (x : Finite) (power : Int) : Scaled :=
  let up := Nat.pow 10 (-power).toNat <<< (x.exponent - 2).toNat
  { low := (4 * x.significand - if x.isBinade then 1 else 2) * up
    value := 4 * x.significand * up
    high := (4 * x.significand + 2) * up
    denominator := Nat.pow 10 power.toNat <<< (2 - x.exponent).toNat
    closed := x.significand % 2 == 0 }

/-- Whether a multiple of the unit rounds to the double. -/
def Scaled.accepts (s : Scaled) (n : Nat) : Bool :=
  let p := n * s.denominator
  if s.closed then s.low ≤ p && p ≤ s.high else s.low < p && p < s.high

/-- The multiple of the unit that rounds to the double, if there is one: of the two neighbours of
the double the nearer one, and the larger one of a tie. -/
def Scaled.nearest? (s : Scaled) : Option Nat :=
  let below := s.value / s.denominator
  let above := below + 1
  match s.accepts below, s.accepts above with
  | true, true =>
    if s.value - below * s.denominator < above * s.denominator - s.value then some below
    else some above
  | true, false => some below
  | false, true => some above
  | false, false => none

/-- Searches the powers of ten from `power` downwards. -/
def Finite.search (x : Finite) : Nat → Int → Nat × Int
  | 0, power => (x.significand, power)
  | fuel + 1, power =>
    match (x.scaled power).nearest? with
    | some digits => (digits, power)
    | none => x.search fuel (power - 1)

/-- The fewest digits that read back as the double, and the power of ten they count. The search
begins above every double of this exponent; a spacing of `2 ^ exponent` holds a multiple of some
power of ten at most 36 steps below. -/
def Finite.shortest (x : Finite) : Nat × Int :=
  x.search 40 ((x.exponent + 53) * 30103 / 100000 + 1)

/-- `digits * 10 ^ power` without an exponent: zeros fill up to the decimal point, and there is no
point where nothing follows it. -/
def positionalDigits (digits : Nat) (power : Int) : String :=
  let text := toString digits
  if 0 ≤ power then text ++ String.ofList (List.replicate power.toNat '0')
  else
    let places := (-power).toNat
    let padded := List.replicate (places + 1 - text.length) '0' ++ text.toList
    let whole := padded.length - places
    String.ofList (padded.take whole ++ '.' :: padded.drop whole)

/-- The magnitude of a finite double, written without an exponent. -/
def Finite.positional (x : Finite) : String :=
  if x.significand = 0 then "0"
  else positionalDigits x.shortest.1 x.shortest.2

/-- A double in the fewest digits that read back, never with an exponent, and with the sign of a
negative zero kept. -/
def positional (value : Float) : String :=
  match Reading.ofBits value.toBits with
  | .nan => "NaN"
  | .infinite negative => if negative then "-inf" else "inf"
  | .finite negative x => if negative then "-" ++ x.positional else x.positional

/-- As `positional`, with `.0` after a finite number that would show no decimal point. -/
def positionalPointed (value : Float) : String :=
  match Reading.ofBits value.toBits with
  | .finite .. =>
    let text := positional value
    if text.toList.contains '.' then text else text ++ ".0"
  | _ => positional value

end ControlDeck.Decimal
