import ControlDeck.Decimal.Nearest
import ControlDeck.Toml.Lexical
import ControlDeck.Toml.Value

/-!
# Numbers, dates and times

* `integer`: decimal, hexadecimal, octal and binary integers of 64 bits.
* `float`: numbers with a fraction or an exponent, infinities and what is not a number.
* `datetime`: dates, times, and both with or without an offset.
-/

namespace ControlDeck.Toml

open Reader

/-- A run of digits, in which a single underscore may stand between two digits. -/
def digitRun (isDigit : Char → Bool) : Reader (List Char) := do
  let first ← next isDigit
  let more ← many (next isDigit <|> (do char '_'; next isDigit))
  return first :: more

/-- The number that digits denote. -/
def ofDigits (base : Nat) (digits : List Char) : Nat :=
  digits.foldl (fun n c => base * n + hexValue c) 0

/-- A sign; says whether it is negative. -/
def sign : Reader Bool := (do char '-'; return true) <|> (do let _ ← maybe (char '+'); return false)

/-- A signed decimal without leading zeros. -/
def signedDigits : Reader (Bool × List Char) := do
  let negative ← sign
  let digits ←
    (do ahead (next fun c => c.isDigit && c != '0'); digitRun Char.isDigit) <|>
      (do return [← next Char.isDigit])
  return (negative, digits)

/-! ## Integers -/

/-- An integer in another base, after the letter that names it. -/
def based (letter : String) (base : Nat) (isDigit : Char → Bool) : Reader Int := do
  literal letter
  return ofDigits base (← digitRun isDigit)

/-- An integer of 64 bits. -/
def integer : Reader Value := do
  let n ← guarded
    (based "0x" 16 isHexDigit <|>
      based "0o" 8 (fun c => '0' ≤ c && c ≤ '7') <|>
      based "0b" 2 (fun c => c == '0' || c == '1') <|>
      (do
        let (negative, digits) ← signedDigits
        let n : Int := ofDigits 10 digits
        return if negative then -n else n))
    fun n => Int64.minValue.toInt ≤ n && n ≤ Int64.maxValue.toInt
  return .integer n

/-! ## Floats -/

/-- An exponent. -/
def exponent : Reader Int := do
  let _ ← next fun c => c == 'e' || c == 'E'
  let negative ← sign
  let n : Int := ofDigits 10 (← digitRun Char.isDigit)
  return if negative then -n else n

/-- The digits after a decimal point. -/
def fraction : Reader (List Char) := do char '.'; digitRun Char.isDigit

/-- A number with a fraction, an exponent or both; none beyond the largest double. -/
def finiteFloat : Reader Float := do
  let (negative, whole) ← signedDigits
  let (places, power) ←
    (do return ([], ← exponent)) <|>
      (do
        let places ← fraction
        return (places, (← maybe exponent).getD 0))
  let magnitude := Decimal.nearest (ofDigits 10 (whole ++ places)) (power - places.length)
  guarded (pure (if negative then -magnitude else magnitude)) (· != 1 / 0)

/-- An infinity, or what is not a number. -/
def specialFloat : Reader Float := do
  let negative ← sign
  let x ← (do literal "inf"; return 1 / 0) <|> (do literal "nan"; return 0 / 0)
  return if negative then -x else x

/-- A float. -/
def float : Reader Value := Value.float <$> (finiteFloat <|> specialFloat)

/-! ## Dates and times -/

/-- A number of exactly `count` digits, from `low` to `high`. -/
def field (count low high : Nat) : Reader Nat :=
  guarded (go count 0) fun n => low ≤ n && n ≤ high
where
  /-- Reads the digits that are left. -/
  go : Nat → Nat → Reader Nat
    | 0, n => return n
    | count + 1, n => do go count (10 * n + hexValue (← next Char.isDigit))

/-- The number of days of a month. -/
def daysOfMonth (year month : Nat) : Nat :=
  if month = 2 then
    if year % 4 = 0 && (year % 100 != 0 || year % 400 = 0) then 29 else 28
  else if month = 4 || month = 6 || month = 9 || month = 11 then 30
  else 31

/-- A date. -/
def date : Reader Unit := do
  let year ← field 4 0 9999
  char '-'
  let month ← field 2 1 12
  char '-'
  let _ ← field 2 1 (daysOfMonth year month)

/-- A time of day; a minute may have a leap second. -/
def time : Reader Unit := do
  let _ ← field 2 0 23
  char ':'
  let _ ← field 2 0 59
  char ':'
  let _ ← field 2 0 60
  let _ ← maybe (do char '.'; span1 Char.isDigit)

/-- An offset from universal time. -/
def offset : Reader Unit :=
  (do let _ ← next fun c => c == 'Z' || c == 'z') <|>
    (do
      let _ ← next fun c => c == '+' || c == '-'
      let _ ← field 2 0 23
      char ':'
      let _ ← field 2 0 59)

/-- A date, a time, or both. -/
def datetime : Reader Value := do
  let dated : Reader Unit := do
    date
    let _ ← maybe do
      let _ ← next fun c => c == 'T' || c == 't' || c == ' '
      time
      maybe offset
  dated <|> time
  return .datetime

end ControlDeck.Toml
