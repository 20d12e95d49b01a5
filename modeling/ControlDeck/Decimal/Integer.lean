/-!
# Reading bounded decimal integers

An optional sign and at least one digit, read from left to right. The first character that is no
digit, or that takes the number past its bound, decides the failure.

* `readUnsigned`: numbers from `0` to a bound; only `+` may stand in front.
* `readSigned`: numbers from `-(bound + 1)` to a bound, with either sign in front.
-/

namespace ControlDeck.Decimal

/-- Why a text is not an integer within its bounds. -/
inductive ReadError
  | empty
  | invalidDigit
  | tooLarge
  | tooSmall
  deriving DecidableEq, Repr

/-- The wording of a failure. -/
def ReadError.message : ReadError → String
  | .empty => "cannot parse integer from empty string"
  | .invalidDigit => "invalid digit found in string"
  | .tooLarge => "number too large to fit in target type"
  | .tooSmall => "number too small to fit in target type"

/-- The value of an ASCII digit. -/
def digitValue (c : Char) : Nat := c.toNat - '0'.toNat

/-- Continues a number `n` with further digits, as long as it stays within `bound`. -/
def readDigits (bound : Nat) (past : ReadError) : Nat → List Char → Except ReadError Nat
  | n, [] => .ok n
  | n, c :: rest =>
    if c.isDigit then
      let next := 10 * n + digitValue c
      if next ≤ bound then readDigits bound past next rest else .error past
    else .error .invalidDigit

/-- Reads one or more digits; the text after a sign must not be empty. -/
def readMagnitude (bound : Nat) (past : ReadError) : List Char → Except ReadError Nat
  | [] => .error .invalidDigit
  | digits => readDigits bound past 0 digits

/-- Reads a number from `0` to `bound`. -/
def readUnsigned (bound : Nat) : List Char → Except ReadError Nat
  | [] => .error .empty
  | '+' :: digits => readMagnitude bound .tooLarge digits
  | digits => readMagnitude bound .tooLarge digits

/-- Reads a number from `-(bound + 1)` to `bound`. -/
def readSigned (bound : Nat) : List Char → Except ReadError Int
  | [] => .error .empty
  | '+' :: digits => (readMagnitude bound .tooLarge digits).map Int.ofNat
  | '-' :: digits => (readMagnitude (bound + 1) .tooSmall digits).map fun n => -Int.ofNat n
  | digits => (readMagnitude bound .tooLarge digits).map Int.ofNat

/-- Reads a number of 32 bits. -/
def readUInt32 (s : List Char) : Except ReadError UInt32 :=
  (readUnsigned (UInt32.size - 1) s).map UInt32.ofNat

/-- Reads a number of 64 bits. -/
def readUInt64 (s : List Char) : Except ReadError UInt64 :=
  (readUnsigned (UInt64.size - 1) s).map UInt64.ofNat

/-- Reads a signed number of 32 bits. -/
def readInt32 (s : List Char) : Except ReadError Int32 :=
  (readSigned (Int32.size / 2 - 1) s).map Int32.ofInt

end ControlDeck.Decimal
