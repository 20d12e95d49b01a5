import ControlDeck.Text.Quoted.Hidden

/-!
# Quoted text

A text between double quotes, in which every character that would not show is escaped.

* `isHidden`: the characters that are written by number.
* `quoted`: the quoted form of a text.
-/

namespace ControlDeck.Text

/-- A character that has no printed form of its own. -/
def isHidden (c : Char) : Bool :=
  Quoted.hiddenRanges.any fun (low, high) => low ≤ c.toNat && c.toNat ≤ high

/-- The digits of a code point in lower-case hexadecimal, without leading zeros. -/
def hexDigits (n : Nat) : List Char := Nat.toDigits 16 n

/-- One character of a quoted text: quotes, backslashes and the common controls have short
escapes, and other characters that would not show are given by their code point. -/
def quoteChar (c : Char) : List Char :=
  match c with
  | '"' => ['\\', '"']
  | '\\' => ['\\', '\\']
  | '\n' => ['\\', 'n']
  | '\t' => ['\\', 't']
  | '\r' => ['\\', 'r']
  | '\x00' => ['\\', '0']
  | _ => if isHidden c then ['\\', 'u', '\x7b'] ++ hexDigits c.toNat ++ ['\x7d'] else [c]

/-- The quoted form of a text. -/
def quoted (s : String) : String :=
  String.ofList ('"' :: s.toList.flatMap quoteChar ++ ['"'])

end ControlDeck.Text
