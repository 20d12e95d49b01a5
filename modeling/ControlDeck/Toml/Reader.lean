/-!
# Readers

A reader takes something off the front of a text, or fails. Alternatives are tried in order, each
from the same place.

* `Reader.next`, `Reader.literal`, `Reader.span`: the elementary readers.
* `Reader.many`: a reader as often as it succeeds and takes something.
-/

namespace ControlDeck.Toml

/-- Something read off the front of a text, with the rest of the text. -/
abbrev Reader := StateT (List Char) Option

namespace Reader

/-- One character of a class. -/
def next (p : Char → Bool) : Reader Char := fun
  | c :: rest => if p c then some (c, rest) else none
  | [] => none

/-- One given character. -/
def char (c : Char) : Reader Unit := do let _ ← next (· == c)

/-- A given text. -/
def literal (s : String) : Reader Unit := s.toList.forM char

/-- All characters of a class up to the first of another one. -/
def span (p : Char → Bool) : Reader (List Char) := fun s => some (s.takeWhile p, s.dropWhile p)

/-- At least one character of a class, and all up to the first of another one. -/
def span1 (p : Char → Bool) : Reader (List Char) := do return (← next p) :: (← span p)

/-- The next character, which stays where it is. -/
def peek : Reader (Option Char) := fun s => some (s.head?, s)

/-- Succeeds only at the end of the text. -/
def done : Reader Unit := fun
  | [] => some ((), [])
  | _ :: _ => none

/-- Succeeds if a reader does, and takes nothing. -/
def ahead {α : Type} (r : Reader α) : Reader Unit := fun s => (r s).map fun _ => ((), s)

/-- What a reader reads, or nothing where it fails. -/
def maybe {α : Type} (r : Reader α) : Reader (Option α) := (some <$> r) <|> pure none

/-- Repeats a reader at most `count` times. -/
def repeatUpTo {α : Type} (r : Reader α) : Nat → List Char → List α × List Char
  | 0, s => ([], s)
  | count + 1, s =>
    match r s with
    | none => ([], s)
    | some (a, rest) =>
      if rest.length < s.length then
        let (more, rest) := repeatUpTo r count rest
        (a :: more, rest)
      else ([], s)

/-- Repeats a reader as long as it succeeds and takes something. -/
def many {α : Type} (r : Reader α) : Reader (List α) := fun s => some (repeatUpTo r s.length s)

/-- One or more of something, with something else between them. -/
def separated {α β : Type} (r : Reader α) (separator : Reader β) : Reader (List α) := do
  return (← r) :: (← many (do let _ ← separator; r))

/-- Goes on only with something that passes a test. -/
def guarded {α : Type} (r : Reader α) (p : α → Bool) : Reader α := do
  let a ← r
  if p a then return a else failure

end Reader

end ControlDeck.Toml
