/-!
# Lines of input

Input is a sequence of bytes. A line feed ends a line, and so does the end of the input unless
nothing follows the last line feed. A carriage return right before a line feed belongs to the line's
end; one at the end of the input belongs to the line.

* `nextLine?`: the first line and what follows it.
* `lines`: all lines.
* `length_lt_of_nextLine?`: taking a line makes the input shorter.
-/

namespace ControlDeck.Text

/-- Whether a byte ends a line. -/
def isLineFeed (b : UInt8) : Bool := b == 10

/-- A line without the carriage return at its end, if there is one. -/
def dropReturn (line : List UInt8) : List UInt8 :=
  if line.getLast? = some 13 then line.dropLast else line

/-- The first line of some bytes, without what ends it, and the bytes after it. -/
def nextLine? (bytes : List UInt8) : Option (List UInt8 × List UInt8) :=
  match bytes.takeWhile (!isLineFeed ·), bytes.dropWhile (!isLineFeed ·) with
  | line, _ :: rest => some (dropReturn line, rest)
  | [], [] => none
  | b :: line, [] => some (b :: line, [])

/-- What follows a line is shorter than what the line stood in front of. -/
theorem length_lt_of_nextLine? {bytes line rest : List UInt8}
    (h : nextLine? bytes = some (line, rest)) : rest.length < bytes.length := by
  have hlength : bytes.length =
      (bytes.takeWhile (!isLineFeed ·)).length + (bytes.dropWhile (!isLineFeed ·)).length := by
    rw [← List.length_append, List.takeWhile_append_dropWhile]
  unfold nextLine? at h
  split at h
  · rename_i hrest
    obtain ⟨-, rfl⟩ : _ ∧ _ = rest := by simpa using h
    rw [hlength, hrest, List.length_cons]
    omega
  · simp at h
  · rename_i hline hrest
    obtain ⟨-, rfl⟩ : _ ∧ [] = rest := by simpa using h
    rw [hlength, hline, hrest, List.length_cons, List.length_nil]
    omega

/-- All lines of some bytes, in order. -/
def lines (bytes : List UInt8) : List (List UInt8) :=
  match h : nextLine? bytes with
  | none => []
  | some (line, rest) =>
    have := length_lt_of_nextLine? h
    line :: lines rest
termination_by bytes.length

end ControlDeck.Text
