/-!
# UTF-8

The text that some bytes hold, or where the first of them begin that hold none. A character is a
lead byte and up to three bytes after it. The lead byte alone fixes how many follow and which values
the first of these may take; this rules out overlong forms, surrogates and numbers beyond `10FFFF`.

* `Defect`: what is wrong with bytes that are not UTF-8.
* `decode`, `text`: the characters of some bytes, or the first defect.
* `length_of_readOwed`: a character takes its lead byte and exactly what that byte owes.
-/

namespace ControlDeck.Text.Utf8

/-- Why bytes are not UTF-8. All characters before `index` are well formed. The bytes from there on
either begin like a character for `length` bytes and then go on with a byte that cannot follow, or
end before the character does. A byte that leads no character counts as one byte. -/
inductive Defect
  | invalid (index length : Nat)
  | incomplete (index : Nat)
  deriving DecidableEq, Repr

/-- The text of a defect. -/
def Defect.message : Defect → String
  | .invalid index length => s!"invalid utf-8 sequence of {length} bytes from index {index}"
  | .incomplete index => s!"incomplete utf-8 byte sequence from index {index}"

/-- The values that a byte may take, from the least to the greatest. -/
structure Span where
  least : UInt8
  greatest : UInt8
  deriving DecidableEq, Repr

/-- Whether a byte is one of the values. -/
def Span.contains (s : Span) (b : UInt8) : Bool := s.least ≤ b && b ≤ s.greatest

/-- A byte that follows another one; what it adds to the character's number are its low six bits. -/
def tail : Span := ⟨0x80, 0xBF⟩

/-- What a lead byte adds to the character's number, and the bytes that it owes; nothing for a byte
that leads no character. -/
def lead? (b : UInt8) : Option (Nat × List Span) :=
  let n := b.toNat
  if n ≤ 0x7F then some (n, [])
  else if n < 0xC2 then none
  else if n ≤ 0xDF then some (n - 0xC0, [tail])
  else if n = 0xE0 then some (0, [⟨0xA0, 0xBF⟩, tail])
  else if n = 0xED then some (0xD, [⟨0x80, 0x9F⟩, tail])
  else if n ≤ 0xEF then some (n - 0xE0, [tail, tail])
  else if n = 0xF0 then some (0, [⟨0x90, 0xBF⟩, tail, tail])
  else if n ≤ 0xF3 then some (n - 0xF0, [tail, tail, tail])
  else if n = 0xF4 then some (4, [⟨0x80, 0x8F⟩, tail, tail])
  else none

/-- Reads the bytes that the character at `index` still owes after its first `length` bytes, which
gave it `number` so far; answers its whole number and the bytes after it. -/
def readOwed (index length number : Nat) :
    List Span → List UInt8 → Except Defect (Nat × List UInt8)
  | [], bytes => .ok (number, bytes)
  | _ :: _, [] => .error (.incomplete index)
  | span :: owed, b :: bytes =>
    if span.contains b then
      readOwed index (length + 1) (64 * number + (b.toNat - 0x80)) owed bytes
    else .error (.invalid index length)

/-- A character takes one byte for each that it owes. -/
theorem length_of_readOwed {index length number code : Nat} {owed : List Span}
    {bytes rest : List UInt8} (h : readOwed index length number owed bytes = .ok (code, rest)) :
    bytes.length = owed.length + rest.length := by
  induction owed generalizing length number bytes with
  | nil =>
    simp only [readOwed, Except.ok.injEq, Prod.mk.injEq] at h
    simp [h.2]
  | cons span owed ih =>
    match bytes with
    | [] => simp [readOwed] at h
    | b :: bytes =>
      simp only [readOwed] at h
      split at h
      · have := ih h
        simp only [List.length_cons]
        omega
      · simp at h

/-- The characters of bytes that stand at `index` of a longer sequence. -/
def decodeFrom (index : Nat) : List UInt8 → Except Defect (List Char)
  | [] => .ok []
  | b :: bytes =>
    match lead? b with
    | none => .error (.invalid index 1)
    | some (number, owed) =>
      match h : readOwed index 1 number owed bytes with
      | .error defect => .error defect
      | .ok (code, rest) =>
        have := length_of_readOwed h
        (decodeFrom (index + 1 + owed.length) rest).map (Char.ofNat code :: ·)
termination_by bytes => bytes.length

/-- The characters of some bytes, or the first defect. -/
def decode (bytes : List UInt8) : Except Defect (List Char) := decodeFrom 0 bytes

/-- The text of some bytes, or the first defect. -/
def text (bytes : List UInt8) : Except Defect String := (decode bytes).map String.ofList

end ControlDeck.Text.Utf8
