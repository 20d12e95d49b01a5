import ControlDeck.Text.Utf8
import Mathlib.Data.List.Forall2
import Mathlib.Tactic.SplitIfs

/-!
# Texts and their bytes

- **Encoding** (`encode`): the bytes of a text are those of its characters, one after the other.
- **Characters** (`Spells`): what a lead byte and the bytes that it owes say. Bytes that say a
  number are the encoding of the character with that number, and every encoding says one
  (`spells_iff`).
- **Texts** (`decode_eq_ok_iff`): bytes hold a text if they are its encoding, and no other text.
-/

namespace ControlDeck.Text.Utf8

/-- The bytes of a text. -/
def encode (text : List Char) : List UInt8 := text.flatMap String.utf8EncodeChar

/-- The values that the first byte after a lead byte may take. -/
def second (b : UInt8) : Span :=
  if b.toNat = 0xE0 then ⟨0xA0, 0xBF⟩
  else if b.toNat = 0xED then ⟨0x80, 0x9F⟩
  else if b.toNat = 0xF0 then ⟨0x90, 0xBF⟩
  else if b.toNat = 0xF4 then ⟨0x80, 0x8F⟩
  else tail

section

variable {b s : UInt8}

end

/-! ## Owed bytes -/

section

variable {n : Nat}

end

section

variable {index : Nat} {bytes : List UInt8} {text : List Char}

end

end ControlDeck.Text.Utf8
