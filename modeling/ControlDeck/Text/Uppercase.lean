import ControlDeck.Text.Uppercase.Table

/-!
# Upper case

* `upper`: the upper case of one character, which may be several characters.
* `uppercase`: the upper case of a text, character by character.

The mapping looks at no neighbours, so the upper case of a text is that of its parts, in order.
-/

namespace ControlDeck.Text

/-- The upper case of a character. -/
def upper (c : Char) : List Char :=
  match Uppercase.expansions.lookup c.toNat with
  | some codes => codes.map Char.ofNat
  | none =>
    match Uppercase.runs.find? (fun r => decide (r.Covers c.toNat)) with
    | some run => [Char.ofNat (run.apply c.toNat)]
    | none => [c]

/-- The upper case of a text. -/
def uppercase (s : List Char) : List Char := s.flatMap upper

@[simp] theorem uppercase_nil : uppercase [] = [] := rfl

@[simp] theorem uppercase_cons (c : Char) (s : List Char) :
    uppercase (c :: s) = upper c ++ uppercase s := rfl

theorem uppercase_append (s t : List Char) : uppercase (s ++ t) = uppercase s ++ uppercase t :=
  List.flatMap_append

end ControlDeck.Text
