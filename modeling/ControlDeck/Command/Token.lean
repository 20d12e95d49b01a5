import ControlDeck.Text.Blank
import ControlDeck.Decimal.Integer
import ControlDeck.Log

/-!
# Tokens of a command

A token is a run of ASCII letters and, perhaps after white space, a run of ASCII digits. Whatever
else stands in a command separates tokens and is skipped, as are letters that no digits follow.

* `lexemes`: the pairs of runs, in order of position.
* `Lexeme.token?`: the token of a pair, unless its number does not fit in 32 bits.
* `tokens`: the tokens of a text.
-/

namespace ControlDeck.Command

open Text

/-- A run of letters and the run of digits that belongs to it. -/
structure Lexeme where
  code : List Char
  digits : List Char
  deriving DecidableEq, Repr

/-- A code and its number. -/
structure Token where
  code : List Char
  value : UInt32
  deriving DecidableEq, Repr

/-- The text of a token, as it is shown in the log. -/
def Token.text (t : Token) : String := String.ofList t.code ++ toString t.value

/-- The letter and digit runs of a text. -/
def lexemes : List Char → List Lexeme
  | [] => []
  | c :: rest =>
    if c.isAlpha then
      let code := c :: rest.takeWhile Char.isAlpha
      let tail := (rest.dropWhile Char.isAlpha).dropWhile isBlank
      let digits := tail.takeWhile Char.isDigit
      if digits.isEmpty then lexemes tail
      else ⟨code, digits⟩ :: lexemes (tail.dropWhile Char.isDigit)
    else lexemes rest
termination_by s => s.length
decreasing_by
  all_goals
    have h₁ := (rest.dropWhile_suffix Char.isAlpha).length_le
    have h₂ := ((rest.dropWhile Char.isAlpha).dropWhile_suffix isBlank).length_le
    have h₃ := (((rest.dropWhile Char.isAlpha).dropWhile isBlank).dropWhile_suffix
      Char.isDigit).length_le
    simp only [List.length_cons]
    omega

/-- The number that a lexeme's digits denote, if it fits in 32 bits. -/
def Lexeme.number (l : Lexeme) : Except Decimal.ReadError UInt32 :=
  Decimal.readUInt32 l.digits

/-- The token of a lexeme. -/
def Lexeme.token? (l : Lexeme) : Option Token :=
  l.number.toOption.map (⟨l.code, ·⟩)

/-- The tokens of a text, in order of position. -/
def tokens (s : List Char) : List Token := (lexemes s).filterMap Lexeme.token?

/-! ## Log records -/

/-- A number that does not fit is left out. -/
def Notice.droppedToken (l : Lexeme) (e : Decimal.ReadError) : Record :=
  ⟨.debug, s!"Dropping token {String.ofList l.code}: {e.message}"⟩

end ControlDeck.Command
