import ControlDeck.Toml.Reader

/-!
# Lexical elements

* `blanks`, `newline`, `lineEnd`, `gap`: white space, comments and the ends of lines.
* `text`: the four kinds of strings.
* `key`: keys, with dots between their parts.
-/

namespace ControlDeck.Toml

open Reader

/-- Dotted keys and nested values have fewer levels than this. -/
def maxDepth : Nat := 80

/-! ## White space and comments -/

/-- Spaces and tabs. -/
def blanks : Reader Unit := do let _ ← span fun c => c == ' ' || c == '\t'

/-- The end of a line. -/
def newline : Reader Unit := char '\n' <|> literal "\r\n"

/-- The characters that may stand in text of any kind: tabs, and all but controls. -/
def isPlain (c : Char) : Bool := c == '\t' || (0x20 ≤ c.toNat && c.toNat != 0x7F)

/-- A comment, up to the end of its line. -/
def comment : Reader Unit := do char '#'; let _ ← span isPlain

/-- What may follow on a line: a comment, and then the end of the line or of the text. -/
def lineEnd : Reader Unit := do
  blanks
  let _ ← maybe comment
  newline <|> done

/-- White space, line ends and comments, as they stand between the elements of an array. -/
def gap : Reader Unit := do
  blanks
  let _ ← many (do let _ ← maybe comment; newline; blanks)

/-! ## Strings -/

/-- The value of a hexadecimal digit. -/
def hexValue (c : Char) : Nat :=
  if c.isDigit then c.toNat - '0'.toNat
  else if c.toNat < 'a'.toNat then c.toNat - 'A'.toNat + 10
  else c.toNat - 'a'.toNat + 10

/-- Whether a character is a hexadecimal digit. -/
def isHexDigit (c : Char) : Bool :=
  c.isDigit || ('a' ≤ c && c ≤ 'f') || ('A' ≤ c && c ≤ 'F')

/-- Exactly `count` hexadecimal digits. -/
def hexNumber : Nat → Nat → Reader Nat
  | 0, n => return n
  | count + 1, n => do hexNumber count (16 * n + hexValue (← next isHexDigit))

/-- A character given by its number; there is none between the two halves of a surrogate pair or
beyond the last plane. -/
def scalar (digits : Nat) : Reader Char := do
  let n ← guarded (hexNumber digits 0) fun n => n < 0xD800 || (0xDFFF < n && n < 0x110000)
  return Char.ofNat n

/-- The character of an escape, after its backslash. -/
def escape : Reader Char := do
  match ← next fun _ => true with
  | 'b' => return '\x08'
  | 't' => return '\t'
  | 'n' => return '\n'
  | 'f' => return '\x0c'
  | 'r' => return '\r'
  | '"' => return '"'
  | '\\' => return '\\'
  | 'u' => scalar 4
  | 'U' => scalar 8
  | _ => failure

/-- Characters of a string with escapes, up to the next backslash, quote or control. -/
def unescaped : Reader (List Char) := span1 fun c => isPlain c && c != '"' && c != '\\'

/-- A string between quotes, with escapes, on one line. -/
def basicString : Reader (List Char) := do
  char '"'
  let pieces ← many (unescaped <|> (do char '\\'; return [← escape]))
  char '"'
  return pieces.flatten

/-- A string between apostrophes, on one line and as it stands. -/
def literalString : Reader (List Char) := do
  char '\''
  let characters ← span fun c => isPlain c && c != '\''
  char '\''
  return characters

/-- One or two quote characters, when something of the given kind follows. -/
def quotesBefore {α : Type} (quote : Char) (following : Reader α) : Reader (List Char) :=
  (do char quote; char quote; ahead following; return [quote, quote]) <|>
    (do char quote; ahead following; return [quote])

/-- A string of several lines between threefold quote characters. A line end right after the
opening is left out, and one or two quote characters may stand anywhere, also at the end. -/
def multiline (quote : Char) (piece : Reader (List Char)) : Reader (List Char) := do
  let delimiter : Reader Unit := do char quote; char quote; char quote
  delimiter
  let _ ← maybe newline
  let pieces ← many (piece <|> quotesBefore quote (next (· != quote)))
  let last ← maybe (quotesBefore quote delimiter)
  delimiter
  return pieces.flatten ++ last.getD []

/-- A backslash at the end of a line, which hides all white space and line ends that follow. -/
def hiddenLineEnd : Reader Unit := do
  char '\\'
  blanks
  newline
  let _ ← many ((do let _ ← next fun c => c == ' ' || c == '\t') <|> newline)

/-- A piece of a string of several lines with escapes. -/
def basicPiece : Reader (List Char) :=
  unescaped <|>
    (do hiddenLineEnd; return []) <|>
    (do char '\\'; return [← escape]) <|>
    (do newline; return ['\n'])

/-- A piece of a string of several lines that is taken as it stands. -/
def literalPiece : Reader (List Char) :=
  (span1 fun c => isPlain c && c != '\'') <|> (do newline; return ['\n'])

/-- A string of any kind. -/
def text : Reader String := do
  let characters ←
    multiline '"' basicPiece <|> basicString <|> multiline '\'' literalPiece <|> literalString
  return String.ofList characters

/-! ## Keys -/

/-- The characters of a key without quotes. -/
def isBare (c : Char) : Bool := c.isAlphanum || c == '_' || c == '-'

/-- One part of a key. -/
def keyPart : Reader String := do
  blanks
  let part ← basicString <|> literalString <|> span1 isBare
  blanks
  return String.ofList part

/-- A key: the parts before the last one, and the last one. -/
def key : Reader (List String × String) := do
  let parts ← guarded (separated keyPart (char '.')) (·.length < maxDepth)
  match parts.getLast? with
  | some last => return (parts.dropLast, last)
  | none => failure

end ControlDeck.Toml
