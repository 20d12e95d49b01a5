/-!
# White space

* `isBlank`: the Unicode property `White_Space`.
* `trim`: a text without the white space at its two ends.
* `splitFirst`: a text cut at its first white-space character.
* `words`: the pieces between runs of white space.
-/

namespace ControlDeck.Text

/-- The characters with the Unicode property `White_Space`. -/
def isBlank (c : Char) : Bool :=
  let n := c.toNat
  (0x9 ≤ n && n ≤ 0xD) || n == 0x20 || n == 0x85 || n == 0xA0 || n == 0x1680 ||
    (0x2000 ≤ n && n ≤ 0x200A) || n == 0x2028 || n == 0x2029 || n == 0x202F || n == 0x205F ||
    n == 0x3000

/-- The text from its first character that is not white space on. -/
def trimLeft (s : List Char) : List Char := s.dropWhile isBlank

/-- The text up to its last character that is not white space. -/
def trimRight (s : List Char) : List Char := (s.reverse.dropWhile isBlank).reverse

/-- The text without the white space at either end. -/
def trim (s : List Char) : List Char := trimRight (trimLeft s)

/-- The parts before and after the first white-space character, or nothing where there is none. -/
def splitFirst (s : List Char) : Option (List Char × List Char) :=
  match s.dropWhile (!isBlank ·) with
  | [] => none
  | _ :: rest => some (s.takeWhile (!isBlank ·), rest)

/-- The maximal pieces without white space, in order. -/
def words (s : List Char) : List (List Char) :=
  match _h : s.dropWhile isBlank with
  | [] => []
  | c :: rest =>
    (c :: rest).takeWhile (!isBlank ·) :: words (rest.dropWhile (!isBlank ·))
termination_by s.length
decreasing_by
  have hs : (c :: rest).length ≤ s.length := _h ▸ s.dropWhile_suffix isBlank |>.length_le
  have hr := (rest.dropWhile_suffix (!isBlank ·)).length_le
  simp only [List.length_cons] at hs
  omega

end ControlDeck.Text
