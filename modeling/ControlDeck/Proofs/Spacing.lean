import ControlDeck.Proofs.Occurrences

/-!
# White space between tokens

Where white space stands in a command, and how much of it, makes no difference to what is read,
unless it cuts a run of letters or a run of digits.

- **Cuts** (`Cuts`): a position cuts a run if there is a character of the run on both sides.
- **Scanning** (`lexemes_append_congr`): what is read of two texts that differ in the white space at
  one position.
- **Texts that are read alike** (`ReadAlike`): both grammars read the same in them.
- `spaces_ignored`: white space put in or replaced anywhere.
-/

namespace ControlDeck.Command

open Text

/-! ## Cuts -/

/-- A position cuts a run of characters with a property: it has one on both sides. -/
def Cuts (p : Char → Bool) (left right : List Char) : Prop :=
  (∃ c ∈ left.getLast?, p c = true) ∧ ∃ c ∈ right.head?, p c = true

instance (p : Char → Bool) (left right : List Char) : Decidable (Cuts p left right) :=
  decidable_of_iff ((left.getLast?.any p && right.head?.any p) = true) <| by
    rw [Bool.and_eq_true, Option.any_eq_true, Option.any_eq_true]; rfl

/-- A position cuts neither a run of letters nor a run of digits. -/
def Apart (left right : List Char) : Prop :=
  ¬ Cuts Char.isAlpha left right ∧ ¬ Cuts Char.isDigit left right

section

variable {left right before gap x y : List Char} {p : Char → Bool}

/-- Nothing further to the left makes a difference. -/
theorem Cuts.append (h : Cuts p left right) : Cuts p (before ++ left) right := by
  obtain ⟨⟨c, hc, hp⟩, hr⟩ := h
  refine ⟨⟨c, ?_, hp⟩, hr⟩
  rw [List.getLast?_append, Option.mem_def.mp hc]
  rfl

theorem Apart.of_append (h : Apart (before ++ left) right) : Apart left right :=
  ⟨mt Cuts.append h.1, mt Cuts.append h.2⟩

/-- Behind a character of a run no other one follows. -/
theorem head_of_not_cuts (h : ¬ Cuts p left right) (hl : ∃ c ∈ left.getLast?, p c = true) :
    ∀ c ∈ right.head?, p c = false := fun c hc =>
  Bool.eq_false_iff.mpr fun hp => h ⟨hl, c, hc, hp⟩

/-- White space cuts no run. -/
theorem apart_blank (hg : Blank gap) (hne : gap ≠ []) (left right : List Char) :
    Apart left (gap ++ right) := by
  have ha := head?_append_of_forall hne (fun c hc => not_alpha_of_isBlank (hg c hc)) right
  have hd := head?_append_of_forall hne (fun c hc => not_digit_of_isBlank (hg c hc)) right
  refine ⟨?_, ?_⟩
  · rintro ⟨-, c, hc, hp⟩
    exact absurd (hp.symm.trans (ha c hc)) nofun
  · rintro ⟨-, c, hc, hp⟩
    exact absurd (hp.symm.trans (hd c hc)) nofun

/-! ## Scanning -/

theorem takeWhile_of_head (h : ∀ c ∈ x.head?, p c = false) : x.takeWhile p = [] := by
  cases x with
  | nil => rfl
  | cons c x => rw [List.takeWhile_cons, h c rfl]; rfl

/-- The number of a run of letters is the same if the texts differ in white space that does not cut
it. -/
theorem digits_append_congr (hb : x.dropWhile isBlank = y.dropWhile isBlank)
    (hx : ¬ Cuts Char.isDigit left x) (hy : ¬ Cuts Char.isDigit left y) :
    ((left ++ x).dropWhile isBlank).takeWhile Char.isDigit =
      ((left ++ y).dropWhile isBlank).takeWhile Char.isDigit := by
  rw [List.dropWhile_append, List.dropWhile_append]
  split
  · rw [hb]
  · rename_i hne
    rw [List.takeWhile_append, List.takeWhile_append]
    split
    · rename_i hlen
      -- all digits up to the end of `left`, so that what follows does not go on with digits
      have hall := List.takeWhile_eq_self_iff.mp
        ((List.takeWhile_prefix Char.isDigit).eq_of_length hlen)
      have hl : ∃ c ∈ left.getLast?, c.isDigit = true := by
        obtain ⟨c, hc⟩ := Option.ne_none_iff_exists'.mp
          (mt List.getLast?_eq_none_iff.mp (mt List.isEmpty_iff.mpr hne))
        refine ⟨c, ?_, hall c (List.mem_of_getLast? hc)⟩
        rw [← left.takeWhile_append_dropWhile (p := isBlank), List.getLast?_append, hc]
        rfl
      rw [takeWhile_of_head (head_of_not_cuts hx hl), takeWhile_of_head (head_of_not_cuts hy hl)]
    · rfl

/-- The same is read of two texts that differ at one position in white space that cuts no run. -/
theorem lexemes_append_congr (hb : x.dropWhile isBlank = y.dropWhile isBlank) (hx : Apart left x)
    (hy : Apart left y) : lexemes (left ++ x) = lexemes (left ++ y) := by
  induction left using scan_induction with
  | nil =>
    rw [List.nil_append, List.nil_append, ← lexemes_dropWhile_blank x, hb,
      lexemes_dropWhile_blank]
  | skip c rest hc ih =>
    rw [List.cons_append, List.cons_append, lexemes_cons_of_not_alpha hc,
      lexemes_cons_of_not_alpha hc]
    have hx' : Apart ([c] ++ rest) x := hx
    have hy' : Apart ([c] ++ rest) y := hy
    exact ih hx'.of_append hy'.of_append
  | run code rest hw hr ih =>
    have hx' := hx.of_append
    have hy' := hy.of_append
    -- the run ends in front of `rest`, and where that is empty in front of `x` and `y`
    have ht : ∀ z, Apart (code ++ rest) z → ∀ c ∈ (rest ++ z).head?, c.isAlpha = false := by
      intro z hz
      cases rest with
      | cons d rest => exact hr
      | nil =>
        rw [List.append_nil] at hz
        obtain ⟨c, hc⟩ := Option.ne_none_iff_exists'.mp (mt List.getLast?_eq_none_iff.mp hw.1)
        exact head_of_not_cuts hz.1 ⟨c, hc, hw.2 c (List.mem_of_getLast? hc)⟩
    rw [List.append_assoc, List.append_assoc, lexemes_word hw (ht x hx), lexemes_word hw (ht y hy),
      digits_append_congr hb hx'.2 hy'.2, ih hx' hy']

end

/-! ## Texts that are read alike -/

/-- Both grammars read the same in two texts, with the same log records, since the texts have the
same tokens. -/
structure ReadAlike (s t : List Char) : Prop where
  tokens : tokens s = tokens t
  button : decodeButton s = decodeButton t
  encoder : decodeEncoder s = decodeEncoder t

theorem ReadAlike.of_lexemes {s t : List Char} (h : lexemes s = lexemes t) : ReadAlike s t where
  tokens := by rw [Command.tokens, Command.tokens, h]
  button := by rw [decodeButton, decodeButton, h]
  encoder := by rw [decodeEncoder, decodeEncoder, h]

/-- White space makes no difference to what is read of a text, whatever else stands in it. It may
be put in at any position that cuts neither a run of letters nor a run of digits, and where there is
some it may be replaced by any other. -/
theorem spaces_ignored (left right gap : List Char) (hg : Blank gap) :
    (¬ Cuts Char.isAlpha left right → ¬ Cuts Char.isDigit left right →
      ReadAlike (left ++ (gap ++ right)) (left ++ right)) ∧
    ∀ other, Blank other → gap ≠ [] → other ≠ [] →
      ReadAlike (left ++ (gap ++ right)) (left ++ (other ++ right)) := by
  have hb : ∀ other, Blank other → (other ++ right).dropWhile isBlank = right.dropWhile isBlank :=
    fun other ho => List.dropWhile_append_of_pos ho
  refine ⟨fun ha hd => .of_lexemes ?_, fun other ho hne hon => .of_lexemes ?_⟩
  · by_cases hne : gap = []
    · rw [hne, List.nil_append]
    · exact lexemes_append_congr (hb gap hg) (apart_blank hg hne left right) ⟨ha, hd⟩
  · exact lexemes_append_congr ((hb gap hg).trans (hb other ho).symm)
      (apart_blank hg hne left right) (apart_blank ho hon left right)

/-- A blank of three bytes between the letters and the digits of a token, next to letters without
digits and a number that is too large; and one in the place of others. -/
theorem spaces_ignored_wide :
    let left := "XP4294967296-tb".toList
    let right := "12#D1".toList
    ReadAlike (left ++ (['\u2003', '\t'] ++ right)) (left ++ right) ∧
      ReadAlike (left ++ (['\u2003', '\t'] ++ right)) (left ++ ([' '] ++ right)) ∧
      tokens (left ++ right) = [⟨['t', 'b'], 12⟩, ⟨['D'], 1⟩] := by
  intro left right
  obtain ⟨hi, hr⟩ := spaces_ignored left right ['\u2003', '\t'] (by decide)
  exact ⟨hi (by decide +kernel) (by decide +kernel), hr [' '] (by decide) nofun nofun,
    by decide +kernel⟩

-- White space in a run of letters or of digits does make a difference.
example : tokens "T B12".toList = [⟨['B'], 12⟩] ∧ tokens "TB1 2".toList = [⟨['T', 'B'], 1⟩] := by
  decide +kernel

end ControlDeck.Command
