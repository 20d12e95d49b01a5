import ControlDeck.Proofs.Spelling
import Mathlib.Data.List.TakeWhile

/-!
# Where tokens stand

The tokens of a text by position, without a scan: a run of letters that is as long as it can be,
perhaps white space, and a run of digits that is as long as it can be.

- **Numbers** (`Numbered`): what stands behind a run of letters gives it a number.
- **Positions** (`StandsAt`): a lexeme stands at a position of a text. None stands in text without
  letters (`standsAt_skip`), and at most one in a run of letters (`standsAt_run`).
- **Findings** (`Finds`): all lexemes of a text with their positions. The scan makes such a list
  (`exists_finds`).
- `tokens_stand`: the tokens of a text are those of its lexemes whose number fits, in order.
-/

namespace ControlDeck.Command

open Text

/-! ## Positions -/

/-- The number that the digits of a lexeme denote. -/
def Lexeme.value (l : Lexeme) : Nat := Nat.ofDigitChars 10 l.digits 0

/-- A text gives a number to the letters in front of it: perhaps white space, and then digits up to
where there are no more. -/
def Numbered (digits rest : List Char) : Prop :=
  ∃ gap after, rest = gap ++ (digits ++ after) ∧ Blank gap ∧ digits ≠ [] ∧
    (∀ c ∈ digits, c.isDigit = true) ∧ ∀ c ∈ after.head?, c.isDigit = false

/-- A lexeme stands at a position of a text: its letters begin there, with no letter in front of
them and none behind, and what is behind gives them its number. -/
def StandsAt (s : List Char) (p : Nat) (l : Lexeme) : Prop :=
  ∃ before rest, s = before ++ (l.code ++ rest) ∧ before.length = p ∧ IsWord l.code ∧
    (∀ c ∈ before.getLast?, c.isAlpha = false) ∧ (∀ c ∈ rest.head?, c.isAlpha = false) ∧
    Numbered l.digits rest

section

variable {s t code digits : List Char} {p : Nat} {l : Lexeme}

/-- The number of a run of letters is found behind the white space that follows. -/
theorem numbered_iff :
    Numbered digits s ↔ digits ≠ [] ∧ (s.dropWhile isBlank).takeWhile Char.isDigit = digits := by
  constructor
  · rintro ⟨gap, after, rfl, hg, hne, hd, ha⟩
    have hb := head?_append_of_forall hne (fun c hc => not_blank_of_isDigit (hd c hc)) after
    rw [(takeWhile_dropWhile_run hg hb).2, (takeWhile_dropWhile_run hd ha).1]
    exact ⟨hne, rfl⟩
  · rintro ⟨hne, rfl⟩
    refine ⟨s.takeWhile isBlank, (s.dropWhile isBlank).dropWhile Char.isDigit, ?_,
      fun c => List.mem_takeWhile_imp, hne, fun c => List.mem_takeWhile_imp, head_dropWhile _ _⟩
    rw [List.takeWhile_append_dropWhile, List.takeWhile_append_dropWhile]

/-- The end of a text is the end of its last part that is not empty. -/
theorem getLast_append (h : ∀ c ∈ t.getLast?, c.isAlpha = false)
    (hs : t = [] → ∀ c ∈ s.getLast?, c.isAlpha = false) :
    ∀ c ∈ (s ++ t).getLast?, c.isAlpha = false := by
  by_cases ht : t = []
  · rw [ht, List.append_nil]
    exact hs ht
  · rwa [List.getLast?_append_of_ne_nil s ht]

/-- Nothing stands in text without letters. -/
theorem standsAt_skip (h : ∀ c ∈ s, c.isAlpha = false) :
    StandsAt (s ++ t) p l ↔ ∃ q, p = s.length + q ∧ StandsAt t q l := by
  constructor
  · rintro ⟨before, rest, he, rfl, hw, hb, hr⟩
    rcases List.append_eq_append_iff.mp he with ⟨x, rfl, rfl⟩ | ⟨x, rfl, hx⟩
    · refine ⟨x.length, List.length_append, x, rest, rfl, rfl, hw, ?_, hr⟩
      by_cases hx : x = []
      · rw [hx]
        exact nofun
      · rwa [List.getLast?_append_of_ne_nil s hx] at hb
    · cases x with
      | nil => exact ⟨0, by simp, [], rest, hx.symm, rfl, hw, nofun, hr⟩
      | cons c x =>
        -- the first of its letters would be among those of `s`
        obtain ⟨d, code, hc⟩ := List.exists_cons_of_ne_nil hw.1
        rw [hc, List.cons_append] at hx
        obtain rfl := (List.cons.inj hx).1
        have hd := hw.2 d (hc ▸ List.mem_cons_self)
        exact absurd (hd.symm.trans (h d (by simp))) nofun
  · rintro ⟨q, rfl, before, rest, rfl, rfl, hw, hb, hr⟩
    refine ⟨s ++ before, rest, (List.append_assoc ..).symm, List.length_append, hw, ?_, hr⟩
    exact getLast_append hb fun _ c hc => h c (List.mem_of_getLast? hc)

/-- In a run of letters at most one lexeme stands: at its start, with all its letters. -/
theorem standsAt_run (hc : IsWord code) (ht : ∀ c ∈ t.head?, c.isAlpha = false) :
    StandsAt (code ++ t) p l ↔
      p = 0 ∧ l.code = code ∧ Numbered l.digits t ∨
        ∃ q, p = code.length + q ∧ StandsAt t q l := by
  constructor
  · rintro ⟨before, rest, he, rfl, hw, hb, hr, hn⟩
    rcases List.append_eq_append_iff.mp he with ⟨x, rfl, rfl⟩ | ⟨x, rfl, hx⟩
    · refine .inr ⟨x.length, List.length_append, x, rest, rfl, rfl, hw, ?_, hr, hn⟩
      by_cases hx : x = []
      · rw [hx]
        exact nofun
      · rwa [List.getLast?_append_of_ne_nil code hx] at hb
    · have hnil : before = [] := by
        -- a letter in front of it would be one of `code`
        refine Decidable.byContradiction fun hne => ?_
        obtain ⟨c, hl⟩ := Option.ne_none_iff_exists'.mp (mt List.getLast?_eq_none_iff.mp hne)
        have hm := hc.2 c (List.mem_append_left _ (List.mem_of_getLast? hl))
        exact absurd (hm.symm.trans (hb c hl)) nofun
      subst hnil
      obtain ⟨hlt, hlr⟩ := takeWhile_dropWhile_run hw.2 hr
      obtain ⟨hct, hcr⟩ := takeWhile_dropWhile_run hc.2 ht
      rw [List.nil_append] at hct hcr
      rw [← hx] at hct hcr
      exact .inl ⟨rfl, hlt.symm.trans hct, hcr.symm.trans hlr ▸ hn⟩
  · rintro (⟨rfl, rfl, hn⟩ | ⟨q, rfl, before, rest, rfl, rfl, hw, hb, hr⟩)
    · exact ⟨[], t, rfl, rfl, hc, nofun, ht, hn⟩
    · refine ⟨code ++ before, rest, (List.append_assoc ..).symm, List.length_append, hw, ?_, hr⟩
      refine getLast_append hb fun hnil => ?_
      -- the letters of `code` would go on
      obtain ⟨d, letters, hd⟩ := List.exists_cons_of_ne_nil hw.1
      have ha := ht d (by rw [hnil, hd]; rfl)
      exact absurd ((hw.2 d (hd ▸ List.mem_cons_self)).symm.trans ha) nofun

end

/-! ## Findings -/

/-- White space in front is skipped. -/
theorem lexemes_dropWhile_blank (s : List Char) : lexemes (s.dropWhile isBlank) = lexemes s := by
  conv_rhs => rw [← s.takeWhile_append_dropWhile (p := isBlank)]
  exact (lexemes_skip (fun c hm => not_alpha_of_isBlank (List.mem_takeWhile_imp hm)) _).symm

/-- A run of letters is a lexeme if it has a number, and the scan goes on behind it. -/
theorem lexemes_word {code t : List Char} (hc : IsWord code)
    (ht : ∀ c ∈ t.head?, c.isAlpha = false) :
    lexemes (code ++ t) =
      let digits := (t.dropWhile isBlank).takeWhile Char.isDigit
      if digits.isEmpty then lexemes t else ⟨code, digits⟩ :: lexemes t := by
  -- the white space and the digits behind the letters have no letter, and are skipped
  have hb := (lexemes_dropWhile_blank t).symm
  have hd : lexemes t = lexemes ((t.dropWhile isBlank).dropWhile Char.isDigit) := by
    rw [hb]
    conv_lhs => rw [← (t.dropWhile isBlank).takeWhile_append_dropWhile (p := Char.isDigit)]
    exact lexemes_skip (fun c hm => not_alpha_of_isDigit (List.mem_takeWhile_imp hm)) _
  obtain ⟨c, letters, rfl⟩ := List.exists_cons_of_ne_nil hc.1
  obtain ⟨ha, hl⟩ := List.forall_mem_cons.mp hc.2
  obtain ⟨hlt, hlr⟩ := takeWhile_dropWhile_run hl ht
  rw [List.cons_append, lexemes, if_pos ha, hlt, hlr]
  dsimp only
  rw [← hb, ← hd]

/-- All lexemes of a text with their positions, in order. -/
structure Finds (s : List Char) (found : List (Nat × Lexeme)) : Prop where
  mem_iff : ∀ p l, (p, l) ∈ found ↔ StandsAt s p l
  ordered : found.Pairwise (·.1 < ·.1)
  lexemes_eq : found.map (·.2) = lexemes s

/-- The same lexemes further back. -/
def shift (n : Nat) (found : List (Nat × Lexeme)) : List (Nat × Lexeme) :=
  found.map fun x => (n + x.1, x.2)

theorem mem_shift {n p : Nat} {l : Lexeme} {found : List (Nat × Lexeme)} :
    (p, l) ∈ shift n found ↔ ∃ q, p = n + q ∧ (q, l) ∈ found := by
  unfold shift
  rw [List.mem_map]
  constructor
  · rintro ⟨⟨q, l⟩, hm, he⟩
    cases he
    exact ⟨q, rfl, hm⟩
  · rintro ⟨q, rfl, hm⟩
    exact ⟨(q, l), hm, rfl⟩

namespace Finds

variable {s t code : List Char} {found : List (Nat × Lexeme)}

theorem nil : Finds [] [] where
  mem_iff p l := by
    refine ⟨nofun, ?_⟩
    rintro ⟨before, rest, he, -, hw, -⟩
    exact absurd (List.append_eq_nil_iff.mp (List.append_eq_nil_iff.mp he.symm).2).1 hw.1
  ordered := .nil
  lexemes_eq := by rw [lexemes, List.map_nil]

theorem ordered_shift (h : Finds t found) (n : Nat) : (shift n found).Pairwise (·.1 < ·.1) :=
  List.pairwise_map.mpr (h.ordered.imp fun hlt => Nat.add_lt_add_left hlt n)

theorem map_shift (h : Finds t found) (n : Nat) : (shift n found).map (·.2) = lexemes t := by
  rw [← h.lexemes_eq, shift, List.map_map]
  rfl

/-- Text without letters in front moves all lexemes back. -/
theorem skip (h : Finds t found) (hs : ∀ c ∈ s, c.isAlpha = false) :
    Finds (s ++ t) (shift s.length found) where
  mem_iff p l := by simp only [mem_shift, h.mem_iff, standsAt_skip hs]
  ordered := h.ordered_shift _
  lexemes_eq := by rw [h.map_shift, lexemes_skip hs]

/-- A run of letters in front moves all lexemes back, and is one itself if it has a number. -/
theorem run (h : Finds t found) (hc : IsWord code) (ht : ∀ c ∈ t.head?, c.isAlpha = false) :
    let digits := (t.dropWhile isBlank).takeWhile Char.isDigit
    Finds (code ++ t)
      (if digits.isEmpty then shift code.length found
      else (0, ⟨code, digits⟩) :: shift code.length found) := by
  intro digits
  have hl := lexemes_word hc ht
  by_cases hd : digits.isEmpty = true
  · rw [if_pos hd]
    refine ⟨fun p l => ?_, h.ordered_shift _, by rw [h.map_shift, hl, if_pos hd]⟩
    have hn : ¬ Numbered l.digits t := fun hn => by
      obtain ⟨hne, he⟩ := numbered_iff.mp hn
      exact hne (he.symm.trans (List.isEmpty_iff.mp hd))
    simp only [mem_shift, h.mem_iff, standsAt_run hc ht, hn, and_false, false_or]
  · rw [if_neg hd]
    refine ⟨fun p l => ?_, ?_, by rw [List.map_cons, h.map_shift, hl, if_neg hd]⟩
    · have hn : Numbered l.digits t ↔ l.digits = digits := by
        rw [numbered_iff]
        refine ⟨fun hn => hn.2.symm, fun he => ⟨?_, he.symm⟩⟩
        rw [he]
        exact mt List.isEmpty_iff.mpr hd
      have hw : l.code = code ∧ l.digits = digits ↔ l = ⟨code, digits⟩ := by
        cases l
        simp
      simp only [List.mem_cons, mem_shift, h.mem_iff, standsAt_run hc ht, hn, hw, Prod.mk.injEq]
    · refine List.pairwise_cons.mpr ⟨fun x hx => ?_, h.ordered_shift _⟩
      obtain ⟨q, hq, -⟩ := mem_shift.mp hx
      have := List.length_pos_iff.mpr hc.1
      dsimp only
      omega

end Finds

/-- A text is empty, or has a character in front that is no letter, or a run of letters that ends
there. -/
@[elab_as_elim]
theorem scan_induction {P : List Char → Prop} (nil : P [])
    (skip : ∀ c rest, c.isAlpha = false → P rest → P (c :: rest))
    (run : ∀ code rest, IsWord code → (∀ c ∈ rest.head?, c.isAlpha = false) → P rest →
      P (code ++ rest))
    (s : List Char) : P s := by
  -- by induction on the length, since a whole run may be in front
  induction hn : s.length using Nat.strongRecOn generalizing s with
  | ind n ih =>
    subst hn
    cases s with
    | nil => exact nil
    | cons c rest =>
      cases hc : c.isAlpha with
      | false => exact skip c rest hc (ih rest.length (Nat.lt_succ_self _) rest rfl)
      | true =>
        have hw : IsWord (c :: rest.takeWhile Char.isAlpha) :=
          ⟨List.cons_ne_nil _ _, List.forall_mem_cons.mpr ⟨hc, fun c => List.mem_takeWhile_imp⟩⟩
        have hlt : (rest.dropWhile Char.isAlpha).length < (c :: rest).length :=
          Nat.lt_succ_of_le (rest.dropWhile_suffix Char.isAlpha).length_le
        have hr := run _ _ hw (head_dropWhile Char.isAlpha rest) (ih _ hlt _ rfl)
        rwa [List.cons_append, List.takeWhile_append_dropWhile] at hr

/-- The scan finds all lexemes, in order. -/
theorem exists_finds (s : List Char) : ∃ found, Finds s found := by
  induction s using scan_induction with
  | nil => exact ⟨[], .nil⟩
  | skip c rest hc ih =>
    obtain ⟨found, hf⟩ := ih
    exact ⟨_, hf.skip (s := [c]) (by simpa using hc)⟩
  | run code rest hw hr ih =>
    obtain ⟨found, hf⟩ := ih
    exact ⟨_, hf.run hw hr⟩

/-- A lexeme that stands somewhere is a token if its number is below `2 ^ 32`. -/
theorem StandsAt.token? {s : List Char} {p : Nat} {l : Lexeme} (h : StandsAt s p l) :
    l.token? = if l.value < UInt32.size then some ⟨l.code, .ofNat l.value⟩ else none := by
  obtain ⟨-, -, -, -, -, -, -, -, -, -, -, hne, hd, -⟩ := h
  rw [Lexeme.token?, Lexeme.number, Decimal.readUInt32_eq hd hne]
  unfold Lexeme.value
  split <;> rfl

/-- The tokens of a text are, in order of position, those of the lexemes that stand in it, one for
each, less those whose number is `2 ^ 32` or more. A lexeme stands where a run of letters that
cannot be longer is followed by white space, or by none, and then by digits; these count as far as
they go, whatever zeros they begin with. The scan comes to this end on every text, since each of its
steps leaves less of the text. -/
theorem tokens_stand (s : List Char) :
    ∃ found : List (Nat × Lexeme),
      (∀ p l, (p, l) ∈ found ↔ StandsAt s p l) ∧ found.Pairwise (·.1 < ·.1) ∧
      tokens s = found.filterMap fun x =>
        if x.2.value < UInt32.size then some ⟨x.2.code, .ofNat x.2.value⟩ else none := by
  obtain ⟨found, hf⟩ := exists_finds s
  refine ⟨found, hf.mem_iff, hf.ordered, ?_⟩
  rw [tokens, ← hf.lexemes_eq, List.filterMap_map]
  refine List.filterMap_congr fun x hx => ?_
  exact ((hf.mem_iff x.1 x.2).mp hx).token?

-- Letters without digits, a blank of three bytes, leading zeros, and a number that is too large.
example : tokens "XY D2#B\u2003007 P4294967296".toList = [⟨['D'], 2⟩, ⟨['B'], 7⟩] := by
  decide +kernel

end ControlDeck.Command
