import ControlDeck.Proofs.Scanning
import Mathlib.Data.List.DropRight

/-!
# The words of a text

A word is a piece of a text without white space that is as long as it can be.

- **Words** (`Solid`, `Worded`): the texts that are made of given words. Every text is made of one
  list of words, and that is the one that is computed (`words_eq_iff`).
- **Ends** (`Trimmed`): a text without white space at its ends. Every text is such a one with white
  space around it, and trimming finds it (`exists_trim`, `trim_eq`).
- **Cuts** (`splitFirst_append`): a text is cut behind its first word.
-/

namespace ControlDeck.Text

/-! ## Words -/

/-- Whether a text has no white space in it, and is not empty. -/
def Solid (w : List Char) : Prop := w ≠ [] ∧ ∀ c ∈ w, isBlank c = false

instance (w : List Char) : Decidable (Solid w) :=
  decidable_of_iff ((!w.isEmpty && w.all (!isBlank ·)) = true) (by simp [Solid])

/-- Whether a word in front of a text ends there. -/
def Ends (s : List Char) : Prop := ∀ c ∈ s.head?, isBlank c = true

/-- The texts that are made of words: white space before, between and after them. -/
inductive Worded : List (List Char) → List Char → Prop
  | nil {gap : List Char} (hg : Blank gap) : Worded [] gap
  | cons {gap w rest : List Char} {ws : List (List Char)} (hg : Blank gap) (hw : Solid w)
      (he : Ends rest) (hr : Worded ws rest) : Worded (w :: ws) (gap ++ (w ++ rest))

section

variable {s t w rest gap : List Char} {ws : List (List Char)}

theorem Blank.append (hs : Blank s) (ht : Blank t) : Blank (s ++ t) :=
  List.forall_mem_append.mpr ⟨hs, ht⟩

theorem Blank.ends (h : Blank s) : Ends s := fun c hc => h c (List.mem_of_head? hc)

theorem Blank.ends_append (h : Blank gap) (hn : gap ≠ []) (s : List Char) : Ends (gap ++ s) := by
  intro c hc
  rw [List.head?_append_of_ne_nil _ hn] at hc
  exact h.ends c hc

theorem Ends.append (h : Ends s) (hg : Blank gap) : Ends (s ++ gap) := by
  cases s with
  | nil => exact hg.ends
  | cons c s => exact h

/-- A word is a run that ends with the word. -/
theorem Solid.run (hw : Solid w) (he : Ends rest) :
    (w ++ rest).takeWhile (!isBlank ·) = w ∧ (w ++ rest).dropWhile (!isBlank ·) = rest :=
  Command.takeWhile_dropWhile_run (fun c hc => by simp [hw.2 c hc]) fun c hc => by simp [he c hc]

/-- A text without white space at its front is its first word and what is behind. -/
theorem exists_word (hs : s ≠ []) (h : ∀ c ∈ s.head?, isBlank c = false) :
    ∃ w rest, s = w ++ rest ∧ Solid w ∧ Ends rest := by
  refine ⟨s.takeWhile (!isBlank ·), s.dropWhile (!isBlank ·),
    List.takeWhile_append_dropWhile.symm, ⟨?_, ?_⟩, ?_⟩
  · cases s with
    | nil => contradiction
    | cons c s => simp [h c rfl]
  · intro c hc
    simpa using List.mem_takeWhile_imp hc
  · intro c hc
    simpa using Command.head_dropWhile (!isBlank ·) s c hc

theorem words_of_blank (h : Blank s) : words s = [] := by
  rw [words]
  split
  · rfl
  · rename_i heq
    cases (List.dropWhile_eq_nil_iff.mpr h).symm.trans heq

@[simp] theorem words_nil : words [] = [] := words_of_blank (List.forall_mem_nil _)

/-- The first word starts behind the white space at the front. -/
theorem words_of_dropWhile {c : Char} (h : s.dropWhile isBlank = c :: rest) :
    words s = (c :: rest).takeWhile (!isBlank ·) :: words ((c :: rest).dropWhile (!isBlank ·)) := by
  have hc : isBlank c = false := Command.head_dropWhile isBlank s c (by rw [h]; rfl)
  rw [words]
  split
  · rename_i heq
    cases h.symm.trans heq
  · rename_i heq
    obtain ⟨rfl, rfl⟩ := List.cons.inj (h.symm.trans heq)
    rw [List.dropWhile_cons_of_pos (by simp [hc])]

/-- White space in front makes no difference. -/
theorem words_gap (hg : Blank gap) (s : List Char) : words (gap ++ s) = words s := by
  have hd : (gap ++ s).dropWhile isBlank = s.dropWhile isBlank := List.dropWhile_append_of_pos hg
  cases h : s.dropWhile isBlank with
  | nil =>
    have hs : Blank s := List.dropWhile_eq_nil_iff.mp h
    rw [words_of_blank hs, words_of_blank (hg.append hs)]
  | cons c rest => rw [words_of_dropWhile h, words_of_dropWhile (hd.trans h)]

/-- A word that ends in front of white space is the first one. -/
theorem words_append (hw : Solid w) (he : Ends rest) : words (w ++ rest) = w :: words rest := by
  obtain ⟨ht, hd⟩ := hw.run he
  cases w with
  | nil => exact absurd rfl hw.1
  | cons c w =>
    have hc : (c :: (w ++ rest)).dropWhile isBlank = c :: (w ++ rest) :=
      List.dropWhile_cons_of_neg (by simp [hw.2 c List.mem_cons_self])
    rw [List.cons_append] at ht hd ⊢
    rw [words_of_dropWhile hc, ht, hd]

/-- A text is made of its words. -/
theorem worded_words (s : List Char) : Worded (words s) s := by
  induction s using words.induct with
  | case1 s h =>
    have hs : Blank s := List.dropWhile_eq_nil_iff.mp h
    rw [words_of_blank hs]
    exact .nil hs
  | case2 s c rest h ih =>
    -- the white space in front, the first word and what is behind
    have hg : Blank (s.takeWhile isBlank) := fun a ha => List.mem_takeWhile_imp ha
    have hc : isBlank c = false := Command.head_dropWhile isBlank s c (by rw [h]; rfl)
    obtain ⟨w, behind, hr, hw, he⟩ := exists_word (List.cons_ne_nil c rest) fun a ha => by
      obtain rfl := Option.some.inj ha
      exact hc
    have hd := (hw.run he).2
    rw [← hr, List.dropWhile_cons_of_pos (by simp [hc])] at hd
    rw [hd] at ih
    rw [← s.takeWhile_append_dropWhile (p := isBlank), h, hr, words_gap hg, words_append hw he]
    exact .cons hg hw he ih

/-- The words of a text are those that it is made of. -/
theorem words_eq_iff : words s = ws ↔ Worded ws s := by
  constructor
  · rintro rfl
    exact worded_words s
  · intro h
    induction h with
    | nil hg => exact words_of_blank hg
    | cons hg hw he _ ih => rw [words_gap hg, words_append hw he, ih]

/-- White space behind makes no difference. -/
theorem Worded.append (h : Worded ws s) (hg : Blank gap) : Worded ws (s ++ gap) := by
  induction h with
  | nil hg' => exact .nil (hg'.append hg)
  | cons hg' hw he _ ih =>
    rw [List.append_assoc, List.append_assoc]
    exact .cons hg' hw (he.append hg) ih

/-- Only white space has no words. -/
theorem words_eq_nil_iff : words s = [] ↔ Blank s := by
  refine ⟨fun h => ?_, words_of_blank⟩
  cases words_eq_iff.mp h with
  | nil hg => exact hg

end

/-! ## Ends -/

/-- Whether a text has no white space at its ends. -/
structure Trimmed (s : List Char) : Prop where
  first : ∀ c ∈ s.head?, isBlank c = false
  last : ∀ c ∈ s.getLast?, isBlank c = false

instance (s : List Char) : Decidable (Trimmed s) :=
  decidable_of_iff ((s.head?.all (!isBlank ·) && s.getLast?.all (!isBlank ·)) = true) <| by
    simp only [Bool.and_eq_true, Option.all_eq_true, Bool.not_eq_true']
    exact ⟨fun h => ⟨h.1, h.2⟩, fun h => ⟨h.first, h.last⟩⟩

section

variable {s t w rest gap : List Char} {ws : List (List Char)}

theorem trimRight_eq (s : List Char) : trimRight s = s.rdropWhile isBlank := rfl

/-- Every text is one without white space at its ends, with white space around it. -/
theorem exists_trim (s : List Char) :
    ∃ before after, s = before ++ (trim s ++ after) ∧ Blank before ∧ Blank after ∧
      Trimmed (trim s) := by
  refine ⟨s.takeWhile isBlank, (trimLeft s).rtakeWhile isBlank, ?_, fun c => List.mem_takeWhile_imp,
    fun c => List.mem_rtakeWhile_imp, ?_, ?_⟩
  · rw [trim, trimRight_eq, List.rdropWhile_append_rtakeWhile, trimLeft,
      List.takeWhile_append_dropWhile]
  · intro c hc
    have hp : (trimLeft s).head? = some c := by
      rw [← List.rdropWhile_append_rtakeWhile (p := isBlank) (l := trimLeft s),
        List.head?_append, ← trimRight_eq, ← trim, Option.mem_def.mp hc]
      rfl
    exact Command.head_dropWhile isBlank s c hp
  · intro c hc
    obtain ⟨hne, rfl⟩ := List.mem_getLast?_eq_getLast hc
    exact Bool.eq_false_iff.mpr (List.rdropWhile_last_not isBlank (trimLeft s) hne)

/-- White space around a text is trimmed away. -/
theorem trim_eq {before after : List Char} (hb : Blank before) (ha : Blank after)
    (ht : Trimmed t) : trim (before ++ (t ++ after)) = t := by
  rw [trim, trimLeft, List.dropWhile_append_of_pos hb]
  by_cases hn : t = []
  · rw [hn, List.nil_append, List.dropWhile_eq_nil_iff.mpr ha]
    rfl
  · have hl : (t ++ after).dropWhile isBlank = t ++ after := by
      cases t with
      | nil => contradiction
      | cons c t => exact List.dropWhile_cons_of_neg (by simp [ht.first c rfl])
    have hr : t.reverse.dropWhile isBlank = t.reverse := by
      cases h : t.reverse with
      | nil => rfl
      | cons c t' =>
        have hc : c ∈ t.getLast? := by
          rw [List.getLast?_eq_head?_reverse, h]
          rfl
        exact List.dropWhile_cons_of_neg (by simp [ht.last c hc])
    rw [hl, trimRight, List.reverse_append,
      List.dropWhile_append_of_pos fun c hc => ha c (List.mem_reverse.mp hc), hr,
      List.reverse_reverse]

theorem trim_gap (hg : Blank gap) (ht : Trimmed t) : trim (gap ++ t) = t := by
  have := trim_eq hg (List.forall_mem_nil _) ht
  rwa [List.append_nil] at this

/-- Trimming leaves the words. -/
theorem words_trim (s : List Char) : words (trim s) = words s := by
  obtain ⟨before, after, hs, hb, ha, -⟩ := exists_trim s
  conv_rhs => rw [hs]
  rw [words_gap hb, words_eq_iff.mpr ((worded_words (trim s)).append ha)]

/-- A text between two texts. -/
theorem Trimmed.between (hs : Trimmed s) (ht : Trimmed t) (hsn : s ≠ []) (htn : t ≠ [])
    (m : List Char) : Trimmed (s ++ (m ++ t)) where
  first := by
    rw [List.head?_append_of_ne_nil _ hsn]
    exact hs.first
  last := by
    rw [← List.append_assoc, List.getLast?_append_of_ne_nil _ htn]
    exact ht.last

/-- A word has no white space at its ends. -/
theorem Solid.trimmed (h : Solid w) : Trimmed w where
  first c hc := h.2 c (List.mem_of_head? hc)
  last c hc := h.2 c (List.mem_of_getLast? hc)

/-- The white space behind a word is not needed to know what comes then. -/
theorem trim_tail (he : Ends rest) : trim rest.tail = trim rest := by
  cases rest with
  | nil => rfl
  | cons c rest =>
    rw [trim, trim, trimLeft, trimLeft, List.tail_cons, List.dropWhile_cons_of_pos (he c rfl)]

/-- A text that does not end in white space has words, unless it is empty. -/
theorem words_ne_nil (h : ∀ c ∈ s.getLast?, isBlank c = false) (hs : s ≠ []) : words s ≠ [] := by
  intro hw
  have hl := List.getLast?_eq_getLast_of_ne_nil hs
  have hb := words_eq_nil_iff.mp hw _ (List.mem_of_getLast? hl)
  rw [h _ hl] at hb
  cases hb

/-- A text is cut behind its first word. -/
theorem splitFirst_append (hw : Solid w) (he : Ends rest) (hr : rest ≠ []) :
    splitFirst (w ++ rest) = some (w, rest.tail) := by
  obtain ⟨ht, hd⟩ := hw.run he
  rw [splitFirst, hd, ht]
  cases rest with
  | nil => contradiction
  | cons c rest => rfl

/-- A word alone is not cut. -/
theorem splitFirst_solid (hw : Solid w) : splitFirst w = none := by
  have he : Ends [] := nofun
  have hd := (hw.run he).2
  rw [List.append_nil] at hd
  rw [splitFirst, hd]

end

end ControlDeck.Text
