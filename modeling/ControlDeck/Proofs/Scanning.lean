import ControlDeck.Command.Cache

/-!
# Letters, white space and digits

How a command is read that is put together from runs of ASCII letters, white space and digits.

- **ASCII** (`forall_ascii`): what holds of the first 128 characters is checked one by one; letters,
  digits and white space are told apart that way.
- **Upper case** (`upper_of_ascii`, `upper_of_isBlank`): only ASCII letters change.
- **Numbers** (`readDigits_eq`): a number is read unless it is above the bound.
- **Runs** (`lexemes_skip`, `lexemes_run`): what is no letter is skipped, and a run of letters with
  a run of digits is one lexeme.
-/

namespace ControlDeck

/-! ## Characters -/

namespace Text

/-- A property of the first 128 characters. -/
theorem forall_ascii {P : Char → Prop} (h : ∀ n < 128, P (Char.ofNat n)) {c : Char}
    (hc : c.toNat < 128) : P c :=
  Char.ofNat_toNat c ▸ h c.toNat hc

theorem lt_of_isAlpha {c : Char} (h : c.isAlpha = true) : c.toNat < 128 := by
  rcases (Bool.or_eq_true ..).mp h with h | h
  · have hle : c.val ≤ 'Z'.val := (of_decide_eq_true h).2
    exact Nat.lt_of_le_of_lt (UInt32.le_iff_toNat_le.mp hle) (by decide : 'Z'.toNat < 128)
  · have hle : c.val ≤ 'z'.val := of_decide_eq_true (Bool.and_eq_true_iff.mp h).2
    exact Nat.lt_of_le_of_lt (UInt32.le_iff_toNat_le.mp hle) (by decide : 'z'.toNat < 128)

theorem lt_of_isDigit {c : Char} (h : c.isDigit = true) : c.toNat < 128 :=
  Nat.lt_of_le_of_lt (Char.isDigit_iff_toNat.mp h).2 (by decide)

/-- A letter is neither a digit nor white space. -/
theorem not_digit_of_isAlpha {c : Char} (h : c.isAlpha = true) :
    c.isDigit = false ∧ isBlank c = false :=
  forall_ascii (P := fun c => c.isAlpha = true → c.isDigit = false ∧ isBlank c = false)
    (by decide +kernel) (lt_of_isAlpha h) h

theorem not_alpha_of_isDigit {c : Char} (h : c.isDigit = true) : c.isAlpha = false :=
  Bool.eq_false_iff.mpr fun ha => by
    rw [(not_digit_of_isAlpha ha).1] at h
    cases h

theorem not_blank_of_isDigit {c : Char} (h : c.isDigit = true) : isBlank c = false :=
  forall_ascii (P := fun c => c.isDigit = true → isBlank c = false) (by decide +kernel)
    (lt_of_isDigit h) h

theorem not_digit_of_isBlank {c : Char} (h : isBlank c = true) : c.isDigit = false :=
  Bool.eq_false_iff.mpr fun hd => by
    rw [not_blank_of_isDigit hd] at h
    cases h

theorem not_alpha_of_isBlank {c : Char} (h : isBlank c = true) : c.isAlpha = false :=
  Bool.eq_false_iff.mpr fun ha => by
    rw [(not_digit_of_isAlpha ha).2] at h
    cases h

/-- The only run of the mapping below 128: the small letters. -/
def smallLetters : Uppercase.Run := ⟨0x61, 0x7A, 1, 0x41⟩

/-- Of the first 128 characters only the small letters have another upper case. -/
theorem upper_eq_smallLetters {c : Char} (h : c.toNat < 128) :
    upper c =
      if smallLetters.Covers c.toNat then [Char.ofNat (smallLetters.apply c.toNat)] else [c] := by
  -- Every other entry of the two tables is for a character from 128 on.
  have he : ∀ e ∈ Uppercase.expansions, 128 ≤ e.1 := by decide +kernel
  have hr : ∀ r ∈ Uppercase.runs.tail, 128 ≤ r.first := by decide +kernel
  have hl : Uppercase.expansions.lookup c.toNat = none := by
    rw [List.lookup_eq_none_iff]
    intro e hm
    have hne : c.toNat ≠ e.1 := by have := he e hm; omega
    exact bne_iff_ne.mpr hne
  have ht : Uppercase.runs.tail.find? (fun r => decide (r.Covers c.toNat)) = none := by
    rw [List.find?_eq_none]
    intro r hm hc
    have := hr r hm
    have := (of_decide_eq_true hc).1
    omega
  unfold upper
  rw [hl, show Uppercase.runs = smallLetters :: Uppercase.runs.tail from rfl, List.find?_cons, ht]
  by_cases hc : smallLetters.Covers c.toNat <;> simp [hc]

theorem upper_of_ascii {c : Char} (h : c.toNat < 128) : upper c = [c.toUpper] := by
  rw [upper_eq_smallLetters h]
  exact forall_ascii (P := fun c => (if smallLetters.Covers c.toNat then
    [Char.ofNat (smallLetters.apply c.toNat)] else [c]) = [c.toUpper]) (by decide +kernel) h

theorem upper_of_isDigit {c : Char} (h : c.isDigit = true) : upper c = [c] := by
  rw [upper_of_ascii (lt_of_isDigit h)]
  exact forall_ascii (P := fun c => c.isDigit = true → [c.toUpper] = [c]) (by decide +kernel)
    (lt_of_isDigit h) h

/-- White space has no case. -/
theorem upper_of_isBlank {c : Char} (h : isBlank c = true) : upper c = [c] := by
  have hall : ∀ n ∈ List.range' 0x9 5 ++ List.range' 0x2000 11 ++
      [0x20, 0x85, 0xA0, 0x1680, 0x2028, 0x2029, 0x202F, 0x205F, 0x3000],
      upper (Char.ofNat n) = [Char.ofNat n] := by decide +kernel
  have := hall c.toNat (by
    simp only [isBlank, Bool.or_eq_true, Bool.and_eq_true, decide_eq_true_eq, beq_iff_eq] at h
    simp only [List.mem_append, List.mem_range'_1, List.mem_cons, List.not_mem_nil, or_false]
    omega)
  rwa [Char.ofNat_toNat] at this

/-- A text of characters that are their own upper case is so too. -/
theorem uppercase_eq_self {s : List Char} (h : ∀ c ∈ s, upper c = [c]) : uppercase s = s := by
  induction s with
  | nil => rfl
  | cons c s ih =>
    obtain ⟨hc, hs⟩ := List.forall_mem_cons.mp h
    rw [uppercase_cons, hc, ih hs]
    rfl

/-- Whether a text is white space all through. -/
def Blank (s : List Char) : Prop := ∀ c ∈ s, isBlank c = true

instance (s : List Char) : Decidable (Blank s) :=
  decidable_of_iff (s.all isBlank = true) List.all_eq_true

theorem Blank.not_alpha {s : List Char} (h : Blank s) : ∀ c ∈ s, c.isAlpha = false :=
  fun c hc => not_alpha_of_isBlank (h c hc)

theorem Blank.uppercase {s : List Char} (h : Blank s) : uppercase s = s :=
  uppercase_eq_self fun c hc => upper_of_isBlank (h c hc)

end Text

/-! ## Numbers -/

namespace Decimal

theorem le_ofDigitChars (digits : List Char) (n : Nat) : n ≤ Nat.ofDigitChars 10 digits n := by
  induction digits generalizing n with
  | nil => exact Nat.le_refl n
  | cons c rest ih =>
    rw [Nat.ofDigitChars_cons]
    exact Nat.le_trans (by omega) (ih _)

/-- Digits are read unless the number is above the bound. -/
theorem readDigits_eq {bound : Nat} {past : ReadError} {digits : List Char}
    (hd : ∀ c ∈ digits, c.isDigit = true) {n : Nat} (hn : n ≤ bound) :
    readDigits bound past n digits =
      if Nat.ofDigitChars 10 digits n ≤ bound then .ok (Nat.ofDigitChars 10 digits n)
      else .error past := by
  induction digits generalizing n with
  | nil => rw [Nat.ofDigitChars_nil, if_pos hn, readDigits]
  | cons c rest ih =>
    rw [readDigits, if_pos (hd c List.mem_cons_self), Nat.ofDigitChars_cons, ← digitValue]
    dsimp only
    split
    · rename_i hle
      exact ih (fun c hc => hd c (List.mem_cons_of_mem _ hc)) hle
    · rename_i hlt
      rw [if_neg fun hle => hlt (Nat.le_trans (le_ofDigitChars rest _) hle)]

/-- A number of 32 bits is read unless it is too large. -/
theorem readUInt32_eq {digits : List Char} (hd : ∀ c ∈ digits, c.isDigit = true)
    (hn : digits ≠ []) :
    readUInt32 digits =
      if Nat.ofDigitChars 10 digits 0 < UInt32.size then
        .ok (.ofNat (Nat.ofDigitChars 10 digits 0))
      else .error .tooLarge := by
  have hm : readUnsigned (UInt32.size - 1) digits =
      readDigits (UInt32.size - 1) .tooLarge 0 digits := by
    cases digits with
    | nil => exact absurd rfl hn
    | cons c rest =>
      have hc : c ≠ '+' := by
        rintro rfl
        exact absurd (hd _ List.mem_cons_self) (by decide)
      unfold readUnsigned
      split
      · contradiction
      · rename_i heq
        exact absurd (List.cons.inj heq).1 hc
      · rfl
  rw [readUInt32, hm, readDigits_eq hd (Nat.zero_le _)]
  have hb : Nat.ofDigitChars 10 digits 0 ≤ UInt32.size - 1 ↔
      Nat.ofDigitChars 10 digits 0 < UInt32.size := Nat.le_sub_one_iff_lt (by decide)
  by_cases hs : Nat.ofDigitChars 10 digits 0 < UInt32.size
  · rw [if_pos hs, if_pos (hb.mpr hs)]
    rfl
  · rw [if_neg hs, if_neg fun hle => hs (hb.mp hle)]
    rfl

end Decimal

/-! ## Runs -/

namespace Command

open Text

theorem lexemes_cons_of_not_alpha {c : Char} (h : c.isAlpha = false) (s : List Char) :
    lexemes (c :: s) = lexemes s := by
  rw [lexemes, h]
  rfl

/-- What is no letter is skipped. -/
theorem lexemes_skip {s : List Char} (h : ∀ c ∈ s, c.isAlpha = false) (t : List Char) :
    lexemes (s ++ t) = lexemes t := by
  induction s with
  | nil => rfl
  | cons c s ih =>
    rw [List.cons_append, lexemes_cons_of_not_alpha (h c List.mem_cons_self),
      ih fun c hc => h c (List.mem_cons_of_mem _ hc)]

/-- A run ends where its property does. -/
theorem takeWhile_dropWhile_run {α : Type} {p : α → Bool} {run rest : List α}
    (hp : ∀ c ∈ run, p c = true) (hr : ∀ c ∈ rest.head?, p c = false) :
    (run ++ rest).takeWhile p = run ∧ (run ++ rest).dropWhile p = rest := by
  rw [List.takeWhile_append_of_pos hp, List.dropWhile_append_of_pos hp]
  cases rest with
  | nil => simp
  | cons c rest => simp [hr c rfl]

theorem head_dropWhile (f : Char → Bool) (s : List Char) :
    ∀ c ∈ (s.dropWhile f).head?, f c = false := by
  intro c hc
  have h := s.head?_dropWhile_not f
  rwa [Option.mem_def.mp hc] at h

/-- A text starts with the first character of its first part. -/
theorem head?_append_of_forall {p : Char → Bool} {s : List Char} (hs : s ≠ [])
    (hp : ∀ c ∈ s, p c = false) (t : List Char) : ∀ c ∈ (s ++ t).head?, p c = false := by
  intro c hc
  cases s with
  | nil => contradiction
  | cons a s =>
    obtain rfl := Option.some.inj hc
    exact hp a List.mem_cons_self

/-- A run of letters with a run of digits, perhaps after white space, is one lexeme. -/
theorem lexemes_run {code gap digits rest : List Char} (hc : code ≠ [])
    (ha : ∀ c ∈ code, c.isAlpha = true) (hg : Blank gap) (hd : digits ≠ [])
    (hn : ∀ c ∈ digits, c.isDigit = true) (hr : ∀ c ∈ rest.head?, c.isDigit = false) :
    lexemes (code ++ (gap ++ (digits ++ rest))) = ⟨code, digits⟩ :: lexemes rest := by
  have hgap : ∀ c ∈ gap ++ digits, c.isAlpha = false := fun c hm => by
    refine Bool.eq_false_iff.mpr fun h => ?_
    obtain ⟨hdc, hbc⟩ := not_digit_of_isAlpha h
    rcases List.mem_append.mp hm with hm | hm
    · rw [hg c hm] at hbc; cases hbc
    · rw [hn c hm] at hdc; cases hdc
  -- The letters end at the white space or the digits, the white space at the digits, and the digits
  -- at the rest.
  have hat := head?_append_of_forall (fun h => hd (List.append_eq_nil_iff.mp h).2) hgap rest
  rw [List.append_assoc] at hat
  have hbt := head?_append_of_forall hd (fun c hm => not_blank_of_isDigit (hn c hm)) rest
  cases code with
  | nil => contradiction
  | cons c code =>
    obtain ⟨hac, hacs⟩ := List.forall_mem_cons.mp ha
    obtain ⟨hat, had⟩ := takeWhile_dropWhile_run hacs hat
    obtain ⟨-, hbd⟩ := takeWhile_dropWhile_run hg hbt
    obtain ⟨hdt, hdd⟩ := takeWhile_dropWhile_run hn hr
    rw [List.cons_append, lexemes, if_pos hac]
    simp only [hat, had, hbd, hdt, hdd, List.isEmpty_iff, hd, ↓reduceIte]

end Command

end ControlDeck
