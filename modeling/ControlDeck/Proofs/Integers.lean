import ControlDeck.Proofs.Scanning

/-!
# The texts of a whole number

- **Texts** (`Digits`, `Unsigned`, `Signed`): decimal digits, with zeros in front or not, behind a
  sign or none. The text that a number is printed as is one of them (`unsigned_toString`,
  `signed_toString`).
- **Reading** (`readUInt32_eq_ok_iff`, `readInt32_eq_ok_iff`): a text is read as a number of 32 bits
  if it is one of its texts, and not otherwise.
-/

namespace ControlDeck.Decimal

/-! ## Texts -/

/-- The texts of a number without a sign. -/
structure Digits (n : Nat) (s : List Char) : Prop where
  ne_nil : s ≠ []
  isDigit : ∀ c ∈ s, c.isDigit = true
  value : Nat.ofDigitChars 10 s 0 = n

/-- The texts of a number from `0` on, with a plus in front or without. -/
inductive Unsigned (n : Nat) : List Char → Prop
  | plain {s : List Char} (h : Digits n s) : Unsigned n s
  | plus {s : List Char} (h : Digits n s) : Unsigned n ('+' :: s)

/-- The texts of a number with a sign; that of zero may be a minus too. -/
inductive Signed : Int → List Char → Prop
  | plain {n : Nat} {s : List Char} (h : Digits n s) : Signed n s
  | plus {n : Nat} {s : List Char} (h : Digits n s) : Signed n ('+' :: s)
  | minus {n : Nat} {s : List Char} (h : Digits n s) : Signed (-n) ('-' :: s)

section

variable {n bound : Nat} {i : Int} {past : ReadError} {s : List Char}

theorem digits_toDigits (n : Nat) : Digits n (Nat.toDigits 10 n) where
  ne_nil := Nat.toDigits_ne_nil
  isDigit _ := Nat.isDigit_of_mem_toDigits (by decide) (by decide)
  value := Nat.ofDigitChars_ten_toDigits

/-- The text that a number is printed as is one of its texts. -/
theorem unsigned_toString (n : Nat) : Unsigned n (toString n).toList := by
  rw [Nat.toString_eq_repr, Nat.repr, String.toList_ofList]
  exact .plain (digits_toDigits n)

theorem signed_toString (i : Int) : Signed i (toString i).toList := by
  rw [Int.toString_eq_repr, Int.repr_eq_if]
  split
  · rename_i h
    rw [Nat.repr, String.toList_ofList]
    have := Signed.plain (digits_toDigits i.toNat)
    rwa [Int.toNat_of_nonneg h] at this
  · have := Signed.minus (digits_toDigits (-i).toNat)
    rw [Int.toNat_of_nonneg (by omega), Int.neg_neg] at this
    rwa [Nat.repr, String.toList_append, show "-".toList = ['-'] from rfl, String.toList_ofList,
      List.singleton_append]

/-- A sign is no digit. -/
theorem not_digits_sign {c : Char} (hc : c.isDigit = false) : ¬ Digits n (c :: s) := fun h => by
  rw [h.isDigit c List.mem_cons_self] at hc
  cases hc

/-! ## Reading -/

theorem readDigits_isDigit {m : Nat} (h : readDigits bound past m s = .ok n) :
    ∀ c ∈ s, c.isDigit = true := by
  induction s generalizing m with
  | nil => nofun
  | cons c s ih =>
    rw [readDigits] at h
    split at h
    · rename_i hc
      dsimp only at h
      split at h
      · exact List.forall_mem_cons.mpr ⟨hc, ih h⟩
      · cases h
    · cases h

theorem readMagnitude_eq_ok_iff : readMagnitude bound past s = .ok n ↔ Digits n s ∧ n ≤ bound := by
  cases s with
  | nil => exact iff_of_false nofun fun h => h.1.ne_nil rfl
  | cons c s =>
    rw [show readMagnitude bound past (c :: s) = readDigits bound past 0 (c :: s) from rfl]
    constructor
    · intro h
      have hd := readDigits_isDigit h
      rw [readDigits_eq hd (Nat.zero_le _)] at h
      split at h
      · obtain rfl := Except.ok.inj h
        exact ⟨⟨List.cons_ne_nil _ _, hd, rfl⟩, ‹_›⟩
      · cases h
    · rintro ⟨⟨-, hd, rfl⟩, hb⟩
      rw [readDigits_eq hd (Nat.zero_le _), if_pos hb]

theorem readUnsigned_eq_ok_iff : readUnsigned bound s = .ok n ↔ Unsigned n s ∧ n ≤ bound := by
  unfold readUnsigned
  split
  · refine iff_of_false nofun fun ⟨h, _⟩ => ?_
    cases h with
    | plain h => exact h.ne_nil rfl
  · rw [readMagnitude_eq_ok_iff]
    refine and_congr_left fun _ => ⟨.plus, fun h => ?_⟩
    cases h with
    | plain h => exact absurd h (not_digits_sign (by decide))
    | plus h => exact h
  · rename_i hp
    rw [readMagnitude_eq_ok_iff]
    refine and_congr_left fun _ => ⟨.plain, fun h => ?_⟩
    cases h with
    | plain h => exact h
    | plus h => exact absurd rfl (hp _)

theorem map_eq_ok_iff {ε α β : Type} {f : α → β} {x : Except ε α} {b : β} :
    x.map f = .ok b ↔ ∃ a, x = .ok a ∧ f a = b := by
  cases x <;> simp [Except.map]

theorem signed_plus_iff : Signed i ('+' :: s) ↔ ∃ n, Digits n s ∧ Int.ofNat n = i := by
  constructor
  · intro h
    cases h with
    | plain h => exact absurd h (not_digits_sign (by decide))
    | plus h => exact ⟨_, h, rfl⟩
  · rintro ⟨n, h, rfl⟩
    exact .plus h

theorem signed_minus_iff : Signed i ('-' :: s) ↔ ∃ n, Digits n s ∧ -Int.ofNat n = i := by
  constructor
  · intro h
    cases h with
    | plain h => exact absurd h (not_digits_sign (by decide))
    | minus h => exact ⟨_, h, rfl⟩
  · rintro ⟨n, h, rfl⟩
    exact .minus h

theorem signed_plain_iff (hp : ∀ t, s ≠ '+' :: t) (hm : ∀ t, s ≠ '-' :: t) :
    Signed i s ↔ ∃ n, Digits n s ∧ Int.ofNat n = i := by
  constructor
  · intro h
    cases h with
    | plain h => exact ⟨_, h, rfl⟩
    | plus h => exact absurd rfl (hp _)
    | minus h => exact absurd rfl (hm _)
  · rintro ⟨n, h, rfl⟩
    exact .plain h

/-- A bound on the digits is one on the number, whatever the sign makes of them. -/
theorem map_readMagnitude_eq_ok_iff {f : Nat → Int} {low high : Int}
    (hf : ∀ n, n ≤ bound ↔ low ≤ f n ∧ f n ≤ high) :
    (readMagnitude bound past s).map f = .ok i ↔
      (∃ n, Digits n s ∧ f n = i) ∧ low ≤ i ∧ i ≤ high := by
  simp only [map_eq_ok_iff, readMagnitude_eq_ok_iff]
  constructor
  · rintro ⟨n, ⟨h, hb⟩, rfl⟩
    exact ⟨⟨n, h, rfl⟩, (hf n).mp hb⟩
  · rintro ⟨⟨n, h, rfl⟩, hb⟩
    exact ⟨n, ⟨h, (hf n).mpr hb⟩, rfl⟩

theorem readSigned_eq_ok_iff :
    readSigned bound s = .ok i ↔ Signed i s ∧ -(bound + 1 : Int) ≤ i ∧ i ≤ bound := by
  unfold readSigned
  split
  · refine iff_of_false nofun fun ⟨h, _⟩ => ?_
    cases h with
    | plain h => exact h.ne_nil rfl
  · rw [signed_plus_iff]
    exact map_readMagnitude_eq_ok_iff fun n => by simp; omega
  · rw [signed_minus_iff]
    exact map_readMagnitude_eq_ok_iff fun n => by simp; omega
  · rename_i hp hm
    rw [signed_plain_iff (fun t h => hp t h) fun t h => hm t h]
    exact map_readMagnitude_eq_ok_iff fun n => by simp; omega

end

/-- A text is read as a number of 32 bits if it is one of its texts. -/
theorem readUInt32_eq_ok_iff {n : UInt32} {s : List Char} :
    readUInt32 s = .ok n ↔ Unsigned n.toNat s := by
  rw [readUInt32, map_eq_ok_iff]
  constructor
  · rintro ⟨m, h, rfl⟩
    obtain ⟨hm, hb⟩ := readUnsigned_eq_ok_iff.mp h
    rwa [UInt32.toNat_ofNat_of_lt' (Nat.lt_of_le_pred (by decide) hb)]
  · intro h
    exact ⟨n.toNat, readUnsigned_eq_ok_iff.mpr ⟨h, Nat.le_pred_of_lt n.toNat_lt⟩,
      UInt32.ofNat_toNat⟩

theorem readInt32_eq_ok_iff {n : Int32} {s : List Char} :
    readInt32 s = .ok n ↔ Signed n.toInt s := by
  rw [readInt32, map_eq_ok_iff]
  constructor
  · rintro ⟨i, h, rfl⟩
    obtain ⟨hi, hl, hh⟩ := readSigned_eq_ok_iff.mp h
    rwa [Int32.toInt_ofInt_of_le hl (Int.lt_add_one_of_le hh)]
  · intro h
    exact ⟨n.toInt, readSigned_eq_ok_iff.mpr ⟨h, n.minValue_le_toInt, n.toInt_le⟩,
      Int32.ofInt_toInt n⟩

end ControlDeck.Decimal
