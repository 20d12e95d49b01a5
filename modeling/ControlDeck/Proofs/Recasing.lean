import ControlDeck.Proofs.Caching
import ControlDeck.Proofs.Scanning

/-!
# Letters of either case

Commands that differ in the case of their letters decode to the same, and a shared cache answers
the second one from what it entered for the first.

- **Upper case** (`Text.Uppercase.IsUpper`): the characters that are their own upper case. Whatever
  the upper case of a character is made of is such a character (`Text.upper_of_mem_upper`), so that
  the upper case of a text is its own upper case (`Text.uppercase_uppercase`).
- **The letter `L`** (`Text.mem_upper_L_iff`): the characters whose upper case has one.
- **Recased texts** (`Text.Recased`): texts that differ in the case of ASCII letters.
- `decoding_ignores_case`: two commands with one upper case, decoded one after the other.
-/

namespace ControlDeck

namespace Text

/-! ## Upper case -/

namespace Uppercase

/-- A code point is its own upper case: no expansion is for it, and no run covers it. -/
def IsUpper (n : Nat) : Prop := expansions.lookup n = none ∧ ∀ r ∈ runs, ¬ r.Covers n

instance (n : Nat) : Decidable (IsUpper n) := by
  unfold IsUpper; infer_instance

/-- Whether the upper case of one run is clear of the other run: it ends before the other one
begins, or begins where that has ended, or the one has even and the other odd code points. -/
def Run.isClearOf (r s : Run) : Bool :=
  (r.apply r.last).blt s.first || s.last.blt r.image ||
    (s.stride.beq 2 && (r.stride.beq 2 || r.first.beq r.last) &&
      ((r.image + s.first) % 2).beq 1)

theorem Run.not_covers_of_isClearOf {r s : Run} (h : r.isClearOf s = true) {n : Nat}
    (hn : r.Covers n) : ¬ s.Covers (r.apply n) := by
  rintro ⟨hf, hl, hm⟩
  obtain ⟨hrf, hrl, hrm⟩ := hn
  simp only [isClearOf, Bool.or_eq_true, Bool.and_eq_true, Nat.blt_eq, Nat.beq_eq] at h
  unfold apply at h hf hl hm
  rcases h with (h | h) | ⟨⟨hs, hr⟩, hp⟩
  · omega
  · omega
  · rw [hs] at hm
    rcases hr with hr | hr
    · rw [hr] at hrm
      omega
    · omega

/-- What a run turns its characters into is covered by no run, and expanded by nothing. -/
theorem isUpper_apply {r : Run} (hr : r ∈ runs) {n : Nat} (hn : r.Covers n) :
    IsUpper (r.apply n) := by
  have hc : (runs.all fun r => runs.all r.isClearOf) = true := by decide +kernel
  have he : (runs.all fun r => expansions.all fun e =>
      e.1.blt r.image || (r.apply r.last).blt e.1) = true := by decide +kernel
  simp only [List.all_eq_true, Bool.or_eq_true, Nat.blt_eq] at hc he
  refine ⟨?_, fun s hs => Run.not_covers_of_isClearOf (hc r hr s hs) hn⟩
  rw [List.lookup_eq_none_iff]
  intro e hm
  have hne : r.apply n ≠ e.1 := by
    have h := he r hr e hm
    obtain ⟨hf, hl, -⟩ := hn
    unfold Run.apply at h ⊢
    omega
  exact bne_iff_ne.mpr hne

/-- What an expansion is made of is its own upper case. -/
theorem isUpper_of_mem_expansion : ∀ e ∈ expansions, ∀ n ∈ e.2, IsUpper n := by decide +kernel

end Uppercase

open Uppercase

/-- The upper case of a character comes from an expansion or from a run, or is the character. -/
theorem upper_cases (c : Char) :
    (∃ e ∈ expansions, e.1 = c.toNat ∧ upper c = e.2.map Char.ofNat) ∨
      (∃ r ∈ runs, r.Covers c.toNat ∧ upper c = [Char.ofNat (r.apply c.toNat)]) ∨
      IsUpper c.toNat ∧ upper c = [c] := by
  unfold upper
  cases hl : expansions.lookup c.toNat with
  | some codes =>
    obtain ⟨left, right, he, -⟩ := List.lookup_eq_some_iff.mp hl
    exact .inl ⟨(c.toNat, codes), by simp [he], rfl, rfl⟩
  | none =>
    cases hr : runs.find? (fun r => decide (r.Covers c.toNat)) with
    | some r =>
      exact .inr (.inl ⟨r, List.mem_of_find?_eq_some hr, by simpa using List.find?_some hr, rfl⟩)
    | none => exact .inr (.inr ⟨⟨hl, by simpa using hr⟩, rfl⟩)

theorem upper_of_isUpper {c : Char} (h : IsUpper c.toNat) : upper c = [c] := by
  rcases upper_cases c with ⟨e, he, hc, -⟩ | ⟨r, hr, hc, -⟩ | ⟨-, hc⟩
  · exact absurd hc.symm (bne_iff_ne.mp (List.lookup_eq_none_iff.mp h.1 e he))
  · exact absurd hc (h.2 r hr)
  · exact hc

theorem toNat_ofNat (n : Nat) : (Char.ofNat n).toNat = if n.isValidChar then n else 0 := by
  by_cases h : n.isValidChar
  · rw [if_pos h, Char.ofNat, dif_pos h]
    rfl
  · rw [if_neg h, Char.ofNat, dif_neg h]
    rfl

/-- The character of a code point that is its own upper case is so too. -/
theorem upper_ofNat {n : Nat} (h : IsUpper n) : upper (Char.ofNat n) = [Char.ofNat n] := by
  refine upper_of_isUpper ?_
  rw [toNat_ofNat]
  split
  · exact h
  · decide +kernel

/-- Whatever an upper case is made of is its own upper case. -/
theorem upper_of_mem_upper {c d : Char} (h : d ∈ upper c) : upper d = [d] := by
  rcases upper_cases c with ⟨e, he, -, hu⟩ | ⟨r, hr, hc, hu⟩ | ⟨-, hu⟩
  · rw [hu] at h
    obtain ⟨n, hn, rfl⟩ := List.mem_map.mp h
    exact upper_ofNat (isUpper_of_mem_expansion e he n hn)
  · rw [hu] at h
    obtain rfl := List.mem_singleton.mp h
    exact upper_ofNat (isUpper_apply hr hc)
  · rw [hu] at h
    obtain rfl := List.mem_singleton.mp h
    exact hu

/-- The upper case of a text is its own upper case. -/
theorem uppercase_uppercase (s : List Char) : uppercase (uppercase s) = uppercase s := by
  refine uppercase_eq_self fun c hc => ?_
  obtain ⟨d, -, hd⟩ := List.mem_flatMap.mp hc
  exact upper_of_mem_upper hd

/-! ## The letter `L` -/

/-- The only characters whose upper case has an `L` are the two letters and two ligatures. -/
theorem mem_upper_L_iff {c : Char} :
    'L' ∈ upper c ↔ c = 'L' ∨ c = 'l' ∨ c = '\ufb02' ∨ c = '\ufb04' := by
  have hofNat : ∀ {n}, 'L' = Char.ofNat n → n = 'L'.toNat := fun {n} h => by
    have hn := toNat_ofNat n
    rw [← h] at hn
    split at hn
    · exact hn.symm
    · cases hn
  have he : ∀ e ∈ expansions, 'L'.toNat ∈ e.2 → e.1 = 0xFB02 ∨ e.1 = 0xFB04 := by decide +kernel
  have hr : ∀ r ∈ runs, r.image ≤ 'L'.toNat → 'L'.toNat ≤ r.apply r.last →
      r.first = 0x61 ∧ r.image = 0x41 := by decide +kernel
  have hc : ∀ {n}, c.toNat = n → c = Char.ofNat n := fun {n} h => by rw [← h, Char.ofNat_toNat]
  constructor
  · intro h
    rcases upper_cases c with ⟨e, hm, hn, hu⟩ | ⟨r, hm, ⟨hf, hl, -⟩, hu⟩ | ⟨-, hu⟩
    · rw [hu] at h
      obtain ⟨n, hmn, hln⟩ := List.mem_map.mp h
      rcases he e hm (hofNat hln.symm ▸ hmn) with h | h
      · exact .inr (.inr (.inl (hc (hn.symm.trans h))))
      · exact .inr (.inr (.inr (hc (hn.symm.trans h))))
    · rw [hu] at h
      have ha : r.image + (c.toNat - r.first) = 'L'.toNat := hofNat (List.mem_singleton.mp h)
      have hi := hr r hm (by omega) (by unfold Run.apply; omega)
      rw [hi.1, hi.2] at ha
      have hn : c.toNat = 'l'.toNat := by simp only [Char.reduceToNat] at ha ⊢; omega
      exact .inr (.inl (Char.toNat_inj.mp hn))
    · rw [hu] at h
      exact .inl (List.mem_singleton.mp h).symm
  · rintro (rfl | rfl | rfl | rfl) <;> decide +kernel

/-! ## Recased texts -/

/-- One character is the other one, or both are the same ASCII letter in either case. -/
def SameLetter (c d : Char) : Prop :=
  c = d ∨ c.isAlpha = true ∧ d.isAlpha = true ∧ c.toUpper = d.toUpper

instance (c d : Char) : Decidable (SameLetter c d) := by
  unfold SameLetter; infer_instance

/-- Two texts that differ in the case of ASCII letters alone. -/
def Recased (s t : List Char) : Prop := List.Forall₂ SameLetter s t

instance (s t : List Char) : Decidable (Recased s t) := by
  unfold Recased; infer_instance

theorem Recased.uppercase_eq {s t : List Char} (h : Recased s t) : uppercase t = uppercase s := by
  induction h with
  | nil => rfl
  | @cons c d s t hc _ ih =>
    have hu : upper d = upper c := by
      rcases hc with rfl | ⟨hc, hd, he⟩
      · rfl
      · rw [upper_of_ascii (lt_of_isAlpha hc), upper_of_ascii (lt_of_isAlpha hd), he]
    rw [uppercase_cons, uppercase_cons, hu, ih]

end Text

namespace Command

/-! ## Decoding -/

theorem normalized_normalized (command : String) :
    normalized (normalized command) = normalized command := by
  unfold normalized
  rw [String.toList_ofList, Text.uppercase_uppercase]

/-- A command is for an encoder exactly if its upper case has an `L`. -/
theorem isEncoder_decodeFresh (command : String) :
    (decodeFresh command).isEncoder = true ↔ 'L' ∈ (normalized command).toList := by
  rw [decodeFresh_eq, decodeKey]
  split
  · rename_i h
    exact iff_of_true rfl h
  · rename_i h
    exact iff_of_false nofun h

/-- The upper case of a command has an `L` exactly if the command has an `L` of either case, or a
ligature with one. -/
theorem mem_normalized_L_iff {command : String} :
    'L' ∈ (normalized command).toList ↔
      ∃ c ∈ command.toList, c = 'L' ∨ c = 'l' ∨ c = '\ufb02' ∨ c = '\ufb04' := by
  unfold normalized Text.uppercase
  simp only [String.toList_ofList, List.mem_flatMap, Text.mem_upper_L_iff]

/-- Decoding ignores case. After any history, with `s` decoded through one decoder and then `t`
through one that shares its cache:

- if the upper cases of `s` and `t` are the same, both get the same descriptor, the second from the
  cache, which then is as it was but for one more hit;
- that descriptor is for an encoder exactly if the upper case has an `L`, be it from an `L` of
  either case or from a ligature;
- texts that differ in the case of ASCII letters have the same upper case, and so has the upper case
  itself. -/
theorem decoding_ignores_case {trace : List Exchange} {p : Pool} (h : History trace p)
    {first second : Nat} (hf : first < p.decoders.owners.size)
    (he : p.decoders.cacheIndex second = p.decoders.cacheIndex first) (s : String) :
    let i := p.decoders.cacheIndex first
    let once := p.apply (.decode first s)
    (∀ t, normalized t = normalized s →
      let again := once.2.apply (.decode second t)
      let c := once.2.cacheAt i
      ∃ d, once.1 = some d ∧ again.1 = some d ∧
        (d.isEncoder = true ↔ 'L' ∈ (normalized s).toList) ∧
        again.2.cacheAt i = { c with hits := c.hits + 1 }) ∧
    ('L' ∈ (normalized s).toList ↔
      ∃ c ∈ s.toList, c = 'L' ∨ c = 'l' ∨ c = '\ufb02' ∨ c = '\ufb04') ∧
    (∀ t, Text.Recased s.toList t.toList → normalized t = normalized s) ∧
    normalized (normalized s) = normalized s := by
  intro i once
  have hk := h.kept
  have hs : (p.cacheAt i).Sound := (hk.ledgers i).sound
  have ho : once = _ := p.apply_decode_value first s rfl
  have hc : once.2.cacheAt i = ((p.cacheAt i).decode s).value.2 := by
    rw [ho, Pool.cacheAt_setCache, if_pos ⟨rfl, hk.owners first hf⟩]
  refine ⟨fun t ht => ?_, mem_normalized_L_iff, fun t ht => ?_, normalized_normalized s⟩
  · have hi : once.2.decoders.cacheIndex second = i := by
      rw [ho]
      exact he
    have ha := once.2.apply_decode_value second t hi
    have hd : (once.2.cacheAt i).entries[normalized t]? = some (decodeFresh s) := by
      rw [hc, ht]
      exact hs.getElem?_decode_self s
    rw [Cache.decode_of_some hd] at ha
    have hsize : i < once.2.decoders.caches.size := by
      rw [ho, Pool.size_setCache]
      exact hk.owners first hf
    have hd' : once.1 = some (decodeFresh s) := by rw [ho, hs.decode]
    have hx := isEncoder_decodeFresh s
    -- the descriptor stands for itself from here on
    generalize decodeFresh s = d at ha hd' hx
    refine ⟨d, hd', congrArg Prod.fst ha, hx, ?_⟩
    rw [ha, Pool.cacheAt_setCache, if_pos ⟨rfl, hsize⟩]
  · unfold normalized
    rw [ht.uppercase_eq]

/-- A ligature and two letters of either case, decoded through a decoder and then its clone. -/
theorem decoding_ignores_case_ligature :
    let p := ({} : Pool).follow [.create, .clone 0, .decode 1 "d1b2"]
    let once := p.apply (.decode 0 "d1\ufb023r4")
    let again := once.2.apply (.decode 1 "D1fl3R4")
    once.1 = again.1 ∧ (∀ d ∈ again.1, d.isEncoder = true) ∧
      (again.2.cacheAt 0).hits = 1 ∧ (again.2.cacheAt 0).misses = 2 ∧
      (again.2.cacheAt 0).size = 2 ∧ normalized "d1b2" = normalized "D1B2" := by
  intro p once again
  have hc : ({} : Pool).canFollow [.create, .clone 0, .decode 1 "d1b2"] = true := by decide +kernel
  have h := History.nil.follow hc
  have hf : 0 < p.decoders.owners.size := by decide +kernel
  have he : p.decoders.cacheIndex 1 = p.decoders.cacheIndex 0 := by decide +kernel
  obtain ⟨ht, hl, -, -⟩ := decoding_ignores_case h hf he "d1\ufb023r4"
  obtain ⟨-, -, hr, -⟩ := decoding_ignores_case h hf he "D1B2"
  obtain ⟨d, hd, ha, hx, hn⟩ := ht "D1fl3R4" (by decide +kernel)
  have hin : 'L' ∈ (normalized "d1\ufb023r4").toList := hl.mpr ⟨'\ufb02', by decide +kernel⟩
  have hi : p.decoders.cacheIndex 0 = 0 := by decide +kernel
  rw [hi] at hn
  have hcache : again.2.cacheAt 0 =
      { once.2.cacheAt 0 with hits := (once.2.cacheAt 0).hits + 1 } := hn
  have hone : (once.2.cacheAt 0).hits = 0 ∧ (once.2.cacheAt 0).misses = 2 ∧
      (once.2.cacheAt 0).size = 2 := by decide +kernel
  have henc : ∀ e ∈ again.1, e.isEncoder = true := by
    intro e hm
    obtain rfl : d = e := Option.some.inj (ha.symm.trans hm)
    exact hx.mpr hin
  rw [hcache]
  exact ⟨hd.trans ha.symm, henc, congrArg (· + 1) hone.1, hone.2.1, hone.2.2,
    hr "d1b2" (by decide +kernel)⟩

end Command

end ControlDeck
