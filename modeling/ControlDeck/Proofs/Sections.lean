import ControlDeck.Settings
import ControlDeck.Proofs.Keys
import Mathlib.Data.List.Nodup

/-!
# Sections

What a section makes of a state, from the value that it is read from. A section gives each of its
settings a value or none, and nothing else that the value holds has any influence.

- **Given values** (`Value.at?`): what a section gives a setting, under its key or in its place.
- **Settings** (`Setting.Governs`, `Setting.Spares`): a setting makes a part of the state what its
  value says, or leaves that part alone. If one setting of a section governs a part and the others
  spare it (`Section.Assigns`), the part becomes what the section gives it. A section is a setting
  of the one around it, so this holds at every level (`Section.Assigns.governs_setting`).
- **Accepted values** (`Setting.Takes`, `Section.takes_setting`): a section takes a value in every
  state if its settings take what they are given.
- **Unread content** (`Section.Alike`): values that differ in nothing that is read give every
  setting the same (`Section.Alike.at?_eq`).
-/

namespace ControlDeck

open Toml (Value Entries)

/-! ## Given values -/

namespace Toml

/-- Whether a value may stand where there should be a section. -/
def Value.isSection : Value → Bool
  | .table .. | .array _ | .tables _ | .datetime => true
  | _ => false

/-- The elements of an array, however it is written. -/
def Value.elements? : Value → Option (List Value)
  | .array elements | .tables elements => some elements
  | _ => none

/-- What a section gives a setting: in a table the value under its key, in an array the one in its
place. -/
def Value.at? (key : String) (place : Nat) : Value → Option Value
  | .table _ entries => entries.lookup key
  | .array elements | .tables elements => elements[place]?
  | _ => none

end Toml

/-! ## Settings of a state -/

theorem bind_eq_ok_iff {ε α β : Type} {x : Except ε α} {f : α → Except ε β} {b : β} :
    (x >>= f) = .ok b ↔ ∃ a, x = .ok a ∧ f a = .ok b := by
  cases x <;> simp [bind, Except.bind]

section

variable {σ α β : Type} {get : σ → α} {means : Value → α → α → Prop} {s s' : σ} {name key : String}
  {place : Nat} {entries : Entries} {elements : List Value} {v : Value} {st : Setting σ}
  {settings : List (Setting σ)} {sec : Section σ}

namespace Setting

/-- A setting that leaves a part of the state as it is. -/
def Spares (st : Setting σ) (get : σ → α) : Prop :=
  ∀ v s s', st.set v s = .ok s' → get s' = get s

/-- A setting that makes a part of the state what its value says. -/
def Governs (st : Setting σ) (get : σ → α) (means : Value → α → α → Prop) : Prop :=
  ∀ v s s', v.Distinct → st.set v s = .ok s' → means v (get s) (get s')

/-- A setting that takes a value, in every state. -/
def Takes (st : Setting σ) (v : Value) : Prop := ∀ s, ∃ s', st.set v s = .ok s'

/-! A setting without settings of its own reads its value and puts it in its place. -/

variable {read : Value → Except SettingError β} {put : σ → β → σ}

theorem spares_leaf (h : ∀ s x, get (put s x) = get s) :
    Spares ⟨key, fun v s => do return put s (← read v)⟩ get := by
  intro v s s' hs
  obtain ⟨x, -, hx⟩ := bind_eq_ok_iff.mp hs
  cases hx
  exact h s x

theorem governs_leaf {means : Value → α → Prop}
    (h : ∀ v s x, read v = .ok x → means v (get (put s x))) :
    Governs ⟨key, fun v s => do return put s (← read v)⟩ get fun v _ x => means v x := by
  intro v s s' _ hs
  obtain ⟨x, hr, hx⟩ := bind_eq_ok_iff.mp hs
  cases hx
  exact h v s x hr

theorem takes_leaf {x : β} (h : read v = .ok x) :
    Takes ⟨key, fun v s => do return put s (← read v)⟩ v :=
  fun s => ⟨put s x, bind_eq_ok_iff.mpr ⟨x, h, rfl⟩⟩

end Setting

namespace Section

theorem readTable_cons : sec.readTable ((key, v) :: entries) s =
    (sec.settings.find? (·.key == key)).elim (.ok s) (·.set v s) >>= sec.readTable entries := by
  rw [readTable, List.foldlM_cons]
  dsimp only
  cases sec.settings.find? (·.key == key) <;> rfl

theorem readArray_cons :
    readArray ⟨name, st :: settings⟩ (v :: elements) s =
      st.set v s >>= readArray ⟨name, settings⟩ elements := by
  rw [readArray, List.zip_cons_cons, List.foldlM_cons]
  rfl

/-- The first entry of a table is set by the setting with its key, or left out if there is none. -/
theorem readTable_cases (h : sec.readTable ((key, v) :: entries) s = .ok s') :
    ∃ mid, sec.readTable entries mid = .ok s' ∧
      ((∀ st ∈ sec.settings, st.key ≠ key) ∧ mid = s ∨
        ∃ st ∈ sec.settings, st.key = key ∧ st.set v s = .ok mid) := by
  rw [readTable_cons, bind_eq_ok_iff] at h
  obtain ⟨mid, hm, h⟩ := h
  refine ⟨mid, h, ?_⟩
  cases hf : sec.settings.find? (·.key == key) with
  | none =>
    rw [hf] at hm
    refine .inl ⟨fun st hst he => ?_, (Except.ok.inj hm).symm⟩
    exact List.find?_eq_none.mp hf st hst (beq_iff_eq.mpr he)
  | some st =>
    rw [hf] at hm
    exact .inr ⟨st, List.mem_of_find?_eq_some hf, eq_of_beq (List.find?_some hf :), hm⟩

/-! ### Spared parts -/

theorem get_readTable (h : ∀ st ∈ sec.settings, st.Spares get)
    (hr : sec.readTable entries s = .ok s') : get s' = get s := by
  induction entries generalizing s with
  | nil =>
    cases hr
    rfl
  | cons e entries ih =>
    obtain ⟨mid, ht, ⟨-, rfl⟩ | ⟨st, hst, -, hm⟩⟩ := readTable_cases hr
    · exact ih ht
    · rw [ih ht]
      exact h st hst _ s mid hm

theorem get_readArray (h : ∀ st ∈ settings, st.Spares get)
    (hr : readArray ⟨name, settings⟩ elements s = .ok s') : get s' = get s := by
  induction settings generalizing elements s with
  | nil =>
    cases hr
    rfl
  | cons st settings ih =>
    cases elements with
    | nil =>
      cases hr
      rfl
    | cons v elements =>
      rw [readArray_cons, bind_eq_ok_iff] at hr
      obtain ⟨mid, hm, hr⟩ := hr
      rw [ih (fun st hst => h st (List.mem_cons_of_mem _ hst)) hr]
      exact h st List.mem_cons_self v s mid hm

/-- A section spares what all its settings spare. -/
theorem spares_setting (h : ∀ st ∈ sec.settings, st.Spares get) :
    (sec.setting name).Spares get := by
  intro v s s' hr
  cases v with
  | table origin entries => exact get_readTable h hr
  | array elements => exact get_readArray h hr
  | tables elements => exact get_readArray h hr
  | datetime =>
    cases hr
    rfl
  | _ => cases hr

/-! ### Governed parts -/

/-- Of the settings of a section, the one with this key and in this place governs a part of the
state, and all others spare it. -/
structure Assigns (sec : Section σ) (key : String) (place : Nat) (get : σ → α)
    (means : Value → α → α → Prop) : Prop where
  keys : (sec.settings.map (·.key)).Nodup
  governs : ∃ st, sec.settings[place]? = some st ∧ st.key = key ∧ st.Governs get means
  spares : ∀ st ∈ sec.settings, st.key ≠ key → st.Spares get

/-- In a table the value under the key counts, wherever it stands. -/
theorem Assigns.readTable (h : sec.Assigns key place get means) (hd : entries.Distinct)
    (hr : sec.readTable entries s = .ok s') :
    (entries.lookup key).elim (get s' = get s) (means · (get s) (get s')) := by
  induction entries generalizing s with
  | nil =>
    cases hr
    rfl
  | cons e entries ih =>
    obtain ⟨k, v⟩ := e
    obtain ⟨hn, hk⟩ := List.nodup_cons.mp hd.keys
    obtain ⟨hv, hvs⟩ := List.forall_mem_cons.mp hd.values
    obtain ⟨mid, hr, hm⟩ := readTable_cases hr
    have ht := ih ⟨hk, hvs⟩ hr
    by_cases he : key = k
    · subst he
      obtain ⟨st, hst, hkey, hg⟩ := h.governs
      have hmem : st ∈ sec.settings := List.mem_of_getElem? hst
      have hset : st.set v s = .ok mid := by
        obtain ⟨hno, -⟩ | ⟨st', hst', hkey', hm⟩ := hm
        · exact absurd hkey (hno st hmem)
        · rwa [List.inj_on_of_nodup_map h.keys hmem hst' (hkey.trans hkey'.symm)]
      have hs := hg v s mid hv hset
      -- The key does not come again, so the other entries leave the part alone.
      rw [Entries.lookup_eq_none.mpr hn] at ht
      rw [List.lookup_cons_self]
      rwa [← show get s' = get mid from ht] at hs
    · have hs : get mid = get s := by
        obtain ⟨-, rfl⟩ | ⟨st, hst, rfl, hm⟩ := hm
        · rfl
        · exact h.spares st hst (Ne.symm he) v s mid hm
      rw [List.lookup_cons, beq_eq_false_iff_ne.mpr he, ← hs]
      exact ht

/-- In an array the element in the place of the setting counts. -/
theorem Assigns.readArray (h : Assigns ⟨name, settings⟩ key place get means)
    (hd : ∀ v ∈ elements, v.Distinct) (hr : readArray ⟨name, settings⟩ elements s = .ok s') :
    elements[place]?.elim (get s' = get s) (means · (get s) (get s')) := by
  induction settings generalizing place elements s with
  | nil =>
    obtain ⟨st, hst, -⟩ := h.governs
    cases hst
  | cons st settings ih =>
    cases elements with
    | nil =>
      cases hr
      rfl
    | cons v elements =>
      obtain ⟨hv, hd⟩ := List.forall_mem_cons.mp hd
      obtain ⟨hn, hk⟩ := List.nodup_cons.mp h.keys
      obtain ⟨st', hst, hkey, hg⟩ := h.governs
      rw [readArray_cons, bind_eq_ok_iff] at hr
      obtain ⟨mid, hm, hr⟩ := hr
      cases place with
      | zero =>
        obtain rfl := Option.some.inj hst
        have ht : get s' = get mid := by
          refine get_readArray (fun st'' hst'' => h.spares st'' ?_ ?_) hr
          · exact List.mem_cons_of_mem _ hst''
          · exact hkey ▸ ne_of_mem_of_not_mem (List.mem_map_of_mem hst'') hn
        have hs := hg v s mid hv hm
        rwa [← ht] at hs
      | succ place =>
        have hmem : st' ∈ settings := List.mem_of_getElem? hst
        have hs : get mid = get s := by
          refine h.spares st List.mem_cons_self ?_ v s mid hm
          exact hkey ▸ (ne_of_mem_of_not_mem (List.mem_map_of_mem hmem) hn).symm
        have ha : Assigns ⟨name, settings⟩ key place get means :=
          ⟨hk, ⟨st', hst, hkey, hg⟩, fun st'' h'' => h.spares st'' (List.mem_cons_of_mem _ h'')⟩
        have ht := ih ha hd hr
        rw [hs] at ht
        exact ht

/-- A section within another one governs what it assigns, by what it gives the setting. -/
theorem Assigns.governs_setting (h : sec.Assigns key place get means) :
    (sec.setting name).Governs get
      fun v old new => (v.at? key place).elim (new = old) (means · old new) := by
  intro v s s' hd hr
  cases hd with
  | table keys values => exact h.readTable ⟨keys, values⟩ hr
  | array hd => exact h.readArray hd hr
  | tables hd => exact h.readArray hd hr
  | datetime =>
    cases hr
    rfl
  | _ => cases hr

/-! ### Accepted values -/

theorem isSection_of_set (h : (sec.setting name).set v s = .ok s') : v.isSection = true := by
  cases v with
  | table | array | tables | datetime => rfl
  | _ => cases h

theorem exists_readTable (h : ∀ st ∈ sec.settings, ∀ w, (st.key, w) ∈ entries → st.Takes w)
    (s : σ) : ∃ s', sec.readTable entries s = .ok s' := by
  induction entries generalizing s with
  | nil => exact ⟨s, rfl⟩
  | cons e entries ih =>
    obtain ⟨key, v⟩ := e
    have ht := ih fun st hst w hw => h st hst w (List.mem_cons_of_mem _ hw)
    cases hf : sec.settings.find? (·.key == key) with
    | none =>
      obtain ⟨s', hs'⟩ := ht s
      refine ⟨s', ?_⟩
      rw [readTable_cons, hf]
      exact hs'
    | some st =>
      obtain rfl : st.key = key := eq_of_beq (List.find?_some hf :)
      obtain ⟨mid, hm⟩ := h st (List.mem_of_find?_eq_some hf) v List.mem_cons_self s
      obtain ⟨s', hs'⟩ := ht mid
      refine ⟨s', ?_⟩
      rw [readTable_cons, hf]
      exact bind_eq_ok_iff.mpr ⟨mid, hm, hs'⟩

theorem exists_readArray
    (h : ∀ (i : Nat) st, settings[i]? = some st → ∀ w, elements[i]? = some w → Setting.Takes st w)
    (s : σ) :
    ∃ s', readArray ⟨name, settings⟩ elements s = .ok s' := by
  induction settings generalizing elements s with
  | nil => exact ⟨s, rfl⟩
  | cons st settings ih =>
    cases elements with
    | nil => exact ⟨s, rfl⟩
    | cons v elements =>
      obtain ⟨mid, hm⟩ := h 0 st rfl v rfl s
      obtain ⟨s', hs'⟩ := ih (fun i st hi w hw => h (i + 1) st hi w hw) mid
      exact ⟨s', readArray_cons.trans (bind_eq_ok_iff.mpr ⟨mid, hm, hs'⟩)⟩

/-- A section takes a value of the right kind if its settings take what they are given. -/
theorem takes_setting (hd : v.Distinct) (hv : v.isSection = true)
    (h : ∀ i st, sec.settings[i]? = some st → ∀ w, v.at? st.key i = some w → st.Takes w) :
    (sec.setting name).Takes v := by
  intro s
  cases hd with
  | table keys values =>
    refine exists_readTable (fun st hst w hw => ?_) s
    obtain ⟨i, hi⟩ := List.getElem?_of_mem hst
    exact h i st hi w (Entries.lookup_of_mem keys hw)
  | array hd => exact exists_readArray h s
  | tables hd => exact exists_readArray h s
  | datetime => exact ⟨s, rfl⟩
  | _ => cases hv

/-! ### Unread content -/

/-- Whether a section has a setting with this key. -/
def knows (sec : Section σ) (key : String) : Bool := sec.settings.any (·.key == key)

/-- Values that differ, as a section, only in what is not read: the order of keys, keys that are not
known, and elements beyond the settings. -/
inductive Alike (sec : Section σ) : Value → Value → Prop
  | same (v : Value) : Alike sec v v
  | table {origin origin' : Toml.Origin} {entries entries' : Entries}
      (h : (entries.filter (sec.knows ·.1)).Perm (entries'.filter (sec.knows ·.1))) :
      Alike sec (.table origin entries) (.table origin' entries')
  | sequence {v w : Value} {elements elements' : List Value} (hv : v.elements? = some elements)
      (hw : w.elements? = some elements')
      (h : elements.take sec.settings.length = elements'.take sec.settings.length) : Alike sec v w

theorem isSection_of_elements? (h : v.elements? = some elements) : v.isSection = true := by
  cases v with
  | array | tables => rfl
  | _ => cases h

theorem at?_of_elements? (h : v.elements? = some elements) :
    v.at? key place = elements[place]? := by
  cases v with
  | array | tables =>
    cases h
    rfl
  | _ => cases h

theorem Alike.symm {v w : Value} (h : sec.Alike v w) : sec.Alike w v := by
  cases h with
  | same => exact .same v
  | table h => exact .table h.symm
  | sequence hv hw h => exact .sequence hw hv h.symm

theorem Alike.isSection_eq {v w : Value} (h : sec.Alike v w) : v.isSection = w.isSection := by
  cases h with
  | same => rfl
  | table => rfl
  | sequence hv hw => rw [isSection_of_elements? hv, isSection_of_elements? hw]

/-- Values that are alike give each setting the same. -/
theorem Alike.at?_eq {v w : Value} (h : sec.Alike v w) (hv : v.Distinct) (hw : w.Distinct)
    (hi : sec.settings[place]? = some st) : v.at? st.key place = w.at? st.key place := by
  cases h with
  | same => rfl
  | table h =>
    refine Entries.lookup_eq_of_perm (Entries.distinct_of_table hv).keys
      (Entries.distinct_of_table hw).keys ?_ h
    exact List.any_eq_true.mpr ⟨st, List.mem_of_getElem? hi, beq_self_eq_true _⟩
  | sequence hv hw h =>
    obtain ⟨hlt, -⟩ := List.getElem?_eq_some_iff.mp hi
    rw [at?_of_elements? hv, at?_of_elements? hw, ← List.getElem?_take_of_lt hlt, h,
      List.getElem?_take_of_lt hlt]

end Section

end

end ControlDeck
