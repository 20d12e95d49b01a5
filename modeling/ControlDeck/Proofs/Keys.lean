import ControlDeck.Toml.Document

/-!
# Distinct keys

No table of a document has a key twice, so that looking a key up finds all that the document says
about it, wherever it says it.

- **Distinct keys** (`Value.Distinct`, `Entries.Distinct`): no table has a key twice, and neither
  has any table within it.
- **Places** (`Entries.At`): what holds of the table that a path leads to. What a change leaves in
  that table is found there afterwards (`Entries.Distinct.modifyAt`).
- **Builders** (`Builder.Sound`): a table is entered without a check when it is complete. Its header
  has made room for it (`Builder.makeRoom_spec`), and nothing has come in between.
- **Readers** (`Reader.Yields`): what holds of everything that a reader reads.
- `parse?_distinct`: the keys of a document are distinct.
-/

namespace ControlDeck.Toml

/-! ## Tables -/

/-- A value that has no key twice, at any depth. -/
inductive Value.Distinct : Value → Prop
  | string (s : String) : Distinct (.string s)
  | integer (n : Int) : Distinct (.integer n)
  | float (x : Float) : Distinct (.float x)
  | boolean (b : Bool) : Distinct (.boolean b)
  | datetime : Distinct .datetime
  | array {elements : List Value} (h : ∀ v ∈ elements, Distinct v) : Distinct (.array elements)
  | tables {elements : List Value} (h : ∀ v ∈ elements, Distinct v) : Distinct (.tables elements)
  | table {origin : Origin} {entries : Entries} (keys : (entries.map Prod.fst).Nodup)
      (values : ∀ e ∈ entries, Distinct e.2) : Distinct (.table origin entries)

namespace Entries

/-- Entries that have no key twice, at any depth. -/
structure Distinct (entries : Entries) : Prop where
  keys : (entries.map Prod.fst).Nodup
  values : ∀ e ∈ entries, e.2.Distinct

variable {entries entries' : Entries} {key : String} {v : Value} {origin made : Origin}
  {path : List String}

theorem Distinct.value (h : entries.Distinct) : (Value.table origin entries).Distinct :=
  .table h.keys h.values

theorem distinct_of_table (h : (Value.table origin entries).Distinct) : entries.Distinct := by
  cases h with
  | table keys values => exact ⟨keys, values⟩

@[simp] theorem distinct_nil : Distinct [] := ⟨List.nodup_nil, nofun⟩

theorem mem_of_lookup (h : entries.lookup key = some v) : (key, v) ∈ entries := by
  obtain ⟨before, after, rfl, -⟩ := List.lookup_eq_some_iff.mp h
  simp

theorem lookup_eq_none : entries.lookup key = none ↔ key ∉ entries.map Prod.fst := by
  simp only [List.lookup_eq_none_iff, bne_iff_ne, List.mem_map, not_exists, not_and]
  exact forall₂_congr fun _ _ => ne_comm

/-- A key of distinct keys is looked up with the value that it stands with. -/
theorem lookup_of_mem (hk : (entries.map Prod.fst).Nodup) (h : (key, v) ∈ entries) :
    entries.lookup key = some v := by
  obtain ⟨before, after, rfl⟩ := List.append_of_mem h
  rw [List.map_append, List.nodup_append] at hk
  refine List.lookup_eq_some_iff.mpr ⟨before, after, rfl, fun e he => bne_iff_ne.mpr ?_⟩
  exact (hk.2.2 e.1 (List.mem_map_of_mem he) key (by simp)).symm

theorem lookup_eq_some_iff (hk : (entries.map Prod.fst).Nodup) :
    entries.lookup key = some v ↔ (key, v) ∈ entries := ⟨mem_of_lookup, lookup_of_mem hk⟩

/-- Neither the order of the keys nor the keys that are not known matter to one that is known. -/
theorem lookup_eq_of_perm {known : String → Bool} (hk : (entries.map Prod.fst).Nodup)
    (hk' : (entries'.map Prod.fst).Nodup) (hkey : known key = true)
    (h : (entries.filter (known ·.1)).Perm (entries'.filter (known ·.1))) :
    entries.lookup key = entries'.lookup key := by
  refine Option.ext fun v => ?_
  rw [lookup_eq_some_iff hk, lookup_eq_some_iff hk']
  have hm := h.mem_iff (a := (key, v))
  rwa [List.mem_filter, List.mem_filter, and_iff_left hkey, and_iff_left hkey] at hm

theorem Distinct.lookup (h : entries.Distinct) (hl : entries.lookup key = some v) : v.Distinct :=
  h.values _ (mem_of_lookup hl)

/-! ### Entering, replacing and taking out -/

theorem lookup_add (h : entries.lookup key = none) : (entries.add key v).lookup key = some v := by
  rw [add, List.lookup_append, h]
  simp

theorem Distinct.add (h : entries.Distinct) (hk : entries.lookup key = none) (hv : v.Distinct) :
    (entries.add key v).Distinct where
  keys := by
    rw [Entries.add, List.map_append, List.nodup_append]
    refine ⟨h.keys, by simp, fun k hm k' hm' => ?_⟩
    rw [List.mem_singleton.mp hm']
    exact ne_of_mem_of_not_mem hm (lookup_eq_none.mp hk)
  values e he := by
    obtain he | he := List.mem_append.mp he
    · exact h.values e he
    · rw [List.mem_singleton.mp he]
      exact hv

theorem lookup_replace (h : entries.lookup key ≠ none) :
    (entries.replace key v).lookup key = some v := by
  induction entries with
  | nil => exact absurd rfl h
  | cons e rest ih =>
    obtain ⟨k, w⟩ := e
    by_cases hk : k = key
    · simp [replace, hk]
    · have hb : (key == k) = false := beq_eq_false_iff_ne.mpr (Ne.symm hk)
      rw [List.lookup_cons, hb] at h
      simpa [replace, List.lookup_cons, hk, hb] using ih h

theorem keys_replace : (entries.replace key v).map Prod.fst = entries.map Prod.fst := by
  rw [replace, List.map_map]
  refine List.map_congr_left fun e _ => ?_
  dsimp only [Function.comp]
  split <;> rfl

theorem Distinct.replace (h : entries.Distinct) (hv : v.Distinct) :
    (entries.replace key v).Distinct where
  keys := by
    rw [keys_replace]
    exact h.keys
  values e he := by
    obtain ⟨e', he', rfl⟩ := List.mem_map.mp he
    dsimp only
    split
    · exact hv
    · exact h.values e' he'

theorem lookup_remove : (entries.remove key).lookup key = none := by
  rw [lookup_eq_none]
  simp [remove]

theorem Distinct.remove (h : entries.Distinct) : (entries.remove key).Distinct where
  keys := h.keys.sublist (List.filter_sublist.map _)
  values e he := h.values e (List.mem_filter.mp he).1

/-! ### Places -/

/-- Whether a path leads to a table, in place or yet to be made, of which something holds. -/
def At (P : Entries → Prop) : List String → Entries → Prop
  | [], entries => P entries
  | key :: path, entries =>
    match entries.lookup key with
    | none => At P path []
    | some (.table _ inner) => At P path inner
    | some (.tables elements) =>
      match elements.getLast? with
      | some (.table _ inner) => At P path inner
      | _ => True
    | some _ => True

theorem at_true : At (fun _ => True) path entries := by
  induction path generalizing entries with
  | nil => trivial
  | cons key path ih =>
    unfold At
    split
    · exact ih
    · exact ih
    · split
      · exact ih
      · trivial
    · trivial

/-- A change of the table at the end of a path leaves there what it makes of the table. All keys
stay distinct if it keeps those of the table distinct. -/
theorem Distinct.modifyAt {α : Type} {change : Origin → Entries → Option (α × Entries)}
    {P Q : Entries → Prop} {R : α → Prop} {a : α}
    (hc : ∀ {origin inner a inner'}, inner.Distinct → P inner →
      change origin inner = some (a, inner') → inner'.Distinct ∧ Q inner' ∧ R a)
    (h : entries.Distinct) (hp : At P path entries)
    (hm : Entries.modifyAt made change path origin entries = some (a, entries')) :
    entries'.Distinct ∧ At Q path entries' ∧ R a := by
  induction path generalizing origin entries a entries' with
  | nil => exact hc h hp hm
  | cons key path ih =>
    unfold Entries.modifyAt at hm
    unfold At at hp
    split at hm
    -- No table is there yet: it is made, changed and entered.
    · rename_i hl
      rw [hl] at hp
      simp only [Option.bind_eq_bind, Option.bind_eq_some_iff] at hm
      obtain ⟨⟨b, inner⟩, hi, he⟩ := hm
      obtain ⟨rfl, rfl⟩ := Prod.mk.inj (Option.some.inj he)
      obtain ⟨hd, hq, hr⟩ := ih distinct_nil hp hi
      refine ⟨h.add hl hd.value, ?_, hr⟩
      rw [At, lookup_add hl]
      exact hq
    -- A table is there, and a changed one takes its place.
    · rename_i o inner hl
      rw [hl] at hp
      split at hm
      · cases hm
      simp only [Option.bind_eq_bind, Option.bind_eq_some_iff] at hm
      obtain ⟨⟨b, inner'⟩, hi, he⟩ := hm
      obtain ⟨rfl, rfl⟩ := Prod.mk.inj (Option.some.inj he)
      obtain ⟨hd, hq, hr⟩ := ih (distinct_of_table (h.lookup hl)) hp hi
      refine ⟨h.replace hd.value, ?_, hr⟩
      rw [At, lookup_replace (by simp [hl])]
      exact hq
    -- Of an array of tables the last one is changed, and is the last one again.
    · rename_i elements hl
      rw [hl] at hp
      have hes : ∀ v ∈ elements, v.Distinct := by
        cases h.lookup hl with
        | tables hes => exact hes
      split at hm
      · rename_i o inner hlast
        dsimp only at hp
        rw [hlast] at hp
        simp only [Option.bind_eq_bind, Option.bind_eq_some_iff] at hm
        obtain ⟨⟨b, inner'⟩, hi, he⟩ := hm
        obtain ⟨rfl, rfl⟩ := Prod.mk.inj (Option.some.inj he)
        obtain ⟨hd, hq, hr⟩ :=
          ih (distinct_of_table (hes _ (List.mem_of_getLast? hlast))) hp hi
        refine ⟨h.replace (.tables fun v hv => ?_), ?_, hr⟩
        · obtain hv | hv := List.mem_append.mp hv
          · exact hes v (List.dropLast_subset _ hv)
          · rw [List.mem_singleton.mp hv]
            exact hd.value
        · rw [At, lookup_replace (by simp [hl])]
          dsimp only
          rw [List.getLast?_concat]
          exact hq
      · cases hm
    · cases hm

/-- A value that is entered under a dotted key is entered under a new one. -/
theorem Distinct.insertAt (h : entries.Distinct) (hv : v.Distinct)
    (hi : entries.insertAt path key v = some entries') : entries'.Distinct := by
  unfold Entries.insertAt at hi
  obtain ⟨⟨u, made⟩, hm, rfl⟩ := Option.map_eq_some_iff.mp hi
  refine (h.modifyAt (Q := fun _ => True) (R := fun _ => True) ?_ at_true hm).1
  intro origin inner u inner' hd _ he
  split at he
  · cases he
  split at he
  · cases he
  · rename_i hn
    obtain ⟨rfl, rfl⟩ := Prod.mk.inj (Option.some.inj he)
    exact ⟨hd.add (Option.not_isSome_iff_eq_none.mp hn) hv, trivial, trivial⟩

theorem Distinct.insertAll {pairs : List ((List String × String) × Value)}
    (h : entries.Distinct) (hv : ∀ p ∈ pairs, p.2.Distinct)
    (hp : pairs.foldlM (fun entries ((path, key), value) => entries.insertAt path key value)
      entries = some entries') : entries'.Distinct := by
  induction pairs generalizing entries with
  | nil =>
    cases hp
    exact h
  | cons p pairs ih =>
    rw [List.foldlM_cons, Option.bind_eq_bind, Option.bind_eq_some_iff] at hp
    obtain ⟨next, hn, hp⟩ := hp
    refine ih (h.insertAt (hv p List.mem_cons_self) hn) ?_ hp
    exact fun q hq => hv q (List.mem_cons_of_mem p hq)

theorem ofPairs_distinct {pairs : List ((List String × String) × Value)}
    (hv : ∀ p ∈ pairs, p.2.Distinct) (hp : ofPairs pairs = some entries) : entries.Distinct :=
  distinct_nil.insertAll hv hp

end Entries

/-! ## Builders -/

/-- A statement whose value has no key twice. -/
def Statement.Distinct : Statement → Prop
  | .pair _ _ v => v.Distinct
  | .header _ => True

/-- Whether a table may be entered under the key of a header; an element is not entered under a key
of its own. -/
def Header.Vacant (h : Header) (inner : Entries) : Prop :=
  h.isElement = false → inner.lookup h.key = none

namespace Builder

/-- A builder whose keys are distinct, and in which there is room for the table that it builds. -/
structure Sound (b : Builder) : Prop where
  root : b.root.Distinct
  current : b.current.Distinct
  room : ∀ h ∈ b.header?, b.root.At h.Vacant h.path

variable {b b' : Builder} {entries : Entries}

theorem sound_empty : Sound {} := ⟨Entries.distinct_nil, Entries.distinct_nil, nofun⟩

/-- The current table goes where there is room for it. -/
theorem Sound.complete (hs : b.Sound) (hc : b.complete = some entries) : entries.Distinct := by
  unfold Builder.complete at hc
  split at hc
  · cases hc
    exact hs.current
  · rename_i h hh
    obtain ⟨⟨u, made⟩, hm, rfl⟩ := Option.map_eq_some_iff.mp hc
    refine (hs.root.modifyAt (Q := fun _ => True) (R := fun _ => True) ?_ (hs.room h hh) hm).1
    intro origin inner u inner' hd hv he
    refine ⟨?_, trivial, trivial⟩
    split at he
    · split at he
      · rename_i elements hl
        obtain ⟨rfl, rfl⟩ := Prod.mk.inj (Option.some.inj he)
        refine hd.replace (.tables fun v hv => ?_)
        obtain hv | hv := List.mem_append.mp hv
        · cases hd.lookup hl with
          | tables hes => exact hes v hv
        · rw [List.mem_singleton.mp hv]
          exact hs.current.value
      · cases he
    · rename_i hn
      obtain ⟨rfl, rfl⟩ := Prod.mk.inj (Option.some.inj he)
      exact hd.add (hv (Bool.eq_false_iff.mpr hn)) hs.current.value

/-- A header leaves room for its table, and takes up a table that has its keys once. -/
theorem makeRoom_spec {h : Header} {origin : Origin} {inner inner' held : Entries}
    (hd : inner.Distinct) (hm : makeRoom h origin inner = some (held, inner')) :
    inner'.Distinct ∧ h.Vacant inner' ∧ held.Distinct := by
  unfold makeRoom at hm
  split at hm
  all_goals rename_i he hl
  · obtain ⟨rfl, rfl⟩ := Prod.mk.inj (Option.some.inj hm)
    exact ⟨hd, fun _ => hl, Entries.distinct_nil⟩
  · obtain ⟨rfl, rfl⟩ := Prod.mk.inj (Option.some.inj hm)
    exact ⟨hd.remove, fun _ => Entries.lookup_remove, Entries.distinct_of_table (hd.lookup hl)⟩
  · obtain ⟨rfl, rfl⟩ := Prod.mk.inj (Option.some.inj hm)
    refine ⟨hd.add hl (.tables nofun), fun hf => ?_, Entries.distinct_nil⟩
    exact absurd (he.symm.trans hf) nofun
  · obtain ⟨rfl, rfl⟩ := Prod.mk.inj (Option.some.inj hm)
    exact ⟨hd, fun hf => absurd (he.symm.trans hf) nofun, Entries.distinct_nil⟩
  · cases hm

theorem Sound.step {s : Statement} (hs : b.Sound) (hd : s.Distinct) (h : b.step s = some b') :
    b'.Sound := by
  cases s with
  | pair path key v =>
    simp only [Builder.step, Option.bind_eq_bind, Option.bind_eq_some_iff] at h
    obtain ⟨current, hi, hb⟩ := h
    cases hb
    exact ⟨hs.root, hs.current.insertAt hd hi, hs.room⟩
  | header head =>
    simp only [Builder.step, Option.bind_eq_bind, Option.bind_eq_some_iff] at h
    obtain ⟨root, hc, ⟨current, root'⟩, hm, hb⟩ := h
    cases hb
    obtain ⟨hr, hv, hh⟩ := (hs.complete hc).modifyAt
      (fun hd _ => makeRoom_spec hd) Entries.at_true hm
    refine ⟨hr, hh, fun h' hh' => ?_⟩
    cases hh'
    exact hv

theorem Sound.steps {list : List Statement} (hs : b.Sound) (hd : ∀ s ∈ list, s.Distinct)
    (h : list.foldlM Builder.step b = some b') : b'.Sound := by
  induction list generalizing b with
  | nil =>
    cases h
    exact hs
  | cons s list ih =>
    rw [List.foldlM_cons, Option.bind_eq_bind, Option.bind_eq_some_iff] at h
    obtain ⟨next, hn, h⟩ := h
    refine ih (hs.step (hd s List.mem_cons_self) hn) ?_ h
    exact fun t ht => hd t (List.mem_cons_of_mem s ht)

end Builder

theorem Entries.ofStatements_distinct {list : List Statement} {entries : Entries}
    (hd : ∀ s ∈ list, s.Distinct) (h : ofStatements list = some entries) : entries.Distinct := by
  obtain ⟨b, hb, hc⟩ := Option.bind_eq_some_iff.mp h
  exact (Builder.sound_empty.steps hd hb).complete hc

/-! ## Readers -/

namespace Reader

/-- What holds of everything that a reader reads. -/
def Yields {α : Type} (r : Reader α) (P : α → Prop) : Prop :=
  ∀ s a rest, r s = some (a, rest) → P a

section

variable {α β : Type} {r r' : Reader α} {f : α → Reader β} {P : α → Prop} {Q : β → Prop}

theorem Yields.pure {a : α} (h : P a) : Yields (Pure.pure a) P := by
  intro s a' rest hr
  cases hr
  exact h

theorem yields_failure : Yields failure P := nofun

theorem Yields.bind (hr : r.Yields P) (hf : ∀ a, P a → (f a).Yields Q) : (r >>= f).Yields Q := by
  intro s b rest h
  obtain ⟨⟨a, s'⟩, ha, hb⟩ := Option.bind_eq_some_iff.mp h
  exact hf a (hr s a s' ha) s' b rest hb

/-- Only the last reader matters if it yields what it should whatever was read before. -/
theorem yields_bind (hf : ∀ a, (f a).Yields Q) : (r >>= f).Yields Q :=
  Yields.bind (P := fun _ => True) (fun _ _ _ _ => trivial) fun a _ => hf a

theorem Yields.map {g : α → β} (hr : r.Yields P) (hg : ∀ a, P a → Q (g a)) :
    (g <$> r).Yields Q :=
  hr.bind fun a ha => Yields.pure (hg a ha)

theorem yields_map {g : α → β} (hg : ∀ a, Q (g a)) : (g <$> r).Yields Q :=
  yields_bind fun a => Yields.pure (hg a)

theorem Yields.orElse (hr : r.Yields P) (hr' : r'.Yields P) : (r <|> r').Yields P := by
  intro s a rest h
  have he : (r <|> r') s = (r s <|> r' s) := rfl
  rw [he] at h
  cases hs : r s with
  | none => exact hr' s a rest (by simpa [hs] using h)
  | some read => exact hr s a rest (by simpa [hs] using h)

theorem Yields.maybe (hr : r.Yields P) : (maybe r).Yields fun o => ∀ a ∈ o, P a := by
  refine Yields.orElse (hr.map fun a ha b hb => ?_) (Yields.pure nofun)
  cases hb
  exact ha

theorem Yields.repeatUpTo (hr : r.Yields P) (count : Nat) (s : List Char) :
    ∀ a ∈ (repeatUpTo r count s).1, P a := by
  induction count generalizing s with
  | zero => exact nofun
  | succ count ih =>
    unfold Reader.repeatUpTo
    split
    · exact nofun
    · rename_i a rest ha
      split
      · exact List.forall_mem_cons.mpr ⟨hr s a rest ha, ih rest⟩
      · exact nofun

theorem Yields.many (hr : r.Yields P) : (many r).Yields fun l => ∀ a ∈ l, P a := by
  intro s l rest h
  have hl := hr.repeatUpTo s.length s
  rw [Option.some.inj h] at hl
  exact hl

theorem Yields.separated {separator : Reader β} (hr : r.Yields P) :
    (separated r separator).Yields fun l => ∀ a ∈ l, P a :=
  hr.bind fun _ ha => Yields.bind (Yields.many (yields_bind fun _ => hr)) fun _ hl =>
    Yields.pure (List.forall_mem_cons.mpr ⟨ha, hl⟩)

end

end Reader

/-! ## Documents -/

open Reader

theorem elements_distinct {element : Reader Value} (h : element.Yields Value.Distinct) :
    (elements element).Yields fun l => ∀ v ∈ l, v.Distinct := by
  refine Yields.bind (P := fun o => ∀ l ∈ o, ∀ v ∈ l, v.Distinct) (Yields.maybe ?_) fun o ho => ?_
  · refine Yields.bind (Yields.separated (P := Value.Distinct) ?_) fun l hl => ?_
    · exact yields_bind fun _ => h.bind fun v hv => yields_bind fun _ => Yields.pure hv
    · exact yields_bind fun _ => Yields.pure hl
  · refine yields_bind fun _ => yields_bind fun _ => Yields.pure ?_
    cases o with
    | none => exact nofun
    | some l => exact ho l rfl

theorem bracedPairs_distinct {element : Reader Value} (h : element.Yields Value.Distinct) :
    (bracedPairs element).Yields Entries.Distinct := by
  refine Yields.bind (P := fun o => ∀ l ∈ o, ∀ p ∈ l, p.2.Distinct)
    (Yields.maybe (Yields.separated ?_)) fun o ho => ?_
  · refine yields_bind fun k => yields_bind fun _ => yields_bind fun _ => h.bind fun v hv => ?_
    exact yields_bind fun _ => Yields.pure hv
  · refine yields_bind fun _ => yields_bind fun _ => ?_
    have hl : ∀ p ∈ o.getD [], p.2.Distinct := by
      cases o with
      | none => exact nofun
      | some l => exact ho l rfl
    split
    · rename_i entries he
      exact Yields.pure (Entries.ofPairs_distinct hl he)
    · exact yields_failure

theorem scalarValue_distinct : valueOfDepth.scalarValue.Yields Value.Distinct := by
  refine Yields.orElse (yields_map Value.Distinct.string) ?_
  refine Yields.orElse (yields_bind fun _ => Yields.pure .datetime) ?_
  refine Yields.orElse (yields_map Value.Distinct.float) ?_
  refine Yields.orElse (yields_bind fun n => Yields.pure (.integer n)) ?_
  exact Yields.orElse (yields_bind fun _ => Yields.pure (.boolean true))
    (yields_bind fun _ => Yields.pure (.boolean false))

theorem valueOfDepth_distinct (depth : Nat) : (valueOfDepth depth).Yields Value.Distinct := by
  induction depth with
  | zero => exact scalarValue_distinct
  | succ depth ih =>
    refine Yields.orElse scalarValue_distinct (Yields.orElse ?_ ?_)
    · exact yields_bind fun _ => (elements_distinct ih).bind fun _ hl => Yields.pure (.array hl)
    · exact yields_bind fun _ => (bracedPairs_distinct ih).bind fun _ hd => Yields.pure hd.value

theorem line_distinct : line.Yields fun o => ∀ s ∈ o, s.Distinct := by
  have hp : pairLine.Yields Statement.Distinct := by
    refine yields_bind fun k => yields_bind fun _ => yields_bind fun _ => ?_
    refine Yields.bind (valueOfDepth_distinct _) fun v hv => ?_
    exact yields_bind fun _ => Yields.pure hv
  have hh : headerLine.Yields Statement.Distinct := by
    refine Yields.orElse ?_ ?_
    · exact yields_bind fun _ => yields_bind fun k => yields_bind fun _ => yields_bind fun _ =>
        Yields.pure trivial
    · exact yields_bind fun _ => yields_bind fun _ => yields_bind fun k => yields_bind fun _ =>
        yields_bind fun _ => Yields.pure trivial
  have hb (o : Option Statement) (ho : ∀ s ∈ o, s.Distinct) :
      Yields (do blanks; return o) fun o => ∀ s ∈ o, s.Distinct :=
    yields_bind fun _ => Yields.pure ho
  have hs {r : Reader Statement} (hr : r.Yields Statement.Distinct) :
      (some <$> r).Yields fun o => ∀ s ∈ o, s.Distinct :=
    hr.map fun s hs t ht => by cases ht; exact hs
  refine yields_bind fun c => ?_
  dsimp only
  split
  · exact yields_bind fun _ => Yields.bind (Yields.pure nofun) hb
  · exact yields_bind fun _ => Yields.bind (Yields.pure nofun) hb
  · exact yields_bind fun _ => Yields.bind (Yields.pure nofun) hb
  · exact (hs hh).bind hb
  · exact (hs hp).bind hb

/-- A document has no key twice, at any depth. -/
theorem parse?_distinct {s : String} {doc : Entries} (h : parse? s = some doc) : doc.Distinct := by
  obtain ⟨⟨list, rest⟩, hl, hd⟩ := Option.bind_eq_some_iff.mp h
  have hs : statements.Yields fun l => ∀ s ∈ l, s.Distinct := by
    refine yields_bind fun _ => yields_bind fun _ => Yields.bind (Yields.many line_distinct) ?_
    refine fun lines hl => yields_bind fun _ => Yields.pure fun s hs => ?_
    obtain ⟨o, ho, hs⟩ := List.mem_filterMap.mp hs
    exact hl o ho s hs
  exact Entries.ofStatements_distinct (hs s.toList list rest hl) hd

end ControlDeck.Toml
