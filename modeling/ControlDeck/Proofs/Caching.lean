import ControlDeck.Command.Decoders
import Mathlib.Data.List.Dedup
import Mathlib.Data.List.Perm.Subperm

/-!
# What decoders remember

Decoders answer from their caches what they would read from the command, whoever shares the caches
and in whatever order the decodes of several callers take their two locked steps.

- **Keys** (`decodeKey`): what the upper case of a command decodes to. `Cache.value_decode` says
  that a decode is a look-up, and an entry where nothing was found.
- **Ledgers** (`Ledger`): a cache against the keys that were looked up in it, those that were not
  found, and those that are yet to be entered. `Ledger.lookUp` and `Ledger.enter` keep it.
- **Pools** (`Pool`): decoders in use by several callers. `Pool.apply_decode` says that a decode is
  its two steps, one right after the other.
- **Histories** (`History`): the calls made so far. Every history keeps the ledgers of all caches
  (`History.kept`).
- `decoding_remembers`: the answers, the entries and the counters after any history.
-/

namespace ControlDeck.Command

/-- What a key decodes to: the encoder grammar reads it if it has an `L`, and else the other. -/
def decodeKey (key : String) : Descriptor :=
  (if 'L' ∈ key.toList then decodeEncoder key.toList else decodeButton key.toList).value

theorem decodeFresh_eq (command : String) : decodeFresh command = decodeKey (normalized command) :=
  rfl

namespace Cache

variable {c : Cache} {key : String} {d : Descriptor}

theorem get_of_some (h : c.entries[key]? = some d) :
    c.get key = (some d, { c with hits := c.hits + 1 }) := by
  unfold get
  rw [h]

theorem get_of_none (h : c.entries[key]? = none) :
    c.get key = (none, { c with misses := c.misses + 1 }) := by
  unfold get
  rw [h]

/-- A look-up changes no entry. -/
theorem entries_get (c : Cache) (key : String) : (c.get key).2.entries = c.entries := by
  unfold get
  split <;> rfl

/-- A decode is a look-up, and an entry where nothing was found. -/
theorem value_decode (c : Cache) (command : String) :
    (c.decode command).value =
      match c.get (normalized command) with
      | (some d, c) => (d, c)
      | (none, c) => (decodeFresh command, c.insert (normalized command) (decodeFresh command)) := by
  unfold decode
  dsimp only
  generalize c.get (normalized command) = found
  rcases found with ⟨_ | d, c⟩ <;> rfl

/-- A new cache finds nothing. -/
theorem value_decode_empty (command : String) :
    (({} : Cache).decode command).value.1 = decodeFresh command := by
  rw [value_decode, get_of_none Std.TreeMap.getElem?_emptyc]

/-- Every entry is what its key decodes to. -/
def Sound (c : Cache) : Prop := ∀ key d, c.entries[key]? = some d → d = decodeKey key

theorem sound_empty : Sound {} := fun key d h => by
  rw [Std.TreeMap.getElem?_emptyc] at h
  cases h

/-- A sound cache answers what the command decodes to, and stays as sound as it is. -/
theorem Sound.decode (h : c.Sound) (command : String) :
    (c.decode command).value.1 = decodeFresh command := by
  rw [value_decode]
  cases he : c.entries[normalized command]? with
  | some d => rw [get_of_some he, h _ d he, decodeFresh_eq]
  | none => rw [get_of_none he]

/-- What a decode enters is as sound as what was there. -/
theorem Sound.after (h : c.Sound) (command : String) : (c.decode command).value.2.Sound := by
  rw [value_decode]
  cases he : c.entries[normalized command]? with
  | some d =>
    rw [get_of_some he]
    exact h
  | none =>
    rw [get_of_none he]
    intro key d hk
    simp only [insert, Std.TreeMap.getElem?_insert, Std.compare_eq_iff_eq] at hk
    split at hk
    · rename_i hn
      rw [← hn, ← decodeFresh_eq]
      exact (Option.some_inj.mp hk).symm
    · exact h key d hk

/-- An entry that is made of its key leaves the others, and an entry of the same key, as they
are. -/
theorem Sound.getElem?_insert (h : c.Sound) (he : c.entries[key]? = some d) (new : String) :
    (c.insert new (decodeKey new)).entries[key]? = some d := by
  simp only [insert, Std.TreeMap.getElem?_insert, Std.compare_eq_iff_eq]
  split
  · rename_i hk
    rw [h key d he, hk]
  · exact he

/-- A decode leaves the entries of a sound cache as they are. -/
theorem Sound.getElem?_decode (h : c.Sound) (he : c.entries[key]? = some d) (command : String) :
    (c.decode command).value.2.entries[key]? = some d := by
  rw [value_decode]
  cases hc : c.entries[normalized command]? with
  | some _ => rwa [get_of_some hc]
  | none =>
    rw [get_of_none hc]
    exact Sound.getElem?_insert (c := { c with misses := c.misses + 1 }) h he _

/-- A command that was decoded has its entry. -/
theorem Sound.getElem?_decode_self (h : c.Sound) (command : String) :
    (c.decode command).value.2.entries[normalized command]? = some (decodeFresh command) := by
  rw [value_decode]
  cases he : c.entries[normalized command]? with
  | some d =>
    rw [get_of_some he, decodeFresh_eq, ← h _ d he]
    exact he
  | none =>
    rw [get_of_none he]
    exact Std.TreeMap.getElem?_insert_self

/-- A command that has its entry is answered with it, and the cache has counted one more hit. -/
theorem decode_of_some {command : String} (h : c.entries[normalized command]? = some d) :
    (c.decode command).value = (d, { c with hits := c.hits + 1 }) := by
  rw [value_decode, get_of_some h]

theorem mem_insert {new : String} :
    key ∈ (c.insert new d).entries ↔ key = new ∨ key ∈ c.entries := by
  simp only [insert, Std.TreeMap.mem_insert, Std.compare_eq_iff_eq, @eq_comm _ new]

theorem mem_iff : key ∈ c.entries ↔ c.entries[key]? ≠ none := by
  rw [Std.TreeMap.mem_iff_isSome_getElem?, Option.isSome_iff_ne_none]

end Cache

/-! ## Ledgers -/

/-- A cache against the keys that were `looked` up in it, those of them that were `missed`, and
those that are `waiting` to be entered. -/
structure Ledger (c : Cache) (waiting looked missed : List String) : Prop where
  sound : c.Sound
  looked_iff : ∀ key, key ∈ looked ↔ key ∈ c.entries ∨ key ∈ waiting
  missed_iff : ∀ key, key ∈ missed ↔ key ∈ looked
  misses : c.misses = .ofNat missed.length
  calls : c.hits + c.misses = .ofNat looked.length

namespace Ledger

variable {c : Cache} {waiting looked missed : List String} {key : String}

theorem empty : Ledger {} [] [] [] where
  sound := Cache.sound_empty
  looked_iff key := by simp
  missed_iff key := Iff.rfl
  misses := rfl
  calls := rfl

/-- A key that is looked up is missed if it is not there, and then waits to be entered. -/
theorem lookUp (h : Ledger c waiting looked missed) (key : String) :
    let new := if c.entries[key]?.isNone then [key] else []
    Ledger (c.get key).2 (waiting ++ new) (looked ++ [key]) (missed ++ new) := by
  cases he : c.entries[key]? with
  | some d =>
    have hk : key ∈ c.entries := Cache.mem_iff.mpr (by rw [he]; exact nofun)
    have hl : key ∈ looked := (h.looked_iff key).mpr (.inl hk)
    have hm : ∀ other, other ∈ looked ++ [key] ↔ other ∈ looked := by
      intro other
      rw [List.mem_append, List.mem_singleton, or_iff_left_of_imp]
      rintro rfl
      exact hl
    rw [Cache.get_of_some he]
    simp only [Option.isNone_some, Bool.false_eq_true, ↓reduceIte, List.append_nil]
    refine ⟨h.sound, fun other => (hm other).trans (h.looked_iff other),
      fun other => (h.missed_iff other).trans (hm other).symm, h.misses, ?_⟩
    rw [List.length_append, UInt64.ofNat_add, ← h.calls]
    show c.hits + 1 + c.misses = c.hits + c.misses + 1
    ac_rfl
  | none =>
    rw [Cache.get_of_none he]
    simp only [Option.isNone_none, ↓reduceIte]
    refine ⟨h.sound, fun other => ?_, fun other => ?_, ?_, ?_⟩
    · rw [List.mem_append, List.mem_append, h.looked_iff, or_assoc]
    · rw [List.mem_append, List.mem_append, h.missed_iff]
    · rw [List.length_append, UInt64.ofNat_add, ← h.misses]
      rfl
    · rw [List.length_append, UInt64.ofNat_add, ← h.calls]
      exact (UInt64.add_assoc ..).symm

/-- A key that was looked up is entered and waits no longer. -/
theorem enter (h : Ledger c waiting looked missed) (hk : key ∈ looked) {left : List String}
    (hl : ∀ other, other ≠ key → (other ∈ left ↔ other ∈ waiting)) :
    Ledger (c.insert key (decodeKey key)) left looked missed where
  sound other d ho := by
    simp only [Cache.insert, Std.TreeMap.getElem?_insert, Std.compare_eq_iff_eq] at ho
    split at ho
    · rename_i hko
      rw [← hko]
      exact (Option.some.inj ho).symm
    · exact h.sound other d ho
  looked_iff other := by
    rw [Cache.mem_insert]
    by_cases ho : other = key
    · rw [ho]
      simp [hk]
    · rw [hl other ho, h.looked_iff other]
      simp [ho]
  missed_iff := h.missed_iff
  misses := h.misses
  calls := h.calls

/-- There are no more entries than different keys, and no more of those than misses. -/
theorem size_le (h : Ledger c waiting looked missed) :
    c.size ≤ looked.dedup.length ∧ looked.dedup.length ≤ missed.length := by
  constructor
  · rw [Cache.size, ← Std.TreeMap.length_keys]
    refine (Std.TreeMap.nodup_keys.subperm fun key hk => ?_).length_le
    exact List.mem_dedup.mpr ((h.looked_iff key).mpr (.inl (Std.TreeMap.mem_keys.mp hk)))
  · refine ((List.nodup_dedup looked).subperm fun key hk => ?_).length_le
    exact (h.missed_iff key).mpr (List.mem_dedup.mp hk)

/-- Where nothing waits, every key that was looked up has its entry. -/
theorem size_eq (h : Ledger c [] looked missed) : c.size = looked.dedup.length := by
  refine Nat.le_antisymm h.size_le.1 ?_
  rw [Cache.size, ← Std.TreeMap.length_keys]
  refine ((List.nodup_dedup looked).subperm fun key hk => ?_).length_le
  exact Std.TreeMap.mem_keys.mpr
    (((h.looked_iff key).mp (List.mem_dedup.mp hk)).resolve_right List.not_mem_nil)

/-- If no key was missed twice, there are as many misses as different keys. -/
theorem length_missed (h : Ledger c waiting looked missed) (hn : missed.Nodup) :
    missed.length = looked.dedup.length := by
  refine Nat.le_antisymm (hn.subperm fun key hk => ?_).length_le h.size_le.2
  exact List.mem_dedup.mpr ((h.missed_iff key).mp hk)

end Ledger

/-! ## Pools -/

namespace Decoders

/-- The cache at a position. -/
def cacheAt (ds : Decoders) (i : Nat) : Cache := ds.caches.getD i {}

/-- Replaces the cache at a position. -/
def setCache (ds : Decoders) (i : Nat) (cache : Cache) : Decoders :=
  { ds with caches := ds.caches.setIfInBounds i cache }

theorem cacheAt_setCache (ds : Decoders) (i j : Nat) (cache : Cache) :
    (ds.setCache i cache).cacheAt j =
      if j = i ∧ i < ds.caches.size then cache else ds.cacheAt j := by
  simp only [cacheAt, setCache, Array.getD_eq_getD_getElem?, Array.getElem?_setIfInBounds]
  by_cases hj : j = i
  · subst hj
    by_cases hs : j < ds.caches.size
    · simp [hs]
    · simp [hs]
  · simp [hj, Ne.symm hj]

theorem setCache_setCache (ds : Decoders) (i : Nat) (first second : Cache) :
    (ds.setCache i first).setCache i second = ds.setCache i second := by
  simp [setCache]

/-- What is done to a cache that was just replaced is done to its replacement. -/
theorem setCache_cacheAt (ds : Decoders) (i : Nat) (cache : Cache) (f : Cache → Cache) :
    (ds.setCache i cache).setCache i (f ((ds.setCache i cache).cacheAt i)) =
      ds.setCache i (f cache) := by
  rw [setCache_setCache, cacheAt_setCache]
  by_cases hi : i < ds.caches.size
  · rw [if_pos ⟨rfl, hi⟩]
  · have hn : ∀ x, ds.setCache i x = ds := fun x => by
      simp [setCache, Array.setIfInBounds, hi]
    rw [hn, hn]

end Decoders

/-- A command that was not found in a cache and has yet to be entered there. -/
structure Errand where
  cache : Nat
  command : String

/-- The keys that are yet to be entered into the cache at a position. -/
def waiting (errands : List Errand) (i : Nat) : List String :=
  (errands.filter (·.cache = i)).map fun e => normalized e.command

theorem waiting_append (left right : List Errand) (i : Nat) :
    waiting (left ++ right) i = waiting left i ++ waiting right i := by
  unfold waiting
  rw [List.filter_append, List.map_append]

theorem waiting_cons (e : Errand) (errands : List Errand) (i : Nat) :
    waiting (e :: errands) i =
      (if e.cache = i then [normalized e.command] else []) ++ waiting errands i := by
  unfold waiting
  by_cases he : e.cache = i <;> simp [he]

/-- Decoders in use by several callers. -/
structure Pool where
  decoders : Decoders := {}
  errands : List Errand := []

/-- What is asked of the decoders. A caller either decodes a command at once, or looks it up and
enters it later on. -/
inductive Call
  | create
  | clone (decoder : Nat)
  | decode (decoder : Nat) (command : String)
  | lookUp (decoder : Nat) (command : String)
  | enter (errand : Nat)

/-- Whether a call is not one half of a decode. -/
def Call.isWhole : Call → Bool
  | .lookUp .. | .enter _ => false
  | _ => true

namespace Pool

/-- The cache at a position. -/
abbrev cacheAt (p : Pool) (i : Nat) : Cache := p.decoders.cacheAt i

/-- Replaces the cache at a position. -/
def setCache (p : Pool) (i : Nat) (cache : Cache) : Pool :=
  { p with decoders := p.decoders.setCache i cache }

/-- A call is for a decoder that is there, or for a command that is to be entered. -/
def Allows (p : Pool) : Call → Prop
  | .create => True
  | .clone decoder | .decode decoder _ | .lookUp decoder _ => decoder < p.decoders.owners.size
  | .enter errand => errand < p.errands.length

instance (p : Pool) (call : Call) : Decidable (p.Allows call) := by
  cases call <;> unfold Allows <;> infer_instance

/-- What a call answers, and the decoders after it. -/
def apply (p : Pool) : Call → Option Descriptor × Pool
  | .create => (none, { p with decoders := p.decoders.addOwner })
  | .clone decoder => (none, { p with decoders := p.decoders.clone decoder })
  | .decode decoder command =>
    let (d, decoders) := (p.decoders.decode decoder command).value
    (some d, { p with decoders })
  | .lookUp decoder command =>
    let i := p.decoders.cacheIndex decoder
    match (p.cacheAt i).get (normalized command) with
    | (some d, cache) => (some d, p.setCache i cache)
    | (none, cache) =>
      (none, { p.setCache i cache with errands := p.errands ++ [⟨i, command⟩] })
  | .enter errand =>
    match p.errands[errand]? with
    | some e =>
      let d := decodeFresh e.command
      let cache := (p.cacheAt e.cache).insert (normalized e.command) d
      (some d, { p.setCache e.cache cache with errands := p.errands.eraseIdx errand })
    | none => (none, p)

section

variable (p : Pool) (decoder : Nat) (command : String)

theorem apply_lookUp_of_some {i : Nat} (hi : p.decoders.cacheIndex decoder = i) {d : Descriptor}
    (h : (p.cacheAt i).entries[normalized command]? = some d) :
    p.apply (.lookUp decoder command) =
      (some d, p.setCache i ((p.cacheAt i).get (normalized command)).2) := by
  simp only [apply, hi, Cache.get_of_some h]

theorem apply_lookUp_of_none {i : Nat} (hi : p.decoders.cacheIndex decoder = i)
    (h : (p.cacheAt i).entries[normalized command]? = none) :
    p.apply (.lookUp decoder command) =
      (none, { p.setCache i ((p.cacheAt i).get (normalized command)).2 with
        errands := p.errands ++ [⟨i, command⟩] }) := by
  simp only [apply, hi, Cache.get_of_none h]

theorem apply_enter {errand : Nat} {e : Errand} (h : p.errands[errand]? = some e) :
    p.apply (.enter errand) =
      (some (decodeFresh e.command),
        { p.setCache e.cache
            ((p.cacheAt e.cache).insert (normalized e.command) (decodeFresh e.command)) with
          errands := p.errands.eraseIdx errand }) := by
  simp only [apply, h]

/-- A decode answers from the cache of its decoder, and changes nothing but that cache. -/
theorem apply_decode_value {i : Nat} (hi : p.decoders.cacheIndex decoder = i) :
    p.apply (.decode decoder command) =
      (some ((p.cacheAt i).decode command).value.1,
        p.setCache i ((p.cacheAt i).decode command).value.2) := by
  rw [← hi]
  rfl

/-- A decode is a look-up, and right after it the entry of what was not found. -/
theorem apply_decode :
    p.apply (.decode decoder command) =
      match p.apply (.lookUp decoder command) with
      | (some d, q) => (some d, q)
      | (none, q) => q.apply (.enter p.errands.length) := by
  obtain ⟨i, hi⟩ : ∃ i, p.decoders.cacheIndex decoder = i := ⟨_, rfl⟩
  rw [apply_decode_value p decoder command hi, Cache.value_decode]
  cases he : (p.cacheAt i).entries[normalized command]? with
  | some d => rw [apply_lookUp_of_some p decoder command hi he, Cache.get_of_some he]
  | none =>
    rw [apply_lookUp_of_none p decoder command hi he]
    refine Eq.symm ((apply_enter _ List.getElem?_concat_length).trans ?_)
    rw [Cache.get_of_none he]
    have hs := p.decoders.setCache_cacheAt i ((p.cacheAt i).get (normalized command)).2
      fun cache => cache.insert (normalized command) (decodeFresh command)
    rw [Cache.get_of_none he] at hs
    simp only [setCache, hs, List.eraseIdx_append_of_length_le (Nat.le_refl _), Nat.sub_self,
      List.eraseIdx_cons_zero, List.append_nil]

end

end Pool

/-! ## Histories -/

/-- One call, and the decoders before it. -/
structure Exchange where
  before : Pool
  call : Call

namespace Exchange

/-- The answer to a call. -/
def answer? (x : Exchange) : Option Descriptor := (x.before.apply x.call).1

/-- The decoders after a call. -/
def after (x : Exchange) : Pool := (x.before.apply x.call).2

/-- The command that a call is about. -/
def command? (x : Exchange) : Option String :=
  match x.call with
  | .decode _ command | .lookUp _ command => some command
  | .enter errand => x.before.errands[errand]?.map (·.command)
  | _ => none

/-- The position of the cache that a call uses. -/
def cache? (x : Exchange) : Option Nat :=
  match x.call with
  | .decode decoder _ | .lookUp decoder _ => some (x.before.decoders.cacheIndex decoder)
  | .enter errand => x.before.errands[errand]?.map (·.cache)
  | _ => none

/-- The key that a call looks up in the cache at a position. -/
def looked? (x : Exchange) (i : Nat) : Option String :=
  match x.call with
  | .decode decoder command | .lookUp decoder command =>
    if x.before.decoders.cacheIndex decoder = i then some (normalized command) else none
  | _ => none

/-- The key that a call looks up in the cache at a position and does not find. -/
def missed? (x : Exchange) (i : Nat) : Option String :=
  (x.looked? i).filter fun key => (x.before.cacheAt i).entries[key]?.isNone

end Exchange

/-- The histories of decoders: the calls that were made, one after the other. -/
inductive History : List Exchange → Pool → Prop
  | nil : History [] {}
  | snoc {trace : List Exchange} {p : Pool} {call : Call} :
      History trace p → p.Allows call → History (trace ++ [⟨p, call⟩]) (p.apply call).2

namespace Pool

/-- The decoders after some calls. -/
def follow (p : Pool) : List Call → Pool
  | [] => p
  | call :: calls => (p.apply call).2.follow calls

/-- The calls, each with the decoders before it. -/
def traceOf (p : Pool) : List Call → List Exchange
  | [] => []
  | call :: calls => ⟨p, call⟩ :: (p.apply call).2.traceOf calls

/-- Whether the calls can be made one after the other. -/
def canFollow (p : Pool) : List Call → Bool
  | [] => true
  | call :: calls => decide (p.Allows call) && (p.apply call).2.canFollow calls

end Pool

/-- Calls that can be made one after the other make a history longer. -/
theorem History.follow {trace : List Exchange} {p : Pool} {calls : List Call}
    (h : History trace p) (hc : p.canFollow calls = true) :
    History (trace ++ p.traceOf calls) (p.follow calls) := by
  induction calls generalizing trace p with
  | nil => exact (List.append_nil trace).symm ▸ h
  | cons call calls ih =>
    simp only [Pool.canFollow, Bool.and_eq_true, decide_eq_true_eq] at hc
    have := ih (h.snoc hc.1) hc.2
    rwa [List.append_assoc] at this

/-- The keys that were looked up in the cache at a position, one for each decode. -/
def looked (trace : List Exchange) (i : Nat) : List String := trace.filterMap (·.looked? i)

/-- The keys that were looked up in the cache at a position and not found. -/
def missed (trace : List Exchange) (i : Nat) : List String := trace.filterMap (·.missed? i)

/-- Every decode was made at once. -/
def Undivided (trace : List Exchange) : Prop := ∀ x ∈ trace, x.call.isWhole = true

instance (trace : List Exchange) : Decidable (Undivided trace) :=
  inferInstanceAs (Decidable (∀ x ∈ trace, _))

namespace Pool

variable {p : Pool} {looked missed : Nat → List String}

theorem cacheAt_setCache (p : Pool) (i j : Nat) (cache : Cache) :
    (p.setCache i cache).cacheAt j =
      if j = i ∧ i < p.decoders.caches.size then cache else p.cacheAt j :=
  p.decoders.cacheAt_setCache i j cache

theorem size_setCache (p : Pool) (i : Nat) (cache : Cache) :
    (p.setCache i cache).decoders.caches.size = p.decoders.caches.size :=
  Array.size_setIfInBounds

theorem errands_setCache (p : Pool) (i : Nat) (cache : Cache) :
    (p.setCache i cache).errands = p.errands :=
  rfl

/-- A new cache is empty, like one that is not there. -/
theorem cacheAt_create (p : Pool) (i : Nat) : (p.apply .create).2.cacheAt i = p.cacheAt i := by
  simp only [apply, cacheAt, Decoders.addOwner, Decoders.cacheAt, Array.getD_eq_getD_getElem?,
    Array.getElem?_push]
  split
  · rename_i hi
    simp [hi]
  · rfl

/-- What a history keeps: every decoder has its cache, every errand is for a cache that is there,
and every cache agrees with what was looked up in it. -/
structure Kept (p : Pool) (looked missed : Nat → List String) : Prop where
  owners : ∀ d < p.decoders.owners.size, p.decoders.cacheIndex d < p.decoders.caches.size
  errands : ∀ e ∈ p.errands, e.cache < p.decoders.caches.size
  ledgers : ∀ i, Ledger (p.cacheAt i) (waiting p.errands i) (looked i) (missed i)

/-- Every entry of one pool is in the other. -/
def Extends (p q : Pool) : Prop :=
  ∀ i (key : String) d,
    (p.cacheAt i).entries[key]? = some d → (q.cacheAt i).entries[key]? = some d

namespace Kept

/-- A look-up. -/
theorem lookUp (h : p.Kept looked missed) {decoder : Nat} (command : String)
    (hd : decoder < p.decoders.owners.size) :
    let x : Exchange := ⟨p, .lookUp decoder command⟩
    x.after.Kept (fun i => looked i ++ (x.looked? i).toList)
      (fun i => missed i ++ (x.missed? i).toList) := by
  intro x
  obtain ⟨i, hi⟩ : ∃ i, p.decoders.cacheIndex decoder = i := ⟨_, rfl⟩
  have hs : i < p.decoders.caches.size := hi ▸ h.owners decoder hd
  have hl : ∀ j, x.looked? j = if j = i then some (normalized command) else none := fun j => by
    simp only [Exchange.looked?, x, hi, eq_comm]
  have hm : ∀ j, x.missed? j =
      if j = i ∧ (p.cacheAt i).entries[normalized command]? = none then some (normalized command)
      else none := fun j => by
    rw [Exchange.missed?, hl]
    by_cases hj : j = i
    · subst hj
      simp [Option.filter, x]
    · simp [hj]
  have hi' := (h.ledgers i).lookUp (normalized command)
  cases he : (p.cacheAt i).entries[normalized command]? with
  | some d =>
    have ha : x.after = p.setCache i ((p.cacheAt i).get (normalized command)).2 :=
      congrArg Prod.snd (apply_lookUp_of_some p decoder command hi he)
    rw [ha]
    refine ⟨fun d hd => (size_setCache ..).symm ▸ h.owners d hd,
      fun e he => (size_setCache ..).symm ▸ h.errands e he, fun j => ?_⟩
    rw [cacheAt_setCache, errands_setCache, hl, hm, he]
    by_cases hj : j = i
    · subst hj
      simpa [hs, he] using hi'
    · simpa [hj] using h.ledgers j
  | none =>
    have ha : x.after = { p.setCache i ((p.cacheAt i).get (normalized command)).2 with
        errands := p.errands ++ [⟨i, command⟩] } :=
      congrArg Prod.snd (apply_lookUp_of_none p decoder command hi he)
    rw [ha]
    refine ⟨fun d hd => (size_setCache ..).symm ▸ h.owners d hd, fun e he => ?_, fun j => ?_⟩
    · rw [List.mem_append, List.mem_singleton] at he
      rw [show _ = p.decoders.caches.size from size_setCache ..]
      rcases he with he | rfl
      · exact h.errands e he
      · exact hs
    · show Ledger ((p.setCache i _).cacheAt j) _ _ _
      rw [cacheAt_setCache, hl, hm, he, waiting_append, waiting_cons]
      by_cases hj : j = i
      · subst hj
        simpa [hs, he, waiting] using hi'
      · simpa [hj, Ne.symm hj, waiting] using h.ledgers j

/-- An entry. -/
theorem enter (h : p.Kept looked missed) {errand : Nat} (hn : errand < p.errands.length) :
    (p.apply (.enter errand)).2.Kept looked missed := by
  have he := List.getElem?_eq_getElem hn
  generalize p.errands[errand] = e at he
  obtain ⟨left, right, hs, hlen⟩ : ∃ left right, p.errands = left ++ e :: right ∧
      left.length = errand := by
    obtain ⟨hn, rfl⟩ := List.getElem?_eq_some_iff.mp he
    exact ⟨p.errands.take errand, p.errands.drop (errand + 1), by simp,
      List.length_take_of_le (Nat.le_of_lt hn)⟩
  have hc : e.cache < p.decoders.caches.size := h.errands e (by simp [hs])
  have hr : p.errands.eraseIdx errand = left ++ right := by
    rw [hs, ← hlen, List.eraseIdx_append_of_length_le (Nat.le_refl _), Nat.sub_self]
    rfl
  rw [apply_enter p he, hr]
  refine ⟨fun d hd => (size_setCache ..).symm ▸ h.owners d hd, fun x hx => ?_, fun i => ?_⟩
  · refine (size_setCache ..).symm ▸ h.errands x ?_
    rw [hs]
    exact (List.mem_append.mp hx).elim (List.mem_append_left _) fun hx =>
      List.mem_append_right _ (List.mem_cons_of_mem _ hx)
  · have hi := h.ledgers i
    rw [hs, waiting_append, waiting_cons] at hi
    show Ledger ((p.setCache e.cache _).cacheAt i) (waiting (left ++ right) i) _ _
    rw [cacheAt_setCache, waiting_append]
    by_cases hic : i = e.cache
    · subst hic
      rw [if_pos ⟨rfl, hc⟩]
      rw [if_pos rfl] at hi
      refine hi.enter ((hi.looked_iff _).mpr (.inr (by simp))) fun other ho => ?_
      simp [ho]
    · rw [if_neg fun hn => hic hn.1]
      rwa [if_neg (Ne.symm hic), List.nil_append] at hi

/-- A decode is a look-up and perhaps an entry. -/
theorem decode (h : p.Kept looked missed) {decoder : Nat} (command : String)
    (hd : decoder < p.decoders.owners.size) :
    let x : Exchange := ⟨p, .decode decoder command⟩
    x.after.Kept (fun i => looked i ++ (x.looked? i).toList)
      (fun i => missed i ++ (x.missed? i).toList) := by
  intro x
  have hk := h.lookUp command hd
  cases he : (p.cacheAt (p.decoders.cacheIndex decoder)).entries[normalized command]? with
  | some d =>
    have hl := apply_lookUp_of_some p decoder command rfl he
    rwa [show x.after = (Exchange.mk p (.lookUp decoder command)).after by
      simp only [Exchange.after, x, apply_decode, hl]]
  | none =>
    have hl := apply_lookUp_of_none p decoder command rfl he
    have ha : x.after = ((Exchange.mk p (.lookUp decoder command)).after.apply
        (.enter p.errands.length)).2 := by
      simp only [Exchange.after, x, apply_decode, hl]
    rw [ha]
    refine hk.enter ?_
    simp [Exchange.after, hl]

/-- A new decoder has a new cache. -/
theorem create (h : p.Kept looked missed) : (p.apply .create).2.Kept looked missed := by
  have hs : (p.decoders.caches.push {}).size = p.decoders.caches.size + 1 := Array.size_push ..
  refine ⟨fun d hd => ?_, fun e he => ?_, fun i => ?_⟩
  · simp only [apply, Decoders.addOwner, Array.size_push] at hd
    simp only [apply, Decoders.addOwner, Decoders.cacheIndex, hs, Array.getD_eq_getD_getElem?,
      Array.getElem?_push]
    by_cases hn : d = p.decoders.owners.size
    · simp [hn]
    · rw [if_neg hn]
      have := h.owners d (by omega)
      rw [Decoders.cacheIndex, Array.getD_eq_getD_getElem?] at this
      omega
  · have := h.errands e he
    simp only [apply, Decoders.addOwner, hs]
    omega
  · rw [cacheAt_create]
    exact h.ledgers i

/-- A clone has the cache of the decoder it was made from. -/
theorem clone (h : p.Kept looked missed) {decoder : Nat}
    (hd : decoder < p.decoders.owners.size) : (p.apply (.clone decoder)).2.Kept looked missed := by
  refine ⟨fun d hn => ?_, h.errands, h.ledgers⟩
  simp only [apply, Decoders.clone, Array.size_push] at hn
  simp only [apply, Decoders.clone]
  rw [Decoders.cacheIndex, Array.getD_eq_getD_getElem?, Array.getElem?_push]
  by_cases hn' : d = p.decoders.owners.size
  · simpa [hn'] using h.owners decoder hd
  · rw [if_neg hn', ← Array.getD_eq_getD_getElem?]
    exact h.owners d (by omega)

/-- Every call keeps the ledgers, with the keys that it looks up. -/
theorem step (h : p.Kept looked missed) {call : Call} (ha : p.Allows call) :
    let x : Exchange := ⟨p, call⟩
    x.after.Kept (fun i => looked i ++ (x.looked? i).toList)
      (fun i => missed i ++ (x.missed? i).toList) := by
  cases call with
  | decode decoder command => exact h.decode command ha
  | lookUp decoder command => exact h.lookUp command ha
  | create => simpa [Exchange.after, Exchange.looked?, Exchange.missed?] using h.create
  | clone decoder => simpa [Exchange.after, Exchange.looked?, Exchange.missed?] using h.clone ha
  | enter errand => simpa [Exchange.after, Exchange.looked?, Exchange.missed?] using h.enter ha

/-- The answer of a call is what its command decodes to. Only the first half of a decode may have
none, and then the second half is yet to come. -/
theorem answer (h : p.Kept looked missed) {call : Call} (ha : p.Allows call) {command : String}
    (hc : (Exchange.mk p call).command? = some command) :
    (Exchange.mk p call).answer? = some (decodeFresh command) ∨
      (Exchange.mk p call).answer? = none ∧ ∃ decoder, call = .lookUp decoder command ∧
        (Exchange.mk p call).after.errands =
          p.errands ++ [⟨p.decoders.cacheIndex decoder, command⟩] := by
  cases call with
  | create | clone => cases hc
  | decode decoder command' =>
    obtain rfl := Option.some.inj hc
    exact .inl (congrArg some ((h.ledgers _).sound.decode command'))
  | lookUp decoder command' =>
    obtain rfl := Option.some.inj hc
    cases he : (p.cacheAt (p.decoders.cacheIndex decoder)).entries[normalized command']? with
    | some d =>
      rw [Exchange.answer?, apply_lookUp_of_some p decoder command' rfl he,
        (h.ledgers _).sound _ d he]
      exact .inl rfl
    | none =>
      rw [Exchange.answer?, Exchange.after, apply_lookUp_of_none p decoder command' rfl he]
      exact .inr ⟨rfl, decoder, rfl, rfl⟩
  | enter errand =>
    obtain ⟨e, he, rfl⟩ := Option.map_eq_some_iff.mp hc
    rw [Exchange.answer?, apply_enter p he]
    exact .inl rfl

end Kept

theorem Extends.refl (p : Pool) : p.Extends p := fun _ _ _ h => h

theorem Extends.trans {p q r : Pool} (hq : p.Extends q) (hr : q.Extends r) : p.Extends r :=
  fun i key d h => hr i key d (hq i key d h)

theorem extends_setCache {i : Nat} {cache : Cache}
    (h : ∀ (key : String) d, (p.cacheAt i).entries[key]? = some d → cache.entries[key]? = some d) :
    p.Extends (p.setCache i cache) := by
  intro j key d he
  rw [cacheAt_setCache]
  split
  · rename_i hj
    rw [hj.1] at he
    exact h key d he
  · exact he

/-- No call changes or removes an entry. -/
theorem Kept.extends (h : p.Kept looked missed) (call : Call) : p.Extends (p.apply call).2 := by
  cases call with
  | create =>
    intro i key d he
    rwa [cacheAt_create]
  | clone => exact Extends.refl p
  | decode decoder command =>
    exact extends_setCache fun key d he => (h.ledgers _).sound.getElem?_decode he command
  | lookUp decoder command =>
    have hx : p.Extends (p.setCache _ ((p.cacheAt (p.decoders.cacheIndex decoder)).get
        (normalized command)).2) :=
      extends_setCache fun key d he => by rwa [Cache.entries_get]
    cases he : (p.cacheAt (p.decoders.cacheIndex decoder)).entries[normalized command]? with
    | some d => rwa [apply_lookUp_of_some p decoder command rfl he]
    | none => rw [apply_lookUp_of_none p decoder command rfl he]; exact hx
  | enter errand =>
    cases he : p.errands[errand]? with
    | none =>
      simp only [apply, he]
      exact Extends.refl p
    | some e =>
      rw [apply_enter p he]
      exact extends_setCache fun key d hk => (h.ledgers _).sound.getElem?_insert hk _

/-- A call leaves every cache alone but the one that it uses. -/
theorem cacheAt_of_ne {call : Call} {i : Nat} (h : (Exchange.mk p call).cache? ≠ some i) :
    (p.apply call).2.cacheAt i = p.cacheAt i := by
  have hs : ∀ j cache, j ≠ i → (p.setCache j cache).cacheAt i = p.cacheAt i := fun j cache hj => by
    rw [cacheAt_setCache, if_neg fun hi => hj hi.1.symm]
  cases call with
  | create => exact cacheAt_create p i
  | clone => rfl
  | decode decoder command => exact hs _ _ fun hi => h (congrArg some hi)
  | lookUp decoder command =>
    have hi : p.decoders.cacheIndex decoder ≠ i := fun hi => h (congrArg some hi)
    cases he : (p.cacheAt (p.decoders.cacheIndex decoder)).entries[normalized command]? with
    | some d => rw [apply_lookUp_of_some p decoder command rfl he]; exact hs _ _ hi
    | none => rw [apply_lookUp_of_none p decoder command rfl he]; exact hs _ _ hi
  | enter errand =>
    cases he : p.errands[errand]? with
    | none => simp only [apply, he]
    | some e =>
      rw [apply_enter p he]
      exact hs _ _ fun hi => h (by simp [Exchange.cache?, he, hi])

end Pool

namespace History

variable {trace : List Exchange} {p : Pool}

/-- What one more call adds to the keys of a cache. -/
theorem filterMap_snoc (trace : List Exchange) (x : Exchange) (f : Exchange → Nat → Option String)
    (i : Nat) :
    (trace ++ [x]).filterMap (f · i) = trace.filterMap (f · i) ++ (f x i).toList := by
  rw [List.filterMap_append, List.filterMap_cons]
  cases f x i <;> rfl

/-- The ledgers of all caches after any history. -/
theorem kept (h : History trace p) : p.Kept (looked trace) (missed trace) := by
  induction h with
  | nil =>
    constructor
    case owners => exact fun d hd => absurd hd (Nat.not_lt_zero d)
    case errands => exact fun e he => absurd he List.not_mem_nil
    case ledgers => exact fun _ => Ledger.empty
  | @snoc trace p call _ ha ih =>
    have hs := ih.step ha
    have hl : looked (trace ++ [⟨p, call⟩]) = _ := funext (filterMap_snoc trace _ Exchange.looked?)
    have hm : missed (trace ++ [⟨p, call⟩]) = _ := funext (filterMap_snoc trace _ Exchange.missed?)
    rw [hl, hm]
    exact hs

/-- A call of a history was made after some history, and could be made then. -/
theorem of_mem (h : History trace p) {x : Exchange} (hx : x ∈ trace) :
    (∃ left, History left x.before) ∧ x.before.Allows x.call := by
  induction h with
  | nil => cases hx
  | @snoc trace p call hp ha ih =>
    rcases List.mem_append.mp hx with hx | hx
    · exact ih hx
    · obtain rfl := List.mem_singleton.mp hx
      exact ⟨⟨trace, hp⟩, ha⟩

/-- What was entered before some call of a history is there at its end. -/
theorem extends_of_mem (h : History trace p) {x : Exchange} (hx : x ∈ trace) :
    x.before.Extends p := by
  induction h with
  | nil => cases hx
  | @snoc trace p call hp ha ih =>
    rcases List.mem_append.mp hx with hx | hx
    · exact (ih hx).trans (hp.kept.extends call)
    · obtain rfl := List.mem_singleton.mp hx
      exact hp.kept.extends call

/-- Where every decode is made at once, nothing waits to be entered, and no key is missed twice. -/
theorem undivided (h : History trace p) (hu : Undivided trace) :
    p.errands = [] ∧ ∀ i, (missed trace i).Nodup := by
  induction h with
  | nil => exact ⟨rfl, fun _ => List.nodup_nil⟩
  | @snoc trace p call hp ha ih =>
    unfold Undivided at hu
    rw [List.forall_mem_append] at hu
    obtain ⟨he, hn⟩ := ih hu.1
    constructor
    · have hc := hu.2 _ (List.mem_singleton_self _)
      cases call with
      | lookUp | enter => cases hc
      | create | clone | decode => exact he
    · intro i
      rw [missed, filterMap_snoc, List.nodup_append]
      refine ⟨hn i, ?_, ?_⟩
      · cases Exchange.missed? ⟨p, call⟩ i <;> simp
      · rintro key hk _ hm rfl
        -- Nothing waits, so that a key that was missed before has its entry by now.
        have hxm := Option.mem_toList.mp hm
        have hl := hp.kept.ledgers i
        rw [he] at hl
        have hin := ((hl.looked_iff key).mp ((hl.missed_iff key).mp hk)).resolve_right
          List.not_mem_nil
        obtain ⟨-, hnone⟩ := Option.filter_eq_some_iff.mp hxm
        exact Cache.mem_iff.mp hin (Option.isNone_iff_eq_none.mp hnone)

end History

/-- Decoders remember without being noticed. After any history, whoever made its calls and however
the two halves of their decodes took turns:

- every decode answered what a new decoder answers, at once or, where nothing was found, with the
  entry that it then still had to make;
- every entry is what its key decodes to, and stays for good;
- a call changed no cache but the one that its decoder uses;
- the look-ups in a cache, and those of them that found nothing, are as many as its counters say,
  and there are no more entries than different keys, and no more of these than misses;
- where nothing waits to be entered every key has its entry, and where every decode was made at once
  there is one miss for each. -/
theorem decoding_remembers {trace : List Exchange} {p : Pool} (h : History trace p) :
    (∀ x ∈ trace, ∀ command, x.command? = some command →
      x.answer? = some (({} : Cache).decode command).value.1 ∨
        x.answer? = none ∧ ∃ decoder, x.call = .lookUp decoder command ∧
          x.after.errands =
            x.before.errands ++ [⟨x.before.decoders.cacheIndex decoder, command⟩]) ∧
    (∀ x ∈ trace, ∀ i (key : String) d,
      (x.before.cacheAt i).entries[key]? = some d → (p.cacheAt i).entries[key]? = some d) ∧
    (∀ x ∈ trace, ∀ i, x.cache? ≠ some i → x.after.cacheAt i = x.before.cacheAt i) ∧
    ∀ i, let c := p.cacheAt i
      let keys := (looked trace i).dedup
      (∀ key d, c.entries[key]? = some d → d = decodeKey key) ∧
      c.hits + c.misses = .ofNat (looked trace i).length ∧
      c.misses = .ofNat (missed trace i).length ∧
      c.size ≤ keys.length ∧ keys.length ≤ (missed trace i).length ∧
      ((∀ e ∈ p.errands, e.cache ≠ i) → c.size = keys.length) ∧
      (Undivided trace → (missed trace i).length = keys.length ∧ c.size = keys.length) := by
  refine ⟨fun x hx command hc => ?_, fun x hx => h.extends_of_mem hx,
    fun x _ i hi => Pool.cacheAt_of_ne hi, fun i => ?_⟩
  · obtain ⟨⟨left, hl⟩, ha⟩ := h.of_mem hx
    rw [Cache.value_decode_empty]
    exact hl.kept.answer ha hc
  · have hl := h.kept.ledgers i
    refine ⟨hl.sound, hl.calls, hl.misses, hl.size_le.1, hl.size_le.2, fun hw => ?_, fun hu => ?_⟩
    · have hn : waiting p.errands i = [] := by
        unfold waiting
        rw [List.filter_eq_nil_iff.mpr fun e he => by simpa using hw e he, List.map_nil]
      rw [hn] at hl
      exact hl.size_eq
    · obtain ⟨hn, hm⟩ := h.undivided hu
      rw [hn] at hl
      exact ⟨hl.length_missed (hm i), hl.size_eq⟩

/-- Two callers decode one command through a decoder and its clone, and take turns; another decoder
has its own cache. -/
theorem decoding_remembers_race :
    let calls : List Call := [.create, .clone 0, .create, .lookUp 0 "d1b2", .lookUp 1 "D1B2",
      .enter 1, .decode 2 "d1b2", .enter 0, .decode 1 "D1b2"]
    let trace := ({} : Pool).traceOf calls
    let p := ({} : Pool).follow calls
    (∀ x ∈ trace, ∀ command ∈ x.command?,
      x.answer? = some (Descriptor.button 1 2 250 .pulse) ∨ x.answer? = none) ∧
    (looked trace 0).dedup.length = 1 ∧ (p.cacheAt 0).size = 1 ∧ (missed trace 0).length = 2 ∧
    (p.cacheAt 0).hits + (p.cacheAt 0).misses = 3 ∧ (p.cacheAt 1).size = 1 := by
  intro calls trace p
  have hc : ({} : Pool).canFollow calls = true := by decide +kernel
  have h : History trace p := History.nil.follow hc
  obtain ⟨ha, -, -, hi⟩ := decoding_remembers h
  obtain ⟨-, hc, -, -, -, hs, -⟩ := hi 0
  have hd : (looked trace 0).dedup.length = 1 := by decide +kernel
  have hf : ∀ x ∈ trace, ∀ command ∈ x.command?,
      (({} : Cache).decode command).value.1 = Descriptor.button 1 2 250 .pulse := by decide +kernel
  refine ⟨fun x hx command hc => ?_, hd, (hs (by decide +kernel)).trans hd, by decide +kernel,
    hc.trans (by decide +kernel), by decide +kernel⟩
  exact (ha x hx command hc).imp (hf x hx command hc ▸ ·) And.left

end ControlDeck.Command
