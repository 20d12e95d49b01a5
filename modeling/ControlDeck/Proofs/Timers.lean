import ControlDeck.Dispatch.Tracker

/-!
# Laws of the pulse timers

What the steps of a tracker do to everything that can be read from it and from its queue.

- **Known buttons** (`Tracker.isKnown`): the buttons that were ever pulsed. A release is confirmed
  exactly if its button is known, carries its generation and has no armed timer
  (`confirms_iff`).
- **Expiry** (`expire_queue`): an armed timer that expires appends the release of its pulse, unless
  no producer is left or the queue is closed.
- **Armed timers** (`mem_armed`, `armed_ascending`): the list of armed timers has each armed button
  once, in ascending order.
- **Cancelling** (`pulses_cancelAll`): every armed timer is disarmed and its generation raised, and
  no other button is touched.
-/

namespace ControlDeck.Dispatch

/-- The release that ends a pulse of a button. -/
abbrev Job.ending (k : ButtonKey) (generation : UInt64) : Job := ⟨k, .pulseRelease generation⟩

namespace Tracker

/-- Whether a button was ever pulsed. -/
def isKnown (t : Tracker) (k : ButtonKey) : Bool := t.entries.contains k

theorem pulses_of_not_isKnown {t : Tracker} {k : ButtonKey} (h : t.isKnown k = false) :
    t.pulses k = {} :=
  Std.TreeMap.getD_eq_fallback_of_contains_eq_false h

theorem isArmed_eq (t : Tracker) (k : ButtonKey) : t.isArmed k = (t.pulses k).timer?.isSome := rfl

theorem isKnown_of_isArmed {t : Tracker} {k : ButtonKey} (h : t.isArmed k = true) :
    t.isKnown k = true := by
  cases hk : t.isKnown k with
  | true => rfl
  | false =>
    rw [isArmed_eq, pulses_of_not_isKnown hk] at h
    cases h

theorem mem_keys_of_isArmed {t : Tracker} {k : ButtonKey} (h : t.isArmed k = true) :
    k ∈ t.entries.keys :=
  Std.TreeMap.mem_keys.mpr (isKnown_of_isArmed h)

theorem confirms_iff {t : Tracker} {k : ButtonKey} {g : UInt64} :
    t.confirms k g = true ↔ t.isKnown k = true ∧ t.pulses k = ⟨g, none⟩ := by
  unfold confirms isKnown pulses
  rw [Std.TreeMap.getD_eq_getD_getElem?, Std.TreeMap.contains_eq_isSome_getElem?]
  rcases t.entries[k]? with _ | ⟨generation, timer?⟩
  · simp
  · cases timer? <;> simp

/-- Whether a release is confirmed depends on the entry of its button alone. -/
theorem confirms_congr {t u : Tracker} {k : ButtonKey} (hk : u.isKnown k = t.isKnown k)
    (hp : u.pulses k = t.pulses k) (g : UInt64) : u.confirms k g = t.confirms k g := by
  rw [Bool.eq_iff_iff, confirms_iff, confirms_iff, hk, hp]

/-- A known button without an armed timer confirms the release of its latest pulse. -/
theorem confirms_of_not_isArmed {t : Tracker} {k : ButtonKey} (hk : t.isKnown k = true)
    (ha : t.isArmed k = false) : t.confirms k (t.pulses k).generation = true := by
  refine confirms_iff.mpr ⟨hk, ?_⟩
  rcases hp : t.pulses k with ⟨generation, _ | timer⟩
  · rfl
  · rw [isArmed_eq, hp] at ha
    cases ha

theorem isKnown_insert (entries : Std.TreeMap ButtonKey Pulses) (armings : Nat)
    (k other : ButtonKey) (p : Pulses) :
    (Tracker.mk (entries.insert k p) armings).isKnown other =
      (other == k || (Tracker.mk entries armings).isKnown other) := by
  simp only [isKnown, Std.TreeMap.contains_insert]
  congr 1
  rw [Bool.eq_iff_iff, beq_iff_eq, beq_iff_eq, Std.compare_eq_iff_eq]
  exact eq_comm

theorem isKnown_arm (t : Tracker) (k other : ButtonKey) (length : Nat) (now : Moment) :
    (t.arm k length now).value.isKnown other = (other == k || t.isKnown other) := by
  simp only [arm, Logged.value_ite, Logged.value_bind, Logged.value_pure, ite_self]
  exact isKnown_insert ..

/-- An expiry makes no button known. -/
theorem isKnown_expire (t : Tracker) (q : Queue) (k other : ButtonKey) :
    (t.expire q k).value.1.isKnown other = t.isKnown other := by
  unfold expire
  rcases hp : t.pulses k with ⟨generation, _ | timer⟩
  · rfl
  · have hk : t.isKnown k = true := isKnown_of_isArmed (by rw [isArmed_eq, hp]; rfl)
    have h : (Tracker.mk (t.entries.insert k ⟨generation, none⟩) t.armings).isKnown other =
        t.isKnown other := by
      rw [isKnown_insert]
      by_cases ho : other = k
      · rw [ho, hk, Bool.or_true]
      · rw [beq_eq_false_iff_ne.mpr ho, Bool.false_or]
    dsimp only
    split
    · exact h
    · split <;> exact h

/-- A cancellation makes no button known. -/
theorem isKnown_cancel (t : Tracker) (k other : ButtonKey) :
    (t.cancel k).isKnown other = t.isKnown other := by
  unfold cancel
  rcases hp : t.pulses k with ⟨generation, _ | timer⟩
  · rfl
  · have hk : t.isKnown k = true := isKnown_of_isArmed (by rw [isArmed_eq, hp]; rfl)
    refine (isKnown_insert ..).trans ?_
    by_cases ho : other = k
    · rw [ho, Bool.or_eq_true_iff.mpr (.inr hk)]
      exact hk.symm
    · rw [beq_eq_false_iff_ne.mpr ho, Bool.false_or]

/-! ## What an expiry queues -/

/-- An armed timer appends the release of its pulse, where there is somebody to send it to. -/
theorem expire_queue {t : Tracker} {k : ButtonKey} (h : t.isArmed k = true) (q : Queue) :
    (t.expire q k).value.2 =
      { q with jobs := q.jobs ++
          if q.hasSender && q.isOpen then [Job.ending k (t.pulses k).generation] else [] } := by
  unfold expire
  rw [isArmed_eq] at h
  rcases hp : t.pulses k with ⟨generation, _ | timer⟩
  · rw [hp] at h
    cases h
  · rcases q with ⟨jobs, isOpen, hasSender⟩
    cases hasSender <;> cases isOpen <;> simp [Queue.send?]

/-- A timer that is not armed does not expire. -/
theorem expire_of_not_isArmed {t : Tracker} {k : ButtonKey} (h : t.isArmed k = false) (q : Queue) :
    (t.expire q k).value = (t, q) := by
  unfold expire
  rw [isArmed_eq] at h
  rcases hp : t.pulses k with ⟨generation, _ | timer⟩
  · rfl
  · rw [hp] at h
    cases h

/-- An expiry leaves both ends of the queue alone. -/
theorem expire_ends (t : Tracker) (q : Queue) (k : ButtonKey) :
    (t.expire q k).value.2.isOpen = q.isOpen ∧
      (t.expire q k).value.2.hasSender = q.hasSender := by
  cases ha : t.isArmed k with
  | true =>
    rw [expire_queue ha]
    exact ⟨rfl, rfl⟩
  | false =>
    rw [expire_of_not_isArmed ha]
    exact ⟨rfl, rfl⟩

theorem isArmed_expire (t : Tracker) (q : Queue) (k other : ButtonKey) :
    (t.expire q k).value.1.isArmed other = (!(other == k) && t.isArmed other) := by
  rw [isArmed_eq, pulses_expire]
  by_cases ho : other = k
  · simp [ho]
  · simp [ho, isArmed_eq]

theorem isArmed_cancel (t : Tracker) (k other : ButtonKey) :
    (t.cancel k).isArmed other = (!(other == k) && t.isArmed other) := by
  rw [isArmed_eq, pulses_cancel]
  by_cases ho : other = k
  · subst ho
    cases ha : t.isArmed other
    · simp [← isArmed_eq, ha]
    · simp
  · simp [ho, isArmed_eq]

theorem isArmed_arm (t : Tracker) (k other : ButtonKey) (length : Nat) (now : Moment) :
    (t.arm k length now).value.isArmed other = (other == k || t.isArmed other) := by
  rw [isArmed_eq, pulses_arm]
  by_cases ho : other = k
  · simp [ho]
  · simp [ho, isArmed_eq]

/-! ## All armed timers -/

theorem mem_armed {t : Tracker} {k : ButtonKey} {timer : Timer} :
    (k, timer) ∈ t.armed ↔ t.timer? k = some timer := by
  unfold armed timer? pulses
  rw [Std.TreeMap.getD_eq_getD_getElem?, List.mem_filterMap]
  constructor
  · rintro ⟨⟨k', p⟩, hm, he⟩
    rw [Std.TreeMap.mem_toList_iff_getElem?_eq_some] at hm
    obtain ⟨t', ht, he⟩ := Option.map_eq_some_iff.mp he
    cases he
    rw [hm]
    exact ht
  · intro h
    cases hk : t.entries[k]? with
    | none => rw [hk] at h; cases h
    | some p =>
      rw [hk] at h
      exact ⟨(k, p), Std.TreeMap.mem_toList_iff_getElem?_eq_some.mpr hk,
        Option.map_eq_some_iff.mpr ⟨timer, h, rfl⟩⟩

theorem mem_map_armed {t : Tracker} {k : ButtonKey} :
    k ∈ t.armed.map (·.1) ↔ t.isArmed k = true := by
  rw [isArmed, Option.isSome_iff_exists, List.mem_map]
  constructor
  · rintro ⟨⟨k', timer⟩, hm, rfl⟩
    exact ⟨timer, mem_armed.mp hm⟩
  · rintro ⟨timer, h⟩
    exact ⟨(k, timer), mem_armed.mpr h, rfl⟩

theorem isArmed_of_armedCount {t : Tracker} (h : t.armedCount = 0) (k : ButtonKey) :
    t.isArmed k = false := by
  have hn : t.armed = [] := List.eq_nil_of_length_eq_zero h
  refine Bool.eq_false_iff.mpr fun ha => ?_
  rw [← mem_map_armed, hn] at ha
  exact absurd ha List.not_mem_nil

/-- The next deadline is that of an armed timer, and no other comes before it. -/
theorem nextDeadline?_eq_some {t : Tracker} {d : Nat} (h : t.nextDeadline? = some d) :
    (∃ k timer, t.timer? k = some timer ∧ timer.deadline = d) ∧
      ∀ k timer, t.timer? k = some timer → d ≤ timer.deadline := by
  obtain ⟨hm, hd⟩ := List.min?_eq_some_iff.mp h
  constructor
  · obtain ⟨⟨k, timer⟩, ht, rfl⟩ := List.mem_map.mp hm
    exact ⟨k, timer, mem_armed.mp ht, rfl⟩
  · intro k timer ht
    exact hd _ (List.mem_map.mpr ⟨(k, timer), mem_armed.mpr ht, rfl⟩)

/-- Without a next deadline no timer is armed. -/
theorem nextDeadline?_eq_none {t : Tracker} (h : t.nextDeadline? = none) (k : ButtonKey) :
    t.timer? k = none := by
  rw [nextDeadline?, List.min?_eq_none_iff, List.map_eq_nil_iff] at h
  cases ht : t.timer? k with
  | none => rfl
  | some timer =>
    rw [← mem_armed, h] at ht
    exact absurd ht List.not_mem_nil

theorem armed_ascending (t : Tracker) :
    t.armed.Pairwise fun a b => compare a.1 b.1 = .lt := by
  unfold armed
  refine List.Pairwise.filterMap _ ?_ (Std.TreeMap.ordered_keys_toList)
  rintro ⟨a, p⟩ ⟨b, r⟩ hab x hx y hy
  obtain ⟨_, -, rfl⟩ := Option.map_eq_some_iff.mp hx
  obtain ⟨_, -, rfl⟩ := Option.map_eq_some_iff.mp hy
  exact hab

theorem nodup_map_armed (t : Tracker) : (t.armed.map (·.1)).Nodup := by
  rw [List.nodup_iff_pairwise_ne, List.pairwise_map]
  refine t.armed_ascending.imp ?_
  rintro ⟨a, _⟩ ⟨b, _⟩ hlt rfl
  rw [Std.compare_self] at hlt
  cases hlt

/-- The timers that are due are the armed ones whose deadline has come. -/
theorem due_perm (t : Tracker) (now : Nat) :
    (t.due now).Perm (t.armed.filter fun x => x.2.deadline ≤ now) :=
  List.mergeSort_perm ..

theorem nodup_map_due (t : Tracker) (now : Nat) : ((t.due now).map (·.1)).Nodup :=
  ((t.due_perm now).map (·.1)).nodup_iff.mpr
    (t.nodup_map_armed.sublist (List.filter_sublist.map _))

/-- The armed buttons come out in ascending order, in whatever order they were collected. -/
theorem mergeSort_of_perm_armed {t : Tracker} {keys : List ButtonKey}
    (h : keys.Perm (t.armed.map (·.1))) :
    keys.mergeSort (fun a b => (compare a b).isLE) = t.armed.map (·.1) := by
  have hs : (keys.mergeSort fun a b => (compare a b).isLE).Pairwise fun a b =>
      (compare a b).isLE = true := by
    refine List.pairwise_mergeSort (fun a b c => Std.TransCmp.isLE_trans) (fun a b => ?_) keys
    cases hab : (compare a b).isLE with
    | true => rfl
    | false =>
      rw [Bool.false_or, Std.OrientedCmp.lt_of_not_isLE (Bool.eq_false_iff.mp hab)]
      rfl
  have ha : (t.armed.map (·.1)).Pairwise fun a b => (compare a b).isLE = true :=
    List.pairwise_map.mpr (t.armed_ascending.imp fun h => by rw [h]; rfl)
  refine List.Perm.eq_of_pairwise (fun a b _ _ hab hba => ?_) hs ha
    ((List.mergeSort_perm ..).trans h)
  exact Std.LawfulEqOrd.eq_of_compare (Std.OrientedCmp.isLE_antisymm hab hba)

/-! ## Cancelling -/

/-- The buttons with an armed timer are the known ones whose timer is armed. -/
theorem filter_keys_isArmed (t : Tracker) :
    t.entries.keys.filter t.isArmed = t.armed.map (·.1) := by
  have hm : ∀ x ∈ t.entries.toList, t.isArmed x.1 = x.2.timer?.isSome := by
    intro x hx
    rw [Std.TreeMap.mem_toList_iff_getElem?_eq_some] at hx
    rw [isArmed_eq, pulses, Std.TreeMap.getD_eq_getD_getElem?, hx]
    rfl
  rw [← Std.TreeMap.map_fst_toList_eq_keys, armed]
  generalize t.entries.toList = l at hm
  induction l with
  | nil => rfl
  | cons x l ih =>
    obtain ⟨k, generation, timer?⟩ := x
    have ih := ih fun y hy => hm y (List.mem_cons_of_mem _ hy)
    have hx := hm _ List.mem_cons_self
    rw [List.map_cons, List.filter_cons, hx, List.filterMap_cons, ih]
    cases timer? <;> rfl

/-- Cancelling a timer that is not armed changes nothing. -/
theorem cancel_of_not_isArmed {t : Tracker} {k : ButtonKey} (h : t.isArmed k = false) :
    t.cancel k = t := by
  unfold cancel
  rw [isArmed_eq] at h
  rcases hp : t.pulses k with ⟨generation, _ | timer⟩
  · rfl
  · rw [hp] at h
    cases h

theorem pulses_foldl_cancel (keys : List ButtonKey) (t : Tracker) (k : ButtonKey) :
    (keys.foldl cancel t).pulses k =
      if k ∈ keys ∧ t.isArmed k then ⟨(t.pulses k).generation + 1, none⟩ else t.pulses k := by
  induction keys generalizing t with
  | nil => simp
  | cons c keys ih =>
    rw [List.foldl_cons, ih, isArmed_cancel, pulses_cancel]
    by_cases hc : k = c
    · subst hc
      cases t.isArmed k <;> simp
    · simp [hc]

/-- Every armed timer is disarmed and the generation of its button raised; nothing else changes. -/
theorem pulses_cancelAll (t : Tracker) (k : ButtonKey) :
    t.cancelAll.2.pulses k =
      if t.isArmed k then ⟨(t.pulses k).generation + 1, none⟩ else t.pulses k := by
  unfold cancelAll
  rw [pulses_foldl_cancel]
  simp only [mem_map_armed, and_self]

theorem isArmed_cancelAll (t : Tracker) (k : ButtonKey) : t.cancelAll.2.isArmed k = false := by
  rw [isArmed_eq, pulses_cancelAll]
  cases h : t.isArmed k
  · simpa [← isArmed_eq] using h
  · rfl

end Tracker

end ControlDeck.Dispatch
