import ControlDeck.Proofs.Timers
import Mathlib.Data.List.Induction

/-!
# Timers by themselves

A tracker and the queue that its timers send to, with nobody who acts on what they send. Buttons are
pulsed, all timers are cancelled, timers wake up and the two ends of the queue go away, in any
order.

- **Ticks** (`Tick`, `Alarms.apply`): what can happen. The timer of a pulse is named by its button
  and the generation of the pulse. It may wake at any time, also when it was replaced or cancelled
  before; the generation tells that there is nothing left for it to do.
- **Raises** (`Alarms.raises`): how often the generation of a button is raised. Without a pulse no
  timer is armed again (`raises_pos`).
- **Sends** (`Alarms.gained`, `Alarms.sent`): the releases that the queue gains, each with the tick
  that sent it.
- **Awaited timers** (`Awaited`): the latest pulse of a button has neither ended nor been cancelled.
- `timers_send_once`: what all this comes to.
-/

namespace ControlDeck

/-- Buttons are in ascending order if their devices are, or else their numbers. -/
theorem ButtonKey.compare_eq_lt_iff {a b : ButtonKey} :
    compare a b = .lt ↔ a.device < b.device ∨ a.device = b.device ∧ a.button < b.button := by
  rw [show compare a b = (compare a.device b.device).then (compare a.button b.button) from rfl,
    Ordering.then_eq_lt, Std.compare_eq_iff_eq, Std.compare_eq_lt, Std.compare_eq_lt]

namespace Dispatch

/-! ## Ticks -/

/-- A tracker and the queue that its timers send to. -/
structure Alarms where
  tracker : Tracker := {}
  queue : Queue := {}

/-- What can happen to them. -/
inductive Tick
  | pulse (k : ButtonKey) (length : Nat) (now : Moment)
  | wake (k : ButtonKey) (generation : UInt64)
  | cancelAll
  | dropSender
  | close
  | receive
  deriving DecidableEq, Repr

namespace Tick

/-- Whether a button is pulsed. -/
def pulses (k : ButtonKey) : Tick → Bool
  | .pulse c .. => c = k
  | _ => false

/-- Whether the pulses of a button so far are superseded or cancelled. -/
def supersedes (k : ButtonKey) : Tick → Bool
  | .pulse c .. => c = k
  | .cancelAll => true
  | _ => false

/-- Whether the pulse of a button with some generation is over: its timer wakes, or is superseded or
cancelled. -/
def ends (k : ButtonKey) (generation : UInt64) : Tick → Bool
  | .wake c g => c = k ∧ g = generation
  | e => e.supersedes k

end Tick

namespace Alarms

variable {s : Alarms} {k : ButtonKey} {g : UInt64} {e : Tick} {ticks left right : List Tick}

/-- The generation of a button. -/
def generation (s : Alarms) (k : ButtonKey) : UInt64 := (s.tracker.pulses k).generation

/-- What a tick does. A timer that wakes when the generation of its pulse is over does nothing. -/
def apply (s : Alarms) : Tick → Alarms
  | .pulse k length now => { s with tracker := (s.tracker.arm k length now).value }
  | .wake k g =>
    if s.generation k = g then
      let (tracker, queue) := (s.tracker.expire s.queue k).value
      { tracker, queue }
    else s
  | .cancelAll => { s with tracker := s.tracker.cancelAll.2 }
  | .dropSender => { s with queue := s.queue.dropSender }
  | .close => { s with queue := s.queue.close }
  | .receive => { s with queue := s.queue.takeAll.2 }

/-- What some ticks do, one after the other. -/
def follow (s : Alarms) (ticks : List Tick) : Alarms := ticks.foldl apply s

/-- How often the generation of a button is raised. -/
def raises (s : Alarms) (k : ButtonKey) : List Tick → Nat
  | [] => 0
  | e :: es =>
    (if (s.apply e).generation k = s.generation k then 0 else 1) + (s.apply e).raises k es

/-- The jobs that the queue gains by a tick. -/
def gained (s : Alarms) (e : Tick) : List Job :=
  (s.apply e).queue.jobs.drop s.queue.jobs.length

/-- The jobs that the queue gains by some ticks, each with the tick by which it does. -/
def sent (s : Alarms) : List Tick → List (Tick × Job)
  | [] => []
  | e :: es => (s.gained e).map (e, ·) ++ (s.apply e).sent es

theorem follow_append (s : Alarms) (left right : List Tick) :
    s.follow (left ++ right) = (s.follow left).follow right :=
  List.foldl_append

theorem raises_append (s : Alarms) (k : ButtonKey) (left right : List Tick) :
    s.raises k (left ++ right) = s.raises k left + (s.follow left).raises k right := by
  induction left generalizing s with
  | nil => exact (Nat.zero_add _).symm
  | cons e left ih =>
    simp only [List.cons_append, raises, ih, Nat.add_assoc]
    rfl

theorem raises_le_length (s : Alarms) (k : ButtonKey) (ticks : List Tick) :
    s.raises k ticks ≤ ticks.length := by
  induction ticks generalizing s with
  | nil => exact Nat.le_refl 0
  | cons e ticks ih =>
    have hi := ih (s.apply e)
    simp only [raises, List.length_cons]
    split <;> omega

/-! ## One tick -/

/-- The timer of the latest pulse wakes. -/
theorem apply_wake (h : s.generation k = g) :
    s.apply (.wake k g) =
      ⟨(s.tracker.expire s.queue k).value.1, (s.tracker.expire s.queue k).value.2⟩ :=
  if_pos h

/-- The timer of an earlier pulse wakes for nothing. -/
theorem apply_wake_of_ne (h : s.generation k ≠ g) : s.apply (.wake k g) = s := if_neg h

/-- What a tick does to the entry of a button. -/
theorem pulses_apply (s : Alarms) (e : Tick) (k : ButtonKey) :
    (s.apply e).tracker.pulses k =
      match e with
      | .pulse c length now =>
        if k = c then ⟨s.generation k + 1, some ⟨length, now, s.tracker.armings⟩⟩
        else s.tracker.pulses k
      | .wake c g =>
        if k = c ∧ s.generation k = g then ⟨g, none⟩ else s.tracker.pulses k
      | .cancelAll =>
        if s.tracker.isArmed k then ⟨s.generation k + 1, none⟩ else s.tracker.pulses k
      | _ => s.tracker.pulses k := by
  cases e with
  | pulse c length now =>
    refine (Tracker.pulses_arm ..).trans ?_
    by_cases hk : k = c
    · subst hk
      rfl
    · rw [if_neg hk]
      exact (if_neg hk).symm
  | wake c g =>
    by_cases hg : s.generation c = g
    · rw [apply_wake hg]
      refine (Tracker.pulses_expire ..).trans ?_
      by_cases hk : k = c
      · subst hk
        rw [if_pos rfl]
        exact ((if_pos ⟨rfl, hg⟩).trans (by rw [← hg]; rfl)).symm
      · rw [if_neg hk]
        exact (if_neg fun h => hk h.1).symm
    · rw [apply_wake_of_ne hg]
      refine (if_neg ?_).symm
      rintro ⟨rfl, h⟩
      exact hg h
  | cancelAll => exact Tracker.pulses_cancelAll ..
  | dropSender | close | receive => rfl

/-- No button that was pulsed is ever forgotten. -/
theorem isKnown_apply (h : s.tracker.isKnown k = true) (e : Tick) :
    (s.apply e).tracker.isKnown k = true := by
  cases e with
  | pulse c length now =>
    refine (Tracker.isKnown_arm ..).trans ?_
    rw [h, Bool.or_true]
  | wake c g =>
    by_cases hg : s.generation c = g
    · rw [apply_wake hg]
      exact (Tracker.isKnown_expire ..).trans h
    · rwa [apply_wake_of_ne hg]
  | cancelAll =>
    suffices hc : ∀ (keys : List ButtonKey) (t : Tracker), t.isKnown k = true →
        (keys.foldl Tracker.cancel t).isKnown k = true from hc _ _ h
    intro keys
    induction keys with
    | nil => exact fun _ ht => ht
    | cons c keys ih => exact fun t ht => ih (t.cancel c) ((t.isKnown_cancel c k).trans ht)
  | dropSender | close | receive => exact h

/-- Only a timer that is armed and wakes sends a release, and only if there is somebody to send it
to. -/
theorem gained_eq (s : Alarms) (e : Tick) :
    s.gained e =
      match e with
      | .wake c g =>
        if s.tracker.isArmed c ∧ s.generation c = g ∧ s.queue.hasSender ∧ s.queue.isOpen then
          [Job.ending c g]
        else []
      | _ => [] := by
  unfold gained
  cases e with
  | wake c g =>
    by_cases hg : s.generation c = g
    · rw [apply_wake hg]
      cases ha : s.tracker.isArmed c with
      | false => simp [Tracker.expire_of_not_isArmed ha, ha]
      | true =>
        rw [Tracker.expire_queue ha, show (s.tracker.pulses c).generation = g from hg]
        cases s.queue.hasSender <;> cases s.queue.isOpen <;> simp [hg, ha]
    · rw [apply_wake_of_ne hg]
      simp [hg]
  | receive => exact List.drop_nil
  | pulse | cancelAll | dropSender | close => exact List.drop_length

/-- A release is sent by the timer of the latest pulse of its button, which is not armed any more
then. -/
theorem of_mem_gained {job : Job} (h : job ∈ s.gained e) :
    ∃ k g, e = .wake k g ∧ job = Job.ending k g ∧ s.tracker.isArmed k = true ∧
      s.generation k = g ∧ (s.apply e).tracker.pulses k = ⟨g, none⟩ := by
  rw [gained_eq] at h
  cases e with
  | wake k g =>
    dsimp only at h
    split at h
    · rename_i hc
      refine ⟨k, g, rfl, List.mem_singleton.mp h, hc.1, hc.2.1, ?_⟩
      exact (pulses_apply ..).trans (if_pos ⟨rfl, hc.2.1⟩)
    · exact absurd h List.not_mem_nil
  | pulse | cancelAll | dropSender | close | receive => exact absurd h List.not_mem_nil

/-- While the latest pulse of a button is not over, its entry stays as it is. -/
theorem pulses_apply_of_not_ends (hg : s.generation k = g) (he : e.ends k g = false) :
    (s.apply e).tracker.pulses k = s.tracker.pulses k := by
  rw [pulses_apply]
  cases e with
  | pulse c =>
    simp only [Tick.ends, Tick.supersedes, decide_eq_false_iff_not] at he
    exact if_neg (Ne.symm he)
  | wake c h =>
    simp only [Tick.ends, decide_eq_false_iff_not] at he
    refine if_neg ?_
    rintro ⟨rfl, rfl⟩
    exact he ⟨rfl, hg⟩
  | cancelAll => cases he
  | dropSender | close | receive => rfl

/-- Without a pulse, the entry of a button whose timer is not armed stays as it is. -/
theorem pulses_apply_of_not_isArmed (ha : s.tracker.isArmed k = false)
    (he : e.pulses k = false) : (s.apply e).tracker.pulses k = s.tracker.pulses k := by
  rw [pulses_apply]
  cases e with
  | pulse c =>
    rw [Tick.pulses, decide_eq_false_iff_not] at he
    exact if_neg (Ne.symm he)
  | wake c g =>
    dsimp only
    split
    · rename_i hc
      rw [Tracker.isArmed_eq, Option.isSome_eq_false_iff, Option.isNone_iff_eq_none] at ha
      rw [← hc.2, ← ha]
      rfl
    · rfl
  | cancelAll => exact if_neg (by rw [ha]; exact Bool.false_ne_true)
  | dropSender | close | receive => rfl

/-- A pulse raises the generation of its button, and arms its timer. -/
theorem apply_pulse (he : e.pulses k = true) :
    (s.apply e).generation k = s.generation k + 1 ∧ (s.apply e).tracker.isArmed k = true := by
  cases e with
  | pulse c length now =>
    obtain rfl : c = k := of_decide_eq_true he
    have hp := s.pulses_apply (.pulse c length now) c
    dsimp only at hp
    rw [if_pos rfl] at hp
    rw [generation, Tracker.isArmed_eq, hp]
    exact ⟨rfl, rfl⟩
  | _ => cases he

/-- A tick raises the generation of a button by one, or leaves it. -/
theorem generation_apply (s : Alarms) (e : Tick) (k : ButtonKey) :
    (s.apply e).generation k = s.generation k ∨
      (s.apply e).generation k = s.generation k + 1 := by
  unfold generation
  rw [pulses_apply]
  cases e with
  | pulse | cancelAll =>
    dsimp only
    split
    · exact .inr rfl
    · exact .inl rfl
  | wake c g =>
    dsimp only
    split
    · rename_i hc
      exact .inl hc.2.symm
    · exact .inl rfl
  | dropSender | close | receive => exact .inl rfl

/-! ## Many ticks -/

theorem isKnown_follow (h : s.tracker.isKnown k = true) (ticks : List Tick) :
    (s.follow ticks).tracker.isKnown k = true := by
  induction ticks generalizing s with
  | nil => exact h
  | cons e ticks ih => exact ih (isKnown_apply h e)

theorem pulses_follow_of_not_ends (hg : s.generation k = g)
    (h : ∀ e ∈ ticks, e.ends k g = false) :
    (s.follow ticks).tracker.pulses k = s.tracker.pulses k := by
  induction ticks generalizing s with
  | nil => rfl
  | cons e ticks ih =>
    rw [List.forall_mem_cons] at h
    have hp := pulses_apply_of_not_ends hg h.1
    exact (ih ((congrArg Pulses.generation hp).trans hg) h.2).trans hp

theorem pulses_follow_of_not_isArmed (ha : s.tracker.isArmed k = false)
    (h : ∀ e ∈ ticks, e.pulses k = false) :
    (s.follow ticks).tracker.pulses k = s.tracker.pulses k := by
  induction ticks generalizing s with
  | nil => rfl
  | cons e ticks ih =>
    rw [List.forall_mem_cons] at h
    have hp := pulses_apply_of_not_isArmed ha h.1
    refine (ih ?_ h.2).trans hp
    rwa [Tracker.isArmed_eq, hp]

/-- The generation of a button does not wrap around. -/
def Unwrapped (s : Alarms) (k : ButtonKey) (ticks : List Tick) : Prop :=
  (s.generation k).toNat + s.raises k ticks < UInt64.size

/-- While it does not wrap around, the generation of a button grows by every raise. -/
theorem Unwrapped.toNat_generation (h : s.Unwrapped k ticks) :
    ((s.follow ticks).generation k).toNat = (s.generation k).toNat + s.raises k ticks := by
  induction ticks generalizing s with
  | nil => rfl
  | cons e ticks ih =>
    rw [Unwrapped, raises] at h
    show (((s.apply e).follow ticks).generation k).toNat = _
    rw [raises]
    rcases s.generation_apply e k with hg | hg
    · rw [if_pos hg] at h ⊢
      rw [ih (by rw [Unwrapped, hg]; omega), hg, Nat.zero_add]
    · have hn : (s.apply e).generation k ≠ s.generation k := by simp [hg]
      rw [if_neg hn] at h ⊢
      have ht : ((s.apply e).generation k).toNat = (s.generation k).toNat + 1 := by
        have hlt : (s.generation k).toNat + 1 < UInt64.size := by omega
        rw [hg, UInt64.toNat_add]
        exact Nat.mod_eq_of_lt hlt
      rw [ih (by rw [Unwrapped, ht]; omega), ht, Nat.add_assoc]

theorem Unwrapped.split (h : s.Unwrapped k (left ++ right)) :
    s.Unwrapped k left ∧ (s.follow left).Unwrapped k right := by
  rw [Unwrapped, raises_append] at h
  have hl : s.Unwrapped k left := by
    unfold Unwrapped
    omega
  refine ⟨hl, ?_⟩
  rw [Unwrapped, hl.toNat_generation]
  omega

theorem unwrapped_start (h : ({} : Alarms).raises k ticks < UInt64.size) :
    ({} : Alarms).Unwrapped k ticks :=
  Nat.lt_of_le_of_lt (Nat.le_of_eq (Nat.zero_add _)) h

/-- A pulse raises the generation. -/
theorem raises_pos_of_mem (hm : e ∈ ticks) (he : e.pulses k = true) : 0 < s.raises k ticks := by
  obtain ⟨left, right, rfl⟩ := List.append_of_mem hm
  have hn : ((s.follow left).apply e).generation k ≠ (s.follow left).generation k := by
    simp [(apply_pulse he).1]
  rw [raises_append, raises, if_neg hn]
  omega

/-- A timer is only armed by a pulse, which raises the generation. -/
theorem raises_pos (ha : s.tracker.isArmed k = false)
    (h : (s.follow ticks).tracker.isArmed k = true) : 0 < s.raises k ticks := by
  by_cases hn : ∀ e ∈ ticks, e.pulses k = false
  · rw [Tracker.isArmed_eq, pulses_follow_of_not_isArmed ha hn, ← Tracker.isArmed_eq, ha] at h
    cases h
  · push Not at hn
    obtain ⟨e, hm, he⟩ := hn
    exact raises_pos_of_mem hm (Bool.not_eq_false _ ▸ he)

/-! ## Sends -/

/-- What is sent is sent by one of the ticks. -/
theorem exists_of_mem_sent {x : Tick × Job} (h : x ∈ s.sent ticks) :
    ∃ left right, ticks = left ++ x.1 :: right ∧ x.2 ∈ (s.follow left).gained x.1 := by
  induction ticks generalizing s with
  | nil => exact absurd h List.not_mem_nil
  | cons e ticks ih =>
    rw [sent, List.mem_append] at h
    rcases h with h | h
    · obtain ⟨job, hj, rfl⟩ := List.mem_map.mp h
      exact ⟨[], ticks, rfl, hj⟩
    · obtain ⟨left, right, rfl, hx⟩ := ih h
      exact ⟨e :: left, right, rfl, hx⟩

/-- A release that is sent carries the generation that its button has then, and is sent by the timer
of the pulse with this generation. -/
theorem of_mem_sent {x : Tick × Job} (h : x ∈ s.sent ticks) :
    ∃ k g left right, x = (.wake k g, Job.ending k g) ∧ ticks = left ++ .wake k g :: right ∧
      (s.follow left).tracker.isArmed k = true ∧ (s.follow left).generation k = g := by
  obtain ⟨left, right, ht, hx⟩ := exists_of_mem_sent h
  obtain ⟨k, g, he, hj, ha, hg, -⟩ := of_mem_gained hx
  exact ⟨k, g, left, right, Prod.ext he hj, he ▸ ht, ha, hg⟩

/-- A release carries a generation that its button had not passed before, and had not even reached
if no timer was armed. -/
theorem Unwrapped.le_of_mem_sent (hb : s.Unwrapped k ticks)
    (h : (.wake k g, Job.ending k g) ∈ s.sent ticks) :
    (s.generation k).toNat ≤ g.toNat ∧
      (s.tracker.isArmed k = false → (s.generation k).toNat < g.toNat) := by
  obtain ⟨c, g', left, right, hx, rfl, ha, hg⟩ := of_mem_sent h
  obtain ⟨rfl, rfl⟩ : k = c ∧ g = g' := by simpa using hx
  rw [← hg, hb.split.1.toNat_generation]
  exact ⟨Nat.le_add_right _ _, fun hn => Nat.lt_add_of_pos_right (raises_pos hn ha)⟩

/-- The releases for a button carry strictly increasing generations. -/
theorem sent_ascending (hb : ∀ k, s.Unwrapped k ticks) :
    (s.sent ticks).Pairwise fun x y =>
      ∀ k g h, x.2 = Job.ending k g → y.2 = Job.ending k h → g < h := by
  induction ticks generalizing s with
  | nil => exact .nil
  | cons e ticks ih =>
    rw [← List.singleton_append] at hb
    have hb' : ∀ k, (s.apply e).Unwrapped k ticks := fun k => (hb k).split.2
    refine List.pairwise_append.mpr ⟨?_, ih hb', ?_⟩
    · rw [gained_eq]
      cases e with
      | wake =>
        dsimp only
        split
        · exact List.pairwise_singleton ..
        · exact .nil
      | pulse | cancelAll | dropSender | close | receive => exact .nil
    · rintro x hx y hy k g h hk hh
      obtain ⟨job, hj, rfl⟩ := List.mem_map.mp hx
      obtain ⟨c, g', -, hc, -, -, hp⟩ := of_mem_gained hj
      obtain ⟨rfl, rfl⟩ : k = c ∧ g = g' := by simpa using hk.symm.trans hc
      obtain ⟨c', h', -, -, rfl, -⟩ := of_mem_sent hy
      obtain ⟨rfl, rfl⟩ : c' = k ∧ h' = h := by simpa using hh
      -- the button has the generation of the release that was sent, and no armed timer
      have hl := ((hb' c').le_of_mem_sent hy).2 (by rw [Tracker.isArmed_eq, hp]; rfl)
      rw [generation, hp] at hl
      exact UInt64.lt_iff_toNat_lt.mpr hl

/-- The timer of a pulse sends at most once. -/
theorem length_filter_le (h : (s.sent ticks).Pairwise fun x y =>
      ∀ k g h, x.2 = Job.ending k g → y.2 = Job.ending k h → g < h) (k : ButtonKey) (g : UInt64) :
    ((s.sent ticks).filter (·.1 = .wake k g)).length ≤ 1 := by
  have hp := h.filter (fun x => decide (x.1 = .wake k g))
  have hj : ∀ x ∈ (s.sent ticks).filter (·.1 = .wake k g), x.2 = Job.ending k g := by
    intro x hx
    obtain ⟨hm, he⟩ := List.mem_filter.mp hx
    obtain ⟨c, g', -, -, rfl, -⟩ := of_mem_sent hm
    obtain ⟨rfl, rfl⟩ : c = k ∧ g' = g := by simpa using he
    rfl
  generalize (s.sent ticks).filter (·.1 = .wake k g) = l at hp hj
  rcases l with _ | ⟨x, _ | ⟨y, rest⟩⟩
  · exact Nat.zero_le 1
  · exact Nat.le_refl 1
  · rw [List.forall_mem_cons, List.forall_mem_cons] at hj
    have hlt := List.rel_of_pairwise_cons hp List.mem_cons_self k g g hj.1 hj.2.1
    exact absurd hlt (UInt64.lt_irrefl g)

end Alarms

/-! ## Awaited timers -/

/-- A new tracker and its queue after some ticks. -/
abbrev Alarms.after (ticks : List Tick) : Alarms := ({} : Alarms).follow ticks

/-- After some ticks, the latest pulse of a button is not over. -/
def Awaited (k : ButtonKey) (ticks : List Tick) : Prop :=
  ∃ left e right, ticks = left ++ e :: right ∧ e.pulses k = true ∧
    ∀ x ∈ right, x.ends k ((Alarms.after (left ++ [e])).generation k) = false

namespace Alarms

variable {s : Alarms} {k : ButtonKey} {g : UInt64} {e : Tick} {ticks left right : List Tick}

theorem after_concat (ticks : List Tick) (e : Tick) :
    after (ticks ++ [e]) = (after ticks).apply e :=
  follow_append ..

theorem unwrapped_after (h : ({} : Alarms).Unwrapped k (left ++ right)) :
    (after left).Unwrapped k right :=
  h.split.2

/-- A tick by which a pulse is over disarms its timer, unless it pulses the button anew. -/
theorem isArmed_apply_of_ends (hg : s.generation k = g) (he : e.ends k g = true)
    (hp : e.pulses k = false) : (s.apply e).tracker.isArmed k = false := by
  have hx := s.pulses_apply e k
  cases e with
  | pulse => exact absurd (hp.symm.trans he) Bool.false_ne_true
  | wake c h =>
    obtain ⟨rfl, rfl⟩ : c = k ∧ h = g := of_decide_eq_true he
    rw [Tracker.isArmed_eq, hx.trans (if_pos ⟨rfl, hg⟩)]
    rfl
  | cancelAll => exact Tracker.isArmed_cancelAll s.tracker k
  | dropSender | close | receive => cases he

theorem pulses_after_pulse
    (h : ∀ x ∈ right, x.ends k ((after (left ++ [e])).generation k) = false) :
    (after (left ++ e :: right)).tracker.pulses k = (after (left ++ [e])).tracker.pulses k := by
  rw [List.append_cons, after, follow_append]
  exact pulses_follow_of_not_ends rfl h

/-- A timer is armed as long as it is awaited. -/
theorem isArmed_iff_awaited (k : ButtonKey) (ticks : List Tick) :
    (after ticks).tracker.isArmed k = true ↔ Awaited k ticks := by
  constructor
  · induction ticks using List.reverseRecOn with
    | nil => exact fun h => absurd h Bool.false_ne_true
    | append_singleton ticks e ih =>
      intro h
      rw [after_concat] at h
      cases hp : e.pulses k with
      | true => exact ⟨ticks, e, [], rfl, hp, List.forall_mem_nil _⟩
      | false =>
        have ha : (after ticks).tracker.isArmed k = true := by
          cases hn : (after ticks).tracker.isArmed k with
          | true => rfl
          | false =>
            rw [Tracker.isArmed_eq, pulses_apply_of_not_isArmed hn hp, ← Tracker.isArmed_eq,
              hn] at h
            exact h
        obtain ⟨left, x, right, rfl, hx, hr⟩ := ih ha
        refine ⟨left, x, right ++ [e], by simp, hx, List.forall_mem_append.mpr ⟨hr, ?_⟩⟩
        refine List.forall_mem_singleton.mpr (Bool.eq_false_iff.mpr fun he => ?_)
        have hg := congrArg Pulses.generation (pulses_after_pulse hr)
        rw [isArmed_apply_of_ends hg he hp] at h
        cases h
  · rintro ⟨left, e, right, rfl, he, h⟩
    rw [Tracker.isArmed_eq, pulses_after_pulse h, after_concat]
    exact (apply_pulse he).2

/-- Once a pulse is superseded or cancelled, its timer sends nothing. -/
theorem ne_of_superseded {mid rest : List Tick} {c : Tick} (hc : c.supersedes k = true)
    (hb : ({} : Alarms).Unwrapped k (left ++ e :: (mid ++ c :: rest))) {x : Tick × Job}
    (hx : x ∈ (after (left ++ e :: mid)).sent (c :: rest)) :
    x.1 ≠ .wake k ((after (left ++ [e])).generation k) := by
  rw [sent, List.mem_append] at hx
  rcases hx with hx | hx
  · obtain ⟨job, -, rfl⟩ := List.mem_map.mp hx
    rintro rfl
    cases hc
  · intro hw
    obtain ⟨c', g', -, -, rfl, -⟩ := of_mem_sent hx
    obtain ⟨rfl, rfl⟩ : c' = k ∧ g' = (after (left ++ [e])).generation k := by simpa using hw
    rw [List.append_cons, List.append_cons mid] at hb
    rw [List.append_cons, ← after_concat, List.append_assoc, after, follow_append] at hx
    obtain ⟨hm, hr⟩ := (unwrapped_after hb).split
    have hg := hm.toNat_generation
    obtain ⟨hle, hlt⟩ := hr.le_of_mem_sent hx
    cases hp : c.pulses c' with
    | true =>
      have hpos : 0 < (after (left ++ [e])).raises c' (mid ++ [c]) :=
        raises_pos_of_mem (List.mem_append_right _ (List.mem_singleton_self c)) hp
      omega
    | false =>
      have ha : ((after (left ++ [e])).follow (mid ++ [c])).tracker.isArmed c' = false := by
        rw [follow_append]
        cases c with
        | cancelAll => exact Tracker.isArmed_cancelAll _ c'
        | pulse => exact absurd (hp.symm.trans hc) Bool.false_ne_true
        | wake | dropSender | close | receive => cases hc
      have hn := hlt ha
      omega

/-- Once a release was sent, only a new pulse of its button takes it away that it is confirmed. -/
theorem confirms_iff_of_sent (hb : ({} : Alarms).Unwrapped k (left ++ e :: right))
    (hs : Job.ending k g ∈ (after left).gained e) :
    (after (left ++ e :: right)).tracker.confirms k g = true ↔
      ∀ x ∈ right, x.pulses k = false := by
  obtain ⟨c, g', -, hj, ha, hg, hp⟩ := of_mem_gained hs
  obtain ⟨rfl, rfl⟩ : k = c ∧ g = g' := by simpa using hj
  rw [List.append_cons] at hb ⊢
  rw [after, follow_append, ← after, after_concat]
  have hu := unwrapped_after hb
  rw [after_concat] at hu
  constructor
  · intro h x hx
    refine Bool.eq_false_iff.mpr fun hpx => ?_
    have hr := raises_pos_of_mem (s := (after left).apply e) hx hpx
    have hn := hu.toNat_generation
    rw [generation, (Tracker.confirms_iff.mp h).2, generation, hp] at hn
    omega
  · intro h
    have hn : ((after left).apply e).tracker.isArmed k = false := by
      rw [Tracker.isArmed_eq, hp]
      rfl
    have hk := isKnown_follow (isKnown_apply (Tracker.isKnown_of_isArmed ha) e) right
    exact Tracker.confirms_iff.mpr ⟨hk, (pulses_follow_of_not_isArmed hn h).trans hp⟩

end Alarms

/-- A new tracker and its queue after any ticks, with fewer than `2 ^ 64` raises of the generation
of every button.

- Every release that was sent was sent by the timer of a pulse, for the button of that pulse and
  with its generation. The timer of each pulse sent at most one, and none from the moment on at
  which its button was pulsed again or all timers were cancelled. While a timer is armed it sends
  its release when it wakes, if there is somebody to send it to.
- The releases for one button carry strictly increasing generations.
- A release that was sent is confirmed at any later time exactly if its button was not pulsed since.
- A timer is armed exactly if the latest pulse of its button has neither ended nor been cancelled.
  The number of armed timers is that of these buttons, and cancelling all answers these buttons,
  each once and in ascending order. It leaves no timer armed, and the generation of every other
  button as it is. -/
theorem timers_send_once {ticks : List Tick}
    (hb : ∀ k, ({} : Alarms).raises k ticks < UInt64.size) :
    let s := Alarms.after ticks
    let log := ({} : Alarms).sent ticks
    -- the sends
    ((∀ x ∈ log, ∃ k g, x = (.wake k g, Job.ending k g)) ∧
      (∀ k g, (log.filter (·.1 = .wake k g)).length ≤ 1) ∧
      (∀ k left e mid c rest, ticks = left ++ e :: (mid ++ c :: rest) →
        e.pulses k = true → c.supersedes k = true →
        ∀ x ∈ (Alarms.after (left ++ e :: mid)).sent (c :: rest),
          x.1 ≠ .wake k ((Alarms.after (left ++ [e])).generation k)) ∧
      ∀ k, s.tracker.isArmed k = true → s.queue.hasSender = true → s.queue.isOpen = true →
        s.gained (.wake k (s.generation k)) = [Job.ending k (s.generation k)]) ∧
    log.Pairwise (fun x y => ∀ k g h, x.2 = Job.ending k g → y.2 = Job.ending k h → g < h) ∧
    -- the releases that were sent
    (∀ k g left e right, ticks = left ++ e :: right →
      Job.ending k g ∈ (Alarms.after left).gained e →
      (s.tracker.confirms k g = true ↔ ∀ x ∈ right, x.pulses k = false)) ∧
    -- the armed timers
    (∀ k, s.tracker.isArmed k = true ↔ Awaited k ticks) ∧
    let keys := s.tracker.cancelAll.1
    let cancelled := s.tracker.cancelAll.2
    s.tracker.armedCount = keys.length ∧
      (∀ k, k ∈ keys ↔ Awaited k ticks) ∧
      keys.Pairwise (fun a b => a.device < b.device ∨ a.device = b.device ∧ a.button < b.button) ∧
      ∀ k, cancelled.isArmed k = false ∧
        (k ∉ keys → (cancelled.pulses k).generation = s.generation k) := by
  intro s log
  have hu : ∀ k, ({} : Alarms).Unwrapped k ticks := fun k => Alarms.unwrapped_start (hb k)
  have hasc := Alarms.sent_ascending hu
  refine ⟨⟨fun x hx => ?_, fun k g => ?_, ?_, fun k ha hs ho => ?_⟩, hasc, ?_,
    fun k => Alarms.isArmed_iff_awaited k ticks, (List.length_map _).symm, fun k => ?_, ?_,
    fun k => ⟨s.tracker.isArmed_cancelAll k, fun hk => ?_⟩⟩
  · obtain ⟨k, g, -, -, h, -⟩ := Alarms.of_mem_sent hx
    exact ⟨k, g, h⟩
  · exact Alarms.length_filter_le hasc k g
  · rintro k left e mid c rest rfl - hc x hx
    exact Alarms.ne_of_superseded hc (hu k) hx
  · rw [Alarms.gained_eq]
    exact if_pos ⟨ha, rfl, hs, ho⟩
  · rintro k g left e right rfl hs
    exact Alarms.confirms_iff_of_sent (hu k) hs
  · exact Tracker.mem_map_armed.trans (Alarms.isArmed_iff_awaited k ticks)
  · exact List.pairwise_map.mpr
      (s.tracker.armed_ascending.imp fun h => ButtonKey.compare_eq_lt_iff.mp h)
  · have hp : s.tracker.cancelAll.2.pulses k = s.tracker.pulses k :=
      (s.tracker.pulses_cancelAll k).trans (if_neg (mt Tracker.mem_map_armed.mpr hk))
    exact congrArg Pulses.generation hp

/-- A button is pulsed again after its release was sent, and the timer of the first pulse wakes once
more; another one lets its release be sent before all timers are cancelled, and a third one is
pulsed after that. -/
theorem timers_send_once_cancelled :
    let a : ButtonKey := ⟨1, 1⟩
    let b : ButtonKey := ⟨1, 2⟩
    let c : ButtonKey := ⟨2, 1⟩
    let ticks : List Tick := [.pulse a 100 {}, .wake a 1, .pulse a 100 {}, .wake a 1,
      .pulse b 50 {}, .wake b 1, .cancelAll, .wake a 2, .pulse c 10 {}]
    let s := Alarms.after ticks
    s.tracker.confirms a 1 = false ∧ s.tracker.confirms b 1 = true ∧
      (({} : Alarms).sent ticks).map (·.2) = [Job.ending a 1, Job.ending b 1] ∧
      s.tracker.armedCount = [c].length ∧ Awaited c ticks ∧ ¬ Awaited a ticks := by
  intro a b c ticks s
  have hb : ∀ k, ({} : Alarms).raises k ticks < UInt64.size := fun k =>
    Nat.lt_of_le_of_lt (({} : Alarms).raises_le_length k ticks) (by decide)
  obtain ⟨-, -, hc, ha, hn, -⟩ := timers_send_once hb
  have hca := hc a 1 [.pulse a 100 {}] (.wake a 1) (ticks.drop 2) rfl (by decide +kernel)
  have hcb := hc b 1 (ticks.take 5) (.wake b 1) (ticks.drop 6) rfl (by decide +kernel)
  refine ⟨?_, hcb.mpr (by decide +kernel), by decide +kernel, hn.trans (by decide +kernel),
    (ha c).mp (by decide +kernel), mt (ha a).mpr (by decide +kernel)⟩
  exact Bool.eq_false_iff.mpr (mt hca.mp (by decide +kernel))

end Dispatch

end ControlDeck
