import ControlDeck.Proofs.Deadlines
import ControlDeck.Proofs.Moments

/-!
# Trains of pulses

How long a button is held that is only ever pulsed, whatever is done with other buttons.

- **Trains** (`train`): the pulses of a button by the time at which they are executed, which is when
  the client begins to wait.
- **Lapses** (`lapses`): the pulses of a train that end on their own, because no other one was
  executed until then. `lapses_snoc` is how a train grows, and `Timely.lapses_succ` how time passes.
- **Held buttons** (`Cell.Holds`): a cell that shows a train up to a point of time. A pulse makes
  the train longer (`Cell.Counts.pulse`), and in a moment the last pulse ends if it is due
  (`Cell.Holds.round`, `Cell.Holds.instant`).
- `pulses_hold`: what the journal and the button of a session show at every wake-up of its client.
-/

namespace ControlDeck

open Command Device Dispatch

/-! ## Trains -/

/-- The pulses of a button that a client asks for, by the time at which they are executed: a job is
executed when the client waits next, and the clock does not move until then. -/
def train (k : ButtonKey) (now : Nat) : List Request → List Span
  | [] => []
  | .submit job :: requests =>
    (if job.key = k then [⟨now, job.ms.toNat⟩] else []) ++ train k now requests
  | .sleep ms :: requests => train k (now + ms) requests

/-- Pulses that are executed at one moment. -/
def burst (now : Nat) (lengths : List UInt32) : List Span := lengths.map fun ms => ⟨now, ms.toNat⟩

theorem burst_nil (now : Nat) : burst now [] = [] := rfl

theorem burst_concat (now : Nat) (lengths : List UInt32) (last : UInt32) :
    burst now (lengths ++ [last]) = burst now lengths ++ [⟨now, last.toNat⟩] := List.map_append

/-- Whether the pulse at a position of a train has ended on its own before a point of time: its
deadline came before this time, and before the next pulse. -/
def lapsed (t : Nat) (spans : List Span) (i : Nat) : Bool :=
  spans[i]?.any fun p => p.deadline < t && spans[i + 1]?.all (p.deadline < ·.start)

/-- The number of pulses of a train that have ended on their own before a point of time. -/
def lapses (t : Nat) (spans : List Span) : Nat := (List.range spans.length).countP (lapsed t spans)

/-- The last pulse of a train, until its deadline has passed. -/
def holding (t : Nat) (spans : List Span) : Option Span := spans.getLast?.filter (t ≤ ·.deadline)

/-- A train in the order of time, up to some point of it. -/
structure Timely (t : Nat) (spans : List Span) : Prop where
  ordered : spans.Pairwise (·.start ≤ ·.start)
  past : ∀ p ∈ spans, p.start ≤ t

/-- Every pulse but the first is executed no later than the deadline of the one before it. -/
def Chained (spans : List Span) : Prop :=
  ∀ i p q, spans[i]? = some p → spans[i + 1]? = some q → q.start ≤ p.deadline

theorem lapsed_of_next {t : Nat} {spans : List Span} {i : Nat} {p q : Span}
    (hp : spans[i]? = some p) (hq : spans[i + 1]? = some q) :
    lapsed t spans i = true ↔ p.deadline < t ∧ p.deadline < q.start := by
  simp [lapsed, hp, hq]

theorem lapsed_of_last {t : Nat} {spans : List Span} {i : Nat} {p : Span}
    (hp : spans[i]? = some p) (hn : spans[i + 1]? = none) :
    lapsed t spans i = true ↔ p.deadline < t := by
  simp [lapsed, hp, hn]

/-- A pulse before the last one has ended by now if it had when the last one was executed. -/
theorem lapsed_append {t : Nat} {spans : List Span} {q : Span} (h : Timely t (spans ++ [q]))
    {i : Nat} (hi : i < spans.length) :
    lapsed t (spans ++ [q]) i = true ↔ lapsed q.start spans i = true := by
  have hq : q.start ≤ t := h.past q (by simp)
  have ho : ∀ p ∈ spans, p.start ≤ q.start := fun p hp =>
    (List.pairwise_append.mp h.ordered).2.2 p hp q (List.mem_singleton_self q)
  have hp : spans[i]? = some spans[i] := List.getElem?_eq_getElem hi
  have hp' : (spans ++ [q])[i]? = some spans[i] := by rw [List.getElem?_append_left hi, hp]
  by_cases hn : i + 1 < spans.length
  · have hr : spans[i + 1]? = some spans[i + 1] := List.getElem?_eq_getElem hn
    have hr' : (spans ++ [q])[i + 1]? = some spans[i + 1] := by
      rw [List.getElem?_append_left hn, hr]
    have hle := ho _ (List.getElem_mem hn)
    rw [lapsed_of_next hp' hr', lapsed_of_next hp hr]
    omega
  · have hr : spans[i + 1]? = none := List.getElem?_eq_none (by omega)
    have hr' : (spans ++ [q])[i + 1]? = some q := by
      rw [show i + 1 = spans.length by omega]
      exact List.getElem?_concat_length
    rw [lapsed_of_next hp' hr', lapsed_of_last hp hr]
    omega

/-- The last pulse has ended once its deadline has passed. -/
theorem lapsed_length (t : Nat) (spans : List Span) (q : Span) :
    lapsed t (spans ++ [q]) spans.length = decide (q.deadline < t) := by
  have hl := lapsed_of_last (t := t) List.getElem?_concat_length
    (List.getElem?_eq_none (l := spans ++ [q]) (i := spans.length + 1) (by simp))
  rw [Bool.eq_iff_iff, hl, decide_eq_true_iff]

/-- Those that had ended when the last pulse was executed, and the last one once it is over. -/
theorem lapses_snoc {t : Nat} {spans : List Span} {q : Span} (h : Timely t (spans ++ [q])) :
    lapses t (spans ++ [q]) = lapses q.start spans + (decide (q.deadline < t)).toNat := by
  unfold lapses
  rw [List.length_append, List.length_singleton, List.range_succ, List.countP_append,
    List.countP_singleton, lapsed_length]
  congr 1
  · exact List.countP_congr fun i hi => lapsed_append h (List.mem_range.mp hi)
  · cases decide (q.deadline < t) <;> rfl

namespace Timely

variable {t : Nat} {spans : List Span}

theorem nil (t : Nat) : Timely t [] := ⟨.nil, nofun⟩

theorem mono (h : Timely t spans) {u : Nat} (hu : t ≤ u) : Timely u spans :=
  ⟨h.ordered, fun p hp => Nat.le_trans (h.past p hp) hu⟩

/-- A pulse that is executed now comes last. -/
theorem snoc (h : Timely t spans) (length : Nat) : Timely t (spans ++ [⟨t, length⟩]) := by
  refine ⟨List.pairwise_append.mpr ⟨h.ordered, List.pairwise_singleton .., ?_⟩, fun p hp => ?_⟩
  · intro p hp q hq
    rw [List.mem_singleton.mp hq]
    exact h.past p hp
  · rcases List.mem_append.mp hp with hp | hp
    · exact h.past p hp
    · exact Nat.le_of_eq (congrArg Span.start (List.mem_singleton.mp hp))

/-- In the next millisecond the last pulse has ended if it is due now. -/
theorem lapses_succ (h : Timely t spans) :
    lapses (t + 1) spans = lapses t spans +
      (spans.getLast?.any (·.deadline = t)).toNat := by
  rcases List.eq_nil_or_concat spans with rfl | ⟨ps, q, rfl⟩
  · rfl
  · rw [List.concat_eq_append] at h ⊢
    rw [lapses_snoc h, lapses_snoc (h.mono (Nat.le_succ t)), List.getLast?_concat, Option.any_some]
    by_cases hd : q.deadline = t
    · simp [hd]
    · have he : q.deadline < t + 1 ↔ q.deadline < t := by omega
      simp [hd, he]

/-- In a chain of pulses only the last one ends on its own. -/
theorem lapses_of_chained (h : Timely t spans) (hc : Chained spans) :
    lapses t spans = (spans.getLast?.any (·.deadline < t)).toNat := by
  rcases List.eq_nil_or_concat spans with rfl | ⟨ps, q, rfl⟩
  · rfl
  · rw [List.concat_eq_append] at *
    have hz : lapses q.start ps = 0 := by
      refine List.countP_eq_zero.mpr fun i hi => ?_
      rw [List.mem_range] at hi
      have hp : ps[i]? = some ps[i] := List.getElem?_eq_getElem hi
      have hp' : (ps ++ [q])[i]? = some ps[i] := by rw [List.getElem?_append_left hi, hp]
      by_cases hn : i + 1 < ps.length
      · have hr : ps[i + 1]? = some ps[i + 1] := List.getElem?_eq_getElem hn
        have hle := hc i _ _ hp' (by rw [List.getElem?_append_left hn, hr])
        rw [lapsed_of_next hp hr]
        omega
      · have hle := hc i _ q hp' (by
          rw [show i + 1 = ps.length by omega]
          exact List.getElem?_concat_length)
        rw [lapsed_of_last hp (List.getElem?_eq_none (by omega))]
        omega
    rw [lapses_snoc h, List.getLast?_concat, hz, Nat.zero_add]
    rfl

end Timely

/-- A pulse that was just executed is not over. -/
theorem holding_snoc (t length : Nat) (spans : List Span) :
    holding t (spans ++ [⟨t, length⟩]) = some ⟨t, length⟩ := by
  unfold holding
  rw [List.getLast?_concat]
  exact Option.filter_some_pos (decide_eq_true (Nat.le_add_right t length))

theorem holding_eq_some {t : Nat} {spans : List Span} {p : Span} :
    holding t spans = some p ↔ spans.getLast? = some p ∧ t ≤ p.deadline := by
  unfold holding
  rw [Option.filter_eq_some_iff, decide_eq_true_iff]

/-- In the next millisecond the last pulse is over if it is due now. -/
theorem holding_succ (t : Nat) (spans : List Span) :
    holding (t + 1) spans =
      if spans.getLast?.any (·.deadline = t) then none else holding t spans := by
  unfold holding
  cases spans.getLast? with
  | none => rfl
  | some q =>
    rw [Option.any_some, Option.filter_some, Option.filter_some]
    rcases Nat.lt_trichotomy q.deadline t with hd | hd | hd
    · simp [Nat.ne_of_lt hd, Nat.not_le.mpr hd, Nat.not_le.mpr (Nat.lt_succ_of_lt hd)]
    · simp [hd]
    · simp [Nat.ne_of_gt hd, Nat.le_of_lt hd, Nat.succ_le_of_lt hd]

namespace Dispatch.Cell

/-! ## Held buttons -/

/-- The worker of a cell runs and can write to its button, and the journal shows a train: a press
for each pulse, and a release for each one that has ended on its own. -/
structure Counts (c : Cell) (t : Nat) (spans : List Span) : Prop where
  running : c.phase = .running
  going : c.cancelled = false
  isOpen : c.isOpen = true
  hasSender : c.hasSender = true
  canFeed : c.canFeed = true
  timely : Timely t spans
  presses : c.writes.count true = spans.length
  releases : c.writes.count false = lapses t spans

/-- Besides the timer is armed for the last pulse of the train, until it is over, and only that long
the button is down. -/
structure Holds (c : Cell) (t : Nat) (spans : List Span) : Prop extends c.Counts t spans where
  span?_eq : c.span? = holding t spans
  known : c.span?.isSome → c.known = true
  down_eq : c.down = c.span?.isSome

variable {c : Cell} {t : Nat} {spans : List Span}

theorem Holds.sound (h : c.Holds t spans) : c.Sound :=
  ⟨by rw [h.running]; exact nofun, fun hs => absurd (h.running.symm.trans hs) nofun⟩

theorem Holds.quiet (h : c.Holds t spans) (hq : c.queued = []) : c.Quiet :=
  ⟨h.sound, hq, fun _ => ⟨h.going, h.hasSender⟩⟩

/-- The counts are not about the timer, nor about what is queued. -/
theorem Counts.put (h : c.Counts t spans) (span? : Option Span) (queued : List Action) :
    Counts { c with span?, queued } t spans :=
  ⟨h.running, h.going, h.isOpen, h.hasSender, h.canFeed, h.timely, h.presses, h.releases⟩

/-- A pulse makes a train longer, whatever was before it. -/
theorem Counts.pulse (h : c.Counts t spans) (length : UInt32) :
    (c.execute t (.pulse length)).Holds t (spans ++ [⟨t, length.toNat⟩]) := by
  have hw : (c.execute t (.pulse length)).writes = c.writes ++ [true] := by
    show c.writes ++ (if c.canFeed then [true] else []) = _
    rw [if_pos h.canFeed]
  refine ⟨⟨h.running, h.going, h.isOpen, h.hasSender, h.canFeed, h.timely.snoc _, ?_, ?_⟩,
    (holding_snoc ..).symm, fun _ => rfl, ?_⟩
  · rw [hw, List.count_append, h.presses, List.length_append]
    rfl
  · have hd : ¬ (⟨t, length.toNat⟩ : Span).deadline < t := Nat.not_lt.mpr (Nat.le_add_right ..)
    rw [hw, List.count_append, h.releases, lapses_snoc (h.timely.snoc _), decide_eq_false hd]
    rfl
  · unfold down
    rw [hw, List.getLast?_concat]
    rfl

/-- Some pulses at once make a train longer, one after the other. -/
theorem Counts.pulses (h : c.Counts t spans) (lengths : List UInt32) (last : UInt32) :
    (((lengths ++ [last]).map .pulse).foldl (execute t) c).Holds t
      (spans ++ burst t (lengths ++ [last])) := by
  induction lengths generalizing c spans with
  | nil => exact h.pulse last
  | cons length lengths ih =>
    have hl := ih (h.pulse length).toCounts
    rw [List.append_assoc] at hl
    exact hl

/-- A release of a button whose timer is armed is out of date. -/
theorem execute_pulseRelease (h : c.span?.isSome) (g : UInt64) :
    c.execute t (.pulseRelease g) = c := by
  have hn : c.confirms g = false := by
    unfold confirms
    rw [Option.isNone_eq_false_iff.mpr h, Bool.and_false, Bool.and_false]
  have hw : c.write? (.pulseRelease g) = none := if_neg (Bool.eq_false_iff.mp hn)
  have hf : c.execute t (.pulseRelease g) = c.feed [] := by
    unfold execute
    rw [hw]
    rfl
  rw [hf, feed, ite_self, List.append_nil]

/-- The release of the latest pulse lets go of the button. -/
theorem execute_confirmed {g : UInt64} (h : c.confirms g) (hf : c.canFeed = true) :
    c.execute t (.pulseRelease g) = { c with writes := c.writes ++ [false] } := by
  have hw : c.write? (.pulseRelease g) = some false := if_pos h
  have he : c.execute t (.pulseRelease g) = c.feed [false] := by
    unfold execute
    rw [hw]
    rfl
  rw [he, feed, if_pos hf]

/-- The timer is due exactly at the deadline of the last pulse. -/
theorem Holds.due_eq (h : c.Holds t spans) :
    c.due t = spans.getLast?.any (·.deadline = t) := by
  unfold due
  rw [h.span?_eq]
  unfold holding
  cases spans.getLast? with
  | none => rfl
  | some q =>
    rw [Option.any_some, Option.filter_some]
    rcases Nat.lt_trichotomy q.deadline t with hd | hd | hd
    · simp [Nat.ne_of_lt hd, Nat.not_le.mpr hd]
    · simp [hd]
    · simp [Nat.ne_of_gt hd, Nat.le_of_lt hd, Nat.not_le.mpr hd]

/-- When the timer is due, the release of its pulse comes after all jobs that were queued before. -/
theorem Holds.round_of_due (h : c.Holds t spans) (hd : c.due t = true) :
    c.round t = (c.queued ++ [Action.pulseRelease c.generation]).foldl (execute t)
      { c with span? := none, queued := [] } := by
  obtain ⟨p, hp⟩ := Option.isSome_iff_exists.mp (Option.isSome_of_any hd)
  have he : c.expireDue t = { c with
      span? := none
      queued := c.queued ++ [.pulseRelease c.generation] } := by
    rw [expireDue, if_pos hd, expire_of_some hp, h.hasSender, h.isOpen]
    rfl
  rw [Cell.round, he]
  refine turn_of_running ?_ ?_ ?_ t
  · exact h.running
  · exact h.going
  · exact h.hasSender

/-- A millisecond in which no pulse is executed: the last one ends if it is due. -/
theorem Holds.round (h : c.Holds t spans) (hq : c.queued = []) :
    (c.round t).Holds (t + 1) spans ∧ (c.round t).queued = [] := by
  refine ⟨?_, ((h.quiet hq).round t).empty⟩
  have htl := h.timely.mono (Nat.le_succ t)
  have hl := h.timely.lapses_succ
  have hs := holding_succ t spans
  rw [← h.due_eq] at hl hs
  cases hd : c.due t with
  | false =>
    rw [hd] at hl hs
    rw [(h.quiet hq).round_eq hd]
    exact ⟨⟨h.running, h.going, h.isOpen, h.hasSender, h.canFeed, htl, h.presses,
      h.releases.trans hl.symm⟩, h.span?_eq.trans hs.symm, h.known, h.down_eq⟩
  | true =>
    rw [hd] at hl hs
    have hc : ({ c with span? := none, queued := [] } : Cell).confirms c.generation := by
      simp [confirms, h.known (Option.isSome_of_any hd)]
    have hr : c.round t =
        { c with span? := none, queued := [], writes := c.writes ++ [false] } := by
      rw [h.round_of_due hd, hq]
      exact execute_confirmed hc h.canFeed
    rw [hr]
    refine ⟨⟨h.running, h.going, h.isOpen, h.hasSender, h.canFeed, htl, ?_, ?_⟩, hs.symm, nofun, ?_⟩
    · show (c.writes ++ [false]).count true = _
      rw [List.count_append, h.presses]
      rfl
    · show (c.writes ++ [false]).count false = _
      rw [List.count_append, h.releases, hl]
      rfl
    · unfold down
      rw [List.getLast?_concat]
      rfl

/-- Some pulses are executed. If the timer was due, then the release that it queued comes after all
of them, and is out of date. -/
theorem Holds.round_pulses (h : c.Holds t spans) {lengths : List UInt32} {last : UInt32}
    (hq : c.queued = (lengths ++ [last]).map .pulse) :
    (c.round t).Holds t (spans ++ burst t (lengths ++ [last])) ∧ (c.round t).queued = [] := by
  refine ⟨?_, (h.sound.round t).empty⟩
  cases hd : c.due t with
  | false =>
    have hr : c.round t = c.turn t := by
      unfold Cell.round Cell.expireDue
      rw [hd]
      rfl
    rw [hr, turn_of_running h.running h.going h.hasSender, hq]
    exact (h.put c.span? []).pulses lengths last
  | true =>
    have hp := (h.put none []).pulses lengths last
    have hk := hp.span?_eq
    rw [burst_concat, ← List.append_assoc, holding_snoc] at hk
    rw [h.round_of_due hd, hq, List.foldl_append, List.foldl_cons, List.foldl_nil,
      execute_pulseRelease (Option.isSome_of_eq_some hk)]
    exact hp

/-- A moment: the queued pulses are executed, and after them the last one ends if it is due. -/
theorem Holds.instant (h : c.Holds t spans) {lengths : List UInt32}
    (hq : c.queued = lengths.map .pulse) :
    (c.instant t).Holds (t + 1) (spans ++ burst t lengths) ∧ (c.instant t).queued = [] := by
  rcases List.eq_nil_or_concat lengths with rfl | ⟨lengths, last, rfl⟩
  · obtain ⟨hr, he⟩ := h.round hq
    have hd : (c.round t).due t = false := by
      refine due_eq_false_iff.mpr fun p hp => ?_
      exact (holding_eq_some.mp (hr.span?_eq.symm.trans hp)).2
    rw [Cell.instant, (hr.quiet he).round_eq hd, burst_nil, List.append_nil]
    exact ⟨hr, he⟩
  · rw [List.concat_eq_append] at hq ⊢
    obtain ⟨hr, he⟩ := h.round_pulses hq
    exact hr.round he

/-- A wait that begins with the queued pulses. -/
theorem Holds.pass (h : c.Holds t spans) {lengths : List UInt32}
    (hq : c.queued = lengths.map .pulse) (ms : Nat) :
    (c.pass t (ms + 1)).Holds (t + (ms + 1)) (spans ++ burst t lengths) ∧
      (c.pass t (ms + 1)).queued = [] := by
  induction ms generalizing c t spans lengths with
  | zero => exact h.instant hq
  | succ ms ih =>
    obtain ⟨hi, he⟩ := h.instant hq
    have hp := ih hi (show _ = [].map Action.pulse from he)
    rw [burst_nil, List.append_nil, Nat.add_right_comm, Nat.add_assoc] at hp
    exact hp

end Dispatch.Cell

namespace Session

/-! ## Clients that pulse a button -/

variable {s : Session} {k : ButtonKey} {spans : List Span}

/-- The pulses of a button that a session was asked for so far; the last of them may still be
queued. -/
structure Trails (s : Session) (k : ButtonKey) (spans : List Span) : Prop where
  tended : s.Tended
  split : ∃ past lengths, (s.cell k).Holds s.now past ∧
    (s.cell k).queued = lengths.map .pulse ∧ spans = past ++ burst s.now lengths

/-- A session whose button can be written starts with an empty train. -/
theorem trails_start {devices : List UInt32} (hk : (Joystick.ofAvailable devices).canFeed k = true)
    (fastTicks : UInt32) (settings : Settings) :
    (start (Joystick.ofAvailable devices) 1 fastTicks settings).value.Trails k [] where
  tended := tended_start devices fastTicks settings
  split := ⟨[], [], ⟨⟨rfl, rfl, rfl, rfl, hk, .nil 0, rfl, rfl⟩, rfl, nofun, rfl⟩, rfl, rfl⟩

/-- Another pulse is queued, or a job on another button. -/
theorem Trails.submit (h : s.Trails k spans) {job : Job}
    (hj : job.key = k → ∃ length, job.action = .pulse length) :
    (s.serve (.submit job)).Trails k
      (spans ++ if job.key = k then [⟨s.now, job.ms.toNat⟩] else []) := by
  obtain ⟨past, lengths, hh, hq, rfl⟩ := h.split
  obtain ⟨ht, hc⟩ := h.tended.submit job
  have hc := hc k
  have hn := now_submit s job
  show (s.submit 0 job).value.2.Trails k _
  generalize (s.submit 0 job).value.2 = u at ht hc hn
  by_cases hk : job.key = k
  · obtain ⟨length, ha⟩ := hj hk
    have hm : job.ms = length := by rw [Job.ms, ha]
    have hs : (s.cell k).send job.action =
        { s.cell k with queued := (lengths ++ [length]).map .pulse } := by
      rw [Cell.send, if_pos hh.isOpen, hq, ha, List.map_append]
      rfl
    rw [if_pos hk, hs] at hc
    rw [if_pos hk, hm, List.append_assoc, ← burst_concat]
    refine ⟨ht, past, lengths ++ [length], ?_, by rw [hc], by rw [hn]⟩
    rw [hc, hn]
    exact ⟨hh.put _ _, hh.span?_eq, hh.known, hh.down_eq⟩
  · rw [if_neg hk] at hc
    rw [if_neg hk, List.append_nil]
    exact ⟨ht, past, lengths, by rw [hc, hn]; exact hh, by rw [hc, hq], by rw [hn]⟩

/-- After a wait nothing is queued. -/
theorem Trails.sleep (h : s.Trails k spans) {ms : Nat} (hm : 0 < ms) :
    (s.serve (.sleep ms)).Tended ∧ (s.serve (.sleep ms)).now = s.now + ms ∧
      ((s.serve (.sleep ms)).cell k).Holds (s.now + ms) spans ∧
      ((s.serve (.sleep ms)).cell k).queued = [] := by
  obtain ⟨ht, hn, hc⟩ := h.tended.sleep ms
  obtain ⟨past, lengths, hh, hq, rfl⟩ := h.split
  refine ⟨ht, hn, ?_⟩
  have hp := hh.pass hq (ms - 1)
  rw [Nat.sub_add_cancel hm] at hp
  show ((s.sleep ms).value.cell k).Holds _ _ ∧ ((s.sleep ms).value.cell k).queued = []
  rw [hc, Nat.max_eq_left hm]
  exact hp

/-- A client goes on to pulse the button. -/
theorem Trails.serveAll (h : s.Trails k spans) {requests : List Request}
    (hj : ∀ job, .submit job ∈ requests → job.key = k → ∃ length, job.action = .pulse length)
    (hw : ∀ ms, .sleep ms ∈ requests → 0 < ms) :
    (requests.foldl serve s).Trails k (spans ++ train k s.now requests) := by
  induction requests generalizing s spans with
  | nil =>
    rw [train, List.append_nil]
    exact h
  | cons r requests ih =>
    have hj' := fun job hm => hj job (List.mem_cons_of_mem r hm)
    have hw' := fun ms hm => hw ms (List.mem_cons_of_mem r hm)
    cases r with
    | submit job =>
      have hr := ih (h.submit (hj job List.mem_cons_self)) hj' hw'
      rw [show (s.serve (.submit job)).now = s.now from now_submit s job, List.append_assoc] at hr
      exact hr
    | sleep ms =>
      obtain ⟨ht, hn, hh, hq⟩ := h.sleep (hw ms List.mem_cons_self)
      have hr : (s.serve (.sleep ms)).Trails k spans :=
        ⟨ht, spans, [], by rw [hn]; exact hh, hq, (List.append_nil spans).symm⟩
      have hr := ih hr hj' hw'
      rw [hn] at hr
      exact hr

end Session

/-- One dispatcher over a fresh joystick that nobody else uses, and a client that only ever pulses
the button `k`, while it queues any jobs whatever on other buttons; its waits last a millisecond at
least, since a sleep of no length is over at once and nobody wakes up from it. Whenever the client
wakes up, `k` was pressed once for each of its pulses, and let go of once for each pulse that ended
on its own; it is down until the last pulse is over, and so long its timer is armed for this pulse.
So a chain of pulses is let go of once, after the deadline of the last one, even if that one is the
shortest. -/
theorem pulses_hold (devices : List UInt32) (fastTicks : UInt32) (settings : Settings)
    (requests : List Request) (ms : Nat) (k : ButtonKey)
    (hd : k.device ∈ devices) (hb : hasButton k.button = true)
    (hj : ∀ job, .submit job ∈ requests → job.key = k → ∃ length, job.action = .pulse length)
    (hw : ∀ ms, .sleep ms ∈ requests → 0 < ms) (hm : 0 < ms) :
    let s := (requests ++ [Request.sleep ms]).foldl Session.serve
      (Session.start (Joystick.ofAvailable devices) 1 fastTicks settings).value
    let spans := train k 0 requests
    s.worker.phase = .running ∧ Timely s.now spans ∧
      (s.worker.tracker.timer? k).map Timer.span = holding s.now spans ∧
      s.backend.joystick.buttonWrites.count (k, true) = spans.length ∧
      s.backend.joystick.buttonWrites.count (k, false) = lapses s.now spans ∧
      (s.backend.joystick.isPressed k = true ↔
        ∃ last, spans.getLast? = some last ∧ s.now ≤ last.deadline) ∧
      (Chained spans → s.backend.joystick.buttonWrites.count (k, false) =
        (spans.getLast?.any (·.deadline < s.now)).toNat) := by
  have hk : (Joystick.ofAvailable devices).canFeed k = true := by
    rw [Joystick.canFeed, hb, Bool.and_true]
    exact Std.TreeSet.contains_ofList.trans (List.contains_iff_mem.mpr hd)
  intro s spans
  obtain ⟨ht, hn, hh, -⟩ := ((Session.trails_start hk fastTicks settings).serveAll hj hw).sleep hm
  have hs : s = _ := List.foldl_append
  rw [← hn] at hh
  have hh : (s.cell k).Holds s.now spans := by
    rw [hs]
    exact hh
  have ht : s.Tended := by
    rw [hs]
    exact ht
  have hp : s.backend.joystick.buttonWrites.count (k, true) = spans.length :=
    (count_written ..).symm.trans hh.presses
  have hr : s.backend.joystick.buttonWrites.count (k, false) = lapses s.now spans :=
    (count_written ..).symm.trans hh.releases
  refine ⟨hh.running, hh.timely, hh.span?_eq, hp, hr, ?_, fun hc => ?_⟩
  · rw [ht.shown.isPressed]
    show (s.cell k).down = true ↔ _
    rw [hh.down_eq, hh.span?_eq, Option.isSome_iff_exists]
    exact exists_congr fun last => holding_eq_some
  · rw [hr, hh.timely.lapses_of_chained hc]

/-- A button that is pulsed at the very deadline of its first pulse, and again within its second
one, for a millisecond only, is let go of once, after that millisecond. -/
theorem pulses_hold_repulsed :
    let k : ButtonKey := ⟨1, 128⟩
    let c : ButtonKey := ⟨1, 1⟩
    let requests : List Request := [.submit ⟨k, .pulse 100⟩, .submit ⟨c, .press⟩, .sleep 100,
      .submit ⟨c, .pulseRelease 7⟩, .submit ⟨k, .pulse 100⟩, .sleep 40, .submit ⟨k, .pulse 1⟩]
    let s := (requests ++ [Request.sleep 2]).foldl Session.serve
      (Session.start (Joystick.ofAvailable [1]) 1 0 {}).value
    train k 0 requests = [⟨0, 100⟩, ⟨100, 100⟩, ⟨140, 1⟩] ∧
      s.backend.joystick.buttonWrites.count (k, true) = 3 ∧
      s.backend.joystick.buttonWrites.count (k, false) = 1 ∧
      s.backend.joystick.isPressed k = false := by
  intro k c requests s
  have ht : train k 0 requests = [⟨0, 100⟩, ⟨100, 100⟩, ⟨140, 1⟩] := by decide
  have hn : s.now = 142 := by decide +kernel
  have hj : ∀ job, .submit job ∈ requests → job.key = k → ∃ length, job.action = .pulse length := by
    intro job hm hk
    simp only [requests, List.mem_cons, Request.submit.injEq, reduceCtorEq, List.not_mem_nil,
      or_false, false_or] at hm
    rcases hm with rfl | rfl | rfl | rfl | rfl
    · exact ⟨100, rfl⟩
    · exact absurd hk (by decide)
    · exact absurd hk (by decide)
    · exact ⟨100, rfl⟩
    · exact ⟨1, rfl⟩
  have hw : ∀ ms, .sleep ms ∈ requests → 0 < ms := by
    intro ms hm
    simp only [requests, List.mem_cons, Request.sleep.injEq, reduceCtorEq, List.not_mem_nil,
      or_false, false_or] at hm
    omega
  obtain ⟨-, -, -, hp, hr, hd, -⟩ := pulses_hold [1] 0 {} requests 2 k (by decide) (by decide) hj hw
    (by decide)
  change s.backend.joystick.buttonWrites.count (k, true) = _ at hp
  change s.backend.joystick.buttonWrites.count (k, false) = lapses s.now _ at hr
  change s.backend.joystick.isPressed k = true ↔ ∃ last, _ ∧ s.now ≤ _ at hd
  rw [ht] at hp hr hd
  rw [hn] at hr hd
  refine ⟨ht, hp, hr.trans (by decide), Bool.eq_false_iff.mpr fun h => ?_⟩
  obtain ⟨last, hl, hle⟩ := hd.mp h
  obtain rfl := Option.some.inj hl
  exact absurd hle (by decide)

end ControlDeck
