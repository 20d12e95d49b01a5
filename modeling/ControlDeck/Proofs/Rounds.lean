import ControlDeck.Session
import ControlDeck.Proofs.Execution

/-!
# One dispatcher on the clock

What a moment does to a session with one dispatcher.

- **Expiries** (`Tracker.expireAll_spec`): every timer of a list is disarmed, and their releases are
  queued in the order of the list.
- **Ready sessions** (`Session.Ready`): one dispatcher, whose worker is awake if it has anything to
  do. Every request and every moment keeps them so.
- **What waiting keeps** (`Session.Kept`): what each timer that expires and each turn of a worker
  keeps, all of them keep together.
- **Rounds** (`Session.round_spec`): the timers that are due expire, and then the worker executes
  all jobs. `Session.mem_due` says which timers are due, `Session.nextDeadline?_spec` when the next
  one is.
-/

namespace ControlDeck

open Command Device Dispatch

namespace Dispatch.Tracker

/-- Lets timers expire one after the other. -/
def expireAll (t : Tracker) (q : Queue) (keys : List ButtonKey) : Tracker × Queue :=
  keys.foldl (fun r k => (r.1.expire r.2 k).value) (t, q)

/-- Armed timers that expire one after the other are disarmed, and queue their releases. -/
theorem expireAll_spec {t : Tracker} {q : Queue} {keys : List ButtonKey} (hn : keys.Nodup)
    (ha : ∀ k ∈ keys, t.isArmed k = true) (hs : q.hasSender = true) (ho : q.isOpen = true) :
    (∀ k, (t.expireAll q keys).1.isKnown k = t.isKnown k) ∧
      (∀ k, (t.expireAll q keys).1.pulses k =
        if k ∈ keys then ⟨(t.pulses k).generation, none⟩ else t.pulses k) ∧
      (t.expireAll q keys).2 =
        { q with jobs := q.jobs ++ keys.map fun k => Job.ending k (t.pulses k).generation } := by
  induction keys generalizing t q with
  | nil => simp [expireAll]
  | cons k keys ih =>
    rw [List.nodup_cons] at hn
    have hq := expire_queue (ha k List.mem_cons_self) q
    rw [hs, ho, Bool.and_true, if_pos rfl] at hq
    have ha' : ∀ c ∈ keys, (t.expire q k).value.1.isArmed c = true := by
      intro c hc
      have hk : c ≠ k := by
        rintro rfl
        exact hn.1 hc
      rw [isArmed_expire, beq_eq_false_iff_ne.mpr hk, ha c (List.mem_cons_of_mem _ hc)]
      rfl
    obtain ⟨hk, hp, hj⟩ := ih (t := (t.expire q k).value.1) (q := (t.expire q k).value.2) hn.2 ha'
      (by rw [hq]) (by rw [hq])
    have he : t.expireAll q (k :: keys) =
        (t.expire q k).value.1.expireAll (t.expire q k).value.2 keys := rfl
    rw [he]
    refine ⟨fun c => (hk c).trans (isKnown_expire ..), fun c => ?_, ?_⟩
    · rw [hp, pulses_expire]
      by_cases hc : c = k
      · subst hc
        simp [hn.1]
      · simp [hc]
    · have hm : keys.map (fun c => Job.ending c ((t.expire q k).value.1.pulses c).generation) =
          keys.map fun c => Job.ending c (t.pulses c).generation := by
        refine List.map_congr_left fun c hc => ?_
        have hck : c ≠ k := by
          rintro rfl
          exact hn.1 hc
        rw [pulses_expire, if_neg hck]
      rw [hj, hq, hm]
      simp only [hs, ho, List.map_cons, List.append_assoc, List.singleton_append]

end Dispatch.Tracker

namespace Dispatch.Worker

/-- Lets the timer of a button expire. -/
def expire (w : Worker) (k : ButtonKey) : Worker :=
  { w with
    tracker := (w.tracker.expire w.queue k).value.1
    queue := (w.tracker.expire w.queue k).value.2 }

theorem expire_of_not_isArmed {w : Worker} {k : ButtonKey} (h : w.tracker.isArmed k = false) :
    w.expire k = w := by
  rw [expire, Tracker.expire_of_not_isArmed h]

/-- Lets timers of a worker expire one after the other. -/
def expireAll (w : Worker) (keys : List ButtonKey) : Worker :=
  let (tracker, queue) := w.tracker.expireAll w.queue keys
  { w with tracker, queue }

theorem expireAll_cons (w : Worker) (k : ButtonKey) (keys : List ButtonKey) :
    w.expireAll (k :: keys) = (w.expire k).expireAll keys := rfl

end Dispatch.Worker

namespace Session

/-- The worker of the first dispatcher. -/
abbrev worker (s : Session) : Worker := (s.lane 0).worker

/-- One dispatcher, whose worker is awake if it has anything to do. -/
structure Ready (s : Session) : Prop where
  size : s.lanes.size = 1
  awake : s.awake = [0] ∨ s.awake = [] ∧ s.worker.queue.jobs = []

variable {s : Session} {i j : Nat}

theorem lane_setLane (h : i < s.lanes.size) (l : Lane) :
    (s.setLane i l).lane j = if j = i then l else s.lane j := by
  by_cases hj : j = i
  · subst hj
    simp [lane, setLane, h]
  · simp [lane, setLane, Array.getD_eq_getD_getElem?, Ne.symm hj, hj]

theorem setLane_setLane (s : Session) (i : Nat) (l l' : Lane) :
    (s.setLane i l).setLane i l' = s.setLane i l' := by
  simp [setLane]

theorem lane_setWorker (h : i < s.lanes.size) (worker : Worker) :
    (s.setWorker i worker).lane j = if j = i then { s.lane i with worker } else s.lane j :=
  lane_setLane h _

theorem lane_wake (s : Session) (i j : Nat) : (s.wake i).lane j = s.lane j := by
  unfold wake
  split <;> rfl

theorem mem_wake : j ∈ (s.wake i).awake ↔ j ∈ s.awake ∨ j = i := by
  unfold wake
  split
  · rename_i h
    exact ⟨.inl, fun hj => hj.elim id (· ▸ h)⟩
  · rw [List.mem_append, List.mem_singleton]

theorem worker_setWorker (h : s.lanes.size = 1) (w : Worker) : (s.setWorker 0 w).worker = w := by
  simp [worker, setWorker, setLane, lane, h]

theorem size_setWorker (w : Worker) : (s.setWorker 0 w).lanes.size = s.lanes.size := by
  simp [setWorker, setLane]

/-- A timer that expires wakes the worker. -/
theorem expire_value (s : Session) (i : Nat) (k : ButtonKey) :
    (s.expire i k).value = (s.setWorker i ((s.lane i).worker.expire k)).wake i := rfl

/-- The worker is awake once something has been done with it. -/
theorem ready_wake (h : s.Ready) (w : Worker) :
    ((s.setWorker 0 w).wake 0).Ready ∧ ((s.setWorker 0 w).wake 0).worker = w ∧
      ((s.setWorker 0 w).wake 0).backend = s.backend := by
  have ha : (s.setWorker 0 w).awake = s.awake := rfl
  have hs := (size_setWorker (s := s) w).trans h.size
  have hw := worker_setWorker h.size w
  unfold wake
  rcases h.awake with h0 | ⟨h0, -⟩
  · rw [if_pos (by rw [ha, h0]; exact List.mem_singleton_self 0)]
    exact ⟨⟨hs, .inl h0⟩, hw, rfl⟩
  · rw [if_neg (by rw [ha, h0]; exact List.not_mem_nil)]
    exact ⟨⟨hs, .inl (by rw [ha, h0]; rfl)⟩, hw, rfl⟩

/-- Timers of the only dispatcher expire one after the other. -/
theorem expire_foldl (h : s.Ready) {due : List (Nat × ButtonKey × Timer)}
    (hd : ∀ x ∈ due, x.1 = 0) :
    let r := due.foldl (fun s x => (s.expire x.1 x.2.1).value) s
    r.Ready ∧ r.worker = s.worker.expireAll (due.map (·.2.1)) ∧ r.backend = s.backend := by
  induction due generalizing s with
  | nil => exact ⟨h, rfl, rfl⟩
  | cons x due ih =>
    obtain ⟨i, k, timer⟩ := x
    obtain rfl : i = 0 := hd _ List.mem_cons_self
    obtain ⟨hr, hw, hb⟩ := s.ready_wake h (s.worker.expire k)
    obtain ⟨hr', hw', hb'⟩ := ih hr fun y hy => hd y (List.mem_cons_of_mem _ hy)
    refine ⟨hr', ?_, hb'.trans hb⟩
    refine hw'.trans ?_
    rw [hw]
    rfl

/-! ## What waiting keeps -/

/-- A round lets everything expire that is due, and then gives its turns. -/
theorem round_value (s : Session) (now : Nat) :
    (s.round now).value =
      let s := (s.due now).foldl (fun s x => (s.expire x.1 x.2.1).value) s
      s.awake.foldl (fun s i => (runWorker now s i).value) { s with awake := [] } := by
  simp only [round, Logged.value_bind, Logged.value_foldlM]

/-- Whether a property of a session is kept by timers that expire and by turns of workers, whichever
workers are awake. -/
structure Kept (Q : Session → Prop) : Prop where
  asleep {s : Session} (h : Q s) : Q { s with awake := [] }
  expire {s : Session} (h : Q s) (i : Nat) (k : ButtonKey) : Q (s.expire i k).value
  turn {s : Session} (h : Q s) (now i : Nat) : Q (s.runWorker now i).value

namespace Kept

variable {Q : Session → Prop}

theorem expireAll (hQ : Kept Q) (h : Q s) (due : List (Nat × ButtonKey × Timer)) :
    Q (due.foldl (fun s x => (s.expire x.1 x.2.1).value) s) :=
  List.foldlRecOn (motive := Q) due _ h fun _ h x _ => hQ.expire h x.1 x.2.1

theorem turns (hQ : Kept Q) (h : Q s) (now : Nat) (is : List Nat) :
    Q (is.foldl (fun s i => (s.runWorker now i).value) s) :=
  List.foldlRecOn (motive := Q) is _ h fun _ h i _ => hQ.turn h now i

theorem round (hQ : Kept Q) (h : Q s) (now : Nat) : Q (s.round now).value := by
  rw [round_value]
  exact hQ.turns (hQ.asleep (hQ.expireAll h (s.due now))) now _

theorem instant (hQ : Kept Q) (h : Q s) (now : Nat) : Q (s.instant now).value := by
  simp only [Session.instant, Logged.value_bind, Logged.value_ite, Logged.value_pure]
  split
  · exact hQ.round h now
  · exact hQ.round (hQ.round h now) now

/-- What expiries and turns keep is kept at every moment of a wait. -/
theorem elapse (hQ : Kept Q) (h : Q s) (wake now : Nat) :
    Q (Dispatch.elapse nextDeadline? Session.instant wake now s).value.2 := by
  induction hm : wake - now using Nat.strongRecOn generalizing s now with
  | ind m ih =>
    subst hm
    rw [Dispatch.elapse, Logged.value_bind]
    cases (s.instant now).value.nextDeadline? with
    | none => exact hQ.instant h now
    | some next =>
      by_cases hc : now < next ∧ next < wake
      · simp only [dif_pos hc]
        exact ih (wake - next) (by omega) (hQ.instant h now) next rfl
      · simp only [dif_neg hc]
        exact hQ.instant h now

end Kept

theorem now_wake (s : Session) (i : Nat) : (s.wake i).now = s.now := by
  unfold wake
  split <;> rfl

/-- The clock is set by none of these. -/
theorem kept_now (now : Nat) : Kept (·.now = now) where
  asleep h := h
  expire h i k := (now_wake ..).trans h
  turn {s} h _ i := by
    unfold runWorker
    simp only [Logged.value_ite, Logged.value_bind, Logged.value_pure]
    split
    · split <;> exact h
    · exact h

theorem now_instant (s : Session) (now : Nat) : (s.instant now).value.now = s.now :=
  (kept_now s.now).instant rfl now

/-- A wait sets the clock only at its end. -/
theorem now_elapse (wake now : Nat) (s : Session) :
    (elapse nextDeadline? instant wake now s).value.2.now = s.now :=
  (kept_now s.now).elapse rfl wake now

/-! ## What is due -/

/-- The timers that are due are the armed ones whose deadline has come. -/
theorem mem_due_iff {now : Nat} {x : Nat × ButtonKey × Timer} :
    x ∈ s.due now ↔
      x.1 < s.lanes.size ∧ (s.lane x.1).worker.tracker.timer? x.2.1 = some x.2.2 ∧
        x.2.2.deadline ≤ now := by
  obtain ⟨i, k, timer⟩ := x
  simp only [due, List.mem_mergeSort, List.mem_flatMap, List.mem_range, List.mem_map, Tracker.due,
    List.mem_filter, decide_eq_true_eq, Prod.mk.injEq]
  constructor
  · rintro ⟨i, hi, ⟨c, t⟩, ⟨hm, hd⟩, rfl, he⟩
    cases he
    exact ⟨hi, Tracker.mem_armed.mp hm, hd⟩
  · rintro ⟨hi, hm, hd⟩
    exact ⟨i, hi, (k, timer), ⟨Tracker.mem_armed.mpr hm, hd⟩, rfl, rfl⟩

theorem mem_due (h : s.lanes.size = 1) {now : Nat} {x : Nat × ButtonKey × Timer} :
    x ∈ s.due now ↔
      x.1 = 0 ∧ s.worker.tracker.timer? x.2.1 = some x.2.2 ∧ x.2.2.deadline ≤ now := by
  rw [mem_due_iff, h, Nat.lt_one_iff]
  exact and_congr_right fun hx => by rw [hx]

/-- The buttons whose timer is due. -/
def dueKeys (s : Session) (now : Nat) : List ButtonKey := (s.due now).map (·.2.1)

theorem mem_dueKeys (h : s.lanes.size = 1) {now : Nat} {k : ButtonKey} :
    k ∈ s.dueKeys now ↔
      ∃ timer, s.worker.tracker.timer? k = some timer ∧ timer.deadline ≤ now := by
  rw [dueKeys, List.mem_map]
  constructor
  · rintro ⟨x, hx, rfl⟩
    exact ⟨x.2.2, ((mem_due h).mp hx).2⟩
  · rintro ⟨timer, ht⟩
    exact ⟨(0, k, timer), (mem_due h).mpr ⟨rfl, ht⟩, rfl⟩

/-- No button has two timers that are due. -/
theorem nodup_dueKeys (h : s.lanes.size = 1) (now : Nat) : (s.dueKeys now).Nodup := by
  have hp : (s.due now).Perm ((s.worker.tracker.due now).map (0, ·)) := by
    refine (List.mergeSort_perm ..).trans ?_
    rw [h]
    simp [List.range_succ]
  have hk := hp.map (·.2.1)
  rw [List.map_map] at hk
  exact hk.nodup_iff.mpr (s.worker.tracker.nodup_map_due now)

theorem nextDeadline?_eq (h : s.lanes.size = 1) :
    s.nextDeadline? = s.worker.tracker.nextDeadline? := by
  have hl : s.lanes.toList = [s.lane 0] := by
    refine List.ext_getElem (by simp [h]) fun i hi _ => ?_
    obtain rfl : i = 0 := by
      rw [Array.length_toList, h] at hi
      omega
    simp [lane, h]
  rw [nextDeadline?, hl]
  show ((_ : List Lane).filterMap _).min? = (s.lane 0).worker.tracker.nextDeadline?
  rw [List.filterMap_cons]
  cases (s.lane 0).worker.tracker.nextDeadline? <;> rfl

/-! ## Rounds -/

/-- A worker that runs has its turn, and any other one does nothing. -/
theorem runWorker_value (now : Nat) (s : Session) (i : Nat) :
    (runWorker now s i).value =
      if (s.lane i).worker.phase = .running then
        let r := (s.lane i).worker.turn s.backend ⟨now, s.turns⟩
        { ({ s with turns := s.turns + 1 } : Session).setWorker i r.1 with backend := r.2 }
      else { s with turns := s.turns + 1 } := by
  unfold runWorker
  by_cases hp : (s.lane i).worker.phase = .running
  · simp only [hp, ↓reduceIte, Worker.turn, Logged.value_bind, Logged.value_ite, Logged.value_pure]
    split <;> rfl
  · simp only [hp, ↓reduceIte, Logged.value_pure]

/-- The turn of a worker that runs, is not cancelled and has a sender: it executes all its jobs. -/
theorem runWorker_spec (h : s.lanes.size = 1) (ha : s.awake = []) (hp : s.worker.phase = .running)
    (hc : s.worker.cancelled = false) (hs : s.worker.queue.hasSender = true) (now : Nat) :
    let r := Worker.executeAll ⟨now, s.turns⟩
      (s.worker.setQueue { s.worker.queue with jobs := [] }, s.backend) s.worker.queue.jobs
    (runWorker now s 0).value.Ready ∧ (runWorker now s 0).value.worker = r.1 ∧
      (runWorker now s 0).value.backend = r.2 := by
  intro r
  obtain ⟨hq, -⟩ := Worker.executeAll_frame ⟨now, s.turns⟩
    (s.worker.setQueue { s.worker.queue with jobs := [] }, s.backend) s.worker.queue.jobs
  have ht : s.worker.turn s.backend ⟨now, s.turns⟩ = r := Worker.turn_of_running hp hc hs ..
  have hv : (runWorker now s 0).value =
      { ({ s with turns := s.turns + 1 } : Session).setWorker 0 r.1 with backend := r.2 } := by
    rw [runWorker_value, if_pos hp, ← ht]
  have hw : (runWorker now s 0).value.worker = r.1 := by
    rw [hv]
    exact worker_setWorker (s := { s with turns := s.turns + 1 }) h r.1
  refine ⟨⟨?_, .inr ⟨?_, ?_⟩⟩, hw, by rw [hv]⟩
  · rw [hv]
    exact (size_setWorker (s := { s with turns := s.turns + 1 }) r.1).trans h
  · rw [hv]
    exact ha
  · rw [hw]
    exact congrArg Queue.jobs hq

/-- Everything due expires, and then the worker executes all jobs. -/
theorem round_spec (h : s.Ready) (hp : s.worker.phase = .running)
    (hc : s.worker.cancelled = false) (ho : s.worker.queue.isOpen = true)
    (hs : s.worker.queue.hasSender = true) (now : Nat) :
    ∃ turn,
      let w := s.worker.expireAll (s.dueKeys now)
      let r := Worker.executeAll ⟨now, turn⟩
        (w.setQueue { w.queue with jobs := [] }, s.backend) w.queue.jobs
      (s.round now).value.Ready ∧ (s.round now).value.worker = r.1 ∧
        (s.round now).value.backend = r.2 := by
  have hz : ∀ x ∈ s.due now, x.1 = 0 := fun x hx => ((mem_due h.size).mp hx).1
  obtain ⟨hr, hw, hb⟩ := expire_foldl h hz
  rw [round_value]
  generalize (s.due now).foldl (fun s x => (s.expire x.1 x.2.1).value) s = u at hr hw hb
  have hk : ∀ k ∈ s.dueKeys now, s.worker.tracker.isArmed k = true := by
    intro k hk
    obtain ⟨timer, ht, -⟩ := (mem_dueKeys h.size).mp hk
    rw [Tracker.isArmed, ht]
    rfl
  have hq : u.worker.queue.hasSender = true := by
    have hx := (Tracker.expireAll_spec (nodup_dueKeys h.size now) hk hs ho).2.2
    rw [hw]
    exact (congrArg Queue.hasSender hx).trans hs
  dsimp only
  rw [show s.dueKeys now = (s.due now).map (·.2.1) from rfl, ← hw, ← hb]
  rcases hr.awake with ha | ⟨ha, hj⟩
  · rw [ha]
    exact ⟨u.turns, runWorker_spec (s := { u with awake := [] }) hr.size rfl (hw ▸ hp) (hw ▸ hc) hq
      now⟩
  · -- a worker that sleeps has nothing to execute
    have hn : u.worker.setQueue { u.worker.queue with jobs := [] } = u.worker := by
      rw [← hj]
      rfl
    rw [ha, hj, hn]
    exact ⟨0, ⟨hr.size, .inr ⟨rfl, hj⟩⟩, rfl, rfl⟩

end Session

end ControlDeck
