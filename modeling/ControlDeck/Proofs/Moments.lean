import ControlDeck.Proofs.Cells

/-!
# One button on the clock

What a moment and a wait do to one button of a session with one dispatcher.

- **Rounds and waits of a cell** (`Cell.round`, `Cell.instant`, `Cell.pass`): the timer expires if
  it is due, and the worker has its turn; and so on, millisecond by millisecond.
- **Quiet cells** (`Cell.Quiet`): nothing is queued and the worker has no reason to leave its loop,
  so that a turn does nothing. Every turn makes them so (`Cell.Sound.turn`).
- **Tended sessions** (`Session.Tended`): one dispatcher, whose worker sleeps only while all its
  cells are quiet. Whatever a session does at a moment or during a wait, its cells do by themselves
  (`Tended.round`, `Tended.instant`, `Tended.elapse`), and so it is with requests
  (`Tended.submit`, `Tended.sleep`).
-/

namespace ControlDeck

open Command Device Dispatch

namespace Dispatch.Cell

/-! ## Rounds -/

/-- Lets the timer expire if it is due. -/
def expireDue (now : Nat) (c : Cell) : Cell := if c.due now then c.expire else c

/-- The timer expires if it is due, and then the worker has its turn. -/
def round (now : Nat) (c : Cell) : Cell := (c.expireDue now).turn now

/-- Everything that happens at one moment. -/
def instant (now : Nat) (c : Cell) : Cell := (c.round now).round now

/-- Some milliseconds pass, one by one. -/
def pass (now : Nat) (c : Cell) : Nat → Cell
  | 0 => c
  | ms + 1 => pass (now + 1) (c.instant now) ms

/-- What holds between the turns of a worker: it runs, or it has stopped and accepts no job. -/
structure Sound (c : Cell) : Prop where
  settled : c.phase ≠ .draining
  closed : c.phase = .stopped → c.isOpen = false ∧ c.queued = []

/-- What a turn leaves: nothing is queued, and a worker that runs has no reason to stop. -/
structure Quiet (c : Cell) : Prop extends c.Sound where
  empty : c.queued = []
  calm : c.phase = .running → c.cancelled = false ∧ c.hasSender = true

variable {c : Cell}

/-- What no action changes. -/
theorem execute_frame (now : Nat) (c : Cell) (a : Action) :
    (c.execute now a).phase = c.phase ∧ (c.execute now a).cancelled = c.cancelled ∧
      (c.execute now a).isOpen = c.isOpen ∧ (c.execute now a).hasSender = c.hasSender ∧
      (c.execute now a).canFeed = c.canFeed ∧ (c.execute now a).queued = c.queued := by
  cases a <;> exact ⟨rfl, rfl, rfl, rfl, rfl, rfl⟩

theorem foldl_execute_frame (now : Nat) (c : Cell) (as : List Action) :
    (as.foldl (execute now) c).phase = c.phase ∧
      (as.foldl (execute now) c).cancelled = c.cancelled ∧
      (as.foldl (execute now) c).isOpen = c.isOpen ∧
      (as.foldl (execute now) c).hasSender = c.hasSender ∧
      (as.foldl (execute now) c).canFeed = c.canFeed ∧
      (as.foldl (execute now) c).queued = c.queued := by
  induction as generalizing c with
  | nil => exact ⟨rfl, rfl, rfl, rfl, rfl, rfl⟩
  | cons a as ih =>
    obtain ⟨hp, hc, ho, hs, hf, hq⟩ := ih (c.execute now a)
    obtain ⟨hp', hc', ho', hs', hf', hq'⟩ := c.execute_frame now a
    exact ⟨hp.trans hp', hc.trans hc', ho.trans ho', hs.trans hs', hf.trans hf', hq.trans hq'⟩

/-- A worker that goes on executes the queued actions in its turn. -/
theorem turn_of_running (hp : c.phase = .running) (hc : c.cancelled = false)
    (hs : c.hasSender = true) (now : Nat) :
    c.turn now = c.queued.foldl (execute now) { c with queued := [] } := by
  have hr : c.run now = c.queued.foldl (execute now) { c with queued := [] } := by
    unfold run
    rw [if_neg (Bool.eq_false_iff.mp hc)]
    refine if_pos ?_
    rw [(foldl_execute_frame ..).2.2.2.1]
    exact hs
  have hn : ¬ (c.queued.foldl (execute now) { c with queued := [] }).phase = .draining := by
    rw [(foldl_execute_frame ..).1, hp]
    exact nofun
  unfold turn
  rw [if_pos hp, hr]
  exact if_neg hn

/-- The last turn of a worker ends with its cleaning up. -/
theorem stopped_of_run (h : (c.run now).phase = .draining) (hp : c.phase = .running) :
    (c.turn now).phase = .stopped ∧ (c.turn now).isOpen = false ∧ (c.turn now).queued = [] := by
  unfold turn
  rw [if_pos hp]
  dsimp only
  rw [if_pos h]
  exact ⟨rfl, rfl, rfl⟩

/-- Every turn leaves a quiet cell. -/
theorem Sound.turn (h : c.Sound) (now : Nat) : (c.turn now).Quiet := by
  by_cases hp : c.phase = .running
  · by_cases hg : c.cancelled = false ∧ c.hasSender = true
    · rw [turn_of_running hp hg.1 hg.2]
      obtain ⟨hp', hc', -, hs', -, hq'⟩ :=
        foldl_execute_frame now { c with queued := [] } c.queued
      have hr : (c.queued.foldl (execute now) { c with queued := [] }).phase = .running :=
        hp'.trans hp
      exact ⟨⟨by rw [hr]; exact nofun, fun hn => absurd (hr.symm.trans hn) nofun⟩, hq',
        fun _ => ⟨hc'.trans hg.1, hs'.trans hg.2⟩⟩
    · have hd : (c.run now).phase = .draining := by
        unfold run
        split
        · rfl
        · rename_i hc
          refine congrArg phase (if_neg fun hs => hg ⟨Bool.eq_false_iff.mpr hc, ?_⟩)
          rw [(foldl_execute_frame ..).2.2.2.1] at hs
          exact hs
      obtain ⟨hs, ho, hq⟩ := stopped_of_run hd hp
      exact ⟨⟨by rw [hs]; exact nofun, fun _ => ⟨ho, hq⟩⟩, hq, by rw [hs]; exact nofun⟩
  · have hs : c.phase = .stopped := by
      have hd := h.settled
      cases hc : c.phase <;> simp_all
    have ht : c.turn now = c := if_neg hp
    rw [ht]
    exact ⟨h, (h.closed hs).2, fun hr => absurd hr hp⟩

/-- A turn does nothing to a quiet cell. -/
theorem Quiet.turn_eq (h : c.Quiet) (now : Nat) : c.turn now = c := by
  by_cases hp : c.phase = .running
  · obtain ⟨hc, hs⟩ := h.calm hp
    rw [turn_of_running hp hc hs, h.empty]
    show { c with queued := [] } = c
    rw [← h.empty]
  · exact if_neg hp

theorem expire_of_none (h : c.span? = none) : c.expire = c := by
  unfold expire
  rw [h]

theorem expire_of_some {p : Span} (h : c.span? = some p) :
    c.expire = { c with
      span? := none
      queued := c.queued ++
        if c.hasSender && c.isOpen then [.pulseRelease c.generation] else [] } := by
  unfold expire
  rw [h]

theorem Sound.expire (h : c.Sound) : c.expire.Sound := by
  cases hs : c.span? with
  | none => rwa [expire_of_none hs]
  | some p =>
    rw [expire_of_some hs]
    refine ⟨h.settled, fun hp => ?_⟩
    obtain ⟨ho, hq⟩ := h.closed hp
    refine ⟨ho, ?_⟩
    show c.queued ++ (if c.hasSender && c.isOpen then _ else _) = []
    rw [hq, ho, Bool.and_false]
    rfl

theorem Sound.expireDue (h : c.Sound) (now : Nat) : (c.expireDue now).Sound := by
  unfold Cell.expireDue
  split
  · exact h.expire
  · exact h

theorem Sound.round (h : c.Sound) (now : Nat) : (c.round now).Quiet := (h.expireDue now).turn now

theorem due_eq_false_iff {now : Nat} :
    c.due now = false ↔ ∀ p, c.span? = some p → now < p.deadline := by
  unfold due
  cases c.span? <;> simp

/-- A round does nothing to a quiet cell whose timer is not due. -/
theorem Quiet.round_eq (h : c.Quiet) {now : Nat} (hd : c.due now = false) : c.round now = c := by
  unfold Cell.round Cell.expireDue
  rw [if_neg (Bool.eq_false_iff.mp hd)]
  exact h.turn_eq now

/-- After a timer of a quiet cell has expired, the cell has no timer. -/
theorem Quiet.span?_round (h : c.Quiet) {now : Nat} (hd : c.due now = true) :
    (c.round now).span? = none := by
  obtain ⟨p, hs⟩ := Option.isSome_iff_exists.mp (Option.isSome_of_any hd)
  unfold Cell.round Cell.expireDue
  rw [if_pos hd, expire_of_some hs, h.empty, List.nil_append]
  by_cases hp : c.phase = .running
  · obtain ⟨hc, hq⟩ := h.calm hp
    refine (congrArg span? (turn_of_running ?_ ?_ ?_ now)).trans ?_
    · exact hp
    · exact hc
    · exact hq
    -- the release of the pulse arms no timer
    · dsimp only
      split <;> rfl
  · exact congrArg span? (if_neg hp)

/-- After a moment nothing is due any more. -/
theorem Sound.not_due_instant (h : c.Sound) (now : Nat) : (c.instant now).due now = false := by
  have hq := h.round now
  unfold Cell.instant
  cases hd : (c.round now).due now with
  | true =>
    unfold due
    rw [hq.span?_round hd]
    rfl
  | false => rw [hq.round_eq hd, hd]

theorem Sound.instant (h : c.Sound) (now : Nat) : (c.instant now).Quiet :=
  (h.round now).toSound.round now

/-- A job is queued last, unless the queue is closed. -/
def send (c : Cell) (a : Action) : Cell :=
  if c.isOpen then { c with queued := c.queued ++ [a] } else c

theorem Sound.send (h : c.Sound) (a : Action) : (c.send a).Sound := by
  unfold Cell.send
  split
  · rename_i ho
    refine ⟨h.settled, fun hp => ?_⟩
    exact absurd (ho.symm.trans (h.closed hp).1) nofun
  · exact h

/-! ## Waits -/

theorem pass_add (now : Nat) (c : Cell) (a b : Nat) :
    c.pass now (a + b) = (c.pass now a).pass (now + a) b := by
  induction a generalizing now c with
  | zero => rw [Nat.zero_add]; rfl
  | succ a ih =>
    rw [Nat.succ_add]
    show (c.instant now).pass (now + 1) (a + b) = _
    rw [ih, show now + 1 + a = now + (a + 1) by omega]
    rfl

/-- Until its timer is due nothing happens to a quiet cell. -/
theorem Quiet.pass_eq (h : c.Quiet) {now ms : Nat}
    (hd : ∀ p, c.span? = some p → now + ms ≤ p.deadline) : c.pass now ms = c := by
  induction ms generalizing now with
  | zero => rfl
  | succ ms ih =>
    have hn : c.due now = false := due_eq_false_iff.mpr fun p hp => by
      have hle := hd p hp
      omega
    have hi : c.instant now = c := by
      unfold Cell.instant
      rw [h.round_eq hn, h.round_eq hn]
    show (c.instant now).pass (now + 1) ms = c
    rw [hi]
    exact ih fun p hp => by
      have hle := hd p hp
      omega

end Dispatch.Cell

namespace Session

variable {s : Session}

/-! ## Sessions -/

/-- What the dispatcher and the joystick hold about one button. -/
def cell (s : Session) (k : ButtonKey) : Cell := s.worker.cell s.backend k

/-- One dispatcher, alone with its joystick while its worker runs; the worker sleeps only while all
its cells are quiet. -/
structure Tended (s : Session) : Prop where
  size : s.lanes.size = 1
  sound : ∀ k, (s.cell k).Sound
  awake : s.awake = [0] ∨ s.awake = [] ∧ ∀ k, (s.cell k).Quiet
  sole : s.worker.phase = .running → s.worker.Sole s.backend
  shown : s.backend.joystick.Shown

/-- Nothing is queued where nothing is queued for any button. -/
theorem jobs_eq_nil (h : ∀ k, (s.cell k).queued = []) : s.worker.queue.jobs = [] := by
  cases hj : s.worker.queue.jobs with
  | nil => rfl
  | cons job jobs =>
    have hq : actionsOn job.key s.worker.queue.jobs = [] := h job.key
    rw [hj, ← List.singleton_append, actionsOn_append, actionsOn_singleton, if_pos rfl] at hq
    cases hq

theorem Tended.ready (h : s.Tended) : s.Ready :=
  ⟨h.size, h.awake.imp_right fun ha => ⟨ha.1, jobs_eq_nil fun k => (ha.2 k).empty⟩⟩

/-- The turn of the only worker. -/
theorem runWorker_turn (h : s.lanes.size = 1) (now : Nat) :
    let r := s.worker.turn s.backend ⟨now, s.turns⟩
    let u := (runWorker now s 0).value
    u.lanes.size = 1 ∧ u.awake = s.awake ∧ u.worker = r.1 ∧ u.backend = r.2 := by
  have hw := worker_setWorker (s := { s with turns := s.turns + 1 }) h
  have hs := size_setWorker (s := { s with turns := s.turns + 1 })
  dsimp only
  rw [runWorker_value]
  split
  · exact ⟨(hs _).trans h, rfl, hw _, rfl⟩
  · rename_i hp
    rw [show s.worker.turn s.backend ⟨now, s.turns⟩ = (s.worker, s.backend) from if_neg hp]
    exact ⟨h, rfl, rfl, rfl⟩

theorem dueKeys_iff (h : s.lanes.size = 1) {now : Nat} {k : ButtonKey} :
    k ∈ s.dueKeys now ↔ (s.cell k).due now = true := by
  rw [mem_dueKeys h]
  unfold Cell.due cell Worker.cell
  dsimp only
  cases s.worker.tracker.timer? k with
  | none => simp
  | some timer =>
    rw [Option.map_some, Option.any_some, decide_eq_true_iff]
    exact ⟨fun ⟨t, ht, hd⟩ => Option.some.inj ht ▸ hd, fun hd => ⟨timer, rfl, hd⟩⟩

/-- A worker whose timer expires is woken. -/
theorem mem_awake_expire (s : Session) (i : Nat) (k : ButtonKey) :
    i ∈ (s.expire i k).value.awake := mem_wake.mpr (.inr rfl)

/-- A worker that still sleeps has no timer that was due. -/
theorem due_eq_nil_of_asleep {now : Nat}
    (ha : ((s.due now).foldl (fun s x => (s.expire x.1 x.2.1).value) s).awake = []) :
    s.due now = [] := by
  rcases List.eq_nil_or_concat (s.due now) with hd | ⟨due, x, hd⟩
  · exact hd
  · rw [hd, List.concat_eq_append, List.foldl_append, List.foldl_cons, List.foldl_nil] at ha
    have hm := mem_awake_expire (due.foldl (fun s x => (s.expire x.1 x.2.1).value) s) x.1 x.2.1
    rw [ha] at hm
    exact absurd hm List.not_mem_nil

/-- Everything that is due expires. -/
theorem Tended.expireDue (h : s.Tended) (now : Nat) :
    let u := (s.due now).foldl (fun s x => (s.expire x.1 x.2.1).value) s
    u.Tended ∧ ∀ k, u.cell k = (s.cell k).expireDue now := by
  intro u
  have hz : ∀ x ∈ s.due now, x.1 = 0 := fun x hx => ((mem_due h.size).mp hx).1
  obtain ⟨hr, hw, hb⟩ := expire_foldl h.ready hz
  change u.Ready at hr
  change u.worker = s.worker.expireAll (s.dueKeys now) at hw
  change u.backend = s.backend at hb
  have hc : ∀ k, u.cell k = (s.cell k).expireDue now := by
    intro k
    rw [cell, hw, hb, Worker.cell_expireAll _ _ (nodup_dueKeys h.size now)]
    unfold Cell.expireDue
    by_cases hd : (s.cell k).due now = true
    · rw [if_pos hd, if_pos ((dueKeys_iff h.size).mpr hd)]
      rfl
    · rw [if_neg hd, if_neg (mt (dueKeys_iff h.size).mp hd)]
      rfl
  refine ⟨⟨hr.size, fun k => ?_, ?_, fun hp => ?_, ?_⟩, hc⟩
  · rw [hc]
    exact (h.sound k).expireDue now
  · refine hr.awake.imp_right fun ha => ?_
    have hd : s.due now = [] := due_eq_nil_of_asleep ha.1
    have hu : u = s := by
      unfold u
      rw [hd]
      rfl
    rw [hu] at ha ⊢
    rcases h.awake with h0 | h0
    · rw [h0] at ha
      cases ha.1
    · exact h0
  · have hs := h.sole (by rw [hw] at hp; exact hp)
    rw [hw, hb]
    exact ⟨hs.alone, hs.shown⟩
  · rw [hb]
    exact h.shown

/-- A round of a session is a round of each cell, and leaves all of them quiet. -/
theorem Tended.round (h : s.Tended) (now : Nat) :
    (s.round now).value.Tended ∧ ∀ k, (s.round now).value.cell k = (s.cell k).round now := by
  obtain ⟨hu, hc⟩ := h.expireDue now
  rw [round_value]
  generalize (s.due now).foldl (fun s x => (s.expire x.1 x.2.1).value) s = u at hu hc
  dsimp only
  rcases hu.awake with ha | ⟨ha, hq⟩
  · obtain ⟨hs, ha', hw, hb⟩ := runWorker_turn (s := { u with awake := [] }) hu.size now
    change _ = (u.worker.turn u.backend ⟨now, u.turns⟩).1 at hw
    change _ = (u.worker.turn u.backend ⟨now, u.turns⟩).2 at hb
    have ht := Worker.cell_turn hu.sole hu.shown ⟨now, u.turns⟩
    rw [ha, List.foldl_cons, List.foldl_nil]
    generalize (runWorker now { u with awake := [] } 0).value = v at *
    have hcv : ∀ k, v.cell k = (s.cell k).round now := by
      intro k
      rw [cell, hw, hb, (ht k).2.2]
      show (u.cell k).turn now = _
      rw [hc]
      rfl
    have hqv : ∀ k, (v.cell k).Quiet := by
      intro k
      rw [hcv]
      exact (h.sound k).round now
    refine ⟨⟨hs, fun k => (hqv k).toSound, .inr ⟨ha', hqv⟩, fun hp => ?_, ?_⟩, hcv⟩
    · rw [hw] at hp ⊢
      rw [hb]
      exact (ht ⟨0, 0⟩).1 hp
    · rw [hb]
      exact (ht ⟨0, 0⟩).2.1
  · -- a worker that sleeps has nothing to do in its turn
    rw [ha, List.foldl_nil]
    refine ⟨⟨hu.size, hu.sound, .inr ⟨rfl, hq⟩, hu.sole, hu.shown⟩, fun k => ?_⟩
    show u.cell k = ((s.cell k).expireDue now).turn now
    rw [← hc, (hq k).turn_eq]

/-- A moment of a session is a moment of each cell. -/
theorem Tended.instant (h : s.Tended) (now : Nat) :
    (s.instant now).value.Tended ∧ ∀ k, (s.instant now).value.cell k = (s.cell k).instant now := by
  obtain ⟨hr, hc⟩ := h.round now
  have hv : (s.instant now).value =
      if ((s.round now).value.due now).isEmpty then (s.round now).value
      else ((s.round now).value.round now).value := by
    simp only [Session.instant, Logged.value_bind, Logged.value_ite, Logged.value_pure]
  rw [hv]
  split
  · rename_i hd
    refine ⟨hr, fun k => ?_⟩
    have hn : (((s.cell k).round now).due now) = false := by
      rw [← hc]
      refine Bool.eq_false_iff.mpr fun hk => ?_
      have hm := (dueKeys_iff hr.size).mpr hk
      rw [dueKeys, List.isEmpty_iff.mp hd] at hm
      exact absurd hm List.not_mem_nil
    rw [hc, Cell.instant, ((h.sound k).round now).round_eq hn]
  · obtain ⟨hr', hc'⟩ := hr.round now
    exact ⟨hr', fun k => by rw [hc', hc]; rfl⟩

/-- After a moment every deadline lies ahead. -/
theorem Tended.lt_nextDeadline? (h : s.Tended) {now next : Nat}
    (hd : (s.instant now).value.nextDeadline? = some next) : now < next := by
  obtain ⟨hi, hc⟩ := h.instant now
  rw [nextDeadline?_eq hi.size] at hd
  obtain ⟨⟨k, timer, ht, rfl⟩, -⟩ := Tracker.nextDeadline?_eq_some hd
  have hn := (h.sound k).not_due_instant now
  rw [← hc, Cell.due_eq_false_iff] at hn
  refine hn timer.span ?_
  rw [cell, Worker.cell, ht]
  rfl

/-- Until the next deadline nothing happens to quiet cells. -/
theorem Tended.pass_eq (h : s.Tended) (hq : ∀ k, (s.cell k).Quiet) {now ms : Nat}
    (hd : ∀ next, s.nextDeadline? = some next → now + ms ≤ next) (k : ButtonKey) :
    (s.cell k).pass now ms = s.cell k := by
  refine (hq k).pass_eq fun p hp => ?_
  obtain ⟨timer, ht, rfl⟩ := Option.map_eq_some_iff.mp hp
  rw [nextDeadline?_eq h.size] at hd
  cases hn : s.worker.tracker.nextDeadline? with
  | none =>
    rw [Tracker.nextDeadline?_eq_none hn] at ht
    cases ht
  | some next => exact Nat.le_trans (hd next hn) ((Tracker.nextDeadline?_eq_some hn).2 k timer ht)

/-- A wait lets the time pass for each cell: at least one moment, and one for each millisecond. -/
theorem Tended.elapse (h : s.Tended) (wake now : Nat) :
    let u := (Dispatch.elapse nextDeadline? Session.instant wake now s).value.2
    u.Tended ∧ ∀ k, u.cell k = (s.cell k).pass now (max (wake - now) 1) := by
  -- by induction on the time that is left, from one deadline to the next
  induction hm : wake - now using Nat.strongRecOn generalizing s now with
  | ind m ih =>
    subst hm
    obtain ⟨hi, hc⟩ := h.instant now
    have hq : ∀ k, ((s.instant now).value.cell k).Quiet := by
      intro k
      rw [hc]
      exact (h.sound k).instant now
    have hp : ∀ k, (s.cell k).pass now (max (wake - now) 1) =
        ((s.instant now).value.cell k).pass (now + 1) (max (wake - now) 1 - 1) := by
      intro k
      rw [hc, show max (wake - now) 1 = max (wake - now) 1 - 1 + 1 by omega]
      rfl
    have hlt : ∀ next, (s.instant now).value.nextDeadline? = some next → now < next :=
      fun next => h.lt_nextDeadline?
    rw [Dispatch.elapse, Logged.value_bind]
    generalize (s.instant now).value = u at *
    -- the rest of the wait, if no deadline comes before its end
    have hrest : (∀ next, u.nextDeadline? = some next → wake ≤ next) →
        ∀ k, u.cell k = (s.cell k).pass now (max (wake - now) 1) := by
      intro hw k
      rw [hp, hi.pass_eq hq]
      intro next hn
      have hle := hw next hn
      have hlt := hlt next hn
      omega
    cases hd : u.nextDeadline? with
    | none =>
      refine ⟨hi, hrest fun next hn => ?_⟩
      rw [hd] at hn
      cases hn
    | some next =>
      by_cases hw : now < next ∧ next < wake
      · simp only [dif_pos hw]
        obtain ⟨hr, hcr⟩ := ih (wake - next) (by omega) hi next rfl
        refine ⟨hr, fun k => ?_⟩
        have he : (u.cell k).pass (now + 1) (next - now - 1) = u.cell k := by
          refine hi.pass_eq hq (fun n hn => ?_) k
          obtain rfl := Option.some.inj (hd.symm.trans hn)
          omega
        rw [hcr, hp, show max (wake - now) 1 - 1 = (next - now - 1) + max (wake - next) 1 by omega,
          Cell.pass_add, he, show now + 1 + (next - now - 1) = next by omega]
      · simp only [dif_neg hw]
        refine ⟨hi, hrest fun n hn => ?_⟩
        obtain rfl := Option.some.inj (hd.symm.trans hn)
        have hlt := hlt next hd
        omega

/-! ## Requests -/

/-- A new session is tended. -/
theorem tended_start (devices : List UInt32) (fastTicks : UInt32) (settings : Settings) :
    (start (Joystick.ofAvailable devices) 1 fastTicks settings).value.Tended where
  size := rfl
  sound _ := ⟨nofun, nofun⟩
  awake := .inl rfl
  sole _ := ⟨Feeder.alone_ofAvailable devices, Joystick.shown_ofAvailable devices⟩
  shown := Joystick.shown_ofAvailable devices

/-- What is done to the worker wakes it. -/
theorem Tended.setWorker (h : s.Tended) {w : Worker} (hs : ∀ k, (w.cell s.backend k).Sound)
    (ha : w.phase = .running → w.Sole s.backend) :
    ((s.setWorker 0 w).wake 0).Tended ∧
      ∀ k, ((s.setWorker 0 w).wake 0).cell k = w.cell s.backend k := by
  obtain ⟨hr, hw, hb⟩ := ready_wake h.ready w
  have hm : 0 ∈ ((s.setWorker 0 w).wake 0).awake := mem_wake.mpr (.inr rfl)
  generalize (s.setWorker 0 w).wake 0 = u at *
  have hc : ∀ k, u.cell k = w.cell s.backend k := by
    intro k
    rw [cell, hw, hb]
  refine ⟨⟨hr.size, fun k => by rw [hc]; exact hs k, .inl ?_, fun hp => ?_,
    by rw [hb]; exact h.shown⟩, hc⟩
  · refine hr.awake.resolve_right fun hn => ?_
    rw [hn.1] at hm
    exact absurd hm List.not_mem_nil
  · rw [hw] at hp ⊢
    rw [hb]
    exact ha hp

/-- The job that a client submits is queued last, unless the queue is closed. -/
theorem submit_value (s : Session) (job : Job) :
    (s.submit 0 job).value.2 =
      if s.worker.queue.isOpen then
        (s.setWorker 0 (s.worker.setQueue
          { s.worker.queue with jobs := s.worker.queue.jobs ++ [job] })).wake 0
      else s := by
  unfold submit Session.enqueue Queue.enqueue Queue.send?
  cases ho : s.worker.queue.isOpen with
  | true =>
    simp only [show (s.lane 0).worker.queue.isOpen = true from ho, ↓reduceIte, Logged.value_bind,
      Logged.value_pure]
    rfl
  | false =>
    simp only [show (s.lane 0).worker.queue.isOpen = false from ho, Bool.false_eq_true, ↓reduceIte,
      Logged.value_bind, Logged.value_pure]

theorem now_submit (s : Session) (job : Job) : (s.submit 0 job).value.2.now = s.now := by
  rw [submit_value]
  split
  · exact now_wake ..
  · rfl

/-- A job that is submitted is sent to the cell of its button, and to no other one. -/
theorem Tended.submit (h : s.Tended) (job : Job) :
    (s.submit 0 job).value.2.Tended ∧ ∀ k, (s.submit 0 job).value.2.cell k =
      if job.key = k then (s.cell k).send job.action else s.cell k := by
  rw [submit_value]
  by_cases ho : s.worker.queue.isOpen = true
  · rw [if_pos ho]
    have hw : ∀ k, (s.worker.setQueue { s.worker.queue with
        jobs := s.worker.queue.jobs ++ [job] }).cell s.backend k =
          if job.key = k then (s.cell k).send job.action else s.cell k := by
      intro k
      unfold Worker.cell
      dsimp only [Worker.setQueue]
      rw [actionsOn_append, actionsOn_singleton]
      split
      · exact (if_pos (show (s.cell k).isOpen = true from ho)).symm
      · rw [List.append_nil]
        rfl
    have hs := h.setWorker (w := s.worker.setQueue { s.worker.queue with
      jobs := s.worker.queue.jobs ++ [job] }) (fun k => ?_) fun hp =>
        ⟨(h.sole hp).alone, (h.sole hp).shown⟩
    · exact ⟨hs.1, fun k => (hs.2 k).trans (hw k)⟩
    · rw [hw]
      split
      · exact (h.sound k).send job.action
      · exact h.sound k
  · rw [if_neg ho]
    refine ⟨h, fun k => ?_⟩
    split
    · exact (if_neg (show ¬ (s.cell k).isOpen = true from ho)).symm
    · rfl

/-- A client that sleeps lets the time pass for each cell. -/
theorem Tended.sleep (h : s.Tended) (ms : Nat) :
    (s.sleep ms).value.Tended ∧ (s.sleep ms).value.now = s.now + ms ∧
      ∀ k, (s.sleep ms).value.cell k = (s.cell k).pass s.now (max ms 1) := by
  obtain ⟨ht, hc⟩ := h.elapse (s.now + ms) s.now
  have hn := congrArg (· + ms) (now_elapse (s.now + ms) s.now s)
  refine ⟨⟨ht.size, ht.sound, ht.awake, ht.sole, ht.shown⟩, hn, fun k => ?_⟩
  rw [Nat.add_sub_cancel_left] at hc
  exact hc k

end Session

end ControlDeck
