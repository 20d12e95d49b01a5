import ControlDeck.Proofs.Draining
import ControlDeck.Proofs.Rounds

/-!
# One button at a time

What a worker holds about one button, and that it does nothing to a button but what its own jobs and
its own timer ask for.

- **Cells** (`Cell`, `Worker.cell`): the queued actions, the pulses and the writes of one button,
  with what all buttons share: the phase of the worker and the two ends of its queue.
- **One step** (`Worker.cell_execute`, `Worker.cell_expire`, `Worker.cell_turn`): each step of a
  worker acts on the cell of its own button as the step of the same name does, and leaves all other
  cells alone.
- **Shown writes** (`Joystick.Shown`): on a joystick that was fresh once, the journal says which
  buttons are down.
-/

namespace ControlDeck

namespace Device

/-! ## Shown writes -/

/-- The values that were written to a button, in order. -/
def written (k : ButtonKey) (ws : List (ButtonKey × Bool)) : List Bool :=
  (ws.filter (·.1 = k)).map (·.2)

theorem written_append (k : ButtonKey) (ws vs : List (ButtonKey × Bool)) :
    written k (ws ++ vs) = written k ws ++ written k vs := by
  unfold written
  rw [List.filter_append, List.map_append]

theorem written_singleton (k c : ButtonKey) (down : Bool) :
    written k [(c, down)] = if c = k then [down] else [] := by
  unfold written
  by_cases hc : c = k <;> simp [hc]

theorem count_written (k : ButtonKey) (down : Bool) (ws : List (ButtonKey × Bool)) :
    (written k ws).count down = ws.count (k, down) := by
  induction ws with
  | nil => rfl
  | cons w ws ih =>
    obtain ⟨c, d⟩ := w
    rw [← List.singleton_append, written_append, written_singleton, List.count_append,
      List.count_append, ih]
    congr 1
    by_cases hc : c = k <;> simp [hc, List.count_singleton]

/-- A button is as the last write left it. -/
theorem replay_eq_written (state : ButtonKey → Bool) (ws : List (ButtonKey × Bool))
    (k : ButtonKey) : replay state ws k = (written k ws).getLast?.getD (state k) := by
  induction ws generalizing state with
  | nil => rfl
  | cons w ws ih =>
    obtain ⟨c, d⟩ := w
    rw [← List.singleton_append, replay_append, ih, replay_singleton, written_append,
      written_singleton, List.getLast?_append]
    by_cases hc : c = k
    · rw [if_pos hc, if_pos hc.symm]
      cases (written k ws).getLast? <;> rfl
    · rw [if_neg hc, if_neg (Ne.symm hc)]
      cases (written k ws).getLast? <;> rfl

/-- Some buttons are let go of, one after the other. -/
theorem written_releases (k : ButtonKey) (keys : List ButtonKey) :
    written k (keys.map (·, false)) = List.replicate (keys.count k) false := by
  induction keys with
  | nil => rfl
  | cons c keys ih =>
    rw [List.map_cons, ← List.singleton_append, written_append, written_singleton, ih,
      List.count_cons]
    by_cases hc : c = k
    · simp [hc, List.replicate_succ]
    · simp [hc]

/-- The buttons are as the journal says. -/
def Joystick.Shown (j : Joystick) : Prop := j.isPressed = replay (fun _ => false) j.buttonWrites

theorem Joystick.Shown.isPressed {j : Joystick} (h : j.Shown) (k : ButtonKey) :
    j.isPressed k = (written k j.buttonWrites).getLast?.getD false :=
  (congrFun h k).trans (replay_eq_written ..)

theorem Joystick.shown_ofAvailable (devices : List UInt32) : (ofAvailable devices).Shown :=
  funext fun k => Bank.isDown_empty k.button

namespace Feeder

theorem Fed.shown {f g : Feeder} {ws : List (ButtonKey × Bool)} (h : Fed f g ws)
    (hf : f.joystick.Shown) : g.joystick.Shown := by
  show g.joystick.isPressed = _
  rw [h.pressed, hf, h.writes, replay_append]

/-- Releasing some buttons writes those that can be fed. -/
theorem releaseAll_fed {f : Feeder} (h : f.Alone) (keys : List ButtonKey) :
    Fed f (f.releaseAll keys) ((keys.filter f.joystick.canFeed).map (·, false)) := by
  induction keys generalizing f with
  | nil => exact Fed.refl h
  | cons k keys ih =>
    have hk := setButton_fed h k false
    have hr := hk.trans (ih hk.alone)
    rw [funext hk.canFeed] at hr
    rw [List.filter_cons]
    cases hc : f.joystick.canFeed k with
    | true =>
      rw [hc] at hr
      exact hr
    | false =>
      rw [hc] at hr
      exact hr

end Feeder

end Device

namespace Dispatch

open Device

/-! ## Cells -/

/-- A pulse by its start and its length. -/
structure Span where
  start : Nat
  length : Nat
  deriving DecidableEq, Repr

/-- When a pulse ends. -/
def Span.deadline (p : Span) : Nat := p.start + p.length

/-- A timer as the pulse that it ends. -/
def Timer.span (t : Timer) : Span := ⟨t.armedAt.ms, t.length⟩

/-- What a worker and its joystick hold about one button. -/
@[ext]
structure Cell where
  phase : Phase
  cancelled : Bool
  isOpen : Bool
  hasSender : Bool
  releases : Bool
  canFeed : Bool
  queued : List Action
  known : Bool
  generation : UInt64
  span? : Option Span
  writes : List Bool
  deriving DecidableEq, Repr

namespace Cell

/-- Whether the button is down. -/
def down (c : Cell) : Bool := c.writes.getLast?.getD false

/-- Whether a release belongs to the latest pulse. -/
def confirms (c : Cell) (generation : UInt64) : Bool :=
  c.known && (c.generation == generation && c.span?.isNone)

/-- Writes to the button, if it can be fed. -/
def feed (c : Cell) (ds : List Bool) : Cell :=
  { c with writes := c.writes ++ if c.canFeed then ds else [] }

/-- What an action writes. -/
def write? (c : Cell) : Action → Option Bool
  | .press | .pulse _ => some true
  | .release => some false
  | .toggle => some !c.down
  | .pulseRelease generation => if c.confirms generation then some false else none

/-- A pulse raises the generation and arms the timer. -/
def arm (now : Nat) (c : Cell) : Action → Cell
  | .pulse length =>
    { c with known := true, generation := c.generation + 1, span? := some ⟨now, length.toNat⟩ }
  | _ => c

/-- Executes an action. -/
def execute (now : Nat) (c : Cell) (a : Action) : Cell := (c.arm now a).feed (c.write? a).toList

/-- The armed timer expires. -/
def expire (c : Cell) : Cell :=
  match c.span? with
  | some _ =>
    { c with
      span? := none
      queued := c.queued ++
        if c.hasSender && c.isOpen then [.pulseRelease c.generation] else [] }
  | none => c

/-- Does everything that can be done without waiting. -/
def run (now : Nat) (c : Cell) : Cell :=
  if c.cancelled then { c with phase := .draining }
  else
    let c := c.queued.foldl (execute now) { c with queued := [] }
    if c.hasSender then c else { c with phase := .draining }

/-- Disarms the timer. -/
def disarm (c : Cell) : Cell :=
  { c with
    generation := if c.span?.isSome then c.generation + 1 else c.generation
    span? := none }

/-- Whether a queued action is carried out when the worker cleans up. -/
def flushes (c : Cell) : Action → Bool
  | .release => true
  | .pulseRelease generation => c.confirms generation
  | _ => false

/-- Cleans up: the button is let go of once for every queued release that counts, and once more if
its pulse is cut short. -/
def drain (c : Cell) : Cell :=
  let count := c.queued.countP c.disarm.flushes + (c.releases && c.span?.isSome).toNat
  { c.disarm with phase := .stopped, isOpen := false, queued := [] }.feed
    (List.replicate count false)

/-- Gives a running worker its turn. -/
def turn (now : Nat) (c : Cell) : Cell :=
  if c.phase = .running then
    let c := c.run now
    if c.phase = .draining then c.drain else c
  else c

/-- Whether the timer is due. -/
def due (now : Nat) (c : Cell) : Bool := c.span?.any (·.deadline ≤ now)

end Cell

/-- The actions of the jobs on a button, in order. -/
def actionsOn (k : ButtonKey) (jobs : List Job) : List Action :=
  (jobs.filter (·.key = k)).map (·.action)

theorem actionsOn_append (k : ButtonKey) (left right : List Job) :
    actionsOn k (left ++ right) = actionsOn k left ++ actionsOn k right := by
  unfold actionsOn
  rw [List.filter_append, List.map_append]

theorem actionsOn_singleton (k : ButtonKey) (job : Job) :
    actionsOn k [job] = if job.key = k then [job.action] else [] := by
  unfold actionsOn
  by_cases hk : job.key = k <;> simp [hk]

namespace Worker

/-- The cell of a button. -/
def cell (w : Worker) (b : Backend) (k : ButtonKey) : Cell where
  phase := w.phase
  cancelled := w.cancelled
  isOpen := w.queue.isOpen
  hasSender := w.queue.hasSender
  releases := w.settings.releaseOnShutdown
  canFeed := b.joystick.canFeed k
  queued := actionsOn k w.queue.jobs
  known := w.tracker.isKnown k
  generation := (w.tracker.pulses k).generation
  span? := (w.tracker.timer? k).map Timer.span
  writes := written k b.joystick.buttonWrites

variable {w : Worker} {b : Backend}

/-- A worker that nobody interferes with, at a joystick that was fresh once. -/
structure Sole (w : Worker) (b : Backend) : Prop where
  alone : (w.feeder b).Alone
  shown : b.joystick.Shown

theorem cell_confirms (w : Worker) (b : Backend) (k : ButtonKey) (g : UInt64) :
    (w.cell b k).confirms g = w.tracker.confirms k g := by
  rw [Bool.eq_iff_iff, Tracker.confirms_iff]
  unfold Cell.confirms cell Tracker.timer?
  rcases w.tracker.pulses k with ⟨generation, _ | timer⟩ <;> simp

theorem cell_flushes (w : Worker) (b : Backend) (job : Job) :
    (w.cell b job.key).flushes job.action = w.tracker.flushes job := by
  unfold Cell.flushes Tracker.flushes
  cases job.action with
  | pulseRelease g =>
    dsimp only
    rw [cell_confirms]
  | _ => rfl

theorem Sole.cell_down (h : w.Sole b) (k : ButtonKey) :
    (w.cell b k).down = b.joystick.isPressed k :=
  (h.shown.isPressed k).symm

/-- What a job writes is said by the cell of its button. -/
theorem Sole.cell_write? (h : w.Sole b) (job : Job) :
    (w.cell b job.key).write? job.action = w.write? job (b.joystick.isPressed job.key) := by
  unfold Cell.write? write?
  rw [h.cell_down]
  cases job.action with
  | pulseRelease g =>
    dsimp only
    rw [cell_confirms]
  | _ => rfl

/-! ## Jobs -/

theorem Sole.execute (h : w.Sole b) (now : Moment) (job : Job) :
    (w.execute b now job).value.1.Sole (w.execute b now job).value.2 := by
  have hf := execute_fed h.alone now job
  exact ⟨hf.alone, hf.shown h.shown⟩

/-- What a job writes to a button. -/
theorem written_jobWrites (w : Worker) (b : Backend) (job : Job) (k : ButtonKey) :
    written k (if b.joystick.canFeed job.key then
        ((w.write? job (b.joystick.isPressed job.key)).map (job.key, ·)).toList else []) =
      if job.key = k then
        if b.joystick.canFeed job.key then
          (w.write? job (b.joystick.isPressed job.key)).toList else []
      else [] := by
  cases b.joystick.canFeed job.key with
  | false => simp [written]
  | true =>
    cases w.write? job (b.joystick.isPressed job.key) with
    | none => simp [written]
    | some down => exact written_singleton ..

/-- A job acts on the cell of its button, and on no other one. -/
theorem Sole.cell_execute (h : w.Sole b) (now : Moment) (job : Job) (k : ButtonKey) :
    (w.execute b now job).value.1.cell (w.execute b now job).value.2 k =
      if job.key = k then (w.cell b k).execute now.ms job.action else w.cell b k := by
  have he : (w.cell b job.key).execute now.ms job.action =
      ((w.cell b job.key).arm now.ms job.action).feed
        (w.write? job (b.joystick.isPressed job.key)).toList := by
    rw [Cell.execute, h.cell_write?]
  have hf := execute_fed h.alone now job
  have hc : (w.execute b now job).value.2.joystick.canFeed k = b.joystick.canFeed k := hf.canFeed k
  have hw : written k (w.execute b now job).value.2.joystick.buttonWrites = _ :=
    (congrArg (written k) hf.writes).trans (written_append ..)
  rw [written_jobWrites] at hw
  obtain ⟨held, hv⟩ := w.execute_worker b now job
  generalize (w.execute b now job).value = r at hv hc hw
  obtain ⟨v, b'⟩ := r
  obtain rfl : v = _ := hv
  by_cases hk : job.key = k
  · subst hk
    rw [if_pos rfl] at hw
    rw [if_pos rfl, he]
    unfold cell
    rw [hc, hw]
    obtain ⟨k, action⟩ := job
    cases action with
    | pulse length =>
      simp only [trackerAfter, Cell.arm, Cell.feed, Tracker.isKnown_arm, Tracker.timer?,
        Tracker.pulses_arm, beq_self_eq_true, Bool.true_or, ↓reduceIte]
      rfl
    | _ => rfl
  · have hj : ∀ length, job ≠ ⟨k, .pulse length⟩ := fun length he => hk (congrArg Job.key he)
    obtain ⟨hn, hp⟩ := w.trackerAfter_of_ne_pulse now hj
    rw [if_neg hk] at hw
    rw [if_neg hk]
    unfold cell
    rw [hc, hw, List.append_nil, Tracker.timer?, hn, hp]
    rfl

/-- Jobs act on the cell of a button as those of them on this button do. -/
theorem Sole.executeAll (h : w.Sole b) (now : Moment) (jobs : List Job) (k : ButtonKey) :
    let r := Worker.executeAll now (w, b) jobs
    r.1.Sole r.2 ∧
      r.1.cell r.2 k = (actionsOn k jobs).foldl (Cell.execute now.ms) (w.cell b k) := by
  induction jobs generalizing w b with
  | nil => exact ⟨h, rfl⟩
  | cons job jobs ih =>
    obtain ⟨hs, hc⟩ := ih (h.execute now job)
    refine ⟨hs, hc.trans ?_⟩
    rw [h.cell_execute, ← List.singleton_append, actionsOn_append, actionsOn_singleton,
      List.foldl_append]
    by_cases hk : job.key = k <;> simp [hk]

/-! ## Timers -/

/-- A timer that expires acts on the cell of its button, and on no other one. -/
theorem cell_expire (w : Worker) (b : Backend) (c k : ButtonKey) :
    (w.expire c).cell b k = if c = k then (w.cell b k).expire else w.cell b k := by
  cases ha : w.tracker.isArmed c with
  | false =>
    rw [expire_of_not_isArmed ha]
    split
    · rename_i hk
      have hn : (w.cell b k).span? = none := by
        rw [← hk]
        simpa [cell, Tracker.isArmed] using ha
      rw [Cell.expire, hn]
    · rfl
  | true =>
    have hq : (w.expire c).queue = _ := Tracker.expire_queue ha w.queue
    have hp : (w.expire c).tracker.pulses k = _ := Tracker.pulses_expire ..
    have hn : (w.expire c).tracker.isKnown k = _ := Tracker.isKnown_expire ..
    unfold cell
    rw [hq, hn, Tracker.timer?, hp, actionsOn_append]
    by_cases hk : c = k
    · subst hk
      obtain ⟨timer, ht⟩ := Option.isSome_iff_exists.mp ha
      rw [if_pos rfl, if_pos rfl]
      unfold Cell.expire
      simp only [ht, Option.map_some]
      cases w.queue.hasSender && w.queue.isOpen with
      | false => rfl
      | true =>
        rw [if_pos rfl, actionsOn_singleton, if_pos rfl]
        rfl
    · rw [if_neg hk, if_neg (Ne.symm hk)]
      have he : actionsOn k (if w.queue.hasSender && w.queue.isOpen then
          [Job.ending c (w.tracker.pulses c).generation] else []) = [] := by
        split
        · exact (actionsOn_singleton ..).trans (if_neg hk)
        · rfl
      rw [he, List.append_nil]
      rfl

/-- Timers that expire act on the cells of their buttons. -/
theorem cell_expireAll (w : Worker) (b : Backend) {keys : List ButtonKey} (hn : keys.Nodup)
    (k : ButtonKey) :
    (w.expireAll keys).cell b k = if k ∈ keys then (w.cell b k).expire else w.cell b k := by
  induction keys generalizing w with
  | nil => rfl
  | cons c keys ih =>
    rw [List.nodup_cons] at hn
    rw [expireAll_cons, ih _ hn.2, cell_expire]
    by_cases hc : c = k
    · subst hc
      rw [if_neg hn.1, if_pos rfl, if_pos List.mem_cons_self]
    · simp [hc, Ne.symm hc]

/-! ## Turns -/

/-- A worker that is not cancelled executes all jobs, and leaves its loop if it has no sender. -/
theorem run_of_not_cancelled {w : Worker} (hc : w.cancelled = false) (b : Backend)
    (now : Moment) :
    (w.run b now).value =
      let r := Worker.executeAll now (w.setQueue { w.queue with jobs := [] }, b) w.queue.jobs
      if w.queue.hasSender then r else ({ r.1 with phase := .draining }, r.2) := by
  have hm := executeMany_value w b now
  have hq : (w.executeMany b now w.queue.jobs.length).value.1.queue.hasSender =
      w.queue.hasSender := by
    rw [hm, (executeAll_frame ..).1]
    rfl
  unfold run
  simp only [hc, Bool.false_eq_true, ↓reduceIte, Logged.value_bind, Logged.value_ite, hq,
    Logged.value_pure]
  rw [hm]
  rfl

/-- Running acts on every cell. -/
theorem Sole.run (h : w.Sole b) (now : Moment) (k : ButtonKey) :
    let r := (w.run b now).value
    r.1.Sole r.2 ∧ r.1.cell r.2 k = (w.cell b k).run now.ms := by
  cases hc : w.cancelled with
  | true =>
    rw [run_of_cancelled hc]
    refine ⟨⟨h.alone, h.shown⟩, ?_⟩
    rw [Cell.run, if_pos (show (w.cell b k).cancelled = true from hc)]
    rfl
  | false =>
    obtain ⟨hs, he⟩ := Sole.executeAll (w := w.setQueue { w.queue with jobs := [] })
      ⟨h.alone, h.shown⟩ now w.queue.jobs k
    have hq : (w.cell b k).run now.ms =
        let c := (w.cell b k).queued.foldl (Cell.execute now.ms) { w.cell b k with queued := [] }
        if c.hasSender then c else { c with phase := .draining } := by
      have hcc : (w.cell b k).cancelled = false := hc
      rw [Cell.run, if_neg (Bool.eq_false_iff.mp hcc)]
    have hr := congrArg Queue.hasSender (Worker.executeAll_frame now
      (w.setQueue { w.queue with jobs := [] }, b) w.queue.jobs).1
    change _ = w.queue.hasSender at hr
    change _ = (w.cell b k).queued.foldl (Cell.execute now.ms)
      { w.cell b k with queued := [] } at he
    rw [run_of_not_cancelled hc, hq]
    dsimp only
    generalize Worker.executeAll now (w.setQueue { w.queue with jobs := [] }, b) w.queue.jobs = r
      at *
    rw [← he, ← hr]
    show _ ∧ _ = if r.1.queue.hasSender then _ else _
    split
    · exact ⟨hs, rfl⟩
    · exact ⟨⟨hs.alone, hs.shown⟩, rfl⟩

theorem isKnown_cancelAll (t : Tracker) (k : ButtonKey) :
    t.cancelAll.2.isKnown k = t.isKnown k := by
  unfold Tracker.cancelAll
  generalize t.armed.map (·.1) = keys
  induction keys generalizing t with
  | nil => rfl
  | cons c keys ih => exact (ih (t.cancel c)).trans (t.isKnown_cancel c k)

/-- Disarming all timers acts on every cell. -/
theorem cell_cancelAll (w : Worker) (b : Backend) (k : ButtonKey) :
    Worker.cell { w with tracker := w.tracker.cancelAll.2 } b k = (w.cell b k).disarm := by
  have hp := w.tracker.pulses_cancelAll k
  have ha := w.tracker.isArmed_eq k
  unfold cell Cell.disarm Tracker.timer?
  rw [isKnown_cancelAll, hp, Option.isSome_map, ← ha]
  split
  · rfl
  · rename_i hn
    rw [ha, Option.not_isSome_iff_eq_none] at hn
    rw [hn]
    rfl

/-- How often the cleaning up releases a button. -/
theorem count_released (w : Worker) (b : Backend) (k : ButtonKey) :
    (w.flushed ++ w.cutShort).count k =
      (w.cell b k).queued.countP (w.cell b k).disarm.flushes +
        ((w.cell b k).releases && (w.cell b k).span?.isSome).toNat := by
  rw [List.count_append]
  congr 1
  · show _ = List.countP _ (actionsOn k w.queue.jobs)
    unfold flushed actionsOn
    rw [List.count, List.countP_map, List.countP_map, List.countP_filter, List.countP_filter]
    refine List.countP_congr fun job _ => ?_
    simp only [Function.comp_apply, Bool.and_eq_true, beq_iff_eq, decide_eq_true_eq]
    rw [and_comm]
    refine and_congr_left fun hk => ?_
    rw [← hk, ← cell_cancelAll, cell_flushes]
  · show _ = (w.settings.releaseOnShutdown && ((w.tracker.timer? k).map Timer.span).isSome).toNat
    rw [Option.isSome_map]
    unfold cutShort
    cases w.settings.releaseOnShutdown with
    | false => rfl
    | true =>
      refine w.tracker.nodup_map_armed.count.trans ?_
      rw [Bool.true_and]
      by_cases ha : w.tracker.isArmed k = true
      · rw [if_pos (Tracker.mem_map_armed.mpr ha), show (w.tracker.timer? k).isSome = true from ha]
        rfl
      · rw [if_neg (mt Tracker.mem_map_armed.mp ha),
          show (w.tracker.timer? k).isSome = false from Bool.eq_false_iff.mpr ha]
        rfl

/-- What the cleaning up writes to a button. -/
theorem written_releaseAll {f : Feeder} (h : f.Alone) (keys : List ButtonKey) (k : ButtonKey) :
    written k (f.releaseAll keys).joystick.buttonWrites =
      written k f.joystick.buttonWrites ++
        if f.joystick.canFeed k then List.replicate (keys.count k) false else [] := by
  rw [(Feeder.releaseAll_fed h keys).writes, written_append, written_releases]
  congr 1
  cases hc : f.joystick.canFeed k with
  | true => rw [List.count_filter hc, if_pos rfl]
  | false =>
    have hn : k ∉ keys.filter f.joystick.canFeed := fun hm =>
      absurd ((List.mem_filter.mp hm).2.symm.trans hc) nofun
    rw [List.count_eq_zero.mpr hn, if_neg Bool.false_ne_true]
    rfl

/-- Cleaning up acts on every cell. -/
theorem Sole.drain (h : w.Sole b) (now : Moment) (k : ButtonKey) :
    let r := (w.drain b now).value
    r.2.joystick.Shown ∧ r.1.cell r.2 k = (w.cell b k).drain := by
  have hf := Feeder.releaseAll_fed h.alone (w.flushed ++ w.cutShort)
  have hk := written_releaseAll h.alone (w.flushed ++ w.cutShort) k
  rw [count_released w b k] at hk
  obtain ⟨hw, hp, ha⟩ := ((w.feeder b).releaseAll (w.flushed ++ w.cutShort)).relinquishAll_spec
  have hs := hf.shown h.shown
  have hc := hf.canFeed k
  rw [drain_value]
  generalize (w.feeder b).releaseAll (w.flushed ++ w.cutShort) = f at *
  constructor
  · show f.relinquishAll.value.joystick.isPressed = replay _ _
    rw [hp, hw]
    exact hs
  · have hcf : f.relinquishAll.value.joystick.canFeed k = b.joystick.canFeed k := by
      unfold Joystick.canFeed
      rw [ha]
      exact hc
    rw [Cell.drain, ← cell_cancelAll]
    rw [← cell_cancelAll] at hk
    exact Cell.ext rfl rfl rfl rfl rfl hcf rfl rfl rfl rfl ((congrArg (written k) hw).trans hk)

/-- A turn acts on every cell. A worker that still runs after it is still alone. -/
theorem cell_turn (h : w.phase = .running → w.Sole b) (hs : b.joystick.Shown) (now : Moment)
    (k : ButtonKey) :
    let r := w.turn b now
    (r.1.phase = .running → r.1.Sole r.2) ∧ r.2.joystick.Shown ∧
      r.1.cell r.2 k = (w.cell b k).turn now.ms := by
  unfold turn Cell.turn
  by_cases hp : w.phase = .running
  · obtain ⟨hr, hc⟩ := (h hp).run now k
    rw [if_pos hp, if_pos (show (w.cell b k).phase = .running from hp), ← hc]
    generalize (w.run b now).value = r at *
    by_cases hd : r.1.phase = .draining
    · obtain ⟨hs', hc'⟩ := hr.drain now k
      have hn : (r.1.drain r.2 now).value.1.phase = .stopped := by rw [drain_value]
      rw [if_pos hd, if_pos (show (r.1.cell r.2 k).phase = .draining from hd)]
      exact ⟨fun hq => absurd (hn.symm.trans hq) nofun, hs', hc'⟩
    · rw [if_neg hd, if_neg (show ¬ (r.1.cell r.2 k).phase = .draining from hd)]
      exact ⟨fun _ => hr, hr.shown, rfl⟩
  · rw [if_neg hp, if_neg (show ¬ (w.cell b k).phase = .running from hp)]
    exact ⟨h, hs, rfl⟩

end Worker

end Dispatch

end ControlDeck
