import ControlDeck.Dispatch.Worker
import ControlDeck.Proofs.Feeding
import ControlDeck.Proofs.Timers

/-!
# What a job does

The effect of one job on its worker and on the joystick, and of a list of jobs.

- **One job** (`execute_worker`): the queue, the phase and the settings stay; a pulse arms its
  timer; the job is counted as executed, or as superseded if it is a release that is not confirmed.
- **Its write** (`write?`, `execute_fed`): over a joystick that only this worker feeds, a job writes
  its own button at most once.
- **Many jobs** (`executeMany_value`, `run_value`): as one after the other.
- **Turns** (`turn`): a worker runs, and cleans up if it leaves its loop.
-/

namespace ControlDeck.Dispatch

open Device

namespace Worker

/-! ## One job -/

/-- A worker as the feeder of its devices. -/
abbrev feeder (w : Worker) (b : Backend) : Feeder := ⟨b, w.held⟩

/-- Whether a job will count as executed. -/
def counts (w : Worker) (job : Job) : Bool :=
  match job.action with
  | .pulseRelease generation => w.tracker.confirms job.key generation
  | _ => true

/-- The timers after a job. -/
def trackerAfter (w : Worker) (now : Moment) (job : Job) : Tracker :=
  match job.action with
  | .pulse length => (w.tracker.arm job.key length.toNat now).value
  | _ => w.tracker

/-- The counters after a job. -/
def statsAfter (w : Worker) (job : Job) : Stats :=
  if w.counts job then { w.stats with executed := w.stats.executed + 1 }
  else { w.stats with superseded := w.stats.superseded + 1 }

/-- What a job writes to its button, given the state of that button. -/
def write? (w : Worker) (job : Job) (down : Bool) : Option Bool :=
  match job.action with
  | .press | .pulse _ => some true
  | .release => some false
  | .toggle => some !down
  | .pulseRelease generation =>
    if w.tracker.confirms job.key generation then some false else none

theorem write?_ending (w : Worker) (k : ButtonKey) (g : UInt64) (down : Bool) :
    w.write? (Job.ending k g) down = if w.tracker.confirms k g then some false else none := rfl

/-- A job changes the timers, the counters and the held devices of its worker, nothing else. -/
theorem execute_worker (w : Worker) (b : Backend) (now : Moment) (job : Job) :
    ∃ held, (w.execute b now job).value.1 =
      { w with tracker := w.trackerAfter now job, stats := w.statsAfter job, held } := by
  obtain ⟨k, action⟩ := job
  unfold execute perform trackerAfter statsAfter counts
  cases action with
  | pulseRelease generation =>
    simp only [Logged.value_bind, Logged.value_ite]
    cases w.tracker.confirms k generation
    · exact ⟨w.held, rfl⟩
    · exact ⟨_, rfl⟩
  | _ => exact ⟨_, rfl⟩

section

variable (w : Worker) (b : Backend) (now : Moment) (job : Job)

@[simp] theorem execute_tracker :
    (w.execute b now job).value.1.tracker = w.trackerAfter now job := by
  obtain ⟨held, h⟩ := w.execute_worker b now job
  rw [h]

@[simp] theorem execute_stats : (w.execute b now job).value.1.stats = w.statsAfter job := by
  obtain ⟨held, h⟩ := w.execute_worker b now job
  rw [h]

@[simp] theorem execute_queue : (w.execute b now job).value.1.queue = w.queue := by
  obtain ⟨held, h⟩ := w.execute_worker b now job
  rw [h]

@[simp] theorem execute_phase : (w.execute b now job).value.1.phase = w.phase := by
  obtain ⟨held, h⟩ := w.execute_worker b now job
  rw [h]

@[simp] theorem execute_settings : (w.execute b now job).value.1.settings = w.settings := by
  obtain ⟨held, h⟩ := w.execute_worker b now job
  rw [h]

@[simp] theorem execute_cancelled : (w.execute b now job).value.1.cancelled = w.cancelled := by
  obtain ⟨held, h⟩ := w.execute_worker b now job
  rw [h]

/-- Releases, those that end a pulse among them, arm no timer. -/
theorem trackerAfter_of_release {w : Worker} {job : Job} (h : job.mode = .release) (now : Moment) :
    w.trackerAfter now job = w.tracker := by
  obtain ⟨k, action⟩ := job
  cases action with
  | release | pulseRelease => rfl
  | press | pulse | toggle => cases h

/-- The pulses of a button after a job: a pulse of this button raises its generation and arms its
timer, and every other job leaves them alone. -/
theorem pulses_trackerAfter (k : ButtonKey) :
    (w.trackerAfter now job).pulses k =
      match job.action with
      | .pulse length =>
        if k = job.key then
          ⟨(w.tracker.pulses k).generation + 1, some ⟨length.toNat, now, w.tracker.armings⟩⟩
        else w.tracker.pulses k
      | _ => w.tracker.pulses k := by
  unfold trackerAfter
  cases job.action with
  | pulse length =>
    refine (Tracker.pulses_arm ..).trans ?_
    split
    · rename_i h
      rw [h]
    · rfl
  | _ => rfl

/-- A pulse arms the timer of its button. -/
theorem isArmed_trackerAfter_pulse (k : ButtonKey) (length : UInt32) :
    (w.trackerAfter now ⟨k, .pulse length⟩).isArmed k = true := by
  refine (Tracker.isArmed_arm ..).trans ?_
  rw [beq_self_eq_true, Bool.true_or]

variable {job}

/-- Any other job leaves the entry of a button as it is. -/
theorem trackerAfter_of_ne_pulse {k : ButtonKey} (h : ∀ length, job ≠ ⟨k, .pulse length⟩) :
    (w.trackerAfter now job).isKnown k = w.tracker.isKnown k ∧
      (w.trackerAfter now job).pulses k = w.tracker.pulses k := by
  obtain ⟨c, action⟩ := job
  cases action with
  | pulse length =>
    have hc : k ≠ c := by
      rintro rfl
      exact h length rfl
    refine ⟨?_, (w.pulses_trackerAfter ..).trans (if_neg hc)⟩
    refine (Tracker.isKnown_arm ..).trans ?_
    rw [beq_eq_false_iff_ne.mpr hc, Bool.false_or]
  | _ => exact ⟨rfl, rfl⟩

end

/-! ## Its write -/

/-- A worker that has its joystick for itself writes at most the button of its job, and that only
if it can be fed. -/
theorem execute_fed {w : Worker} {b : Backend} (h : (w.feeder b).Alone) (now : Moment) (job : Job) :
    (w.feeder b).Fed
      ((w.execute b now job).value.1.feeder (w.execute b now job).value.2)
      (if b.joystick.canFeed job.key then
        ((w.write? job (b.joystick.isPressed job.key)).map (job.key, ·)).toList
      else []) := by
  obtain ⟨k, action⟩ := job
  unfold execute perform write?
  cases action with
  | press => exact Feeder.setButton_fed h k true
  | release => exact Feeder.setButton_fed h k false
  | pulse length => exact Feeder.setButton_fed h k true
  | toggle => exact Feeder.toggle_fed h k
  | pulseRelease generation =>
    simp only [Logged.value_bind, Logged.value_ite]
    cases w.tracker.confirms k generation
    · simp only [Bool.false_eq_true, ↓reduceIte, Option.map_none, Option.toList_none, ite_self]
      exact Feeder.Fed.refl h
    · exact Feeder.setButton_fed h k false

/-- A job leaves every button alone but its own, and that too if it cannot be fed. -/
theorem isPressed_execute {w : Worker} {b : Backend} (h : (w.feeder b).Alone) (now : Moment)
    (job : Job) (k : ButtonKey) :
    (w.execute b now job).value.2.joystick.isPressed k =
      if k = job.key ∧ b.joystick.canFeed k = true then
        (w.write? job (b.joystick.isPressed k)).getD (b.joystick.isPressed k)
      else b.joystick.isPressed k := by
  refine (congrFun (execute_fed h now job).pressed k).trans ?_
  by_cases hc : k = job.key ∧ b.joystick.canFeed k = true
  · obtain ⟨rfl, hf⟩ := hc
    rw [if_pos hf, if_pos (And.intro rfl hf)]
    show replay b.joystick.isPressed _ _ = _
    cases w.write? job (b.joystick.isPressed job.key) with
    | none => rfl
    | some down => exact (replay_singleton ..).trans (if_pos rfl)
  · rw [if_neg hc]
    refine replay_of_notMem fun down hm => hc ?_
    split at hm
    · rename_i hf
      simp only [Option.mem_toList, Option.map_eq_some_iff, Prod.mk.injEq] at hm
      obtain ⟨_, -, rfl, -⟩ := hm
      exact ⟨rfl, hf⟩
    · cases hm

/-! ## Many jobs -/

/-- Executes jobs one after the other. -/
def executeAll (now : Moment) (state : Worker × Backend) (jobs : List Job) : Worker × Backend :=
  jobs.foldl (fun s job => (s.1.execute s.2 now job).value) state

/-- Jobs leave the queue, the phase and the cancellation of their worker alone. -/
theorem executeAll_frame (now : Moment) (state : Worker × Backend) (jobs : List Job) :
    (executeAll now state jobs).1.queue = state.1.queue ∧
      (executeAll now state jobs).1.phase = state.1.phase ∧
      (executeAll now state jobs).1.cancelled = state.1.cancelled := by
  induction jobs generalizing state with
  | nil => exact ⟨rfl, rfl, rfl⟩
  | cons job jobs ih =>
    obtain ⟨hq, hp, hc⟩ := ih (state.1.execute state.2 now job).value
    exact ⟨hq.trans (execute_queue ..), hp.trans (execute_phase ..),
      hc.trans (execute_cancelled ..)⟩

theorem executeAll_append (now : Moment) (state : Worker × Backend) (left right : List Job) :
    executeAll now state (left ++ right) = executeAll now (executeAll now state left) right :=
  List.foldl_append

/-- Releases arm no timer and disarm none. -/
theorem executeAll_tracker_of_release {now : Moment} {jobs : List Job}
    (h : ∀ job ∈ jobs, job.mode = .release) (state : Worker × Backend) :
    (executeAll now state jobs).1.tracker = state.1.tracker := by
  induction jobs generalizing state with
  | nil => rfl
  | cons job jobs ih =>
    refine (ih (fun j hj => h j (List.mem_cons_of_mem _ hj)) _).trans ?_
    rw [execute_tracker, trackerAfter_of_release (h job List.mem_cons_self)]

/-- Puts another queue in front of a worker. -/
def setQueue (w : Worker) (queue : Queue) : Worker := { w with queue }

/-- What a job does, it does whatever else is queued. -/
theorem execute_setQueue (w : Worker) (q : Queue) (b : Backend) (now : Moment) (job : Job) :
    ((w.setQueue q).execute b now job).value =
      ((w.execute b now job).value.1.setQueue q, (w.execute b now job).value.2) := by
  obtain ⟨k, action⟩ := job
  unfold execute perform
  cases action with
  | pulseRelease generation =>
    simp only [Logged.value_bind, Logged.value_ite]
    rw [show (w.setQueue q).tracker = w.tracker from rfl]
    cases w.tracker.confirms k generation <;> rfl
  | _ => rfl

theorem executeNext_value {w : Worker} {job : Job} {rest : List Job}
    (h : w.queue.jobs = job :: rest) (b : Backend) (now : Moment) :
    (w.executeNext b now).value =
      ((w.setQueue { w.queue with jobs := rest }).execute b now job).value := by
  unfold executeNext Queue.take?
  rw [h]
  rfl

/-- To execute the jobs of the queue is to empty it and to execute them one after the other. -/
theorem executeMany_value (w : Worker) (b : Backend) (now : Moment) :
    (w.executeMany b now w.queue.jobs.length).value =
      executeAll now (w.setQueue { w.queue with jobs := [] }, b) w.queue.jobs := by
  suffices h : ∀ (jobs : List Job) (w : Worker) (b : Backend), w.queue.jobs = jobs →
      (w.executeMany b now jobs.length).value =
        executeAll now (w.setQueue { w.queue with jobs := [] }, b) jobs from h _ w b rfl
  intro jobs
  induction jobs with
  | nil =>
    intro w b h
    have hw : w.setQueue { w.queue with jobs := [] } = w := by rw [← h]; rfl
    exact congrArg (·, b) hw.symm
  | cons job rest ih =>
    intro w b h
    simp only [List.length_cons, executeMany, Logged.value_bind, executeNext_value h, executeAll,
      List.foldl_cons]
    refine (ih _ _ (by rw [execute_queue]; rfl)).trans ?_
    rw [execute_queue, execute_setQueue, execute_setQueue]
    rfl

/-- A worker that is not cancelled and has a sender executes all jobs and goes on running. -/
theorem run_value {w : Worker} (hc : w.cancelled = false) (hs : w.queue.hasSender = true)
    (b : Backend) (now : Moment) :
    (w.run b now).value =
      executeAll now (w.setQueue { w.queue with jobs := [] }, b) w.queue.jobs := by
  have hm := executeMany_value w b now
  have hq : (w.executeMany b now w.queue.jobs.length).value.1.queue.hasSender = true := by
    rw [hm, (executeAll_frame ..).1]
    exact hs
  unfold run
  simp only [hc, Bool.false_eq_true, ↓reduceIte, Logged.value_bind, hq, Logged.value_pure]
  exact hm

/-- A turn of a worker: it runs, and cleans up if it leaves its loop. -/
def turn (w : Worker) (b : Backend) (now : Moment) : Worker × Backend :=
  if w.phase = .running then
    let r := (w.run b now).value
    if r.1.phase = .draining then (r.1.drain r.2 now).value else r
  else (w, b)

/-- The turn of a worker that goes on running: it executes all its jobs. -/
theorem turn_of_running {w : Worker} (hp : w.phase = .running) (hc : w.cancelled = false)
    (hs : w.queue.hasSender = true) (b : Backend) (now : Moment) :
    w.turn b now = executeAll now (w.setQueue { w.queue with jobs := [] }, b) w.queue.jobs := by
  obtain ⟨-, hp', -⟩ := executeAll_frame now (w.setQueue { w.queue with jobs := [] }, b)
    w.queue.jobs
  have hn : ¬ (w.run b now).value.1.phase = .draining := by
    rw [run_value hc hs, hp', setQueue, hp]
    exact nofun
  rw [turn, if_pos hp, ← run_value hc hs]
  exact if_neg hn

end Worker

end ControlDeck.Dispatch
