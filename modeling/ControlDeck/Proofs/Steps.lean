import ControlDeck.Dispatch.Clock
import ControlDeck.Proofs.Execution

/-!
# Everything that can happen around a worker

A worker, its timers and its producers take turns in any order. A run is a sequence of the steps
below, each of which an operation of the worker, the tracker or the queue takes; the cleaning up is
split where something else can come between.

- **Events** (`Event`): producers send jobs or go away, timers expire, the worker is cancelled,
  executes jobs, and cleans up button by button and job by job. Somebody else may use the joystick.
- **Runs** (`Run`): the traces of steps that follow one another. `Run.split` and `Run.append` cut
  and join them, `run_follow` makes one of a list of events.
- **What a step did** (`Transition.taken?`, `Transition.performed?`, `Transition.writes`): the job
  that the worker took, whether it counts as executed, and the button writes in the journal.
- **Outcomes** (`Rig.Effect`, `Rig.effect`): all that a step can do to the timers, the queue and the
  buttons.
- **The order of a life** (`Rig.Orderly`): holds of every reachable rig (`Run.orderly`).
-/

namespace ControlDeck.Dispatch

open Device

/-- A worker and the joystick that it feeds. While the worker cleans up, `unvisited` are the buttons
whose timer it has yet to disarm, and `cut` those whose pulse it has cut short and not released. -/
structure Rig where
  worker : Worker
  backend : Backend
  unvisited : List ButtonKey := []
  cut : List ButtonKey := []

/-- One thing that happens around a worker. -/
inductive Event
  | enqueue (job : Job)
  | expire (k : ButtonKey)
  | execute (now : Moment)
  | cancel
  | dropSender
  | leave
  | disarm (k : ButtonKey)
  | close
  | flush (now : Moment)
  | release
  | stop
  | outside (backend : Backend)

namespace Rig

/-- A new worker in front of a joystick. -/
def start (settings : Settings) (backend : Backend) : Rig :=
  { worker := (Worker.create settings).value, backend }

abbrev queue (s : Rig) : Queue := s.worker.queue
abbrev tracker (s : Rig) : Tracker := s.worker.tracker
abbrev phase (s : Rig) : Phase := s.worker.phase
abbrev joystick (s : Rig) : Joystick := s.backend.joystick
abbrev feeder (s : Rig) : Feeder := s.worker.feeder s.backend

/-- Goes on with another worker and joystick. -/
def put (s : Rig) (r : Worker × Backend) : Rig := { s with worker := r.1, backend := r.2 }

/-- Puts another queue in front of the worker. -/
def setQueue (s : Rig) (queue : Queue) : Rig := { s with worker := s.worker.setQueue queue }

/-- When an event can happen. -/
def Enabled (s : Rig) : Event → Prop
  | .enqueue _ => s.queue.hasSender = true
  | .expire k => s.tracker.isArmed k = true
  | .execute _ => s.phase = .running ∧ s.worker.cancelled = false ∧ s.queue.jobs ≠ []
  | .cancel => True
  | .dropSender => s.queue.hasSender = true
  | .leave =>
    s.phase = .running ∧
      (s.worker.cancelled = true ∨ s.queue.jobs = [] ∧ s.queue.hasSender = false)
  | .disarm k => s.phase = .draining ∧ k ∈ s.unvisited
  | .close => s.phase = .draining ∧ s.queue.isOpen = true ∧ s.unvisited = []
  | .flush _ => s.phase = .draining ∧ s.queue.isOpen = false ∧ s.queue.jobs ≠ []
  | .release =>
    s.phase = .draining ∧ s.queue.isOpen = false ∧ s.queue.jobs = [] ∧
      s.worker.settings.releaseOnShutdown = true ∧ s.cut ≠ []
  | .stop =>
    s.phase = .draining ∧ s.queue.isOpen = false ∧ s.queue.jobs = [] ∧
      (s.worker.settings.releaseOnShutdown = true → s.cut = [])
  | .outside _ => True

instance (s : Rig) (e : Event) : Decidable (s.Enabled e) := by
  cases e <;> unfold Enabled <;> infer_instance

/-- The rig after an event. -/
def apply (s : Rig) : Event → Rig
  | .enqueue job => s.setQueue ((s.queue.send? job).getD s.queue)
  | .expire k =>
    let (tracker, queue) := (s.tracker.expire s.queue k).value
    { s with worker := { s.worker with tracker, queue } }
  | .execute now => s.put (s.worker.executeNext s.backend now).value
  | .cancel => { s with worker := s.worker.cancel }
  | .dropSender => s.setQueue s.queue.dropSender
  | .leave => { s with worker := s.worker.leave.value, unvisited := s.tracker.entries.keys }
  | .disarm k =>
    { s with
      worker := { s.worker with tracker := s.tracker.cancel k }
      unvisited := s.unvisited.erase k
      cut := if s.tracker.isArmed k then k :: s.cut else s.cut }
  | .close =>
    { s.setQueue s.queue.close with cut := s.cut.mergeSort fun a b => (compare a b).isLE }
  | .flush now =>
    match s.queue.take? with
    | some (job, queue) => s.put (Worker.flush now (s.worker.setQueue queue, s.backend) job).value
    | none => s
  | .release =>
    match s.cut with
    | k :: rest => { s.put (Worker.releaseHeld (s.worker, s.backend) k).value with cut := rest }
    | [] => s
  | .stop =>
    let (worker, backend) := (s.worker.feed s.backend Feeder.relinquishAll).value
    s.put ({ worker with phase := .stopped }, backend)
  | .outside backend => { s with backend }

/-- Follows a list of events. -/
def follow (s : Rig) : List Event → Rig
  | [] => s
  | e :: es => (s.apply e).follow es

end Rig

/-! ## Runs -/

/-- One step of a run. -/
structure Transition where
  before : Rig
  event : Event
  after : Rig

namespace Transition

/-- The job that the worker took from its queue in a step. -/
def taken? (t : Transition) : Option Job :=
  match t.event with
  | .execute _ | .flush _ => t.before.queue.jobs.head?
  | _ => none

/-- The job that the worker took, if it counts as executed. -/
def performed? (t : Transition) : Option Job :=
  if t.after.worker.stats.executed = t.before.worker.stats.executed + 1 then t.taken? else none

/-- The button writes that the journal gained in a step. -/
def writes (t : Transition) : List (ButtonKey × Bool) :=
  t.after.joystick.buttonWrites.drop t.before.joystick.buttonWrites.length

end Transition

/-- The traces of a rig: steps that follow one another, each of which can happen. -/
inductive Run (s : Rig) : List Transition → Rig → Prop
  | nil : Run s [] s
  | snoc {trace : List Transition} {m : Rig} {e : Event} :
      Run s trace m → m.Enabled e → Run s (trace ++ [⟨m, e, m.apply e⟩]) (m.apply e)

/-- The trace of a list of events. -/
def traceOf (s : Rig) : List Event → List Transition
  | [] => []
  | e :: es => ⟨s, e, s.apply e⟩ :: traceOf (s.apply e) es

/-- Whether the events of a list can happen one after the other. -/
def canFollow (s : Rig) : List Event → Bool
  | [] => true
  | e :: es => decide (s.Enabled e) && canFollow (s.apply e) es

namespace Run

variable {s m u : Rig} {trace left right : List Transition} {t : Transition}

theorem append (hl : Run s left m) (hr : Run m right u) : Run s (left ++ right) u := by
  induction hr with
  | nil => rwa [List.append_nil]
  | snoc _ he ih =>
    rw [← List.append_assoc]
    exact ih.snoc he

theorem single {e : Event} (h : s.Enabled e) : Run s [⟨s, e, s.apply e⟩] (s.apply e) :=
  Run.nil.snoc h

/-- A run is a run of its first half and one of its second half. -/
theorem split (h : Run s trace u) (ht : trace = left ++ right) :
    ∃ m, Run s left m ∧ Run m right u := by
  induction h generalizing right with
  | nil =>
    obtain ⟨rfl, rfl⟩ := List.append_eq_nil_iff.mp ht.symm
    exact ⟨s, .nil, .nil⟩
  | @snoc trace m e hr he ih =>
    rcases List.eq_nil_or_concat right with rfl | ⟨right, t, rfl⟩
    · rw [List.append_nil] at ht
      exact ⟨_, ht ▸ hr.snoc he, .nil⟩
    · rw [List.concat_eq_append, ← List.append_assoc] at ht
      obtain ⟨ht, he'⟩ := List.append_inj' ht rfl
      obtain ⟨m', hl, hr'⟩ := ih ht
      rw [← (List.cons.inj he').1, List.concat_eq_append]
      exact ⟨m', hl, hr'.snoc he⟩

/-- A step of a run happened at a rig where it could, and the run went on from what it made. -/
theorem step_of_mem (h : Run s trace u) (ht : trace = left ++ t :: right) :
    Run s left t.before ∧ t.before.Enabled t.event ∧ t.after = t.before.apply t.event ∧
      Run t.after right u := by
  have hs : trace = (left ++ [t]) ++ right := by simp [ht]
  obtain ⟨m, hl, hr⟩ := h.split hs
  generalize hx : left ++ [t] = x at hl
  cases hl with
  | nil => simp at hx
  | snoc hl he =>
    obtain ⟨rfl, h⟩ := List.append_inj' hx rfl
    obtain rfl := (List.cons.inj h).1
    exact ⟨hl, he, rfl, hr⟩

/-- What every step of some kind keeps holds all along a run of such steps. -/
theorem invariant_on {P : Rig → Prop} {Q : Transition → Prop}
    (hP : ∀ s e, P s → s.Enabled e → Q ⟨s, e, s.apply e⟩ → P (s.apply e))
    (h : Run s trace u) (hQ : ∀ t ∈ trace, Q t) (hs : P s) : P u := by
  induction h with
  | nil => exact hs
  | snoc _ he ih =>
    rw [List.forall_mem_append] at hQ
    exact hP _ _ (ih hQ.1) he (hQ.2 _ (List.mem_singleton_self _))

/-- What every step keeps holds all along a run. -/
theorem invariant {P : Rig → Prop} (hP : ∀ s e, P s → s.Enabled e → P (s.apply e))
    (h : Run s trace u) (hs : P s) : P u :=
  h.invariant_on (fun s e hs he _ => hP s e hs he) (fun _ _ => True.intro) hs

end Run

/-- Events that can happen one after the other make a run. -/
theorem run_follow {s : Rig} {es : List Event} (h : canFollow s es = true) :
    Run s (traceOf s es) (s.follow es) := by
  induction es generalizing s with
  | nil => exact .nil
  | cons e es ih =>
    simp only [canFollow, Bool.and_eq_true, decide_eq_true_eq] at h
    exact (Run.single h.1).append (ih h.2)

/-! ## The steps, one by one -/

namespace Rig

variable {s : Rig}

/-- A send changes the queue alone, and appends the job while the queue is open. -/
theorem apply_enqueue (s : Rig) (job : Job) :
    s.apply (.enqueue job) =
      s.setQueue { s.queue with jobs := s.queue.jobs ++ if s.queue.isOpen then [job] else [] } := by
  rcases hq : s.queue with ⟨jobs, isOpen, hasSender⟩
  simp only [apply, Queue.send?, hq]
  cases isOpen <;> simp

/-- The worker executes the job at the front. -/
theorem apply_execute {job : Job} {rest : List Job} (h : s.queue.jobs = job :: rest)
    (now : Moment) :
    s.apply (.execute now) =
      s.put (Worker.execute (s.worker.setQueue { s.queue with jobs := rest }) s.backend now
        job).value := by
  simp only [apply, Worker.executeNext_value h]

/-- While it cleans up, the worker executes a release that is still queued. -/
theorem apply_flush_release {job : Job} {rest : List Job} (h : s.queue.jobs = job :: rest)
    (now : Moment) (hm : job.mode = .release) :
    s.apply (.flush now) =
      s.put (Worker.execute (s.worker.setQueue { s.queue with jobs := rest }) s.backend now
        job).value := by
  simp only [apply, Queue.take?, h, Worker.flush, hm, ↓reduceIte]

/-- While it cleans up, the worker drops every other job. -/
theorem apply_flush_drop {job : Job} {rest : List Job} (h : s.queue.jobs = job :: rest)
    (now : Moment) (hm : job.mode ≠ .release) :
    s.apply (.flush now) =
      s.put ((s.worker.setQueue { s.queue with jobs := rest }).countDropped, s.backend) := by
  simp only [apply, Queue.take?, h, Worker.flush, hm, ↓reduceIte]
  rfl

/-- The worker releases a button whose pulse it cut short. -/
theorem apply_release {k : ButtonKey} {rest : List ButtonKey} (h : s.cut = k :: rest) :
    s.apply .release =
      { s.put (s.worker.feed s.backend (·.release k)).value with cut := rest } := by
  simp only [apply, h]
  rfl

/-! ## What the steps leave alone -/

/-- What no job changes: the phase, both ends of the queue, the settings and the cancellation. -/
structure SameFrame (w v : Worker) : Prop where
  phase : v.phase = w.phase
  isOpen : v.queue.isOpen = w.queue.isOpen
  hasSender : v.queue.hasSender = w.queue.hasSender
  settings : v.settings = w.settings
  cancelled : v.cancelled = w.cancelled

/-- An expiry changes timers and jobs alone. -/
theorem sameFrame_expire (s : Rig) (k : ButtonKey) :
    SameFrame s.worker (s.apply (.expire k)).worker := by
  obtain ⟨ho, hs⟩ := s.tracker.expire_ends s.queue k
  exact ⟨rfl, ho, hs, rfl, rfl⟩

/-- Taking a job, to execute or to drop it, changes neither the frame nor what the cleaning up has
left to do. -/
theorem take_spec (s : Rig) (now : Moment) {e : Event} (he : e = .execute now ∨ e = .flush now) :
    SameFrame s.worker (s.apply e).worker ∧ (s.apply e).unvisited = s.unvisited ∧
      (s.apply e).cut = s.cut := by
  have hx : ∀ job rest,
      s.apply e = s.put (Worker.execute (s.worker.setQueue { s.queue with jobs := rest }) s.backend
        now job).value →
      SameFrame s.worker (s.apply e).worker ∧ (s.apply e).unvisited = s.unvisited ∧
        (s.apply e).cut = s.cut := by
    intro job rest h
    have hq := Worker.execute_queue (s.worker.setQueue { s.queue with jobs := rest }) s.backend now
      job
    have ho := congrArg Queue.isOpen hq
    have hs := congrArg Queue.hasSender hq
    rw [h]
    exact ⟨⟨Worker.execute_phase .., ho, hs, Worker.execute_settings ..,
      Worker.execute_cancelled ..⟩, rfl, rfl⟩
  cases hj : s.queue.jobs with
  | nil =>
    have hs : s.apply e = s := by
      rcases he with rfl | rfl
      · simp only [apply, Worker.executeNext, Queue.take?, hj]
        rfl
      · simp only [apply, Queue.take?, hj]
    rw [hs]
    exact ⟨⟨rfl, rfl, rfl, rfl, rfl⟩, rfl, rfl⟩
  | cons job rest =>
    rcases he with rfl | rfl
    · exact hx job rest (apply_execute hj now)
    · by_cases hm : job.mode = .release
      · exact hx job rest (apply_flush_release hj now hm)
      · rw [apply_flush_drop hj now hm]
        exact ⟨⟨rfl, rfl, rfl, rfl, rfl⟩, rfl, rfl⟩

/-- Releasing a button touches neither timers nor jobs, and ticks the button off. -/
theorem release_spec (s : Rig) :
    SameFrame s.worker (s.apply .release).worker ∧ (s.apply .release).unvisited = s.unvisited ∧
      (s.apply .release).cut = s.cut.tail := by
  cases hc : s.cut with
  | nil =>
    have hs : s.apply .release = s := by simp only [apply, hc]
    rw [hs, hc]
    exact ⟨⟨rfl, rfl, rfl, rfl, rfl⟩, rfl, rfl⟩
  | cons k rest =>
    rw [apply_release hc]
    exact ⟨⟨rfl, rfl, rfl, rfl, rfl⟩, rfl, rfl⟩

section

variable (s : Rig) (e : Event)

theorem phase_apply :
    (s.apply e).phase = match e with
      | .leave => .draining
      | .stop => .stopped
      | _ => s.phase := by
  cases e with
  | execute now => exact (s.take_spec now (.inl rfl)).1.phase
  | flush now => exact (s.take_spec now (.inr rfl)).1.phase
  | release => exact s.release_spec.1.phase
  | _ => rfl

theorem isOpen_apply :
    (s.apply e).queue.isOpen = match e with
      | .close => false
      | _ => s.queue.isOpen := by
  cases e with
  | enqueue job => rw [apply_enqueue]; rfl
  | expire k => exact (s.sameFrame_expire k).isOpen
  | execute now => exact (s.take_spec now (.inl rfl)).1.isOpen
  | flush now => exact (s.take_spec now (.inr rfl)).1.isOpen
  | release => exact s.release_spec.1.isOpen
  | _ => rfl

theorem hasSender_apply :
    (s.apply e).queue.hasSender = match e with
      | .dropSender => false
      | _ => s.queue.hasSender := by
  cases e with
  | enqueue job => rw [apply_enqueue]; rfl
  | expire k => exact (s.sameFrame_expire k).hasSender
  | execute now => exact (s.take_spec now (.inl rfl)).1.hasSender
  | flush now => exact (s.take_spec now (.inr rfl)).1.hasSender
  | release => exact s.release_spec.1.hasSender
  | _ => rfl

theorem settings_apply : (s.apply e).worker.settings = s.worker.settings := by
  cases e with
  | execute now => exact (s.take_spec now (.inl rfl)).1.settings
  | flush now => exact (s.take_spec now (.inr rfl)).1.settings
  | release => exact s.release_spec.1.settings
  | _ => rfl

theorem unvisited_apply :
    (s.apply e).unvisited = match e with
      | .leave => s.tracker.entries.keys
      | .disarm k => s.unvisited.erase k
      | _ => s.unvisited := by
  cases e with
  | flush now => exact (s.take_spec now (.inr rfl)).2.1
  | release => exact s.release_spec.2.1
  | _ => rfl

theorem cut_apply :
    (s.apply e).cut = match e with
      | .disarm k => if s.tracker.isArmed k then k :: s.cut else s.cut
      | .close => s.cut.mergeSort fun a b => (compare a b).isLE
      | .release => s.cut.tail
      | _ => s.cut := by
  cases e with
  | flush now => exact (s.take_spec now (.inr rfl)).2.2
  | release => exact s.release_spec.2.2
  | _ => rfl

end

/-! ## What a step can do -/

/-- What a job writes when it is executed. -/
def jobWrites (s : Rig) (job : Job) : List (ButtonKey × Bool) :=
  if s.joystick.canFeed job.key then
    ((s.worker.write? job (s.joystick.isPressed job.key)).map (job.key, ·)).toList
  else []

/-- What a step writes. -/
def writesOf (s : Rig) : Event → List (ButtonKey × Bool)
  | .execute _ =>
    match s.queue.jobs with
    | job :: _ => s.jobWrites job
    | [] => []
  | .flush _ =>
    match s.queue.jobs with
    | job :: _ => if job.mode = .release then s.jobWrites job else []
    | [] => []
  | .release =>
    match s.cut with
    | k :: _ => if s.joystick.canFeed k then [(k, false)] else []
    | [] => []
  | _ => []

/-- What a step leaves behind, what it writes, and the job that it carries out. -/
structure Outcome where
  tracker : Tracker
  jobs : List Job
  cut : List ButtonKey
  writes : List (ButtonKey × Bool) := []
  performed? : Option Job := none

/-- The outcome of an event. -/
def outcome (s : Rig) (e : Event) : Outcome where
  tracker := (s.apply e).tracker
  jobs := (s.apply e).queue.jobs
  cut := (s.apply e).cut
  writes := s.writesOf e
  performed? := Transition.performed? ⟨s, e, s.apply e⟩

/-- The outcomes that a step can have. -/
inductive Effect (s : Rig) (e : Event) : Outcome → Prop
  | idle : Effect s e ⟨s.tracker, s.queue.jobs, s.cut, [], none⟩
  | send (job : Job) :
      e = .enqueue job → Effect s e ⟨s.tracker, s.queue.jobs ++ [job], s.cut, [], none⟩
  | expire (k : ButtonKey) :
      e = .expire k → s.tracker.isArmed k = true →
      Effect s e ⟨(s.tracker.expire s.queue k).value.1,
        s.queue.jobs ++ if s.queue.hasSender && s.queue.isOpen then
          [Job.ending k (s.tracker.pulses k).generation] else [], s.cut, [], none⟩
  | perform (job : Job) (rest : List Job) (now : Moment) :
      s.queue.jobs = job :: rest → (s.phase = .running ∨ job.mode = .release) →
      Effect s e ⟨s.worker.trackerAfter now job, rest, s.cut, s.jobWrites job,
        if s.worker.counts job then some job else none⟩
  | drop (job : Job) (rest : List Job) :
      s.queue.jobs = job :: rest → job.mode ≠ .release →
      Effect s e ⟨s.tracker, rest, s.cut, [], none⟩
  | disarm (k : ButtonKey) :
      e = .disarm k → s.phase = .draining →
      Effect s e ⟨s.tracker.cancel k, s.queue.jobs,
        if s.tracker.isArmed k then k :: s.cut else s.cut, [], none⟩
  | sort :
      Effect s e ⟨s.tracker, s.queue.jobs, s.cut.mergeSort fun a b => (compare a b).isLE, [], none⟩
  | release (k : ButtonKey) (rest : List ButtonKey) :
      s.cut = k :: rest → s.queue.isOpen = false →
      Effect s e ⟨s.tracker, s.queue.jobs, rest, if s.joystick.canFeed k then [(k, false)] else [],
        none⟩

theorem performed?_of_taken?_eq_none {t : Transition} (h : t.taken? = none) :
    t.performed? = none := by
  unfold Transition.performed?
  rw [h, ite_self]

/-- A job that is executed counts as executed unless it is a release that is not confirmed. -/
theorem performed?_execute {s : Rig} {e : Event} {job : Job} {rest : List Job} {now : Moment}
    (ht : Transition.taken? ⟨s, e, s.apply e⟩ = some job)
    (ha : s.apply e =
      s.put (Worker.execute (s.worker.setQueue { s.queue with jobs := rest }) s.backend now
        job).value) :
    Transition.performed? ⟨s, e, s.apply e⟩ = if s.worker.counts job then some job else none := by
  have hs : (s.apply e).worker.stats = s.worker.statsAfter job := by
    rw [ha]
    exact Worker.execute_stats ..
  unfold Transition.performed?
  rw [ht, hs, Worker.statsAfter]
  cases s.worker.counts job <;> simp

/-- A step in which the worker executes a job. -/
theorem Effect.of_execute {e : Event} {job : Job} {rest : List Job} {now : Moment}
    (hj : s.queue.jobs = job :: rest) (hm : s.phase = .running ∨ job.mode = .release)
    (hw : s.writesOf e = s.jobWrites job) (ht : Transition.taken? ⟨s, e, s.apply e⟩ = some job)
    (ha : s.apply e =
      s.put (Worker.execute (s.worker.setQueue { s.queue with jobs := rest }) s.backend now
        job).value) :
    Effect s e (s.outcome e) := by
  have htr : (s.apply e).tracker = s.worker.trackerAfter now job := by
    rw [ha]
    exact Worker.execute_tracker ..
  have hjs : (s.apply e).queue.jobs = rest := by
    rw [ha]
    exact congrArg Queue.jobs (Worker.execute_queue ..)
  have hc : (s.apply e).cut = s.cut := by
    rw [ha]
    rfl
  rw [outcome, performed?_execute ht ha, htr, hjs, hc, hw]
  exact .perform job rest now hj hm

/-- Every step has one of these outcomes. -/
theorem effect {e : Event} (he : s.Enabled e) : Effect s e (s.outcome e) := by
  cases e with
  | enqueue job =>
    rw [outcome, performed?_of_taken?_eq_none rfl, apply_enqueue]
    cases s.queue.isOpen with
    | true => exact .send job rfl
    | false =>
      rw [if_neg Bool.false_ne_true, List.append_nil]
      exact .idle
  | expire k =>
    rw [outcome, performed?_of_taken?_eq_none rfl, show (s.apply (.expire k)).queue.jobs = _ from
      congrArg Queue.jobs (Tracker.expire_queue he s.queue)]
    exact .expire k rfl he
  | execute now =>
    obtain ⟨job, rest, hj⟩ := List.exists_cons_of_ne_nil he.2.2
    exact .of_execute hj (.inl he.1) (by simp [writesOf, hj]) (by simp [Transition.taken?, hj])
      (apply_execute hj now)
  | flush now =>
    obtain ⟨job, rest, hj⟩ := List.exists_cons_of_ne_nil he.2.2
    have ht : Transition.taken? ⟨s, .flush now, s.apply (.flush now)⟩ = some job := by
      simp [Transition.taken?, hj]
    by_cases hm : job.mode = .release
    · exact .of_execute hj (.inr hm) (by simp [writesOf, hj, hm]) ht (apply_flush_release hj now hm)
    · have ha := apply_flush_drop hj now hm
      have hp : Transition.performed? ⟨s, .flush now, s.apply (.flush now)⟩ = none := by
        unfold Transition.performed?
        rw [ha]
        simp [put, Worker.countDropped, Worker.setQueue]
      have hw : s.writesOf (.flush now) = [] := by simp [writesOf, hj, hm]
      rw [outcome, hp, hw, ha]
      exact .drop job rest hj hm
  | disarm k =>
    rw [outcome, performed?_of_taken?_eq_none rfl]
    exact .disarm k rfl he.1
  | close =>
    rw [outcome, performed?_of_taken?_eq_none rfl]
    exact .sort
  | release =>
    obtain ⟨k, rest, hc⟩ := List.exists_cons_of_ne_nil he.2.2.2.2
    have hw : s.writesOf .release = if s.joystick.canFeed k then [(k, false)] else [] := by
      simp [writesOf, hc]
    rw [outcome, performed?_of_taken?_eq_none rfl, hw, apply_release hc]
    exact .release k rest hc he.2.1
  | _ =>
    rw [outcome, performed?_of_taken?_eq_none rfl]
    exact .idle

/-- A timer is armed after a step only if the worker executes jobs, or if it was armed before and
the step did not disarm it. -/
theorem isArmed_of_apply {e : Event} (he : s.Enabled e) {k : ButtonKey}
    (h : (s.apply e).tracker.isArmed k = true) :
    s.phase = .running ∨ s.tracker.isArmed k = true ∧ e ≠ .disarm k := by
  by_cases hd : e = .disarm k
  · rw [hd, show (s.apply (.disarm k)).tracker = s.tracker.cancel k from rfl,
      Tracker.isArmed_cancel, beq_self_eq_true] at h
    cases h
  have hf := effect he
  change (s.outcome e).tracker.isArmed k = true at h
  generalize s.outcome e = o at h hf
  cases hf with
  | expire c hc =>
    rw [Tracker.isArmed_expire, Bool.and_eq_true] at h
    exact .inr ⟨h.2, hd⟩
  | perform job rest now hj hm =>
    rcases hm with hm | hm
    · exact .inl hm
    · rw [Worker.trackerAfter_of_release hm] at h
      exact .inr ⟨h, hd⟩
  | disarm c hc =>
    rw [Tracker.isArmed_cancel, Bool.and_eq_true] at h
    exact .inr ⟨h.2, hd⟩
  | _ => exact .inr ⟨h, hd⟩

/-! ## The order of a life -/

/-- What holds at every point of a worker's life: timers are armed only while it runs or has yet to
disarm them, pulses are cut short only by disarming them, the queue is closed after that, and the
worker stops when nothing is left. -/
structure Orderly (s : Rig) : Prop where
  armed : ∀ k, s.tracker.isArmed k = true →
    s.phase = .running ∨ s.phase = .draining ∧ k ∈ s.unvisited
  running : s.phase = .running → s.queue.isOpen = true
  closed : s.queue.isOpen = false → s.unvisited = []
  cut : ∀ k ∈ s.cut, s.tracker.isArmed k = false ∧ s.phase ≠ .running
  stopped : s.phase = .stopped →
    s.queue.isOpen = false ∧ s.queue.jobs = [] ∧
      (s.worker.settings.releaseOnShutdown = true → s.cut = [])

theorem orderly_start (settings : Settings) (backend : Backend) :
    Orderly (start settings backend) where
  armed _ _ := .inl rfl
  running _ := rfl
  closed h := by cases h
  cut _ h := by cases h
  stopped h := by cases h

/-- After its queue is closed no timer is armed. -/
theorem Orderly.not_isArmed (h : s.Orderly) (hc : s.queue.isOpen = false) (k : ButtonKey) :
    s.tracker.isArmed k = false := by
  cases ha : s.tracker.isArmed k with
  | false => rfl
  | true =>
    rcases h.armed k ha with hr | ⟨-, hk⟩
    · rw [h.running hr] at hc
      cases hc
    · rw [h.closed hc] at hk
      cases hk

/-- A pulse is cut short only by disarming its timer. -/
theorem mem_cut_of_apply {e : Event} {k : ButtonKey} (h : k ∈ (s.apply e).cut) :
    k ∈ s.cut ∨ e = .disarm k := by
  rw [cut_apply] at h
  cases e with
  | disarm c =>
    dsimp only at h
    split at h
    · exact (List.mem_cons.mp h).symm.imp_right (congrArg Event.disarm ·.symm)
    · exact .inl h
  | close => exact .inl (List.mem_mergeSort.mp h)
  | release => exact .inl (List.mem_of_mem_tail h)
  | _ => exact .inl h

/-- An armed timer belongs to a running worker, or to one that has yet to disarm it, also after a
step. -/
theorem Orderly.armed_apply (h : s.Orderly) {e : Event} (he : s.Enabled e) {k : ButtonKey}
    (ha : (s.apply e).tracker.isArmed k = true) :
    (s.apply e).phase = .running ∨
      (s.apply e).phase = .draining ∧ k ∈ (s.apply e).unvisited := by
  rw [phase_apply, unvisited_apply]
  have hk : s.phase = .running ∨
      s.phase = .draining ∧ s.queue.isOpen = true ∧ k ∈ s.unvisited ∧ e ≠ .disarm k := by
    rcases isArmed_of_apply he ha with hr | ⟨ha, hd⟩
    · exact .inl hr
    · have ho : s.queue.isOpen = true := by
        cases ho : s.queue.isOpen with
        | true => rfl
        | false => exact (h.not_isArmed ho k).symm.trans ha
      exact (h.armed k ha).imp_right fun hk => ⟨hk.1, ho, hk.2, hd⟩
  rcases hk with hr | ⟨hp, ho, hk, hd⟩
  · cases e with
    | leave => exact .inr ⟨rfl, Tracker.mem_keys_of_isArmed ha⟩
    | stop => rw [he.1] at hr; cases hr
    | _ => exact .inl hr
  · cases e with
    | leave => rw [he.1] at hp; cases hp
    | stop => rw [he.2.1] at ho; cases ho
    | disarm c =>
      have hc : k ≠ c := by
        rintro rfl
        exact hd rfl
      exact .inr ⟨hp, (List.mem_erase_of_ne hc).mpr hk⟩
    | _ => exact .inr ⟨hp, hk⟩

/-- A button whose pulse was cut short is not armed again, and the worker does not run again. -/
theorem Orderly.cut_apply (h : s.Orderly) {e : Event} (he : s.Enabled e) {k : ButtonKey}
    (hk : k ∈ (s.apply e).cut) :
    (s.apply e).tracker.isArmed k = false ∧ (s.apply e).phase ≠ .running := by
  rcases mem_cut_of_apply hk with hk | rfl
  · obtain ⟨ha, hp⟩ := h.cut k hk
    constructor
    · refine Bool.eq_false_iff.mpr fun ha' => ?_
      rcases isArmed_of_apply he ha' with hr | ⟨ha', -⟩
      · exact hp hr
      · exact absurd (ha'.symm.trans ha) nofun
    · rw [phase_apply]
      cases e with
      | leave | stop => exact nofun
      | _ => exact hp
  · refine ⟨?_, by rw [phase_apply, he.1]; exact nofun⟩
    rw [show (s.apply (.disarm k)).tracker = s.tracker.cancel k from rfl,
      Tracker.isArmed_cancel, beq_self_eq_true]
    rfl

/-- A worker stops when nothing is left, and nothing is added after that. -/
theorem Orderly.stopped_apply (h : s.Orderly) {e : Event} (he : s.Enabled e)
    (hs : (s.apply e).phase = .stopped) :
    (s.apply e).queue.isOpen = false ∧ (s.apply e).queue.jobs = [] ∧
      ((s.apply e).worker.settings.releaseOnShutdown = true → (s.apply e).cut = []) := by
  rw [phase_apply] at hs
  cases e with
  | stop => exact he.2
  | enqueue job =>
    obtain ⟨ho, hj, hc⟩ := h.stopped hs
    rw [apply_enqueue, ho, hj]
    exact ⟨ho, rfl, hc⟩
  | expire k =>
    obtain ⟨ho, -⟩ := h.stopped hs
    exact absurd he (by rw [Enabled, h.not_isArmed ho]; exact Bool.false_ne_true)
  | cancel => exact h.stopped hs
  | dropSender => exact h.stopped hs
  | outside b => exact h.stopped hs
  | leave => cases hs
  | execute | disarm | close | flush | release => rw [he.1] at hs; cases hs

/-- Every step keeps the order. -/
theorem Orderly.apply (h : s.Orderly) {e : Event} (he : s.Enabled e) : (s.apply e).Orderly where
  armed _ ha := h.armed_apply he ha
  cut _ hk := h.cut_apply he hk
  stopped hs := h.stopped_apply he hs
  running hr := by
    rw [phase_apply] at hr
    rw [isOpen_apply]
    cases e with
    | close => rw [he.1] at hr; cases hr
    | leave => cases hr
    | stop => cases hr
    | _ => exact h.running hr
  closed hc := by
    rw [isOpen_apply] at hc
    rw [unvisited_apply]
    cases e with
    | close => exact he.2.2
    | leave => rw [h.running he.1] at hc; cases hc
    | disarm k => rw [h.closed hc]; rfl
    | _ => exact h.closed hc

end Rig

/-- Every rig that a new one comes to is orderly. -/
theorem Run.orderly {settings : Settings} {backend : Backend} {trace : List Transition} {s : Rig}
    (h : Run (Rig.start settings backend) trace s) : s.Orderly :=
  h.invariant (fun _ _ hs he => hs.apply he) (Rig.orderly_start settings backend)

end ControlDeck.Dispatch
