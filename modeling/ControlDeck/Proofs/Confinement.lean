import ControlDeck.Proofs.Journal
import ControlDeck.Proofs.Sites

/-!
# Workers stay with their devices

A worker to which only jobs for some devices are given depends on these, and reaches no other one.

- **What a step feeds** (`Rig.operation`): the operation that a step has the feeder carry out.
  `Rig.apply_eq` says that apart from it a step looks at the worker alone and not at the joystick.
- **Within some devices** (`Rig.Within`): the jobs, the timers, the pulses that were cut short and
  the devices held are all of these. Every step keeps it whose job is for one of them
  (`Within.apply`).
- `Within.apply_agree`: a step has the same results wherever the joystick agrees on these devices.
- `Within.apply_elsewhere`: it changes nothing about any other device.
-/

namespace ControlDeck.Dispatch

open Device

namespace Worker

/-- What a job has the feeder do. -/
def feeds (w : Worker) (job : Job) : Feeder → Logged Feeder :=
  match job.action with
  | .press | .pulse _ => (·.press job.key)
  | .release => (·.release job.key)
  | .toggle => (·.toggle job.key)
  | .pulseRelease generation =>
    if w.tracker.confirms job.key generation then (·.release job.key) else pure

/-- All that a job does. -/
theorem execute_value (w : Worker) (b : Backend) (now : Moment) (job : Job) :
    (w.execute b now job).value =
      ({ w with
          tracker := w.trackerAfter now job
          stats := w.statsAfter job
          held := (w.feeds job (w.feeder b)).value.held },
        (w.feeds job (w.feeder b)).value.backend) := by
  obtain ⟨k, action⟩ := job
  unfold execute perform trackerAfter statsAfter counts feeds
  cases action with
  | pulseRelease generation =>
    simp only [Logged.value_bind, Logged.value_ite]
    cases w.tracker.confirms k generation <;> rfl
  | _ => rfl

theorem confined_feeds {S : UInt32 → Bool} {job : Job} (h : S job.key.device = true) (w : Worker) :
    Feeder.Confined S (w.feeds job) := by
  have hb := fun down => (Feeder.local_setButton job.key down).confined h
  unfold feeds
  cases job.action with
  | press => exact hb true
  | release => exact hb false
  | pulse length => exact hb true
  | toggle => exact (Feeder.local_toggle job.key).confined h
  | pulseRelease generation =>
    dsimp only
    split
    · exact hb false
    · exact Feeder.confined_pure S

end Worker

namespace Rig

variable {S : UInt32 → Bool} {s : Rig} {e : Event}

/-- What a step has the feeder do. -/
def operation (s : Rig) : Event → Feeder → Logged Feeder
  | .execute _ =>
    match s.queue.jobs with
    | job :: _ => s.worker.feeds job
    | [] => pure
  | .flush _ =>
    match s.queue.jobs with
    | job :: _ => if job.mode = .release then s.worker.feeds job else pure
    | [] => pure
  | .release =>
    match s.cut with
    | k :: _ => (·.release k)
    | [] => pure
  | .stop => Feeder.relinquishAll
  | _ => pure

/-- The rig in front of another joystick. -/
def onto (s : Rig) (backend : Backend) : Rig := { s with backend }

/-- The rig after its feeder has gone on. -/
def setFeeder (s : Rig) (f : Feeder) : Rig :=
  { s with worker := { s.worker with held := f.held }, backend := f.backend }

theorem execute_of_empty (h : s.queue.jobs = []) {now : Moment} : s.apply (.execute now) = s := by
  simp only [apply, Worker.executeNext, Queue.take?, h]
  rfl

theorem flush_of_empty (h : s.queue.jobs = []) {now : Moment} : s.apply (.flush now) = s := by
  simp only [apply, Queue.take?, h]

theorem release_of_empty (h : s.cut = []) : s.apply .release = s := by
  simp only [apply, h]

/-- A step in which the worker executes the job at the front of its queue. -/
theorem execute_onto {job : Job} {rest : List Job} {now : Moment} {s' : Rig}
    (hs : s' = s.put (Worker.execute (s.worker.setQueue { s.queue with jobs := rest }) s.backend now
      job).value) (b : Backend) :
    (s.onto b).put
        (Worker.execute (s.worker.setQueue { s.queue with jobs := rest }) b now job).value =
      s'.setFeeder (s.worker.feeds job (s.worker.feeder b)).value := by
  rw [hs, Worker.execute_value, Worker.execute_value]
  rfl

/-- Apart from what its feeder does, a step does the same in front of any joystick. -/
theorem apply_onto (ho : e.isOwn = true) (b : Backend) :
    (s.onto b).apply e = (s.apply e).setFeeder (s.operation e (s.worker.feeder b)).value := by
  cases e with
  | outside => cases ho
  | enqueue job => rw [apply_enqueue, apply_enqueue]; rfl
  | execute now =>
    cases hj : s.queue.jobs with
    | nil =>
      rw [execute_of_empty (s := s.onto b) hj, execute_of_empty hj, operation, hj]
      rfl
    | cons job rest =>
      rw [apply_execute (s := s.onto b) hj now, operation, hj]
      exact execute_onto (apply_execute hj now) b
  | flush now =>
    cases hj : s.queue.jobs with
    | nil =>
      rw [flush_of_empty (s := s.onto b) hj, flush_of_empty hj, operation, hj]
      rfl
    | cons job rest =>
      simp only [operation, hj]
      split
      · rename_i hm
        rw [apply_flush_release (s := s.onto b) hj now hm]
        exact execute_onto (apply_flush_release hj now hm) b
      · rename_i hm
        rw [apply_flush_drop (s := s.onto b) hj now hm, apply_flush_drop hj now hm]
        rfl
  | release =>
    cases hc : s.cut with
    | nil =>
      rw [release_of_empty (s := s.onto b) hc, release_of_empty hc, operation, hc]
      rfl
    | cons k rest =>
      rw [apply_release (s := s.onto b) hc, apply_release hc, operation, hc]
      rfl
  | _ => rfl

/-- The feeder goes on as the step has it do. -/
theorem feeder_apply (ho : e.isOwn = true) :
    (s.apply e).feeder = (s.operation e s.feeder).value :=
  congrArg Rig.feeder (apply_onto (s := s) ho s.backend)

/-! ## Within some devices -/

/-- All that a worker has to do is with some devices. -/
structure Within (S : UInt32 → Bool) (s : Rig) : Prop where
  jobs : ∀ job ∈ s.queue.jobs, S job.key.device = true
  armed : ∀ k, s.tracker.isArmed k = true → S k.device = true
  cut : ∀ k ∈ s.cut, S k.device = true
  holds : s.feeder.HoldsOnly S

/-- A new worker has nothing to do. -/
theorem within_start (S : UInt32 → Bool) (settings : Settings) (backend : Backend) :
    Within S (start settings backend) where
  jobs _ h := by cases h
  armed k h := by
    rw [Tracker.isArmed_eq, show (start settings backend).tracker.pulses k = {} from
      Tracker.pulses_of_not_isKnown Std.TreeMap.contains_emptyc] at h
    cases h
  cut _ h := by cases h
  holds d h := by cases (Std.TreeSet.contains_emptyc (k := d)).symm.trans h

theorem Within.confined (h : s.Within S) (e : Event) : Feeder.Confined S (s.operation e) := by
  have hp := Feeder.confined_pure S
  have hf : ∀ {job rest}, s.queue.jobs = job :: rest → Feeder.Confined S (s.worker.feeds job) :=
    fun hq => Worker.confined_feeds (h.jobs _ (hq ▸ List.mem_cons_self)) _
  cases e with
  | execute now =>
    cases hq : s.queue.jobs with
    | nil => rwa [operation, hq]
    | cons job rest =>
      rw [operation, hq]
      exact hf hq
  | flush now =>
    cases hq : s.queue.jobs with
    | nil => rwa [operation, hq]
    | cons job rest =>
      simp only [operation, hq]
      split
      · exact hf hq
      · exact hp
  | release =>
    cases hc : s.cut with
    | nil => rwa [operation, hc]
    | cons k rest =>
      rw [operation, hc]
      exact (Feeder.local_setButton k false).confined (h.cut k (hc ▸ List.mem_cons_self))
  | stop => exact Feeder.confined_relinquishAll S
  | _ => exact hp

/-- Every outcome of a step is with the same devices. -/
theorem Within.effect (h : s.Within S) {o : Outcome} (hf : Effect s e o)
    (hj : ∀ job, e = .enqueue job → S job.key.device = true) :
    (∀ job ∈ o.jobs, S job.key.device = true) ∧
      (∀ k, o.tracker.isArmed k = true → S k.device = true) ∧ ∀ k ∈ o.cut, S k.device = true := by
  cases hf with
  | idle => exact ⟨h.jobs, h.armed, h.cut⟩
  | send job he =>
    refine ⟨List.forall_mem_append.mpr ⟨h.jobs, ?_⟩, h.armed, h.cut⟩
    exact List.forall_mem_singleton.mpr (hj job he)
  | expire k he ha =>
    refine ⟨List.forall_mem_append.mpr ⟨h.jobs, fun job hm => ?_⟩, fun o ho => ?_, h.cut⟩
    · split at hm
      · obtain rfl := List.mem_singleton.mp hm
        exact h.armed k ha
      · cases hm
    · rw [Tracker.isArmed_expire, Bool.and_eq_true] at ho
      exact h.armed o ho.2
  | perform job rest now hq hm =>
    obtain ⟨hk, hr⟩ := List.forall_mem_cons.mp (hq ▸ h.jobs)
    refine ⟨hr, fun o ho => ?_, h.cut⟩
    by_cases hp : ∃ length, job = ⟨o, .pulse length⟩
    · obtain ⟨length, rfl⟩ := hp
      exact hk
    · have hu := (s.worker.trackerAfter_of_ne_pulse now fun length hn => hp ⟨length, hn⟩).2
      rw [Tracker.isArmed_eq, hu] at ho
      exact h.armed o ho
  | drop job rest hq hm => exact ⟨(List.forall_mem_cons.mp (hq ▸ h.jobs)).2, h.armed, h.cut⟩
  | disarm k he hp =>
    refine ⟨h.jobs, fun o ho => ?_, fun o ho => ?_⟩
    · rw [Tracker.isArmed_cancel, Bool.and_eq_true] at ho
      exact h.armed o ho.2
    · dsimp only at ho
      split at ho
      · rename_i ha
        exact (List.mem_cons.mp ho).elim (fun hk => hk ▸ h.armed k ha) (h.cut o)
      · exact h.cut o ho
  | sort => exact ⟨h.jobs, h.armed, fun k hk => h.cut k (List.mem_mergeSort.mp hk)⟩
  | release k rest hc ho => exact ⟨h.jobs, h.armed, (List.forall_mem_cons.mp (hc ▸ h.cut)).2⟩

/-- A worker stays within some devices as long as it is given jobs for these. -/
theorem Within.apply (h : s.Within S) (he : s.Enabled e) (ho : e.isOwn = true)
    (hb : s.backend.faults = []) (hj : ∀ job, e = .enqueue job → S job.key.device = true) :
    (s.apply e).Within S := by
  obtain ⟨hq, ha, hc⟩ := h.effect (Rig.effect he) hj
  refine ⟨hq, ha, hc, ?_⟩
  rw [feeder_apply ho]
  exact ((h.confined e).stays _ h.holds hb).holds

/-- What a worker does within some devices leaves the others alone. -/
theorem Within.apply_elsewhere (h : s.Within S) (ho : e.isOwn = true) (hb : s.backend.faults = [])
    {T : UInt32 → Bool} (hT : ∀ d, S d = true → T d = false) :
    s.backend.Agree T (s.apply e).backend := by
  have hf := congrArg Feeder.backend (feeder_apply (s := s) ho)
  rw [show (s.apply e).backend = _ from hf]
  exact ((h.confined e).stays _ h.holds hb).elsewhere T hT

/-- What a worker does within some devices, it does in the same way wherever the joystick agrees on
these, and then the joysticks still do. -/
theorem Within.apply_agree (h : s.Within S) (ho : e.isOwn = true) {b : Backend}
    (ha : s.backend.Agree S b) :
    ∃ b', (s.onto b).apply e = (s.apply e).onto b' ∧ (s.apply e).backend.Agree S b' := by
  obtain ⟨hh, hb⟩ := (h.confined e).agree s.feeder (s.worker.feeder b) h.holds ⟨rfl, ha⟩
  rw [← feeder_apply ho] at hh hb
  refine ⟨_, ?_, hb⟩
  rw [apply_onto ho, setFeeder, ← hh]
  rfl

end Rig

end ControlDeck.Dispatch
