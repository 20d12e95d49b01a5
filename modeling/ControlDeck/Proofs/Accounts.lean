import ControlDeck.Proofs.Steps

/-!
# Where the jobs go

Every job that the queue accepts leaves it once, in the order of arrival, and is counted then.

- **In and out** (`Transition.sent?`, `Transition.taken?`): the job that the queue accepts in a
  step, and the one that the worker takes. `Rig.jobs_balance` says that a step neither loses nor
  doubles one.
- **Fates** (`Fate`, `Transition.fate?`): a job that was taken is executed, superseded or dropped,
  and the counters of the worker say how many were (`Rig.stats_apply`).
- **Refusals** (`Transition.Refused`): a send that fails changes nothing.
- `jobs_accounted`: the accounts of a whole run.
-/

namespace ControlDeck.Dispatch

open Device

/-! ## In and out -/

/-- The job that the queue accepts in a step: from a producer, or from a timer that expires. -/
def Transition.sent? (t : Transition) : Option Job :=
  match t.event with
  | .enqueue job => (t.before.queue.send? job).map fun _ => job
  | .expire k =>
    let job := Job.ending k (t.before.tracker.pulses k).generation
    if t.before.queue.hasSender then (t.before.queue.send? job).map fun _ => job else none
  | _ => none

/-- The jobs that the queue accepted in a run, in order. -/
def sent (trace : List Transition) : List Job := trace.filterMap (·.sent?)

/-- The jobs that the worker took from the queue in a run, in order. -/
def taken (trace : List Transition) : List Job := trace.filterMap (·.taken?)

/-- What becomes of a job that the worker takes. -/
inductive Fate
  | executed
  | superseded
  | dropped
  deriving DecidableEq, Repr

/-- The fate of a job that the worker executes: a release that is not confirmed is superseded. -/
def Worker.fate (w : Worker) (job : Job) : Fate := if w.counts job then .executed else .superseded

/-- The fate of a job that is still queued when the worker cleans up: the releases are executed, and
all other jobs are dropped. -/
def Worker.flushFate (w : Worker) (job : Job) : Fate :=
  if job.mode = .release then w.fate job else .dropped

/-- The fate of the job that is taken in a step. -/
def Transition.fate? (t : Transition) : Option Fate :=
  match t.event with
  | .execute _ => t.taken?.map t.before.worker.fate
  | .flush _ => t.taken?.map t.before.worker.flushFate
  | _ => none

/-- The fates of the jobs that were taken in a run, in order. -/
def fates (trace : List Transition) : List Fate := trace.filterMap (·.fate?)

/-- Counts a job by its fate. -/
def Stats.count (s : Stats) : Fate → Stats
  | .executed => { s with executed := s.executed + 1 }
  | .superseded => { s with superseded := s.superseded + 1 }
  | .dropped => { s with dropped := s.dropped + 1 }

/-- Many jobs are counted one after the other. -/
theorem Stats.foldl_count (s : Stats) (fs : List Fate) :
    fs.foldl count s = ⟨s.executed + .ofNat (fs.count .executed),
      s.superseded + .ofNat (fs.count .superseded), s.dropped + .ofNat (fs.count .dropped)⟩ := by
  induction fs generalizing s with
  | nil => simp
  | cons f fs ih =>
    rw [List.foldl_cons, ih]
    cases f <;> simp [count, UInt64.ofNat_add] <;> ac_rfl

/-- What a send that fails leaves behind: a producer gets its job back and nothing has changed; a
timer leaves the queue as it was. -/
def Transition.Refused (t : Transition) : Prop :=
  (∀ job, t.event = .enqueue job →
    (t.before.queue.enqueue job).value = .error (.queueClosed job) ∧ t.after = t.before) ∧
  ∀ k, t.event = .expire k → t.after.queue = t.before.queue

theorem filterMap_snoc {α β : Type} (f : α → Option β) (l : List α) (a : α) :
    (l ++ [a]).filterMap f = l.filterMap f ++ (f a).toList := by
  rw [List.filterMap_append, List.filterMap_cons]
  cases f a <;> rfl

theorem Worker.statsAfter_eq (w : Worker) (job : Job) :
    w.statsAfter job = w.stats.count (w.fate job) := by
  unfold statsAfter fate
  split <;> rfl

/-- Every job that is taken has a fate, and no other one has. -/
theorem Transition.isSome_fate? (t : Transition) : t.fate?.isSome = t.taken?.isSome := by
  obtain ⟨before, e, after⟩ := t
  cases e <;> simp [fate?, taken?]

theorem length_fates (trace : List Transition) : (fates trace).length = (taken trace).length := by
  unfold fates taken
  induction trace with
  | nil => rfl
  | cons t trace ih =>
    have ht := t.isSome_fate?
    rw [List.filterMap_cons, List.filterMap_cons]
    cases hf : t.fate? <;> cases hk : t.taken? <;> simp_all

namespace Rig

variable {s : Rig} {e : Event}

/-! ## One step -/

/-- The worker takes the job at the front, whether it executes or drops it. -/
theorem jobs_of_take {now : Moment} {job : Job} {rest : List Job} (hj : s.queue.jobs = job :: rest)
    (he : e = .execute now ∨ e = .flush now) : (s.apply e).queue.jobs = rest := by
  rcases he with rfl | rfl
  · rw [apply_execute hj]
    exact congrArg Queue.jobs (Worker.execute_queue ..)
  · by_cases hm : job.mode = .release
    · rw [apply_flush_release hj now hm]
      exact congrArg Queue.jobs (Worker.execute_queue ..)
    · rw [apply_flush_drop hj now hm]
      rfl

/-- A step neither loses nor doubles a job: what was queued and what is accepted is what is taken
and what is queued then, in this order. -/
theorem jobs_balance (he : s.Enabled e) :
    s.queue.jobs ++ (Transition.sent? ⟨s, e, s.apply e⟩).toList =
      (Transition.taken? ⟨s, e, s.apply e⟩).toList ++ (s.apply e).queue.jobs := by
  cases e with
  | enqueue job =>
    rw [apply_enqueue]
    simp only [Transition.sent?, Transition.taken?, Queue.send?]
    cases s.queue.isOpen <;> simp [setQueue, Worker.setQueue]
  | expire k =>
    have hq : (s.apply (.expire k)).queue = _ := Tracker.expire_queue he s.queue
    rw [hq]
    simp only [Transition.sent?, Transition.taken?, Queue.send?]
    cases s.queue.hasSender <;> cases s.queue.isOpen <;> simp
  | execute now =>
    obtain ⟨job, rest, hj⟩ := List.exists_cons_of_ne_nil he.2.2
    rw [jobs_of_take hj (.inl rfl)]
    simp [Transition.sent?, Transition.taken?, hj]
  | flush now =>
    obtain ⟨job, rest, hj⟩ := List.exists_cons_of_ne_nil he.2.2
    rw [jobs_of_take hj (.inr rfl)]
    simp [Transition.sent?, Transition.taken?, hj]
  | release =>
    obtain ⟨k, rest, hc⟩ := List.exists_cons_of_ne_nil he.2.2.2.2
    rw [apply_release hc]
    simp [Transition.sent?, Transition.taken?]
    rfl
  | _ =>
    simp only [Transition.sent?, Transition.taken?, Option.toList_none, List.append_nil,
      List.nil_append]
    rfl

/-- A step counts the job that is taken by its fate. -/
theorem stats_apply (he : s.Enabled e) :
    (s.apply e).worker.stats =
      (Transition.fate? ⟨s, e, s.apply e⟩).elim s.worker.stats s.worker.stats.count := by
  cases e with
  | execute now =>
    obtain ⟨job, rest, hj⟩ := List.exists_cons_of_ne_nil he.2.2
    rw [apply_execute hj]
    simp only [Transition.fate?, Transition.taken?, hj, List.head?_cons, Option.map_some,
      Option.elim_some]
    exact (Worker.execute_stats ..).trans (Worker.statsAfter_eq ..)
  | flush now =>
    obtain ⟨job, rest, hj⟩ := List.exists_cons_of_ne_nil he.2.2
    simp only [Transition.fate?, Transition.taken?, hj, List.head?_cons, Option.map_some,
      Option.elim_some]
    unfold Worker.flushFate
    by_cases hm : job.mode = .release
    · rw [if_pos hm, apply_flush_release hj now hm]
      exact (Worker.execute_stats ..).trans (Worker.statsAfter_eq ..)
    · rw [if_neg hm, apply_flush_drop hj now hm]
      rfl
  | release =>
    obtain ⟨k, rest, hc⟩ := List.exists_cons_of_ne_nil he.2.2.2.2
    rw [apply_release hc]
    rfl
  | _ => rfl

/-- A send that is not accepted is refused. -/
theorem refused (he : s.Enabled e) (hn : Transition.sent? ⟨s, e, s.apply e⟩ = none) :
    Transition.Refused ⟨s, e, s.apply e⟩ := by
  constructor
  · rintro job rfl
    have hs : s.queue.send? job = none := Option.map_eq_none_iff.mp hn
    refine ⟨by simp [Queue.enqueue, hs], ?_⟩
    show s.setQueue ((s.queue.send? job).getD s.queue) = s
    rw [hs]
    rfl
  · rintro k rfl
    have hq : (s.apply (.expire k)).queue = _ := Tracker.expire_queue he s.queue
    rw [hq]
    rcases hs : s.queue with ⟨jobs, isOpen, hasSender⟩
    simp only [Transition.sent?, Queue.send?, hs] at hn
    cases hasSender <;> cases isOpen <;> simp_all

/-! ## Workers that are not cancelled -/

theorem cancelled_apply (s : Rig) (e : Event) :
    (s.apply e).worker.cancelled = match e with
      | .cancel => true
      | _ => s.worker.cancelled := by
  cases e with
  | execute now => exact (s.take_spec now (.inl rfl)).1.cancelled
  | flush now => exact (s.take_spec now (.inr rfl)).1.cancelled
  | release => exact s.release_spec.1.cancelled
  | _ => rfl

/-- What holds of a worker that is not cancelled: it leaves its loop only when nothing is queued and
nobody can send any more, so that it never has a job to drop. -/
structure Unforced (s : Rig) : Prop where
  left : s.phase ≠ .running → s.queue.jobs = [] ∧ s.queue.hasSender = false
  dropped : s.worker.stats.dropped = 0

/-- A step that does not cancel the worker drops no job. -/
theorem Unforced.apply (h : s.Unforced) (he : s.Enabled e) (hc : s.worker.cancelled = false) :
    (s.apply e).Unforced := by
  -- a worker that has left its loop has nothing to flush
  have hf : ∀ now, e ≠ .flush now := by
    rintro now rfl
    exact he.2.2 (h.left (by rw [he.1]; exact nofun)).1
  constructor
  · intro hp
    rw [phase_apply] at hp
    rw [hasSender_apply]
    cases e with
    | enqueue job => exact absurd (he.symm.trans (h.left hp).2) nofun
    | expire k =>
      obtain ⟨hj, hs⟩ := h.left hp
      have hq : (s.apply (.expire k)).queue = _ := Tracker.expire_queue he s.queue
      rw [hq, hs, hj]
      exact ⟨rfl, rfl⟩
    | execute now => exact absurd he.1 hp
    | dropSender => exact ⟨(h.left hp).1, rfl⟩
    | leave =>
      rcases he.2 with hc' | hl
      · exact absurd (hc'.symm.trans hc) nofun
      · exact hl
    | flush now => exact absurd rfl (hf now)
    | stop => exact h.left (by rw [he.1]; exact nofun)
    | release =>
      obtain ⟨k, rest, hr⟩ := List.exists_cons_of_ne_nil he.2.2.2.2
      rw [apply_release hr]
      exact h.left hp
    | _ => exact h.left hp
  · rw [stats_apply he]
    cases e with
    | execute now =>
      obtain ⟨job, rest, hj⟩ := List.exists_cons_of_ne_nil he.2.2
      simp only [Transition.fate?, Transition.taken?, hj, List.head?_cons, Option.map_some,
        Option.elim_some, Worker.fate]
      split <;> exact h.dropped
    | flush now => exact absurd rfl (hf now)
    | _ => exact h.dropped

end Rig

/-! ## Runs -/

namespace Run

variable {settings : Settings} {backend : Backend} {trace : List Transition} {s : Rig}

/-- The jobs that were accepted are those that were taken, followed by those that are queued. -/
theorem sent_eq (h : Run (Rig.start settings backend) trace s) :
    sent trace = taken trace ++ s.queue.jobs := by
  induction h with
  | nil => rfl
  | @snoc trace m e _ he ih =>
    unfold sent taken at ih ⊢
    rw [filterMap_snoc, filterMap_snoc, ih, List.append_assoc, Rig.jobs_balance he,
      List.append_assoc]

/-- The counters say how many jobs met each fate. -/
theorem stats_eq (h : Run (Rig.start settings backend) trace s) :
    s.worker.stats = ⟨.ofNat ((fates trace).count .executed),
      .ofNat ((fates trace).count .superseded), .ofNat ((fates trace).count .dropped)⟩ := by
  have hs : s.worker.stats = (fates trace).foldl Stats.count {} := by
    induction h with
    | nil => rfl
    | @snoc trace m e _ he ih =>
      unfold fates at ih ⊢
      rw [Rig.stats_apply he, filterMap_snoc, List.foldl_append, ← ih]
      cases Transition.fate? ⟨m, e, m.apply e⟩ <;> rfl
  rw [hs, Stats.foldl_count]
  simp

/-- A run whose worker was never cancelled never dropped a job. -/
theorem unforced (h : Run (Rig.start settings backend) trace s)
    (hc : s.worker.cancelled = false) : s.Unforced := by
  induction h with
  | nil => exact ⟨fun hp => absurd rfl hp, rfl⟩
  | @snoc trace m e _ he ih =>
    rw [Rig.cancelled_apply] at hc
    cases e with
    | cancel => cases hc
    | _ => exact (ih hc).apply he hc

end Run

/-- Every job has one of the three fates. -/
theorem length_eq_count (fs : List Fate) :
    fs.length = fs.count .executed + fs.count .superseded + fs.count .dropped := by
  induction fs with
  | nil => rfl
  | cons f fs ih =>
    cases f <;> simp only [List.length_cons, List.count_cons] <;> simp <;> omega

/-- Whatever happens to a worker in whatever order, tagged jobs included: the jobs that the queue
accepted are those that the worker took, in the order of arrival, and those still queued; each
counter says how many of the jobs met its fate, so that the number of accepted jobs is that of the
queued ones and of the three counters together, modulo `2 ^ 64`; a send that fails changes nothing
and gives its job back; nothing is queued when the worker has stopped; and a worker that was never
cancelled has dropped nothing. -/
theorem jobs_accounted {settings : Settings} {backend : Backend} {trace : List Transition}
    {s : Rig} (h : Run (Rig.start settings backend) trace s) :
    sent trace = taken trace ++ s.queue.jobs ∧
      s.worker.stats = ⟨.ofNat ((fates trace).count .executed),
        .ofNat ((fates trace).count .superseded), .ofNat ((fates trace).count .dropped)⟩ ∧
      UInt64.ofNat (sent trace).length = .ofNat s.queue.jobs.length + s.worker.stats.executed +
        s.worker.stats.superseded + s.worker.stats.dropped ∧
      (∀ t ∈ trace, t.sent? = none → t.Refused) ∧
      (s.phase = .stopped → s.queue.jobs = []) ∧
      (s.worker.cancelled = false → s.worker.stats.dropped = 0) := by
  refine ⟨h.sent_eq, h.stats_eq, ?_, ?_, fun hs => (h.orderly.stopped hs).2.1,
    fun hc => (h.unforced hc).dropped⟩
  · have hn : (sent trace).length = s.queue.jobs.length + (fates trace).count .executed +
        (fates trace).count .superseded + (fates trace).count .dropped := by
      have hl := length_eq_count (fates trace)
      rw [length_fates] at hl
      rw [h.sent_eq, List.length_append]
      omega
    rw [hn, h.stats_eq, UInt64.ofNat_add, UInt64.ofNat_add, UInt64.ofNat_add]
  · rintro ⟨before, e, after⟩ ht hn
    obtain ⟨left, right, rfl⟩ := List.append_of_mem ht
    obtain ⟨-, he, ha, -⟩ := h.step_of_mem rfl
    obtain rfl : after = before.apply e := ha
    exact Rig.refused he hn

/-- A worker that is cancelled while two jobs are queued: the release of an unknown pulse is
superseded, and a press is dropped. The press that comes after the queue was closed is refused. -/
theorem jobs_accounted_cancelled :
    let k : ButtonKey := ⟨1, 1⟩
    let c : ButtonKey := ⟨1, 2⟩
    let start := Rig.start {} { joystick := Joystick.ofAvailable [1] }
    let events : List Event := [.enqueue ⟨k, .pulse 50⟩, .execute {}, .expire k,
      .enqueue (.ending c 7), .enqueue ⟨c, .press⟩, .execute {}, .cancel, .leave, .disarm k,
      .close, .enqueue ⟨c, .press⟩, .flush {}, .flush {}, .stop]
    let s := start.follow events
    s.worker.stats = ⟨2, 1, 1⟩ ∧
      UInt64.ofNat (sent (traceOf start events)).length = .ofNat s.queue.jobs.length +
        s.worker.stats.executed + s.worker.stats.superseded + s.worker.stats.dropped ∧
      s.queue.jobs = [] ∧
      ∃ t ∈ traceOf start events, t.sent? = none ∧ t.Refused := by
  intro k c start events s
  obtain ⟨-, hs, hn, hr, hj, -⟩ := jobs_accounted (@run_follow start events (by decide +kernel))
  refine ⟨hs.trans (by decide +kernel), hn, hj (by decide +kernel), ?_⟩
  have hm : (traceOf start events)[10] ∈ traceOf start events := List.getElem_mem _
  exact ⟨_, hm, by decide +kernel, hr _ hm (by decide +kernel)⟩

end ControlDeck.Dispatch
