import ControlDeck.Proofs.Steps

/-!
# What a worker does by itself

The operations of a worker, step by step: where nothing else comes between, they are runs of a rig.

- **Reaching** (`Rig.Reaches`): some run of given steps leads from one rig to a rig with a given
  property. A worker takes only steps of its own (`Event.InTurn`).
- **Running** (`reaches_run`): the worker executes what is queued, and leaves its loop if it is
  cancelled or has no sender.
- **Expiring** (`reaches_expireDue`): every timer that is due expires.
- **Cleaning up** (`reaches_drain`): the worker disarms all timers, closes and flushes its queue,
  deals with the buttons whose pulse it cut short, and stops.
- **A turn** (`reaches_turn`): the worker runs, and cleans up if it leaves its loop.
-/

namespace ControlDeck.Dispatch

open Device

/-- The steps that a worker takes in a turn. -/
def Event.InTurn (now : Moment) : Event → Prop
  | .execute moment | .flush moment => moment = now
  | .leave | .disarm _ | .close | .release | .stop => True
  | .enqueue _ | .expire _ | .cancel | .dropSender | .outside _ => False

namespace Rig

/-- Some run of given steps leads to a rig with a property. -/
def Reaches (steps : Event → Prop) (s : Rig) (P : Rig → Prop) : Prop :=
  ∃ trace u, Run s trace u ∧ (∀ t ∈ trace, steps t.event) ∧ P u

variable {s : Rig} {steps : Event → Prop} {P Q : Rig → Prop} {e : Event} {now : Moment}

theorem Reaches.refl (h : P s) : s.Reaches steps P :=
  ⟨[], s, .nil, fun _ ht => absurd ht List.not_mem_nil, h⟩

theorem Reaches.step (he : s.Enabled e) (hs : steps e) (h : (s.apply e).Reaches steps P) :
    s.Reaches steps P := by
  obtain ⟨trace, u, hr, ht, hp⟩ := h
  exact ⟨_, u, (Run.single he).append hr, List.forall_mem_cons.mpr ⟨hs, ht⟩, hp⟩

theorem Reaches.bind (h : s.Reaches steps P) (hq : ∀ u, P u → u.Reaches steps Q) :
    s.Reaches steps Q := by
  obtain ⟨trace, u, hr, ht, hp⟩ := h
  obtain ⟨trace', v, hr', ht', hq⟩ := hq u hp
  exact ⟨_, v, hr.append hr', List.forall_mem_append.mpr ⟨ht, ht'⟩, hq⟩

/-! ## Running -/

/-- A running worker executes the next jobs. -/
theorem reaches_executeMany (now : Moment) (count : Nat) (hp : s.phase = .running)
    (hc : s.worker.cancelled = false) :
    s.Reaches (Event.InTurn now) (· = s.put (s.worker.executeMany s.backend now count).value) := by
  induction count generalizing s with
  | zero => exact .refl rfl
  | succ count ih =>
    cases hj : s.queue.jobs with
    | nil =>
      have hn : (s.worker.executeNext s.backend now).value = (s.worker, s.backend) := by
        simp only [Worker.executeNext, Queue.take?, hj, Logged.value_pure]
      simp only [Worker.executeMany, Logged.value_bind, hn]
      exact ih hp hc
    | cons job rest =>
      have he : s.Enabled (.execute now) := ⟨hp, hc, by rw [hj]; exact List.cons_ne_nil _ _⟩
      have hf := (s.take_spec now (.inl rfl)).1
      exact .step he rfl (ih (hf.phase.trans hp) (hf.cancelled.trans hc))

/-- The worker runs until it has to wait, or leaves its loop. -/
theorem reaches_run (now : Moment) (hp : s.phase = .running) :
    s.Reaches (Event.InTurn now) fun u =>
      (u.worker, u.backend) = (s.worker.run s.backend now).value ∧ u.cut = s.cut ∧
        u.queue.isOpen = s.queue.isOpen ∧
        (u.phase = .running ∨ u.phase = .draining ∧ u.unvisited = u.tracker.entries.keys) := by
  cases hc : s.worker.cancelled with
  | true =>
    have he : s.Enabled .leave := ⟨hp, .inl hc⟩
    refine .step he True.intro (.refl ⟨?_, rfl, rfl, .inr ⟨rfl, rfl⟩⟩)
    simp only [Worker.run, hc, ↓reduceIte, Logged.value_bind, Logged.value_pure]
    rfl
  | false =>
    refine (reaches_executeMany now s.queue.jobs.length hp hc).bind ?_
    rintro _ rfl
    have hm := s.worker.executeMany_value s.backend now
    obtain ⟨hq, hp', -⟩ := Worker.executeAll_frame now
      (s.worker.setQueue { s.queue with jobs := [] }, s.backend) s.queue.jobs
    rw [← hm] at hq hp'
    have hjobs := congrArg Queue.jobs hq
    have hopen := congrArg Queue.isOpen hq
    have hsender := congrArg Queue.hasSender hq
    change _ = [] at hjobs
    change _ = s.queue.isOpen at hopen
    change _ = s.queue.hasSender at hsender
    have hv : (s.worker.run s.backend now).value =
        if s.queue.hasSender then (s.worker.executeMany s.backend now s.queue.jobs.length).value
        else ((s.worker.executeMany s.backend now s.queue.jobs.length).value.1.leave.value,
          (s.worker.executeMany s.backend now s.queue.jobs.length).value.2) := by
      simp only [Worker.run, hc, Bool.false_eq_true, ↓reduceIte, Logged.value_bind,
        Logged.value_ite, Logged.value_pure, hsender]
    generalize (s.worker.executeMany s.backend now s.queue.jobs.length).value = r at *
    rw [hv]
    cases hs : s.queue.hasSender with
    | true => exact .refl ⟨rfl, rfl, hopen, .inl (hp'.trans hp)⟩
    | false =>
      have he : (s.put r).Enabled .leave :=
        ⟨hp'.trans hp, .inr ⟨hjobs, hsender.trans hs⟩⟩
      exact .step he True.intro (.refl ⟨rfl, rfl, hopen, .inr ⟨rfl, rfl⟩⟩)

/-! ## Expiring -/

/-- Armed timers of different buttons expire one after the other. -/
theorem reaches_expire (due : List (ButtonKey × Timer)) (hn : (due.map (·.1)).Nodup)
    (ha : ∀ x ∈ due, s.tracker.isArmed x.1 = true) :
    s.Reaches (∃ k, · = .expire k) (· =
      let r := due.foldl (fun r x => (r.1.expire r.2 x.1).value) (s.tracker, s.queue)
      { s with worker := { s.worker with tracker := r.1, queue := r.2 } }) := by
  induction due generalizing s with
  | nil => exact .refl rfl
  | cons x due ih =>
    rw [List.map_cons, List.nodup_cons] at hn
    refine .step (e := .expire x.1) (ha x List.mem_cons_self) ⟨x.1, rfl⟩ (ih hn.2 fun y hy => ?_)
    have hk : y.1 ≠ x.1 := by
      intro he
      exact hn.1 (he ▸ List.mem_map_of_mem hy)
    refine (Tracker.isArmed_expire ..).trans ?_
    rw [beq_eq_false_iff_ne.mpr hk, ha y (List.mem_cons_of_mem _ hy)]
    rfl

/-- Every timer that is due expires. -/
theorem reaches_expireDue (s : Rig) (now : Nat) :
    s.Reaches (∃ k, · = .expire k) (· = { s with worker := (s.worker.expireDue now).value }) := by
  have hv : (s.worker.expireDue now).value =
      let r := (s.tracker.due now).foldl (fun r x => (r.1.expire r.2 x.1).value)
        (s.tracker, s.queue)
      { s.worker with tracker := r.1, queue := r.2 } := by
    simp only [Worker.expireDue, Tracker.expireDue, Logged.value_bind, Logged.value_foldlM,
      Logged.value_pure]
  rw [hv]
  refine reaches_expire _ (s.tracker.nodup_map_due now) fun x hx => ?_
  have hm := (s.tracker.due_perm now).mem_iff.mp hx
  exact Tracker.mem_map_armed.mp (List.mem_map_of_mem (List.mem_filter.mp hm).1)

/-! ## Cleaning up -/

/-- The rig after the last timers were disarmed, those of `keys`. -/
def disarmAll (s : Rig) (keys : List ButtonKey) : Rig :=
  { s with
    worker := { s.worker with tracker := keys.foldl Tracker.cancel s.tracker }
    unvisited := []
    cut := keys.reverse ++ s.cut }

theorem disarmAll_apply (s : Rig) (k : ButtonKey) (keys : List ButtonKey) :
    (s.apply (.disarm k)).disarmAll keys =
      s.disarmAll (if s.tracker.isArmed k then k :: keys else keys) := by
  unfold disarmAll apply
  cases ha : s.tracker.isArmed k with
  | true => simp [ha]
  | false => simp [ha, Tracker.cancel_of_not_isArmed ha]

/-- The worker visits the buttons one by one and disarms those timers that are armed. -/
theorem reaches_disarm {keys : List ButtonKey} (hn : keys.Nodup) (hp : s.phase = .draining)
    (hu : s.unvisited = keys) :
    s.Reaches (Event.InTurn now) (· = s.disarmAll (keys.filter s.tracker.isArmed)) := by
  induction keys generalizing s with
  | nil =>
    obtain ⟨w, b, unvisited, cut⟩ := s
    obtain rfl : unvisited = [] := hu
    exact .refl rfl
  | cons k keys ih =>
    rw [List.nodup_cons] at hn
    have he : s.Enabled (.disarm k) := ⟨hp, hu ▸ List.mem_cons_self⟩
    have hu' : (s.apply (.disarm k)).unvisited = keys := by
      show s.unvisited.erase k = keys
      rw [hu, List.erase_cons_head]
    -- no other timer is touched, so that the rest of the list is filtered as before
    have hf : keys.filter (s.apply (.disarm k)).tracker.isArmed =
        keys.filter s.tracker.isArmed := by
      refine List.filter_congr fun c hc => (Tracker.isArmed_cancel ..).trans ?_
      have hk : c ≠ k := by
        rintro rfl
        exact hn.1 hc
      rw [beq_eq_false_iff_ne.mpr hk]
      rfl
    have hr := ih hn.2 (s := s.apply (.disarm k)) hp hu'
    rw [hf, disarmAll_apply] at hr
    rw [List.filter_cons]
    exact .step he True.intro hr

/-- Dealing with a job that is still queued does not depend on what else is queued. -/
theorem flush_setQueue (w : Worker) (q : Queue) (b : Backend) (now : Moment) (job : Job) :
    (Worker.flush now (w.setQueue q, b) job).value =
      ((Worker.flush now (w, b) job).value.1.setQueue q,
        (Worker.flush now (w, b) job).value.2) := by
  by_cases hm : job.mode = .release
  · simp only [Worker.flush, hm, ↓reduceIte]
    exact Worker.execute_setQueue ..
  · simp only [Worker.flush, hm, ↓reduceIte]
    rfl

/-- The queue of a worker that cleans up is closed and empty. -/
structure Flushed (s : Rig) : Prop where
  draining : s.phase = .draining
  closed : s.queue.isOpen = false
  empty : s.queue.jobs = []

/-- The worker deals with all jobs that are still queued. -/
theorem reaches_flush (now : Moment) {jobs : List Job} (hp : s.phase = .draining)
    (ho : s.queue.isOpen = false) (hj : s.queue.jobs = jobs) :
    s.Reaches (Event.InTurn now) fun u =>
      u = s.put (jobs.foldl (fun r job => (Worker.flush now r job).value)
        (s.worker.setQueue { s.queue with jobs := [] }, s.backend)) ∧ u.Flushed := by
  induction jobs generalizing s with
  | nil =>
    refine .refl ⟨?_, hp, ho, hj⟩
    rw [List.foldl_nil, ← hj]
    rfl
  | cons job rest ih =>
    have he : s.Enabled (.flush now) := ⟨hp, ho, by rw [hj]; exact List.cons_ne_nil _ _⟩
    have ha : s.apply (.flush now) = s.put (Worker.flush now
        (s.worker.setQueue { s.queue with jobs := rest }, s.backend) job).value := by
      simp only [apply, Queue.take?, hj]
    have hf := (s.take_spec now (.inr rfl)).1
    have hq : (s.apply (.flush now)).queue = { s.queue with jobs := rest } := by
      rw [ha, flush_setQueue]
      rfl
    have hr := ih (hf.phase.trans hp) (hf.isOpen.trans ho) (congrArg Queue.jobs hq)
    rw [hq, ha, flush_setQueue] at hr
    refine .step he rfl ?_
    rw [List.foldl_cons, ha, flush_setQueue, flush_setQueue]
    exact hr

/-- The worker releases every button whose pulse it cut short. -/
theorem reaches_release {keys : List ButtonKey} (hf : s.Flushed)
    (hr : s.worker.settings.releaseOnShutdown = true) (hc : s.cut = keys) :
    s.Reaches (Event.InTurn now) fun u =>
      u = { s.put (keys.foldl (fun r k => (Worker.releaseHeld r k).value)
        (s.worker, s.backend)) with cut := [] } ∧ u.Flushed := by
  induction keys generalizing s with
  | nil =>
    obtain ⟨w, b, unvisited, cut⟩ := s
    obtain rfl : cut = [] := hc
    exact .refl ⟨rfl, hf⟩
  | cons k rest ih =>
    have he : s.Enabled .release :=
      ⟨hf.draining, hf.closed, hf.empty, hr, by rw [hc]; exact List.cons_ne_nil _ _⟩
    have ha : s.apply .release =
        { s.put (Worker.releaseHeld (s.worker, s.backend) k).value with cut := rest } := by
      simp only [apply, hc]
    refine .step he True.intro ?_
    rw [ha]
    exact ih (s := { s.put (Worker.releaseHeld (s.worker, s.backend) k).value with cut := rest })
      ⟨hf.draining, hf.closed, hf.empty⟩ hr rfl

theorem settleHeld_value (w : Worker) (b : Backend) (keys : List ButtonKey) :
    (w.settleHeld b keys).value =
      if w.settings.releaseOnShutdown then
        keys.foldl (fun r k => (Worker.releaseHeld r k).value) (w, b)
      else (w, b) := by
  simp only [Worker.settleHeld, Logged.value_ite, Logged.value_foldlM, Logged.value_bind,
    Logged.value_pure, ite_self]

/-- The worker deals with what it cut short as its settings say, and stops. -/
theorem reaches_stop (hf : s.Flushed) :
    s.Reaches (Event.InTurn now) fun u => (u.worker, u.backend) =
      let r := (s.worker.settleHeld s.backend s.cut).value
      let r := (r.1.feed r.2 Feeder.relinquishAll).value
      ({ r.1 with phase := .stopped }, r.2) := by
  cases hr : s.worker.settings.releaseOnShutdown with
  | true =>
    refine (reaches_release hf hr rfl).bind ?_
    rintro u ⟨hu, hf⟩
    have hc : u.cut = [] := by rw [hu]
    refine .step (e := .stop) ⟨hf.draining, hf.closed, hf.empty, fun _ => hc⟩
      True.intro (.refl ?_)
    rw [hu, settleHeld_value, if_pos hr]
    rfl
  | false =>
    have he : s.Enabled .stop :=
      ⟨hf.draining, hf.closed, hf.empty, fun h => absurd (hr.symm.trans h) nofun⟩
    refine .step he True.intro (.refl ?_)
    rw [settleHeld_value, if_neg (Bool.eq_false_iff.mp hr)]
    rfl

/-- A worker that has left its loop cleans up: it disarms its timers, closes and flushes its queue,
deals with what it cut short, and stops. -/
theorem reaches_drain (now : Moment) (hp : s.phase = .draining) (hc : s.cut = [])
    (hu : s.unvisited = s.tracker.entries.keys) (ho : s.queue.isOpen = true) :
    s.Reaches (Event.InTurn now) fun u =>
      (u.worker, u.backend) = (s.worker.drain s.backend now).value := by
  refine (reaches_disarm Std.TreeMap.nodup_keys hp hu).bind ?_
  rintro _ rfl
  rw [Tracker.filter_keys_isArmed]
  refine .step (e := .close) ⟨hp, ho, rfl⟩ True.intro ?_
  generalize hm : (s.disarmAll (s.tracker.armed.map (·.1))).apply .close = m
  have hpm : m.phase = .draining := hm ▸ hp
  have hom : m.queue.isOpen = false := hm ▸ rfl
  refine (reaches_flush now hpm hom rfl).bind ?_
  rintro u ⟨hu, hf⟩
  refine (reaches_stop hf).bind fun v hv => .refl (hv.trans ?_)
  have hcut : u.cut = s.tracker.armed.map (·.1) := by
    rw [hu, ← hm]
    refine Tracker.mergeSort_of_perm_armed ?_
    show ((s.tracker.armed.map (·.1)).reverse ++ s.cut).Perm _
    rw [hc, List.append_nil]
    exact List.reverse_perm _
  rw [hcut, hu, ← hm]
  simp only [Worker.drain, Logged.value_bind, Logged.value_foldlM, Logged.value_pure]
  rfl

/-! ## A turn -/

/-- Between its turns a worker runs, and nobody has closed its queue, or it has stopped. -/
def Settled (s : Rig) : Prop :=
  s.phase = .running ∧ s.queue.isOpen = true ∧ s.cut = [] ∨ s.phase = .stopped

theorem drain_phase (w : Worker) (b : Backend) (now : Moment) :
    (w.drain b now).value.1.phase = .stopped := by
  simp only [Worker.drain, Logged.value_bind, Logged.value_pure]

/-- A worker that runs has its turn. -/
theorem reaches_turn (now : Moment) (h : s.Settled) (hp : s.phase = .running) :
    s.Reaches (Event.InTurn now) fun u =>
      (u.worker, u.backend) = s.worker.turn s.backend now ∧ u.Settled := by
  obtain ⟨-, ho, hc⟩ := h.resolve_right (by rw [hp]; exact nofun)
  have ht : s.worker.turn s.backend now = _ := if_pos hp
  refine (reaches_run now hp).bind ?_
  rintro u ⟨hu, hcu, hopen, hr | ⟨hd, hv⟩⟩
  · have hn : ¬ u.worker.phase = .draining := by
      rw [show u.worker.phase = .running from hr]
      exact nofun
    rw [ht, ← hu]
    dsimp only
    rw [if_neg hn]
    exact .refl ⟨rfl, .inl ⟨hr, hopen.trans ho, hcu.trans hc⟩⟩
  · rw [ht, ← hu]
    dsimp only
    rw [if_pos hd]
    refine (reaches_drain now hd (hcu.trans hc) hv (hopen.trans ho)).bind fun v hv => ?_
    exact .refl ⟨hv, .inr ((congrArg (·.1.phase) hv).trans (drain_phase ..))⟩

end Rig

end ControlDeck.Dispatch
