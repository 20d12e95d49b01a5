import ControlDeck.Proofs.Accounts
import ControlDeck.Proofs.Journal
import ControlDeck.Proofs.Releases
import ControlDeck.Proofs.Turns

/-!
# Cleaning up

What a worker does when it cleans up, call by call, and that nothing is left to happen after that.

- **Writes that let go** (`Joystick.LetsGo`): whatever the state of the joystick, a release writes
  at most one button, and lets go of it (`Feeder.release_letsGo`).
- **The calls** (`Worker.flushed`, `Worker.cutShort`): the queued releases that still count, and the
  buttons whose pulse is cut short. `Worker.drain_value` says that these are released in this order,
  and then all held devices are handed back.
- **Old releases** (`Run.generation_of_expired`): a timer that was armed again has left no release
  in the queue that could count.
- **After the end** (`Rig.Finished`): a worker that has cleaned up does nothing any more
  (`Finished.apply`).
- `drained_when_cancelled`: all of this for a worker that was cancelled.
-/

namespace ControlDeck

namespace Device

/-! ## Writes that let go -/

/-- On the way from one joystick to the next, the journal gained only writes that let go of a
button. -/
def Joystick.LetsGo (j next : Joystick) : Prop :=
  ∃ ws, next.buttonWrites = j.buttonWrites ++ ws ∧ ∀ w ∈ ws, w.2 = false

theorem Joystick.LetsGo.of_eq {j next : Joystick} (h : next.buttonWrites = j.buttonWrites) :
    j.LetsGo next :=
  ⟨[], by rw [h, List.append_nil], nofun⟩

theorem Joystick.LetsGo.trans {i j l : Joystick} (hi : i.LetsGo j) (hj : j.LetsGo l) :
    i.LetsGo l := by
  obtain ⟨ws, hw, hu⟩ := hi
  obtain ⟨vs, hv, hd⟩ := hj
  refine ⟨ws ++ vs, by rw [hv, hw, List.append_assoc], fun w hm => ?_⟩
  exact (List.mem_append.mp hm).elim (hu w) (hd w)

/-- A write of a button that lets go of it enters that write, or fails. -/
theorem Backend.setButton_letsGo (b : Backend) (k : ButtonKey) :
    b.joystick.LetsGo (b.setButton k false).value.2.joystick := by
  rw [Backend.setButton, Backend.value_call]
  cases b.fault? with
  | some message => exact .of_eq (congrArg Joystick.buttonWrites b.passed_joystick)
  | none =>
    simp only [Logged.value_pure]
    cases hs : b.joystick.setButton k false with
    | error e => exact .of_eq (congrArg Joystick.buttonWrites b.passed_joystick)
    | ok next =>
      obtain ⟨-, -, rfl⟩ := Joystick.setButton_eq_ok_iff.mp hs
      exact ⟨[(k, false)], Joystick.buttonWrites_feed_button .., by simp⟩

/-- Acquiring a device writes no button, even if it meets a fault. -/
theorem Backend.acquire_buttonWrites (b : Backend) (d : UInt32) :
    (b.acquire d).value.2.joystick.buttonWrites = b.joystick.buttonWrites := by
  rw [acquire, value_call]
  cases b.fault? with
  | some message => exact congrArg Joystick.buttonWrites b.passed_joystick
  | none =>
    simp only [Logged.value_bind, Logged.value_pure, Joystick.acquire, Logged.value_ite]
    cases b.joystick.available.contains d with
    | false => exact congrArg Joystick.buttonWrites b.passed_joystick
    | true =>
      cases b.joystick.isAcquired d with
      | true => rfl
      | false => exact Joystick.buttonWrites_feed_acquire b.joystick d {}

namespace Feeder

theorem ensureAcquired_buttonWrites (f : Feeder) (d : UInt32) :
    (f.ensureAcquired d).value.2.joystick.buttonWrites = f.joystick.buttonWrites := by
  unfold ensureAcquired
  split
  · rfl
  · have ha := f.backend.acquire_buttonWrites d
    simp only [Logged.value_bind]
    generalize (f.backend.acquire d).value = r at ha
    obtain ⟨_ | _, b⟩ := r <;> exact ha

theorem settle_backend (f : Feeder) (d : UInt32) (outcome : Except DeviceError Unit × Backend) :
    (f.settle d outcome).value.backend = outcome.2 := by
  obtain ⟨_ | e, b⟩ := outcome
  · rename_i e
    cases e <;> rfl
  · rfl

/-- Whatever the joystick answers, a release only lets go of buttons. -/
theorem release_letsGo (f : Feeder) (k : ButtonKey) :
    f.joystick.LetsGo (f.release k).value.joystick := by
  have ha := Joystick.LetsGo.of_eq (f.ensureAcquired_buttonWrites k.device)
  simp only [release, setButton, withDevice, Logged.value_bind, Logged.value_ite,
    Logged.value_pure]
  split
  · refine ha.trans ?_
    show Joystick.LetsGo _ (Feeder.settle ..).value.backend.joystick
    rw [settle_backend]
    exact Backend.setButton_letsGo ..
  · exact ha

/-- Releases some buttons, one after the other. -/
def releaseAll (f : Feeder) (keys : List ButtonKey) : Feeder :=
  keys.foldl (fun f k => (f.release k).value) f

theorem releaseAll_append (f : Feeder) (left right : List ButtonKey) :
    f.releaseAll (left ++ right) = (f.releaseAll left).releaseAll right :=
  List.foldl_append

theorem releaseAll_letsGo (f : Feeder) (keys : List ButtonKey) :
    f.joystick.LetsGo (f.releaseAll keys).joystick := by
  induction keys generalizing f with
  | nil => exact .of_eq rfl
  | cons k keys ih => exact (f.release_letsGo k).trans (ih (f.release k).value)

/-- Handing all devices back leaves none held. -/
theorem relinquishAll_held (f : Feeder) : f.relinquishAll.value.heldDevices = [] := by
  suffices h : ∀ (ds : List UInt32) (f : Feeder), (∀ d ∈ f.held, d ∈ ds) →
      (ds.foldlM relinquish f).value.held.toList = [] by
    refine h _ f fun d hd => ?_
    exact Std.TreeSet.mem_toList.mpr hd
  intro ds
  induction ds with
  | nil =>
    intro f hf
    refine List.eq_nil_iff_forall_not_mem.mpr fun d hd => ?_
    exact absurd (hf d (Std.TreeSet.mem_toList.mp hd)) List.not_mem_nil
  | cons d ds ih =>
    intro f hf
    rw [List.foldlM_cons]
    refine ih (f.relinquish d).value fun e he => ?_
    have hm : e ∈ f.held.erase d := he
    rw [Std.TreeSet.mem_erase] at hm
    refine (List.mem_cons.mp (hf e hm.2)).resolve_left ?_
    rintro rfl
    exact hm.1 Std.compare_self

end Feeder

end Device

namespace Dispatch

open Device

/-! ## The calls -/

/-- Whether a worker that cleans up carries out a job that is still queued: a release, unless it
claims to end a pulse and is not confirmed. -/
def Tracker.flushes (t : Tracker) (job : Job) : Bool :=
  match job.action with
  | .release => true
  | .pulseRelease generation => t.confirms job.key generation
  | _ => false

namespace Worker

/-- The buttons of the queued releases that a worker carries out when it cleans up, in order. Its
timers are disarmed before that. -/
def flushed (w : Worker) : List ButtonKey :=
  (w.queue.jobs.filter w.tracker.cancelAll.2.flushes).map (·.key)

/-- The buttons whose pulse is cut short by a worker that cleans up, and that it releases. -/
def cutShort (w : Worker) : List ButtonKey :=
  if w.settings.releaseOnShutdown then w.tracker.cancelAll.1 else []

/-- Dealing with a queued job is to release its button or not to, and to count it by its fate. -/
theorem flush_value (w : Worker) (b : Backend) (now : Moment) (job : Job) :
    let f := if w.tracker.flushes job then ((w.feeder b).release job.key).value else w.feeder b
    (flush now (w, b) job).value =
      ({ w with held := f.held, stats := w.stats.count (w.flushFate job) }, f.backend) := by
  obtain ⟨k, action⟩ := job
  unfold flush flushFate fate counts Tracker.flushes execute perform
  cases action with
  | pulseRelease g =>
    cases hg : w.tracker.confirms k g with
    | false =>
      simp only [hg]
      rfl
    | true =>
      simp only [hg]
      rfl
  | _ => rfl

theorem foldl_flush (w : Worker) (b : Backend) (now : Moment) (jobs : List Job) :
    let f := (w.feeder b).releaseAll ((jobs.filter w.tracker.flushes).map (·.key))
    jobs.foldl (fun r job => (flush now r job).value) (w, b) =
      ({ w with held := f.held, stats := (jobs.map w.flushFate).foldl Stats.count w.stats },
        f.backend) := by
  induction jobs generalizing w b with
  | nil => rfl
  | cons job jobs ih =>
    rw [List.foldl_cons, flush_value, List.filter_cons]
    dsimp only
    rw [ih]
    cases w.tracker.flushes job <;> rfl

theorem foldl_releaseHeld (w : Worker) (b : Backend) (keys : List ButtonKey) :
    let f := (w.feeder b).releaseAll keys
    keys.foldl (fun r k => (releaseHeld r k).value) (w, b) =
      ({ w with held := f.held }, f.backend) := by
  induction keys generalizing w b with
  | nil => rfl
  | cons k keys ih => exact ih (releaseHeld (w, b) k).value.1 (releaseHeld (w, b) k).value.2

theorem settleHeld_feeder (w : Worker) (b : Backend) (keys : List ButtonKey) :
    let f := (w.feeder b).releaseAll (if w.settings.releaseOnShutdown then keys else [])
    (w.settleHeld b keys).value = ({ w with held := f.held }, f.backend) := by
  rw [Rig.settleHeld_value, foldl_releaseHeld]
  cases w.settings.releaseOnShutdown <;> rfl

/-- Cleaning up is to release the buttons that the queue and the timers call for, in this order, and
then to hand all devices back. -/
theorem drain_value (w : Worker) (b : Backend) (now : Moment) :
    let v : Worker :=
      { w with
        tracker := w.tracker.cancelAll.2
        queue := { w.queue with jobs := [], isOpen := false } }
    let f := ((w.feeder b).releaseAll (w.flushed ++ w.cutShort)).relinquishAll.value
    (w.drain b now).value =
      ({ v with
          held := f.held
          phase := .stopped
          stats := (w.queue.jobs.map v.flushFate).foldl Stats.count w.stats }, f.backend) := by
  intro v f
  have hd : (w.drain b now).value =
      let r := w.queue.jobs.foldl (fun r job => (flush now r job).value) (v, b)
      let r := (r.1.settleHeld r.2 w.tracker.cancelAll.1).value
      let r := (r.1.feed r.2 Feeder.relinquishAll).value
      ({ r.1 with phase := .stopped }, r.2) := by
    unfold drain
    simp only [Logged.value_bind, Logged.value_foldlM, Logged.value_pure]
    rfl
  rw [hd, foldl_flush]
  dsimp only
  rw [settleHeld_feeder]
  unfold f flushed cutShort
  rw [Feeder.releaseAll_append]
  rfl

end Worker

/-! ## Old releases -/

/-- A job raises the generation of a button by the number of its pulses, and arms no timer without
one. -/
theorem Booking.generation_eq {w : Worker} {k : ButtonKey} {now : Moment} {job : Job}
    {ps rs : List UInt64} {known : Bool} {p : Pulses} (h : Booking w k now job ps rs known p) :
    p.generation = (w.tracker.pulses k).generation + .ofNat ps.length ∧
      (p.timer?.isSome = true → w.tracker.isArmed k = true ∨ ps ≠ []) := by
  cases h with
  | pulse length => exact ⟨rfl, fun _ => .inr (List.cons_ne_nil _ _)⟩
  | release g => exact ⟨(UInt64.add_zero _).symm, .inl⟩
  | other => exact ⟨(UInt64.add_zero _).symm, .inl⟩

section

variable {settings : Settings} {backend : Backend} {trace : List Transition} {m s : Rig}

/-- A worker that runs has run all along. -/
theorem Run.running (h : Run m trace s) (hs : s.phase = .running) : m.phase = .running := by
  refine Decidable.byContradiction fun hm => ?_
  refine h.invariant (P := fun s => s.phase ≠ .running) (fun s e hs _ => ?_) hm hs
  rw [Rig.phase_apply]
  cases e with
  | leave | stop => exact nofun
  | _ => exact hs

/-- While the worker runs, the generation of a button is the number of its pulses, and its timer is
armed only if there was one. -/
theorem Run.generation_eq (h : Run (Rig.start settings backend) trace s)
    (hs : s.phase = .running) (k : ButtonKey) :
    (s.tracker.pulses k).generation = .ofNat (pulsed k trace).length ∧
      (s.tracker.isArmed k = true → pulsed k trace ≠ []) := by
  induction h with
  | nil => exact ⟨rfl, fun ha => absurd ha Bool.false_ne_true⟩
  | @snoc trace m e hr he ih =>
    have hm : m.phase = .running := (Run.single he).running hs
    obtain ⟨hg, ha⟩ := ih hm
    suffices h : ∀ o, m.Effect e o →
        let ps := (o.performed?.bind (·.pulse? k o.tracker)).toList
        (o.tracker.pulses k).generation = (m.tracker.pulses k).generation + .ofNat ps.length ∧
          (o.tracker.isArmed k = true → m.tracker.isArmed k = true ∨ ps ≠ []) by
      obtain ⟨hg', ha'⟩ := h _ (Rig.effect he)
      rw [pulsed_snoc, List.length_append, UInt64.ofNat_add, ← hg]
      refine ⟨hg', fun hk => ?_⟩
      rcases ha' hk with hk | hn
      · exact List.append_ne_nil_of_left_ne_nil (ha hk) _
      · exact List.append_ne_nil_of_right_ne_nil _ hn
    intro o hf
    cases hf with
    | expire c hc =>
      dsimp only
      rw [Tracker.isArmed_eq, Tracker.pulses_expire]
      split
      · rename_i hk
        rw [hk]
        exact ⟨(UInt64.add_zero _).symm, fun h => absurd h Bool.false_ne_true⟩
      · exact ⟨(UInt64.add_zero _).symm, .inl⟩
    | perform job rest now hj => exact (booking m.worker k now job).generation_eq
    | disarm c hc hp => exact absurd (hp.symm.trans hm) nofun
    | _ => exact ⟨(UInt64.add_zero _).symm, .inl⟩

/-- A release that a timer sent carries the generation of one of the pulses so far. -/
theorem Run.generation_of_expired (h : Run (Rig.start settings backend) trace s)
    (hs : s.phase = .running) {t : Transition} (ht : t ∈ trace) {k : ButtonKey} {g : UInt64}
    (he : t.event = .expire k) (hg : t.sent? = some (Job.ending k g)) :
    ∃ n, g = .ofNat n ∧ 0 < n ∧ n ≤ (pulsed k trace).length := by
  obtain ⟨left, right, rfl⟩ := List.append_of_mem ht
  obtain ⟨hl, hen, ha, hr⟩ := h.step_of_mem rfl
  have hb : t.before.phase = .running := (Run.single hen).running (ha ▸ hr.running hs)
  obtain ⟨hgen, hn⟩ := hl.generation_eq hb k
  rw [he] at hen
  refine ⟨(pulsed k left).length, ?_, List.length_pos_iff.mpr (hn hen), ?_⟩
  · rw [← hgen]
    unfold Transition.sent? at hg
    rw [he] at hg
    dsimp only at hg
    split at hg
    · obtain ⟨-, -, hj⟩ := Option.map_eq_some_iff.mp hg
      simpa using hj.symm
    · cases hg
  · rw [pulsed_append, List.length_append]
    omega

/-- After all timers were disarmed, no release counts that the timer of a button sent before it was
armed again. -/
theorem Run.not_flushes_of_expired (h : Run (Rig.start settings backend) trace s)
    (hs : s.phase = .running) {k : ButtonKey} (hb : (pulsed k trace).length < UInt64.size)
    {t : Transition} (ht : t ∈ trace) {g : UInt64} (he : t.event = .expire k)
    (hg : t.sent? = some (Job.ending k g)) (ha : s.tracker.isArmed k = true) :
    s.tracker.cancelAll.2.flushes (Job.ending k g) = false := by
  refine Bool.eq_false_iff.mpr fun hc => ?_
  obtain ⟨n, rfl, hpos, hle⟩ := h.generation_of_expired hs ht he hg
  have hp := (Tracker.confirms_iff.mp hc).2
  rw [Tracker.pulses_cancelAll, if_pos ha, (h.generation_eq hs k).1] at hp
  -- the generation was raised once more, and may have wrapped around to zero
  have hn := congrArg (UInt64.toNat ∘ Pulses.generation) hp
  simp only [Function.comp_apply, UInt64.toNat_add, UInt64.toNat_ofNat', UInt64.reduceToNat] at hn
  have hlt : (pulsed k trace).length < 2 ^ 64 := hb
  omega

end

/-! ## No press -/

/-- A worker that was cancelled only lets go of buttons. -/
theorem Rig.letsGo_apply {s : Rig} {e : Event} (he : s.Enabled e) (ho : e.isOwn = true)
    (hc : s.worker.cancelled = true) : s.joystick.LetsGo (s.apply e).joystick := by
  cases e with
  | execute now => exact absurd (hc.symm.trans he.2.1) nofun
  | flush now =>
    obtain ⟨job, rest, hj⟩ := List.exists_cons_of_ne_nil he.2.2
    have ha : (s.apply (.flush now)).backend = (Worker.flush now
        (s.worker.setQueue { s.queue with jobs := rest }, s.backend) job).value.2 := by
      simp only [apply, Queue.take?, hj]
      rfl
    show s.joystick.LetsGo (s.apply (.flush now)).backend.joystick
    rw [ha, Worker.flush_value]
    dsimp only
    split
    · exact Feeder.release_letsGo ..
    · exact .of_eq rfl
  | release =>
    obtain ⟨k, rest, hk⟩ := List.exists_cons_of_ne_nil he.2.2.2.2
    rw [apply_release hk]
    exact s.feeder.release_letsGo k
  | stop => exact .of_eq s.feeder.relinquishAll_spec.1
  | outside b => cases ho
  | _ => exact .of_eq rfl

/-- From its cancellation on, a worker only lets go of buttons. -/
theorem Run.letsGo {m s : Rig} {trace : List Transition} (h : Run m trace s)
    (hc : m.worker.cancelled = true) {t : Transition} (ht : t ∈ trace)
    (ho : t.event.isOwn = true) : t.before.joystick.LetsGo t.after.joystick := by
  obtain ⟨left, right, rfl⟩ := List.append_of_mem ht
  obtain ⟨hl, he, ha, -⟩ := h.step_of_mem rfl
  rw [ha]
  refine Rig.letsGo_apply he ho (hl.invariant (P := (·.worker.cancelled = true)) ?_ hc)
  intro s e hs _
  rw [Rig.cancelled_apply]
  cases e with
  | cancel => rfl
  | _ => exact hs

/-! ## After the end -/

/-- A worker that has cleaned up: nothing is queued, armed or held, and nothing can be queued. -/
structure Rig.Finished (s : Rig) : Prop where
  stopped : s.phase = .stopped
  closed : s.queue.isOpen = false
  empty : s.queue.jobs = []
  unarmed : ∀ k, s.tracker.isArmed k = false
  idle : s.feeder.heldDevices = []

namespace Rig.Finished

variable {s u : Rig} {trace : List Transition}

/-- A worker that has cleaned up does nothing any more. -/
theorem apply {e : Event} (h : s.Finished) (he : s.Enabled e) :
    (s.apply e).Finished ∧ (e.isOwn = true → (s.apply e).backend = s.backend) := by
  cases e with
  | enqueue job =>
    rw [apply_enqueue, h.closed, h.empty]
    exact ⟨⟨h.stopped, h.closed, rfl, h.unarmed, h.idle⟩, fun _ => rfl⟩
  | expire k => exact absurd (he.symm.trans (h.unarmed k)) nofun
  | execute | leave | disarm | close | flush | release | stop =>
    exact absurd (he.1.symm.trans h.stopped) nofun
  | cancel => exact ⟨⟨h.stopped, h.closed, h.empty, h.unarmed, h.idle⟩, fun _ => rfl⟩
  | dropSender => exact ⟨⟨h.stopped, h.closed, h.empty, h.unarmed, h.idle⟩, fun _ => rfl⟩
  | outside b => exact ⟨⟨h.stopped, h.closed, h.empty, h.unarmed, h.idle⟩, nofun⟩

/-- Its queue gives every job back. -/
theorem enqueue (h : s.Finished) (job : Job) :
    (s.queue.enqueue job).value = .error (.queueClosed job) := by
  unfold Queue.enqueue Queue.send?
  rw [if_neg (Bool.eq_false_iff.mp h.closed)]
  rfl

/-- It stays so in every run. -/
theorem run (h : s.Finished) (hr : Run s trace u) : u.Finished :=
  hr.invariant (fun _ _ hs he => (hs.apply he).1) h

/-- In every run it leaves the joystick alone. -/
theorem backend_eq (h : s.Finished) (hr : Run s trace u) {t : Transition} (ht : t ∈ trace)
    (ho : t.event.isOwn = true) : t.after.backend = t.before.backend := by
  obtain ⟨left, right, rfl⟩ := List.append_of_mem ht
  obtain ⟨hl, he, ha, -⟩ := hr.step_of_mem rfl
  rw [ha]
  exact ((h.run hl).apply he).2 ho

end Rig.Finished

namespace Worker

/-- A worker has finished when it has cleaned up. -/
theorem finished_drain (w : Worker) (b : Backend) (now : Moment) {s : Rig}
    (hw : s.worker = (w.drain b now).value.1) : s.Finished := by
  rw [drain_value] at hw
  obtain ⟨v, b', unvisited, cut⟩ := s
  obtain rfl := hw
  exact ⟨rfl, rfl, rfl, fun k => w.tracker.isArmed_cancelAll k, Feeder.relinquishAll_held _⟩

theorem flushFate_eq_dropped_iff {w : Worker} {job : Job} :
    w.flushFate job = .dropped ↔ job.mode ≠ .release := by
  unfold flushFate fate
  split
  · rename_i hm
    split <;> simp [hm]
  · rename_i hm
    simp [hm]

/-- Cleaning up drops every queued job but the releases. -/
theorem dropped_drain (w : Worker) (b : Backend) (now : Moment) :
    (w.drain b now).value.1.stats.dropped =
      w.stats.dropped + .ofNat (w.queue.jobs.countP (·.mode ≠ .release)) := by
  have hn : ∀ v : Worker, (w.queue.jobs.map v.flushFate).count .dropped =
      w.queue.jobs.countP (·.mode ≠ .release) := by
    intro v
    rw [List.count, List.countP_map]
    refine List.countP_congr fun job _ => ?_
    rw [Function.comp_apply, beq_iff_eq, flushFate_eq_dropped_iff, decide_eq_true_iff]
  rw [drain_value, Stats.foldl_count]
  dsimp only
  rw [hn]

/-- A worker that is cancelled leaves its loop at once. -/
theorem run_of_cancelled {w : Worker} (hc : w.cancelled = true) (b : Backend) (now : Moment) :
    (w.run b now).value = ({ w with phase := .draining }, b) := by
  unfold run
  rw [if_pos hc]
  rfl

/-- The turn of a worker that was cancelled: it leaves its loop and cleans up. -/
theorem turn_of_cancelled {w : Worker} (hp : w.phase = .running) (hc : w.cancelled = true)
    (b : Backend) (now : Moment) :
    w.turn b now = ({ w with phase := .draining }.drain b now).value := by
  rw [turn, if_pos hp, run_of_cancelled hc]
  rfl

end Worker

/-- The rig after a worker has left its loop and cleaned up. -/
def Rig.drained (s : Rig) (now : Moment) : Rig :=
  let left := (s.worker.run s.backend now).value
  s.put (left.1.drain left.2 now).value

/-- A worker that runs and was cancelled, whatever is queued, armed or held by it, whatever else was
done to its joystick, and with fewer than `2 ^ 64` pulses of every button. When it cleans up, it
releases the buttons of the queued releases that are untagged or confirmed once all timers are
disarmed, in the order of the queue, which no release is that a timer sent before it was armed
again; then, if its settings say so, the buttons whose timer was armed, in ascending order; and then
it hands back the devices that it holds, in ascending order. It presses no button, then or in any
other run from its cancellation on, and it drops every other job that was queued. In every run after
that it has finished: its queue gives all jobs back, and it leaves the joystick alone. Cleaning up
is one step here; a timer that expires in the middle of it counts as one that expired before. -/
theorem drained_when_cancelled {settings : Settings} {backend : Backend}
    {trace : List Transition} {s : Rig} (h : Run (Rig.start settings backend) trace s)
    (hs : s.phase = .running) (hc : s.worker.cancelled = true)
    (hb : ∀ k, (pulsed k trace).length < UInt64.size) (now : Moment) :
    let tracker := s.tracker.cancelAll.2
    let queued := (s.queue.jobs.filter tracker.flushes).map (·.key)
    let armed := s.tracker.cancelAll.1
    let f := s.feeder.releaseAll (queued ++ if settings.releaseOnShutdown then armed else [])
    let d := s.drained now
    -- the calls
    (d.feeder = f.heldDevices.foldl (fun f x => (f.relinquish x).value) f ∧
      armed.Pairwise (fun a b => compare a b = .lt) ∧
      (∀ k, k ∈ armed ↔ s.tracker.isArmed k = true) ∧
      f.heldDevices.Pairwise (· < ·) ∧
      ∀ t ∈ trace, ∀ k g, t.event = .expire k → t.sent? = some (Job.ending k g) →
        s.tracker.isArmed k = true → tracker.flushes (Job.ending k g) = false) ∧
    -- no press
    (s.joystick.LetsGo d.joystick ∧
      ∀ later u, Run s later u → ∀ t ∈ later, t.event.isOwn = true →
        t.before.joystick.LetsGo t.after.joystick) ∧
    d.worker.stats.dropped =
      s.worker.stats.dropped + .ofNat (s.queue.jobs.countP (·.mode ≠ .release)) ∧
    -- after the end
    ∀ m later u, m.worker = d.worker → m.backend = d.backend → Run m later u → u.Finished ∧
      (∀ job, (u.queue.enqueue job).value = .error (.queueClosed job)) ∧
      ∀ t ∈ later, t.event.isOwn = true → t.after.backend = t.before.backend := by
  intro tracker queued armed f d
  have hd : d = s.put
      (Worker.drain { s.worker with phase := .draining } s.backend now).value := by
    unfold d Rig.drained
    rw [Worker.run_of_cancelled hc]
  have hset : s.worker.settings = settings :=
    h.invariant (P := (·.worker.settings = settings))
      (fun s e hs _ => (s.settings_apply e).trans hs) rfl
  have hf : d.feeder = f.relinquishAll.value := by
    rw [hd, Worker.drain_value]
    unfold f
    rw [← hset]
    rfl
  refine ⟨⟨?_, List.pairwise_map.mpr s.tracker.armed_ascending, fun k => Tracker.mem_map_armed, ?_,
    fun t ht k g he hg ha => h.not_flushes_of_expired hs (hb k) ht he hg ha⟩, ⟨?_, ?_⟩, ?_, ?_⟩
  · rw [hf]
    exact Logged.value_foldlM ..
  · have ho : f.heldDevices.Pairwise fun a b => compare a b = .lt := Std.TreeSet.ordered_toList
    exact ho.imp fun h => compareOfLessAndEq_eq_lt.mp h
  · show s.joystick.LetsGo d.feeder.joystick
    rw [hf]
    exact (s.feeder.releaseAll_letsGo _).trans (.of_eq f.relinquishAll_spec.1)
  · exact fun later u hr t ht ho => hr.letsGo hc ht ho
  · rw [hd]
    exact Worker.dropped_drain ..
  · intro m later u hw hb hr
    have hm : m.Finished := by
      rw [hd] at hw
      exact Worker.finished_drain _ s.backend now hw
    exact ⟨hm.run hr, (hm.run hr).enqueue, fun t ht ho => hm.backend_eq hr ht ho⟩

/-- A worker that is cancelled while the release of the first pulse of a button is queued, its
second pulse is armed, and a release and a toggle of another button are queued: the other button is
released, the pulse is cut short, and the toggle is dropped. -/
theorem drained_when_cancelled_repulsed :
    let k : ButtonKey := ⟨1, 2⟩
    let c : ButtonKey := ⟨1, 1⟩
    let start := Rig.start {} { joystick := Joystick.ofAvailable [1] }
    let events : List Event := [.enqueue ⟨k, .pulse 50⟩, .execute {}, .enqueue ⟨k, .pulse 50⟩,
      .expire k, .execute {}, .enqueue ⟨c, .release⟩, .enqueue ⟨c, .toggle⟩, .cancel]
    let s := start.follow events
    s.queue.jobs = [Job.ending k 1, ⟨c, .release⟩, ⟨c, .toggle⟩] ∧
      (s.drained {}).feeder.joystick.buttonWrites =
        s.feeder.joystick.buttonWrites ++ [(c, false), (k, false)] ∧
      (s.drained {}).worker.stats.dropped = 1 := by
  intro k c start events s
  have hr : Run start (traceOf start events) s := run_follow (by decide +kernel)
  have hp : s.phase = .running := by decide +kernel
  have hc : s.worker.cancelled = true := by decide +kernel
  have hb : ∀ k, (pulsed k (traceOf start events)).length < UInt64.size := fun k =>
    Nat.lt_of_le_of_lt (List.length_filterMap_le ..) (by decide +kernel)
  obtain ⟨⟨hf, -⟩, -, hd, -⟩ := drained_when_cancelled hr hp hc hb {}
  refine ⟨by decide +kernel, ?_, hd.trans (by decide +kernel)⟩
  rw [hf]
  decide +kernel

end Dispatch

end ControlDeck
