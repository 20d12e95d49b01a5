import ControlDeck.Proofs.Accounts
import ControlDeck.Proofs.Cells
import Mathlib.Data.List.Induction

/-!
# Jobs in the order of the queue

What a running worker does to the buttons while it executes jobs, none of which is the release that
a timer queued: it acts as a plain map from buttons to states would.

- **Actions** (`Action.leaves`): a press and a pulse leave the button down, a release leaves it up,
  and a toggle leaves it as it was not before.
- **Plain writes** (`plainWrites`): one write for each job whose device is listed and whose button
  exists, in the order of the jobs. `replay_plainWrites` reads one button off its own jobs.
- `jobs_act_in_order`: these are the writes that the journal gains in any run, and the buttons are
  as they say.
-/

namespace ControlDeck.Dispatch

open Device

/-! ## Plain writes -/

/-- The state in which an action leaves its button. -/
def Action.leaves (down : Bool) : Action → Bool
  | .press | .pulse _ => true
  | .release | .pulseRelease _ => false
  | .toggle => !down

/-- A button that can be fed: its device is listed, and it is one of the buttons of a device. -/
def Fits (devices : List UInt32) (k : ButtonKey) : Prop :=
  k.device ∈ devices ∧ 1 ≤ k.button.toNat ∧ k.button.toNat ≤ 128

instance (devices : List UInt32) (k : ButtonKey) : Decidable (Fits devices k) :=
  inferInstanceAs (Decidable (_ ∧ _ ∧ _))

/-- The writes of a list of jobs: each job whose button can be fed writes what its action makes of
the state that the writes before it left. -/
def plainWrites (devices : List UInt32) (state : ButtonKey → Bool) (jobs : List Job) :
    List (ButtonKey × Bool) :=
  jobs.foldl (fun ws job =>
    if Fits devices job.key then
      ws ++ [(job.key, job.action.leaves (replay state ws job.key))]
    else ws) []

section

variable {devices : List UInt32} {state : ButtonKey → Bool}

theorem canFeed_ofAvailable (devices : List UInt32) (k : ButtonKey) :
    (Joystick.ofAvailable devices).canFeed k = decide (Fits devices k) := by
  rw [Bool.eq_iff_iff, decide_eq_true_iff, Joystick.canFeed, Bool.and_eq_true, Bank.hasButton_iff]
  exact and_congr_left' (Bool.eq_iff_iff.mp Std.TreeSet.contains_ofList |>.trans
    List.contains_iff_mem)

theorem plainWrites_snoc (jobs : List Job) (job : Job) :
    plainWrites devices state (jobs ++ [job]) =
      plainWrites devices state jobs ++
        if Fits devices job.key then
          [(job.key, job.action.leaves (replay state (plainWrites devices state jobs) job.key))]
        else [] := by
  unfold plainWrites
  rw [List.foldl_append]
  simp only [List.foldl_cons, List.foldl_nil]
  split
  · rfl
  · exact (List.append_nil _).symm

/-- One write for each job that can be carried out, in the order of the jobs. -/
theorem map_fst_plainWrites (jobs : List Job) :
    (plainWrites devices state jobs).map (·.1) =
      (jobs.filter fun job => Fits devices job.key).map (·.key) := by
  induction jobs using List.reverseRecOn with
  | nil => rfl
  | append_singleton jobs job ih =>
    rw [plainWrites_snoc, List.map_append, ih, List.filter_append, List.map_append]
    congr 1
    by_cases hf : Fits devices job.key <;> simp [hf]

/-- The state of a button depends on its own jobs alone. -/
theorem replay_plainWrites (jobs : List Job) {k : ButtonKey} (hk : Fits devices k) :
    replay state (plainWrites devices state jobs) k =
      (jobs.filter (·.key = k)).foldl (fun down job => job.action.leaves down) (state k) := by
  induction jobs using List.reverseRecOn with
  | nil => rfl
  | append_singleton jobs job ih =>
    rw [plainWrites_snoc, replay_append, List.filter_append, List.foldl_append, ← ih]
    by_cases hj : job.key = k
    · subst hj
      rw [if_pos hk, replay_singleton, if_pos rfl, List.filter_cons_of_pos (by simp)]
      rfl
    · rw [List.filter_cons_of_neg (by simpa using hj), List.filter_nil, List.foldl_nil]
      split
      · rw [replay_singleton, if_neg (Ne.symm hj)]
      · rfl

/-- Toggles of a button turn it over if their number is odd. -/
theorem foldl_toggle {jobs : List Job} (h : ∀ job ∈ jobs, job.action = .toggle) (down : Bool) :
    jobs.foldl (fun down job => job.action.leaves down) down =
      (down ^^ decide (jobs.length % 2 = 1)) := by
  induction jobs generalizing down with
  | nil => exact (Bool.xor_false down).symm
  | cons job jobs ih =>
    rw [List.forall_mem_cons] at h
    have hn : decide ((jobs.length + 1) % 2 = 1) = !decide (jobs.length % 2 = 1) := by
      rw [← decide_not, decide_eq_decide]
      omega
    rw [List.foldl_cons, ih h.2, h.1, List.length_cons, hn]
    cases down <;> simp [Action.leaves]

end

/-! ## One step of a running worker -/

namespace Rig

variable {s : Rig} {e : Event}

/-- A worker that runs after a step was running before it. -/
theorem running_of_apply (h : (s.apply e).phase = .running) : s.phase = .running := by
  rw [phase_apply] at h
  cases e with
  | leave | stop => cases h
  | _ => exact h

/-- While the worker runs, the writes of a step are those of the job that it takes. -/
theorem writesOf_of_running (he : s.Enabled e) (hr : s.phase = .running) :
    s.writesOf e = (Transition.taken? ⟨s, e, s.apply e⟩).elim [] s.jobWrites := by
  cases e with
  | execute now =>
    obtain ⟨job, rest, hj⟩ := List.exists_cons_of_ne_nil he.2.2
    simp [writesOf, Transition.taken?, hj]
  | flush | release => rw [he.1] at hr; cases hr
  | _ => rfl

/-- A job that is not the release of a timer writes what its action makes of the button. -/
theorem jobWrites_of_untagged {job : Job} (hu : job.generation? = none) :
    s.jobWrites job =
      if s.joystick.canFeed job.key then
        [(job.key, job.action.leaves (s.joystick.isPressed job.key))]
      else [] := by
  obtain ⟨k, action⟩ := job
  cases action with
  | pulseRelease => cases hu
  | _ => rfl

/-- Such a job counts as executed. -/
theorem fate_of_untagged {w : Worker} {job : Job} (hu : job.generation? = none) :
    w.fate job = .executed := by
  obtain ⟨k, action⟩ := job
  cases action with
  | pulseRelease => cases hu
  | _ => rfl

/-- While the worker runs, every job that it takes counts as executed, unless it is the release of a
timer. -/
theorem executed_apply (he : s.Enabled e) (hr : s.phase = .running)
    (hu : ∀ job, Transition.taken? ⟨s, e, s.apply e⟩ = some job → job.generation? = none) :
    (s.apply e).worker.stats.executed = s.worker.stats.executed +
      .ofNat (Transition.taken? ⟨s, e, s.apply e⟩).toList.length := by
  rw [stats_apply he]
  cases e with
  | execute now =>
    obtain ⟨job, rest, hj⟩ := List.exists_cons_of_ne_nil he.2.2
    have ht : Transition.taken? ⟨s, .execute now, s.apply (.execute now)⟩ = some job := by
      simp [Transition.taken?, hj]
    rw [Transition.fate?, ht, Option.map_some, Option.elim_some, fate_of_untagged (hu job ht)]
    rfl
  | flush => rw [he.1] at hr; cases hr
  | _ => exact (UInt64.add_zero _).symm

end Rig

/-! ## Runs -/

namespace Run

variable {devices : List UInt32} {trace burst : List Transition} {s u : Rig}

/-- The writes of a running worker are the plain writes of the jobs that it takes. -/
theorem writes_eq_plainWrites (h : Run s burst u) (ho : Own burst) (hs : s.Solo)
    (hd : ∀ k, s.joystick.canFeed k = decide (Fits devices k)) (hr : u.phase = .running)
    (hu : ∀ job ∈ taken burst, job.generation? = none) :
    burst.flatMap (·.writes) = plainWrites devices s.joystick.isPressed (taken burst) := by
  induction h with
  | nil => rfl
  | @snoc burst m e hb he ih =>
    have hob : Own burst := fun t ht => ho t (List.mem_append_left _ ht)
    have hoe : e.isOwn = true := ho _ (List.mem_append_right _ (List.mem_singleton_self _))
    have hrm := Rig.running_of_apply hr
    unfold taken at hu ih ⊢
    rw [filterMap_snoc] at hu ⊢
    rw [List.forall_mem_append] at hu
    obtain ⟨hm, hw⟩ := hb.wrote hs hob
    have hi := ih hob hrm hu.1
    rw [List.flatMap_append, List.flatMap_singleton, Rig.writes_eq hm he hoe, hi,
      Rig.writesOf_of_running he hrm]
    cases ht : Transition.taken? ⟨m, e, m.apply e⟩ with
    | none => rw [Option.toList_none, List.append_nil]; exact List.append_nil _
    | some job =>
      have hj : job.generation? = none := hu.2 job (by simp [ht])
      rw [Option.elim_some, Rig.jobWrites_of_untagged hj, Option.toList_some, plainWrites_snoc,
        hw.canFeed, hd, hw.pressed, hi]
      simp only [decide_eq_true_eq]

/-- Every job that a running worker takes counts as executed, unless it is the release of a
timer. -/
theorem executed_eq (h : Run s burst u) (hr : u.phase = .running)
    (hu : ∀ job ∈ taken burst, job.generation? = none) :
    u.worker.stats.executed = s.worker.stats.executed + .ofNat (taken burst).length := by
  induction h with
  | nil => exact (UInt64.add_zero _).symm
  | @snoc burst m e hb he ih =>
    have hrm := Rig.running_of_apply hr
    unfold taken at hu ih ⊢
    rw [filterMap_snoc] at hu ⊢
    rw [List.forall_mem_append] at hu
    rw [Rig.executed_apply he hrm fun job ht => hu.2 job (by simp [ht]), ih hrm hu.1,
      List.length_append, UInt64.ofNat_add, UInt64.add_assoc]

end Run

/-- A worker that has had a fresh joystick for itself, with any history, goes on running, and the
jobs that it takes meanwhile are not releases of timers. Then the journal gains exactly one write
for each of these jobs whose device is available and whose button exists, in their order: down for a
press and a pulse, up for a release, and for a toggle the opposite of what the writes before it
left. The buttons are as these writes say, those without a write as they were, and each job counts
as executed. A button that is only toggled is turned over if the number of its toggles is odd. -/
theorem jobs_act_in_order {settings : Settings} {devices : List UInt32}
    {trace burst : List Transition} {s u : Rig}
    (h : Run (Rig.start settings { joystick := Joystick.ofAvailable devices }) trace s)
    (hb : Run s burst u) (ho : Own (trace ++ burst)) (hr : u.phase = .running)
    (hu : ∀ job ∈ taken burst, job.generation? = none) :
    let jobs := taken burst
    let ws := plainWrites devices s.joystick.isPressed jobs
    u.joystick.buttonWrites = s.joystick.buttonWrites ++ ws ∧
      ws.map (·.1) = (jobs.filter fun job => Fits devices job.key).map (·.key) ∧
      u.joystick.isPressed = replay s.joystick.isPressed ws ∧
      (∀ k, k ∉ ws.map (·.1) → u.joystick.isPressed k = s.joystick.isPressed k) ∧
      u.worker.stats.executed = s.worker.stats.executed + .ofNat jobs.length ∧
      ∀ k, Fits devices k → (∀ job ∈ jobs, job.key = k → job.action = .toggle) →
        u.joystick.isPressed k =
          (s.joystick.isPressed k ^^ decide ((jobs.filter (·.key = k)).length % 2 = 1)) := by
  intro jobs ws
  unfold Own at ho
  rw [List.forall_mem_append] at ho
  obtain ⟨hs, hw⟩ := h.wrote (Rig.solo_start settings devices) ho.1
  have hd : ∀ k, s.joystick.canFeed k = decide (Fits devices k) := fun k =>
    (hw.canFeed k).trans (canFeed_ofAvailable devices k)
  have hv := (hb.wrote hs ho.2).2
  rw [hb.writes_eq_plainWrites ho.2 hs hd hr hu] at hv
  refine ⟨hv.writes, map_fst_plainWrites jobs, hv.pressed, fun k hk => ?_, hb.executed_eq hr hu,
    fun k hk ht => ?_⟩
  · rw [hv.pressed]
    exact replay_of_notMem fun down hm => hk (List.mem_map_of_mem hm)
  · rw [hv.pressed, replay_plainWrites jobs hk, foldl_toggle fun job hj => ?_]
    obtain ⟨hj, hkj⟩ := List.mem_filter.mp hj
    exact ht job hj (of_decide_eq_true hkj)

/-- Three toggles of a button among jobs on others, some of which cannot be carried out; the timer
of the first button expires meanwhile. -/
theorem jobs_act_in_order_toggled :
    let k : ButtonKey := ⟨1, 128⟩
    let c : ButtonKey := ⟨1, 1⟩
    let start := Rig.start {} { joystick := Joystick.ofAvailable [1] }
    let events : List Event := [.enqueue ⟨k, .pulse 50⟩, .execute {}]
    let more : List Event := [.enqueue ⟨k, .toggle⟩, .enqueue ⟨⟨2, 1⟩, .press⟩, .enqueue ⟨c, .press⟩,
      .enqueue ⟨k, .toggle⟩, .execute {}, .execute {}, .enqueue ⟨⟨1, 129⟩, .toggle⟩, .execute {},
      .execute {}, .enqueue ⟨k, .toggle⟩, .execute {}, .execute {}, .expire k]
    let s := start.follow events
    let u := s.follow more
    u.joystick.buttonWrites =
        s.joystick.buttonWrites ++ [(k, false), (c, true), (k, true), (k, false)] ∧
      u.worker.stats.executed = s.worker.stats.executed + 6 ∧
      u.joystick.isPressed k = (s.joystick.isPressed k ^^ true) := by
  intro k c start events more s u
  have h : Run (Rig.start {} { joystick := Joystick.ofAvailable [1] }) (traceOf start events) s :=
    run_follow (by decide +kernel)
  have hb : Run s (traceOf s more) u := run_follow (by decide +kernel)
  obtain ⟨hw, -, -, -, hx, ht⟩ := jobs_act_in_order h hb (by decide +kernel)
    (by decide +kernel) (by decide +kernel)
  exact ⟨hw.trans (by decide +kernel), hx.trans (by decide +kernel),
    (ht k (by decide) (by decide +kernel)).trans (by decide +kernel)⟩

end ControlDeck.Dispatch
