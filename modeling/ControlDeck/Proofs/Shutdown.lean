import ControlDeck.Proofs.Journal
import ControlDeck.Proofs.Releases

/-!
# Pulses that are held at a stop

Whether a button that was pressed by a pulse is up when the worker has stopped.

- **Owed releases** (`Rig.Owes`): a timer of the button is armed, a release of its latest pulse is
  queued, or its pulse was cut short. A stopped worker owes none (`Orderly.not_owes`).
- **Keeping the debt** (`Owes.effect`): a button that is held stays owed, except where its timer
  expires after the last sender is gone (`Transition.isLost`).
- **Nobody else releases** (`Effect.not_owed`, `Effect.up_cases`): what is not owed is not owed
  again, and only an owed release, a `release` job or a `toggle` job lets go of a button.
- **Serving a button** (`Rig.Serves`): what holds of a worker all along, from a press to its stop.
-/

namespace ControlDeck.Dispatch

open Device

/-- Whether a step is the expiry of a button's timer after the last sender is gone. -/
def Transition.isLost (k : ButtonKey) (t : Transition) : Bool :=
  match t.event with
  | .expire c => c == k && !t.before.queue.hasSender
  | _ => false

theorem Transition.isLost_iff {k : ButtonKey} {t : Transition} :
    t.isLost k = true ↔ t.event = .expire k ∧ t.before.queue.hasSender = false := by
  obtain ⟨before, e, after⟩ := t
  cases e <;> simp [isLost]

/-- Whether a job lets go of a button on purpose. -/
def Job.letsGo (k : ButtonKey) (job : Job) : Bool :=
  job.key == k && (job.action == .release || job.action == .toggle)

/-- Whether a step executes a job that lets go of a button on purpose. -/
def Transition.letsGo (k : ButtonKey) (t : Transition) : Bool := t.performed?.any (·.letsGo k)

/-! ## Owed releases -/

/-- Whether a button will still be released: by its timer, by a release that is queued for its
latest pulse, or because its pulse was cut short. -/
def Owed (t : Tracker) (jobs : List Job) (cut : List ButtonKey) (k : ButtonKey) : Prop :=
  t.isArmed k = true ∨ (∃ g, Job.ending k g ∈ jobs ∧ t.confirms k g = true) ∨ k ∈ cut

/-- What is owed stays owed while the entry of the button stays as it is, and neither a release that
is confirmed nor a cut pulse is forgotten. -/
theorem Owed.mono {t u : Tracker} {jobs jobs' : List Job} {cut cut' : List ButtonKey}
    {k : ButtonKey} (h : Owed t jobs cut k) (hk : u.isKnown k = t.isKnown k)
    (hp : u.pulses k = t.pulses k)
    (hj : ∀ g, t.confirms k g = true → Job.ending k g ∈ jobs → Job.ending k g ∈ jobs')
    (hc : k ∈ cut → k ∈ cut') : Owed u jobs' cut' k := by
  rcases h with ha | ⟨g, hm, hg⟩ | hm
  · left
    rw [Tracker.isArmed_eq, hp]
    exact ha
  · exact .inr (.inl ⟨g, hj g hg hm, (Tracker.confirms_congr hk hp g).trans hg⟩)
  · exact .inr (.inr (hc hm))

namespace Rig

variable {s : Rig} {e : Event} {o : Outcome} {k : ButtonKey}

/-- Whether a button of a rig will still be released. -/
abbrev Owes (s : Rig) (k : ButtonKey) : Prop := Owed s.tracker s.queue.jobs s.cut k

/-- A worker that releases what it cut short owes nothing once it has stopped. -/
theorem Orderly.not_owes (h : s.Orderly) (hs : s.phase = .stopped)
    (hr : s.worker.settings.releaseOnShutdown = true) : ¬ s.Owes k := by
  obtain ⟨ho, hj, hc⟩ := h.stopped hs
  rintro (ha | ⟨g, hm, -⟩ | hm)
  · exact absurd (ha.symm.trans (h.not_isArmed ho k)) nofun
  · rw [hj] at hm
    exact absurd hm List.not_mem_nil
  · rw [hc hr] at hm
    exact absurd hm List.not_mem_nil

theorem mem_jobWrites {job : Job} {down : Bool} :
    (k, down) ∈ s.jobWrites job ↔
      s.joystick.canFeed k = true ∧ job.key = k ∧
        s.worker.write? job (s.joystick.isPressed k) = some down := by
  unfold jobWrites
  split
  · rename_i hc
    simp only [Option.mem_toList, Option.map_eq_some_iff, Prod.mk.injEq]
    constructor
    · rintro ⟨d, hd, rfl, rfl⟩
      exact ⟨hc, rfl, hd⟩
    · rintro ⟨-, rfl, hd⟩
      exact ⟨down, hd, rfl, rfl⟩
  · rename_i hc
    refine iff_of_false List.not_mem_nil ?_
    rintro ⟨hf, rfl, -⟩
    exact hc hf

/-- A step writes at most one button, once, and one that can be fed. -/
theorem Effect.writes_eq_of_mem (hf : Effect s e o) {down : Bool} (h : (k, down) ∈ o.writes) :
    o.writes = [(k, down)] ∧ s.joystick.canFeed k = true := by
  cases hf with
  | perform job rest now hj =>
    obtain ⟨hc, rfl, hw⟩ := mem_jobWrites.mp h
    refine ⟨?_, hc⟩
    show s.jobWrites job = _
    rw [jobWrites, if_pos hc, hw]
    rfl
  | release c rest hr =>
    split at h
    · rename_i hc
      obtain ⟨rfl, rfl⟩ : k = c ∧ down = false := by simpa using h
      exact ⟨if_pos hc, hc⟩
    · cases h
  | _ => cases h

/-- A confirmed release lets go of its button. -/
theorem ending_mem_jobWrites {g : UInt64} (hc : s.joystick.canFeed k = true)
    (hg : s.tracker.confirms k g = true) : (k, false) ∈ s.jobWrites (Job.ending k g) :=
  mem_jobWrites.mpr ⟨hc, rfl, if_pos hg⟩

/-- An expiry that finds a sender queues the release that it owes. -/
theorem owed_expire (ha : s.tracker.isArmed k = true) (hq : s.queue.hasSender = true)
    (ho : s.queue.isOpen = true) :
    Owed (s.tracker.expire s.queue k).value.1
      (s.queue.jobs ++ if s.queue.hasSender && s.queue.isOpen then
        [Job.ending k (s.tracker.pulses k).generation] else []) s.cut k := by
  rw [hq, ho, Bool.and_true, if_pos rfl]
  refine .inr (.inl ⟨_, List.mem_append_right _ (List.mem_singleton_self _), ?_⟩)
  refine Tracker.confirms_iff.mpr ⟨?_, ?_⟩
  · rw [Tracker.isKnown_expire, Tracker.isKnown_of_isArmed ha]
  · rw [Tracker.pulses_expire, if_pos rfl]

/-- A button that nobody lets go of stays owed, unless its timer is lost. -/
theorem Owes.effect (hf : Effect s e o) (h : s.Owes k) (ho : s.Orderly)
    (hc : s.joystick.canFeed k = true) (hl : e = .expire k → s.queue.hasSender = true)
    (hw : (k, false) ∉ o.writes) : Owed o.tracker o.jobs o.cut k := by
  cases hf with
  | idle => exact h
  | send job => exact h.mono rfl rfl (fun g _ hm => List.mem_append_left _ hm) id
  | expire c he ha =>
    by_cases hk : k = c
    · subst hk
      have hopen : s.queue.isOpen = true := by
        cases hn : s.queue.isOpen with
        | true => rfl
        | false => exact (ho.not_isArmed hn k).symm.trans ha
      exact owed_expire ha (hl he) hopen
    · refine h.mono (Tracker.isKnown_expire ..) ?_ (fun g _ hm => List.mem_append_left _ hm) id
      rw [Tracker.pulses_expire, if_neg hk]
  | perform job rest now hj hm =>
    by_cases hp : ∃ length, job = ⟨k, .pulse length⟩
    · obtain ⟨length, rfl⟩ := hp
      exact .inl (Worker.isArmed_trackerAfter_pulse ..)
    · obtain ⟨hk, hp⟩ := s.worker.trackerAfter_of_ne_pulse now fun length he => hp ⟨length, he⟩
      refine h.mono hk hp (fun g hg hm' => ?_) id
      rw [hj, List.mem_cons] at hm'
      refine hm'.resolve_left ?_
      rintro rfl
      exact hw (ending_mem_jobWrites hc hg)
  | drop job rest hj hm =>
    refine h.mono rfl rfl (fun g _ hm' => ?_) id
    rw [hj, List.mem_cons] at hm'
    refine hm'.resolve_left ?_
    rintro rfl
    exact hm rfl
  | disarm c he hp =>
    by_cases hk : k = c ∧ s.tracker.isArmed c = true
    · obtain ⟨rfl, ha⟩ := hk
      refine .inr (.inr ?_)
      rw [if_pos ha]
      exact List.mem_cons_self
    · refine h.mono (Tracker.isKnown_cancel ..) ?_ (fun g _ hm => hm) fun hm => ?_
      · rw [Tracker.pulses_cancel, if_neg hk]
      · split
        · exact List.mem_cons_of_mem _ hm
        · exact hm
  | sort => exact h.mono rfl rfl (fun g _ hm => hm) List.mem_mergeSort.mpr
  | release c rest hr =>
    refine h.mono rfl rfl (fun g _ hm => hm) fun hm => ?_
    rw [hr, List.mem_cons] at hm
    refine hm.resolve_left ?_
    rintro rfl
    rw [if_pos hc] at hw
    exact hw List.mem_cons_self

/-! ## Nobody else lets go -/

/-- A pulse that is executed and presses a button arms its timer. -/
theorem Effect.isArmed_of_pulse (hf : Effect s e o) {job : Job} (hp : o.performed? = some job)
    (hm : job.mode = .pulse) (hw : (k, true) ∈ o.writes) : o.tracker.isArmed k = true := by
  cases hf with
  | perform job' rest now hj =>
    obtain ⟨-, hk, -⟩ := mem_jobWrites.mp hw
    split at hp
    · obtain rfl := Option.some.inj hp
      obtain ⟨c, action⟩ := job'
      obtain rfl : c = k := hk
      cases action with
      | pulse length => exact Worker.isArmed_trackerAfter_pulse ..
      | _ => cases hm
    · cases hp
  | _ => cases hp

/-- The entry of a button that is not armed stays as it is until the button is pressed. -/
theorem Effect.entry_eq (hf : Effect s e o) (ha : s.tracker.isArmed k = false)
    (hc : s.joystick.canFeed k = true) (hw : (k, true) ∉ o.writes) :
    o.tracker.isKnown k = s.tracker.isKnown k ∧ o.tracker.pulses k = s.tracker.pulses k := by
  cases hf with
  | expire c he hc =>
    have hk : k ≠ c := by
      rintro rfl
      exact absurd (hc.symm.trans ha) nofun
    exact ⟨Tracker.isKnown_expire .., (Tracker.pulses_expire ..).trans (if_neg hk)⟩
  | perform job rest now hj =>
    refine s.worker.trackerAfter_of_ne_pulse now fun length he => ?_
    rw [he] at hw
    exact hw (mem_jobWrites.mpr ⟨hc, rfl, rfl⟩)
  | disarm c he hp =>
    refine ⟨Tracker.isKnown_cancel .., (Tracker.pulses_cancel ..).trans (if_neg ?_)⟩
    rintro ⟨rfl, hc⟩
    exact absurd (hc.symm.trans ha) nofun
  | _ => exact ⟨rfl, rfl⟩

/-- What is not owed is not owed again until the button is pressed. -/
theorem Effect.not_owed (hf : Effect s e o) (h : ¬ s.Owes k) (hc : s.joystick.canFeed k = true)
    (hu : e.isUntagged = true) (hw : (k, true) ∉ o.writes) :
    ¬ Owed o.tracker o.jobs o.cut k := by
  have ha : s.tracker.isArmed k = false := Bool.eq_false_iff.mpr fun ha => h (.inl ha)
  obtain ⟨hk, hp⟩ := hf.entry_eq ha hc hw
  refine fun ho => h (ho.mono hk.symm hp.symm (fun g _ hm => ?_) fun hm => ?_)
  · cases hf with
    | send job he =>
      rw [List.mem_append, List.mem_singleton] at hm
      refine hm.resolve_right ?_
      rintro rfl
      rw [he] at hu
      cases hu
    | expire c he hc =>
      rw [List.mem_append] at hm
      refine hm.resolve_right fun hm => ?_
      split at hm
      · rw [List.mem_singleton] at hm
        rw [← show k = c from congrArg Job.key hm] at hc
        exact absurd (hc.symm.trans ha) nofun
      · cases hm
    | perform job rest now hj => exact hj ▸ List.mem_cons_of_mem _ hm
    | drop job rest hj => exact hj ▸ List.mem_cons_of_mem _ hm
    | _ => exact hm
  · cases hf with
    | disarm c he hp =>
      split at hm
      · rename_i hc
        refine (List.mem_cons.mp hm).resolve_left ?_
        rintro rfl
        exact absurd (hc.symm.trans ha) nofun
      · exact hm
    | sort => exact List.mem_mergeSort.mp hm
    | release c rest hr => exact hr ▸ List.mem_cons_of_mem _ hm
    | _ => exact hm

/-- Only a job that lets go of a button on purpose, or a release that is owed, lets go of it. -/
theorem Effect.up_cases (hf : Effect s e o) (ho : s.Orderly) (hw : (k, false) ∈ o.writes) :
    (∃ job, o.performed? = some job ∧ job.letsGo k = true) ∨
      s.Owes k ∧ s.tracker.isArmed k = false := by
  cases hf with
  | perform job rest now hj =>
    obtain ⟨c, action⟩ := job
    obtain ⟨-, hk, hw⟩ := mem_jobWrites.mp hw
    obtain rfl : c = k := hk
    cases action with
    | press | pulse => cases hw
    | release | toggle => exact .inl ⟨_, rfl, by simp [Job.letsGo]⟩
    | pulseRelease g =>
      right
      have hg : s.tracker.confirms c g = true := by
        simp only [Worker.write?] at hw
        split at hw
        · assumption
        · cases hw
      refine ⟨.inr (.inl ⟨g, hj ▸ List.mem_cons_self, hg⟩), ?_⟩
      rw [Tracker.isArmed_eq, (Tracker.confirms_iff.mp hg).2]
      rfl
  | release c rest hr =>
    right
    split at hw
    · obtain rfl : k = c := by simpa using hw
      have hm : k ∈ s.cut := hr ▸ List.mem_cons_self
      exact ⟨.inr (.inr hm), (ho.cut k hm).1⟩
    · cases hw
  | _ => cases hw

/-- A job that lets go of a button that is down on purpose writes so. -/
theorem Effect.up_of_letsGo (hf : Effect s e o) (hc : s.joystick.canFeed k = true)
    (hp : s.joystick.isPressed k = true) {job : Job} (hj : o.performed? = some job)
    (hg : job.letsGo k = true) : (k, false) ∈ o.writes := by
  cases hf with
  | perform job' rest now =>
    split at hj
    · obtain rfl := Option.some.inj hj
      simp only [Job.letsGo, Bool.and_eq_true, beq_iff_eq, Bool.or_eq_true] at hg
      refine mem_jobWrites.mpr ⟨hc, hg.1, ?_⟩
      rcases hg.2 with ha | ha <;> simp [Worker.write?, ha, hp]
    · cases hj
  | _ => cases hj

/-! ## One step of a worker that serves a button -/

/-- The worker is in order, has its joystick for itself, and can feed a button of it. -/
structure Serves (s : Rig) (k : ButtonKey) : Prop where
  orderly : s.Orderly
  solo : s.Solo
  canFeed : s.joystick.canFeed k = true

theorem Serves.apply (h : s.Serves k) (he : s.Enabled e) (ho : e.isOwn = true) :
    (s.apply e).Serves k where
  orderly := h.orderly.apply he
  solo := h.solo.apply he ho
  canFeed := ((h.solo.wrote he ho).canFeed k).trans h.canFeed

/-- A step that does not write a button leaves it as it is. -/
theorem Serves.isPressed_apply (h : s.Serves k) (he : s.Enabled e) (ho : e.isOwn = true)
    (hd : (k, true) ∉ s.writesOf e) (hu : (k, false) ∉ s.writesOf e) :
    (s.apply e).joystick.isPressed k = s.joystick.isPressed k := by
  rw [(h.solo.wrote he ho).pressed]
  refine replay_of_notMem fun down => ?_
  cases down
  · exact hu
  · exact hd

/-- While nobody lets go of a button on purpose, a step lets go of it only if it is owed and its
timer is not armed. -/
theorem Serves.up_notMem (h : s.Serves k) (he : s.Enabled e)
    (hg : Transition.letsGo k ⟨s, e, s.apply e⟩ = false)
    (hn : s.Owes k → s.tracker.isArmed k = true) : (k, false) ∉ s.writesOf e := by
  intro hw
  rcases (effect he).up_cases h.orderly hw with ⟨job, hj, hl⟩ | ⟨ho, ha⟩
  · rw [Transition.letsGo, show Transition.performed? ⟨s, e, s.apply e⟩ = some job from hj,
      Option.any_some, hl] at hg
    cases hg
  · exact absurd ((hn ho).symm.trans ha) nofun

/-- A timer is not armed unless it was before or its button is pressed. -/
theorem Serves.isArmed_of_apply (h : s.Serves k) (he : s.Enabled e)
    (hd : (k, true) ∉ s.writesOf e) (ha : (s.apply e).tracker.isArmed k = true) :
    s.tracker.isArmed k = true := by
  cases hn : s.tracker.isArmed k with
  | true => rfl
  | false =>
    have hp := ((effect he).entry_eq hn h.canFeed hd).2
    have ha' : (s.outcome e).tracker.isArmed k = true := ha
    rw [Tracker.isArmed_eq, hp, ← Tracker.isArmed_eq, hn] at ha'
    exact ha'

/-- After its timer is lost a button is not owed any more. -/
theorem Serves.not_owes_of_lost (h : s.Serves k) (ha : s.tracker.isArmed k = true)
    (hq : s.queue.hasSender = false) {ps rs : List UInt64} (hb : s.Books k ps rs) :
    ¬ (s.apply (.expire k)).Owes k := by
  have hj : (s.apply (.expire k)).queue.jobs = s.queue.jobs := by
    have hx : (s.apply (.expire k)).queue = _ := Tracker.expire_queue ha s.queue
    rw [hx, hq]
    exact List.append_nil _
  have ht : (s.apply (.expire k)).tracker = (s.tracker.expire s.queue k).value.1 := rfl
  unfold Owes
  rw [hj, ht]
  rintro (ha' | ⟨g, hm, hg⟩ | hm)
  · rw [Tracker.isArmed_expire, beq_self_eq_true] at ha'
    cases ha'
  · -- the books rule out that a release is queued whose timer is still armed
    have hp := (Tracker.confirms_iff.mp hg).2
    rw [Tracker.pulses_expire, if_pos rfl, Pulses.mk.injEq] at hp
    have ho := hb.once g
    have hw : (s.tracker.pulses k).owes g = true := by
      simp only [Pulses.owes, hp.1, beq_self_eq_true, Bool.and_true]
      exact ha
    have hc := List.count_pos_iff.mpr hm
    rw [hw, Bool.toNat_true] at ho
    omega
  · exact absurd ((h.orderly.cut k hm).1.symm.trans ha) Bool.false_ne_true

end Rig

/-! ## Runs -/

namespace Run

variable {m s : Rig} {trace right : List Transition} {k : ButtonKey}

theorem serves (h : Run m trace s) (hm : m.Serves k) (ho : Own trace) : s.Serves k :=
  h.invariant_on (P := (·.Serves k)) (fun _ _ hs he ho => hs.apply he ho) ho hm

/-- A button that is down at the end and was not pressed since was down all along. -/
theorem held (h : Run m trace s) (hm : m.Serves k) (ho : Own trace)
    (hd : ∀ t ∈ trace, (k, true) ∉ t.writes) (hp : s.joystick.isPressed k = true) :
    m.joystick.isPressed k = true ∧ ∀ t ∈ trace, (k, false) ∉ t.writes := by
  have hw := (h.wrote hm.solo ho).2
  rw [hw.pressed] at hp
  have hn : (k, true) ∉ trace.flatMap (·.writes) := by
    rw [List.mem_flatMap]
    rintro ⟨t, ht, hw⟩
    exact hd t ht hw
  obtain ⟨hp, hu⟩ := replay_up_of_notMem hn hp
  exact ⟨hp, fun t ht hw => hu (List.mem_flatMap.mpr ⟨t, ht, hw⟩)⟩

/-- Nobody lets go on purpose of a button that is down at the end and was not pressed since. -/
theorem not_letsGo (h : Run m trace s) (hm : m.Serves k) (ho : Own trace)
    (hd : ∀ t ∈ trace, (k, true) ∉ t.writes) (hp : s.joystick.isPressed k = true) :
    ∀ t ∈ trace, t.letsGo k = false := by
  rintro ⟨b, e, a⟩ ht
  refine Bool.eq_false_iff.mpr fun hg => ?_
  have hup := (h.held hm ho hd hp).2 _ ht
  have hoe : e.isOwn = true := ho _ ht
  obtain ⟨left, right, rfl⟩ := List.append_of_mem ht
  obtain ⟨hl, he, ha, hr⟩ := h.step_of_mem rfl
  obtain rfl : a = b.apply e := ha
  replace he : b.Enabled e := he
  have hb : b.Serves k := hl.serves hm fun t ht => ho t (List.mem_append_left _ ht)
  -- the button is down before the step, so that even a toggle lets go of it
  have hbp := (((single he).append hr).held hb
    (fun t ht => ho t (List.mem_append_right _ ht))
    (fun t ht => hd t (List.mem_append_right _ ht)) hp).1
  obtain ⟨job, hj, hg⟩ := (Option.any_eq_true ..).mp hg
  rw [Rig.writes_eq hb.solo he hoe] at hup
  exact hup ((Rig.effect he).up_of_letsGo hb.canFeed hbp hj hg)

/-- A debt lasts while nobody lets go of the button and its timer is not lost. -/
theorem owes (h : Run m trace s) (hm : m.Serves k) (ho : Own trace)
    (hu : ∀ t ∈ trace, (k, false) ∉ t.writes) (hl : ∀ t ∈ trace, t.isLost k = false)
    (hd : m.Owes k) : s.Owes k := by
  refine (h.invariant_on (P := fun s => s.Serves k ∧ s.Owes k)
    (Q := fun t => t.event.isOwn = true ∧ (k, false) ∉ t.writes ∧ t.isLost k = false) ?_
    (fun t ht => ⟨ho t ht, hu t ht, hl t ht⟩) ⟨hm, hd⟩).2
  rintro s e ⟨hs, hd⟩ he ⟨ho, hu, hl⟩
  rw [Rig.writes_eq hs.solo he ho] at hu
  refine ⟨hs.apply he ho, hd.effect (Rig.effect he) hs.orderly hs.canFeed ?_ hu⟩
  rintro rfl
  simpa [Transition.isLost] using hl

/-- While a timer stays armed, its button stays down unless somebody lets go of it on purpose. -/
theorem isPressed_of_isArmed (h : Run m trace s) (hm : m.Serves k) (ho : Own trace)
    (hd : ∀ t ∈ trace, (k, true) ∉ t.writes) (hg : ∀ t ∈ trace, t.letsGo k = false)
    (hp : m.joystick.isPressed k = true) (ha : s.tracker.isArmed k = true) :
    s.joystick.isPressed k = true := by
  refine (h.invariant_on
    (P := fun s => s.Serves k ∧ (s.tracker.isArmed k = true → s.joystick.isPressed k = true))
    (Q := fun t => t.event.isOwn = true ∧ (k, true) ∉ t.writes ∧ t.letsGo k = false) ?_
    (fun t ht => ⟨ho t ht, hd t ht, hg t ht⟩) ⟨hm, fun _ => hp⟩).2 ha
  rintro s e ⟨hs, hp⟩ he ⟨ho, hd, hg⟩
  rw [Rig.writes_eq hs.solo he ho] at hd
  refine ⟨hs.apply he ho, fun ha => ?_⟩
  have ha' := hs.isArmed_of_apply he hd ha
  rw [hs.isPressed_apply he ho hd (hs.up_notMem he hg fun _ => ha')]
  exact hp ha'

/-- A button that is down and not owed stays down unless somebody lets go of it on purpose. -/
theorem isPressed_of_not_owes (h : Run m trace s) (hm : m.Serves k) (ho : Own trace)
    (hu : Untagged trace) (hd : ∀ t ∈ trace, (k, true) ∉ t.writes)
    (hg : ∀ t ∈ trace, t.letsGo k = false) (hp : m.joystick.isPressed k = true)
    (hn : ¬ m.Owes k) : s.joystick.isPressed k = true := by
  refine (h.invariant_on
    (P := fun s => s.Serves k ∧ ¬ s.Owes k ∧ s.joystick.isPressed k = true)
    (Q := fun t => t.event.isOwn = true ∧ t.event.isUntagged = true ∧ (k, true) ∉ t.writes ∧
      t.letsGo k = false) ?_
    (fun t ht => ⟨ho t ht, hu t ht, hd t ht, hg t ht⟩) ⟨hm, hn, hp⟩).2.2
  rintro s e ⟨hs, hn, hp⟩ he ⟨ho, hu, hd, hg⟩
  rw [Rig.writes_eq hs.solo he ho] at hd
  refine ⟨hs.apply he ho, (Rig.effect he).not_owed hn hs.canFeed hu hd, ?_⟩
  rw [hs.isPressed_apply he ho hd (hs.up_notMem he hg fun h => absurd h hn)]
  exact hp

end Run

/-! ## Stopped workers -/

/-- The last write of a run that pressed a button was made by executing a pulse; `right` is what
happened since. -/
def PressedByPulse (k : ButtonKey) (trace right : List Transition) : Prop :=
  ∃ left t job, trace = left ++ t :: right ∧ t.performed? = some job ∧ job.mode = .pulse ∧
    (k, true) ∈ t.writes ∧ ∀ u ∈ right, (k, true) ∉ u.writes

theorem PressedByPulse.notPressed {k : ButtonKey} {trace right : List Transition}
    (h : PressedByPulse k trace right) : ∀ t ∈ right, (k, true) ∉ t.writes := by
  obtain ⟨_, _, _, _, _, _, _, hd⟩ := h
  exact hd

section

variable {settings : Settings} {devices : List UInt32} {trace right : List Transition} {s : Rig}
  {k : ButtonKey}

/-- After the pulse its button is down, its timer is armed, and the rest is a run of its own. -/
theorem PressedByPulse.run (hp : PressedByPulse k trace right)
    (h : Run (Rig.start settings { joystick := Joystick.ofAvailable devices }) trace s)
    (ho : Own trace) :
    ∃ left m, trace = left ++ right ∧
      Run (Rig.start settings { joystick := Joystick.ofAvailable devices }) left m ∧
      Run m right s ∧ m.Serves k ∧ m.joystick.isPressed k = true ∧ m.tracker.isArmed k = true := by
  obtain ⟨left, ⟨b, e, a⟩, job, ht, hj, hm, hw, hd⟩ := hp
  obtain ⟨hl, he, ha, hr⟩ := h.step_of_mem ht
  obtain rfl : a = b.apply e := ha
  replace hl : Run _ left b := hl
  replace he : b.Enabled e := he
  have hle : Run (Rig.start settings { joystick := Joystick.ofAvailable devices })
      (left ++ [⟨b, e, b.apply e⟩]) (b.apply e) := hl.snoc he
  subst ht
  have hoe : e.isOwn = true := ho _ (List.mem_append_right _ List.mem_cons_self)
  have hs := (hl.wrote (Rig.solo_start settings devices)
    fun t ht => ho t (List.mem_append_left _ ht)).1
  rw [Rig.writes_eq hs he hoe] at hw
  have hf := Rig.effect he
  obtain ⟨hws, hc⟩ := hf.writes_eq_of_mem hw
  have hserves : b.Serves k := ⟨hl.orderly, hs, hc⟩
  refine ⟨_, _, by simp, hle, hr, hserves.apply he hoe, ?_, hf.isArmed_of_pulse hj hm hw⟩
  rw [(hs.wrote he hoe).pressed, show b.writesOf e = _ from hws, replay_singleton, if_pos rfl]

/-- A worker that has stopped and releases what it cut short holds a button pressed by a pulse only
where its timer was lost. -/
theorem isLost_of_isPressed (hp : PressedByPulse k trace right)
    (h : Run (Rig.start settings { joystick := Joystick.ofAvailable devices }) trace s)
    (ho : Own trace) (hr : settings.releaseOnShutdown = true) (hs : s.phase = .stopped)
    (hd : s.joystick.isPressed k = true) : ∃ t ∈ right, t.isLost k = true := by
  obtain ⟨left, m, ht, -, hrun, hm, -, ha⟩ := hp.run h ho
  have hor : Own right := fun t hu => ho t (ht ▸ List.mem_append_right _ hu)
  have hu := (hrun.held hm hor hp.notPressed hd).2
  refine Classical.byContradiction fun hn => ?_
  have hl : ∀ t ∈ right, t.isLost k = false := fun t ht =>
    Bool.eq_false_iff.mpr fun hl => hn ⟨t, ht, hl⟩
  have hset : s.worker.settings = settings :=
    h.invariant (P := fun s => s.worker.settings = settings)
      (fun s e hs _ => (s.settings_apply e).trans hs) rfl
  exact h.orderly.not_owes hs (hset ▸ hr) (hrun.owes hm hor hu hl (.inl ha))

end

/-- A worker in front of a fresh joystick that nobody else uses, with untagged jobs only, has
stopped, and releases what it cut short. A button whose last press came from a pulse is still held
then exactly if the timer of the pulse expired after the last sender was gone, and no later job let
go of the button. -/
theorem held_at_stop_iff {settings : Settings} {devices : List UInt32}
    {trace right : List Transition} {s : Rig} {k : ButtonKey}
    (h : Run (Rig.start settings { joystick := Joystick.ofAvailable devices }) trace s)
    (ho : Own trace) (hu : Untagged trace) (hb : (pulsed k trace).length < UInt64.size)
    (hr : settings.releaseOnShutdown = true) (hs : s.phase = .stopped)
    (hp : PressedByPulse k trace right) :
    s.joystick.isPressed k = true ↔
      (∃ t ∈ right, t.isLost k = true) ∧ ∀ t ∈ right, t.letsGo k = false := by
  obtain ⟨left, m, ht, hleft, hrun, hm, hpm, -⟩ := hp.run h ho
  have hor : Own right := fun t hu => ho t (ht ▸ List.mem_append_right _ hu)
  have hur : Untagged right := fun t hu' => hu t (ht ▸ List.mem_append_right _ hu')
  constructor
  · intro hd
    exact ⟨isLost_of_isPressed hp h ho hr hs hd, hrun.not_letsGo hm hor hp.notPressed hd⟩
  · rintro ⟨⟨⟨b, e, a⟩, hmem, hl⟩, hg⟩
    have hd := hp.notPressed
    obtain ⟨he, hq⟩ := Transition.isLost_iff.mp hl
    obtain rfl : e = .expire k := he
    -- cut the run where the timer is lost: before, it is armed, and after, nothing is owed
    obtain ⟨r₁, r₂, rfl⟩ := List.append_of_mem hmem
    obtain ⟨h₁, he, ha, h₂⟩ := hrun.step_of_mem rfl
    obtain rfl : a = b.apply (.expire k) := ha
    replace he : b.Enabled (.expire k) := he
    rw [List.forall_mem_append] at hd hg
    have hm₁ : b.Serves k := h₁.serves hm fun t ht => hor t (List.mem_append_left _ ht)
    have hp₁ : b.joystick.isPressed k = true :=
      h₁.isPressed_of_isArmed hm (fun t ht => hor t (List.mem_append_left _ ht)) hd.1 hg.1 hpm he
    have hbooks : b.Books k (pulsed k (left ++ r₁)) (released k (left ++ r₁)) := by
      rw [ht, ← List.append_assoc] at hu hb
      rw [pulsed_append, List.length_append] at hb
      exact (hleft.append h₁).tally (fun t ht => hu t (List.mem_append_left _ ht)) k (by omega)
    refine h₂.isPressed_of_not_owes
      (hm₁.apply he rfl) (fun t ht => hor t (List.mem_append_right _ (List.mem_cons_of_mem _ ht)))
      (fun t ht => hur t (List.mem_append_right _ (List.mem_cons_of_mem _ ht)))
      (fun t ht => hd.2 t (List.mem_cons_of_mem _ ht))
      (fun t ht => hg.2 t (List.mem_cons_of_mem _ ht)) hp₁ (hm₁.not_owes_of_lost he hq hbooks)

/-- A pulse whose timer expires after the last sender is gone, but before the worker notices. -/
def strandedPulse (k : ButtonKey) : List Event :=
  [.enqueue ⟨k, .pulse 50⟩, .execute {}, .dropSender, .expire k, .leave, .disarm k, .close, .stop]

/-- The timer of the stranded pulse is lost. -/
theorem held_at_stop_iff_stranded :
    let k : ButtonKey := ⟨1, 1⟩
    let start := Rig.start {} { joystick := Joystick.ofAvailable [1] }
    let trace := traceOf start (strandedPulse k)
    (start.follow (strandedPulse k)).phase = .stopped ∧ PressedByPulse k trace (trace.drop 2) ∧
      (∃ t ∈ trace.drop 2, t.isLost k = true) ∧
      (start.follow (strandedPulse k)).joystick.isPressed k = true := by
  intro k start trace
  have hs : (start.follow (strandedPulse k)).phase = .stopped := by decide +kernel
  have hp : PressedByPulse k trace (trace.drop 2) :=
    ⟨[_], _, ⟨k, .pulse 50⟩, rfl, by decide +kernel, rfl, by decide +kernel, by decide +kernel⟩
  have hl : ∃ t ∈ trace.drop 2, t.isLost k = true := by decide +kernel
  have hb : (pulsed k trace).length < UInt64.size := by decide +kernel
  refine ⟨hs, hp, hl, (held_at_stop_iff (run_follow (by decide +kernel)) (by decide +kernel)
    (by decide +kernel) hb rfl hs hp).mpr ⟨hl, by decide +kernel⟩⟩

/-- The worker of the stranded pulse was not cancelled: it stops because no sender is left. Its
settings ask for every pulse to be released, only untagged jobs were sent, and nobody else used the
joystick, yet the button is down. -/
theorem held_at_stop_stranded :
    let k : ButtonKey := ⟨1, 1⟩
    let start := Rig.start {} { joystick := Joystick.ofAvailable [1] }
    let stopped := start.follow (strandedPulse k)
    let trace := traceOf start (strandedPulse k)
    Run start trace stopped ∧ Own trace ∧ Untagged trace ∧
      stopped.worker.settings.releaseOnShutdown = true ∧ stopped.worker.cancelled = false ∧
      stopped.phase = .stopped ∧ (∃ right, PressedByPulse k trace right) ∧
      stopped.joystick.isPressed k = true := by
  intro k start stopped trace
  refine ⟨run_follow (by decide +kernel), by decide +kernel, by decide +kernel,
    by decide +kernel, by decide +kernel, by decide +kernel, ⟨_, [_], _, ⟨k, .pulse 50⟩, rfl, ?_⟩,
    by decide +kernel⟩
  exact ⟨by decide +kernel, rfl, by decide +kernel, by decide +kernel⟩

/-- A worker whose queue still has a sender when it has stopped leaves no pulse held, whatever was
queued, armed or expired when it was cancelled, and whatever happened from then on. -/
theorem released_at_stop {settings : Settings} {devices : List UInt32}
    {trace right : List Transition} {s : Rig} {k : ButtonKey}
    (h : Run (Rig.start settings { joystick := Joystick.ofAvailable devices }) trace s)
    (ho : Own trace) (hr : settings.releaseOnShutdown = true) (hs : s.phase = .stopped)
    (hq : s.queue.hasSender = true) (hp : PressedByPulse k trace right) :
    s.joystick.isPressed k = false := by
  refine Bool.eq_false_iff.mpr fun hd => ?_
  obtain ⟨⟨b, e, a⟩, hmem, hl⟩ := isLost_of_isPressed hp h ho hr hs hd
  obtain ⟨he, hb⟩ := Transition.isLost_iff.mp hl
  obtain ⟨-, m, -, -, hrun, -⟩ := hp.run h ho
  obtain ⟨r₁, r₂, rfl⟩ := List.append_of_mem hmem
  obtain ⟨-, hen, ha, h₂⟩ := hrun.step_of_mem rfl
  -- a sender that is gone does not come back
  have hn := ((Run.single hen).append (ha ▸ h₂)).invariant
    (P := fun s => s.queue.hasSender = false) (fun s e hs _ => by
      rw [s.hasSender_apply e]
      cases e with
      | dropSender => rfl
      | _ => exact hs) hb
  exact absurd (hq.symm.trans hn) nofun

/-- A worker that is cancelled when the release of a pulse is queued, and another pulse is armed. -/
theorem released_at_stop_cancelled :
    let k : ButtonKey := ⟨1, 1⟩
    let c : ButtonKey := ⟨1, 2⟩
    let start := Rig.start {} { joystick := Joystick.ofAvailable [1] }
    let events : List Event := [.enqueue ⟨k, .pulse 50⟩, .enqueue ⟨c, .pulse 90⟩, .execute {},
      .execute {}, .expire k, .cancel, .leave, .disarm c, .disarm k, .close, .flush {}, .release,
      .stop]
    let trace := traceOf start events
    (start.follow events).phase = .stopped ∧ (start.follow events).queue.hasSender = true ∧
      PressedByPulse c trace (trace.drop 4) ∧
      (start.follow events).joystick.isPressed c = false := by
  intro k c start events trace
  have hs : (start.follow events).phase = .stopped := by decide +kernel
  have hq : (start.follow events).queue.hasSender = true := by decide +kernel
  have hp : PressedByPulse c trace (trace.drop 4) :=
    ⟨[_, _, _], _, ⟨c, .pulse 90⟩, rfl, by decide +kernel, rfl, by decide +kernel,
      by decide +kernel⟩
  exact ⟨hs, hq, hp,
    released_at_stop (run_follow (by decide +kernel)) (by decide +kernel) rfl hs hq hp⟩

end ControlDeck.Dispatch
