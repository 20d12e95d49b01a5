import ControlDeck.Proofs.Steps

/-!
# Every pulse is released once

The release of a pulse is first an armed timer, then a queued job, then an executed one. The
generation of the pulse follows it through all three.

- **Generations along a run** (`pulsed`, `released`): those of the executed pulses of a button, and
  those of the releases that ended one of its pulses.
- **The books of a button** (`Tally`): no generation is owed, queued and released more than once in
  all, and the entry of the button carries the number of its pulses. Every step keeps them
  (`Tally.effect`), and so does every run (`Run.tally`).
- **Nothing gets lost** (`Due`): while the worker runs and every timer found a sender, the release
  of the latest pulse is armed, queued or executed (`Run.due`).
- **Releases** (`Run.latest_of_release?`): each one belongs to the pulse executed last before it.
-/

namespace ControlDeck.Dispatch

open Device

/-! ## Generations along a run -/

/-- The generation of a pulse of a button, read from the timers after it. -/
def Job.pulse? (k : ButtonKey) (after : Tracker) (job : Job) : Option UInt64 :=
  match job.action with
  | .pulse _ => if job.key = k then some (after.pulses k).generation else none
  | _ => none

/-- The generation of a release that ends a pulse of a button. -/
def Job.release? (k : ButtonKey) (job : Job) : Option UInt64 :=
  if job.key = k then job.generation? else none

/-- The generation of the pulse of a button that was executed in a step. -/
def Transition.pulse? (k : ButtonKey) (t : Transition) : Option UInt64 :=
  t.performed?.bind (·.pulse? k t.after.tracker)

/-- The generation of the release that ended a pulse of a button in a step. -/
def Transition.release? (k : ButtonKey) (t : Transition) : Option UInt64 :=
  t.performed?.bind (·.release? k)

/-- Whether an event is anything but a producer's release that claims to end a pulse. -/
def Event.isUntagged : Event → Bool
  | .enqueue job => job.generation?.isNone
  | _ => true

/-- Whether a step is anything but an expiry that finds no sender. -/
def Transition.isLossless (t : Transition) : Bool :=
  match t.event with
  | .expire _ => t.before.queue.hasSender
  | _ => true

/-- The generations of the executed pulses of a button, in order. -/
def pulsed (k : ButtonKey) (trace : List Transition) : List UInt64 :=
  trace.filterMap (·.pulse? k)

/-- The generations of the executed releases that ended a pulse of a button, in order. -/
def released (k : ButtonKey) (trace : List Transition) : List UInt64 :=
  trace.filterMap (·.release? k)

theorem Job.release?_eq_some_iff {k : ButtonKey} {job : Job} {g : UInt64} :
    job.release? k = some g ↔ job = Job.ending k g := by
  obtain ⟨c, action⟩ := job
  unfold Job.release? Job.generation?
  by_cases hc : c = k
  · cases action <;> simp [hc]
  · simp [hc]

theorem pulsed_append (k : ButtonKey) (left right : List Transition) :
    pulsed k (left ++ right) = pulsed k left ++ pulsed k right :=
  List.filterMap_append

theorem pulsed_snoc (k : ButtonKey) (trace : List Transition) (t : Transition) :
    pulsed k (trace ++ [t]) = pulsed k trace ++ (t.pulse? k).toList := by
  unfold pulsed
  rw [List.filterMap_append, List.filterMap_cons]
  cases t.pulse? k <;> rfl

theorem released_snoc (k : ButtonKey) (trace : List Transition) (t : Transition) :
    released k (trace ++ [t]) = released k trace ++ (t.release? k).toList := by
  unfold released
  rw [List.filterMap_append, List.filterMap_cons]
  cases t.release? k <;> rfl

/-- What a job that the worker performs adds to the generations of a button, and what it makes of
its entry. -/
inductive Booking (w : Worker) (k : ButtonKey) (now : Moment) (job : Job) :
    List UInt64 → List UInt64 → Bool → Pulses → Prop
  | pulse (length : UInt32) :
      job = ⟨k, .pulse length⟩ →
      Booking w k now job [(w.tracker.pulses k).generation + 1] [] true
        ⟨(w.tracker.pulses k).generation + 1, some ⟨length.toNat, now, w.tracker.armings⟩⟩
  | release (g : UInt64) :
      job = Job.ending k g → w.tracker.confirms k g = true →
      Booking w k now job [] [g] (w.tracker.isKnown k) (w.tracker.pulses k)
  | other :
      (∀ length, job ≠ ⟨k, .pulse length⟩) →
      (∀ g, job = Job.ending k g → w.tracker.confirms k g = false) →
      Booking w k now job [] [] (w.tracker.isKnown k) (w.tracker.pulses k)

/-- Every job is booked in one of these ways. -/
theorem booking (w : Worker) (k : ButtonKey) (now : Moment) (job : Job) :
    Booking w k now job
      ((if w.counts job then some job else none).bind
        (·.pulse? k (w.trackerAfter now job))).toList
      ((if w.counts job then some job else none).bind (·.release? k)).toList
      ((w.trackerAfter now job).isKnown k) ((w.trackerAfter now job).pulses k) := by
  obtain ⟨c, action⟩ := job
  cases action with
  | press | release | toggle =>
    simp only [Worker.counts, ↓reduceIte, Option.bind_some, Job.pulse?, Job.release?,
      Job.generation?, ite_self, Option.toList_none, Worker.trackerAfter]
    exact .other (fun _ he => by cases he) fun _ he => by cases he
  | pulse length =>
    simp only [Worker.counts, ↓reduceIte, Option.bind_some, Job.pulse?, Job.release?,
      Job.generation?, ite_self, Option.toList_none, Worker.trackerAfter, Tracker.isKnown_arm,
      Tracker.pulses_arm]
    by_cases hc : c = k
    · subst hc
      rw [if_pos rfl, if_pos rfl, beq_self_eq_true, Bool.true_or]
      exact .pulse length rfl
    · rw [if_neg hc, if_neg (Ne.symm hc), beq_eq_false_iff_ne.mpr (Ne.symm hc), Bool.false_or]
      exact .other (fun _ he => hc (congrArg Job.key he)) fun _ he => by cases he
  | pulseRelease g =>
    rw [show w.trackerAfter now ⟨c, .pulseRelease g⟩ = w.tracker from rfl,
      show w.counts ⟨c, .pulseRelease g⟩ = w.tracker.confirms c g from rfl]
    cases hg : w.tracker.confirms c g with
    | false =>
      refine .other (fun _ he => by cases he) fun g' he => ?_
      obtain ⟨rfl, rfl⟩ : c = k ∧ g = g' := by simpa using he
      exact hg
    | true =>
      rw [if_pos rfl, Option.bind_some, Option.bind_some]
      by_cases hc : c = k
      · subst hc
        rw [show Job.release? c ⟨c, .pulseRelease g⟩ = some g from if_pos rfl]
        exact .release g rfl hg
      · rw [show Job.release? k ⟨c, .pulseRelease g⟩ = none from if_neg hc]
        exact .other (fun _ he => by cases he) fun _ he => absurd (congrArg Job.key he) hc

/-! ## The books of a button -/

/-- Below the bound a generation is the number of pulses that raised it. -/
theorem toNat_latest {ps : List UInt64} (hb : ps.length < UInt64.size) :
    (UInt64.ofNat ps.length).toNat = ps.length :=
  UInt64.toNat_ofNat_of_lt' hb

/-- Whether the timer of a pulse of this generation is armed. -/
def Pulses.owes (p : Pulses) (g : UInt64) : Bool := p.timer?.isSome && p.generation == g

/-- The books of a button `k`: `ps` are the generations of its executed pulses, `rs` those of the
releases that ended one, `p` is its entry, and `known` whether it has one. While `live`, no timer
has been disarmed other than by a pulse. -/
structure Tally (k : ButtonKey) (live : Prop) (ps rs : List UInt64) (known : Bool) (p : Pulses)
    (jobs : List Job) : Prop where
  latest : ps ≠ [] → ps.getLast? = some (.ofNat ps.length)
  known_iff : known = true ↔ ps ≠ []
  current : live → p.generation = .ofNat ps.length
  generation : p.generation = .ofNat ps.length ∨ p = ⟨.ofNat (ps.length + 1), none⟩
  issued : ∀ g, Job.ending k g ∈ jobs ∨ g ∈ rs → 0 < g.toNat ∧ g.toNat ≤ ps.length
  once : ∀ g, jobs.count (Job.ending k g) + rs.count g + (p.owes g).toNat ≤ 1
  armed : p.timer?.isSome = true → ps ≠ []

namespace Tally

variable {k : ButtonKey} {live : Prop} {ps rs : List UInt64} {known : Bool} {p : Pulses}
  {jobs rest : List Job}

theorem start (k : ButtonKey) (live : Prop) : Tally k live [] [] false {} [] where
  latest h := absurd rfl h
  known_iff := by simp
  current _ := rfl
  generation := .inl rfl
  issued g h := by simp at h
  once g := Nat.zero_le 1
  armed h := absurd h Bool.false_ne_true

theorem weaken {live' : Prop} (h : Tally k live ps rs known p jobs) (hl : live' → live) :
    Tally k live' ps rs known p jobs :=
  { h with current := h.current ∘ hl }

/-- The books stay right when nothing but queued releases goes away. -/
theorem of_count_le (h : Tally k live ps rs known p jobs)
    (hc : ∀ g, rest.count (Job.ending k g) ≤ jobs.count (Job.ending k g)) :
    Tally k live ps rs known p rest :=
  { h with
    issued := by
      intro g hg
      refine h.issued g (hg.imp_left fun hm => ?_)
      have hp := List.count_pos_iff.mpr hm
      have hg := hc g
      exact List.count_pos_iff.mp (by omega)
    once := by
      intro g
      have ho := h.once g
      have hg := hc g
      omega }

/-- The entry of an armed timer carries the latest generation. -/
theorem generation_of_armed (h : Tally k live ps rs known p jobs) (ha : p.timer?.isSome = true) :
    p.generation = .ofNat ps.length := by
  rcases h.generation with hg | hg
  · exact hg
  · rw [hg] at ha
    cases ha

/-- The timer expires and queues its release. -/
theorem expire (h : Tally k live ps rs known p jobs) (ha : p.timer?.isSome = true)
    (hb : ps.length < UInt64.size) :
    Tally k live ps rs known ⟨p.generation, none⟩ (jobs ++ [Job.ending k p.generation]) where
  latest := h.latest
  known_iff := h.known_iff
  current := h.current
  generation := .inl (h.generation_of_armed ha)
  issued g hg := by
    rw [List.mem_append, List.mem_singleton] at hg
    rcases hg with (hm | he) | hr
    · exact h.issued g (.inl hm)
    · obtain rfl : g = p.generation := by simpa using he
      have hn := List.length_pos_iff.mpr (h.armed ha)
      rw [h.generation_of_armed ha, toNat_latest hb]
      omega
    · exact h.issued g (.inr hr)
  once g := by
    have ho := h.once g
    have hz : (Pulses.owes ⟨p.generation, none⟩ g).toNat = 0 := rfl
    rw [List.count_append]
    by_cases hg : g = p.generation
    · subst hg
      have hw : p.owes p.generation = true := by simp [Pulses.owes, ha]
      rw [hw, Bool.toNat_true] at ho
      rw [List.count_singleton_self]
      omega
    · have hn : List.count (Job.ending k g) [Job.ending k p.generation] = 0 :=
        List.count_eq_zero.mpr (by simpa using hg)
      omega
  armed hn := absurd hn Bool.false_ne_true

/-- A pulse raises the generation and arms the timer anew. -/
theorem pulse (h : Tally k live ps rs known p jobs) (hc : p.generation = .ofNat ps.length)
    (hb : ps.length + 1 < UInt64.size) (timer : Timer) :
    Tally k live (ps ++ [p.generation + 1]) rs true ⟨p.generation + 1, some timer⟩ jobs := by
  have hl : (ps ++ [p.generation + 1]).length = ps.length + 1 := by simp
  have hg : p.generation + 1 = .ofNat (ps ++ [p.generation + 1]).length := by
    rw [hl, hc, UInt64.ofNat_add]
    rfl
  have hn : (p.generation + 1).toNat = ps.length + 1 := by
    rw [hg, toNat_latest (by omega), hl]
  -- the new generation is greater than every one that was issued before
  have hz : jobs.count (Job.ending k (p.generation + 1)) = 0 ∧
      rs.count (p.generation + 1) = 0 := by
    constructor
    · refine List.count_eq_zero.mpr fun hm => ?_
      have hi := h.issued _ (.inl hm)
      omega
    · refine List.count_eq_zero.mpr fun hm => ?_
      have hi := h.issued _ (.inr hm)
      omega
  exact {
    latest := fun _ => by rw [← hg, List.getLast?_concat]
    known_iff := by simp
    current := fun _ => hg
    generation := .inl hg
    issued := by
      intro g hm
      have hi := h.issued g hm
      omega
    once := by
      intro g
      have ho := h.once g
      by_cases he : g = p.generation + 1
      · subst he
        have hle := Bool.toNat_le (Pulses.owes ⟨p.generation + 1, some timer⟩ (p.generation + 1))
        omega
      · have hw : Pulses.owes ⟨p.generation + 1, some timer⟩ g = false := by
          simpa [Pulses.owes] using Ne.symm he
        rw [hw, Bool.toNat_false]
        omega
    armed := fun _ => by simp }

/-- A queued release is executed. -/
theorem release {g : UInt64} (h : Tally k live ps rs known p (Job.ending k g :: rest)) :
    Tally k live ps (rs ++ [g]) known p rest :=
  { h with
    issued := by
      intro g' hm
      refine h.issued g' ?_
      rw [List.mem_append, List.mem_singleton] at hm
      rcases hm with hm | hm | rfl
      · exact .inl (List.mem_cons_of_mem _ hm)
      · exact .inr hm
      · exact .inl List.mem_cons_self
    once := by
      intro g'
      have ho := h.once g'
      rw [List.count_append]
      by_cases he : g' = g
      · subst he
        rw [List.count_cons_self] at ho
        rw [List.count_singleton_self]
        omega
      · rw [List.count_cons_of_ne (by simpa using Ne.symm he)] at ho
        have hz : List.count g' [g] = 0 := List.count_eq_zero.mpr (by simpa using he)
        omega }

/-- The timer is disarmed, and the generation raised. -/
theorem disarm (h : Tally k live ps rs known p jobs) (ha : p.timer?.isSome = true) (hl : ¬ live) :
    Tally k live ps rs known ⟨p.generation + 1, none⟩ jobs :=
  { h with
    current := fun hv => absurd hv hl
    generation := .inr (by rw [h.generation_of_armed ha, UInt64.ofNat_add]; rfl)
    once := by
      intro g
      have ho := h.once g
      have hz : (Pulses.owes ⟨p.generation + 1, none⟩ g).toNat = 0 := rfl
      omega
    armed := fun hn => absurd hn Bool.false_ne_true }

/-- A release that is confirmed carries the generation of the latest pulse. -/
theorem latest_of_confirmed {g : UInt64} (h : Tally k live ps rs true ⟨g, none⟩ jobs)
    (hb : ps.length < UInt64.size) (hm : Job.ending k g ∈ jobs) : ps.getLast? = some g := by
  rcases h.generation with hg | hg
  · rw [show g = .ofNat ps.length from hg]
    exact h.latest (h.known_iff.mp rfl)
  · -- a raised generation was never issued, not even where it wraps to zero
    have hi := h.issued g (.inl hm)
    have he : g = .ofNat (ps.length + 1) := congrArg Pulses.generation hg
    have hn : ps.length < 2 ^ 64 := hb
    rw [he, UInt64.toNat_ofNat'] at hi
    omega

end Tally

/-! ## Steps -/

section

variable {s : Rig} {e : Event} {o : Rig.Outcome} {k : ButtonKey} {ps rs : List UInt64}

/-- The books of a button of a rig. -/
abbrev Rig.Books (s : Rig) (k : ButtonKey) (ps rs : List UInt64) : Prop :=
  Tally k (s.phase = .running) ps rs (s.tracker.isKnown k) (s.tracker.pulses k) s.queue.jobs

/-- A job other than the release of a pulse of `k` can come and go. -/
theorem count_ending_cons_of_ne {job : Job} (h : ∀ g, job ≠ Job.ending k g) (rest : List Job)
    (g : UInt64) : (job :: rest).count (Job.ending k g) = rest.count (Job.ending k g) :=
  List.count_cons_of_ne (h g)

/-- An expiry keeps the books, whether or not its release is queued. -/
theorem Tally.effect_expire {c : ButtonKey} (ha : s.tracker.isArmed c = true) {b : Bool}
    (h : s.Books k ps rs) (hb : ps.length < UInt64.size) :
    Tally k (s.phase = .running) ps rs ((s.tracker.expire s.queue c).value.1.isKnown k)
      ((s.tracker.expire s.queue c).value.1.pulses k)
      (s.queue.jobs ++ if b then [Job.ending c (s.tracker.pulses c).generation] else []) := by
  rw [Tracker.isKnown_expire, Tracker.pulses_expire]
  by_cases hc : k = c
  · subst hc
    rw [if_pos rfl]
    have hx := h.expire ha hb
    refine hx.of_count_le fun g => ?_
    cases b <;> simp [List.count_append]
  · rw [if_neg hc]
    refine h.of_count_le fun g => ?_
    have hn : Job.ending c (s.tracker.pulses c).generation ≠ Job.ending k g := by
      simpa using fun he => absurd he.symm hc
    cases b <;> simp [List.count_append, hn]

/-- A job that is performed keeps the books. -/
theorem Tally.effect_perform {job : Job} {rest : List Job} {now : Moment} {ps' rs' : List UInt64}
    {known : Bool} {p : Pulses} (hj : s.queue.jobs = job :: rest)
    (hm : s.phase = .running ∨ job.mode = .release)
    (hk : Booking s.worker k now job ps' rs' known p) (h : s.Books k ps rs)
    (hb : (ps ++ ps').length < UInt64.size) :
    Tally k (s.phase = .running) (ps ++ ps') (rs ++ rs') known p rest := by
  have hc : ∀ g, rest.count (Job.ending k g) ≤ s.queue.jobs.count (Job.ending k g) := by
    intro g
    rw [hj]
    exact List.count_le_count_cons
  have hd := h.of_count_le hc
  cases hk with
  | pulse length he =>
    have hrun : s.phase = .running := by
      refine hm.resolve_right ?_
      rw [he]
      exact nofun
    rw [List.length_append, List.length_singleton] at hb
    rw [List.append_nil]
    exact hd.pulse (hd.current hrun) hb _
  | release g he =>
    rw [List.append_nil]
    rw [he] at hj
    exact (hj ▸ h : Tally ..).release
  | other =>
    rw [List.append_nil, List.append_nil]
    exact hd

/-- Every step keeps the books. -/
theorem Tally.effect (hf : s.Effect e o) (h : s.Books k ps rs) (hu : e.isUntagged = true)
    (hb : (ps ++ (o.performed?.bind (·.pulse? k o.tracker)).toList).length < UInt64.size) :
    Tally k (s.phase = .running) (ps ++ (o.performed?.bind (·.pulse? k o.tracker)).toList)
      (rs ++ (o.performed?.bind (·.release? k)).toList) (o.tracker.isKnown k) (o.tracker.pulses k)
      o.jobs := by
  cases hf with
  | perform job rest now hj hm => exact effect_perform hj hm (booking ..) h hb
  | send job he =>
    rw [Option.bind_none, Option.bind_none, Option.toList_none, List.append_nil, List.append_nil]
    have hn : ∀ g, job ≠ Job.ending k g := by
      rintro g rfl
      rw [he] at hu
      cases hu
    refine h.of_count_le fun g => ?_
    rw [List.count_append, count_ending_cons_of_ne hn]
    exact Nat.le_refl _
  | expire c he ha =>
    rw [Option.bind_none, Option.toList_none, List.append_nil] at hb
    rw [Option.bind_none, Option.bind_none, Option.toList_none, List.append_nil, List.append_nil]
    exact effect_expire ha h hb
  | drop job rest hj hm =>
    rw [Option.bind_none, Option.bind_none, Option.toList_none, List.append_nil, List.append_nil]
    refine h.of_count_le fun g => ?_
    rw [hj]
    exact List.count_le_count_cons
  | disarm c he hp =>
    rw [Option.bind_none, Option.bind_none, Option.toList_none, List.append_nil, List.append_nil,
      Tracker.isKnown_cancel, Tracker.pulses_cancel]
    split
    · rename_i hc
      obtain ⟨rfl, ha⟩ := hc
      exact h.disarm ha (by rw [hp]; exact nofun)
    · exact h
  | _ =>
    rw [Option.bind_none, Option.bind_none, Option.toList_none, List.append_nil, List.append_nil]
    exact h

/-! ## Nothing gets lost -/

/-- The release of the latest pulse of a button is armed, queued or executed. -/
def Due (k : ButtonKey) (ps rs : List UInt64) (p : Pulses) (jobs : List Job) : Prop :=
  ps ≠ [] → p.timer?.isSome = true ∨ Job.ending k (.ofNat ps.length) ∈ jobs ∨
    UInt64.ofNat ps.length ∈ rs

/-- A job that is performed loses no release. -/
theorem Due.effect_perform {job : Job} {rest : List Job} {now : Moment} {ps' rs' : List UInt64}
    {known : Bool} {p : Pulses} (hj : s.queue.jobs = job :: rest)
    (hk : Booking s.worker k now job ps' rs' known p) (h : s.Books k ps rs)
    (hr : s.phase = .running) (hd : Due k ps rs (s.tracker.pulses k) s.queue.jobs) :
    Due k (ps ++ ps') (rs ++ rs') p rest := by
  intro hn
  cases hk with
  | pulse => exact .inl rfl
  | release g he =>
    rw [List.append_nil] at hn ⊢
    have hd := hd hn
    rw [hj, List.mem_cons, he] at hd
    rcases hd with ha | (hg | hm) | hm
    · exact .inl ha
    · obtain rfl : UInt64.ofNat ps.length = g := by simpa using hg
      exact .inr (.inr (List.mem_append_right _ (List.mem_singleton_self _)))
    · exact .inr (.inl hm)
    · exact .inr (.inr (List.mem_append_left _ hm))
  | other _ hg =>
    rw [List.append_nil] at hn ⊢
    rw [List.append_nil]
    have hd := hd hn
    rw [hj, List.mem_cons] at hd
    rcases hd with ha | (he | hm) | hm
    · exact .inl ha
    · -- the release of the latest pulse is confirmed, unless its button is armed again
      cases ha : s.tracker.isArmed k with
      | true => exact .inl ha
      | false =>
        have hc := Tracker.confirms_of_not_isArmed (h.known_iff.mpr hn) ha
        rw [h.current hr] at hc
        exact absurd (hc.symm.trans (hg _ he.symm)) nofun
    · exact .inr (.inl hm)
    · exact .inr (.inr hm)

/-- While the worker runs and timers find a sender, no step loses a release. -/
theorem Due.effect (hf : s.Effect e o) (h : s.Books k ps rs)
    (hd : Due k ps rs (s.tracker.pulses k) s.queue.jobs) (hr : s.phase = .running)
    (he : ∀ c, e = .expire c → (s.queue.hasSender && s.queue.isOpen) = true) :
    Due k (ps ++ (o.performed?.bind (·.pulse? k o.tracker)).toList)
      (rs ++ (o.performed?.bind (·.release? k)).toList) (o.tracker.pulses k) o.jobs := by
  cases hf with
  | perform job rest now hj hm => exact effect_perform hj (booking ..) h hr hd
  | send job =>
    rw [Option.bind_none, Option.bind_none, Option.toList_none, List.append_nil, List.append_nil]
    intro hn
    exact (hd hn).imp_right (Or.imp_left (List.mem_append_left _))
  | expire c hc ha =>
    rw [Option.bind_none, Option.bind_none, Option.toList_none, List.append_nil, List.append_nil,
      Tracker.pulses_expire, if_pos (he c hc)]
    intro hn
    by_cases hk : k = c
    · subst hk
      right; left
      rw [h.generation_of_armed ha]
      exact List.mem_append_right _ (List.mem_singleton_self _)
    · rw [if_neg hk]
      exact (hd hn).imp_right (Or.imp_left (List.mem_append_left _))
  | drop job rest hj hm =>
    rw [Option.bind_none, Option.bind_none, Option.toList_none, List.append_nil, List.append_nil]
    intro hn
    have hd := hd hn
    rw [hj, List.mem_cons] at hd
    refine hd.imp_right (Or.imp_left fun hm' => hm'.resolve_left ?_)
    rintro rfl
    exact hm rfl
  | disarm c hc hp =>
    rw [hr] at hp
    cases hp
  | _ =>
    rw [Option.bind_none, Option.bind_none, Option.toList_none, List.append_nil, List.append_nil]
    exact hd

end

/-! ## Runs -/

/-- Producers enqueue no release that ends a pulse; only timers do. -/
def Untagged (trace : List Transition) : Prop := ∀ t ∈ trace, t.event.isUntagged = true

/-- Every timer that expired found a sender. -/
def Lossless (trace : List Transition) : Prop := ∀ t ∈ trace, t.isLossless = true

instance (trace : List Transition) : Decidable (Untagged trace) :=
  inferInstanceAs (Decidable (∀ t ∈ trace, _))

instance (trace : List Transition) : Decidable (Lossless trace) :=
  inferInstanceAs (Decidable (∀ t ∈ trace, _))

section

variable {settings : Settings} {backend : Backend} {trace : List Transition} {s : Rig}

/-- The books are right at the end of every run. -/
theorem Run.tally (h : Run (Rig.start settings backend) trace s) (hu : Untagged trace)
    (k : ButtonKey) (hb : (pulsed k trace).length < UInt64.size) :
    s.Books k (pulsed k trace) (released k trace) := by
  induction h with
  | nil => exact Tally.start k _
  | @snoc trace m e hr he ih =>
    rw [pulsed_snoc] at hb
    have hl : (pulsed k trace).length < UInt64.size := by
      rw [List.length_append] at hb
      omega
    have hm := ih (fun t ht => hu t (List.mem_append_left _ ht)) hl
    have ht := Tally.effect (Rig.effect he) hm
      (hu _ (List.mem_append_right _ (List.mem_singleton_self _))) hb
    rw [pulsed_snoc, released_snoc]
    refine ht.weaken fun hrun => ?_
    rw [Rig.phase_apply] at hrun
    cases e with
    | leave => cases hrun
    | stop => cases hrun
    | _ => exact hrun

/-- No release gets lost in a run in which every timer found a sender and the worker still runs. -/
theorem Run.due (h : Run (Rig.start settings backend) trace s) (hu : Untagged trace)
    (hl : Lossless trace) (k : ButtonKey) (hb : (pulsed k trace).length < UInt64.size)
    (hrun : s.phase = .running) :
    Due k (pulsed k trace) (released k trace) (s.tracker.pulses k) s.queue.jobs := by
  induction h with
  | nil => exact fun hn => absurd rfl hn
  | @snoc trace m e hr he ih =>
    rw [pulsed_snoc, List.length_append] at hb
    have hrun' : m.phase = .running := by
      rw [Rig.phase_apply] at hrun
      cases e with
      | leave => cases hrun
      | stop => cases hrun
      | _ => exact hrun
    have hu' : Untagged trace := fun t ht => hu t (List.mem_append_left _ ht)
    have hb' : (pulsed k trace).length < UInt64.size := by omega
    have hd := ih hu' (fun t ht => hl t (List.mem_append_left _ ht)) hb' hrun'
    rw [pulsed_snoc, released_snoc]
    refine Due.effect (Rig.effect he) (hr.tally hu' k hb') hd hrun' fun c hc => ?_
    have hs := hl _ (List.mem_append_right _ (List.mem_singleton_self _))
    rw [hc] at hs
    rw [Bool.and_eq_true]
    exact ⟨hs, hr.orderly.running hrun'⟩

/-- A release that ends a pulse is executed only if it is queued and confirmed. -/
theorem Rig.Effect.confirms {s : Rig} {e : Event} {o : Rig.Outcome} (hf : s.Effect e o)
    {k : ButtonKey} {g : UInt64} (hp : o.performed? = some (Job.ending k g)) :
    Job.ending k g ∈ s.queue.jobs ∧ s.tracker.confirms k g = true := by
  cases hf with
  | perform job rest now hj =>
    split at hp
    · rename_i hc
      cases hp
      exact ⟨hj ▸ List.mem_cons_self, hc⟩
    · cases hp
  | _ => cases hp

/-- A release that is executed in a run carries the generation of the pulse executed last. -/
theorem Run.latest_of_release? {t : Transition} {left right : List Transition} {k : ButtonKey}
    {g : UInt64} (h : Run (Rig.start settings backend) trace s) (hu : Untagged trace)
    (hb : (pulsed k trace).length < UInt64.size) (ht : trace = left ++ t :: right)
    (hg : t.release? k = some g) : (pulsed k left).getLast? = some g := by
  obtain ⟨hl, he, ha, -⟩ := h.step_of_mem ht
  subst ht
  rw [pulsed_append, List.length_append] at hb
  have hbl : (pulsed k left).length < UInt64.size := by omega
  have hm := hl.tally (fun t ht => hu t (List.mem_append_left _ ht)) k hbl
  obtain ⟨job, hp, hj⟩ := Option.bind_eq_some_iff.mp hg
  rw [Job.release?_eq_some_iff] at hj
  obtain ⟨before, e, after⟩ := t
  obtain rfl : after = before.apply e := ha
  obtain ⟨hq, hc⟩ := (Rig.effect he).confirms (hp.trans (congrArg some hj))
  obtain ⟨hk, hpk⟩ := Tracker.confirms_iff.mp hc
  rw [Rig.Books, hk, hpk] at hm
  exact hm.latest_of_confirmed hbl hq

end

/-- Untagged jobs only, and fewer than `2 ^ 64` pulses of any button. Then, whatever happens in
whatever order, for every button `k`: at most one release of its latest pulse is armed or queued;
a release that is executed carries the generation of the pulse executed last before it; no two of
them carry the same; and while the worker runs, with nothing queued and no timer armed, the release
of the latest pulse has been executed, if every timer found a sender. -/
theorem release_once_per_pulse {settings : Settings} {backend : Backend}
    {trace : List Transition} {s : Rig} (h : Run (Rig.start settings backend) trace s)
    (hu : Untagged trace) (hb : ∀ k, (pulsed k trace).length < UInt64.size) (k : ButtonKey) :
    (if s.tracker.isArmed k then 1 else 0) +
        s.queue.jobs.count (Job.ending k (s.tracker.pulses k).generation) ≤ 1 ∧
      (∀ left t right g, trace = left ++ t :: right → t.release? k = some g →
        (pulsed k left).getLast? = some g) ∧
      (released k trace).Nodup ∧
      (Lossless trace → s.phase = .running → s.queue.jobs = [] → s.tracker.armedCount = 0 →
        ∀ g, (pulsed k trace).getLast? = some g → g ∈ released k trace) := by
  have ht := h.tally hu k (hb k)
  refine ⟨?_, fun left t right g hs hg => h.latest_of_release? hu (hb k) hs hg, ?_, ?_⟩
  · have ho := ht.once (s.tracker.pulses k).generation
    have hw : (s.tracker.pulses k).owes (s.tracker.pulses k).generation = s.tracker.isArmed k := by
      simp [Pulses.owes, Tracker.isArmed_eq]
    rw [hw] at ho
    cases ha : s.tracker.isArmed k <;> simp only [ha, Bool.toNat_true, Bool.toNat_false,
      Bool.false_eq_true, ↓reduceIte] at ho ⊢ <;> omega
  · refine List.nodup_iff_count.mpr fun g => ?_
    have ho := ht.once g
    omega
  · intro hl hr hj ha g hg
    have hn : pulsed k trace ≠ [] := by
      rintro hn
      rw [hn] at hg
      cases hg
    rw [ht.latest hn] at hg
    obtain rfl := Option.some.inj hg
    rcases h.due hu hl k (hb k) hr hn with hd | hd | hd
    · exact absurd (hd.symm.trans (Tracker.isArmed_of_armedCount ha k)) nofun
    · rw [hj] at hd
      exact absurd hd List.not_mem_nil
    · exact hd

/-- A button that is pulsed again while the release of its first pulse is queued: that release is
superseded, and the one of the second pulse is executed. -/
theorem release_once_per_pulse_repulsed :
    let k : ButtonKey := ⟨1, 2⟩
    let s := Rig.start {} { joystick := Joystick.ofAvailable [1] }
    let events : List Event := [.enqueue ⟨k, .pulse 50⟩, .execute {}, .enqueue ⟨k, .pulse 50⟩,
      .expire k, .execute {}, .execute {}, .expire k, .execute {}]
    (pulsed k (traceOf s events)).getLast? = some 2 ∧ 2 ∈ released k (traceOf s events) := by
  intro k s events
  have hr : canFollow s events = true := by decide +kernel
  have hu : Untagged (traceOf s events) := by decide +kernel
  have hb : ∀ k, (pulsed k (traceOf s events)).length < UInt64.size := fun k =>
    Nat.lt_of_le_of_lt (List.length_filterMap_le ..) (by decide +kernel)
  have hp : (pulsed k (traceOf s events)).getLast? = some 2 := by decide +kernel
  exact ⟨hp, (release_once_per_pulse (run_follow hr) hu hb k).2.2.2 (by decide +kernel)
    (by decide +kernel) (by decide +kernel) (by decide +kernel) 2 hp⟩

end ControlDeck.Dispatch
