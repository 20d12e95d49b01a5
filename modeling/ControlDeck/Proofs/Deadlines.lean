import ControlDeck.Proofs.Rounds

/-!
# Buttons with deadlines

A session with one dispatcher as its client sees it, without generations, timers or queued releases.

- **Held buttons** (`Hold`): whether a button is down, and until when. Jobs act on it
  (`Hold.act`), and a deadline that is reached lets go of it (`Hold.settle`).
- **The board** (`Board`): all buttons, and the jobs that were queued since the last wait. It serves
  the requests of a client (`Board.serve`) as a session does (`Session.serve`).
- **Showing** (`Shows`): a worker and its joystick agree with the buttons of a board, also while
  releases of expired timers are queued. Jobs, rounds, moments and waits keep it
  (`Shows.execute`, `Tracks.round`, `Tracks.instant`, `Tracks.elapse`).
- `session_shows_board`: after all requests the session shows the board.
-/

namespace ControlDeck

open Command Device Dispatch

/-- A button: whether it is down, and when its pulse ends. -/
structure Hold where
  down : Bool := false
  deadline? : Option Nat := none
  deriving DecidableEq, Repr

namespace Hold

/-- What a job does to its button. -/
def act (now : Nat) (h : Hold) : Action → Hold
  | .press => { h with down := true }
  | .release => { h with down := false }
  | .toggle => { h with down := !h.down }
  | .pulse ms => ⟨true, some (now + ms.toNat)⟩
  | .pulseRelease _ => h

/-- A deadline that is reached lets go of its button. -/
def settle (now : Nat) (h : Hold) : Hold :=
  match h.deadline? with
  | some d => if d ≤ now then {} else h
  | none => h

/-- Some milliseconds pass, one by one. -/
def pass (now : Nat) (h : Hold) : Nat → Hold
  | 0 => h
  | ms + 1 => pass (now + 1) (h.settle now) ms

/-- A button whose deadline is yet to come stays as it is. -/
theorem settle_eq_self {now : Nat} {h : Hold} (hd : ∀ d, h.deadline? = some d → now < d) :
    h.settle now = h := by
  unfold settle
  cases hk : h.deadline? with
  | none => rfl
  | some d => exact if_neg (Nat.not_le.mpr (hd d hk))

theorem settle_settle {a b : Nat} (h : Hold) (hab : a ≤ b) :
    (h.settle a).settle b = h.settle b := by
  unfold settle
  cases hk : h.deadline? with
  | none => simp [hk]
  | some d =>
    by_cases hd : d ≤ a
    · simp [hd, Nat.le_trans hd hab]
    · simp [hd, hk]

/-- To let time pass is to settle at its end. -/
theorem pass_settle (now : Nat) (h : Hold) (ms : Nat) :
    pass (now + 1) (h.settle now) ms = h.settle (now + ms) := by
  induction ms generalizing now h with
  | zero => rfl
  | succ ms ih =>
    rw [pass, ih, settle_settle h (by omega)]
    congr 1
    omega

/-- After it is settled no deadline is left that was reached. -/
theorem lt_of_settle {now d : Nat} {h : Hold} (hd : (h.settle now).deadline? = some d) :
    now < d := by
  unfold settle at hd
  cases hk : h.deadline? with
  | none => simp [hk] at hd
  | some e =>
    by_cases he : e ≤ now
    · simp [hk, he] at hd
    · simp only [hk, if_neg he, Option.some.injEq] at hd
      omega

end Hold

/-! ## The board -/

/-- All buttons at a point of time, and the jobs that were queued since the last wait. -/
structure Board where
  now : Nat := 0
  queued : List Job := []
  hold : ButtonKey → Hold := fun _ => {}

/-- A job acts on its own button. -/
def Board.act (now : Nat) (hold : ButtonKey → Hold) (job : Job) (k : ButtonKey) : Hold :=
  if k = job.key then (hold k).act now job.action else hold k

/-- What a client asks for: that a job is queued, or that some milliseconds pass. -/
inductive Request
  | submit (job : Job)
  | sleep (ms : Nat)

/-- Whether a request is anything but a release that claims to end a pulse. -/
def Request.isUntagged : Request → Bool
  | .submit job => job.generation?.isNone
  | .sleep _ => true

/-- The board after a request. During a wait all queued jobs act first, and then every deadline that
is reached before the client wakes up lets go of its button; one that is reached at the very
millisecond at which the wait starts does so even if no time passes. -/
def Board.serve (b : Board) : Request → Board
  | .submit job => { b with queued := b.queued ++ [job] }
  | .sleep ms =>
    let hold := b.queued.foldl (Board.act b.now) b.hold
    { now := b.now + ms
      hold := fun k => Hold.pass (b.now + 1) ((hold k).settle b.now) (ms - 1) }

/-- The session after a request. -/
def Session.serve (s : Session) : Request → Session
  | .submit job => (s.submit 0 job).value.2
  | .sleep ms => (s.sleep ms).value

/-! ## Showing -/

/-- A worker and its joystick show the buttons `hold`. For the buttons `late` the release of an
expired timer is queued, with the generation `gen` says, so that these are either armed again or
still have to be let go. -/
structure Shows (canFeed : ButtonKey → Bool) (w : Worker) (b : Backend) (hold : ButtonKey → Hold)
    (now : Nat) (late : List ButtonKey) (gen : ButtonKey → UInt64) : Prop where
  alone : (w.feeder b).Alone
  canFeed_eq : ∀ k, b.joystick.canFeed k = canFeed k
  pressed : ∀ k, b.joystick.isPressed k = (canFeed k && (hold k).down)
  prompt : ∀ k, k ∉ late → (w.tracker.timer? k).map Timer.deadline = (hold k).deadline?
  late : ∀ k ∈ late,
    (∃ timer, w.tracker.timer? k = some timer ∧ (hold k).deadline? = some timer.deadline) ∨
      w.tracker.confirms k (gen k) = true ∧ ∃ d, (hold k).deadline? = some d ∧ d ≤ now

namespace Shows

variable {canFeed : ButtonKey → Bool} {w : Worker} {b : Backend} {hold : ButtonKey → Hold}
  {late : List ButtonKey} {gen : ButtonKey → UInt64} {now : Moment} {job : Job}

/-- A job acts on its button as on the board. -/
theorem pressed_execute (h : Shows canFeed w b hold now.ms late gen)
    (hu : job.generation? = none) (k : ButtonKey) :
    (w.execute b now job).value.2.joystick.isPressed k =
      (canFeed k && (Board.act now.ms hold job k).down) := by
  rw [Worker.isPressed_execute h.alone, h.canFeed_eq, h.pressed, Board.act]
  by_cases hk : k = job.key
  · rw [if_pos hk]
    cases hf : canFeed k with
    | false => simp
    | true =>
      rw [if_pos ⟨hk, rfl⟩]
      obtain ⟨c, action⟩ := job
      cases action with
      | pulseRelease g => cases hu
      | _ => simp [Worker.write?, Hold.act]
  · rw [if_neg hk, if_neg fun hc => hk hc.1]

/-- What a job leaves of its worker still feeds the same buttons alone. -/
theorem fed_execute (h : Shows canFeed w b hold now.ms late gen) (job : Job) :
    ((w.execute b now job).value.1.feeder (w.execute b now job).value.2).Alone ∧
      ∀ k, (w.execute b now job).value.2.joystick.canFeed k = canFeed k := by
  have hf := Worker.execute_fed h.alone now job
  exact ⟨hf.alone, fun k => (hf.canFeed k).trans (h.canFeed_eq k)⟩

/-- A pulse arms its timer with the deadline of the board, and every other job leaves both alone. -/
theorem timer_execute (w : Worker) (hold : ButtonKey → Hold) (now : Moment)
    (hu : job.generation? = none) (k : ButtonKey) :
    (∃ timer, (w.trackerAfter now job).timer? k = some timer ∧
        (Board.act now.ms hold job k).deadline? = some timer.deadline) ∨
      (w.trackerAfter now job).isKnown k = w.tracker.isKnown k ∧
        (w.trackerAfter now job).pulses k = w.tracker.pulses k ∧
        (Board.act now.ms hold job k).deadline? = (hold k).deadline? := by
  by_cases hp : ∃ length, job = ⟨k, .pulse length⟩
  · obtain ⟨length, rfl⟩ := hp
    left
    refine ⟨⟨length.toNat, now, w.tracker.armings⟩, ?_, ?_⟩
    · refine (congrArg Pulses.timer? (Tracker.pulses_arm ..)).trans ?_
      rw [if_pos rfl]
    · rw [Board.act, if_pos rfl]
      rfl
  · obtain ⟨hk, hq⟩ := w.trackerAfter_of_ne_pulse now fun length he => hp ⟨length, he⟩
    refine .inr ⟨hk, hq, ?_⟩
    rw [Board.act]
    split
    · rename_i hc
      obtain ⟨c, action⟩ := job
      obtain rfl : k = c := hc
      cases action with
      | pulse length => exact absurd ⟨length, rfl⟩ hp
      | _ => rfl
    · rfl

/-- The worker executes a job as the board does. -/
theorem execute (h : Shows canFeed w b hold now.ms late gen) (hu : job.generation? = none) :
    Shows canFeed (w.execute b now job).value.1 (w.execute b now job).value.2
      (Board.act now.ms hold job) now.ms late gen := by
  obtain ⟨ha, hf⟩ := h.fed_execute job
  refine ⟨ha, hf, h.pressed_execute hu, fun k hk => ?_, fun k hk => ?_⟩
  · rw [Worker.execute_tracker]
    rcases timer_execute w hold now hu k with ⟨timer, ht, hd⟩ | ⟨-, hp, hd⟩
    · rw [ht, hd]
      rfl
    · rw [hd, ← h.prompt k hk, Tracker.timer?, hp]
      rfl
  · rw [Worker.execute_tracker]
    rcases timer_execute w hold now hu k with hn | ⟨hk', hp, hd⟩
    · exact .inl hn
    · rw [hd, Tracker.confirms_congr hk' hp, Tracker.timer?, hp]
      exact h.late k hk

/-- The worker executes jobs as the board does. -/
theorem executeAll {jobs : List Job} (h : Shows canFeed w b hold now.ms late gen)
    (hu : ∀ job ∈ jobs, job.generation? = none) :
    Shows canFeed (Worker.executeAll now (w, b) jobs).1 (Worker.executeAll now (w, b) jobs).2
      (jobs.foldl (Board.act now.ms) hold) now.ms late gen := by
  induction jobs generalizing w b hold with
  | nil => exact h
  | cons job jobs ih =>
    exact ih (h.execute (hu job List.mem_cons_self)) fun j hj => hu j (List.mem_cons_of_mem _ hj)

/-- A button with an armed timer confirms no release. -/
theorem not_confirms_of_timer? {t : Tracker} {k : ButtonKey} {timer : Timer} {g : UInt64}
    (h : t.timer? k = some timer) : ¬ t.confirms k g = true := by
  intro hc
  rw [Tracker.timer?, (Tracker.confirms_iff.mp hc).2] at h
  cases h

/-- A release that is queued for a late button finds it armed again, and does nothing. -/
theorem ending_of_armed {k : ButtonKey} {timer : Timer}
    (h : Shows canFeed w b hold now.ms (k :: late) gen) (ht : w.tracker.timer? k = some timer)
    (hd : (hold k).deadline? = some timer.deadline) :
    Shows canFeed (w.execute b now (Job.ending k (gen k))).value.1
      (w.execute b now (Job.ending k (gen k))).value.2 hold now.ms late gen := by
  obtain ⟨ha, hf⟩ := h.fed_execute (Job.ending k (gen k))
  have hw : (w.execute b now (Job.ending k (gen k))).value.1.tracker = w.tracker :=
    Worker.execute_tracker ..
  refine ⟨ha, hf, fun c => ?_, fun c hc => ?_, fun c hc => ?_⟩
  · rw [Worker.isPressed_execute h.alone, ← h.pressed]
    split
    · rename_i hc
      obtain rfl : c = k := hc.1
      rw [Worker.write?_ending, if_neg (not_confirms_of_timer? ht)]
      rfl
    · rfl
  · rw [hw]
    by_cases hck : c = k
    · rw [hck, ht, hd]
      rfl
    · exact h.prompt c (List.not_mem_cons_of_ne_of_not_mem hck hc)
  · rw [hw]
    exact h.late c (List.mem_cons_of_mem _ hc)

/-- A release that is queued for a late button and confirmed lets go of it. -/
theorem ending_of_confirms {k : ButtonKey} (h : Shows canFeed w b hold now.ms (k :: late) gen)
    (hk : k ∉ late) (hg : w.tracker.confirms k (gen k) = true) :
    Shows canFeed (w.execute b now (Job.ending k (gen k))).value.1
      (w.execute b now (Job.ending k (gen k))).value.2 (fun c => if c = k then {} else hold c)
      now.ms late gen := by
  obtain ⟨ha, hf⟩ := h.fed_execute (Job.ending k (gen k))
  have hw : (w.execute b now (Job.ending k (gen k))).value.1.tracker = w.tracker :=
    Worker.execute_tracker ..
  refine ⟨ha, hf, fun c => ?_, fun c hc => ?_, fun c hc => ?_⟩
  · rw [Worker.isPressed_execute h.alone, h.canFeed_eq, h.pressed]
    by_cases hck : c = k
    · subst hck
      cases hfc : canFeed c with
      | false => simp
      | true =>
        rw [if_pos ⟨rfl, rfl⟩, if_pos rfl, Worker.write?_ending, if_pos hg]
        rfl
    · rw [if_neg hck, if_neg fun hc => hck hc.1]
  · rw [hw]
    by_cases hck : c = k
    · rw [if_pos hck, hck, Tracker.timer?, (Tracker.confirms_iff.mp hg).2]
      rfl
    · rw [if_neg hck]
      exact h.prompt c (List.not_mem_cons_of_ne_of_not_mem hck hc)
  · have hck : c ≠ k := by
      rintro rfl
      exact hk hc
    rw [hw, if_neg hck]
    exact h.late c (List.mem_cons_of_mem _ hc)

/-- A release that is queued for a late button lets go of it, unless it is armed again. -/
theorem ending {k : ButtonKey} (h : Shows canFeed w b hold now.ms (k :: late) gen)
    (hk : k ∉ late) :
    ∃ hold', Shows canFeed (w.execute b now (Job.ending k (gen k))).value.1
        (w.execute b now (Job.ending k (gen k))).value.2 hold' now.ms late gen ∧
      ∀ c, (hold' c).settle now.ms = (hold c).settle now.ms := by
  rcases h.late k List.mem_cons_self with ⟨timer, ht, hd⟩ | ⟨hg, d, hd, hle⟩
  · exact ⟨hold, h.ending_of_armed ht hd, fun c => rfl⟩
  · refine ⟨_, h.ending_of_confirms hk hg, fun c => ?_⟩
    by_cases hc : c = k
    · rw [if_pos hc, hc, Hold.settle, Hold.settle, hd]
      simp [hle]
    · rw [if_neg hc]

/-- All queued releases of late buttons are dealt with. -/
theorem endings (h : Shows canFeed w b hold now.ms late gen) (hn : late.Nodup) :
    ∃ hold', Shows canFeed
        (Worker.executeAll now (w, b) (late.map fun k => Job.ending k (gen k))).1
        (Worker.executeAll now (w, b) (late.map fun k => Job.ending k (gen k))).2
        hold' now.ms [] gen ∧
      ∀ c, (hold' c).settle now.ms = (hold c).settle now.ms := by
  induction late generalizing w b hold with
  | nil => exact ⟨hold, h, fun c => rfl⟩
  | cons k late ih =>
    rw [List.nodup_cons] at hn
    obtain ⟨hold₁, h₁, he₁⟩ := h.ending hn.1
    obtain ⟨hold₂, h₂, he₂⟩ := ih h₁ hn.2
    exact ⟨hold₂, h₂, fun c => (he₂ c).trans (he₁ c)⟩

theorem of_nil (h : Shows canFeed w b hold now.ms [] gen) (now' : Nat) (gen' : ButtonKey → UInt64) :
    Shows canFeed w b hold now' [] gen' :=
  ⟨h.alone, h.canFeed_eq, h.pressed, h.prompt, fun _ hk => absurd hk List.not_mem_nil⟩

end Shows

/-! ## Sessions -/

/-- A session with one dispatcher that runs and shows the buttons `hold`, with jobs still queued. -/
structure Tracks (canFeed : ButtonKey → Bool) (s : Session) (jobs : List Job)
    (hold : ButtonKey → Hold) : Prop where
  ready : s.Ready
  running : s.worker.phase = .running
  notCancelled : s.worker.cancelled = false
  isOpen : s.worker.queue.isOpen = true
  hasSender : s.worker.queue.hasSender = true
  jobs_eq : s.worker.queue.jobs = jobs
  shows : Shows canFeed s.worker s.backend hold 0 [] fun _ => 0

namespace Tracks

variable {canFeed : ButtonKey → Bool} {s : Session} {jobs : List Job} {hold : ButtonKey → Hold}

/-- A button of the board has the deadline of its timer. -/
theorem deadline?_eq (h : Tracks canFeed s jobs hold) (k : ButtonKey) :
    (s.worker.tracker.timer? k).map Timer.deadline = (hold k).deadline? :=
  h.shows.prompt k List.not_mem_nil

theorem timer_of_deadline? (h : Tracks canFeed s jobs hold) {k : ButtonKey} {d : Nat}
    (hd : (hold k).deadline? = some d) :
    ∃ timer, s.worker.tracker.timer? k = some timer ∧ timer.deadline = d :=
  Option.map_eq_some_iff.mp ((h.deadline?_eq k).trans hd)

/-- The timers that are due expire. -/
theorem expireAll_spec (h : Tracks canFeed s jobs hold) (now : Nat) :
    let w := s.worker.expireAll (s.dueKeys now)
    (∀ k, w.tracker.isKnown k = s.worker.tracker.isKnown k) ∧
      (∀ k, w.tracker.pulses k =
        if k ∈ s.dueKeys now then ⟨(s.worker.tracker.pulses k).generation, none⟩
        else s.worker.tracker.pulses k) ∧
      w.queue = { s.worker.queue with
        jobs := jobs ++ (s.dueKeys now).map fun k =>
          Job.ending k (s.worker.tracker.pulses k).generation } := by
  have hk : ∀ k ∈ s.dueKeys now, s.worker.tracker.isArmed k = true := by
    intro k hk
    obtain ⟨timer, ht, -⟩ := (Session.mem_dueKeys h.ready.size).mp hk
    rw [Tracker.isArmed, ht]
    rfl
  have hx := Tracker.expireAll_spec (Session.nodup_dueKeys h.ready.size now) hk h.hasSender h.isOpen
  rw [h.jobs_eq] at hx
  exact hx

/-- Expired timers make their buttons late. -/
theorem shows_expireAll (h : Tracks canFeed s jobs hold) (now : Nat) :
    Shows canFeed (s.worker.expireAll (s.dueKeys now)) s.backend hold now (s.dueKeys now)
      fun k => (s.worker.tracker.pulses k).generation := by
  obtain ⟨hk, hp, -⟩ := h.expireAll_spec now
  refine ⟨h.shows.alone, h.shows.canFeed_eq, h.shows.pressed, fun k hn => ?_, fun k hm => ?_⟩
  · rw [Tracker.timer?, hp, if_neg hn]
    exact h.deadline?_eq k
  · obtain ⟨timer, ht, hd⟩ := (Session.mem_dueKeys h.ready.size).mp hm
    refine .inr ⟨Tracker.confirms_iff.mpr ⟨?_, ?_⟩, timer.deadline, ?_, hd⟩
    · rw [hk]
      exact Tracker.isKnown_of_isArmed (by rw [Tracker.isArmed, ht]; rfl)
    · rw [hp, if_pos hm]
    · rw [← h.deadline?_eq k, ht]
      rfl

/-- No timer that is due at a moment is left armed at it once it has expired. -/
theorem lt_of_timer?_expireAll (h : Tracks canFeed s jobs hold) {now : Nat} {k : ButtonKey}
    {timer : Timer}
    (ht : (s.worker.expireAll (s.dueKeys now)).tracker.timer? k = some timer) :
    now < timer.deadline := by
  rw [Tracker.timer?, (h.expireAll_spec now).2.1] at ht
  split at ht
  · cases ht
  · rename_i hk
    exact Nat.not_le.mp fun hle => hk ((Session.mem_dueKeys h.ready.size).mpr ⟨timer, ht, hle⟩)

/-- After a round the session shows the buttons on which the queued jobs acted, up to deadlines that
are reached; without queued jobs no deadline is left that was reached. -/
theorem round (h : Tracks canFeed s jobs hold) (hu : ∀ job ∈ jobs, job.generation? = none)
    (now : Nat) :
    ∃ hold', Tracks canFeed (s.round now).value [] hold' ∧
      (∀ k, (hold' k).settle now = (jobs.foldl (Board.act now) hold k).settle now) ∧
      (jobs = [] → ∀ k d, (hold' k).deadline? = some d → now < d) := by
  obtain ⟨turn, hr, hw, hb⟩ := Session.round_spec h.ready h.running h.notCancelled h.isOpen
    h.hasSender now
  obtain ⟨-, -, hq⟩ := h.expireAll_spec now
  have hs := h.shows_expireAll now
  have hlt : ∀ k timer, (s.worker.expireAll (s.dueKeys now)).tracker.timer? k = some timer →
      now < timer.deadline := fun _ _ => h.lt_of_timer?_expireAll
  generalize hx : s.worker.expireAll (s.dueKeys now) = w at hw hb hq hs hlt
  have hwp : w.phase = .running := hx ▸ h.running
  have hwc : w.cancelled = false := hx ▸ h.notCancelled
  rw [hq] at hw hb
  obtain ⟨hfq, hfp, hfc⟩ := Worker.executeAll_frame ⟨now, turn⟩
    (w.setQueue { s.worker.queue with jobs := [] }, s.backend)
    (jobs ++ (s.dueKeys now).map fun k => Job.ending k (s.worker.tracker.pulses k).generation)
  have hs' : Shows canFeed (w.setQueue { s.worker.queue with jobs := [] }) s.backend hold
      (Moment.mk now turn).ms (s.dueKeys now) fun k => (s.worker.tracker.pulses k).generation :=
    ⟨hs.alone, hs.canFeed_eq, hs.pressed, hs.prompt, hs.late⟩
  obtain ⟨hold', hh, he⟩ := (hs'.executeAll hu).endings (Session.nodup_dueKeys h.ready.size now)
  rw [← Worker.executeAll_append] at hh
  have hshows := hh.of_nil 0 fun _ => 0
  rw [← hw, ← hb] at hshows
  rw [← hw] at hfq hfp hfc
  have ht : Tracks canFeed (s.round now).value [] hold' :=
    ⟨hr, hfp.trans hwp, hfc.trans hwc, (congrArg Queue.isOpen hfq).trans h.isOpen,
      (congrArg Queue.hasSender hfq).trans h.hasSender, congrArg Queue.jobs hfq, hshows⟩
  refine ⟨hold', ht, he, ?_⟩
  rintro rfl k d hd
  -- releases alone arm no timer
  have hrel : ∀ job ∈ ([] ++ (s.dueKeys now).map fun k =>
      Job.ending k (s.worker.tracker.pulses k).generation), job.mode = .release := by
    intro job hj
    obtain ⟨c, -, rfl⟩ := List.mem_map.mp hj
    rfl
  obtain ⟨timer, htk, rfl⟩ := ht.timer_of_deadline? hd
  rw [hw, Worker.executeAll_tracker_of_release hrel] at htk
  exact hlt k timer htk

/-- After a moment the session shows the buttons on which the queued jobs acted, and of which every
deadline that was reached let go. -/
theorem instant (h : Tracks canFeed s jobs hold) (hu : ∀ job ∈ jobs, job.generation? = none)
    (now : Nat) :
    Tracks canFeed (s.instant now).value []
      fun k => (jobs.foldl (Board.act now) hold k).settle now := by
  obtain ⟨hold₁, h₁, he₁, -⟩ := h.round hu now
  have hv : (s.instant now).value =
      if ((s.round now).value.due now).isEmpty then (s.round now).value
      else ((s.round now).value.round now).value := by
    simp only [Session.instant, Logged.value_bind, Logged.value_ite, Logged.value_pure]
  rw [hv]
  split
  · rename_i hd
    have hs : hold₁ = fun k => (jobs.foldl (Board.act now) hold k).settle now := by
      funext k
      rw [← he₁]
      refine (Hold.settle_eq_self fun d hk => ?_).symm
      obtain ⟨timer, ht, rfl⟩ := h₁.timer_of_deadline? hk
      refine Nat.not_le.mp fun hle => ?_
      have hm : (0, k, timer) ∈ (s.round now).value.due now :=
        (Session.mem_due h₁.ready.size).mpr ⟨rfl, ht, hle⟩
      rw [List.isEmpty_iff.mp hd] at hm
      exact absurd hm List.not_mem_nil
    exact hs ▸ h₁
  · obtain ⟨hold₂, h₂, he₂, hd₂⟩ := h₁.round (fun _ hj => absurd hj List.not_mem_nil) now
    have hs : hold₂ = fun k => (jobs.foldl (Board.act now) hold k).settle now := by
      funext k
      rw [← he₁, ← Hold.settle_eq_self (hd₂ rfl k)]
      exact he₂ k
    exact hs ▸ h₂

/-- Where no deadline is left before `wake`, the buttons stay as they are until then. -/
theorem settle_of_le (h : Tracks canFeed s jobs hold) {now wake : Nat}
    (hn : ∀ k, (hold k).settle now = hold k)
    (hw : ∀ k timer, s.worker.tracker.timer? k = some timer → wake ≤ timer.deadline) :
    hold = fun k => (hold k).settle (max now (wake - 1)) := by
  funext k
  refine (Hold.settle_eq_self fun d hd => ?_).symm
  have hlt : now < d := by
    rw [← hn k] at hd
    exact Hold.lt_of_settle hd
  obtain ⟨timer, ht, rfl⟩ := h.timer_of_deadline? hd
  have hle := hw k timer ht
  omega

/-- A wait shows what the board shows after it: the queued jobs act, and then every deadline before
its end lets go. -/
theorem elapse (h : Tracks canFeed s jobs hold) (hu : ∀ job ∈ jobs, job.generation? = none)
    (wake now : Nat) :
    Tracks canFeed (Dispatch.elapse Session.nextDeadline? Session.instant wake now s).value.2 []
      fun k => (jobs.foldl (Board.act now) hold k).settle (max now (wake - 1)) := by
  -- by induction on the time that is left, from one deadline to the next
  induction hm : wake - now using Nat.strongRecOn generalizing s jobs hold now with
  | ind m ih =>
    subst hm
    have hi := h.instant hu now
    generalize jobs.foldl (Board.act now) hold = acted at hi
    have hss : (fun k => (acted k).settle (max now (wake - 1))) =
        fun k => ((acted k).settle now).settle (max now (wake - 1)) := by
      funext k
      exact (Hold.settle_settle _ (Nat.le_max_left ..)).symm
    have hn : ∀ k, ((acted k).settle now).settle now = (acted k).settle now := fun k =>
      Hold.settle_settle _ (Nat.le_refl _)
    rw [hss, Dispatch.elapse, Logged.value_bind]
    cases hd : (s.instant now).value.nextDeadline? with
    | none =>
      rw [Session.nextDeadline?_eq hi.ready.size] at hd
      rw [← hi.settle_of_le hn fun k timer ht => by
        rw [Tracker.nextDeadline?_eq_none hd k] at ht
        cases ht]
      exact hi
    | some next =>
      rw [Session.nextDeadline?_eq hi.ready.size] at hd
      obtain ⟨⟨k, timer, ht, he⟩, hmin⟩ := Tracker.nextDeadline?_eq_some hd
      have hlt : now < next := by
        refine Hold.lt_of_settle (h := acted k) ?_
        rw [← hi.deadline?_eq k, ht, ← he]
        rfl
      by_cases hc : now < next ∧ next < wake
      · have hr := ih (wake - next) (by omega) hi (fun _ hj => absurd hj List.not_mem_nil) next rfl
        have hmax : max next (wake - 1) = max now (wake - 1) := by omega
        rw [hmax] at hr
        simp only [dif_pos hc]
        exact hr
      · rw [← hi.settle_of_le hn fun k timer ht => by
          have hle := hmin k timer ht
          omega]
        simp only [dif_neg hc]
        exact hi

/-- The job that a client submits is queued last. -/
theorem submit (h : Tracks canFeed s jobs hold) (job : Job) :
    Tracks canFeed (s.submit 0 job).value.2 (jobs ++ [job]) hold ∧
      (s.submit 0 job).value.2.now = s.now := by
  have hv : (s.submit 0 job).value.2 =
      (s.setWorker 0 (s.worker.setQueue
        { s.worker.queue with jobs := s.worker.queue.jobs ++ [job] })).wake 0 := by
    have ho : (s.lane 0).worker.queue.isOpen = true := h.isOpen
    simp only [Session.submit, Session.enqueue, Queue.enqueue, Queue.send?, ho, ↓reduceIte,
      Logged.value_bind, Logged.value_pure]
    rfl
  rw [hv, h.jobs_eq]
  obtain ⟨hr, hw, hb⟩ := Session.ready_wake h.ready
    (s.worker.setQueue { s.worker.queue with jobs := jobs ++ [job] })
  refine ⟨⟨hr, ?_, ?_, ?_, ?_, ?_, ?_⟩, Session.now_wake ..⟩
  · exact (congrArg Worker.phase hw).trans h.running
  · exact (congrArg Worker.cancelled hw).trans h.notCancelled
  · exact (congrArg (·.queue.isOpen) hw).trans h.isOpen
  · exact (congrArg (·.queue.hasSender) hw).trans h.hasSender
  · exact congrArg (·.queue.jobs) hw
  · rw [hw, hb]
    exact ⟨h.shows.alone, h.shows.canFeed_eq, h.shows.pressed, h.shows.prompt, h.shows.late⟩

/-- A session that goes on at another time shows the same. -/
theorem setNow (h : Tracks canFeed s jobs hold) (now : Nat) :
    Tracks canFeed { s with now } jobs hold :=
  ⟨⟨h.ready.size, h.ready.awake⟩, h.running, h.notCancelled, h.isOpen, h.hasSender, h.jobs_eq,
    h.shows⟩

end Tracks

/-! ## Runs of requests -/

/-- A session that shows a board, with its jobs and its time. -/
structure Follows (canFeed : ButtonKey → Bool) (s : Session) (b : Board) : Prop where
  tracks : Tracks canFeed s b.queued b.hold
  now_eq : s.now = b.now
  untagged : ∀ job ∈ b.queued, job.generation? = none

/-- A new session shows an empty board. -/
theorem follows_start (devices : List UInt32) (fastTicks : UInt32) (settings : Settings) :
    Follows (Joystick.ofAvailable devices).canFeed
      (Session.start (Joystick.ofAvailable devices) 1 fastTicks settings).value {} where
  tracks := by
    refine ⟨⟨rfl, .inl rfl⟩, rfl, rfl, rfl, rfl, rfl, Feeder.alone_ofAvailable devices,
      fun _ => rfl, fun k => ?_, fun _ _ => rfl, fun _ hk => absurd hk List.not_mem_nil⟩
    rw [Bool.and_false]
    exact Bank.isDown_empty k.button
  now_eq := rfl
  untagged _ hj := absurd hj List.not_mem_nil

/-- Every request keeps a session and a board in step. -/
theorem Follows.serve {canFeed : ButtonKey → Bool} {s : Session} {b : Board} {r : Request}
    (h : Follows canFeed s b) (hu : r.isUntagged = true) :
    Follows canFeed (s.serve r) (b.serve r) := by
  cases r with
  | submit job =>
    obtain ⟨ht, hn⟩ := h.tracks.submit job
    refine ⟨ht, hn.trans h.now_eq, fun j hj => ?_⟩
    rcases List.mem_append.mp hj with hj | hj
    · exact h.untagged j hj
    · rw [List.mem_singleton.mp hj]
      exact Option.isNone_iff_eq_none.mp hu
  | sleep ms =>
    have ht := h.tracks.elapse h.untagged (s.now + ms) s.now
    have hn := Session.now_elapse (s.now + ms) s.now s
    generalize hx : (Dispatch.elapse Session.nextDeadline? Session.instant (s.now + ms) s.now
      s).value.2 = u at ht hn
    have hv : s.serve (.sleep ms) = { u with now := u.now + ms } := by
      rw [← hx]
      rfl
    have hb : (b.serve (.sleep ms)).hold = fun k =>
        (b.queued.foldl (Board.act b.now) b.hold k).settle (max b.now (b.now + ms - 1)) := by
      funext k
      rw [show max b.now (b.now + ms - 1) = b.now + (ms - 1) by omega, ← Hold.pass_settle]
      rfl
    rw [hv]
    refine ⟨?_, ?_, fun _ hj => absurd hj List.not_mem_nil⟩
    · rw [hb, ← h.now_eq]
      exact ht.setNow _
    · show u.now + ms = b.now + ms
      rw [hn, h.now_eq]

/-- So do all requests, one after the other. -/
theorem Follows.serveAll {canFeed : ButtonKey → Bool} {s : Session} {b : Board}
    {requests : List Request} (h : Follows canFeed s b)
    (hu : ∀ r ∈ requests, r.isUntagged = true) :
    Follows canFeed (requests.foldl Session.serve s) (requests.foldl Board.serve b) := by
  induction requests generalizing s b with
  | nil => exact h
  | cons r requests ih =>
    exact ih (h.serve (hu r List.mem_cons_self)) fun r hr => hu r (List.mem_cons_of_mem _ hr)

/-- One dispatcher over a fresh joystick that nobody else uses, and a client that queues untagged
jobs and waits, in any order. After every request a button of the session is armed exactly if it has
a deadline on the board, and it is pressed exactly if it is down there and can be fed at all. -/
theorem session_shows_board (devices : List UInt32) (fastTicks : UInt32) (settings : Settings)
    (requests : List Request) (hu : ∀ r ∈ requests, r.isUntagged = true) (k : ButtonKey) :
    let s := requests.foldl Session.serve
      (Session.start (Joystick.ofAvailable devices) 1 fastTicks settings).value
    let b := requests.foldl Board.serve {}
    s.worker.phase = .running ∧
      s.worker.tracker.isArmed k = (b.hold k).deadline?.isSome ∧
      s.backend.joystick.isPressed k =
        ((Joystick.ofAvailable devices).canFeed k && (b.hold k).down) := by
  have hf := ((follows_start devices fastTicks settings).serveAll hu).tracks
  refine ⟨hf.running, ?_, hf.shows.pressed k⟩
  rw [← hf.deadline?_eq k, Option.isSome_map]
  rfl

/-- A pulse whose timer is due at the very millisecond at which its button is pulsed again holds the
button on; a pulse of another button without length is over at once. -/
theorem session_shows_board_restarted :
    let k : ButtonKey := ⟨1, 1⟩
    let c : ButtonKey := ⟨1, 2⟩
    let requests : List Request := [.submit ⟨k, .pulse 100⟩, .sleep 100, .submit ⟨k, .pulse 100⟩,
      .submit ⟨c, .pulse 0⟩, .sleep 1]
    let s := requests.foldl Session.serve (Session.start (Joystick.ofAvailable [1]) 1 0 {}).value
    (s.worker.tracker.isArmed k = true ∧ s.backend.joystick.isPressed k = true) ∧
      s.worker.tracker.isArmed c = false ∧ s.backend.joystick.isPressed c = false := by
  intro k c requests s
  obtain ⟨-, hak, hpk⟩ := session_shows_board [1] 0 {} requests (by decide) k
  obtain ⟨-, hac, hpc⟩ := session_shows_board [1] 0 {} requests (by decide) c
  exact ⟨⟨hak.trans (by decide +kernel), hpk.trans (by decide +kernel)⟩,
    hac.trans (by decide +kernel), hpc.trans (by decide +kernel)⟩

end ControlDeck
