import ControlDeck.Proofs.Accounts
import ControlDeck.Proofs.Isolation
import ControlDeck.Proofs.Rounds
import ControlDeck.Proofs.Turns

/-!
# Sessions are courses

A session lets its workers and timers take their steps in an order of its own. Whatever it is asked
for, all that happens is a course of its dispatchers.

- **By itself** (`Crew.Leads`): courses in which nobody asks for anything: time passes, timers
  expire and workers go on. They leave the surfaces, the ways to the queues and the cache alone
  (`Course.keeps`).
- **Aligned** (`Aligned`): the dispatchers of a session and those of a course have the same workers.
  All that a session does while it waits is led to (`Aligned.turn`, `Aligned.round`,
  `Aligned.elapse`).
- **Plays** (`Plays`): a course has come to where a session is. Everything asked of the session is a
  deed of the course with the same reply (`Plays.answer`), and a wait goes by itself
  (`Plays.sleep`).
- `session_course`: every session is such a course, and with `session_isolated` what is said about
  dispatchers on different devices holds of the dispatchers of a session.
-/

namespace ControlDeck

open Command Device Dispatch

/-! ## By itself -/

namespace Incident

variable {ι : Type}

/-- Whether something is asked of a dispatcher. -/
def isAsked : Incident ι → Bool
  | .act _ (.step _) | .wait _ => false
  | .act _ _ => true

/-- Whether an incident happens though nobody asks for it, and nobody goes away. -/
def IsOwn : Incident ι → Prop
  | .act _ (.step e) => e ≠ .dropSender
  | .act _ _ => False
  | .wait _ => True

theorem IsOwn.isAsked {x : Incident ι} (h : x.IsOwn) : x.isAsked = false := by
  cases x with
  | wait => rfl
  | act i deed =>
    cases deed with
    | step => rfl
    | _ => exact h.elim

end Incident

/-- What does not change at a dispatcher of which nothing is asked. -/
structure Seat.Keeps (p q : Seat) : Prop where
  surface : q.surface = p.surface
  lifetime : q.lifetime = p.lifetime
  cancelled : q.worker.cancelled = p.worker.cancelled
  hasSender : q.worker.queue.hasSender = p.worker.queue.hasSender

theorem Seat.Keeps.refl (p : Seat) : p.Keeps p := ⟨rfl, rfl, rfl, rfl⟩

theorem Seat.Keeps.trans {p q r : Seat} (h : p.Keeps q) (h' : q.Keeps r) : p.Keeps r :=
  ⟨h'.surface.trans h.surface, h'.lifetime.trans h.lifetime, h'.cancelled.trans h.cancelled,
    h'.hasSender.trans h.hasSender⟩

/-- A step of a worker or a timer leaves everything else about its dispatcher alone. -/
theorem Seat.keeps_step {p : Seat} {c : Common} {e : Event} (ht : p.Timely c.now e)
    (he : e ≠ .dropSender) : p.Keeps (p.setRig ((p.rig c).apply e)) where
  surface := rfl
  lifetime := rfl
  cancelled := by
    refine (Rig.cancelled_apply (p.rig c) e).trans ?_
    split
    · exact ht.elim
    · rfl
  hasSender := by
    refine (Rig.hasSender_apply (p.rig c) e).trans ?_
    split
    · exact absurd rfl he
    · rfl

section

variable {ι : Type} [DecidableEq ι] {w v : Crew ι} {left right : List (Incident ι × Feedback)}
  {P Q : Crew ι → Prop} {i : ι} {x : Incident ι}

theorem Course.append (hl : Course w left v) {u : Crew ι} (hr : Course v right u) :
    Course w (left ++ right) u := by
  induction hr with
  | nil => rwa [List.append_nil]
  | snoc _ he ih =>
    rw [← List.append_assoc]
    exact ih.snoc he

namespace Crew

/-- Without being asked, dispatchers come to have a property. -/
def Leads (w : Crew ι) (P : Crew ι → Prop) : Prop :=
  ∃ trace v, Course w trace v ∧ (∀ x ∈ trace, x.1.IsOwn) ∧ P v

theorem Leads.refl (h : P w) : w.Leads P := ⟨[], w, .nil, fun _ hx => absurd hx List.not_mem_nil, h⟩

theorem Leads.single (ha : w.Allows x) (hx : x.IsOwn) (h : P (w.apply x).2) : w.Leads P :=
  ⟨_, _, Course.nil.snoc ha, List.forall_mem_singleton.mpr hx, h⟩

theorem Leads.bind (h : w.Leads P) (hq : ∀ v, P v → v.Leads Q) : w.Leads Q := by
  obtain ⟨trace, v, hc, hx, hp⟩ := h
  obtain ⟨trace', u, hc', hx', hq⟩ := hq v hp
  exact ⟨_, u, hc.append hc', List.forall_mem_append.mpr ⟨hx, hx'⟩, hq⟩

/-- The worker of a dispatcher in front of the joystick. -/
def rig (w : Crew ι) (i : ι) : Rig := (w.seats i).rig w.common

/-- Goes on with the worker of a rig. -/
def putRig (w : Crew ι) (i : ι) (s : Rig) : Crew ι where
  seats j := if j = i then (w.seats i).setRig s else w.seats j
  common := { w.common with backend := s.backend }

@[simp] theorem rig_putRig (w : Crew ι) (i : ι) (s : Rig) : (w.putRig i s).rig i = s := by
  simp [rig, putRig, Seat.rig, Seat.setRig]

@[simp] theorem putRig_putRig (w : Crew ι) (i : ι) (s t : Rig) :
    (w.putRig i s).putRig i t = w.putRig i t := by
  simp only [putRig, ↓reduceIte, mk.injEq, and_true]
  funext j
  split <;> rfl

@[simp] theorem putRig_rig (w : Crew ι) (i : ι) : w.putRig i (w.rig i) = w := by
  obtain ⟨seats, common⟩ := w
  simp only [putRig, mk.injEq]
  refine ⟨funext fun j => ?_, rfl⟩
  split
  · rename_i h
    rw [h]
    rfl
  · rfl

/-- Goes on with another dispatcher. -/
def putSeat (w : Crew ι) (i : ι) (p : Seat) : Crew ι :=
  { w with seats := fun j => if j = i then p else w.seats j }

@[simp] theorem putSeat_self (w : Crew ι) (i : ι) : w.putSeat i (w.seats i) = w := by
  obtain ⟨seats, common⟩ := w
  simp only [putSeat, mk.injEq, and_true]
  funext j
  split
  · rename_i h
    rw [h]
  · rfl

theorem apply_step (w : Crew ι) (i : ι) (e : Event) :
    (w.apply (.act i (.step e))).2 = w.putRig i ((w.rig i).apply e) := rfl

end Crew

/-- The steps of a worker in a turn, one after the other. -/
theorem Crew.leads_run (now : Moment) (hn : now.ms = w.common.now) {trace : List Transition}
    {u : Rig} (h : Run (w.rig i) trace u) (ht : ∀ t ∈ trace, t.event.InTurn now) :
    w.Leads (· = w.putRig i u) := by
  induction h with
  | nil => exact .refl (w.putRig_rig i).symm
  | @snoc trace m e _ he ih =>
    rw [List.forall_mem_append, List.forall_mem_singleton] at ht
    refine (ih ht.1).bind ?_
    rintro _ rfl
    refine .single (x := .act i (.step e)) ⟨?_, ?_⟩ ?_ ?_
    · rwa [show (Seat.rig _ _) = m from w.rig_putRig i m]
    · have hm := ht.2
      cases e with
      | execute | flush => exact (congrArg Moment.ms hm).trans hn
      | leave | disarm | close | release | stop => exact True.intro
      | _ => exact hm.elim
    · rintro rfl
      exact ht.2
    · rw [apply_step, rig_putRig, putRig_putRig]

/-- What is not asked for leaves the dispatchers alone but for their workers, and the cache. -/
theorem Course.keeps {trace : List (Incident ι × Feedback)} (h : Course w trace v)
    (hx : ∀ x ∈ trace, x.1.IsOwn) :
    (∀ i, (w.seats i).Keeps (v.seats i)) ∧ v.common.cache = w.common.cache := by
  induction h with
  | nil => exact ⟨fun i => .refl _, rfl⟩
  | @snoc trace v x _ he ih =>
    rw [List.forall_mem_append, List.forall_mem_singleton] at hx
    obtain ⟨hk, hc⟩ := ih hx.1
    cases x with
    | wait => exact ⟨hk, hc⟩
    | act j deed =>
      cases deed with
      | step e =>
        refine ⟨fun i => (hk i).trans ?_, hc⟩
        rw [Crew.apply_step, Crew.putRig]
        dsimp only
        split
        · rename_i hij
          subst hij
          exact Seat.keeps_step he.2 hx.2
        · exact .refl _
      | _ => exact hx.2.elim

end

/-! ## Aligned -/

section

variable {n : Nat} {lanes : Fin n → Lane} {w : Crew (Fin n)} {s : Session} {now : Nat}

/-- A session at a point of time, against a course: the workers of both are the same, each between
two turns, and all else about the dispatchers of the session is as in `lanes`. -/
structure Aligned (lanes : Fin n → Lane) (w : Crew (Fin n)) (s : Session) (now : Nat) : Prop where
  size : s.lanes.size = n
  lane : ∀ i : Fin n, s.lane i = { lanes i with worker := (w.seats i).worker }
  settled : ∀ i, (w.rig i).Settled
  common : w.common = ⟨s.backend, s.cache, now⟩
  awake : ∀ i ∈ s.awake, i < n

namespace Aligned

theorem worker (h : Aligned lanes w s now) (i : Fin n) : (s.lane i).worker = (w.rig i).worker := by
  rw [h.lane]
  rfl

theorem lt_size (h : Aligned lanes w s now) (i : Fin n) : i.val < s.lanes.size :=
  lt_of_lt_of_eq i.isLt h.size.symm

/-- The worker of a dispatcher is replaced. -/
theorem put (h : Aligned lanes w s now) (i : Fin n) {u : Rig} (hu : u.Settled) :
    Aligned lanes (w.putRig i u) { s.setWorker i u.worker with backend := u.backend } now where
  size := (Array.size_setIfInBounds ..).trans h.size
  lane j := by
    refine (Session.lane_setWorker (h.lt_size i) _).trans ?_
    simp only [Fin.val_inj, Crew.putRig]
    split
    · rename_i hj
      rw [hj, h.lane]
      rfl
    · exact h.lane j
  settled j := by
    by_cases hj : j = i
    · subst hj
      rwa [Crew.rig_putRig]
    · have hr := h.settled j
      simpa [Rig.Settled, Crew.rig, Crew.putRig, Seat.rig, hj] using hr
  common := by simp [Crew.putRig, h.common, Session.setWorker, Session.setLane]
  awake := h.awake

theorem wake (h : Aligned lanes w s now) (i : Fin n) : Aligned lanes w (s.wake i) now := by
  refine ⟨?_, fun j => (s.lane_wake i j).trans (h.lane j), h.settled, ?_, fun j hj => ?_⟩
  · unfold Session.wake
    split <;> exact h.size
  · unfold Session.wake
    split <;> exact h.common
  · exact (Session.mem_wake.mp hj).elim (h.awake j) (· ▸ i.isLt)

/-- The turn of a worker is led to. -/
theorem turn (h : Aligned lanes w s now) (i : Fin n) :
    w.Leads (Aligned lanes · (s.runWorker now i).value now) := by
  have ht : Aligned lanes w { s with turns := s.turns + 1 } now :=
    ⟨h.size, h.lane, h.settled, h.common, h.awake⟩
  have hb : s.backend = (w.rig i).backend := congrArg Common.backend h.common.symm
  rw [Session.runWorker_value, h.worker i, hb]
  split
  · rename_i hp
    obtain ⟨trace, u, hr, hm, hu, hs⟩ := Rig.reaches_turn ⟨now, s.turns⟩ (h.settled i) hp
    rw [← hu]
    refine (Crew.leads_run ⟨now, s.turns⟩ ?_ hr hm).bind ?_
    · rw [h.common]
    · rintro _ rfl
      exact .refl (ht.put i hs)
  · rw [← hb]
    exact .refl ht

/-- Workers have their turns one after the other. -/
theorem turns (h : Aligned lanes w s now) {is : List Nat} (hi : ∀ i ∈ is, i < n) :
    w.Leads (Aligned lanes · (is.foldl (fun s i => (s.runWorker now i).value) s) now) := by
  induction is generalizing w s with
  | nil => exact .refl h
  | cons i is ih =>
    rw [List.forall_mem_cons] at hi
    exact (h.turn ⟨i, hi.1⟩).bind fun v hv => ih hv hi.2

/-- A timer expires that is due. -/
theorem expire (h : Aligned lanes w s now) (i : Fin n) {k : ButtonKey}
    (hd : ∀ timer ∈ (s.lane i).worker.tracker.timer? k, timer.deadline ≤ now) :
    w.Leads (Aligned lanes · (s.expire i k).value now) := by
  have hw := h.worker i
  have hv : (s.expire i k).value = Session.wake { s.setWorker i ((w.rig i).apply (.expire k)).worker
      with backend := ((w.rig i).apply (.expire k)).backend } i := by
    have hb : ((w.rig i).apply (.expire k)).backend = s.backend := congrArg Common.backend h.common
    rw [Session.expire_value, hb, hw]
    rfl
  have hf := (w.rig i).sameFrame_expire k
  have hs : ((w.rig i).apply (.expire k)).Settled :=
    (h.settled i).imp (fun ⟨hp, ho, hc⟩ => ⟨hf.phase.trans hp, hf.isOpen.trans ho, hc⟩)
      hf.phase.trans
  have hn := (h.put i hs).wake i
  rw [hv]
  cases ha : (w.rig i).tracker.isArmed k with
  | true =>
    refine .single (x := .act i (.step (.expire k))) ⟨ha, ?_⟩ nofun hn
    rw [hw] at hd
    rwa [h.common]
  | false =>
    have hr : (w.rig i).apply (.expire k) = w.rig i := by
      rw [Rig.apply, Tracker.expire_of_not_isArmed ha]
    rw [hr, Crew.putRig_rig] at hn
    rw [hr]
    exact .refl hn

/-- A timer that is due is still due, or gone, after another one has expired. -/
theorem due_expire (h : Aligned lanes w s now) (i j : Fin n) {k c : ButtonKey}
    (hd : ∀ timer ∈ (s.lane j).worker.tracker.timer? c, timer.deadline ≤ now) :
    ∀ timer ∈ ((s.expire i k).value.lane j).worker.tracker.timer? c, timer.deadline ≤ now := by
  intro timer ht
  refine hd timer ?_
  simp only [Session.expire, Logged.value_bind, Logged.value_pure, Session.lane_wake,
    Session.lane_setWorker (h.lt_size i)] at ht
  split at ht
  · rename_i hj
    rw [Tracker.timer?, Tracker.pulses_expire] at ht
    rw [hj]
    split at ht
    · cases ht
    · exact ht
  · exact ht

/-- Timers that are due expire one after the other. -/
theorem expireAll (h : Aligned lanes w s now) {due : List (Nat × ButtonKey × Timer)}
    (hd : ∀ x ∈ due, x.1 < n ∧
      ∀ timer ∈ (s.lane x.1).worker.tracker.timer? x.2.1, timer.deadline ≤ now) :
    w.Leads (Aligned lanes ·
      (due.foldl (fun s x => (s.expire x.1 x.2.1).value) s) now) := by
  induction due generalizing w s with
  | nil => exact .refl h
  | cons x due ih =>
    rw [List.forall_mem_cons] at hd
    obtain ⟨⟨hi, hx⟩, hd⟩ := hd
    refine (h.expire ⟨x.1, hi⟩ hx).bind fun v hv => ih hv fun y hy => ?_
    obtain ⟨hj, hy⟩ := hd y hy
    exact ⟨hj, h.due_expire ⟨x.1, hi⟩ ⟨y.1, hj⟩ hy⟩

theorem round (h : Aligned lanes w s now) :
    w.Leads (Aligned lanes · (s.round now).value now) := by
  have he : w.Leads (Aligned lanes ·
      ((s.due now).foldl (fun s x => (s.expire x.1 x.2.1).value) s) now) := by
    refine h.expireAll fun x hx => ?_
    obtain ⟨hi, ht, hd⟩ := Session.mem_due_iff.mp hx
    rw [ht]
    exact ⟨h.size ▸ hi, fun timer hm => Option.mem_some.mp hm ▸ hd⟩
  rw [Session.round_value]
  refine he.bind fun v hv => ?_
  generalize (s.due now).foldl (fun s x => (s.expire x.1 x.2.1).value) s = u at hv ⊢
  have hu : Aligned lanes v { u with awake := [] } now :=
    ⟨hv.size, hv.lane, hv.settled, hv.common, fun i hi => absurd hi List.not_mem_nil⟩
  exact hu.turns hv.awake

/-- All that happens at one moment is led to. -/
theorem instant (h : Aligned lanes w s now) :
    w.Leads (Aligned lanes · (s.instant now).value now) := by
  simp only [Session.instant, Logged.value_bind, Logged.value_ite, Logged.value_pure]
  split
  · exact h.round
  · exact h.round.bind fun v hv => hv.round

theorem wait (h : Aligned lanes w s now) (ms : Nat) :
    w.Leads (Aligned lanes · s (now + ms)) :=
  .single (x := .wait ms) True.intro True.intro
    ⟨h.size, h.lane, h.settled, by rw [Crew.apply, h.common], h.awake⟩

/-- A wait goes by itself, up to its last moment at which something is due. -/
theorem elapse (h : Aligned lanes w s now) {wake : Nat} (hw : now ≤ wake) :
    w.Leads fun v =>
      let r := (elapse Session.nextDeadline? Session.instant wake now s).value
      Aligned lanes v r.2 r.1 ∧ r.1 ≤ wake := by
  induction hm : wake - now using Nat.strongRecOn generalizing w s now with
  | ind m ih =>
    subst hm
    refine h.instant.bind fun v hv => ?_
    rw [Dispatch.elapse, Logged.value_bind]
    cases (s.instant now).value.nextDeadline? with
    | none => exact .refl ⟨hv, hw⟩
    | some next =>
      by_cases hc : now < next ∧ next < wake
      · simp only [dif_pos hc]
        refine (hv.wait (next - now)).bind fun u hu => ?_
        rw [Nat.add_sub_cancel' (Nat.le_of_lt hc.1)] at hu
        exact ih (wake - next) (by omega) hu (Nat.le_of_lt hc.2) rfl
      · simp only [dif_neg hc]
        exact .refl ⟨hv, hw⟩

/-- Something is done at a dispatcher between two turns of its worker. -/
theorem putSeat (h : Aligned lanes w s now) (i : Fin n) {p : Seat} (hp : (p.rig w.common).Settled)
    (lanes' : Fin n → Lane) (hl : ∀ j ≠ i, lanes' j = lanes j) :
    Aligned lanes' (w.putSeat i p) (s.setLane i { lanes' i with worker := p.worker }) now where
  size := (Array.size_setIfInBounds ..).trans h.size
  lane j := by
    refine (Session.lane_setLane (h.lt_size i) _).trans ?_
    simp only [Fin.val_inj, Crew.putSeat]
    split
    · rename_i hj
      rw [hj]
    · rename_i hj
      rw [h.lane, hl j hj]
  settled j := by
    by_cases hj : j = i
    · subst hj
      simpa [Crew.rig, Crew.putSeat] using hp
    · simpa [Crew.rig, Crew.putSeat, hj] using h.settled j
  common := h.common
  awake := h.awake

end Aligned

end

/-! ## Plays -/

/-- Somebody can send jobs to every dispatcher, the workers of those that have ended are cancelled,
and the cache is sound. -/
structure Crew.Proper {ι : Type} (w : Crew ι) : Prop where
  hasSender : ∀ i, (w.seats i).worker.queue.hasSender = true
  ended : ∀ i, (w.seats i).lifetime ≠ .active → (w.seats i).worker.cancelled = true
  sound : w.common.cache.Sound

namespace Crew.Proper

variable {ι : Type} [DecidableEq ι] {w : Crew ι} {P : Crew ι → Prop}

theorem leads (h : w.Proper) (hl : w.Leads P) :
    w.Leads fun v => P v ∧ v.Proper ∧ ∀ i, (w.seats i).Keeps (v.seats i) := by
  obtain ⟨trace, v, hc, hx, hp⟩ := hl
  obtain ⟨hk, hcache⟩ := hc.keeps hx
  have hs := fun i => (hk i).hasSender.trans (h.hasSender i)
  refine ⟨trace, v, hc, hx, hp, ⟨hs, fun i hi => ?_, ?_⟩, hk⟩
  · rw [(hk i).lifetime] at hi
    exact (hk i).cancelled.trans (h.ended i hi)
  · rw [hcache]
    exact h.sound

theorem putSeat (h : w.Proper) (i : ι) {p : Seat} (hs : p.worker.queue.hasSender = true)
    (he : p.lifetime ≠ .active → p.worker.cancelled = true) : (w.putSeat i p).Proper where
  hasSender j := by
    unfold Crew.putSeat
    dsimp only
    split
    · exact hs
    · exact h.hasSender j
  ended j := by
    unfold Crew.putSeat
    dsimp only
    split
    · exact he
    · exact h.ended j
  sound := h.sound

end Crew.Proper

section

variable {n : Nat} {w : Crew (Fin n)} {s u : Session} {i : Fin n}

/-- Dispatchers are where those of a session are. -/
structure Plays (w : Crew (Fin n)) (s : Session) : Prop
    extends Aligned (fun i => (w.seats i).toLane) w s s.now where
  proper : w.Proper

/-- What is led to in the same session is played. -/
theorem Crew.Proper.plays (h : w.Proper)
    (hl : w.Leads (Aligned (fun i => (w.seats i).toLane) · u u.now)) : w.Leads (Plays · u) := by
  refine (h.leads hl).bind fun v hv => .refl ?_
  obtain ⟨ha, hp, hk⟩ := hv
  refine ⟨⟨ha.size, fun i => ?_, ha.settled, ha.common, ha.awake⟩, hp⟩
  rw [ha.lane]
  dsimp only
  rw [(hk i).surface, (hk i).lifetime]

namespace Plays

theorem seat (h : Plays w s) (i : Fin n) : s.lane i = (w.seats i).toLane := h.lane i

/-- A wait goes by itself. -/
theorem sleep (h : Plays w s) (ms : Nat) : w.Leads (Plays · (s.sleep ms).value) := by
  refine h.proper.plays ?_
  simp only [Session.sleep, Logged.value_bind, Logged.value_pure, Session.now_elapse]
  refine (h.elapse (Nat.le_add_right s.now ms)).bind fun v hv => ?_
  obtain ⟨hv, hw⟩ := hv
  generalize (Dispatch.elapse _ _ _ _ _).value = r at hv hw ⊢
  refine (hv.wait (s.now + ms - r.1)).bind fun x hx => .refl ?_
  rw [Nat.add_sub_cancel' hw] at hx
  exact ⟨hx.size, hx.lane, hx.settled, hx.common, hx.awake⟩

/-- Something is done at a dispatcher between two turns of its worker. -/
theorem putSeat (h : Plays w s) (i : Fin n) {p : Seat} (hp : (p.rig w.common).Settled)
    (hs : p.worker.queue.hasSender = true)
    (he : p.lifetime ≠ .active → p.worker.cancelled = true) :
    Plays (w.putSeat i p) (s.setLane i p.toLane) := by
  have ha := h.toAligned.putSeat i hp (fun j => ((w.putSeat i p).seats j).toLane)
    fun j hj => by simp [Crew.putSeat, hj]
  rw [show (w.putSeat i p).seats i = p from if_pos rfl] at ha
  exact ⟨ha, h.proper.putSeat i hs he⟩

theorem wake (h : Plays w s) (i : Fin n) : Plays w (s.wake i) := by
  have ha := h.toAligned.wake i
  rw [← Session.now_wake s i] at ha
  exact ⟨ha, h.proper⟩

/-- A producer has put one job into the queue of a dispatcher, which wakes its worker. -/
theorem setQueue (h : Plays w s) (i : Fin n) (job : Job) :
    let queue := (w.seats i).worker.queue.put job
    Plays (w.putSeat i ((w.seats i).setQueue queue)) (s.setQueue i queue) := by
  intro queue
  have hp := (h.putSeat i (p := (w.seats i).setQueue queue) (h.settled i) (h.proper.hasSender i)
    (h.proper.ended i)).wake i
  unfold Session.setQueue Session.setWorker
  rwa [h.seat]

end Plays

/-! ## What is asked of a session -/

namespace Session

/-- Does what is asked of a dispatcher, and replies. -/
def answer (s : Session) (i : Nat) : Deed → Feedback × Session
  | .submit job =>
    let (r, s) := (s.submit i job).value
    (.queued r, s)
  | .request k mode length =>
    let (r, s) := (s.request i k mode length).value
    (.queued r, s)
  | .dispatch d =>
    let (r, s) := (s.dispatch i d).value
    (.issued r, s)
  | .gesture command (.turn diff) =>
    let (r, s) := (s.rotate i command diff).value
    (.handled r, s)
  | .gesture command .push =>
    let (r, s) := (s.push i command).value
    (.handled r, s)
  | .shutdown =>
    let (r, s) := (s.shutdown i).value
    (.stopping (r.map fun _ => ()), s)
  | .drop => (.done, (s.drop i).2)
  | .step _ => (.done, s)

end Session

namespace Plays

/-- A producer is replied the same, and puts the same job into the queue. -/
theorem enqueue (h : Plays w s) (i : Fin n)
    (request : Producer → Queue → Logged (Except DispatchError Queue))
    (hr : ∀ {q queue : Queue} {p : Producer},
      (request p q).value = .ok queue → ∃ job, queue = q.put job) :
    let r := (w.seats i).queued
      (request (w.seats i).surface.producer (w.seats i).worker.queue).value
    r.1 = .queued (s.enqueue i request).value.1 ∧
      Plays (w.putSeat i r.2) (s.enqueue i request).value.2 := by
  simp only [Session.enqueue, Logged.value_bind, h.seat]
  cases hv : (request (w.seats i).surface.producer (w.seats i).worker.queue).value with
  | ok queue =>
    obtain ⟨job, rfl⟩ := hr hv
    exact ⟨rfl, h.setQueue i job⟩
  | error e => exact ⟨rfl, by simpa [Seat.queued] using h⟩

/-- The push action of a descriptor is replied the same, and put into the queue in the same way. -/
theorem dispatch (h : Plays w s) (i : Fin n) (d : Descriptor) :
    let r := (w.seats i).issued
      ((w.seats i).surface.producer.dispatch (w.seats i).worker.queue d).value
    r.1 = .issued (s.dispatch i d).value.1 ∧
      Plays (w.putSeat i r.2) (s.dispatch i d).value.2 := by
  simp only [Session.dispatch, Logged.value_bind, h.seat]
  cases hv : ((w.seats i).surface.producer.dispatch (w.seats i).worker.queue d).value with
  | ok queue? =>
    cases queue? with
    | some queue =>
      obtain ⟨-, job, -, rfl⟩ := Seat.put_of_dispatch hv
      exact ⟨rfl, h.setQueue i job⟩
    | none => exact ⟨rfl, by simpa [Seat.issued] using h⟩
  | error e => exact ⟨rfl, by simpa [Seat.issued] using h⟩

theorem setCache (h : Plays w s) {cache : Cache} (hc : cache.Sound) :
    Plays { w with common.cache := cache } { s with cache } where
  size := h.size
  lane := h.lane
  settled := h.settled
  common := by rw [h.common]
  awake := h.awake
  proper := ⟨h.proper.hasSender, h.proper.ended, hc⟩

end Plays

/-- What a session does with a gesture. -/
theorem Session.answer_gesture (s : Session) (i : Nat) (command : String) (g : Gesture) :
    let r := (s.lane i).surface.respond s.cache command g (s.lane i).worker.queue
    let u : Session := { s with cache := (s.cache.decode command).value.2 }
    s.answer i (.gesture command g) =
      (.handled r.1, if r.1 matches .ok .dispatched then u.setQueue i r.2 else u) := by
  have hc := (s.lane i).surface.handle_cache ⟨s.cache, (s.lane i).worker.queue⟩ command g
  dsimp only at hc ⊢
  rw [← hc]
  cases g <;> rfl

namespace Plays

/-- A gesture is replied the same, and puts the same job into the queue. -/
theorem gesture (h : Plays w s) (i : Fin n) (command : String) (g : Gesture) :
    (w.apply (.act i (.gesture command g))).1 = (s.answer i (.gesture command g)).1 ∧
      Plays (w.apply (.act i (.gesture command g))).2 (s.answer i (.gesture command g)).2 := by
  have hs : s.cache.Sound := by
    have := h.proper.sound
    rwa [h.common] at this
  have hn := h.setCache (hs.after command)
  obtain ⟨-, hq⟩ := Seat.respond_of_sound (w.seats i).surface hs hs command g
    (w.seats i).worker.queue
  have hc : w.common.cache = s.cache := congrArg Common.cache h.common
  rw [Session.answer_gesture, h.seat, Crew.apply, Seat.act_gesture, hc]
  generalize (w.seats i).surface.respond s.cache command g (w.seats i).worker.queue = r at hq
  obtain ⟨answer, queue⟩ := r
  refine ⟨rfl, ?_⟩
  rcases hq with ⟨ha, rfl⟩ | ⟨-, job, -, he⟩
  · rw [← Crew.putSeat_self { w with common.cache := (s.cache.decode command).value.2 } i] at hn
    rcases answer with _ | (_ | _ | _)
    · exact hn
    · exact absurd rfl ha
    · exact hn
    · exact hn
  · cases he
    exact hn.setQueue i job

theorem cancel_of_cancelled {p : Seat} (h : p.worker.cancelled = true) :
    p.cancel p.lifetime = p := by
  obtain ⟨⟨worker, surface, lifetime⟩, unvisited, cut⟩ := p
  cases worker
  obtain rfl := h
  rfl

theorem answer_shutdown (h : Plays w s) (hl : (w.seats i).lifetime = .active) :
    s.answer i .shutdown = (.stopping (.ok ()),
      let u := ((s.cancel i).instant s.now).value
      u.setLane i { u.lane i with lifetime := .shutDown }) := by
  simp only [Session.answer, Session.shutdown, h.seat, hl, ↓reduceIte, Logged.value_bind,
    Logged.value_pure]
  rfl

/-- The worker of a dispatcher that is shut down cleans up by itself. -/
theorem shutdown_active (h : Plays w s) (hl : (w.seats i).lifetime = .active) :
    (w.putSeat i ((w.seats i).cancel .shutDown)).Leads (Plays · (s.answer i .shutdown).2) := by
  have hq : (w.putSeat i ((w.seats i).cancel .shutDown)).Proper :=
    h.proper.putSeat i (h.proper.hasSender i) fun _ => rfl
  have hn : ((s.cancel i).instant s.now).value.now = s.now :=
    (Session.now_instant ..).trans (Session.now_wake ..)
  have hc : s.cancel i =
      (s.setLane i { (w.seats i).toLane with worker := (w.seats i).worker.cancel }).wake i := by
    unfold Session.cancel Session.setWorker
    rw [h.seat]
  -- the course marks the dispatcher before its worker cleans up, and the session after that
  have ha := (h.toAligned.putSeat i (p := (w.seats i).cancel .shutDown) (h.settled i)
    (fun j => (w.seats j).toLane) fun _ _ => rfl).wake i
  rw [h.answer_shutdown hl]
  refine hq.plays (Crew.Leads.bind (hc ▸ ha.instant) fun v hv => .refl ?_)
  generalize ((s.cancel i).instant s.now).value = u at hv hn ⊢
  have hu := hv.putSeat i (p := v.seats i) (hv.settled i)
    (fun j => ((w.putSeat i ((w.seats i).cancel .shutDown)).seats j).toLane)
    fun j hj => by simp [Crew.putSeat, hj]
  dsimp only at hu ⊢
  rw [Crew.putSeat_self, show (Crew.putSeat w i _).seats i = _ from if_pos rfl] at hu
  rw [hv.lane, show (u.setLane i _).now = s.now from hn]
  exact hu

/-- A dispatcher that is shut down is replied the same, and nothing more happens where it was
before. -/
theorem shutdown (h : Plays w s) (i : Fin n) :
    (w.apply (.act i .shutdown)).1 = (s.answer i .shutdown).1 ∧
      (w.apply (.act i .shutdown)).2.Leads (Plays · (s.answer i .shutdown).2) := by
  by_cases hl : (w.seats i).lifetime = .active
  · have hw : w.apply (.act i .shutdown) =
        (.stopping (.ok ()), w.putSeat i ((w.seats i).cancel .shutDown)) := by
      simp only [Crew.apply, Seat.act, Seat.stopping, hl, ↓reduceIte]
      rfl
    rw [hw]
    exact ⟨by rw [h.answer_shutdown hl], h.shutdown_active hl⟩
  · have hw : w.apply (.act i .shutdown) =
        (.stopping (.error .alreadyStopped), w.putSeat i (w.seats i)) := by
      simp only [Crew.apply, Seat.act, Seat.stopping, hl, ↓reduceIte,
        cancel_of_cancelled (h.proper.ended i hl)]
      rfl
    have hs : s.answer i .shutdown = (.stopping (.error .alreadyStopped), s) := by
      simp only [Session.answer, Session.shutdown, h.seat, hl, ↓reduceIte, Logged.value_bind,
        Logged.value_pure]
      rfl
    rw [hw, hs, Crew.putSeat_self]
    exact ⟨rfl, .refl h⟩

/-- A dispatcher that is dropped leaves its worker cancelled. -/
theorem drop (h : Plays w s) (i : Fin n) :
    Plays (w.apply (.act i .drop)).2 (s.answer i .drop).2 := by
  have hw : (w.apply (.act i .drop)).2 = w.putSeat i ((w.seats i).cancel .dropped) := rfl
  rw [hw]
  by_cases hp : (w.seats i).lifetime = .dropped
  · have hc : (w.seats i).worker.cancelled = true := h.proper.ended i (by rw [hp]; exact nofun)
    have hs : (s.answer i .drop).2 = s := by
      simp only [Session.answer, Session.drop, h.seat, hp, ↓reduceIte]
    rw [hs, ← hp, cancel_of_cancelled hc, Crew.putSeat_self]
    exact h
  · have hs : (s.answer i .drop).2 =
        (s.setLane i ((w.seats i).cancel .dropped).toLane).wake i := by
      simp only [Session.answer, Session.drop, h.seat, hp, ↓reduceIte]
      unfold Session.cancel Session.setWorker
      rw [Session.lane_setLane (h.lt_size i), if_pos rfl, Session.setLane_setLane]
      rfl
    rw [hs]
    exact (h.putSeat i (p := (w.seats i).cancel .dropped) (h.settled i) (h.proper.hasSender i)
      fun _ => rfl).wake i

/-- Whatever is asked of a session can be done in a course. It is replied the same, and what follows
comes by itself. -/
theorem answer (h : Plays w s) (i : Fin n) {deed : Deed}
    (hd : (Incident.act i deed).isAsked = true) :
    w.Allows (.act i deed) ∧ (w.apply (.act i deed)).1 = (s.answer i deed).1 ∧
      (w.apply (.act i deed)).2.Leads (Plays · (s.answer i deed).2) := by
  have hs := h.proper.hasSender i
  cases deed with
  | step => cases hd
  | submit job =>
    obtain ⟨hr, hp⟩ := h.enqueue i (fun _ q => q.enqueue job) fun hq =>
      ⟨job, Seat.put_of_enqueue hq⟩
    exact ⟨hs, hr, .refl hp⟩
  | request k mode length =>
    obtain ⟨hr, hp⟩ := h.enqueue i (fun p q => p.request q k mode length) fun hq => by
      obtain ⟨action, hq⟩ := Seat.put_of_request hq
      exact ⟨⟨k, action⟩, hq⟩
    exact ⟨hs, hr, .refl hp⟩
  | dispatch d =>
    obtain ⟨hr, hp⟩ := h.dispatch i d
    exact ⟨hs, hr, .refl hp⟩
  | gesture command g =>
    obtain ⟨hr, hp⟩ := h.gesture i command g
    exact ⟨hs, hr, .refl hp⟩
  | shutdown => exact ⟨True.intro, h.shutdown i⟩
  | drop => exact ⟨True.intro, rfl, .refl (h.drop i)⟩

end Plays

/-! ## Sessions -/

namespace Session

/-- What sessions come to, with all that was asked of their dispatchers and replied. -/
inductive Served (start : Session) : List (Incident (Fin n) × Feedback) → Session → Prop
  | nil : Served start [] start
  | ask {log : List (Incident (Fin n) × Feedback)} {s : Session} (i : Fin n) (deed : Deed) :
      Served start log s → (Incident.act i deed).isAsked = true →
        Served start (log ++ [(.act i deed, (s.answer i deed).1)]) (s.answer i deed).2
  | sleep {log : List (Incident (Fin n) × Feedback)} {s : Session} (ms : Nat) :
      Served start log s → Served start log (s.sleep ms).value

/-- A dispatcher as it is started. -/
def newLane (fastTicks : UInt32) (settings : Settings) : Lane where
  worker := (Worker.create settings).value
  surface := ⟨fastTicks, ⟨settings.defaultPulse⟩⟩

theorem addLane_value (fastTicks : UInt32) (settings : Settings) (s : Session) :
    (s.addLane fastTicks settings).value =
      { s with lanes := s.lanes.push (newLane fastTicks settings) }.wake s.lanes.size := by
  simp only [addLane, Logged.value_bind, Logged.value_pure]
  rfl

theorem lane_push (s : Session) (l : Lane) (i : Nat) :
    { s with lanes := s.lanes.push l }.lane i = if i = s.lanes.size then l else s.lane i := by
  simp only [lane, Array.getD_eq_getD_getElem?, Array.getElem?_push]
  split <;> rfl

/-- A session starts with so many new dispatchers, whose workers are awake. -/
theorem start_spec (joystick : Joystick) (n : Nat) (fastTicks : UInt32) (settings : Settings) :
    let s := (start joystick n fastTicks settings).value
    s.lanes.size = n ∧ (∀ i < n, s.lane i = newLane fastTicks settings) ∧
      (s.backend = { joystick } ∧ s.cache = {} ∧ s.now = 0) ∧ ∀ i ∈ s.awake, i < n := by
  have hv : ∀ n, (start joystick n fastTicks settings).value =
      (List.replicate n ()).foldl (fun s _ => (s.addLane fastTicks settings).value)
        { backend := { joystick } } := fun n => by
    simp only [start, Logged.value_foldlM]
  rw [hv]
  induction n with
  | zero => exact ⟨rfl, fun _ hi => absurd hi (Nat.not_lt_zero _), ⟨rfl, rfl, rfl⟩, nofun⟩
  | succ n ih =>
    rw [List.replicate_succ', List.foldl_append]
    generalize (List.replicate n ()).foldl _ _ = s at ih
    obtain ⟨hs, hl, hc, ha⟩ := ih
    simp only [List.foldl_cons, List.foldl_nil, addLane_value]
    refine ⟨?_, fun i hi => ?_, ?_, fun i hi => ?_⟩
    · unfold wake
      split <;> simp [hs]
    · rw [lane_wake, lane_push, hs]
      split
      · rfl
      · exact hl i (by omega)
    · unfold wake
      split <;> exact hc
    · rcases mem_wake.mp hi with hi | hi
      · exact Nat.lt_succ_of_lt (ha i hi)
      · omega

end Session

theorem plays_start (n : Nat) (devices : List UInt32) (fastTicks : UInt32) (settings : Settings) :
    Plays (Crew.start (fun _ : Fin n => settings) (fun _ => fastTicks) devices)
      (Session.start (Joystick.ofAvailable devices) n fastTicks settings).value := by
  obtain ⟨hs, hl, ⟨hb, hc, ht⟩, ha⟩ :=
    Session.start_spec (Joystick.ofAvailable devices) n fastTicks settings
  refine ⟨⟨hs, fun i => hl i i.isLt, fun i => .inl ⟨rfl, rfl, rfl⟩, ?_, ha⟩,
    fun i => rfl, fun i hi => absurd rfl hi, Cache.sound_empty⟩
  rw [hb, hc, ht]
  rfl

/-- Every session is a course of its dispatchers: what was asked of them comes in the same order and
with the same replies, and between is what goes by itself. -/
theorem session_course {devices : List UInt32} {fastTicks : UInt32} {settings : Settings}
    {log : List (Incident (Fin n) × Feedback)}
    (h : Session.Served (Session.start (Joystick.ofAvailable devices) n fastTicks settings).value
      log s) :
    ∃ trace w, Course (Crew.start (fun _ => settings) (fun _ => fastTicks) devices) trace w ∧
      trace.filter (·.1.isAsked) = log ∧ Plays w s := by
  have hown : ∀ trace : List (Incident (Fin n) × Feedback), (∀ x ∈ trace, x.1.IsOwn) →
      trace.filter (·.1.isAsked) = [] := fun trace hx =>
    List.filter_eq_nil_iff.mpr fun x hm => by simp [(hx x hm).isAsked]
  induction h with
  | nil => exact ⟨[], _, .nil, rfl, plays_start n devices fastTicks settings⟩
  | ask i deed _ hd ih =>
    obtain ⟨trace, w, hc, ht, hp⟩ := ih
    obtain ⟨ha, hr, trace', v, hc', hx, hv⟩ := hp.answer i hd
    refine ⟨_, v, (hc.snoc ha).append hc', ?_, hv⟩
    rw [List.filter_append, List.filter_append, ht, hown trace' hx, List.append_nil, hr]
    simp [hd]
  | sleep ms _ ih =>
    obtain ⟨trace, w, hc, ht, hp⟩ := ih
    obtain ⟨trace', v, hc', hx, hv⟩ := hp.sleep ms
    refine ⟨_, v, hc.append hc', ?_, hv⟩
    rw [List.filter_append, ht, hown trace' hx, List.append_nil]

/-- What nobody asks for leaves all devices to whomever they belong. -/
theorem Incident.apart_of_not_isAsked {x : Incident (Fin n)} (h : x.isAsked = false)
    (S : UInt32 → Bool) (i : Fin n) : x.Apart S i := by
  cases x with
  | wait => exact True.intro
  | act j deed =>
    cases deed with
    | step => exact True.intro
    | _ => cases h

theorem Incident.filter_alone (i : Fin n) (trace : List (Incident (Fin n) × Feedback)) :
    (alone i trace).filter (·.1.isAsked) = alone i (trace.filter (·.1.isAsked)) := by
  unfold alone
  rw [List.filter_filterMap, List.filterMap_filter]
  refine List.filterMap_congr fun x _ => ?_
  obtain ⟨x, r⟩ := x
  cases x with
  | wait => rfl
  | act j deed =>
    by_cases hj : j = i
    · cases deed <;> simp [alone?, isAsked, hj]
    · simp [alone?, hj]

/-- If what is asked of one dispatcher of a session is for devices of its own, and what is asked of
the others is not, then it is replied the same in some course of that dispatcher alone, and there it
comes to the same end and its devices have the same journal. -/
theorem session_isolated {devices : List UInt32} {fastTicks : UInt32} {settings : Settings}
    {log : List (Incident (Fin n) × Feedback)} {S : UInt32 → Bool}
    (h : Session.Served (Session.start (Joystick.ofAvailable devices) n fastTicks settings).value
      log s) (ha : ∀ x ∈ log, x.1.Apart S i) :
    ∃ trace a, Course (Crew.start (fun _ : Unit => settings) (fun _ => fastTicks) devices) trace a ∧
      trace.filter (·.1.isAsked) = Incident.alone i log ∧ (a.seats ()).toLane = s.lane i ∧
      a.common.backend.joystick.journalOf S = s.backend.joystick.journalOf S := by
  obtain ⟨trace, w, hc, rfl, hp⟩ := session_course h
  have hx : ∀ x ∈ trace, x.1.Apart S i := by
    intro x hm
    cases hk : x.1.isAsked with
    | true => exact ha x (List.mem_filter.mpr ⟨hm, hk⟩)
    | false => exact Incident.apart_of_not_isAsked hk S i
  obtain ⟨a, hu, hs⟩ := hc.shadow hx (shadow_start S i _ _ devices)
  refine ⟨_, a, hu, Incident.filter_alone i trace, ?_, ?_⟩
  · rw [hs.seat, hp.seat]
  · have hj := hs.common.backend.joystick.journal.symm
    rwa [hp.common] at hj

end

end ControlDeck
