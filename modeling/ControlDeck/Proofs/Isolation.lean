import ControlDeck.Proofs.Confinement
import ControlDeck.Proofs.Requests
import ControlDeck.Session

/-!
# Dispatchers on different devices

Dispatchers with their surfaces share one joystick, one decode cache and one clock, and take turns
in any order. One of them that has some devices to itself cannot tell that there are others.

- **Deeds** (`Deed`): what is done at a dispatcher. Producers queue jobs, controls on its surface
  are turned and pushed, it is shut down or dropped, and its worker and its timers take a step of
  theirs; a worker cleans up button by button and job by job. `Seat.act` says what each is replied.
- **Courses** (`Crew`, `Course`): the traces of deeds with their replies, while time passes.
- **Apart** (`Incident.Apart`): jobs and commands for one dispatcher are for devices of its own, and
  those for another one are not.
- **Shadows** (`Shadow`): a dispatcher among others and the same dispatcher alone. Whatever happens
  keeps the two alike (`Shadow.act`, `Shadow.act_other`, `Shadow.wait`).
- `dispatchers_isolated`: without the deeds at all others, a course is one of the dispatcher alone.
-/

namespace ControlDeck

open Command Device Dispatch

/-! ## Deeds -/

/-- A dispatcher with its worker and its surface. While the worker cleans up, `unvisited` are the
buttons whose timer it has yet to disarm, and `cut` those whose pulse it has cut short and not
released. -/
structure Seat extends Lane where
  unvisited : List ButtonKey := []
  cut : List ButtonKey := []

/-- What dispatchers share. -/
structure Common where
  backend : Backend
  cache : Cache := {}
  now : Nat := 0

/-- What is done at a dispatcher. -/
inductive Deed
  | submit (job : Job)
  | request (k : ButtonKey) (mode : Mode) (length : UInt32)
  | dispatch (d : Descriptor)
  | gesture (command : String) (g : Gesture)
  | shutdown
  | drop
  | step (e : Event)

/-- What a deed is replied. A dispatcher that is shut down is waited for, until its worker stops
with its counters. -/
inductive Feedback
  | done
  | queued (answer : Except DispatchError Unit)
  | issued (answer : Except DispatchError Bool)
  | handled (answer : Except DispatchError Outcome)
  | stopping (answer : Except DispatchError Unit)
  | stopped (stats : Stats)

namespace Seat

/-- The worker in front of the joystick. -/
def rig (p : Seat) (c : Common) : Rig := ⟨p.worker, c.backend, p.unvisited, p.cut⟩

/-- Goes on with the worker of a rig. -/
def setRig (p : Seat) (s : Rig) : Seat :=
  { p with worker := s.worker, unvisited := s.unvisited, cut := s.cut }

/-- Goes on with another queue. -/
def setQueue (p : Seat) (queue : Queue) : Seat := { p with worker := p.worker.setQueue queue }

/-- Asks the worker to stop. -/
def cancel (p : Seat) (lifetime : Lifetime) : Seat :=
  { p with worker := p.worker.cancel, lifetime }

/-- When a worker, its timers and its handles may take a step: timers expire when they are due, jobs
are executed at the time that it is, and a dispatcher keeps a handle until it is dropped. -/
def Timely (p : Seat) (now : Nat) : Event → Prop
  | .enqueue _ | .cancel | .outside _ => False
  | .expire k => ∀ timer ∈ p.worker.tracker.timer? k, timer.deadline ≤ now
  | .execute moment | .flush moment => moment.ms = now
  | .dropSender => p.lifetime = .dropped
  | .leave | .disarm _ | .close | .release | .stop => True

theorem timely_expire {p : Seat} {now : Nat} {k : ButtonKey} :
    (p.worker.tracker.timer? k).all (·.deadline ≤ now) = true ↔ p.Timely now (.expire k) := by
  simp [Timely, Option.all_eq_true]

instance (p : Seat) (now : Nat) : (e : Event) → Decidable (p.Timely now e)
  | .enqueue _ | .cancel | .outside _ => .isFalse id
  | .expire _ => decidable_of_iff _ timely_expire
  | .execute moment | .flush moment => inferInstanceAs (Decidable (moment.ms = now))
  | .dropSender => inferInstanceAs (Decidable (p.lifetime = .dropped))
  | .leave | .disarm _ | .close | .release | .stop => .isTrue True.intro

/-- When a deed can be done. -/
def Allows (p : Seat) (c : Common) : Deed → Prop
  | .submit _ | .request .. | .dispatch _ | .gesture .. => p.worker.queue.hasSender = true
  | .shutdown | .drop => True
  | .step e => (p.rig c).Enabled e ∧ p.Timely c.now e

instance (p : Seat) (c : Common) (deed : Deed) : Decidable (p.Allows c deed) := by
  cases deed <;> unfold Allows <;> infer_instance

/-- What a producer is replied, and the dispatcher with the queue that it left. -/
def queued (p : Seat) : Except DispatchError Queue → Feedback × Seat
  | .ok queue => (.queued (.ok ()), p.setQueue queue)
  | .error e => (.queued (.error e), p)

/-- What is replied to the push action of a descriptor, and the dispatcher after it. -/
def issued (p : Seat) : Except DispatchError (Option Queue) → Feedback × Seat
  | .ok (some queue) => (.issued (.ok true), p.setQueue queue)
  | .ok none => (.issued (.ok false), p)
  | .error e => (.issued (.error e), p)

/-- What is replied to a shutdown, and the dispatcher after it. -/
def stopping (p : Seat) : Feedback × Seat :=
  if p.lifetime = .active then (.stopping (.ok ()), p.cancel .shutDown)
  else (.stopping (.error .alreadyStopped), p.cancel p.lifetime)

/-- What is replied to a step. -/
def report (s : Rig) : Event → Feedback
  | .stop => .stopped s.worker.stats
  | _ => .done

/-- What is replied to a deed, and the dispatcher and the others' share after it. -/
def act (p : Seat) (c : Common) : Deed → Feedback × Seat × Common
  | .submit job =>
    let (reply, p) := p.queued (p.worker.queue.enqueue job).value
    (reply, p, c)
  | .request k mode length =>
    let (reply, p) := p.queued (p.surface.producer.request p.worker.queue k mode length).value
    (reply, p, c)
  | .dispatch d =>
    let (reply, p) := p.issued (p.surface.producer.dispatch p.worker.queue d).value
    (reply, p, c)
  | .gesture command g =>
    let (answer, desk) := (p.surface.handle ⟨c.cache, p.worker.queue⟩ command g).value
    (.handled answer, p.setQueue desk.queue, { c with cache := desk.cache })
  | .shutdown =>
    let (reply, p) := p.stopping
    (reply, p, c)
  | .drop => (.done, p.cancel .dropped, c)
  | .step e =>
    let s := (p.rig c).apply e
    (report s e, p.setRig s, { c with backend := s.backend })

end Seat

/-! ## Courses -/

/-- Dispatchers and what they share. -/
structure Crew (ι : Type) where
  seats : ι → Seat
  common : Common

/-- Something is done at a dispatcher, or time passes. -/
inductive Incident (ι : Type)
  | act (i : ι) (deed : Deed)
  | wait (ms : Nat)

namespace Crew

variable {ι : Type}

/-- New dispatchers over a fresh joystick and an empty cache. -/
def start (settings : ι → Settings) (fastTicks : ι → UInt32) (devices : List UInt32) : Crew ι where
  seats i :=
    { worker := (Worker.create (settings i)).value
      surface := ⟨fastTicks i, ⟨(settings i).defaultPulse⟩⟩ }
  common := { backend := { joystick := Joystick.ofAvailable devices } }

/-- When something can happen. -/
def Allows (w : Crew ι) : Incident ι → Prop
  | .act i deed => (w.seats i).Allows w.common deed
  | .wait _ => True

instance (w : Crew ι) (x : Incident ι) : Decidable (w.Allows x) := by
  cases x <;> unfold Allows <;> infer_instance

variable [DecidableEq ι]

/-- What is replied to an incident, and the dispatchers after it. -/
def apply (w : Crew ι) : Incident ι → Feedback × Crew ι
  | .act i deed =>
    let (reply, seat, common) := (w.seats i).act w.common deed
    (reply, { seats := fun j => if j = i then seat else w.seats j, common })
  | .wait ms => (.done, { w with common.now := w.common.now + ms })

end Crew

/-- What can happen to dispatchers, one thing after the other, with the replies. -/
inductive Course {ι : Type} [DecidableEq ι] (w : Crew ι) :
    List (Incident ι × Feedback) → Crew ι → Prop
  | nil : Course w [] w
  | snoc {trace : List (Incident ι × Feedback)} {v : Crew ι} {x : Incident ι} :
      Course w trace v → v.Allows x → Course w (trace ++ [(x, (v.apply x).1)]) (v.apply x).2

namespace Crew

variable {ι : Type} [DecidableEq ι]

/-- The trace of a list of incidents. -/
def traceOf (w : Crew ι) : List (Incident ι) → List (Incident ι × Feedback)
  | [] => []
  | x :: xs => (x, (w.apply x).1) :: (w.apply x).2.traceOf xs

/-- Follows a list of incidents. -/
def follow (w : Crew ι) : List (Incident ι) → Crew ι
  | [] => w
  | x :: xs => (w.apply x).2.follow xs

/-- Whether the incidents of a list can happen one after the other. -/
def canFollow (w : Crew ι) : List (Incident ι) → Bool
  | [] => true
  | x :: xs => decide (w.Allows x) && (w.apply x).2.canFollow xs

/-- A course goes on with incidents that can happen one after the other. -/
theorem course_follow {w v : Crew ι} {trace : List (Incident ι × Feedback)} {xs : List (Incident ι)}
    (h : Course w trace v) (hx : v.canFollow xs = true) :
    Course w (trace ++ v.traceOf xs) (v.follow xs) := by
  induction xs generalizing trace v with
  | nil => rwa [traceOf, List.append_nil]
  | cons x xs ih =>
    simp only [canFollow, Bool.and_eq_true, decide_eq_true_eq] at hx
    have hc := ih (h.snoc hx.1) hx.2
    rwa [List.append_assoc] at hc

end Crew

/-! ## Apart -/

/-- Whether a deed is for some devices only; a command that is not valid is for none. -/
def Deed.Addresses (S : UInt32 → Bool) : Deed → Prop
  | .submit job => S job.key.device = true
  | .request k _ _ => S k.device = true
  | .dispatch d => d.problem? = none → S d.device = true
  | .gesture command _ =>
    (decodeFresh command).problem? = none → S (decodeFresh command).device = true
  | .shutdown | .drop | .step _ => True

instance (S : UInt32 → Bool) (deed : Deed) : Decidable (deed.Addresses S) := by
  cases deed <;> unfold Deed.Addresses <;> infer_instance

namespace Incident

variable {ι : Type} [DecidableEq ι]

/-- The devices of a dispatcher, if one has some to itself. -/
def share (S : UInt32 → Bool) (i j : ι) (d : UInt32) : Bool := if j = i then S d else !S d

/-- Whether an incident leaves some devices to one dispatcher. -/
def Apart (S : UInt32 → Bool) (i : ι) : Incident ι → Prop
  | .act j deed => deed.Addresses (share S i j)
  | .wait _ => True

instance (S : UInt32 → Bool) (i : ι) (x : Incident ι) : Decidable (x.Apart S i) := by
  cases x <;> unfold Apart <;> infer_instance

/-- An incident as it is for one dispatcher alone; nothing for what is done at another one. -/
def alone? (i : ι) : Incident ι → Option (Incident Unit)
  | .act j deed => if j = i then some (.act () deed) else none
  | .wait ms => some (.wait ms)

/-- What happened to one dispatcher in a course, and was replied to it. -/
def alone (i : ι) (trace : List (Incident ι × Feedback)) : List (Incident Unit × Feedback) :=
  trace.filterMap fun x => (x.1.alone? i).map (·, x.2)

variable {i j : ι} {trace : List (Incident ι × Feedback)} {deed : Deed} {r : Feedback} {ms : Nat}

theorem alone_wait : alone i (trace ++ [(.wait ms, r)]) = alone i trace ++ [(.wait ms, r)] := by
  rw [alone, List.filterMap_append]
  rfl

theorem alone_act :
    alone i (trace ++ [(.act i deed, r)]) = alone i trace ++ [(.act () deed, r)] := by
  rw [alone, List.filterMap_append]
  simp [alone, alone?]

theorem alone_act_other (h : j ≠ i) : alone i (trace ++ [(.act j deed, r)]) = alone i trace := by
  rw [alone, List.filterMap_append]
  simp [alone, alone?, h]

theorem share_self (S : UInt32 → Bool) (i : ι) : share S i i = S := by
  funext d
  rw [share, if_pos rfl]

theorem share_other (S : UInt32 → Bool) {i j : ι} (h : j ≠ i) : share S i j = fun d => !S d := by
  funext d
  rw [share, if_neg h]

end Incident

/-! ## Deeds within some devices -/

/-- The shares agree on some devices: so do the joysticks, the caches answer the same, and the time
is the same. -/
structure Common.Agree (S : UInt32 → Bool) (c c' : Common) : Prop where
  backend : c.backend.Agree S c'.backend
  sound : c.cache.Sound ∧ c'.cache.Sound
  now : c.now = c'.now

theorem Common.Agree.trans {S : UInt32 → Bool} {c c' c'' : Common} (h : c.Agree S c')
    (h' : c'.Agree S c'') : c.Agree S c'' :=
  ⟨h.backend.trans h'.backend, ⟨h.sound.1, h'.sound.2⟩, h.now.trans h'.now⟩

theorem Common.Agree.symm {S : UInt32 → Bool} {c c' : Common} (h : c.Agree S c') : c'.Agree S c :=
  ⟨h.backend.symm, h.sound.symm, h.now.symm⟩

namespace Seat

variable {S : UInt32 → Bool} {p : Seat} {c c' : Common} {deed : Deed}

/-- All that a dispatcher has to do is with some devices. -/
def Within (S : UInt32 → Bool) (p : Seat) (c : Common) : Prop := (p.rig c).Within S

theorem Within.congr (h : p.Within S c) (c' : Common) : p.Within S c' :=
  ⟨h.jobs, h.armed, h.cut, h.holds⟩

theorem Within.setQueue (h : p.Within S c) {queue : Queue}
    (hq : ∀ job ∈ queue.jobs, S job.key.device = true) : (p.setQueue queue).Within S c :=
  ⟨hq, h.armed, h.cut, h.holds⟩

/-- A worker takes no step that its dispatcher or its producers take. -/
theorem isOwn_of_timely {now : Nat} {e : Event} (h : p.Timely now e) : e.isOwn = true := by
  cases e with
  | outside => exact h.elim
  | _ => rfl

/-- Whatever else agrees, the same deeds can be done. -/
theorem allows_congr (ha : c.Agree S c') : p.Allows c deed ↔ p.Allows c' deed := by
  cases deed with
  | step e =>
    have he : (p.rig c).Enabled e ↔ (p.rig c').Enabled e := by cases e <;> exact Iff.rfl
    rw [Allows, Allows, he, ha.now]
  | _ => exact Iff.rfl

theorem Within.put (h : p.Within S c) {job : Job} (hj : S job.key.device = true) :
    (p.setQueue (p.worker.queue.put job)).Within S c :=
  h.setQueue (List.forall_mem_append.mpr ⟨h.jobs, List.forall_mem_singleton.mpr hj⟩)

theorem Within.queued (h : p.Within S c) {r : Except DispatchError Queue}
    (hr : ∀ queue, r = .ok queue →
      ∃ job, S job.key.device = true ∧ queue = p.worker.queue.put job) :
    (p.queued r).2.Within S c := by
  cases r with
  | error e => exact h
  | ok queue =>
    obtain ⟨job, hj, rfl⟩ := hr queue rfl
    exact h.put hj

theorem Within.issued (h : p.Within S c) {r : Except DispatchError (Option Queue)}
    (hr : ∀ queue, r = .ok (some queue) →
      ∃ job, S job.key.device = true ∧ queue = p.worker.queue.put job) :
    (p.issued r).2.Within S c := by
  cases r with
  | error e => exact h
  | ok queue? =>
    cases queue? with
    | none => exact h
    | some queue =>
      obtain ⟨job, hj, rfl⟩ := hr queue rfl
      exact h.put hj

/-- Asking a worker to stop gives it nothing to do. -/
theorem Within.stopping (h : p.Within S c) : p.stopping.2.Within S c := by
  unfold Seat.stopping
  split <;> exact ⟨h.jobs, h.armed, h.cut, h.holds⟩

theorem put_of_enqueue {q queue : Queue} {job : Job} (h : (q.enqueue job).value = .ok queue) :
    queue = q.put job := by
  rw [Surface.enqueue_value] at h
  split at h
  · exact (Except.ok.inj h).symm
  · cases h

/-- What a producer requests is one job for its button. -/
theorem put_of_request {s : Producer} {q queue : Queue} {k : ButtonKey} {mode : Mode}
    {length : UInt32} (h : (s.request q k mode length).value = .ok queue) :
    ∃ action, queue = q.put ⟨k, action⟩ := by
  unfold Producer.request at h
  split at h
  · exact ⟨_, put_of_enqueue h⟩
  · exact ⟨_, put_of_enqueue h⟩

/-- What a producer pushes is valid, and one job for a button of its device. -/
theorem put_of_dispatch {s : Producer} {q queue : Queue} {d : Descriptor}
    (h : (s.dispatch q d).value = .ok (some queue)) :
    d.problem? = none ∧ ∃ job : Job, job.key.device = d.device ∧ queue = q.put job := by
  unfold Producer.dispatch at h
  split at h
  · rename_i button mode hv hp
    simp only [Logged.value_bind, Logged.value_pure] at h
    cases hr : (s.request q ⟨d.device, button⟩ mode d.duration).value with
    | error e => rw [hr] at h; cases h
    | ok r =>
      rw [hr] at h
      obtain ⟨action, rfl⟩ := put_of_request hr
      cases h
      exact ⟨Option.isNone_iff_eq_none.mp hv, _, rfl, rfl⟩
  · cases h

/-- A gesture is answered alike by all sound caches, and puts one job at most into the queue, for a
device of its command. -/
theorem respond_of_sound (s : Surface) {cache cache' : Cache} (h : cache.Sound) (h' : cache'.Sound)
    (command : String) (g : Gesture) (q : Queue) :
    s.respond cache command g q = s.respond cache' command g q ∧
      ((s.respond cache command g q).1 ≠ .ok .dispatched ∧ (s.respond cache command g q).2 = q ∨
        (decodeFresh command).problem? = none ∧
          ∃ job : Job, job.key.device = (decodeFresh command).device ∧
            s.respond cache command g q = (.ok .dispatched, q.put job)) := by
  cases hp : (decodeFresh command).problem? with
  | some problem =>
    rw [Surface.respond_of_problem h hp, Surface.respond_of_problem h' hp]
    exact ⟨rfl, .inl ⟨nofun, rfl⟩⟩
  | none =>
    rcases idle_or_asks s (decodeFresh command) g with hi | ⟨job, hj⟩
    · rw [Surface.respond_of_idle h hp hi, Surface.respond_of_idle h' hp hi]
      exact ⟨rfl, .inl ⟨nofun, rfl⟩⟩
    · rw [Surface.respond_of_asks h hp hj, Surface.respond_of_asks h' hp hj]
      refine ⟨rfl, ?_⟩
      split
      · exact .inr ⟨rfl, job, by cases hj <;> rfl, rfl⟩
      · exact .inl ⟨nofun, rfl⟩

/-- What is done with a gesture. -/
theorem act_gesture (p : Seat) (c : Common) (command : String) (g : Gesture) :
    let r := p.surface.respond c.cache command g p.worker.queue
    p.act c (.gesture command g) =
      (.handled r.1, p.setQueue r.2, { c with cache := (c.cache.decode command).value.2 }) := by
  rw [← Surface.handle_cache p.surface ⟨c.cache, p.worker.queue⟩ command g]
  rfl

/-- A dispatcher stays within its devices as long as it is asked for these. -/
theorem Within.act (h : p.Within S c) (hb : c.backend.faults = []) (hs : c.cache.Sound)
    (ha : p.Allows c deed) (hd : deed.Addresses S) :
    (p.act c deed).2.1.Within S (p.act c deed).2.2 := by
  cases deed with
  | submit job => exact h.queued fun queue hq => ⟨job, hd, put_of_enqueue hq⟩
  | request k mode length =>
    refine h.queued fun queue hq => ?_
    obtain ⟨action, rfl⟩ := put_of_request hq
    exact ⟨⟨k, action⟩, hd, rfl⟩
  | dispatch d =>
    refine h.issued fun queue hq => ?_
    obtain ⟨hv, job, hj, rfl⟩ := put_of_dispatch hq
    exact ⟨job, hj ▸ hd hv, rfl⟩
  | gesture command g =>
    rw [act_gesture]
    refine Within.congr (c := c) ?_ _
    obtain ⟨-, hq⟩ := respond_of_sound p.surface hs hs command g p.worker.queue
    rcases hq with ⟨-, hq⟩ | ⟨hv, job, hj, hq⟩
    · rw [hq]
      exact h
    · rw [hq]
      exact h.put (hj ▸ hd hv)
  | shutdown => exact h.stopping
  | drop => exact ⟨h.jobs, h.armed, h.cut, h.holds⟩
  | step e =>
    refine Rig.Within.apply h ha.1 (isOwn_of_timely ha.2) hb fun job he => ?_
    subst he
    exact ha.2.elim

/-- What is done at a dispatcher within some devices leaves the others alone. -/
theorem Within.act_elsewhere (h : p.Within S c) (hb : c.backend.faults = []) (hs : c.cache.Sound)
    (ha : p.Allows c deed) {T : UInt32 → Bool} (hT : ∀ d, S d = true → T d = false) :
    c.Agree T (p.act c deed).2.2 := by
  have hc : c.Agree T c := ⟨⟨⟨hb, hb⟩, .refl T _⟩, ⟨hs, hs⟩, rfl⟩
  cases deed with
  | gesture command g =>
    rw [act_gesture]
    exact ⟨hc.backend, ⟨hs, hs.after command⟩, rfl⟩
  | step e => exact ⟨Rig.Within.apply_elsewhere h (isOwn_of_timely ha.2) hb hT, ⟨hs, hs⟩, rfl⟩
  | _ => exact hc

/-- What is done at a dispatcher within some devices is done in the same way wherever the share
agrees on these, and then the shares still do. -/
theorem Within.act_agree (h : p.Within S c) (hc : c.Agree S c') (ha : p.Allows c deed) :
    (p.act c deed).1 = (p.act c' deed).1 ∧ (p.act c deed).2.1 = (p.act c' deed).2.1 ∧
      (p.act c deed).2.2.Agree S (p.act c' deed).2.2 := by
  cases deed with
  | gesture command g =>
    obtain ⟨hr, -⟩ := respond_of_sound p.surface hc.sound.1 hc.sound.2 command g p.worker.queue
    rw [act_gesture, act_gesture, hr]
    exact ⟨rfl, rfl, hc.backend, ⟨hc.sound.1.after command, hc.sound.2.after command⟩, hc.now⟩
  | step e =>
    obtain ⟨b, hs, hb⟩ := Rig.Within.apply_agree h (isOwn_of_timely ha.2) hc.backend
    replace hs : (p.rig c').apply e = ((p.rig c).apply e).onto b := hs
    simp only [Seat.act, hs]
    exact ⟨by cases e <;> rfl, rfl, hb, hc.sound, hc.now⟩
  | _ => exact ⟨rfl, rfl, hc⟩

end Seat

/-! ## Shadows -/

section

variable {ι : Type} [DecidableEq ι] {S : UInt32 → Bool} {i j : ι} {w : Crew ι} {a : Crew Unit}
  {deed : Deed}

/-- A dispatcher among others is as it is alone: what the two share agrees on its devices, and
everybody stays within their own. -/
structure Shadow (S : UInt32 → Bool) (i : ι) (w : Crew ι) (a : Crew Unit) : Prop where
  seat : a.seats () = w.seats i
  common : w.common.Agree S a.common
  within : ∀ j, (w.seats j).Within (Incident.share S i j) w.common

theorem shadow_start (S : UInt32 → Bool) (i : ι) (settings : ι → Settings) (fastTicks : ι → UInt32)
    (devices : List UInt32) :
    Shadow S i (Crew.start settings fastTicks devices)
      (Crew.start (fun _ => settings i) (fun _ => fastTicks i) devices) where
  seat := rfl
  common := ⟨⟨⟨rfl, rfl⟩, .refl S _⟩, ⟨Cache.sound_empty, Cache.sound_empty⟩, rfl⟩
  within j := Rig.within_start _ (settings j) _

/-- After a deed, everybody is still within their own devices. -/
theorem Shadow.within_act (h : Shadow S i w a) (he : w.Allows (.act j deed))
    (ha : (Incident.act j deed).Apart S i) (o : ι) :
    ((w.apply (.act j deed)).2.seats o).Within (Incident.share S i o)
      (w.apply (.act j deed)).2.common := by
  by_cases ho : o = j
  · subst ho
    have hx := (h.within o).act h.common.backend.faultless.1 h.common.sound.1 he ha
    simpa [Crew.apply] using hx
  · simpa [Crew.apply, ho] using (h.within o).congr _

/-- What is done at the dispatcher can be done at it alone, and is replied the same. -/
theorem Shadow.act (h : Shadow S i w a) (he : w.Allows (.act i deed))
    (ha : (Incident.act i deed).Apart S i) :
    a.Allows (.act () deed) ∧ (a.apply (.act () deed)).1 = (w.apply (.act i deed)).1 ∧
      Shadow S i (w.apply (.act i deed)).2 (a.apply (.act () deed)).2 := by
  have hi := h.within i
  rw [Incident.share_self] at hi
  obtain ⟨hr, hs, hc⟩ := hi.act_agree h.common he
  refine ⟨?_, ?_, ?_, ?_, h.within_act he ha⟩
  · rw [Crew.Allows, h.seat]
    exact (Seat.allows_congr h.common).mp he
  · rw [Crew.apply, h.seat]
    exact hr.symm
  · simpa [Crew.apply, h.seat] using hs.symm
  · simpa [Crew.apply, h.seat] using hc

/-- What is done at another dispatcher leaves this one as it is alone. -/
theorem Shadow.act_other (h : Shadow S i w a) (hj : j ≠ i) (he : w.Allows (.act j deed))
    (ha : (Incident.act j deed).Apart S i) : Shadow S i (w.apply (.act j deed)).2 a := by
  have hx := h.within j
  rw [Incident.share_other S hj] at hx
  have hc := hx.act_elsewhere h.common.backend.faultless.1 h.common.sound.1 he (T := S)
    fun d hd => by simpa using hd
  refine ⟨?_, hc.symm.trans h.common, h.within_act he ha⟩
  simpa [Crew.apply, hj.symm] using h.seat

/-- Time passes for both. -/
theorem Shadow.wait (h : Shadow S i w a) (ms : Nat) :
    Shadow S i (w.apply (.wait ms)).2 (a.apply (.wait ms)).2 where
  seat := h.seat
  common := ⟨h.common.backend, h.common.sound, congrArg (· + ms) h.common.now⟩
  within j := (h.within j).congr _

/-- Whatever happens, the dispatcher has a course alone that goes with it. -/
theorem Course.shadow {v : Crew ι} {b : Crew Unit} {trace : List (Incident ι × Feedback)}
    (h : Course w trace v) (ha : ∀ x ∈ trace, x.1.Apart S i) (hs : Shadow S i w b) :
    ∃ a, Course b (Incident.alone i trace) a ∧ Shadow S i v a := by
  induction h with
  | nil => exact ⟨b, .nil, hs⟩
  | @snoc trace v x _ he ih =>
    rw [List.forall_mem_append, List.forall_mem_singleton] at ha
    obtain ⟨a, hc, hv⟩ := ih ha.1
    cases x with
    | wait ms =>
      rw [Incident.alone_wait]
      exact ⟨_, hc.snoc (x := .wait ms) True.intro, hv.wait ms⟩
    | act j deed =>
      by_cases hj : j = i
      · subst hj
        obtain ⟨hx, hr, hn⟩ := hv.act he ha.2
        rw [Incident.alone_act, ← hr]
        exact ⟨_, hc.snoc hx, hn⟩
      · rw [Incident.alone_act_other hj]
        exact ⟨a, hc, hv.act_other hj he ha.2⟩

/-- Dispatchers on different devices are isolated. Any number of them with their surfaces share a
fresh joystick, a decode cache and the time, and whatever is done at them comes in any order: jobs
and commands, the steps of their timers and workers, and the end of any of them at any point. As
long as what one of them is given is for devices of its own, and what the others are given is not,
its part of the course is a course of that dispatcher alone. There it is replied the same all along,
comes to the same end, and its devices have the same journal. -/
theorem dispatchers_isolated (S : UInt32 → Bool) (i : ι) (settings : ι → Settings)
    (fastTicks : ι → UInt32) (devices : List UInt32) {trace : List (Incident ι × Feedback)}
    {w : Crew ι} (h : Course (Crew.start settings fastTicks devices) trace w)
    (ha : ∀ x ∈ trace, x.1.Apart S i) :
    ∃ a, Course (Crew.start (fun _ : Unit => settings i) (fun _ => fastTicks i) devices)
        (Incident.alone i trace) a ∧
      a.seats () = w.seats i ∧
      a.common.backend.joystick.journalOf S = w.common.backend.joystick.journalOf S := by
  obtain ⟨a, hc, hs⟩ := h.shadow ha (shadow_start S i settings fastTicks devices)
  exact ⟨a, hc, hs.seat, hs.common.backend.joystick.journal.symm⟩

end

/-- A pulse on the first device is restarted after the dispatcher of the second one, with a pulse of
its own, was shut down and has handed its device back. -/
def besidesShutdown : List (Incident Bool) :=
  [.act false (.gesture "d1b3" .push), .act true (.gesture "D2B3" .push),
    .act true (.gesture "oops" .push), .act false (.gesture "oops" .push),
    .act false (.step (.execute ⟨0, 0⟩)), .act true (.step (.execute ⟨0, 1⟩)), .wait 10,
    .act true .shutdown, .act true (.step .leave), .act true (.step (.disarm ⟨2, 3⟩)),
    .act true (.step .close), .act true (.step .release), .act true (.step .stop),
    .act false (.gesture "D1B3" .push), .act false (.step (.execute ⟨10, 2⟩)), .wait 250,
    .act false (.step (.expire ⟨1, 3⟩)), .act false (.step (.execute ⟨260, 3⟩))]

/-- The commands of the first dispatcher are found in the cache where the other one has decoded the
same, the pulse is not cut short, and its device stays acquired: as if it had been alone. -/
theorem dispatchers_isolated_shutdown :
    let start (ι : Type) : Crew ι := Crew.start (fun _ => {}) (fun _ => 5) [1, 2]
    let trace := (start Bool).traceOf besidesShutdown
    let w := (start Bool).follow besidesShutdown
    Course (start Bool) trace w ∧ (∀ x ∈ trace, x.1.Apart (· == 1) false) ∧
      w.common.cache.hits = 2 ∧ (w.seats true).worker.phase = .stopped ∧
      ∃ a, Course (start Unit) (Incident.alone false trace) a ∧
        (a.seats ()).worker.stats = { executed := 3 } ∧
        a.common.backend.joystick.journalOf (· == 1) =
          [⟨1, .acquire⟩, ⟨1, .button 3 true⟩, ⟨1, .button 3 true⟩, ⟨1, .button 3 false⟩] := by
  intro start trace w
  have hf : (start Bool).canFollow besidesShutdown = true := by decide +kernel
  have hc : Course (start Bool) trace w := Crew.course_follow .nil hf
  have ha : ∀ x ∈ trace, x.1.Apart (· == 1) false := by decide +kernel
  obtain ⟨a, hu, hs, hj⟩ := dispatchers_isolated (· == 1) false _ _ _ hc ha
  refine ⟨hc, ha, by decide +kernel, by decide +kernel, a, hu, ?_, hj.trans (by decide +kernel)⟩
  rw [hs]
  decide +kernel

end ControlDeck
