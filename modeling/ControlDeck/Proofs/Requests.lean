import ControlDeck.Surface
import ControlDeck.Proofs.Caching
import Mathlib.Data.Option.Basic

/-!
# From the surface to the queue

A gesture on a control queues at most one job. Which one follows from the gesture, the surface and
what the command decodes to, whatever decoders have remembered before.

- **Checks** (`Descriptor.ranges_button`, `Descriptor.ranges_encoder`): the ranges that a descriptor
  keeps which fails no check.
- **Gestures** (`Gesture`): a control is turned or pushed. A gesture asks for one job (`Asks`) or
  for none (`Idle`); `Asks.inRange` says that the job is for a button that there may be.
- `gesture_queues`: what the surface answers to a gesture, and what it queues.
-/

namespace ControlDeck

open Command Dispatch

/-! ## Checks -/

namespace Command

theorem one_le_iff {n : UInt32} : 1 ≤ n ↔ n ≠ 0 := by
  rw [UInt32.le_iff_toNat_le, Ne, ← UInt32.toNat_inj]
  exact Nat.one_le_iff_ne_zero

theorem pos_iff {n : UInt32} : 0 < n ↔ n ≠ 0 := by
  rw [UInt32.lt_iff_toNat_lt, Ne, ← UInt32.toNat_inj]
  exact Nat.pos_iff_ne_zero

theorem checkDevice_eq_none_iff {device max : UInt32} :
    checkDevice device max = none ↔ 1 ≤ device ∧ device ≤ max := by
  simp only [checkDevice, ite_eq_right_iff, reduceCtorEq, imp_false, not_or, UInt32.not_lt,
    one_le_iff, ne_eq]

theorem checkOptional_eq_none_iff {role : Role} {button : UInt32} :
    checkOptional role button = none ↔ button ≤ maxButton := by
  simp only [checkOptional, ite_eq_right_iff, reduceCtorEq, imp_false, UInt32.not_lt]

theorem checkRequired_eq_none_iff {role : Role} {button : UInt32} :
    checkRequired role button = none ↔ 1 ≤ button ∧ button ≤ maxButton := by
  rw [one_le_iff, checkRequired]
  split
  · rename_i h
    exact iff_of_false nofun fun hb => hb.1 h
  · rename_i h
    rw [checkOptional_eq_none_iff, and_iff_right h]

namespace Descriptor

variable {d : Descriptor}

/-- A button command fails no check if its device and its button are in range. -/
theorem ranges_button {b : ButtonAction} (hc : d.control = .button b) :
    d.problem? = none ↔
      (1 ≤ d.device ∧ d.device ≤ maxButtonDevice) ∧ 1 ≤ b.button ∧ b.button ≤ maxButton := by
  simp only [problem?, hc, Option.orElse_eq_none, checkDevice_eq_none_iff,
    checkRequired_eq_none_iff]

/-- An encoder command fails no check if its device and its two slow buttons are in range, and none
of the others is above it. -/
theorem ranges_encoder {e : EncoderAction} (hc : d.control = .encoder e) :
    d.problem? = none ↔
      (1 ≤ d.device ∧ d.device ≤ maxEncoderDevice) ∧ (1 ≤ e.left ∧ e.left ≤ maxButton) ∧
        (1 ≤ e.right ∧ e.right ≤ maxButton) ∧ e.fastLeft ≤ maxButton ∧ e.fastRight ≤ maxButton ∧
        e.action ≤ maxButton := by
  simp only [problem?, hc, Option.orElse_eq_none, checkDevice_eq_none_iff,
    checkRequired_eq_none_iff, checkOptional_eq_none_iff]

end Descriptor

/-- The fast buttons of a decoded command are never missing: each is the slow one where the command
names none. -/
theorem resolved_decodeFresh {command : String} {e : EncoderAction}
    (hc : (decodeFresh command).control = .encoder e) : e.resolved = e := by
  rw [decodeFresh_eq, decodeKey] at hc
  split at hc
  · have he : _ = e := Control.encoder.inj hc
    rw [← he]
    simp only [EncoderAction.resolved, EncoderAction.mk.injEq, true_and, and_true]
    constructor <;> split <;> simp_all
  · cases hc

end Command

namespace Dispatch.Queue

/-- The queue with one more job at its end. -/
def put (q : Queue) (job : Job) : Queue := { q with jobs := q.jobs ++ [job] }

theorem put_ne (q : Queue) (job : Job) : q.put job ≠ q := fun h => by
  simpa [put] using congrArg (fun q => q.jobs.length) h

theorem put_inj {q : Queue} {job job' : Job} : q.put job = q.put job' ↔ job = job' := by
  simp [put]

end Dispatch.Queue

/-! ## Gestures -/

/-- What is done to a control on the surface. -/
inductive Gesture
  | turn (diff : Int32)
  | push
  deriving DecidableEq, Repr

/-- The highest device that a gesture can reach. -/
def Gesture.maxDevice : Gesture → UInt32
  | .turn _ => 8
  | .push => 16

/-- The button of an encoder for each direction and speed. -/
def Command.EncoderAction.turned (e : EncoderAction) (toLeft isFast : Bool) : UInt32 :=
  match toLeft, isFast with
  | true, false => e.left
  | true, true => e.fastLeft
  | false, false => e.right
  | false, true => e.fastRight

namespace Surface

/-- What the surface does with a gesture. -/
def handle (s : Surface) (desk : Desk) (command : String) :
    Gesture → Logged (Except DispatchError Outcome × Desk)
  | .turn diff => s.rotate desk command diff
  | .push => s.push desk command

/-- What the surface answers to a gesture, and the queue after it. -/
def respond (s : Surface) (cache : Cache) (command : String) (g : Gesture) (q : Queue) :
    Except DispatchError Outcome × Queue :=
  let (answer, desk) := (s.handle ⟨cache, q⟩ command g).value
  (answer, desk.queue)

/-- The length of a pulse: that of the descriptor, and the default where that is zero. -/
def pulseLength (s : Surface) (d : Descriptor) : UInt32 :=
  if d.duration = 0 then s.producer.defaultPulse else d.duration

end Surface

/-- The job that a gesture asks for: a turn pulses the button of its direction, the fast one if the
ticks reach the threshold; a push does what the mode says, with the button of a button command or
with the push button of an encoder. -/
inductive Asks (s : Surface) (d : Descriptor) : Gesture → Job → Prop
  | turn {e : EncoderAction} {diff : Int32} (hc : d.control = .encoder e) (hd : diff ≠ 0) :
      Asks s d (.turn diff)
        ⟨⟨d.device, e.turned (diff.toInt < 0) (s.fastTicks.toNat ≤ diff.toInt.natAbs)⟩,
          .pulse (s.pulseLength d)⟩
  | pushButton {b : ButtonAction} (hc : d.control = .button b) :
      Asks s d .push ⟨⟨d.device, b.button⟩, .ofMode b.mode (s.pulseLength d)⟩
  | pushEncoder {e : EncoderAction} (hc : d.control = .encoder e) (ha : e.action ≠ 0) :
      Asks s d .push ⟨⟨d.device, e.action⟩, .ofMode e.mode (s.pulseLength d)⟩

/-- A gesture that asks for nothing: a control without an encoder is turned, or by no ticks at all,
or an encoder without a push button is pushed. -/
def Idle (d : Descriptor) : Gesture → Prop
  | .turn diff => (∃ b, d.control = .button b) ∨ diff = 0
  | .push => ∃ e, d.control = .encoder e ∧ e.action = 0

section

variable {s : Surface} {d : Descriptor} {g : Gesture} {job job' : Job}

/-- A gesture asks for one job at most. -/
theorem Asks.unique (h : Asks s d g job) (h' : Asks s d g job') : job = job' := by
  cases h with
  | turn hc _ =>
    cases h' with
    | turn hc' _ => cases hc.symm.trans hc'; rfl
  | pushButton hc =>
    cases h' with
    | pushButton hc' => cases hc.symm.trans hc'; rfl
    | pushEncoder hc' _ => cases hc.symm.trans hc'
  | pushEncoder hc _ =>
    cases h' with
    | pushButton hc' => cases hc.symm.trans hc'
    | pushEncoder hc' _ => cases hc.symm.trans hc'; rfl

theorem Asks.not_idle (h : Asks s d g job) : ¬ Idle d g := by
  cases h with
  | turn hc hd =>
    rintro (⟨b, hb⟩ | hz)
    · cases hc.symm.trans hb
    · exact hd hz
  | pushButton hc =>
    rintro ⟨e, he, -⟩
    cases hc.symm.trans he
  | pushEncoder hc ha =>
    rintro ⟨e, he, hz⟩
    cases hc.symm.trans he
    exact ha hz

/-- A gesture that is not idle asks for a job. -/
theorem idle_or_asks (s : Surface) (d : Descriptor) (g : Gesture) :
    Idle d g ∨ ∃ job, Asks s d g job := by
  cases g with
  | turn diff =>
    by_cases hd : diff = 0
    · exact .inl (.inr hd)
    cases hc : d.control with
    | button b => exact .inl (.inl ⟨b, hc⟩)
    | encoder e => exact .inr ⟨_, .turn hc hd⟩
  | push =>
    cases hc : d.control with
    | button b => exact .inr ⟨_, .pushButton hc⟩
    | encoder e =>
      by_cases ha : e.action = 0
      · exact .inl ⟨e, hc, ha⟩
      · exact .inr ⟨_, .pushEncoder hc ha⟩

/-- Every button of an encoder command that a turn may act on is in range. -/
theorem turned_inRange {e : EncoderAction} (hc : d.control = .encoder e) (hv : d.problem? = none)
    (hr : e.resolved = e) (toLeft isFast : Bool) :
    1 ≤ e.turned toLeft isFast ∧ e.turned toLeft isFast ≤ maxButton := by
  obtain ⟨-, hl, hr', hfl, hfr, -⟩ := (Descriptor.ranges_encoder hc).mp hv
  have hfast : ∀ slow fast : UInt32, 1 ≤ slow → (if fast = 0 then slow else fast) = fast →
      1 ≤ fast := by
    intro slow fast hs hf
    split at hf
    · exact hf ▸ hs
    · exact one_le_iff.mpr ‹_›
  cases toLeft <;> cases isFast
  · exact hr'
  · exact ⟨hfast _ _ hr'.1 (congrArg EncoderAction.fastRight hr), hfr⟩
  · exact hl
  · exact ⟨hfast _ _ hl.1 (congrArg EncoderAction.fastLeft hr), hfl⟩

/-- The job that a gesture on a valid command asks for is for a button that there may be. -/
theorem Asks.inRange (h : Asks s d g job) (hv : d.problem? = none)
    (hr : ∀ e, d.control = .encoder e → e.resolved = e) :
    (1 ≤ job.key.device ∧ job.key.device ≤ g.maxDevice) ∧
      1 ≤ job.key.button ∧ job.key.button ≤ maxButton := by
  cases h with
  | turn hc _ =>
    exact ⟨((Descriptor.ranges_encoder hc).mp hv).1, turned_inRange hc hv (hr _ hc) _ _⟩
  | pushButton hc => exact (Descriptor.ranges_button hc).mp hv
  | pushEncoder hc hn =>
    obtain ⟨hd, -, -, -, -, ha⟩ := (Descriptor.ranges_encoder hc).mp hv
    exact ⟨⟨hd.1, UInt32.le_trans hd.2 (by decide)⟩, one_le_iff.mpr hn, ha⟩

/-- No gesture asks for the end of a pulse. -/
theorem Asks.generation? (h : Asks s d g job) : job.generation? = none := by
  cases h with
  | turn => rfl
  | @pushButton b => cases b.mode <;> rfl
  | @pushEncoder e => cases e.mode <;> rfl

end

/-! ## Answers -/

namespace Surface

variable {s : Surface} {c : Cache} {command : String} {g : Gesture} {q : Queue}

/-- The command is decoded as by a new decoder, and then checked. -/
theorem decodeValid_value (hs : c.Sound) (command : String) (q : Queue) :
    (decodeValid ⟨c, q⟩ command).value =
      (match (decodeFresh command).problem? with
        | some problem => .error problem
        | none => .ok (decodeFresh command),
      ⟨(c.decode command).value.2, q⟩) := by
  unfold decodeValid
  rw [Logged.value_bind]
  have hd := hs.decode command
  generalize (c.decode command).value = decoded at hd ⊢
  obtain ⟨d, cache⟩ := decoded
  obtain rfl : d = _ := hd
  dsimp only
  cases (decodeFresh command).problem? <;> rfl

/-- A command that fails a check is answered with its problem. -/
theorem respond_of_problem (hs : c.Sound) {problem : Problem}
    (hp : (decodeFresh command).problem? = some problem) :
    s.respond c command g q = (.ok (.invalid problem), q) := by
  have hd := decodeValid_value hs command q
  rw [hp] at hd
  cases g with
  | turn diff => simp [respond, handle, rotate, hd]
  | push => simp [respond, handle, push, hd]

/-- A gesture that asks for nothing is ignored. -/
theorem respond_of_idle (hs : c.Sound) (hv : (decodeFresh command).problem? = none)
    (hi : Idle (decodeFresh command) g) : s.respond c command g q = (.ok .ignored, q) := by
  have hd := decodeValid_value hs command q
  rw [hv] at hd
  cases g with
  | turn diff =>
    cases hc : (decodeFresh command).control with
    | button b => simp [respond, handle, rotate, hd, hc]
    | encoder e =>
      have hz : diff = 0 := hi.resolve_left fun ⟨b, hb⟩ => by cases hc.symm.trans hb
      simp [respond, handle, rotate, hd, hc, hz]
  | push =>
    obtain ⟨e, hc, ha⟩ := hi
    simp [respond, handle, push, Producer.dispatch, hd, Descriptor.push?, hc, ha]

/-- The surface picks the button of an encoder by direction and speed. -/
theorem button_eq (s : Surface) (e : EncoderAction) (diff : Int32) :
    button e diff (s.speed diff) =
      e.turned (diff.toInt < 0) (s.fastTicks.toNat ≤ diff.toInt.natAbs) := by
  have hl : diff < 0 ↔ diff.toInt < 0 := Int32.lt_iff_toInt_lt
  unfold speed
  by_cases hf : s.fastTicks.toNat ≤ diff.toInt.natAbs <;> by_cases hn : diff.toInt < 0 <;>
    simp [button, EncoderAction.turned, hl, hf, hn]

/-- A job goes to the end of an open queue, and comes back from a closed one. -/
theorem enqueue_value (q : Queue) (job : Job) :
    (q.enqueue job).value =
      if q.isOpen then .ok (q.put job) else .error (.queueClosed job) := by
  unfold Queue.enqueue Queue.send? Queue.put
  cases q.isOpen <;> rfl

/-- A pulse is one job. -/
theorem pulse_eq (s : Surface) (q : Queue) (k : ButtonKey) (d : Descriptor) :
    s.producer.pulse q k d.duration = q.enqueue ⟨k, .pulse (s.pulseLength d)⟩ :=
  rfl

/-- What is requested is one job. -/
theorem request_eq (s : Surface) (q : Queue) (k : ButtonKey) (mode : Mode) (d : Descriptor) :
    s.producer.request q k mode d.duration = q.enqueue ⟨k, .ofMode mode (s.pulseLength d)⟩ := by
  cases mode <;> rfl

/-- A push queues what the descriptor says to push, and gives it back where the queue is closed. -/
theorem respond_of_push (hs : c.Sound) (hv : (decodeFresh command).problem? = none)
    {button : UInt32} {mode : Mode} (hp : (decodeFresh command).push? = some (button, mode)) :
    s.respond c command .push q =
      let job : Job :=
        ⟨⟨(decodeFresh command).device, button⟩, .ofMode mode (s.pulseLength (decodeFresh command))⟩
      if q.isOpen then (.ok .dispatched, q.put job) else (.error (.queueClosed job), q) := by
  have hd := decodeValid_value hs command q
  rw [hv] at hd
  have hvalid : (decodeFresh command).isValid = true := by rw [Descriptor.isValid, hv]; rfl
  simp only [respond, handle, push, Producer.dispatch, Logged.value_bind, hd, hvalid, hp,
    request_eq, enqueue_value]
  cases q.isOpen <;> rfl

/-- A job that a gesture asks for is queued, and comes back where the queue is closed. -/
theorem respond_of_asks (hs : c.Sound) (hv : (decodeFresh command).problem? = none) {job : Job}
    (ha : Asks s (decodeFresh command) g job) :
    s.respond c command g q =
      if q.isOpen then (.ok .dispatched, q.put job) else (.error (.queueClosed job), q) := by
  cases ha with
  | @turn e diff hc hn =>
    have hd := decodeValid_value hs command q
    rw [hv] at hd
    simp only [respond, handle, rotate, Logged.value_bind, hd, hc, hn, ↓reduceIte, button_eq,
      pulse_eq, enqueue_value]
    cases q.isOpen <;> rfl
  | pushButton hc =>
    have hb := one_le_iff.mp ((Descriptor.ranges_button hc).mp hv).2.1
    exact respond_of_push hs hv (by rw [Descriptor.push?, hc]; exact if_pos (pos_iff.mpr hb))
  | pushEncoder hc ha =>
    exact respond_of_push hs hv (by rw [Descriptor.push?, hc]; exact if_pos (pos_iff.mpr ha))

/-- A check changes the cache only, as a decode of its command does. -/
theorem decodeValid_desk (desk : Desk) (command : String) :
    (decodeValid desk command).value.2 =
      { desk with cache := (desk.cache.decode command).value.2 } := by
  unfold decodeValid
  rw [Logged.value_bind]
  dsimp only
  split <;> rfl

/-- A gesture leaves the cache as a decode of its command does, and the queue as it was unless it is
dispatched. -/
theorem handle_desk (s : Surface) (desk : Desk) (command : String) (g : Gesture) :
    let r := (s.handle desk command g).value
    r.2.cache = (desk.cache.decode command).value.2 ∧
      (r.1 ≠ .ok .dispatched → r.2.queue = desk.queue) := by
  have hv := decodeValid_desk desk command
  generalize hr : (decodeValid desk command).value = r at hv
  obtain ⟨_ | d, _⟩ := r <;> subst hv
  · cases g <;> simp [handle, rotate, push, hr]
  · cases g with
    | turn diff =>
      simp only [handle, rotate, Logged.value_bind, hr]
      cases d.control with
      | button b => exact ⟨rfl, fun _ => rfl⟩
      | encoder e =>
        dsimp only
        split
        · exact ⟨rfl, fun _ => rfl⟩
        · rw [Logged.value_bind, Logged.value_bind]
          split
          · exact ⟨rfl, absurd rfl⟩
          · exact ⟨rfl, fun _ => rfl⟩
    | push =>
      simp only [handle, push, Logged.value_bind, hr]
      split
      · exact ⟨rfl, absurd rfl⟩
      · exact ⟨rfl, fun _ => rfl⟩
      · exact ⟨rfl, fun _ => rfl⟩

theorem handle_cache (s : Surface) (desk : Desk) (command : String) (g : Gesture) :
    (s.handle desk command g).value.2.cache = (desk.cache.decode command).value.2 :=
  (s.handle_desk desk command g).1

end Surface

/-- From the surface to the queue. Whatever decoders have left in a cache, and with `d` for what a
new decoder makes of the command:

- a gesture is invalid if `d` fails a check, and then queues nothing;
- it is ignored if `d` is valid and the gesture is idle;
- while the queue is open it queues the job that it asks for if `d` is valid, is dispatched if it
  queued one, ignored if `d` is valid and it queued none, and never refused;
- a job that it queued is no end of a pulse, and for a button that there may be;
- once the queue is closed it queues nothing, and is refused with the job that it would have queued;
- the cache is then as after a decode. -/
theorem gesture_queues {trace : List Exchange} {p : Pool} (h : History trace p) (i : Nat)
    (s : Surface) (q : Queue) (command : String) (g : Gesture) :
    let d := (({} : Cache).decode command).value.1
    let respond := s.respond (p.cacheAt i) command g
    (∀ problem, (respond q).1 = .ok (.invalid problem) ↔ d.problem? = some problem) ∧
    (d.problem? ≠ none → (respond q).2 = q) ∧
    ((respond q).1 = .ok .ignored ↔ d.problem? = none ∧ Idle d g) ∧
    (q.isOpen = true →
      (∀ job, (respond q).2 = q.put job ↔ d.problem? = none ∧ Asks s d g job) ∧
      ((respond q).1 = .ok .dispatched ↔ ∃ job, (respond q).2 = q.put job) ∧
      ((respond q).1 = .ok .ignored ↔ d.problem? = none ∧ (respond q).2 = q) ∧
      ∀ e, (respond q).1 ≠ .error e) ∧
    (∀ job, (respond q).2 = q.put job →
      job.generation? = none ∧ (1 ≤ job.key.device ∧ job.key.device ≤ g.maxDevice) ∧
        1 ≤ job.key.button ∧ job.key.button ≤ 128) ∧
    (q.isOpen = false → (respond q).2 = q ∧
      let opened : Queue := { q with isOpen := true }
      ∀ job, (respond q).1 = .error (.queueClosed job) ↔ (respond opened).2 = opened.put job) ∧
    (s.handle ⟨p.cacheAt i, q⟩ command g).value.2.cache =
      ((p.cacheAt i).decode command).value.2 := by
  intro d respond
  have hs : (p.cacheAt i).Sound := (h.kept.ledgers i).sound
  rw [show d = decodeFresh command from Cache.value_decode_empty command, Surface.handle_cache]
  cases hp : (decodeFresh command).problem? with
  | some problem =>
    have hr : ∀ q, respond q = (.ok (.invalid problem), q) := fun _ =>
      Surface.respond_of_problem hs hp
    simp [hr, (Queue.put_ne _ _).symm]
  | none =>
    rcases idle_or_asks s (decodeFresh command) g with hi | ⟨job, hj⟩
    · have hr : ∀ q, respond q = (.ok .ignored, q) := fun _ => Surface.respond_of_idle hs hp hi
      have hn : ∀ job, ¬ Asks s (decodeFresh command) g job := fun _ h => h.not_idle hi
      simp [hr, hi, hn, (Queue.put_ne _ _).symm]
    · have hr : ∀ q, respond q = if q.isOpen then _ else _ := fun _ =>
        Surface.respond_of_asks hs hp hj
      cases ho : q.isOpen with
      | true =>
        have hk : _ ∧ 1 ≤ job.key.button ∧ job.key.button ≤ 128 :=
          hj.inRange hp fun _ => resolved_decodeFresh
        have hu : ∀ job', Asks s (decodeFresh command) g job' ↔ job = job' := fun _ =>
          ⟨hj.unique, fun h => h ▸ hj⟩
        simpa [hr, ho, hj.not_idle, hu, Queue.put_ne, Queue.put_inj] using
          And.intro hj.generation? hk
      | false => simp [hr, ho, hj.not_idle, (Queue.put_ne _ _).symm, Queue.put_inj]

/-- The fastest turn there is, to the left, on a command whose pulse length is the default; and a
push once the queue is closed. -/
theorem gesture_queues_fast :
    let command := "D1 L10 R20 FL11 A3 P0"
    let c := (({} : Pool).follow [.create, .decode 0 "d1 l10 r20 fl11 a3 p0"]).cacheAt 0
    let s : Surface := { fastTicks := 2147483648, producer := { defaultPulse := 70 } }
    let turned : Job := ⟨⟨1, 11⟩, .pulse 70⟩
    let closed : Queue := { isOpen := false }
    s.respond c command (.turn Int32.minValue) {} = (.ok .dispatched, Queue.put {} turned) ∧
      s.respond c command .push closed = (.error (.queueClosed ⟨⟨1, 3⟩, .pulse 70⟩), closed) := by
  intro command c s turned closed
  have hc : ({} : Pool).canFollow [.create, .decode 0 "d1 l10 r20 fl11 a3 p0"] = true := by
    decide +kernel
  have h := History.nil.follow hc
  obtain ⟨-, -, -, hopen, -, -, -⟩ := gesture_queues h 0 s {} command (.turn Int32.minValue)
  obtain ⟨-, -, -, -, -, hclosed, -⟩ := gesture_queues h 0 s closed command .push
  have hput : (s.respond c command (.turn Int32.minValue) {}).2 = Queue.put {} turned := by
    decide +kernel
  obtain ⟨hq, hj⟩ := hclosed rfl
  exact ⟨Prod.ext ((hopen rfl).2.1.mpr ⟨_, hput⟩) hput,
    Prod.ext ((hj _).mpr (by decide +kernel)) hq⟩

end ControlDeck
