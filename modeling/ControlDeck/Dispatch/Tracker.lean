import ControlDeck.Dispatch.Queue
import ControlDeck.Text.Duration
import Std.Data.TreeMap

/-!
# Pulse timers

A pulse presses its button now and releases it later. Each button has at most one armed timer. A
timer that expires does not release the button itself: it queues a release that carries the
generation of the pulse, so that the worker can tell whether the button was pulsed again meanwhile.

* `Tracker.arm`: a new pulse supersedes the timer and every queued release of the one before.
* `Tracker.expire`: an armed timer queues its release.
* `Tracker.confirms`: whether a queued release still belongs to the latest pulse of its button.
* `Tracker.cancelAll`: every armed timer is disarmed; the buttons come out in ascending order.
* `pulses_arm`, `pulses_expire`, `pulses_cancel`: what each step does to the pulses of a button; no
  step touches those of another one.
-/

namespace ControlDeck.Dispatch

/-- A point of time: milliseconds, and within one of them the turn of a worker. -/
structure Moment where
  ms : Nat := 0
  turn : Nat := 0
  deriving DecidableEq, Repr

/-- An armed timer: its length in milliseconds, when it was armed, and how many timers its tracker
armed before it. -/
structure Timer where
  length : Nat
  armedAt : Moment
  serial : Nat
  deriving DecidableEq, Repr

/-- When a timer expires. -/
def Timer.deadline (t : Timer) : Nat := t.armedAt.ms + t.length

/-- The order in which timers with one deadline expire: the order in which they were armed. -/
def Timer.isBefore (a b : Timer) : Bool :=
  a.armedAt.turn < b.armedAt.turn || (a.armedAt.turn == b.armedAt.turn && a.serial ≤ b.serial)

/-- The pulses of one button: how often its generation was raised, modulo `2 ^ 64`, and the timer
of the latest pulse while it is armed. -/
structure Pulses where
  generation : UInt64 := 0
  timer? : Option Timer := none
  deriving DecidableEq, Repr

/-- The pulses of every button that was ever pulsed, and the number of timers armed so far. -/
structure Tracker where
  entries : Std.TreeMap ButtonKey Pulses := ∅
  armings : Nat := 0

/-! ## Log records -/

/-- A pulse replaces one that is still held. -/
def Notice.restarted (k : ButtonKey) : Record :=
  ⟨.debug, s!"Pulse {k.text} restarted, previous release superseded"⟩

/-- A timer queued its release. -/
def Notice.expired (k : ButtonKey) (t : Timer) : Record :=
  ⟨.debug, s!"Pulse {k.text} expired after {Text.duration t.length}"⟩

/-- A timer expired when the queue was closed. -/
def Notice.queueClosed (k : ButtonKey) : Record :=
  ⟨.warn, s!"Dispatch queue closed, release of {k.text} dropped"⟩

/-- A timer expired when no producer was left. -/
def Notice.queueGone (k : ButtonKey) : Record :=
  ⟨.warn, s!"Dispatch queue gone, release of {k.text} dropped"⟩

namespace Tracker

/-! ## Readings -/

/-- The pulses of a button. -/
def pulses (t : Tracker) (k : ButtonKey) : Pulses := t.entries.getD k {}

/-- The armed timer of a button. -/
def timer? (t : Tracker) (k : ButtonKey) : Option Timer := (t.pulses k).timer?

/-- Whether a button has an armed timer. -/
def isArmed (t : Tracker) (k : ButtonKey) : Bool := (t.timer? k).isSome

/-- The armed timers, by button in ascending order. -/
def armed (t : Tracker) : List (ButtonKey × Timer) :=
  t.entries.toList.filterMap fun (k, p) => p.timer?.map (k, ·)

/-- The number of armed timers. -/
def armedCount (t : Tracker) : Nat := t.armed.length

/-- Whether a release of this generation still belongs to the latest pulse of a button: the button
was pulsed, its generation is the same, and no timer is armed. -/
def confirms (t : Tracker) (k : ButtonKey) (generation : UInt64) : Bool :=
  match t.entries[k]? with
  | some p => p.generation == generation && p.timer?.isNone
  | none => false

/-! ## Steps -/

/-- Starts a pulse: raises the generation of its button and arms the timer anew. -/
def arm (t : Tracker) (k : ButtonKey) (length : Nat) (now : Moment) : Logged Tracker := do
  if t.isArmed k then Logged.note (Notice.restarted k)
  return {
    entries := t.entries.insert k
      ⟨(t.pulses k).generation + 1, some ⟨length, now, t.armings⟩⟩
    armings := t.armings + 1 }

/-- The armed timer of a button expires: it is disarmed and queues the release of its pulse. -/
def expire (t : Tracker) (q : Queue) (k : ButtonKey) : Logged (Tracker × Queue) :=
  match t.pulses k with
  | ⟨_, none⟩ => return (t, q)
  | ⟨generation, some timer⟩ => do
    let t := { t with entries := t.entries.insert k ⟨generation, none⟩ }
    if !q.hasSender then
      Logged.note (Notice.queueGone k)
      return (t, q)
    else
      match q.send? ⟨k, .pulseRelease generation⟩ with
      | some q =>
        Logged.note (Notice.expired k timer)
        return (t, q)
      | none =>
        Logged.note (Notice.queueClosed k)
        return (t, q)

/-- Disarms the timer of a button and raises its generation, so that no release that is queued
for it is confirmed any more; a button without an armed timer stays as it is. -/
def cancel (t : Tracker) (k : ButtonKey) : Tracker :=
  match t.pulses k with
  | ⟨_, none⟩ => t
  | ⟨generation, some _⟩ => { t with entries := t.entries.insert k ⟨generation + 1, none⟩ }

/-- Disarms every timer; answers the buttons they were armed for, in ascending order. -/
def cancelAll (t : Tracker) : List ButtonKey × Tracker :=
  let keys := t.armed.map (·.1)
  (keys, keys.foldl cancel t)

theorem pulses_insert (entries : Std.TreeMap ButtonKey Pulses) (armings : Nat)
    (k other : ButtonKey) (p : Pulses) :
    (Tracker.mk (entries.insert k p) armings).pulses other =
      if other = k then p else (Tracker.mk entries armings).pulses other := by
  simp [pulses, Std.TreeMap.getD_insert, @eq_comm _ other k]

/-- A new pulse raises the generation of its button and arms its timer; it does nothing to any
other button. -/
theorem pulses_arm (t : Tracker) (k other : ButtonKey) (length : Nat) (now : Moment) :
    (t.arm k length now).value.pulses other =
      if other = k then ⟨(t.pulses k).generation + 1, some ⟨length, now, t.armings⟩⟩
      else t.pulses other := by
  simp only [arm, Logged.value_ite, Logged.value_bind, Logged.value_pure, ite_self]
  exact pulses_insert ..

/-- An expiry disarms the timer of its button and leaves the generation as it is. -/
theorem pulses_expire (t : Tracker) (q : Queue) (k other : ButtonKey) :
    (t.expire q k).value.1.pulses other =
      if other = k then ⟨(t.pulses k).generation, none⟩ else t.pulses other := by
  unfold expire
  rcases hp : t.pulses k with ⟨generation, _ | timer⟩
  · by_cases ho : other = k
    · simp [ho, hp]
    · simp [ho]
  · dsimp only
    split
    · exact pulses_insert ..
    · split <;> exact pulses_insert ..

/-- A cancellation disarms the timer of its button and raises the generation, if one is armed. -/
theorem pulses_cancel (t : Tracker) (k other : ButtonKey) :
    (t.cancel k).pulses other =
      if other = k ∧ t.isArmed k then ⟨(t.pulses k).generation + 1, none⟩ else t.pulses other := by
  unfold cancel isArmed timer?
  rcases hp : t.pulses k with ⟨generation, _ | timer⟩
  · simp
  · simp only [Option.isSome_some, and_true]
    exact pulses_insert ..

/-! ## Deadlines -/

/-- The timers whose deadline has come, in the order in which they were armed. -/
def due (t : Tracker) (now : Nat) : List (ButtonKey × Timer) :=
  (t.armed.filter fun (_, timer) => timer.deadline ≤ now).mergeSort
    fun a b => a.2.isBefore b.2

/-- The earliest deadline of an armed timer. -/
def nextDeadline? (t : Tracker) : Option Nat := (t.armed.map (·.2.deadline)).min?

end Tracker

end ControlDeck.Dispatch
