import ControlDeck.Dispatch.Worker

/-!
# Passing time

Time is counted in whole milliseconds and moves only while somebody waits. It then jumps from one
deadline to the next, and everything that can happen at a deadline happens before it moves on. A
timer that is due at the very millisecond at which the wait ends expires at the start of the next
wait. If the wait ends because a running worker is stopped, such a timer expires after the stop and
before the worker learns of it.

* `elapse`: a wait, for any system that knows its earliest deadline.
* `Tracker.expireDue`, `Worker.expireDue`: every timer that is due, in the order of arming.
* `Manual`: timers, queue and feeder driven by hand, without a worker.
* `Manned`: one worker, run or looked at by hand.
-/

namespace ControlDeck.Dispatch

open Device

/-- Waits until `wake`: at every moment from `now` on at which something is due, `instant` lets
everything happen that is due then. Answers the last such moment too. -/
def elapse {σ : Type} (deadline? : σ → Option Nat) (instant : Nat → σ → Logged σ) (wake now : Nat)
    (s : σ) : Logged (Nat × σ) := do
  let s ← instant now s
  match deadline? s with
  | some next =>
    if _h : now < next ∧ next < wake then elapse deadline? instant wake next s else return (now, s)
  | none => return (now, s)
termination_by wake - now

/-- Lets every timer expire that is due, in the order in which they were armed. -/
def Tracker.expireDue (t : Tracker) (q : Queue) (now : Nat) : Logged (Tracker × Queue) :=
  (t.due now).foldlM (fun (t, q) (k, _) => t.expire q k) (t, q)

/-- Lets every timer of a worker expire that is due. -/
def Worker.expireDue (w : Worker) (now : Nat) : Logged Worker := do
  let (tracker, queue) ← w.tracker.expireDue w.queue now
  return { w with tracker, queue }

/-! ## Driven by hand -/

/-- A feeder, pulse timers and a queue from which nobody takes jobs, at a point of time. -/
structure Manual where
  feeder : Feeder
  tracker : Tracker := {}
  queue : Queue := {}
  now : Nat := 0

namespace Manual

/-- Presses a button and arms its timer. -/
def pulse (m : Manual) (k : ButtonKey) (length : Nat) : Logged Manual := do
  let tracker ← m.tracker.arm k length ⟨m.now, 0⟩
  return { m with feeder := ← m.feeder.press k, tracker }

/-- Arms the timer of a button that is pressed elsewhere. -/
def arm (m : Manual) (k : ButtonKey) (length : Nat) : Logged Manual := do
  return { m with tracker := ← m.tracker.arm k length ⟨m.now, 0⟩ }

/-- Feeds the devices. -/
def feed (m : Manual) (operation : Feeder → Logged Feeder) : Logged Manual := do
  return { m with feeder := ← operation m.feeder }

/-- Disarms all timers. -/
def cancelAll (m : Manual) : List ButtonKey × Manual :=
  let (keys, tracker) := m.tracker.cancelAll
  (keys, { m with tracker })

/-- Takes everything out of the queue. -/
def receive (m : Manual) : List Job × Manual :=
  let (jobs, queue) := m.queue.takeAll
  (jobs, { m with queue })

/-- Waits for some milliseconds. -/
def sleep (m : Manual) (ms : Nat) : Logged Manual := do
  let instant (now : Nat) (m : Manual) : Logged Manual := do
    let (tracker, queue) ← m.tracker.expireDue m.queue now
    return { m with tracker, queue }
  let (_, m) ← elapse (·.tracker.nextDeadline?) instant (m.now + ms) m.now m
  return { m with now := m.now + ms }

end Manual

/-! ## One worker -/

/-- A worker over a backend, at a point of time. -/
structure Manned where
  worker : Worker
  backend : Backend
  now : Nat := 0

/-- How a worker is made to stop. -/
inductive Stop
  | cancel
  | close
  deriving DecidableEq, Repr

namespace Manned

/-- Appends a job without a log record; answers whether it was accepted, or nothing where there is
no sender any more. -/
def send (m : Manned) (job : Job) : Option Bool × Manned :=
  if !m.worker.queue.hasSender then (none, m)
  else
    match m.worker.queue.send? job with
    | some queue => (some true, { m with worker.queue := queue })
    | none => (some false, m)

/-- Drops the sender; answers whether there was one. -/
def dropSender (m : Manned) : Bool × Manned :=
  (m.worker.queue.hasSender, { m with worker.queue := m.worker.queue.dropSender })

/-- Waits for some milliseconds while the worker does nothing. -/
def sleep (m : Manned) (ms : Nat) : Logged Manned := do
  let (_, worker) ← elapse (·.tracker.nextDeadline?) (fun now w => w.expireDue now) (m.now + ms)
    m.now m.worker
  return { m with worker, now := m.now + ms }

/-- Looks for the worker's next job, and waits a millisecond for one where there is none. -/
def next (m : Manned) : Logged (Worker.Next × Manned) := do
  let (found, worker) ← m.worker.next
  if found = .pending then
    let worker ← worker.expireDue m.now
    let (found, worker) ← worker.next
    return (found, { m with worker, now := if found = .pending then m.now + 1 else m.now })
  else return (found, { m with worker })

/-- Everything that happens at one moment while the worker runs. -/
def instant (now : Nat) (state : Worker × Backend) : Logged (Worker × Backend) := do
  let (w, b) := state
  if w.phase = .running then
    let (w, b) ← (← w.expireDue now).run b ⟨now, 0⟩
    if w.phase = .running then
      let (w, b) ← (← w.expireDue now).run b ⟨now, 0⟩
      return (w, b)
    else return (w, b)
  else return (w, b)

/-- The next moment at which a running worker has something to do. -/
def deadline? (state : Worker × Backend) : Option Nat :=
  if state.1.phase = .running then state.1.tracker.nextDeadline? else none

/-- Stops the worker one way or the other. -/
def stop (w : Worker) : Stop → Worker
  | .cancel => w.cancel
  | .close => { w with queue := w.queue.dropSender }

/-- Lets the worker run until it leaves its loop, at the latest when it is stopped after some
milliseconds; timers that are due at that millisecond find the worker already stopped. The sender is
gone afterwards if dropping it was to stop the worker. -/
def run (m : Manned) (how : Stop) (ms : Nat) : Logged Manned := do
  let (last, worker, backend) ← elapse deadline? instant (m.now + ms) m.now (m.worker, m.backend)
  if worker.phase = .running then
    let now := m.now + ms
    let worker ← (stop worker how).expireDue now
    let (worker, backend) ← worker.run backend ⟨now, 0⟩
    return { worker, backend, now }
  else
    let worker := if how = .close then stop worker how else worker
    return { worker, backend, now := last }

/-- Lets the worker clean up. -/
def drain (m : Manned) : Logged Manned := do
  let (worker, backend) ← m.worker.drain m.backend ⟨m.now, 0⟩
  return { m with worker, backend }

end Manned

end ControlDeck.Dispatch
