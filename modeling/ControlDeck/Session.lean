import ControlDeck.Dispatch.Clock
import ControlDeck.Surface

/-!
# Sessions

Several dispatchers feed one joystick, and their surfaces share one decode cache. Requests only
queue jobs; the workers run, and timers expire, while somebody waits.

* `Lane`: a dispatcher with its worker and its surface.
* `Session.instant`: everything that happens at one moment: the timers that are due expire in the
  order of arming, and the workers run in the order in which they were woken.
* `Session.sleep`, `Session.shutdown`: the two ways to wait.
-/

namespace ControlDeck

open Command Device Dispatch

/-- What has become of a dispatcher. -/
inductive Lifetime
  | active
  | shutDown
  | dropped
  deriving DecidableEq, Repr

/-- A dispatcher with its worker and its surface. -/
structure Lane where
  worker : Worker := {}
  surface : Surface := {}
  lifetime : Lifetime := .active

/-- Dispatchers over one joystick and one decode cache, at a point of time. `turns` counts the
turns that workers have had, and `awake` lists the workers that were woken since, in order. -/
structure Session where
  backend : Backend
  cache : Cache := {}
  lanes : Array Lane := #[]
  now : Nat := 0
  turns : Nat := 0
  awake : List Nat := []

/-! ## Log records -/

namespace Notice

/-- A dispatcher was started. -/
def started : Record := ⟨.info, "Dispatcher started"⟩

/-- A dispatcher is asked to stop. -/
def stopping : Record := ⟨.debug, "Sending shutdown signal to dispatch worker"⟩

/-- A dispatcher has stopped. -/
def shutDown (stats : Stats) : Record := ⟨.info, s!"Dispatcher shut down: {stats.text}"⟩

/-- A dispatcher had stopped before. -/
def alreadyShutDown : Record := ⟨.warn, "Dispatcher already shut down"⟩

end Notice

namespace Session

/-- A dispatcher by position. -/
def lane (s : Session) (i : Nat) : Lane := s.lanes.getD i {}

/-- Replaces a dispatcher. -/
def setLane (s : Session) (i : Nat) (lane : Lane) : Session :=
  { s with lanes := s.lanes.setIfInBounds i lane }

/-- Replaces the worker of a dispatcher. -/
def setWorker (s : Session) (i : Nat) (worker : Worker) : Session :=
  s.setLane i { s.lane i with worker }

/-- Wakes a worker, unless it is awake already. -/
def wake (s : Session) (i : Nat) : Session :=
  if i ∈ s.awake then s else { s with awake := s.awake ++ [i] }

/-- Adds a dispatcher; its worker is awake. -/
def addLane (surface : UInt32) (settings : Settings) (s : Session) : Logged Session := do
  let worker ← Worker.create settings
  Logged.note Notice.started
  let lane : Lane := { worker, surface := ⟨surface, ⟨settings.defaultPulse⟩⟩ }
  return { s with lanes := s.lanes.push lane }.wake s.lanes.size

/-- Starts some dispatchers over a joystick. -/
def start (joystick : Joystick) (dispatchers : Nat) (fastTicks : UInt32) (settings : Settings) :
    Logged Session :=
  (List.replicate dispatchers ()).foldlM (fun s _ => s.addLane fastTicks settings)
    { backend := { joystick } }

/-! ## Moments -/

/-- The timers of all dispatchers that are due, in the order in which they were armed. -/
def due (s : Session) (now : Nat) : List (Nat × ButtonKey × Timer) :=
  let ofLane (i : Nat) := ((s.lane i).worker.tracker.due now).map (i, ·)
  ((List.range s.lanes.size).flatMap ofLane).mergeSort fun a b => a.2.2.isBefore b.2.2

/-- Lets the timer of a button expire, which wakes the worker of its dispatcher. -/
def expire (s : Session) (i : Nat) (k : ButtonKey) : Logged Session := do
  let w := (s.lane i).worker
  let (tracker, queue) ← w.tracker.expire w.queue k
  return (s.setWorker i { w with tracker, queue }).wake i

/-- Gives a worker its turn; a worker that leaves its loop cleans up at once. -/
def runWorker (now : Nat) (s : Session) (i : Nat) : Logged Session := do
  let w := (s.lane i).worker
  let moment : Moment := ⟨now, s.turns⟩
  let s := { s with turns := s.turns + 1 }
  if w.phase = .running then
    let (w, b) ← w.run s.backend moment
    let (w, b) ← if w.phase = .draining then w.drain b moment else pure (w, b)
    return { s.setWorker i w with backend := b }
  else return s

/-- Lets everything that is due expire, and then gives every worker that is awake its turn. -/
def round (now : Nat) (s : Session) : Logged Session := do
  let s ← (s.due now).foldlM (fun s (i, k, _) => s.expire i k) s
  s.awake.foldlM (runWorker now) { s with awake := [] }

/-- Lets everything happen that happens at one moment. Pulses that end at once are armed in the
first round, so that their releases are carried out in the second. -/
def instant (now : Nat) (s : Session) : Logged Session := do
  let s ← s.round now
  if (s.due now).isEmpty then return s else s.round now

/-- The earliest deadline of an armed timer. -/
def nextDeadline? (s : Session) : Option Nat :=
  (s.lanes.toList.filterMap (·.worker.tracker.nextDeadline?)).min?

/-! ## Requests -/

/-- Goes on with what a producer did to the queue of a dispatcher. -/
def setQueue (s : Session) (i : Nat) (queue : Queue) : Session :=
  (s.setWorker i { (s.lane i).worker with queue }).wake i

/-- Lets a producer put something into the queue of a dispatcher. -/
def enqueue (s : Session) (i : Nat)
    (request : Producer → Queue → Logged (Except DispatchError Queue)) :
    Logged (Except DispatchError Unit × Session) := do
  let lane := s.lane i
  match ← request lane.surface.producer lane.worker.queue with
  | .ok queue => return (.ok (), s.setQueue i queue)
  | .error e => return (.error e, s)

/-- Queues an action of a given mode. -/
def request (s : Session) (i : Nat) (k : ButtonKey) (mode : Mode) (length : UInt32) :
    Logged (Except DispatchError Unit × Session) :=
  s.enqueue i fun p q => p.request q k mode length

/-- Queues a job as it is. -/
def submit (s : Session) (i : Nat) (job : Job) : Logged (Except DispatchError Unit × Session) :=
  s.enqueue i fun _ q => q.enqueue job

/-- Issues the push action of a descriptor; answers whether there was one. -/
def dispatch (s : Session) (i : Nat) (d : Descriptor) :
    Logged (Except DispatchError Bool × Session) := do
  let lane := s.lane i
  match ← lane.surface.producer.dispatch lane.worker.queue d with
  | .ok (some queue) => return (.ok true, s.setQueue i queue)
  | .ok none => return (.ok false, s)
  | .error e => return (.error e, s)

/-- Decodes a command through the shared cache. -/
def decode (s : Session) (command : String) : Logged (Descriptor × Session) := do
  let (d, cache) ← s.cache.decode command
  return (d, { s with cache })

/-- Lets the surface of a dispatcher handle an event. -/
def handle (s : Session) (i : Nat)
    (event : Surface → Desk → Logged (Except DispatchError Outcome × Desk)) :
    Logged (Except DispatchError Outcome × Session) := do
  let lane := s.lane i
  let (outcome, desk) ← event lane.surface ⟨s.cache, lane.worker.queue⟩
  let s := { s with cache := desk.cache }
  return (outcome, if outcome matches .ok .dispatched then s.setQueue i desk.queue else s)

/-- An encoder was turned. -/
def rotate (s : Session) (i : Nat) (command : String) (diff : Int32) :
    Logged (Except DispatchError Outcome × Session) :=
  s.handle i fun surface desk => surface.rotate desk command diff

/-- A control was pushed. -/
def push (s : Session) (i : Nat) (command : String) :
    Logged (Except DispatchError Outcome × Session) :=
  s.handle i fun surface desk => surface.push desk command

/-! ## Waiting -/

/-- Waits for some milliseconds. To wait for none is to yield: everything happens that is due at
this moment, and no time passes. It does not stand for a sleep of no length, which is over at once,
so that nothing happens meanwhile and nobody wakes up from it; where a client is said to wake up,
its waits last a millisecond at least. -/
def sleep (s : Session) (ms : Nat) : Logged Session := do
  let (_, s) ← elapse nextDeadline? instant (s.now + ms) s.now s
  return { s with now := s.now + ms }

/-- Cancels the worker of a dispatcher, which wakes it. -/
def cancel (s : Session) (i : Nat) : Session :=
  (s.setWorker i (s.lane i).worker.cancel).wake i

/-- Stops a dispatcher and waits until its worker has cleaned up. -/
def shutdown (s : Session) (i : Nat) : Logged (Except DispatchError Stats × Session) := do
  Logged.note Notice.stopping
  if (s.lane i).lifetime = .active then
    let s ← (s.cancel i).instant s.now
    let lane := s.lane i
    Logged.note (Notice.shutDown lane.worker.stats)
    return (.ok lane.worker.stats, s.setLane i { lane with lifetime := .shutDown })
  else
    Logged.note Notice.alreadyShutDown
    return (.error .alreadyStopped, s)

/-- Drops a dispatcher: its worker is cancelled and cleans up during the next wait. Answers whether
there was one. -/
def drop (s : Session) (i : Nat) : Bool × Session :=
  let lane := s.lane i
  if lane.lifetime = .dropped then (false, s)
  else (true, (s.setLane i { lane with lifetime := .dropped }).cancel i)

end Session

end ControlDeck
