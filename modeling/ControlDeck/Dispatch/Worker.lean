import ControlDeck.Command.Descriptor
import ControlDeck.Device.Feeder
import ControlDeck.Dispatch.Tracker

/-!
# The dispatch worker

The worker takes jobs from its queue one at a time, in order of arrival, and is the only one to
feed devices. It runs until it is cancelled or no producer is left, and then cleans up: it disarms
all timers, carries out the releases that are still queued, releases the buttons whose pulse it
cut short, and hands its devices back.

* `Worker.execute`, `Worker.executeNext`: one job, and the one at the front of the queue.
* `Worker.run`: everything the worker does before it has to wait.
* `Worker.drain`: the cleaning up.
-/

namespace ControlDeck.Dispatch

open Device

/-- The settings of a worker. -/
structure Settings where
  defaultPulse : UInt32 := Command.defaultDuration
  releaseOnShutdown : Bool := true
  deriving DecidableEq, Repr

/-- The text of the settings. -/
def Settings.text (s : Settings) : String :=
  s!"DispatcherSettings \x7b default_pulse_ms: {s.defaultPulse}, " ++
    s!"release_on_shutdown: {s.releaseOnShutdown} \x7d"

/-- What became of the jobs: those executed, the pulse releases that a later pulse superseded, and
those dropped unexecuted. Each counts modulo `2 ^ 64`. -/
structure Stats where
  executed : UInt64 := 0
  superseded : UInt64 := 0
  dropped : UInt64 := 0
  deriving DecidableEq, Repr

/-- The text of the counters. -/
def Stats.text (s : Stats) : String :=
  s!"WorkerStats \x7b executed: {s.executed}, superseded: {s.superseded}, " ++
    s!"dropped: {s.dropped} \x7d"

/-- How far a worker has come. -/
inductive Phase
  | running
  | draining
  | stopped
  deriving DecidableEq, Repr

/-- A worker with its queue, its timers and the devices it holds. -/
structure Worker where
  settings : Settings := {}
  queue : Queue := {}
  tracker : Tracker := {}
  held : DeviceSet := ∅
  cancelled : Bool := false
  phase : Phase := .running
  stats : Stats := {}

/-! ## Log records -/

namespace Notice

/-- A worker is set up. -/
def initializing (s : Settings) : Record :=
  ⟨.info, s!"Initializing dispatch worker with settings: {s.text}"⟩

/-- A worker is ready. -/
def running : Record := ⟨.info, "Dispatch worker running"⟩

/-- A job is about to be executed. -/
def executing (job : Job) : Record := ⟨.debug, s!"Executing {job.text}"⟩

/-- A release no longer belongs to the latest pulse. -/
def superseded (k : ButtonKey) : Record :=
  ⟨.debug, s!"Skipping superseded release of {k.text}"⟩

/-- The worker saw its cancellation. -/
def cancelled : Record := ⟨.info, "Dispatch worker cancelled"⟩

/-- The worker takes no further jobs to execute. -/
def leaving (executed : UInt64) : Record :=
  ⟨.info, s!"Dispatch worker leaving run loop after {executed} jobs"⟩

/-- A job is not executed any more. -/
def dropping (job : Job) : Record := ⟨.debug, s!"Dropping {job.text} queued at shutdown"⟩

/-- A pulse is cut short. -/
def releasingHeld (k : ButtonKey) : Record :=
  ⟨.info, s!"Releasing {k.text} held by a pending pulse"⟩

/-- The pulses that were cut short leave their buttons down. -/
def leavingHeld (count : Nat) : Record := ⟨.info, s!"Leaving {count} pulsed buttons pressed"⟩

/-- The worker is done. -/
def stopped (s : Stats) : Record := ⟨.info, s!"Dispatch worker stopped: {s.text}"⟩

end Notice

namespace Worker

/-- A new worker, ready for its first job. -/
def create (settings : Settings) : Logged Worker := do
  Logged.note (Notice.initializing settings)
  Logged.note Notice.running
  return { settings }

/-- Asks a worker to stop. -/
def cancel (w : Worker) : Worker := { w with cancelled := true }

/-! ## Executing jobs -/

/-- Lets a worker feed its devices. -/
def feed (w : Worker) (b : Backend) (operation : Feeder → Logged Feeder) :
    Logged (Worker × Backend) := do
  let f ← operation ⟨b, w.held⟩
  return ({ w with held := f.held }, f.backend)

/-- Counts an executed job. -/
def countExecuted (w : Worker) : Worker :=
  { w with stats.executed := w.stats.executed + 1 }

/-- Counts a superseded release. -/
def countSuperseded (w : Worker) : Worker :=
  { w with stats.superseded := w.stats.superseded + 1 }

/-- Counts a job that is not executed. -/
def countDropped (w : Worker) : Worker :=
  { w with stats.dropped := w.stats.dropped + 1 }

/-- Does what a job asks for; answers whether the job counts as executed. -/
def perform (w : Worker) (b : Backend) (now : Moment) (job : Job) :
    Logged (Bool × Worker × Backend) :=
  match job.action with
  | .press => return (true, ← w.feed b (·.press job.key))
  | .release => return (true, ← w.feed b (·.release job.key))
  | .toggle => return (true, ← w.feed b (·.toggle job.key))
  | .pulse length => do
    let tracker ← w.tracker.arm job.key length.toNat now
    return (true, ← { w with tracker }.feed b (·.press job.key))
  | .pulseRelease generation =>
    if w.tracker.confirms job.key generation then
      return (true, ← w.feed b (·.release job.key))
    else do
      Logged.note (Notice.superseded job.key)
      return (false, w, b)

/-- Executes a job. -/
def execute (w : Worker) (b : Backend) (now : Moment) (job : Job) :
    Logged (Worker × Backend) := do
  Logged.note (Notice.executing job)
  let (counts, w, b) ← w.perform b now job
  return (if counts then w.countExecuted else w.countSuperseded, b)

/-- Executes the job at the front of the queue, if there is one. -/
def executeNext (w : Worker) (b : Backend) (now : Moment) : Logged (Worker × Backend) :=
  match w.queue.take? with
  | some (job, queue) => { w with queue }.execute b now job
  | none => return (w, b)

/-- Executes the next `count` jobs. -/
def executeMany (w : Worker) (b : Backend) (now : Moment) : Nat → Logged (Worker × Backend)
  | 0 => return (w, b)
  | count + 1 => do
    let (w, b) ← w.executeNext b now
    w.executeMany b now count

/-! ## Running -/

/-- Takes no further jobs to execute. -/
def leave (w : Worker) : Logged Worker := do
  Logged.note (Notice.leaving w.stats.executed)
  return { w with phase := .draining }

/-- Does everything that can be done without waiting: a cancelled worker leaves at once; any other
one executes all queued jobs, and leaves if no producer is left then. -/
def run (w : Worker) (b : Backend) (now : Moment) : Logged (Worker × Backend) := do
  if w.cancelled then
    Logged.note Notice.cancelled
    return (← w.leave, b)
  else
    let (w, b) ← w.executeMany b now w.queue.jobs.length
    if w.queue.hasSender then return (w, b) else return (← w.leave, b)

/-- What a worker finds when it looks for its next job. -/
inductive Next
  | job (job : Job)
  | finished
  | pending
  deriving DecidableEq, Repr

/-- Looks for the next job: a cancellation counts before the queue, and queued jobs before the
absence of producers. -/
def next (w : Worker) : Logged (Next × Worker) := do
  if w.cancelled then
    Logged.note Notice.cancelled
    return (.finished, w)
  else
    match w.queue.take? with
    | some (job, queue) => return (.job job, { w with queue })
    | none => return (if w.queue.hasSender then .pending else .finished, w)

/-! ## Draining -/

/-- Deals with one job that was still queued: releases are executed, all others dropped. -/
def flush (now : Moment) (state : Worker × Backend) (job : Job) : Logged (Worker × Backend) := do
  let (w, b) := state
  if job.mode = .release then w.execute b now job
  else
    Logged.note (Notice.dropping job)
    return (w.countDropped, b)

/-- Releases a button whose pulse was cut short. -/
def releaseHeld (state : Worker × Backend) (k : ButtonKey) : Logged (Worker × Backend) := do
  Logged.note (Notice.releasingHeld k)
  state.1.feed state.2 (·.release k)

/-- Deals with the buttons whose pulse was cut short, as the settings say. -/
def settleHeld (w : Worker) (b : Backend) (keys : List ButtonKey) :
    Logged (Worker × Backend) := do
  if w.settings.releaseOnShutdown then keys.foldlM releaseHeld (w, b)
  else
    if !keys.isEmpty then Logged.note (Notice.leavingHeld keys.length)
    return (w, b)

/-- Cleans up: disarms all timers, closes and flushes the queue, deals with the buttons still held
by a pulse, and hands all devices back. -/
def drain (w : Worker) (b : Backend) (now : Moment) : Logged (Worker × Backend) := do
  let (keys, tracker) := w.tracker.cancelAll
  let (jobs, queue) := w.queue.close.takeAll
  let (w, b) ← jobs.foldlM (flush now) ({ w with tracker, queue }, b)
  let (w, b) ← w.settleHeld b keys
  let (w, b) ← w.feed b Feeder.relinquishAll
  Logged.note (Notice.stopped w.stats)
  return ({ w with phase := .stopped }, b)

end Worker

end ControlDeck.Dispatch
