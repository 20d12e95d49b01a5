import ControlDeck.Dispatch.Job
import ControlDeck.Log

/-!
# The job queue

Producers and pulse timers append jobs at the end, the worker takes them from the front.

* `Queue.send?`: appends a job while the queue is open, and fails once it is closed.
* `Queue.take?`: the job at the front and the queue without it.
* `Queue.close`, `Queue.dropSender`: the two ends. Jobs that are already queued can still be taken
  after either.
-/

namespace ControlDeck.Dispatch

/-- Jobs in order of arrival. `hasSender` says whether a producer could still send, and `isOpen`
whether the worker still accepts. -/
structure Queue where
  jobs : List Job := []
  isOpen : Bool := true
  hasSender : Bool := true
  deriving DecidableEq, Repr

namespace Queue

/-- Appends a job, unless the queue is closed. -/
def send? (q : Queue) (job : Job) : Option Queue :=
  if q.isOpen then some { q with jobs := q.jobs ++ [job] } else none

/-- Takes the job at the front. -/
def take? (q : Queue) : Option (Job × Queue) :=
  match q.jobs with
  | [] => none
  | job :: rest => some (job, { q with jobs := rest })

/-- Accepts no further job. -/
def close (q : Queue) : Queue := { q with isOpen := false }

/-- The last producer goes away. -/
def dropSender (q : Queue) : Queue := { q with hasSender := false }

/-- Takes all jobs at once. -/
def takeAll (q : Queue) : List Job × Queue := (q.jobs, { q with jobs := [] })

/-- A job that is accepted comes last. -/
theorem jobs_of_send? {q r : Queue} {job : Job} (h : q.send? job = some r) :
    r.jobs = q.jobs ++ [job] := by
  unfold send? at h
  split at h
  · cases h; rfl
  · contradiction

/-- Only a closed queue refuses a job. -/
theorem send?_eq_none_iff {q : Queue} {job : Job} : q.send? job = none ↔ q.isOpen = false := by
  simp [send?]

/-- The job that is taken is the first one, and nothing else changes. -/
theorem take?_eq_some_iff {q r : Queue} {job : Job} :
    q.take? = some (job, r) ↔ ∃ rest, q.jobs = job :: rest ∧ r = { q with jobs := rest } := by
  unfold take?
  cases q.jobs with
  | nil => simp
  | cons first rest => grind

end Queue

/-! ## Producers -/

/-- Why a dispatcher refuses a request. -/
inductive DispatchError
  | queueClosed (job : Job)
  | alreadyStopped
  deriving DecidableEq, Repr

/-- The wording of a refusal. -/
def DispatchError.message : DispatchError → String
  | .queueClosed job => s!"dispatch queue closed, {job.text} dropped"
  | .alreadyStopped => "dispatcher already shut down"

/-- A job was accepted. -/
def Notice.queued (job : Job) : Record := ⟨.debug, s!"Queued {job.text}"⟩

/-- Appends a job on behalf of a producer; the job comes back where the queue is closed. -/
def Queue.enqueue (q : Queue) (job : Job) : Logged (Except DispatchError Queue) :=
  match q.send? job with
  | some q => do
    Logged.note (Notice.queued job)
    return .ok q
  | none => return .error (.queueClosed job)

end ControlDeck.Dispatch
