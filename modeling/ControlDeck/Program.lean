import ControlDeck.Console
import ControlDeck.Settings
import ControlDeck.Text.Lines

/-!
# The program

The program loads its settings, starts one dispatcher over a joystick, and carries out the lines of
its input until a line asks it to quit, the input ends, or a line is not UTF-8. In the first two
cases it shuts the dispatcher down.

* `Program.setUp`: the settings and the log level, or why there are none.
* `Program.enter`: one line; a line that fails is only logged.
* `Program.take`, `Program.loop`: one line of the input, and all of them up to the last that counts.
* `Program.play`, `Program.run`: a whole input, with or without something going on meanwhile.
-/

namespace ControlDeck

open Device Dispatch

/-! ## Log records -/

namespace Notice

/-- The program starts. -/
def starting (c : Config) : Record := ⟨.info, s!"Starting with config: {c.text}"⟩

/-- A line failed. -/
def lineFailed (e : LineError) : Record := ⟨.warn, e.message⟩

/-- What became of the jobs. -/
def summary (s : Stats) : Record :=
  ⟨.info, s!"Executed {s.executed} jobs, {s.superseded} superseded releases, " ++
    s!"{s.dropped} dropped at shutdown"⟩

end Notice

/-- How the program ends. -/
inductive Ending
  | quit
  | endOfInput
  | invalidInput (defect : Text.Utf8.Defect)
  | unclean (e : DispatchError)
  deriving DecidableEq, Repr

/-- What a program without a clean end is left with. -/
def Ending.failure? : Ending → Option String
  | .quit | .endOfInput => none
  | .invalidInput defect => some s!"Failed to read stdin: {defect.message}"
  | .unclean e => some s!"Dispatcher did not shut down cleanly: {e.message}"

namespace Program

/-- The log level: the one that the environment names, or else the one of the settings. -/
def levelFor (c : Config) (environment : Option String) : Except ConfigError Level := do
  let configured ← c.maxLevel
  return (environment.bind Level.parse?).getD configured

/-- Loads the settings and decides the log level. -/
def setUp (path : String) (file : ConfigFile) (environment : Option String) :
    Except ConfigError (Config × Level) := do
  let c ← (Config.load path file).value
  return (c, ← levelFor c environment)

/-- Starts the dispatcher. -/
def start (c : Config) : Logged Session := do
  Logged.note (Notice.starting c)
  Session.start (Joystick.ofAvailable c.available) 1 c.fastTicks c.dispatcher

/-- Carries out a line; a failure is logged. -/
def enter (s : Session) (time : Nat → String) (line : String) : Logged (Reply × Session) := do
  let (reply, s) ← Console.run s 0 time line
  if let .error e := reply.result then Logged.note (Notice.lineFailed e)
  return (reply, s)

/-- Whether a reply ends the session. -/
def ends (reply : Reply) : Bool := reply.result matches .ok false

/-- Takes a line of the input; answers the lines that were printed, and how the program ends if it
reads no further. -/
def take (time : Nat → String) (s : Session) (line : List UInt8) :
    Logged (List String × Option Ending × Session) :=
  match Text.Utf8.text line with
  | .error defect => return ([], some (.invalidInput defect), s)
  | .ok text => do
    let (reply, s) ← enter s time text
    return (reply.printed, if ends reply then some .quit else none, s)

/-- Takes lines, from the line at position `n` up to the first that quits or is not UTF-8.
`meanwhile n` is what workers and timers do while the program waits for that line, or for the end of
the input. -/
def loop (meanwhile : Nat → Session → Logged Session) (time : Nat → String) (n : Nat)
    (s : Session) : List (List UInt8) → Logged (List String × Ending × Session)
  | [] => return ([], .endOfInput, ← meanwhile n s)
  | line :: rest => do
    let (printed, ending?, s) ← take time (← meanwhile n s) line
    match ending? with
    | some ending => return (printed, ending, s)
    | none =>
      let (more, ending, s) ← loop meanwhile time (n + 1) s rest
      return (printed ++ more, ending, s)

/-- Shuts the dispatcher down, unless the input could not be read. -/
def finish (ending : Ending) (s : Session) : Logged (Ending × Session) :=
  if ending.failure?.isSome then return (ending, s)
  else do
    let (outcome, s) ← s.shutdown 0
    match outcome with
    | .ok stats =>
      Logged.note (Notice.summary stats)
      return (ending, s)
    | .error e => return (.unclean e, s)

/-- Carries out a whole input, with what goes on `meanwhile`; answers the lines that were printed,
how the program ended, and what it leaves. -/
def play (meanwhile : Nat → Session → Logged Session) (c : Config) (time : Nat → String)
    (input : List UInt8) : Logged (List String × Ending × Session) := do
  let s ← start c
  let (printed, ending, s) ← loop meanwhile time 0 s (Text.lines input)
  let (ending, s) ← finish ending s
  return (usage :: printed, ending, s)

/-- Carries out a whole input that is there at once; answers the lines that were printed and how the
program ended. The worker catches up before every line. -/
def run (c : Config) (time : Nat → String) (input : List UInt8) :
    Logged (List String × Ending) := do
  let (printed, ending, _) ← play (fun _ s => s.instant s.now) c time input
  return (printed, ending)

end Program

end ControlDeck
