import ControlDeck.Session

/-!
# Console lines

The lines that a person types to play the surface. A line is a verb and what follows it.

* `Verb.ofLine`: what a line asks for, or why it is refused.
* `Console.run`: carries out a line; a refused line changes nothing.
-/

namespace ControlDeck

open Command Device Dispatch

/-- The summary of all verbs. -/
def usage : String :=
  "commands: rotate <diff> <command> | push <command> | decode <command> | " ++
    "state <device> <button> | journal | quit"

/-- What a line asks for. -/
inductive Verb
  | nothing
  | quit
  | rotate (diff : Int32) (command : List Char)
  | push (command : List Char)
  | decode (command : List Char)
  | state (key : ButtonKey)
  | journal
  deriving DecidableEq, Repr

/-- Why a line fails. -/
inductive LineError
  | rotateUsage
  | invalidRotation (text : List Char) (e : Decimal.ReadError)
  | invalidId (e : Decimal.ReadError)
  | stateUsage
  | unknownCommand (verb : List Char)
  | dispatch (e : DispatchError)
  deriving DecidableEq, Repr

/-- The wording of a failure. -/
def LineError.message : LineError → String
  | .rotateUsage => "usage: rotate <diff> <command>"
  | .invalidRotation text e => s!"Invalid rotation '{String.ofList text}': {e.message}"
  | .invalidId e => s!"Invalid id: {e.message}"
  | .stateUsage => "usage: state <device> <button>"
  | .unknownCommand verb => s!"Unknown command '{String.ofList verb}'; {usage}"
  | .dispatch e => e.message

namespace Verb

/-- Reads the arguments of `rotate`. -/
def readRotate (arguments : List Char) : Except LineError Verb :=
  match Text.splitFirst arguments with
  | none => .error .rotateUsage
  | some (diff, command) =>
    match Decimal.readInt32 diff with
    | .ok diff => .ok (.rotate diff (Text.trim command))
    | .error e => .error (.invalidRotation diff e)

/-- Reads ids from left to right, up to the first that is none. -/
def readIds (arguments : List (List Char)) : Except LineError (List UInt32) :=
  (arguments.mapM Decimal.readUInt32).mapError .invalidId

/-- Reads the arguments of `state`. -/
def readState (arguments : List Char) : Except LineError Verb := do
  match ← readIds (Text.words arguments) with
  | [device, button] => return .state ⟨device, button⟩
  | _ => .error .stateUsage

/-- Reads a line without white space at its ends. -/
def ofLine (line : List Char) : Except LineError Verb :=
  let (verb, rest) := (Text.splitFirst line).getD (line, [])
  let arguments := Text.trim rest
  match String.ofList verb with
  | "" => .ok .nothing
  | "quit" | "exit" => .ok .quit
  | "rotate" => readRotate arguments
  | "push" => .ok (.push arguments)
  | "decode" => .ok (.decode arguments)
  | "state" => readState arguments
  | "journal" => .ok .journal
  | _ => .error (.unknownCommand verb)

end Verb

/-! ## Log records -/

namespace Notice

/-- What became of a surface event. -/
def outcome : Outcome → Record
  | .dispatched => ⟨.debug, "Dispatched"⟩
  | .ignored => ⟨.info, "Nothing to do"⟩
  | .invalid problem => ⟨.error, s!"Invalid command: {problem.message}"⟩

end Notice

/-- What a line leads to: the lines it prints, and whether the console goes on, or the failure. -/
structure Reply where
  printed : List String := []
  result : Except LineError Bool := .ok true

namespace Console

/-- The text of a journal entry after its time. -/
def journalLine (time : String) (e : Entry) : String := s!"{time} D{e.device} {e.change.text}"

/-- Reports a surface event. -/
def report (outcome : Except DispatchError Outcome × Session) : Logged (Reply × Session) :=
  match outcome with
  | (.ok outcome, s) => do
    Logged.note (Notice.outcome outcome)
    return ({}, s)
  | (.error e, s) => return ({ result := .error (.dispatch e) }, s)

/-- Carries out what a line asks for, with the surface of one dispatcher. `time` gives the times of
the journal's entries. -/
def perform (s : Session) (i : Nat) (time : Nat → String) : Verb → Logged (Reply × Session)
  | .nothing => return ({}, s)
  | .quit => return ({ result := .ok false }, s)
  | .rotate diff command => do report (← s.rotate i (String.ofList command) diff)
  | .push command => do report (← s.push i (String.ofList command))
  | .decode command => do
    let (d, s) ← s.decode (String.ofList command)
    return ({ printed := [d.text] }, s)
  | .state key =>
    let state := if s.backend.joystick.isPressed key then "down" else "up"
    return ({ printed := [s!"{key.text} {state}"] }, s)
  | .journal =>
    let entries := s.backend.joystick.journal.toList
    return ({ printed := entries.zipIdx.map fun (e, n) => journalLine (time n) e }, s)

/-- Carries out a line, trimmed, with the surface of one dispatcher. -/
def run (s : Session) (i : Nat) (time : Nat → String) (line : String) :
    Logged (Reply × Session) :=
  match Verb.ofLine (Text.trim line.toList) with
  | .ok verb => perform s i time verb
  | .error e => return ({ result := .error e }, s)

end Console

end ControlDeck
