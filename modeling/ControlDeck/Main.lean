import ControlDeck.Program

/-!
# The command line

Reads the settings from the file that the first argument names, or from the default place, and then
lines from standard input. Log records go to standard output, like the answers.
-/

open ControlDeck

namespace ControlDeck.Main

/-- The first place where settings are looked for. -/
def defaultPath : IO (Option String) := do
  let place := "/vjoydeck/config.toml"
  match ← IO.getEnv "XDG_CONFIG_HOME" with
  | some directory =>
    if directory.startsWith "/" then return some (directory ++ place)
  | none => pure ()
  return (← IO.getEnv "HOME").map (· ++ "/.config" ++ place)

/-- What is found at a path. -/
def lookUp (path : String) : IO ConfigFile := do
  try
    return .contents (← IO.FS.readBinFile path)
  catch
    | .noFileOrDirectory .. => return .missing
    | .inappropriateType _ code _ =>
      if code = 20 ∨ code = -20 then return .unreachable "Not a directory (os error 20)"
      else return .unreadable "Is a directory (os error 21)"
    | .permissionDenied _ code _ => return .unreadable s!"Permission denied (os error {code})"
    | e => return .unreadable (toString e)

/-- The environment variable that names the log level; it is the one that other tools on the same
machine read. -/
def levelVariable : String := "RUST_LOG"

/-- Prints the records that are shown at a level. -/
def printRecords (level : Level) (records : List Record) : IO Unit :=
  for r in records do
    if r.level.shownAt level then IO.println s!"{r.level.name} {r.text}"

/-- Hours, minutes, seconds and milliseconds. -/
def clockText (ms : Nat) : String :=
  let pad (width n : Nat) : String :=
    let digits := toString n
    String.ofList (List.replicate (width - digits.length) '0') ++ digits
  s!"{pad 2 (ms / 3600000)}:{pad 2 (ms / 60000 % 60)}:{pad 2 (ms / 1000 % 60)}.{pad 3 (ms % 1000)}"

/-- The next line of standard input and what was read beyond it, or nothing at the end. -/
partial def readLine (input : IO.FS.Stream) (bytes : List UInt8) :
    IO (Option (List UInt8 × List UInt8)) := do
  if bytes.any Text.isLineFeed then return Text.nextLine? bytes
  else
    let more ← input.read 4096
    if more.isEmpty then return Text.nextLine? bytes else readLine input (bytes ++ more.toList)

/-- The times at which the journal's entries were first seen. -/
def stampEntries (s : Session) (stamps : Array String) (now : Nat) : Array String :=
  let missing := s.backend.joystick.journal.size - stamps.size
  stamps ++ (List.replicate missing (clockText now)).toArray

/-- Prints what was logged on the way to a value. -/
def shown {α : Type} (level : Level) (answer : Logged α) : IO α := do
  printRecords level answer.records
  return answer.value

/-- Lets the session catch up with the clock. -/
def catchUp (level : Level) (begun : Nat) (s : Session) : IO Session := do
  let now := (← IO.monoMsNow) - begun
  shown level (s.sleep (now - s.now))

/-- Takes the lines of standard input. -/
partial def loop (level : Level) (begun : Nat) (s : Session) (stamps : Array String)
    (bytes : List UInt8) : IO (Ending × Session) := do
  match ← readLine (← IO.getStdin) bytes with
  | none => return (.endOfInput, ← catchUp level begun s)
  | some (line, rest) =>
    let s ← catchUp level begun s
    let stamps := stampEntries s stamps s.now
    let answer := Program.take (fun n => stamps.getD n "") s line
    for text in answer.value.1 do IO.println text
    let (_, ending?, s) ← shown level answer
    match ending? with
    | some ending => return (ending, s)
    | none =>
      let s ← shown level (s.instant s.now)
      loop level begun s (stampEntries s stamps s.now) rest

/-- Reports a failure. -/
def fail (message : String) : IO UInt32 := do
  IO.eprintln s!"Error: {message}"
  return 1

/-- Runs the program over the settings that were found. -/
def runWith (c : Config) (level : Level) : IO UInt32 := do
  let begun ← IO.monoMsNow
  let s ← shown level (Program.start c)
  IO.println usage
  let (ending, s) ← loop level begun s #[] []
  let (ending, _) ← shown level (Program.finish ending s)
  match ending.failure? with
  | some message => fail message
  | none => return 0

end ControlDeck.Main

/-- Runs the program. -/
def main (arguments : List String) : IO UInt32 := do
  let path? ←
    match arguments.head? with
    | some path => pure (some path)
    | none => Main.defaultPath
  let file ←
    match path? with
    | some path => Main.lookUp path
    | none => pure .missing
  match Program.setUp (path?.getD "") file (← IO.getEnv Main.levelVariable) with
  | .error e => Main.fail e.message
  | .ok (config, level) => Main.runWith config level
