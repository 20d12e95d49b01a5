import ControlDeck.Decimal.Shortest
import ControlDeck.Log
import ControlDeck.Surface
import ControlDeck.Text.Quoted
import ControlDeck.Text.Utf8
import ControlDeck.Toml.Document

/-!
# Settings

The settings of the program, read from a TOML document. A document overrides what it names: keys
that are missing keep their defaults, and keys that nobody knows are ignored. A section may also be
an array, whose elements are its settings in order.

* `Config`: all settings.
* `Section.read`: one section, from any value.
* `Config.ofTable`: a document's settings, or the first value of a wrong kind.
* `Level.parse?`: the log level that a text names.
-/

namespace ControlDeck

open Toml (Value Entries)

/-! ## Log levels -/

/-- The ASCII letters in lower case, all else as it is. -/
def asciiLower (s : String) : List Char := s.toList.map Char.toLower

/-- The level that a text names, either by its name in any case or by a number from one to five. -/
def Level.parse? (s : String) : Option Level :=
  match Decimal.readUInt64 s.toList with
  | .ok n => [Level.error, .warn, .info, .debug, .trace].find? (·.rank == n.toNat)
  | .error _ =>
    [Level.error, .warn, .info, .debug, .trace].find? fun l => asciiLower l.name == asciiLower s

/-! ## The settings -/

/-- All settings of the program. -/
structure Config where
  level : String := "info"
  fastTicks : UInt32 := 5
  dispatcher : Dispatch.Settings := {}
  available : List UInt32 := (List.range 16).map fun n => UInt32.ofNat (n + 1)
  deriving DecidableEq, Repr

/-- The text of the settings. -/
def Config.text (c : Config) : String :=
  let ids := ", ".intercalate (c.available.map toString)
  s!"AppConfig \x7b logging: LoggingConfig \x7b level: {Text.quoted c.level} \x7d, " ++
    s!"surface: SurfaceSettings \x7b fast_tick_threshold: {c.fastTicks} \x7d, " ++
    s!"dispatcher: {c.dispatcher.text}, device: DeviceConfig \x7b available: [{ids}] \x7d \x7d"

/-! ## Values of a wrong kind -/

/-- What a setting should have been. -/
inductive Expected
  | number
  | string
  | boolean
  | sequence
  | table (name : String)
  deriving DecidableEq, Repr

/-- The wording of what was expected. -/
def Expected.text : Expected → String
  | .number => "u32"
  | .string => "a string"
  | .boolean => "a boolean"
  | .sequence => "a sequence"
  | .table name => s!"struct {name}"

/-- Why a value is no setting: it is of another kind, or an integer that is out of range. -/
inductive SettingError
  | invalidType (found : Value) (expected : Expected)
  | outOfRange (n : Int)

/-- The wording of what a value is; a date or a time counts as a map. -/
def describe : Value → String
  | .string s => s!"string {Text.quoted s}"
  | .integer n => s!"integer `{n}`"
  | .float x => s!"floating point `{Decimal.positionalPointed x}`"
  | .boolean b => s!"boolean `{b}`"
  | .array _ | .tables _ => "sequence"
  | .datetime | .table .. => "map"

/-- The wording of a failure. -/
def SettingError.message : SettingError → String
  | .invalidType found expected => s!"invalid type: {describe found}, expected {expected.text}"
  | .outOfRange n => s!"invalid value: integer `{n}`, expected {Expected.number.text}"

/-! ## Reading values -/

/-- An integer of 32 bits without sign; others are neither wrapped nor clamped. -/
def readNumber : Value → Except SettingError UInt32
  | .integer n =>
    if 0 ≤ n ∧ n < UInt32.size then .ok (UInt32.ofNat n.toNat) else .error (.outOfRange n)
  | v => .error (.invalidType v .number)

/-- A string. -/
def readString : Value → Except SettingError String
  | .string s => .ok s
  | v => .error (.invalidType v .string)

/-- A truth value. -/
def readBoolean : Value → Except SettingError Bool
  | .boolean b => .ok b
  | v => .error (.invalidType v .boolean)

/-- A list of integers. -/
def readNumbers : Value → Except SettingError (List UInt32)
  | .array elements | .tables elements => elements.mapM readNumber
  | v => .error (.invalidType v .sequence)

/-! ## Reading sections -/

/-- A setting of a section: its key, and how a value changes the settings. -/
structure Setting (σ : Type) where
  key : String
  set : Value → σ → Except SettingError σ

/-- A section: its name, and its settings in order. -/
structure Section (σ : Type) where
  name : String
  settings : List (Setting σ)

namespace Section

/-- Reads a table: every key that is known sets its setting, in the order of the table. -/
def readTable {σ : Type} (sec : Section σ) (entries : Entries) (s : σ) : Except SettingError σ :=
  entries.foldlM (fun s (key, v) =>
    match sec.settings.find? (·.key == key) with
    | some setting => setting.set v s
    | none => .ok s) s

/-- Reads an array: each element sets the setting in its place. -/
def readArray {σ : Type} (sec : Section σ) (elements : List Value) (s : σ) :
    Except SettingError σ :=
  (sec.settings.zip elements).foldlM (fun s (setting, v) => setting.set v s) s

/-- Reads a section from any value; a date or a time names no setting. -/
def read {σ : Type} (sec : Section σ) (v : Value) (s : σ) : Except SettingError σ :=
  match v with
  | .table _ entries => sec.readTable entries s
  | .array elements | .tables elements => sec.readArray elements s
  | .datetime => .ok s
  | _ => .error (.invalidType v (.table sec.name))

/-- A section within another one. -/
def setting {σ : Type} (sec : Section σ) (key : String) : Setting σ := ⟨key, sec.read⟩

end Section

namespace Config

/-- The settings of the log. -/
def logging : Section Config :=
  ⟨"LoggingConfig", [⟨"level", fun v c => do return { c with level := ← readString v }⟩]⟩

/-- The settings of the surface. -/
def surface : Section Config :=
  ⟨"SurfaceSettings",
    [⟨"fast_tick_threshold", fun v c => do return { c with fastTicks := ← readNumber v }⟩]⟩

/-- The settings of the dispatcher. -/
def dispatching : Section Config :=
  ⟨"DispatcherSettings",
    [⟨"default_pulse_ms", fun v c => do
        return { c with dispatcher.defaultPulse := ← readNumber v }⟩,
      ⟨"release_on_shutdown", fun v c => do
        return { c with dispatcher.releaseOnShutdown := ← readBoolean v }⟩]⟩

/-- The settings of the joystick. -/
def device : Section Config :=
  ⟨"DeviceConfig", [⟨"available", fun v c => do return { c with available := ← readNumbers v }⟩]⟩

/-- The whole document. -/
def document : Section Config :=
  ⟨"AppConfig",
    [logging.setting "logging", surface.setting "surface", dispatching.setting "dispatcher",
      device.setting "device"]⟩

/-- The settings that a document gives. -/
def ofTable (entries : Entries) : Except SettingError Config := document.readTable entries {}

end Config

/-! ## Loading -/

/-- Why there are no settings. -/
inductive ConfigError
  | syntaxError
  | setting (e : SettingError)
  | level (text : String)
  | file (message : String)

/-- Reads the settings from the text of a document. -/
def Config.parse (s : String) : Except ConfigError Config :=
  match Toml.parse? s with
  | none => .error .syntaxError
  | some entries => (Config.ofTable entries).mapError .setting

/-- The log level of the settings. -/
def Config.maxLevel (c : Config) : Except ConfigError Level :=
  match Level.parse? c.level with
  | some level => .ok level
  | none => .error (.level c.level)

/-- The wording of a failure. -/
def ConfigError.message : ConfigError → String
  | .syntaxError => "Failed to parse config"
  | .setting e => e.message
  | .level text =>
    s!"Invalid log level '{text}': error parsing level: expected one of \"error\", \"warn\", " ++
      "\"info\", \"debug\", \"trace\", or a number 1-5"
  | .file message => message

/-- What is found where the settings should be. -/
inductive ConfigFile
  | missing
  | contents (bytes : ByteArray)
  | unreadable (reason : String)
  | unreachable (reason : String)

/-! ## Log records -/

namespace Notice

/-- There is no file of settings. -/
def noConfigFile (path : String) : Record :=
  ⟨.warn, s!"Config file {path} does not exist, using default"⟩

/-- The settings were read. -/
def loadedConfig (path : String) : Record := ⟨.info, s!"Loaded config from {path}"⟩

end Notice

/-- What a file whose bytes are not UTF-8 is refused with, wherever the defect is. -/
def notUtf8 : String := "stream did not contain valid UTF-8"

/-- Loads the settings from what is found at a path; a file that is missing means the defaults. -/
def Config.load (path : String) (file : ConfigFile) : Logged (Except ConfigError Config) :=
  let unreadable (reason : String) : ConfigError :=
    .file s!"Failed to read config file {path}: {reason}"
  match file with
  | .missing => do
    Logged.note (Notice.noConfigFile path)
    return .ok {}
  | .unreachable reason => return .error (.file s!"Failed to check if config file exists: {reason}")
  | .unreadable reason => return .error (unreadable reason)
  | .contents bytes =>
    match Text.Utf8.text bytes.toList with
    | .error _ => return .error (unreadable notUtf8)
    | .ok s =>
      match Config.parse s with
      | .error e => return .error e
      | .ok config => do
        Logged.note (Notice.loadedConfig path)
        return .ok config

end ControlDeck
