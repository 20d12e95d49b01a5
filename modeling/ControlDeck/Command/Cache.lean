import ControlDeck.Command.Grammar
import ControlDeck.Text.Uppercase
import Std.Data.TreeMap

/-!
# The decode cache

A cache maps the upper case of every command decoded so far to its descriptor, and counts the
look-ups that found one and those that did not.

* `Cache.get`, `Cache.insert`: the two steps of a decode that touch the cache.
* `Cache.decode`: a command's descriptor, from the cache where it is there.
* `decodeFresh`: what every decode of a command answers.
-/

namespace ControlDeck.Command

/-- The descriptors decoded so far, and the number of look-ups, modulo `2 ^ 64`. -/
structure Cache where
  entries : Std.TreeMap String Descriptor := ∅
  hits : UInt64 := 0
  misses : UInt64 := 0

/-- The key of a command: its upper case. -/
def normalized (command : String) : String :=
  String.ofList (Text.uppercase command.toList)

/-- The descriptor of a command, without any cache. -/
def decodeFresh (command : String) : Descriptor :=
  (decodeByLetter (normalized command).toList).value

/-- A command that was not in the cache was decoded. -/
def Notice.decoded (command : String) (d : Descriptor) : Record :=
  ⟨.debug, s!"Decoded '{command}' -> {d.text}"⟩

namespace Cache

/-- The number of commands in the cache. -/
def size (c : Cache) : Nat := c.entries.size

/-- Looks a key up and counts the look-up. -/
def get (c : Cache) (key : String) : Option Descriptor × Cache :=
  match c.entries[key]? with
  | some d => (some d, { c with hits := c.hits + 1 })
  | none => (none, { c with misses := c.misses + 1 })

/-- Enters the descriptor of a key. -/
def insert (c : Cache) (key : String) (d : Descriptor) : Cache :=
  { c with entries := c.entries.insert key d }

/-- Decodes a command, and enters it if it is new. -/
def decode (c : Cache) (command : String) : Logged (Descriptor × Cache) :=
  let key := normalized command
  match c.get key with
  | (some d, c) => pure (d, c)
  | (none, c) => do
    let d ← decodeByLetter key.toList
    Logged.note (Notice.decoded command d)
    return (d, c.insert key d)

end Cache

end ControlDeck.Command
