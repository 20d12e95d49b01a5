/-!
# TOML values

* `Value`: the values of a document. A table remembers how it was written, because that decides
  whether later lines may extend it.
* `Entries`: the keys of a table with their values, in the order in which they were entered.
-/

namespace ControlDeck.Toml

/-- How a table came about: by its own header, as the parent of one with a header, by dotted keys,
or between braces. -/
inductive Origin
  | header
  | implied
  | dotted
  | braces
  deriving DecidableEq, Repr

/-- A value. Arrays of tables, which are written with headers of their own, are kept apart from
arrays between brackets; of dates and times nothing but their kind is kept. -/
inductive Value
  | string (s : String)
  | integer (n : Int)
  | float (x : Float)
  | boolean (b : Bool)
  | datetime
  | array (elements : List Value)
  | tables (elements : List Value)
  | table (origin : Origin) (entries : List (String × Value))

/-- The contents of a table, oldest entry first. -/
abbrev Entries := List (String × Value)

namespace Entries

/-- Replaces the value of a key that is there. -/
def replace (entries : Entries) (key : String) (value : Value) : Entries :=
  entries.map fun (k, v) => if k = key then (k, value) else (k, v)

/-- Takes a key out. -/
def remove (entries : Entries) (key : String) : Entries :=
  entries.filter fun (k, _) => k ≠ key

/-- Enters a new key at the end. -/
def add (entries : Entries) (key : String) (value : Value) : Entries := entries ++ [(key, value)]

end Entries

end ControlDeck.Toml
