import ControlDeck.Command.Cache

/-!
# Several decoders

Decoders either have a cache of their own or share one. A decoder is known by its position.

* `Decoders.ofShares`: decoders set up from the numbers of the caches they share.
* `Decoders.decode`, `Decoders.clone`: a decode touches only the cache of its decoder, and a clone
  uses the cache of the decoder it was made from.
-/

namespace ControlDeck.Command

/-- Caches, and for each decoder the position of its cache. -/
structure Decoders where
  caches : Array Cache := #[]
  owners : Array Nat := #[]

namespace Decoders

/-- The position of a decoder's cache. -/
def cacheIndex (ds : Decoders) (decoder : Nat) : Nat := ds.owners.getD decoder 0

/-- The cache of a decoder. -/
def cache (ds : Decoders) (decoder : Nat) : Cache := ds.caches.getD (ds.cacheIndex decoder) {}

/-- Adds a decoder with a new cache. -/
def addOwner (ds : Decoders) : Decoders :=
  { caches := ds.caches.push {}, owners := ds.owners.push ds.caches.size }

/-- Adds a decoder that uses the cache of another one. -/
def clone (ds : Decoders) (decoder : Nat) : Decoders :=
  { ds with owners := ds.owners.push (ds.cacheIndex decoder) }

/-- Sets up decoders: one without a number gets its own cache, and those with equal numbers share
one. -/
def ofShares (shares : List (Option Nat)) : Decoders :=
  let add (state : Decoders × List (Nat × Nat)) (share : Option Nat) :=
    let (ds, firsts) := state
    match share with
    | none => (ds.addOwner, firsts)
    | some number =>
      match firsts.lookup number with
      | some decoder => (ds.clone decoder, firsts)
      | none => (ds.addOwner, (number, ds.owners.size) :: firsts)
  (shares.foldl add ({}, [])).1

/-- Decodes a command through a decoder. -/
def decode (ds : Decoders) (decoder : Nat) (command : String) : Logged (Descriptor × Decoders) := do
  let (d, cache) ← (ds.cache decoder).decode command
  return (d, { ds with caches := ds.caches.setIfInBounds (ds.cacheIndex decoder) cache })

end Decoders

end ControlDeck.Command
