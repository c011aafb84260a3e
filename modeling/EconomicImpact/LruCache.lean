import Std.Data.HashMap

set_option autoImplicit false

namespace EconomicImpact

structure LruCache (κ ν : Type) [BEq κ] [Hashable κ] where
  capacity : Nat
  entries : Std.HashMap κ ν
  order : List κ
  -- Two words of 64 bits in use, which overflow only after as many loads.
  hits : Nat
  misses : Nat

namespace LruCache

variable {κ ν : Type} [BEq κ] [Hashable κ]

def empty (capacity : Nat) : LruCache κ ν := ⟨capacity, ∅, [], 0, 0⟩

def size (c : LruCache κ ν) : Nat := c.entries.size

def touch (c : LruCache κ ν) (key : κ) : LruCache κ ν :=
  { c with order := c.order.erase key ++ [key] }

def get (c : LruCache κ ν) (key : κ) : Option ν × LruCache κ ν :=
  match c.entries[key]? with
  | some value => (some value, c.touch key)
  | none => (none, c)

def evict (c : LruCache κ ν) : LruCache κ ν :=
  let excess := c.order.take (c.order.length - c.capacity)
  { c with
    order := c.order.drop (c.order.length - c.capacity)
    entries := excess.foldl (fun entries key => entries.erase key) c.entries }

def insert (c : LruCache κ ν) (key : κ) (value : ν) : LruCache κ ν :=
  if c.capacity = 0 then c
  else if c.entries.contains key then
    { c with entries := c.entries.insert key value }.touch key
  else
    { c with entries := c.entries.insert key value, order := c.order ++ [key] }.evict

def lookup (c : LruCache κ ν) (key : κ) : Option ν × LruCache κ ν :=
  match c.get key with
  | (some value, c) => (some value, { c with hits := c.hits + 1 })
  | (none, c) => (none, { c with misses := c.misses + 1 })

def load {ε : Type} (c : LruCache κ ν) (key : κ) (compute : Except ε ν) :
    Except ε ν × LruCache κ ν :=
  match c.lookup key with
  | (some value, c) => (.ok value, c)
  | (none, c) =>
    match compute with
    | .ok value => (.ok value, c.insert key value)
    | .error fault => (.error fault, c)

end LruCache

end EconomicImpact
