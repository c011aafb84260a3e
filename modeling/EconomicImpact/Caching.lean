import EconomicImpact.LruCache

/-!
Computations that use a shared cache in atomic steps: a look-up that counts, and an insertion. What
happens between two steps touches no cache, so several computations can be run in any interleaving of
their steps.
-/

set_option autoImplicit false

namespace EconomicImpact

inductive Caching (κ ν β : Type) : Type
  | done (result : β)
  | lookup (key : κ) (next : Option ν → Caching κ ν β)
  | insert (key : κ) (value : ν) (next : Caching κ ν β)

namespace Caching

variable {κ ν β γ : Type}

def bind : Caching κ ν β → (β → Caching κ ν γ) → Caching κ ν γ
  | done result, f => f result
  | lookup key next, f => lookup key fun found => (next found).bind f
  | insert key value next, f => insert key value (next.bind f)

instance : Monad (Caching κ ν) where
  pure := done
  bind := bind

def load {ε : Type} (key : κ) (compute : Unit → Except ε ν) : ExceptT ε (Caching κ ν) ν :=
  lookup key fun
    | some value => done (.ok value)
    | none =>
      match compute () with
      | .ok value => insert key value (done (.ok value))
      | .error fault => done (.error fault)

section

variable [BEq κ] [Hashable κ]

def step (c : LruCache κ ν) : Caching κ ν β → Caching κ ν β × LruCache κ ν
  | done result => (done result, c)
  | lookup key next =>
    let (found, c) := c.lookup key
    (next found, c)
  | insert key value next => (next, c.insert key value)

def run (c : LruCache κ ν) : Caching κ ν β → β × LruCache κ ν
  | done result => (result, c)
  | lookup key next =>
    let (found, c) := c.lookup key
    (next found).run c
  | insert key value next => next.run (c.insert key value)

def interleave (c : LruCache κ ν) (tasks : List (Caching κ ν β)) (turns : List Nat) :
    List (Caching κ ν β) × LruCache κ ν :=
  turns.foldl (fun (tasks, c) turn =>
    match tasks[turn]? with
    | some task =>
      let (task, c) := task.step c
      (tasks.set turn task, c)
    | none => (tasks, c)) (tasks, c)

def runAll (c : LruCache κ ν) : List (Caching κ ν β) → List β × LruCache κ ν
  | [] => ([], c)
  | task :: rest =>
    let (result, c) := task.run c
    let (results, c) := runAll c rest
    (result :: results, c)

end

end Caching

end EconomicImpact
