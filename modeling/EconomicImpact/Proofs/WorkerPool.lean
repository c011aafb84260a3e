import Mathlib
import EconomicImpact.Proofs.LruCache

/-!
A pool of workers that share one cache. Each worker takes one computation at a time through its atomic
steps, and the workers take their steps in any order. If every computation is blind to the cache, each of
them comes out as it does alone, and the pool comes to rest only when all of them are finished.
-/

set_option autoImplicit false

namespace EconomicImpact

variable {κ ν β : Type}

section related

variable {γ δ : Type} {related : γ → δ → Prop} {lefts : List γ} {rights : List δ}

theorem forall₂_at (matched : List.Forall₂ related lefts rights) (i : Nat) (right : δ)
    (there : rights[i]? = some right) : ∃ left, lefts[i]? = some left ∧ related left right := by
  induction matched generalizing i with
  | nil => cases there
  | cons head rest ih =>
      cases i with
      | zero =>
          cases there
          exact ⟨_, rfl, head⟩
      | succ i => exact ih i there

theorem forall₂_set (matched : List.Forall₂ related lefts rights) (i : Nat) (right later : δ)
    (there : rights[i]? = some right) (kept : ∀ left, related left right → related left later) :
    List.Forall₂ related lefts (rights.set i later) := by
  induction matched generalizing i with
  | nil => cases there
  | cons head rest ih =>
      cases i with
      | zero =>
          cases there
          exact .cons (kept _ head) rest
      | succ i => exact .cons head (ih i there)

end related

theorem parts_at {γ : Type} (items : List γ) (i : Nat) (item : γ) (there : items[i]? = some item) :
    ∃ front back, items = front ++ item :: back ∧
      ∀ later, items.set i later = front ++ later :: back := by
  obtain ⟨inside, same⟩ := List.getElem?_eq_some_iff.mp there
  refine ⟨items.take i, items.drop (i + 1), ?_, fun later => ?_⟩
  · rw [← same, ← List.drop_eq_getElem_cons inside, List.take_append_drop]
  · rw [List.set_eq_take_append_cons_drop, if_pos inside]

namespace Caching

inductive Rest : Caching κ ν β → Caching κ ν β → Prop
  | lookup (key : κ) (next : Option ν → Caching κ ν β) (found : Option ν) :
    Rest (next found) (.lookup key next)
  | insert (key : κ) (value : ν) (next : Caching κ ν β) : Rest next (.insert key value next)

theorem rest_well_founded : WellFounded (Rest : Caching κ ν β → Caching κ ν β → Prop) := by
  refine ⟨fun computation => ?_⟩
  induction computation with
  | done result => exact ⟨_, fun _ rest => nomatch rest⟩
  | lookup key next ih =>
      refine ⟨_, fun _ rest => ?_⟩
      cases rest with
      | lookup _ _ found => exact ih found
  | insert key value next ih =>
      refine ⟨_, fun _ rest => ?_⟩
      cases rest
      exact ih

variable [BEq κ] [Hashable κ]

theorem step_rest (c : LruCache κ ν) (computation : Caching κ ν β)
    (unfinished : ∀ result, computation ≠ .done result) :
    Rest (computation.step c).1 computation := by
  cases computation with
  | done result => exact absurd rfl (unfinished result)
  | lookup key next => exact .lookup key next _
  | insert key value next => exact .insert key value next

theorem interleave_cons (c : LruCache κ ν) (tasks : List (Caching κ ν β)) (turn : Nat)
    (rest : List Nat) :
    interleave c tasks (turn :: rest) =
      match tasks[turn]? with
      | some task => interleave (task.step c).2 (tasks.set turn (task.step c).1) rest
      | none => interleave c tasks rest := by
  rw [interleave, List.foldl_cons]
  dsimp only
  cases tasks[turn]? <;> rfl

theorem interleave_append (c : LruCache κ ν) (tasks : List (Caching κ ν β))
    (earlier later : List Nat) :
    interleave c tasks (earlier ++ later) =
      interleave (interleave c tasks earlier).2 (interleave c tasks earlier).1 later :=
  List.foldl_append

variable [LawfulBEq κ] [LawfulHashable κ] {valid : κ → ν → Prop}

structure Shared (valid : κ → ν → Prop) (capacity : Nat) (c : LruCache κ ν) : Prop where
  faithful : c.Faithful valid
  consistent : c.Consistent
  capacity : c.capacity = capacity

variable {capacity : Nat} {c : LruCache κ ν}

theorem step_spec (shared : Shared valid capacity c) (computation : Caching κ ν β) (result : β)
    (yields : Yields valid result computation) :
    Yields valid result (computation.step c).1 ∧ Shared valid capacity (computation.step c).2 := by
  cases computation with
  | done other => exact ⟨yields, shared⟩
  | lookup key next =>
      have faithful : (c.lookup key).2.Faithful valid := by
        rw [LruCache.Faithful, c.lookup_entries key]
        exact shared.faithful
      refine ⟨?_, faithful, LruCache.lookup_consistent shared.consistent key,
        (c.lookup_capacity key).trans shared.capacity⟩
      have value := c.lookup_value key
      simp only [step]
      cases found : (c.lookup key).1 with
      | none => exact yields.2
      | some v => exact yields.1 v (shared.faithful key v (value ▸ found))
  | insert key value next =>
      exact ⟨yields.2, c.insert_faithful shared.faithful key value yields.1,
        LruCache.insert_consistent shared.consistent key value,
        (c.insert_kept key value).1.trans shared.capacity⟩

-- Whatever the turns, each computation is still on its way to its own result.
theorem interleave_spec (shared : Shared valid capacity c) (results : List β)
    (tasks : List (Caching κ ν β)) (yields : List.Forall₂ (Yields valid) results tasks)
    (turns : List Nat) :
    List.Forall₂ (Yields valid) results (interleave c tasks turns).1 ∧
      Shared valid capacity (interleave c tasks turns).2 := by
  induction turns generalizing c tasks with
  | nil => exact ⟨yields, shared⟩
  | cons turn rest ih =>
      rw [interleave_cons]
      cases there : tasks[turn]? with
      | none => exact ih shared tasks yields
      | some task =>
          obtain ⟨result, -, own⟩ := forall₂_at yields turn task there
          refine ih (step_spec shared task result own).2 _ ?_
          exact forall₂_set yields turn task _ there fun result own =>
            (step_spec shared task result own).1

end Caching

inductive Slot (κ ν β : Type)
  | waiting (task : Caching κ ν β)
  | running (worker : Nat) (task : Caching κ ν β)
  | finished (result : β)

def Slot.task : Slot κ ν β → Caching κ ν β
  | waiting task => task
  | running _ task => task
  | finished result => .done result

def Slot.result? : Slot κ ν β → Option β
  | finished result => some result
  | _ => none

structure WorkerPool (κ ν β : Type) [BEq κ] [Hashable κ] where
  cache : LruCache κ ν
  slots : List (Slot κ ν β)

namespace WorkerPool

variable [BEq κ] [Hashable κ]

def start (c : LruCache κ ν) (tasks : List (Caching κ ν β)) : WorkerPool κ ν β :=
  ⟨c, tasks.map .waiting⟩

def tasks (p : WorkerPool κ ν β) : List (Caching κ ν β) := p.slots.map Slot.task

def results? (p : WorkerPool κ ν β) : Option (List β) := p.slots.mapM Slot.result?

-- Some worker takes a computation that waits, makes an atomic step on the cache, or lays a result down.
inductive Step (workers : Nat) : WorkerPool κ ν β → WorkerPool κ ν β → Prop
  | take {c : LruCache κ ν} {slots : List (Slot κ ν β)} {i worker : Nat} {task : Caching κ ν β}
    (employed : worker < workers) (idle : ∀ other, .running worker other ∉ slots)
    (waits : slots[i]? = some (.waiting task)) :
    Step workers ⟨c, slots⟩ ⟨c, slots.set i (.running worker task)⟩
  | advance {c : LruCache κ ν} {slots : List (Slot κ ν β)} {i worker : Nat}
    {task : Caching κ ν β} (held : slots[i]? = some (.running worker task))
    (unfinished : ∀ result, task ≠ .done result) :
    Step workers ⟨c, slots⟩ ⟨(task.step c).2, slots.set i (.running worker (task.step c).1)⟩
  | finish {c : LruCache κ ν} {slots : List (Slot κ ν β)} {i worker : Nat} {result : β}
    (held : slots[i]? = some (.running worker (.done result))) :
    Step workers ⟨c, slots⟩ ⟨c, slots.set i (.finished result)⟩

theorem results_of_finished (p : WorkerPool κ ν β) (results : List β)
    (finished : p.slots = results.map .finished) : p.results? = some results := by
  rw [results?, finished]
  clear finished
  induction results with
  | nil => rfl
  | cons result rest ih =>
      rw [List.map_cons, List.mapM_cons, ih]
      rfl

variable {workers : Nat}

inductive Nearer : Slot κ ν β → Slot κ ν β → Prop
  | taken (worker : Nat) (task : Caching κ ν β) : Nearer (.running worker task) (.waiting task)
  | advanced (worker : Nat) {later task : Caching κ ν β} (rest : later.Rest task) :
    Nearer (.running worker later) (.running worker task)
  | finished (worker : Nat) (result : β) :
    Nearer (.finished result) (.running worker (.done result))

omit [BEq κ] [Hashable κ] in
theorem nearer_well_founded : WellFounded (Nearer : Slot κ ν β → Slot κ ν β → Prop) := by
  have finished (result : β) : Acc (Nearer (κ := κ) (ν := ν)) (.finished result) :=
    ⟨_, fun _ nearer => nomatch nearer⟩
  have running (worker : Nat) (task : Caching κ ν β) : Acc Nearer (.running worker task) := by
    induction task using Caching.rest_well_founded.induction with
    | h task ih =>
        refine ⟨_, fun _ nearer => ?_⟩
        cases nearer with
        | advanced _ rest => exact ih _ rest
        | finished _ result => exact finished result
  refine ⟨fun slot => ?_⟩
  cases slot with
  | waiting task =>
      refine ⟨_, fun _ nearer => ?_⟩
      cases nearer
      exact running _ task
  | running worker task => exact running worker task
  | finished result => exact finished result

theorem step_nearer {p q : WorkerPool κ ν β} (step : Step workers p q) :
    ∃ (i : Nat) (before after : Slot κ ν β), p.slots[i]? = some before ∧ Nearer after before ∧
      q.slots = p.slots.set i after := by
  cases step with
  | take employed idle waits => exact ⟨_, _, _, waits, .taken _ _, rfl⟩
  | advance held unfinished =>
      exact ⟨_, _, _, held, .advanced _ (Caching.step_rest _ _ unfinished), rfl⟩
  | finish held => exact ⟨_, _, _, held, .finished _ _, rfl⟩

-- No pool can go on for ever, whatever its computations find in the cache.
theorem step_well_founded :
    WellFounded fun later earlier : WorkerPool κ ν β => Step workers earlier later := by
  refine Subrelation.wf (fun {later earlier} step => ?_)
    (InvImage.wf (fun p : WorkerPool κ ν β => (p.slots : Multiset (Slot κ ν β)))
      nearer_well_founded.cutExpand)
  obtain ⟨i, before, after, there, nearer, slots⟩ := step_nearer step
  refine ⟨{after}, before, fun slot same => ?_, ?_⟩
  · rwa [Multiset.mem_singleton.mp same]
  · obtain ⟨front, back, whole, changed⟩ := parts_at _ i before there
    have gathered (slot : Slot κ ν β) : (↑(front ++ slot :: back) : Multiset (Slot κ ν β)) =
        slot ::ₘ ↑(front ++ back) := Multiset.coe_eq_coe.mpr List.perm_middle
    change (later.slots : Multiset (Slot κ ν β)) + {before} =
      (earlier.slots : Multiset (Slot κ ν β)) + {after}
    rw [slots, changed after, whole, gathered, gathered, add_comm, add_comm (before ::ₘ _),
      Multiset.singleton_add, Multiset.singleton_add, Multiset.cons_swap]

theorem step_or_finished (available : 0 < workers) (p : WorkerPool κ ν β) :
    (∃ next, Step workers p next) ∨ ∃ results : List β, p.slots = results.map .finished := by
  obtain ⟨c, slots⟩ := p
  by_cases held : ∃ (i worker : Nat) (task : Caching κ ν β), slots[i]? = some (.running worker task)
  · obtain ⟨i, worker, task, held⟩ := held
    by_cases finished : ∃ result, task = .done result
    · obtain ⟨result, rfl⟩ := finished
      exact .inl ⟨_, .finish held⟩
    · exact .inl ⟨_, .advance held fun result same => finished ⟨result, same⟩⟩
  by_cases waits : ∃ (i : Nat) (task : Caching κ ν β), slots[i]? = some (.waiting task)
  · obtain ⟨i, task, waits⟩ := waits
    refine .inl ⟨_, .take available (fun other member => held ?_) waits⟩
    obtain ⟨j, there⟩ := List.mem_iff_getElem?.mp member
    exact ⟨j, 0, other, there⟩
  · refine .inr ?_
    have all : ∀ slot ∈ slots, slot ∈ Set.range (Slot.finished (κ := κ) (ν := ν) (β := β)) := by
      intro slot member
      obtain ⟨i, there⟩ := List.mem_iff_getElem?.mp member
      cases slot with
      | waiting task => exact absurd ⟨i, task, there⟩ waits
      | running worker task => exact absurd ⟨i, worker, task, there⟩ held
      | finished result => exact ⟨result, rfl⟩
    obtain ⟨results, same⟩ : slots ∈ Set.range (List.map Slot.finished) := by
      rw [Set.range_list_map]
      exact all
    exact ⟨results, same.symm⟩

omit [BEq κ] [Hashable κ] in
theorem tasks_kept {slots : List (Slot κ ν β)} {i : Nat} {before : Slot κ ν β}
    (there : slots[i]? = some before) (after : Slot κ ν β) (same : after.task = before.task) :
    (slots.set i after).map Slot.task = slots.map Slot.task := by
  obtain ⟨front, back, whole, changed⟩ := parts_at _ i before there
  rw [changed after, whole, List.map_append, List.map_cons, same, List.map_append, List.map_cons]

theorem step_is_turn {p q : WorkerPool κ ν β} (step : Step workers p q) :
    ∃ turns, Caching.interleave p.cache p.tasks turns = (q.tasks, q.cache) := by
  cases step with
  | take employed idle waits =>
      exact ⟨[], Prod.ext (tasks_kept waits (.running _ _) rfl).symm rfl⟩
  | @advance c slots i worker task held unfinished =>
      refine ⟨[i], ?_⟩
      have there : (slots.map Slot.task)[i]? = some task := by
        rw [List.getElem?_map, held]
        rfl
      rw [Caching.interleave_cons, tasks, there, tasks, List.map_set]
      rfl
  | finish held => exact ⟨[], Prod.ext (tasks_kept held (.finished _) rfl).symm rfl⟩

theorem run_is_turns {p q : WorkerPool κ ν β}
    (run : Relation.ReflTransGen (Step workers) p q) :
    ∃ turns, Caching.interleave p.cache p.tasks turns = (q.tasks, q.cache) := by
  induction run with
  | refl => exact ⟨[], rfl⟩
  | tail _ last ih =>
      obtain ⟨earlier, before⟩ := ih
      obtain ⟨later, after⟩ := step_is_turn last
      refine ⟨earlier ++ later, ?_⟩
      rw [Caching.interleave_append, before]
      exact after

variable [LawfulBEq κ] [LawfulHashable κ] {valid : κ → ν → Prop} {capacity : Nat}
  {c : LruCache κ ν}

theorem run_spec (shared : Caching.Shared valid capacity c) (given : List (Caching κ ν β))
    (transparent : ∀ task ∈ given, task.Transparent valid) {p : WorkerPool κ ν β}
    (run : Relation.ReflTransGen (Step workers) (start c given) p) :
    Caching.Shared valid capacity p.cache ∧
      ∀ results, p.slots = results.map .finished → results = given.map Caching.alone := by
  obtain ⟨turns, same⟩ := run_is_turns run
  have yields : List.Forall₂ (Caching.Yields valid) (given.map Caching.alone)
      (start c given).tasks := by
    have unwrapped : (start c given).tasks = given := by
      rw [tasks, start, List.map_map]
      exact List.map_id given
    rw [unwrapped, List.forall₂_map_left_iff, List.forall₂_same]
    exact transparent
  obtain ⟨ways, kept⟩ := Caching.interleave_spec (c := (start c given).cache) shared _ _ yields turns
  rw [same] at ways kept
  refine ⟨kept, fun results finished => ?_⟩
  have done : p.tasks = results.map .done := by
    rw [tasks, finished, List.map_map]
    rfl
  rw [done, List.forall₂_map_right_iff] at ways
  -- A finished computation yields what it holds.
  exact List.forall₂_eq_eq_eq ▸ ways.flip

end WorkerPool

end EconomicImpact
