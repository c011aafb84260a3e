import Mathlib
import EconomicImpact.Proofs.Caching

set_option autoImplicit false

namespace EconomicImpact

structure Recency (κ ν : Type) where
  capacity : Nat
  items : List (κ × ν)
  hits : Nat
  misses : Nat

namespace LruCache

variable {κ ν ε : Type}

inductive Operation (κ ν ε : Type)
  | get (key : κ)
  | insert (key : κ) (value : ν)
  | load (key : κ) (computed : Except ε ν)

inductive Reply (ν ε : Type)
  | found (value : Option ν)
  | inserted
  | loaded (result : Except ε ν)
  deriving DecidableEq

structure Counts where
  hits : Nat
  misses : Nat
  entries : Nat
  deriving DecidableEq

def Operation.isLoad : Operation κ ν ε → Bool
  | .load _ _ => true
  | _ => false

end LruCache

open LruCache

namespace Recency

variable {κ ν ε : Type}

def empty (capacity : Nat) : Recency κ ν := ⟨capacity, [], 0, 0⟩

variable [BEq κ]

def without (key : κ) (items : List (κ × ν)) : List (κ × ν) :=
  items.filter fun item => !(item.1 == key)

def find? (r : Recency κ ν) (key : κ) : Option ν := (r.items.find? (·.1 == key)).map (·.2)

def use (r : Recency κ ν) (key : κ) (value : ν) : Recency κ ν :=
  let items := without key r.items ++ [(key, value)]
  { r with items := items.drop (items.length - r.capacity) }

def perform (r : Recency κ ν) : Operation κ ν ε → Reply ν ε × Recency κ ν
  | .get key =>
    match r.find? key with
    | some value => (.found (some value), r.use key value)
    | none => (.found none, r)
  | .insert key value => (.inserted, r.use key value)
  | .load key computed =>
    match r.find? key with
    | some value => (.loaded (.ok value), { r.use key value with hits := r.hits + 1 })
    | none =>
      match computed with
      | .ok value => (.loaded (.ok value), { r.use key value with misses := r.misses + 1 })
      | .error fault => (.loaded (.error fault), { r with misses := r.misses + 1 })

def counts (r : Recency κ ν) : Counts := ⟨r.hits, r.misses, r.items.length⟩

def performAll (r : Recency κ ν) :
    List (Operation κ ν ε) → List (Reply ν ε × Counts) × Recency κ ν
  | [] => ([], r)
  | operation :: rest =>
    let (reply, r) := r.perform operation
    let (replies, last) := performAll r rest
    ((reply, r.counts) :: replies, last)

variable [LawfulBEq κ]

theorem keys_without (key : κ) (items : List (κ × ν)) (distinct : (items.map (·.1)).Nodup) :
    (without key items).map (·.1) = (items.map (·.1)).erase key := by
  rw [distinct.erase_eq_filter, List.filter_map]
  rfl

theorem without_absent (key : κ) (items : List (κ × ν)) (absent : key ∉ items.map (·.1)) :
    without key items = items := by
  refine List.filter_eq_self.mpr fun item member => ?_
  have apart : item.1 ≠ key := fun same => absent (List.mem_map.mpr ⟨item, member, same⟩)
  simp [apart]

end Recency

namespace LruCache

variable {κ ν ε : Type} [BEq κ] [Hashable κ]

def perform (c : LruCache κ ν) : Operation κ ν ε → Reply ν ε × LruCache κ ν
  | .get key => (.found (c.get key).1, (c.get key).2)
  | .insert key value => (.inserted, c.insert key value)
  | .load key computed => (.loaded (c.load key computed).1, (c.load key computed).2)

def counts (c : LruCache κ ν) : Counts := ⟨c.hits, c.misses, c.size⟩

def performAll (c : LruCache κ ν) :
    List (Operation κ ν ε) → List (Reply ν ε × Counts) × LruCache κ ν
  | [] => ([], c)
  | operation :: rest =>
    let (reply, c) := c.perform operation
    let (replies, last) := performAll c rest
    ((reply, c.counts) :: replies, last)

structure Consistent (c : LruCache κ ν) : Prop where
  distinct : c.order.Nodup
  held : ∀ key, key ∈ c.order ↔ key ∈ c.entries
  bounded : c.order.length ≤ c.capacity

theorem empty_consistent (capacity : Nat) : (empty capacity : LruCache κ ν).Consistent where
  distinct := List.nodup_nil
  held key := by simp [empty]
  bounded := Nat.zero_le capacity

variable [LawfulBEq κ] {c : LruCache κ ν}

theorem touch_consistent (consistent : c.Consistent) (key : κ) (present : key ∈ c.entries) :
    (c.touch key).Consistent := by
  have listed := (consistent.held key).mpr present
  refine ⟨?_, fun other => ?_, ?_⟩
  · have fresh : key ∉ c.order.erase key := consistent.distinct.not_mem_erase
    have moved := (consistent.distinct.erase key).concat fresh
    rwa [List.concat_eq_append] at moved
  · change other ∈ c.order.erase key ++ [key] ↔ other ∈ c.entries
    rw [← consistent.held, List.mem_append, List.mem_singleton, consistent.distinct.mem_erase_iff]
    by_cases same : other = key
    · simp [same, listed]
    · simp [same]
  · change (c.order.erase key ++ [key]).length ≤ c.capacity
    have some := List.length_pos_of_mem listed
    rw [List.length_append, List.length_erase_of_mem listed, List.length_singleton]
    have bounded := consistent.bounded
    omega

variable [LawfulHashable κ]

theorem Consistent.size_eq (consistent : c.Consistent) : c.size = c.order.length := by
  have distinct : c.entries.keys.Nodup := by
    refine c.entries.distinct_keys.imp fun {a b} apart same => ?_
    rw [same, beq_self_eq_true] at apart
    cases apart
  have same : c.entries.keys.Perm c.order :=
    (List.perm_ext_iff_of_nodup distinct consistent.distinct).mpr fun key => by
      rw [Std.HashMap.mem_keys, consistent.held]
  rw [size, ← Std.HashMap.length_keys, same.length_eq]

theorem get_erase_all (excess : List κ) (entries : Std.HashMap κ ν) (key : κ) :
    (excess.foldl (fun entries key => entries.erase key) entries)[key]? =
      if key ∈ excess then none else entries[key]? := by
  induction excess generalizing entries with
  | nil => simp
  | cons given rest ih =>
      rw [List.foldl_cons, ih, Std.HashMap.getElem?_erase]
      by_cases same : given = key
      · simp [same]
      · simp [same, Ne.symm same]

theorem evict_consistent (distinct : c.order.Nodup)
    (held : ∀ key, key ∈ c.order ↔ key ∈ c.entries) : c.evict.Consistent := by
  obtain ⟨excess, kept, parts, taken, dropped⟩ : ∃ excess kept, c.order = excess ++ kept ∧
      c.order.take (c.order.length - c.capacity) = excess ∧
        c.order.drop (c.order.length - c.capacity) = kept :=
    ⟨_, _, (List.take_append_drop _ _).symm, rfl, rfl⟩
  have apart := (List.nodup_append.mp (parts ▸ distinct))
  refine ⟨?_, fun key => ?_, ?_⟩
  · change (c.order.drop _).Nodup
    rw [dropped]
    exact apart.2.1
  · change key ∈ c.order.drop _ ↔ key ∈ (c.order.take _).foldl _ c.entries
    rw [Std.HashMap.mem_iff_isSome_getElem?, taken, dropped, get_erase_all]
    by_cases given : key ∈ excess
    · have gone : key ∉ kept := fun member => apart.2.2 key given key member rfl
      simp [given, gone]
    · rw [if_neg given, ← Std.HashMap.mem_iff_isSome_getElem?, ← held, parts]
      simp [given]
  · change (c.order.drop _).length ≤ c.capacity
    rw [List.length_drop]
    omega

theorem written_consistent (consistent : c.Consistent) (key : κ) (value : ν)
    (present : c.entries.contains key = true) :
    LruCache.Consistent { c with entries := c.entries.insert key value } := by
  have listed := (consistent.held key).mpr (Std.HashMap.contains_iff_mem.mp present)
  refine ⟨consistent.distinct, fun other => ?_, consistent.bounded⟩
  rw [Std.HashMap.mem_insert, ← consistent.held]
  by_cases same : key = other
  · simp [← same, listed]
  · simp [same]

theorem insert_consistent (consistent : c.Consistent) (key : κ) (value : ν) :
    (c.insert key value).Consistent := by
  unfold insert
  by_cases closed : c.capacity = 0
  · rwa [if_pos closed]
  rw [if_neg closed]
  by_cases present : c.entries.contains key = true
  · rw [if_pos present]
    exact touch_consistent (written_consistent consistent key value present) key (by simp)
  · rw [if_neg present]
    have absent : key ∉ c.order := fun listed =>
      present (Std.HashMap.contains_iff_mem.mpr ((consistent.held key).mp listed))
    refine evict_consistent ?_ fun other => ?_
    · have longer := consistent.distinct.concat absent
      rwa [List.concat_eq_append] at longer
    · rw [List.mem_append, List.mem_singleton, Std.HashMap.mem_insert, consistent.held, beq_iff_eq,
        or_comm, eq_comm]

theorem lookup_consistent (consistent : c.Consistent) (key : κ) :
    (c.lookup key).2.Consistent := by
  unfold lookup get
  cases kept : c.entries[key]? with
  | none => exact ⟨consistent.distinct, consistent.held, consistent.bounded⟩
  | some value =>
      have present : key ∈ c.entries := by
        rw [Std.HashMap.mem_iff_isSome_getElem?, kept]
        rfl
      have moved := touch_consistent consistent key present
      exact ⟨moved.distinct, moved.held, moved.bounded⟩

-- A cache holds the pairs of a list in the order of the list.
structure Represents (c : LruCache κ ν) (r : Recency κ ν) : Prop where
  capacity : c.capacity = r.capacity
  hits : c.hits = r.hits
  misses : c.misses = r.misses
  order : c.order = r.items.map (·.1)
  values : ∀ item ∈ r.items, c.entries[item.1]? = some item.2

variable {r : Recency κ ν}

omit [LawfulBEq κ] [LawfulHashable κ] in
theorem represents_empty (capacity : Nat) :
    (empty capacity : LruCache κ ν).Represents (Recency.empty capacity) :=
  ⟨rfl, rfl, rfl, rfl, fun _ member => nomatch member⟩

theorem Represents.find_eq (represents : c.Represents r) (consistent : c.Consistent) (key : κ) :
    r.find? key = c.entries[key]? := by
  unfold Recency.find?
  cases found : r.items.find? (·.1 == key) with
  | some item =>
      have matched := List.find?_some found
      have same : item.1 = key := eq_of_beq matched
      rw [Option.map_some, ← same, represents.values item (List.mem_of_find?_eq_some found)]
  | none =>
      have absent : key ∉ c.entries := by
        rw [← consistent.held, represents.order, List.mem_map]
        rintro ⟨item, listed, rfl⟩
        exact List.find?_eq_none.mp found item listed (beq_self_eq_true _)
      exact (Std.HashMap.getElem?_eq_none absent).symm

theorem touch_represents (consistent : c.Consistent) (key : κ) (value : ν)
    (capacity : c.capacity = r.capacity) (hits : c.hits = r.hits) (misses : c.misses = r.misses)
    (order : c.order = r.items.map (·.1))
    (others : ∀ item ∈ Recency.without key r.items, c.entries[item.1]? = some item.2)
    (own : c.entries[key]? = some value) : (c.touch key).Represents (r.use key value) := by
  have moved := Recency.keys_without key r.items (order ▸ consistent.distinct)
  have present : key ∈ c.order := by
    rw [consistent.held, Std.HashMap.mem_iff_isSome_getElem?, own]
    rfl
  have length : (Recency.without key r.items ++ [(key, value)]).length = c.order.length := by
    have some := List.length_pos_of_mem present
    have erased := congrArg List.length moved
    rw [List.length_map, ← order, List.length_erase_of_mem present] at erased
    rw [List.length_append, List.length_singleton]
    omega
  have whole : (r.use key value).items = Recency.without key r.items ++ [(key, value)] := by
    have within := consistent.bounded
    rw [Recency.use, length, ← capacity, Nat.sub_eq_zero_of_le within]
    exact List.drop_zero
  refine ⟨capacity, hits, misses, ?_, ?_⟩
  · rw [whole, List.map_append, moved, ← order]
    rfl
  · rw [whole]
    intro item member
    rcases List.mem_append.mp member with other | last
    · exact others item other
    · rw [List.mem_singleton.mp last]
      exact own

theorem evict_represents (distinct : c.order.Nodup) (represents : c.Represents r) :
    c.evict.Represents { r with items := r.items.drop (r.items.length - r.capacity) } := by
  have length : c.order.length - c.capacity = r.items.length - r.capacity := by
    rw [represents.order, List.length_map, represents.capacity]
  refine ⟨represents.capacity, represents.hits, represents.misses, ?_, fun item member => ?_⟩
  · change c.order.drop (c.order.length - c.capacity) = _
    rw [length, represents.order, List.map_drop]
  · have kept : item.1 ∈ c.order.drop (r.items.length - r.capacity) := by
      rw [represents.order, ← List.map_drop]
      exact List.mem_map_of_mem member
    have spared : item.1 ∉ c.order.take (r.items.length - r.capacity) := fun given =>
      List.disjoint_take_drop distinct le_rfl given kept
    change ((c.order.take (c.order.length - c.capacity)).foldl _ c.entries)[item.1]? = some item.2
    rw [length, get_erase_all, if_neg spared, represents.values item (List.mem_of_mem_drop member)]

theorem insert_represents (represents : c.Represents r) (consistent : c.Consistent) (key : κ)
    (value : ν) : (c.insert key value).Represents (r.use key value) := by
  have rewritten : ∀ item ∈ Recency.without key r.items,
      (c.entries.insert key value)[item.1]? = some item.2 := by
    intro item member
    obtain ⟨listed, other⟩ := List.mem_filter.mp member
    have apart : key ≠ item.1 := fun same => by simp [same] at other
    rw [Std.HashMap.getElem?_insert, if_neg (by simpa using apart), represents.values item listed]
  have own : (c.entries.insert key value)[key]? = some value := Std.HashMap.getElem?_insert_self
  unfold insert
  by_cases closed : c.capacity = 0
  · rw [if_pos closed]
    have nothing : c.order = [] := List.length_eq_zero_iff.mp (Nat.le_zero.mp (closed ▸ consistent.bounded))
    have none : (r.use key value).items = [] := by
      rw [Recency.use, ← represents.capacity, closed]
      exact List.drop_length
    refine ⟨represents.capacity, represents.hits, represents.misses, ?_, ?_⟩
    · rw [none, nothing]
      rfl
    · rw [none]
      exact fun item member => nomatch member
  rw [if_neg closed]
  by_cases present : c.entries.contains key = true
  · rw [if_pos present]
    exact touch_represents (written_consistent consistent key value present) key value
      represents.capacity represents.hits represents.misses represents.order rewritten own
  · rw [if_neg present]
    have absent : key ∉ r.items.map (·.1) := by
      rw [← represents.order, consistent.held]
      exact fun member => present (Std.HashMap.contains_iff_mem.mpr member)
    rw [Recency.without_absent key r.items absent] at rewritten
    have longer : LruCache.Represents
        { c with entries := c.entries.insert key value, order := c.order ++ [key] }
        { r with items := r.items ++ [(key, value)] } := by
      refine ⟨represents.capacity, represents.hits, represents.misses, ?_, fun item member => ?_⟩
      · rw [List.map_append, ← represents.order]
        rfl
      · rcases List.mem_append.mp member with other | last
        · exact rewritten item other
        · rw [List.mem_singleton.mp last]
          exact own
    have distinct := consistent.distinct.concat (represents.order ▸ absent)
    rw [List.concat_eq_append] at distinct
    have evicted := evict_represents distinct longer
    rwa [Recency.use, Recency.without_absent key r.items absent]

theorem Represents.counts_eq (represents : c.Represents r) (consistent : c.Consistent) :
    c.counts = r.counts := by
  simp only [counts, Recency.counts, represents.hits, represents.misses, consistent.size_eq,
    represents.order, List.length_map]

-- The one step lemma: an operation on both gets one reply and leaves both in step.
theorem perform_represents (represents : c.Represents r) (consistent : c.Consistent)
    (operation : Operation κ ν ε) :
    (c.perform operation).1 = (r.perform operation).1 ∧
      (c.perform operation).2.Represents (r.perform operation).2 ∧
      (c.perform operation).2.Consistent := by
  have hit (key : κ) (value : ν) (kept : c.entries[key]? = some value) :
      (c.touch key).Represents (r.use key value) ∧ (c.touch key).Consistent := by
    have present : key ∈ c.entries := by
      rw [Std.HashMap.mem_iff_isSome_getElem?, kept]
      rfl
    refine ⟨?_, touch_consistent consistent key present⟩
    exact touch_represents consistent key value represents.capacity represents.hits
      represents.misses represents.order
      (fun item member => represents.values item (List.mem_filter.mp member).1) kept
  cases operation with
  | get key =>
      simp only [perform, Recency.perform, get, represents.find_eq consistent]
      cases kept : c.entries[key]? with
      | some value => exact ⟨rfl, hit key value kept⟩
      | none => exact ⟨rfl, represents, consistent⟩
  | insert key value =>
      exact ⟨rfl, insert_represents represents consistent key value,
        insert_consistent consistent key value⟩
  | load key computed =>
      simp only [perform, Recency.perform, load, lookup, get, represents.find_eq consistent]
      cases kept : c.entries[key]? with
      | some value =>
          obtain ⟨moved, still⟩ := hit key value kept
          have hits : c.hits + 1 = r.hits + 1 := congrArg (· + 1) represents.hits
          exact ⟨rfl, ⟨moved.capacity, hits, moved.misses, moved.order, moved.values⟩,
            ⟨still.distinct, still.held, still.bounded⟩⟩
      | none =>
          have misses : c.misses + 1 = r.misses + 1 := congrArg (· + 1) represents.misses
          have counted : LruCache.Represents { c with misses := c.misses + 1 }
              { r with misses := r.misses + 1 } :=
            ⟨represents.capacity, represents.hits, misses, represents.order, represents.values⟩
          have still : LruCache.Consistent { c with misses := c.misses + 1 } :=
            ⟨consistent.distinct, consistent.held, consistent.bounded⟩
          cases computed with
          | ok value =>
              exact ⟨rfl, insert_represents counted still key value,
                insert_consistent still key value⟩
          | error fault => exact ⟨rfl, counted, still⟩

theorem perform_all_represents (represents : c.Represents r) (consistent : c.Consistent)
    (operations : List (Operation κ ν ε)) :
    (c.performAll operations).1 = (r.performAll operations).1 ∧
      (c.performAll operations).2.Represents (r.performAll operations).2 ∧
      (c.performAll operations).2.Consistent := by
  induction operations generalizing c r with
  | nil => exact ⟨rfl, represents, consistent⟩
  | cons operation rest ih =>
      obtain ⟨reply, moved, still⟩ := perform_represents represents consistent operation
      obtain ⟨replies, last, ends⟩ := ih moved still
      refine ⟨?_, last, ends⟩
      simp only [performAll, Recency.performAll, reply, replies, moved.counts_eq still]

section counters

omit [LawfulBEq κ] [LawfulHashable κ]

variable (c)

theorem insert_kept (key : κ) (value : ν) :
    (c.insert key value).capacity = c.capacity ∧ (c.insert key value).hits = c.hits ∧
      (c.insert key value).misses = c.misses := by
  unfold insert
  by_cases closed : c.capacity = 0
  · rw [if_pos closed]
    exact ⟨rfl, rfl, rfl⟩
  · rw [if_neg closed]
    cases c.entries.contains key <;> exact ⟨rfl, rfl, rfl⟩

theorem get_kept (key : κ) :
    (c.get key).2.capacity = c.capacity ∧ (c.get key).2.hits = c.hits ∧
      (c.get key).2.misses = c.misses := by
  unfold get
  cases c.entries[key]? <;> exact ⟨rfl, rfl, rfl⟩

theorem lookup_capacity (key : κ) : (c.lookup key).2.capacity = c.capacity := by
  unfold lookup get
  cases c.entries[key]? <;> rfl

theorem perform_capacity (operation : Operation κ ν ε) :
    (c.perform operation).2.capacity = c.capacity := by
  cases operation with
  | get key => exact (c.get_kept key).1
  | insert key value => exact (c.insert_kept key value).1
  | load key computed =>
      have kept := c.lookup_capacity key
      simp only [perform, load]
      generalize c.lookup key = looked at kept
      obtain ⟨found, after⟩ := looked
      cases found with
      | some value => exact kept
      | none =>
          cases computed with
          | ok value => exact (after.insert_kept key value).1.trans kept
          | error fault => exact kept

theorem perform_all_capacity (operations : List (Operation κ ν ε)) :
    (c.performAll operations).2.capacity = c.capacity := by
  induction operations generalizing c with
  | nil => rfl
  | cons operation rest ih => exact (ih _).trans (c.perform_capacity operation)

theorem load_stopped (key : κ) (computed : Except ε ν) (fault : ε)
    (stopped : (c.load key computed).1 = .error fault) :
    computed = .error fault ∧ (c.load key computed).2 = { c with misses := c.misses + 1 } := by
  unfold load lookup get at stopped ⊢
  cases kept : c.entries[key]? with
  | some value =>
      simp only [kept] at stopped
      cases stopped
  | none =>
      cases computed with
      | ok value =>
          simp only [kept] at stopped
          cases stopped
      | error other =>
          simp only [kept] at stopped
          cases stopped
          exact ⟨rfl, rfl⟩

theorem perform_counters (operation : Operation κ ν ε) :
    (c.perform operation).2.hits + (c.perform operation).2.misses =
      c.hits + c.misses + if operation.isLoad then 1 else 0 := by
  cases operation with
  | get key =>
      obtain ⟨-, hits, misses⟩ := c.get_kept key
      simp only [perform, Operation.isLoad, hits, misses]
      rfl
  | insert key value =>
      obtain ⟨-, hits, misses⟩ := c.insert_kept key value
      simp only [perform, Operation.isLoad, hits, misses]
      rfl
  | load key computed =>
      simp only [perform, Operation.isLoad, load, lookup, get, if_true]
      cases kept : c.entries[key]? with
      | some value => exact Nat.add_right_comm c.hits 1 c.misses
      | none =>
          cases computed with
          | ok value =>
              obtain ⟨-, hits, misses⟩ :=
                LruCache.insert_kept { c with misses := c.misses + 1 } key value
              simp only [hits, misses]
              rfl
          | error fault => rfl

theorem perform_all_counters (operations : List (Operation κ ν ε)) :
    (c.performAll operations).2.hits + (c.performAll operations).2.misses =
      c.hits + c.misses + operations.countP Operation.isLoad := by
  induction operations generalizing c with
  | nil => rfl
  | cons operation rest ih =>
      change ((c.perform operation).2.performAll rest).2.hits +
        ((c.perform operation).2.performAll rest).2.misses = _
      rw [ih, perform_counters, List.countP_cons, Nat.add_assoc, Nat.add_comm (ite _ _ _)]

-- A load in atomic steps, of which none comes in between, is the load at once.
theorem run_load (key : κ) (compute : Unit → Except ε ν) :
    Caching.run c (Caching.load key compute) = c.load key (compute ()) := by
  unfold Caching.load load
  rw [Caching.run_lookup]
  generalize c.lookup key = looked
  obtain ⟨found, after⟩ := looked
  cases found with
  | some value => rfl
  | none => cases compute () <;> rfl

end counters

-- Every part of a history is a history, so this holds after each of its steps.
theorem history_answers_as_recency_list (capacity : Nat) (operations : List (Operation κ ν ε))
    (reached : LruCache κ ν) (last : Recency κ ν)
    (performed : ((empty capacity).performAll operations).2 = reached)
    (listed : ((Recency.empty capacity).performAll operations).2 = last) :
    ((empty capacity : LruCache κ ν).performAll operations).1 =
      ((Recency.empty capacity).performAll operations).1 ∧
    reached.order = last.items.map (·.1) ∧ (∀ key, reached.entries[key]? = last.find? key) ∧
    reached.order.Nodup ∧ (∀ key, key ∈ reached.order ↔ key ∈ reached.entries) ∧
    reached.order.length ≤ capacity ∧
    reached.hits + reached.misses = operations.countP Operation.isLoad ∧
    (operations.countP Operation.isLoad < 2 ^ 64 →
      reached.hits < 2 ^ 64 ∧ reached.misses < 2 ^ 64) ∧
    (∀ key, (reached.get key).2.hits = reached.hits ∧ (reached.get key).2.misses = reached.misses) ∧
    (∀ (key : κ) (computed : Except ε ν) (fault : ε),
      (reached.load key computed).1 = .error fault →
        computed = .error fault ∧
          (reached.load key computed).2 = { reached with misses := reached.misses + 1 }) ∧
    ∀ (key : κ) (compute : Unit → Except ε ν),
      Caching.run reached (Caching.load key compute) = reached.load key (compute ()) := by
  subst performed listed
  obtain ⟨replies, represents, consistent⟩ := perform_all_represents
    (represents_empty capacity) (empty_consistent capacity) operations
  have bounded := consistent.bounded
  rw [perform_all_capacity] at bounded
  have counted := (empty capacity : LruCache κ ν).perform_all_counters operations
  rw [show (empty capacity : LruCache κ ν).hits + (empty capacity : LruCache κ ν).misses = 0 from rfl,
    Nat.zero_add] at counted
  refine ⟨replies, represents.order, fun key => (represents.find_eq consistent key).symm,
    consistent.distinct, consistent.held, bounded, counted, fun few => ?_,
    fun key => (get_kept _ key).2, load_stopped _, run_load _⟩
  rw [← counted] at few
  exact ⟨(Nat.le_add_right _ _).trans_lt few, (Nat.le_add_left _ _).trans_lt few⟩

end LruCache

def crowdedHistory : List (Operation Nat Nat String) :=
  [.load 1 (.ok 10), .load 2 (.ok 20), .get 1, .load 3 (.error "three"), .insert 4 40,
    .load 2 (.error "two"), .insert 1 11, .load 1 (.error "unused")]

theorem crowded_history_answers :
    ∃ reached : LruCache Nat Nat,
      ((LruCache.empty 2).performAll crowdedHistory).2 = reached ∧
      ((LruCache.empty 2).performAll crowdedHistory).1 =
        [(.loaded (.ok 10), ⟨0, 1, 1⟩), (.loaded (.ok 20), ⟨0, 2, 2⟩), (.found (some 10), ⟨0, 2, 2⟩),
          (.loaded (.error "three"), ⟨0, 3, 2⟩), (.inserted, ⟨0, 3, 2⟩),
          (.loaded (.error "two"), ⟨0, 4, 2⟩), (.inserted, ⟨0, 4, 2⟩),
          (.loaded (.ok 11), ⟨1, 4, 2⟩)] ∧
      reached.order = [4, 1] ∧ reached.entries[1]? = some 11 ∧ reached.entries[2]? = none ∧
      reached.hits + reached.misses = 5 := by
  obtain ⟨replies, order, entries, -, -, -, counted, -⟩ :=
    LruCache.history_answers_as_recency_list 2 crowdedHistory _ _ rfl rfl
  refine ⟨_, rfl, ?_, ?_, ?_, ?_, counted⟩
  · rw [replies]
    decide
  · rw [order]
    decide
  · rw [entries]
    decide
  · rw [entries]
    decide

end EconomicImpact
