import Mathlib.Data.List.Forall2

set_option autoImplicit false

namespace EconomicImpact.Outcome

variable {ε α β : Type}

theorem bind_ok_iff (x : Except ε α) (f : α → Except ε β) (b : β) :
    x >>= f = .ok b ↔ ∃ a, x = .ok a ∧ f a = .ok b := by
  cases x <;> simp [Bind.bind, Except.bind]

theorem any_ok_iff (x : Except ε α) (test : α → Bool) :
    x.toOption.any test = true ↔ ∃ a, x = .ok a ∧ test a = true := by
  cases x <;> simp [Except.toOption]

theorem pure_ok_iff (a b : α) : (pure a : Except ε α) = .ok b ↔ a = b := by
  simp [pure, Except.pure]

theorem guard_ok_iff {γ : Type} (refused : Prop) [Decidable refused] (e : ε) (f : γ → Except ε β)
    (x : Except ε β) (b : β) :
    (if refused then throw e >>= f else x) = .ok b ↔ ¬refused ∧ x = .ok b := by
  by_cases stop : refused
  · simp [stop, bind, Except.bind, throw, throwThe, MonadExceptOf.throw]
  · simp [stop]

theorem map_ok_iff (x : Except ε α) (f : α → β) (b : β) :
    x.map f = .ok b ↔ ∃ a, x = .ok a ∧ f a = b := by
  cases x <;> simp [Except.map]

theorem map_stopped_iff (x : Except ε α) (f : α → β) (e : ε) :
    x.map f = .error e ↔ x = .error e := by
  cases x <;> simp [Except.map]

theorem map_bind {γ : Type} (x : Except ε α) (f : α → Except ε β) (g : β → γ) :
    (x >>= f).map g = x >>= fun a => (f a).map g := by
  cases x <;> rfl

theorem bind_map {γ : Type} (x : Except ε α) (g : α → β) (f : β → Except ε γ) :
    x.map g >>= f = x >>= fun a => f (g a) := by
  cases x <;> rfl

theorem map_error_ok_iff {δ : Type} (x : Except ε α) (f : ε → δ) (a : α) :
    x.mapError f = .ok a ↔ x = .ok a := by
  cases x <;> simp [Except.mapError]

theorem mapM_ok_iff (f : α → Except ε β) (inputs : List α) (outputs : List β) :
    inputs.mapM f = .ok outputs ↔ List.Forall₂ (fun a b => f a = .ok b) inputs outputs := by
  induction inputs generalizing outputs with
  | nil =>
      rw [List.mapM_nil, pure_ok_iff, List.forall₂_nil_left_iff]
      exact eq_comm
  | cons a rest ih =>
      simp only [List.mapM_cons, bind_ok_iff, pure_ok_iff, ih, List.forall₂_cons_left_iff]
      constructor
      · rintro ⟨b, head, tail, later, rfl⟩
        exact ⟨b, tail, head, later, rfl⟩
      · rintro ⟨b, tail, head, later, rfl⟩
        exact ⟨b, head, tail, later, rfl⟩

theorem keyed_ok {κ : Type} (key : κ) (x : Except ε α) (image : α → β) (entry : κ × β)
    (made : (x >>= fun a => pure (key, image a)) = .ok entry) : entry.1 = key := by
  obtain ⟨a, -, same⟩ := (bind_ok_iff _ _ _).mp made
  rw [← (pure_ok_iff _ _).mp same]

-- What every output shares with its input the lists share as well.
theorem mapM_ok_map_eq {γ : Type} (f : α → Except ε β) (left : α → γ) (right : β → γ)
    (shared : ∀ a b, f a = .ok b → right b = left a) (inputs : List α) (outputs : List β)
    (mapped : inputs.mapM f = .ok outputs) : outputs.map right = inputs.map left := by
  rw [mapM_ok_iff] at mapped
  induction mapped with
  | nil => rfl
  | cons head _ ih => rw [List.map_cons, List.map_cons, shared _ _ head, ih]

theorem mapM_keyed_keys {κ γ : Type} {x : κ × α → Except ε γ} {image : κ × α → γ → β}
    {inputs : List (κ × α)} {outputs : List (κ × β)}
    (mapped : (inputs.mapM fun entry => do return (entry.1, image entry (← x entry))) =
      .ok outputs) : outputs.map (·.1) = inputs.map (·.1) :=
  mapM_ok_map_eq _ (·.1) (·.1) (fun _ => keyed_ok _ _ _) inputs outputs mapped

theorem mapM_ok_filter (f : α → Except ε β) (p : α → Bool) (q : β → Bool)
    (shared : ∀ a b, f a = .ok b → q b = p a) (inputs : List α) (outputs : List β)
    (mapped : inputs.mapM f = .ok outputs) : (inputs.filter p).mapM f = .ok (outputs.filter q) := by
  rw [mapM_ok_iff] at mapped ⊢
  induction mapped with
  | nil => exact .nil
  | @cons a b _ _ head _ ih =>
      rw [List.filter_cons, List.filter_cons, shared a b head]
      by_cases kept : p a = true
      · rw [if_pos kept, if_pos kept]
        exact .cons head ih
      · rw [if_neg kept, if_neg kept]
        exact ih

theorem mapM_succeeds (f : α → Except ε β) (inputs : List α)
    (each : ∀ a ∈ inputs, ∃ b, f a = .ok b) : ∃ outputs, inputs.mapM f = .ok outputs := by
  induction inputs with
  | nil => exact ⟨[], rfl⟩
  | cons a rest ih =>
      obtain ⟨⟨b, head⟩, tail⟩ := List.forall_mem_cons.mp each
      obtain ⟨bs, later⟩ := ih tail
      rw [List.mapM_cons, head, later]
      exact ⟨b :: bs, rfl⟩

theorem mapM_congr {f g : α → Except ε β} (inputs : List α) (same : ∀ a ∈ inputs, f a = g a) :
    inputs.mapM f = inputs.mapM g := by
  induction inputs with
  | nil => rfl
  | cons a rest ih =>
      obtain ⟨head, tail⟩ := List.forall_mem_cons.mp same
      rw [List.mapM_cons, List.mapM_cons, head, ih tail]

theorem mapM_eq_map (f : α → Except ε β) (image : α → β) (each : ∀ a, f a = .ok (image a))
    (inputs : List α) : inputs.mapM f = .ok (inputs.map image) := by
  rw [mapM_ok_iff, List.forall₂_map_right_iff, List.forall₂_same]
  exact fun a _ => each a

theorem mapM_map_image {γ : Type} (f : α → Except ε β) (g : α → Except ε γ) (image : β → γ)
    (each : ∀ a, g a = (f a).map image) (inputs : List α) :
    inputs.mapM g = (inputs.mapM f).map (List.map image) := by
  induction inputs with
  | nil => rfl
  | cons a rest ih =>
      rw [List.mapM_cons, List.mapM_cons, ih, each]
      cases f a with
      | error e => rfl
      | ok b => cases rest.mapM f <;> rfl

theorem mapM_carried_image {γ δ : Type} (f : α → Except ε β) (g : γ → Except ε δ) (carried : α → γ)
    (image : β → δ) (each : ∀ a, g (carried a) = (f a).map image) (inputs : List α) :
    (inputs.map carried).mapM g = (inputs.mapM f).map (List.map image) :=
  List.mapM_map.trans (mapM_map_image f (g ∘ carried) image each inputs)

theorem foldlM_carried_image {γ δ : Type} (f : β → α → Except ε β) (g : δ → γ → Except ε δ)
    (carried : α → γ) (image : β → δ) (each : ∀ b a, g (image b) (carried a) = (f b a).map image)
    (inputs : List α) (start : β) :
    (inputs.map carried).foldlM g (image start) = (inputs.foldlM f start).map image := by
  induction inputs generalizing start with
  | nil => rfl
  | cons a rest ih =>
      rw [List.map_cons, List.foldlM_cons, List.foldlM_cons, each, bind_map, map_bind]
      exact congrArg (f start a >>= ·) (funext fun next => ih next)

theorem mapM_zip_idx_image {γ : Type} (f : α × Nat → Except ε β) (g : α × Nat → Except ε γ)
    (image : Nat → β → γ) (each : ∀ a i, g (a, i) = (f (a, i)).map (image i)) (inputs : List α)
    (start : Nat) :
    (inputs.zipIdx start).mapM g =
      ((inputs.zipIdx start).mapM f).map (List.mapIdx fun i => image (start + i)) := by
  induction inputs generalizing start with
  | nil => rfl
  | cons a rest ih =>
      rw [List.zipIdx_cons, List.mapM_cons, List.mapM_cons, ih, each]
      cases f (a, start) with
      | error e => rfl
      | ok b =>
          cases (rest.zipIdx (start + 1)).mapM f with
          | error e => rfl
          | ok bs =>
              have later : (fun i => image (start + 1 + i)) = fun i => image (start + (i + 1)) := by
                funext i
                rw [Nat.add_assoc, Nat.add_comm 1 i]
              change Except.ok (image start b :: bs.mapIdx _) = Except.ok (List.mapIdx _ (b :: bs))
              rw [List.mapIdx_cons, later, Nat.add_zero]

theorem mapM_ok_input (f : α → Except ε β) (inputs : List α) (outputs : List β)
    (mapped : inputs.mapM f = .ok outputs) (a : α) (member : a ∈ inputs) :
    ∃ b ∈ outputs, f a = .ok b := by
  rw [mapM_ok_iff] at mapped
  induction mapped with
  | nil => cases member
  | @cons first image _ _ head _ ih =>
      rcases List.mem_cons.mp member with rfl | later
      · exact ⟨image, by simp, head⟩
      · obtain ⟨b, listed, value⟩ := ih later
        exact ⟨b, by simp [listed], value⟩

theorem mapM_ok_output (f : α → Except ε β) (inputs : List α) (outputs : List β)
    (mapped : inputs.mapM f = .ok outputs) (b : β) (member : b ∈ outputs) :
    ∃ a ∈ inputs, f a = .ok b := by
  rw [mapM_ok_iff] at mapped
  induction mapped with
  | nil => cases member
  | @cons first image _ _ head _ ih =>
      rcases List.mem_cons.mp member with rfl | later
      · exact ⟨first, by simp, head⟩
      · obtain ⟨a, listed, value⟩ := ih later
        exact ⟨a, by simp [listed], value⟩

def Free (sort : ε → Prop) (x : Except ε α) : Prop := ∀ e, x = .error e → ¬sort e

section free

variable {sort : ε → Prop}

theorem free_ok (a : α) : Free sort (.ok a : Except ε α) := fun _ failed => nomatch failed

theorem free_of_ok {x : Except ε α} {a : α} (made : x = .ok a) : Free sort x := made ▸ free_ok a

theorem free_error {e : ε} (other : ¬sort e) : Free sort (.error e : Except ε α) := by
  intro _ failed
  cases failed
  exact other

theorem free_bind {x : Except ε α} {f : α → Except ε β} (first : Free sort x)
    (later : ∀ a, Free sort (f a)) : Free sort (x >>= f) := by
  cases x with
  | ok a => exact later a
  | error e => exact free_error (first e rfl)

-- A failure of the given sort lies beyond what is free of it.
theorem Free.stopped_iff {x : Except ε α} {f : α → Except ε β} {e : ε} (free : Free sort x)
    (sorted : sort e) : x >>= f = .error e ↔ ∃ a, x = .ok a ∧ f a = .error e := by
  cases x with
  | ok a => simp [Bind.bind, Except.bind]
  | error first =>
      refine iff_of_false (fun stopped => ?_) fun later => nomatch later
      cases stopped
      exact free e rfl sorted

theorem stopped_before_iff {x : Except ε α} {f : α → Except ε β} {e : ε}
    (later : ∀ a, Free sort (f a)) (sorted : sort e) : x >>= f = .error e ↔ x = .error e := by
  cases x with
  | ok a => exact iff_of_false (fun stopped => later a e stopped sorted) fun failed => nomatch failed
  | error first => simp [Bind.bind, Except.bind]

theorem free_map {x : Except ε α} (f : α → β) (free : Free sort x) : Free sort (x.map f) :=
  fun e failed => free e ((map_stopped_iff x f e).mp failed)

theorem free_map_error {δ : Type} {sort : δ → Prop} {f : ε → δ} (other : ∀ e, ¬sort (f e))
    (x : Except ε α) : Free sort (x.mapError f) := by
  cases x with
  | ok a => exact free_ok a
  | error e => exact free_error (other e)

theorem free_foldlM {f : β → α → Except ε β} (each : ∀ b a, Free sort (f b a)) (inputs : List α)
    (start : β) : Free sort (inputs.foldlM f start) := by
  induction inputs generalizing start with
  | nil => exact free_ok start
  | cons a rest ih => exact free_bind (each start a) ih

theorem free_mapM {f : α → Except ε β} (each : ∀ a, Free sort (f a)) (inputs : List α) :
    Free sort (inputs.mapM f) := by
  induction inputs with
  | nil => exact free_ok []
  | cons a rest ih =>
      rw [List.mapM_cons]
      exact free_bind (each a) fun b => free_bind ih fun later => free_ok (b :: later)

theorem free_mapM_option {f : α → Except ε β} (each : ∀ a, Free sort (f a)) (input : Option α) :
    Free sort (input.mapM f) := by
  cases input with
  | none => exact free_ok none
  | some a => exact free_map some (each a)

end free

theorem map_eq_of_related {γ δ ζ : Type} {f : γ → ζ} {g : δ → ζ} {lefts : List γ}
    {rights : List δ} (related : List.Forall₂ (fun left right => f left = g right) lefts rights) :
    lefts.map f = rights.map g := by
  induction related with
  | nil => rfl
  | cons head _ ih => rw [List.map_cons, List.map_cons, head, ih]

section matched

variable {δ γ ζ : Type} {values : α → β → Prop} {others : γ → ζ → Prop}

inductive Matched (values : α → β → Prop) : Except ε α → Except δ β → Prop
  | ok {a : α} {b : β} (related : values a b) : Matched values (.ok a) (.ok b)
  | error (e : ε) (d : δ) : Matched values (.error e) (.error d)

theorem Matched.bind {x : Except ε α} {y : Except δ β} {f : α → Except ε γ} {g : β → Except δ ζ}
    (first : Matched values x y) (later : ∀ a b, values a b → Matched others (f a) (g b)) :
    Matched others (x >>= f) (y >>= g) := by
  cases first with
  | ok related => exact later _ _ related
  | error e d => exact .error e d

theorem Matched.map {x : Except ε α} {y : Except δ β} {f : α → γ} {g : β → ζ}
    (matched : Matched values x y) (images : ∀ a b, values a b → others (f a) (g b)) :
    Matched others (x.map f) (y.map g) := by
  cases matched with
  | ok related => exact .ok (images _ _ related)
  | error e d => exact .error e d

theorem Matched.other_ok {a : α} {y : Except δ β}
    (matched : Matched values (.ok a : Except ε α) y) : ∃ b, y = .ok b ∧ values a b := by
  cases matched with
  | ok related => exact ⟨_, rfl, related⟩

theorem Matched.imp {x : Except ε α} {y : Except δ β} {weaker : α → β → Prop}
    (matched : Matched values x y) (each : ∀ a b, values a b → weaker a b) : Matched weaker x y := by
  cases matched with
  | ok related => exact .ok (each _ _ related)
  | error e d => exact .error e d

theorem Matched.of_left {x : Except ε α} {y : Except δ β} {holds : α → Prop}
    (matched : Matched values x y) (each : ∀ a, x = .ok a → holds a) :
    Matched (fun a b => values a b ∧ holds a) x y := by
  cases matched with
  | ok related => exact .ok ⟨related, each _ rfl⟩
  | error e d => exact .error e d

theorem Matched.mapError {ε' δ' : Type} {x : Except ε α} {y : Except δ β} {f : ε → ε'}
    {g : δ → δ'} (matched : Matched values x y) : Matched values (x.mapError f) (y.mapError g) := by
  cases matched with
  | ok related => exact .ok related
  | error e d => exact .error _ _

theorem Matched.mapM {f : α → Except ε γ} {g : β → Except δ ζ} {as : List α} {bs : List β}
    (each : ∀ a b, values a b → Matched others (f a) (g b))
    (inputs : List.Forall₂ values as bs) :
    Matched (List.Forall₂ others) (as.mapM f) (bs.mapM g) := by
  induction inputs with
  | nil => exact .ok .nil
  | cons head _ ih =>
      rw [List.mapM_cons, List.mapM_cons]
      exact (each _ _ head).bind fun c d first => ih.bind fun cs ds rest => .ok (.cons first rest)

theorem Matched.mapM_option {f : α → Except ε γ} {g : β → Except δ ζ} {a : Option α}
    {b : Option β} (each : ∀ a b, values a b → Matched others (f a) (g b))
    (input : Option.Rel values a b) : Matched (Option.Rel others) (a.mapM f) (b.mapM g) := by
  cases input with
  | none => exact .ok .none
  | some related => exact (each _ _ related).map fun c d image => .some image

end matched

section same

variable {γ δ ζ : Type} {values : α → γ → Prop} {others : δ → ζ → Prop}

-- Two computations that fail for the same reason, or succeed with values that are related.
inductive Same (values : α → γ → Prop) : Except ε α → Except ε γ → Prop
  | ok {a : α} {c : γ} (related : values a c) : Same values (.ok a) (.ok c)
  | error (e : ε) : Same values (.error e) (.error e)

theorem Same.of_eq {x y : Except ε α} (same : x = y) : Same Eq x y := by
  subst same
  cases x with
  | ok a => exact .ok rfl
  | error e => exact .error e

theorem Same.other_error {e : ε} {y : Except ε γ}
    (same : Same values (.error e : Except ε α) y) : y = .error e := by
  cases same
  rfl

theorem Same.bind {x : Except ε α} {y : Except ε γ} {f : α → Except ε δ} {g : γ → Except ε ζ}
    (first : Same values x y) (later : ∀ a c, values a c → Same others (f a) (g c)) :
    Same others (x >>= f) (y >>= g) := by
  cases first with
  | ok related => exact later _ _ related
  | error e => exact .error e

end same

end EconomicImpact.Outcome
