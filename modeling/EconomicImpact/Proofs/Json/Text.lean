import Mathlib
import EconomicImpact.Proofs.Json.Number

set_option autoImplicit false

namespace EconomicImpact.Json

open Reader

section strings

theorem hex_value_digit {n : Nat} (small : n < 16) : hexValue? (Uuid.hexDigit n) = some n := by
  have each : ∀ n < 16, hexValue? (Uuid.hexDigit n) = some n := by decide
  exact each n small

theorem escaped_control {c : Char} (control : c.toNat < 0x20) (rest : List Char) :
    escapedUnit? ('0' :: '0' :: Uuid.hexDigit (c.toNat / 16) :: Uuid.hexDigit (c.toNat % 16) :: rest) =
      some (c, rest) := by
  have high := hex_value_digit (n := c.toNat / 16) (by omega)
  have low := hex_value_digit (n := c.toNat % 16) (by omega)
  have zero : hexValue? '0' = some 0 := rfl
  have value : 16 * (c.toNat / 16) + c.toNat % 16 = c.toNat := Nat.div_add_mod _ _
  have unit : unit16? ('0' :: '0' :: Uuid.hexDigit (c.toNat / 16) :: Uuid.hexDigit (c.toNat % 16) ::
      rest) = some (c.toNat, rest) := by
    simp [unit16?, zero, high, low, value]
  simp only [escapedUnit?, unit, Option.bind_eq_bind, Option.bind_some]
  rw [if_neg (by omega), if_neg (by omega), Char.ofNat_toNat]

theorem string_tail_escape (fuel : Nat) (seen : List Char) (c : Char) (rest : List Char) :
    stringTail (fuel + 1) seen (escape c ++ rest) = stringTail fuel (c :: seen) rest := by
  by_cases special : c ∈ ['"', '\\', '\x08', '\x0c', '\n', '\r', '\t']
  · simp only [List.mem_cons, List.not_mem_nil, or_false] at special
    rcases special with rfl | rfl | rfl | rfl | rfl | rfl | rfl <;> rfl
  simp only [List.mem_cons, List.not_mem_nil, or_false, not_or] at special
  obtain ⟨quote, backslash, others⟩ := special
  by_cases control : c.toNat < 0x20
  · simp only [escape, quote, backslash, others, control, if_true, if_false, List.cons_append,
      List.nil_append]
    rw [stringTail, escaped_control control]
  · simp only [escape, quote, backslash, others, control, if_false, List.singleton_append]
    rw [stringTail, if_neg control]
    all_goals simp [quote, backslash]

theorem string_tail_text (cs seen rest : List Char) (fuel : Nat) (enough : cs.length < fuel) :
    stringTail fuel seen (cs.flatMap escape ++ '"' :: rest) = some (cs.reverse ++ seen, rest) := by
  induction cs generalizing fuel seen with
  | nil =>
      obtain ⟨fuel, rfl⟩ := Nat.exists_eq_succ_of_ne_zero (by omega : fuel ≠ 0)
      rfl
  | cons c cs ih =>
      rw [List.length_cons] at enough
      obtain ⟨fuel, rfl⟩ := Nat.exists_eq_succ_of_ne_zero (by omega : fuel ≠ 0)
      rw [List.flatMap_cons, List.append_assoc, string_tail_escape, ih _ _ (by omega)]
      simp

theorem escape_nonempty (c : Char) : 0 < (escape c).length := by
  unfold escape
  split_ifs <;> simp

theorem length_le_escaped (cs : List Char) : cs.length ≤ (cs.flatMap escape).length := by
  induction cs with
  | nil => simp
  | cons c cs ih =>
      have := escape_nonempty c
      simp only [List.flatMap_cons, List.length_append, List.length_cons]
      omega

theorem quote_eq (text : String) :
    (quote text).toList = '"' :: (text.toList.flatMap escape ++ ['"']) := by
  simp [quote]

theorem string_of_quoted (text : String) (rest : List Char) :
    string? (text.toList.flatMap escape ++ '"' :: rest) = some (text, rest) := by
  have enough : text.toList.length <
      (text.toList.flatMap escape ++ '"' :: rest).length + 1 := by
    have := length_le_escaped text.toList
    simp only [List.length_append, List.length_cons]
    omega
  rw [string?, string_tail_text _ _ _ _ enough]
  simp

end strings

section values

def ReadsBack (x : Float) : Prop := parse? (floatText x) = some (.float x)

theorem items_list (fuel depth : Nat) (seen : List Json) (cs rest : List Char) (j : Json)
    (read : items fuel depth seen cs = some (j, rest)) : ∃ listed, j = .arr listed := by
  induction fuel generalizing seen cs with
  | zero => cases read
  | succ fuel ih =>
      rw [items] at read
      split at read
      · cases read
      · split at read
        · exact ih _ _ read
        · cases read
          exact ⟨_, rfl⟩
        · cases read

theorem members_object (fuel depth : Nat) (seen : List (String × Json)) (cs rest : List Char)
    (j : Json) (read : members fuel depth seen cs = some (j, rest)) : ∃ named, j = .obj named := by
  induction fuel generalizing seen cs with
  | zero => cases read
  | succ fuel ih =>
      rw [members] at read
      split at read
      · split at read
        · cases read
        · split at read
          · split at read
            · cases read
            · split at read
              · exact ih _ _ read
              · cases read
                exact ⟨_, rfl⟩
              · cases read
          · cases read
      · cases read

theorem skip_blanks_visible {c : Char} (visible : isBlank c = false) (cs : List Char) :
    skipBlanks (c :: cs) = c :: cs := List.dropWhile_cons_of_neg (by simp [visible])

theorem value_of_digit (fuel depth : Nat) {c : Char} (digit : (digitValue? c).isSome = true)
    (cs : List Char) : value (fuel + 1) depth (c :: cs) = number? false (c :: cs) := by
  have visible : isBlank c = false := by
    by_contra blank
    simp only [isBlank, Bool.not_eq_false, Bool.or_eq_true, beq_iff_eq] at blank
    rcases blank with ((rfl | rfl) | rfl) | rfl <;> cases digit
  rw [value, skip_blanks_visible visible]
  split
  all_goals rename_i same
  all_goals first | rfl | (cases same; cases digit)

theorem value_of_minus (fuel depth : Nat) (cs : List Char) :
    value (fuel + 1) depth ('-' :: cs) = number? true cs := rfl

theorem number_of_value {fuel depth : Nat} {cs left : List Char} {x : Float}
    (read : value fuel depth cs = some (.float x, left)) :
    (∃ tail, skipBlanks cs = '-' :: tail ∧ number? true tail = some (.float x, left)) ∨
      number? false (skipBlanks cs) = some (.float x, left) := by
  have word {text : String} {j : Json} {tail : List Char}
      (found : literal? text j tail = some (.float x, left)) : j = .float x := by
    unfold literal? at found
    split at found
    · cases found
      rfl
    · cases found
  cases fuel with
  | zero => cases read
  | succ fuel =>
      rw [value] at read
      split at read
      · cases word read
      · cases word read
      · cases word read
      · obtain ⟨parts, -, same⟩ := Option.map_eq_some_iff.mp read
        cases same
      · rename_i tail start
        exact .inl ⟨tail, start, read⟩
      · split at read
        · cases read
        · split at read
          · cases read
          · obtain ⟨listed, same⟩ := items_list _ _ _ _ _ _ read
            cases same
      · split at read
        · cases read
        · split at read
          · cases read
          · obtain ⟨named, same⟩ := members_object _ _ _ _ _ _ read
            cases same
      · exact .inr read

theorem skip_blanks_free {cs : List Char} (free : blankFree cs = true) : skipBlanks cs = cs := by
  cases cs with
  | nil => rfl
  | cons c cs => exact skip_blanks_visible (blank_free_iff.mp free c List.mem_cons_self) cs

theorem value_of_float {x : Float} (reads : ReadsBack x) (fuel depth : Nat) {rest : List Char}
    (closed : Closed rest) :
    value (fuel + 1) depth ((floatText x).toList ++ rest) = some (.float x, rest) := by
  have visible := blank_free_float x
  unfold ReadsBack parse? at reads
  dsimp only at reads
  split at reads
  · rename_i j left read
    split at reads
    · rename_i finished
      cases reads
      have ends : left <:+ (floatText x).toList → left = [] := fun inside => by
        have free := blank_free_of_subset visible inside.subset
        rw [skip_blanks_free free] at finished
        exact List.isEmpty_iff.mp finished
      rcases number_of_value read with ⟨tail, start, number⟩ | number
      · rw [skip_blanks_free visible] at start
        have done : left = [] := ends <| start ▸
          (number_left number).trans (List.suffix_cons '-' tail)
        subst done
        rw [start, List.cons_append, value_of_minus, number_append closed, number]
        rfl
      · rw [skip_blanks_free visible] at number
        have done : left = [] := ends (number_left number)
        subst done
        obtain ⟨c, tail, start, digit⟩ := number_starts number
        rw [start] at number ⊢
        rw [List.cons_append, value_of_digit fuel depth digit, ← List.cons_append,
          number_append closed, number]
        rfl
    · cases reads
  · cases reads

theorem value_of_int {i : Int} (least : -(Nat.pow 2 63 : Int) ≤ i) (greatest : i < Nat.pow 2 64)
    (fuel depth : Nat) {rest : List Char} (closed : Closed rest) :
    value (fuel + 1) depth ((toString i).toList ++ rest) = some (.int i, rest) := by
  rw [int_text_eq]
  split
  · rename_i positive
    have number := number_of_nat i.toNat (by omega)
    obtain ⟨c, tail, start, digit⟩ := number_starts number
    rw [start] at number ⊢
    rw [List.cons_append, value_of_digit fuel depth digit, ← List.cons_append, number_append closed,
      number]
    simp [Int.toNat_of_nonneg positive]
  · have number := number_of_negative (-i).toNat (by omega) (by omega)
    rw [List.cons_append, value_of_minus, number_append closed, number]
    simp
    omega

end values

section texts

theorem compact_items_eq (items : List Json) : compactItems items = items.map compact := by
  induction items with
  | nil => rfl
  | cons item rest ih => rw [compactItems, ih, List.map_cons]

theorem compact_members_eq (members : List (String × Json)) :
    compactMembers members = members.map fun m => quote m.1 ++ ":" ++ m.2.compact := by
  induction members with
  | nil => rfl
  | cons member rest ih => rw [compactMembers, ih, List.map_cons]

def text (j : Json) : List Char := j.compact.toList

def memberText (member : String × Json) : List Char :=
  (quote member.1).toList ++ ':' :: member.2.text

def joined (texts : List (List Char)) : List Char := [','].intercalate texts

theorem joined_single (only : List Char) : joined [only] = only := List.intercalate_singleton

theorem joined_cons (first second : List Char) (later : List (List Char)) :
    joined (first :: second :: later) = first ++ ',' :: joined (second :: later) := by
  simp [joined]

theorem joined_starts (first : List Char) (later : List (List Char)) :
    ∃ behind, joined (first :: later) = first ++ behind := by
  cases later with
  | nil => exact ⟨[], by rw [joined_single, List.append_nil]⟩
  | cons second later => exact ⟨_, joined_cons first second later⟩

theorem arr_text_eq (items : List Json) :
    (arr items).text = '[' :: (joined (items.map text) ++ [']']) := by
  simp only [text, compact, compact_items_eq, String.toList_append, String.toList_intercalate,
    List.map_map]
  rfl

theorem obj_text_eq (members : List (String × Json)) :
    (obj members).text = '\x7b' :: (joined (members.map memberText) ++ ['\x7d']) := by
  have each : (String.toList ∘ fun m : String × Json => quote m.1 ++ ":" ++ m.2.compact) =
      memberText := by
    funext m
    simp [memberText, text]
  simp only [text, compact, compact_members_eq, String.toList_append, String.toList_intercalate,
    List.map_map, each]
  rfl

end texts

-- Values within a depth whose whole numbers have 64 bits and whose doubles read back.
inductive Writable : Nat → Json → Prop
  | null (depth : Nat) : Writable depth .null
  | bool (depth : Nat) (value : Bool) : Writable depth (.bool value)
  | int (depth : Nat) {i : Int} (least : -(Nat.pow 2 63 : Int) ≤ i) (greatest : i < Nat.pow 2 64) :
      Writable depth (.int i)
  | float (depth : Nat) {x : Float} (reads : ReadsBack x) : Writable depth (.float x)
  | str (depth : Nat) (text : String) : Writable depth (.str text)
  | arr {depth : Nat} {items : List Json} (each : ∀ item ∈ items, Writable depth item) :
      Writable (depth + 1) (.arr items)
  | obj {depth : Nat} {members : List (String × Json)}
      (each : ∀ member ∈ members, Writable depth member.2) : Writable (depth + 1) (.obj members)

-- The value is read off its text wherever the text is closed, with fuel for two steps a character.
def ReadsOff (depth : Nat) (j : Json) : Prop :=
  ∀ (fuel : Nat) (rest : List Char), Closed rest → 2 * j.text.length ≤ fuel →
    value fuel depth (j.text ++ rest) = some (j, rest)

-- What is read as a value starts neither with a blank nor with the end of a list.
theorem starts_of_value {fuel depth : Nat} {cs : List Char} {outcome : Json × List Char}
    (free : blankFree cs = true) (read : value fuel depth cs = some outcome) :
    ∃ c tail, cs = c :: tail ∧ isBlank c = false ∧ c ≠ ']' := by
  cases fuel with
  | zero => cases read
  | succ fuel =>
      cases cs with
      | nil => cases read
      | cons c tail =>
          refine ⟨c, tail, rfl, blank_free_iff.mp free c List.mem_cons_self, ?_⟩
          rintro rfl
          obtain ⟨digit, later, start, value⟩ := number_starts (read : number? false _ = some outcome)
          cases start
          cases value

theorem text_starts {depth : Nat} {j : Json} (writable : Writable depth j) :
    ∃ c tail, j.text = c :: tail ∧ isBlank c = false ∧ c ≠ ']' := by
  cases writable with
  | null => exact ⟨_, _, rfl, rfl, by decide⟩
  | bool _ value => cases value <;> exact ⟨_, _, rfl, rfl, by decide⟩
  | @int _ i least greatest =>
      have read := value_of_int least greatest 0 0 .done
      rw [List.append_nil] at read
      exact starts_of_value (blank_free_int i) read
  | @float _ x reads =>
      have read := value_of_float reads 0 0 .done
      rw [List.append_nil] at read
      exact starts_of_value (blank_free_float x) read
  | str _ text => exact ⟨_, _, quote_eq text, rfl, by decide⟩
  | arr each => exact ⟨_, _, arr_text_eq _, rfl, by decide⟩
  | obj each => exact ⟨_, _, obj_text_eq _, rfl, by decide⟩

theorem items_of_text {depth : Nat} {first : Json} {later : List Json}
    (each : ∀ item ∈ first :: later, ReadsOff depth item) (fuel : Nat) (seen : List Json)
    (rest : List Char) (enough : 2 * (joined ((first :: later).map text)).length + 2 ≤ fuel) :
    items fuel depth seen (joined ((first :: later).map text) ++ ']' :: rest) =
      some (.arr (seen.reverse ++ first :: later), rest) := by
  induction later generalizing first fuel seen with
  | nil =>
      obtain ⟨fuel, rfl⟩ := Nat.exists_eq_succ_of_ne_zero (by omega : fuel ≠ 0)
      simp only [List.map_cons, List.map_nil, joined_single] at enough ⊢
      have read := each first List.mem_cons_self fuel (']' :: rest) (.mark rest (by simp)) (by omega)
      rw [items, read]
      dsimp only
      rw [skip_blanks_visible rfl]
      simp
  | cons second later ih =>
      obtain ⟨fuel, rfl⟩ := Nat.exists_eq_succ_of_ne_zero (by omega : fuel ≠ 0)
      simp only [List.map_cons, joined_cons, List.length_append, List.length_cons] at enough
      have read := each first List.mem_cons_self fuel
        (',' :: (joined ((second :: later).map text) ++ ']' :: rest)) (.mark _ (by simp)) (by omega)
      have remaining := ih (fun item member => each item (List.mem_cons_of_mem _ member)) fuel
        (first :: seen) (by simp only [List.map_cons]; omega)
      rw [List.map_cons, List.map_cons, joined_cons, ← List.map_cons, List.append_assoc,
        List.cons_append, items, read]
      dsimp only
      rw [skip_blanks_visible rfl]
      simpa using remaining

section member

variable {depth fuel : Nat} {member : String × Json} {rest : List Char}

theorem members_named (fuel depth : Nat) (seen : List (String × Json)) (name : String)
    (cs : List Char) :
    members (fuel + 1) depth seen ((quote name).toList ++ ':' :: cs) =
      match value fuel depth cs with
      | none => none
      | some (item, rest) =>
        match skipBlanks rest with
        | ',' :: rest => members fuel depth ((name, item) :: seen) rest
        | '\x7d' :: rest => some (.obj ((name, item) :: seen).reverse, rest)
        | _ => none := by
  have quoted := string_of_quoted name (':' :: cs)
  simp only [quote_eq, List.cons_append, List.append_assoc, List.nil_append]
  rw [members, skip_blanks_visible rfl]
  simp only [quoted]
  rfl

theorem members_next (seen : List (String × Json))
    (read : value fuel depth (member.2.text ++ ',' :: rest) = some (member.2, ',' :: rest)) :
    members (fuel + 1) depth seen (memberText member ++ ',' :: rest) =
      members fuel depth (member :: seen) rest := by
  rw [memberText, List.append_assoc, List.cons_append, members_named, read]
  rfl

theorem members_last (seen : List (String × Json))
    (read : value fuel depth (member.2.text ++ '\x7d' :: rest) = some (member.2, '\x7d' :: rest)) :
    members (fuel + 1) depth seen (memberText member ++ '\x7d' :: rest) =
      some (.obj (member :: seen).reverse, rest) := by
  rw [memberText, List.append_assoc, List.cons_append, members_named, read]
  rfl

end member

theorem members_of_text {depth : Nat} {first : String × Json} {later : List (String × Json)}
    (each : ∀ member ∈ first :: later, ReadsOff depth member.2) (fuel : Nat)
    (seen : List (String × Json)) (rest : List Char)
    (enough : 2 * (joined ((first :: later).map memberText)).length + 2 ≤ fuel) :
    members fuel depth seen (joined ((first :: later).map memberText) ++ '\x7d' :: rest) =
      some (.obj (seen.reverse ++ first :: later), rest) := by
  have shorter : first.2.text.length ≤ (memberText first).length := by
    simp [memberText]
    omega
  induction later generalizing first fuel seen with
  | nil =>
      obtain ⟨fuel, rfl⟩ := Nat.exists_eq_succ_of_ne_zero (by omega : fuel ≠ 0)
      simp only [List.map_cons, List.map_nil, joined_single] at enough ⊢
      have read := each first List.mem_cons_self fuel ('\x7d' :: rest) (.mark rest (by simp)) (by omega)
      rw [members_last seen read]
      simp
  | cons second later ih =>
      obtain ⟨fuel, rfl⟩ := Nat.exists_eq_succ_of_ne_zero (by omega : fuel ≠ 0)
      simp only [List.map_cons, joined_cons, List.length_append, List.length_cons] at enough
      have read := each first List.mem_cons_self fuel
        (',' :: (joined ((second :: later).map memberText) ++ '\x7d' :: rest)) (.mark _ (by simp))
        (by omega)
      have remaining := ih (fun member inside => each member (List.mem_cons_of_mem _ inside)) fuel
        (first :: seen) (by simp only [List.map_cons]; omega) (by simp [memberText]; omega)
      rw [List.map_cons, List.map_cons, joined_cons, ← List.map_cons, List.append_assoc,
        List.cons_append, members_next seen read]
      simpa using remaining

theorem value_of_list (fuel depth : Nat) {c : Char} (visible : isBlank c = false) (other : c ≠ ']')
    (cs : List Char) : value (fuel + 1) (depth + 1) ('[' :: c :: cs) = items fuel depth [] (c :: cs) := by
  rw [value, skip_blanks_visible rfl]
  simp only [Nat.add_one_ne_zero, if_false, skip_blanks_visible visible]
  split
  · rename_i same
    exact absurd (List.cons.inj same).1 other
  · rfl

theorem arr_reads_off {depth : Nat} {items : List Json}
    (starts : ∀ item ∈ items, ∃ c tail, item.text = c :: tail ∧ isBlank c = false ∧ c ≠ ']')
    (each : ∀ item ∈ items, ReadsOff depth item) : ReadsOff (depth + 1) (.arr items) := by
  intro fuel rest closed enough
  rw [arr_text_eq] at enough ⊢
  simp only [List.length_cons, List.length_append, List.length_nil] at enough
  obtain ⟨fuel, rfl⟩ := Nat.exists_eq_succ_of_ne_zero (by omega : fuel ≠ 0)
  rw [List.cons_append, List.append_assoc, List.singleton_append]
  cases items with
  | nil => rfl
  | cons first later =>
      have read := items_of_text each fuel [] rest (by omega)
      obtain ⟨c, tail, start, visible, other⟩ := starts first List.mem_cons_self
      obtain ⟨behind, front⟩ := joined_starts first.text (later.map text)
      rw [List.map_cons, front, start, List.cons_append, List.cons_append] at read ⊢
      exact (value_of_list fuel depth visible other _).trans read

theorem obj_reads_off {depth : Nat} {members : List (String × Json)}
    (each : ∀ member ∈ members, ReadsOff depth member.2) : ReadsOff (depth + 1) (.obj members) := by
  intro fuel rest closed enough
  rw [obj_text_eq] at enough ⊢
  simp only [List.length_cons, List.length_append, List.length_nil] at enough
  obtain ⟨fuel, rfl⟩ := Nat.exists_eq_succ_of_ne_zero (by omega : fuel ≠ 0)
  rw [List.cons_append, List.append_assoc, List.singleton_append]
  cases members with
  | nil => rfl
  | cons first later =>
      have read := members_of_text each fuel [] rest (by omega)
      obtain ⟨behind, front⟩ := joined_starts (memberText first) (later.map memberText)
      rw [List.map_cons, front, memberText, quote_eq] at read ⊢
      exact read

theorem reads_off_at_once {depth : Nat} {j : Json} (writable : Writable depth j)
    (read : ∀ fuel rest, Closed rest → value (fuel + 1) depth (j.text ++ rest) = some (j, rest)) :
    ReadsOff depth j := by
  intro fuel rest closed enough
  obtain ⟨c, tail, start, -⟩ := text_starts writable
  rw [start, List.length_cons] at enough
  obtain ⟨fuel, rfl⟩ := Nat.exists_eq_succ_of_ne_zero (by omega : fuel ≠ 0)
  exact read fuel rest closed

-- The induction is on why the value is writable, which follows the value.
theorem reads_off {depth : Nat} {j : Json} (writable : Writable depth j) : ReadsOff depth j := by
  induction writable with
  | null depth => exact reads_off_at_once (.null depth) fun _ _ _ => rfl
  | bool depth value => exact reads_off_at_once (.bool depth value) fun _ _ _ => by cases value <;> rfl
  | int depth least greatest =>
      exact reads_off_at_once (.int depth least greatest) fun fuel _ => value_of_int least greatest fuel depth
  | float depth reads =>
      exact reads_off_at_once (.float depth reads) fun fuel _ => value_of_float reads fuel depth
  | str depth text =>
      refine reads_off_at_once (.str depth text) fun fuel rest _ => ?_
      change value (fuel + 1) depth ((quote text).toList ++ rest) = _
      rw [quote_eq, List.cons_append, List.append_assoc, List.singleton_append, value,
        skip_blanks_visible rfl]
      simp only [string_of_quoted]
      rfl
  | arr each ih => exact arr_reads_off (fun item member => text_starts (each item member)) ih
  | obj each ih => exact obj_reads_off ih

theorem parse_compact {j : Json} (writable : Writable 127 j) : parse? j.compact = some j := by
  have read := reads_off writable (2 * j.text.length + 2) [] .done (by omega)
  rw [List.append_nil, text] at read
  unfold parse?
  simp only [read]
  rfl

end EconomicImpact.Json
