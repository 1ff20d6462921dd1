import Mathlib.Algebra.Ring.Nat
import Mathlib.Data.List.Nodup
import Mathlib.Data.List.Perm.Subperm
import Mathlib.Data.List.Range

set_option autoImplicit false

namespace Counting

def below (bound : Nat) (test : Nat → Bool) : Nat := (List.range bound).countP test

theorem below_succ (bound : Nat) (test : Nat → Bool) :
    below (bound + 1) test = below bound test + if test bound then 1 else 0 := by
  simp [below, List.range_succ, List.countP_append, List.countP_singleton]

theorem below_congr (bound : Nat) (first second : Nat → Bool) (same : ∀ index < bound, first index = second index) :
    below bound first = below bound second :=
  List.countP_congr fun index member => by rw [same index (List.mem_range.mp member)]

theorem below_none (bound : Nat) (test : Nat → Bool) (none : ∀ index, test index = false) : below bound test = 0 := by
  simp [below, none]

theorem below_flip (bound target : Nat) (first second : Nat → Bool) (inside : target < bound) (counted : first target = true)
    (dropped : second target = false) (same : ∀ index, index ≠ target → first index = second index) :
    below bound first = below bound second + 1 := by
  induction bound with
  | zero => exact absurd inside (by omega)
  | succ bound ih =>
      rw [below_succ, below_succ]
      by_cases last : target = bound
      · subst last
        rw [below_congr target first second fun index smaller => same index (by omega), counted, dropped]
        simp
      · rw [ih (by omega), same bound (Ne.symm last)]
        omega

theorem listed_le_below (bound : Nat) (test : Nat → Bool) (listed : List Nat) (distinct : listed.Nodup)
    (counted : ∀ index ∈ listed, index < bound ∧ test index = true) : listed.length ≤ below bound test := by
  rw [below, List.countP_eq_length_filter]
  apply List.Subperm.length_le
  apply List.Nodup.subperm distinct
  intro index member
  obtain ⟨inside, passes⟩ := counted index member
  exact List.mem_filter.mpr ⟨List.mem_range.mpr inside, passes⟩

theorem below_pos (bound index : Nat) (test : Nat → Bool) (inside : index < bound) (passes : test index = true) :
    0 < below bound test := by
  apply listed_le_below bound test [index] (List.nodup_singleton index)
  intro other member
  obtain rfl := List.mem_singleton.mp member
  exact ⟨inside, passes⟩

theorem count_modify {α : Type} (entries : List α) (index : Nat) (change : α → α) (test : α → Bool) (entry : α)
    (found : entries[index]? = some entry) :
    (entries.modify index change).countP test + (if test entry then 1 else 0) =
      entries.countP test + if test (change entry) then 1 else 0 := by
  induction entries generalizing index with
  | nil => cases found
  | cons first rest ih =>
      cases index with
      | zero =>
          obtain rfl : first = entry := Option.some.inj found
          simp only [List.modify_zero_cons, List.countP_cons]
          omega
      | succ index =>
          have later := ih index found
          simp only [List.modify_succ_cons, List.countP_cons]
          omega

theorem sum_modify {α : Type} (entries : List α) (index : Nat) (change : α → α) (weight : α → Nat) (entry : α)
    (found : entries[index]? = some entry) :
    ((entries.modify index change).map weight).sum + weight entry = (entries.map weight).sum + weight (change entry) := by
  induction entries generalizing index with
  | nil => cases found
  | cons first rest ih =>
      cases index with
      | zero =>
          obtain rfl : first = entry := Option.some.inj found
          simp only [List.modify_zero_cons, List.map_cons, List.sum_cons]
          omega
      | succ index =>
          have later := ih index found
          simp only [List.modify_succ_cons, List.map_cons, List.sum_cons]
          omega

theorem count_set {α : Type} (entries : List α) (index : Nat) (entry changed : α) (test : α → Bool)
    (found : entries[index]? = some entry) :
    (entries.set index changed).countP test + (if test entry then 1 else 0) =
      entries.countP test + if test changed then 1 else 0 := by
  obtain ⟨inside, rfl⟩ := List.getElem?_eq_some_iff.mp found
  have positive : test entries[index] = true → 0 < entries.countP test := fun passes =>
    List.countP_pos_iff.mpr ⟨_, List.getElem_mem inside, passes⟩
  rw [List.countP_set inside]
  split_ifs with passes
  · have counted := positive passes
    omega
  · have counted := positive passes
    omega
  · omega
  · omega

theorem count_held_set {α β : Type} [DecidableEq β] (entries : List α) (index : Nat) (held : α → Option β) (entry changed : α)
    (found : entries[index]? = some entry) (item : β) :
    ((entries.set index changed).filterMap held).count item + (held entry).toList.count item =
      (entries.filterMap held).count item + (held changed).toList.count item := by
  have front : ∀ first rest, ((first :: rest).filterMap held).count item =
      (held first).toList.count item + (rest.filterMap held).count item := by
    intro first rest
    cases same : held first <;> simp [same, List.count_cons]
    omega
  induction entries generalizing index with
  | nil => cases found
  | cons first rest ih =>
      cases index with
      | zero =>
          obtain rfl : first = entry := Option.some.inj found
          rw [List.set_cons_zero, front, front]
          omega
      | succ index =>
          have later := ih index found
          rw [List.set_cons_succ, front, front]
          omega

theorem all_set {α : Type} (entries : List α) (index : Nat) (changed : α) (fits : α → Prop) (all : ∀ entry ∈ entries, fits entry)
    (here : fits changed) : ∀ entry ∈ entries.set index changed, fits entry := by
  intro entry member
  rcases List.mem_or_eq_of_mem_set member with before | rfl
  · exact all entry before
  · exact here

theorem get_set {α : Type} (entries : List α) (index other : Nat) (entry changed : α) (found : entries[index]? = some entry) :
    (entries.set index changed)[other]? = if other = index then some changed else entries[other]? := by
  obtain ⟨inside, _⟩ := List.getElem?_eq_some_iff.mp found
  rw [List.getElem?_set]
  by_cases same : index = other
  · subst same
    simp [inside]
  · rw [if_neg same, if_neg (Ne.symm same)]

theorem mem_set {α : Type} (entries : List α) (index : Nat) (entry changed other : α) (found : entries[index]? = some entry)
    (member : other ∈ entries) : other = entry ∨ other ∈ entries.set index changed := by
  obtain ⟨place, here⟩ := List.mem_iff_getElem?.mp member
  by_cases same : place = index
  · rw [same, found] at here
    exact .inl (Option.some.inj here).symm
  · have kept := get_set entries index place entry changed found
    rw [if_neg same] at kept
    exact .inr (List.mem_of_getElem? (kept.trans here))

theorem map_set {α β : Type} (entries : List α) (index : Nat) (entry changed : α) (view : α → β)
    (found : entries[index]? = some entry) (same : view changed = view entry) :
    (entries.set index changed).map view = entries.map view := by
  refine List.ext_getElem? fun other => ?_
  rw [List.getElem?_map, get_set entries index other entry changed found, List.getElem?_map]
  split_ifs with here
  · rw [here, found, Option.map_some, Option.map_some, same]
  · rfl

end Counting
