import Mathlib.Data.List.Dedup
import Mathlib.Data.List.Perm.Subperm
import Packethose.Lib.Tables

set_option autoImplicit false

-- A set of counted elements with a fixed number of places. An update counts
-- an element that has a place, gives a place to a new one while there are
-- any, and passes over it otherwise. Elements are never taken out.
structure Meter (Reading Amount : Type) where
  capacity : Nat
  zero : Reading
  count : Reading → Amount → Reading

namespace Meter

variable {Key Reading Amount : Type} [DecidableEq Key]

def update (m : Meter Reading Amount) (set : Table Key Reading) (entry : Key × Amount) : Table Key Reading :=
  match set.lookup entry.1 with
  | some old => set.insert entry.1 (m.count old entry.2)
  | none => if Table.size set < m.capacity then set.insert entry.1 (m.count m.zero entry.2) else set

def updates (m : Meter Reading Amount) (set : Table Key Reading) (entries : List (Key × Amount)) : Table Key Reading :=
  entries.foldl m.update set

def amounts (key : Key) (entries : List (Key × Amount)) : List Amount :=
  entries.filterMap fun entry => if entry.1 = key then some entry.2 else none

def reading (m : Meter Reading Amount) (key : Key) (entries : List (Key × Amount)) : Reading :=
  (amounts key entries).foldl m.count m.zero

@[simp] theorem amounts_nil (key : Key) : amounts key ([] : List (Key × Amount)) = [] := rfl

theorem amounts_snoc (key : Key) (entries : List (Key × Amount)) (entry : Key × Amount) :
    amounts key (entries ++ [entry]) = amounts key entries ++ (if entry.1 = key then [entry.2] else []) := by
  unfold amounts
  rw [List.filterMap_append]
  by_cases same : entry.1 = key <;> simp [same]

theorem reading_snoc (m : Meter Reading Amount) (key : Key) (entries : List (Key × Amount)) (amount : Amount) :
    m.reading key (entries ++ [(key, amount)]) = m.count (m.reading key entries) amount := by
  simp [reading, amounts_snoc, List.foldl_append]

theorem reading_other (m : Meter Reading Amount) (key : Key) (entries : List (Key × Amount)) (entry : Key × Amount)
    (different : entry.1 ≠ key) : m.reading key (entries ++ [entry]) = m.reading key entries := by
  simp [reading, amounts_snoc, different]

structure Exact (m : Meter Reading Amount) (set : Table Key Reading) (entries : List (Key × Amount)) : Prop where
  bounded : Table.size set ≤ m.capacity
  held : ∀ key value, set.lookup key = some value → amounts key entries ≠ [] ∧ value = m.reading key entries
  missed : ∀ key, set.lookup key = none → amounts key entries ≠ [] → Table.size set = m.capacity

theorem empty_exact (m : Meter Reading Amount) : m.Exact (∅ : Table Key Reading) [] := by
  refine ⟨Nat.zero_le _, ?_, ?_⟩
  · intro key value held
    rw [AList.lookup_empty] at held
    cases held
  · intro key _ seen
    exact absurd rfl seen

theorem put_exact (m : Meter Reading Amount) (set : Table Key Reading) (entries : List (Key × Amount)) (entry : Key × Amount)
    (value : Reading) (counted : m.Exact set entries) (reads : value = m.reading entry.1 (entries ++ [entry]))
    (fits : Table.size (set.insert entry.1 value) ≤ m.capacity)
    (grows : Table.size set ≤ Table.size (set.insert entry.1 value)) :
    m.Exact (set.insert entry.1 value) (entries ++ [entry]) := by
  refine ⟨fits, ?_, ?_⟩
  · intro key found held
    rw [Table.lookup_put] at held
    by_cases same : key = entry.1
    · rw [if_pos same] at held
      obtain rfl : value = found := Option.some.inj held
      subst same
      exact ⟨by simp [amounts_snoc], reads⟩
    · rw [if_neg same] at held
      obtain ⟨seen, total⟩ := counted.held key found held
      rw [reading_other m key entries entry (Ne.symm same)]
      exact ⟨by simp [amounts_snoc, seen], total⟩
  · intro key missing seen
    rw [Table.lookup_put] at missing
    by_cases same : key = entry.1
    · rw [if_pos same] at missing
      cases missing
    · rw [if_neg same] at missing
      have before : amounts key entries ≠ [] := by simpa [amounts_snoc, Ne.symm same] using seen
      have full := counted.missed key missing before
      omega

theorem update_exact (m : Meter Reading Amount) (set : Table Key Reading) (entries : List (Key × Amount)) (entry : Key × Amount)
    (counted : m.Exact set entries) : m.Exact (m.update set entry) (entries ++ [entry]) := by
  unfold update
  cases found : set.lookup entry.1 with
  | some old =>
      have kept := Table.size_put_present set entry.1 (m.count old entry.2) old found
      refine put_exact m set entries entry _ counted ?_ (by rw [kept]; exact counted.bounded) (by rw [kept])
      rw [reading_snoc, ← (counted.held entry.1 old found).2]
  | none =>
      by_cases room : Table.size set < m.capacity
      · have more := Table.size_put_absent set entry.1 (m.count m.zero entry.2) found
        have unseen : amounts entry.1 entries = [] := by
          by_contra seen
          have full := counted.missed entry.1 found seen
          omega
        simp only [if_pos room]
        refine put_exact m set entries entry _ counted ?_ (by omega) (by omega)
        rw [reading_snoc, reading, unseen, List.foldl_nil]
      · simp only [if_neg room]
        have full : Table.size set = m.capacity := Nat.le_antisymm counted.bounded (Nat.le_of_not_lt room)
        refine ⟨counted.bounded, ?_, fun _ _ _ => full⟩
        intro key value held
        have different : entry.1 ≠ key := by
          rintro rfl
          rw [found] at held
          cases held
        obtain ⟨seen, total⟩ := counted.held key value held
        rw [reading_other m key entries entry different]
        exact ⟨by simp [amounts_snoc, seen], total⟩

theorem updates_exact (m : Meter Reading Amount) (set : Table Key Reading) (before entries : List (Key × Amount))
    (counted : m.Exact set before) : m.Exact (m.updates set entries) (before ++ entries) := by
  induction entries generalizing set before with
  | nil => simpa [updates] using counted
  | cons entry rest ih =>
      have later := ih (m.update set entry) (before ++ [entry]) (update_exact m set before entry counted)
      simpa [updates] using later

theorem missed_crowded (m : Meter Reading Amount) (set : Table Key Reading) (entries : List (Key × Amount)) (key : Key)
    (counted : m.Exact set entries) (missing : set.lookup key = none) (seen : amounts key entries ≠ []) :
    m.capacity < ((entries.map Prod.fst).dedup).length := by
  have full := counted.missed key missing seen
  have among : ∀ other, amounts other entries ≠ [] → other ∈ (entries.map Prod.fst).dedup := by
    intro other met
    obtain ⟨amount, listed⟩ := List.exists_mem_of_ne_nil _ met
    obtain ⟨entry, member, picked⟩ := List.mem_filterMap.mp listed
    split_ifs at picked with same
    exact List.mem_dedup.mpr (List.mem_map.mpr ⟨entry, member, same⟩)
  have distinct : (key :: set.keys).Nodup :=
    List.nodup_cons.mpr ⟨fun present => AList.lookup_eq_none.mp missing present, set.nodupKeys⟩
  have within : key :: set.keys ⊆ (entries.map Prod.fst).dedup := by
    intro other member
    rcases List.mem_cons.mp member with rfl | present
    · exact among other seen
    · cases found : set.lookup other with
      | none => exact absurd present (AList.lookup_eq_none.mp found)
      | some value => exact among other (counted.held other value found).1
  have longer := (List.Nodup.subperm distinct within).length_le
  have same : set.keys.length = Table.size set := by simp [AList.keys, List.keys, Table.size]
  rw [List.length_cons, same, full] at longer
  exact longer

end Meter
