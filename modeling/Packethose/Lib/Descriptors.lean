import Mathlib.Data.List.Basic
import Mathlib.Data.List.Nodup

set_option autoImplicit false

-- The descriptor table of a process, seen from one of its parts: the files that
-- part has open, in the order it opened them, and the numbers all others hold.
namespace Descriptors

structure Table (File : Type) where
  owned : List (Nat × File)
  foreign : List Nat

variable {File : Type}

namespace Table

def numbers (t : Table File) : List Nat := t.owned.map Prod.fst ++ t.foreign

def Distinct (t : Table File) : Prop := t.numbers.Nodup

def acquire (t : Table File) (fd : Nat) (file : File) : Option (Table File) :=
  if fd ∈ t.numbers then none else some { t with owned := t.owned ++ [(fd, file)] }

def acquireForeign (t : Table File) (fd : Nat) : Option (Table File) :=
  if fd ∈ t.numbers then none else some { t with foreign := t.foreign ++ [fd] }

def close (t : Table File) (fd : Nat) : Table File :=
  ⟨t.owned.filter fun entry => entry.1 ≠ fd, t.foreign.filter fun other => other ≠ fd⟩

def update (t : Table File) (fd : Nat) (change : File → File) : Table File :=
  { t with owned := t.owned.map fun entry => if entry.1 = fd then (entry.1, change entry.2) else entry }

theorem acquire_distinct (t next : Table File) (fd : Nat) (file : File) (distinct : t.Distinct)
    (taken : t.acquire fd file = some next) : next.Distinct := by
  unfold acquire at taken
  split_ifs at taken with used
  cases taken
  unfold Distinct at distinct ⊢
  simp only [numbers, List.map_append, List.map_cons, List.map_nil, List.append_assoc, List.singleton_append] at used distinct ⊢
  exact List.nodup_middle.mpr (List.nodup_cons.mpr ⟨used, distinct⟩)

theorem acquire_foreign_distinct (t next : Table File) (fd : Nat) (distinct : t.Distinct)
    (taken : t.acquireForeign fd = some next) : next.Distinct := by
  unfold acquireForeign at taken
  split_ifs at taken with used
  cases taken
  unfold Distinct at distinct ⊢
  simp only [numbers, ← List.append_assoc] at used distinct ⊢
  exact List.nodup_append_comm.mpr (List.nodup_cons.mpr ⟨used, distinct⟩)

theorem close_distinct (t : Table File) (fd : Nat) (distinct : t.Distinct) : (t.close fd).Distinct :=
  List.Nodup.sublist (List.filter_sublist.map Prod.fst |>.append List.filter_sublist) distinct

theorem update_owned (t : Table File) (fd : Nat) (change : File → File) :
    (t.update fd change).owned.map Prod.fst = t.owned.map Prod.fst := by
  rw [update, List.map_map]
  congr 1
  funext entry
  rw [Function.comp_apply]
  split_ifs <;> rfl

theorem update_distinct (t : Table File) (fd : Nat) (change : File → File) (distinct : t.Distinct) :
    (t.update fd change).Distinct := by
  rw [Distinct, numbers, update_owned]
  exact distinct

theorem close_owned (t : Table File) (fd : Nat) (distinct : t.Distinct) (member : fd ∈ t.owned.map Prod.fst) :
    (t.close fd).foreign = t.foreign := by
  refine List.filter_eq_self.mpr fun other held => ?_
  have apart := (List.nodup_append.mp distinct).2.2 fd member other held
  simpa using apart.symm

theorem close_foreign (t : Table File) (fd : Nat) (distinct : t.Distinct) (member : fd ∈ t.foreign) :
    (t.close fd).owned = t.owned := by
  refine List.filter_eq_self.mpr fun entry held => ?_
  have apart := (List.nodup_append.mp distinct).2.2 entry.1 (List.mem_map_of_mem held) fd member
  simpa using apart

theorem close_numbers (t : Table File) (fd : Nat) (front back : List Nat) (distinct : t.Distinct)
    (held : t.owned.map Prod.fst = front ++ fd :: back) : (t.close fd).owned.map Prod.fst = front ++ back := by
  have once : (front ++ fd :: back).Nodup := held ▸ (List.nodup_append.mp distinct).1
  obtain ⟨absent, _⟩ := List.nodup_cons.mp (List.nodup_middle.mp once)
  have kept : (t.close fd).owned.map Prod.fst = (t.owned.map Prod.fst).filter fun other => other ≠ fd := by
    rw [close, List.filter_map]
    rfl
  rw [kept, held, List.filter_append, List.filter_cons]
  simp only [ne_eq, not_true_eq_false, decide_false, Bool.false_eq_true, if_false, ← List.filter_append]
  refine List.filter_eq_self.mpr fun other member => ?_
  simpa using fun same : other = fd => absent (same ▸ member)

theorem update_at (t : Table File) (fd index : Nat) (file : File) (change : File → File) (distinct : t.Distinct)
    (found : t.owned[index]? = some (fd, file)) : (t.update fd change).owned = t.owned.set index (fd, change file) := by
  have once : (t.owned.map Prod.fst).Nodup := (List.nodup_append.mp distinct).1
  refine List.ext_getElem? fun other => ?_
  rw [update, List.getElem?_map, List.getElem?_set]
  split_ifs with same inside
  · subst same
    simp [found]
  · subst same
    simp [List.getElem?_eq_none (Nat.not_lt.mp inside)]
  · cases there : t.owned[other]? with
    | none => rfl
    | some entry =>
        have differs : entry.1 ≠ fd := by
          intro equal
          apply same
          have first : (t.owned.map Prod.fst)[index]? = some fd := by simp [found]
          have second : (t.owned.map Prod.fst)[other]? = some fd := by simp [there, equal]
          exact (List.getElem?_inj (List.getElem?_eq_some_iff.mp first).1 once).mp (first.trans second.symm)
        simp [differs]

end Table

end Descriptors
