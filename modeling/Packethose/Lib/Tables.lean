import Mathlib.Data.List.AList

set_option autoImplicit false

-- Finite maps as the standard association lists without duplicate keys. A
-- table is observed only through lookup and through its rows; the order of
-- the rows stands for whatever order an iteration happens to take.
abbrev Table (K V : Type) := AList (fun _ : K => V)

namespace Table

variable {K V : Type} [DecidableEq K]

theorem lookup_put (table : Table K V) (key query : K) (value : V) :
    (table.insert key value).lookup query = if query = key then some value else table.lookup query := by
  by_cases same : query = key
  · rw [if_pos same, same]
    exact AList.lookup_insert table
  · rw [if_neg same]
    exact AList.lookup_insert_ne same

theorem lookup_drop (table : Table K V) (key query : K) :
    (table.erase key).lookup query = if query = key then none else table.lookup query := by
  by_cases same : query = key
  · rw [if_pos same, same]
    exact AList.lookup_erase key table
  · rw [if_neg same]
    exact AList.lookup_erase_ne same

theorem drop_put (table : Table K V) (key : K) (value : V) (absent : table.lookup key = none) :
    (table.insert key value).erase key = table := by
  have missing : key ∉ table := AList.lookup_eq_none.mp absent
  apply AList.ext
  rw [AList.insert_of_notMem missing]
  exact List.kerase_cons_eq rfl

def flag (table : Table K Bool) (key : K) : Bool := (table.lookup key).getD false

theorem flag_empty (key : K) : flag (∅ : Table K Bool) key = false := rfl

theorem flag_put (table : Table K Bool) (key query : K) :
    flag (table.insert key true) query = true ↔ query = key ∨ flag table query = true := by
  unfold flag
  rw [lookup_put]
  by_cases same : query = key <;> simp [same]

theorem flag_drop (table : Table K Bool) (key query : K) :
    flag (table.erase key) query = true ↔ query ≠ key ∧ flag table query = true := by
  unfold flag
  rw [lookup_drop]
  by_cases same : query = key <;> simp [same]

def rows (table : Table K V) : List (K × V) := table.entries.map fun entry => (entry.1, entry.2)

theorem mem_rows (table : Table K V) (key : K) (value : V) :
    (key, value) ∈ rows table ↔ table.lookup key = some value := by
  rw [← Option.mem_def, AList.mem_lookup_iff]
  simp only [rows, List.mem_map, Prod.mk.injEq]
  constructor
  · rintro ⟨entry, member, rfl, rfl⟩
    exact member
  · intro member
    exact ⟨⟨key, value⟩, member, rfl, rfl⟩

omit [DecidableEq K] in
theorem rows_nodup (table : Table K V) : (rows table).Nodup := by
  apply List.Nodup.map _ table.nodupKeys.nodup
  intro first second same
  cases first
  cases second
  simpa using same

def dropAll (table : Table K V) (keys : List K) : Table K V := keys.foldl (fun remaining key => remaining.erase key) table

theorem lookup_drop_all (table : Table K V) (keys : List K) (query : K) :
    (dropAll table keys).lookup query = if query ∈ keys then none else table.lookup query := by
  unfold dropAll
  induction keys generalizing table with
  | nil => simp
  | cons key rest ih =>
      rw [List.foldl_cons, ih, lookup_drop]
      by_cases later : query ∈ rest
      · simp [later]
      · by_cases same : query = key <;> simp [later, same]

def size (table : Table K V) : Nat := table.entries.length

theorem size_drop (table : Table K V) (key : K) (value : V) (present : table.lookup key = some value) :
    size (table.erase key) + 1 = size table := by
  have member : (⟨key, value⟩ : Sigma fun _ : K => V) ∈ table.entries := AList.mem_lookup_iff.mp present
  have shorter : (table.erase key).entries.length = table.entries.length - 1 :=
    List.length_eraseP_of_mem member (decide_eq_true rfl)
  have positive : 0 < table.entries.length := List.length_pos_of_mem member
  unfold size
  omega

theorem size_drop_le (table : Table K V) (key : K) : size (table.erase key) ≤ size table :=
  (List.eraseP_sublist ..).length_le

theorem size_drop_all_le (table : Table K V) (keys : List K) : size (dropAll table keys) ≤ size table := by
  unfold dropAll
  induction keys generalizing table with
  | nil => exact Nat.le_refl _
  | cons key rest ih => exact Nat.le_trans (ih (table.erase key)) (size_drop_le table key)

theorem size_put_absent (table : Table K V) (key : K) (value : V) (absent : table.lookup key = none) :
    size (table.insert key value) = size table + 1 := by
  unfold size
  rw [AList.insert_of_notMem (AList.lookup_eq_none.mp absent)]
  rfl

theorem size_put_present (table : Table K V) (key : K) (value old : V) (present : table.lookup key = some old) :
    size (table.insert key value) = size table := by
  have shrunk := size_drop table key old present
  unfold size at *
  exact shrunk

def merge {W : Type} (place : K → Option V → W → V) (table : Table K V) (pairs : List (K × W)) : Table K V :=
  pairs.foldl (fun current pair => current.insert pair.1 (place pair.1 (current.lookup pair.1) pair.2)) table

theorem lookup_merge_unlisted {W : Type} (place : K → Option V → W → V) (table : Table K V) (pairs : List (K × W)) (query : K)
    (unlisted : query ∉ pairs.map Prod.fst) : (merge place table pairs).lookup query = table.lookup query := by
  induction pairs generalizing table with
  | nil => rfl
  | cons pair rest ih =>
      rw [List.map_cons, List.mem_cons, not_or] at unlisted
      have later := ih (table.insert pair.1 (place pair.1 (table.lookup pair.1) pair.2)) unlisted.2
      rw [lookup_put, if_neg unlisted.1] at later
      exact later

theorem lookup_merge_listed {W : Type} (place : K → Option V → W → V) (table : Table K V) (pairs : List (K × W)) (query : K) (value : W)
    (once : (pairs.map Prod.fst).Nodup) (listed : (query, value) ∈ pairs) :
    (merge place table pairs).lookup query = some (place query (table.lookup query) value) := by
  induction pairs generalizing table with
  | nil => cases listed
  | cons pair rest ih =>
      rw [List.map_cons, List.nodup_cons] at once
      rcases List.mem_cons.mp listed with here | later
      · subst here
        have kept := lookup_merge_unlisted place (table.insert query (place query (table.lookup query) value)) rest query once.1
        rw [lookup_put, if_pos rfl] at kept
        exact kept
      · have different : query ≠ pair.1 := by
          rintro rfl
          exact once.1 (List.mem_map.mpr ⟨_, later, rfl⟩)
        have placed := ih (table.insert pair.1 (place pair.1 (table.lookup pair.1) pair.2)) once.2 later
        rw [lookup_put, if_neg different] at placed
        exact placed

theorem lookup_merge {W : Type} (place : K → Option V → W → V) (table : Table K V) (pairs : List (K × W)) (source : Table K W)
    (listed : ∀ key value, (key, value) ∈ pairs ↔ source.lookup key = some value) (once : (pairs.map Prod.fst).Nodup) (query : K) :
    (merge place table pairs).lookup query =
      ((source.lookup query).map (place query (table.lookup query))).or (table.lookup query) := by
  cases found : source.lookup query with
  | some value =>
      rw [lookup_merge_listed place table pairs query value once ((listed query value).mpr found)]
      rfl
  | none =>
      rw [lookup_merge_unlisted place table pairs query]
      · rfl
      · intro member
        obtain ⟨pair, inPairs, rfl⟩ := List.mem_map.mp member
        have present := (listed pair.1 pair.2).mp inPairs
        rw [found] at present
        cases present

omit [DecidableEq K] in
theorem rows_keys_nodup (table : Table K V) : ((rows table).map Prod.fst).Nodup := by
  have keys : (rows table).map Prod.fst = table.keys := by simp [rows, AList.keys, List.keys]
  rw [keys]
  exact table.nodupKeys

theorem perm_rows (table : Table K V) (pairs : List (K × V)) (once : pairs.Nodup)
    (listed : ∀ key value, (key, value) ∈ pairs ↔ table.lookup key = some value) : pairs.Perm (rows table) := by
  rw [List.perm_ext_iff_of_nodup once (rows_nodup table)]
  rintro ⟨key, value⟩
  rw [listed, mem_rows]

theorem rows_put_absent (table : Table K V) (key : K) (value : V) (absent : table.lookup key = none) :
    ((key, value) :: rows table).Perm (rows (table.insert key value)) := by
  refine perm_rows _ _ (List.nodup_cons.mpr ⟨?_, rows_nodup table⟩) fun query other => ?_
  · rw [mem_rows, absent]
    exact Option.some_ne_none value ∘ Eq.symm
  · rw [List.mem_cons, mem_rows, lookup_put, Prod.mk.injEq]
    by_cases same : query = key
    · subst same
      simp [absent, eq_comm]
    · simp [same]

end Table
