import Packethose.Lib.Outcomes
import Packethose.Lib.Tables
import Packethose.Netip

set_option autoImplicit false

namespace Packethose

def pubKeyLen : Nat := 32

structure User where
  name : String
  publicKey : Bytes
  maxConcurrent : Int
  reserved : List Addr
deriving DecidableEq, Repr

structure UserEntry where
  u : User
  active : Nat
deriving DecidableEq, Repr

-- Both Go maps of the database point at one shared entry. Slots are counted
-- through byName only and a stored User is never modified, so byKey keeps the
-- User itself.
structure UserDB where
  byKey : Table Bytes User
  byName : Table String UserEntry
  resV4 : Table Addr String
  resV6 : Table Addr String

inductive UserError where
  | nameRequired (index : Nat)
  | keyLength (name : String)
  | negativeQuota (name : String)
  | duplicateName (name : String)
  | duplicateKey (name : String)
  | invalidReserved (name : String)
  | conflict (addr : Addr) (other name : String)
deriving DecidableEq, Repr

inductive SlotError where
  | unknownUser
  | quotaExceeded
deriving DecidableEq, Repr

namespace UserDB

def empty : UserDB := ⟨∅, ∅, ∅, ∅⟩

def reserveIn (table : Table Addr String) (name : String) (r : Addr) : Except UserError (Table Addr String) :=
  match table.lookup r with
  | some other => if other ≠ name then .error (.conflict r other name) else .ok (table.insert r name)
  | none => .ok (table.insert r name)

def reserveOne (name : String) (db : UserDB) (r : Addr) : Except UserError UserDB :=
  if r.isValid = false then .error (.invalidReserved name)
  else if r.is4 then (reserveIn db.resV4 name r).map fun table => { db with resV4 := table }
  else (reserveIn db.resV6 name r).map fun table => { db with resV6 := table }

def reserveAll (name : String) : UserDB → List Addr → Except UserError UserDB
  | db, [] => .ok db
  | db, r :: rest => (reserveOne name db r).bind fun next => reserveAll name next rest

def addUser (index : Nat) (db : UserDB) (u : User) : Except UserError UserDB :=
  if u.name = "" then .error (.nameRequired index)
  else if u.publicKey.length ≠ pubKeyLen then .error (.keyLength u.name)
  else if u.maxConcurrent < 0 then .error (.negativeQuota u.name)
  else if (db.byName.lookup u.name).isSome then .error (.duplicateName u.name)
  else if (db.byKey.lookup u.publicKey).isSome then .error (.duplicateKey u.name)
  else (reserveAll u.name db u.reserved).map fun reserved =>
    { reserved with
      byKey := reserved.byKey.insert u.publicKey u
      byName := reserved.byName.insert u.name ⟨u, 0⟩ }

def addUsers : Nat → UserDB → List User → Except UserError UserDB
  | _, db, [] => .ok db
  | index, db, u :: rest => (addUser index db u).bind fun next => addUsers (index + 1) next rest

def newUserDB (users : List User) : Except UserError UserDB := addUsers 0 empty users

def isEmpty (db : UserDB) : Bool := db.byKey.entries.isEmpty

def lookupByKey (db : UserDB) (pub : Bytes) : Option User := db.byKey.lookup pub

def acquireSlot (db : UserDB) (name : String) : Except SlotError UserDB :=
  match db.byName.lookup name with
  | none => .error .unknownUser
  | some entry =>
      if entry.u.maxConcurrent > 0 ∧ (entry.active : Int) ≥ entry.u.maxConcurrent then .error .quotaExceeded
      else .ok { db with byName := db.byName.insert name { entry with active := entry.active + 1 } }

def releaseSlot (db : UserDB) (name : String) : UserDB :=
  match db.byName.lookup name with
  | none => db
  | some entry =>
      if entry.active > 0 then { db with byName := db.byName.insert name { entry with active := entry.active - 1 } }
      else db

def reservationOwner (db : UserDB) (a : Addr) : String :=
  if a.isValid = false then ""
  else if a.is4 then (db.resV4.lookup a).getD ""
  else (db.resV6.lookup a).getD ""

def reservedFor (db : UserDB) (name : String) : List Addr :=
  match db.byName.lookup name with
  | some entry => entry.u.reserved
  | none => []

-- Map iteration order is unspecified; only membership in the lists is used.
def allReservations (db : UserDB) : List Addr × List Addr := (db.resV4.keys, db.resV6.keys)

structure Consistent (db : UserDB) : Prop where
  named : ∀ name entry, db.byName.lookup name = some entry → entry.u.name = name ∧ name ≠ ""
  owned : ∀ name entry, db.byName.lookup name = some entry → ∀ r ∈ entry.u.reserved, db.reservationOwner r = name

theorem empty_consistent : Consistent empty := by
  constructor <;> intro name entry found <;> simp [empty] at found

theorem reserve_in_result (table next : Table Addr String) (name : String) (r : Addr)
    (done : reserveIn table name r = .ok next) :
    ((table.lookup r).getD "" = "" ∨ (table.lookup r).getD "" = name) ∧ next = table.insert r name := by
  unfold reserveIn at done
  cases stored : table.lookup r with
  | none =>
      rw [stored] at done
      cases done
      exact ⟨.inl rfl, rfl⟩
  | some other =>
      rw [stored] at done
      by_cases same : other = name
      · simp only [same, ne_eq, not_true_eq_false, if_false, Except.ok.injEq] at done
        exact ⟨.inr same, done.symm⟩
      · simp [same] at done

theorem reserve_one_result (name : String) (db next : UserDB) (r : Addr) (done : reserveOne name db r = .ok next) :
    (db.reservationOwner r = "" ∨ db.reservationOwner r = name) ∧
      (∀ a, next.reservationOwner a = if a = r then name else db.reservationOwner a) ∧
      next.byName = db.byName ∧ next.byKey = db.byKey := by
  unfold reserveOne at done
  split_ifs at done with invalid family
  · obtain ⟨table, stored, rfl⟩ := Outcomes.map_ok done
    obtain ⟨free, rfl⟩ := reserve_in_result db.resV4 table name r stored
    refine ⟨by simpa [reservationOwner, invalid, family] using free, fun a => ?_, rfl, rfl⟩
    simp only [reservationOwner, Table.lookup_put]
    by_cases same : a = r <;> simp [same, invalid, family]
  · obtain ⟨table, stored, rfl⟩ := Outcomes.map_ok done
    obtain ⟨free, rfl⟩ := reserve_in_result db.resV6 table name r stored
    refine ⟨by simpa [reservationOwner, invalid, family] using free, fun a => ?_, rfl, rfl⟩
    simp only [reservationOwner, Table.lookup_put]
    by_cases same : a = r <;> simp [same, invalid, family]

theorem reserve_all_result (name : String) (db next : UserDB) (rs : List Addr)
    (done : reserveAll name db rs = .ok next) :
    (∀ a, next.reservationOwner a = if a ∈ rs then name else db.reservationOwner a) ∧
      (∀ a ∈ rs, db.reservationOwner a = "" ∨ db.reservationOwner a = name) ∧
      next.byName = db.byName ∧ next.byKey = db.byKey := by
  induction rs generalizing db with
  | nil =>
      cases done
      simp
  | cons r rest ih =>
      obtain ⟨middle, first, continued⟩ := Outcomes.bind_ok done
      obtain ⟨free, owner, names, keys⟩ := reserve_one_result name db middle r first
      obtain ⟨later, laterFree, laterNames, laterKeys⟩ := ih middle continued
      refine ⟨fun a => ?_, fun a member => ?_, laterNames.trans names, laterKeys.trans keys⟩
      · rw [later a, owner a]
        by_cases same : a = r <;> by_cases inside : a ∈ rest <;> simp [same, inside]
      · rcases List.mem_cons.mp member with same | inside
        · exact same ▸ free
        · have known := laterFree a inside
          rw [owner a] at known
          by_cases same : a = r
          · exact same ▸ free
          · simpa only [if_neg same] using known

theorem add_user_result (index : Nat) (db next : UserDB) (u : User) (done : addUser index db u = .ok next) :
    u.name ≠ "" ∧ db.byName.lookup u.name = none ∧
      (∀ a, next.reservationOwner a = if a ∈ u.reserved then u.name else db.reservationOwner a) ∧
      (∀ a ∈ u.reserved, db.reservationOwner a = "" ∨ db.reservationOwner a = u.name) ∧
      next.byName = db.byName.insert u.name ⟨u, 0⟩ ∧
      db.byKey.lookup u.publicKey = none ∧ next.byKey = db.byKey.insert u.publicKey u := by
  unfold addUser at done
  split_ifs at done with nameless keyless negative known keyed
  obtain ⟨reserved, loop, rfl⟩ := Outcomes.map_ok done
  obtain ⟨owner, free, names, keys⟩ := reserve_all_result u.name db reserved u.reserved loop
  exact ⟨nameless, by simpa using known, owner, free, by simp only [names], by simpa using keyed, by simp only [keys]⟩

theorem add_user_consistent (index : Nat) (db next : UserDB) (u : User) (good : Consistent db)
    (done : addUser index db u = .ok next) : Consistent next := by
  obtain ⟨nonempty, unknown, owner, free, names, _⟩ := add_user_result index db next u done
  constructor
  · intro name entry found
    rw [names, Table.lookup_put] at found
    by_cases same : name = u.name
    · rw [if_pos same] at found
      cases found
      exact ⟨same.symm, same ▸ nonempty⟩
    · rw [if_neg same] at found
      exact good.named name entry found
  · intro name entry found r member
    rw [names, Table.lookup_put] at found
    rw [owner r]
    by_cases same : name = u.name
    · rw [if_pos same] at found
      cases found
      rw [if_pos member, same]
    · rw [if_neg same] at found
      have held := good.owned name entry found r member
      by_cases taken : r ∈ u.reserved
      · rcases free r taken with none | own
        · exact absurd (held.symm.trans none) (good.named name entry found).2
        · exact absurd (held.symm.trans own) same
      · rw [if_neg taken, held]

theorem add_users_consistent (index : Nat) (db next : UserDB) (users : List User) (good : Consistent db)
    (done : addUsers index db users = .ok next) : Consistent next := by
  induction users generalizing index db with
  | nil =>
      cases done
      exact good
  | cons u rest ih =>
      obtain ⟨middle, first, continued⟩ := Outcomes.bind_ok done
      exact ih (index + 1) middle (add_user_consistent index db middle u good first) continued

theorem new_user_db_consistent (users : List User) (db : UserDB) (accepted : newUserDB users = .ok db) :
    Consistent db :=
  add_users_consistent 0 empty db users empty_consistent accepted

theorem add_users_source (index : Nat) (db next : UserDB) (users : List User) (done : addUsers index db users = .ok next) :
    (∀ a, next.reservationOwner a = db.reservationOwner a ∨ ∃ u ∈ users, a ∈ u.reserved) ∧
      (∀ name entry, next.byName.lookup name = some entry → db.byName.lookup name = some entry ∨ entry.u ∈ users) := by
  induction users generalizing index db with
  | nil =>
      cases done
      exact ⟨fun a => .inl rfl, fun name entry found => .inl found⟩
  | cons u rest ih =>
      obtain ⟨middle, first, continued⟩ := Outcomes.bind_ok done
      obtain ⟨_, _, owner, _, names, _⟩ := add_user_result index db middle u first
      obtain ⟨owners, listed⟩ := ih (index + 1) middle continued
      constructor
      · intro a
        rcases owners a with same | ⟨other, member, reserves⟩
        · rw [same, owner a]
          by_cases reserves : a ∈ u.reserved
          · exact .inr ⟨u, by simp, reserves⟩
          · exact .inl (if_neg reserves)
        · exact .inr ⟨other, by simp [member], reserves⟩
      · intro name entry found
        rcases listed name entry found with before | member
        · rw [names, Table.lookup_put] at before
          by_cases same : name = u.name
          · rw [if_pos same] at before
            cases before
            exact .inr (by simp)
          · rw [if_neg same] at before
            exact .inl before
        · exact .inr (by simp [member])

theorem unreserved_owner (users : List User) (db : UserDB) (accepted : newUserDB users = .ok db) (a : Addr)
    (unreserved : ∀ u ∈ users, a ∉ u.reserved) : db.reservationOwner a = "" := by
  rcases (add_users_source 0 empty db users accepted).1 a with same | ⟨u, member, reserves⟩
  · rw [same]
    simp [reservationOwner, empty]
  · exact absurd reserves (unreserved u member)

theorem unreserved_for (users : List User) (db : UserDB) (accepted : newUserDB users = .ok db) (a : Addr)
    (unreserved : ∀ u ∈ users, a ∉ u.reserved) (name : String) : a ∉ db.reservedFor name := by
  unfold reservedFor
  cases found : db.byName.lookup name with
  | none => simp
  | some entry =>
      rcases (add_users_source 0 empty db users accepted).2 name entry found with before | member
      · simp [empty] at before
      · exact unreserved entry.u member

theorem acquire_slot_result (db next : UserDB) (name : String) (taken : db.acquireSlot name = .ok next) :
    ∃ entry, db.byName.lookup name = some entry ∧ ¬ (entry.u.maxConcurrent > 0 ∧ (entry.active : Int) ≥ entry.u.maxConcurrent) ∧
      next.byKey = db.byKey ∧
      ∀ other, next.byName.lookup other =
        if other = name then some { entry with active := entry.active + 1 } else db.byName.lookup other := by
  unfold acquireSlot at taken
  cases found : db.byName.lookup name with
  | none =>
      rw [found] at taken
      cases taken
  | some entry =>
      rw [found] at taken
      dsimp only at taken
      split_ifs at taken with full
      cases taken
      exact ⟨entry, rfl, full, rfl, fun other => Table.lookup_put _ _ _ _⟩

-- At zero ReleaseSlot leaves the entry alone, which is what subtraction of
-- naturals does.
theorem release_slot_result (db : UserDB) (name other : String) :
    (db.releaseSlot name).byName.lookup other =
      (db.byName.lookup other).map fun entry => if other = name then { entry with active := entry.active - 1 } else entry := by
  unfold releaseSlot
  by_cases same : other = name
  · subst same
    cases found : db.byName.lookup other with
    | none => simp [found]
    | some entry =>
        cases entry with
        | mk u active =>
            cases active with
            | zero => simp [found]
            | succ active => simp
  · simp only [if_neg same, Option.map_id']
    cases found : db.byName.lookup name with
    | none => rfl
    | some entry =>
        dsimp only
        split_ifs
        · rw [Table.lookup_put, if_neg same]
        · rfl

theorem release_slot_keys (db : UserDB) (name : String) : (db.releaseSlot name).byKey = db.byKey := by
  unfold releaseSlot
  cases db.byName.lookup name with
  | none => rfl
  | some entry =>
      dsimp only
      split_ifs <;> rfl

theorem add_users_index (index : Nat) (db next : UserDB) (users : List User) (done : addUsers index db users = .ok next) :
    (∀ key u, next.byKey.lookup key = some u ↔ db.byKey.lookup key = some u ∨ (u ∈ users ∧ u.publicKey = key)) ∧
      (∀ name entry, next.byName.lookup name = some entry ↔
        db.byName.lookup name = some entry ∨ (entry.u ∈ users ∧ entry.u.name = name ∧ entry.active = 0)) := by
  induction users generalizing index db with
  | nil =>
      cases done
      simp
  | cons u rest ih =>
      obtain ⟨middle, first, continued⟩ := Outcomes.bind_ok done
      obtain ⟨_, unknown, _, _, names, unkeyed, keys⟩ := add_user_result index db middle u first
      obtain ⟨byKey, byName⟩ := ih (index + 1) middle continued
      constructor
      · intro key other
        rw [byKey, keys, Table.lookup_put]
        by_cases same : key = u.publicKey
        · subst same
          simp only [if_true, unkeyed, Option.some.injEq, reduceCtorEq, false_or, List.mem_cons]
          grind
        · rw [if_neg same, List.mem_cons]
          grind
      · intro name entry
        rw [byName, names, Table.lookup_put]
        by_cases same : name = u.name
        · subst same
          simp only [if_true, unknown, Option.some.injEq, reduceCtorEq, false_or, List.mem_cons]
          cases entry
          grind
        · rw [if_neg same, List.mem_cons]
          grind

theorem new_user_db_keys (users : List User) (db : UserDB) (accepted : newUserDB users = .ok db) (key : Bytes) (u : User) :
    db.lookupByKey key = some u ↔ u ∈ users ∧ u.publicKey = key := by
  have listed := (add_users_index 0 empty db users accepted).1 key u
  simpa [empty, lookupByKey] using listed

theorem new_user_db_names (users : List User) (db : UserDB) (accepted : newUserDB users = .ok db) (name : String)
    (entry : UserEntry) :
    db.byName.lookup name = some entry ↔ entry.u ∈ users ∧ entry.u.name = name ∧ entry.active = 0 := by
  have listed := (add_users_index 0 empty db users accepted).2 name entry
  simpa [empty] using listed

theorem new_user_db_empty (users : List User) (db : UserDB) (accepted : newUserDB users = .ok db) :
    db.isEmpty = true ↔ users = [] := by
  cases users with
  | nil =>
      cases accepted
      simp [isEmpty, empty]
  | cons u rest =>
      have keyed := (new_user_db_keys (u :: rest) db accepted u.publicKey u).mpr ⟨by simp, rfl⟩
      have listed := AList.mem_lookup_iff.mp keyed
      simpa [isEmpty] using List.ne_nil_of_mem listed

end UserDB

end Packethose
