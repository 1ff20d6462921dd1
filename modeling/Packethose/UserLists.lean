import Mathlib.Data.List.Induction
import Mathlib.Data.List.Perm.Basic
import Packethose.Lib.Outcomes
import Packethose.Users

set_option autoImplicit false

namespace Packethose

structure ValidUsers (users : List User) : Prop where
  named : ∀ u ∈ users, u.name ≠ ""
  keyed : ∀ u ∈ users, u.publicKey.length = pubKeyLen
  quotas : ∀ u ∈ users, 0 ≤ u.maxConcurrent
  reserved : ∀ u ∈ users, ∀ a ∈ u.reserved, a.isValid = true
  names : users.Pairwise fun u v => u.name ≠ v.name
  keys : users.Pairwise fun u v => u.publicKey ≠ v.publicKey
  apart : users.Pairwise fun u v => ∀ a ∈ u.reserved, a ∉ v.reserved

structure Admissible (seen : List User) (u : User) : Prop where
  named : u.name ≠ ""
  keyed : u.publicKey.length = pubKeyLen
  quota : 0 ≤ u.maxConcurrent
  reserved : ∀ a ∈ u.reserved, a.isValid = true
  name : ∀ v ∈ seen, v.name ≠ u.name
  key : ∀ v ∈ seen, v.publicKey ≠ u.publicKey
  apart : ∀ v ∈ seen, ∀ a ∈ v.reserved, a ∉ u.reserved

def ReservedBy (users : List User) (a : Addr) (name : String) : Prop := ∃ u ∈ users, u.name = name ∧ a ∈ u.reserved

theorem valid_users_concat (users : List User) (u : User) :
    ValidUsers (users ++ [u]) ↔ ValidUsers users ∧ Admissible users u := by
  constructor
  · intro valid
    have listed : ∀ v ∈ users, v ∈ users ++ [u] := fun v member => by simp [member]
    have last : u ∈ users ++ [u] := by simp
    have names := List.pairwise_append.mp valid.names
    have keys := List.pairwise_append.mp valid.keys
    have apart := List.pairwise_append.mp valid.apart
    refine ⟨⟨fun v member => valid.named v (listed v member), fun v member => valid.keyed v (listed v member),
      fun v member => valid.quotas v (listed v member), fun v member => valid.reserved v (listed v member),
      names.1, keys.1, apart.1⟩, ⟨valid.named u last, valid.keyed u last, valid.quotas u last, valid.reserved u last,
      fun v member => names.2.2 v member u (by simp), fun v member => keys.2.2 v member u (by simp),
      fun v member => apart.2.2 v member u (by simp)⟩⟩
  · rintro ⟨valid, admissible⟩
    have each : ∀ {property : User → Prop}, (∀ v ∈ users, property v) → property u → ∀ v ∈ users ++ [u], property v := by
      intro property before here v member
      rcases List.mem_append.mp member with inside | single
      · exact before v inside
      · exact List.mem_singleton.mp single ▸ here
    have pairs : ∀ {relation : User → User → Prop}, users.Pairwise relation → (∀ v ∈ users, relation v u) →
        (users ++ [u]).Pairwise relation := by
      intro relation before here
      refine List.pairwise_append.mpr ⟨before, List.pairwise_singleton _ _, fun v member w single => ?_⟩
      exact List.mem_singleton.mp single ▸ here v member
    exact ⟨each valid.named admissible.named, each valid.keyed admissible.keyed, each valid.quotas admissible.quota,
      each valid.reserved admissible.reserved, pairs valid.names admissible.name, pairs valid.keys admissible.key,
      pairs valid.apart admissible.apart⟩

theorem valid_users_perm (users other : List User) (same : other.Perm users) : ValidUsers other ↔ ValidUsers users := by
  have one : ∀ first second : List User, first.Perm second → ValidUsers second → ValidUsers first := by
    intro first second arranged valid
    refine ⟨fun u member => valid.named u (arranged.mem_iff.mp member), fun u member => valid.keyed u (arranged.mem_iff.mp member),
      fun u member => valid.quotas u (arranged.mem_iff.mp member), fun u member => valid.reserved u (arranged.mem_iff.mp member),
      (arranged.pairwise_iff fun different => Ne.symm different).mpr valid.names,
      (arranged.pairwise_iff fun different => Ne.symm different).mpr valid.keys,
      (arranged.pairwise_iff fun different a mine yours => different a yours mine).mpr valid.apart⟩
  exact ⟨one users other same.symm, one other users same⟩

namespace UserDB

def holder (db : UserDB) (a : Addr) : Option String := if a.is4 then db.resV4.lookup a else db.resV6.lookup a

theorem reserve_in_accepts (table : Table Addr String) (name : String) (r : Addr) :
    (∃ next, reserveIn table name r = .ok next) ↔ ∀ other, table.lookup r = some other → other = name := by
  unfold reserveIn
  cases table.lookup r with
  | none => simp
  | some other => by_cases same : other = name <;> simp [same]

theorem reserve_one_accepts (name : String) (db : UserDB) (r : Addr) :
    (∃ next, reserveOne name db r = .ok next) ↔
      r.isValid = true ∧ ∀ other, db.holder r = some other → other = name := by
  unfold reserveOne holder
  by_cases invalid : r.isValid = false
  · simp [invalid]
  · have mapped : ∀ (table : Except UserError (Table Addr String)) (file : Table Addr String → UserDB),
        (∃ next, table.map file = .ok next) ↔ ∃ filled, table = .ok filled := by
      intro table file
      cases table <;> simp [Except.map]
    rw [if_neg invalid]
    by_cases four : r.is4 = true
    · rw [if_pos four, if_pos four, mapped, reserve_in_accepts]
      simp [invalid]
    · rw [if_neg four, if_neg four, mapped, reserve_in_accepts]
      simp [invalid]

theorem reserve_one_tables (name : String) (db next : UserDB) (r : Addr) (done : reserveOne name db r = .ok next) :
    r.isValid = true ∧
      (∀ a, next.resV4.lookup a = if a = r ∧ a.is4 = true then some name else db.resV4.lookup a) ∧
      ∀ a, next.resV6.lookup a = if a = r ∧ a.is4 = false then some name else db.resV6.lookup a := by
  unfold reserveOne at done
  split_ifs at done with invalid four
  · obtain ⟨table, stored, rfl⟩ := Outcomes.map_ok done
    obtain ⟨_, rfl⟩ := reserve_in_result db.resV4 table name r stored
    refine ⟨by simpa using invalid, fun a => ?_, fun a => ?_⟩
    · rw [Table.lookup_put]
      by_cases same : a = r <;> simp [same, four]
    · by_cases same : a = r <;> simp [same, four]
  · obtain ⟨table, stored, rfl⟩ := Outcomes.map_ok done
    obtain ⟨_, rfl⟩ := reserve_in_result db.resV6 table name r stored
    refine ⟨by simpa using invalid, fun a => ?_, fun a => ?_⟩
    · by_cases same : a = r <;> simp [same, four]
    · rw [Table.lookup_put]
      by_cases same : a = r <;> simp [same, four]

theorem reserve_one_holder (name : String) (db next : UserDB) (r : Addr) (done : reserveOne name db r = .ok next) (a : Addr) :
    next.holder a = if a = r then some name else db.holder a := by
  obtain ⟨_, four, six⟩ := reserve_one_tables name db next r done
  unfold holder
  rw [four, six]
  by_cases same : a = r
  · cases family : a.is4 <;> simp [same]
  · simp [same]

theorem reserve_all_accepts (name : String) (db : UserDB) (rs : List Addr) :
    (∃ next, reserveAll name db rs = .ok next) ↔
      ∀ r ∈ rs, r.isValid = true ∧ ∀ other, db.holder r = some other → other = name := by
  induction rs generalizing db with
  | nil => simp [reserveAll]
  | cons r rest ih =>
      by_cases free : ∃ middle, reserveOne name db r = .ok middle
      · obtain ⟨middle, first⟩ := free
        have here := (reserve_one_accepts name db r).mp ⟨middle, first⟩
        have later : ∀ a other, middle.holder a = some other → other = name ∨ db.holder a = some other := by
          intro a other held
          rw [reserve_one_holder name db middle r first a] at held
          split_ifs at held
          · exact .inl (Option.some.inj held).symm
          · exact .inr held
        rw [reserveAll, first, Except.bind, ih middle, List.forall_mem_cons]
        refine ⟨fun rest => ⟨here, fun a member => ⟨(rest a member).1, fun other held => ?_⟩⟩,
          fun rest a member => ⟨(rest.2 a member).1, fun other held => ?_⟩⟩
        · by_cases same : a = r
          · exact here.2 other (same ▸ held)
          · refine (rest a member).2 other ?_
            rw [reserve_one_holder name db middle r first a, if_neg same, held]
        · exact (later a other held).elim id ((rest.2 a member).2 other)
      · have refused : ¬ ∃ next, reserveAll name db (r :: rest) = .ok next := by
          rintro ⟨next, done⟩
          obtain ⟨middle, first, _⟩ := Outcomes.bind_ok done
          exact free ⟨middle, first⟩
        rw [reserve_one_accepts] at free
        exact iff_of_false refused fun all => free (all r (by simp))

theorem reserve_all_tables (name : String) (db next : UserDB) (rs : List Addr) (done : reserveAll name db rs = .ok next) :
    (∀ a, next.resV4.lookup a = if a ∈ rs ∧ a.is4 = true then some name else db.resV4.lookup a) ∧
      ∀ a, next.resV6.lookup a = if a ∈ rs ∧ a.is4 = false then some name else db.resV6.lookup a := by
  induction rs generalizing db with
  | nil =>
      cases done
      simp
  | cons r rest ih =>
      obtain ⟨middle, first, continued⟩ := Outcomes.bind_ok done
      obtain ⟨_, four, six⟩ := reserve_one_tables name db middle r first
      obtain ⟨later4, later6⟩ := ih middle continued
      constructor
      · intro a
        simp only [later4, four, List.mem_cons]
        grind
      · intro a
        simp only [later6, six, List.mem_cons]
        grind

theorem add_user_accepts (index : Nat) (db : UserDB) (u : User) :
    (∃ next, addUser index db u = .ok next) ↔
      (u.name ≠ "" ∧ u.publicKey.length = pubKeyLen ∧ 0 ≤ u.maxConcurrent) ∧
        (db.byName.lookup u.name = none ∧ db.byKey.lookup u.publicKey = none) ∧
        ∀ r ∈ u.reserved, r.isValid = true ∧ ∀ other, db.holder r = some other → other = u.name := by
  rw [← reserve_all_accepts u.name db u.reserved]
  unfold addUser
  split_ifs with nameless keyless negative known keyed
  · simp [nameless]
  · simp [keyless]
  · simp [negative]
  · simp only [Option.isSome_iff_ne_none, ne_eq] at known
    simp [known]
  · simp only [Option.isSome_iff_ne_none, ne_eq] at keyed
    simp [keyed]
  · have free : db.byName.lookup u.name = none ∧ db.byKey.lookup u.publicKey = none := by simpa using And.intro known keyed
    cases reserveAll u.name db u.reserved with
    | error problem => simp [Except.map]
    | ok reserved => simpa [Except.map, free] using ⟨nameless, not_not.mp keyless, Int.not_lt.mp negative⟩

theorem add_user_tables (index : Nat) (db next : UserDB) (u : User) (done : addUser index db u = .ok next) :
    (∀ a, next.resV4.lookup a = if a ∈ u.reserved ∧ a.is4 = true then some u.name else db.resV4.lookup a) ∧
      ∀ a, next.resV6.lookup a = if a ∈ u.reserved ∧ a.is4 = false then some u.name else db.resV6.lookup a := by
  unfold addUser at done
  split_ifs at done
  obtain ⟨reserved, loop, rfl⟩ := Outcomes.map_ok done
  exact reserve_all_tables u.name db reserved u.reserved loop

theorem add_users_concat (index : Nat) (db : UserDB) (users : List User) (u : User) :
    addUsers index db (users ++ [u]) =
      (addUsers index db users).bind fun next => addUser (index + users.length) next u := by
  induction users generalizing index db with
  | nil =>
      cases added : addUser index db u <;> simp [addUsers, added, Except.bind]
  | cons first rest ih =>
      cases added : addUser index db first with
      | error problem => simp [addUsers, added, Except.bind]
      | ok middle =>
          have shifted : index + (rest.length + 1) = index + 1 + rest.length := by omega
          simp [addUsers, added, Except.bind, ih, shifted]

theorem new_user_db_concat (users : List User) (u : User) :
    newUserDB (users ++ [u]) = (newUserDB users).bind fun db => addUser users.length db u := by
  have split := add_users_concat 0 empty users u
  rwa [Nat.zero_add] at split

structure Reserves (users : List User) (db : UserDB) : Prop where
  v4 : ∀ a name, db.resV4.lookup a = some name ↔ a.is4 = true ∧ ReservedBy users a name
  v6 : ∀ a name, db.resV6.lookup a = some name ↔ a.is6 = true ∧ ReservedBy users a name

theorem reserves_holder (users : List User) (db : UserDB) (reserves : Reserves users db) (a : Addr) (valid : a.isValid = true)
    (name : String) : db.holder a = some name ↔ ReservedBy users a name := by
  unfold holder
  cases a with
  | zero => cases valid
  | v4 bytes => simpa [Addr.is4] using reserves.v4 (.v4 bytes) name
  | v6 bytes zone => simpa [Addr.is4, Addr.is6] using reserves.v6 (.v6 bytes zone) name

theorem reserved_by_concat (users : List User) (u : User) (a : Addr) (name : String) :
    ReservedBy (users ++ [u]) a name ↔ ReservedBy users a name ∨ (u.name = name ∧ a ∈ u.reserved) := by
  simp only [ReservedBy, List.mem_append, List.mem_singleton]
  grind

theorem add_user_reserves (index : Nat) (users : List User) (db next : UserDB) (u : User) (reserves : Reserves users db)
    (done : addUser index db u = .ok next) : Reserves (users ++ [u]) next := by
  have free := ((add_user_accepts index db u).mp ⟨next, done⟩).2.2
  obtain ⟨four, six⟩ := add_user_tables index db next u done
  have own : ∀ a ∈ u.reserved, ∀ name, ReservedBy users a name → u.name = name := fun a member name held =>
    ((free a member).2 name ((reserves_holder users db reserves a (free a member).1 name).mpr held)).symm
  constructor
  · intro a name
    rw [four, reserved_by_concat]
    have before := reserves.v4 a name
    grind
  · intro a name
    rw [six, reserved_by_concat]
    have before := reserves.v6 a name
    have valid : a ∈ u.reserved → a.isValid = true := fun member => (free a member).1
    have family : a.isValid = true → (a.is4 = false ↔ a.is6 = true) := by cases a <;> simp [Addr.isValid, Addr.is4, Addr.is6]
    grind

theorem new_user_db_reserves (users : List User) (db : UserDB) (accepted : newUserDB users = .ok db) : Reserves users db := by
  induction users using List.reverseRecOn generalizing db with
  | nil =>
      cases accepted
      constructor <;> simp [empty, ReservedBy]
  | append_singleton users u ih =>
      rw [new_user_db_concat] at accepted
      obtain ⟨before, earlier, added⟩ := Outcomes.bind_ok accepted
      exact add_user_reserves users.length users before db u (ih before earlier) added

theorem add_user_admissible (users : List User) (db : UserDB) (accepted : newUserDB users = .ok db) (index : Nat) (u : User) :
    (∃ next, addUser index db u = .ok next) ↔ Admissible users u := by
  have reserves := new_user_db_reserves users db accepted
  have fresh : db.byName.lookup u.name = none ↔ ∀ v ∈ users, v.name ≠ u.name := by
    rw [Option.eq_none_iff_forall_ne_some]
    refine ⟨fun absent v member same => absent ⟨v, 0⟩ ((new_user_db_names users db accepted u.name ⟨v, 0⟩).mpr
      ⟨member, same, rfl⟩), fun apart entry found => ?_⟩
    obtain ⟨member, same, _⟩ := (new_user_db_names users db accepted u.name entry).mp found
    exact apart entry.u member same
  have unkeyed : db.byKey.lookup u.publicKey = none ↔ ∀ v ∈ users, v.publicKey ≠ u.publicKey := by
    rw [Option.eq_none_iff_forall_ne_some]
    refine ⟨fun absent v member same => absent v ((new_user_db_keys users db accepted u.publicKey v).mpr ⟨member, same⟩),
      fun apart v found => ?_⟩
    obtain ⟨member, same⟩ := (new_user_db_keys users db accepted u.publicKey v).mp found
    exact apart v member same
  rw [add_user_accepts, fresh, unkeyed]
  constructor
  · rintro ⟨⟨named, keyed, quota⟩, ⟨name, key⟩, free⟩
    refine ⟨named, keyed, quota, fun a member => (free a member).1, name, key, fun v member a held wanted => ?_⟩
    have same := (free a wanted).2 v.name
      ((reserves_holder users db reserves a (free a wanted).1 v.name).mpr ⟨v, member, rfl, held⟩)
    exact name v member same
  · intro admissible
    refine ⟨⟨admissible.named, admissible.keyed, admissible.quota⟩, ⟨admissible.name, admissible.key⟩, fun a wanted => ?_⟩
    refine ⟨admissible.reserved a wanted, fun other held => ?_⟩
    obtain ⟨v, member, _, reserved⟩ :=
      (reserves_holder users db reserves a (admissible.reserved a wanted) other).mp held
    exact absurd wanted (admissible.apart v member a reserved)

theorem new_user_db_accepts (users : List User) : (∃ db, newUserDB users = .ok db) ↔ ValidUsers users := by
  induction users using List.reverseRecOn with
  | nil => exact ⟨fun _ => by constructor <;> simp, fun _ => ⟨empty, rfl⟩⟩
  | append_singleton users u ih =>
      rw [valid_users_concat, ← ih, new_user_db_concat]
      constructor
      · rintro ⟨db, accepted⟩
        obtain ⟨before, earlier, added⟩ := Outcomes.bind_ok accepted
        exact ⟨⟨before, earlier⟩, (add_user_admissible users before earlier users.length u).mp ⟨db, added⟩⟩
      · rintro ⟨⟨before, earlier⟩, admissible⟩
        obtain ⟨db, added⟩ := (add_user_admissible users before earlier users.length u).mpr admissible
        exact ⟨db, by rw [earlier, Except.bind, added]⟩

structure Indexed (users : List User) (db : UserDB) : Prop where
  keys : ∀ key u, db.lookupByKey key = some u ↔ u ∈ users ∧ u.publicKey = key
  owners : ∀ a, ∀ u ∈ users, db.reservationOwner a = u.name ↔ a ∈ u.reserved
  unowned : ∀ a, (∀ u ∈ users, a ∉ u.reserved) → db.reservationOwner a = ""
  reserved4 : ∀ a, a ∈ db.allReservations.1 ↔ a.is4 = true ∧ ∃ u ∈ users, a ∈ u.reserved
  reserved6 : ∀ a, a ∈ db.allReservations.2 ↔ a.is6 = true ∧ ∃ u ∈ users, a ∈ u.reserved
  once : db.allReservations.1.Nodup ∧ db.allReservations.2.Nodup
  entries : ∀ name entry, db.byName.lookup name = some entry ↔ entry.u ∈ users ∧ entry.u.name = name ∧ entry.active = 0

structure SameAnswers (db other : UserDB) : Prop where
  keys : ∀ key, db.lookupByKey key = other.lookupByKey key
  owners : ∀ a, db.reservationOwner a = other.reservationOwner a
  lists : ∀ name, db.reservedFor name = other.reservedFor name
  reservations : db.allReservations.1.Perm other.allReservations.1 ∧ db.allReservations.2.Perm other.allReservations.2
  entries : ∀ name, db.byName.lookup name = other.byName.lookup name

theorem reserves_listed (users : List User) (a : Addr) : (∃ name, ReservedBy users a name) ↔ ∃ u ∈ users, a ∈ u.reserved := by
  simp only [ReservedBy]
  grind

theorem owner_holder (db : UserDB) (a : Addr) (valid : a.isValid = true) : db.reservationOwner a = (db.holder a).getD "" := by
  unfold reservationOwner holder
  rw [if_neg (by simp [valid])]
  split_ifs <;> rfl

theorem new_user_db_owners (users : List User) (db : UserDB) (accepted : newUserDB users = .ok db) (a : Addr) (u : User)
    (member : u ∈ users) : db.reservationOwner a = u.name ↔ a ∈ u.reserved := by
  have valid := (new_user_db_accepts users).mp ⟨db, accepted⟩
  have reserves := new_user_db_reserves users db accepted
  constructor
  · intro owned
    by_cases invalid : a.isValid = false
    · rw [reservationOwner, if_pos invalid] at owned
      exact absurd owned.symm (valid.named u member)
    · have proper : a.isValid = true := by simpa using invalid
      rw [owner_holder db a proper] at owned
      cases held : db.holder a with
      | none =>
          rw [held] at owned
          exact absurd owned.symm (valid.named u member)
      | some name =>
          rw [held] at owned
          obtain ⟨v, listed, named, wanted⟩ := (reserves_holder users db reserves a proper name).mp held
          have first := (new_user_db_names users db accepted u.name ⟨v, 0⟩).mpr ⟨listed, named.trans owned, rfl⟩
          have second := (new_user_db_names users db accepted u.name ⟨u, 0⟩).mpr ⟨member, rfl, rfl⟩
          obtain rfl : v = u := congrArg UserEntry.u (Option.some.inj (first.symm.trans second))
          exact wanted
  · intro wanted
    have proper := valid.reserved u member a wanted
    rw [owner_holder db a proper, (reserves_holder users db reserves a proper u.name).mpr ⟨u, member, rfl, wanted⟩]
    rfl

theorem new_user_db_indexed (users : List User) (db : UserDB) (accepted : newUserDB users = .ok db) : Indexed users db := by
  have reserves := new_user_db_reserves users db accepted
  have listed : ∀ (table : Table Addr String) (family : Addr → Bool),
      (∀ a name, table.lookup a = some name ↔ family a = true ∧ ReservedBy users a name) →
        ∀ a, a ∈ table.keys ↔ family a = true ∧ ∃ u ∈ users, a ∈ u.reserved := by
    intro table family filed a
    rw [← AList.mem_keys, ← AList.lookup_isSome, Option.isSome_iff_exists, ← reserves_listed]
    simp only [filed, exists_and_left]
  exact
    { keys := new_user_db_keys users db accepted
      owners := new_user_db_owners users db accepted
      unowned := unreserved_owner users db accepted
      reserved4 := listed db.resV4 Addr.is4 reserves.v4
      reserved6 := listed db.resV6 Addr.is6 reserves.v6
      once := ⟨db.resV4.keys_nodup, db.resV6.keys_nodup⟩
      entries := new_user_db_names users db accepted }

theorem indexed_same (users arranged : List User) (db other : UserDB) (same : arranged.Perm users) (indexed : Indexed users db)
    (rearranged : Indexed arranged other) : SameAnswers db other := by
  have member : ∀ u, u ∈ arranged ↔ u ∈ users := fun u => same.mem_iff
  have entries : ∀ name, db.byName.lookup name = other.byName.lookup name := by
    intro name
    apply Option.ext
    intro entry
    rw [indexed.entries, rearranged.entries, member]
  refine ⟨fun key => ?_, fun a => ?_, fun name => ?_, ⟨?_, ?_⟩, entries⟩
  · apply Option.ext
    intro u
    rw [indexed.keys, rearranged.keys, member]
  · by_cases reserved : ∃ u ∈ users, a ∈ u.reserved
    · obtain ⟨u, listed, wanted⟩ := reserved
      rw [(indexed.owners a u listed).mpr wanted, (rearranged.owners a u ((member u).mpr listed)).mpr wanted]
    · have nobody : ∀ u ∈ users, a ∉ u.reserved := fun u listed wanted => reserved ⟨u, listed, wanted⟩
      rw [indexed.unowned a nobody, rearranged.unowned a fun u listed => nobody u ((member u).mp listed)]
  · rw [reservedFor, reservedFor, entries name]
  · rw [List.perm_ext_iff_of_nodup indexed.once.1 rearranged.once.1]
    intro a
    rw [indexed.reserved4, rearranged.reserved4]
    simp only [member]
  · rw [List.perm_ext_iff_of_nodup indexed.once.2 rearranged.once.2]
    intro a
    rw [indexed.reserved6, rearranged.reserved6]
    simp only [member]

theorem new_user_db_exact (users : List User) :
    ((∃ db, newUserDB users = .ok db) ↔ ValidUsers users) ∧
    (∀ db, newUserDB users = .ok db → Indexed users db) ∧
    ∀ arranged, arranged.Perm users →
      ((∃ other, newUserDB arranged = .ok other) ↔ ∃ db, newUserDB users = .ok db) ∧
        ∀ db other, newUserDB users = .ok db → newUserDB arranged = .ok other → SameAnswers db other := by
  refine ⟨new_user_db_accepts users, new_user_db_indexed users, fun arranged same => ⟨?_, fun db other accepted again => ?_⟩⟩
  · rw [new_user_db_accepts, new_user_db_accepts, valid_users_perm users arranged same]
  · exact indexed_same users arranged db other same (new_user_db_indexed users db accepted)
      (new_user_db_indexed arranged other again)

end UserDB

end Packethose
