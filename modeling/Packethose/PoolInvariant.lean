import Packethose.Lib.Ledger
import Packethose.Lib.Runs
import Packethose.PoolDerive

set_option autoImplicit false

namespace Packethose

namespace IPPool

structure Grantable (p : IPPool) (a : Addr) : Prop where
  unused : p.used.flag a = false
  inside : p.subnet.contains a = true

theorem inside_family (p : IPPool) (a : Addr) (inside : p.subnet.contains a = true) : p.familyMatch a = true := by
  obtain ⟨valid, four, six⟩ := Prefix.contains_family p.subnet a inside
  obtain ⟨subnet, reserved, isV4, used, byClient, shape⟩ := p
  cases shape with
  | v4 net bits large =>
      rw [familyMatch, if_neg (by simp [valid]), if_pos rfl, four]
      rfl
  | v6 net bits large =>
      rw [familyMatch, if_neg (by simp [valid]), if_neg (by simp), six]
      rfl

theorem walk_found (p : IPPool) (fuel : Nat) (bytes : Vector UInt8 4) (a : Addr)
    (found : p.walk fuel bytes = some (.ok a)) : p.Grantable a ∧ p.reserved.flag a = false := by
  induction fuel generalizing bytes with
  | zero => cases found
  | succ n ih =>
      rw [walk] at found
      by_cases inside : p.subnet.contains (.addrFrom4 bytes) = true
      · rw [if_pos inside] at found
        by_cases taken : (p.reserved.flag (.addrFrom4 bytes) || p.used.flag (.addrFrom4 bytes)) = true
        · rw [if_pos taken] at found
          exact ih (nextAddr bytes) found
        · rw [if_neg taken] at found
          cases found
          simp only [Bool.or_eq_true, not_or, Bool.not_eq_true] at taken
          exact ⟨⟨taken.2, inside⟩, taken.1⟩
      · rw [if_neg inside] at found
        cases found

theorem v6_rounds_found (sha256 : Digest) (p : IPPool) (clientID : ClientID) (rounds : List UInt8) (a : Addr)
    (six : p.isV4 = false) (found : p.v6Rounds sha256 clientID rounds = some (.ok a)) :
    p.Grantable a ∧ p.reserved.flag a = false := by
  induction rounds with
  | nil => cases found
  | cons round rest ih =>
      obtain ⟨candidate, derived, decided⟩ := Option.bind_eq_some_iff.mp found
      by_cases taken : (p.reserved.flag candidate || p.used.flag candidate) = true
      · rw [if_pos taken] at decided
        exact ih decided
      · rw [if_neg taken] at decided
        cases decided
        simp only [Bool.or_eq_true, not_or, Bool.not_eq_true] at taken
        obtain ⟨subnet, reserved, isV4, used, byClient, shape⟩ := p
        cases shape with
        | v4 net bits large => cases six
        | v6 net bits large =>
            exact ⟨⟨taken.2, v6_from_client_id_inside sha256 net bits large clientID round _ derived⟩, taken.1⟩

theorem general_found (sha256 : Digest) (p : IPPool) (clientID : ClientID) (a : Addr)
    (found : p.general sha256 clientID = some (.ok a)) : p.Grantable a ∧ p.reserved.flag a = false := by
  unfold general at found
  by_cases four : p.isV4 = true
  · rw [if_pos four] at found
    obtain ⟨net, _, walked⟩ := Option.bind_eq_some_iff.mp found
    exact walk_found p _ _ a walked
  · rw [if_neg four] at found
    exact v6_rounds_found sha256 p clientID _ a (Bool.not_eq_true _ ▸ four) found

theorem choose_origin (sha256 : Digest) (p : IPPool) (userName : String) (clientID : ClientID) (preferred : Addr)
    (db : Option UserDB) (a : Addr) (chosen : p.choose sha256 userName clientID preferred db = some (.ok a)) :
    p.Grantable a ∧
      ((a = preferred ∧ p.preferredGranted userName a db = true) ∨
        (∃ users, db = some users ∧ userName ≠ "" ∧ a ∈ users.reservedFor userName) ∨ p.reserved.flag a = false) := by
  unfold choose at chosen
  by_cases granted : p.preferredGranted userName preferred db = true
  · rw [if_pos granted] at chosen
    cases chosen
    have checks := granted
    simp only [preferredGranted, Bool.and_eq_true, Bool.not_eq_true'] at checks
    exact ⟨⟨checks.1.1.2, checks.1.1.1.2⟩, .inl ⟨rfl, granted⟩⟩
  · rw [if_neg granted] at chosen
    cases own : p.ownReservation userName db with
    | none =>
        rw [own] at chosen
        obtain ⟨grantable, unreserved⟩ := general_found sha256 p clientID a chosen
        exact ⟨grantable, .inr (.inr unreserved)⟩
    | some r =>
        rw [own] at chosen
        cases chosen
        cases db with
        | none => cases own
        | some users =>
            by_cases nameless : userName = ""
            · simp [ownReservation, nameless] at own
            · simp only [ownReservation, if_neg nameless] at own
              have checks := List.find?_some own
              simp only [Bool.and_eq_true, Bool.not_eq_true'] at checks
              exact ⟨⟨checks.2, checks.1.2⟩, .inr (.inl ⟨users, rfl, nameless, List.mem_of_find?_eq_some own⟩)⟩

theorem allocate_for_cases (sha256 : Digest) (p next : IPPool) (userName : String) (clientID : ClientID)
    (preferred : Addr) (db : Option UserDB) (result : Except PoolError Addr)
    (done : p.allocateFor sha256 userName clientID preferred db = some (next, result)) :
    (∃ cur, p.byClient.lookup clientID = some cur ∧ next = p ∧ result = .ok cur) ∨
      (p.byClient.lookup clientID = none ∧ ∃ a, p.choose sha256 userName clientID preferred db = some (.ok a) ∧
        next = p.record clientID a ∧ result = .ok a) ∨
      (p.byClient.lookup clientID = none ∧ next = p ∧ ∃ problem, result = .error problem) := by
  unfold allocateFor at done
  cases held : p.byClient.lookup clientID with
  | some cur =>
      rw [held] at done
      cases done
      exact .inl ⟨cur, rfl, rfl, rfl⟩
  | none =>
      rw [held] at done
      obtain ⟨decision, chosen, same⟩ := Option.map_eq_some_iff.mp done
      cases decision with
      | error problem =>
          cases same
          exact .inr (.inr ⟨rfl, rfl, problem, rfl⟩)
      | ok a =>
          cases same
          exact .inr (.inl ⟨rfl, a, chosen, rfl, rfl⟩)

-- The pool as a ledger. Covers allows used to hold stale marks: a pool whose
-- sessions race can lose a byClient row without clearing its mark.
structure Covers (p : IPPool) (ledger : Ledger ClientID Addr) : Prop where
  holds : ∀ clientID, p.byClient.lookup clientID = ledger.holds clientID
  marked : ∀ a, ledger.Taken a → p.used.flag a = true
  inside : ∀ a, ledger.Taken a → p.subnet.contains a = true

structure Exact (p : IPPool) (ledger : Ledger ClientID Addr) : Prop extends Covers p ledger where
  only : ∀ a, p.used.flag a = true → ledger.Taken a

theorem grantable_free (p : IPPool) (ledger : Ledger ClientID Addr) (covers : p.Covers ledger) (a : Addr)
    (grantable : p.Grantable a) : ¬ ledger.Taken a := by
  intro taken
  have mark := covers.marked a taken
  rw [grantable.unused] at mark
  cases mark

theorem record_covers (p : IPPool) (ledger : Ledger ClientID Addr) (clientID : ClientID) (a : Addr)
    (covers : p.Covers ledger) (inside : p.subnet.contains a = true)
    (free : ∀ other, ledger.holds other = some a → other = clientID) :
    (p.record clientID a).Covers (ledger.grant clientID a free) := by
  constructor
  · intro query
    rw [Ledger.grant_holds, ← covers.holds query]
    exact Table.lookup_put p.byClient clientID query a
  · intro item taken
    rw [record, Table.flag_put]
    exact (Ledger.taken_of_grant ledger clientID a item free taken).imp id (covers.marked item)
  · intro item taken
    rcases Ledger.taken_of_grant ledger clientID a item free taken with same | before
    · exact same ▸ inside
    · exact covers.inside item before

theorem allocate_covers (sha256 : Digest) (p next : IPPool) (userName : String) (clientID : ClientID) (preferred : Addr)
    (db : Option UserDB) (result : Except PoolError Addr)
    (done : p.allocateFor sha256 userName clientID preferred db = some (next, result)) (ledger : Ledger ClientID Addr)
    (covers : p.Covers ledger) :
    ∃ after : Ledger ClientID Addr, next.Covers after ∧ next.subnet = p.subnet ∧
      (∀ holder held, ledger.holds holder = some held → after.holds holder = some held) ∧
      ∀ addr, result = .ok addr → p.subnet.contains addr = true := by
  rcases allocate_for_cases sha256 p next userName clientID preferred db result done with
    ⟨cur, held, rfl, rfl⟩ | ⟨absent, a, chosen, rfl, rfl⟩ | ⟨_, rfl, problem, rfl⟩
  · refine ⟨ledger, covers, rfl, fun _ _ kept => kept, fun addr same => ?_⟩
    obtain rfl := Except.ok.inj same
    exact covers.inside cur ⟨clientID, by rw [← covers.holds, held]⟩
  · have grantable := (choose_origin sha256 p userName clientID preferred db a chosen).1
    have unheld : ∀ other, ledger.holds other = some a → other = clientID :=
      fun other held => absurd ⟨other, held⟩ (grantable_free p ledger covers a grantable)
    refine ⟨ledger.grant clientID a unheld, record_covers p ledger clientID a covers grantable.inside unheld, rfl, ?_, ?_⟩
    · intro holder held before
      rw [Ledger.grant_holds, if_neg, before]
      rintro rfl
      rw [← covers.holds, absent] at before
      cases before
    · exact fun addr same => Except.ok.inj same ▸ grantable.inside
  · exact ⟨ledger, covers, rfl, fun _ _ kept => kept, fun addr same => by cases same⟩

theorem record_exact (p : IPPool) (ledger : Ledger ClientID Addr) (clientID : ClientID) (a : Addr)
    (represented : p.Exact ledger) (inside : p.subnet.contains a = true)
    (free : ∀ other, ledger.holds other = some a → other = clientID)
    (fresh : ∀ held, ledger.holds clientID = some held → held = a) :
    (p.record clientID a).Exact (ledger.grant clientID a free) where
  toCovers := record_covers p ledger clientID a represented.toCovers inside free
  only := by
    intro item mark
    rw [record, Table.flag_put] at mark
    exact (Ledger.grant_taken ledger clientID a item free fresh).mpr (mark.imp id (represented.only item))

theorem release_lookup (p : IPPool) (clientID query : ClientID) :
    (p.release clientID).byClient.lookup query = if query = clientID then none else p.byClient.lookup query := by
  unfold release
  cases held : p.byClient.lookup clientID with
  | none =>
      by_cases same : query = clientID
      · rw [if_pos same, same]
        exact held
      · rw [if_neg same]
  | some addr => exact Table.lookup_drop p.byClient clientID query

theorem release_row (p : IPPool) (clientID holder : ClientID) (held : Addr)
    (found : (p.release clientID).byClient.lookup holder = some held) : p.byClient.lookup holder = some held := by
  rw [release_lookup] at found
  split_ifs at found
  exact found

theorem record_row (p : IPPool) (clientID holder : ClientID) (a held : Addr)
    (found : (p.record clientID a).byClient.lookup holder = some held) :
    (holder = clientID ∧ held = a) ∨ p.byClient.lookup holder = some held := by
  rw [record, Table.lookup_put] at found
  split_ifs at found with same
  · exact .inl ⟨same, (Option.some.inj found).symm⟩
  · exact .inr found

theorem release_flag (p : IPPool) (ledger : Ledger ClientID Addr) (covers : p.Covers ledger) (clientID : ClientID)
    (a : Addr) : (p.release clientID).used.flag a = true ↔
      p.used.flag a = true ∧ ledger.holds clientID ≠ some a := by
  unfold release
  rw [← covers.holds clientID]
  cases held : p.byClient.lookup clientID with
  | none => simp
  | some addr =>
      rw [Table.flag_drop]
      simp only [ne_eq, Option.some.injEq, eq_comm, and_comm]

theorem release_covers (p : IPPool) (ledger : Ledger ClientID Addr) (clientID : ClientID) (covers : p.Covers ledger) :
    (p.release clientID).Covers (ledger.release clientID) := by
  constructor
  · intro query
    rw [release_lookup, Ledger.release_holds, covers.holds query]
  · intro a taken
    obtain ⟨before, different⟩ := (Ledger.release_taken ledger clientID a).mp taken
    exact (release_flag p ledger covers clientID a).mpr ⟨covers.marked a before, different⟩
  · intro a taken
    have inside := covers.inside a ((Ledger.release_taken ledger clientID a).mp taken).1
    unfold release
    cases p.byClient.lookup clientID <;> exact inside

theorem release_exact (p : IPPool) (ledger : Ledger ClientID Addr) (clientID : ClientID) (represented : p.Exact ledger) :
    (p.release clientID).Exact (ledger.release clientID) where
  toCovers := release_covers p ledger clientID represented.toCovers
  only := by
    intro a mark
    obtain ⟨before, different⟩ := (release_flag p ledger represented.toCovers clientID a).mp mark
    exact (Ledger.release_taken ledger clientID a).mpr ⟨represented.only a before, different⟩

end IPPool

end Packethose
