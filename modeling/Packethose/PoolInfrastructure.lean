import Packethose.PoolReservations

set_option autoImplicit false

namespace Packethose

namespace IPPool

def Infrastructure (fresh : IPPool) (server a : Addr) : Prop :=
  a = fresh.subnet.addr ∨ (∃ net bits, fresh.subnet = .v4 net bits ∧ a = broadcast4 net bits) ∨ a = server

-- The database arguments of a serving process: none before any user list was
-- given, or an accepted list (possibly the empty one) that does not reserve
-- infrastructure.
def ServerArgument (infra : Addr → Prop) : Option UserDB → Prop
  | none => True
  | some db => ∃ users, UserDB.newUserDB users = .ok db ∧ ∀ u ∈ users, ∀ a ∈ u.reserved, ¬ infra a

def ServerCall (infra : Addr → Prop) (_ : IPPool) (request : PoolCall) : Prop :=
  (∃ userName clientID preferred db, request = .allocateFor userName clientID preferred db ∧ ServerArgument infra db) ∨
    ∃ clientID, request = .release clientID

def returned (sha256 : Digest) (p : IPPool) : PoolCall → Option Addr
  | .allocate clientID preferred => (p.allocate sha256 clientID preferred).bind fun outcome => outcome.2.toOption
  | .allocateFor userName clientID preferred db =>
      (p.allocateFor sha256 userName clientID preferred db).bind fun outcome => outcome.2.toOption
  | _ => none

-- A client without an address asks, under the empty user name and with a
-- database present, for an infrastructure address of the subnet. The owner of
-- an unreserved address is the empty string, which then equals the user name.
def NamelessRequest (infra : Addr → Prop) (p : IPPool) : PoolCall → Prop
  | .allocateFor userName clientID preferred db =>
      userName = "" ∧ db.isSome = true ∧ p.byClient.lookup clientID = none ∧ infra preferred ∧
        p.subnet.contains preferred = true ∧ preferred.isUnspecified = false
  | _ => False

theorem base_reserved_network (subnet : Prefix) : (baseReserved subnet).flag subnet.addr = true := by
  cases subnet with
  | invalid => exact (Table.flag_put _ _ _).mpr (.inl rfl)
  | v4 net bits => exact (Table.flag_put _ _ _).mpr (.inr ((Table.flag_put _ _ _).mpr (.inl rfl)))
  | v6 net bits => exact (Table.flag_put _ _ _).mpr (.inl rfl)

theorem infrastructure_reserved (subnet : Prefix) (server : Addr) (reservations : List Addr) (fresh : IPPool)
    (made : newIPPool subnet (server :: reservations) = .ok fresh) (a : Addr) (infra : fresh.Infrastructure server a)
    (inside : fresh.subnet.contains a = true) : fresh.reserved.flag a = true := by
  obtain ⟨sameSubnet, reserved, _, _⟩ := new_ip_pool_fields subnet _ fresh made
  have valid := (Prefix.contains_family fresh.subnet a inside).1
  rw [reserved, ← sameSubnet, reserve_valid_flag]
  rcases infra with network | ⟨net, bits, four, broadcast⟩ | own
  · exact .inl (network ▸ base_reserved_network fresh.subnet)
  · refine .inl ?_
    rw [four, broadcast, baseReserved, Table.flag_put]
    exact .inl rfl
  · exact .inr ⟨by simp [own], valid⟩

theorem returned_cases (sha256 : Digest) (p : IPPool) (userName : String) (clientID : ClientID) (preferred a : Addr)
    (db : Option UserDB) (got : p.returned sha256 (.allocateFor userName clientID preferred db) = some a) :
    p.byClient.lookup clientID = some a ∨
      (p.byClient.lookup clientID = none ∧ p.choose sha256 userName clientID preferred db = some (.ok a)) := by
  obtain ⟨⟨next, result⟩, done, taken⟩ := Option.bind_eq_some_iff.mp got
  rcases allocate_for_cases sha256 p next userName clientID preferred db result done with
    ⟨cur, held, _, rfl⟩ | ⟨absent, b, chosen, _, rfl⟩ | ⟨_, _, problem, rfl⟩
  · cases taken
    exact .inl held
  · cases taken
    exact .inr ⟨absent, chosen⟩
  · cases taken

theorem chosen_not_infrastructure (sha256 : Digest) (p : IPPool) (infra : Addr → Prop) (userName : String)
    (clientID : ClientID) (preferred a : Addr) (db : Option UserDB)
    (reserved : ∀ b, infra b → p.subnet.contains b = true → p.reserved.flag b = true)
    (argument : ServerArgument infra db) (absent : p.byClient.lookup clientID = none)
    (named : ¬ p.NamelessRequest infra (.allocateFor userName clientID preferred db))
    (chosen : p.choose sha256 userName clientID preferred db = some (.ok a)) : ¬ infra a := by
  intro bad
  obtain ⟨grantable, origin⟩ := choose_origin sha256 p userName clientID preferred db a chosen
  have marked := reserved a bad grantable.inside
  rcases origin with ⟨rfl, granted⟩ | ⟨db, rfl, _, listed⟩ | unreserved
  · simp only [preferredGranted, Bool.and_eq_true, Bool.not_eq_true', Bool.or_eq_true] at granted
    rcases granted.2 with unmarked | owns
    · rw [marked] at unmarked
      cases unmarked
    · cases db with
      | none => cases owns
      | some db =>
          obtain ⟨users, accepted, clean⟩ := argument
          have owner := UserDB.unreserved_owner users db accepted a (fun u member reserves => clean u member a reserves bad)
          simp only [ownsReservation, owner, beq_iff_eq] at owns
          exact named ⟨owns.symm, rfl, absent, bad, grantable.inside, granted.1.1.1.1.1.2⟩
  · obtain ⟨users, accepted, clean⟩ := argument
    exact UserDB.unreserved_for users db accepted a (fun u member reserves => clean u member a reserves bad) userName listed
  · rw [marked] at unreserved
    cases unreserved

theorem nameless_request_granted (sha256 : Digest) (p : IPPool) (infra : Addr → Prop) (request : PoolCall)
    (permitted : ServerCall infra p request) (unused : ∀ b, infra b → p.used.flag b = false)
    (asked : p.NamelessRequest infra request) : ∃ a, p.returned sha256 request = some a ∧ infra a := by
  rcases permitted with ⟨userName, clientID, preferred, db, rfl, argument⟩ | ⟨clientID, rfl⟩
  · obtain ⟨nameless, present, absent, bad, inside, specified⟩ := asked
    cases db with
    | none => cases present
    | some db =>
        obtain ⟨users, accepted, clean⟩ := argument
        have owner := UserDB.unreserved_owner users db accepted preferred
          (fun u member reserves => clean u member preferred reserves bad)
        have granted : p.preferredGranted userName preferred (some db) = true := by
          simp [preferredGranted, (Prefix.contains_family p.subnet preferred inside).1, specified,
            inside_family p preferred inside, inside, unused preferred bad, otherUserReserved, ownsReservation, owner,
            nameless]
        refine ⟨preferred, ?_, bad⟩
        simp [returned, allocateFor, absent, choose, granted, Except.toOption]
  · exact absurd asked id

def NoneHeld (infra : Addr → Prop) (p : IPPool) : Prop := ∀ clientID a, p.byClient.lookup clientID = some a → ¬ infra a

theorem none_held_preserved (sha256 : Digest) (infra : Addr → Prop) :
    Runs.Preserved (IPPool.call sha256)
      (fun p request => ServerCall infra p request ∧ ∀ a, p.returned sha256 request = some a → ¬ infra a)
      (fun p => p.NoneHeld infra ∧ ∃ ledger : Ledger ClientID Addr, p.Exact ledger) := by
  rintro p request next ⟨clear, represented⟩ ⟨permitted, clean⟩ done
  have reasserts : p.ClaimReasserts request := by
    rcases permitted with ⟨_, _, _, _, rfl, _⟩ | ⟨_, rfl⟩ <;> trivial
  refine ⟨?_, exact_preserved sha256 p request next represented reasserts done⟩
  rcases call_cases sha256 p next request done with
    rfl | ⟨userName, clientID, preferred, db, a, absent, chosen, source, rfl⟩ | ⟨_, _, rfl, _⟩ | ⟨clientID, rfl, rfl⟩
  · exact clear
  · have handed : p.returned sha256 request = some a := by
      rcases source with rfl | ⟨rfl, rfl, rfl⟩ <;>
        simp [returned, allocate, allocateFor, absent, chosen, Except.toOption]
    intro holder held heldBy
    rcases record_row p clientID holder a held heldBy with ⟨rfl, rfl⟩ | before
    · exact clean held handed
    · exact clear holder held before
  · rcases permitted with ⟨_, _, _, _, same, _⟩ | ⟨_, same⟩ <;> cases same
  · exact fun holder held heldBy => clear holder held (release_row p clientID holder held heldBy)

theorem none_held_unused (p : IPPool) (infra : Addr → Prop) (clear : p.NoneHeld infra)
    (represented : ∃ ledger : Ledger ClientID Addr, p.Exact ledger) (a : Addr) (bad : infra a) : p.used.flag a = false := by
  obtain ⟨ledger, represented⟩ := represented
  by_contra mark
  obtain ⟨clientID, held⟩ := represented.only a (by simpa using mark)
  exact clear clientID a ((represented.holds clientID).trans held) bad

theorem named_returns_clean (sha256 : Digest) (p : IPPool) (infra : Addr → Prop) (request : PoolCall)
    (clear : p.NoneHeld infra) (reserved : ∀ b, infra b → p.subnet.contains b = true → p.reserved.flag b = true)
    (permitted : ServerCall infra p request) (named : ¬ p.NamelessRequest infra request) (a : Addr)
    (got : p.returned sha256 request = some a) : ¬ infra a := by
  rcases permitted with ⟨userName, clientID, preferred, db, rfl, argument⟩ | ⟨clientID, rfl⟩
  · rcases returned_cases sha256 p userName clientID preferred a db got with held | ⟨absent, chosen⟩
    · exact clear clientID a held
    · exact chosen_not_infrastructure sha256 p infra userName clientID preferred a db reserved argument absent named chosen
  · cases got

theorem infrastructure_withheld_iff (sha256 : Digest) (subnet : Prefix) (server : Addr) (reservations : List Addr)
    (fresh p : IPPool) (made : newIPPool subnet (server :: reservations) = .ok fresh)
    (trace : List (IPPool × PoolCall)) (run : Runs.Run (IPPool.call sha256) fresh trace p)
    (calls : Runs.Allowed (ServerCall (fresh.Infrastructure server)) trace) :
    (∀ entry ∈ trace, ∀ a, entry.1.returned sha256 entry.2 = some a → ¬ fresh.Infrastructure server a) ↔
      ∀ entry ∈ trace, ¬ entry.1.NamelessRequest (fresh.Infrastructure server) entry.2 := by
  have start : fresh.NoneHeld (fresh.Infrastructure server) := by
    intro clientID a held
    simp [(new_ip_pool_fields subnet _ fresh made).2.2.2] at held
  have represented : ∃ ledger : Ledger ClientID Addr, fresh.Exact ledger :=
    ⟨Ledger.empty, new_ip_pool_exact subnet _ fresh made⟩
  constructor
  · intro clean entry member asked
    obtain ⟨clear, represents⟩ := (Runs.run_invariant (none_held_preserved sha256 (fresh.Infrastructure server)) run
      (fun e inside => ⟨calls e inside, clean e inside⟩) ⟨start, represented⟩).2 entry member
    obtain ⟨a, got, bad⟩ := nameless_request_granted sha256 entry.1 _ entry.2 (calls entry member)
      (none_held_unused entry.1 _ clear represents) asked
    exact clean entry member a got bad
  · intro named
    -- The guard is the condition itself; the reserved set of every visited
    -- pool is the one newIPPool built.
    have preserved : Runs.Preserved (IPPool.call sha256)
        (fun q request => ServerCall (fresh.Infrastructure server) q request ∧
          ¬ q.NamelessRequest (fresh.Infrastructure server) request)
        (fun q => (q.NoneHeld (fresh.Infrastructure server) ∧ ∃ ledger : Ledger ClientID Addr, q.Exact ledger) ∧
          q.subnet = fresh.subnet ∧ q.reserved = fresh.reserved ∧ q.isV4 = fresh.isV4) := by
      rintro q request next ⟨inv, fixed⟩ ⟨permitted, unasked⟩ done
      have reserved : ∀ b, fresh.Infrastructure server b → q.subnet.contains b = true → q.reserved.flag b = true := by
        rw [fixed.1, fixed.2.1]
        exact infrastructure_reserved subnet server reservations fresh made
      have clean := named_returns_clean sha256 q _ request inv.1 reserved permitted unasked
      exact ⟨none_held_preserved sha256 _ q request next inv ⟨permitted, clean⟩ done,
        fixed_preserved sha256 (fun _ _ => True) fresh q request next fixed trivial done⟩
    intro entry member a got
    obtain ⟨⟨clear, _⟩, sameSubnet, sameReserved, _⟩ := (Runs.run_invariant preserved run
      (fun e inside => ⟨calls e inside, named e inside⟩) ⟨⟨start, represented⟩, rfl, rfl, rfl⟩).2 entry member
    refine named_returns_clean sha256 entry.1 _ entry.2 clear ?_ (calls entry member) (named entry member) a got
    rw [sameSubnet, sameReserved]
    exact infrastructure_reserved subnet server reservations fresh made

end IPPool

def serverPool30 : IPPool := { pool30 with reserved := reserveValid (baseReserved (tunnelNet 30)) [tunnelAddr 1] }

-- Single-peer mode after a reload to the empty user list: the peer asks for
-- the server's own tunnel address and is given it.
theorem server_address_handed_out :
    newIPPool (.v4 #v[10, 66, 0, 0] 30) [.v4 #v[10, 66, 0, 1]] = .ok serverPool30 ∧
      UserDB.newUserDB [] = .ok UserDB.empty ∧
      serverPool30.returned zeroDigest (.allocateFor "" clientA (.v4 #v[10, 66, 0, 1]) (some UserDB.empty)) =
        some (.v4 #v[10, 66, 0, 1]) ∧
      serverPool30.Infrastructure (.v4 #v[10, 66, 0, 1]) (.v4 #v[10, 66, 0, 1]) :=
  ⟨rfl, rfl, by decide, .inr (.inr rfl)⟩

theorem infrastructure_withheld_without_database :
    serverPool30.returned zeroDigest (.allocateFor "" clientA (.v4 #v[10, 66, 0, 1]) none) = some (.v4 #v[10, 66, 0, 2]) ∧
      ¬ serverPool30.Infrastructure (.v4 #v[10, 66, 0, 1]) (.v4 #v[10, 66, 0, 2]) := by
  have given : serverPool30.returned zeroDigest (.allocateFor "" clientA (.v4 #v[10, 66, 0, 1]) none) =
      some (.v4 #v[10, 66, 0, 2]) := by decide
  have run : Runs.Run (IPPool.call zeroDigest) serverPool30
      [(serverPool30, .allocateFor "" clientA (.v4 #v[10, 66, 0, 1]) none)]
      (serverPool30.record clientA (.v4 #v[10, 66, 0, 2])) := .cons _ _ _ _ _ rfl (.nil _)
  have calls : Runs.Allowed (IPPool.ServerCall (serverPool30.Infrastructure (.v4 #v[10, 66, 0, 1])))
      [(serverPool30, .allocateFor "" clientA (.v4 #v[10, 66, 0, 1]) none)] := by
    intro entry member
    rw [List.mem_singleton.mp member]
    exact .inl ⟨_, _, _, _, rfl, trivial⟩
  refine ⟨given, (IPPool.infrastructure_withheld_iff zeroDigest (.v4 #v[10, 66, 0, 0] 30) (.v4 #v[10, 66, 0, 1]) []
    serverPool30 _ rfl _ run calls).mpr ?_ _ (List.mem_singleton_self _) _ given⟩
  intro entry member asked
  rw [List.mem_singleton.mp member] at asked
  exact absurd asked.2.1 (by decide)

end Packethose
