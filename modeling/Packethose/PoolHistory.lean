import Packethose.PoolInvariant

set_option autoImplicit false

namespace Packethose

inductive PoolCall where
  | allocate (clientID : ClientID) (preferred : Addr)
  | allocateFor (userName : String) (clientID : ClientID) (preferred : Addr) (db : Option UserDB)
  | claim (clientID : ClientID) (addr : Addr)
  | release (clientID : ClientID)

namespace IPPool

def call (sha256 : Digest) (p : IPPool) : PoolCall → Option IPPool
  | .allocate clientID preferred => (p.allocate sha256 clientID preferred).map Prod.fst
  | .allocateFor userName clientID preferred db => (p.allocateFor sha256 userName clientID preferred db).map Prod.fst
  | .claim clientID addr => some (p.claim clientID addr)
  | .release clientID => some (p.release clientID)

theorem call_cases (sha256 : Digest) (p next : IPPool) (request : PoolCall) (done : p.call sha256 request = some next) :
    next = p ∨
      (∃ userName clientID preferred db a, p.byClient.lookup clientID = none ∧
        p.choose sha256 userName clientID preferred db = some (.ok a) ∧
        (request = .allocateFor userName clientID preferred db ∨
          (request = .allocate clientID preferred ∧ userName = "" ∧ db = none)) ∧ next = p.record clientID a) ∨
      (∃ clientID addr, request = .claim clientID addr ∧ next = p.record clientID addr) ∨
      (∃ clientID, request = .release clientID ∧ next = p.release clientID) := by
  have allocation : ∀ userName clientID preferred db,
      (p.allocateFor sha256 userName clientID preferred db).map Prod.fst = some next →
      next = p ∨ ∃ a, p.byClient.lookup clientID = none ∧
        p.choose sha256 userName clientID preferred db = some (.ok a) ∧ next = p.record clientID a := by
    intro userName clientID preferred db mapped
    obtain ⟨⟨after, result⟩, allocated, same⟩ := Option.map_eq_some_iff.mp mapped
    cases same
    rcases allocate_for_cases sha256 p after userName clientID preferred db result allocated with
      ⟨_, _, kept, _⟩ | ⟨absent, a, chosen, recorded, _⟩ | ⟨_, kept, _⟩
    · exact .inl kept
    · exact .inr ⟨a, absent, chosen, recorded⟩
    · exact .inl kept
  cases request with
  | allocate clientID preferred =>
      rcases allocation "" clientID preferred none done with kept | ⟨a, absent, chosen, recorded⟩
      · exact .inl kept
      · exact .inr (.inl ⟨"", clientID, preferred, none, a, absent, chosen, .inr ⟨rfl, rfl, rfl⟩, recorded⟩)
  | allocateFor userName clientID preferred db =>
      rcases allocation userName clientID preferred db done with kept | ⟨a, absent, chosen, recorded⟩
      · exact .inl kept
      · exact .inr (.inl ⟨userName, clientID, preferred, db, a, absent, chosen, .inl rfl, recorded⟩)
  | claim clientID addr =>
      have result : p.claim clientID addr = next := Option.some.inj done
      unfold claim at result
      split_ifs at result
      · exact .inl result.symm
      · exact .inl result.symm
      · exact .inl result.symm
      · exact .inr (.inr (.inl ⟨clientID, addr, rfl, result.symm⟩))
  | release clientID => exact .inr (.inr (.inr ⟨clientID, rfl, (Option.some.inj done).symm⟩))

theorem call_fixed (sha256 : Digest) (p next : IPPool) (request : PoolCall) (done : p.call sha256 request = some next) :
    next.subnet = p.subnet ∧ next.reserved = p.reserved ∧ next.isV4 = p.isV4 := by
  rcases call_cases sha256 p next request done with rfl | ⟨_, _, _, _, _, _, _, _, rfl⟩ | ⟨_, _, _, rfl⟩ | ⟨clientID, _, rfl⟩
  · exact ⟨rfl, rfl, rfl⟩
  · exact ⟨rfl, rfl, rfl⟩
  · exact ⟨rfl, rfl, rfl⟩
  · unfold release
    cases p.byClient.lookup clientID <;> exact ⟨rfl, rfl, rfl⟩

-- A Claim that re-asserts an assignment: the address is in the subnet, nobody
-- else has it and the client has nothing else.
def ClaimReasserts (p : IPPool) : PoolCall → Prop
  | .claim clientID addr =>
      p.subnet.contains addr = true ∧ (∀ other, p.byClient.lookup other = some addr → other = clientID) ∧
        (∀ held, p.byClient.lookup clientID = some held → held = addr)
  | _ => True

theorem new_ip_pool_fields (subnet : Prefix) (reserved : List Addr) (p : IPPool)
    (accepted : newIPPool subnet reserved = .ok p) :
    p.subnet = subnet.masked ∧ p.reserved = reserveValid (baseReserved subnet.masked) reserved ∧ p.used = ∅ ∧ p.byClient = ∅ := by
  unfold newIPPool at accepted
  split_ifs at accepted
  cases accepted
  exact ⟨rfl, rfl, rfl, rfl⟩

theorem new_ip_pool_exact (subnet : Prefix) (reserved : List Addr) (p : IPPool)
    (accepted : newIPPool subnet reserved = .ok p) : p.Exact Ledger.empty := by
  obtain ⟨_, _, used, byClient⟩ := new_ip_pool_fields subnet reserved p accepted
  refine ⟨⟨?_, ?_, ?_⟩, ?_⟩
  · intro clientID
    rw [byClient]
    rfl
  · intro a taken
    exact absurd taken (Ledger.empty_free a)
  · intro a taken
    exact absurd taken (Ledger.empty_free a)
  · intro a mark
    rw [used, Table.flag_empty] at mark
    cases mark

theorem call_exact (sha256 : Digest) (p next : IPPool) (request : PoolCall) (ledger : Ledger ClientID Addr)
    (represented : p.Exact ledger) (permitted : p.ClaimReasserts request) (done : p.call sha256 request = some next) :
    ∃ after : Ledger ClientID Addr, next.Exact after := by
  rcases call_cases sha256 p next request done with
    rfl | ⟨userName, clientID, preferred, db, a, absent, chosen, _, rfl⟩ | ⟨clientID, addr, rfl, rfl⟩ | ⟨clientID, _, rfl⟩
  · exact ⟨ledger, represented⟩
  · have grantable := (choose_origin sha256 p userName clientID preferred db a chosen).1
    have free := grantable_free p ledger represented.toCovers a grantable
    rw [represented.holds] at absent
    exact ⟨_, record_exact p ledger clientID a represented grantable.inside
      (fun other held => absurd ⟨other, held⟩ free) (fun held same => by rw [absent] at same; cases same)⟩
  · obtain ⟨inside, free, fresh⟩ := permitted
    simp only [represented.holds] at free fresh
    exact ⟨_, record_exact p ledger clientID addr represented inside free fresh⟩
  · exact ⟨_, release_exact p ledger clientID represented⟩

theorem exact_preserved (sha256 : Digest) :
    Runs.Preserved (IPPool.call sha256) ClaimReasserts (fun p => ∃ ledger : Ledger ClientID Addr, p.Exact ledger) := by
  rintro p request next ⟨ledger, represented⟩ permitted done
  exact call_exact sha256 p next request ledger represented permitted done

theorem held_preserved (sha256 : Digest) (clientID : ClientID) (a : Addr) :
    Runs.Preserved (IPPool.call sha256) (fun p request => p.ClaimReasserts request ∧ request ≠ .release clientID)
      (fun p => p.byClient.lookup clientID = some a) := by
  rintro p request next held ⟨permitted, kept⟩ done
  rcases call_cases sha256 p next request done with
    rfl | ⟨_, other, _, _, b, absent, _, _, rfl⟩ | ⟨other, addr, rfl, rfl⟩ | ⟨other, rfl, rfl⟩
  · exact held
  · have different : clientID ≠ other := by
      rintro rfl
      rw [held] at absent
      cases absent
    rw [record, Table.lookup_put, if_neg different]
    exact held
  · rw [record, Table.lookup_put]
    by_cases same : clientID = other
    · subst same
      rw [if_pos rfl, ← permitted.2.2 a held]
    · rw [if_neg same]
      exact held
  · have different : clientID ≠ other := fun same => kept (same ▸ rfl)
    rw [release_lookup, if_neg different]
    exact held

theorem fixed_preserved (sha256 : Digest) (guard : IPPool → PoolCall → Prop) (fresh : IPPool) :
    Runs.Preserved (IPPool.call sha256) guard
      (fun p => p.subnet = fresh.subnet ∧ p.reserved = fresh.reserved ∧ p.isV4 = fresh.isV4) := by
  rintro p request next ⟨subnet, reserved, family⟩ _ done
  obtain ⟨sameSubnet, sameReserved, sameFamily⟩ := call_fixed sha256 p next request done
  exact ⟨sameSubnet.trans subnet, sameReserved.trans reserved, sameFamily.trans family⟩

theorem sticky_allocate (sha256 : Digest) (p : IPPool) (userName : String) (clientID : ClientID) (preferred a : Addr)
    (db : Option UserDB) (held : p.byClient.lookup clientID = some a) :
    p.allocateFor sha256 userName clientID preferred db = some (p, .ok a) := by
  rw [allocateFor, held]

theorem failed_allocate_unchanged (sha256 : Digest) (p next : IPPool) (userName : String) (clientID : ClientID)
    (preferred : Addr) (db : Option UserDB) (problem : PoolError)
    (failed : p.allocateFor sha256 userName clientID preferred db = some (next, .error problem)) : next = p := by
  rcases allocate_for_cases sha256 p next userName clientID preferred db _ failed with
    ⟨_, _, kept, _⟩ | ⟨_, _, _, _, impossible⟩ | ⟨_, kept, _⟩
  · exact kept
  · cases impossible
  · exact kept

theorem pool_representation (sha256 : Digest) (subnet : Prefix) (reserved : List Addr) (fresh p : IPPool)
    (accepted : newIPPool subnet reserved = .ok fresh) (trace : List (IPPool × PoolCall))
    (run : Runs.Run (IPPool.call sha256) fresh trace p) (claims : Runs.Allowed ClaimReasserts trace) :
    (∀ first second a, p.byClient.lookup first = some a → p.byClient.lookup second = some a → first = second) ∧
      (∀ a, p.used.flag a = true ↔ ∃ clientID, p.byClient.lookup clientID = some a) ∧
      (∀ clientID a, p.byClient.lookup clientID = some a → p.familyMatch a = true ∧ subnet.contains a = true) ∧
      (∀ clientID a, p.byClient.lookup clientID = some a → ∀ later rest, Runs.Run (IPPool.call sha256) p rest later →
        Runs.Allowed ClaimReasserts rest → (∀ entry ∈ rest, entry.2 ≠ .release clientID) →
        ∀ userName preferred db, later.allocateFor sha256 userName clientID preferred db = some (later, .ok a)) ∧
      (∀ userName clientID preferred db next problem,
        p.allocateFor sha256 userName clientID preferred db = some (next, .error problem) →
        next.used = p.used ∧ next.byClient = p.byClient) := by
  obtain ⟨ledger, represented⟩ := (Runs.run_invariant (exact_preserved sha256) run claims
    ⟨Ledger.empty, new_ip_pool_exact subnet reserved fresh accepted⟩).1
  obtain ⟨sameSubnet, _, _⟩ :=
    (Runs.run_invariant (fixed_preserved sha256 ClaimReasserts fresh) run claims ⟨rfl, rfl, rfl⟩).1
  refine ⟨?_, ?_, ?_, ?_, ?_⟩
  · intro first second a heldFirst heldSecond
    rw [represented.holds] at heldFirst heldSecond
    exact ledger.exclusive first second a heldFirst heldSecond
  · intro a
    simp only [represented.holds]
    exact ⟨represented.only a, represented.marked a⟩
  · intro clientID a held
    rw [represented.holds] at held
    have inside := represented.inside a ⟨clientID, held⟩
    refine ⟨inside_family p a inside, ?_⟩
    rw [sameSubnet, (new_ip_pool_fields subnet reserved fresh accepted).1, Prefix.masked_contains] at inside
    exact inside
  · intro clientID a held later rest continued reasserting unreleased userName preferred db
    have kept := (Runs.run_invariant (held_preserved sha256 clientID a) continued
      (fun entry member => ⟨reasserting entry member, unreleased entry member⟩) held).1
    exact sticky_allocate sha256 later userName clientID preferred a db kept
  · intro userName clientID preferred db next problem failed
    rw [failed_allocate_unchanged sha256 p next userName clientID preferred db problem failed]
    exact ⟨rfl, rfl⟩

end IPPool

def zeroDigest : Digest := fun _ => Vector.replicate 32 0
def clientA : ClientID := Vector.replicate 16 0xAA
def clientB : ClientID := Vector.replicate 16 0xBB

def tunnelAddr (host : UInt8) : Addr := .v4 #v[10, 66, 0, host]

def tunnelNet (bits : Nat) : Prefix := .v4 #v[10, 66, 0, 0] (Fin.ofNat 33 bits)

def pool30 : IPPool where
  subnet := tunnelNet 30
  reserved := reserveValid (baseReserved (tunnelNet 30)) []
  isV4 := true
  used := ∅
  byClient := ∅
  shape := .v4 _ _ (by decide)

theorem pool_representation_reconnect :
    newIPPool (.v4 #v[10, 66, 0, 0] 30) [] = .ok pool30 ∧
      (pool30.record clientA (.v4 #v[10, 66, 0, 1])).allocateFor zeroDigest "alice" clientA (.v4 #v[10, 66, 0, 2]) none =
        some (pool30.record clientA (.v4 #v[10, 66, 0, 1]), .ok (.v4 #v[10, 66, 0, 1])) := by
  have run : Runs.Run (IPPool.call zeroDigest) pool30 [(pool30, .allocate clientA .zero)]
      (pool30.record clientA (.v4 #v[10, 66, 0, 1])) := .cons _ _ _ _ _ rfl (.nil _)
  have claims : Runs.Allowed IPPool.ClaimReasserts [(pool30, .allocate clientA .zero)] := by
    intro entry member
    rw [List.mem_singleton.mp member]
    trivial
  exact ⟨rfl, (IPPool.pool_representation zeroDigest (.v4 #v[10, 66, 0, 0] 30) [] pool30 _ rfl _ run claims).2.2.2.1
    clientA _ rfl _ [] (.nil _) (by simp [Runs.Allowed]) (by simp) "alice" (.v4 #v[10, 66, 0, 2]) none⟩

end Packethose
