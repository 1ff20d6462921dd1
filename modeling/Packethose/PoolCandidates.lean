import Packethose.PoolHistory

set_option autoImplicit false

namespace Packethose

theorem masked_no_host (net : Vector UInt8 16) (bits : Fin 129) :
    (Prefix.v6 net bits).masked = .v6 net bits ↔ SameHost bits (Octets.bitAt net) noHost := by
  rw [Prefix.masked, Prefix.v6.injEq, Octets.bytes_equal_iff]
  constructor
  · rintro ⟨equal, _⟩ position behind inside
    have here := equal position inside
    rw [Octets.masked_bit _ _ _ inside, decide_eq_false (Nat.not_lt.mpr behind), Bool.false_and] at here
    exact here.symm
  · intro clear
    refine ⟨?_, rfl⟩
    intro position inside
    rw [Octets.masked_bit _ _ _ inside]
    by_cases before : position < bits.val
    · rw [decide_eq_true before, Bool.true_and]
    · rw [clear position (Nat.le_of_not_lt before) inside, decide_eq_false before]
      rfl

-- The network address comes out only where the own address of the prefix is
-- another one: an empty host part of the digest is then not recognised.
theorem derived_network_address (net : Vector UInt8 16) (bits : Fin 129) (short : bits.val ≤ 126) (digest : Vector UInt8 32) :
    Addr.addrFrom16 (derivedAddress bits net digest) = (Prefix.v6 net bits).masked.addr ↔
      SameHost bits (hostBit digest) noHost ∧ (Prefix.v6 net bits).masked ≠ .v6 net bits := by
  have address : Addr.addrFrom16 (derivedAddress bits net digest) = (Prefix.v6 net bits).masked.addr ↔
      derivedAddress bits net digest = Octets.maskBytes bits net := by
    simp [Prefix.masked, Prefix.addr, Addr.addrFrom16]
  rw [address, Ne, masked_no_host, Octets.bytes_equal_iff]
  constructor
  · intro equal
    have empty : SameHost bits (Octets.bitAt (derivedAddress bits net digest)) noHost := by
      intro position behind inside
      rw [equal position inside, Octets.masked_bit _ _ _ inside, decide_eq_false (Nat.not_lt.mpr behind)]
      rfl
    have other : ¬ SameHost bits (hostBit digest) (Octets.bitAt net) := by
      intro same
      have last := derived_host_replaced bits net digest same 127 (by omega) (by decide)
      rw [empty 127 (by omega) (by decide)] at last
      simp [noHost] at last
    have kept := derived_host_kept bits net digest other
    have zero : SameHost bits (hostBit digest) noHost := kept.symm.trans empty
    exact ⟨zero, fun clear => other (zero.trans clear.symm)⟩
  · rintro ⟨zero, hosted⟩ position inside
    have other : ¬ SameHost bits (hostBit digest) (Octets.bitAt net) := fun same => hosted (same.symm.trans zero)
    rw [Octets.masked_bit _ _ _ inside]
    by_cases before : position < bits.val
    · rw [derived_network_bit bits short net digest position before, decide_eq_true before, Bool.true_and]
    · rw [derived_host_kept bits net digest other position (Nat.le_of_not_lt before) inside,
        zero position (Nat.le_of_not_lt before) inside, decide_eq_false before]
      rfl

theorem v6_derivation_exact (sha256 : Digest) (net : Vector UInt8 16) (bits : Fin 129) (short : bits.val ≤ 126)
    (clientID : ClientID) (round : UInt8) (digest : Vector UInt8 32) (hashed : sha256 (round :: clientID.toList) = digest) :
    ∃ out, v6FromClientID sha256 (.v6 net bits) clientID round = some (.addrFrom16 out) ∧
      (Prefix.v6 net bits).contains (.addrFrom16 out) = true ∧
      (∀ position, position < bits.val → Octets.bitAt out position = Octets.bitAt net position) ∧
      (¬ SameHost bits (hostBit digest) (Octets.bitAt net) → SameHost bits (Octets.bitAt out) (hostBit digest)) ∧
      (SameHost bits (hostBit digest) (Octets.bitAt net) →
        SameHost bits (Octets.bitAt out) fun position => Octets.bitAt net position || position == 127) ∧
      (Addr.addrFrom16 out = (Prefix.v6 net bits).masked.addr ↔
        SameHost bits (hostBit digest) noHost ∧ (Prefix.v6 net bits).masked ≠ .v6 net bits) ∧
      ((Prefix.v6 net bits).masked = .v6 net bits →
        (SameHost bits (hostBit digest) noHost → SameHost bits (Octets.bitAt out) (· == 127)) ∧
        (¬ SameHost bits (hostBit digest) noHost → SameHost bits (Octets.bitAt out) (hostBit digest)) ∧
        Addr.addrFrom16 out ≠ (Prefix.v6 net bits).masked.addr) := by
  subst hashed
  have derived := v6_from_client_id_eq sha256 net bits clientID round
  have network := derived_network_address net bits short (sha256 (round :: clientID.toList))
  refine ⟨_, derived, v6_from_client_id_inside sha256 net bits short clientID round _ derived,
    derived_network_bit bits short net _, derived_host_kept bits net _, derived_host_replaced bits net _, network, ?_⟩
  intro masked
  have clear := (masked_no_host net bits).mp masked
  refine ⟨?_, ?_, fun same => (network.mp same).2 masked⟩
  · intro zero position behind inside
    have replaced := derived_host_replaced bits net _ (zero.trans clear.symm) position behind inside
    simpa [clear position behind inside, noHost] using replaced
  · intro hosted
    exact derived_host_kept bits net _ fun same => hosted (same.trans clear)

theorem v6_derivation_exact_at_zero :
    ∃ out, v6FromClientID zeroDigest (.v6 (Vector.replicate 16 0) 126) clientA 0 = some (.addrFrom16 out) ∧
      SameHost 126 (Octets.bitAt out) (· == 127) ∧
      Addr.addrFrom16 out ≠ (Prefix.v6 (Vector.replicate 16 0) 126).masked.addr := by
  have zero : SameHost 126 (hostBit (Vector.replicate 32 0)) noHost := by
    intro position behind inside
    obtain rfl | rfl : position = 126 ∨ position = 127 := by omega
    · rfl
    · rfl
  obtain ⟨out, derived, _, _, _, _, _, pooled⟩ :=
    v6_derivation_exact zeroDigest (Vector.replicate 16 0) 126 (by decide) clientA 0 (Vector.replicate 32 0) rfl
  obtain ⟨one, _, apart⟩ := pooled (by decide)
  exact ⟨out, derived, one zero, apart⟩

def hostedNet : Vector UInt8 16 := Vector.ofFn fun index => if index.val = 15 then 5 else 0

theorem v6_network_address_derived :
    v6FromClientID zeroDigest (.v6 hostedNet 64) clientA 0 = some (Prefix.v6 hostedNet 64).masked.addr := by
  decide

namespace IPPool

theorem pool_candidates (sha256 : Digest) (subnet : Prefix) (reserved : List Addr) (fresh p : IPPool)
    (accepted : newIPPool subnet reserved = .ok fresh) (six : fresh.isV4 = false) (trace : List (IPPool × PoolCall))
    (run : Runs.Run (IPPool.call sha256) fresh trace p) (clientID : ClientID) (round : UInt8) :
    ∃ a, v6FromClientID sha256 p.subnet clientID round = some a ∧ subnet.contains a = true ∧ a ≠ subnet.masked.addr := by
  obtain ⟨sameSubnet, _, sameFamily⟩ :=
    (Runs.run_invariant (fixed_preserved sha256 (fun _ _ => True) fresh) run (fun _ _ => trivial) ⟨rfl, rfl, rfl⟩).1
  have kept : p.subnet = subnet.masked := sameSubnet.trans (new_ip_pool_fields subnet reserved fresh accepted).1
  have shape := p.shape
  rw [sameFamily, six, kept] at shape
  simp only [kept, ← Prefix.masked_contains subnet]
  have twice := subnet.masked_masked
  generalize subnet.masked = net at shape twice ⊢
  cases shape with
  | v6 net bits large =>
      have derived := v6_from_client_id_eq sha256 net bits clientID round
      refine ⟨_, derived, v6_from_client_id_inside sha256 net bits large clientID round _ derived, ?_⟩
      intro network
      rw [← twice] at network
      exact ((derived_network_address net bits large _).mp network).2 twice

end IPPool

end Packethose
