import Packethose.Lib.Scan
import Packethose.PoolInfrastructure

set_option autoImplicit false

namespace Packethose

theorem next_addr_word (bytes : Vector UInt8 4) : Octets.word (nextAddr bytes) = (Octets.word bytes + 1) % 4294967296 := by
  have small0 := bytes[0].toNat_lt
  have small1 := bytes[1].toNat_lt
  have small2 := bytes[2].toNat_lt
  have small3 := bytes[3].toNat_lt
  have bump : ∀ byte : UInt8, (byte + 1).toNat = (byte.toNat + 1) % 256 := fun byte => UInt8.toNat_add byte 1
  have wraps : ∀ byte : UInt8, byte + 1 = 0 ↔ byte.toNat = 255 := by
    intro byte
    have small := byte.toNat_lt
    rw [← UInt8.toNat_inj, bump, UInt8.toNat_zero]
    omega
  have carried : nextAddr bytes =
      if bytes[3] + 1 ≠ 0 then bytes.set 3 (bytes[3] + 1)
      else if bytes[2] + 1 ≠ 0 then (bytes.set 3 0).set 2 (bytes[2] + 1)
      else if bytes[1] + 1 ≠ 0 then ((bytes.set 3 0).set 2 0).set 1 (bytes[1] + 1)
      else (((bytes.set 3 0).set 2 0).set 1 0).set 0 (bytes[0] + 1) := by
    simp only [nextAddr, nextAddrLoop]
    by_cases carry3 : bytes[3] + 1 = 0
    · by_cases carry2 : bytes[2] + 1 = 0
      · by_cases carry1 : bytes[1] + 1 = 0
        · simp [carry3, carry2, carry1]
        · simp [carry3, carry2, carry1]
      · simp [carry3, carry2]
    · simp [carry3]
  have spelled : ∀ value : Vector UInt8 4, Octets.word value =
      ((value[0].toNat * 256 + value[1].toNat) * 256 + value[2].toNat) * 256 + value[3].toNat := fun _ => rfl
  rw [carried, spelled, spelled]
  simp only [ne_eq, wraps]
  split_ifs <;> simp [bump] <;> omega

theorem assembled_word (net : Vector UInt8 4) :
    (net.get 0).toNat <<< 24 ||| (net.get 1).toNat <<< 16 ||| (net.get 2).toNat <<< 8 ||| (net.get 3).toNat = Octets.word net := by
  have small1 := (net.get 1).toNat_lt
  have small2 := (net.get 2).toNat_lt
  have small3 := (net.get 3).toNat_lt
  have low := Nat.shiftLeft_add_eq_or_of_lt small3 (net.get 2).toNat
  have middle := Nat.shiftLeft_add_eq_or_of_lt (i := 16) (b := (net.get 2).toNat <<< 8 + (net.get 3).toNat)
    (by rw [Nat.shiftLeft_eq]; omega) (net.get 1).toNat
  have high := Nat.shiftLeft_add_eq_or_of_lt (i := 24) (b := (net.get 1).toNat <<< 16 + ((net.get 2).toNat <<< 8 + (net.get 3).toNat))
    (by rw [Nat.shiftLeft_eq, Nat.shiftLeft_eq]; omega) (net.get 0).toNat
  rw [Nat.or_assoc, Nat.or_assoc, ← low, ← middle, ← high]
  simp only [Octets.word, Nat.shiftLeft_eq]
  omega

theorem broadcast4_word (net : Vector UInt8 4) (bits : Fin 33) :
    broadcast4 (Octets.maskBytes bits net) bits =
      .v4 (Octets.ofWord (Octets.word (Octets.maskBytes bits net) + (1 <<< (32 - bits.val) - 1))) := by
  have hosts : ∀ bits : Fin 33, 0xFFFFFFFF >>> bits.val = 1 <<< (32 - bits.val) - 1 := by decide
  have fewer : 1 <<< (32 - bits.val) - 1 < 2 ^ (32 - bits.val) := by
    have positive := Nat.two_pow_pos (32 - bits.val)
    rw [Nat.shiftLeft_eq]
    omega
  have filled : Octets.word (Octets.maskBytes bits net) ||| (1 <<< (32 - bits.val) - 1) =
      Octets.word (Octets.maskBytes bits net) + (1 <<< (32 - bits.val) - 1) := by
    rw [Octets.masked_word bits net]
    exact (Nat.shiftLeft_add_eq_or_of_lt fewer _).symm
  have assembled : ∀ value : Vector UInt8 4, value[0].toNat <<< 24 ||| value[1].toNat <<< 16 ||| value[2].toNat <<< 8 |||
      value[3].toNat = Octets.word value := assembled_word
  simp only [broadcast4, assembled, hosts, filled, Addr.addrFrom4, Octets.ofWord, Nat.shiftRight_eq_div_pow]

def Addr.word : Addr → Nat
  | .v4 bytes => Octets.word bytes
  | _ => 0

namespace IPPool

structure Free (p : IPPool) (a : Addr) : Prop where
  inside : p.subnet.contains a = true
  unreserved : p.reserved.flag a = false
  unused : p.used.flag a = false

def Lowest (p : IPPool) : Except PoolError Addr → Prop
  | .ok a => p.Free a ∧ ∀ b, p.Free b → a.word ≤ b.word
  | .error problem => problem = .exhausted ∧ ∀ b, ¬ p.Free b

def walkResult : Option (Vector UInt8 4) → Except PoolError Addr
  | some bytes => .ok (.addrFrom4 bytes)
  | none => .error .exhausted

def walkInside (p : IPPool) (bytes : Vector UInt8 4) : Bool := p.subnet.contains (.addrFrom4 bytes)

def walkTaken (p : IPPool) (bytes : Vector UInt8 4) : Bool :=
  p.reserved.flag (.addrFrom4 bytes) || p.used.flag (.addrFrom4 bytes)

theorem walk_scan (p : IPPool) (fuel : Nat) (bytes : Vector UInt8 4) :
    p.walk fuel bytes = (Scan.scan nextAddr p.walkInside p.walkTaken fuel bytes).map walkResult := by
  induction fuel generalizing bytes with
  | zero => rfl
  | succ fuel ih =>
      rw [walk, Scan.scan, walkInside, walkTaken]
      split_ifs
      · exact ih (nextAddr bytes)
      · rfl
      · rfl

theorem free_not_taken (p : IPPool) (bytes : Vector UInt8 4) (inside : p.walkInside bytes = true) :
    p.Free (.v4 bytes) ↔ p.walkTaken bytes = false := by
  rw [walkTaken, Bool.or_eq_false_iff]
  exact ⟨fun free => ⟨free.unreserved, free.unused⟩, fun clear => ⟨inside, clear.1, clear.2⟩⟩

section Network

variable (p : IPPool) (net : Vector UInt8 4) (bits : Fin 33)

theorem walk_inside_interval (subnet : p.subnet = .v4 (Octets.maskBytes bits net) bits) (bytes : Vector UInt8 4) :
    p.walkInside bytes = true ↔
      Octets.word (Octets.maskBytes bits net) ≤ Octets.word bytes ∧
        Octets.word bytes < Octets.word (Octets.maskBytes bits net) + 1 <<< (32 - bits.val) := by
  rw [walkInside, subnet]
  exact Octets.agree_interval bits net bytes (by omega)

theorem free_numbered (subnet : p.subnet = .v4 (Octets.maskBytes bits net) bits)
    (network : p.reserved.flag (.v4 (Octets.maskBytes bits net)) = true) (b : Addr) (free : p.Free b) :
    ∃ position, 1 ≤ position ∧ position < 1 <<< (32 - bits.val) ∧
      b = .v4 (Octets.ofWord (Octets.word (Octets.maskBytes bits net) + position)) := by
  have inside := free.inside
  rw [subnet] at inside
  cases b with
  | zero => cases inside
  | v6 bytes zone => cases inside
  | v4 bytes =>
      obtain ⟨low, high⟩ := (walk_inside_interval p net bits subnet bytes).mp free.inside
      have here : bytes = Octets.ofWord (Octets.word (Octets.maskBytes bits net) +
          (Octets.word bytes - Octets.word (Octets.maskBytes bits net))) := by
        apply Octets.word_injective
        have small := Octets.word_lt bytes
        rw [Octets.word_of_word]
        omega
      refine ⟨Octets.word bytes - Octets.word (Octets.maskBytes bits net), ?_, by omega, congrArg Addr.v4 here⟩
      by_contra zero
      have same : bytes = Octets.maskBytes bits net := by
        apply Octets.word_injective
        omega
      have reserved := free.unreserved
      rw [same, network] at reserved
      cases reserved

-- Numbered from the network address on, the addresses of the subnet are what
-- the loop runs through; the one behind the last is outside again, also where
-- the numbers wrap.
theorem walk_lowest (subnet : p.subnet = .v4 (Octets.maskBytes bits net) bits) (wide : 1 ≤ bits.val)
    (network : p.reserved.flag (.v4 (Octets.maskBytes bits net)) = true) :
    ∃ result, p.walk UInt32.size (nextAddr (Octets.maskBytes bits net)) = some result ∧ p.Lowest result := by
  have interval := walk_inside_interval p net bits subnet
  have ending := Octets.interval_end bits net (by omega)
  have halved : ∀ bits : Fin 33, 1 ≤ bits.val → 1 ≤ 1 <<< (32 - bits.val) ∧ 1 <<< (32 - bits.val) ≤ 2147483648 := by decide
  have sized := halved bits wide
  have numbered := free_numbered p net bits subnet network
  generalize base : Octets.word (Octets.maskBytes bits net) = first at interval ending numbered
  generalize 1 <<< (32 - bits.val) = size at interval ending sized numbered
  have start : nextAddr (Octets.maskBytes bits net) = Octets.ofWord (first + 1) := by
    apply Octets.word_injective
    rw [next_addr_word, Octets.word_of_word, base]
  have step : ∀ position, position < size → nextAddr (Octets.ofWord (first + position)) = Octets.ofWord (first + (position + 1)) := by
    intro position _
    apply Octets.word_injective
    rw [next_addr_word, Octets.word_of_word, Octets.word_of_word]
    omega
  have within : ∀ position, position < size → p.walkInside (Octets.ofWord (first + position)) = true := by
    intro position low
    rw [interval, Octets.word_of_word]
    omega
  have beyond : p.walkInside (Octets.ofWord (first + size)) = false := by
    rw [← Bool.not_eq_true, interval, Octets.word_of_word]
    omega
  rw [walk_scan, start]
  cases Scan.scan_numbered nextAddr p.walkInside p.walkTaken (fun position => Octets.ofWord (first + position)) size step within
      beyond UInt32.size 1 sized.1 (by simp only [UInt32.size]; omega) with
  | inl hit =>
      obtain ⟨found, low, high, vacant, before, result⟩ := hit
      refine ⟨.ok (.v4 (Octets.ofWord (first + found))), by rw [result]; rfl, (free_not_taken p _ (within found high)).mpr vacant, fun b free => ?_⟩
      obtain ⟨position, least, inside, rfl⟩ := numbered b free
      have later : found ≤ position := by
        by_contra earlier
        have taken := before position least (by omega)
        rw [(free_not_taken p _ (within position inside)).mp free] at taken
        cases taken
      simp only [Addr.word, Octets.word_of_word]
      omega
  | inr miss =>
      refine ⟨.error .exhausted, by rw [miss.2]; rfl, rfl, fun b free => ?_⟩
      obtain ⟨position, least, inside, rfl⟩ := numbered b free
      have taken := miss.1 position least inside
      rw [(free_not_taken p _ (within position inside)).mp free] at taken
      cases taken

end Network

theorem new_ip_pool_v4 (subnet : Prefix) (reserved : List Addr) (fresh : IPPool) (made : newIPPool subnet reserved = .ok fresh)
    (four : subnet.addr.is4 = true) :
    ∃ (net : Vector UInt8 4) (bits : Fin 33), subnet.bits = bits ∧ fresh.subnet = .v4 (Octets.maskBytes bits net) bits ∧
      fresh.isV4 = true ∧ fresh.reserved.flag (.v4 (Octets.maskBytes bits net)) = true ∧
      fresh.reserved.flag (broadcast4 (Octets.maskBytes bits net) bits) = true := by
  obtain ⟨masked, table, _, _⟩ := new_ip_pool_fields subnet reserved fresh made
  cases subnet with
  | invalid => cases four
  | v6 net bits => cases four
  | v4 net bits =>
      refine ⟨net, bits, rfl, masked, ?_, ?_, ?_⟩
      · obtain ⟨_, _, _, _, _, shape⟩ := fresh
        cases masked
        cases shape
        rfl
      · rw [table, reserve_valid_flag]
        exact .inl (base_reserved_network (.v4 (Octets.maskBytes bits net) bits))
      · rw [table, reserve_valid_flag]
        exact .inl ((Table.flag_put _ _ _).mpr (.inl rfl))

theorem broadcast_largest (p : IPPool) (net : Vector UInt8 4) (bits : Fin 33)
    (subnet : p.subnet = .v4 (Octets.maskBytes bits net) bits) :
    p.subnet.contains (broadcast4 (Octets.maskBytes bits net) bits) = true ∧
      ∀ a, p.subnet.contains a = true → a.word ≤ (broadcast4 (Octets.maskBytes bits net) bits).word := by
  have interval := walk_inside_interval p net bits subnet
  have ending := Octets.interval_end bits net (by omega)
  have positive : ∀ bits : Fin 33, 1 ≤ 1 <<< (32 - bits.val) := by decide
  have sized := positive bits
  rw [broadcast4_word]
  generalize Octets.word (Octets.maskBytes bits net) = first at interval ending ⊢
  generalize 1 <<< (32 - bits.val) = size at interval ending sized ⊢
  constructor
  · refine (interval _).mpr ?_
    rw [Octets.word_of_word]
    omega
  · intro a inside
    cases a with
    | zero => exact Nat.zero_le _
    | v6 bytes zone => exact Nat.zero_le _
    | v4 bytes =>
        have bounds := (interval bytes).mp inside
        simp only [Addr.word, Octets.word_of_word]
        omega

theorem own_reservation_none (p : IPPool) (userName : String) (db : Option UserDB)
    (spent : ∀ users, db = some users → ∀ r ∈ users.reservedFor userName, p.subnet.contains r = true → p.used.flag r = true) :
    p.ownReservation userName db = none := by
  unfold ownReservation
  cases db with
  | none => rfl
  | some users =>
      dsimp only
      split_ifs with nameless
      · rfl
      · rw [List.find?_eq_none]
        intro r member granted
        simp only [Bool.and_eq_true, Bool.not_eq_true'] at granted
        rw [spent users rfl r member granted.1.2] at granted
        cases granted.2

theorem v4_allocation_lowest (sha256 : Digest) (subnet : Prefix) (reserved : List Addr) (fresh p : IPPool)
    (made : newIPPool subnet reserved = .ok fresh) (four : subnet.addr.is4 = true) (wide : 1 ≤ subnet.bits)
    (reached : Runs.Reach (IPPool.call sha256) (fun _ _ => True) fresh p) (userName : String) (clientID : ClientID)
    (preferred : Addr) (db : Option UserDB) (absent : p.byClient.lookup clientID = none)
    (ungranted : p.preferredGranted userName preferred db = false)
    (spent : ∀ users, db = some users → ∀ r ∈ users.reservedFor userName, p.subnet.contains r = true → p.used.flag r = true) :
    (∃ next result, p.allocateFor sha256 userName clientID preferred db = some (next, result) ∧
      ((∃ a, p.Free a) → ∃ lowest, result = .ok lowest ∧ p.Free lowest ∧ ∀ b, p.Free b → lowest.word ≤ b.word) ∧
      (result = .error .exhausted ↔ ¬ ∃ a, p.Free a)) ∧
    ∃ (net : Vector UInt8 4) (bits : Fin 33), p.subnet = .v4 net bits ∧ subnet.bits = bits ∧
      (∀ fuel start a, p.walk fuel start = some (.ok a) → a ≠ p.subnet.addr ∧ a ≠ broadcast4 net bits) ∧
      p.subnet.contains (broadcast4 net bits) = true ∧
      ∀ a, p.subnet.contains a = true → a.word ≤ (broadcast4 net bits).word := by
  obtain ⟨net, bits, width, network, family, lowReserved, highReserved⟩ := new_ip_pool_v4 subnet reserved fresh made four
  obtain ⟨sameSubnet, sameReserved, sameFamily⟩ := Runs.reach_invariant (fixed_preserved sha256 _ fresh) reached ⟨rfl, rfl, rfl⟩
  rw [← sameSubnet] at network
  rw [← sameFamily] at family
  rw [← sameReserved] at lowReserved highReserved
  refine ⟨?_, Octets.maskBytes bits net, bits, network, width, fun fuel start a found => ?_, broadcast_largest p net bits network⟩
  · obtain ⟨result, walked, lowest⟩ := walk_lowest p net bits network (width ▸ wide) lowReserved
    have chosen : p.choose sha256 userName clientID preferred db = some result := by
      rw [choose, if_neg (by simp [ungranted]), own_reservation_none p userName db spent, general, if_pos family, network]
      exact walked
    cases result with
    | ok a =>
        refine ⟨p.record clientID a, .ok a, ?_, fun _ => ⟨a, rfl, lowest⟩, ?_⟩
        · rw [allocateFor, absent, chosen]
          rfl
        · exact iff_of_false (by simp) fun none => none ⟨a, lowest.1⟩
    | error problem =>
        obtain ⟨rfl, none⟩ := lowest
        have full : ¬ ∃ a, p.Free a := not_exists.mpr none
        refine ⟨p, .error .exhausted, ?_, fun free => absurd free full, iff_of_true rfl full⟩
        rw [allocateFor, absent, chosen]
        rfl
  · have unreserved := (walk_found p fuel start a found).2
    refine ⟨fun same => ?_, fun same => ?_⟩
    · rw [same, network] at unreserved
      exact absurd (lowReserved.symm.trans unreserved) (by simp)
    · rw [same] at unreserved
      exact absurd (highReserved.symm.trans unreserved) (by simp)

end IPPool

theorem v4_allocation_lowest_second_client :
    ∃ next, (pool30.record clientA (tunnelAddr 1)).allocateFor zeroDigest "" clientB .zero none =
        some (next, .ok (tunnelAddr 2)) ∧
      ∀ b, (pool30.record clientA (tunnelAddr 1)).Free b → (tunnelAddr 2).word ≤ b.word := by
  have reached : Runs.Reach (IPPool.call zeroDigest) (fun _ _ => True) pool30 (pool30.record clientA (tunnelAddr 1)) :=
    ⟨[(pool30, .allocate clientA .zero)], .cons _ _ _ _ _ rfl (.nil _), fun _ _ => trivial⟩
  obtain ⟨⟨next, result, allocated, found, _⟩, _⟩ := IPPool.v4_allocation_lowest zeroDigest (tunnelNet 30) [] pool30 _ rfl rfl
    (by decide) reached "" clientB .zero none rfl rfl (by simp)
  obtain ⟨lowest, rfl, _, least⟩ := found ⟨tunnelAddr 2, by decide, by decide, by decide⟩
  have given : ((pool30.record clientA (tunnelAddr 1)).allocateFor zeroDigest "" clientB .zero none).map Prod.snd =
      some (.ok (tunnelAddr 2)) := rfl
  rw [allocated] at given
  obtain rfl := Except.ok.inj (Option.some.inj given)
  exact ⟨next, allocated, least⟩

end Packethose
