import Packethose.Pool

set_option autoImplicit false

namespace Packethose

def hostByte (digest : Vector UInt8 32) (index : Nat) : UInt8 := digest.toList.getD (15 - index) 0

def hostBit (digest : Vector UInt8 32) (position : Nat) : Bool :=
  (hostByte digest (position / 8)).toNat.testBit (7 - position % 8)

-- What the derivation is for: the leading bits of the subnet, then bits of
-- the digest.
def derivedBytes (bits : Nat) (net : Vector UInt8 16) (digest : Vector UInt8 32) : Vector UInt8 16 :=
  Vector.ofFn fun index =>
    net[index] &&& Octets.leadingMask bits index ||| hostByte digest index &&& ~~~Octets.leadingMask bits index

theorem derived_bit (bits : Nat) (net : Vector UInt8 16) (digest : Vector UInt8 32) (position : Nat) (inside : position < 128) :
    Octets.bitAt (derivedBytes bits net digest) position =
      if position < bits then Octets.bitAt net position else hostBit digest position := by
  rw [Octets.bit_at_get _ _ (by omega), Octets.bit_at_get _ _ (by omega), derivedBytes, Vector.getElem_ofFn,
    Octets.mixed_bit _ _ _ _ (by omega), Octets.leading_mask_bit _ _ _ (by omega), hostBit]
  have boundary : 8 * (position / 8 + 1) ≤ bits + (7 - position % 8) ↔ position < bits := by omega
  simp only [decide_eq_true_eq, boundary]
  rfl

theorem host_byte_get (digest : Vector UInt8 32) (index : Nat) (inside : index ≤ 15) (bound : index < 32) :
    hostByte digest (15 - index) = digest[index] := by
  have place : 15 - (15 - index) = index := by omega
  simp [hostByte, place, bound]

theorem host_bytes_filled (digest : Vector UInt8 32) (out : Vector UInt8 16) (count : Nat) (fits : count ≤ 16) :
    hostBytes digest out count =
      some (Vector.ofFn fun index => if index.val + count < 16 then out[index] else hostByte digest index) := by
  induction count with
  | zero =>
      rw [hostBytes]
      apply congrArg some
      apply Vector.ext
      intro index bound
      rw [Vector.getElem_ofFn, if_pos (by simpa using bound)]
      rfl
  | succ n ih =>
      rw [hostBytes, ih (by omega), Option.bind_some, dif_pos (by omega)]
      apply congrArg some
      apply Vector.ext
      intro index bound
      rw [Vector.getElem_set, Vector.getElem_ofFn, Vector.getElem_ofFn]
      by_cases here : 15 - n = index
      · subst here
        rw [if_pos rfl, if_neg (by simp only; omega), host_byte_get digest n (by omega) (by omega)]
      · rw [if_neg here]
        have same : index + n < 16 ↔ index + (n + 1) < 16 := by omega
        simp only [same]

theorem derived_network_byte (bits : Nat) (net : Vector UInt8 16) (digest : Vector UInt8 32) (index : Nat) (bound : index < 16)
    (network : 8 * (index + 1) ≤ bits) : (derivedBytes bits net digest)[index] = net[index] := by
  rw [derivedBytes, Vector.getElem_ofFn, Octets.byte_equal_iff]
  intro bit inside
  rw [Octets.mixed_bit _ _ _ _ inside, Octets.leading_mask_bit _ _ _ inside, if_pos (decide_eq_true (by simp only; omega))]
  rfl

theorem derived_host_byte (bits : Nat) (net : Vector UInt8 16) (digest : Vector UInt8 32) (index : Nat) (bound : index < 16)
    (host : bits ≤ 8 * index) : (derivedBytes bits net digest)[index] = hostByte digest index := by
  rw [derivedBytes, Vector.getElem_ofFn, Octets.byte_equal_iff]
  intro bit inside
  rw [Octets.mixed_bit _ _ _ _ inside, Octets.leading_mask_bit _ _ _ inside, if_neg (by simp only [decide_eq_true_eq]; omega)]

theorem derived_boundary_byte (bits : Nat) (net : Vector UInt8 16) (digest : Vector UInt8 32) (index : Nat) (bound : index < 16)
    (below : 8 * index ≤ bits) (above : bits < 8 * (index + 1)) :
    (derivedBytes bits net digest)[index] =
      net[index] &&& ~~~((0xFF : UInt8) >>> UInt8.ofNat (bits - 8 * index)) |||
        hostByte digest index &&& ((0xFF : UInt8) >>> UInt8.ofNat (bits - 8 * index)) := by
  rw [derivedBytes, Vector.getElem_ofFn, Octets.leading_mask_boundary bits index below above, UInt8.not_not]
  rfl

theorem boundary_byte_derived (bits : Nat) (net : Vector UInt8 16) (digest : Vector UInt8 32) (width : bits ≤ 128) :
    boundaryByte net digest ((128 - bits) / 8) ((128 - bits) % 8)
        (Vector.ofFn fun index => if index.val + (128 - bits) / 8 < 16 then net[index] else hostByte digest index) =
      some (derivedBytes bits net digest) := by
  have others : ∀ index (bound : index < 16), ((128 - bits) % 8 > 0 → 15 - (128 - bits) / 8 ≠ index) →
      (if index + (128 - bits) / 8 < 16 then net[index] else hostByte digest index) = (derivedBytes bits net digest)[index] := by
    intro index bound apart
    by_cases network : index + (128 - bits) / 8 < 16
    · rw [if_pos network, derived_network_byte bits net digest index bound (by omega)]
    · rw [if_neg network, derived_host_byte bits net digest index bound (by omega)]
  unfold boundaryByte
  by_cases leftover : (128 - bits) % 8 > 0
  · rw [if_pos leftover, dif_pos (by omega)]
    apply congrArg some
    apply Vector.ext
    intro index bound
    rw [Vector.getElem_set, Vector.getElem_ofFn]
    by_cases here : 15 - (128 - bits) / 8 = index
    · subst here
      have shift : 8 - (128 - bits) % 8 = bits - 8 * (15 - (128 - bits) / 8) := by omega
      rw [if_pos rfl, derived_boundary_byte bits net digest _ bound (by omega) (by omega), shift,
        host_byte_get digest _ (by omega) (by omega)]
    · rw [if_neg here]
      exact others index bound fun _ => here
  · rw [if_neg leftover]
    apply congrArg some
    apply Vector.ext
    intro index bound
    rw [Vector.getElem_ofFn]
    exact others index bound fun remainder => absurd remainder leftover

def withLastBit (bytes : Vector UInt8 16) : Vector UInt8 16 :=
  Vector.ofFn fun index => if 15 = index.val then bytes[index] ||| 0x01 else bytes[index]

theorem last_bit_set (bytes : Vector UInt8 16) (position : Nat) (inside : position < 128) :
    Octets.bitAt (withLastBit bytes) position = (Octets.bitAt bytes position || position == 127) := by
  rw [Octets.bit_at_get _ _ (by omega), Octets.bit_at_get _ _ (by omega), withLastBit, Vector.getElem_ofFn]
  by_cases last : 15 = position / 8
  · have table : ∀ bit : Fin 8, (0x01 : UInt8).toNat.testBit bit = (bit.val == 0) := by decide
    have low : (7 - position % 8 == 0) = (position == 127) := by
      rw [Bool.eq_iff_iff, beq_iff_eq, beq_iff_eq]
      omega
    rw [if_pos last, UInt8.toNat_or, Nat.testBit_or, table ⟨7 - position % 8, by omega⟩, low]
    rfl
  · have apart : (position == 127) = false := beq_eq_false_iff_ne.mpr (by omega)
    rw [if_neg last, apart, Bool.or_false]
    rfl

def derivedAddress (bits : Nat) (net : Vector UInt8 16) (digest : Vector UInt8 32) : Vector UInt8 16 :=
  if derivedBytes bits net digest = net then withLastBit net else derivedBytes bits net digest

theorem v6_from_client_id_eq (sha256 : Digest) (net : Vector UInt8 16) (bits : Fin 129) (clientID : ClientID) (round : UInt8) :
    v6FromClientID sha256 (.v6 net bits) clientID round =
      some (.addrFrom16 (derivedAddress bits net (sha256 (round :: clientID.toList)))) := by
  have width : bits.val ≤ 128 := by omega
  simp only [v6FromClientID, Prefix.addr, Addr.addrFrom16, Addr.as16, Prefix.bits, derivedAddress]
  rw [host_bytes_filled _ _ _ (by omega), Option.bind_some, boundary_byte_derived bits net _ width, Option.map_some]
  by_cases network : derivedBytes bits net (sha256 (round :: clientID.toList)) = net
  · have raised : net.set 15 (net[15] ||| 0x01) = withLastBit net := by
      apply Vector.ext
      intro index bound
      rw [withLastBit, Vector.getElem_ofFn, Vector.getElem_set]
      split_ifs with last
      · subst last
        rfl
      · rfl
    simp [network, raised]
  · simp [network]

def SameHost (bits : Nat) (left right : Nat → Bool) : Prop :=
  ∀ position, bits ≤ position → position < 128 → left position = right position

theorem SameHost.symm {bits : Nat} {left right : Nat → Bool} (same : SameHost bits left right) : SameHost bits right left :=
  fun position behind inside => (same position behind inside).symm

theorem SameHost.trans {bits : Nat} {left middle right : Nat → Bool} (first : SameHost bits left middle)
    (second : SameHost bits middle right) : SameHost bits left right :=
  fun position behind inside => (first position behind inside).trans (second position behind inside)

def noHost (_position : Nat) : Bool := false

theorem derived_own_address (bits : Nat) (net : Vector UInt8 16) (digest : Vector UInt8 32) :
    derivedBytes bits net digest = net ↔ SameHost bits (hostBit digest) (Octets.bitAt net) := by
  rw [Octets.bytes_equal_iff]
  constructor
  · intro equal position behind inside
    have here := equal position inside
    rwa [derived_bit bits net digest position inside, if_neg (Nat.not_lt.mpr behind)] at here
  · intro same position inside
    rw [derived_bit bits net digest position inside]
    by_cases before : position < bits
    · rw [if_pos before]
    · rw [if_neg before, same position (Nat.le_of_not_lt before) inside]

theorem derived_network_bit (bits : Nat) (short : bits ≤ 126) (net : Vector UInt8 16) (digest : Vector UInt8 32) (position : Nat)
    (before : position < bits) : Octets.bitAt (derivedAddress bits net digest) position = Octets.bitAt net position := by
  have inside : position < 128 := by omega
  have apart : (position == 127) = false := beq_eq_false_iff_ne.mpr (by omega)
  unfold derivedAddress
  split_ifs
  · rw [last_bit_set net position inside, apart, Bool.or_false]
  · rw [derived_bit bits net digest position inside, if_pos before]

theorem derived_host_kept (bits : Nat) (net : Vector UInt8 16) (digest : Vector UInt8 32)
    (other : ¬ SameHost bits (hostBit digest) (Octets.bitAt net)) :
    SameHost bits (Octets.bitAt (derivedAddress bits net digest)) (hostBit digest) := by
  intro position behind inside
  rw [derivedAddress, if_neg (mt (derived_own_address bits net digest).mp other), derived_bit bits net digest position inside,
    if_neg (Nat.not_lt.mpr behind)]

theorem derived_host_replaced (bits : Nat) (net : Vector UInt8 16) (digest : Vector UInt8 32)
    (same : SameHost bits (hostBit digest) (Octets.bitAt net)) :
    SameHost bits (Octets.bitAt (derivedAddress bits net digest)) fun position => Octets.bitAt net position || position == 127 := by
  intro position _ inside
  rw [derivedAddress, if_pos ((derived_own_address bits net digest).mpr same), last_bit_set net position inside]

theorem v6_from_client_id_inside (sha256 : Digest) (net : Vector UInt8 16) (bits : Fin 129) (large : bits.val ≤ 126)
    (clientID : ClientID) (round : UInt8) (a : Addr)
    (derived : v6FromClientID sha256 (.v6 net bits) clientID round = some a) :
    (Prefix.v6 net bits).contains a = true := by
  rw [v6_from_client_id_eq] at derived
  cases derived
  simp only [Prefix.contains, Addr.addrFrom16, beq_self_eq_true, Bool.true_and]
  rw [Octets.agree_bits _ _ _ (by omega)]
  intro position before
  exact (derived_network_bit bits large net _ position before).symm

end Packethose
