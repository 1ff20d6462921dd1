import Packethose.Lib.Octets

set_option autoImplicit false

namespace Packethose

-- netip.Addr: the zero value is the only invalid address. An IPv4-mapped IPv6
-- address is a v6 value and never equals the IPv4 address it embeds.
inductive Addr where
  | zero
  | v4 (bytes : Vector UInt8 4)
  | v6 (bytes : Vector UInt8 16) (zone : String)
deriving DecidableEq, Repr

namespace Addr

def isValid : Addr → Bool
  | .zero => false
  | _ => true

def is4 : Addr → Bool
  | .v4 _ => true
  | _ => false

def is6 : Addr → Bool
  | .v6 _ _ => true
  | _ => false

def isUnspecified (addr : Addr) : Bool :=
  addr == .v4 (Vector.replicate 4 0) || addr == .v6 (Vector.replicate 16 0) ""

def addrFrom4 (bytes : Vector UInt8 4) : Addr := .v4 bytes

def addrFrom16 (bytes : Vector UInt8 16) : Addr := .v6 bytes ""

def as4 : Addr → Option (Vector UInt8 4)
  | .v4 bytes => some bytes
  | .v6 bytes _ =>
      if bytes.toList.take 12 = [0, 0, 0, 0, 0, 0, 0, 0, 0, 0, 0xFF, 0xFF] then
        some (Octets.window 4 bytes.toList 12)
      else none
  | .zero => none

def as16 : Addr → Vector UInt8 16
  | .zero => Vector.replicate 16 0
  | .v4 bytes => Octets.window 16 ([0, 0, 0, 0, 0, 0, 0, 0, 0, 0, 0xFF, 0xFF] ++ bytes.toList) 0
  | .v6 bytes _ => bytes

end Addr

-- netip.Prefix: PrefixFrom drops the zone and refuses lengths beyond the
-- address width, so an out-of-range prefix is not a value of this type.
inductive Prefix where
  | invalid
  | v4 (net : Vector UInt8 4) (bits : Fin 33)
  | v6 (net : Vector UInt8 16) (bits : Fin 129)
deriving DecidableEq, Repr

namespace Prefix

def isValid : Prefix → Bool
  | .invalid => false
  | _ => true

def addr : Prefix → Addr
  | .invalid => .zero
  | .v4 net _ => .addrFrom4 net
  | .v6 net _ => .addrFrom16 net

def bits : Prefix → Nat
  | .invalid => 0
  | .v4 _ bits => bits
  | .v6 _ bits => bits

def masked : Prefix → Prefix
  | .invalid => .invalid
  | .v4 net bits => .v4 (Octets.maskBytes bits net) bits
  | .v6 net bits => .v6 (Octets.maskBytes bits net) bits

def contains : Prefix → Addr → Bool
  | .v4 net bits, .v4 bytes => Octets.agree bits net bytes
  | .v6 net bits, .v6 bytes zone => zone == "" && Octets.agree bits net bytes
  | _, _ => false

theorem masked_contains (subnet : Prefix) (address : Addr) : subnet.masked.contains address = subnet.contains address := by
  cases subnet <;> cases address <;> simp only [masked, contains, Octets.agree_masked]

theorem masked_masked (subnet : Prefix) : subnet.masked.masked = subnet.masked := by
  cases subnet <;> simp only [masked, Octets.mask_bytes_twice]

theorem contains_family (subnet : Prefix) (address : Addr) (inside : subnet.contains address = true) :
    address.isValid = true ∧ address.is4 = subnet.addr.is4 ∧ address.is6 = subnet.addr.is6 := by
  cases subnet <;> cases address <;> first | exact ⟨rfl, rfl, rfl⟩ | cases inside

end Prefix

end Packethose
