import Packethose.Users

set_option autoImplicit false

namespace Packethose

abbrev ClientID := Vector UInt8 16

-- crypto/sha256, taken as an arbitrary function to 32-byte digests.
abbrev Digest := Bytes → Vector UInt8 32

inductive PoolError where
  | invalidSubnet
  | v4TooSmall (bits : Nat)
  | v6TooSmall (bits : Nat)
  | exhausted
  | hashCollision
deriving DecidableEq, Repr

def PoolError.text : PoolError → String
  | .invalidSubnet => "ipPool: invalid subnet"
  | .v4TooSmall bits => s!"ipPool: v4 subnet /{bits} too small (need >= /30)"
  | .v6TooSmall bits => s!"ipPool: v6 subnet /{bits} too small (need >= /126)"
  | .exhausted => "ipPool: exhausted"
  | .hashCollision => "ipPool: v6 hash collision (try a larger subnet)"

inductive PoolShape : Prefix → Bool → Prop where
  | v4 (net : Vector UInt8 4) (bits : Fin 33) (large : bits.val ≤ 30) : PoolShape (.v4 net bits) true
  | v6 (net : Vector UInt8 16) (bits : Fin 129) (large : bits.val ≤ 126) : PoolShape (.v6 net bits) false

structure IPPool where
  subnet : Prefix
  reserved : Table Addr Bool
  isV4 : Bool
  used : Table Addr Bool
  byClient : Table ClientID Addr
  shape : PoolShape subnet isV4

theorem pool_shape_checked (subnet : Prefix) (valid : ¬ subnet.isValid = false)
    (large4 : ¬ (subnet.masked.addr.is4 = true ∧ subnet.masked.bits > 30))
    (large6 : ¬ (subnet.masked.addr.is4 = false ∧ subnet.masked.bits > 126)) :
    PoolShape subnet.masked subnet.masked.addr.is4 := by
  cases subnet with
  | invalid => exact absurd rfl valid
  | v4 net bits => exact .v4 _ bits (Nat.le_of_not_lt fun big => large4 ⟨rfl, big⟩)
  | v6 net bits => exact .v6 _ bits (Nat.le_of_not_lt fun big => large6 ⟨rfl, big⟩)

def nextAddrLoop (bytes : Vector UInt8 4) : Nat → Vector UInt8 4
  | 0 => bytes
  | index + 1 =>
      if inside : index < 4 then
        let bumped := bytes.set index (bytes[index] + 1)
        if bumped[index] ≠ 0 then bumped else nextAddrLoop bumped index
      else bytes

def nextAddr (bytes : Vector UInt8 4) : Vector UInt8 4 := nextAddrLoop bytes 4

def broadcast4 (net : Vector UInt8 4) (bits : Nat) : Addr :=
  let mask := 0xFFFFFFFF >>> bits
  let value := net[0].toNat <<< 24 ||| net[1].toNat <<< 16 ||| net[2].toNat <<< 8 ||| net[3].toNat
  let v := value ||| mask
  .addrFrom4 #v[UInt8.ofNat (v >>> 24), UInt8.ofNat (v >>> 16), UInt8.ofNat (v >>> 8), UInt8.ofNat v]

def baseReserved : Prefix → Table Addr Bool
  | .v4 net bits => ((∅ : Table Addr Bool).insert (.addrFrom4 net) true).insert (broadcast4 net bits) true
  | subnet => (∅ : Table Addr Bool).insert subnet.addr true

def reserveValid (table : Table Addr Bool) (reserved : List Addr) : Table Addr Bool :=
  reserved.foldl (fun table r => if r.isValid then table.insert r true else table) table

def newIPPool (subnet : Prefix) (reserved : List Addr) : Except PoolError IPPool :=
  if invalid : subnet.isValid = false then .error .invalidSubnet
  else if small4 : subnet.masked.addr.is4 = true ∧ subnet.masked.bits > 30 then
    .error (.v4TooSmall subnet.masked.bits)
  else if small6 : subnet.masked.addr.is4 = false ∧ subnet.masked.bits > 126 then
    .error (.v6TooSmall subnet.masked.bits)
  else .ok
    { subnet := subnet.masked
      reserved := reserveValid (baseReserved subnet.masked) reserved
      isV4 := subnet.masked.addr.is4
      used := ∅
      byClient := ∅
      shape := pool_shape_checked subnet invalid small4 small6 }

-- An out-of-range index is a run-time panic in Go; here it is none.
def hostBytes (digest : Vector UInt8 32) (out : Vector UInt8 16) : Nat → Option (Vector UInt8 16)
  | 0 => some out
  | index + 1 =>
      (hostBytes digest out index).bind fun filled =>
        if inside : index ≤ 15 then some (filled.set (15 - index) digest[index]) else none

def boundaryByte (netBytes : Vector UInt8 16) (digest : Vector UInt8 32) (fullHostBytes remainderBits : Nat)
    (out : Vector UInt8 16) : Option (Vector UInt8 16) :=
  if remainderBits > 0 then
    if inside : fullHostBytes ≤ 15 then
      let hostMask := (0xFF : UInt8) >>> UInt8.ofNat (8 - remainderBits)
      some (out.set (15 - fullHostBytes)
        (netBytes[15 - fullHostBytes] &&& ~~~hostMask ||| digest[fullHostBytes] &&& hostMask))
    else none
  else some out

def v6FromClientID (sha256 : Digest) (subnet : Prefix) (clientID : ClientID) (round : UInt8) : Option Addr :=
  let digest := sha256 (round :: clientID.toList)
  let netBytes := subnet.addr.as16
  let fullHostBytes := (128 - subnet.bits) / 8
  let remainderBits := (128 - subnet.bits) % 8
  (hostBytes digest netBytes fullHostBytes).bind fun filled =>
    (boundaryByte netBytes digest fullHostBytes remainderBits filled).map fun out =>
      if .addrFrom16 out = subnet.addr then .addrFrom16 (out.set 15 (out[15] ||| 0x01)) else .addrFrom16 out

namespace IPPool

def familyMatch (p : IPPool) (a : Addr) : Bool :=
  if a.isValid = false then false else if p.isV4 then a.is4 else a.is6

def otherUserReserved (userName : String) (db : Option UserDB) (a : Addr) : Bool :=
  match db with
  | none => false
  | some db => db.reservationOwner a != "" && db.reservationOwner a != userName

def ownsReservation (userName : String) (db : Option UserDB) (a : Addr) : Bool :=
  match db with
  | none => false
  | some db => db.reservationOwner a == userName

def preferredGranted (p : IPPool) (userName : String) (preferred : Addr) (db : Option UserDB) : Bool :=
  preferred.isValid && !preferred.isUnspecified && p.familyMatch preferred && p.subnet.contains preferred &&
    !p.used.flag preferred && !otherUserReserved userName db preferred &&
    (!p.reserved.flag preferred || ownsReservation userName db preferred)

def ownReservation (p : IPPool) (userName : String) (db : Option UserDB) : Option Addr :=
  match db with
  | none => none
  | some db =>
      if userName = "" then none
      else (db.reservedFor userName).find? fun r => p.familyMatch r && p.subnet.contains r && !p.used.flag r

-- A walk over a full /0 pool never ends: after 2^32 addresses it is back where
-- it started. The outer none is that endless walk.
def walk (p : IPPool) : Nat → Vector UInt8 4 → Option (Except PoolError Addr)
  | 0, _ => none
  | fuel + 1, bytes =>
      if p.subnet.contains (.addrFrom4 bytes) then
        if p.reserved.flag (.addrFrom4 bytes) || p.used.flag (.addrFrom4 bytes) then walk p fuel (nextAddr bytes)
        else some (.ok (.addrFrom4 bytes))
      else some (.error .exhausted)

def v6Rounds (sha256 : Digest) (p : IPPool) (clientID : ClientID) : List UInt8 → Option (Except PoolError Addr)
  | [] => some (.error .hashCollision)
  | round :: rest =>
      (v6FromClientID sha256 p.subnet clientID round).bind fun candidate =>
        if p.reserved.flag candidate || p.used.flag candidate then v6Rounds sha256 p clientID rest
        else some (.ok candidate)

def general (sha256 : Digest) (p : IPPool) (clientID : ClientID) : Option (Except PoolError Addr) :=
  if p.isV4 then p.subnet.addr.as4.bind fun net => p.walk UInt32.size (nextAddr net)
  else p.v6Rounds sha256 clientID [0, 1, 2, 3, 4, 5, 6, 7]

def choose (sha256 : Digest) (p : IPPool) (userName : String) (clientID : ClientID) (preferred : Addr)
    (db : Option UserDB) : Option (Except PoolError Addr) :=
  if p.preferredGranted userName preferred db then some (.ok preferred)
  else match p.ownReservation userName db with
    | some r => some (.ok r)
    | none => p.general sha256 clientID

def record (p : IPPool) (clientID : ClientID) (a : Addr) : IPPool :=
  { p with used := p.used.insert a true, byClient := p.byClient.insert clientID a }

def allocateFor (sha256 : Digest) (p : IPPool) (userName : String) (clientID : ClientID) (preferred : Addr)
    (db : Option UserDB) : Option (IPPool × Except PoolError Addr) :=
  match p.byClient.lookup clientID with
  | some cur => some (p, .ok cur)
  | none =>
      (p.choose sha256 userName clientID preferred db).map fun
        | .ok a => (p.record clientID a, .ok a)
        | .error problem => (p, .error problem)

def allocate (sha256 : Digest) (p : IPPool) (clientID : ClientID) (preferred : Addr) :
    Option (IPPool × Except PoolError Addr) :=
  p.allocateFor sha256 "" clientID preferred none

def claim (p : IPPool) (clientID : ClientID) (addr : Addr) : IPPool :=
  if addr.isValid = false then p
  else if p.isV4 && !addr.is4 then p
  else if !p.isV4 && !addr.is6 then p
  else p.record clientID addr

def release (p : IPPool) (clientID : ClientID) : IPPool :=
  match p.byClient.lookup clientID with
  | some addr => { p with used := p.used.erase addr, byClient := p.byClient.erase clientID }
  | none => p

end IPPool

end Packethose
