import Mathlib.Data.List.Induction
import Packethose.Lib.Numerals
import Packethose.Nftables
import Packethose.PoolHistory

set_option autoImplicit false

namespace Packethose

structure TPROXYListener where
  cfg : TPROXYConfig

def newTPROXYListener (cfg : TPROXYConfig) : TPROXYListener :=
  if !cfg.enabled then ⟨cfg⟩
  else
    ⟨{ cfg with
      listenAddr := orDefault cfg.listenAddr "0.0.0.0"
      listenPort := if cfg.listenPort = 0 then 13338 else cfg.listenPort
      udpIdleTimeout := if cfg.udpIdleTimeout ≤ 0 then durationOfSeconds 60 else cfg.udpIdleTimeout }⟩

namespace TPROXYListener

def inPool (t : TPROXYListener) (addr : Addr) : Bool :=
  if !addr.isValid then false
  else if t.cfg.serverIP4.isValid && addr == t.cfg.serverIP4 then false
  else if t.cfg.serverIP6.isValid && addr == t.cfg.serverIP6 then false
  else if t.cfg.poolV4.isValid && t.cfg.poolV4.contains addr then true
  else if t.cfg.poolV6.isValid && t.cfg.poolV6.contains addr then true
  else false

def refuses (t : TPROXYListener) (dst : Addr) : Bool := t.cfg.enforceIsolation && t.inPool dst

end TPROXYListener

theorem Prefix.contains_valid (subnet : Prefix) (addr : Addr) (inside : subnet.contains addr = true) : subnet.isValid = true := by
  cases subnet with
  | invalid => cases inside
  | v4 net bits => rfl
  | v6 net bits => rfl

structure AddrPort where
  addr : Addr
  port : UInt16
deriving DecidableEq

inductive IP where
  | four (bytes : Vector UInt8 4)
  | sixteen (bytes : Vector UInt8 16)
deriving DecidableEq

structure TCPAddr where
  ip : IP
  port : UInt16
  zone : String
deriving DecidableEq

def Addr.is4In6 (addr : Addr) : Bool := addr.is6 && addr.as4.isSome

def Addr.unmap : Addr → Addr
  | .v6 bytes zone =>
      match (Addr.v6 bytes zone).as4 with
      | some embedded => .v4 embedded
      | none => .v6 bytes zone
  | addr => addr

def Addr.withZone : Addr → String → Addr
  | .v6 bytes _, zone => .v6 bytes zone
  | addr, _ => addr

def IP.addr : IP → Addr
  | .four bytes => .addrFrom4 bytes
  | .sixteen bytes => .addrFrom16 bytes

structure ControlMessage where
  level : Int
  kind : Int
  data : Bytes
deriving DecidableEq

-- What the packages net, netip and unix do. An address that embeds an IPv4 one
-- is printed in IPv4 form, and no IPv4 form carries a zone.
structure NetLib where
  tcpAddrText : TCPAddr → String
  parseAddrPort : String → Except String AddrPort
  addrPortText : AddrPort → String
  parseSocketControlMessage : Bytes → Except String (List ControlMessage)
  printed : ∀ a : TCPAddr, (a.zone ≠ "" → a.ip.addr.unmap.is6 = true) →
    parseAddrPort (tcpAddrText a) = .ok ⟨a.ip.addr.unmap.withZone a.zone, a.port⟩

def originalTCPDst (net : NetLib) (localAddr : TCPAddr) : Except String AddrPort :=
  (net.parseAddrPort (net.tcpAddrText localAddr)).mapError fun problem => "parse local addr: " ++ problem

def ipprotoIP : Int := 0
def ipprotoIPv6 : Int := 41
def ipTOS : Int := 1
def ipOrigDstAddr : Int := 20
def ipv6TClass : Int := 67
def ipv6OrigDstAddr : Int := 74

structure PerPacket where
  dst : AddrPort
  dscp : UInt8
  ok : Bool
deriving DecidableEq

def PerPacket.empty : PerPacket := ⟨⟨.zero, 0⟩, 0, false⟩

def portField (data : Bytes) : UInt16 := UInt16.ofNat (Octets.getUint16 (data.getD 2 0) (data.getD 3 0))

def PerPacket.read (packet : PerPacket) (m : ControlMessage) : PerPacket :=
  if m.level = ipprotoIP ∧ m.kind = ipOrigDstAddr ∧ 8 ≤ m.data.length then
    { packet with dst := ⟨.addrFrom4 (Octets.window 4 m.data 4), portField m.data⟩, ok := true }
  else if m.level = ipprotoIPv6 ∧ m.kind = ipv6OrigDstAddr ∧ 24 ≤ m.data.length then
    { packet with dst := ⟨.addrFrom16 (Octets.window 16 m.data 8), portField m.data⟩, ok := true }
  else if m.level = ipprotoIP ∧ m.kind = ipTOS ∧ 1 ≤ m.data.length then { packet with dscp := m.data.getD 0 0 }
  else if m.level = ipprotoIPv6 ∧ m.kind = ipv6TClass ∧ 4 ≤ m.data.length then { packet with dscp := m.data.getD 0 0 }
  else packet

def parsePerPacketCmsg (net : NetLib) (cbuf : Bytes) : PerPacket :=
  match net.parseSocketControlMessage cbuf with
  | .error _ => .empty
  | .ok msgs => msgs.foldl PerPacket.read .empty

inductive RawSockaddrAny where
  | inet4 (addr : Vector UInt8 4) (port : UInt16)
  | inet6 (addr : Vector UInt8 16) (port : UInt16)
  | other

def hostOrder (port : UInt16) : UInt16 := port >>> 8 ||| port <<< 8

-- As4 is called before Is4In6 is asked, and panics on every other IPv6
-- address: none.
def rawSockaddrToAddrPort : RawSockaddrAny → Option AddrPort
  | .inet4 addr port => some ⟨.addrFrom4 addr, hostOrder port⟩
  | .inet6 addr port =>
      (Addr.addrFrom16 addr).as4.map fun v4 =>
        ⟨if (Addr.addrFrom16 addr).is4In6 then .addrFrom4 v4 else .addrFrom16 addr, hostOrder port⟩
  | .other => some ⟨.zero, 0⟩

structure Datagram where
  name : RawSockaddrAny
  control : Bytes
  payloadLen : Nat

inductive Screened (α : Type) where
  | panicked
  | skipped
  | refused
  | passed (dst : α)
deriving DecidableEq

namespace TPROXYListener

def screenUDP (net : NetLib) (t : TPROXYListener) (d : Datagram) : Screened (AddrPort × PerPacket) :=
  if d.payloadLen ≤ 0 then .skipped
  else
    match rawSockaddrToAddrPort d.name with
    | none => .panicked
    | some src =>
        let packet := parsePerPacketCmsg net d.control
        if !packet.ok then .skipped
        else if t.refuses packet.dst.addr then .refused
        else .passed (src, packet)

def screenTCP (net : NetLib) (t : TPROXYListener) (localAddr : TCPAddr) : Screened AddrPort :=
  match originalTCPDst net localAddr with
  | .error _ => .skipped
  | .ok dst => if t.refuses dst.addr then .refused else .passed dst

end TPROXYListener

structure UDPFlow where
  src : AddrPort
  dst : AddrPort
  upstream : AddrPort
  lastDSCP : UInt8
deriving DecidableEq

structure RelayState where
  flows : Table String UDPFlow
  sent : List AddrPort
  crashed : Bool

inductive RelayAction where
  | datagram (d : Datagram) (opens : Bool)
  | flowEnds (key : String)
  | connection (localAddr : TCPAddr)

def dialled (dst : AddrPort) : AddrPort := ⟨dst.addr.unmap, dst.port⟩

namespace RelayState

def start : RelayState := ⟨∅, [], false⟩

def write (r : RelayState) (key : String) (flow : UDPFlow) (dscp : UInt8) : RelayState :=
  { r with
    flows := r.flows.insert key { flow with lastDSCP := if dscp ≠ 0 ∧ dscp ≠ flow.lastDSCP then dscp else flow.lastDSCP }
    sent := r.sent ++ [flow.upstream] }

def forward (net : NetLib) (r : RelayState) (src : AddrPort) (packet : PerPacket) (opens : Bool) : RelayState :=
  let key := net.addrPortText src ++ "|" ++ net.addrPortText packet.dst
  match r.flows.lookup key with
  | some flow => r.write key flow packet.dscp
  | none => if opens then r.write key ⟨src, packet.dst, dialled packet.dst, 0⟩ packet.dscp else r

def step (net : NetLib) (t : TPROXYListener) (r : RelayState) (action : RelayAction) : Option RelayState :=
  if r.crashed then none
  else
    match action with
    | .datagram d opens =>
        match t.screenUDP net d with
        | .panicked => some { r with crashed := true }
        | .passed (src, packet) => some (r.forward net src packet opens)
        | _ => some r
    | .flowEnds key => some { r with flows := r.flows.erase key }
    | .connection localAddr =>
        match t.screenTCP net localAddr with
        | .passed dst => some { r with sent := r.sent ++ [dialled dst] }
        | _ => some r

end RelayState

inductive Destination where
  | v4 (bytes : Vector UInt8 4)
  | v6 (bytes : Vector UInt8 16) (zone : String) (genuine : (Addr.addrFrom16 bytes).is4In6 = false)

inductive Form where
  | plain
  | mapped
deriving DecidableEq

namespace Destination

def addr : Destination → Addr
  | .v4 bytes => .addrFrom4 bytes
  | .v6 bytes _ _ => .addrFrom16 bytes

def zone : Destination → String
  | .v4 _ => ""
  | .v6 _ zone _ => zone

def ip : Destination → Form → IP
  | .v4 bytes, .plain => .four bytes
  | .v4 bytes, .mapped => .sixteen (Addr.addrFrom4 bytes).as16
  | .v6 bytes _ _, _ => .sixteen bytes

def localAddr (dst : Destination) (form : Form) (port : UInt16) : TCPAddr := ⟨dst.ip form, port, dst.zone⟩

end Destination

def ControlMessage.isOrigin (m : ControlMessage) : Bool :=
  (m.level == ipprotoIP && m.kind == ipOrigDstAddr && decide (8 ≤ m.data.length)) ||
    (m.level == ipprotoIPv6 && m.kind == ipv6OrigDstAddr && decide (24 ≤ m.data.length))

def ControlMessage.Names (m : ControlMessage) (port : UInt16) : IP → Prop
  | .four bytes => m.level = ipprotoIP ∧ m.kind = ipOrigDstAddr ∧ 8 ≤ m.data.length ∧ Octets.window 4 m.data 4 = bytes ∧
      portField m.data = port
  | .sixteen bytes => m.level = ipprotoIPv6 ∧ m.kind = ipv6OrigDstAddr ∧ 24 ≤ m.data.length ∧
      Octets.window 16 m.data 8 = bytes ∧ portField m.data = port

def NetLib.Origin (net : NetLib) (control : Bytes) (ip : IP) (port : UInt16) : Prop :=
  ∃ before m after, net.parseSocketControlMessage control = .ok (before ++ m :: after) ∧ m.Names port ip ∧
    ∀ other ∈ after, other.isOrigin = false

def NetLib.Carries (net : NetLib) (control : Bytes) (dst : Destination) (form : Form) (port : UInt16) : Prop :=
  net.Origin control (dst.ip form) port

def Addr.unzoned : Addr → Addr
  | .v6 bytes _ => .v6 bytes ""
  | addr => addr

def TPROXYListener.Client (t : TPROXYListener) (addr : Addr) : Prop :=
  (t.cfg.poolV4.contains addr = true ∨ t.cfg.poolV6.contains addr = true) ∧ addr ≠ t.cfg.serverIP4 ∧ addr ≠ t.cfg.serverIP6

instance (t : TPROXYListener) (addr : Addr) : Decidable (t.Client addr) := inferInstanceAs (Decidable (_ ∧ _))

def RawSockaddrAny.genuine6 : RawSockaddrAny → Bool
  | .inet6 addr _ => !(Addr.addrFrom16 addr).is4In6
  | _ => false

-- A client address is only met where both checks can see it: as a datagram
-- with data from an IPv4 source, in a form that is a client address too, and
-- as a local address without a zone. And no other address has such a form.
def TPROXYListener.Told (t : TPROXYListener) (d : Datagram) (dst : Destination) (form : Form) : Prop :=
  (t.Client dst.addr → 0 < d.payloadLen ∧ d.name.genuine6 = false ∧ dst.zone = "" ∧ t.Client (dst.ip form).addr) ∧
    (0 < d.payloadLen → d.name.genuine6 = false → t.Client (dst.ip form).addr → t.Client dst.addr)

theorem as16_bytes (bytes : Vector UInt8 4) :
    (Addr.addrFrom4 bytes).as16.toList = [0, 0, 0, 0, 0, 0, 0, 0, 0, 0, 0xFF, 0xFF] ++ bytes.toList := by
  rw [Addr.addrFrom4, Addr.as16, Octets.window_bytes _ _ _ (by simp)]
  exact List.take_of_length_le (by simp)

theorem as4_mapped (bytes : Vector UInt8 4) (zone : String) : (Addr.v6 (Addr.addrFrom4 bytes).as16 zone).as4 = some bytes := by
  simp only [Addr.as4, as16_bytes]
  rw [if_pos (by simp)]
  apply congrArg some
  apply Vector.toList_inj.mp
  rw [Octets.window_bytes _ _ _ (by simp)]
  exact List.take_of_length_le (by simp)

theorem unmap_mapped (bytes : Vector UInt8 4) (zone : String) :
    (Addr.v6 (Addr.addrFrom4 bytes).as16 zone).unmap = .v4 bytes := by
  simp only [Addr.unmap, as4_mapped]

theorem unmap_genuine (bytes : Vector UInt8 16) (zone : String) (genuine : (Addr.addrFrom16 bytes).is4In6 = false) :
    (Addr.v6 bytes zone).unmap = .v6 bytes zone := by
  have absent : (Addr.v6 bytes zone).as4 = none := by
    simpa [Addr.is4In6, Addr.is6, Addr.addrFrom16, Addr.as4] using genuine
  simp only [Addr.unmap, absent]

theorem Destination.unmap_ip (dst : Destination) (form : Form) : (dst.ip form).addr.unmap = dst.addr := by
  cases dst with
  | v4 bytes =>
      cases form with
      | plain => rfl
      | mapped => exact unmap_mapped bytes ""
  | v6 bytes zone genuine => exact unmap_genuine bytes "" genuine

theorem sixteen_destination (bytes : Vector UInt8 16) : ∃ dst form, Destination.ip dst form = .sixteen bytes := by
  cases mapped : (Addr.addrFrom16 bytes).is4In6 with
  | false => exact ⟨.v6 bytes "" mapped, .plain, rfl⟩
  | true =>
      refine ⟨.v4 (Octets.window 4 bytes.toList 12), .mapped, ?_⟩
      have leading : bytes.toList.take 12 = [0, 0, 0, 0, 0, 0, 0, 0, 0, 0, 0xFF, 0xFF] := by
        simpa [Addr.is4In6, Addr.is6, Addr.addrFrom16, Addr.as4] using mapped
      rw [Destination.ip]
      apply congrArg IP.sixteen
      apply Vector.toList_inj.mp
      rw [as16_bytes, Octets.window_bytes _ _ _ (by simp), List.take_of_length_le (by simp), ← leading]
      exact List.take_append_drop 12 bytes.toList

section Control

variable (net : NetLib) (control : Bytes)

theorem read_other (packet : PerPacket) (m : ControlMessage) (other : m.isOrigin = false) :
    (packet.read m).dst = packet.dst ∧ (packet.read m).ok = packet.ok := by
  simp only [ControlMessage.isOrigin, Bool.or_eq_false_iff, Bool.and_eq_false_iff, beq_eq_false_iff_ne, decide_eq_false_iff_not] at other
  unfold PerPacket.read
  rw [if_neg (by tauto), if_neg (by tauto)]
  split_ifs <;> exact ⟨rfl, rfl⟩

theorem read_others (packet : PerPacket) (after : List ControlMessage) (others : ∀ m ∈ after, m.isOrigin = false) :
    (after.foldl PerPacket.read packet).dst = packet.dst ∧ (after.foldl PerPacket.read packet).ok = packet.ok := by
  induction after generalizing packet with
  | nil => exact ⟨rfl, rfl⟩
  | cons m rest ih =>
      obtain ⟨dst, ok⟩ := read_other packet m (others m (by simp))
      obtain ⟨dst', ok'⟩ := ih (packet.read m) fun other member => others other (by simp [member])
      exact ⟨dst'.trans dst, ok'.trans ok⟩

theorem read_named (packet : PerPacket) (m : ControlMessage) (ip : IP) (port : UInt16) (named : m.Names port ip) :
    (packet.read m).dst = ⟨ip.addr, port⟩ ∧ (packet.read m).ok = true := by
  cases ip with
  | four bytes =>
      obtain ⟨level, kind, long, rfl, rfl⟩ := named
      rw [PerPacket.read, if_pos ⟨level, kind, long⟩]
      exact ⟨rfl, rfl⟩
  | sixteen bytes =>
      obtain ⟨level, kind, long, rfl, rfl⟩ := named
      rw [PerPacket.read, if_neg (by rw [level]; rintro ⟨wrong, _⟩; cases wrong), if_pos ⟨level, kind, long⟩]
      exact ⟨rfl, rfl⟩

theorem origin_packet (ip : IP) (port : UInt16) (origin : net.Origin control ip port) :
    (parsePerPacketCmsg net control).dst = ⟨ip.addr, port⟩ ∧ (parsePerPacketCmsg net control).ok = true := by
  obtain ⟨before, m, after, parsed, named, others⟩ := origin
  rw [parsePerPacketCmsg, parsed]
  simp only [List.foldl_append, List.foldl_cons]
  obtain ⟨target, ok⟩ := read_others ((before.foldl PerPacket.read .empty).read m) after others
  obtain ⟨target', ok'⟩ := read_named (before.foldl PerPacket.read .empty) m ip port named
  exact ⟨target.trans target', ok.trans ok'⟩

theorem origin_names (m : ControlMessage) (origin : m.isOrigin = true) :
    ∃ dst form, m.Names (portField m.data) (Destination.ip dst form) := by
  simp only [ControlMessage.isOrigin, Bool.or_eq_true, Bool.and_eq_true, beq_iff_eq, decide_eq_true_eq] at origin
  rcases origin with ⟨⟨level, kind⟩, long⟩ | ⟨⟨level, kind⟩, long⟩
  · exact ⟨.v4 (Octets.window 4 m.data 4), .plain, level, kind, long, rfl, rfl⟩
  · obtain ⟨dst, form, same⟩ := sixteen_destination (Octets.window 16 m.data 8)
    exact ⟨dst, form, same ▸ ⟨level, kind, long, rfl, rfl⟩⟩

theorem last_origin (msgs : List ControlMessage) (accepted : (msgs.foldl PerPacket.read .empty).ok = true) :
    ∃ before m after, msgs = before ++ m :: after ∧ m.isOrigin = true ∧ ∀ other ∈ after, other.isOrigin = false := by
  induction msgs using List.reverseRecOn with
  | nil => cases accepted
  | append_singleton rest m ih =>
      cases origin : m.isOrigin with
      | true => exact ⟨rest, m, [], rfl, origin, by simp⟩
      | false =>
          rw [List.foldl_append, List.foldl_cons, List.foldl_nil, (read_other _ m origin).2] at accepted
          obtain ⟨before, found, after, rfl, holds, others⟩ := ih accepted
          refine ⟨before, found, after ++ [m], by simp, holds, fun other member => ?_⟩
          rcases List.mem_append.mp member with inside | here
          · exact others other inside
          · exact List.mem_singleton.mp here ▸ origin

theorem accepted_carries (accepted : (parsePerPacketCmsg net control).ok = true) :
    ∃ dst form port, net.Carries control dst form port := by
  rw [parsePerPacketCmsg] at accepted
  cases parsed : net.parseSocketControlMessage control with
  | error problem =>
      rw [parsed] at accepted
      cases accepted
  | ok msgs =>
      rw [parsed] at accepted
      obtain ⟨before, m, after, rfl, origin, others⟩ := last_origin msgs accepted
      obtain ⟨dst, form, named⟩ := origin_names m origin
      exact ⟨dst, form, _, before, m, after, parsed, named, others⟩

end Control

theorem in_pool_iff (t : TPROXYListener) (addr : Addr) : t.inPool addr = true ↔ t.Client addr := by
  constructor
  · intro inside
    unfold TPROXYListener.inPool at inside
    split_ifs at inside with invalid own4 own6 in4 in6
    all_goals
      have apart4 : addr ≠ t.cfg.serverIP4 := by
        rintro rfl
        exact own4 (by simpa using invalid)
      have apart6 : addr ≠ t.cfg.serverIP6 := by
        rintro rfl
        exact own6 (by simpa using invalid)
    · exact ⟨.inl (Bool.and_eq_true_iff.mp in4).2, apart4, apart6⟩
    · exact ⟨.inr (Bool.and_eq_true_iff.mp in6).2, apart4, apart6⟩
  · rintro ⟨inside, apart4, apart6⟩
    cases inside with
    | inl four =>
        simp [TPROXYListener.inPool, (Prefix.contains_family _ _ four).1, apart4, apart6, four, Prefix.contains_valid _ _ four]
    | inr six =>
        simp [TPROXYListener.inPool, (Prefix.contains_family _ _ six).1, apart4, apart6, six, Prefix.contains_valid _ _ six]

section Screens

variable (net : NetLib) (t : TPROXYListener)

theorem refuses_iff (enforced : t.cfg.enforceIsolation = true) (addr : Addr) : t.refuses addr = true ↔ t.Client addr := by
  rw [TPROXYListener.refuses, enforced, Bool.true_and, in_pool_iff]

theorem source_read (name : RawSockaddrAny) : (∃ src, rawSockaddrToAddrPort name = some src) ↔ name.genuine6 = false := by
  cases name with
  | inet4 addr port => simp [rawSockaddrToAddrPort, RawSockaddrAny.genuine6]
  | inet6 addr port =>
      simp [rawSockaddrToAddrPort, RawSockaddrAny.genuine6, Addr.is4In6, Addr.addrFrom16, Addr.is6, Option.isSome_iff_exists]
  | other => simp [rawSockaddrToAddrPort, RawSockaddrAny.genuine6]

theorem screen_udp_refused (enforced : t.cfg.enforceIsolation = true) (d : Datagram) (dst : Destination) (form : Form)
    (port : UInt16) (carries : net.Carries d.control dst form port) :
    t.screenUDP net d = .refused ↔ 0 < d.payloadLen ∧ d.name.genuine6 = false ∧ t.Client (dst.ip form).addr := by
  obtain ⟨target, ok⟩ := origin_packet net d.control (dst.ip form) port carries
  rw [← source_read, ← refuses_iff t enforced]
  unfold TPROXYListener.screenUDP
  by_cases empty : d.payloadLen ≤ 0
  · rw [if_pos empty]
    simp
    omega
  · rw [if_neg empty]
    cases rawSockaddrToAddrPort d.name with
    | none => simp
    | some src =>
        simp only [ok, target, Bool.not_true, Bool.false_eq_true, if_false]
        by_cases refuses : t.refuses (dst.ip form).addr = true
        · simp [refuses]
          omega
        · simp [refuses]

theorem screen_udp_passed (enforced : t.cfg.enforceIsolation = true) (d : Datagram) (src : AddrPort) (packet : PerPacket)
    (passed : t.screenUDP net d = .passed (src, packet)) :
    0 < d.payloadLen ∧ d.name.genuine6 = false ∧ packet = parsePerPacketCmsg net d.control ∧ packet.ok = true ∧
      ¬ t.Client packet.dst.addr := by
  unfold TPROXYListener.screenUDP at passed
  split_ifs at passed with empty
  split at passed
  · cases passed
  · rename_i source read
    dsimp only at passed
    split_ifs at passed with unnamed refuses
    obtain ⟨rfl, rfl⟩ := Prod.mk.inj (Screened.passed.inj passed)
    refine ⟨by omega, (source_read d.name).mp ⟨source, read⟩, rfl, by simpa using unnamed, ?_⟩
    rwa [← refuses_iff t enforced]

theorem screen_tcp (dst : Destination) (form : Form) (port : UInt16) :
    t.screenTCP net (dst.localAddr form port) =
      if t.refuses (dst.addr.withZone dst.zone) then .refused else .passed ⟨dst.addr.withZone dst.zone, port⟩ := by
  have zoned : (dst.localAddr form port).zone ≠ "" → (dst.localAddr form port).ip.addr.unmap.is6 = true := by
    intro zone
    rw [Destination.localAddr, Destination.unmap_ip]
    cases dst with
    | v4 bytes => exact absurd rfl zone
    | v6 bytes => rfl
  rw [TPROXYListener.screenTCP, originalTCPDst, net.printed _ zoned, Destination.localAddr, Destination.unmap_ip]
  rfl

theorem client_with_zone (addr : Addr) (zone : String) (plain : addr.unzoned = addr) (six : zone ≠ "" → addr.is6 = true) :
    t.Client (addr.withZone zone) ↔ zone = "" ∧ t.Client addr := by
  by_cases unzoned : zone = ""
  · have same : addr.withZone zone = addr := by
      rw [unzoned]
      cases addr with
      | zero | v4 => rfl
      | v6 bytes old => exact plain
    rw [same]
    simp [unzoned]
  · cases addr with
    | zero | v4 => cases six unzoned
    | v6 bytes old =>
        have outside : ∀ subnet : Prefix, subnet.contains (.v6 bytes zone) = false := by
          intro subnet
          cases subnet <;> simp [Prefix.contains, unzoned]
        simp [TPROXYListener.Client, Addr.withZone, unzoned, outside]

theorem zoned_client (dst : Destination) : t.Client (dst.addr.withZone dst.zone) ↔ dst.zone = "" ∧ t.Client dst.addr := by
  apply client_with_zone
  · cases dst <;> rfl
  · cases dst with
    | v4 bytes => exact fun zoned => absurd rfl zoned
    | v6 bytes zone genuine => exact fun _ => rfl

theorem Destination.unzoned_dialled (dst : Destination) (port : UInt16) :
    (dialled ⟨dst.addr.withZone dst.zone, port⟩).addr.unzoned = dst.addr := by
  cases dst with
  | v4 bytes => rfl
  | v6 bytes zone genuine =>
      rw [dialled, Destination.addr, Addr.addrFrom16, Addr.withZone, unmap_genuine bytes _ genuine]
      rfl

theorem Destination.unzoned_ip (dst : Destination) (form : Form) (port : UInt16) :
    (dialled ⟨(dst.ip form).addr, port⟩).addr.unzoned = dst.addr := by
  rw [dialled, Destination.unmap_ip]
  cases dst <;> rfl

theorem told_iff (enforced : t.cfg.enforceIsolation = true) (d : Datagram) (dst : Destination) (form tcp : Form) (port : UInt16)
    (carries : net.Carries d.control dst form port) :
    ((t.screenUDP net d = .refused ↔ t.screenTCP net (dst.localAddr tcp port) = .refused) ∧
      (∀ src packet, t.screenUDP net d = .passed (src, packet) → ¬ t.Client (dialled packet.dst).addr.unzoned) ∧
      (∀ target, t.screenTCP net (dst.localAddr tcp port) = .passed target → ¬ t.Client (dialled target).addr.unzoned)) ↔
      t.Told d dst form := by
  have udp := screen_udp_refused net t enforced d dst form port carries
  have seen := refuses_iff t enforced (dst.addr.withZone dst.zone)
  rw [zoned_client] at seen
  have tcpRefused : t.screenTCP net (dst.localAddr tcp port) = .refused ↔ dst.zone = "" ∧ t.Client dst.addr := by
    rw [screen_tcp, ← seen]
    by_cases refuses : t.refuses (dst.addr.withZone dst.zone) = true <;> simp [refuses]
  have tcpPassed : ∀ target, t.screenTCP net (dst.localAddr tcp port) = .passed target →
      ¬ (dst.zone = "" ∧ t.Client dst.addr) ∧ (dialled target).addr.unzoned = dst.addr := by
    intro target passed
    rw [screen_tcp, ← seen] at *
    split_ifs at passed with refuses
    obtain rfl := Screened.passed.inj passed
    exact ⟨refuses, dst.unzoned_dialled port⟩
  have udpPassed : ∀ src packet, t.screenUDP net d = .passed (src, packet) →
      ¬ t.Client (dst.ip form).addr ∧ (dialled packet.dst).addr.unzoned = dst.addr := by
    intro src packet passed
    obtain ⟨_, _, rfl, _, clear⟩ := screen_udp_passed net t enforced d src packet passed
    rw [(origin_packet net d.control (dst.ip form) port carries).1] at clear ⊢
    exact ⟨clear, dst.unzoned_ip form port⟩
  rw [udp, tcpRefused]
  unfold TPROXYListener.Told
  constructor
  · rintro ⟨agree, _, sent⟩
    have zone : t.Client dst.addr → dst.zone = "" := by
      intro client
      by_contra zoned
      have passed : t.screenTCP net (dst.localAddr tcp port) = .passed ⟨dst.addr.withZone dst.zone, port⟩ := by
        rw [screen_tcp, if_neg (by rw [seen]; exact fun both => zoned both.1)]
      exact sent _ passed (by rw [(tcpPassed _ passed).2]; exact client)
    refine ⟨fun client => ?_, fun data source form => (agree.mp ⟨data, source, form⟩).2⟩
    obtain ⟨data, source, form⟩ := agree.mpr ⟨zone client, client⟩
    exact ⟨data, source, zone client, form⟩
  · rintro ⟨visible, alike⟩
    refine ⟨⟨?_, ?_⟩, fun src packet passed client => ?_, fun target passed client => ?_⟩
    · rintro ⟨data, source, form⟩
      have client := alike data source form
      exact ⟨(visible client).2.2.1, client⟩
    · rintro ⟨_, client⟩
      obtain ⟨data, source, _, form⟩ := visible client
      exact ⟨data, source, form⟩
    · obtain ⟨clear, target⟩ := udpPassed src packet passed
      exact clear (visible (target ▸ client)).2.2.2
    · obtain ⟨clear, same⟩ := tcpPassed target passed
      rw [same] at client
      exact clear ⟨(visible client).2.2.1, client⟩

def TPROXYListener.Visible (t : TPROXYListener) : RelayAction → Prop
  | .datagram d _ => ∀ dst form port, net.Carries d.control dst form port → t.Told d dst form
  | .connection localAddr => ∃ dst form port, localAddr = Destination.localAddr dst form port ∧ (t.Client dst.addr → dst.zone = "")
  | .flowEnds _ => True

structure RelayState.Kept (t : TPROXYListener) (r : RelayState) : Prop where
  sent : ∀ target ∈ r.sent, ¬ t.Client target.addr.unzoned
  flows : ∀ key flow, r.flows.lookup key = some flow → ¬ t.Client flow.upstream.addr.unzoned

theorem kept_write (r : RelayState) (key : String) (flow : UDPFlow) (dscp : UInt8) (kept : r.Kept t)
    (allowed : ¬ t.Client flow.upstream.addr.unzoned) : (r.write key flow dscp).Kept t := by
  constructor
  · intro target member
    rcases List.mem_append.mp member with earlier | fresh
    · exact kept.sent target earlier
    · exact List.mem_singleton.mp fresh ▸ allowed
  · intro other found stored
    rw [RelayState.write, Table.lookup_put] at stored
    by_cases same : other = key
    · rw [if_pos same] at stored
      exact Option.some.inj stored ▸ allowed
    · rw [if_neg same] at stored
      exact kept.flows other found stored

theorem kept_forward (r : RelayState) (src : AddrPort) (packet : PerPacket) (opens : Bool) (kept : r.Kept t)
    (allowed : ¬ t.Client (dialled packet.dst).addr.unzoned) : (r.forward net src packet opens).Kept t := by
  unfold RelayState.forward
  dsimp only
  split
  · rename_i flow stored
    exact kept_write t r _ flow packet.dscp kept (kept.flows _ flow stored)
  · split_ifs
    · exact kept_write t r _ _ packet.dscp kept allowed
    · exact kept

theorem kept_step (enforced : t.cfg.enforceIsolation = true) :
    Runs.Preserved (RelayState.step net t) (fun _ action => t.Visible net action) (RelayState.Kept t) := by
  intro r action next kept visible taken
  unfold RelayState.step at taken
  split_ifs at taken with crashed
  cases action with
  | datagram d opens =>
      dsimp only at taken
      split at taken
      · cases taken
        exact ⟨kept.sent, kept.flows⟩
      · rename_i src packet passed
        cases taken
        obtain ⟨_, _, same, ok, _⟩ := screen_udp_passed net t enforced d src packet passed
        obtain ⟨dst, form, port, carries⟩ := accepted_carries net d.control (same ▸ ok)
        have told := (told_iff net t enforced d dst form .plain port carries).mpr (visible dst form port carries)
        exact kept_forward net t r src packet opens kept (told.2.1 src packet passed)
      · cases taken
        exact kept
  | flowEnds key =>
      cases taken
      refine ⟨kept.sent, fun other flow stored => ?_⟩
      rw [Table.lookup_drop] at stored
      split_ifs at stored
      exact kept.flows other flow stored
  | connection localAddr =>
      obtain ⟨dst, form, port, rfl, zone⟩ := visible
      dsimp only at taken
      split at taken
      · rename_i target passed
        cases taken
        refine ⟨fun other member => ?_, kept.flows⟩
        rcases List.mem_append.mp member with earlier | fresh
        · exact kept.sent other earlier
        · rw [List.mem_singleton.mp fresh]
          rw [screen_tcp] at passed
          split_ifs at passed with refuses
          obtain rfl := Screened.passed.inj passed
          rw [Destination.unzoned_dialled]
          rw [refuses_iff t enforced, zoned_client] at refuses
          exact fun client => refuses ⟨zone client, client⟩
      · cases taken
        exact kept

theorem isolation_checks_agree (enforced : t.cfg.enforceIsolation = true) :
    (∀ (d : Datagram) (dst : Destination) (form tcp : Form) (port : UInt16), net.Carries d.control dst form port →
      (((t.screenUDP net d = .refused ↔ t.screenTCP net (dst.localAddr tcp port) = .refused) ∧
        (∀ src packet, t.screenUDP net d = .passed (src, packet) → ¬ t.Client (dialled packet.dst).addr.unzoned) ∧
        (∀ target, t.screenTCP net (dst.localAddr tcp port) = .passed target → ¬ t.Client (dialled target).addr.unzoned)) ↔
        t.Told d dst form)) ∧
    (∀ r, Runs.Reach (RelayState.step net t) (fun _ action => t.Visible net action) .start r →
      ∀ target ∈ r.sent, ¬ t.Client target.addr.unzoned) := by
  refine ⟨fun d dst form tcp port carries => told_iff net t enforced d dst form tcp port carries, fun r reached => ?_⟩
  have begins : RelayState.start.Kept t := ⟨by simp [RelayState.start], by simp [RelayState.start]⟩
  exact (Runs.reach_invariant (kept_step net t enforced) reached begins).sent

end Screens

-- netip.AddrPort.String and, for an unmapped address, net.TCPAddr.String. The
-- eight groups of an IPv6 address are written out, without the :: shorthand.
def zoneText (zone : String) : List Char := if zone = "" then [] else '%' :: zone.toList

def endpointText (addr : Addr) (port : UInt16) : String :=
  match addr with
  | .zero => "invalid AddrPort"
  | .v4 bytes => String.ofList (Numerals.joined '.' 10 (bytes.toList.map UInt8.toNat) ++ ':' :: Nat.toDigits 10 port.toNat)
  | .v6 bytes zone =>
      String.ofList ('[' :: (Numerals.joined ':' 16 (Octets.pairs bytes.toList) ++ zoneText zone) ++ ']' ::
        ':' :: Nat.toDigits 10 port.toNat)

def parseIPv4 (text : List Char) : Option Addr :=
  (Numerals.fields '.' 10 256 text).bind fun numbers =>
    if numbers.length = 4 then some (.v4 (Octets.window 4 (numbers.map UInt8.ofNat) 0)) else none

def parseGroups (text : List Char) (zone : String) : Option Addr :=
  (Numerals.fields ':' 16 65536 text).bind fun numbers =>
    if numbers.length = 8 then some (.v6 (Octets.window 16 (numbers.flatMap Octets.putUint16) 0) zone) else none

def parseIPv6 (text : List Char) : Option Addr :=
  match Numerals.cut '%' text with
  | none => parseGroups text ""
  | some (groups, zone) => if zone = [] then none else parseGroups groups (String.ofList zone)

def parseHost : List Char → Option Addr
  | '[' :: rest => if rest.getLast? = some ']' then parseIPv6 rest.dropLast else none
  | text => parseIPv4 text

def parseEndpoint (text : String) : Except String AddrPort :=
  match Numerals.cutLast ':' text.toList with
  | none => .error "not an ip:port"
  | some (host, port) =>
      match Numerals.field 10 65536 port with
      | none => .error "invalid port"
      | some port =>
          match parseHost host with
          | none => .error "unable to parse IP"
          | some addr => .ok ⟨addr, UInt16.ofNat port⟩

theorem parse_joined (bytes : Vector UInt8 4) : parseIPv4 (Numerals.joined '.' 10 (bytes.toList.map UInt8.toNat)) = some (.v4 bytes) := by
  have below : ∀ number ∈ bytes.toList.map UInt8.toNat, number < 256 := by
    intro number member
    obtain ⟨byte, _, rfl⟩ := List.mem_map.mp member
    exact byte.toNat_lt
  have nonempty : bytes.toList.map UInt8.toNat ≠ [] := by
    intro empty
    have length := congrArg List.length empty
    simp at length
  rw [parseIPv4, Numerals.fields_joined 10 (by decide) (by decide) '.' (by decide) 256 _ nonempty below, Option.bind_some,
    if_pos (by simp), List.map_map]
  simp [Function.comp_def, Octets.window_all]

theorem parse_groups (bytes : Vector UInt8 16) (zone : String) :
    parseGroups (Numerals.joined ':' 16 (Octets.pairs bytes.toList)) zone = some (.v6 bytes zone) := by
  have eight : (Octets.pairs bytes.toList).length = 8 := by simp [Octets.pairs_length]
  have nonempty : Octets.pairs bytes.toList ≠ [] := by
    intro empty
    rw [empty] at eight
    cases eight
  rw [parseGroups, Numerals.fields_joined 16 (by decide) (by decide) ':' (by decide) 65536 _ nonempty (Octets.pairs_lt _),
    Option.bind_some, if_pos eight, Octets.pairs_put _ (by simp), Octets.window_all]

theorem parse_zoned (bytes : Vector UInt8 16) (zone : String) :
    parseIPv6 (Numerals.joined ':' 16 (Octets.pairs bytes.toList) ++ zoneText zone) = some (.v6 bytes zone) := by
  have apart : '%' ∉ Numerals.joined ':' 16 (Octets.pairs bytes.toList) :=
    Numerals.joined_avoid 16 (by decide) (by decide) ':' _ '%' (by decide) (by decide)
  unfold parseIPv6 zoneText
  split_ifs with unzoned
  · rw [List.append_nil, Numerals.cut_none '%' _ apart, unzoned]
    exact parse_groups bytes ""
  · have named : zone.toList ≠ [] := fun empty => unzoned (String.toList_inj.mp empty)
    rw [Numerals.cut_front '%' _ _ apart]
    simp only [named, if_false, String.ofList_toList]
    exact parse_groups bytes zone

theorem parse_host_text (host : List Char) (addr : Addr) (port : UInt16) (parsed : parseHost host = some addr) :
    parseEndpoint (String.ofList (host ++ ':' :: Nat.toDigits 10 port.toNat)) = .ok ⟨addr, port⟩ := by
  have digits := Numerals.digits_avoid 10 (by decide) (by decide) port.toNat ':' (by decide)
  have read := Numerals.field_digits 10 (by decide) (by decide) 65536 port.toNat port.toNat_lt
  simp only [parseEndpoint, String.toList_ofList, Numerals.cut_last ':' host _ digits, read, parsed, UInt16.ofNat_toNat]

theorem parse_endpoint_text (addr : Addr) (port : UInt16) (valid : addr.isValid = true) :
    parseEndpoint (endpointText addr port) = .ok ⟨addr, port⟩ := by
  cases addr with
  | zero => cases valid
  | v4 bytes =>
      apply parse_host_text
      have plain : '[' ∉ Numerals.joined '.' 10 (bytes.toList.map UInt8.toNat) :=
        Numerals.joined_avoid 10 (by decide) (by decide) '.' _ '[' (by decide) (by decide)
      rw [← parse_joined bytes]
      unfold parseHost
      split
      · rename_i text rest same
        rw [same] at plain
        simp at plain
      · rfl
  | v6 bytes zone =>
      have framed : endpointText (.v6 bytes zone) port = String.ofList
          (('[' :: (Numerals.joined ':' 16 (Octets.pairs bytes.toList) ++ zoneText zone ++ [']'])) ++ ':' :: Nat.toDigits 10 port.toNat) := by
        simp [endpointText]
      rw [framed]
      apply parse_host_text
      simp only [parseHost, List.getLast?_concat, if_true, List.dropLast_concat]
      exact parse_zoned bytes zone

def int32 (bytes : Bytes) : Int :=
  if Octets.littleEndian bytes < 2147483648 then Octets.littleEndian bytes else Octets.littleEndian bytes - 4294967296

def socketControlMessages : Nat → Bytes → Except String (List ControlMessage)
  | 0, _ => .ok []
  | fuel + 1, b =>
      if b.length < 16 then .ok []
      else if Octets.littleEndian (b.take 8) < 16 ∨ b.length < Octets.littleEndian (b.take 8) then .error "invalid argument"
      else
        (socketControlMessages fuel (b.drop ((Octets.littleEndian (b.take 8) + 7) / 8 * 8))).map fun rest =>
          ⟨int32 ((b.drop 8).take 4), int32 ((b.drop 12).take 4), (b.take (Octets.littleEndian (b.take 8))).drop 16⟩ :: rest

def plainNet : NetLib where
  tcpAddrText a := endpointText (a.ip.addr.unmap.withZone a.zone) a.port
  parseAddrPort := parseEndpoint
  addrPortText a := endpointText a.addr a.port
  parseSocketControlMessage b := socketControlMessages b.length b
  printed := by
    intro a _
    apply parse_endpoint_text
    cases a.ip with
    | four bytes => rfl
    | sixteen bytes =>
        simp only [IP.addr, Addr.addrFrom16, Addr.unmap]
        split <;> rfl

def tunnelListener : TPROXYListener :=
  ⟨⟨true, "", 13338, 0, true, tunnelNet 24, .invalid, tunnelAddr 1, .zero⟩⟩

def tunnelBytes (host : UInt8) : Vector UInt8 4 := Octets.window 4 [10, 66, 0, host] 0

def plainAddr (bytes : Vector UInt8 4) : Bytes := [2, 0, 0, 53] ++ bytes.toList ++ List.replicate 8 0

def mappedAddr (bytes : Vector UInt8 16) : Bytes := [10, 0, 0, 53, 0, 0, 0, 0] ++ bytes.toList ++ List.replicate 4 0

def controlOf : IP → Bytes
  | .four bytes => [32, 0, 0, 0, 0, 0, 0, 0, 0, 0, 0, 0, 20, 0, 0, 0] ++ plainAddr bytes
  | .sixteen bytes => [44, 0, 0, 0, 0, 0, 0, 0, 41, 0, 0, 0, 74, 0, 0, 0] ++ (mappedAddr bytes ++ List.replicate 4 0)

theorem window_after {width : Nat} (before after : Bytes) (bytes : Vector UInt8 width) :
    Octets.window width (before ++ bytes.toList ++ after) before.length = bytes := by
  apply Vector.toList_inj.mp
  rw [Octets.window_bytes _ _ _ (by simp), List.append_assoc, List.drop_left, List.take_left' (by simp)]

theorem control_origin (ip : IP) : plainNet.Origin (controlOf ip) ip 53 := by
  cases ip with
  | four bytes =>
      refine ⟨[], ⟨ipprotoIP, ipOrigDstAddr, plainAddr bytes⟩, [], ?_, ⟨rfl, rfl, by simp [plainAddr], ?_, ?_⟩, by simp⟩
      · simp [plainNet, controlOf, plainAddr, socketControlMessages, Octets.littleEndian, List.take_of_length_le]
        rfl
      · exact window_after [2, 0, 0, 53] (List.replicate 8 0) bytes
      · exact (by decide : UInt16.ofNat (Octets.getUint16 0 53) = 53)
  | sixteen bytes =>
      refine ⟨[], ⟨ipprotoIPv6, ipv6OrigDstAddr, mappedAddr bytes⟩, [], ?_, ⟨rfl, rfl, by simp [mappedAddr], ?_, ?_⟩, by simp⟩
      · simp [plainNet, controlOf, mappedAddr, socketControlMessages, Octets.littleEndian, List.take_append, List.take_of_length_le]
        rfl
      · exact window_after [10, 0, 0, 53, 0, 0, 0, 0] (List.replicate 4 0) bytes
      · exact (by decide : UInt16.ofNat (Octets.getUint16 0 53) = 53)

def plainControl (host : UInt8) : Bytes := controlOf (.four (tunnelBytes host))

def mappedControl (host : UInt8) : Bytes := controlOf (.sixteen (Addr.addrFrom4 (tunnelBytes host)).as16)

def tunnelSource : RawSockaddrAny := .inet4 (tunnelBytes 2) 0x0500

theorem isolation_checks_agree_plain :
    tunnelListener.screenUDP plainNet ⟨tunnelSource, plainControl 3, 5⟩ = .refused ∧
      tunnelListener.screenTCP plainNet (Destination.localAddr (.v4 (tunnelBytes 3)) .plain 53) = .refused := by
  have carries : plainNet.Carries (plainControl 3) (.v4 (tunnelBytes 3)) .plain 53 := control_origin _
  have agree := (isolation_checks_agree plainNet tunnelListener rfl).1 ⟨tunnelSource, plainControl 3, 5⟩ (.v4 (tunnelBytes 3))
    .plain .plain 53 carries
  have told : tunnelListener.Told ⟨tunnelSource, plainControl 3, 5⟩ (.v4 (tunnelBytes 3)) .plain := by
    unfold TPROXYListener.Told
    decide +kernel
  have refused : tunnelListener.screenUDP plainNet ⟨tunnelSource, plainControl 3, 5⟩ = .refused := by decide +kernel
  exact ⟨refused, (agree.mpr told).1.mp refused⟩

-- The same destination in mapped form is not in the pool's prefix, and the
-- socket that is dialled for it reaches the client.
theorem mapped_destination_reached :
    plainNet.Carries (mappedControl 3) (.v4 (tunnelBytes 3)) .mapped 53 ∧
      tunnelListener.screenTCP plainNet (Destination.localAddr (.v4 (tunnelBytes 3)) .mapped 53) = .refused ∧
      ∃ r, RelayState.start.step plainNet tunnelListener (.datagram ⟨tunnelSource, mappedControl 3, 5⟩ true) = some r ∧
        r.sent = [⟨.v4 (tunnelBytes 3), 53⟩] ∧ tunnelListener.Client (.v4 (tunnelBytes 3)) := by
  refine ⟨control_origin _, ?_, ?_⟩
  · rw [screen_tcp, if_pos (by decide +kernel)]
  · have observed : (RelayState.start.step plainNet tunnelListener (.datagram ⟨tunnelSource, mappedControl 3, 5⟩ true)).map
        RelayState.sent = some [⟨.v4 (tunnelBytes 3), 53⟩] := by
      decide +kernel
    obtain ⟨r, taken, sent⟩ := Option.map_eq_some_iff.mp observed
    exact ⟨r, taken, sent, by decide +kernel⟩

end Packethose
