import Packethose.Relay
import Packethose.SessionPools

set_option autoImplicit false

namespace Packethose

-- What Server.Run asks of the machine it runs on. tunSetIff opens a queue of a
-- device and returns its name; finds is the socket lookup of a tproxy rule for
-- a listener; localAddr, origDst and datagram are what the listener's sockets
-- report of a packet redirected to them, the last for so many bytes of data;
-- route names the device a packet for an outside address leaves by.
structure Host where
  lookPath : Except String Unit
  reconcile : NFTInstaller → Except String Unit
  startListener : TPROXYListener → Except String Unit
  listen : String → Except String Unit
  numCPU : Nat
  tunSetIff : Nat → String → Bool → Bool → Except String String
  configureInterface : String → ServerSettings → Except String Unit
  finds : TPROXYListener → Int → InnerPacket → Bool
  localAddr : InnerPacket → TCPAddr
  origDst : InnerPacket → IP
  datagram : InnerPacket → Nat → Datagram
  route : Addr → String

inductive RunError where
  | nftInstaller (problem : NFTError)
  | nftReconcile (problem : String)
  | tproxyStart (problem : String)
  | listen (addr problem : String)
  | tooFewQueues (tunName : String)
  | openQueue (tunName : String) (index : Nat) (problem : String)
  | configureTUN (ifname problem : String)

def RunError.message : RunError → String
  | .nftInstaller problem => "packethose server: nft installer: " ++ problem.message
  | .nftReconcile problem => "packethose server: nft reconcile: " ++ problem
  | .tproxyStart problem => "packethose server: tproxy start: " ++ problem
  | .listen addr problem => "listen " ++ addr ++ ": " ++ problem
  | .tooFewQueues tunName => "open shared tun " ++ tunName ++ ": queues must be >= 1"
  | .openQueue tunName index problem => "open shared tun " ++ tunName ++ ": open queue " ++ toString index ++ ": " ++ problem
  | .configureTUN ifname problem => "configure shared tun " ++ ifname ++ ": " ++ problem

def openQueues (host : Host) (name : String) (multiQueue vnetHdr : Bool) : Nat → Nat → String → Except RunError String
  | _, 0, ifname => .ok ifname
  | index, remaining + 1, ifname =>
      ((host.tunSetIff index name multiQueue vnetHdr).mapError (.openQueue name index)).bind fun given =>
        openQueues host name multiQueue vnetHdr (index + 1) remaining (orDefault ifname given)

def openKernelTUN (host : Host) (name : String) (queues : Int) (vnetHdr : Bool) : Except RunError String :=
  if queues < 1 then .error (.tooFewQueues name)
  else openQueues host name (queues > 1) vnetHdr 0 queues.toNat ""

def openSharedTUN (host : Host) (cfg : ServerSettings) : Except RunError String :=
  let queueCount := if cfg.sharedTUNQueues ≤ 0 then (host.numCPU : Int) else cfg.sharedTUNQueues
  (openKernelTUN host (orDefault cfg.tunName "phose0") queueCount cfg.vnetHdr).bind fun ifname =>
    ((host.configureInterface ifname cfg).mapError (.configureTUN ifname)).map fun _ => ifname

structure Gateway where
  cfg : ServerSettings
  table : Option NFTable
  listener : Option TPROXYListener
  device : String

def installNFT (host : Host) (cfg : ServerSettings) : Except RunError (Option NFTable) :=
  if cfg.nft.enabled then
    ((newNFTInstaller host.lookPath cfg.nft).mapError .nftInstaller).bind fun installer =>
      ((host.reconcile installer).mapError .nftReconcile).map fun _ => some installer.cfg.buildTable
  else .ok none

def startTPROXY (host : Host) (cfg : ServerSettings) : Except RunError (Option TPROXYListener) :=
  if cfg.tproxy.enabled then
    ((host.startListener (newTPROXYListener cfg.tproxy)).mapError .tproxyStart).map fun _ => some (newTPROXYListener cfg.tproxy)
  else .ok none

def bringUp (host : Host) (cfg : ServerSettings) : Except RunError (Option Gateway) :=
  (installNFT host cfg).bind fun table =>
    (startTPROXY host cfg).bind fun listener =>
      ((host.listen cfg.listen).mapError (.listen cfg.listen)).bind fun _ =>
        if cfg.subnet.isValid || cfg.subnet6.isValid then
          (openSharedTUN host cfg).map fun device => some ⟨cfg, table, listener, device⟩
        else .ok none

inductive Fate where
  | dropped
  | refused
  | dialled
  | crashed
  | delivered
  | forwarded
deriving DecidableEq, Repr

def Screened.fate {T : Type} : Screened T → Fate
  | .panicked => .crashed
  | .skipped | .refused => .refused
  | .passed _ => .dialled

def Fate.Blocked (fate : Fate) : Prop := fate = .dropped ∨ fate = .refused

def ServerSettings.ClientAddress (cfg : ServerSettings) (addr : Addr) : Prop :=
  (cfg.subnet.contains addr = true ∨ cfg.subnet6.contains addr = true) ∧ addr ≠ cfg.serverIP ∧ addr ≠ cfg.serverIP6

namespace Gateway

def handed (host : Host) (g : Gateway) (port : Int) (packet : InnerPacket) : Bool :=
  g.listener.any fun listener => host.finds listener port packet

def verdict (host : Host) (g : Gateway) (hook : NFHook) (t : Transit) : Verdict :=
  match g.table with
  | none => .accept
  | some table => table.verdict (g.handed host) hook t

def outDevice (host : Host) (g : Gateway) (dst : Addr) : String :=
  if g.cfg.subnet.contains dst || g.cfg.subnet6.contains dst then g.device else host.route dst

def isLocal (g : Gateway) (dst : Addr) : Bool := dst == g.cfg.serverIP || dst == g.cfg.serverIP6

def relayed (net : NetLib) (host : Host) (t : TPROXYListener) (p : InnerPacket) (data : Nat) : Fate :=
  if p.l4proto = 17 then (t.screenUDP net (host.datagram p data)).fate else (t.screenTCP net (host.localAddr p)).fate

def fate (net : NetLib) (host : Host) (g : Gateway) (p : InnerPacket) (data : Nat) : Fate :=
  match g.verdict host .prerouting ⟨p, g.device, none⟩ with
  | .drop => .dropped
  | .redirect _ =>
      match g.listener with
      | some t => relayed net host t p data
      | none => .dropped
  | .accept =>
      if g.isLocal p.dst then .delivered
      else
        match g.verdict host .forward ⟨p, g.device, some (g.outDevice host p.dst)⟩ with
        | .drop => .dropped
        | _ => .forwarded

end Gateway

theorem NFTConfig.resolve_isolation (cfg : NFTConfig) :
    cfg.resolve.isolation = cfg.isolation ∧ cfg.resolve.family = orDefault cfg.family "inet" ∧
      cfg.resolve.tunMatch = orDefault cfg.tunMatch "phose-*" := by
  unfold NFTConfig.resolve
  cases cfg.tproxy <;> exact ⟨rfl, rfl, rfl⟩

theorem install_nft_table (host : Host) (cfg : ServerSettings) (table : Option NFTable) (enabled : cfg.nft.enabled = true)
    (installed : installNFT host cfg = .ok table) : table = some cfg.nft.resolve.buildTable := by
  unfold installNFT at installed
  rw [if_pos enabled] at installed
  obtain ⟨installer, made, reconciled⟩ := Outcomes.bind_ok installed
  obtain ⟨_, _, built⟩ := Outcomes.map_ok reconciled
  rw [← built, (new_installer_cfg host.lookPath cfg.nft installer (Outcomes.map_error_ok made)).2 enabled]

theorem start_tproxy_listener (host : Host) (cfg : ServerSettings) (listener : Option TPROXYListener)
    (started : startTPROXY host cfg = .ok listener) :
    listener = if cfg.tproxy.enabled then some (newTPROXYListener cfg.tproxy) else none := by
  unfold startTPROXY at started
  split_ifs at started ⊢
  · obtain ⟨_, _, same⟩ := Outcomes.map_ok started
    exact same.symm
  · cases started
    rfl

theorem bring_up_parts (host : Host) (cfg : ServerSettings) (g : Gateway) (started : bringUp host cfg = .ok (some g)) :
    g.cfg = cfg ∧ installNFT host cfg = .ok g.table ∧ startTPROXY host cfg = .ok g.listener := by
  obtain ⟨table, installed, afterNFT⟩ := Outcomes.bind_ok started
  obtain ⟨listener, listening, afterTPROXY⟩ := Outcomes.bind_ok afterNFT
  obtain ⟨_, _, afterListen⟩ := Outcomes.bind_ok afterTPROXY
  split_ifs at afterListen
  · obtain ⟨device, _, same⟩ := Outcomes.map_ok afterListen
    cases same
    exact ⟨rfl, installed, listening⟩
  · cases afterListen

def InnerPacket.OfWire (p : InnerPacket) : Prop :=
  (∃ src dst, p.src = .addrFrom4 src ∧ p.dst = .addrFrom4 dst) ∨ ∃ src dst, p.src = .addrFrom16 src ∧ p.dst = .addrFrom16 dst

def RawSockaddrAny.Names (src : Addr) : RawSockaddrAny → Prop
  | .inet4 addr _ => .addrFrom4 addr = src
  | .inet6 addr _ => (Addr.addrFrom16 addr).unmap = src.unmap
  | .other => False

-- The kernel reports a packet's own addresses, each in its plain or its mapped
-- form; the local address of a connection may come with a zone if it is IPv6.
structure Host.Reports (net : NetLib) (host : Host) : Prop where
  bound : ∀ p, p.OfWire → (host.localAddr p).ip.addr.unmap = p.dst.unmap
  zoned : ∀ p, p.OfWire → (host.localAddr p).zone ≠ "" → p.dst.unmap.is6 = true
  source : ∀ p data, p.OfWire → (host.datagram p data).name.Names p.src
  target : ∀ p, p.OfWire → (host.origDst p).addr.unmap = p.dst.unmap
  origin : ∀ p data, p.OfWire → ∃ port, net.Origin (host.datagram p data).control (host.origDst p) port
  data : ∀ p data, (host.datagram p data).payloadLen = data

def ServerSettings.Redirects (host : Host) (cfg : ServerSettings) (p : InnerPacket) : Prop :=
  cfg.tproxy.enabled = true ∧ cfg.nft.tproxy = true ∧ cfg.nft.resolve.takes p = true ∧
    host.finds (newTPROXYListener cfg.tproxy) cfg.nft.resolve.tproxyPort p = true

-- A datagram's source has to be IPv4 and its destination reported in a form
-- that is in the pools. A connection's local address is unmapped, and a zone
-- takes it out of them.
def ServerSettings.Legible (host : Host) (cfg : ServerSettings) (p : InnerPacket) : Prop :=
  if p.l4proto = 17 then p.src.unmap.is6 = false ∧ cfg.ClientAddress (host.origDst p).addr
  else (host.localAddr p).zone = "" ∧ cfg.ClientAddress p.dst.unmap

theorem client_of_wire (cfg : ServerSettings) (addr : Addr) (layer : UInt8) (client : cfg.ClientAddress addr) :
    InnerPacket.OfWire ⟨addr, addr, layer⟩ := by
  have plain : ∀ subnet : Prefix, subnet.contains addr = true → InnerPacket.OfWire ⟨addr, addr, layer⟩ := by
    intro subnet inside
    cases addr with
    | zero => cases subnet <;> cases inside
    | v4 bytes => exact .inl ⟨bytes, bytes, rfl, rfl⟩
    | v6 bytes zone =>
        have unzoned : zone = "" := by
          cases subnet with
          | invalid | v4 => cases inside
          | v6 net bits => simpa using (Bool.and_eq_true_iff.mp inside).1
        exact .inr ⟨bytes, bytes, by rw [unzoned]; rfl, by rw [unzoned]; rfl⟩
  exact client.1.elim (plain _) (plain _)

theorem listener_client (fc : FileConfig) (cfg : ServerSettings) (isolation : fc.forward.isolation = true)
    (enforceUnset : fc.tproxy.enforceIso = none) :
    (newTPROXYListener (fc.tproxyConfig cfg)).cfg.enforceIsolation = true ∧
      ∀ addr, (newTPROXYListener (fc.tproxyConfig cfg)).Client addr ↔ cfg.ClientAddress addr := by
  have enforced : (fc.tproxyConfig cfg).enforceIsolation = true := by
    simp [FileConfig.tproxyConfig, enforceUnset, isolation]
  unfold newTPROXYListener
  by_cases unused : (!(fc.tproxyConfig cfg).enabled) = true
  · rw [if_pos unused]
    exact ⟨enforced, fun addr => Iff.rfl⟩
  · rw [if_neg unused]
    exact ⟨enforced, fun addr => Iff.rfl⟩

theorem named_genuine (name : RawSockaddrAny) (src : Addr) (names : name.Names src) : name.genuine6 = src.unmap.is6 := by
  cases name with
  | inet4 addr port =>
      rw [← show Addr.addrFrom4 addr = src from names]
      rfl
  | inet6 addr port =>
      rw [← show (Addr.addrFrom16 addr).unmap = src.unmap from names]
      cases embedded : (Addr.addrFrom16 addr).as4 with
      | none =>
          rw [RawSockaddrAny.genuine6, Addr.is4In6, embedded, Addr.addrFrom16, unmap_genuine addr "" (by simp [Addr.is4In6, embedded])]
          rfl
      | some bytes =>
          simp only [RawSockaddrAny.genuine6, Addr.is4In6, Addr.addrFrom16, Addr.unmap]
          rw [show (Addr.v6 addr "").as4 = some bytes from embedded]
          rfl
  | other => exact names.elim

theorem wire_unzoned (p : InnerPacket) (ofWire : p.OfWire) : p.dst.unmap.unzoned = p.dst.unmap := by
  rcases ofWire with ⟨src, dst, _, same⟩ | ⟨src, dst, _, same⟩
  · rw [same]
    rfl
  · rw [same, Addr.addrFrom16, Addr.unmap]
    split <;> rfl

section Relayed

variable (net : NetLib) (host : Host) (t : TPROXYListener) (enforced : t.cfg.enforceIsolation = true)
  (reports : host.Reports net) (p : InnerPacket) (ofWire : p.OfWire)

include enforced reports ofWire

theorem datagram_blocked (data : Nat) :
    (t.screenUDP net (host.datagram p data)).fate.Blocked ↔
      data = 0 ∨ (p.src.unmap.is6 = false ∧ t.Client (host.origDst p).addr) := by
  obtain ⟨port, origin⟩ := reports.origin p data ofWire
  obtain ⟨named, ok⟩ := origin_packet net _ _ port origin
  have source := source_read (host.datagram p data).name
  rw [named_genuine _ _ (reports.source p data ofWire)] at source
  unfold TPROXYListener.screenUDP
  rw [reports.data]
  by_cases empty : data ≤ 0
  · simp [Nat.le_zero.mp empty, Screened.fate, Fate.Blocked]
  · rw [if_neg empty, ← refuses_iff t enforced, ← source]
    have filled : data ≠ 0 := by omega
    cases rawSockaddrToAddrPort (host.datagram p data).name with
    | none => simp [filled, Screened.fate, Fate.Blocked]
    | some src =>
        simp only [ok, named, Bool.not_true, Bool.false_eq_true, if_false]
        by_cases refuses : t.refuses (host.origDst p).addr = true <;> simp [refuses, filled, Screened.fate, Fate.Blocked]

theorem connection_blocked :
    (t.screenTCP net (host.localAddr p)).fate.Blocked ↔ (host.localAddr p).zone = "" ∧ t.Client p.dst.unmap := by
  have bound := reports.bound p ofWire
  have printed := net.printed (host.localAddr p) (bound ▸ reports.zoned p ofWire)
  have seen := client_with_zone t p.dst.unmap _ (wire_unzoned p ofWire) (reports.zoned p ofWire)
  rw [TPROXYListener.screenTCP, originalTCPDst, printed, bound, ← seen, ← refuses_iff t enforced]
  by_cases refuses : t.refuses (p.dst.unmap.withZone (host.localAddr p).zone) = true <;>
    simp [Except.mapError, refuses, Screened.fate, Fate.Blocked]

end Relayed

namespace Gateway

theorem fate_unredirected (net : NetLib) (host : Host) (g : Gateway) (p : InnerPacket) (data : Nat)
    (client : g.cfg.ClientAddress p.dst) (passed : g.verdict host .prerouting ⟨p, g.device, none⟩ = .accept) :
    (g.fate net host p data).Blocked ↔ g.verdict host .forward ⟨p, g.device, some g.device⟩ = .drop := by
  obtain ⟨inside, notServer, notServer6⟩ := client
  have away : g.isLocal p.dst = false := by simp [isLocal, notServer, notServer6]
  have back : g.outDevice host p.dst = g.device := if_pos (by simpa using inside)
  rw [fate, passed, away, back]
  cases g.verdict host .forward ⟨p, g.device, some g.device⟩ <;> simp [Fate.Blocked]

end Gateway

theorem NFTConfig.resolve_server (cfg : NFTConfig) : cfg.resolve.serverIP4 = cfg.serverIP4 ∧ cfg.resolve.serverIP6 = cfg.serverIP6 := by
  unfold NFTConfig.resolve
  cases cfg.tproxy <;> exact ⟨rfl, rfl⟩

theorem default_match (device : String) : ifnameMatches "phose-*" device = true ↔ "phose-".toList <+: device.toList := by
  have starred : "phose-*".toList.getLast? = some '*' := by decide
  have stem : "phose-*".toList.dropLast = "phose-".toList := by decide
  rw [ifnameMatches, if_pos starred, stem, List.isPrefixOf_iff_prefix]

theorem FileConfig.forward_isolates (fc : FileConfig) (cfg : ServerSettings) (handed : Int → InnerPacket → Bool) (p : InnerPacket)
    (device : String) (isolation : fc.forward.isolation = true) (matchUnset : fc.forward.tunMatch = "") :
    (fc.nftConfig cfg).resolve.buildTable.verdict handed .forward ⟨p, device, some device⟩ = .drop ↔
      "phose-".toList <+: device.toList ∧ familySees (orDefault fc.nft.family "inet") p.dst = true := by
  obtain ⟨isolating, family, pattern⟩ := (fc.nftConfig cfg).resolve_isolation
  have isolated : (fc.nftConfig cfg).resolve.isolation = true := isolating.trans isolation
  have named : (fc.nftConfig cfg).resolve.tunMatch = "phose-*" := by
    rw [pattern, show (fc.nftConfig cfg).tunMatch = "" from matchUnset]
    rfl
  have grouped : (fc.nftConfig cfg).resolve.family = orDefault fc.nft.family "inet" := family
  rw [NFTConfig.forward_drops _ _ _ device rfl, isolated, named, grouped, default_match]
  tauto

theorem FileConfig.prerouting_passes (fc : FileConfig) (cfg : ServerSettings) (handed : Int → InnerPacket → Bool) (p : InnerPacket)
    (device : String) (matchUnset : fc.forward.tunMatch = "") (client : cfg.ClientAddress p.dst)
    (covered : "phose-".toList <+: device.toList ∧ familySees (orDefault fc.nft.family "inet") p.dst = true) :
    (fc.nftConfig cfg).resolve.buildTable.verdict handed .prerouting ⟨p, device, none⟩ =
      if (fc.nftConfig cfg).tproxy && (fc.nftConfig cfg).resolve.takes p && handed (fc.nftConfig cfg).resolve.tproxyPort p then
        .redirect (fc.nftConfig cfg).resolve.tproxyPort
      else .accept := by
  obtain ⟨_, family, pattern⟩ := (fc.nftConfig cfg).resolve_isolation
  obtain ⟨server4, server6⟩ := (fc.nftConfig cfg).resolve_server
  have named : (fc.nftConfig cfg).resolve.tunMatch = "phose-*" := by
    rw [pattern, show (fc.nftConfig cfg).tunMatch = "" from matchUnset]
    rfl
  rw [← (resolve_switches (fc.nftConfig cfg)).2]
  apply NFTConfig.prerouting_verdict
  · rw [family]
    exact covered.2
  · rw [named]
    exact (default_match device).mpr covered.1
  · rw [server4]
    exact client.2.1
  · rw [server6]
    exact client.2.2

structure Gateway.Serves (host : Host) (cfg : ServerSettings) (g : Gateway) : Prop where
  settings : g.cfg = cfg
  verdicts : ∀ hook t, g.verdict host hook t = cfg.nft.resolve.buildTable.verdict (g.handed host) hook t
  listener : g.listener = if cfg.tproxy.enabled then some (newTPROXYListener cfg.tproxy) else none

theorem bring_up_serves (host : Host) (cfg : ServerSettings) (g : Gateway) (enabled : cfg.nft.enabled = true)
    (started : bringUp host cfg = .ok (some g)) : g.Serves host cfg := by
  obtain ⟨settings, installed, listening⟩ := bring_up_parts host cfg g started
  have table := install_nft_table host cfg g.table enabled installed
  refine ⟨settings, fun hook t => ?_, start_tproxy_listener host cfg g.listener listening⟩
  rw [Gateway.verdict, table]

theorem FileConfig.relayed_blocked (fc : FileConfig) (net : NetLib) (host : Host) (cfg : ServerSettings) (reports : host.Reports net)
    (isolation : fc.forward.isolation = true) (enforceUnset : fc.tproxy.enforceIso = none)
    (tproxy : cfg.tproxy = fc.tproxyConfig cfg) (p : InnerPacket) (data : Nat) (ofWire : p.OfWire) :
    (Gateway.relayed net host (newTPROXYListener cfg.tproxy) p data).Blocked ↔
      (p.l4proto = 17 ∧ data = 0) ∨ cfg.Legible host p := by
  obtain ⟨enforced, clients⟩ := listener_client fc cfg isolation enforceUnset
  rw [← tproxy] at enforced clients
  unfold Gateway.relayed ServerSettings.Legible
  split_ifs with udp
  · rw [datagram_blocked net host _ enforced reports p ofWire data, clients]
    simp [udp]
  · rw [connection_blocked net host _ enforced reports p ofWire, clients]
    simp [udp]

namespace Gateway

section Served

variable (net : NetLib) (host : Host) (fc : FileConfig) (cfg : ServerSettings) (g : Gateway)
  (matchUnset : fc.forward.tunMatch = "") (nft : cfg.nft = fc.nftConfig cfg) (serves : g.Serves host cfg) (p : InnerPacket)

include serves

theorem handed_found : g.handed host cfg.nft.resolve.tproxyPort p =
    (cfg.tproxy.enabled && host.finds (newTPROXYListener cfg.tproxy) cfg.nft.resolve.tproxyPort p) := by
  rw [handed, serves.listener]
  cases cfg.tproxy.enabled <;> rfl

theorem icmp_passes (icmp : p.l4proto = 1) : g.verdict host .prerouting ⟨p, g.device, none⟩ = .accept := by
  by_contra notable
  rw [serves.verdicts] at notable
  obtain ⟨_, _, _, tcp | udp⟩ := NFTConfig.prerouting_redirects _ _ _ _ rfl notable
  · exact absurd (icmp.symm.trans tcp) (by decide)
  · exact absurd (icmp.symm.trans udp) (by decide)

include matchUnset nft

theorem forward_dropped (isolation : fc.forward.isolation = true) : g.verdict host .forward ⟨p, g.device, some g.device⟩ = .drop ↔
    "phose-".toList <+: g.device.toList ∧ familySees (orDefault fc.nft.family "inet") p.dst = true := by
  rw [serves.verdicts, nft]
  exact fc.forward_isolates cfg (g.handed host) p g.device isolation matchUnset

-- Once the rules see a client's packets, the listener decides on what they
-- redirect and the forward hook drops the rest.
theorem fate_decided (data : Nat) (isolation : fc.forward.isolation = true) (client : cfg.ClientAddress p.dst)
    (covered : "phose-".toList <+: g.device.toList ∧ familySees (orDefault fc.nft.family "inet") p.dst = true) :
    (g.fate net host p data).Blocked ↔
      (cfg.Redirects host p → (relayed net host (newTPROXYListener cfg.tproxy) p data).Blocked) := by
  have passes := fc.prerouting_passes cfg (g.handed host) p g.device matchUnset client covered
  rw [← nft, ← serves.verdicts, handed_found host cfg g serves] at passes
  by_cases redirects : cfg.Redirects host p
  · obtain ⟨listens, wanted, taken, found⟩ := redirects
    rw [if_pos (by simp [wanted, taken, listens, found])] at passes
    have listener := serves.listener
    rw [if_pos listens] at listener
    simp only [fate, passes, listener]
    exact ⟨fun blocked _ => blocked, fun blocked => blocked ⟨listens, wanted, taken, found⟩⟩
  · rw [if_neg] at passes
    · rw [g.fate_unredirected net host p data (serves.settings ▸ client) passes,
        forward_dropped host fc cfg g matchUnset nft serves p isolation]
      exact ⟨fun _ redirected => absurd redirected redirects, fun _ => covered⟩
    · simp only [Bool.and_eq_true]
      exact fun ⟨⟨wanted, taken⟩, listens, found⟩ => redirects ⟨listens, wanted, taken, found⟩

end Served

end Gateway

-- Clients are kept apart exactly when the device goes by a name the default
-- match covers, the table's family sees the addresses clients may hold, and
-- the listener can tell a client in what is redirected to it.
theorem clients_isolated (net : NetLib) (go : GoLib) (host : Host) (fc : FileConfig) (base cfg : ServerSettings) (g : Gateway)
    (isolation : fc.forward.isolation = true) (nftUnset : fc.nft.enabled = none) (enforceUnset : fc.tproxy.enforceIso = none)
    (matchUnset : fc.forward.tunMatch = "") (reports : host.Reports net) (applied : fc.applyServer go base = .ok cfg)
    (started : bringUp host cfg = .ok (some g)) :
    (∀ p data, p.OfWire → cfg.ClientAddress p.dst → (g.fate net host p data).Blocked) ↔
      (∀ addr, cfg.ClientAddress addr →
        "phose-".toList <+: g.device.toList ∧ familySees (orDefault fc.nft.family "inet") addr = true) ∧
      ∀ p, p.OfWire → cfg.ClientAddress p.dst → cfg.Redirects host p → cfg.Legible host p := by
  obtain ⟨nft, tproxy⟩ := fc.apply_server_forward go base cfg applied
  have serves := bring_up_serves host cfg g (by simp [nft, FileConfig.nftConfig, nftUnset, isolation]) started
  have decided := g.fate_decided net host fc cfg matchUnset nft serves
  have relayed := fc.relayed_blocked net host cfg reports isolation enforceUnset tproxy
  constructor
  · intro blocked
    have covered : ∀ addr, cfg.ClientAddress addr →
        "phose-".toList <+: g.device.toList ∧ familySees (orDefault fc.nft.family "inet") addr = true := by
      intro addr client
      -- ICMP is never redirected, so only the forward hook can stop it.
      have passed := g.icmp_passes host cfg serves ⟨addr, addr, 1⟩ rfl
      have unredirected := g.fate_unredirected net host ⟨addr, addr, 1⟩ 0 (serves.settings ▸ client) passed
      have stopped := unredirected.mp (blocked ⟨addr, addr, 1⟩ 0 (client_of_wire cfg addr 1 client) client)
      exact (g.forward_dropped host fc cfg matchUnset nft serves ⟨addr, addr, 1⟩ isolation).mp stopped
    refine ⟨covered, fun p ofWire client redirects => ?_⟩
    have stopped := (decided p 1 isolation client (covered p.dst client)).mp (blocked p 1 ofWire client) redirects
    exact ((relayed p 1 ofWire).mp stopped).resolve_left fun ⟨_, empty⟩ => absurd empty (by decide)
  · rintro ⟨covered, legible⟩ p data ofWire client
    refine (decided p data isolation client (covered p.dst client)).mpr fun redirects => ?_
    exact (relayed p data ofWire).mpr (.inr (legible p ofWire client redirects))

instance (cfg : ServerSettings) (addr : Addr) : Decidable (cfg.ClientAddress addr) := inferInstanceAs (Decidable (_ ∧ _))

instance (host : Host) (cfg : ServerSettings) (p : InnerPacket) : Decidable (cfg.Redirects host p) := inferInstanceAs (Decidable (_ ∧ _))

def isolatedFile (tunName : String) : FileConfig where
  listen := ""
  lanes := 0
  mptcp := false
  cipher := ""
  vnetHdr := none
  allowIP := ""
  tunName := tunName
  serverKey := ""
  peerPubKey := ""
  pool := ⟨"10.66.0.0/24", "", "10.66.0.1", ""⟩
  users := []
  rateLimit := ⟨false, 0, 0, 0, 0⟩
  forward := ⟨true, false, true, false, 0, 0, 0, "", ""⟩
  nft := ⟨none, "", ""⟩
  tproxy := ⟨none, "", 0, 0, none⟩

def tunnelLib : GoLib where
  quote text := "\"" ++ text ++ "\""
  decodeBase64 _ := none
  decodeHex _ := .error "encoding/hex: odd length hex string"
  parseAddr text := if text = "10.66.0.1" then .ok (tunnelAddr 1) else .error "unable to parse IP"
  parseSubnet text := if text = "10.66.0.0/24" then .ok (tunnelNet 24) else .error "no '/'"
  addrText _ := "10.66.0.1"
  subnetText _ := "10.66.0.0/24"

def keyedSettings : ServerSettings where
  toServerConfig := { pairConfig with subnet := .invalid, serverIP := .zero }
  allowIP := ""
  rateLimit := ⟨false, 0, 0, 0, 0⟩
  mptcp := false
  tunName := ""
  sharedTUNQueues := 0
  nft := ⟨false, "", "", "", false, false, "", false, 0, 0, 0, false, false, .zero, .zero, false, .invalid, .invalid⟩
  tproxy := ⟨false, "", 0, 0, false, .invalid, .invalid, .zero, .zero⟩

def Addr.ip : Addr → IP
  | .zero => .sixteen (Vector.replicate 16 0)
  | .v4 bytes => .four bytes
  | .v6 bytes _ => .sixteen bytes

def Addr.sockaddr : Addr → RawSockaddrAny
  | .zero => .other
  | .v4 bytes => .inet4 bytes 0x0500
  | .v6 bytes _ => .inet6 bytes 0x0500

def tunnelHost : Host where
  lookPath := .ok ()
  reconcile _ := .ok ()
  startListener _ := .ok ()
  listen _ := .ok ()
  numCPU := 2
  tunSetIff _ name _ _ := .ok name
  configureInterface _ _ := .ok ()
  finds listener port packet := listener.cfg.listenPort == port && packet.dst.is4
  localAddr packet := ⟨packet.dst.ip, 53, ""⟩
  origDst packet := packet.dst.ip
  datagram packet data := ⟨packet.src.sockaddr, controlOf packet.dst.ip, data⟩
  route _ := "eth0"

def isolatedRun (tunName : String) : Option (ServerSettings × Gateway) :=
  ((isolatedFile tunName).applyServer tunnelLib keyedSettings).toOption.bind fun cfg =>
    (bringUp tunnelHost cfg).toOption.join.map fun g => (cfg, g)

theorem isolated_run_parts (tunName : String) (cfg : ServerSettings) (g : Gateway) (ran : isolatedRun tunName = some (cfg, g)) :
    (isolatedFile tunName).applyServer tunnelLib keyedSettings = .ok cfg ∧ bringUp tunnelHost cfg = .ok (some g) := by
  obtain ⟨settings, applied, rest⟩ := Option.bind_eq_some_iff.mp ran
  obtain ⟨gateway, joined, same⟩ := Option.map_eq_some_iff.mp rest
  cases same
  exact ⟨Outcomes.to_option_some applied, Outcomes.to_option_some (Option.join_eq_some_iff.mp joined)⟩

theorem tunnel_host_reports : tunnelHost.Reports plainNet where
  bound p ofWire := by
    rcases ofWire with ⟨src, dst, _, same⟩ | ⟨src, dst, _, same⟩ <;> simp only [tunnelHost, same] <;> rfl
  zoned p _ zoned := absurd rfl zoned
  source p data ofWire := by
    rcases ofWire with ⟨src, dst, same, _⟩ | ⟨src, dst, same, _⟩ <;> simp only [tunnelHost, same] <;> rfl
  target p ofWire := by
    rcases ofWire with ⟨src, dst, _, same⟩ | ⟨src, dst, _, same⟩ <;> simp only [tunnelHost, same] <;> rfl
  origin p data _ := ⟨53, control_origin p.dst.ip⟩
  data p data := rfl

theorem clients_isolated_dashed :
    ∃ cfg g, (isolatedFile "phose-0").applyServer tunnelLib keyedSettings = .ok cfg ∧
      bringUp tunnelHost cfg = .ok (some g) ∧ cfg.ClientAddress (tunnelAddr 3) ∧
      cfg.Redirects tunnelHost ⟨tunnelAddr 2, tunnelAddr 3, 17⟩ ∧
      ∀ p data, p.OfWire → cfg.ClientAddress p.dst → (g.fate plainNet tunnelHost p data).Blocked := by
  have observed : (isolatedRun "phose-0").map (fun run => (run.2.device, run.1.subnet6, decide (run.1.subnet = tunnelNet 24),
      decide (run.1.ClientAddress (tunnelAddr 3)), decide (run.1.Redirects tunnelHost ⟨tunnelAddr 2, tunnelAddr 3, 17⟩))) =
      some ("phose-0", .invalid, true, true, true) := by
    decide +kernel
  obtain ⟨⟨cfg, g⟩, ran, view⟩ := Option.map_eq_some_iff.mp observed
  simp only [Prod.mk.injEq, decide_eq_true_eq] at view
  obtain ⟨device, single, subnet, client, redirects⟩ := view
  obtain ⟨applied, started⟩ := isolated_run_parts "phose-0" cfg g ran
  have four : ∀ addr, cfg.ClientAddress addr → addr.is4 = true := by
    rintro addr ⟨inside, _, _⟩
    rw [single, subnet] at inside
    cases inside with
    | inl inside => exact (Prefix.contains_family _ _ inside).2.1
    | inr nowhere => cases nowhere
  refine ⟨cfg, g, applied, started, client, redirects, ?_⟩
  refine (clients_isolated plainNet tunnelLib tunnelHost (isolatedFile "phose-0") keyedSettings cfg g rfl rfl rfl rfl
    tunnel_host_reports applied started).mpr ⟨?_, ?_⟩
  · intro addr holder
    have seen : familySees (orDefault (isolatedFile "phose-0").nft.family "inet") addr = (addr.is4 || addr.is6) := rfl
    rw [device, seen, four addr holder]
    exact ⟨by decide, rfl⟩
  · intro p ofWire holder _
    rcases ofWire with ⟨src, dst, source, target⟩ | ⟨src, dst, _, target⟩
    · rw [target] at holder
      unfold ServerSettings.Legible
      rw [source, target, show tunnelHost.origDst p = p.dst.ip from rfl, target]
      split_ifs
      · exact ⟨rfl, holder⟩
      · exact ⟨rfl, holder⟩
    · have wrong := four p.dst holder
      rw [target] at wrong
      cases wrong

-- With every default in force the device is phose0, which the pattern phose-*
-- does not cover: clients reach each other over ICMP, TCP and UDP.
theorem default_device_unisolated :
    ∃ cfg g, (isolatedFile "").applyServer tunnelLib keyedSettings = .ok cfg ∧ cfg.validate = .ok () ∧
      bringUp tunnelHost cfg = .ok (some g) ∧ cfg.ClientAddress (tunnelAddr 3) ∧
      [1, 6, 17].map (fun layer => g.fate plainNet tunnelHost ⟨tunnelAddr 2, tunnelAddr 3, layer⟩ 5) = List.replicate 3 .forwarded := by
  have observed : (isolatedRun "").map (fun run => (run.1.validate.toOption, decide (run.1.ClientAddress (tunnelAddr 3)),
      [1, 6, 17].map fun layer => run.2.fate plainNet tunnelHost ⟨tunnelAddr 2, tunnelAddr 3, layer⟩ 5)) =
      some (some (), true, List.replicate 3 .forwarded) := by
    decide +kernel
  obtain ⟨⟨cfg, g⟩, ran, view⟩ := Option.map_eq_some_iff.mp observed
  simp only [Prod.mk.injEq, decide_eq_true_eq] at view
  obtain ⟨accepted, client, fates⟩ := view
  obtain ⟨applied, started⟩ := isolated_run_parts "" cfg g ran
  exact ⟨cfg, g, applied, Outcomes.to_option_some accepted, started, client, fates⟩

def redirectPort (port : Int) : Int := if port = 0 then 13338 else port

theorem NFTConfig.resolve_port (cfg : NFTConfig) (tproxy : cfg.tproxy = true) :
    cfg.resolve.tproxyPort = redirectPort cfg.tproxyPort := by
  simp only [resolve, tproxy, if_true, resolveTPROXY, redirectPort]

theorem new_listener_port (cfg : TPROXYConfig) (enabled : cfg.enabled = true) :
    (newTPROXYListener cfg).cfg.listenPort = redirectPort cfg.listenPort := by
  simp only [newTPROXYListener, enabled, Bool.not_true, Bool.false_eq_true, if_false, redirectPort]

theorem redirect_ports_agree (go : GoLib) (lookPath : Except String Unit) (fc : FileConfig) (base cfg : ServerSettings)
    (n : NFTInstaller) (applied : fc.applyServer go base = .ok cfg) (made : newNFTInstaller lookPath cfg.nft = .ok n)
    (redirecting : cfg.nft.enabled = true ∧ cfg.nft.tproxy = true) (listening : cfg.tproxy.enabled = true) :
    (∀ port ∈ n.cfg.buildTable.tproxyPorts, port = (newTPROXYListener cfg.tproxy).cfg.listenPort) ↔
      fc.tproxy.listenPort = 0 ∨ fc.tproxy.listenPort = redirectPort fc.forward.tproxyListenPort := by
  obtain ⟨nft, tproxy⟩ := fc.apply_server_forward go base cfg applied
  obtain ⟨enabled, wanted⟩ := redirecting
  have resolved : n.cfg = cfg.nft.resolve := (new_installer_cfg lookPath cfg.nft n made).2 enabled
  have ruled : cfg.nft.resolve.tproxyPort = redirectPort fc.forward.tproxyListenPort := by
    rw [cfg.nft.resolve_port wanted, nft]
    rfl
  have emitted : ∀ port, port ∈ n.cfg.buildTable.tproxyPorts ↔ port = redirectPort fc.forward.tproxyListenPort := by
    intro port
    have family := (resolve_tproxy cfg.nft wanted).2
    rw [resolved, NFTConfig.build_table_ports _ ((resolve_switches cfg.nft).2.trans wanted), List.mem_append, mem_emit_if,
      mem_emit_if, ruled]
    tauto
  have bound : (newTPROXYListener cfg.tproxy).cfg.listenPort =
      redirectPort (if fc.tproxy.listenPort ≠ 0 then fc.tproxy.listenPort else fc.forward.tproxyListenPort) := by
    rw [new_listener_port cfg.tproxy listening, tproxy]
    rfl
  simp only [emitted, forall_eq, bound]
  by_cases unset : fc.tproxy.listenPort = 0
  · simp [unset]
  · have kept : redirectPort fc.tproxy.listenPort = fc.tproxy.listenPort := if_neg unset
    rw [if_pos unset, kept]
    simp only [unset, false_or]
    exact eq_comm

def portedFile (forwardPort listenPort : Int) : FileConfig :=
  { isolatedFile "" with
    forward := ⟨true, false, true, false, forwardPort, 0, 0, "", ""⟩
    tproxy := ⟨none, "", listenPort, 0, none⟩ }

def portedRun (forwardPort listenPort : Int) : Option (ServerSettings × NFTInstaller) :=
  ((portedFile forwardPort listenPort).applyServer tunnelLib keyedSettings).toOption.bind fun cfg =>
    (newNFTInstaller (.ok ()) cfg.nft).toOption.map fun n => (cfg, n)

theorem ported_run_parts (forwardPort listenPort : Int) (cfg : ServerSettings) (n : NFTInstaller)
    (ran : portedRun forwardPort listenPort = some (cfg, n)) :
    (portedFile forwardPort listenPort).applyServer tunnelLib keyedSettings = .ok cfg ∧ newNFTInstaller (.ok ()) cfg.nft = .ok n := by
  obtain ⟨settings, applied, rest⟩ := Option.bind_eq_some_iff.mp ran
  obtain ⟨installer, made, same⟩ := Option.map_eq_some_iff.mp rest
  cases same
  exact ⟨Outcomes.to_option_some applied, Outcomes.to_option_some made⟩

theorem redirect_ports_agree_default :
    ∃ cfg n, (portedFile 0 13338).applyServer tunnelLib keyedSettings = .ok cfg ∧ newNFTInstaller (.ok ()) cfg.nft = .ok n ∧
      n.cfg.buildTable.tproxyPorts = [13338] ∧
      ∀ port ∈ n.cfg.buildTable.tproxyPorts, port = (newTPROXYListener cfg.tproxy).cfg.listenPort := by
  have observed : (portedRun 0 13338).map (fun run => (run.1.nft.enabled, run.1.nft.tproxy, run.1.tproxy.enabled,
      run.2.cfg.buildTable.tproxyPorts)) = some (true, true, true, [13338]) := by
    decide +kernel
  obtain ⟨⟨cfg, n⟩, ran, view⟩ := Option.map_eq_some_iff.mp observed
  simp only [Prod.mk.injEq] at view
  obtain ⟨enabled, wanted, listening, ports⟩ := view
  obtain ⟨applied, made⟩ := ported_run_parts 0 13338 cfg n ran
  exact ⟨cfg, n, applied, made, ports,
    (redirect_ports_agree tunnelLib (.ok ()) (portedFile 0 13338) keyedSettings cfg n applied made ⟨enabled, wanted⟩ listening).mpr
      (.inr rfl)⟩

theorem redirect_port_unattended :
    ∃ cfg n, (portedFile 0 15000).applyServer tunnelLib keyedSettings = .ok cfg ∧ newNFTInstaller (.ok ()) cfg.nft = .ok n ∧
      (cfg.nft.enabled = true ∧ cfg.nft.tproxy = true) ∧ cfg.tproxy.enabled = true ∧
      n.cfg.buildTable.tproxyPorts = [13338] ∧ (newTPROXYListener cfg.tproxy).cfg.listenPort = 15000 := by
  have observed : (portedRun 0 15000).map (fun run => ((run.1.nft.enabled, run.1.nft.tproxy), run.1.tproxy.enabled,
      run.2.cfg.buildTable.tproxyPorts, (newTPROXYListener run.1.tproxy).cfg.listenPort)) =
      some ((true, true), true, [13338], 15000) := by
    decide +kernel
  obtain ⟨⟨cfg, n⟩, ran, view⟩ := Option.map_eq_some_iff.mp observed
  simp only [Prod.mk.injEq] at view
  obtain ⟨redirecting, listening, ports, bound⟩ := view
  obtain ⟨applied, made⟩ := ported_run_parts 0 15000 cfg n ran
  exact ⟨cfg, n, applied, made, redirecting, listening, ports, bound⟩

end Packethose
