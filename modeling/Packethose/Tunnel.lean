import Packethose.Envelopes
import Packethose.HandshakeAgreement
import Packethose.LaneGrammar
import Packethose.LaneLengths
import Packethose.LaneRoundTrip

set_option autoImplicit false

namespace Packethose

structure AEADLib where
  newAEAD : Cipher → Bytes → Except String AEAD
  opens : ∀ c key aead, newAEAD c key = .ok aead → ∀ nonce plaintext,
    aead.openBytes nonce (aead.sealBytes nonce plaintext) = some plaintext

structure LaneRecord where
  wire : Bytes
  device : List Bytes
  exit : LaneExit
deriving DecidableEq

def laneAEADs (aeads : AEADLib) (keys : LaneKeys) : Except String (Option AEAD × Option AEAD) :=
  if keys.encrypted then
    (aeads.newAEAD keys.kind keys.tx).bind fun sealer =>
      (aeads.newAEAD keys.kind keys.rx).bind fun opener => .ok (some sealer, some opener)
  else .ok (none, none)

-- runLane on a connection that takes every write and delivers these bytes.
def runLane (aeads : AEADLib) (keys : LaneKeys) (vnetHdr : Bool) (reads : List LaneRead) (tun : Nat → TunWrite)
    (incoming : Bytes) : Except String LaneRecord :=
  (laneAEADs aeads keys).bind fun (sealer, opener) =>
    let received := (Receiver.fresh opener).sockToTun tun incoming
    .ok ⟨((Sender.fresh sealer).sendReads (fun _ => .written) (laneMinRead vnetHdr) reads).wire, received.1.writes, received.2⟩

structure TunnelEnd where
  ident : KeyedIdentity
  out : Bytes
  device : List Bytes
  exit : LaneExit
deriving DecidableEq

inductive TunnelError where
  | initiate (problem : InitiateError)
  | accept (failure : AcceptFailure)
  | lane (cause : String)
deriving DecidableEq

section Ends

variable (prim : Primitives) (lib : NoiseLib) (aeads : AEADLib)

def Initiator.unread (c : Initiator) (incoming : Bytes) : Bytes :=
  (readObfMsgFrom prim.keystream (prim.obfsKeyFromServerPub c.serverPub) incoming).2

def Acceptor.unread (s : Acceptor) (incoming : Bytes) : Bytes :=
  (readObfMsgFrom prim.keystream (prim.obfsKeyFromServerPub s.static.pub) incoming).2

def Initiator.tunnel (c : Initiator) (vnetHdr : Bool) (reads : List LaneRead) (tun : Nat → TunWrite) (incoming : Bytes) :
    Except TunnelError TunnelEnd :=
  ((c.greet prim lib).mapError .initiate).bind fun (_, greeting) =>
    ((initiateHandshake prim lib c incoming).mapError .initiate).bind fun ident =>
      ((runLane aeads ident.keys vnetHdr reads tun (c.unread prim incoming)).mapError .lane).bind fun lane =>
        .ok ⟨ident, greeting ++ lane.wire, lane.device, lane.exit⟩

def Acceptor.tunnel (s : Acceptor) (vnetHdr : Bool) (reads : List LaneRead) (tun : Nat → TunWrite) (incoming : Bytes) :
    Except TunnelError TunnelEnd :=
  ((acceptHandshake prim lib s incoming).mapError .accept).bind fun (ident, reply) =>
    ((runLane aeads ident.keys vnetHdr reads tun (s.unread prim incoming)).mapError .lane).bind fun lane =>
      .ok ⟨ident, reply ++ lane.wire, lane.device, lane.exit⟩

theorem initiator_tunnel_ran (c : Initiator) (vnetHdr : Bool) (reads : List LaneRead) (tun : Nat → TunWrite) (incoming : Bytes)
    (done : TunnelEnd) (ran : c.tunnel prim lib aeads vnetHdr reads tun incoming = .ok done) :
    ∃ msg1 greeting lane, c.greet prim lib = .ok (msg1, greeting) ∧ initiateHandshake prim lib c incoming = .ok done.ident ∧
      runLane aeads done.ident.keys vnetHdr reads tun (c.unread prim incoming) = .ok lane ∧
      done.out = greeting ++ lane.wire ∧ done.device = lane.device ∧ done.exit = lane.exit := by
  obtain ⟨⟨msg1, greeting⟩, sent, continued⟩ := Outcomes.bind_ok ran
  obtain ⟨ident, initiated, joined⟩ := Outcomes.bind_ok continued
  obtain ⟨lane, run, same⟩ := Outcomes.bind_ok joined
  obtain rfl := Except.ok.inj same
  exact ⟨msg1, greeting, lane, Outcomes.map_error_ok sent, Outcomes.map_error_ok initiated, Outcomes.map_error_ok run, rfl, rfl, rfl⟩

theorem acceptor_tunnel_ran (s : Acceptor) (vnetHdr : Bool) (reads : List LaneRead) (tun : Nat → TunWrite) (incoming : Bytes)
    (done : TunnelEnd) (ran : s.tunnel prim lib aeads vnetHdr reads tun incoming = .ok done) :
    ∃ reply lane, acceptHandshake prim lib s incoming = .ok (done.ident, reply) ∧
      runLane aeads done.ident.keys vnetHdr reads tun (s.unread prim incoming) = .ok lane ∧
      done.out = reply ++ lane.wire ∧ done.device = lane.device ∧ done.exit = lane.exit := by
  obtain ⟨⟨ident, reply⟩, accepted, joined⟩ := Outcomes.bind_ok ran
  obtain ⟨lane, run, same⟩ := Outcomes.bind_ok joined
  obtain rfl := Except.ok.inj same
  exact ⟨reply, lane, Outcomes.map_error_ok accepted, Outcomes.map_error_ok run, rfl, rfl, rfl⟩

end Ends

section Reading

theorem read_obf_body_extends (stream : Nat → UInt8) (hdr : Bytes) : Streams.Extends (readObfBody stream hdr) := by
  unfold readObfBody
  dsimp only
  split_ifs
  · exact Streams.fail_extends _
  · exact Streams.and_then_extends _ _ (Streams.read_full_extends _ _) fun _ => Streams.done_extends _

theorem read_obf_msg_from_extends (keystream : KeyStream) (key : Bytes) : Streams.Extends (readObfMsgFrom keystream key) :=
  Streams.and_then_extends _ _ (Streams.read_full_extends _ _) fun salt =>
    Streams.and_then_extends _ _ (Streams.read_full_extends _ _) fun hdr => read_obf_body_extends (keystream key salt) hdr

theorem read_front (keystream : KeyStream) (key : Bytes) (draw : Option EnvelopeDraw) (written : Bool)
    (body wire later front message rest : Bytes) (sent : writeObfMsg keystream key draw written body = .ok wire)
    (starts : front <+: wire ++ later) (read : readObfMsg keystream key front = .ok (message, rest)) :
    message = body ∧ (readObfMsgFrom keystream key front).2 <+: later ∧
      (front = wire ++ later → (readObfMsgFrom keystream key front).2 = later) := by
  have stepped : readObfMsgFrom keystream key front = (.ok message, rest) := by
    rw [read_obf_msg_from_result] at read
    generalize readObfMsgFrom keystream key front = outcome at read
    obtain ⟨result, unread⟩ := outcome
    cases result with
    | error problem => cases read
    | ok found =>
        obtain ⟨rfl, rfl⟩ := Prod.mk.inj (Except.ok.inj read)
        rfl
  obtain ⟨tail, whole⟩ := starts
  have extended := read_obf_msg_from_extends keystream key front tail message rest stepped
  have known := read_write_obf keystream key draw written body wire later sent
  rw [read_obf_msg_from_result, ← whole, extended] at known
  obtain ⟨same, split⟩ := Prod.mk.inj (Except.ok.inj known)
  rw [stepped]
  refine ⟨same, ⟨tail, split⟩, fun complete => ?_⟩
  have nothing : tail = [] := List.append_cancel_left (whole.trans (complete.symm.trans (List.append_nil front).symm))
  rw [← split, nothing, List.append_nil]

end Reading

section Receiving

variable (tun : Nat → TunWrite)

theorem sock_to_tun_front (r : Receiver) (front rest : Bytes) :
    (r.sockToTun tun front).1.events <+: (r.sockToTun tun (front ++ rest)).1.events := by
  fun_induction Receiver.sockToTun tun r front with
  | case1 r => exact Receiver.sock_to_tun_events tun r rest
  | case2 r typ high low more size seen empty ih =>
      rw [List.cons_append, List.cons_append, List.cons_append, Receiver.sockToTun, if_pos empty]
      exact ih
  | case3 r typ high low more size seen nonempty oversize =>
      rewrite [List.cons_append, List.cons_append, List.cons_append, Receiver.sockToTun, if_neg nonempty, if_pos oversize]
      exact List.prefix_refl _
  | case4 r typ high low more size seen => exact Receiver.sock_to_tun_header tun r typ high low (more ++ rest)
  | case5 r typ high low more size seen nonempty inside complete next taken ih =>
      have enough : size ≤ more.length := Nat.le_of_not_lt complete
      rw [List.cons_append, List.cons_append, List.cons_append, Receiver.sockToTun, if_neg nonempty, if_neg inside,
        if_neg (by rw [List.length_append]; omega), List.take_append_of_le_length enough, taken,
        List.drop_append_of_le_length enough]
      exact ih
  | case6 r typ high low more size seen nonempty inside complete next exit taken =>
      have enough : size ≤ more.length := Nat.le_of_not_lt complete
      rewrite [List.cons_append, List.cons_append, List.cons_append, Receiver.sockToTun, if_neg nonempty, if_neg inside,
        if_neg (by rw [List.length_append]; omega), List.take_append_of_le_length enough, taken]
      exact List.prefix_refl _
  | case7 r front => exact Receiver.sock_to_tun_events tun r (front ++ rest)

end Receiving

theorem tunnel_keys_agree (prim : Primitives) (lib : NoiseLib) (ideal : lib.Ideal) (client : Initiator) (server : Acceptor)
    (known : client.serverPub = server.static.pub) (configured : client.cipher = server.cipher)
    (msg1 greeting later reply replied fromClient fromServer : Bytes) (clientIdent serverIdent : KeyedIdentity)
    (sent : client.greet prim lib = .ok (msg1, greeting))
    (accepted : acceptHandshake prim lib server fromClient = .ok (serverIdent, reply))
    (initiated : initiateHandshake prim lib client fromServer = .ok clientIdent)
    (toServer : fromClient <+: greeting ++ later) (toClient : fromServer <+: reply ++ replied) :
    (clientIdent.keys.encrypted = true ∧ serverIdent.keys.encrypted = true ∧ clientIdent.keys.kind = serverIdent.keys.kind ∧
      clientIdent.keys.tx = serverIdent.keys.rx ∧ clientIdent.keys.rx = serverIdent.keys.tx) ∧
    (server.unread prim fromClient <+: later ∧ (fromClient = greeting ++ later → server.unread prim fromClient = later)) ∧
    (client.unread prim fromServer <+: replied ∧ (fromServer = reply ++ replied → client.unread prim fromServer = replied)) := by
  have paired : Paired client.config server.config := ⟨rfl, rfl, congrArg noiseSuite configured, rfl, known⟩
  obtain ⟨wrote1, put1⟩ := greet_sent prim lib client msg1 greeting sent
  obtain ⟨first, asg, msg2, csRx, csTx, heard, _, wrote2, put2, rfl⟩ :=
    accept_returned prim lib server fromClient serverIdent reply accepted
  obtain ⟨rest, payload1, enveloped1, read1, _, _, _⟩ := listen_heard prim lib server fromClient first heard
  obtain ⟨rawMsg2, rest2, payload2, csTx', csRx', seen, serverUSO, enveloped2, read2, _, rfl⟩ :=
    initiate_returned prim lib client fromServer clientIdent initiated
  rw [known] at put1 enveloped2
  obtain ⟨same1, front1, whole1⟩ := read_front _ _ _ _ msg1 greeting later fromClient _ _ put1 toServer enveloped1
  obtain ⟨rfl, front2, whole2⟩ := read_front _ _ _ _ msg2 reply replied fromServer _ _ put2 toClient enveloped2
  rw [same1] at wrote2
  obtain ⟨rfl, rfl, rfl⟩ := ideal.second _ _ _ _ _ _ _ _ _ _ _ _ _ paired wrote1 wrote2 read2
  refine ⟨⟨rfl, rfl, configured, ?_, ?_⟩, ⟨front1, whole1⟩, ?_⟩
  · exact congrArg (fun c => transportKey prim lib c csTx') configured
  · exact congrArg (fun c => transportKey prim lib c csRx') configured
  · rw [Initiator.unread, known]
    exact ⟨front2, whole2⟩

theorem lane_carries (aeads : AEADLib) (near far : LaneKeys) (keyed : near.encrypted = true ∧ far.encrypted = true)
    (kind : near.kind = far.kind) (same : near.tx = far.rx) (nearVnet farVnet : Bool) (reads farReads : List LaneRead)
    (nearTun farTun : Nat → TunWrite) (alive : ∀ write, farTun write ≠ .fatal) (nearIn farIn : Bytes) (nearLane farLane : LaneRecord)
    (fits : ∀ read ∈ reads, read.Fits (maxPkt - aeadOverhead) (maxFrame - 2))
    (sent : runLane aeads near nearVnet reads nearTun nearIn = .ok nearLane)
    (received : runLane aeads far farVnet farReads farTun farIn = .ok farLane) (front : farIn <+: nearLane.wire) :
    farLane.device <+: longEnough (laneMinRead nearVnet) (packetsRead reads) ∧
      (farIn = nearLane.wire →
        farLane.device = longEnough (laneMinRead nearVnet) (packetsRead reads) ∧ farLane.exit = .eof) := by
  obtain ⟨⟨sealer, _⟩, ciphers, wired⟩ := Outcomes.bind_ok sent
  obtain ⟨⟨_, opener⟩, others, written⟩ := Outcomes.bind_ok received
  obtain rfl := Except.ok.inj wired
  obtain rfl := Except.ok.inj written
  rw [laneAEADs, if_pos keyed.1] at ciphers
  rw [laneAEADs, if_pos keyed.2] at others
  obtain ⟨aead, made, more⟩ := Outcomes.bind_ok ciphers
  obtain ⟨_, _, pair⟩ := Outcomes.bind_ok more
  obtain ⟨_, _, later⟩ := Outcomes.bind_ok others
  obtain ⟨again, opened, pair'⟩ := Outcomes.bind_ok later
  rw [kind, same, opened] at made
  obtain rfl := Except.ok.inj made
  obtain ⟨rfl, _⟩ := Prod.mk.inj (Except.ok.inj pair)
  obtain ⟨_, rfl⟩ := Prod.mk.inj (Except.ok.inj pair')
  have positive : 1 ≤ laneMinRead nearVnet := by cases nearVnet <;> decide
  obtain ⟨finished, whole⟩ := delivered_reads (laneMinRead nearVnet) positive (some again)
    (fun cipher is nonce plaintext => Option.some.inj is ▸ aeads.opens _ _ again opened nonce plaintext)
    (fun _ => .written) (fun _ => rfl) farTun alive reads fits
  rw [delivered] at finished whole
  obtain ⟨tail, split⟩ := front
  refine ⟨?_, fun complete => ?_⟩
  · have grown := sock_to_tun_front farTun (Receiver.fresh (some again)) farIn tail
    rw [split] at grown
    exact whole ▸ Receiver.events_writes _ _ grown
  · rw [complete]
    exact ⟨whole, finished⟩

def tagLib : AEADLib where
  newAEAD _ _ := .ok tagAEAD
  opens _ _ aead made nonce plaintext := by
    obtain rfl := Except.ok.inj made
    simp [tagAEAD]

def sampleUpstream : Bytes := sampleGreeting.2 ++ wireOf (some tagAEAD) 0 [⟨frTypeSingle, [1, 2]⟩]

def sampleServerEnd (fromClient : Bytes) : Except TunnelError TunnelEnd :=
  sampleServer.tunnel clearPrimitives clearNoise tagLib false [.plain (.got [3])] (fun _ => .accepted) fromClient

def sampleClientEnd (fromServer : Bytes) : Except TunnelError TunnelEnd :=
  sampleClient.tunnel clearPrimitives clearNoise tagLib false [.plain (.got [1, 2])] (fun _ => .accepted) fromServer

end Packethose
