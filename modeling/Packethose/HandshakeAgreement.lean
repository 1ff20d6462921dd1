import Packethose.Lib.Outcomes
import Packethose.HandshakeMessages

set_option autoImplicit false

namespace Packethose

def hsPrologue : String := "packethose-v7"

def transportInfo : String := "packethose-transport-v7"

structure DHKey where
  priv : Bytes
  pub : Bytes
deriving DecidableEq, Repr

inductive NoiseSuite where
  | aesGCM
  | chaChaPoly
deriving DecidableEq, Repr

def noiseSuite (c : Cipher) : NoiseSuite := if c = cipherChaCha then .chaChaPoly else .aesGCM

def Cipher.keyLen (c : Cipher) : Nat :=
  if c = cipherAESGCM then 16
  else if c = cipherAES256GCM then 32
  else if c = cipherChaCha then 32
  else 0

structure NoiseConfig where
  cipherSuite : NoiseSuite
  initiator : Bool
  prologue : String
  staticKeypair : DHKey
  peerStatic : Bytes
deriving DecidableEq, Repr

-- The Noise library. A handshake state holds nothing beyond its configuration,
-- its ephemeral key and the messages so far, so every call is given those.
-- Both calls on message 2 return the split states in the order initiator to
-- responder, responder to initiator.
structure NoiseLib where
  CipherState : Type
  unsafeKey : CipherState → Bytes
  newHandshakeState : NoiseConfig → Except String Unit
  writeMessage1 : NoiseConfig → Bytes → Bytes → Except String Bytes
  readMessage1 : NoiseConfig → Bytes → Except String (Bytes × Bytes)
  writeMessage2 : NoiseConfig → Bytes → Bytes → Bytes → Except String (Bytes × CipherState × CipherState)
  readMessage2 : NoiseConfig → Bytes → Bytes → Bytes → Except String (Bytes × CipherState × CipherState)

structure Primitives where
  sha256 : Digest
  obfsKeyFromServerPub : Bytes → Bytes
  keystream : KeyStream
  hkdfExpand : Bytes → String → Nat → UInt8

structure LaneKeys where
  encrypted : Bool
  kind : Cipher
  tx : Bytes
  rx : Bytes
deriving DecidableEq, Repr

structure KeyedIdentity extends LaneIdentity where
  keys : LaneKeys
  usoEnabled : Bool
  peer4 : Addr
  peer6 : Addr
deriving DecidableEq, Repr

def KeyedIdentity.assignment (ident : KeyedIdentity) : AssignmentResponse :=
  { v4Addr := ident.assigned4
    v4Prefix := ident.prefix4
    v4Peer := ident.peer4
    v6Addr := ident.assigned6
    v6Prefix := ident.prefix6
    v6Peer := ident.peer6 }

section Endpoints

variable (prim : Primitives) (lib : NoiseLib)

def transportKey (c : Cipher) (cs : lib.CipherState) : Bytes :=
  (List.range c.keyLen).map (prim.hkdfExpand (lib.unsafeKey cs) transportInfo)

structure Initiator where
  static : DHKey
  serverPub : Bytes
  cipher : Cipher
  localUSO : Bool
  laneCount : UInt8
  req : AssignmentRequest
  ephemeral : Bytes
  draw : Option EnvelopeDraw
  written : Bool

inductive InitiateError where
  | noise (cause : String)
  | send (problem : SendError)
  | envelope (problem : EnvelopeError)
  | serverAuth (cause : String)
  | payload (problem : ServerPayloadError)
deriving DecidableEq, Repr

def InitiateError.text : InitiateError → String
  | .noise cause => cause
  | .send problem => problem.text
  | .envelope problem => problem.text
  | .serverAuth cause => "handshake: server auth failed: " ++ cause
  | .payload problem => problem.text

def Initiator.config (c : Initiator) : NoiseConfig :=
  { cipherSuite := noiseSuite c.cipher
    initiator := true
    prologue := hsPrologue
    staticKeypair := c.static
    peerStatic := c.serverPub }

def Initiator.payload1 (c : Initiator) : Bytes := buildClientPayload c.cipher c.laneCount c.req c.localUSO

def Initiator.greet (c : Initiator) : Except InitiateError (Bytes × Bytes) :=
  ((lib.newHandshakeState c.config).mapError .noise).bind fun _ =>
    ((lib.writeMessage1 c.config c.ephemeral c.payload1).mapError .noise).bind fun msg1 =>
      ((writeObfMsg prim.keystream (prim.obfsKeyFromServerPub c.serverPub) c.draw c.written msg1).mapError .send).bind fun wire =>
        .ok (msg1, wire)

def Initiator.identity (c : Initiator) (csTx csRx : lib.CipherState) (asg : AssignmentResponse) (serverUSO : Bool) :
    KeyedIdentity :=
  { keys := ⟨true, c.cipher, transportKey prim lib c.cipher csTx, transportKey prim lib c.cipher csRx⟩
    clientID := deriveClientID prim.sha256 c.static.pub
    pubKey := c.static.pub
    laneCount := c.laneCount
    userName := ""
    usoEnabled := c.localUSO && serverUSO
    assigned4 := asg.v4Addr
    prefix4 := asg.v4Prefix
    peer4 := asg.v4Peer
    assigned6 := asg.v6Addr
    prefix6 := asg.v6Prefix
    peer6 := asg.v6Peer }

def initiateHandshake (c : Initiator) (incoming : Bytes) : Except InitiateError KeyedIdentity :=
  (c.greet prim lib).bind fun _ =>
    ((readObfMsg prim.keystream (prim.obfsKeyFromServerPub c.serverPub) incoming).mapError .envelope).bind fun (rawMsg2, _) =>
      ((lib.readMessage2 c.config c.ephemeral c.payload1 rawMsg2).mapError .serverAuth).bind fun (payload2, csTx, csRx) =>
        ((parseServerPayload payload2).mapError .payload).bind fun (asg, serverUSO) =>
          .ok (c.identity prim lib csTx csRx asg serverUSO)

structure Acceptor where
  static : DHKey
  cipher : Cipher
  localUSO : Bool
  authorize : Authorizer
  assignFn : Option (String → ClientID → AssignmentRequest → Except String AssignmentResponse)
  ephemeral : Bytes
  draw : Option EnvelopeDraw
  written : Bool

inductive AcceptError where
  | noise (cause : String)
  | hello (problem : HandshakeError)
  | assign (cause : String)
  | send (problem : SendError)
deriving DecidableEq, Repr

def AcceptError.text : AcceptError → String
  | .noise cause => cause
  | .hello problem => problem.text
  | .assign cause => cause
  | .send problem => problem.text

structure AcceptFailure where
  error : AcceptError
  clientID : ClientID
deriving DecidableEq, Repr

def Acceptor.config (s : Acceptor) : NoiseConfig :=
  { cipherSuite := noiseSuite s.cipher
    initiator := false
    prologue := hsPrologue
    staticKeypair := s.static
    peerStatic := [] }

structure FirstMessage where
  rawMsg1 : Bytes
  clientPub : Bytes
  userName : String
  payload : ClientPayload

def Acceptor.listen (s : Acceptor) (incoming : Bytes) : Except AcceptFailure FirstMessage :=
  let early (error : AcceptError) : AcceptFailure := ⟨error, zeroClientID⟩
  ((lib.newHandshakeState s.config).mapError fun cause => early (.noise cause)).bind fun _ =>
    ((readObfMsg prim.keystream (prim.obfsKeyFromServerPub s.static.pub) incoming).mapError
        fun problem => early (.hello (.envelope problem))).bind fun (rawMsg1, _) =>
      ((lib.readMessage1 s.config rawMsg1).mapError fun cause => early (.hello (.clientAuth cause))).bind
        fun (payload1, clientPub) =>
          let fail (error : HandshakeError) : AcceptFailure := ⟨.hello error, deriveClientID prim.sha256 clientPub⟩
          ((s.authorize clientPub).mapError fun problem => fail (.unauthorized problem)).bind fun userName =>
            ((parseClientPayload payload1).mapError fail).bind fun parsed =>
              if parsed.cipher ≠ s.cipher then .error (fail (.cipherMismatch parsed.cipher s.cipher))
              else .ok ⟨rawMsg1, clientPub, userName, parsed⟩

def Acceptor.assign (s : Acceptor) (userName : String) (clientID : ClientID) (req : AssignmentRequest) :
    Except String AssignmentResponse :=
  match s.assignFn with
  | none => .ok .empty
  | some assignFn => assignFn userName clientID req

def Acceptor.identity (s : Acceptor) (first : FirstMessage) (csRx csTx : lib.CipherState) (asg : AssignmentResponse) :
    KeyedIdentity :=
  { keys := ⟨true, s.cipher, transportKey prim lib s.cipher csTx, transportKey prim lib s.cipher csRx⟩
    clientID := deriveClientID prim.sha256 first.clientPub
    pubKey := first.clientPub
    laneCount := first.payload.laneCount
    userName := first.userName
    usoEnabled := s.localUSO && first.payload.uso
    assigned4 := asg.v4Addr
    prefix4 := asg.v4Prefix
    peer4 := asg.v4Peer
    assigned6 := asg.v6Addr
    prefix6 := asg.v6Prefix
    peer6 := asg.v6Peer }

def acceptHandshake (s : Acceptor) (incoming : Bytes) : Except AcceptFailure (KeyedIdentity × Bytes) :=
  (s.listen prim lib incoming).bind fun first =>
    let clientID := deriveClientID prim.sha256 first.clientPub
    ((s.assign first.userName clientID first.payload.request).mapError fun cause => ⟨.assign cause, clientID⟩).bind fun asg =>
      ((lib.writeMessage2 s.config first.rawMsg1 s.ephemeral (buildServerPayload asg s.localUSO)).mapError
          fun cause => ⟨.noise cause, clientID⟩).bind fun (msg2, csRx, csTx) =>
        ((writeObfMsg prim.keystream (prim.obfsKeyFromServerPub s.static.pub) s.draw s.written msg2).mapError
            fun problem => ⟨.send problem, clientID⟩).bind fun wire =>
          .ok (s.identity prim lib first csRx csTx asg, wire)

theorem greet_sent (c : Initiator) (msg1 wire : Bytes) (sent : c.greet prim lib = .ok (msg1, wire)) :
    lib.writeMessage1 c.config c.ephemeral c.payload1 = .ok msg1 ∧
      writeObfMsg prim.keystream (prim.obfsKeyFromServerPub c.serverPub) c.draw c.written msg1 = .ok wire := by
  obtain ⟨_, _, built⟩ := Outcomes.bind_ok sent
  obtain ⟨message, made, wrapped⟩ := Outcomes.bind_ok built
  obtain ⟨bytes, put, same⟩ := Outcomes.bind_ok wrapped
  obtain ⟨rfl, rfl⟩ := Prod.mk.inj (Except.ok.inj same)
  exact ⟨Outcomes.map_error_ok made, Outcomes.map_error_ok put⟩

theorem initiate_returned (c : Initiator) (incoming : Bytes) (ident : KeyedIdentity)
    (initiated : initiateHandshake prim lib c incoming = .ok ident) :
    ∃ rawMsg2 rest payload2 csTx csRx asg serverUSO,
      readObfMsg prim.keystream (prim.obfsKeyFromServerPub c.serverPub) incoming = .ok (rawMsg2, rest) ∧
      lib.readMessage2 c.config c.ephemeral c.payload1 rawMsg2 = .ok (payload2, csTx, csRx) ∧
      parseServerPayload payload2 = .ok (asg, serverUSO) ∧ ident = c.identity prim lib csTx csRx asg serverUSO := by
  obtain ⟨_, _, continued⟩ := Outcomes.bind_ok initiated
  obtain ⟨⟨rawMsg2, rest⟩, enveloped, opened⟩ := Outcomes.bind_ok continued
  obtain ⟨⟨payload2, csTx, csRx⟩, read, split⟩ := Outcomes.bind_ok opened
  obtain ⟨⟨asg, serverUSO⟩, parsed, same⟩ := Outcomes.bind_ok split
  exact ⟨rawMsg2, rest, payload2, csTx, csRx, asg, serverUSO, Outcomes.map_error_ok enveloped, Outcomes.map_error_ok read,
    Outcomes.map_error_ok parsed, (Except.ok.inj same).symm⟩

theorem listen_heard (s : Acceptor) (incoming : Bytes) (first : FirstMessage) (heard : s.listen prim lib incoming = .ok first) :
    ∃ rest payload1,
      readObfMsg prim.keystream (prim.obfsKeyFromServerPub s.static.pub) incoming = .ok (first.rawMsg1, rest) ∧
      lib.readMessage1 s.config first.rawMsg1 = .ok (payload1, first.clientPub) ∧
      s.authorize first.clientPub = .ok first.userName ∧ parseClientPayload payload1 = .ok first.payload ∧
      first.payload.cipher = s.cipher := by
  obtain ⟨_, _, continued⟩ := Outcomes.bind_ok heard
  obtain ⟨⟨rawMsg1, rest⟩, enveloped, opened⟩ := Outcomes.bind_ok continued
  obtain ⟨⟨payload1, clientPub⟩, read, known⟩ := Outcomes.bind_ok opened
  obtain ⟨userName, authorized, admitted⟩ := Outcomes.bind_ok known
  obtain ⟨parsed, complete, checked⟩ := Outcomes.bind_ok admitted
  split_ifs at checked with cipher
  obtain rfl := Except.ok.inj checked
  exact ⟨rest, payload1, Outcomes.map_error_ok enveloped, Outcomes.map_error_ok read, Outcomes.map_error_ok authorized,
    Outcomes.map_error_ok complete, not_not.mp cipher⟩

theorem accept_returned (s : Acceptor) (incoming : Bytes) (ident : KeyedIdentity) (reply : Bytes)
    (accepted : acceptHandshake prim lib s incoming = .ok (ident, reply)) :
    ∃ first asg msg2 csRx csTx, s.listen prim lib incoming = .ok first ∧
      s.assign first.userName (deriveClientID prim.sha256 first.clientPub) first.payload.request = .ok asg ∧
      lib.writeMessage2 s.config first.rawMsg1 s.ephemeral (buildServerPayload asg s.localUSO) = .ok (msg2, csRx, csTx) ∧
      writeObfMsg prim.keystream (prim.obfsKeyFromServerPub s.static.pub) s.draw s.written msg2 = .ok reply ∧
      ident = s.identity prim lib first csRx csTx asg := by
  obtain ⟨first, heard, continued⟩ := Outcomes.bind_ok accepted
  obtain ⟨asg, assigned, answered⟩ := Outcomes.bind_ok continued
  obtain ⟨⟨msg2, csRx, csTx⟩, made, wrapped⟩ := Outcomes.bind_ok answered
  obtain ⟨wire, put, same⟩ := Outcomes.bind_ok wrapped
  obtain ⟨rfl, rfl⟩ := Prod.mk.inj (Except.ok.inj same)
  exact ⟨first, asg, msg2, csRx, csTx, heard, Outcomes.map_error_ok assigned, Outcomes.map_error_ok made,
    Outcomes.map_error_ok put, rfl⟩

end Endpoints

def NoiseLib.responder (lib : NoiseLib) (config : NoiseConfig) : NoiseIK where
  readMessage := lib.readMessage1 config
  Authenticated message pub := ∃ payload, lib.readMessage1 config message = .ok (payload, pub)
  authentic _ payload _ read := ⟨payload, read⟩

def Acceptor.env (prim : Primitives) (lib : NoiseLib) (cfg : ServerConfig) (s : Acceptor) : Env :=
  { cfg := { cfg with cipher := s.cipher }
    sha256 := prim.sha256
    obfsKey := prim.obfsKeyFromServerPub s.static.pub
    keystream := prim.keystream
    noise := lib.responder s.config
    authorizer := fun _ => s.authorize }

theorem accept_hello (prim : Primitives) (lib : NoiseLib) (cfg : ServerConfig) (s : Acceptor) (incoming : Bytes)
    (ident : KeyedIdentity) (reply : Bytes) (accepted : acceptHandshake prim lib s incoming = .ok (ident, reply)) :
    ∃ hello asg, readClientHello (s.env prim lib cfg) s.authorize incoming = .ok hello ∧
      s.assign hello.userName hello.clientID hello.request = .ok asg ∧ ident.toLaneIdentity = hello.identity asg := by
  obtain ⟨first, asg, msg2, csRx, csTx, heard, assigned, _, _, rfl⟩ := accept_returned prim lib s incoming ident reply accepted
  obtain ⟨rest, payload1, enveloped, read, authorized, parsed, cipher⟩ := listen_heard prim lib s incoming first heard
  refine ⟨⟨deriveClientID prim.sha256 first.clientPub, first.clientPub, first.userName, first.payload.laneCount,
    first.payload.request⟩, asg, ?_, assigned, rfl⟩
  have message : (s.env prim lib cfg).noise.readMessage first.rawMsg1 = .ok (payload1, first.clientPub) := read
  have envelope : readObfMsg (s.env prim lib cfg).keystream (s.env prim lib cfg).obfsKey incoming =
      .ok (first.rawMsg1, rest) := enveloped
  have suite : ¬ first.payload.cipher ≠ (s.env prim lib cfg).cfg.cipher := not_not.mpr cipher
  simp only [readClientHello, envelope, message, authorized, parsed, if_neg suite]
  rfl

structure Paired (client server : NoiseConfig) : Prop where
  initiator : client.initiator = true
  responder : server.initiator = false
  suite : client.cipherSuite = server.cipherSuite
  prologue : client.prologue = server.prologue
  peer : client.peerStatic = server.staticKeypair.pub

-- Ideal Noise IK between two endpoints that are configured for each other:
-- either side reads exactly the payload the other wrote, the responder learns
-- the initiator's key, and both split into the same pair of cipher states.
structure NoiseLib.Ideal (lib : NoiseLib) : Prop where
  first : ∀ client server ephemeral payload message read pub, Paired client server →
    lib.writeMessage1 client ephemeral payload = .ok message → lib.readMessage1 server message = .ok (read, pub) →
    read = payload ∧ pub = client.staticKeypair.pub
  second : ∀ client server ephemeral payload message answering payload2 message2 csRx csTx read csTx' csRx',
    Paired client server → lib.writeMessage1 client ephemeral payload = .ok message →
    lib.writeMessage2 server message answering payload2 = .ok (message2, csRx, csTx) →
    lib.readMessage2 client ephemeral payload message2 = .ok (read, csTx', csRx') →
    read = payload2 ∧ csTx' = csRx ∧ csRx' = csTx

theorem transport_key_length (prim : Primitives) (lib : NoiseLib) (c : Cipher) (cs : lib.CipherState) :
    (transportKey prim lib c cs).length = c.keyLen := by
  simp [transportKey]

theorem handshake_agreement (prim : Primitives) (lib : NoiseLib) (ideal : lib.Ideal) (client : Initiator) (server : Acceptor)
    (known : client.serverPub = server.static.pub) (configured : client.cipher = server.cipher)
    (suite : client.cipher = cipherAESGCM ∨ client.cipher = cipherAES256GCM ∨ client.cipher = cipherChaCha)
    (zoneless : ∀ userName clientID req asg, server.assign userName clientID req = .ok asg → asg.Zoneless)
    (msg1 wire later reply replied : Bytes) (clientIdent serverIdent : KeyedIdentity)
    (sent : client.greet prim lib = .ok (msg1, wire))
    (accepted : acceptHandshake prim lib server (wire ++ later) = .ok (serverIdent, reply))
    (initiated : initiateHandshake prim lib client (reply ++ replied) = .ok clientIdent) :
    clientIdent.keys.tx = serverIdent.keys.rx ∧ clientIdent.keys.rx = serverIdent.keys.tx ∧
      (∀ key, key = clientIdent.keys.tx ∨ key = clientIdent.keys.rx →
        key.length = if client.cipher = cipherAESGCM then 16 else 32) ∧
      clientIdent.clientID = serverIdent.clientID ∧ clientIdent.laneCount = serverIdent.laneCount ∧
      clientIdent.laneCount = client.laneCount ∧ clientIdent.usoEnabled = serverIdent.usoEnabled ∧
      (clientIdent.usoEnabled = true ↔ client.localUSO = true ∧ server.localUSO = true) ∧
      clientIdent.assignment = serverIdent.assignment.announced := by
  have paired : Paired client.config server.config := ⟨rfl, rfl, congrArg noiseSuite configured, rfl, known⟩
  obtain ⟨wrote1, put1⟩ := greet_sent prim lib client msg1 wire sent
  obtain ⟨first, asg, msg2, csRx, csTx, heard, assigned, wrote2, put2, rfl⟩ :=
    accept_returned prim lib server _ serverIdent reply accepted
  obtain ⟨rest, payload1, enveloped1, read1, _, parsed1, _⟩ := listen_heard prim lib server _ first heard
  obtain ⟨rawMsg2, rest2, payload2, csTx', csRx', seen, serverUSO, enveloped2, read2, parsed2, rfl⟩ :=
    initiate_returned prim lib client _ clientIdent initiated
  -- The envelopes give back the Noise messages, Noise gives back the payloads.
  rw [known] at put1 enveloped2
  rw [read_write_obf _ _ _ _ msg1 wire later put1] at enveloped1
  rw [read_write_obf _ _ _ _ msg2 reply replied put2] at enveloped2
  obtain ⟨same1, _⟩ := Prod.mk.inj (Except.ok.inj enveloped1)
  obtain ⟨rfl, _⟩ := Prod.mk.inj (Except.ok.inj enveloped2)
  rw [← same1] at read1 wrote2
  obtain ⟨rfl, clientPub⟩ := ideal.first _ _ _ _ _ _ _ paired wrote1 read1
  obtain ⟨rfl, rfl, rfl⟩ := ideal.second _ _ _ _ _ _ _ _ _ _ _ _ _ paired wrote1 wrote2 read2
  rw [Initiator.payload1, parse_build_client] at parsed1
  rw [parse_build_server asg server.localUSO (zoneless _ _ _ asg assigned)] at parsed2
  obtain ⟨rfl, rfl⟩ := Prod.mk.inj (Except.ok.inj parsed2)
  have payload := (Except.ok.inj parsed1).symm
  have lengths : client.cipher.keyLen = if client.cipher = cipherAESGCM then 16 else 32 := by
    rcases suite with same | same | same <;> rw [same] <;> rfl
  refine ⟨?_, ?_, ?_, ?_, ?_, rfl, ?_, ?_, rfl⟩
  · exact congrArg (fun c => transportKey prim lib c csTx') configured
  · exact congrArg (fun c => transportKey prim lib c csRx') configured
  · rintro key (rfl | rfl)
    · exact (transport_key_length prim lib client.cipher csTx').trans lengths
    · exact (transport_key_length prim lib client.cipher csRx').trans lengths
  · exact congrArg (deriveClientID prim.sha256) clientPub.symm
  · exact (congrArg ClientPayload.laneCount payload).symm
  · have announced : first.payload.uso = client.localUSO := congrArg ClientPayload.uso payload
    simp only [Initiator.identity, Acceptor.identity, announced, Bool.and_comm]
  · simp only [Initiator.identity, Bool.and_eq_true]

-- A stand-in that sends the static key and the payload in the clear and takes
-- message 1 for the secret.
def clearNoise : NoiseLib where
  CipherState := Bytes
  unsafeKey := id
  newHandshakeState _ := .ok ()
  writeMessage1 config _ payload :=
    if config.staticKeypair.pub.length = pubKeyLen then .ok (config.staticKeypair.pub ++ payload) else .error "static key"
  readMessage1 _ message :=
    if message.length < pubKeyLen then .error "short message" else .ok (message.drop pubKeyLen, message.take pubKeyLen)
  writeMessage2 _ message _ payload := .ok (payload, 0 :: message, 1 :: message)
  readMessage2 config _ payload message :=
    .ok (message, 0 :: (config.staticKeypair.pub ++ payload), 1 :: (config.staticKeypair.pub ++ payload))

theorem clear_noise_ideal : clearNoise.Ideal := by
  constructor
  · intro client server ephemeral payload message read pub paired wrote heard
    simp only [clearNoise] at wrote heard
    split_ifs at wrote heard with width short
    obtain rfl := Except.ok.inj wrote
    obtain ⟨rfl, rfl⟩ := Prod.mk.inj (Except.ok.inj heard)
    exact ⟨List.drop_left' width, List.take_left' width⟩
  · intro client server ephemeral payload message answering payload2 message2 csRx csTx read csTx' csRx' paired wrote sent heard
    simp only [clearNoise] at wrote sent heard
    split_ifs at wrote
    obtain rfl := Except.ok.inj wrote
    obtain ⟨rfl, rfl, rfl⟩ := Prod.mk.inj (Except.ok.inj sent)
    obtain ⟨rfl, rfl, rfl⟩ := Prod.mk.inj (Except.ok.inj heard)
    exact ⟨rfl, rfl, rfl⟩

def clearPrimitives : Primitives where
  sha256 := zeroDigest
  obfsKeyFromServerPub := id
  keystream _ _ _ := 0
  hkdfExpand key _ index := key.getD index 0

def clearDraw : EnvelopeDraw := ⟨Vector.replicate obfsSaltLen 0, 0, Vector.replicate 0 0⟩

def sampleClient : Initiator where
  static := ⟨List.replicate 32 1, List.replicate 32 2⟩
  serverPub := List.replicate 32 3
  cipher := cipherAESGCM
  localUSO := true
  laneCount := 4
  req := ⟨.zero, .zero⟩
  ephemeral := []
  draw := some clearDraw
  written := true

def sampleServer : Acceptor where
  static := ⟨List.replicate 32 4, List.replicate 32 3⟩
  cipher := cipherAESGCM
  localUSO := true
  authorize _ := .ok "ann"
  assignFn := none
  ephemeral := []
  draw := some clearDraw
  written := true

def sampleGreeting : Bytes × Bytes := ((sampleClient.greet clearPrimitives clearNoise).toOption).getD ([], [])

def sampleAssignment : AssignmentResponse where
  v4Addr := .v4 #v[10, 66, 0, 2]
  v4Prefix := 24
  v4Peer := .v4 #v[10, 66, 0, 1]
  v6Addr := .addrFrom16 (Vector.replicate 16 0)
  v6Prefix := 64
  v6Peer := .zero

def assigningServer : Acceptor := { sampleServer with assignFn := some fun _ _ _ => .ok sampleAssignment }

def sampleAnswer : Option (KeyedIdentity × Bytes) :=
  (acceptHandshake clearPrimitives clearNoise assigningServer (sampleGreeting.2 ++ [])).toOption

theorem sample_zoneless (userName : String) (clientID : ClientID) (req : AssignmentRequest) (asg : AssignmentResponse)
    (assigned : assigningServer.assign userName clientID req = .ok asg) : asg.Zoneless := by
  obtain rfl := Except.ok.inj assigned
  exact ⟨rfl, rfl, rfl, rfl⟩

theorem handshake_agreement_sample :
    ∃ clientIdent serverIdent reply,
      acceptHandshake clearPrimitives clearNoise assigningServer (sampleGreeting.2 ++ []) = .ok (serverIdent, reply) ∧
      initiateHandshake clearPrimitives clearNoise sampleClient (reply ++ []) = .ok clientIdent ∧
      clientIdent.keys.tx = serverIdent.keys.rx ∧ clientIdent.keys.tx.length = 16 ∧ clientIdent.usoEnabled = true ∧
      serverIdent.assignment = sampleAssignment ∧ clientIdent.assignment = { sampleAssignment with v6Addr := .zero } := by
  have greeted : sampleClient.greet clearPrimitives clearNoise = .ok (sampleGreeting.1, sampleGreeting.2) := by
    decide +kernel
  have observed : (sampleAnswer.bind fun answer =>
      (initiateHandshake clearPrimitives clearNoise sampleClient (answer.2 ++ [])).toOption.map fun _ =>
        answer.1.assignment) = some sampleAssignment := by
    decide +kernel
  obtain ⟨⟨serverIdent, reply⟩, answered, continued⟩ := Option.bind_eq_some_iff.mp observed
  obtain ⟨clientIdent, initiated, given⟩ := Option.map_eq_some_iff.mp continued
  have accepted := Outcomes.to_option_some answered
  have completed := Outcomes.to_option_some initiated
  have given : serverIdent.assignment = sampleAssignment := given
  obtain ⟨tx, _, lengths, _, _, _, _, uso, assignment⟩ := handshake_agreement clearPrimitives clearNoise clear_noise_ideal
    sampleClient assigningServer rfl rfl (.inl rfl) sample_zoneless _ _ [] reply [] clientIdent serverIdent greeted accepted completed
  refine ⟨clientIdent, serverIdent, reply, accepted, completed, tx, lengths _ (.inl rfl), uso.mpr ⟨rfl, rfl⟩, given, ?_⟩
  rw [assignment, given]
  decide +kernel

end Packethose
