import Packethose.ServerConfig

set_option autoImplicit false

namespace Packethose

def hsVersion : UInt8 := 7
def addrSlotLen : Nat := 17
def clientPayloadLen : Nat := 1 + 1 + 1 + addrSlotLen + addrSlotLen + 1
def hsFlagUSO : UInt8 := 1

def obfsSaltLen : Nat := 16
def obfsMaxBody : Nat := 4096

def zeroClientID : ClientID := Vector.replicate 16 0

def Cipher.name (c : Cipher) : String :=
  if c = cipherNone then "none"
  else if c = cipherAESGCM then "aes-128-gcm"
  else if c = cipherChaCha then "chacha20"
  else if c = cipherAES256GCM then "aes-256-gcm"
  else "unknown(" ++ toString c.toNat ++ ")"

inductive EnvelopeError where
  | shortRead
  | bodyTooLong (length : Nat)
deriving DecidableEq, Repr

inductive HandshakeError where
  | envelope (problem : EnvelopeError)
  | clientAuth (cause : String)
  | unauthorized (problem : SlotError)
  | shortPayload
  | versionMismatch (got : UInt8)
  | cipherMismatch (client server : Cipher)
deriving DecidableEq, Repr

def EnvelopeError.text : EnvelopeError → String
  | .shortRead => "unexpected EOF"
  | .bodyTooLong length => "obfs: framed body length " ++ toString length ++ " exceeds max " ++ toString obfsMaxBody

def SlotError.text : SlotError → String
  | .unknownUser => "packethose: unknown client key"
  | .quotaExceeded => "packethose: user quota exceeded"

def HandshakeError.text : HandshakeError → String
  | .envelope problem => problem.text
  | .clientAuth cause => "handshake: client auth failed: " ++ cause
  | .unauthorized problem => problem.text
  | .shortPayload => "handshake: short client payload"
  | .versionMismatch got =>
      "handshake: version mismatch (got " ++ toString got.toNat ++ ", want " ++ toString hsVersion.toNat ++ ")"
  | .cipherMismatch client server =>
      "handshake: cipher mismatch (client " ++ Cipher.name client ++ ", server " ++ Cipher.name server ++ ")"

-- The responder side of Noise IK, reading message 1. Reading yields the
-- payload and the initiator's static key; that it never does so for a key the
-- sender does not hold is the security of the pattern and comes with it.
structure NoiseIK where
  readMessage : Bytes → Except String (Bytes × Bytes)
  Authenticated : Bytes → Bytes → Prop
  authentic : ∀ message payload pub, readMessage message = .ok (payload, pub) → Authenticated message pub

abbrev KeyStream := Bytes → Bytes → Nat → UInt8

def xorKeyStream (stream : Nat → UInt8) (start : Nat) (bytes : Bytes) : Bytes :=
  bytes.mapIdx fun index byte => byte ^^^ stream (start + index)

def readObfMsg (keystream : KeyStream) (key input : Bytes) : Except EnvelopeError (Bytes × Bytes) :=
  let stream := keystream key (input.take obfsSaltLen)
  let inner := input.drop obfsSaltLen
  match xorKeyStream stream 0 (inner.take 4) with
  | [bodyHigh, bodyLow, padHigh, padLow] =>
      let bodyLen := Octets.getUint16 bodyHigh bodyLow
      let padLen := Octets.getUint16 padHigh padLow
      if bodyLen > obfsMaxBody then .error (.bodyTooLong bodyLen)
      else if (inner.drop 4).length < bodyLen + padLen then .error .shortRead
      else .ok ((xorKeyStream stream 4 ((inner.drop 4).take (bodyLen + padLen))).take bodyLen,
        (inner.drop 4).drop (bodyLen + padLen))
  | _ => .error .shortRead

structure AssignmentRequest where
  v4 : Addr
  v6 : Addr
deriving DecidableEq, Repr

structure AssignmentResponse where
  v4Addr : Addr
  v4Prefix : UInt8
  v4Peer : Addr
  v6Addr : Addr
  v6Prefix : UInt8
  v6Peer : Addr
deriving DecidableEq, Repr

def AssignmentResponse.empty : AssignmentResponse := ⟨.zero, 0, .zero, .zero, 0, .zero⟩

def decodeAddrSlot (slot : Bytes) : Addr :=
  if slot.length < addrSlotLen then .zero
  else
    match slot.getD 0 0 with
    | 4 => .addrFrom4 (Octets.window 4 slot 1)
    | 6 => .addrFrom16 (Octets.window 16 slot 1)
    | _ => .zero

structure ClientPayload where
  cipher : Cipher
  laneCount : UInt8
  request : AssignmentRequest
  uso : Bool
deriving DecidableEq, Repr

def parseClientPayload (payload : Bytes) : Except HandshakeError ClientPayload :=
  if payload.length < clientPayloadLen then .error .shortPayload
  else if payload.getD 0 0 ≠ hsVersion then .error (.versionMismatch (payload.getD 0 0))
  else .ok
    { cipher := payload.getD 1 0
      laneCount := payload.getD 2 0
      request :=
        { v4 := decodeAddrSlot ((payload.drop 3).take addrSlotLen)
          v6 := decodeAddrSlot ((payload.drop (3 + addrSlotLen)).take addrSlotLen) }
      uso := payload.getD (3 + 2 * addrSlotLen) 0 &&& hsFlagUSO != 0 }

abbrev Authorizer := Bytes → Except SlotError String

def serverAuthorizer (users : Option UserDB) (peerPub : Bytes) : Authorizer := fun clientPub =>
  match users with
  | some db =>
      if db.isEmpty then
        if peerPub.length > 0 ∧ clientPub = peerPub then .ok "" else .error .unknownUser
      else
        match db.lookupByKey clientPub with
        | none => .error .unknownUser
        | some u => .ok u.name
  | none => if peerPub.length > 0 ∧ clientPub = peerPub then .ok "" else .error .unknownUser

def deriveClientID (sha256 : Digest) (pub : Bytes) : ClientID := Octets.window 16 (sha256 pub).toList 0

structure ClientHello where
  clientID : ClientID
  pubKey : Bytes
  userName : String
  laneCount : UInt8
  request : AssignmentRequest
deriving DecidableEq, Repr

structure HandshakeFailure where
  error : HandshakeError
  clientID : ClientID
deriving DecidableEq, Repr

-- The surroundings of a server that do not change while it runs. handleConn
-- builds its authorizer from the database current at that moment; any way of
-- doing so is admitted here.
structure Env where
  cfg : ServerConfig
  sha256 : Digest
  obfsKey : Bytes
  keystream : KeyStream
  noise : NoiseIK
  authorizer : Option UserDB → Authorizer

def readClientHello (env : Env) (authorize : Authorizer) (input : Bytes) : Except HandshakeFailure ClientHello :=
  match readObfMsg env.keystream env.obfsKey input with
  | .error problem => .error ⟨.envelope problem, zeroClientID⟩
  | .ok (message, _) =>
      match env.noise.readMessage message with
      | .error cause => .error ⟨.clientAuth cause, zeroClientID⟩
      | .ok (payload, pub) =>
          let clientID := deriveClientID env.sha256 pub
          match authorize pub with
          | .error problem => .error ⟨.unauthorized problem, clientID⟩
          | .ok userName =>
              match parseClientPayload payload with
              | .error problem => .error ⟨problem, clientID⟩
              | .ok parsed =>
                  if parsed.cipher ≠ env.cfg.cipher then
                    .error ⟨.cipherMismatch parsed.cipher env.cfg.cipher, clientID⟩
                  else .ok ⟨clientID, pub, userName, parsed.laneCount, parsed.request⟩

structure LaneIdentity where
  clientID : ClientID
  pubKey : Bytes
  laneCount : UInt8
  userName : String
  assigned4 : Addr
  prefix4 : UInt8
  assigned6 : Addr
  prefix6 : UInt8
deriving DecidableEq, Repr

def LaneIdentity.hasAssignment (ident : LaneIdentity) : Bool :=
  (ident.prefix4 != 0 && ident.assigned4.isValid) || (ident.prefix6 != 0 && ident.assigned6.isValid)

def ClientHello.identity (hello : ClientHello) (asg : AssignmentResponse) : LaneIdentity :=
  { clientID := hello.clientID
    pubKey := hello.pubKey
    laneCount := hello.laneCount
    userName := hello.userName
    assigned4 := asg.v4Addr
    prefix4 := asg.v4Prefix
    assigned6 := asg.v6Addr
    prefix6 := asg.v6Prefix }

-- The evidence behind a client id: message 1 of this connection was read and
-- authenticated a key that hashes to it, the authorizer named the user for
-- that key, and the payload announced version 7 and the server's cipher.
structure Admission (env : Env) (authorize : Authorizer) (input : Bytes) (clientID : ClientID) (userName : String) where
  message : Bytes
  rest : Bytes
  payload : Bytes
  pub : Bytes
  parsed : ClientPayload
  enveloped : readObfMsg env.keystream env.obfsKey input = .ok (message, rest)
  read : env.noise.readMessage message = .ok (payload, pub)
  authenticated : env.noise.Authenticated message pub
  identity : deriveClientID env.sha256 pub = clientID
  authorized : authorize pub = .ok userName
  version : payload[0]? = some hsVersion
  complete : parseClientPayload payload = .ok parsed
  cipher : parsed.cipher = env.cfg.cipher

theorem parse_client_payload_version (payload : Bytes) (parsed : ClientPayload)
    (done : parseClientPayload payload = .ok parsed) : payload[0]? = some hsVersion := by
  unfold parseClientPayload at done
  split_ifs at done with short version
  cases payload with
  | nil => exact absurd short (by decide)
  | cons first rest => simpa using version

theorem read_client_hello_admission (env : Env) (authorize : Authorizer) (input : Bytes) (hello : ClientHello)
    (accepted : readClientHello env authorize input = .ok hello) :
    Nonempty (Admission env authorize input hello.clientID hello.userName) := by
  unfold readClientHello at accepted
  split at accepted
  · cases accepted
  · rename_i message rest enveloped
    split at accepted
    · cases accepted
    · rename_i payload pub read
      dsimp only at accepted
      split at accepted
      · cases accepted
      · rename_i userName authorized
        split at accepted
        · cases accepted
        · rename_i parsed complete
          split_ifs at accepted with cipher
          cases accepted
          exact ⟨⟨message, rest, payload, pub, parsed, enveloped, read, env.noise.authentic message payload pub read, rfl,
            authorized, parse_client_payload_version payload parsed complete, complete, not_not.mp cipher⟩⟩

end Packethose
