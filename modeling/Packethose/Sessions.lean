import Packethose.Lib.Runs
import Packethose.Handshake
import Packethose.LaneSend

set_option autoImplicit false

namespace Packethose

abbrev SessionRef := Nat

def outboundCap : Nat := 256

def idleTimeout : Nat := 90 * 1000000000

inductive Family where
  | v4
  | v6
deriving DecidableEq, Repr

structure Session where
  id : ClientID
  userName : String
  assigned4 : Addr
  assigned6 : Addr
  laneCount : Nat
  outbound : List Bytes
  closed : Bool
  nextLane : Nat
  active : Int
  lastSeen : Nat
  isClosed : Bool
deriving DecidableEq

inductive ConnPoint where
  | greeting
  | authorized (hello : ClientHello)
  | assigning4 (hello : ClientHello) (db : Option UserDB)
  | assigning6 (hello : ClientHello) (db : Option UserDB) (asg : AssignmentResponse)
  | replying (hello : ClientHello) (asg : AssignmentResponse)
  | failed (clientID : ClientID)
  | admitted (ident : LaneIdentity)
  | overQuota (clientID : ClientID)
  | joining (ref : SessionRef)
  | attached (ref : SessionRef) (queue : Nat)
  | closed

structure Conn where
  input : Bytes
  users : Option UserDB
  point : ConnPoint

structure Allocation where
  conn : Nat
  userName : String
  clientID : ClientID
deriving DecidableEq

-- mcState together with its goroutines: the handleConn calls, the TUN readers
-- (with the packet and the session each has in hand) and the victims that
-- await tearDown. The last two fields are histories.
structure MCState where
  pool4 : Option IPPool
  pool6 : Option IPPool
  userDB : Option UserDB
  sessions : Table ClientID SessionRef
  ipIndex : Table Addr SessionRef
  heap : List Session
  conns : List Conn
  pending : List SessionRef
  readers : List (Option (Bytes × SessionRef))
  allocations : List Allocation
  dispatched : List (SessionRef × Bytes)

inductive Action where
  | accept (input : Bytes)
  | handshake (conn : Nat)
  | assign (conn : Nat)
  | allocate (conn : Nat)
  | reply (conn : Nat) (sent : Bool)
  | releaseOrphan (conn : Nat)
  | acquire (conn : Nat) (now : Nat)
  | quotaRelease (conn : Nat)
  | attach (conn : Nat) (now : Nat)
  | laneRead (conn : Nat)
  | detach (conn : Nat) (now : Nat)
  | collect (now : Nat)
  | tearDownAll
  | tearDown (ref : SessionRef)
  | reload (users : List User)
  | tunRead (reader : Nat) (packet : Bytes)
  | tunSend (reader : Nat) (taken : Bool)
deriving DecidableEq

def Action.conn : Action → Option Nat
  | .handshake conn | .assign conn | .allocate conn | .reply conn _ | .releaseOrphan conn | .acquire conn _
  | .quotaRelease conn | .attach conn _ | .laneRead conn | .detach conn _ => some conn
  | _ => none

def innerDst (packet : Bytes) (vnetHdr : Bool) : Option Addr :=
  if vnetHdr ∧ packet.length < virtioNetHdrLen then none
  else
    let inner := if vnetHdr then packet.drop virtioNetHdrLen else packet
    match inner with
    | [] => none
    | first :: _ =>
        if first >>> 4 = 4 then
          if inner.length < 20 then none else some (.addrFrom4 (Octets.window 4 inner 16))
        else if first >>> 4 = 6 then
          if inner.length < 40 then none else some (.addrFrom16 (Octets.window 16 inner 24))
        else none

def Session.assigned (s : Session) : Family → Addr
  | .v4 => s.assigned4
  | .v6 => s.assigned6

def Session.laneJoined (now : Nat) (s : Session) : Session :=
  { s with nextLane := s.nextLane + 1, active := s.active + 1, lastSeen := now }

def Session.laneLeft (now : Nat) (s : Session) : Session := { s with active := s.active - 1, lastSeen := now }

def Session.enqueued (packet : Bytes) (s : Session) : Session := { s with outbound := s.outbound ++ [packet] }

def Session.dequeued (s : Session) : Session := { s with outbound := s.outbound.tail }

def Session.tornDown (s : Session) : Session := { s with isClosed := true, closed := true }

def LaneIdentity.assigned (ident : LaneIdentity) : Family → Addr
  | .v4 => ident.assigned4
  | .v6 => ident.assigned6

def AssignmentRequest.wanted (request : AssignmentRequest) : Family → Addr
  | .v4 => request.v4
  | .v6 => request.v6

def AssignmentResponse.addr (asg : AssignmentResponse) : Family → Addr
  | .v4 => asg.v4Addr
  | .v6 => asg.v6Addr

def AssignmentResponse.put (cfg : ServerConfig) (asg : AssignmentResponse) (addr : Addr) : Family → AssignmentResponse
  | .v4 => { asg with v4Addr := addr, v4Prefix := UInt8.ofNat cfg.subnet.bits, v4Peer := cfg.serverIP }
  | .v6 => { asg with v6Addr := addr, v6Prefix := UInt8.ofNat cfg.subnet6.bits, v6Peer := cfg.serverIP6 }

def serverEnv (cfg : ServerConfig) (sha256 : Digest) (obfsKey : Bytes) (keystream : KeyStream) (noise : NoiseIK) : Env :=
  { cfg, sha256, obfsKey, keystream, noise, authorizer := fun users => serverAuthorizer users cfg.peerPublicKey }

namespace MCState

def pool (st : MCState) : Family → Option IPPool
  | .v4 => st.pool4
  | .v6 => st.pool6

def setPool (st : MCState) (p : Option IPPool) : Family → MCState
  | .v4 => { st with pool4 := p }
  | .v6 => { st with pool6 := p }

def setPoint (st : MCState) (conn : Nat) (point : ConnPoint) : MCState :=
  { st with conns := st.conns.modify conn fun entry => { entry with point := point } }

def setSession (st : MCState) (ref : SessionRef) (change : Session → Session) : MCState :=
  { st with heap := st.heap.modify ref change }

def setReader (st : MCState) (reader : Nat) (held : Option (Bytes × SessionRef)) : MCState :=
  { st with readers := st.readers.set reader held }

def setUserDB (st : MCState) (db : Option UserDB) : MCState := { st with userDB := db }

def noteAllocation (st : MCState) (conn : Nat) (hello : ClientHello) : MCState :=
  { st with allocations := st.allocations ++ [⟨conn, hello.userName, hello.clientID⟩] }

def noteDispatch (st : MCState) (ref : SessionRef) (packet : Bytes) : MCState :=
  { st with dispatched := st.dispatched ++ [(ref, packet)] }

def pointOf (st : MCState) (conn : Nat) : Option ConnPoint := (st.conns[conn]?).map Conn.point

def accept (st : MCState) (input : Bytes) : MCState :=
  { st with conns := st.conns ++ [⟨input, st.userDB, .greeting⟩] }

def handshake (env : Env) (st : MCState) (conn : Nat) : Option MCState :=
  match st.conns[conn]? with
  | some ⟨input, users, .greeting⟩ =>
      match readClientHello env (env.authorizer users) input with
      | .ok hello => some (st.setPoint conn (.authorized hello))
      | .error failure =>
          if failure.clientID ≠ zeroClientID then some (st.setPoint conn (.failed failure.clientID))
          else some (st.setPoint conn .closed)
  | _ => none

def assign (st : MCState) (conn : Nat) : Option MCState :=
  match st.pointOf conn with
  | some (.authorized hello) => some (st.setPoint conn (.assigning4 hello st.userDB))
  | _ => none

def assignFamily (env : Env) (st : MCState) (conn : Nat) (family : Family) (hello : ClientHello) (db : Option UserDB)
    (asg : AssignmentResponse) : Option (MCState × AssignmentResponse) :=
  match st.pool family with
  | none => some (st, asg)
  | some p =>
      (p.allocateFor env.sha256 hello.userName hello.clientID (hello.request.wanted family) db).map fun (next, result) =>
        match result with
        | .ok addr => ((st.noteAllocation conn hello).setPool (some next) family, asg.put env.cfg addr family)
        | .error _ => ((st.noteAllocation conn hello).setPool (some next) family, asg)

def allocate (env : Env) (st : MCState) (conn : Nat) : Option MCState :=
  match st.pointOf conn with
  | some (.assigning4 hello db) =>
      (st.assignFamily env conn .v4 hello db .empty).map fun (next, asg) => next.setPoint conn (.assigning6 hello db asg)
  | some (.assigning6 hello db asg) =>
      (st.assignFamily env conn .v6 hello db asg).map fun (next, asg) => next.setPoint conn (.replying hello asg)
  | _ => none

-- Building and writing message 2 fails or not; a handshake that assigned
-- nothing is refused behind it.
def reply (st : MCState) (conn : Nat) (sent : Bool) : Option MCState :=
  match st.pointOf conn with
  | some (.replying hello asg) =>
      if sent then
        if (hello.identity asg).hasAssignment then some (st.setPoint conn (.admitted (hello.identity asg)))
        else some (st.setPoint conn .closed)
      else if hello.clientID ≠ zeroClientID then some (st.setPoint conn (.failed hello.clientID))
      else some (st.setPoint conn .closed)
  | _ => none

def releaseAll (st : MCState) (clientID : ClientID) : MCState :=
  { st with
    pool4 := st.pool4.map fun p => p.release clientID
    pool6 := st.pool6.map fun p => p.release clientID }

def releaseOrphan (st : MCState) (conn : Nat) : Option MCState :=
  match st.pointOf conn with
  | some (.failed clientID) =>
      if (st.sessions.lookup clientID).isSome then some (st.setPoint conn .closed)
      else some ((st.releaseAll clientID).setPoint conn .closed)
  | _ => none

def takeSlot (db : Option UserDB) (userName : String) : Except SlotError (Option UserDB) :=
  match db with
  | none => .ok none
  | some users => if users.isEmpty then .ok (some users) else (users.acquireSlot userName).map some

def clampLanes (laneCount : UInt8) : Nat :=
  if laneCount.toNat < 1 then 1 else if laneCount.toNat > 64 then 64 else laneCount.toNat

def newSession (ident : LaneIdentity) (now : Nat) : Session :=
  { id := ident.clientID
    userName := ident.userName
    assigned4 := ident.assigned4
    assigned6 := ident.assigned6
    laneCount := clampLanes ident.laneCount
    outbound := []
    closed := false
    nextLane := 0
    active := 0
    lastSeen := now
    isClosed := false }

def register (st : MCState) (ident : LaneIdentity) (ref : SessionRef) (family : Family) : MCState :=
  if (ident.assigned family).isValid then
    let indexed : MCState := { st with ipIndex := st.ipIndex.insert (ident.assigned family) ref }
    indexed.setPool ((st.pool family).map fun p => p.claim ident.clientID (ident.assigned family)) family
  else st

def storeSession (st : MCState) (ident : LaneIdentity) (db : Option UserDB) (now : Nat) : MCState :=
  { st with
    userDB := db
    heap := st.heap ++ [newSession ident now]
    sessions := st.sessions.insert ident.clientID st.heap.length }

def openSession (st : MCState) (ident : LaneIdentity) (db : Option UserDB) (now : Nat) : MCState :=
  ((st.storeSession ident db now).register ident st.heap.length .v4).register ident st.heap.length .v6

def acquire (st : MCState) (conn : Nat) (now : Nat) : Option MCState :=
  match st.pointOf conn with
  | some (.admitted ident) =>
      match st.sessions.lookup ident.clientID with
      | some ref => some (st.setPoint conn (.joining ref))
      | none =>
          match takeSlot st.userDB ident.userName with
          | .error _ => some (st.setPoint conn (.overQuota ident.clientID))
          | .ok db => some ((st.openSession ident db now).setPoint conn (.joining st.heap.length))
  | _ => none

-- acquireSession has dropped m.mu before it releases on a quota failure.
def quotaRelease (st : MCState) (conn : Nat) : Option MCState :=
  match st.pointOf conn with
  | some (.overQuota clientID) => some ((st.releaseAll clientID).setPoint conn .closed)
  | _ => none

def attach (st : MCState) (conn : Nat) (now : Nat) : Option MCState :=
  match st.pointOf conn with
  | some (.joining ref) =>
      (st.heap[ref]?).map fun s =>
        (st.setSession ref (Session.laneJoined now)).setPoint conn (.attached ref (s.nextLane % st.readers.length))
  | _ => none

def laneRead (st : MCState) (conn : Nat) : Option MCState :=
  match st.pointOf conn with
  | some (.attached ref _) =>
      (st.heap[ref]?).bind fun s =>
        if s.outbound.isEmpty then none else some (st.setSession ref Session.dequeued)
  | _ => none

def detach (st : MCState) (conn : Nat) (now : Nat) : Option MCState :=
  match st.pointOf conn with
  | some (.attached ref _) =>
      (st.heap[ref]?).map fun _ =>
        (st.setSession ref (Session.laneLeft now)).setPoint conn .closed
  | _ => none

def stale (st : MCState) (now : Nat) (ref : SessionRef) : Bool :=
  match st.heap[ref]? with
  | some s => s.active == 0 && now - s.lastSeen > idleTimeout
  | none => false

def indexedAddrs (st : MCState) (ref : SessionRef) : List Addr :=
  match st.heap[ref]? with
  | some s => [s.assigned4, s.assigned6].filter Addr.isValid
  | none => []

def collect (st : MCState) (now : Nat) : MCState :=
  let victims := (Table.rows st.sessions).filter fun row => st.stale now row.2
  { st with
    sessions := Table.dropAll st.sessions (victims.map Prod.fst)
    ipIndex := Table.dropAll st.ipIndex (victims.flatMap fun row => st.indexedAddrs row.2)
    pending := st.pending ++ victims.map Prod.snd }

def tearDownAll (st : MCState) : MCState :=
  { st with sessions := ∅, ipIndex := ∅, pending := st.pending ++ (Table.rows st.sessions).map Prod.snd }

def forget (st : MCState) (ref : SessionRef) : MCState := { st with pending := st.pending.erase ref }

def tearDown (st : MCState) (ref : SessionRef) : Option MCState :=
  if ref ∈ st.pending then
    (st.heap[ref]?).map fun s =>
      if s.isClosed then st.forget ref
      else
        let released := ((st.forget ref).setSession ref Session.tornDown).releaseAll s.id
        if s.userName ≠ "" then released.setUserDB (st.userDB.map fun users => users.releaseSlot s.userName) else released
  else none

def reload (st : MCState) (users : List User) : MCState :=
  match UserDB.newUserDB users with
  | .ok db => st.setUserDB (some db)
  | .error _ => st

def tunRead (env : Env) (st : MCState) (reader : Nat) (packet : Bytes) : Option MCState :=
  match st.readers[reader]? with
  | some none =>
      match innerDst packet env.cfg.vnetHdr with
      | none => some st
      | some dst =>
          match st.ipIndex.lookup dst with
          | none => some st
          | some ref => some (st.setReader reader (some (packet, ref)))
  | _ => none

-- The select of runTunReader: a send needs room, and a drop needs the queue
-- full or the session closed. With room in a closed session either happens.
def tunSend (st : MCState) (reader : Nat) (taken : Bool) : Option MCState :=
  match st.readers[reader]? with
  | some (some (packet, ref)) =>
      (st.heap[ref]?).bind fun s =>
        if taken then
          if s.outbound.length < outboundCap then
            some (((st.setReader reader none).setSession ref (Session.enqueued packet)).noteDispatch ref packet)
          else none
        else if s.closed ∨ ¬ s.outbound.length < outboundCap then some (st.setReader reader none)
        else none
  | _ => none

def step (env : Env) (st : MCState) : Action → Option MCState
  | .accept input => some (st.accept input)
  | .handshake conn => st.handshake env conn
  | .assign conn => st.assign conn
  | .allocate conn => st.allocate env conn
  | .reply conn sent => st.reply conn sent
  | .releaseOrphan conn => st.releaseOrphan conn
  | .acquire conn now => st.acquire conn now
  | .quotaRelease conn => st.quotaRelease conn
  | .attach conn now => st.attach conn now
  | .laneRead conn => st.laneRead conn
  | .detach conn now => st.detach conn now
  | .collect now => some (st.collect now)
  | .tearDownAll => some st.tearDownAll
  | .tearDown ref => st.tearDown ref
  | .reload users => some (st.reload users)
  | .tunRead reader packet => st.tunRead env reader packet
  | .tunSend reader taken => st.tunSend reader taken

def start (pool4 pool6 : Option IPPool) (userDB : Option UserDB) (queues : Nat) : MCState :=
  { pool4, pool6, userDB
    sessions := ∅
    ipIndex := ∅
    heap := []
    conns := []
    pending := []
    readers := List.replicate queues none
    allocations := []
    dispatched := [] }

structure Started (env : Env) (st : MCState) : Prop where
  state : ∃ pool4 pool6 userDB queues, st = start pool4 pool6 userDB queues
  pool4 : ∃ reservations, env.cfg.newPool4 reservations = .ok st.pool4
  pool6 : ∃ reservations, env.cfg.newPool6 reservations = .ok st.pool6

end MCState

end Packethose
