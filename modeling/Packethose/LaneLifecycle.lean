import Packethose.LaneGrammar
import Packethose.LaneIntegrity

set_option autoImplicit false

namespace Packethose

def soloFrame (minRead : Nat) (packet : Bytes) : List Frame :=
  if packet.length < minRead then [] else [⟨frTypeSingle, packet⟩]

def coalesceFrames (minRead : Nat) : Bytes → List Bytes → List Frame
  | plain, [] => if plain.length > 0 then [⟨frTypeBatch, plain⟩] else []
  | plain, packet :: rest =>
      if packet.length < minRead then coalesceFrames minRead plain rest
      else if plain.length + 2 + packet.length > maxFrame then
        if plain.length > 0 then ⟨frTypeBatch, plain⟩ :: coalesceFrames minRead (Units.unit packet) rest
        else coalesceFrames minRead (Units.unit packet) rest
      else coalesceFrames minRead (plain ++ Units.unit packet) rest

def LaneRead.plan (minRead : Nat) : LaneRead → Option (List Frame)
  | .plain .interrupted | .batch .interrupted => some []
  | .plain .failed | .batch .failed => none
  | .plain (.got packet) => some (soloFrame minRead packet)
  | .batch (.got [packet]) => some (soloFrame minRead packet)
  | .batch (.got packets) => some (coalesceFrames minRead [] packets)

namespace Sender

def flushAll (conn : Nat → WriteResult) : Sender → List Frame → Sender × Bool
  | s, [] => (s, true)
  | s, frame :: rest =>
      match s.flush conn frame.typ frame.payload with
      | (next, true) => flushAll conn next rest
      | (next, false) => (next, false)

theorem flush_all_one (conn : Nat → WriteResult) (s : Sender) (frame : Frame) :
    s.flushAll conn [frame] = s.flush conn frame.typ frame.payload := by
  rw [flushAll]
  generalize s.flush conn frame.typ frame.payload = flushed
  obtain ⟨next, written⟩ := flushed
  cases written <;> rfl

theorem coalesce_flush_all (conn : Nat → WriteResult) (minRead : Nat) (s : Sender) (plain : Bytes) (packets : List Bytes) :
    (match s.coalesce conn minRead plain packets with
      | (next, plain, true) => if plain.length > 0 then next.flush conn frTypeBatch plain else (next, true)
      | (next, _, false) => (next, false)) = s.flushAll conn (coalesceFrames minRead plain packets) := by
  induction packets generalizing s plain with
  | nil =>
      rw [coalesce, coalesceFrames]
      dsimp only
      split_ifs
      · rw [flush_all_one]
      · rfl
  | cons packet rest ih =>
      rw [coalesce, coalesceFrames]
      split_ifs with short full filled
      · exact ih s plain
      · rw [flushAll]
        generalize s.flush conn frTypeBatch plain = flushed
        obtain ⟨next, written⟩ := flushed
        cases written with
        | true => exact ih next (Units.unit packet)
        | false => rfl
      · exact ih s (Units.unit packet)
      · exact ih s (plain ++ Units.unit packet)

theorem solo_flush_all (conn : Nat → WriteResult) (minRead : Nat) (s : Sender) (packet : Bytes) :
    (if packet.length < minRead then (s, true) else s.flush conn frTypeSingle packet) =
      s.flushAll conn (soloFrame minRead packet) := by
  unfold soloFrame
  split_ifs
  · rfl
  · rw [flush_all_one]

theorem lane_body_plan (conn : Nat → WriteResult) (minRead : Nat) (s : Sender) (read : LaneRead) :
    s.laneBody conn minRead read =
      match read.plan minRead with
      | none => (s, false)
      | some frames => s.flushAll conn frames := by
  match read with
  | .plain .interrupted | .batch .interrupted => rfl
  | .plain .failed | .batch .failed => rfl
  | .plain (.got packet) => exact solo_flush_all conn minRead s packet
  | .batch (.got [packet]) => exact solo_flush_all conn minRead s packet
  | .batch (.got []) => rfl
  | .batch (.got (first :: second :: rest)) => exact coalesce_flush_all conn minRead s [] (first :: second :: rest)

end Sender

namespace Receiver

def takeFrame (tun : Nat → TunWrite) (r : Receiver) (inbox : Bytes) : Option (Receiver × Option LaneExit × Bytes) :=
  match inbox with
  | typ :: high :: low :: rest =>
      let size := Octets.getUint16 high low
      let seen := r.log [.header typ size]
      if size = 0 then some (seen, none, rest)
      else if size > maxPkt + aeadMax then some (seen, some (.oversize size), rest)
      else if rest.length < size then none
      else
        let taken := seen.receiveFrame tun typ (rest.take size)
        some (taken.1, taken.2, rest.drop size)
  | _ => none

theorem sock_to_tun_take (tun : Nat → TunWrite) (r : Receiver) (inbox : Bytes) :
    match r.takeFrame tun inbox with
    | some (next, none, rest) => r.sockToTun tun inbox = next.sockToTun tun rest
    | some (next, some exit, _) => r.sockToTun tun inbox = (next, exit)
    | none => (r.sockToTun tun inbox).2.byFrame = false := by
  match inbox with
  | [] => rw [sockToTun]; rfl
  | [typ] => rw [sockToTun]; exacts [rfl, by simp, by simp]
  | [typ, high] => rw [sockToTun]; exacts [rfl, by simp, by simp]
  | typ :: high :: low :: rest =>
      rw [takeFrame, sockToTun]
      by_cases empty : Octets.getUint16 high low = 0
      · simp only [if_pos empty]
      · by_cases oversize : Octets.getUint16 high low > maxPkt + aeadMax
        · simp only [if_neg empty, if_pos oversize]
        · by_cases short : rest.length < Octets.getUint16 high low
          · simp only [if_neg empty, if_neg oversize, if_pos short]
            rfl
          · simp only [if_neg empty, if_neg oversize, if_neg short]
            generalize receiveFrame tun _ typ _ = taken
            obtain ⟨next, exit⟩ := taken
            cases exit <;> rfl

theorem take_frame_bytes (tun : Nat → TunWrite) (r : Receiver) (typ : UInt8) (body rest : Bytes) (narrow : body.length < 65536) :
    r.takeFrame tun (frameBytes typ body ++ rest) =
      if body.length = 0 then some (r.log [.header typ 0], none, rest)
      else
        let taken := (r.log [.header typ body.length]).receiveFrame tun typ body
        some (taken.1, taken.2, rest) := by
  have size := Octets.get_put_uint16 body.length narrow
  have inside : ¬ body.length > maxPkt + aeadMax := by unfold maxPkt aeadMax; omega
  have complete : ¬ (body ++ rest).length < body.length := by simp
  simp only [frameBytes, Octets.putUint16, List.cons_append, List.nil_append, takeFrame, size]
  by_cases empty : body.length = 0
  · simp [List.length_eq_zero_iff.mp empty]
  · simp only [if_neg empty, if_neg inside, if_neg complete, List.take_left, List.drop_left]

theorem split_batch_exit (tun : Nat → TunWrite) (r : Receiver) (payload : Bytes) (whole : (Units.split payload).2 = true) :
    (r.splitBatch tun payload).2 = none ∨ (r.splitBatch tun payload).2 = some .tunWrite := by
  fun_induction splitBatch tun r payload with
  | case1 r high low rest excess =>
      rw [Units.split_malformed high low rest excess] at whole
      cases whole
  | case2 r high low rest fits next taken ih =>
      rw [Units.split, if_neg fits] at whole
      exact ih whole
  | case3 => exact .inr rfl
  | case4 => exact .inl rfl

theorem receive_frame_exit (tun : Nat → TunWrite) (r : Receiver) (typ : UInt8) (body payload : Bytes)
    (accepted : (r.accept body).2 = some payload) (whole : (Frame.mk typ payload).units.2 = true) :
    (r.receiveFrame tun typ body).2 = none ∨ (r.receiveFrame tun typ body).2 = some .tunWrite := by
  rw [receiveFrame, show r.accept body = ((r.accept body).1, some payload) from Prod.ext rfl accepted]
  dsimp only
  split_ifs with batch
  · rw [Frame.units, if_pos batch] at whole
    exact split_batch_exit tun _ payload whole
  · split
    · exact .inl rfl
    · exact .inr rfl

end Receiver

def wholeFrame : Bytes → Bool
  | _ :: high :: low :: rest =>
      let size := Octets.getUint16 high low
      decide (size = 0) || decide (size > maxPkt + aeadMax) || decide (size ≤ rest.length)
  | _ => false

theorem take_frame_whole (tun : Nat → TunWrite) (r : Receiver) (inbox : Bytes) :
    (r.takeFrame tun inbox).isSome = wholeFrame inbox := by
  unfold Receiver.takeFrame wholeFrame
  split
  · dsimp only
    split_ifs with empty oversize short
    · simp [empty]
    · simp [oversize]
    · simp [empty, oversize, Nat.not_le.mpr short]
    · simp [Nat.le_of_not_lt short]
  · rfl

theorem whole_frame_front (typ : UInt8) (body tail inbox : Bytes) (narrow : body.length < 65536)
    (front : inbox <+: frameBytes typ body ++ tail) (whole : wholeFrame inbox = true) :
    ∃ rest, inbox = frameBytes typ body ++ rest ∧ rest <+: tail := by
  match inbox with
  | [] | [_] | [_, _] => cases whole
  | first :: high :: low :: more =>
      simp only [frameBytes, Octets.putUint16, List.cons_append, List.nil_append, List.cons_prefix_cons] at front
      obtain ⟨rfl, rfl, rfl, front⟩ := front
      have size := Octets.get_put_uint16 body.length narrow
      have inside : body.length ≤ more.length := by
        simp only [wholeFrame, size, Bool.or_eq_true, decide_eq_true_eq, maxPkt, aeadMax] at whole
        omega
      obtain ⟨rest, rfl⟩ := List.prefix_of_prefix_length_le (List.prefix_append body tail) front inside
      exact ⟨rest, rfl, (List.prefix_append_right_inj body).mp front⟩

structure Openable (aead : Option AEAD) (count : Nat) (items : List WireItem) : Prop where
  authentic : AuthenticItems aead count items
  bounded : ∀ frame, .framed frame ∈ items → ¬ frame.Overruns

theorem bounded_units (frame : Frame) (bounded : ¬ frame.Overruns) : frame.units.2 = true := by
  rcases frame_cases frame with ⟨units, carries⟩ | ⟨lead, fault⟩
  · rw [carries_units frame units carries]
  · rcases fault_overrun_or_passed frame lead fault with ⟨_, overruns⟩ | ⟨units, passed⟩
    · exact absurd overruns bounded
    · rw [passed]

theorem take_frame_along (tun : Nat → TunWrite) (aead : Option AEAD) (count : Nat) (items : List WireItem)
    (openable : Openable aead count items) (r next : Receiver) (direction : DirectionAfter aead count r.opener)
    (inbox rest : Bytes) (front : inbox <+: itemBytes aead count items) (exit : Option LaneExit)
    (taken : r.takeFrame tun inbox = some (next, exit, rest)) :
    exit = some .tunWrite ∨ exit = none ∧ ∃ count' later bytes, inbox = bytes ++ rest ∧
      itemBytes aead count items = bytes ++ itemBytes aead count' later ∧ DirectionAfter aead count' next.opener ∧
      Openable aead count' later := by
  have whole : wholeFrame inbox = true := by rw [← take_frame_whole tun r, taken]; rfl
  obtain ⟨authentic, bounded⟩ := openable
  match items with
  | [] =>
      rw [itemBytes, List.prefix_nil] at front
      rw [front] at whole
      cases whole
  | .skipped typ :: more =>
      obtain ⟨left, rfl, _⟩ := whole_frame_front typ [] (itemBytes aead count more) inbox (by decide) front whole
      rw [Receiver.take_frame_bytes tun r typ [] left (by decide), if_pos (List.length_nil)] at taken
      cases taken
      exact .inr ⟨rfl, count, more, frameBytes typ [], rfl, rfl, direction, authentic,
        fun frame member => bounded frame (List.mem_cons_of_mem _ member)⟩
  | .framed frame :: more =>
      obtain ⟨⟨opens, nonempty, narrow⟩, authentic⟩ := authentic
      obtain ⟨left, rfl, _⟩ := whole_frame_front frame.typ (bodyOf aead count frame.payload) (itemBytes aead (count + 1) more) inbox
        narrow front whole
      rw [Receiver.take_frame_bytes tun r frame.typ _ left narrow, if_neg (Nat.pos_iff_ne_zero.mp nonempty)] at taken
      generalize read : (r.log [.header frame.typ (bodyOf aead count frame.payload).length]) = seen at taken
      obtain ⟨accepted, advanced⟩ := Receiver.accept_after aead count seen (read ▸ direction) (bodyOf aead count frame.payload)
      rw [opens] at accepted
      obtain ⟨packets, _, logged, _⟩ := Receiver.receive_frame_opened tun seen frame.typ _ frame.payload accepted
      obtain ⟨rfl, rfl, rfl⟩ := by simpa using taken
      rcases Receiver.receive_frame_exit tun seen frame.typ _ frame.payload accepted
        (bounded_units frame (bounded frame (List.mem_cons_self ..))) with goesOn | stopped
      · refine .inr ⟨goesOn, count + 1, more, frameBytes frame.typ (bodyOf aead count frame.payload), rfl, rfl, ?_, authentic,
          fun other member => bounded other (List.mem_cons_of_mem _ member)⟩
        rw [logged]
        exact advanced
      · exact .inl stopped

inductive SendLoop where
  | reading
  | writing (frame : Frame) (rest : List Frame)
  | returned
deriving DecidableEq

def SendLoop.resume : List Frame → SendLoop
  | [] => .reading
  | frame :: rest => .writing frame rest

-- runLane behind its setup: the two loops, the packets the PacketIO has ready,
-- the connection and what the receive loop's buffered reader has read ahead.
-- The PacketIO may go down and the connection break; arrived is a history of
-- the bytes the connection brought.
structure LaneState where
  sender : Sender
  receiver : Receiver
  send : SendLoop
  ready : List Bytes
  down : Bool
  inbox : Bytes
  ended : Bool
  recvReturned : Bool
  closed : Bool
  arrived : Bytes

inductive LaneAction where
  | tunArrive (packets : List Bytes)
  | tunDown
  | sockArrive (bytes : Bytes)
  | sockBreak
  | outsideClose
  | tunRead (read : LaneRead)
  | sockWrite (result : WriteResult)
  | sockFrame (tun : Nat → TunWrite)
  | sockEnd
  | join

def LaneRead.taken (read : LaneRead) : List Bytes := read.packets.getD []

namespace LaneState

def start (aead : Option AEAD) : LaneState :=
  { sender := .fresh aead
    receiver := .fresh aead
    send := .reading
    ready := []
    down := false
    inbox := []
    ended := false
    recvReturned := false
    closed := false
    arrived := [] }

def sendReturned (st : LaneState) : Bool := st.send == .returned

def setSend (st : LaneState) (send : SendLoop) : LaneState := { st with send := send }

def gone (st : LaneState) : Bool := st.closed || st.ended

-- A read that fails is one of a device that is down, which may still hand out
-- what it has.
def tunRead (minRead : Nat) (st : LaneState) (read : LaneRead) : Option LaneState :=
  match st.send with
  | .reading =>
      match read.plan minRead with
      | none => if st.down then some (st.setSend .returned) else none
      | some frames =>
          if read.taken <+: st.ready then some { st with ready := st.ready.drop read.taken.length, send := .resume frames } else none
  | _ => none

def answers (st : LaneState) : WriteResult → Bool
  | .written => !st.closed
  | .failed _ => st.gone

def sockWrite (st : LaneState) (result : WriteResult) : Option LaneState :=
  match st.send with
  | .writing frame rest =>
      if st.answers result then
        match st.sender.flush (fun _ => result) frame.typ frame.payload with
        | (next, true) => some { st with sender := next, send := .resume rest }
        | (next, false) => some { st with sender := next, send := .returned }
      else none
  | _ => none

def sockArrive (st : LaneState) (bytes : Bytes) : Option LaneState :=
  if st.gone || st.recvReturned then none else some { st with inbox := st.inbox ++ bytes, arrived := st.arrived ++ bytes }

def sockFrame (st : LaneState) (tun : Nat → TunWrite) : Option LaneState :=
  if st.recvReturned then none
  else
    (st.receiver.takeFrame tun st.inbox).bind fun (next, exit, rest) =>
      if exit = some .tunWrite ∧ st.down = false then none
      else some { st with receiver := next, inbox := rest, recvReturned := exit.isSome }

def sockEnd (st : LaneState) : Option LaneState :=
  if st.recvReturned || !st.gone || wholeFrame st.inbox then none else some { st with recvReturned := true }

def close (st : LaneState) : LaneState := { st with closed := true }

-- wg.Wait returns behind both loops, and with it runLane and its deferred
-- Close. The watcher of the context closes whenever the context ends.
def step (minRead : Nat) (st : LaneState) : LaneAction → Option LaneState
  | .tunArrive packets => some { st with ready := st.ready ++ packets }
  | .tunDown => some { st with down := true }
  | .sockArrive bytes => st.sockArrive bytes
  | .sockBreak => some { st with ended := true }
  | .outsideClose => some st.close
  | .tunRead read => st.tunRead minRead read
  | .sockWrite result => st.sockWrite result
  | .sockFrame tun => st.sockFrame tun
  | .sockEnd => st.sockEnd
  | .join => if st.sendReturned && st.recvReturned then some st.close else none

def Drained (st : LaneState) : Prop := (st.send = .reading → st.ready = []) ∧ wholeFrame st.inbox = false

-- A condition on the surroundings only. The peer sends a front of the given
-- stream, device and connection last until the context closes the connection,
-- and the close finds the lane drained and leaves it so.
def Orderly (aead : Option AEAD) (items : List WireItem) (st : LaneState) : LaneAction → Prop
  | .tunArrive _ => st.closed = true → st.send ≠ .reading
  | .tunDown | .sockBreak => st.closed = true
  | .sockArrive bytes => st.arrived ++ bytes <+: itemBytes aead 0 items
  | .outsideClose => st.Drained
  | _ => True

instance (st : LaneState) : Decidable st.Drained := inferInstanceAs (Decidable (_ ∧ _))

instance (aead : Option AEAD) (items : List WireItem) (st : LaneState) (action : LaneAction) :
    Decidable (st.Orderly aead items action) := by
  unfold Orderly
  split <;> infer_instance

end LaneState

def LaneAction.Sends : LaneAction → Prop
  | .tunRead read => read.taken ≠ []
  | .sockWrite .written => True
  | _ => False

def LaneAction.Receives : LaneAction → Prop
  | .sockArrive _ | .sockFrame _ => True
  | _ => False

namespace LaneState

def ClosedBehind (st : LaneState) : Prop := st.sendReturned = true ∨ st.recvReturned = true → st.closed = true

theorem resume_running (frames : List Frame) : (SendLoop.resume frames == .returned) = false := by cases frames <;> rfl

theorem plan_none (minRead : Nat) (read : LaneRead) (ended : read.plan minRead = none) : read.taken = [] := by
  match read with
  | .plain .failed | .batch .failed => rfl
  | .plain .interrupted | .batch .interrupted | .plain (.got _) => cases ended
  | .batch (.got []) | .batch (.got [_]) | .batch (.got (_ :: _ :: _)) => cases ended

theorem flush_result (s : Sender) (result : WriteResult) (typ : UInt8) (payload : Bytes) :
    (s.flush (fun _ => result) typ payload).2 = (result == .written) := by
  cases result <;> rfl

inductive Effect (st : LaneState) : LaneAction → LaneState → Prop where
  | arrived (packets : List Bytes) : Effect st (.tunArrive packets) { st with ready := st.ready ++ packets }
  | wentDown : Effect st .tunDown { st with down := true }
  | brought (bytes : Bytes) (opened : st.closed = false) (listening : st.recvReturned = false) :
      Effect st (.sockArrive bytes) { st with inbox := st.inbox ++ bytes, arrived := st.arrived ++ bytes }
  | broke : Effect st .sockBreak { st with ended := true }
  | shut : Effect st .outsideClose st.close
  | readEnds (read : LaneRead) (nothing : read.taken = []) (failed : st.down = true) : Effect st (.tunRead read) (st.setSend .returned)
  | readGot (read : LaneRead) (frames : List Frame) (reading : st.send = .reading) (front : read.taken <+: st.ready) :
      Effect st (.tunRead read) { st with ready := st.ready.drop read.taken.length, send := .resume frames }
  | wrote (sender : Sender) (frames : List Frame) (opened : st.closed = false) :
      Effect st (.sockWrite .written) { st with sender := sender, send := .resume frames }
  | writeEnds (sender : Sender) (taken : Nat) (failed : st.gone = true) :
      Effect st (.sockWrite (.failed taken)) { st with sender := sender, send := .returned }
  | framed (tun : Nat → TunWrite) (receiver : Receiver) (rest : Bytes) (listening : st.recvReturned = false)
      (taken : st.receiver.takeFrame tun st.inbox = some (receiver, none, rest)) :
      Effect st (.sockFrame tun) { st with receiver := receiver, inbox := rest, recvReturned := false }
  | frameEnds (tun : Nat → TunWrite) (receiver : Receiver) (exit : LaneExit) (rest : Bytes) (listening : st.recvReturned = false)
      (taken : st.receiver.takeFrame tun st.inbox = some (receiver, some exit, rest)) (failed : exit = .tunWrite → st.down = true) :
      Effect st (.sockFrame tun) { st with receiver := receiver, inbox := rest, recvReturned := true }
  | ends (failed : st.gone = true) : Effect st .sockEnd { st with recvReturned := true }
  | joined (returned : st.recvReturned = true) : Effect st .join st.close

theorem tun_read_effect (minRead : Nat) (st next : LaneState) (read : LaneRead) (taken : st.tunRead minRead read = some next) :
    Effect st (.tunRead read) next := by
  unfold tunRead at taken
  split at taken
  · rename_i reading
    split at taken
    · rename_i planned
      split_ifs at taken with failed
      exact Option.some.inj taken ▸ .readEnds read (plan_none minRead read planned) failed
    · rename_i frames planned
      split_ifs at taken with front
      exact Option.some.inj taken ▸ .readGot read frames reading front
  · cases taken

theorem sock_write_effect (st next : LaneState) (result : WriteResult) (taken : st.sockWrite result = some next) :
    Effect st (.sockWrite result) next := by
  unfold sockWrite at taken
  split at taken
  · rename_i frame rest writing
    split_ifs at taken with answered
    have flushed := flush_result st.sender result frame.typ frame.payload
    generalize st.sender.flush (fun _ => result) frame.typ frame.payload = written at taken flushed
    obtain ⟨sender, whole⟩ := written
    cases result with
    | written =>
        obtain rfl : whole = true := flushed
        exact Option.some.inj taken ▸ .wrote sender rest (by simpa [answers] using answered)
    | failed bytes =>
        obtain rfl : whole = false := flushed
        exact Option.some.inj taken ▸ .writeEnds sender bytes answered
  · cases taken

theorem sock_frame_effect (st next : LaneState) (tun : Nat → TunWrite) (taken : st.sockFrame tun = some next) :
    Effect st (.sockFrame tun) next := by
  unfold sockFrame at taken
  split_ifs at taken with returned
  have listening : st.recvReturned = false := by simpa using returned
  obtain ⟨⟨receiver, exit, rest⟩, held, made⟩ := Option.bind_eq_some_iff.mp taken
  dsimp only at made
  split_ifs at made with refused
  cases exit with
  | none => exact Option.some.inj made ▸ .framed tun receiver rest listening held
  | some exit =>
      refine Option.some.inj made ▸ .frameEnds tun receiver exit rest listening held fun fatal => ?_
      by_contra working
      exact refused ⟨congrArg some fatal, by simpa using working⟩

theorem step_effect (minRead : Nat) (st next : LaneState) (action : LaneAction) (taken : step minRead st action = some next) :
    Effect st action next := by
  cases action with
  | tunArrive packets => exact Option.some.inj taken ▸ .arrived packets
  | tunDown => exact Option.some.inj taken ▸ .wentDown
  | sockBreak => exact Option.some.inj taken ▸ .broke
  | outsideClose => exact Option.some.inj taken ▸ .shut
  | tunRead read => exact tun_read_effect minRead st next read taken
  | sockWrite result => exact sock_write_effect st next result taken
  | sockFrame tun => exact sock_frame_effect st next tun taken
  | sockArrive bytes =>
      change st.sockArrive bytes = some next at taken
      unfold sockArrive at taken
      split_ifs at taken with refused
      simp only [gone, Bool.or_eq_true, not_or, Bool.not_eq_true] at refused
      exact Option.some.inj taken ▸ .brought bytes refused.1.1 refused.2
  | sockEnd =>
      change st.sockEnd = some next at taken
      unfold sockEnd at taken
      split_ifs at taken with refused
      have failed : st.gone = true := by
        by_contra sound
        simp [sound] at refused
      exact Option.some.inj taken ▸ .ends failed
  | join =>
      simp only [step] at taken
      split_ifs at taken with both
      exact Option.some.inj taken ▸ .joined (Bool.and_eq_true_iff.mp both).2

def Along (aead : Option AEAD) (items : List WireItem) (st : LaneState) : Prop :=
  ∃ count later taken, DirectionAfter aead count st.receiver.opener ∧ Openable aead count later ∧
    itemBytes aead 0 items = taken ++ itemBytes aead count later ∧ st.arrived = taken ++ st.inbox

structure Intact (aead : Option AEAD) (items : List WireItem) (st : LaneState) : Prop where
  behind : st.ClosedBehind
  healthy : st.closed = false → st.down = false ∧ st.ended = false
  drained : st.closed = true → st.Drained
  sent : st.arrived <+: itemBytes aead 0 items
  along : st.recvReturned = false → Along aead items st

theorem intact_gone (aead : Option AEAD) (items : List WireItem) (st : LaneState) (intact : Intact aead items st)
    (failed : st.gone = true) : st.closed = true := by
  by_contra opened
  have sound := (intact.healthy (by simpa using opened)).2
  simp [gone, opened, sound] at failed

theorem intact_down (aead : Option AEAD) (items : List WireItem) (st : LaneState) (intact : Intact aead items st)
    (failed : st.down = true) : st.closed = true := by
  by_contra opened
  rw [(intact.healthy (by simpa using opened)).1] at failed
  cases failed

theorem intact_frame (aead : Option AEAD) (items : List WireItem) (st : LaneState) (intact : Intact aead items st)
    (tun : Nat → TunWrite) (receiver : Receiver) (exit : Option LaneExit) (rest : Bytes) (listening : st.recvReturned = false)
    (taken : st.receiver.takeFrame tun st.inbox = some (receiver, exit, rest)) :
    st.closed = false ∧ (exit = some .tunWrite ∨
      exit = none ∧ Along aead items { st with receiver := receiver, inbox := rest, recvReturned := false }) := by
  constructor
  · by_contra shut
    have empty := (intact.drained (by simpa using shut)).2
    rw [← take_frame_whole tun st.receiver, taken] at empty
    cases empty
  · obtain ⟨count, later, before, direction, openable, stream, arrived⟩ := intact.along listening
    have front := intact.sent
    rw [stream, arrived, List.prefix_append_right_inj] at front
    rcases take_frame_along tun aead count later openable st.receiver receiver direction st.inbox rest front exit taken with
      stopped | ⟨goesOn, count', later', bytes, split, behind, advanced, remaining⟩
    · exact .inl stopped
    · refine .inr ⟨goesOn, count', later', before ++ bytes, advanced, remaining, ?_, ?_⟩
      · rw [stream, behind, List.append_assoc]
      · rw [arrived, split, List.append_assoc]

theorem effect_intact (aead : Option AEAD) (items : List WireItem) (st next : LaneState) (action : LaneAction)
    (effect : Effect st action next) (orderly : st.Orderly aead items action) (intact : Intact aead items st) :
    Intact aead items next := by
  obtain ⟨behind, healthy, drained, sent, along⟩ := intact
  cases effect with
  | arrived packets =>
      exact ⟨behind, healthy, fun shut => ⟨fun reading => absurd reading (orderly shut), (drained shut).2⟩, sent, along⟩
  | wentDown => exact ⟨behind, fun opened => absurd (orderly.symm.trans opened) nofun, drained, sent, along⟩
  | broke => exact ⟨behind, fun opened => absurd (orderly.symm.trans opened) nofun, drained, sent, along⟩
  | brought bytes opened listening =>
      refine ⟨behind, healthy, fun shut => absurd (opened.symm.trans shut) nofun, orderly, fun _ => ?_⟩
      obtain ⟨count, later, taken, direction, openable, stream, arrived⟩ := along listening
      exact ⟨count, later, taken, direction, openable, stream, by rw [arrived, List.append_assoc]⟩
  | shut => exact ⟨fun _ => rfl, nofun, fun _ => orderly, sent, along⟩
  | readEnds read nothing failed =>
      have shut := intact_down aead items st ⟨behind, healthy, drained, sent, along⟩ failed
      exact ⟨fun _ => shut, healthy, fun _ => ⟨nofun, (drained shut).2⟩, sent, along⟩
  | readGot read frames reading front =>
      refine ⟨fun returned => behind (returned.imp_left fun ended => ?_), healthy, fun shut => ⟨fun _ => ?_, (drained shut).2⟩, sent, along⟩
      · exact absurd ((resume_running frames).symm.trans ended) Bool.false_ne_true
      · rw [(drained shut).1 reading, List.drop_nil]
  | wrote sender frames opened =>
      refine ⟨fun returned => behind (returned.imp_left fun ended => ?_), healthy, fun shut => absurd (opened.symm.trans shut) nofun,
        sent, along⟩
      exact absurd ((resume_running frames).symm.trans ended) Bool.false_ne_true
  | writeEnds sender taken failed =>
      have shut := intact_gone aead items st ⟨behind, healthy, drained, sent, along⟩ failed
      exact ⟨fun _ => shut, healthy, fun _ => ⟨nofun, (drained shut).2⟩, sent, along⟩
  | framed tun receiver rest listening taken =>
      obtain ⟨opened, stopped | ⟨_, further⟩⟩ := intact_frame aead items st ⟨behind, healthy, drained, sent, along⟩ tun receiver none
        rest listening taken
      · cases stopped
      · exact ⟨fun returned => behind (returned.imp_right nofun), healthy, fun shut => absurd (opened.symm.trans shut) nofun, sent,
          fun _ => further⟩
  | frameEnds tun receiver exit rest listening taken failed =>
      have whole : Intact aead items st := ⟨behind, healthy, drained, sent, along⟩
      obtain ⟨opened, stopped | ⟨goesOn, _⟩⟩ := intact_frame aead items st whole tun receiver (some exit) rest listening taken
      · have shut := intact_down aead items st whole (failed (Option.some.inj stopped))
        exact absurd (opened.symm.trans shut) nofun
      · cases goesOn
  | ends failed =>
      have shut := intact_gone aead items st ⟨behind, healthy, drained, sent, along⟩ failed
      exact ⟨fun _ => shut, healthy, drained, sent, nofun⟩
  | joined returned => exact ⟨fun _ => rfl, nofun, fun _ => drained (behind (.inr returned)), sent, along⟩

theorem intact_preserved (minRead : Nat) (aead : Option AEAD) (items : List WireItem) :
    Runs.Preserved (step minRead) (Orderly aead items) (Intact aead items) := fun st action next intact orderly taken =>
  effect_intact aead items st next action (step_effect minRead st next action taken) orderly intact

theorem start_intact (aead : Option AEAD) (items : List WireItem) (openable : Openable aead 0 items) :
    Intact aead items (start aead) := by
  refine ⟨?_, fun _ => ⟨rfl, rfl⟩, nofun, List.nil_prefix, fun _ => ⟨0, items, [], direction_fresh aead, openable, rfl, rfl⟩⟩
  simp [ClosedBehind, start, sendReturned]

theorem closed_sends_nothing (aead : Option AEAD) (items : List WireItem) (st next : LaneState) (action : LaneAction)
    (intact : Intact aead items st) (shut : st.closed = true) (effect : Effect st action next) : ¬ action.Sends := by
  cases effect with
  | readEnds read nothing failed => exact fun takes => takes nothing
  | readGot read frames reading front =>
      rw [(intact.drained shut).1 reading, List.prefix_nil] at front
      exact fun takes => takes front
  | wrote sender frames opened => exact absurd (opened.symm.trans shut) nofun
  | arrived | wentDown | brought | broke | shut | writeEnds | framed | frameEnds | ends | joined => exact id

theorem closed_receives_nothing (aead : Option AEAD) (items : List WireItem) (st next : LaneState) (action : LaneAction)
    (intact : Intact aead items st) (shut : st.closed = true) (effect : Effect st action next) : ¬ action.Receives := by
  cases effect with
  | brought bytes opened listening => exact absurd (opened.symm.trans shut) nofun
  | framed tun receiver rest listening taken =>
      have opened := (intact_frame aead items st intact tun receiver none rest listening taken).1
      exact absurd (opened.symm.trans shut) nofun
  | frameEnds tun receiver exit rest listening taken failed =>
      have opened := (intact_frame aead items st intact tun receiver (some exit) rest listening taken).1
      exact absurd (opened.symm.trans shut) nofun
  | arrived | wentDown | broke | shut | readEnds | readGot | wrote | writeEnds | ends | joined => exact id

end LaneState

def cancelledItems : List WireItem := [.framed ⟨frTypeSingle, [7]⟩]

def cancelledSteps : List LaneAction :=
  [.tunArrive [[1]], .tunRead (.plain (.got [1])), .sockArrive [0, 0], .sockWrite .written, .sockArrive [1, 7],
    .sockFrame fun _ => .accepted, .outsideClose, .sockEnd, .tunDown, .tunRead (.plain .failed), .join]

theorem cancelled_openable : Openable none 0 cancelledItems := by
  refine ⟨⟨⟨rfl, by decide, by decide⟩, trivial⟩, fun frame member overruns => ?_⟩
  obtain rfl : frame = ⟨frTypeSingle, [7]⟩ := by simpa [cancelledItems] using member
  exact absurd overruns.1 (by decide)

end Packethose
