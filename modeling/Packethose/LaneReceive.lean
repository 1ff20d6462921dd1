import Packethose.LaneFrames

set_option autoImplicit false

namespace Packethose

-- How the packet device answers a write. EIO, ENETDOWN and EAGAIN lose the
-- packet and the lane goes on; any other error ends it.
inductive TunWrite where
  | accepted
  | transient
  | fatal
deriving DecidableEq

inductive LaneExit where
  | eof
  | shortHeader
  | oversize (size : Nat)
  | shortBody
  | aeadOpen
  | malformedBatch
  | tunWrite
deriving DecidableEq

inductive LaneEvent where
  | header (typ : UInt8) (size : Nat)
  | opened (counter : UInt64) (ciphertext : Bytes) (result : Option Bytes)
  | wrote (packet : Bytes)
deriving DecidableEq

structure Receiver where
  opener : Option FrameAEAD
  events : List LaneEvent

def LaneEvent.written : LaneEvent → Option Bytes
  | .wrote packet => some packet
  | _ => none

def LaneEvent.payload : LaneEvent → Option Bytes
  | .opened _ _ result => result
  | _ => none

def openedPayloads (events : List LaneEvent) : List Bytes := events.filterMap LaneEvent.payload

namespace Receiver

def fresh (aead : Option AEAD) : Receiver := ⟨aead.map FrameAEAD.newFrameAEAD, []⟩

def writes (r : Receiver) : List Bytes := r.events.filterMap LaneEvent.written

def log (r : Receiver) (entries : List LaneEvent) : Receiver := { r with events := r.events ++ entries }

def accept (r : Receiver) (body : Bytes) : Receiver × Option Bytes :=
  match r.opener with
  | none => (r, some body)
  | some f => (⟨some (f.openFrame body).1, r.events ++ [.opened f.counter body (f.openFrame body).2]⟩, (f.openFrame body).2)

def writeTun (tun : Nat → TunWrite) (r : Receiver) (packet : Bytes) : Receiver × Bool :=
  match tun r.writes.length with
  | .accepted => (r.log [.wrote packet], true)
  | .transient => (r.log [.wrote packet], true)
  | .fatal => (r.log [.wrote packet], false)

def splitBatch (tun : Nat → TunWrite) (r : Receiver) (payload : Bytes) : Receiver × Option LaneExit :=
  match payload with
  | high :: low :: rest =>
      if Octets.getUint16 high low > rest.length then (r, some .malformedBatch)
      else
        match r.writeTun tun (rest.take (Octets.getUint16 high low)) with
        | (next, true) => splitBatch tun next (rest.drop (Octets.getUint16 high low))
        | (next, false) => (next, some .tunWrite)
  | _ => (r, none)
termination_by payload.length
decreasing_by
  simp only [List.length_drop, List.length_cons]
  omega

def receiveFrame (tun : Nat → TunWrite) (r : Receiver) (typ : UInt8) (body : Bytes) : Receiver × Option LaneExit :=
  match r.accept body with
  | (next, none) => (next, some .aeadOpen)
  | (next, some payload) =>
      if typ = frTypeBatch then next.splitBatch tun payload
      else
        match next.writeTun tun payload with
        | (last, true) => (last, none)
        | (last, false) => (last, some .tunWrite)

def sockToTun (tun : Nat → TunWrite) (r : Receiver) (stream : Bytes) : Receiver × LaneExit :=
  match stream with
  | [] => (r, .eof)
  | typ :: high :: low :: rest =>
      let size := Octets.getUint16 high low
      let seen := r.log [.header typ size]
      if size = 0 then sockToTun tun seen rest
      else if size > maxPkt + aeadMax then (seen, .oversize size)
      else if rest.length < size then (seen, .shortBody)
      else
        match seen.receiveFrame tun typ (rest.take size) with
        | (next, none) => sockToTun tun next (rest.drop size)
        | (next, some exit) => (next, exit)
  | _ => (r, .shortHeader)
termination_by stream.length
decreasing_by
  all_goals
    simp only [List.length_drop, List.length_cons]
    omega

theorem sock_to_tun_rule (tun : Nat → TunWrite) (inv final : Receiver → Prop) (ends : ∀ r, inv r → final r)
    (header : ∀ r typ size, inv r → inv (r.log [.header typ size]))
    (frame : ∀ r typ body, inv r → ((r.receiveFrame tun typ body).2 = none → inv (r.receiveFrame tun typ body).1) ∧
      final (r.receiveFrame tun typ body).1)
    (stream : Bytes) (r : Receiver) (held : inv r) : final (r.sockToTun tun stream).1 := by
  fun_induction sockToTun tun r stream with
  | case1 r => exact ends r held
  | case2 r typ high low rest size seen empty ih => exact ih (header r typ size held)
  | case3 r typ high low rest size seen => exact ends seen (header r typ size held)
  | case4 r typ high low rest size seen => exact ends seen (header r typ size held)
  | case5 r typ high low rest size seen nonempty inside complete next taken ih =>
      have kept := (frame seen typ (rest.take size) (header r typ size held)).1
      rw [taken] at kept
      exact ih (kept rfl)
  | case6 r typ high low rest size seen nonempty inside complete next exit taken =>
      have ended := (frame seen typ (rest.take size) (header r typ size held)).2
      rw [taken] at ended
      exact ended
  | case7 r stream => exact ends r held

theorem writes_log (r : Receiver) (entries : List LaneEvent) :
    (r.log entries).writes = r.writes ++ entries.filterMap LaneEvent.written := by
  simp [writes, log]

theorem log_log (r : Receiver) (first second : List LaneEvent) : (r.log first).log second = r.log (first ++ second) := by
  simp [log]

theorem log_nil (r : Receiver) : r.log [] = r := by simp [log]

theorem writes_wrote (r : Receiver) (packets : List Bytes) : (r.log (packets.map .wrote)).writes = r.writes ++ packets := by
  rw [writes_log, List.filterMap_map]
  congr 1
  exact List.filterMap_some

theorem write_tun_log (tun : Nat → TunWrite) (r : Receiver) (packet : Bytes) :
    (r.writeTun tun packet).1 = r.log [.wrote packet] := by
  unfold writeTun
  split <;> rfl

theorem write_tun_alive (tun : Nat → TunWrite) (alive : ∀ write, tun write ≠ .fatal) (r : Receiver) (packet : Bytes) :
    r.writeTun tun packet = (r.log [.wrote packet], true) := by
  unfold writeTun
  split
  · rfl
  · rfl
  · rename_i dead
    exact absurd dead (alive _)

theorem split_batch_spec (tun : Nat → TunWrite) (r : Receiver) (payload : Bytes) :
    ∃ packets, packets <+: (Units.split payload).1 ∧ (r.splitBatch tun payload).1 = r.log (packets.map .wrote) ∧
      ((r.splitBatch tun payload).2 = none → packets = (Units.split payload).1 ∧ (Units.split payload).2 = true) := by
  fun_induction splitBatch tun r payload with
  | case1 r high low rest excess => exact ⟨[], List.nil_prefix, (log_nil r).symm, by simp⟩
  | case2 r high low rest fits next taken ih =>
      obtain ⟨packets, prefixed, logged, whole⟩ := ih
      have wrote := write_tun_log tun r (rest.take (Octets.getUint16 high low))
      rw [taken] at wrote
      rw [Units.split, if_neg fits]
      refine ⟨rest.take (Octets.getUint16 high low) :: packets, List.prefix_cons_inj _ |>.mpr prefixed, ?_, ?_⟩
      · rw [logged, show next = _ from wrote, log_log]
        rfl
      · intro continued
        obtain ⟨all, complete⟩ := whole continued
        exact ⟨congrArg _ all, complete⟩
  | case3 r high low rest fits next taken =>
      have wrote := write_tun_log tun r (rest.take (Octets.getUint16 high low))
      rw [taken] at wrote
      rw [Units.split, if_neg fits]
      exact ⟨[rest.take (Octets.getUint16 high low)], (List.prefix_cons_inj _).mpr List.nil_prefix, wrote, by simp⟩
  | case4 r payload short =>
      refine ⟨[], List.nil_prefix, (log_nil r).symm, fun _ => ?_⟩
      rw [Units.split]
      · exact ⟨rfl, rfl⟩
      · exact short

theorem split_batch_alive (tun : Nat → TunWrite) (alive : ∀ write, tun write ≠ .fatal) (r : Receiver) (payload : Bytes) :
    r.splitBatch tun payload = (r.log ((Units.split payload).1.map .wrote),
      if (Units.split payload).2 then none else some .malformedBatch) := by
  fun_induction splitBatch tun r payload with
  | case1 r high low rest excess =>
      rw [Units.split_malformed high low rest excess]
      simp [log_nil]
  | case2 r high low rest fits next taken ih =>
      rw [write_tun_alive tun alive] at taken
      rw [ih, Units.split, if_neg fits, ← (Prod.mk.inj taken).1, log_log]
      rfl
  | case3 r high low rest fits next taken =>
      rw [write_tun_alive tun alive] at taken
      exact absurd (Prod.mk.inj taken).2 (by decide)
  | case4 r payload short =>
      rw [Units.split]
      · simp [log_nil]
      · exact short

theorem receive_frame_refused (tun : Nat → TunWrite) (r : Receiver) (typ : UInt8) (body : Bytes)
    (refused : (r.accept body).2 = none) : r.receiveFrame tun typ body = ((r.accept body).1, some .aeadOpen) := by
  rw [receiveFrame, show r.accept body = ((r.accept body).1, none) from Prod.ext rfl refused]

theorem receive_frame_opened (tun : Nat → TunWrite) (r : Receiver) (typ : UInt8) (body payload : Bytes)
    (accepted : (r.accept body).2 = some payload) :
    ∃ packets, packets <+: (Frame.mk typ payload).units.1 ∧
      (r.receiveFrame tun typ body).1 = (r.accept body).1.log (packets.map .wrote) ∧
      ((r.receiveFrame tun typ body).2 = none →
        packets = (Frame.mk typ payload).units.1 ∧ (Frame.mk typ payload).units.2 = true) := by
  rw [receiveFrame, show r.accept body = ((r.accept body).1, some payload) from Prod.ext rfl accepted]
  dsimp only [Frame.units]
  split_ifs with batch
  · exact split_batch_spec tun (r.accept body).1 payload
  · refine ⟨[payload], List.prefix_refl _, ?_, fun _ => ⟨rfl, rfl⟩⟩
    have wrote := write_tun_log tun (r.accept body).1 payload
    split
    · rename_i last taken
      rw [taken] at wrote
      exact wrote
    · rename_i last taken
      rw [taken] at wrote
      exact wrote

theorem receive_frame_alive (tun : Nat → TunWrite) (alive : ∀ write, tun write ≠ .fatal) (r : Receiver) (typ : UInt8)
    (body payload : Bytes) (accepted : (r.accept body).2 = some payload) :
    r.receiveFrame tun typ body = ((r.accept body).1.log ((Frame.mk typ payload).units.1.map .wrote),
      if (Frame.mk typ payload).units.2 then none else some .malformedBatch) := by
  rw [receiveFrame, show r.accept body = ((r.accept body).1, some payload) from Prod.ext rfl accepted]
  dsimp only [Frame.units]
  split_ifs with batch whole whole
  · rw [split_batch_alive tun alive, if_pos whole]
  · rw [split_batch_alive tun alive, if_neg whole]
  · rw [write_tun_alive tun alive]
    rfl
  · exact absurd rfl whole

theorem accept_writes (r : Receiver) (body : Bytes) : (r.accept body).1.writes = r.writes := by
  unfold accept
  split
  · rfl
  · simp [writes, LaneEvent.written]

theorem accept_after (aead : Option AEAD) (count : Nat) (r : Receiver) (direction : DirectionAfter aead count r.opener)
    (body : Bytes) : (r.accept body).2 = payloadOf aead count body ∧ DirectionAfter aead (count + 1) (r.accept body).1.opener := by
  unfold accept
  cases r with
  | mk opener events =>
      cases direction with
      | plain => exact ⟨rfl, .plain _⟩
      | keyed cipher count f after =>
          obtain ⟨result, advanced⟩ := FrameAEAD.open_after cipher count f after body
          exact ⟨result, .keyed cipher _ _ advanced⟩

theorem sock_to_tun_frame (tun : Nat → TunWrite) (r : Receiver) (typ : UInt8) (body rest : Bytes) (nonempty : 0 < body.length)
    (narrow : body.length < 65536) :
    r.sockToTun tun (frameBytes typ body ++ rest) =
      match (r.log [.header typ body.length]).receiveFrame tun typ body with
      | (next, none) => next.sockToTun tun rest
      | (next, some exit) => (next, exit) := by
  have size := Octets.get_put_uint16 body.length narrow
  have inside : ¬ body.length > maxPkt + aeadMax := by unfold maxPkt aeadMax; omega
  have complete : ¬ (body ++ rest).length < body.length := by simp
  simp only [frameBytes, Octets.putUint16, List.cons_append, List.nil_append]
  rw [sockToTun]
  simp only [size, if_neg (Nat.pos_iff_ne_zero.mp nonempty), if_neg inside, if_neg complete, List.take_left, List.drop_left]

theorem deliver_frame (tun : Nat → TunWrite) (alive : ∀ write, tun write ≠ .fatal) (aead : Option AEAD) (count : Nat)
    (frame : Frame) (opens : payloadOf aead count (bodyOf aead count frame.payload) = some frame.payload)
    (nonempty : 0 < (bodyOf aead count frame.payload).length) (narrow : (bodyOf aead count frame.payload).length < 65536)
    (rest : Bytes) (r : Receiver) (direction : DirectionAfter aead count r.opener) :
    ∃ next : Receiver, next.writes = r.writes ++ frame.units.1 ∧ DirectionAfter aead (count + 1) next.opener ∧
      r.sockToTun tun (frameBytes frame.typ (bodyOf aead count frame.payload) ++ rest) =
        if frame.units.2 then next.sockToTun tun rest else (next, .malformedBatch) := by
  let body := bodyOf aead count frame.payload
  let seen := r.log [.header frame.typ body.length]
  obtain ⟨accepted, advanced⟩ := accept_after aead count seen direction body
  rw [opens] at accepted
  refine ⟨(seen.accept body).1.log (frame.units.1.map .wrote), ?_, advanced, ?_⟩
  · rw [writes_wrote, accept_writes, writes_log]
    simp [LaneEvent.written]
  · rw [sock_to_tun_frame tun r frame.typ body rest nonempty narrow,
      receive_frame_alive tun alive seen frame.typ body frame.payload accepted]
    cases whole : frame.units.2 <;> simp

theorem deliver_frames (tun : Nat → TunWrite) (alive : ∀ write, tun write ≠ .fatal) (aead : Option AEAD)
    (frames : List Frame) (count : Nat)
    (opens : ∀ index (bound : index < frames.length),
      payloadOf aead (count + index) (bodyOf aead (count + index) frames[index].payload) = some frames[index].payload)
    (nonempty : ∀ frame ∈ frames, ∀ number, 0 < (bodyOf aead number frame.payload).length)
    (narrow : ∀ frame ∈ frames, ∀ number, (bodyOf aead number frame.payload).length < 65536)
    (whole : ∀ frame ∈ frames.dropLast, frame.units.2 = true) (r : Receiver) (direction : DirectionAfter aead count r.opener) :
    (r.sockToTun tun (wireOf aead count frames)).1.writes = r.writes ++ sentPackets frames ∧
      ((∀ frame ∈ frames, frame.units.2 = true) → (r.sockToTun tun (wireOf aead count frames)).2 = .eof) := by
  induction frames generalizing count r with
  | nil =>
      rw [wireOf, sockToTun]
      exact ⟨by simp [sentPackets], fun _ => rfl⟩
  | cons frame rest ih =>
      obtain ⟨next, written, advanced, taken⟩ := deliver_frame tun alive aead count frame (opens 0 (by simp))
        (nonempty frame (by simp) count) (narrow frame (by simp) count) (wireOf aead (count + 1) rest) r direction
      rw [wireOf, taken]
      cases complete : frame.units.2 with
      | false =>
          -- Only the last frame may stop short, so nothing follows this one.
          have last : rest = [] := by
            cases rest with
            | nil => rfl
            | cons second more => exact absurd (whole frame (by simp [List.dropLast])) (by simp [complete])
          refine ⟨?_, fun all => absurd (all frame (by simp)) (by simp [complete])⟩
          simp [written, last, sentPackets]
      | true =>
          have remaining := ih (count + 1)
            (fun index bound => by
              have shifted := opens (index + 1) (by simp [bound])
              rwa [List.getElem_cons_succ, show count + (index + 1) = count + 1 + index by omega] at shifted)
            (fun other member => nonempty other (by simp [member]))
            (fun other member => narrow other (by simp [member]))
            (fun other member => whole other (by
              cases rest with
              | nil => simp at member
              | cons second more => simp [List.dropLast, member]))
            next advanced
          rw [if_pos rfl]
          refine ⟨?_, fun all => remaining.2 fun other member => all other (by simp [member])⟩
          rw [remaining.1, written]
          simp [sentPackets]

end Receiver

end Packethose
