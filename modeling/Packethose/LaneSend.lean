import Packethose.Lib.Runs
import Packethose.Lib.Units
import Packethose.FrameAead

set_option autoImplicit false

namespace Packethose

def maxPkt : Nat := 65535
def aeadMax : Nat := 32
def frTypeSingle : UInt8 := 0
def frTypeBatch : UInt8 := 1
def maxFrame : Nat := 60000
def virtioNetHdrLen : Nat := 10

structure Frame where
  typ : UInt8
  payload : Bytes
deriving DecidableEq

inductive ReadResult (Value : Type) where
  | got (value : Value)
  | interrupted
  | failed
deriving DecidableEq

inductive WriteResult where
  | written
  | failed (taken : Nat)
deriving DecidableEq

-- The sending half of a lane. Next to the cipher state it carries what an
-- observer can see or recall: the bytes on the socket, the frames handed to
-- flush and the nonces given to seal, all oldest first.
structure Sender where
  sealer : Option FrameAEAD
  wire : Bytes
  frames : List Frame
  nonces : List Nonce

def Sender.fresh (aead : Option AEAD) : Sender := ⟨aead.map FrameAEAD.newFrameAEAD, [], [], []⟩

def laneMaxRead (sealer : Option FrameAEAD) : Nat :=
  match sealer with
  | none => maxPkt
  | some f => maxPkt - f.overhead

def frameBytes (typ : UInt8) (body : Bytes) : Bytes := typ :: (Octets.putUint16 body.length ++ body)

namespace Sender

def flush (conn : Nat → WriteResult) (s : Sender) (typ : UInt8) (payload : Bytes) : Sender × Bool :=
  let sealer := (sealBody s.sealer payload).1
  let bytes := frameBytes typ (sealBody s.sealer payload).2
  let frames := s.frames ++ [⟨typ, payload⟩]
  let nonces := s.nonces ++ (sealer.map FrameAEAD.nonce).toList
  match conn s.frames.length with
  | .written => (⟨sealer, s.wire ++ bytes, frames, nonces⟩, true)
  | .failed taken => (⟨sealer, s.wire ++ bytes.take taken, frames, nonces⟩, false)

def tunToSockBody (conn : Nat → WriteResult) (minRead : Nat) (s : Sender) : ReadResult Bytes → Sender × Bool
  | .interrupted => (s, true)
  | .failed => (s, false)
  | .got packet => if packet.length < minRead then (s, true) else s.flush conn frTypeSingle packet

def coalesce (conn : Nat → WriteResult) (minRead : Nat) (s : Sender) (plain : Bytes) :
    List Bytes → Sender × Bytes × Bool
  | [] => (s, plain, true)
  | packet :: rest =>
      if packet.length < minRead then coalesce conn minRead s plain rest
      else if plain.length + 2 + packet.length > maxFrame then
        if plain.length > 0 then
          match s.flush conn frTypeBatch plain with
          | (next, true) => coalesce conn minRead next (Units.unit packet) rest
          | (next, false) => (next, plain, false)
        else coalesce conn minRead s (Units.unit packet) rest
      else coalesce conn minRead s (plain ++ Units.unit packet) rest

def tunToSockBatchBody (conn : Nat → WriteResult) (minRead : Nat) (s : Sender) :
    ReadResult (List Bytes) → Sender × Bool
  | .interrupted => (s, true)
  | .failed => (s, false)
  | .got [packet] => if packet.length < minRead then (s, true) else s.flush conn frTypeSingle packet
  | .got packets =>
      match s.coalesce conn minRead [] packets with
      | (next, plain, true) => if plain.length > 0 then next.flush conn frTypeBatch plain else (next, true)
      | (next, _, false) => (next, false)

def tunToSock (conn : Nat → WriteResult) (minRead : Nat) (s : Sender) (reads : List (ReadResult Bytes)) : Sender :=
  (Runs.loop (tunToSockBody conn minRead) s reads).1

def tunToSockBatch (conn : Nat → WriteResult) (minRead : Nat) (s : Sender) (reads : List (ReadResult (List Bytes))) :
    Sender :=
  (Runs.loop (tunToSockBatchBody conn minRead) s reads).1

end Sender

-- Reads of both kinds in one sequence. A device offers one kind only, so the
-- loops of the source are the sequences that stay with one constructor.
inductive LaneRead where
  | plain (result : ReadResult Bytes)
  | batch (result : ReadResult (List Bytes))
deriving DecidableEq

namespace Sender

def laneBody (conn : Nat → WriteResult) (minRead : Nat) (s : Sender) : LaneRead → Sender × Bool
  | .plain result => s.tunToSockBody conn minRead result
  | .batch result => s.tunToSockBatchBody conn minRead result

def sendReads (conn : Nat → WriteResult) (minRead : Nat) (s : Sender) (reads : List LaneRead) : Sender :=
  (Runs.loop (laneBody conn minRead) s reads).1

theorem tun_to_sock_reads (conn : Nat → WriteResult) (minRead : Nat) (s : Sender) (reads : List (ReadResult Bytes)) :
    s.tunToSock conn minRead reads = s.sendReads conn minRead (reads.map .plain) := by
  rw [tunToSock, sendReads, Runs.loop_map]
  rfl

theorem tun_to_sock_batch_reads (conn : Nat → WriteResult) (minRead : Nat) (s : Sender)
    (reads : List (ReadResult (List Bytes))) :
    s.tunToSockBatch conn minRead reads = s.sendReads conn minRead (reads.map .batch) := by
  rw [tunToSockBatch, sendReads, Runs.loop_map]
  rfl

theorem flush_frames (conn : Nat → WriteResult) (s : Sender) (typ : UInt8) (payload : Bytes) :
    (s.flush conn typ payload).1.frames = s.frames ++ [⟨typ, payload⟩] := by
  unfold flush
  split <;> rfl

theorem flush_sealer (conn : Nat → WriteResult) (s : Sender) (typ : UInt8) (payload : Bytes) :
    (s.flush conn typ payload).1.sealer = (sealBody s.sealer payload).1 := by
  unfold flush
  split <;> rfl

theorem flush_nonces (conn : Nat → WriteResult) (s : Sender) (typ : UInt8) (payload : Bytes) :
    (s.flush conn typ payload).1.nonces = s.nonces ++ ((sealBody s.sealer payload).1.map FrameAEAD.nonce).toList := by
  unfold flush
  split <;> rfl

theorem flush_written (conn : Nat → WriteResult) (s : Sender) (typ : UInt8) (payload : Bytes)
    (accepted : conn s.frames.length = .written) :
    (s.flush conn typ payload).2 = true ∧
      (s.flush conn typ payload).1.wire = s.wire ++ frameBytes typ (sealBody s.sealer payload).2 := by
  unfold flush
  rw [accepted]
  exact ⟨rfl, rfl⟩

theorem flush_refused (conn : Nat → WriteResult) (s : Sender) (typ : UInt8) (payload : Bytes)
    (refused : conn s.frames.length ≠ .written) : (s.flush conn typ payload).2 = false := by
  unfold flush
  split
  · rename_i accepted
    exact absurd accepted refused
  · rfl

end Sender

def LaneRead.Fits (single batch : Nat) : LaneRead → Prop
  | .plain (.got packet) => packet.length ≤ single
  | .batch (.got [packet]) => packet.length ≤ single
  | .batch (.got packets) => ∀ packet ∈ packets, packet.length ≤ batch
  | _ => True

inductive Emitted (minRead single batch : Nat) : Frame → Prop where
  | single (packet : Bytes) (long : minRead ≤ packet.length) (fits : packet.length ≤ single) :
      Emitted minRead single batch ⟨frTypeSingle, packet⟩
  | batch (units : List Bytes) (nonempty : units ≠ []) (long : ∀ packet ∈ units, minRead ≤ packet.length)
      (fits : ∀ packet ∈ units, packet.length ≤ batch) (bounded : (Units.encode units).length ≤ max maxFrame (batch + 2)) :
      Emitted minRead single batch ⟨frTypeBatch, Units.encode units⟩

structure Holding (minRead batch : Nat) (plain : Bytes) (units : List Bytes) : Prop where
  encoded : plain = Units.encode units
  long : ∀ packet ∈ units, minRead ≤ packet.length
  fits : ∀ packet ∈ units, packet.length ≤ batch
  bounded : plain.length ≤ max maxFrame (batch + 2)

theorem holding_empty (minRead batch : Nat) : Holding minRead batch [] [] :=
  ⟨rfl, by simp, by simp, Nat.zero_le _⟩

theorem holding_push (minRead batch : Nat) (plain : Bytes) (units : List Bytes) (packet : Bytes)
    (holding : Holding minRead batch plain units) (long : minRead ≤ packet.length) (fits : packet.length ≤ batch)
    (room : plain.length + 2 + packet.length ≤ max maxFrame (batch + 2)) :
    Holding minRead batch (plain ++ Units.unit packet) (units ++ [packet]) := by
  refine ⟨?_, ?_, ?_, ?_⟩
  · rw [Units.encode_concat, holding.encoded]
  · intro other member
    rcases List.mem_append.mp member with before | last
    · exact holding.long other before
    · exact List.mem_singleton.mp last ▸ long
  · intro other member
    rcases List.mem_append.mp member with before | last
    · exact holding.fits other before
    · exact List.mem_singleton.mp last ▸ fits
  · rw [List.length_append, Units.unit_length]
    omega

theorem holding_start (minRead batch : Nat) (packet : Bytes) (long : minRead ≤ packet.length)
    (fits : packet.length ≤ batch) : Holding minRead batch (Units.unit packet) [packet] := by
  have room : ([] : Bytes).length + 2 + packet.length ≤ max maxFrame (batch + 2) := by
    simp only [List.length_nil]
    omega
  exact holding_push minRead batch [] [] packet (holding_empty minRead batch) long fits room

theorem holding_emitted (minRead single batch : Nat) (plain : Bytes) (units : List Bytes)
    (holding : Holding minRead batch plain units) (nonempty : plain.length > 0) :
    Emitted minRead single batch ⟨frTypeBatch, plain⟩ := by
  have bounded := holding.bounded
  rw [holding.encoded] at nonempty bounded ⊢
  refine .batch units (fun empty => ?_) holding.long holding.fits bounded
  rw [empty] at nonempty
  simp [Units.encode] at nonempty

namespace Sender

section Invariants

variable (conn : Nat → WriteResult) (minRead single batch : Nat) (inv : Sender → Prop)

theorem coalesce_invariant
    (flushed : ∀ s frame, Emitted minRead single batch frame → inv s → inv (s.flush conn frame.typ frame.payload).1)
    (packets : List Bytes) (fits : ∀ packet ∈ packets, packet.length ≤ batch) (s : Sender) (plain : Bytes)
    (units : List Bytes) (holding : Holding minRead batch plain units) (held : inv s) :
    inv (s.coalesce conn minRead plain packets).1 ∧
      ∃ units, Holding minRead batch (s.coalesce conn minRead plain packets).2.1 units := by
  induction packets generalizing s plain units with
  | nil => exact ⟨held, units, holding⟩
  | cons packet rest ih =>
      have small := fits packet (by simp)
      have later : ∀ other ∈ rest, other.length ≤ batch := fun other member => fits other (by simp [member])
      rw [coalesce]
      split_ifs with short full occupied
      · exact ih later s plain units holding held
      · have advanced := flushed s ⟨frTypeBatch, plain⟩ (holding_emitted minRead single batch plain units holding occupied) held
        have fresh := holding_start minRead batch packet (by omega) small
        split
        · rename_i next taken
          rw [taken] at advanced
          exact ih later next _ [packet] fresh advanced
        · rename_i next taken
          rw [taken] at advanced
          exact ⟨advanced, units, holding⟩
      · exact ih later s _ [packet] (holding_start minRead batch packet (by omega) small) held
      · have room : plain.length + 2 + packet.length ≤ max maxFrame (batch + 2) := by omega
        exact ih later s _ _ (holding_push minRead batch plain units packet holding (by omega) small room) held

theorem single_invariant
    (flushed : ∀ s frame, Emitted minRead single batch frame → inv s → inv (s.flush conn frame.typ frame.payload).1)
    (packet : Bytes) (fits : packet.length ≤ single) (s : Sender) (held : inv s) :
    inv (if packet.length < minRead then (s, true) else s.flush conn frTypeSingle packet).1 := by
  split_ifs with short
  · exact held
  · exact flushed s ⟨frTypeSingle, packet⟩ (.single packet (by omega) fits) held

theorem burst_invariant
    (flushed : ∀ s frame, Emitted minRead single batch frame → inv s → inv (s.flush conn frame.typ frame.payload).1)
    (packets : List Bytes) (fits : ∀ packet ∈ packets, packet.length ≤ batch) (s : Sender) (held : inv s) :
    inv (match s.coalesce conn minRead [] packets with
      | (next, plain, true) => if plain.length > 0 then next.flush conn frTypeBatch plain else (next, true)
      | (next, _, false) => (next, false)).1 := by
  obtain ⟨kept, units, holding⟩ :=
    coalesce_invariant conn minRead single batch inv flushed packets fits s [] [] (holding_empty minRead batch) held
  split
  · rename_i next plain done
    rw [done] at kept holding
    split_ifs with occupied
    · exact flushed next ⟨frTypeBatch, plain⟩ (holding_emitted minRead single batch plain units holding occupied) kept
    · exact kept
  · rename_i next plain done
    rw [done] at kept
    exact kept

theorem lane_body_invariant
    (flushed : ∀ s frame, Emitted minRead single batch frame → inv s → inv (s.flush conn frame.typ frame.payload).1)
    (read : LaneRead) (fits : read.Fits single batch) (s : Sender) (held : inv s) :
    inv (s.laneBody conn minRead read).1 := by
  match read with
  | .plain .interrupted | .plain .failed | .batch .interrupted | .batch .failed => exact held
  | .plain (.got packet) => exact single_invariant conn minRead single batch inv flushed packet fits s held
  | .batch (.got [packet]) => exact single_invariant conn minRead single batch inv flushed packet fits s held
  | .batch (.got []) => exact burst_invariant conn minRead single batch inv flushed [] (by simp) s held
  | .batch (.got (first :: second :: rest)) =>
      exact burst_invariant conn minRead single batch inv flushed (first :: second :: rest) fits s held

theorem send_invariant
    (flushed : ∀ s frame, Emitted minRead single batch frame → inv s → inv (s.flush conn frame.typ frame.payload).1)
    (reads : List LaneRead) (fits : ∀ read ∈ reads, read.Fits single batch) (s : Sender) (held : inv s) :
    inv (s.sendReads conn minRead reads) :=
  Runs.loop_invariant reads
    (fun data read member kept => lane_body_invariant conn minRead single batch inv flushed read (fits read member) data kept) s held

end Invariants

end Sender

end Packethose
