import Packethose.LaneRoundTrip

set_option autoImplicit false

namespace Packethose

def hdrLen : Nat := 3

def wireBufLen : Nat := hdrLen + maxPkt + aeadMax

def laneMinRead (vnetHdr : Bool) : Nat := if vnetHdr then virtioNetHdrLen + 1 else 1

def aeadCost (aead : Option AEAD) : Nat := if aead.isSome then aeadOverhead else 0

def headerLength (wire : Bytes) : Nat := Octets.getUint16 (wire.getD 1 0) (wire.getD 2 0)

structure LengthKept (typ : UInt8) (body : Bytes) : Prop where
  narrow : body.length ≤ 65535
  field : headerLength (frameBytes typ body) = body.length
  buffered : (frameBytes typ body).length ≤ wireBufLen

def heard (reads : List LaneRead) : List LaneRead := reads.takeWhile fun read => read.packets.isSome

def BurstsSpare (maxRead : Nat) (reads : List LaneRead) : Prop :=
  ∀ packets, .batch (.got packets) ∈ heard reads → 2 ≤ packets.length → ∀ packet ∈ packets, packet.length + 2 ≤ maxRead

theorem frame_bytes_length (typ : UInt8) (body : Bytes) : (frameBytes typ body).length = hdrLen + body.length := by
  simp [frameBytes, Octets.putUint16, hdrLen]
  omega

theorem header_length_kept (typ : UInt8) (body : Bytes) : headerLength (frameBytes typ body) = body.length % 65536 := by
  simp only [headerLength, frameBytes, Octets.putUint16, List.cons_append, List.getD_cons_succ, List.getD_cons_zero,
    Octets.getUint16, UInt8.toNat_ofNat']
  omega

theorem length_kept_iff (typ : UInt8) (body : Bytes) : LengthKept typ body ↔ body.length ≤ 65535 := by
  refine ⟨fun kept => kept.narrow, fun narrow => ⟨narrow, ?_, ?_⟩⟩
  · rw [header_length_kept]
    omega
  · rw [frame_bytes_length]
    simp only [wireBufLen, maxPkt, aeadMax]
    omega

theorem lane_max_read (aead : Option AEAD) : laneMaxRead (aead.map FrameAEAD.newFrameAEAD) + aeadCost aead = 65535 := by
  cases aead <;> rfl

theorem aead_cost_le (aead : Option AEAD) : aeadCost aead ≤ 16 := by
  cases aead with
  | none => exact Nat.zero_le 16
  | some cipher => exact Nat.le_refl 16

theorem body_cost (aead : Option AEAD) (count : Nat) (payload : Bytes) :
    (bodyOf aead count payload).length = payload.length + aeadCost aead := body_of_length aead count payload

namespace Sender

variable (conn : Nat → WriteResult) (minRead : Nat)

theorem send_heard (reads : List LaneRead) (s : Sender) :
    s.sendReads conn minRead reads = s.sendReads conn minRead (heard reads) := by
  induction reads generalizing s with
  | nil => rfl
  | cons read rest ih =>
      rw [heard, List.takeWhile_cons]
      cases delivered : read.packets with
      | none => exact send_ended conn minRead read rest s s (lane_body_failed conn minRead read delivered s)
      | some packets =>
          rw [Option.isSome_some, if_pos rfl, ← heard]
          cases taken : s.laneBody conn minRead read with
          | mk next continued =>
              cases continued with
              | false => rw [send_ended conn minRead read rest s next taken, send_ended conn minRead read _ s next taken]
              | true =>
                  rw [send_resumed conn minRead read rest s next taken, send_resumed conn minRead read _ s next taken]
                  exact ih next

theorem burst_frames (batch : Nat) (positive : 1 ≤ minRead) (packets : List Bytes) (several : 2 ≤ packets.length)
    (fits : ∀ packet ∈ packets, packet.length ≤ batch) (s : Sender) :
    ∃ added, (s.laneBody conn minRead (.batch (.got packets))).1.frames = s.frames ++ added ∧
      ∀ frame ∈ added, ∃ units, frame = ⟨frTypeBatch, Units.encode units⟩ ∧ ∀ packet ∈ units, packet.length ≤ batch := by
  have read : (LaneRead.batch (.got packets)).Fits 0 batch := by
    match packets, several with
    | first :: second :: rest, _ => exact fits
  apply lane_body_invariant conn minRead 0 batch (fun next => ∃ added, next.frames = s.frames ++ added ∧
      ∀ frame ∈ added, ∃ units, frame = ⟨frTypeBatch, Units.encode units⟩ ∧ ∀ packet ∈ units, packet.length ≤ batch) ?_ _ read s
  · exact ⟨[], by simp, by simp⟩
  · rintro next frame emitted ⟨added, grown, shaped⟩
    refine ⟨added ++ [frame], by rw [flush_frames, grown, List.append_assoc], fun other member => ?_⟩
    rcases List.mem_append.mp member with earlier | last
    · exact shaped other earlier
    · rw [List.mem_singleton.mp last]
      cases emitted with
      | single packet long short => omega
      | batch units _ _ small _ => exact ⟨units, rfl, small⟩

theorem encode_holds (units : List Bytes) (packet : Bytes) (member : packet ∈ units) :
    packet.length + 2 ≤ (Units.encode units).length := by
  induction units with
  | nil => cases member
  | cons first rest ih =>
      rw [Units.encode, List.flatMap_cons, List.length_append, Units.unit_length, ← Units.encode]
      rcases List.mem_cons.mp member with rfl | later
      · omega
      · have held := ih later
        omega

theorem burst_carried (reliable : ∀ write, conn write = .written) (batch : Nat) (narrow : batch < 65536) (positive : 1 ≤ minRead)
    (packets : List Bytes) (several : 2 ≤ packets.length) (fits : ∀ packet ∈ packets, packet.length ≤ batch) (packet : Bytes)
    (member : packet ∈ packets) (long : minRead ≤ packet.length) (s : Sender) :
    ∃ next, s.laneBody conn minRead (.batch (.got packets)) = (next, true) ∧
      ∃ frame ∈ next.frames, packet.length + 2 ≤ frame.payload.length := by
  have read : (LaneRead.batch (.got packets)).Fits 0 batch := by
    match packets, several with
    | first :: second :: rest, _ => exact fits
  obtain ⟨next, taken, sent⟩ := lane_body_sent conn minRead 0 batch reliable narrow (.batch (.got packets)) read packets rfl s
  obtain ⟨added, grown, shaped⟩ := burst_frames conn minRead batch positive packets several fits s
  rw [taken] at grown
  rw [grown, sentPackets, List.flatMap_append, ← sentPackets, ← sentPackets, List.append_cancel_left_eq] at sent
  have carried : packet ∈ sentPackets added := by
    rw [sent, longEnough, List.mem_filter]
    exact ⟨member, decide_eq_true long⟩
  obtain ⟨frame, inside, holds⟩ := List.mem_flatMap.mp carried
  obtain ⟨units, rfl, small⟩ := shaped frame inside
  rw [Frame.units, if_pos rfl, Units.split_encode units fun bytes held => Nat.lt_of_le_of_lt (small bytes held) narrow] at holds
  exact ⟨next, taken, _, by rw [grown]; exact List.mem_append_right _ inside, encode_holds units packet holds⟩

theorem send_carried (reliable : ∀ write, conn write = .written) (bound : Nat) (narrow : bound < 65536) (positive : 1 ≤ minRead)
    (reads : List LaneRead) (fits : ∀ read ∈ reads, read.Fits bound bound) (packets : List Bytes)
    (burst : .batch (.got packets) ∈ heard reads) (several : 2 ≤ packets.length) (packet : Bytes) (member : packet ∈ packets)
    (long : minRead ≤ packet.length) (s : Sender) :
    ∃ frame ∈ (s.sendReads conn minRead reads).frames, packet.length + 2 ≤ frame.payload.length := by
  induction reads generalizing s with
  | nil => cases burst
  | cons read rest ih =>
      have later := ih fun other inside => fits other (List.mem_cons_of_mem read inside)
      rw [heard, List.takeWhile_cons] at burst
      cases delivered : read.packets with
      | none => simp [delivered] at burst
      | some got =>
          rw [delivered, Option.isSome_some, if_pos rfl, ← heard] at burst
          rcases List.mem_cons.mp burst with rfl | further
          · have small : ∀ packet ∈ packets, packet.length ≤ bound := by
              have here := fits _ (List.mem_cons_self ..)
              match packets, several with
              | first :: second :: more, _ => exact here
            obtain ⟨next, taken, frame, placed, wide⟩ :=
              burst_carried conn minRead reliable bound narrow positive packets several small packet member long s
            rw [send_resumed conn minRead _ rest s next taken]
            exact ⟨frame, send_keeps conn minRead rest next frame placed, wide⟩
          · obtain ⟨next, taken, _⟩ := lane_body_sent conn minRead bound bound reliable narrow read
              (fits read (List.mem_cons_self ..)) got delivered s
            rw [send_resumed conn minRead read rest s next taken]
            exact later further next

end Sender

theorem emitted_length (minRead : Nat) (aead : Option AEAD) (frame : Frame)
    (emitted : Emitted minRead (laneMaxRead (aead.map FrameAEAD.newFrameAEAD))
      (laneMaxRead (aead.map FrameAEAD.newFrameAEAD) - 2) frame) : frame.payload.length + aeadCost aead ≤ 65535 := by
  have total := lane_max_read aead
  have cost := aead_cost_le aead
  cases emitted with
  | single packet long fits =>
      dsimp only
      omega
  | batch units _ _ _ bounded =>
      simp only [maxFrame] at bounded
      dsimp only
      omega

theorem bursts_fit (maxRead : Nat) (reads : List LaneRead) (fits : ∀ read ∈ reads, read.Fits maxRead maxRead)
    (spare : BurstsSpare maxRead reads) (read : LaneRead) (member : read ∈ heard reads) : read.Fits maxRead (maxRead - 2) := by
  have here := fits read ((List.takeWhile_prefix _).subset member)
  match read with
  | .plain .interrupted | .plain .failed | .batch .interrupted | .batch .failed => trivial
  | .plain (.got packet) => exact here
  | .batch (.got [packet]) => exact here
  | .batch (.got []) => simp [LaneRead.Fits]
  | .batch (.got (first :: second :: rest)) =>
      intro packet inside
      have room := spare _ member (by simp) packet inside
      omega

theorem frame_lengths_iff (aead : Option AEAD) (vnetHdr : Bool) (reads : List LaneRead)
    (fits : ∀ read ∈ reads, read.Fits (laneMaxRead (aead.map FrameAEAD.newFrameAEAD)) (laneMaxRead (aead.map FrameAEAD.newFrameAEAD))) :
    (∀ conn index frame, ((Sender.fresh aead).sendReads conn (laneMinRead vnetHdr) reads).frames[index]? = some frame →
      LengthKept frame.typ (bodyOf aead index frame.payload)) ↔
    BurstsSpare (laneMaxRead (aead.map FrameAEAD.newFrameAEAD)) reads := by
  have total := lane_max_read aead
  have cost := aead_cost_le aead
  have minimum : 1 ≤ laneMinRead vnetHdr ∧ laneMinRead vnetHdr ≤ 11 := by cases vnetHdr <;> decide
  constructor
  · intro kept packets burst several packet member
    by_contra tight
    obtain ⟨frame, sent, wide⟩ := Sender.send_carried (fun _ => .written) (laneMinRead vnetHdr) (fun _ => rfl) _ (by omega)
      minimum.1 reads fits packets burst several packet member (by omega) (Sender.fresh aead)
    obtain ⟨index, placed⟩ := List.mem_iff_getElem?.mp sent
    have narrow := (kept _ index frame placed).narrow
    rw [body_cost] at narrow
    omega
  · intro spare conn index frame placed
    rw [length_kept_iff, body_cost]
    rw [Sender.send_heard] at placed
    exact emitted_length _ aead frame (Sender.send_emitted aead conn _ _ _ (heard reads) (bursts_fit _ reads fits spare) frame
      (List.mem_of_getElem? placed))

def fullPacket : Bytes := List.replicate 65519 0

theorem full_packet_length : fullPacket.length = 65519 := List.length_replicate ..

theorem full_burst_flushed (full : Bytes) (size : full.length = 65519) :
    ((Sender.fresh (some tagAEAD)).tunToSockBatch (fun _ => .written) 1 [.got [full, [69]]]).frames[0]? =
      some ⟨frTypeBatch, Units.unit full⟩ := by
  simp [Sender.tunToSockBatch, Runs.loop, Sender.tunToSockBatchBody, Sender.coalesce, Sender.flush, Sender.fresh, size,
    Units.unit_length, maxFrame]

-- Read together with a short one, its length field takes the sealed batch to
-- 65537 bytes and the header says one.
theorem frame_length_wraps :
    (∀ packet ∈ [fullPacket, [69]], packet.length ≤ laneMaxRead (some (FrameAEAD.newFrameAEAD tagAEAD))) ∧
      ∃ frame, ((Sender.fresh (some tagAEAD)).tunToSockBatch (fun _ => .written) 1 [.got [fullPacket, [69]]]).frames[0]? =
          some frame ∧
        (bodyOf (some tagAEAD) 0 frame.payload).length = 65537 ∧
        headerLength (frameBytes frame.typ (bodyOf (some tagAEAD) 0 frame.payload)) = 1 := by
  have sealed : (bodyOf (some tagAEAD) 0 (Units.unit fullPacket)).length = 65537 := by
    rw [body_cost (some tagAEAD), Units.unit_length, full_packet_length]
    rfl
  have field : headerLength (frameBytes frTypeBatch (bodyOf (some tagAEAD) 0 (Units.unit fullPacket))) = 1 := by
    rw [header_length_kept, sealed]
  refine ⟨?_, ⟨frTypeBatch, Units.unit fullPacket⟩, full_burst_flushed fullPacket full_packet_length, sealed, field⟩
  intro packet member
  rcases List.mem_cons.mp member with rfl | later
  · exact Nat.le_of_eq full_packet_length
  · rw [List.mem_singleton.mp later]
    decide

theorem full_single_flushed (full : Bytes) (size : full.length = 65519) :
    ((Sender.fresh (some tagAEAD)).sendReads (fun _ => .written) (laneMinRead true) [.batch (.got [full])]).frames[0]? =
      some ⟨frTypeSingle, full⟩ := by
  simp [Sender.sendReads, Runs.loop, Sender.laneBody, Sender.tunToSockBatchBody, Sender.flush, Sender.fresh, size, laneMinRead,
    virtioNetHdrLen]

theorem frame_lengths_iff_full_single :
    ((Sender.fresh (some tagAEAD)).sendReads (fun _ => .written) (laneMinRead true)
        [.batch (.got [fullPacket])]).frames[0]? = some ⟨frTypeSingle, fullPacket⟩ ∧
      LengthKept frTypeSingle (bodyOf (some tagAEAD) 0 fullPacket) := by
  have sent := full_single_flushed fullPacket full_packet_length
  refine ⟨sent, (frame_lengths_iff (some tagAEAD) true [.batch (.got [fullPacket])] ?_).mpr ?_ _ 0 _ sent⟩
  · intro read member
    rw [List.mem_singleton.mp member]
    exact Nat.le_of_eq full_packet_length
  · intro packets burst several
    have alone : packets = [fullPacket] := by simpa [heard, LaneRead.packets] using burst
    rw [alone] at several
    exact absurd several (by simp)

end Packethose
