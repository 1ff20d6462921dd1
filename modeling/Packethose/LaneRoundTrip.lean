import Packethose.LaneReceive

set_option autoImplicit false

namespace Packethose

theorem emitted_nonempty (minRead single batch : Nat) (positive : 1 ≤ minRead) (frame : Frame)
    (emitted : Emitted minRead single batch frame) : 0 < frame.payload.length := by
  cases emitted with
  | single packet long => exact Nat.lt_of_lt_of_le positive long
  | batch units nonempty =>
      obtain ⟨first, more, rfl⟩ := List.exists_cons_of_ne_nil nonempty
      simp only [Units.encode, List.flatMap_cons, List.length_append, Units.unit_length]
      omega

theorem emitted_body_narrow (minRead : Nat) (aead : Option AEAD) (frame : Frame)
    (emitted : Emitted minRead (laneMaxRead (aead.map FrameAEAD.newFrameAEAD)) (maxFrame - 2) frame) (count : Nat) :
    (bodyOf aead count frame.payload).length < 65536 := by
  rw [body_of_length]
  cases emitted with
  | single packet long fits =>
      cases aead with
      | none => simp [laneMaxRead, maxPkt] at fits ⊢; omega
      | some cipher => simp [laneMaxRead, maxPkt, FrameAEAD.overhead, aeadOverhead] at fits ⊢; omega
  | batch units nonempty long fits bounded =>
      dsimp only
      unfold aeadOverhead
      simp only [maxFrame] at bounded
      split_ifs <;> omega

theorem emitted_opens (aead : Option AEAD)
    (correct : ∀ cipher, aead = some cipher → ∀ nonce plaintext,
      cipher.openBytes nonce (cipher.sealBytes nonce plaintext) = some plaintext)
    (count : Nat) (payload : Bytes) : payloadOf aead count (bodyOf aead count payload) = some payload := by
  cases aead with
  | none => rfl
  | some cipher => exact correct cipher rfl _ payload

def delivered (aead : Option AEAD) (tun : Nat → TunWrite) (s : Sender) : Receiver × LaneExit :=
  (Receiver.fresh aead).sockToTun tun s.wire

theorem delivered_reads (minRead : Nat) (positive : 1 ≤ minRead) (aead : Option AEAD)
    (correct : ∀ cipher, aead = some cipher → ∀ nonce plaintext,
      cipher.openBytes nonce (cipher.sealBytes nonce plaintext) = some plaintext)
    (conn : Nat → WriteResult) (reliable : ∀ write, conn write = .written)
    (tun : Nat → TunWrite) (alive : ∀ write, tun write ≠ .fatal) (reads : List LaneRead)
    (fits : ∀ read ∈ reads, read.Fits (laneMaxRead (aead.map FrameAEAD.newFrameAEAD)) (maxFrame - 2)) :
    (delivered aead tun ((Sender.fresh aead).sendReads conn minRead reads)).2 = .eof ∧
      (delivered aead tun ((Sender.fresh aead).sendReads conn minRead reads)).1.writes =
        longEnough minRead (packetsRead reads) := by
  have emitted := Sender.send_emitted aead conn minRead _ _ reads fits
  have whole := fun frame member => emitted_units minRead _ _ frame (emitted frame member) (by decide)
  obtain ⟨written, finished⟩ := Receiver.deliver_frames tun alive aead ((Sender.fresh aead).sendReads conn minRead reads).frames 0
    (fun index bound => emitted_opens aead correct _ _)
    (fun frame member number => by
      rw [body_of_length]
      have occupied := emitted_nonempty minRead _ _ positive frame (emitted frame member)
      omega)
    (fun frame member number => emitted_body_narrow minRead aead frame (emitted frame member) number)
    (fun frame member => whole frame (List.dropLast_subset _ member))
    (Receiver.fresh aead) (direction_fresh aead)
  rw [delivered, Sender.send_wire aead conn reliable minRead reads]
  refine ⟨finished whole, ?_⟩
  rw [written, Sender.send_sent conn minRead _ _ reliable (by decide) reads fits]
  simp [Receiver.fresh, Receiver.writes, Sender.fresh, sentPackets]

-- Bursts of any size are covered; the device of the source fills at most
-- maxBatch buffers.
theorem lane_round_trip (minRead : Nat) (positive : 1 ≤ minRead) (aead : Option AEAD)
    (correct : ∀ cipher, aead = some cipher → ∀ nonce plaintext,
      cipher.openBytes nonce (cipher.sealBytes nonce plaintext) = some plaintext)
    (conn : Nat → WriteResult) (reliable : ∀ write, conn write = .written)
    (tun : Nat → TunWrite) (alive : ∀ write, tun write ≠ .fatal) :
    (∀ reads : List LaneRead,
      (∀ read ∈ reads, read.Fits (laneMaxRead (aead.map FrameAEAD.newFrameAEAD)) (maxFrame - 2)) →
      (delivered aead tun ((Sender.fresh aead).sendReads conn minRead reads)).2 = .eof ∧
      (delivered aead tun ((Sender.fresh aead).sendReads conn minRead reads)).1.writes =
        longEnough minRead (packetsRead reads)) ∧
    (∀ (singles : List (ReadResult Bytes)) (bursts : List (ReadResult (List Bytes))),
      (∀ read ∈ singles, (LaneRead.plain read).Fits (laneMaxRead (aead.map FrameAEAD.newFrameAEAD)) (maxFrame - 2)) →
      (∀ read ∈ bursts, (LaneRead.batch read).Fits (laneMaxRead (aead.map FrameAEAD.newFrameAEAD)) (maxFrame - 2)) →
      packetsRead (singles.map .plain) = packetsRead (bursts.map .batch) →
      (delivered aead tun ((Sender.fresh aead).tunToSock conn minRead singles)).2 = .eof ∧
      (delivered aead tun ((Sender.fresh aead).tunToSockBatch conn minRead bursts)).2 = .eof ∧
      (delivered aead tun ((Sender.fresh aead).tunToSock conn minRead singles)).1.writes =
        longEnough minRead (packetsRead (singles.map .plain)) ∧
      (delivered aead tun ((Sender.fresh aead).tunToSockBatch conn minRead bursts)).1.writes =
        (delivered aead tun ((Sender.fresh aead).tunToSock conn minRead singles)).1.writes) := by
  have transported := delivered_reads minRead positive aead correct conn reliable tun alive
  refine ⟨transported, fun singles bursts single burst same => ?_⟩
  have left := transported (singles.map .plain) (by simpa using single)
  have right := transported (bursts.map .batch) (by simpa using burst)
  rw [← Sender.tun_to_sock_reads] at left
  rw [← Sender.tun_to_sock_batch_reads, ← same] at right
  exact ⟨left.1, right.1, left.2, right.2.trans left.2.symm⟩

def tagAEAD : AEAD where
  sealBytes _ plaintext := plaintext ++ List.replicate aeadOverhead 0
  openBytes _ ciphertext := some (ciphertext.take (ciphertext.length - aeadOverhead))
  seal_length := zero_tag_length

theorem lane_round_trip_mixed_reads :
    (delivered (some tagAEAD) (fun _ => .accepted) ((Sender.fresh (some tagAEAD)).sendReads (fun _ => .written) 2
      [.plain (.got [1, 2]), .plain .interrupted, .batch (.got [[3, 4, 5], [6], [7, 8]])])).1.writes =
      [[1, 2], [3, 4, 5], [7, 8]] :=
  ((lane_round_trip 2 (by decide) (some tagAEAD)
    (fun cipher same nonce plaintext => by obtain rfl := Option.some.inj same; simp [tagAEAD])
    (fun _ => .written) (fun _ => rfl) (fun _ => .accepted) (fun _ => by decide)).1
      [.plain (.got [1, 2]), .plain .interrupted, .batch (.got [[3, 4, 5], [6], [7, 8]])]
      (by simp [LaneRead.Fits, laneMaxRead, maxPkt, maxFrame, FrameAEAD.overhead, aeadOverhead])).2

end Packethose
