import Packethose.LaneLengths
import Packethose.Routing

set_option autoImplicit false

namespace Packethose

def tunBufLen : Nat := 65535 + virtioNetHdrLen

-- sessionPIO.Read into a buffer of the given size; none is the branch of the
-- select that sees the session closed. Both io.EOF and errShortBuffer end the
-- loop that reads.
def sessionPIORead (room : Nat) : Option Bytes → ReadResult Bytes
  | none => .failed
  | some packet => if packet.length > room then .failed else .got packet

structure Session.Dispatchable (vnetHdr : Bool) (s : Session) (packet : Bytes) : Prop where
  buffered : packet.length ≤ tunBufLen
  owned : ∃ dst, innerDst packet vnetHdr = some dst ∧ (dst = s.assigned4 ∨ dst = s.assigned6)

def offered (aead : Option AEAD) : Nat := laneMaxRead (aead.map FrameAEAD.newFrameAEAD)

def sendDispatched (aead : Option AEAD) (vnetHdr : Bool) (packets : List Bytes) : Sender × Bool :=
  Runs.loop (Sender.tunToSockBody (fun _ => .written) (laneMinRead vnetHdr)) (Sender.fresh aead)
    (packets.map fun packet => sessionPIORead (offered aead) (some packet))

structure Carried (aead : Option AEAD) (vnetHdr : Bool) (packets : List Bytes) : Prop where
  accepted : ∀ packet ∈ packets, sessionPIORead (offered aead) (some packet) = .got packet
  continues : (sendDispatched aead vnetHdr packets).2 = true
  framed : (sendDispatched aead vnetHdr packets).1.frames = packets.map (Frame.mk frTypeSingle)
  sent : (sendDispatched aead vnetHdr packets).1.wire = wireOf aead 0 (packets.map (Frame.mk frTypeSingle))
  lengths : ∀ count, ∀ packet ∈ packets, LengthKept frTypeSingle (bodyOf aead count packet)

namespace MCState

def Buffered (_ : MCState) : Action → Prop
  | .tunRead _ packet => packet.length ≤ tunBufLen
  | _ => True

structure Sized (st : MCState) : Prop where
  held : ∀ packet ref, some (packet, ref) ∈ st.readers → packet.length ≤ tunBufLen
  sent : ∀ ref packet, (ref, packet) ∈ st.dispatched → packet.length ≤ tunBufLen

theorem sized_preserved (env : Env) : Runs.Preserved (step env) Buffered Sized := by
  intro st action next sized buffered taken
  have effect := step_effect env st next action taken
  refine ⟨fun packet ref held => ?_, fun ref packet sent => ?_⟩
  · rcases effect_readers env st next action effect packet ref held with before | ⟨⟨reader, rfl⟩, _⟩
    · exact sized.held packet ref before
    · exact buffered
  · rcases effect_dispatched env st next action effect with same | ⟨reader, other, target, held, added, _⟩
    · exact sized.sent ref packet (same ▸ sent)
    · rw [added, List.mem_append, List.mem_singleton] at sent
      rcases sent with before | last
      · exact sized.sent ref packet before
      · obtain ⟨rfl, rfl⟩ := Prod.mk.inj last
        exact sized.held packet ref (List.mem_of_getElem? held)

theorem start_sized (pool4 pool6 : Option IPPool) (userDB : Option UserDB) (queues : Nat) :
    Sized (start pool4 pool6 userDB queues) :=
  ⟨fun packet ref held => absurd (List.eq_of_mem_replicate held) (by simp), fun ref packet sent => absurd sent (by simp [start])⟩

theorem dispatched_dispatchable (env : Env) (pool4 pool6 : Option IPPool) (userDB : Option UserDB) (queues : Nat) (st : MCState)
    (reached : Runs.Reach (step env) Buffered (start pool4 pool6 userDB queues) st) (ref : SessionRef) (packet : Bytes)
    (sent : (ref, packet) ∈ st.dispatched) : ∃ s, st.heap[ref]? = some s ∧ s.Dispatchable env.cfg.vnetHdr packet := by
  have both : Runs.Preserved (step env) Buffered fun st => Routed env st ∧ Sized st :=
    fun st action next held buffered taken =>
      ⟨routed_preserved env st action next held.1 trivial taken, sized_preserved env st action next held.2 buffered taken⟩
  obtain ⟨⟨_, delivered⟩, sized⟩ := Runs.reach_invariant both reached
    ⟨start_routed env pool4 pool6 userDB queues, start_sized pool4 pool6 userDB queues⟩
  obtain ⟨o, dst, owned, parsed, matched⟩ := delivered.sent ref packet sent
  obtain ⟨s, stored, _, first, second⟩ := owner_session st ref o owned
  exact ⟨s, stored, sized.sent ref packet sent, dst, parsed, first ▸ second ▸ matched⟩

end MCState

theorem dispatchable_long (vnetHdr : Bool) (s : Session) (packet : Bytes) (dispatchable : s.Dispatchable vnetHdr packet) :
    laneMinRead vnetHdr ≤ packet.length := by
  obtain ⟨dst, parsed, _⟩ := dispatchable.owned
  have inner : 20 ≤ (packet.drop (if vnetHdr then virtioNetHdrLen else 0)).length := by
    rcases inner_dst_bytes packet vnetHdr dst parsed with ⟨_, _, _, _, long, _⟩ | ⟨_, _, _, _, long, _⟩ <;> omega
  rw [List.length_drop] at inner
  cases vnetHdr <;> simp [laneMinRead, virtioNetHdrLen] at inner ⊢ <;> omega

theorem session_read_got (room : Nat) (packet : Bytes) : sessionPIORead room (some packet) = .got packet ↔ packet.length ≤ room := by
  rw [sessionPIORead]
  split_ifs with long
  · exact iff_of_false nofun (not_le.mpr long)
  · exact iff_of_true rfl (not_lt.mp long)

section Loop

variable (minRead room : Nat)

theorem send_fitting (packets : List Bytes) (fits : ∀ packet ∈ packets, packet.length ≤ room)
    (long : ∀ packet ∈ packets, minRead ≤ packet.length) (s : Sender) :
    (Runs.loop (Sender.tunToSockBody (fun _ => .written) minRead) s (packets.map fun packet => sessionPIORead room (some packet))).2 =
        true ∧
      (Runs.loop (Sender.tunToSockBody (fun _ => .written) minRead) s
          (packets.map fun packet => sessionPIORead room (some packet))).1.frames =
        s.frames ++ packets.map (Frame.mk frTypeSingle) := by
  induction packets generalizing s with
  | nil => exact ⟨rfl, by simp [Runs.loop]⟩
  | cons packet rest ih =>
      have body : s.tunToSockBody (fun _ => .written) minRead (sessionPIORead room (some packet)) =
          ((s.flush (fun _ => .written) frTypeSingle packet).1, true) := by
        rw [(session_read_got room packet).mpr (fits packet (by simp)), Sender.tunToSockBody,
          if_neg (not_lt.mpr (long packet (by simp)))]
        exact Prod.ext rfl (Sender.flush_written _ s frTypeSingle packet rfl).1
      rw [List.map_cons, Runs.loop, body]
      obtain ⟨continues, frames⟩ := ih (fun other member => fits other (by simp [member]))
        (fun other member => long other (by simp [member])) (s.flush (fun _ => .written) frTypeSingle packet).1
      refine ⟨continues, frames.trans ?_⟩
      rw [Sender.flush_frames, List.append_assoc]
      rfl

theorem send_stopped (packets : List Bytes) (s : Sender)
    (continues : (Runs.loop (Sender.tunToSockBody (fun _ => .written) minRead) s
      (packets.map fun packet => sessionPIORead room (some packet))).2 = true) :
    ∀ packet ∈ packets, packet.length ≤ room := by
  induction packets generalizing s with
  | nil => simp
  | cons first rest ih =>
      rw [List.map_cons, Runs.loop] at continues
      by_cases fits : first.length ≤ room
      · split at continues
        · intro packet member
          rcases List.mem_cons.mp member with rfl | later
          · exact fits
          · exact ih _ continues packet later
        · cases continues
      · have body : s.tunToSockBody (fun _ => .written) minRead (sessionPIORead room (some first)) = (s, false) := by
          rw [sessionPIORead, if_pos (by omega)]
          rfl
        rw [body] at continues
        cases continues

end Loop

theorem dispatched_carried_iff (aead : Option AEAD) (vnetHdr : Bool) (s : Session) (packets : List Bytes)
    (dispatchable : ∀ packet ∈ packets, s.Dispatchable vnetHdr packet) :
    Carried aead vnetHdr packets ↔ ∀ packet ∈ packets, packet.length ≤ offered aead := by
  refine ⟨fun carried => send_stopped (laneMinRead vnetHdr) (offered aead) packets _ carried.continues, fun fits => ?_⟩
  obtain ⟨continues, frames⟩ := send_fitting (laneMinRead vnetHdr) (offered aead) packets fits
    (fun packet member => dispatchable_long vnetHdr s packet (dispatchable packet member)) (Sender.fresh aead)
  have framed : (sendDispatched aead vnetHdr packets).1.frames = packets.map (Frame.mk frTypeSingle) := frames
  refine ⟨fun packet member => (session_read_got _ packet).mpr (fits packet member), continues, framed, ?_,
    fun count packet member => ?_⟩
  · have wire := Sender.send_wire aead (fun _ => .written) (fun _ => rfl) (laneMinRead vnetHdr)
      ((packets.map fun packet => sessionPIORead (offered aead) (some packet)).map .plain)
    rw [← Sender.tun_to_sock_reads] at wire
    exact wire.trans (congrArg (wireOf aead 0) framed)
  · have small := fits packet member
    have total := lane_max_read aead
    rw [length_kept_iff, body_cost]
    rw [offered] at small
    omega

def benSession : Session where
  id := clientB
  userName := "ben"
  assigned4 := .v4 #v[10, 66, 0, 3]
  assigned6 := .zero
  laneCount := 1
  outbound := []
  closed := false
  nextLane := 1
  active := 1
  lastSeen := 0
  isClosed := false

theorem dispatched_carried_to_ben : Carried (some tagAEAD) false [packetToBen, packetToBen] :=
  (dispatched_carried_iff (some tagAEAD) false benSession [packetToBen, packetToBen] (by
    intro packet member
    obtain rfl : packet = packetToBen := by simpa using member
    exact ⟨by decide, _, rfl, .inl rfl⟩)).mpr (by decide)

def superPacket (payload : Nat) : Bytes := List.replicate 10 0 ++ packetToBen ++ List.replicate payload 0

theorem super_packet_length (payload : Nat) : (superPacket payload).length = 30 + payload := by
  have header : (List.replicate 10 0 ++ packetToBen).length = 30 := rfl
  rw [superPacket, List.length_append, header, List.length_replicate]

theorem super_packet_dispatchable (payload : Nat) (small : payload ≤ 65515) : benSession.Dispatchable true (superPacket payload) := by
  have length := super_packet_length payload
  have inner : (superPacket payload).drop virtioNetHdrLen = packetToBen ++ List.replicate payload 0 := by
    rw [superPacket, List.append_assoc]
    rfl
  refine ⟨by rw [length, tunBufLen, virtioNetHdrLen]; omega, .v4 #v[10, 66, 0, 3], ?_, .inl rfl⟩
  rw [innerDst, if_neg (by rw [length, virtioNetHdrLen]; omega), if_pos rfl, inner]
  have long : ¬ (packetToBen ++ List.replicate payload (0 : UInt8)).length < 20 := by simp [packetToBen]
  exact (if_pos (by decide : (0x45 : UInt8) >>> 4 = 4)).trans (if_neg long)

-- 65510 bytes behind the virtio header: the lane ends, and what comes after
-- is not sent.
theorem super_packet_stops_lane :
    (∀ packet ∈ [superPacket 0, superPacket 65490, superPacket 1], benSession.Dispatchable true packet) ∧
      (superPacket 65490).length = 65520 ∧
      (sendDispatched (some tagAEAD) true [superPacket 0, superPacket 65490, superPacket 1]).2 = false ∧
      (sendDispatched (some tagAEAD) true [superPacket 0, superPacket 65490, superPacket 1]).1.frames =
        [⟨frTypeSingle, superPacket 0⟩] := by
  have long := super_packet_length 65490
  have refused : sessionPIORead (offered (some tagAEAD)) (some (superPacket 65490)) = .failed := by
    rw [sessionPIORead, if_pos (by rw [long]; decide)]
  have first : sessionPIORead (offered (some tagAEAD)) (some (superPacket 0)) = .got (superPacket 0) := by decide
  refine ⟨?_, long, ?_, ?_⟩
  · simp only [List.forall_mem_cons]
    exact ⟨super_packet_dispatchable 0 (by decide), super_packet_dispatchable 65490 (by decide),
      super_packet_dispatchable 1 (by decide), by simp⟩
  · simp only [sendDispatched, List.map_cons, refused, first]
    rfl
  · simp only [sendDispatched, List.map_cons, refused, first]
    rfl

end Packethose
