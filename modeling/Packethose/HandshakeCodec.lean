import Packethose.Lib.Outcomes
import Packethose.HandshakeMessages

set_option autoImplicit false

namespace Packethose

def Addr.carried (a : Addr) : Addr := decodeAddrSlot (encodeAddrSlot a)

def AssignmentResponse.carried (asg : AssignmentResponse) : AssignmentResponse :=
  { asg with
    v4Addr := asg.v4Addr.carried
    v4Peer := asg.v4Peer.carried
    v6Addr := asg.v6Addr.carried
    v6Peer := asg.v6Peer.carried }

def Addr.specified (a : Addr) : Addr := if a.isUnspecified then .zero else a

def AssignmentResponse.specified (asg : AssignmentResponse) : AssignmentResponse :=
  { asg with
    v4Addr := asg.v4Addr.specified
    v4Peer := asg.v4Peer.specified
    v6Addr := asg.v6Addr.specified
    v6Peer := asg.v6Peer.specified }

theorem carried_itself (a : Addr) (valid : a.isValid = true) (given : a.isUnspecified = false) (zoneless : a.zone = "") :
    a.carried = a := by
  rw [Addr.carried, decode_encode_slot, announced_zoneless a zoneless, Addr.announced, valid, given]
  rfl

theorem carried_none (a : Addr) (missing : a.isValid = false ∨ a.isUnspecified = true) : a.carried = .zero := by
  rw [Addr.carried, decode_encode_slot, Addr.announced, if_pos]
  · rfl
  · cases missing with
    | inl invalid => simp [invalid]
    | inr unspecified => simp [unspecified]

theorem decoded_zone (slot : Bytes) : (decodeAddrSlot slot).zone = "" := by
  unfold decodeAddrSlot
  split_ifs
  · rfl
  · split <;> rfl

theorem decoded_carried (slot : Bytes) : (decodeAddrSlot slot).carried = (decodeAddrSlot slot).specified := by
  unfold Addr.specified
  by_cases unspecified : (decodeAddrSlot slot).isUnspecified = true
  · rw [if_pos unspecified, carried_none _ (.inr unspecified)]
  · rw [if_neg unspecified]
    cases decoded : (decodeAddrSlot slot).isValid with
    | false =>
        rw [carried_none _ (.inl decoded)]
        cases address : decodeAddrSlot slot with
        | zero => rfl
        | v4 bytes => rw [address] at decoded; cases decoded
        | v6 bytes zone => rw [address] at decoded; cases decoded
    | true => exact carried_itself _ decoded (Bool.not_eq_true _ ▸ unspecified) (decoded_zone slot)

theorem client_payload_carried (cipher : Cipher) (laneCount : UInt8) (req : AssignmentRequest) (uso : Bool) :
    parseClientPayload (buildClientPayload cipher laneCount req uso) =
      .ok ⟨cipher, laneCount, ⟨req.v4.carried, req.v6.carried⟩, uso⟩ := by
  simp only [parse_build_client, Addr.carried, decode_encode_slot]

theorem server_payload_carried (asg : AssignmentResponse) (uso : Bool) :
    parseServerPayload (buildServerPayload asg uso) = .ok (asg.carried, uso) := by
  simp only [parse_build_server_slots, AssignmentResponse.carried, Addr.carried, decode_encode_slot]

theorem version_checked (payload : Bytes) (limit : Nat) (positive : 0 < limit) :
    (¬ payload.length < limit ∧ ¬ payload.getD 0 0 ≠ hsVersion) ↔ limit ≤ payload.length ∧ payload.head? = some hsVersion := by
  cases payload with
  | nil => simp [positive]
  | cons first rest => simp

theorem client_payload_accepted (payload : Bytes) :
    (∃ parsed, parseClientPayload payload = .ok parsed) ↔
      clientPayloadLen ≤ payload.length ∧ payload.head? = some hsVersion :=
  (Outcomes.checked_ok _ _ _ _ _).trans (version_checked payload clientPayloadLen (by decide))

theorem server_payload_accepted (payload : Bytes) :
    (∃ parsed, parseServerPayload payload = .ok parsed) ↔
      serverPayloadLen ≤ payload.length ∧ payload.head? = some hsVersion :=
  (Outcomes.checked_ok _ _ _ _ _).trans (version_checked payload serverPayloadLen (by decide))

theorem slot_before (payload extra : Bytes) (pos : Nat) (inside : pos + addrSlotLen ≤ payload.length) :
    slotAt (payload ++ extra) pos = slotAt payload pos := by
  have room : addrSlotLen ≤ (payload.drop pos).length := by
    rw [List.length_drop]
    omega
  rw [slotAt, List.drop_append_of_le_length (by omega), List.take_append_of_le_length room, slotAt]

theorem byte_before (payload extra : Bytes) (pos : Nat) (inside : pos < payload.length) :
    (payload ++ extra).getD pos 0 = payload.getD pos 0 := by
  rw [List.getD_eq_getElem?_getD, List.getElem?_append_left inside, List.getD_eq_getElem?_getD]

theorem client_payload_trailing (payload extra : Bytes) (whole : clientPayloadLen ≤ payload.length) :
    parseClientPayload (payload ++ extra) = parseClientPayload payload := by
  have long : ¬ (payload ++ extra).length < clientPayloadLen := by
    rw [List.length_append]
    omega
  unfold parseClientPayload
  rw [if_neg long, if_neg (Nat.not_lt.mpr whole)]
  simp only [clientPayloadLen] at whole
  rw [← slotAt, ← slotAt, ← slotAt, ← slotAt, slot_before, slot_before, byte_before, byte_before, byte_before,
    byte_before] <;> omega

theorem server_payload_trailing (payload extra : Bytes) (whole : serverPayloadLen ≤ payload.length) :
    parseServerPayload (payload ++ extra) = parseServerPayload payload := by
  have long : ¬ (payload ++ extra).length < serverPayloadLen := by
    rw [List.length_append]
    omega
  unfold parseServerPayload
  rw [if_neg long, if_neg (Nat.not_lt.mpr whole)]
  simp only [serverPayloadLen] at whole
  rw [slot_before, slot_before, slot_before, slot_before, byte_before, byte_before, byte_before, byte_before] <;>
    omega

theorem client_payload_again (payload : Bytes) (parsed : ClientPayload) (read : parseClientPayload payload = .ok parsed) :
    parseClientPayload (buildClientPayload parsed.cipher parsed.laneCount parsed.request parsed.uso) =
      .ok { parsed with request := ⟨parsed.request.v4.specified, parsed.request.v6.specified⟩ } := by
  unfold parseClientPayload at read
  split_ifs at read
  cases read
  rw [client_payload_carried, decoded_carried, decoded_carried]

theorem server_payload_again (payload : Bytes) (asg : AssignmentResponse) (uso : Bool)
    (read : parseServerPayload payload = .ok (asg, uso)) :
    parseServerPayload (buildServerPayload asg uso) = .ok (asg.specified, uso) := by
  unfold parseServerPayload at read
  split_ifs at read
  cases read
  simp only [server_payload_carried, AssignmentResponse.carried, AssignmentResponse.specified, slotAt, decoded_carried]

theorem payload_codecs :
    (∀ cipher laneCount req uso, parseClientPayload (buildClientPayload cipher laneCount req uso) =
      .ok ⟨cipher, laneCount, ⟨req.v4.carried, req.v6.carried⟩, uso⟩) ∧
    (∀ asg uso, parseServerPayload (buildServerPayload asg uso) = .ok (asg.carried, uso)) ∧
    (∀ a : Addr, a.isValid = true → a.isUnspecified = false → a.zone = "" → a.carried = a) ∧
    (∀ a : Addr, a.isValid = false ∨ a.isUnspecified = true → a.carried = .zero) ∧
    (∀ payload, (∃ parsed, parseClientPayload payload = .ok parsed) ↔
      clientPayloadLen ≤ payload.length ∧ payload.head? = some 7) ∧
    (∀ payload, (∃ parsed, parseServerPayload payload = .ok parsed) ↔
      serverPayloadLen ≤ payload.length ∧ payload.head? = some 7) ∧
    (∀ payload extra, clientPayloadLen ≤ payload.length → parseClientPayload (payload ++ extra) = parseClientPayload payload) ∧
    (∀ payload extra, serverPayloadLen ≤ payload.length → parseServerPayload (payload ++ extra) = parseServerPayload payload) ∧
    (∀ payload parsed, parseClientPayload payload = .ok parsed →
      parseClientPayload (buildClientPayload parsed.cipher parsed.laneCount parsed.request parsed.uso) =
        .ok { parsed with request := ⟨parsed.request.v4.specified, parsed.request.v6.specified⟩ }) ∧
    ∀ payload asg uso, parseServerPayload payload = .ok (asg, uso) →
      parseServerPayload (buildServerPayload asg uso) = .ok (asg.specified, uso) :=
  ⟨client_payload_carried, server_payload_carried, carried_itself, carried_none, client_payload_accepted,
    server_payload_accepted, client_payload_trailing, server_payload_trailing, client_payload_again, server_payload_again⟩

-- An IPv4-mapped address stays an IPv6 one, whichever field it is sent in.
theorem payload_codecs_mapped :
    parseClientPayload (buildClientPayload cipherChaCha 4
      ⟨.v6 (Octets.window 16 [0, 0, 0, 0, 0, 0, 0, 0, 0, 0, 0xFF, 0xFF, 10, 66, 0, 3] 0) "", .v4 (Vector.replicate 4 0)⟩ true) =
      .ok ⟨cipherChaCha, 4,
        ⟨.v6 (Octets.window 16 [0, 0, 0, 0, 0, 0, 0, 0, 0, 0, 0xFF, 0xFF, 10, 66, 0, 3] 0) "", .zero⟩, true⟩ := by
  obtain ⟨carried, _, itself, none, _⟩ := payload_codecs
  rw [carried, itself _ rfl (by decide) rfl, none (.v4 (Vector.replicate 4 0)) (.inr (by decide))]

end Packethose
