import Packethose.Handshake

set_option autoImplicit false

namespace Packethose

def serverPayloadLen : Nat := 1 + addrSlotLen + 1 + addrSlotLen + addrSlotLen + 1 + addrSlotLen + 1

def Addr.zone : Addr → String
  | .v6 _ zone => zone
  | _ => ""

def Addr.withoutZone : Addr → Addr
  | .v6 bytes _ => .v6 bytes ""
  | other => other

def encodeAddrSlot (a : Addr) : Bytes :=
  if !a.isValid || a.isUnspecified then List.replicate addrSlotLen 0
  else
    match a with
    | .v4 bytes => 4 :: bytes.toList ++ List.replicate 12 0
    | .v6 bytes _ => 6 :: bytes.toList
    | .zero => List.replicate addrSlotLen 0

def usoFlag (uso : Bool) : UInt8 := if uso then hsFlagUSO else 0

def buildClientPayload (cipher : Cipher) (laneCount : UInt8) (req : AssignmentRequest) (uso : Bool) : Bytes :=
  [hsVersion, cipher, laneCount] ++ (encodeAddrSlot req.v4 ++ (encodeAddrSlot req.v6 ++ [usoFlag uso]))

def buildServerPayload (asg : AssignmentResponse) (uso : Bool) : Bytes :=
  [hsVersion] ++ (encodeAddrSlot asg.v4Addr ++ ([asg.v4Prefix] ++ (encodeAddrSlot asg.v4Peer ++
    (encodeAddrSlot asg.v6Addr ++ ([asg.v6Prefix] ++ (encodeAddrSlot asg.v6Peer ++ [usoFlag uso]))))))

inductive ServerPayloadError where
  | shortPayload
  | versionMismatch (got : UInt8)
deriving DecidableEq, Repr

def ServerPayloadError.text : ServerPayloadError → String
  | .shortPayload => "handshake: short server payload"
  | .versionMismatch got =>
      "handshake: version mismatch (got " ++ toString got.toNat ++ ", want " ++ toString hsVersion.toNat ++ ")"

def slotAt (payload : Bytes) (pos : Nat) : Addr := decodeAddrSlot ((payload.drop pos).take addrSlotLen)

def parseServerPayload (payload : Bytes) : Except ServerPayloadError (AssignmentResponse × Bool) :=
  if payload.length < serverPayloadLen then .error .shortPayload
  else if payload.getD 0 0 ≠ hsVersion then .error (.versionMismatch (payload.getD 0 0))
  else .ok
    ({ v4Addr := slotAt payload 1
       v4Prefix := payload.getD (1 + addrSlotLen) 0
       v4Peer := slotAt payload (2 + addrSlotLen)
       v6Addr := slotAt payload (2 + 2 * addrSlotLen)
       v6Prefix := payload.getD (2 + 3 * addrSlotLen) 0
       v6Peer := slotAt payload (3 + 3 * addrSlotLen) },
      payload.getD (3 + 4 * addrSlotLen) 0 &&& hsFlagUSO != 0)

-- What a slot says about an address: an invalid or unspecified one is read
-- back as the zero Addr.
def Addr.announced (a : Addr) : Addr := if !a.isValid || a.isUnspecified then .zero else a

def AssignmentResponse.announced (asg : AssignmentResponse) : AssignmentResponse :=
  { asg with
    v4Addr := asg.v4Addr.announced
    v4Peer := asg.v4Peer.announced
    v6Addr := asg.v6Addr.announced
    v6Peer := asg.v6Peer.announced }

structure AssignmentResponse.Zoneless (asg : AssignmentResponse) : Prop where
  v4Addr : asg.v4Addr.zone = ""
  v4Peer : asg.v4Peer.zone = ""
  v6Addr : asg.v6Addr.zone = ""
  v6Peer : asg.v6Peer.zone = ""

theorem encode_addr_slot_length (a : Addr) : (encodeAddrSlot a).length = addrSlotLen := by
  unfold encodeAddrSlot
  split_ifs
  · simp
  · cases a <;> simp [addrSlotLen]

theorem window_self {width : Nat} (bytes : Vector UInt8 width) (first : UInt8) (rest : Bytes) :
    Octets.window width (first :: bytes.toList ++ rest) 1 = bytes := by
  apply Vector.ext
  intro index bound
  have inside : index < bytes.toList.length := by simpa using bound
  simp [Octets.window, Nat.add_comm 1 index, List.getElem?_append_left inside, List.getElem?_eq_getElem inside]

theorem decode_encode_slot (a : Addr) : decodeAddrSlot (encodeAddrSlot a) = a.announced.withoutZone := by
  have complete : ¬ (encodeAddrSlot a).length < addrSlotLen := by rw [encode_addr_slot_length]; omega
  rw [decodeAddrSlot, if_neg complete]
  unfold encodeAddrSlot Addr.announced
  split_ifs with unassigned
  · rfl
  · cases a with
    | zero => exact absurd rfl unassigned
    | v4 bytes => exact congrArg Addr.v4 (window_self bytes 4 (List.replicate 12 0))
    | v6 bytes zone =>
        have whole := window_self bytes 6 []
        rw [List.append_nil] at whole
        exact congrArg (fun read => Addr.v6 read "") whole

theorem announced_zoneless (a : Addr) (zoneless : a.zone = "") : a.announced.withoutZone = a.announced := by
  unfold Addr.announced
  split_ifs
  · rfl
  · cases a with
    | zero => rfl
    | v4 bytes => rfl
    | v6 bytes zone => exact congrArg (Addr.v6 bytes) zoneless.symm

theorem slot_here (a : Addr) (rest : Bytes) : slotAt (encodeAddrSlot a ++ rest) 0 = a.announced.withoutZone := by
  rw [slotAt, List.drop_zero, List.take_left' (encode_addr_slot_length a), decode_encode_slot a]

theorem slot_behind (lead rest : Bytes) (pos : Nat) (passed : lead.length ≤ pos) :
    slotAt (lead ++ rest) pos = slotAt rest (pos - lead.length) := by
  rw [slotAt, List.drop_append, List.drop_eq_nil_of_le passed, List.nil_append, slotAt]

theorem slot_behind_byte (byte : UInt8) (rest : Bytes) (pos : Nat) : slotAt (byte :: rest) (pos + 1) = slotAt rest pos := rfl

theorem uso_flag_read (uso : Bool) : (usoFlag uso &&& hsFlagUSO != 0) = uso := by cases uso <;> rfl

theorem parse_build_client (cipher : Cipher) (laneCount : UInt8) (req : AssignmentRequest) (uso : Bool) :
    parseClientPayload (buildClientPayload cipher laneCount req uso) =
      .ok ⟨cipher, laneCount, ⟨req.v4.announced.withoutZone, req.v6.announced.withoutZone⟩, uso⟩ := by
  have complete : ¬ (buildClientPayload cipher laneCount req uso).length < clientPayloadLen := by
    simp [buildClientPayload, clientPayloadLen, encode_addr_slot_length, addrSlotLen]
  rw [parseClientPayload, if_neg complete, if_neg (by simp [buildClientPayload])]
  rw [← slotAt, ← slotAt]
  simp [buildClientPayload, addrSlotLen, encode_addr_slot_length, slot_behind, slot_behind_byte, slot_here, uso_flag_read]

theorem parse_build_server_slots (asg : AssignmentResponse) (uso : Bool) :
    parseServerPayload (buildServerPayload asg uso) = .ok
      ({ asg with
         v4Addr := asg.v4Addr.announced.withoutZone
         v4Peer := asg.v4Peer.announced.withoutZone
         v6Addr := asg.v6Addr.announced.withoutZone
         v6Peer := asg.v6Peer.announced.withoutZone }, uso) := by
  have complete : ¬ (buildServerPayload asg uso).length < serverPayloadLen := by
    simp [buildServerPayload, serverPayloadLen, encode_addr_slot_length, addrSlotLen]
  rw [parseServerPayload, if_neg complete, if_neg (by simp [buildServerPayload])]
  simp [buildServerPayload, addrSlotLen, encode_addr_slot_length, slot_behind, slot_behind_byte, slot_here, uso_flag_read]

theorem parse_build_server (asg : AssignmentResponse) (uso : Bool) (zoneless : asg.Zoneless) :
    parseServerPayload (buildServerPayload asg uso) = .ok (asg.announced, uso) := by
  rw [parse_build_server_slots, AssignmentResponse.announced]
  simp only [announced_zoneless, zoneless.v4Addr, zoneless.v4Peer, zoneless.v6Addr, zoneless.v6Peer]

structure EnvelopeDraw where
  salt : Vector UInt8 obfsSaltLen
  padLen : UInt8
  pad : Vector UInt8 padLen.toNat

inductive SendError where
  | bodyTooLong (length : Nat)
  | random
  | write
deriving DecidableEq, Repr

def SendError.text : SendError → String
  | .bodyTooLong length => "obfs: body " ++ toString length ++ " exceeds max " ++ toString obfsMaxBody
  | .random => "random source failed"
  | .write => "write failed"

def EnvelopeDraw.inner (draw : EnvelopeDraw) (body : Bytes) : Bytes :=
  (Octets.putUint16 body.length ++ Octets.putUint16 draw.padLen.toNat) ++ (body ++ draw.pad.toList)

def EnvelopeDraw.envelope (draw : EnvelopeDraw) (keystream : KeyStream) (key body : Bytes) : Bytes :=
  draw.salt.toList ++ xorKeyStream (keystream key draw.salt.toList) 0 (draw.inner body)

def writeObfMsg (keystream : KeyStream) (key : Bytes) (draw : Option EnvelopeDraw) (written : Bool) (body : Bytes) :
    Except SendError Bytes :=
  if body.length > obfsMaxBody then .error (.bodyTooLong body.length)
  else
    match draw with
    | none => .error .random
    | some drawn =>
        if written then .ok (drawn.envelope keystream key body) else .error .write

theorem xor_key_stream_length (stream : Nat → UInt8) (start : Nat) (bytes : Bytes) :
    (xorKeyStream stream start bytes).length = bytes.length := by
  simp [xorKeyStream]

theorem xor_key_stream_append (stream : Nat → UInt8) (start : Nat) (first second : Bytes) :
    xorKeyStream stream start (first ++ second) =
      xorKeyStream stream start first ++ xorKeyStream stream (start + first.length) second := by
  simp only [xorKeyStream, List.mapIdx_append, Nat.add_assoc, Nat.add_comm first.length]

theorem xor_key_stream_twice (stream : Nat → UInt8) (start : Nat) (bytes : Bytes) :
    xorKeyStream stream start (xorKeyStream stream start bytes) = bytes := by
  apply List.ext_getElem
  · simp [xorKeyStream]
  · intro index inside bound
    simp only [xorKeyStream, List.getElem_mapIdx]
    rw [UInt8.xor_assoc, UInt8.xor_self, UInt8.xor_zero]

theorem write_obf_sent (keystream : KeyStream) (key : Bytes) (draw : Option EnvelopeDraw) (written : Bool) (body wire : Bytes)
    (sent : writeObfMsg keystream key draw written body = .ok wire) :
    body.length ≤ obfsMaxBody ∧ ∃ drawn : EnvelopeDraw, wire = drawn.envelope keystream key body := by
  unfold writeObfMsg at sent
  by_cases long : body.length > obfsMaxBody
  · rw [if_pos long] at sent
    cases sent
  · rw [if_neg long] at sent
    cases draw with
    | none => cases sent
    | some drawn =>
        cases written with
        | false => cases sent
        | true => exact ⟨Nat.le_of_not_gt long, drawn, (Except.ok.inj sent).symm⟩

theorem read_envelope (keystream : KeyStream) (key : Bytes) (draw : EnvelopeDraw) (body rest : Bytes)
    (fits : body.length ≤ obfsMaxBody) :
    readObfMsg keystream key (draw.envelope keystream key body ++ rest) = .ok (body, rest) := by
  have salted : draw.salt.toList.length = obfsSaltLen := draw.salt.length_toList
  have padded : draw.pad.toList.length = draw.padLen.toNat := draw.pad.length_toList
  have bodySize := Octets.get_put_uint16 body.length (Nat.lt_of_le_of_lt fits (by decide))
  have padSize := Octets.get_put_uint16 draw.padLen.toNat (Nat.lt_trans draw.padLen.toNat_lt (by decide))
  let stream := keystream key draw.salt.toList
  let header := Octets.putUint16 body.length ++ Octets.putUint16 draw.padLen.toNat
  have four : (xorKeyStream stream 0 header).length = 4 := xor_key_stream_length stream 0 header
  have split : draw.envelope keystream key body ++ rest = draw.salt.toList ++
      (xorKeyStream stream 0 header ++ (xorKeyStream stream 4 (body ++ draw.pad.toList) ++ rest)) := by
    rw [EnvelopeDraw.envelope, EnvelopeDraw.inner, xor_key_stream_append]
    simp [header, stream, Octets.putUint16]
  have tail : (xorKeyStream stream 4 (body ++ draw.pad.toList)).length = body.length + draw.padLen.toNat := by
    rw [xor_key_stream_length, List.length_append, padded]
  rw [split, readObfMsg]
  simp only [List.take_left' salted, List.drop_left' salted, List.take_left' four, List.drop_left' four]
  simp only [stream, header, xor_key_stream_twice, Octets.putUint16, List.cons_append, List.nil_append, bodySize, padSize]
  rw [if_neg (Nat.not_lt.mpr fits), if_neg (by rw [List.length_append, tail]; omega), List.take_left' tail,
    List.drop_left' tail, xor_key_stream_twice, List.take_left]

theorem read_write_obf (keystream : KeyStream) (key : Bytes) (draw : Option EnvelopeDraw) (written : Bool)
    (body wire rest : Bytes) (sent : writeObfMsg keystream key draw written body = .ok wire) :
    readObfMsg keystream key (wire ++ rest) = .ok (body, rest) := by
  obtain ⟨fits, drawn, rfl⟩ := write_obf_sent keystream key draw written body wire sent
  exact read_envelope keystream key drawn body rest fits

end Packethose
