import Packethose.Lib.Streams
import Packethose.HandshakeMessages
import Packethose.LaneSend

set_option autoImplicit false

namespace Packethose

inductive StreamError where
  | read (shortage : Streams.Shortage)
  | bodyTooLong (length : Nat)
deriving DecidableEq, Repr

def StreamError.envelope : StreamError → EnvelopeError
  | .read _ => .shortRead
  | .bodyTooLong length => .bodyTooLong length

def readObfBody (stream : Nat → UInt8) (hdr : Bytes) : Streams.Reader StreamError Bytes :=
  let plain := xorKeyStream stream 0 hdr
  let bodyLen := Octets.getUint16 (plain.getD 0 0) (plain.getD 1 0)
  let padLen := Octets.getUint16 (plain.getD 2 0) (plain.getD 3 0)
  if bodyLen > obfsMaxBody then Streams.fail (.bodyTooLong bodyLen)
  else
    Streams.andThen (Streams.readFull .read (bodyLen + padLen)) fun buf =>
      Streams.done ((xorKeyStream stream 4 buf).take bodyLen)

def readObfMsgFrom (keystream : KeyStream) (key : Bytes) : Streams.Reader StreamError Bytes :=
  Streams.andThen (Streams.readFull .read obfsSaltLen) fun salt =>
    Streams.andThen (Streams.readFull .read 4) fun hdr => readObfBody (keystream key salt) hdr

-- writeObfMsg on a connection that has already carried out. A failed write may
-- have put some of the bytes on it.
def writeObfMsgTo (keystream : KeyStream) (key : Bytes) (draw : Option EnvelopeDraw) (conn : WriteResult) (body out : Bytes) :
    Except SendError Unit × Bytes :=
  if body.length > obfsMaxBody then (.error (.bodyTooLong body.length), out)
  else
    match draw with
    | none => (.error .random, out)
    | some drawn =>
        match conn with
        | .written => (.ok (), out ++ drawn.envelope keystream key body)
        | .failed taken => (.error .write, out ++ (drawn.envelope keystream key body).take taken)

theorem write_obf_msg_to_sent (keystream : KeyStream) (key : Bytes) (draw : Option EnvelopeDraw) (conn : WriteResult)
    (body : Bytes) :
    writeObfMsg keystream key draw (conn == .written) body =
      (writeObfMsgTo keystream key draw conn body []).1.map fun _ => (writeObfMsgTo keystream key draw conn body []).2 := by
  unfold writeObfMsg writeObfMsgTo
  by_cases long : body.length > obfsMaxBody
  · rw [if_pos long, if_pos long]
    rfl
  · rw [if_neg long, if_neg long]
    cases draw with
    | none => rfl
    | some drawn => cases conn <;> rfl

theorem write_obf_msg_to_written (keystream : KeyStream) (key : Bytes) (drawn : EnvelopeDraw) (body out : Bytes)
    (fits : body.length ≤ obfsMaxBody) :
    writeObfMsgTo keystream key (some drawn) .written body out = (.ok (), out ++ drawn.envelope keystream key body) := by
  rw [writeObfMsgTo, if_neg (Nat.not_lt.mpr fits)]

def oneStep : Except StreamError Bytes × Bytes → Except EnvelopeError (Bytes × Bytes)
  | (.ok body, rest) => .ok (body, rest)
  | (.error problem, _) => .error problem.envelope

theorem read_obf_body_result (stream : Nat → UInt8) (hdr tail : Bytes) (bodyHigh bodyLow padHigh padLow : UInt8)
    (plain : xorKeyStream stream 0 hdr = [bodyHigh, bodyLow, padHigh, padLow]) :
    oneStep (readObfBody stream hdr tail) =
      if Octets.getUint16 bodyHigh bodyLow > obfsMaxBody then .error (.bodyTooLong (Octets.getUint16 bodyHigh bodyLow))
      else if tail.length < Octets.getUint16 bodyHigh bodyLow + Octets.getUint16 padHigh padLow then .error .shortRead
      else .ok
        ((xorKeyStream stream 4 (tail.take (Octets.getUint16 bodyHigh bodyLow + Octets.getUint16 padHigh padLow))).take
          (Octets.getUint16 bodyHigh bodyLow),
          tail.drop (Octets.getUint16 bodyHigh bodyLow + Octets.getUint16 padHigh padLow)) := by
  simp only [readObfBody, plain, List.getD_cons_zero, List.getD_cons_succ]
  by_cases long : Octets.getUint16 bodyHigh bodyLow > obfsMaxBody
  · rw [if_pos long, if_pos long]
    rfl
  · rw [if_neg long, if_neg long]
    by_cases short : tail.length < Octets.getUint16 bodyHigh bodyLow + Octets.getUint16 padHigh padLow
    · obtain ⟨shortage, failed⟩ := Streams.read_full_short StreamError.read tail _ short
      rw [if_pos short, Streams.and_then_error _ _ _ _ _ failed]
      rfl
    · rw [if_neg short, Streams.andThen, Streams.readFull, if_pos (Nat.le_of_not_lt short)]
      rfl

theorem four_bytes (bytes : Bytes) (four : bytes.length = 4) : ∃ first second third fourth, bytes = [first, second, third, fourth] :=
  match bytes, four with
  | [first, second, third, fourth], _ => ⟨first, second, third, fourth, rfl⟩

theorem read_obf_msg_from_result (keystream : KeyStream) (key input : Bytes) :
    readObfMsg keystream key input = oneStep (readObfMsgFrom keystream key input) := by
  have wide := xor_key_stream_length (keystream key (input.take obfsSaltLen)) 0 ((input.drop obfsSaltLen).take 4)
  by_cases headed : 4 ≤ (input.drop obfsSaltLen).length
  · have salted : obfsSaltLen ≤ input.length := by
      rw [List.length_drop] at headed
      omega
    rw [List.length_take_of_le headed] at wide
    obtain ⟨bodyHigh, bodyLow, padHigh, padLow, plain⟩ := four_bytes _ wide
    simp only [readObfMsg, readObfMsgFrom, Streams.andThen, Streams.readFull, if_pos salted, if_pos headed, plain,
      read_obf_body_result _ _ _ _ _ _ _ plain]
  · have short : ((input.drop obfsSaltLen).take 4).length < 4 := by
      rw [List.length_take]
      omega
    have closed : oneStep (readObfMsgFrom keystream key input) = .error .shortRead := by
      by_cases salted : obfsSaltLen ≤ input.length
      · obtain ⟨shortage, failed⟩ :=
          Streams.read_full_short StreamError.read (input.drop obfsSaltLen) 4 (Nat.lt_of_not_le headed)
        rw [readObfMsgFrom, Streams.andThen, Streams.readFull, if_pos salted]
        dsimp only
        rw [Streams.and_then_error _ _ _ _ _ failed]
        rfl
      · obtain ⟨shortage, failed⟩ := Streams.read_full_short StreamError.read input obfsSaltLen (Nat.lt_of_not_le salted)
        rw [readObfMsgFrom, Streams.and_then_error _ _ _ _ _ failed]
        rfl
    rw [closed, readObfMsg]
    dsimp only
    split
    · rename_i bodyHigh bodyLow padHigh padLow plain
      rw [plain, List.length_cons, List.length_cons, List.length_cons, List.length_cons, List.length_nil] at wide
      omega
    · rfl

theorem read_obf_msg_from_envelope (keystream : KeyStream) (key : Bytes) (drawn : EnvelopeDraw) (body rest : Bytes)
    (fits : body.length ≤ obfsMaxBody) :
    readObfMsgFrom keystream key (drawn.envelope keystream key body ++ rest) = (.ok body, rest) := by
  have result := read_obf_msg_from_result keystream key (drawn.envelope keystream key body ++ rest)
  rw [read_envelope keystream key drawn body rest fits] at result
  cases read : readObfMsgFrom keystream key (drawn.envelope keystream key body ++ rest) with
  | mk outcome unread =>
      rw [read] at result
      cases outcome with
      | ok found =>
          cases result
          rfl
      | error problem => cases result

theorem read_obf_body_takes (stream : Nat → UInt8) (hdr : Bytes) :
    Streams.Takes (readObfBody stream hdr) (obfsMaxBody + 65535) := by
  intro tail
  rw [readObfBody]
  split_ifs with long
  · exact ⟨[], rfl, Nat.zero_le _⟩
  · have padding := Octets.get_uint16_lt ((xorKeyStream stream 0 hdr).getD 2 0) ((xorKeyStream stream 0 hdr).getD 3 0)
    obtain ⟨taken, split, few⟩ := Streams.and_then_takes _ _ _ 0 (Streams.read_full_takes StreamError.read _)
      (fun _ => Streams.done_takes _) tail
    exact ⟨taken, split, by omega⟩

theorem read_obf_msg_from_takes (keystream : KeyStream) (key : Bytes) :
    Streams.Takes (readObfMsgFrom keystream key) (obfsSaltLen + (4 + (obfsMaxBody + 65535))) := by
  apply Streams.and_then_takes _ _ _ _ (Streams.read_full_takes _ _)
  intro salt
  apply Streams.and_then_takes _ _ _ _ (Streams.read_full_takes _ _)
  intro hdr
  exact read_obf_body_takes (keystream key salt) hdr

def sendMessages (keystream : KeyStream) (key : Bytes) (messages : List (EnvelopeDraw × Bytes)) (out : Bytes) : Bytes :=
  messages.foldl (fun carried message => (writeObfMsgTo keystream key (some message.1) .written message.2 carried).2) out

theorem send_messages_envelopes (keystream : KeyStream) (key : Bytes) (messages : List (EnvelopeDraw × Bytes))
    (fits : ∀ message ∈ messages, message.2.length ≤ obfsMaxBody) (out : Bytes) :
    sendMessages keystream key messages out =
      out ++ messages.flatMap fun message => message.1.envelope keystream key message.2 := by
  induction messages generalizing out with
  | nil => exact (List.append_nil out).symm
  | cons message rest ih =>
      have first := write_obf_msg_to_written keystream key message.1 message.2 out (fits message (by simp))
      rw [sendMessages, List.foldl_cons, first, ← sendMessages, ih fun other member => fits other (by simp [member])]
      rw [List.flatMap_cons, List.append_assoc]

theorem envelope_exchange (keystream : KeyStream) (key : Bytes) :
    (∀ (drawn : EnvelopeDraw) (body rest : Bytes), body.length ≤ obfsMaxBody →
      ∃ wire, writeObfMsgTo keystream key (some drawn) .written body [] = (.ok (), wire) ∧
        readObfMsgFrom keystream key (wire ++ rest) = (.ok body, rest)) ∧
    (∀ (messages : List (EnvelopeDraw × Bytes)) (frames : Bytes), (∀ message ∈ messages, message.2.length ≤ obfsMaxBody) →
      Streams.repeated (readObfMsgFrom keystream key) messages.length (sendMessages keystream key messages [] ++ frames) =
        (.ok (messages.map Prod.snd), frames)) ∧
    (∀ (draw : Option EnvelopeDraw) (conn : WriteResult) (body out : Bytes), body.length > obfsMaxBody →
      writeObfMsgTo keystream key draw conn body out = (.error (.bodyTooLong body.length), out)) ∧
    ∀ input, ∃ consumed, input = consumed ++ (readObfMsgFrom keystream key input).2 ∧ consumed.length ≤ 20 + 4096 + 65535 := by
  refine ⟨fun drawn body rest fits => ?_, fun messages frames fits => ?_, fun draw conn body out long => ?_, fun input => ?_⟩
  · refine ⟨drawn.envelope keystream key body, ?_, read_obf_msg_from_envelope keystream key drawn body rest fits⟩
    rw [write_obf_msg_to_written keystream key drawn body [] fits, List.nil_append]
  · rw [send_messages_envelopes keystream key messages fits, List.nil_append]
    exact Streams.repeated_reads _ _ _ messages
      (fun message member rest => read_obf_msg_from_envelope keystream key message.1 message.2 rest (fits message member)) frames
  · exact if_pos long
  · obtain ⟨consumed, split, few⟩ := read_obf_msg_from_takes keystream key input
    exact ⟨consumed, split, few⟩

def paddedDraw : EnvelopeDraw := ⟨Vector.replicate 16 0x11, 2, Vector.replicate (2 : UInt8).toNat 0x33⟩

theorem envelope_exchange_two_messages :
    Streams.repeated (readObfMsgFrom (fun _ _ _ => 0x5A) [7]) 2
      (sendMessages (fun _ _ _ => 0x5A) [7] [(paddedDraw, [1, 2]), (paddedDraw, [])] [] ++ [0, 0, 1, 9]) =
      (.ok [[1, 2], []], [0, 0, 1, 9]) :=
  (envelope_exchange (fun _ _ _ => 0x5A) [7]).2.1 [(paddedDraw, [1, 2]), (paddedDraw, [])] [0, 0, 1, 9]
    (by simp [obfsMaxBody])

end Packethose
