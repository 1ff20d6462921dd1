import Packethose.LaneReceive

set_option autoImplicit false

namespace Packethose

-- What a stream is made of in front of its unfinished end: frames of length
-- zero, which carry nothing, and frames with a payload.
inductive WireItem where
  | skipped (typ : UInt8)
  | framed (frame : Frame)

def itemBytes (aead : Option AEAD) : Nat → List WireItem → Bytes
  | _, [] => []
  | count, .skipped typ :: rest => frameBytes typ [] ++ itemBytes aead count rest
  | count, .framed frame :: rest =>
      frameBytes frame.typ (bodyOf aead count frame.payload) ++ itemBytes aead (count + 1) rest

structure Authentic (aead : Option AEAD) (count : Nat) (payload : Bytes) : Prop where
  opens : payloadOf aead count (bodyOf aead count payload) = some payload
  nonempty : 0 < (bodyOf aead count payload).length
  narrow : (bodyOf aead count payload).length < 65536

def AuthenticItems (aead : Option AEAD) : Nat → List WireItem → Prop
  | _, [] => True
  | count, .skipped _ :: rest => AuthenticItems aead count rest
  | count, .framed frame :: rest => Authentic aead count frame.payload ∧ AuthenticItems aead (count + 1) rest

def Unfinished : Bytes → Prop
  | _ :: high :: low :: rest => 0 < Octets.getUint16 high low ∧ rest.length < Octets.getUint16 high low
  | _ => True

def Whole (units : List Bytes) : Prop := ∀ bytes ∈ units, bytes.length < 65536

inductive Frame.Carries (frame : Frame) : List Bytes → Prop where
  | single (typ : frame.typ = frTypeSingle) : Frame.Carries frame [frame.payload]
  | batch (units : List Bytes) (typ : frame.typ = frTypeBatch) (whole : Whole units)
      (payload : frame.payload = Units.encode units) : Frame.Carries frame units

inductive Frame.Fault (frame : Frame) : List Bytes → Prop where
  | unknownType (single : frame.typ ≠ frTypeSingle) (batch : frame.typ ≠ frTypeBatch) : Frame.Fault frame []
  | overrun (units : List Bytes) (rest : Bytes) (typ : frame.typ = frTypeBatch) (whole : Whole units)
      (payload : frame.payload = Units.encode units ++ rest) (past : Units.Overrunning rest) : Frame.Fault frame units
  | leftover (units : List Bytes) (byte : UInt8) (typ : frame.typ = frTypeBatch) (whole : Whole units)
      (payload : frame.payload = Units.encode units ++ [byte]) : Frame.Fault frame units

inductive ItemsCarry : List WireItem → List Bytes → Prop where
  | nil : ItemsCarry [] []
  | skipped (typ : UInt8) (rest : List WireItem) (units : List Bytes) (later : ItemsCarry rest units) :
      ItemsCarry (.skipped typ :: rest) units
  | framed (frame : Frame) (rest : List WireItem) (first units : List Bytes) (carries : frame.Carries first)
      (later : ItemsCarry rest units) : ItemsCarry (.framed frame :: rest) (first ++ units)

theorem split_overrunning (rest : Bytes) (past : Units.Overrunning rest) : Units.split rest = ([], false) := by
  obtain ⟨high, low, more, rfl, excess⟩ := past
  exact Units.split_malformed high low more excess

theorem frame_cases (frame : Frame) :
    (∃ units, frame.Carries units) ∨ ∃ lead, frame.Fault lead := by
  by_cases single : frame.typ = frTypeSingle
  · exact .inl ⟨_, .single single⟩
  · by_cases batch : frame.typ = frTypeBatch
    · obtain ⟨rest, divided, whole, ⟨_, short⟩ | ⟨_, past⟩⟩ := Units.split_division frame.payload
      · match rest with
        | [] => exact .inl ⟨_, .batch _ batch whole (divided.trans (List.append_nil _))⟩
        | [byte] => exact .inr ⟨_, .leftover _ byte batch whole divided⟩
        | high :: low :: more => exact absurd short (by simp)
      · exact .inr ⟨_, .overrun _ rest batch whole divided past⟩
    · exact .inr ⟨[], .unknownType single batch⟩

theorem carries_units (frame : Frame) (units : List Bytes) (carries : frame.Carries units) : frame.units = (units, true) := by
  cases carries with
  | single typ => rw [Frame.units, if_neg (by rw [typ]; decide)]
  | batch _ typ whole payload => rw [Frame.units, if_pos typ, payload, Units.split_encode units whole]

-- sockToTun passes over two of the three faults.
def Frame.Overruns (frame : Frame) : Prop :=
  frame.typ = frTypeBatch ∧ ∃ units rest, Whole units ∧ frame.payload = Units.encode units ++ rest ∧ Units.Overrunning rest

theorem overrun_units (frame : Frame) (units : List Bytes) (rest : Bytes) (typ : frame.typ = frTypeBatch) (whole : Whole units)
    (payload : frame.payload = Units.encode units ++ rest) (past : Units.Overrunning rest) : frame.units = (units, false) := by
  rw [Frame.units, if_pos typ, payload, Units.split_append units rest whole, split_overrunning rest past, List.append_nil]

theorem leftover_units (frame : Frame) (units : List Bytes) (byte : UInt8) (typ : frame.typ = frTypeBatch) (whole : Whole units)
    (payload : frame.payload = Units.encode units ++ [byte]) : frame.units = (units, true) := by
  rw [Frame.units, if_pos typ, payload, Units.split_append units [byte] whole, Units.split_short [byte] (by simp), List.append_nil]

theorem unknown_units (frame : Frame) (batch : frame.typ ≠ frTypeBatch) : frame.units = ([frame.payload], true) := by
  rw [Frame.units, if_neg batch]

def LaneEvent.isHeader : LaneEvent → Bool
  | .header _ _ => true
  | _ => false

def LaneExit.byFrame : LaneExit → Bool
  | .eof | .shortHeader | .shortBody => false
  | .oversize _ | .aeadOpen | .malformedBatch | .tunWrite => true

namespace Receiver

def headersRead (r : Receiver) : Nat := r.events.countP LaneEvent.isHeader

theorem headers_log (r : Receiver) (entries : List LaneEvent) :
    (r.log entries).headersRead = r.headersRead + entries.countP LaneEvent.isHeader := by
  simp [headersRead, log]

theorem headers_wrote (r : Receiver) (packets : List Bytes) : (r.log (packets.map .wrote)).headersRead = r.headersRead := by
  rw [headers_log, List.countP_eq_zero.mpr, Nat.add_zero]
  intro event member
  obtain ⟨packet, _, rfl⟩ := List.mem_map.mp member
  exact Bool.false_ne_true

theorem accept_headers (r : Receiver) (body : Bytes) : (r.accept body).1.headersRead = r.headersRead := by
  unfold accept
  split
  · rfl
  · simp [headersRead, LaneEvent.isHeader]

section Stream

variable (tun : Nat → TunWrite) (alive : ∀ write, tun write ≠ .fatal) (aead : Option AEAD)

theorem skip_item (r : Receiver) (typ : UInt8) (rest : Bytes) :
    r.sockToTun tun (frameBytes typ [] ++ rest) = (r.log [.header typ 0]).sockToTun tun rest := by
  have empty : Octets.getUint16 (UInt8.ofNat (0 / 256)) (UInt8.ofNat 0) = 0 := by decide
  simp only [frameBytes, Octets.putUint16, List.length_nil, List.append_nil, List.cons_append, List.nil_append]
  rw [sockToTun]
  simp only [empty, if_true]

include alive

theorem take_frame (count : Nat) (frame : Frame) (units : List Bytes) (goesOn : Bool) (divides : frame.units = (units, goesOn))
    (authentic : Authentic aead count frame.payload) (r : Receiver) (direction : DirectionAfter aead count r.opener) :
    ∃ next : Receiver, next.writes = r.writes ++ units ∧ next.headersRead = r.headersRead + 1 ∧
      DirectionAfter aead (count + 1) next.opener ∧
      ∀ rest, r.sockToTun tun (frameBytes frame.typ (bodyOf aead count frame.payload) ++ rest) =
        if goesOn then next.sockToTun tun rest else (next, .malformedBatch) := by
  let body := bodyOf aead count frame.payload
  let seen := r.log [.header frame.typ body.length]
  obtain ⟨accepted, advanced⟩ := accept_after aead count seen direction body
  rw [authentic.opens] at accepted
  refine ⟨(seen.accept body).1.log (units.map .wrote), ?_, ?_, advanced, fun rest => ?_⟩
  · rw [writes_wrote, accept_writes, writes_log]
    simp [LaneEvent.written]
  · rw [headers_wrote, accept_headers, headers_log]
    rfl
  · rw [sock_to_tun_frame tun r frame.typ body rest authentic.nonempty authentic.narrow,
      receive_frame_alive tun alive seen frame.typ body frame.payload accepted, divides]
    cases goesOn <;> rfl

theorem carry_items (items later : List WireItem) (units : List Bytes) (tail : Bytes) (carry : ItemsCarry items units)
    (count : Nat) (authentic : AuthenticItems aead count (items ++ later)) (r : Receiver)
    (direction : DirectionAfter aead count r.opener) :
    ∃ (next : Receiver) (count' : Nat), next.writes = r.writes ++ units ∧ next.headersRead = r.headersRead + items.length ∧
      DirectionAfter aead count' next.opener ∧ AuthenticItems aead count' later ∧
      r.sockToTun tun (itemBytes aead count (items ++ later) ++ tail) =
        next.sockToTun tun (itemBytes aead count' later ++ tail) := by
  induction carry generalizing count r with
  | nil => exact ⟨r, count, by simp, by simp, direction, authentic, rfl⟩
  | skipped typ rest units carry ih =>
      obtain ⟨next, count', written, headers, after, remaining, run⟩ := ih count authentic (r.log [.header typ 0]) direction
      refine ⟨next, count', ?_, ?_, after, remaining, ?_⟩
      · rw [written, writes_log]
        simp [LaneEvent.written]
      · rw [headers, headers_log, List.length_cons]
        simp only [List.countP_singleton, LaneEvent.isHeader, if_true]
        omega
      · rw [List.cons_append, itemBytes, List.append_assoc, skip_item, run]
  | framed frame rest first units carries carry ih =>
      obtain ⟨middle, wrote, header, advanced, taken⟩ := take_frame tun alive aead count frame first true
        (carries_units frame first carries) authentic.1 r direction
      obtain ⟨next, count', written, headers, after, remaining, run⟩ := ih (count + 1) authentic.2 middle advanced
      refine ⟨next, count', by rw [written, wrote, List.append_assoc], ?_, after, remaining, ?_⟩
      · rw [headers, header, List.length_cons]
        omega
      · rw [List.cons_append, itemBytes, List.append_assoc, taken, if_pos rfl, run]

omit alive

theorem unfinished_end (r : Receiver) (tail : Bytes) (unfinished : Unfinished tail) :
    (r.sockToTun tun tail).1.writes = r.writes ∧ (r.sockToTun tun tail).2.byFrame = false := by
  match tail with
  | [] => rw [sockToTun]; exact ⟨rfl, rfl⟩
  | [typ] => rw [sockToTun]; exacts [⟨rfl, rfl⟩, by simp, by simp]
  | [typ, high] => rw [sockToTun]; exacts [⟨rfl, rfl⟩, by simp, by simp]
  | typ :: high :: low :: rest =>
      have width := Octets.get_uint16_lt high low
      rw [sockToTun]
      simp only [if_neg (Nat.pos_iff_ne_zero.mp unfinished.1), if_pos unfinished.2,
        if_neg (show ¬ Octets.getUint16 high low > maxPkt + aeadMax by unfold maxPkt aeadMax; omega)]
      exact ⟨by simp [writes_log, LaneEvent.written], rfl⟩

theorem receive_frame_events (r : Receiver) (typ : UInt8) (body : Bytes) :
    r.events <+: (r.receiveFrame tun typ body).1.events := by
  have opened : r.events <+: (r.accept body).1.events := by
    unfold accept
    split
    · exact List.prefix_refl _
    · exact List.prefix_append _ _
  cases accepted : (r.accept body).2 with
  | none =>
      rw [receive_frame_refused tun r typ body accepted]
      exact opened
  | some payload =>
      obtain ⟨packets, _, logged, _⟩ := receive_frame_opened tun r typ body payload accepted
      rw [logged]
      exact opened.trans (List.prefix_append _ _)

theorem sock_to_tun_events (r : Receiver) (stream : Bytes) : r.events <+: (r.sockToTun tun stream).1.events := by
  refine sock_to_tun_rule tun (fun now => r.events <+: now.events) (fun now => r.events <+: now.events) (fun _ held => held)
    (fun now typ size held => held.trans (List.prefix_append _ _)) (fun now typ body held => ?_) stream r (List.prefix_refl _)
  have grown := held.trans (receive_frame_events tun now typ body)
  exact ⟨fun _ => grown, grown⟩

theorem sock_to_tun_header (r : Receiver) (typ high low : UInt8) (rest : Bytes) :
    (r.log [.header typ (Octets.getUint16 high low)]).events <+: (r.sockToTun tun (typ :: high :: low :: rest)).1.events := by
  rw [sockToTun]
  split_ifs with empty oversize short
  · exact sock_to_tun_events tun _ rest
  · exact List.prefix_refl _
  · exact List.prefix_refl _
  · have grown := receive_frame_events tun (r.log [.header typ (Octets.getUint16 high low)]) typ
      (rest.take (Octets.getUint16 high low))
    split
    · rename_i next taken
      rw [taken] at grown
      exact grown.trans (sock_to_tun_events tun next _)
    · rename_i next exit taken
      rw [taken] at grown
      exact grown

theorem events_writes (first second : Receiver) (grown : first.events <+: second.events) : first.writes <+: second.writes :=
  grown.filterMap LaneEvent.written

theorem events_headers (first second : Receiver) (grown : first.events <+: second.events) :
    first.headersRead ≤ second.headersRead :=
  grown.sublist.countP_le

theorem reads_on (r : Receiver) (stream : Bytes) :
    (r.sockToTun tun stream).2.byFrame = false ∨ r.headersRead < (r.sockToTun tun stream).1.headersRead := by
  match stream with
  | [] => rw [sockToTun]; exact .inl rfl
  | [typ] => rw [sockToTun]; exacts [.inl rfl, by simp, by simp]
  | [typ, high] => rw [sockToTun]; exacts [.inl rfl, by simp, by simp]
  | typ :: high :: low :: rest =>
      have counted := events_headers _ _ (sock_to_tun_header tun r typ high low rest)
      rw [headers_log] at counted
      exact .inr counted

end Stream

-- The inner loop of sockToTun with every slice checked against the payload:
-- none is a read outside it, or a loop that has not come to its end.
def sliceTo (bytes : Bytes) (stop : Nat) : Option Bytes := if stop ≤ bytes.length then some (bytes.take stop) else none

def sliceFrom (bytes : Bytes) (start : Nat) : Option Bytes := if start ≤ bytes.length then some (bytes.drop start) else none

def splitBatchChecked (tun : Nat → TunWrite) : Nat → Receiver → Bytes → Option (Receiver × Option LaneExit)
  | 0, _, _ => none
  | fuel + 1, r, pt =>
      if 2 ≤ pt.length then
        (sliceTo pt 2).bind fun field =>
          (sliceFrom pt 2).bind fun rest =>
            let l := Octets.getUint16 (field.getD 0 0) (field.getD 1 0)
            if l > rest.length then some (r, some .malformedBatch)
            else
              (sliceTo rest l).bind fun unit =>
                match r.writeTun tun unit with
                | (next, true) => (sliceFrom rest l).bind fun later => splitBatchChecked tun fuel next later
                | (next, false) => some (next, some .tunWrite)
      else some (r, none)

theorem split_batch_checked (tun : Nat → TunWrite) (r : Receiver) (payload : Bytes) (fuel : Nat)
    (enough : payload.length < fuel) : splitBatchChecked tun fuel r payload = some (r.splitBatch tun payload) := by
  induction fuel generalizing r payload with
  | zero => exact absurd enough (by omega)
  | succ fuel ih =>
      match payload with
      | [] => rw [splitBatch]; exacts [rfl, by simp]
      | [byte] => rw [splitBatch]; exacts [rfl, by simp]
      | high :: low :: rest =>
          rw [splitBatch, splitBatchChecked, if_pos (by simp)]
          simp only [sliceTo, sliceFrom, List.length_cons, if_pos (show 2 ≤ rest.length + 1 + 1 by omega), Option.bind_some,
            List.take_succ_cons, List.take_zero, List.drop_succ_cons, List.drop_zero, List.getD_cons_zero, List.getD_cons_succ]
          by_cases past : Octets.getUint16 high low > rest.length
          · rw [if_pos past, if_pos past]
          · have inside : Octets.getUint16 high low ≤ rest.length := by omega
            simp only [if_neg past, if_pos inside, Option.bind_some]
            generalize r.writeTun tun (rest.take (Octets.getUint16 high low)) = wrote
            obtain ⟨next, taken⟩ := wrote
            cases taken with
            | true =>
                apply ih
                simp only [List.length_drop, List.length_cons] at enough ⊢
                omega
            | false => rfl

end Receiver

structure Follows (items : List WireItem) (result : Receiver × LaneExit) : Prop where
  grammatical : ∀ units, ItemsCarry items units → result.1.writes = units ∧ result.2.byFrame = false
  faulty : ∀ good bad rest units lead, items = good ++ .framed bad :: rest → ItemsCarry good units → bad.Fault lead →
    result.1.writes = units ++ lead ∧ result.1.headersRead = good.length + 1 ∧ result.2.byFrame = true

def FirstFaultOverruns (items : List WireItem) : Prop :=
  ∀ good bad rest units lead, items = good ++ .framed bad :: rest → ItemsCarry good units → bad.Fault lead → bad.Overruns

theorem fault_overrun_or_passed (frame : Frame) (lead : List Bytes) (fault : frame.Fault lead) :
    frame.units = (lead, false) ∧ frame.Overruns ∨
      ∃ units, frame.units = (units, true) := by
  cases fault with
  | unknownType single batch => exact .inr ⟨_, unknown_units frame batch⟩
  | overrun _ rest typ whole payload past =>
      exact .inl ⟨overrun_units frame lead rest typ whole payload past, typ, lead, rest, whole, payload, past⟩
  | leftover _ byte typ whole payload => exact .inr ⟨lead, leftover_units frame lead byte typ whole payload⟩

theorem overruns_units (frame : Frame) (overruns : frame.Overruns) : frame.units.2 = false := by
  obtain ⟨typ, units, rest, whole, payload, past⟩ := overruns
  rw [overrun_units frame units rest typ whole payload past]

section Streams

variable (tun : Nat → TunWrite) (alive : ∀ write, tun write ≠ .fatal) (aead : Option AEAD) (items : List WireItem)
  (tail : Bytes) (authentic : AuthenticItems aead 0 items)

include alive authentic

theorem follows_grammatical (unfinished : Unfinished tail) (units : List Bytes) (carry : ItemsCarry items units) :
    ((Receiver.fresh aead).sockToTun tun (itemBytes aead 0 items ++ tail)).1.writes = units ∧
      ((Receiver.fresh aead).sockToTun tun (itemBytes aead 0 items ++ tail)).2.byFrame = false := by
  obtain ⟨next, count, written, _, _, _, run⟩ := Receiver.carry_items tun alive aead items [] units tail carry 0
    (by rwa [List.append_nil]) (Receiver.fresh aead) (direction_fresh aead)
  rw [List.append_nil] at run
  rw [run, itemBytes, List.nil_append]
  obtain ⟨kept, natural⟩ := Receiver.unfinished_end tun next tail unfinished
  exact ⟨kept.trans written, natural⟩

theorem first_fault (good rest : List WireItem) (bad : Frame) (units packets : List Bytes) (goesOn : Bool)
    (split : items = good ++ .framed bad :: rest) (carry : ItemsCarry good units) (divides : bad.units = (packets, goesOn)) :
    ∃ next : Receiver, next.writes = units ++ packets ∧ next.headersRead = good.length + 1 ∧
      ∃ later, (Receiver.fresh aead).sockToTun tun (itemBytes aead 0 items ++ tail) =
        if goesOn then next.sockToTun tun later else (next, .malformedBatch) := by
  subst split
  obtain ⟨middle, count, written, headers, direction, remaining, run⟩ := Receiver.carry_items tun alive aead good _ units tail
    carry 0 authentic (Receiver.fresh aead) (direction_fresh aead)
  obtain ⟨next, wrote, header, _, taken⟩ :=
    Receiver.take_frame tun alive aead count bad packets goesOn divides remaining.1 middle direction
  refine ⟨next, ?_, ?_, itemBytes aead (count + 1) rest ++ tail, ?_⟩
  · rw [wrote, written]
    rfl
  · rw [header, headers]
    simp [Receiver.fresh, Receiver.headersRead]
  · rw [run, itemBytes, List.append_assoc, taken]

theorem follows_iff (unfinished : Unfinished tail) :
    Follows items ((Receiver.fresh aead).sockToTun tun (itemBytes aead 0 items ++ tail)) ↔ FirstFaultOverruns items := by
  constructor
  · intro follows good bad rest units lead split carry fault
    obtain ⟨written, headers, ended⟩ := follows.faulty good bad rest units lead split carry fault
    rcases fault_overrun_or_passed bad lead fault with ⟨_, overruns⟩ | ⟨packets, divides⟩
    · exact overruns
    · -- The lane goes on behind the frame, so it cannot end there.
      obtain ⟨next, wrote, header, later, run⟩ :=
        first_fault tun alive aead items tail authentic good rest bad units packets true split carry divides
      rw [run, if_pos rfl] at written headers ended
      rcases Receiver.reads_on tun next later with natural | further
      · exact absurd (natural.symm.trans ended) Bool.false_ne_true
      · omega
  · intro overruns
    refine ⟨fun units carry => follows_grammatical tun alive aead items tail authentic unfinished units carry, ?_⟩
    intro good bad rest units lead split carry fault
    rcases fault_overrun_or_passed bad lead fault with ⟨divides, _⟩ | ⟨packets, divides⟩
    · obtain ⟨next, wrote, header, later, run⟩ :=
        first_fault tun alive aead items tail authentic good rest bad units lead false split carry divides
      rw [run, if_neg Bool.false_ne_true]
      exact ⟨wrote, header, rfl⟩
    · have stopped := overruns_units bad (overruns good bad rest units lead split carry fault)
      rw [divides] at stopped
      cases stopped

end Streams

theorem open_stream (stream : Bytes) :
    ∃ items tail, ∀ count, stream = itemBytes none count items ++ tail ∧ AuthenticItems none count items ∧ Unfinished tail := by
  match stream with
  | [] => exact ⟨[], [], fun _ => ⟨rfl, trivial, trivial⟩⟩
  | [typ] => exact ⟨[], [typ], fun _ => ⟨rfl, trivial, trivial⟩⟩
  | [typ, high] => exact ⟨[], [typ, high], fun _ => ⟨rfl, trivial, trivial⟩⟩
  | typ :: high :: low :: rest =>
      have field := Octets.put_get_uint16 high low
      by_cases empty : Octets.getUint16 high low = 0
      · obtain ⟨items, tail, spelled⟩ := open_stream rest
        refine ⟨.skipped typ :: items, tail, fun count => ?_⟩
        obtain ⟨bytes, authentic, unfinished⟩ := spelled count
        refine ⟨?_, authentic, unfinished⟩
        rw [empty] at field
        simp [itemBytes, frameBytes, field, ← bytes]
      · by_cases short : rest.length < Octets.getUint16 high low
        · exact ⟨[], typ :: high :: low :: rest, fun _ => ⟨rfl, trivial, Nat.pos_of_ne_zero empty, short⟩⟩
        · obtain ⟨items, tail, spelled⟩ := open_stream (rest.drop (Octets.getUint16 high low))
          have length : (rest.take (Octets.getUint16 high low)).length = Octets.getUint16 high low :=
            List.length_take_of_le (Nat.le_of_not_gt short)
          refine ⟨.framed ⟨typ, rest.take (Octets.getUint16 high low)⟩ :: items, tail, fun count => ?_⟩
          obtain ⟨bytes, authentic, unfinished⟩ := spelled (count + 1)
          refine ⟨?_, ⟨⟨rfl, ?_, ?_⟩, authentic⟩, unfinished⟩
          · simp [itemBytes, frameBytes, bodyOf, length, field, ← bytes]
          · rw [bodyOf, length]
            exact Nat.pos_of_ne_zero empty
          · rw [bodyOf, length]
            exact Octets.get_uint16_lt high low
termination_by stream.length

theorem receiver_grammar (tun : Nat → TunWrite) (alive : ∀ write, tun write ≠ .fatal) (aead : Option AEAD)
    (items : List WireItem) (tail : Bytes) (authentic : AuthenticItems aead 0 items) (unfinished : Unfinished tail) :
    (Follows items ((Receiver.fresh aead).sockToTun tun (itemBytes aead 0 items ++ tail)) ↔ FirstFaultOverruns items) ∧
      (∀ stream : Bytes, ∃ parts rest, stream = itemBytes none 0 parts ++ rest ∧ AuthenticItems none 0 parts ∧ Unfinished rest) ∧
      (∀ frame : Frame, (∃ units, frame.Carries units) ∨ ∃ lead, frame.Fault lead) ∧
      ∀ r payload, Receiver.splitBatchChecked tun (payload.length + 1) r payload = some (r.splitBatch tun payload) := by
  refine ⟨follows_iff tun alive aead items tail authentic unfinished, fun stream => ?_, frame_cases, fun r payload => ?_⟩
  · obtain ⟨parts, rest, spelled⟩ := open_stream stream
    exact ⟨parts, rest, spelled 0⟩
  · exact Receiver.split_batch_checked tun r payload _ (Nat.lt_succ_self _)

def overrunItems : List WireItem := [.framed ⟨frTypeSingle, [5]⟩, .framed ⟨frTypeBatch, [0, 9]⟩]

theorem overrun_items_authentic : AuthenticItems none 0 overrunItems := ⟨⟨rfl, by decide, by decide⟩, ⟨rfl, by decide, by decide⟩, trivial⟩

theorem overrun_past : Units.Overrunning [0, 9] := ⟨0, 9, [], rfl, by decide⟩

theorem overrun_items_first_fault : FirstFaultOverruns overrunItems := by
  intro good bad rest units lead split carry fault
  match good with
  | [] =>
      obtain ⟨rfl, _⟩ : bad = ⟨frTypeSingle, [5]⟩ ∧ _ := by simpa [overrunItems, eq_comm] using split
      cases fault with
      | unknownType single batch => exact absurd rfl single
      | overrun _ _ typ | leftover _ _ typ => exact absurd typ (by decide)
  | [first] =>
      obtain ⟨_, rfl, _⟩ : first = _ ∧ bad = ⟨frTypeBatch, [0, 9]⟩ ∧ _ := by simpa [overrunItems, eq_comm] using split
      exact ⟨rfl, [], [0, 9], by simp [Whole], rfl, overrun_past⟩
  | _ :: _ :: more => exact absurd (congrArg List.length split) (by simp [overrunItems])

theorem receiver_grammar_overrun :
    ((Receiver.fresh none).sockToTun (fun _ => .accepted) (itemBytes none 0 overrunItems ++ [])).1.writes = [[5]] ∧
      ((Receiver.fresh none).sockToTun (fun _ => .accepted) (itemBytes none 0 overrunItems ++ [])).1.headersRead = 2 ∧
      ((Receiver.fresh none).sockToTun (fun _ => .accepted) (itemBytes none 0 overrunItems ++ [])).2.byFrame = true :=
  ((receiver_grammar (fun _ => .accepted) (fun _ => by decide) none overrunItems [] overrun_items_authentic trivial).1.mpr
    overrun_items_first_fault).faulty [.framed ⟨frTypeSingle, [5]⟩] ⟨frTypeBatch, [0, 9]⟩ [] [[5]] [] rfl
    (.framed _ [] [[5]] [] (.single rfl) .nil) (.overrun [] [0, 9] rfl (by simp [Whole]) rfl overrun_past)

-- A frame of type 7 is written as a packet, and a byte left over in a batch
-- goes unnoticed: the lane lives on in both cases.
theorem receiver_passes_faults :
    ((Receiver.fresh none).sockToTun (fun _ => .accepted) [7, 0, 1, 9]).1.writes = [[9]] ∧
      ((Receiver.fresh none).sockToTun (fun _ => .accepted) [7, 0, 1, 9]).2 = .eof ∧
      ¬ Follows [.framed ⟨7, [9]⟩] ((Receiver.fresh none).sockToTun (fun _ => .accepted) [7, 0, 1, 9]) ∧
      ((Receiver.fresh none).sockToTun (fun _ => .accepted) [1, 0, 4, 0, 1, 5, 6, 0, 0, 1, 8]).1.writes = [[5], [8]] ∧
      ((Receiver.fresh none).sockToTun (fun _ => .accepted) [1, 0, 4, 0, 1, 5, 6, 0, 0, 1, 8]).2 = .eof ∧
      ¬ Follows [.framed ⟨frTypeBatch, [0, 1, 5, 6]⟩, .framed ⟨frTypeSingle, [8]⟩]
        ((Receiver.fresh none).sockToTun (fun _ => .accepted) [1, 0, 4, 0, 1, 5, 6, 0, 0, 1, 8]) := by
  have unknown : (Receiver.fresh none).sockToTun (fun _ => .accepted) [7, 0, 1, 9] =
      (⟨none, [.header 7 1, .wrote [9]]⟩, .eof) := by
    simp [Receiver.sockToTun, Receiver.receiveFrame, Receiver.accept, Receiver.writeTun, Receiver.log, Receiver.fresh,
      Octets.getUint16, maxPkt, aeadMax, frTypeBatch]
  have leftover : (Receiver.fresh none).sockToTun (fun _ => .accepted) [1, 0, 4, 0, 1, 5, 6, 0, 0, 1, 8] =
      (⟨none, [.header 1 4, .wrote [5], .header 0 1, .wrote [8]]⟩, .eof) := by
    simp [Receiver.sockToTun, Receiver.receiveFrame, Receiver.splitBatch, Receiver.accept, Receiver.writeTun, Receiver.log,
      Receiver.fresh, Octets.getUint16, maxPkt, aeadMax, frTypeBatch]
  rw [unknown, leftover]
  refine ⟨rfl, rfl, fun follows => ?_, rfl, rfl, fun follows => ?_⟩
  · have ended := (follows.faulty [] _ [] [] [] rfl .nil (.unknownType (by decide) (by decide))).2.2
    cases ended
  · have ended := (follows.faulty [] _ _ [] [[5]] rfl .nil (.leftover [[5]] 6 rfl (by simp [Whole]) rfl)).2.2
    cases ended

end Packethose
