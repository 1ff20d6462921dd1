import Packethose.LaneSend

set_option autoImplicit false

namespace Packethose

def Frame.units (frame : Frame) : List Bytes × Bool :=
  if frame.typ = frTypeBatch then Units.split frame.payload else ([frame.payload], true)

def wireOf (aead : Option AEAD) : Nat → List Frame → Bytes
  | _, [] => []
  | count, frame :: rest => frameBytes frame.typ (bodyOf aead count frame.payload) ++ wireOf aead (count + 1) rest

theorem wire_of_append (aead : Option AEAD) (count : Nat) (first second : List Frame) :
    wireOf aead count (first ++ second) = wireOf aead count first ++ wireOf aead (count + first.length) second := by
  induction first generalizing count with
  | nil => simp [wireOf]
  | cons frame rest ih =>
      rw [List.cons_append, wireOf, wireOf, ih, List.append_assoc, List.length_cons]
      congr 3
      omega

def LaneRead.packets : LaneRead → Option (List Bytes)
  | .plain (.got packet) => some [packet]
  | .batch (.got packets) => some packets
  | .plain .interrupted | .batch .interrupted => some []
  | .plain .failed | .batch .failed => none

def packetsRead : List LaneRead → List Bytes
  | [] => []
  | read :: rest =>
      match read.packets with
      | some packets => packets ++ packetsRead rest
      | none => []

def longEnough (minRead : Nat) (packets : List Bytes) : List Bytes :=
  packets.filter fun packet => minRead ≤ packet.length

def sentPackets (frames : List Frame) : List Bytes := frames.flatMap fun frame => frame.units.1

-- The packets that go out alone in their frames, up to the first failed read
-- and including the first failed write. A burst with a packet that is long
-- enough takes a batch frame, and then there is no such sequence.
def soloPackets (conn : Nat → WriteResult) (minRead : Nat) : Nat → List LaneRead → Option (List Bytes)
  | _, [] => some []
  | write, read :: rest =>
      match read.packets with
      | none => some []
      | some [packet] =>
          if packet.length < minRead then soloPackets conn minRead write rest
          else if conn write = .written then
            (soloPackets conn minRead (write + 1) rest).map fun packets => packet :: packets
          else some [packet]
      | some packets => if longEnough minRead packets = [] then soloPackets conn minRead write rest else none

theorem fits_mono (single batch bound : Nat) (left : single ≤ bound) (right : batch ≤ bound) (read : LaneRead)
    (fits : read.Fits single batch) : read.Fits bound bound := by
  match read with
  | .plain .interrupted | .plain .failed | .batch .interrupted | .batch .failed => trivial
  | .plain (.got packet) => exact Nat.le_trans fits left
  | .batch (.got [packet]) => exact Nat.le_trans fits left
  | .batch (.got []) => simp [LaneRead.Fits]
  | .batch (.got (first :: second :: rest)) => exact fun packet member => Nat.le_trans (fits packet member) right

theorem reads_bounded (reads : List LaneRead) : ∃ bound, ∀ read ∈ reads, read.Fits bound bound := by
  induction reads with
  | nil => exact ⟨0, by simp⟩
  | cons read rest ih =>
      obtain ⟨later, fits⟩ := ih
      obtain ⟨here, fit⟩ : ∃ bound, read.Fits bound bound := by
        match read with
        | .plain .interrupted | .plain .failed | .batch .interrupted | .batch .failed => exact ⟨0, trivial⟩
        | .plain (.got packet) => exact ⟨packet.length, Nat.le_refl _⟩
        | .batch (.got [packet]) => exact ⟨packet.length, Nat.le_refl _⟩
        | .batch (.got []) => exact ⟨0, by simp [LaneRead.Fits]⟩
        | .batch (.got (first :: second :: more)) =>
            exact ⟨(first :: second :: more).flatten.length,
              fun packet member => (List.sublist_flatten_of_mem member).length_le⟩
      refine ⟨max here later, fun other member => ?_⟩
      rcases List.mem_cons.mp member with same | inside
      · exact same ▸ fits_mono here here _ (Nat.le_max_left _ _) (Nat.le_max_left _ _) read fit
      · exact fits_mono later later _ (Nat.le_max_right _ _) (Nat.le_max_right _ _) other (fits other inside)

theorem emitted_units (minRead single batch : Nat) (frame : Frame) (emitted : Emitted minRead single batch frame)
    (narrow : batch < 65536) : frame.units.2 = true := by
  cases emitted with
  | single => rfl
  | batch units _ _ fits _ =>
      rw [Frame.units, if_pos rfl, Units.split_encode units fun packet member => Nat.lt_of_le_of_lt (fits packet member) narrow]

theorem holding_nothing (minRead batch : Nat) (plain : Bytes) (units : List Bytes)
    (holding : Holding minRead batch plain units) (empty : ¬ plain.length > 0) : units = [] := by
  cases units with
  | nil => rfl
  | cons first more =>
      have size := congrArg List.length holding.encoded
      simp only [Units.encode, List.flatMap_cons, List.length_append, Units.unit_length] at size
      omega

theorem body_of_length (aead : Option AEAD) (count : Nat) (payload : Bytes) :
    (bodyOf aead count payload).length = payload.length + (if aead.isSome then aeadOverhead else 0) := by
  cases aead with
  | none => rfl
  | some cipher => exact cipher.seal_length _ payload

namespace Sender

structure Tracked (aead : Option AEAD) (s : Sender) : Prop where
  direction : DirectionAfter aead s.frames.length s.sealer
  nonces : aead.isSome → s.nonces = (List.range s.frames.length).map FrameAEAD.nonceFor

theorem fresh_tracked (aead : Option AEAD) : (fresh aead).Tracked aead := ⟨direction_fresh aead, fun _ => rfl⟩

theorem flush_tracked (aead : Option AEAD) (conn : Nat → WriteResult) (s : Sender) (tracked : s.Tracked aead)
    (typ : UInt8) (payload : Bytes) : (s.flush conn typ payload).1.Tracked aead := by
  obtain ⟨direction, nonces⟩ := tracked
  have size : (s.flush conn typ payload).1.frames.length = s.frames.length + 1 := by rw [flush_frames, List.length_append]; rfl
  refine ⟨?_, fun keyed => ?_⟩
  · rw [size, flush_sealer]
    exact (seal_body_after aead s.frames.length s.sealer direction payload).2
  · rw [size, flush_nonces, nonces keyed, List.range_succ, List.map_append]
    generalize s.sealer = sealer at direction
    cases direction with
    | plain => simp at keyed
    | keyed cipher count f after =>
        have used := (FrameAEAD.seal_after cipher _ f after payload).2.2
        simp [sealBody, used]

theorem flush_wire (aead : Option AEAD) (conn : Nat → WriteResult) (reliable : ∀ write, conn write = .written) (s : Sender)
    (tracked : s.Tracked aead) (written : s.wire = wireOf aead 0 s.frames) (typ : UInt8) (payload : Bytes) :
    (s.flush conn typ payload).1.wire = wireOf aead 0 (s.flush conn typ payload).1.frames := by
  rw [(flush_written conn s typ payload (reliable _)).2, flush_frames, wire_of_append, written,
    (seal_body_after aead s.frames.length s.sealer tracked.direction payload).1]
  simp [wireOf]

theorem send_tracked (aead : Option AEAD) (conn : Nat → WriteResult) (minRead : Nat) (reads : List LaneRead) :
    ((fresh aead).sendReads conn minRead reads).Tracked aead := by
  obtain ⟨bound, fits⟩ := reads_bounded reads
  exact send_invariant conn minRead bound bound _
    (fun s frame _ tracked => flush_tracked aead conn s tracked frame.typ frame.payload) reads fits _ (fresh_tracked aead)

theorem send_wire (aead : Option AEAD) (conn : Nat → WriteResult) (reliable : ∀ write, conn write = .written)
    (minRead : Nat) (reads : List LaneRead) :
    ((fresh aead).sendReads conn minRead reads).wire = wireOf aead 0 ((fresh aead).sendReads conn minRead reads).frames := by
  obtain ⟨bound, fits⟩ := reads_bounded reads
  have both := send_invariant conn minRead bound bound (fun s => s.Tracked aead ∧ s.wire = wireOf aead 0 s.frames)
    (fun s frame _ held => ⟨flush_tracked aead conn s held.1 frame.typ frame.payload,
      flush_wire aead conn reliable s held.1 held.2 frame.typ frame.payload⟩)
    reads fits _ ⟨fresh_tracked aead, rfl⟩
  exact both.2

theorem send_emitted (aead : Option AEAD) (conn : Nat → WriteResult) (minRead single batch : Nat) (reads : List LaneRead)
    (fits : ∀ read ∈ reads, read.Fits single batch) :
    ∀ frame ∈ ((fresh aead).sendReads conn minRead reads).frames, Emitted minRead single batch frame := by
  apply send_invariant conn minRead single batch (fun s => ∀ frame ∈ s.frames, Emitted minRead single batch frame) ?_ reads fits
  · simp [fresh]
  · intro s frame emitted held other member
    rw [flush_frames, List.mem_append, List.mem_singleton] at member
    rcases member with earlier | last
    · exact held other earlier
    · exact last ▸ emitted

section Packets

variable (conn : Nat → WriteResult) (minRead single batch : Nat)

theorem lane_body_failed (read : LaneRead) (failed : read.packets = none) (s : Sender) :
    s.laneBody conn minRead read = (s, false) := by
  match read with
  | .plain .failed | .batch .failed => rfl
  | .plain .interrupted | .batch .interrupted | .plain (.got _) | .batch (.got _) => exact absurd failed (by simp [LaneRead.packets])

theorem send_resumed (read : LaneRead) (rest : List LaneRead) (s next : Sender)
    (taken : s.laneBody conn minRead read = (next, true)) :
    s.sendReads conn minRead (read :: rest) = next.sendReads conn minRead rest := by
  rw [sendReads, Runs.loop, taken]
  rfl

theorem send_ended (read : LaneRead) (rest : List LaneRead) (s next : Sender)
    (taken : s.laneBody conn minRead read = (next, false)) : s.sendReads conn minRead (read :: rest) = next := by
  rw [sendReads, Runs.loop, taken]

theorem flush_sent (s : Sender) (typ : UInt8) (payload : Bytes) :
    sentPackets (s.flush conn typ payload).1.frames = sentPackets s.frames ++ (Frame.mk typ payload).units.1 := by
  simp [sentPackets, flush_frames]

theorem flush_batch_sent (narrow : batch < 65536) (s : Sender) (plain : Bytes) (units : List Bytes)
    (holding : Holding minRead batch plain units) :
    sentPackets (s.flush conn frTypeBatch plain).1.frames = sentPackets s.frames ++ units := by
  rw [flush_sent, Frame.units, if_pos rfl, holding.encoded,
    Units.split_encode units fun packet member => Nat.lt_of_le_of_lt (holding.fits packet member) narrow]

theorem coalesce_sent (reliable : ∀ write, conn write = .written) (narrow : batch < 65536) (packets : List Bytes)
    (fits : ∀ packet ∈ packets, packet.length ≤ batch) (s : Sender) (plain : Bytes) (units : List Bytes)
    (holding : Holding minRead batch plain units) :
    ∃ next plain' units', s.coalesce conn minRead plain packets = (next, plain', true) ∧
      Holding minRead batch plain' units' ∧
      sentPackets next.frames ++ units' = sentPackets s.frames ++ units ++ longEnough minRead packets := by
  induction packets generalizing s plain units with
  | nil => exact ⟨s, plain, units, rfl, holding, by simp [longEnough]⟩
  | cons packet rest ih =>
      have small := fits packet (by simp)
      have later : ∀ other ∈ rest, other.length ≤ batch := fun other member => fits other (by simp [member])
      rw [coalesce]
      split_ifs with short full occupied
      · have skipped : longEnough minRead (packet :: rest) = longEnough minRead rest := by
          simp [longEnough, short]
        rw [skipped]
        exact ih later s plain units holding
      all_goals
        have long : minRead ≤ packet.length := by omega
        have kept : longEnough minRead (packet :: rest) = packet :: longEnough minRead rest := by
          simp [longEnough, long]
        rw [kept]
      · obtain ⟨next, flushed⟩ : ∃ next, s.flush conn frTypeBatch plain = (next, true) :=
          ⟨_, Prod.ext rfl (flush_written conn s frTypeBatch plain (reliable _)).1⟩
        have moved := flush_batch_sent conn minRead batch narrow s plain units holding
        rw [flushed] at moved ⊢
        obtain ⟨last, plain', units', done, holding', sent⟩ := ih later next _ [packet]
          (holding_start minRead batch packet long small)
        exact ⟨last, plain', units', done, holding', by rw [sent, moved]; simp⟩
      · have nothing := holding_nothing minRead batch plain units holding occupied
        obtain ⟨last, plain', units', done, holding', sent⟩ := ih later s _ [packet]
          (holding_start minRead batch packet long small)
        exact ⟨last, plain', units', done, holding', by rw [sent, nothing]; simp⟩
      · have room : plain.length + 2 + packet.length ≤ max maxFrame (batch + 2) := by omega
        obtain ⟨last, plain', units', done, holding', sent⟩ := ih later s _ _
          (holding_push minRead batch plain units packet holding long small room)
        exact ⟨last, plain', units', done, holding', by rw [sent]; simp⟩

theorem single_sent (reliable : ∀ write, conn write = .written) (s : Sender) (packet : Bytes) :
    ∃ next, (if packet.length < minRead then (s, true) else s.flush conn frTypeSingle packet) = (next, true) ∧
      sentPackets next.frames = sentPackets s.frames ++ longEnough minRead [packet] := by
  split_ifs with short
  · exact ⟨s, rfl, by simp [longEnough, short]⟩
  · have long : minRead ≤ packet.length := by omega
    refine ⟨_, Prod.ext rfl (flush_written conn s frTypeSingle packet (reliable _)).1, ?_⟩
    rw [flush_sent]
    simp [longEnough, long, Frame.units, frTypeSingle, frTypeBatch]

theorem burst_sent (reliable : ∀ write, conn write = .written) (narrow : batch < 65536) (packets : List Bytes)
    (fits : ∀ packet ∈ packets, packet.length ≤ batch) (s : Sender) :
    ∃ next, (match s.coalesce conn minRead [] packets with
        | (next, plain, true) => if plain.length > 0 then next.flush conn frTypeBatch plain else (next, true)
        | (next, _, false) => (next, false)) = (next, true) ∧
      sentPackets next.frames = sentPackets s.frames ++ longEnough minRead packets := by
  obtain ⟨next, plain, units, done, holding, sent⟩ := coalesce_sent conn minRead batch reliable narrow packets fits s [] []
    (holding_empty minRead batch)
  rw [List.append_nil] at sent
  rw [done]
  dsimp only
  split_ifs with occupied
  · refine ⟨_, Prod.ext rfl (flush_written conn next frTypeBatch plain (reliable _)).1, ?_⟩
    rw [flush_batch_sent conn minRead batch narrow next plain units holding, sent]
  · have nothing := holding_nothing minRead batch plain units holding occupied
    rw [nothing, List.append_nil] at sent
    exact ⟨next, rfl, sent⟩

theorem lane_body_sent (reliable : ∀ write, conn write = .written) (narrow : batch < 65536) (read : LaneRead)
    (fits : read.Fits single batch) (packets : List Bytes) (delivered : read.packets = some packets) (s : Sender) :
    ∃ next, s.laneBody conn minRead read = (next, true) ∧
      sentPackets next.frames = sentPackets s.frames ++ longEnough minRead packets := by
  match read with
  | .plain .interrupted | .batch .interrupted =>
      obtain rfl : [] = packets := Option.some.inj delivered
      exact ⟨s, rfl, by simp [longEnough]⟩
  | .plain .failed | .batch .failed => exact absurd delivered (by simp [LaneRead.packets])
  | .plain (.got packet) =>
      obtain rfl : [packet] = packets := Option.some.inj delivered
      exact single_sent conn minRead reliable s packet
  | .batch (.got [packet]) =>
      obtain rfl : [packet] = packets := Option.some.inj delivered
      exact single_sent conn minRead reliable s packet
  | .batch (.got []) =>
      obtain rfl : [] = packets := Option.some.inj delivered
      exact burst_sent conn minRead batch reliable narrow [] (by simp) s
  | .batch (.got (first :: second :: rest)) =>
      obtain rfl : first :: second :: rest = packets := Option.some.inj delivered
      exact burst_sent conn minRead batch reliable narrow _ fits s

theorem send_sent (reliable : ∀ write, conn write = .written) (narrow : batch < 65536) (reads : List LaneRead)
    (fits : ∀ read ∈ reads, read.Fits single batch) (s : Sender) :
    sentPackets (s.sendReads conn minRead reads).frames =
      sentPackets s.frames ++ longEnough minRead (packetsRead reads) := by
  induction reads generalizing s with
  | nil => simp [sendReads, Runs.loop, packetsRead, longEnough]
  | cons read rest ih =>
      have later := ih fun other member => fits other (by simp [member])
      rw [packetsRead]
      cases delivered : read.packets with
      | none =>
          rw [send_ended conn minRead read rest s s (lane_body_failed conn minRead read delivered s)]
          simp [longEnough]
      | some packets =>
          obtain ⟨next, taken, sent⟩ :=
            lane_body_sent conn minRead single batch reliable narrow read (fits read (by simp)) packets delivered s
          rw [send_resumed conn minRead read rest s next taken, later next, sent]
          simp [longEnough]

end Packets

section Alone

variable (conn : Nat → WriteResult) (minRead : Nat)

theorem coalesce_started (packets : List Bytes) (s : Sender) (plain : Bytes)
    (started : plain.length > 0 ∨ ∃ packet ∈ packets, minRead ≤ packet.length) :
    (s.coalesce conn minRead plain packets).2.1.length > 0 ∧
      ((s.coalesce conn minRead plain packets).2.2 = false →
        ∃ frame ∈ (s.coalesce conn minRead plain packets).1.frames, frame.typ = frTypeBatch) := by
  induction packets generalizing s plain with
  | nil => exact ⟨by simpa [coalesce] using started, by simp [coalesce]⟩
  | cons packet rest ih =>
      have filled : ∀ front : Bytes, (front ++ Units.unit packet).length > 0 := by
        intro front
        rw [List.length_append, Units.unit_length]
        omega
      rw [coalesce]
      split_ifs with short full occupied
      · refine ih s plain (started.imp_right ?_)
        rintro ⟨long, member, enough⟩
        rcases List.mem_cons.mp member with rfl | inside
        · omega
        · exact ⟨long, inside, enough⟩
      · split
        · rename_i next taken
          exact ih next _ (.inl (filled []))
        · rename_i next taken
          have flushed : next.frames = s.frames ++ [⟨frTypeBatch, plain⟩] := by
            rw [← flush_frames conn s frTypeBatch plain, taken]
          exact ⟨occupied, fun _ => ⟨⟨frTypeBatch, plain⟩, by simp [flushed], rfl⟩⟩
      · exact ih s _ (.inl (filled []))
      · exact ih s _ (.inl (filled plain))

theorem coalesce_skips (packets : List Bytes) (short : longEnough minRead packets = []) (s : Sender) (plain : Bytes) :
    s.coalesce conn minRead plain packets = (s, plain, true) := by
  induction packets with
  | nil => rfl
  | cons packet rest ih =>
      have all : ∀ other ∈ packet :: rest, other.length < minRead := by simpa [longEnough, List.filter_eq_nil_iff] using short
      rw [coalesce, if_pos (all packet (by simp))]
      exact ih (by simpa [longEnough, List.filter_eq_nil_iff] using fun other member => all other (by simp [member]))

theorem burst_batch (packets : List Bytes) (long : longEnough minRead packets ≠ []) (s : Sender) :
    ∃ frame ∈ (match s.coalesce conn minRead [] packets with
      | (next, plain, true) => if plain.length > 0 then next.flush conn frTypeBatch plain else (next, true)
      | (next, _, false) => (next, false)).1.frames, frame.typ = frTypeBatch := by
  obtain ⟨packet, kept⟩ := List.exists_mem_of_ne_nil _ long
  have enough : packet ∈ packets ∧ minRead ≤ packet.length := by simpa [longEnough] using kept
  obtain ⟨occupied, stopped⟩ := coalesce_started conn minRead packets s [] (.inr ⟨packet, enough⟩)
  split
  · rename_i next plain done
    rw [done] at occupied
    rw [if_pos occupied, flush_frames]
    exact ⟨⟨frTypeBatch, plain⟩, by simp, rfl⟩
  · rename_i next plain done
    rw [done] at stopped
    exact stopped rfl

theorem lane_body_single (read : LaneRead) (packet : Bytes) (delivered : read.packets = some [packet]) (s : Sender) :
    s.laneBody conn minRead read = if packet.length < minRead then (s, true) else s.flush conn frTypeSingle packet := by
  match read with
  | .plain (.got other) | .batch (.got [other]) =>
      obtain rfl : other = packet := by simpa [LaneRead.packets] using delivered
      rfl
  | .plain .interrupted | .batch .interrupted | .plain .failed | .batch .failed | .batch (.got []) | .batch (.got (_ :: _ :: _)) =>
      simp [LaneRead.packets] at delivered

theorem lane_body_burst (read : LaneRead) (packets : List Bytes) (delivered : read.packets = some packets)
    (burst : ∀ packet, packets ≠ [packet]) (s : Sender) :
    s.laneBody conn minRead read = match s.coalesce conn minRead [] packets with
      | (next, plain, true) => if plain.length > 0 then next.flush conn frTypeBatch plain else (next, true)
      | (next, _, false) => (next, false) := by
  match read with
  | .plain .interrupted | .batch .interrupted | .batch (.got []) | .batch (.got (_ :: _ :: _)) =>
      cases delivered
      rfl
  | .plain (.got packet) | .batch (.got [packet]) => exact absurd (Option.some.inj delivered).symm (burst packet)
  | .plain .failed | .batch .failed => cases delivered

theorem send_keeps (reads : List LaneRead) (s : Sender) (frame : Frame) (member : frame ∈ s.frames) :
    frame ∈ (s.sendReads conn minRead reads).frames := by
  obtain ⟨bound, fits⟩ := reads_bounded reads
  refine send_invariant conn minRead bound bound (fun s => frame ∈ s.frames) (fun s other _ held => ?_) reads fits s member
  rw [flush_frames]
  exact List.mem_append_left _ held

theorem send_burst (read : LaneRead) (rest : List LaneRead) (packets : List Bytes) (delivered : read.packets = some packets)
    (several : ∀ packet, packets ≠ [packet]) (long : longEnough minRead packets ≠ []) (s : Sender) :
    ∃ frame ∈ (s.sendReads conn minRead (read :: rest)).frames, frame.typ = frTypeBatch := by
  obtain ⟨frame, member, batch⟩ := burst_batch conn minRead packets long s
  rw [← lane_body_burst conn minRead read packets delivered several s] at member
  refine ⟨frame, ?_, batch⟩
  generalize taken : s.laneBody conn minRead read = outcome at member
  obtain ⟨next, _ | _⟩ := outcome
  · rw [send_ended conn minRead read rest s next taken]
    exact member
  · rw [send_resumed conn minRead read rest s next taken]
    exact send_keeps conn minRead rest next frame member

theorem send_solo (reads : List LaneRead) (s : Sender) :
    (∀ packets, soloPackets conn minRead s.frames.length reads = some packets →
      (s.sendReads conn minRead reads).frames = s.frames ++ packets.map (Frame.mk frTypeSingle)) ∧
    (soloPackets conn minRead s.frames.length reads = none →
      ∃ frame ∈ (s.sendReads conn minRead reads).frames, frame.typ = frTypeBatch) := by
  induction reads generalizing s with
  | nil =>
      refine ⟨fun packets solo => ?_, fun impossible => by cases impossible⟩
      obtain rfl : [] = packets := Option.some.inj solo
      simp [sendReads, Runs.loop]
  | cons read rest ih =>
      rw [soloPackets]
      split
      · rename_i failed
        rw [send_ended conn minRead read rest s s (lane_body_failed conn minRead read failed s)]
        refine ⟨fun packets solo => ?_, fun impossible => by cases impossible⟩
        obtain rfl : [] = packets := Option.some.inj solo
        simp
      · rename_i packet delivered
        have body := lane_body_single conn minRead read packet delivered s
        have frames := flush_frames conn s frTypeSingle packet
        split_ifs with short accepted
        · rw [if_pos short] at body
          rw [send_resumed conn minRead read rest s s body]
          exact ih s
        · rw [if_neg short] at body
          have passed := (flush_written conn s frTypeSingle packet accepted).1
          obtain ⟨alone, batched⟩ := ih (s.flush conn frTypeSingle packet).1
          rw [frames, List.length_append, List.length_singleton] at alone batched
          rw [send_resumed conn minRead read rest s _ (body.trans (Prod.ext rfl passed))]
          refine ⟨fun packets solo => ?_, fun absent => batched (by simpa using absent)⟩
          obtain ⟨later, followed, rfl⟩ := Option.map_eq_some_iff.mp solo
          simp [alone later followed]
        · rw [if_neg short] at body
          have stopped := flush_refused conn s frTypeSingle packet accepted
          rw [send_ended conn minRead read rest s _ (body.trans (Prod.ext rfl stopped)), frames]
          refine ⟨fun packets solo => ?_, fun impossible => by cases impossible⟩
          obtain rfl : [packet] = packets := Option.some.inj solo
          rfl
      · rename_i packets several delivered
        split_ifs with short
        · have body := lane_body_burst conn minRead read packets delivered (fun packet same => several packet same) s
          rw [coalesce_skips conn minRead packets short] at body
          rw [send_resumed conn minRead read rest s s body]
          exact ih s
        · exact ⟨fun _ impossible => (by cases impossible), fun _ =>
            send_burst conn minRead read rest packets delivered (fun packet same => several packet same) short s⟩

end Alone

end Sender

end Packethose
