import Packethose.LaneIntegrity

set_option autoImplicit false

namespace Packethose

-- What someone who owns the network can make of the frames a sender sealed:
-- the payloads stay, in order and from the first on, but the type bytes are
-- outside the AEAD. A frame that does not divide to its end is the last.
structure Relabelled (sealed : List Bytes) (frames : List Frame) : Prop where
  payloads : frames.map Frame.payload <+: sealed
  whole : ∀ frame ∈ frames.dropLast, frame.units.2 = true

namespace Receiver

structure Received (aead : AEAD) (sealed : List Bytes) (r : Receiver) (frames : List Frame) : Prop where
  payloads : frames.map Frame.payload <+: sealed
  direction : DirectionAfter (some aead) frames.length r.opener
  whole : ∀ frame ∈ frames, frame.units.2 = true
  written : r.writes = sentPackets frames

def Delivered (sealed : List Bytes) (r : Receiver) : Prop :=
  ∃ frames, Relabelled sealed frames ∧ r.writes <+: sentPackets frames

theorem received_delivered (aead : AEAD) (sealed : List Bytes) (r : Receiver)
    (received : ∃ frames, r.Received aead sealed frames) : r.Delivered sealed := by
  obtain ⟨frames, held⟩ := received
  exact ⟨frames, ⟨held.payloads, fun frame member => held.whole frame (List.dropLast_subset _ member)⟩,
    held.written ▸ List.prefix_refl _⟩

theorem received_frame (aead : AEAD) (sealed : List Bytes) (ideal : IdealOpening aead sealed) (tun : Nat → TunWrite)
    (r : Receiver) (typ : UInt8) (body : Bytes) (received : ∃ frames, r.Received aead sealed frames) :
    ((r.receiveFrame tun typ body).2 = none → ∃ frames, (r.receiveFrame tun typ body).1.Received aead sealed frames) ∧
      (r.receiveFrame tun typ body).1.Delivered sealed := by
  obtain ⟨frames, held⟩ := received
  obtain ⟨outcome, advanced⟩ := accept_after (some aead) frames.length r held.direction body
  have reached : frames.length ≤ sealed.length := by simpa using held.payloads.length_le
  cases accepted : (r.accept body).2 with
  | none =>
      rw [receive_frame_refused tun r typ body accepted]
      refine ⟨fun absent => absurd absent (by simp), ?_⟩
      obtain ⟨same, relabelled, written⟩ := received_delivered aead sealed r ⟨frames, held⟩
      exact ⟨same, relabelled, by rw [accept_writes]; exact written⟩
  | some payload =>
      obtain ⟨packets, starts, logged, complete⟩ := receive_frame_opened tun r typ body payload accepted
      have next := ideal_open_exact aead sealed ideal frames.length reached body payload (outcome.symm.trans accepted)
      have extended : (frames ++ [Frame.mk typ payload]).map Frame.payload <+: sealed := by
        rw [List.map_append]
        exact extend_front _ sealed payload held.payloads (by rw [List.length_map]; exact next)
      have written : (r.receiveFrame tun typ body).1.writes = sentPackets frames ++ packets := by
        rw [logged, writes_wrote, accept_writes, held.written]
      have all : sentPackets (frames ++ [Frame.mk typ payload]) = sentPackets frames ++ (Frame.mk typ payload).units.1 := by
        simp [sentPackets]
      refine ⟨fun continued => ⟨frames ++ [⟨typ, payload⟩], extended, ?_, ?_, ?_⟩,
        frames ++ [⟨typ, payload⟩], ⟨extended, by simpa using held.whole⟩, ?_⟩
      · rw [logged, List.length_append]
        exact advanced
      · intro frame member
        rcases List.mem_append.mp member with earlier | last
        · exact held.whole frame earlier
        · exact List.mem_singleton.mp last ▸ (complete continued).2
      · rw [written, all, (complete continued).1]
      · rw [written, all]
        exact (List.prefix_append_right_inj _).mpr starts

theorem tampered_delivered (aead : AEAD) (sealed : List Bytes) (ideal : IdealOpening aead sealed) (tun : Nat → TunWrite)
    (stream : Bytes) : ((fresh (some aead)).sockToTun tun stream).1.Delivered sealed := by
  apply sock_to_tun_rule tun (fun r => ∃ frames, r.Received aead sealed frames) (Delivered sealed)
    (received_delivered aead sealed)
  · rintro r typ size ⟨frames, held⟩
    refine ⟨frames, held.payloads, held.direction, held.whole, ?_⟩
    rw [writes_log, held.written]
    simp [LaneEvent.written]
  · exact fun r typ body held => received_frame aead sealed ideal tun r typ body held
  · exact ⟨[], List.nil_prefix, direction_fresh (some aead), by simp, rfl⟩

theorem relabelled_delivered (aead : AEAD) (sealed : List Bytes) (ideal : IdealOpening aead sealed)
    (narrow : ∀ payload ∈ sealed, payload.length + aeadOverhead < 65536) (frames : List Frame)
    (relabelled : Relabelled sealed frames) :
    ((fresh (some aead)).sockToTun (fun _ => .accepted) (wireOf (some aead) 0 frames)).1.writes = sentPackets frames := by
  obtain ⟨rest, same⟩ := relabelled.payloads
  have sizes : ∀ frame ∈ frames, ∀ number, (bodyOf (some aead) number frame.payload).length = frame.payload.length + aeadOverhead :=
    fun frame _ number => aead.seal_length _ _
  have inside : ∀ frame ∈ frames, frame.payload ∈ sealed := fun frame member => by
    rw [← same]
    exact List.mem_append_left _ (List.mem_map_of_mem member)
  have opens : ∀ index (bound : index < frames.length),
      payloadOf (some aead) (0 + index) (bodyOf (some aead) (0 + index) frames[index].payload) = some frames[index].payload := by
    intro index bound
    have sent : index < sealed.length := by
      rw [← same, List.length_append, List.length_map]
      omega
    have element : sealed[index] = frames[index].payload := by
      simp [← same, List.getElem_append_left, bound]
    rw [Nat.zero_add, ← element]
    exact ideal.accepts index sent
  have delivered := deliver_frames (fun _ => .accepted) (fun _ => by decide) (some aead) frames 0 opens
    (fun frame member number => by rw [sizes frame member]; unfold aeadOverhead; omega)
    (fun frame member number => by rw [sizes frame member]; exact narrow _ (inside frame member))
    relabelled.whole (fresh (some aead)) (direction_fresh (some aead))
  simpa [fresh, writes] using delivered.1

end Receiver

structure Inseparable (packets : List Bytes) : Prop where
  indivisible : ∀ packet ∈ packets, ∀ high low rest, packet = high :: low :: rest → rest.length < Octets.getUint16 high low
  repeated : ∀ before packet after, packets = before ++ packet :: after → packet.length < 2 → ∀ later ∈ after, later = packet

theorem single_units (frame : Frame) (other : ¬ frame.typ = frTypeBatch) : frame.units = ([frame.payload], true) := by
  rw [Frame.units, if_neg other]

theorem sent_singles (frames : List Frame) (single : ∀ frame ∈ frames, frame.typ = frTypeSingle) :
    sentPackets frames = frames.map Frame.payload := by
  induction frames with
  | nil => rfl
  | cons frame rest ih =>
      have first := single_units frame (by rw [single frame (by simp)]; decide)
      have later := ih fun other member => single other (by simp [member])
      simp only [sentPackets, List.flatMap_cons, List.map_cons] at later ⊢
      rw [first, later]
      rfl

theorem copies_shift (copy : Bytes) (payloads : List Bytes) (same : ∀ payload ∈ payloads, payload = copy) :
    payloads <+: copy :: payloads := by
  have repeated := List.eq_replicate_of_mem same
  rw [repeated, ← List.replicate_succ]
  exact ⟨[copy], by rw [List.replicate_succ']⟩

theorem shift_copies (copy : Bytes) (payloads : List Bytes) (shifted : payloads <+: copy :: payloads) :
    ∀ payload ∈ payloads, payload = copy := by
  induction payloads generalizing copy with
  | nil => simp
  | cons first rest ih =>
      obtain ⟨same, later⟩ := List.cons_prefix_cons.mp shifted
      intro payload member
      rcases List.mem_cons.mp member with here | inside
      · exact here.trans same
      · exact (ih first later payload inside).trans same

theorem inseparable_tail (packet : Bytes) (rest : List Bytes) (inseparable : Inseparable (packet :: rest)) : Inseparable rest :=
  ⟨fun other member => inseparable.indivisible other (by simp [member]),
    fun before other after same => inseparable.repeated (packet :: before) other after (by simp [same])⟩

theorem relabelled_tail (payload : Bytes) (sealed : List Bytes) (frame : Frame) (rest : List Frame)
    (relabelled : Relabelled (payload :: sealed) (frame :: rest)) : Relabelled sealed rest := by
  refine ⟨(List.cons_prefix_cons.mp relabelled.payloads).2, fun other member => relabelled.whole other ?_⟩
  cases rest with
  | nil => simp at member
  | cons second more => simp [List.dropLast, member]

theorem relabelled_short (sealed : List Bytes) (frame : Frame) (rest : List Frame)
    (relabelled : Relabelled sealed (frame :: rest)) (stopped : frame.units.2 = false) : rest = [] := by
  cases rest with
  | nil => rfl
  | cons second more => exact absurd (relabelled.whole frame (by simp [List.dropLast])) (by simp [stopped])

theorem inseparable_relabelled (relabelled : List Frame) (packets : List Bytes) (inseparable : Inseparable packets)
    (changed : Relabelled packets relabelled) : sentPackets relabelled <+: packets := by
  induction relabelled generalizing packets with
  | nil => exact List.nil_prefix
  | cons flipped rest ih =>
      cases packets with
      | nil => exact absurd changed.payloads (by simp)
      | cons packet more =>
          obtain rfl : flipped.payload = packet := (List.cons_prefix_cons.mp changed.payloads).1
          have later := ih more (inseparable_tail _ more inseparable) (relabelled_tail _ _ flipped rest changed)
          have sent : sentPackets (flipped :: rest) = flipped.units.1 ++ sentPackets rest := rfl
          rw [sent]
          by_cases batch : flipped.typ = frTypeBatch
          · by_cases short : flipped.payload.length < 2
            · -- The packet is lost without a trace and the next one takes its place.
              have lost : flipped.units.1 = [] := by rw [Frame.units, if_pos batch, Units.split_short _ short]
              have copies := inseparable.repeated [] flipped.payload more rfl short
              rw [lost, List.nil_append]
              exact later.trans (copies_shift _ _ copies)
            · obtain ⟨high, low, tail, shape⟩ : ∃ high low tail, flipped.payload = high :: low :: tail := by
                rcases found : flipped.payload with _ | ⟨high, _ | ⟨low, tail⟩⟩
                · simp [found] at short
                · simp [found] at short
                · exact ⟨high, low, tail, rfl⟩
              have excess := inseparable.indivisible flipped.payload (by simp) high low tail shape
              have stopped : flipped.units = ([], false) := by
                rw [Frame.units, if_pos batch, shape, Units.split_malformed high low tail excess]
              rw [relabelled_short _ flipped rest changed (by rw [stopped]), stopped]
              exact List.nil_prefix
          · rw [single_units flipped batch]
            exact List.cons_prefix_cons.mpr ⟨rfl, later⟩

section Separation

variable (frames : List Frame) (whole : ∀ frame ∈ frames, frame.units.2 = true)
  (kept : ∀ relabelled, Relabelled (frames.map Frame.payload) relabelled → sentPackets relabelled <+: sentPackets frames)

include whole kept

theorem relabelled_head (before after : List Frame) (frame : Frame) (cut : frames = before ++ frame :: after) (typ : UInt8) :
    (Frame.mk typ frame.payload).units.1 <+: frame.units.1 ++ sentPackets after := by
  have relabelled : Relabelled (frames.map Frame.payload) (before ++ [⟨typ, frame.payload⟩]) := by
    refine ⟨⟨after.map Frame.payload, by simp [cut]⟩, fun other member => whole other ?_⟩
    rw [List.dropLast_concat] at member
    simp [cut, member]
  have sent := kept _ relabelled
  rw [cut, sentPackets, sentPackets, List.flatMap_append, List.flatMap_append, List.prefix_append_right_inj] at sent
  simpa [sentPackets] using sent

theorem kept_single (minRead single batch : Nat) (emitted : ∀ frame ∈ frames, Emitted minRead single batch frame)
    (narrow : batch < 65536) : ∀ frame ∈ frames, frame.typ = frTypeSingle := by
  intro frame member
  obtain ⟨before, after, cut⟩ := List.append_of_mem member
  have head := relabelled_head frames whole kept before after frame cut frTypeSingle
  cases emitted frame member with
  | single => rfl
  | batch units nonempty long fits bounded =>
      -- As a single frame the whole batch would be its own first packet.
      obtain ⟨first, more, rfl⟩ := List.exists_cons_of_ne_nil nonempty
      rw [single_units _ (show ¬ frTypeSingle = frTypeBatch by decide), Frame.units, if_pos rfl,
        Units.split_encode _ fun packet inside => Nat.lt_of_le_of_lt (fits packet inside) narrow] at head
      have same := congrArg List.length (List.cons_prefix_cons.mp head).1
      simp only [Units.encode, List.flatMap_cons, List.length_append, Units.unit_length] at same
      omega

theorem kept_indivisible (single : ∀ frame ∈ frames, frame.typ = frTypeSingle) :
    ∀ frame ∈ frames, ∀ high low rest, frame.payload = high :: low :: rest → rest.length < Octets.getUint16 high low := by
  intro frame member high low rest shape
  by_contra fits
  obtain ⟨before, after, cut⟩ := List.append_of_mem member
  have head := relabelled_head frames whole kept before after frame cut frTypeBatch
  obtain ⟨later, first⟩ := Units.split_first high low rest fits
  rw [single_units frame (by rw [single frame member]; decide), Frame.units, if_pos rfl, shape, first] at head
  have same := congrArg List.length (List.cons_prefix_cons.mp head).1
  simp only [List.length_take, List.length_cons] at same
  omega

theorem kept_repeated (single : ∀ frame ∈ frames, frame.typ = frTypeSingle) :
    ∀ before frame after, frames = before ++ frame :: after → frame.payload.length < 2 →
      ∀ later ∈ after, later.payload = frame.payload := by
  intro before frame after cut short later member
  have lost : (Frame.mk frTypeBatch frame.payload).units = ([], true) := by
    rw [Frame.units, if_pos rfl, Units.split_short _ short]
  have relabelled : Relabelled (frames.map Frame.payload) (before ++ ⟨frTypeBatch, frame.payload⟩ :: after) := by
    refine ⟨⟨[], by simp [cut]⟩, fun other inside => ?_⟩
    rcases List.mem_append.mp (List.dropLast_subset _ inside) with earlier | further
    · exact whole other (by simp [cut, earlier])
    · rcases List.mem_cons.mp further with here | behind
      · rw [here, lost]
      · exact whole other (by simp [cut, behind])
  have sent := kept _ relabelled
  have ordinary := single_units frame (by rw [single frame (by simp [cut])]; decide)
  rw [cut, sentPackets, sentPackets, List.flatMap_append, List.flatMap_append, List.prefix_append_right_inj,
    List.flatMap_cons, List.flatMap_cons, lost, ordinary, ← sentPackets,
    sent_singles after fun other behind => single other (by simp [cut, behind])] at sent
  exact shift_copies frame.payload _ (by simpa using sent) _ (List.mem_map_of_mem member)

theorem kept_inseparable (single : ∀ frame ∈ frames, frame.typ = frTypeSingle) : Inseparable (frames.map Frame.payload) := by
  refine ⟨List.forall_mem_map.mpr (kept_indivisible frames whole kept single), fun before packet after cut short => ?_⟩
  obtain ⟨front, back, split, rfl, behind⟩ := List.map_eq_append_iff.mp cut
  obtain ⟨frame, more, rfl, rfl, rfl⟩ := List.map_eq_cons_iff.mp behind
  exact List.forall_mem_map.mpr (kept_repeated frames whole kept single front frame more split short)

end Separation

theorem packet_integrity_iff (aead : AEAD) (conn : Nat → WriteResult) (minRead : Nat) (reads : List LaneRead)
    (fits : ∀ read ∈ reads, read.Fits (maxPkt - aeadOverhead) (maxPkt - aeadOverhead))
    (narrow : ∀ frame ∈ ((Sender.fresh (some aead)).sendReads conn minRead reads).frames,
      frame.payload.length + aeadOverhead < 65536)
    (ideal : IdealOpening aead (((Sender.fresh (some aead)).sendReads conn minRead reads).frames.map Frame.payload)) :
    (∀ (tun : Nat → TunWrite) (stream : Bytes), ((Receiver.fresh (some aead)).sockToTun tun stream).1.writes <+:
      sentPackets ((Sender.fresh (some aead)).sendReads conn minRead reads).frames) ↔
    ∃ packets, soloPackets conn minRead 0 reads = some packets ∧ Inseparable packets := by
  have emitted := Sender.send_emitted (some aead) conn minRead _ _ reads fits
  obtain ⟨solo, batched⟩ := Sender.send_solo conn minRead reads (Sender.fresh (some aead))
  generalize ((Sender.fresh (some aead)).sendReads conn minRead reads).frames = frames at *
  have whole := fun frame member => emitted_units minRead _ _ frame (emitted frame member) (by decide)
  constructor
  · intro always
    have kept : ∀ relabelled, Relabelled (frames.map Frame.payload) relabelled → sentPackets relabelled <+: sentPackets frames := by
      intro relabelled changed
      rw [← Receiver.relabelled_delivered aead _ ideal (by simpa using narrow) relabelled changed]
      exact always _ _
    have single := kept_single frames whole kept minRead _ _ emitted (by decide)
    cases alone : soloPackets conn minRead 0 reads with
    | none =>
        obtain ⟨frame, member, batch⟩ := batched alone
        exact absurd ((single frame member).symm.trans batch) (by decide)
    | some packets =>
        have same : frames.map Frame.payload = packets := by simp [solo packets alone, Sender.fresh, Function.comp_def]
        exact ⟨packets, rfl, same ▸ kept_inseparable frames whole kept single⟩
  · rintro ⟨packets, alone, inseparable⟩ tun stream
    have framed : frames = packets.map (Frame.mk frTypeSingle) := solo packets alone
    have same : frames.map Frame.payload = packets := by simp [framed, Function.comp_def]
    obtain ⟨relabelled, changed, written⟩ := Receiver.tampered_delivered aead _ ideal tun stream
    rw [sent_singles frames (by simp [framed]), same]
    exact written.trans (inseparable_relabelled relabelled packets inseparable (same ▸ changed))

theorem packet_integrity_plain_header :
    soloPackets (fun _ => .written) 1 0 [.plain (.got [0x45, 0x00, 0x00, 0x15])] = some [[0x45, 0x00, 0x00, 0x15]] ∧
      ((Receiver.fresh (some (onceAEAD [0x45, 0x00, 0x00, 0x15]))).sockToTun (fun _ => .accepted)
        (wireOf (some (onceAEAD [0x45, 0x00, 0x00, 0x15])) 0 [⟨frTypeBatch, [0x45, 0x00, 0x00, 0x15]⟩])).1.writes <+:
        [[0x45, 0x00, 0x00, 0x15]] := by
  refine ⟨rfl, (packet_integrity_iff (onceAEAD [0x45, 0x00, 0x00, 0x15]) (fun _ => .written) 1
    [.plain (.got [0x45, 0x00, 0x00, 0x15])] ?_ ?_ (once_ideal _)).mpr ?_ (fun _ => .accepted) _⟩
  · simp [LaneRead.Fits, maxPkt, aeadOverhead]
  · decide
  · refine ⟨[[0x45, 0x00, 0x00, 0x15]], rfl, ?_, ?_⟩
    · intro packet member high low rest shape
      rw [List.mem_singleton.mp member] at shape
      simp only [List.cons.injEq] at shape
      obtain ⟨rfl, rfl, rfl⟩ := shape
      decide
    · intro before packet after same short later member
      have only : packet = [0x45, 0x00, 0x00, 0x15] := List.mem_singleton.mp (by rw [same]; simp)
      rw [only] at short
      exact absurd short (by decide)

-- Two packets read in one burst travel in one batch frame. With the type byte
-- of that frame changed from 1 to 0 and nothing else, the device is handed the
-- batch itself, lengths included, as a single packet.
theorem burst_relabelled_as_packet :
    let sender := (Sender.fresh (some (onceAEAD (Units.encode [[0x45], [0x46]])))).sendReads (fun _ => .written) 1
      [.batch (.got [[0x45], [0x46]])]
    let receiver := ((Receiver.fresh (some (onceAEAD (Units.encode [[0x45], [0x46]])))).sockToTun (fun _ => .accepted)
      (frTypeSingle :: sender.wire.tail)).1
    sender.wire.head? = some frTypeBatch ∧
    IdealOpening (onceAEAD (Units.encode [[0x45], [0x46]])) (sender.frames.map Frame.payload) ∧
    sentPackets sender.frames = [[0x45], [0x46]] ∧
    receiver.writes = [[0, 1, 0x45, 0, 1, 0x46]] ∧
    ¬ receiver.writes <+: sentPackets sender.frames := by
  intro sender receiver
  have ideal : IdealOpening (onceAEAD (Units.encode [[0x45], [0x46]])) (sender.frames.map Frame.payload) := once_ideal _
  have sent : sentPackets sender.frames = [[0x45], [0x46]] := by
    rw [show sender.frames = [⟨frTypeBatch, Units.encode [[0x45], [0x46]]⟩] from rfl, sentPackets, List.flatMap_singleton,
      Frame.units, if_pos rfl, Units.split_encode _ (by decide)]
  have written : receiver.writes = [[0, 1, 0x45, 0, 1, 0x46]] :=
    Receiver.relabelled_delivered _ _ ideal (by decide) [⟨frTypeSingle, Units.encode [[0x45], [0x46]]⟩]
      ⟨List.prefix_refl _, by simp⟩
  exact ⟨rfl, ideal, sent, written, by rw [sent, written]; decide⟩

end Packethose
