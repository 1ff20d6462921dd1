import Packethose.LaneRoundTrip

set_option autoImplicit false

namespace Packethose

def maxBatch : Nat := 32

inductive TunRead where
  | got (packet : Bytes)
  | again
  | interrupted
  | failed
deriving DecidableEq

inductive TunPoll where
  | ready
  | interrupted
  | failed
deriving DecidableEq

-- The calls still to come. Where they end the reader is still waiting.
structure TunCalls where
  reads : List TunRead
  polls : List TunPoll

inductive FirstRead where
  | got (packet : Bytes) (rest : TunCalls)
  | failed (rest : TunCalls)
  | waiting

namespace TunCalls

def readFirst : List TunRead → List TunPoll → FirstRead
  | [], _ => .waiting
  | .got packet :: reads, polls => .got packet ⟨reads, polls⟩
  | .again :: _, [] => .waiting
  | .again :: reads, .failed :: polls => .failed ⟨reads, polls⟩
  | .again :: reads, _ :: polls => readFirst reads polls
  | .interrupted :: reads, polls => readFirst reads polls
  | .failed :: reads, polls => .failed ⟨reads, polls⟩

-- Any error ends the draining half and is forgotten.
def drain : Nat → List TunRead → List Bytes × List TunRead
  | 0, reads => ([], reads)
  | _ + 1, [] => ([], [])
  | room + 1, .got packet :: reads => (packet :: (drain room reads).1, (drain room reads).2)
  | _ + 1, _ :: reads => ([], reads)

def readBatch (maxRead : Nat) (calls : TunCalls) : Option (ReadResult (List Bytes) × TunCalls) :=
  match readFirst calls.reads calls.polls with
  | .waiting => none
  | .failed rest => some (.failed, rest)
  | .got packet rest =>
      let (more, reads) := drain (maxBatch - 1) rest.reads
      some (.got ((packet :: more).map (List.take maxRead)), ⟨reads, rest.polls⟩)

def batches (maxRead : Nat) : Nat → TunCalls → List (ReadResult (List Bytes))
  | 0, _ => []
  | calls + 1, script =>
      match script.readBatch maxRead with
      | none => []
      | some (result, rest) => result :: batches maxRead calls rest

def readBatches (maxRead : Nat) (script : TunCalls) : List (ReadResult (List Bytes)) := batches maxRead script.reads.length script

def readPackets (maxRead : Nat) : List TunRead → List (ReadResult Bytes)
  | [] => []
  | .got packet :: reads => .got (packet.take maxRead) :: readPackets maxRead reads
  | .interrupted :: reads => readPackets maxRead reads
  | _ :: reads => .failed :: readPackets maxRead reads

def arrivals (reads : List TunRead) : List Bytes :=
  reads.filterMap fun
    | .got packet => some packet
    | _ => none

theorem read_first_arrivals (reads : List TunRead) (polls : List TunPoll) :
    (∀ packet rest, readFirst reads polls = .got packet rest →
      arrivals reads = packet :: arrivals rest.reads ∧ rest.reads.length < reads.length) ∧
    ∀ rest, readFirst reads polls = .failed rest → arrivals reads = arrivals rest.reads ∧ rest.reads.length < reads.length := by
  fun_induction readFirst reads polls with
  | case1 | case2 | case3 | case4 | case7 => simp [arrivals]
  | case5 reads poll polls _ ih | case6 reads polls ih =>
      obtain ⟨gets, fails⟩ := ih
      refine ⟨fun packet rest done => ?_, fun rest done => ?_⟩
      · obtain ⟨same, shorter⟩ := gets packet rest done
        exact ⟨by simpa [arrivals] using same, Nat.lt_succ_of_lt shorter⟩
      · obtain ⟨same, shorter⟩ := fails rest done
        exact ⟨by simpa [arrivals] using same, Nat.lt_succ_of_lt shorter⟩

theorem drain_arrivals (room : Nat) (reads : List TunRead) :
    arrivals reads = (drain room reads).1 ++ arrivals (drain room reads).2 ∧ (drain room reads).1.length ≤ room ∧
      (drain room reads).2.length ≤ reads.length := by
  fun_induction drain room reads with
  | case1 | case2 => simp
  | case3 room packet reads ih =>
      obtain ⟨same, few, shorter⟩ := ih
      refine ⟨?_, by simpa using few, by simp; omega⟩
      simpa [arrivals] using same
  | case4 room first reads other =>
      refine ⟨?_, by simp, by simp⟩
      cases first with
      | got packet => exact absurd rfl (other packet)
      | again | interrupted | failed => simp [arrivals]

theorem read_batch_arrivals (maxRead : Nat) (script rest : TunCalls) (result : ReadResult (List Bytes))
    (called : script.readBatch maxRead = some (result, rest)) :
    rest.reads.length < script.reads.length ∧
      ((result = .failed ∧ arrivals script.reads = arrivals rest.reads) ∨
        ∃ packets, result = .got (packets.map (List.take maxRead)) ∧ packets ≠ [] ∧ packets.length ≤ maxBatch ∧
          arrivals script.reads = packets ++ arrivals rest.reads) := by
  obtain ⟨gets, fails⟩ := read_first_arrivals script.reads script.polls
  unfold readBatch at called
  cases first : readFirst script.reads script.polls with
  | waiting =>
      rw [first] at called
      cases called
  | failed later =>
      rw [first] at called
      obtain ⟨rfl, rfl⟩ := Prod.mk.inj (Option.some.inj called)
      obtain ⟨same, shorter⟩ := fails later first
      exact ⟨shorter, .inl ⟨rfl, same⟩⟩
  | got packet later =>
      rw [first] at called
      obtain ⟨rfl, rfl⟩ := Prod.mk.inj (Option.some.inj called)
      obtain ⟨same, shorter⟩ := gets packet later first
      obtain ⟨drained, few, left⟩ := drain_arrivals (maxBatch - 1) later.reads
      refine ⟨Nat.lt_of_le_of_lt left shorter, .inr ⟨packet :: (drain (maxBatch - 1) later.reads).1, rfl, by simp, ?_, ?_⟩⟩
      · simp only [List.length_cons, maxBatch] at few ⊢
        omega
      · rw [same, List.cons_append, ← drained]

theorem batches_arrivals (maxRead calls : Nat) (script : TunCalls) :
    packetsRead ((batches maxRead calls script).map .batch) <+: (arrivals script.reads).map (List.take maxRead) := by
  induction calls generalizing script with
  | zero => exact List.nil_prefix
  | succ calls ih =>
      rw [batches]
      cases called : script.readBatch maxRead with
      | none => exact List.nil_prefix
      | some outcome =>
          obtain ⟨result, rest⟩ := outcome
          obtain ⟨_, ⟨rfl, _⟩ | ⟨packets, rfl, _, _, same⟩⟩ := read_batch_arrivals maxRead script rest result called
          · exact List.nil_prefix
          · rw [same, List.map_append]
            exact (List.prefix_append_right_inj _).mpr (ih rest)

structure Working (script : TunCalls) : Prop where
  reads : .failed ∉ script.reads
  polls : .failed ∉ script.polls
  woken : script.reads.count .again ≤ script.polls.length

theorem read_first_working (reads : List TunRead) (polls : List TunPoll) (working : Working ⟨reads, polls⟩) :
    (readFirst reads polls = .waiting → arrivals reads = []) ∧ (∀ rest, readFirst reads polls ≠ .failed rest) ∧
      ∀ packet rest, readFirst reads polls = .got packet rest → Working rest := by
  obtain ⟨sound, awake, woken⟩ := working
  fun_induction readFirst reads polls with
  | case1 => simp [arrivals]
  | case2 packet reads polls =>
      refine ⟨by simp, by simp, fun _ rest done => ?_⟩
      cases done
      exact ⟨fun listed => sound (by simp [listed]), awake, by simpa using woken⟩
  | case3 => simp at woken
  | case4 => simp at awake
  | case5 reads poll polls _ ih =>
      obtain ⟨waits, fails, gets⟩ := ih (fun listed => sound (by simp [listed])) (fun listed => awake (by simp [listed]))
        (by simpa using woken)
      exact ⟨fun waiting => by simpa [arrivals] using waits waiting, fails, gets⟩
  | case6 reads polls ih =>
      obtain ⟨waits, fails, gets⟩ := ih (fun listed => sound (by simp [listed])) awake (by simpa using woken)
      exact ⟨fun waiting => by simpa [arrivals] using waits waiting, fails, gets⟩
  | case7 => simp at sound

theorem drain_sublist (room : Nat) (reads : List TunRead) : (drain room reads).2.Sublist reads := by
  fun_induction drain room reads with
  | case1 | case2 => exact List.Sublist.refl _
  | case3 room packet reads ih => exact ih.cons _
  | case4 => exact List.sublist_cons_self _ _

theorem read_batch_working (maxRead : Nat) (script : TunCalls) (working : script.Working) :
    (script.readBatch maxRead = none → arrivals script.reads = []) ∧
      ∀ result rest, script.readBatch maxRead = some (result, rest) → result ≠ .failed ∧ rest.Working := by
  obtain ⟨waits, fails, gets⟩ := read_first_working script.reads script.polls working
  unfold readBatch
  cases first : readFirst script.reads script.polls with
  | waiting => exact ⟨fun _ => waits first, by simp⟩
  | failed rest => exact absurd first (fails rest)
  | got packet later =>
      refine ⟨by simp, fun result rest called => ?_⟩
      obtain ⟨rfl, rfl⟩ := Prod.mk.inj (Option.some.inj called)
      obtain ⟨sound, awake, woken⟩ := gets packet later first
      have fewer := drain_sublist (maxBatch - 1) later.reads
      exact ⟨by simp, fun listed => sound (fewer.subset listed), awake, Nat.le_trans (fewer.count_le _) woken⟩

theorem working_batches (maxRead calls : Nat) (script : TunCalls) (working : script.Working) (enough : script.reads.length ≤ calls) :
    packetsRead ((batches maxRead calls script).map .batch) = (arrivals script.reads).map (List.take maxRead) := by
  induction calls generalizing script with
  | zero =>
      have empty : script.reads = [] := List.length_eq_zero_iff.mp (Nat.le_zero.mp enough)
      rw [empty]
      rfl
  | succ calls ih =>
      obtain ⟨waits, goes⟩ := read_batch_working maxRead script working
      rw [batches]
      cases called : script.readBatch maxRead with
      | none =>
          rw [waits called]
          rfl
      | some outcome =>
          obtain ⟨result, rest⟩ := outcome
          obtain ⟨sound, later⟩ := goes result rest called
          obtain ⟨shorter, ⟨failed, _⟩ | ⟨packets, rfl, _, _, same⟩⟩ := read_batch_arrivals maxRead script rest result called
          · exact absurd failed sound
          · rw [same, List.map_append, ← ih rest later (by omega)]
            rfl

theorem batches_filled (maxRead calls : Nat) (script : TunCalls) (result : ReadResult (List Bytes))
    (returned : result ∈ batches maxRead calls script) :
    result = .failed ∨ ∃ packets, result = .got (packets.map (List.take maxRead)) ∧ packets ≠ [] ∧ packets.length ≤ maxBatch ∧
      packets ⊆ arrivals script.reads := by
  induction calls generalizing script with
  | zero => simp [batches] at returned
  | succ calls ih =>
      rw [batches] at returned
      cases called : script.readBatch maxRead with
      | none => simp [called] at returned
      | some outcome =>
          obtain ⟨first, rest⟩ := outcome
          simp only [called, List.mem_cons] at returned
          obtain ⟨_, ⟨rfl, same⟩ | ⟨packets, rfl, filled, few, same⟩⟩ := read_batch_arrivals maxRead script rest first called
          · rcases returned with rfl | later
            · exact .inl rfl
            · rw [same]
              exact ih rest later
          · rcases returned with rfl | later
            · exact .inr ⟨packets, rfl, filled, few, by simp [same]⟩
            · rcases ih rest later with failed | ⟨others, got, filled, few, inside⟩
              · exact .inl failed
              · exact .inr ⟨others, got, filled, few, by rw [same]; exact fun _ listed => List.mem_append_right _ (inside listed)⟩

theorem read_packets_arrivals (maxRead : Nat) (reads : List TunRead) (blocking : .again ∉ reads) (sound : .failed ∉ reads) :
    packetsRead ((readPackets maxRead reads).map .plain) = (arrivals reads).map (List.take maxRead) := by
  fun_induction readPackets maxRead reads with
  | case1 => rfl
  | case2 packet reads ih =>
      simpa [packetsRead, LaneRead.packets, arrivals] using
        ih (fun listed => blocking (by simp [listed])) (fun listed => sound (by simp [listed]))
  | case3 reads ih =>
      simpa [arrivals] using ih (fun listed => blocking (by simp [listed])) (fun listed => sound (by simp [listed]))
  | case4 first reads other interrupted ih =>
      cases first with
      | got packet => exact absurd rfl (other packet)
      | interrupted => exact absurd rfl interrupted
      | again | failed => simp at blocking sound

theorem short_uncut (aead : Option AEAD) (packet : Bytes) (short : packet.length ≤ maxFrame - 2) :
    packet.take (laneMaxRead (aead.map FrameAEAD.newFrameAEAD)) = packet := by
  apply List.take_of_length_le
  refine Nat.le_trans short ?_
  cases aead <;> simp [laneMaxRead, maxPkt, maxFrame, FrameAEAD.overhead, aeadOverhead]

theorem short_arrivals (aead : Option AEAD) (packets : List Bytes) (short : ∀ packet ∈ packets, packet.length ≤ maxFrame - 2) :
    packets.map (List.take (laneMaxRead (aead.map FrameAEAD.newFrameAEAD))) = packets := by
  rw [List.map_congr_left fun packet listed => short_uncut aead packet (short packet listed), List.map_id']

theorem batches_fit (aead : Option AEAD) (script : TunCalls) (calls : Nat)
    (short : ∀ packet ∈ arrivals script.reads, packet.length ≤ maxFrame - 2) (read : LaneRead)
    (returned : read ∈ (batches (laneMaxRead (aead.map FrameAEAD.newFrameAEAD)) calls script).map LaneRead.batch) :
    read.Fits (laneMaxRead (aead.map FrameAEAD.newFrameAEAD)) (maxFrame - 2) := by
  obtain ⟨result, listed, rfl⟩ := List.mem_map.mp returned
  rcases batches_filled _ calls script result listed with rfl | ⟨packets, rfl, _, _, inside⟩
  · trivial
  · have bounded : ∀ packet ∈ packets, packet.length ≤ maxFrame - 2 := fun packet member => short packet (inside member)
    rw [short_arrivals aead packets bounded]
    cases packets with
    | nil => simp [LaneRead.Fits]
    | cons first more =>
        cases more with
        | nil =>
            have uncut := short_uncut aead first (bounded first (by simp))
            exact (congrArg List.length uncut).symm.trans_le (List.length_take_le _ _)
        | cons second more => exact bounded

theorem read_packets_fit (maxRead bound : Nat) (reads : List TunRead) (read : LaneRead)
    (returned : read ∈ (readPackets maxRead reads).map LaneRead.plain) : read.Fits maxRead bound := by
  fun_induction readPackets maxRead reads with
  | case1 => simp at returned
  | case2 packet reads ih =>
      rcases List.mem_cons.mp returned with rfl | later
      · simp [LaneRead.Fits]
      · exact ih later
  | case3 reads ih => exact ih returned
  | case4 first reads _ _ ih =>
      rcases List.mem_cons.mp returned with rfl | later
      · trivial
      · exact ih later

def burstScript : TunCalls where
  reads := [.again, .interrupted, .got [1, 2], .got [3], .got [4, 5, 6], .again, .got [7, 8], .again]
  polls := [.interrupted, .ready, .ready]

end TunCalls

end Packethose
