import Packethose.UdpFlows

set_option autoImplicit false

namespace Packethose

def udpBatchSize : Nat := 64

def rxBufLen : Nat := 65535

def cmsgBufLen : Nat := 1024

def sockaddrAnyLen : Nat := 112

def RawSockaddrAny.size : RawSockaddrAny → Nat
  | .inet4 _ _ => 16
  | .inet6 _ _ => 28
  | .other => 2

structure RxSlot where
  buf : Bytes
  name : RawSockaddrAny
  cbuf : Bytes
  iovlen : Nat
  namelen : Nat
  controllen : Nat
  len : Nat

structure UDPRxBatch where
  slots : List RxSlot

namespace RxSlot

def arm (s : RxSlot) : RxSlot :=
  { s with namelen := sockaddrAnyLen, controllen := s.cbuf.length, len := 0, iovlen := s.buf.length }

-- What the kernel does with a message: data that is too long is cut. A name
-- for which there is no room leaves the old one (in the kernel, its tail).
def fill (s : RxSlot) (a : Arrival) : RxSlot :=
  let payload := a.payload.take s.iovlen
  let control := a.control.take s.controllen
  { s with
    buf := payload ++ s.buf.drop payload.length
    name := if a.name.size ≤ s.namelen then a.name else s.name
    cbuf := control ++ s.cbuf.drop control.length
    namelen := a.name.size
    controllen := control.length
    len := payload.length }

def arrival (s : RxSlot) : Arrival := ⟨s.name, s.cbuf.take s.controllen, s.buf.take s.len⟩

end RxSlot

def Arrival.cut (a : Arrival) : Arrival := ⟨a.name, a.control.take cmsgBufLen, a.payload.take rxBufLen⟩

namespace UDPRxBatch

def newUDPRxBatch (n : Nat) : UDPRxBatch :=
  ⟨List.replicate n ⟨List.replicate rxBufLen 0, .other, List.replicate cmsgBufLen 0, rxBufLen, 0, 0, 0⟩⟩

def arm (b : UDPRxBatch) : UDPRxBatch := ⟨b.slots.map RxSlot.arm⟩

def fillAll : List RxSlot → List Arrival → List RxSlot
  | slot :: slots, a :: queued => slot.fill a :: fillAll slots queued
  | slots, _ => slots

def recvmmsg (b : UDPRxBatch) (queued : List Arrival) : UDPRxBatch := ⟨fillAll b.slots queued⟩

def arrivals (b : UDPRxBatch) (n : Nat) : List Arrival := (b.slots.take n).map RxSlot.arrival

def Sized (b : UDPRxBatch) : Prop :=
  b.slots.length = udpBatchSize ∧ ∀ slot ∈ b.slots, slot.buf.length = rxBufLen ∧ slot.cbuf.length = cmsgBufLen

end UDPRxBatch

-- udpAcceptLoop with the batch it reuses. Nothing writes to the slots before
-- the next call, so they are read at once.
structure BatchedRelay where
  relay : FlowRelay
  batch : UDPRxBatch

namespace BatchedRelay

def start : BatchedRelay := ⟨.start, .newUDPRxBatch udpBatchSize⟩

def receive (net : NetLib) (t : TPROXYListener) (st : BatchedRelay) (queued : List Arrival) : Option BatchedRelay :=
  if queued.length ≤ st.batch.slots.length then
    let filled := st.batch.arm.recvmmsg queued
    (st.relay.step net t (.receive (.batch (filled.arrivals queued.length)))).map fun relay => ⟨relay, filled⟩
  else none

def step (net : NetLib) (t : TPROXYListener) (st : BatchedRelay) : FlowAction → Option BatchedRelay
  | .receive (.batch queued) => st.receive net t queued
  | .receive result => (st.relay.step net t (.receive result)).map fun relay => ⟨relay, st.batch.arm⟩
  | action => (st.relay.step net t action).map fun relay => { st with relay := relay }

-- No UDP payload is longer than a buffer, and the two control messages the
-- sockets ask for fit.
def Fits (_ : BatchedRelay) : FlowAction → Prop
  | .receive (.batch queued) => ∀ a ∈ queued, a.payload.length ≤ rxBufLen ∧ a.control.length ≤ cmsgBufLen
  | _ => True

end BatchedRelay

theorem RxSlot.fill_armed (s : RxSlot) (a : Arrival) (buf : s.buf.length = rxBufLen) (cbuf : s.cbuf.length = cmsgBufLen) :
    (s.arm.fill a).arrival = a.cut ∧ (s.arm.fill a).buf.length = rxBufLen ∧ (s.arm.fill a).cbuf.length = cmsgBufLen := by
  have named : a.name.size ≤ sockaddrAnyLen := by cases a.name <;> simp [RawSockaddrAny.size, sockaddrAnyLen]
  refine ⟨?_, ?_, ?_⟩
  · simp [fill, arm, arrival, Arrival.cut, named, buf, cbuf]
  · simp [fill, arm, buf]
  · simp [fill, arm, cbuf]

namespace UDPRxBatch

theorem new_sized : (newUDPRxBatch udpBatchSize).Sized := by
  refine ⟨List.length_replicate, fun slot member => ?_⟩
  obtain rfl := List.eq_of_mem_replicate member
  exact ⟨List.length_replicate, List.length_replicate⟩

theorem arm_sized (b : UDPRxBatch) (sized : b.Sized) : b.arm.Sized := by
  refine ⟨List.length_map .. |>.trans sized.1, fun slot member => ?_⟩
  obtain ⟨old, listed, rfl⟩ := List.mem_map.mp member
  exact sized.2 old listed

theorem fill_all_armed (slots : List RxSlot) (queued : List Arrival) (room : queued.length ≤ slots.length)
    (sized : ∀ slot ∈ slots, slot.buf.length = rxBufLen ∧ slot.cbuf.length = cmsgBufLen) :
    ((fillAll (slots.map RxSlot.arm) queued).take queued.length).map RxSlot.arrival = queued.map Arrival.cut ∧
      (fillAll (slots.map RxSlot.arm) queued).length = slots.length ∧
      ∀ slot ∈ fillAll (slots.map RxSlot.arm) queued, slot.buf.length = rxBufLen ∧ slot.cbuf.length = cmsgBufLen := by
  induction slots generalizing queued with
  | nil =>
      obtain rfl : queued = [] := List.length_eq_zero_iff.mp (Nat.le_zero.mp room)
      exact ⟨rfl, rfl, by simp [fillAll]⟩
  | cons slot slots ih =>
      cases queued with
      | nil =>
          refine ⟨rfl, by simp [fillAll], fun other member => ?_⟩
          change other ∈ (slot :: slots).map RxSlot.arm at member
          obtain ⟨old, listed, rfl⟩ := List.mem_map.mp member
          exact sized old listed
      | cons a queued =>
          obtain ⟨buf, cbuf⟩ := sized slot (by simp)
          obtain ⟨read, keptBuf, keptCbuf⟩ := slot.fill_armed a buf cbuf
          obtain ⟨rest, length, kept⟩ := ih queued (by simpa using room) fun other member => sized other (by simp [member])
          refine ⟨?_, ?_, fun other member => ?_⟩
          · simp only [List.map_cons, fillAll, List.length_cons, List.take_succ_cons]
            rw [read, rest]
          · simp only [List.map_cons, fillAll, List.length_cons]
            rw [length]
          · rcases List.mem_cons.mp member with rfl | later
            · exact ⟨keptBuf, keptCbuf⟩
            · exact kept other later

theorem receive_exact (b : UDPRxBatch) (sized : b.Sized) (queued : List Arrival) (room : queued.length ≤ b.slots.length) :
    (b.arm.recvmmsg queued).arrivals queued.length = queued.map Arrival.cut ∧ (b.arm.recvmmsg queued).Sized := by
  obtain ⟨read, length, kept⟩ := fill_all_armed b.slots queued room sized.2
  exact ⟨read, length.trans sized.1, kept⟩

end UDPRxBatch

theorem Arrival.cut_short (queued : List Arrival)
    (fits : ∀ a ∈ queued, a.payload.length ≤ rxBufLen ∧ a.control.length ≤ cmsgBufLen) : queued.map Arrival.cut = queued := by
  conv_rhs => rw [← List.map_id' queued]
  refine List.map_congr_left fun a member => ?_
  obtain ⟨payload, control⟩ := fits a member
  rw [cut, List.take_of_length_le payload, List.take_of_length_le control]

namespace BatchedRelay

variable (net : NetLib) (t : TPROXYListener)

theorem step_simulated (st next : BatchedRelay) (action : FlowAction) (sized : st.batch.Sized) (fits : st.Fits action)
    (taken : st.step net t action = some next) :
    st.relay.step net t action = some next.relay ∧ next.batch.Sized := by
  have plain : ∀ batch : UDPRxBatch, batch.Sized →
      ((st.relay.step net t action).map fun relay => (⟨relay, batch⟩ : BatchedRelay)) = some next →
      st.relay.step net t action = some next.relay ∧ next.batch.Sized := by
    intro batch kept stepped
    obtain ⟨relay, same, rfl⟩ := Option.map_eq_some_iff.mp stepped
    exact ⟨same, kept⟩
  cases action with
  | receive result =>
      cases result with
      | batch queued =>
          simp only [step, receive] at taken
          split_ifs at taken with room
          obtain ⟨read, kept⟩ := st.batch.receive_exact sized queued room
          rw [read, Arrival.cut_short queued fits] at taken
          exact plain _ kept taken
      | errno => exact plain _ (st.batch.arm_sized sized) taken
      | failed => exact plain _ (st.batch.arm_sized sized) taken
  | _ => exact plain _ sized taken

theorem step_lifted (st : BatchedRelay) (relay : FlowRelay) (action : FlowAction) (sized : st.batch.Sized) (fits : st.Fits action)
    (room : ∀ queued, action = .receive (.batch queued) → queued.length ≤ udpBatchSize)
    (taken : st.relay.step net t action = some relay) :
    ∃ next, st.step net t action = some next ∧ next.relay = relay ∧ next.batch.Sized := by
  cases action with
  | receive result =>
      cases result with
      | batch queued =>
          have slots : queued.length ≤ st.batch.slots.length := by
            rw [sized.1]
            exact room queued rfl
          obtain ⟨read, kept⟩ := st.batch.receive_exact sized queued slots
          refine ⟨⟨relay, st.batch.arm.recvmmsg queued⟩, ?_, rfl, kept⟩
          simp only [step, receive]
          rw [if_pos slots, read, Arrival.cut_short queued fits, taken]
          rfl
      | errno => exact ⟨⟨relay, st.batch.arm⟩, by simp only [step, taken, Option.map_some], rfl, st.batch.arm_sized sized⟩
      | failed => exact ⟨⟨relay, st.batch.arm⟩, by simp only [step, taken, Option.map_some], rfl, st.batch.arm_sized sized⟩
  | _ => exact ⟨{ st with relay := relay }, by simp only [step, taken, Option.map_some], rfl, sized⟩

theorem run_lifted (st : BatchedRelay) (sized : st.batch.Sized) (trace : List (FlowRelay × FlowAction)) (final : FlowRelay)
    (run : Runs.Run (FlowRelay.step net t) st.relay trace final)
    (room : ∀ entry ∈ trace, ∀ queued, entry.2 = .receive (.batch queued) → queued.length ≤ udpBatchSize ∧
      ∀ a ∈ queued, a.payload.length ≤ rxBufLen ∧ a.control.length ≤ cmsgBufLen) :
    ∃ lifted last, Runs.Run (step net t) st lifted last ∧ Runs.Allowed Fits lifted ∧
      lifted.map (fun entry => (entry.1.relay, entry.2)) = trace ∧ last.relay = final := by
  generalize origin : st.relay = relay at run
  induction run generalizing st with
  | nil state => exact ⟨[], st, .nil st, by simp [Runs.Allowed], rfl, origin⟩
  | cons state next final action rest taken tail ih =>
      subst origin
      have fits : st.Fits action := by
        unfold Fits
        split
        · rename_i queued
          exact (room _ List.mem_cons_self queued rfl).2
        · trivial
      obtain ⟨after, stepped, same, kept⟩ := st.step_lifted net t next action sized fits
        (fun queued isBatch => (room _ List.mem_cons_self queued isBatch).1) taken
      obtain ⟨lifted, last, later, allowed, alike, ended⟩ := ih after kept (fun entry member => room entry (by simp [member])) same
      refine ⟨(st, action) :: lifted, last, .cons st after last action lifted stepped later, ?_, by simp [alike], ended⟩
      intro entry member
      rcases List.mem_cons.mp member with rfl | inside
      · exact fits
      · exact allowed entry inside

-- The accept loop over its reused buffers does what it would do were every
-- datagram handed to it whole: nothing of an earlier batch is ever seen.
theorem batch_reuse_exact (trace : List (BatchedRelay × FlowAction)) (final : BatchedRelay)
    (run : Runs.Run (step net t) start trace final) (fits : Runs.Allowed Fits trace) :
    Runs.Run (FlowRelay.step net t) .start (trace.map fun entry => (entry.1.relay, entry.2)) final.relay := by
  have preserved : Runs.Preserved (step net t) Fits fun st => st.batch.Sized :=
    fun st action next sized fit taken => (st.step_simulated net t next action sized fit taken).2
  exact Runs.run_simulated BatchedRelay.relay preserved
    (fun st action next sized fit taken => (st.step_simulated net t next action sized fit taken).1) run fits UDPRxBatch.new_sized

end BatchedRelay

def slotSteps : List FlowAction :=
  let first : Arrival := ⟨tunnelSource, plainControl 1, [7, 8]⟩
  [.check, .receive (.batch [first]), .take (.opened 0), .stamp, .store, .mark true, .write true, .take (.opened 0), .check,
    .receive (.batch [{ first with payload := [9] }]), .take (.opened 0), .stamp, .store, .mark true, .write true]

theorem batch_reuse_exact_slot :
    ∃ trace final, Runs.Run (BatchedRelay.step plainNet tunnelListener) .start trace final ∧
      Runs.Run (FlowRelay.step plainNet tunnelListener) .start (trace.map fun entry => (entry.1.relay, entry.2)) final.relay ∧
      trace.map Prod.snd = slotSteps ∧ final.relay.forwarded.map (fun sent => sent.item.payload) = [[7, 8], [9]] := by
  have observed : (Runs.execute (FlowRelay.step plainNet tunnelListener) (fun _ _ => True) .start slotSteps).map
      (fun st => st.forwarded.map fun sent => sent.item.payload) = some [[7, 8], [9]] := by
    decide +kernel
  obtain ⟨flat, relay, run, _, actions, sent⟩ := Runs.execute_seen _ _ _ slotSteps observed
  have room : ∀ entry ∈ flat, ∀ queued, entry.2 = .receive (.batch queued) → queued.length ≤ udpBatchSize ∧
      ∀ a ∈ queued, a.payload.length ≤ rxBufLen ∧ a.control.length ≤ cmsgBufLen := by
    intro entry member queued isBatch
    have listed : entry.2 ∈ slotSteps := actions ▸ List.mem_map_of_mem member
    rw [isBatch] at listed
    simp only [slotSteps, List.mem_cons, FlowAction.receive.injEq, BatchRead.batch.injEq, reduceCtorEq, false_or, or_false,
      List.not_mem_nil] at listed
    rcases listed with rfl | rfl <;> simp [udpBatchSize, rxBufLen, cmsgBufLen, plainControl, controlOf, plainAddr]
  obtain ⟨trace, final, lifted, allowed, alike, rfl⟩ := BatchedRelay.run_lifted plainNet tunnelListener .start UDPRxBatch.new_sized flat
    relay run room
  refine ⟨trace, final, lifted, BatchedRelay.batch_reuse_exact plainNet tunnelListener trace final lifted allowed, ?_, sent⟩
  rw [← actions, ← alike, List.map_map]
  rfl

end Packethose
