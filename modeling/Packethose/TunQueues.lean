import Packethose.Lib.Counting
import Packethose.Lib.Descriptors
import Packethose.Lib.Runs
import Packethose.Isolation
import Packethose.Supervisor

set_option autoImplicit false

namespace Packethose

open Descriptors

def ifNamSize : Nat := 16
def iffTun : UInt16 := 0x0001
def iffNoPI : UInt16 := 0x1000
def iffMultiQueue : UInt16 := 0x0100
def iffVnetHdr : UInt16 := 0x4000

def tunOffloadBase : UInt32 := 0x01 ||| 0x02 ||| 0x04
def tunFUSO4 : UInt32 := 0x20
def tunFUSO6 : UInt32 := 0x40

structure Ifreq where
  name : Bytes
  flags : UInt16
deriving DecidableEq

def ifreqFor (name : String) (multiQueue vnetHdr : Bool) : Ifreq where
  name := name.toUTF8.data.toList.take ifNamSize
  flags := (iffTun ||| iffNoPI) ||| (if multiQueue then iffMultiQueue else 0) ||| (if vnetHdr then iffVnetHdr else 0)

structure TunFile where
  iface : Option Ifreq
  hdrLen : Option UInt32
  offload : Option UInt32
deriving DecidableEq

def offloadMask (uso : Bool) : UInt32 := if uso then tunOffloadBase ||| (tunFUSO4 ||| tunFUSO6) else tunOffloadBase

inductive QueuePoint where
  | opening
  | attaching (fd : Nat)
  | sizing (fd : Nat) (ifname : String)
  | offloading (fd : Nat) (ifname : String)
  | probing (fd : Nat) (ifname : String)
  | reverting (fd : Nat) (ifname : String)
  | abandoning (fd : Nat) (problem : String)

inductive TunPoint where
  | queue (point : QueuePoint)
  | unwinding (rest : List Nat) (problem : RunError)
  | failed (problem : RunError)
  | up
  | closing (rest : List Nat)
  | closed

structure TunQueue where
  fd : Nat
  ifname : String
  tun : KernelTUN

-- OpenKernelTUN, the queues it returns and closeAll. theirs are the descriptors
-- the rest of the process has opened and not closed.
structure TunSetup where
  fds : Table TunFile
  out : List TunQueue
  ifname : String
  point : TunPoint
  theirs : List Nat

inductive TunAction where
  | opened (fd : Nat)
  | attached (ifname : String)
  | accepted
  | refused (errno : String)
  | closeNext
  | setUSO (index : Nat) (enable refused : Bool)
  | shutdown
  | otherOpens (fd : Nat)
  | otherCloses (fd : Nat)

namespace TunSetup

variable (name : String) (queues : Int) (vnetHdr : Bool)

def start (theirs : List Nat) : TunSetup where
  fds := ⟨[], theirs⟩
  out := []
  ifname := ""
  point := if queues < 1 then .failed (.tooFewQueues name) else .queue .opening
  theirs := theirs

def setPoint (st : TunSetup) (point : TunPoint) : TunSetup := { st with point := point }

def ioctl (st : TunSetup) (fd : Nat) (change : TunFile → TunFile) (point : TunPoint) : TunSetup :=
  { st with fds := st.fds.update fd change, point := point }

def append (st : TunSetup) (q : TunQueue) : TunSetup :=
  { st with
    out := st.out ++ [q]
    ifname := orDefault st.ifname q.ifname
    point := if (st.out.length : Int) + 1 < queues then .queue .opening else .up }

def unwind (st : TunSetup) (problem : String) : TunSetup :=
  st.setPoint (.unwinding (st.out.map TunQueue.fd) (.openQueue name st.out.length problem))

def attach (st : TunSetup) (ifname : String) : Option TunSetup :=
  match st.point with
  | .queue (.attaching fd) =>
      let request := ifreqFor name (queues > 1) vnetHdr
      if vnetHdr then some (st.ioctl fd (fun file => { file with iface := some request }) (.queue (.sizing fd ifname)))
      else
        some ((st.ioctl fd (fun file => { file with iface := some request }) st.point).append queues
          ⟨fd, ifname, .openTunQueue false false⟩)
  | _ => none

def accept (st : TunSetup) : Option TunSetup :=
  match st.point with
  | .queue (.sizing fd ifname) =>
      some (st.ioctl fd (fun file => { file with hdrLen := some (.ofNat virtioNetHdrLen) }) (.queue (.offloading fd ifname)))
  | .queue (.offloading fd ifname) =>
      some (st.ioctl fd (fun file => { file with offload := some (offloadMask false) }) (.queue (.probing fd ifname)))
  | .queue (.probing fd ifname) =>
      some (st.ioctl fd (fun file => { file with offload := some (offloadMask true) }) (.queue (.reverting fd ifname)))
  | .queue (.reverting fd ifname) =>
      some ((st.ioctl fd (fun file => { file with offload := some (offloadMask false) }) st.point).append queues
        ⟨fd, ifname, .openTunQueue true true⟩)
  | _ => none

-- A refused probe means no UDP segmentation. The result of the call that takes
-- the probe back is ignored.
def refuse (st : TunSetup) (errno : String) : Option TunSetup :=
  match st.point with
  | .queue .opening => some (st.unwind name ("open /dev/net/tun: " ++ errno))
  | .queue (.attaching fd) => some (st.setPoint (.queue (.abandoning fd ("TUNSETIFF: " ++ errno))))
  | .queue (.sizing fd _) => some (st.setPoint (.queue (.abandoning fd ("TUNSETVNETHDRSZ: " ++ errno))))
  | .queue (.offloading fd _) => some (st.setPoint (.queue (.abandoning fd ("TUNSETOFFLOAD: " ++ errno))))
  | .queue (.probing fd ifname) => some (st.append queues ⟨fd, ifname, .openTunQueue true false⟩)
  | .queue (.reverting fd ifname) => some (st.append queues ⟨fd, ifname, (KernelTUN.openTunQueue true true).tunSetOffload true⟩)
  | _ => none

def closeNext (st : TunSetup) : Option TunSetup :=
  match st.point with
  | .queue (.abandoning fd problem) => some ({ st with fds := st.fds.close fd }.unwind name problem)
  | .unwinding (fd :: rest) problem => some { st with fds := st.fds.close fd, point := .unwinding rest problem }
  | .unwinding [] problem => some (st.setPoint (.failed problem))
  | .closing (fd :: rest) => some { st with fds := st.fds.close fd, point := .closing rest }
  | .closing [] => some (st.setPoint .closed)
  | _ => none

def setUSO (st : TunSetup) (index : Nat) (enable refused : Bool) : Option TunSetup :=
  match st.point with
  | .up =>
      (st.out[index]?).map fun q =>
        match q.tun.setUSO enable with
        | .error _ => st
        | .ok tun =>
            if q.tun.vnetHdr = false || refused then st
            else
              { st with
                fds := st.fds.update q.fd fun file => { file with offload := some (offloadMask enable) }
                out := st.out.set index { q with tun := tun } }
  | _ => none

def step (st : TunSetup) : TunAction → Option TunSetup
  | .opened fd =>
      match st.point with
      | .queue .opening =>
          (st.fds.acquire fd ⟨none, none, none⟩).map fun fds => { st with fds := fds, point := .queue (.attaching fd) }
      | _ => none
  | .attached ifname => st.attach name queues vnetHdr ifname
  | .accepted => st.accept queues
  | .refused errno => st.refuse name queues errno
  | .closeNext => st.closeNext name
  | .setUSO index enable refused => st.setUSO index enable refused
  | .shutdown =>
      match st.point with
      | .up => some (st.setPoint (.closing (st.out.map TunQueue.fd)))
      | _ => none
  | .otherOpens fd => (st.fds.acquireForeign fd).map fun fds => { st with fds := fds, theirs := st.theirs ++ [fd] }
  | .otherCloses fd =>
      if fd ∈ st.theirs then
        some { st with fds := st.fds.close fd, theirs := st.theirs.filter fun other => other ≠ fd }
      else none

end TunSetup

def QueuePoint.fd : QueuePoint → Option Nat
  | .opening => none
  | .attaching fd | .sizing fd _ | .offloading fd _ | .probing fd _ | .reverting fd _ | .abandoning fd _ => some fd

def TunPoint.holds (out : List Nat) : TunPoint → List Nat
  | .queue point => out ++ point.fd.toList
  | .up => out
  | .unwinding rest _ | .closing rest => rest
  | .failed _ | .closed => []

def TunPoint.ending : TunPoint → Bool
  | .queue _ | .up => false
  | _ => true

def TunPoint.problem : TunPoint → Option RunError
  | .unwinding _ problem | .failed problem => some problem
  | _ => none

section Configured

variable (name : String) (queues : Int) (vnetHdr : Bool)

structure TunFile.Serves (file : TunFile) (tun : KernelTUN) : Prop where
  header : tun.vnetHdr = vnetHdr
  iface : file.iface = some (ifreqFor name (queues > 1) vnetHdr)
  hdrLen : file.hdrLen = if vnetHdr then some (.ofNat virtioNetHdrLen) else none
  offload : file.offload = if vnetHdr then some (offloadMask tun.uso) else none

def QueuePoint.Prepared (file : TunFile) : QueuePoint → Prop
  | .opening | .abandoning _ _ => True
  | .attaching _ => file = ⟨none, none, none⟩
  | .sizing _ _ => vnetHdr = true ∧ file = ⟨some (ifreqFor name (queues > 1) vnetHdr), none, none⟩
  | .offloading _ _ =>
      vnetHdr = true ∧ file = ⟨some (ifreqFor name (queues > 1) vnetHdr), some (.ofNat virtioNetHdrLen), none⟩
  | .probing _ _ =>
      vnetHdr = true ∧
        file = ⟨some (ifreqFor name (queues > 1) vnetHdr), some (.ofNat virtioNetHdrLen), some (offloadMask false)⟩
  | .reverting _ _ =>
      vnetHdr = true ∧
        file = ⟨some (ifreqFor name (queues > 1) vnetHdr), some (.ofNat virtioNetHdrLen), some (offloadMask true)⟩

end Configured

namespace TunSetup

variable (name : String) (queues : Int) (vnetHdr : Bool)

structure Owned (st : TunSetup) (held : List Nat) : Prop where
  distinct : st.fds.Distinct
  foreign : st.fds.foreign = st.theirs
  numbers : st.fds.owned.map Prod.fst = held

def Served (st : TunSetup) : Prop :=
  ∀ (index : Nat) (q : TunQueue), st.out[index]? = some q →
    ∃ file, st.fds.owned[index]? = some (q.fd, file) ∧ TunFile.Serves name queues vnetHdr file q.tun

structure Holding (st : TunSetup) (fd : Nat) (file : TunFile) : Prop where
  owned : st.Owned (st.out.map TunQueue.fd ++ [fd])
  served : st.Served name queues vnetHdr
  room : (st.out.length : Int) < queues
  pending : st.fds.owned[st.out.length]? = some (fd, file)

structure Sound (st : TunSetup) : Prop where
  owned : st.Owned (st.point.holds (st.out.map TunQueue.fd))
  opening : st.point = .queue .opening → st.Served name queues vnetHdr ∧ (st.out.length : Int) < queues
  holding : ∀ point fd, st.point = .queue point → point.fd = some fd →
    ∃ file, st.Holding name queues vnetHdr fd file ∧ point.Prepared name queues vnetHdr file
  up : st.point = .up → st.Served name queues vnetHdr ∧ (st.out.length : Int) = queues ∧ 1 ≤ queues

structure Told (st : TunSetup) : Prop where
  named : st.ifname = (st.out.map TunQueue.ifname).foldl orDefault ""
  refused : ∀ problem, st.point.problem = some problem → (queues < 1 ∧ problem = .tooFewQueues name) ∨
    ((st.out.length : Int) < queues ∧ ∃ text, problem = .openQueue name st.out.length text)

section Steps

variable (st next : TunSetup)

theorem holding_ioctl (fd : Nat) (file : TunFile) (change : TunFile → TunFile) (point : TunPoint)
    (holding : st.Holding name queues vnetHdr fd file) :
    (st.ioctl fd change point).Holding name queues vnetHdr fd (change file) := by
  obtain ⟨⟨distinct, foreign, numbers⟩, served, room, pending⟩ := holding
  have updated := st.fds.update_at fd st.out.length file change distinct pending
  refine ⟨⟨st.fds.update_distinct fd change distinct, foreign, (st.fds.update_owned fd change).trans numbers⟩, ?_, room, ?_⟩
  · intro index q stored
    have inside : index < st.out.length := (List.getElem?_eq_some_iff.mp stored).1
    obtain ⟨old, found, serves⟩ := served index q stored
    refine ⟨old, ?_, serves⟩
    rw [ioctl, updated, Counting.get_set _ _ _ _ _ pending, if_neg (Nat.ne_of_lt inside)]
    exact found
  · rw [ioctl, updated, Counting.get_set _ _ _ _ _ pending, if_pos rfl]

theorem sound_point (fd : Nat) (file : TunFile) (point : QueuePoint) (holding : st.Holding name queues vnetHdr fd file)
    (mine : point.fd = some fd) (prepared : point.Prepared name queues vnetHdr file) :
    (st.setPoint (.queue point)).Sound name queues vnetHdr := by
  refine ⟨?_, ?_, ?_, fun up => by cases up⟩
  · rw [setPoint, TunPoint.holds, mine]
    exact ⟨holding.owned.distinct, holding.owned.foreign, holding.owned.numbers⟩
  · intro opening
    cases opening
    cases mine
  · intro other held here same
    cases here
    obtain rfl : fd = held := Option.some.inj (mine.symm.trans same)
    exact ⟨file, ⟨⟨holding.owned.distinct, holding.owned.foreign, holding.owned.numbers⟩, holding.served, holding.room,
      holding.pending⟩, prepared⟩

theorem served_append (fd : Nat) (file : TunFile) (ifname : String) (tun : KernelTUN) (holding : st.Holding name queues vnetHdr fd file)
    (serves : TunFile.Serves name queues vnetHdr file tun) : (st.append queues ⟨fd, ifname, tun⟩).Served name queues vnetHdr := by
  intro index q stored
  rcases Nat.lt_trichotomy index st.out.length with before | rfl | behind
  · exact holding.served index q (by simpa [append, List.getElem?_append_left before] using stored)
  · obtain rfl : ⟨fd, ifname, tun⟩ = q := by simpa [append] using stored
    exact ⟨file, holding.pending, serves⟩
  · have missing : (st.out ++ [⟨fd, ifname, tun⟩])[index]? = none := List.getElem?_eq_none (by simp; omega)
    exact absurd (missing.symm.trans stored) (by simp)

theorem sound_append (fd : Nat) (file : TunFile) (ifname : String) (tun : KernelTUN) (holding : st.Holding name queues vnetHdr fd file)
    (serves : TunFile.Serves name queues vnetHdr file tun) : (st.append queues ⟨fd, ifname, tun⟩).Sound name queues vnetHdr := by
  have served := served_append name queues vnetHdr st fd file ifname tun holding serves
  have room := holding.room
  have owned : (st.append queues ⟨fd, ifname, tun⟩).Owned (st.out.map TunQueue.fd ++ [fd]) :=
    ⟨holding.owned.distinct, holding.owned.foreign, holding.owned.numbers⟩
  by_cases more : (st.out.length : Int) + 1 < queues
  · have point : (st.append queues ⟨fd, ifname, tun⟩).point = .queue .opening := by simp [append, more]
    refine ⟨?_, fun _ => ⟨served, by simpa [append] using more⟩, fun other held here mine => ?_, fun up => ?_⟩
    · rw [point]
      simpa [append, TunPoint.holds, QueuePoint.fd] using owned
    · cases point.symm.trans here
      cases mine
    · cases point.symm.trans up
  · have point : (st.append queues ⟨fd, ifname, tun⟩).point = .up := by simp [append, more]
    refine ⟨?_, fun opening => ?_, fun other held here => ?_, fun _ => ⟨served, ?_, by omega⟩⟩
    · rw [point]
      simpa [append, TunPoint.holds] using owned
    · cases point.symm.trans opening
    · cases point.symm.trans here
    · simp only [append, List.length_append, List.length_singleton]
      omega

theorem sound_ending (point : TunPoint) (owned : st.Owned (point.holds (st.out.map TunQueue.fd)))
    (ending : point.ending = true) : (st.setPoint point).Sound name queues vnetHdr := by
  refine ⟨⟨owned.distinct, owned.foreign, owned.numbers⟩, fun here => ?_, fun other _ here => ?_, fun here => ?_⟩ <;>
    · rw [show point = _ from here] at ending
      cases ending

theorem owned_close (fd : Nat) (front back : List Nat) (owned : st.Owned (front ++ fd :: back)) :
    { st with fds := st.fds.close fd }.Owned (front ++ back) := by
  refine ⟨st.fds.close_distinct fd owned.distinct, ?_, st.fds.close_numbers fd front back owned.distinct owned.numbers⟩
  exact (st.fds.close_owned fd owned.distinct (by rw [owned.numbers]; simp)).trans owned.foreign

theorem sound_opened (fd : Nat) (fds : Table TunFile) (sound : st.Sound name queues vnetHdr) (here : st.point = .queue .opening)
    (acquired : st.fds.acquire fd ⟨none, none, none⟩ = some fds) :
    { st with fds := fds, point := .queue (.attaching fd) }.Sound name queues vnetHdr := by
  obtain ⟨served, room⟩ := sound.opening here
  have numbers := sound.owned.numbers
  rw [here, TunPoint.holds, QueuePoint.fd, Option.toList_none, List.append_nil] at numbers
  have distinct := st.fds.acquire_distinct fds fd _ sound.owned.distinct acquired
  obtain ⟨_, rfl⟩ : fd ∉ st.fds.numbers ∧ { st.fds with owned := st.fds.owned ++ [(fd, ⟨none, none, none⟩)] } = fds := by
    simpa [Table.acquire] using acquired
  have many : st.fds.owned.length = st.out.length := by simpa using congrArg List.length numbers
  refine sound_point name queues vnetHdr
    { st with fds := { st.fds with owned := st.fds.owned ++ [(fd, ⟨none, none, none⟩)] } } fd ⟨none, none, none⟩ (.attaching fd)
    ⟨⟨distinct, sound.owned.foreign, by simp [numbers]⟩, fun index q stored => ?_, room, by simp [← many]⟩ rfl rfl
  obtain ⟨file, found, serves⟩ := served index q stored
  exact ⟨file, (List.getElem?_append_left (List.getElem?_eq_some_iff.mp found).1).trans found, serves⟩

theorem sound_frame (sound : st.Sound name queues vnetHdr) (distinct : next.fds.Distinct) (foreign : next.fds.foreign = next.theirs)
    (files : next.fds.owned = st.fds.owned) (out : next.out = st.out) (point : next.point = st.point) :
    next.Sound name queues vnetHdr := by
  have served : st.Served name queues vnetHdr → next.Served name queues vnetHdr := by
    intro serves
    rw [Served, files, out]
    exact serves
  refine ⟨?_, fun here => ?_, fun other fd here mine => ?_, fun up => ?_⟩
  · rw [point, out]
    exact ⟨distinct, foreign, files ▸ sound.owned.numbers⟩
  · obtain ⟨serves, room⟩ := sound.opening (point.symm.trans here)
    exact ⟨served serves, out ▸ room⟩
  · obtain ⟨file, ⟨owned, serves, room, pending⟩, prepared⟩ := sound.holding other fd (point.symm.trans here) mine
    exact ⟨file, ⟨⟨distinct, foreign, by rw [files, out]; exact owned.numbers⟩, served serves, out ▸ room, by rw [files, out]; exact pending⟩,
      prepared⟩
  · obtain ⟨serves, full⟩ := sound.up (point.symm.trans up)
    exact ⟨served serves, out ▸ full⟩

theorem toggled_uso (tun toggled : KernelTUN) (enable : Bool) (header : tun.vnetHdr = true) (called : tun.setUSO enable = .ok toggled) :
    toggled.vnetHdr = true ∧ toggled.uso = enable := by
  simp only [KernelTUN.setUSO, header, Bool.true_eq_false, if_false] at called
  split_ifs at called
  cases called
  exact ⟨header, rfl⟩

theorem sound_toggled (sound : st.Sound name queues vnetHdr) (here : st.point = .up) (index : Nat) (q : TunQueue)
    (stored : st.out[index]? = some q) (tun : KernelTUN) (enable : Bool) (header : q.tun.vnetHdr = true)
    (called : q.tun.setUSO enable = .ok tun) :
    { st with
      fds := st.fds.update q.fd fun file => { file with offload := some (offloadMask enable) }
      out := st.out.set index { q with tun := tun } }.Sound name queues vnetHdr := by
  obtain ⟨served, full⟩ := sound.up here
  obtain ⟨file, found, serves⟩ := served index q stored
  obtain ⟨kept, uso⟩ := toggled_uso q.tun tun enable header called
  have updated := st.fds.update_at q.fd index file (fun file => { file with offload := some (offloadMask enable) })
    sound.owned.distinct found
  have numbers := sound.owned.numbers
  rw [here] at numbers
  have names := Counting.map_set st.out index q { q with tun := tun } TunQueue.fd stored rfl
  refine ⟨?_, fun opening => ?_, fun other fd queue => ?_, fun _ => ⟨fun other entry listed => ?_, by simpa using full⟩⟩
  · rw [here, names]
    exact ⟨st.fds.update_distinct q.fd _ sound.owned.distinct, sound.owned.foreign, (st.fds.update_owned q.fd _).trans numbers⟩
  · cases here.symm.trans opening
  · cases here.symm.trans queue
  · rw [Counting.get_set _ _ _ _ _ stored] at listed
    rw [updated, Counting.get_set _ _ _ _ _ found]
    split_ifs at listed ⊢ with same
    · obtain rfl := Option.some.inj listed
      refine ⟨_, rfl, kept.trans (header.symm.trans serves.header), serves.iface, serves.hdrLen, ?_⟩
      rw [← serves.header, header, uso]
      rfl
    · exact served other entry listed

inductive Effect : TunSetup → Prop where
  | opened (fd : Nat) (fds : Table TunFile) (opening : st.point = .queue .opening)
      (acquired : st.fds.acquire fd ⟨none, none, none⟩ = some fds) :
      Effect { st with fds := fds, point := .queue (.attaching fd) }
  | prepared (fd : Nat) (point after : QueuePoint) (change : TunFile → TunFile) (here : st.point = .queue point)
      (mine : point.fd = some fd) (still : after.fd = some fd)
      (prepares : ∀ file, point.Prepared name queues vnetHdr file → after.Prepared name queues vnetHdr (change file)) :
      Effect (st.ioctl fd change (.queue after))
  | ready (fd : Nat) (point : QueuePoint) (change : TunFile → TunFile) (ifname : String) (tun : KernelTUN)
      (here : st.point = .queue point) (mine : point.fd = some fd)
      (serves : ∀ file, point.Prepared name queues vnetHdr file → TunFile.Serves name queues vnetHdr (change file) tun) :
      Effect ((st.ioctl fd change st.point).append queues ⟨fd, ifname, tun⟩)
  | probed (fd : Nat) (point : QueuePoint) (ifname : String) (tun : KernelTUN) (here : st.point = .queue point)
      (mine : point.fd = some fd)
      (serves : ∀ file, point.Prepared name queues vnetHdr file → TunFile.Serves name queues vnetHdr file tun) :
      Effect (st.append queues ⟨fd, ifname, tun⟩)
  | abandoned (fd : Nat) (point : QueuePoint) (problem : String) (here : st.point = .queue point) (mine : point.fd = some fd) :
      Effect (st.setPoint (.queue (.abandoning fd problem)))
  | unopened (problem : String) (opening : st.point = .queue .opening) : Effect (st.unwind name problem)
  | dropped (fd : Nat) (problem : String) (here : st.point = .queue (.abandoning fd problem)) :
      Effect ({ st with fds := st.fds.close fd }.unwind name problem)
  | closed (fd : Nat) (after : TunPoint) (held : ∀ out, st.point.holds out = fd :: after.holds out)
      (ending : after.ending = true) (same : after.problem = st.point.problem) :
      Effect { st with fds := st.fds.close fd, point := after }
  | ended (after : TunPoint) (held : st.point.holds (st.out.map TunQueue.fd) = after.holds (st.out.map TunQueue.fd))
      (ending : after.ending = true) (same : after.problem = st.point.problem) : Effect (st.setPoint after)
  | toggled (index : Nat) (q : TunQueue) (tun : KernelTUN) (enable : Bool) (up : st.point = .up)
      (stored : st.out[index]? = some q) (header : q.tun.vnetHdr = true) (called : q.tun.setUSO enable = .ok tun) :
      Effect
        { st with
          fds := st.fds.update q.fd fun file => { file with offload := some (offloadMask enable) }
          out := st.out.set index { q with tun := tun } }
  | unchanged : Effect st
  | otherOpened (fd : Nat) (fds : Table TunFile) (acquired : st.fds.acquireForeign fd = some fds) :
      Effect { st with fds := fds, theirs := st.theirs ++ [fd] }
  | otherClosed (fd : Nat) (theirs : fd ∈ st.theirs) :
      Effect { st with fds := st.fds.close fd, theirs := st.theirs.filter fun other => other ≠ fd }

theorem attach_effect (ifname : String) (taken : st.attach name queues vnetHdr ifname = some next) :
    Effect name queues vnetHdr st next := by
  unfold attach at taken
  split at taken
  · rename_i fd here
    cases vnetHdr with
    | true =>
        obtain rfl := Option.some.inj taken
        exact .prepared fd _ (.sizing fd ifname) _ here rfl rfl fun file fresh => ⟨rfl, by rw [fresh]⟩
    | false =>
        obtain rfl := Option.some.inj taken
        exact .ready fd _ _ ifname _ here rfl fun file fresh => fresh ▸ ⟨rfl, rfl, rfl, rfl⟩
  · cases taken

theorem accept_effect (taken : st.accept queues = some next) : Effect name queues vnetHdr st next := by
  unfold accept at taken
  split at taken
  · rename_i fd ifname here
    obtain rfl := Option.some.inj taken
    exact .prepared fd _ (.offloading fd ifname) _ here rfl rfl fun file ⟨header, fresh⟩ => ⟨header, by rw [fresh]⟩
  · rename_i fd ifname here
    obtain rfl := Option.some.inj taken
    exact .prepared fd _ (.probing fd ifname) _ here rfl rfl fun file ⟨header, fresh⟩ => ⟨header, by rw [fresh]⟩
  · rename_i fd ifname here
    obtain rfl := Option.some.inj taken
    exact .prepared fd _ (.reverting fd ifname) _ here rfl rfl fun file ⟨header, fresh⟩ => ⟨header, by rw [fresh]⟩
  · rename_i fd ifname here
    obtain rfl := Option.some.inj taken
    exact .ready fd _ _ ifname _ here rfl (by rintro file ⟨rfl, rfl⟩; exact ⟨rfl, rfl, rfl, rfl⟩)
  · cases taken

theorem refuse_effect (errno : String) (taken : st.refuse name queues errno = some next) : Effect name queues vnetHdr st next := by
  unfold refuse at taken
  split at taken
  · rename_i here
    obtain rfl := Option.some.inj taken
    exact .unopened _ here
  · rename_i fd here
    obtain rfl := Option.some.inj taken
    exact .abandoned fd _ _ here rfl
  · rename_i fd _ here
    obtain rfl := Option.some.inj taken
    exact .abandoned fd _ _ here rfl
  · rename_i fd _ here
    obtain rfl := Option.some.inj taken
    exact .abandoned fd _ _ here rfl
  · rename_i fd ifname here
    obtain rfl := Option.some.inj taken
    exact .probed fd _ ifname _ here rfl (by rintro file ⟨rfl, rfl⟩; exact ⟨rfl, rfl, rfl, rfl⟩)
  · rename_i fd ifname here
    obtain rfl := Option.some.inj taken
    exact .probed fd _ ifname _ here rfl (by rintro file ⟨rfl, rfl⟩; exact ⟨rfl, rfl, rfl, rfl⟩)
  · cases taken

theorem close_effect (taken : st.closeNext name = some next) : Effect name queues vnetHdr st next := by
  unfold closeNext at taken
  split at taken
  · rename_i fd problem here
    obtain rfl := Option.some.inj taken
    exact .dropped fd problem here
  · rename_i fd rest problem here
    obtain rfl := Option.some.inj taken
    exact .closed fd (.unwinding rest problem) (fun out => by rw [here]; rfl) rfl (by rw [here]; rfl)
  · rename_i problem here
    obtain rfl := Option.some.inj taken
    exact .ended (.failed problem) (by rw [here]; rfl) rfl (by rw [here]; rfl)
  · rename_i fd rest here
    obtain rfl := Option.some.inj taken
    exact .closed fd (.closing rest) (fun out => by rw [here]; rfl) rfl (by rw [here]; rfl)
  · rename_i here
    obtain rfl := Option.some.inj taken
    exact .ended .closed (by rw [here]; rfl) rfl (by rw [here]; rfl)
  · cases taken

theorem uso_effect (index : Nat) (enable refused : Bool) (taken : st.setUSO index enable refused = some next) :
    Effect name queues vnetHdr st next := by
  unfold setUSO at taken
  split at taken
  · rename_i up
    obtain ⟨q, stored, same⟩ := Option.map_eq_some_iff.mp taken
    cases called : q.tun.setUSO enable with
    | error problem =>
        rw [called] at same
        exact same ▸ .unchanged
    | ok tun =>
        rw [called] at same
        dsimp only at same
        split_ifs at same with idle
        · exact same ▸ .unchanged
        · obtain ⟨header, _⟩ : q.tun.vnetHdr = true ∧ refused = false := by simpa using idle
          exact same ▸ .toggled index q tun enable up stored header called
  · cases taken

theorem step_effect (action : TunAction) (taken : st.step name queues vnetHdr action = some next) :
    Effect name queues vnetHdr st next := by
  cases action with
  | opened fd =>
      simp only [step] at taken
      split at taken
      · rename_i opening
        obtain ⟨fds, acquired, rfl⟩ := Option.map_eq_some_iff.mp taken
        exact .opened fd fds opening acquired
      · cases taken
  | attached ifname => exact attach_effect name queues vnetHdr st next ifname taken
  | accepted => exact accept_effect name queues vnetHdr st next taken
  | refused errno => exact refuse_effect name queues vnetHdr st next errno taken
  | closeNext => exact close_effect name queues vnetHdr st next taken
  | setUSO index enable refused => exact uso_effect name queues vnetHdr st next index enable refused taken
  | shutdown =>
      simp only [step] at taken
      split at taken
      · rename_i up
        obtain rfl := Option.some.inj taken
        exact .ended (.closing (st.out.map TunQueue.fd)) (by rw [up]; rfl) rfl (by rw [up]; rfl)
      · cases taken
  | otherOpens fd =>
      obtain ⟨fds, acquired, rfl⟩ := Option.map_eq_some_iff.mp taken
      exact .otherOpened fd fds acquired
  | otherCloses fd =>
      simp only [step] at taken
      split_ifs at taken with theirs
      obtain rfl := Option.some.inj taken
      exact .otherClosed fd theirs

theorem effect_sound (sound : st.Sound name queues vnetHdr) (effect : Effect name queues vnetHdr st next) :
    next.Sound name queues vnetHdr := by
  have owned := sound.owned
  cases effect with
  | opened fd fds opening acquired => exact sound_opened name queues vnetHdr st fd fds sound opening acquired
  | prepared fd point after change here mine still prepares =>
      obtain ⟨file, holding, fresh⟩ := sound.holding point fd here mine
      exact sound_point name queues vnetHdr _ fd _ after (holding_ioctl name queues vnetHdr st fd file change st.point holding) still
        (prepares file fresh)
  | ready fd point change ifname tun here mine serves =>
      obtain ⟨file, holding, fresh⟩ := sound.holding point fd here mine
      exact sound_append name queues vnetHdr _ fd _ ifname tun (holding_ioctl name queues vnetHdr st fd file change st.point holding)
        (serves file fresh)
  | probed fd point ifname tun here mine serves =>
      obtain ⟨file, holding, fresh⟩ := sound.holding point fd here mine
      exact sound_append name queues vnetHdr st fd file ifname tun holding (serves file fresh)
  | abandoned fd point problem here mine =>
      obtain ⟨file, holding, _⟩ := sound.holding point fd here mine
      exact sound_point name queues vnetHdr st fd file _ holding rfl trivial
  | unopened problem opening =>
      rw [opening, TunPoint.holds, QueuePoint.fd, Option.toList_none, List.append_nil] at owned
      exact sound_ending name queues vnetHdr st _ owned rfl
  | dropped fd problem here =>
      rw [here] at owned
      have left := owned_close st fd (st.out.map TunQueue.fd) [] owned
      rw [List.append_nil] at left
      exact sound_ending name queues vnetHdr _ _ left rfl
  | closed fd after held ending =>
      rw [held] at owned
      exact sound_ending name queues vnetHdr _ after (owned_close st fd [] _ owned) ending
  | ended after held ending =>
      rw [held] at owned
      exact sound_ending name queues vnetHdr st after owned ending
  | toggled index q tun enable up stored header called =>
      exact sound_toggled name queues vnetHdr st sound up index q stored tun enable header called
  | unchanged => exact sound
  | otherOpened fd fds acquired =>
      have distinct := st.fds.acquire_foreign_distinct fds fd owned.distinct acquired
      obtain ⟨_, rfl⟩ : fd ∉ st.fds.numbers ∧ { st.fds with foreign := st.fds.foreign ++ [fd] } = fds := by
        simpa [Table.acquireForeign] using acquired
      exact sound_frame name queues vnetHdr st _ sound distinct (congrArg (· ++ [fd]) owned.foreign) rfl rfl rfl
  | otherClosed fd theirs =>
      refine sound_frame name queues vnetHdr st _ sound (st.fds.close_distinct fd owned.distinct) ?_
        (st.fds.close_foreign fd owned.distinct (owned.foreign ▸ theirs)) rfl rfl
      simp [Table.close, owned.foreign]

theorem told_append (q : TunQueue) (named : st.ifname = (st.out.map TunQueue.ifname).foldl orDefault "") :
    (st.append queues q).Told name queues := by
  refine ⟨by simp [append, named], fun problem failed => ?_⟩
  simp only [append] at failed
  split_ifs at failed <;> cases failed

theorem told_unwind (problem : String) (named : st.ifname = (st.out.map TunQueue.ifname).foldl orDefault "")
    (room : (st.out.length : Int) < queues) : (st.unwind name problem).Told name queues :=
  ⟨named, fun _ failed => .inr ⟨room, problem, (Option.some.inj failed).symm⟩⟩

theorem effect_told (sound : st.Sound name queues vnetHdr) (told : st.Told name queues) (effect : Effect name queues vnetHdr st next) :
    next.Told name queues := by
  cases effect with
  | opened | prepared | abandoned => exact ⟨told.named, fun _ failed => by cases failed⟩
  | ready => exact told_append name queues _ _ told.named
  | probed => exact told_append name queues st _ told.named
  | unopened problem opening => exact told_unwind name queues st problem told.named (sound.opening opening).2
  | dropped fd problem here =>
      obtain ⟨_, holding, _⟩ := sound.holding _ fd here rfl
      exact told_unwind name queues _ problem told.named holding.room
  | closed _ after _ _ same | ended after _ _ same => exact ⟨told.named, fun raised failed => told.refused raised (same ▸ failed)⟩
  | toggled index q tun enable up stored =>
      have names := Counting.map_set st.out index q { q with tun := tun } TunQueue.ifname stored rfl
      refine ⟨told.named.trans (congrArg (List.foldl orDefault "") names.symm), fun raised failed => ?_⟩
      rw [show st.point = .up from up] at failed
      cases failed
  | unchanged | otherOpened | otherClosed => exact ⟨told.named, told.refused⟩

end Steps

theorem sound_preserved (guard : TunSetup → TunAction → Prop) :
    Runs.Preserved (step name queues vnetHdr) guard (Sound name queues vnetHdr) :=
  fun st action next sound _ taken => effect_sound name queues vnetHdr st next sound (step_effect name queues vnetHdr st next action taken)

theorem start_sound (theirs : List Nat) (apart : theirs.Nodup) : (start name queues theirs).Sound name queues vnetHdr := by
  have owned : (start name queues theirs).Owned [] := ⟨by simpa [Table.Distinct, Table.numbers, start] using apart, rfl, rfl⟩
  by_cases few : queues < 1
  · have point : (start name queues theirs).point = .failed (.tooFewQueues name) := if_pos few
    refine ⟨by rw [point]; exact owned, fun here => ?_, fun other fd here => ?_, fun up => ?_⟩
    · cases point.symm.trans here
    · cases point.symm.trans here
    · cases point.symm.trans up
  · have point : (start name queues theirs).point = .queue .opening := if_neg few
    refine ⟨by rw [point]; exact owned, fun _ => ⟨by simp [Served, start], by simp [start]; omega⟩, fun other fd here mine => ?_,
      fun up => ?_⟩
    · cases point.symm.trans here
      cases mine
    · cases point.symm.trans up

theorem told_preserved (guard : TunSetup → TunAction → Prop) :
    Runs.Preserved (step name queues vnetHdr) guard fun st => st.Sound name queues vnetHdr ∧ st.Told name queues := by
  rintro st action next ⟨sound, told⟩ permitted taken
  exact ⟨sound_preserved name queues vnetHdr guard st action next sound permitted taken,
    effect_told name queues vnetHdr st next sound told (step_effect name queues vnetHdr st next action taken)⟩

theorem start_told (theirs : List Nat) : (start name queues theirs).Told name queues := by
  refine ⟨rfl, fun problem failed => ?_⟩
  by_cases few : queues < 1
  · simp only [start, if_pos few] at failed
    exact .inl ⟨few, (Option.some.inj failed).symm⟩
  · simp only [start, if_neg few] at failed
    cases failed

theorem open_queues_named (host : Host) (multiQueue : Bool) (names : List String) (index : Nat) (ifname : String)
    (given : ∀ (offset : Nat) (found : String), names[offset]? = some found →
      host.tunSetIff (index + offset) name multiQueue vnetHdr = .ok found) (remaining : Nat) :
    openQueues host name multiQueue vnetHdr index (names.length + remaining) ifname =
      openQueues host name multiQueue vnetHdr (index + names.length) remaining (names.foldl orDefault ifname) := by
  induction names generalizing index ifname with
  | nil => simp
  | cons first rest ih =>
      have now := given 0 first rfl
      have later := ih (index + 1) (orDefault ifname first) fun offset found stored => by
        rw [show index + 1 + offset = index + (offset + 1) by omega]
        exact given (offset + 1) found stored
      rw [List.length_cons, show rest.length + 1 + remaining = rest.length + remaining + 1 by omega, openQueues]
      rw [Nat.add_zero] at now
      rw [now]
      simp only [Except.mapError, Except.bind]
      rw [later, List.foldl_cons, show index + 1 + rest.length = index + (rest.length + 1) by omega]

structure Witnessed (st : TunSetup) (host : Host) : Prop where
  opened : ∀ (index : Nat) (q : TunQueue), st.out[index]? = some q → host.tunSetIff index name (queues > 1) vnetHdr = .ok q.ifname
  refused : ∀ text, st.point = .failed (.openQueue name st.out.length text) →
    host.tunSetIff st.out.length name (queues > 1) vnetHdr = .error text

theorem open_kernel_tun (st : TunSetup) (host : Host) (witnessed : st.Witnessed name queues vnetHdr host) (many : 1 ≤ queues)
    (fits : (st.out.length : Int) ≤ queues) :
    openKernelTUN host name queues vnetHdr = openQueues host name (queues > 1) vnetHdr st.out.length
      (queues.toNat - st.out.length) ((st.out.map TunQueue.ifname).foldl orDefault "") := by
  have named := open_queues_named name vnetHdr host (queues > 1) (st.out.map TunQueue.ifname) 0 "" (fun offset found stored => by
    obtain ⟨q, listed, rfl⟩ := Option.map_eq_some_iff.mp ((List.getElem?_map ..).symm.trans stored)
    rw [Nat.zero_add]
    exact witnessed.opened offset q listed) (queues.toNat - st.out.length)
  rw [List.length_map, Nat.zero_add, show st.out.length + (queues.toNat - st.out.length) = queues.toNat by omega] at named
  rw [openKernelTUN, if_neg (by omega), named]

end TunSetup

def refusedQueueSteps : List TunAction :=
  [.opened 5, .attached "phose0", .accepted, .accepted, .refused "EINVAL", .otherCloses 3, .opened 3, .refused "EBUSY",
    .closeNext, .otherOpens 3, .closeNext, .closeNext]

end Packethose
