import Packethose.Lib.Buckets
import Packethose.Lib.Runs
import Packethose.Lib.Tables
import Packethose.FileConfig

set_option autoImplicit false

namespace Packethose

open Buckets (Bucket)

def defaultPerIPPerSec : Rat := 10
def defaultPerIPBurst : Int := 20
def defaultMaxInFlight : Int := 256
def defaultMaxIPEntries : Int := 8192
def ipEntryTTL : Nat := 300 * 1000000000
def ipGCInterval : Nat := 60 * 1000000000

structure IPLimiterEntry where
  lim : Bucket
  seen : Nat
deriving DecidableEq

-- Times are nanoseconds since the zero Time, which lastGC starts with. sem is
-- how many permits are in the channel and semCap its capacity.
structure ConnLimiter where
  disabled : Bool
  perIPRate : Rat
  perIPBurst : Int
  maxEntries : Int
  limiters : Table String IPLimiterEntry
  lastGC : Nat
  semCap : Nat
  sem : Nat

def newConnLimiter (cfg : RateLimitConfig) : ConnLimiter :=
  if cfg.disabled then
    { disabled := true
      perIPRate := 0
      perIPBurst := 0
      maxEntries := 0
      limiters := ∅
      lastGC := 0
      semCap := 0
      sem := 0 }
  else
    { disabled := false
      perIPRate := if cfg.perIPPerSec ≤ 0 then defaultPerIPPerSec else cfg.perIPPerSec
      perIPBurst := if cfg.perIPBurst ≤ 0 then defaultPerIPBurst else cfg.perIPBurst
      maxEntries := if cfg.maxIPEntries ≤ 0 then defaultMaxIPEntries else cfg.maxIPEntries
      limiters := ∅
      lastGC := 0
      semCap := (if cfg.maxInFlight ≤ 0 then defaultMaxInFlight else cfg.maxInFlight).toNat
      sem := 0 }

-- A call of allowIP, with the orders in which its two loops over the map meet
-- the entries.
structure LimiterCall where
  ip : String
  now : Nat
  gcOrder : List (String × IPLimiterEntry)
  evictOrder : List (String × IPLimiterEntry)

def IPLimiterEntry.expired (now : Nat) (e : IPLimiterEntry) : Bool := decide (now - e.seen > ipEntryTTL)

def older (found : String × Nat) (row : String × IPLimiterEntry) : String × Nat :=
  if found.1 = "" ∨ row.2.seen < found.2 then (row.1, row.2.seen) else found

namespace ConnLimiter

def tickRate (l : ConnLimiter) : Rat := l.perIPRate / 1000000000

def burst (l : ConnLimiter) : Rat := l.perIPBurst

def size (l : ConnLimiter) : Nat := Table.size l.limiters

def gcLocked (l : ConnLimiter) (order : List (String × IPLimiterEntry)) (now : Nat) : ConnLimiter :=
  { l with
    limiters := Table.dropAll l.limiters ((order.filter fun row => row.2.expired now).map Prod.fst)
    lastGC := now }

def evictOldestLocked (l : ConnLimiter) (order : List (String × IPLimiterEntry)) : ConnLimiter :=
  let oldestIP := (order.foldl older ("", 0)).1
  if oldestIP ≠ "" then { l with limiters := l.limiters.erase oldestIP } else l

def swept (l : ConnLimiter) (c : LimiterCall) : ConnLimiter :=
  if c.now - l.lastGC ≥ ipGCInterval then l.gcLocked c.gcOrder c.now else l

def room (l : ConnLimiter) (c : LimiterCall) : ConnLimiter :=
  if ((l.swept c).limiters.lookup c.ip).isNone ∧ ((l.swept c).size : Int) ≥ l.maxEntries then
    (l.swept c).evictOldestLocked c.evictOrder
  else l.swept c

def bucket (l : ConnLimiter) (c : LimiterCall) : Bucket :=
  (((l.swept c).limiters.lookup c.ip).map IPLimiterEntry.lim).getD (Buckets.full l.burst)

def allowIP (l : ConnLimiter) (c : LimiterCall) : ConnLimiter × Bool :=
  if l.disabled then (l, true)
  else
    let (lim, allowed) := Buckets.take l.tickRate l.burst (l.bucket c) c.now
    ({ l.room c with limiters := (l.room c).limiters.insert c.ip ⟨lim, c.now⟩ }, allowed)

def step (l : ConnLimiter) (c : LimiterCall) : Option ConnLimiter := some (l.allowIP c).1

structure Ranged (l : ConnLimiter) (c : LimiterCall) : Prop where
  gcOrder : c.gcOrder.Perm (Table.rows l.limiters)
  evictOrder : c.evictOrder.Perm (Table.rows (l.swept c).limiters)

structure Legal (l : ConnLimiter) (c : LimiterCall) : Prop extends Ranged l c where
  ip : c.ip ≠ ""

structure TableKept (l : ConnLimiter) (c : LimiterCall) : Prop where
  bounded : ((l.allowIP c).1.size : Int) ≤ l.maxEntries
  queried : ((l.allowIP c).1.limiters.lookup c.ip).isSome = true
  stored : ∃ entry, (l.allowIP c).1.limiters = (l.room c).limiters.insert c.ip entry
  dropped : ∃ evicted : Option String, ∀ ip e, l.limiters.lookup ip = some e →
    (l.room c).limiters.lookup ip = some e ∨
      (l.room c).limiters.lookup ip = none ∧
        (c.now - e.seen > ipEntryTTL ∨
          evicted = some ip ∧ l.maxEntries ≤ ((l.swept c).size : Int) ∧ (l.swept c).limiters.lookup ip = some e ∧
            ∀ other f, (l.swept c).limiters.lookup other = some f → e.seen ≤ f.seen)

end ConnLimiter

theorem older_least (order : List (String × IPLimiterEntry)) (named : ∀ row ∈ order, row.1 ≠ "") (found : String × Nat)
    (given : found.1 ≠ "") :
    (order.foldl older found = found ∨ ∃ row ∈ order, order.foldl older found = (row.1, row.2.seen)) ∧
      (order.foldl older found).2 ≤ found.2 ∧ ∀ row ∈ order, (order.foldl older found).2 ≤ row.2.seen := by
  induction order generalizing found with
  | nil => exact ⟨.inl rfl, Nat.le_refl _, by simp⟩
  | cons row rest ih =>
      have later : ∀ other ∈ rest, other.1 ≠ "" := fun other member => named other (by simp [member])
      rw [List.foldl_cons]
      by_cases replaced : row.2.seen < found.2
      · have step : older found row = (row.1, row.2.seen) := if_pos (.inr replaced)
        obtain ⟨source, lower, least⟩ := ih later (row.1, row.2.seen) (named row (by simp))
        rw [step]
        refine ⟨.inr ?_, by dsimp only at lower; omega, fun other member => ?_⟩
        · rcases source with same | ⟨other, member, same⟩
          · exact ⟨row, by simp, same⟩
          · exact ⟨other, by simp [member], same⟩
        · rcases List.mem_cons.mp member with rfl | inside
          · exact lower
          · exact least other inside
      · have step : older found row = found := if_neg (by simp [given, replaced])
        obtain ⟨source, lower, least⟩ := ih later found given
        rw [step]
        refine ⟨source.imp id fun ⟨other, member, same⟩ => ⟨other, by simp [member], same⟩, lower, fun other member => ?_⟩
        rcases List.mem_cons.mp member with rfl | inside
        · omega
        · exact least other inside

theorem oldest_row (order : List (String × IPLimiterEntry)) (named : ∀ row ∈ order, row.1 ≠ "") (some : order ≠ []) :
    ∃ row ∈ order, (order.foldl older ("", 0)).1 = row.1 ∧ ∀ other ∈ order, row.2.seen ≤ other.2.seen := by
  cases order with
  | nil => exact absurd rfl some
  | cons first rest =>
      have later : ∀ other ∈ rest, other.1 ≠ "" := fun other member => named other (by simp [member])
      obtain ⟨source, lower, least⟩ := older_least rest later (first.1, first.2.seen) (named first (by simp))
      have start : (first :: rest).foldl older ("", 0) = rest.foldl older (first.1, first.2.seen) := rfl
      rw [start]
      rcases source with same | ⟨row, member, same⟩ <;> rw [same] at lower least ⊢
      · refine ⟨first, by simp, rfl, fun other member => ?_⟩
        rcases List.mem_cons.mp member with rfl | inside
        · exact Nat.le_refl _
        · exact least other inside
      · refine ⟨row, by simp [member], rfl, fun other inside => ?_⟩
        rcases List.mem_cons.mp inside with rfl | further
        · exact lower
        · exact least other further

namespace ConnLimiter

theorem gc_lookup (l : ConnLimiter) (order : List (String × IPLimiterEntry)) (whole : order.Perm (Table.rows l.limiters)) (now : Nat)
    (ip : String) (e : IPLimiterEntry) :
    (l.gcLocked order now).limiters.lookup ip = some e ↔ l.limiters.lookup ip = some e ∧ e.expired now = false := by
  have victims : ip ∈ (order.filter fun row => row.2.expired now).map Prod.fst ↔
      ∃ f, l.limiters.lookup ip = some f ∧ f.expired now = true := by
    simp only [List.mem_map, List.mem_filter, Prod.exists, whole.mem_iff, Table.mem_rows]
    constructor
    · rintro ⟨_, f, ⟨found, expired⟩, rfl⟩
      exact ⟨f, found, expired⟩
    · rintro ⟨f, found, expired⟩
      exact ⟨ip, f, ⟨found, expired⟩, rfl⟩
  rw [gcLocked, Table.lookup_drop_all]
  by_cases gone : ∃ f, l.limiters.lookup ip = some f ∧ f.expired now = true
  · rw [if_pos (victims.mpr gone)]
    obtain ⟨f, found, expired⟩ := gone
    refine iff_of_false nofun fun kept => ?_
    obtain rfl : f = e := Option.some.inj (found.symm.trans kept.1)
    rw [expired] at kept
    cases kept.2
  · rw [if_neg (mt victims.mp gone)]
    exact ⟨fun found => ⟨found, by_contra fun expired => gone ⟨e, found, by simpa using expired⟩⟩, And.left⟩

section Calls

variable {l : ConnLimiter} {c : LimiterCall}

theorem swept_lookup (ranged : l.Ranged c) (ip : String) (e : IPLimiterEntry) :
    (l.swept c).limiters.lookup ip = some e ↔
      l.limiters.lookup ip = some e ∧ (c.now - l.lastGC ≥ ipGCInterval → e.expired c.now = false) := by
  unfold swept
  split_ifs with due
  · rw [l.gc_lookup c.gcOrder ranged.gcOrder]
    simp [due]
  · simp [due]

theorem swept_missing (ranged : l.Ranged c) (ip : String) (e : IPLimiterEntry) (found : l.limiters.lookup ip = some e)
    (missing : (l.swept c).limiters.lookup ip ≠ some e) :
    (l.swept c).limiters.lookup ip = none ∧ c.now - l.lastGC ≥ ipGCInterval ∧ c.now - e.seen > ipEntryTTL := by
  rw [Ne, swept_lookup ranged] at missing
  simp only [found, true_and, Classical.not_imp, Bool.not_eq_false] at missing
  refine ⟨?_, missing.1, of_decide_eq_true missing.2⟩
  rw [Option.eq_none_iff_forall_ne_some]
  intro f still
  obtain ⟨same, fresh⟩ := (swept_lookup ranged ip f).mp still
  obtain rfl : e = f := Option.some.inj (found.symm.trans same)
  rw [fresh missing.1] at missing
  cases missing.2

theorem swept_size (l : ConnLimiter) (c : LimiterCall) : (l.swept c).size ≤ l.size := by
  unfold swept
  split_ifs
  · exact Table.size_drop_all_le ..
  · exact Nat.le_refl _

theorem swept_settings (l : ConnLimiter) (c : LimiterCall) :
    (l.swept c).disabled = l.disabled ∧ (l.swept c).perIPRate = l.perIPRate ∧ (l.swept c).perIPBurst = l.perIPBurst ∧
      (l.swept c).maxEntries = l.maxEntries ∧ (l.swept c).semCap = l.semCap ∧ (l.swept c).sem = l.sem := by
  unfold swept gcLocked
  split_ifs <;> exact ⟨rfl, rfl, rfl, rfl, rfl, rfl⟩

theorem evict_oldest (l : ConnLimiter) (order : List (String × IPLimiterEntry)) (whole : order.Perm (Table.rows l.limiters))
    (named : ∀ ip e, l.limiters.lookup ip = some e → ip ≠ "") (filled : 0 < l.size) :
    ∃ ip e, l.limiters.lookup ip = some e ∧ (∀ other f, l.limiters.lookup other = some f → e.seen ≤ f.seen) ∧
      l.evictOldestLocked order = { l with limiters := l.limiters.erase ip } := by
  have rowNamed : ∀ row ∈ order, row.1 ≠ "" := fun row member =>
    named row.1 row.2 ((Table.mem_rows l.limiters row.1 row.2).mp (whole.mem_iff.mp member))
  have inhabited : order ≠ [] := by
    rintro rfl
    have length := whole.length_eq
    simp only [List.length_nil, Table.rows, List.length_map] at length
    exact absurd filled (by rw [size, Table.size]; omega)
  obtain ⟨row, member, same, least⟩ := oldest_row order rowNamed inhabited
  refine ⟨row.1, row.2, (Table.mem_rows _ _ _).mp (whole.mem_iff.mp member), fun other f found => ?_, ?_⟩
  · exact least (other, f) (whole.mem_iff.mpr ((Table.mem_rows _ _ _).mpr found))
  · rw [evictOldestLocked, same]
    exact if_pos (rowNamed row member)

def entry (l : ConnLimiter) (c : LimiterCall) : IPLimiterEntry :=
  ⟨(Buckets.take l.tickRate l.burst (l.bucket c) c.now).1, c.now⟩

theorem allow_state (l : ConnLimiter) (c : LimiterCall) (enabled : l.disabled = false) :
    l.allowIP c =
      ({ l.room c with limiters := (l.room c).limiters.insert c.ip (l.entry c) },
        (Buckets.take l.tickRate l.burst (l.bucket c) c.now).2) := by
  rw [allowIP, enabled]
  rfl

structure Tidy (l : ConnLimiter) : Prop where
  enabled : l.disabled = false
  positive : 1 ≤ l.maxEntries
  bounded : (l.size : Int) ≤ l.maxEntries
  named : ∀ ip e, l.limiters.lookup ip = some e → ip ≠ ""

theorem room_cases (tidy : l.Tidy) (legal : l.Legal c) :
    (l.room c = l.swept c ∧ ((l.swept c).limiters.lookup c.ip = none → ((l.swept c).size : Int) < l.maxEntries)) ∨
      (l.swept c).limiters.lookup c.ip = none ∧ l.maxEntries ≤ ((l.swept c).size : Int) ∧
        ∃ ip e, (l.swept c).limiters.lookup ip = some e ∧
          (∀ other f, (l.swept c).limiters.lookup other = some f → e.seen ≤ f.seen) ∧
          l.room c = { l.swept c with limiters := (l.swept c).limiters.erase ip } := by
  by_cases full : ((l.swept c).limiters.lookup c.ip).isNone ∧ ((l.swept c).size : Int) ≥ l.maxEntries
  · have filled : 0 < (l.swept c).size := by
      have positive := tidy.positive
      have crowded := full.2
      omega
    obtain ⟨ip, e, found, least, evicted⟩ := (l.swept c).evict_oldest c.evictOrder legal.evictOrder
      (fun ip e found => tidy.named ip e ((swept_lookup legal.toRanged ip e).mp found).1) filled
    refine .inr ⟨Option.isNone_iff_eq_none.mp full.1, full.2, ip, e, found, least, ?_⟩
    rw [room, if_pos full, evicted]
  · refine .inl ⟨if_neg full, fun absent => ?_⟩
    by_contra crowded
    exact full ⟨Option.isNone_iff_eq_none.mpr absent, not_lt.mp crowded⟩

theorem call_kept (tidy : l.Tidy) (legal : l.Legal c) : l.TableKept c := by
  have table : (l.allowIP c).1.limiters = (l.room c).limiters.insert c.ip (l.entry c) := by rw [l.allow_state c tidy.enabled]
  have shrunk : ((l.swept c).size : Int) ≤ l.maxEntries := by
    have smaller := l.swept_size c
    have bounded := tidy.bounded
    omega
  have whole : (l.allowIP c).1.size = Table.size ((l.room c).limiters.insert c.ip (l.entry c)) := by rw [size, table]
  rcases room_cases tidy legal with ⟨same, space⟩ | ⟨absent, crowded, ip, e, found, least, same⟩
  · refine ⟨?_, ?_, ⟨_, table⟩, none, fun ip e present => ?_⟩
    · rw [whole, same]
      cases held : (l.swept c).limiters.lookup c.ip with
      | none =>
          rw [Table.size_put_absent _ _ _ held]
          have space := space held
          rw [size] at space
          omega
      | some old =>
          rw [Table.size_put_present _ _ _ old held]
          exact shrunk
    · rw [table, Table.lookup_put, if_pos rfl]
      rfl
    · rw [same]
      by_cases kept : (l.swept c).limiters.lookup ip = some e
      · exact .inl kept
      · obtain ⟨gone, _, expired⟩ := swept_missing legal.toRanged ip e present kept
        exact .inr ⟨gone, .inl expired⟩
  · have freed := Table.size_drop (l.swept c).limiters ip e found
    have missing : ((l.swept c).limiters.erase ip).lookup c.ip = none := by
      rw [Table.lookup_drop]
      split_ifs
      · rfl
      · exact absent
    refine ⟨?_, ?_, ⟨_, table⟩, some ip, fun other f present => ?_⟩
    · rw [whole, same, Table.size_put_absent _ _ _ missing]
      rw [size] at shrunk
      omega
    · rw [table, Table.lookup_put, if_pos rfl]
      rfl
    · rw [same, Table.lookup_drop]
      by_cases kept : (l.swept c).limiters.lookup other = some f
      · by_cases evicted : other = ip
        · subst evicted
          obtain rfl : e = f := Option.some.inj (found.symm.trans kept)
          rw [if_pos rfl]
          exact .inr ⟨rfl, .inr ⟨rfl, crowded, kept, least⟩⟩
        · rw [if_neg evicted]
          exact .inl kept
      · obtain ⟨gone, _, expired⟩ := swept_missing legal.toRanged other f present kept
        refine .inr ⟨?_, .inl expired⟩
        split_ifs
        · rfl
        · exact gone

theorem room_lookup (tidy : l.Tidy) (legal : l.Legal c) (ip : String) (e : IPLimiterEntry)
    (found : (l.room c).limiters.lookup ip = some e) : l.limiters.lookup ip = some e := by
  have still : (l.swept c).limiters.lookup ip = some e := by
    rcases room_cases tidy legal with ⟨same, _⟩ | ⟨_, _, victim, _, _, _, same⟩
    · rwa [same] at found
    · rw [same, Table.lookup_drop] at found
      split_ifs at found
      exact found
  exact ((swept_lookup legal.toRanged ip e).mp still).1

theorem allow_settings (l : ConnLimiter) (c : LimiterCall) :
    (l.allowIP c).1.disabled = l.disabled ∧ (l.allowIP c).1.perIPRate = l.perIPRate ∧
      (l.allowIP c).1.perIPBurst = l.perIPBurst ∧ (l.allowIP c).1.maxEntries = l.maxEntries ∧
      (l.allowIP c).1.semCap = l.semCap ∧ (l.allowIP c).1.sem = l.sem := by
  have sweep := l.swept_settings c
  have cleared : (l.room c).disabled = l.disabled ∧ (l.room c).perIPRate = l.perIPRate ∧ (l.room c).perIPBurst = l.perIPBurst ∧
      (l.room c).maxEntries = l.maxEntries ∧ (l.room c).semCap = l.semCap ∧ (l.room c).sem = l.sem := by
    unfold room evictOldestLocked
    dsimp only
    split_ifs <;> exact sweep
  by_cases disabled : l.disabled = true
  · rw [allowIP, if_pos disabled]
    exact ⟨rfl, rfl, rfl, rfl, rfl, rfl⟩
  · rw [l.allow_state c (by simpa using disabled)]
    exact cleared

theorem call_tidy (tidy : l.Tidy) (legal : l.Legal c) : (l.allowIP c).1.Tidy := by
  obtain ⟨disabled, _, _, entries, _, _⟩ := l.allow_settings c
  refine ⟨disabled.trans tidy.enabled, entries ▸ tidy.positive, entries ▸ (call_kept tidy legal).bounded, fun ip e found => ?_⟩
  rw [l.allow_state c tidy.enabled, Table.lookup_put] at found
  split_ifs at found with same
  · exact same ▸ legal.ip
  · exact tidy.named ip e (room_lookup tidy legal ip e found)

end Calls

theorem tidy_preserved (entries : Int) : Runs.Preserved step Legal fun l => l.Tidy ∧ l.maxEntries = entries := by
  intro l c next ⟨tidy, same⟩ legal taken
  cases taken
  exact ⟨call_tidy tidy legal, (l.allow_settings c).2.2.2.1.trans same⟩

theorem new_limiter_tidy (cfg : RateLimitConfig) (enabled : cfg.disabled = false) : (newConnLimiter cfg).Tidy := by
  have positive : 1 ≤ (newConnLimiter cfg).maxEntries := by
    simp only [newConnLimiter, enabled, Bool.false_eq_true, if_false]
    split_ifs
    · decide
    · omega
  have empty : (newConnLimiter cfg).limiters = ∅ := by
    unfold newConnLimiter
    split_ifs <;> rfl
  refine ⟨by simp [newConnLimiter, enabled], positive, ?_, fun ip e found => ?_⟩
  · rw [size, empty]
    exact (show (0 : Int) ≤ 1 by decide).trans positive
  · rw [empty] at found
    cases found

end ConnLimiter

theorem limiter_table_bounded (cfg : RateLimitConfig) (enabled : cfg.disabled = false)
    (trace : List (ConnLimiter × LimiterCall)) (final : ConnLimiter)
    (run : Runs.Run ConnLimiter.step (newConnLimiter cfg) trace final) (legal : Runs.Allowed ConnLimiter.Legal trace) :
    ∀ entry ∈ trace, entry.1.maxEntries = (newConnLimiter cfg).maxEntries ∧ entry.1.TableKept entry.2 := by
  intro entry member
  obtain ⟨tidy, same⟩ := (Runs.run_invariant (ConnLimiter.tidy_preserved (newConnLimiter cfg).maxEntries) run legal
    ⟨ConnLimiter.new_limiter_tidy cfg enabled, rfl⟩).2 entry member
  exact ⟨same, ConnLimiter.call_kept tidy (legal entry member)⟩

namespace ConnLimiter

def inOrder (l : ConnLimiter) (ip : String) (now : Nat) : LimiterCall :=
  ⟨ip, now, Table.rows l.limiters, Table.rows (l.swept ⟨ip, now, Table.rows l.limiters, []⟩).limiters⟩

def after : ConnLimiter → List (String × Nat) → ConnLimiter
  | l, [] => l
  | l, query :: rest => after (l.allowIP (l.inOrder query.1 query.2)).1 rest

def trail : ConnLimiter → List (String × Nat) → List (ConnLimiter × LimiterCall)
  | _, [] => []
  | l, query :: rest => (l, l.inOrder query.1 query.2) :: trail (l.allowIP (l.inOrder query.1 query.2)).1 rest

theorem trail_run (l : ConnLimiter) (queries : List (String × Nat)) : Runs.Run step l (l.trail queries) (l.after queries) := by
  induction queries generalizing l with
  | nil => exact .nil l
  | cons query rest ih => exact .cons l _ _ _ _ rfl (ih _)

theorem in_order_ranged (l : ConnLimiter) (ip : String) (now : Nat) : l.Ranged (l.inOrder ip now) := ⟨.refl _, .refl _⟩

theorem trail_legal (l : ConnLimiter) (queries : List (String × Nat)) (named : ∀ query ∈ queries, query.1 ≠ "") :
    Runs.Allowed Legal (l.trail queries) := by
  induction queries generalizing l with
  | nil => simp [Runs.Allowed, trail]
  | cons query rest ih =>
      intro entry member
      rcases List.mem_cons.mp member with rfl | later
      · exact ⟨l.in_order_ranged query.1 query.2, named query (by simp)⟩
      · exact ih _ (fun other inside => named other (by simp [inside])) entry later

end ConnLimiter

def pairQueries : List (String × Nat) :=
  [("10.0.0.1", 0), ("10.0.0.2", 0), ("10.0.0.3", 1), ("10.0.0.1", 2), ("10.0.0.4", 3), ("10.0.0.5", ipEntryTTL + 4)]

theorem limiter_table_bounded_pair :
    ∃ trace final, Runs.Run ConnLimiter.step (newConnLimiter ⟨false, 1, 1, 1, 2⟩) trace final ∧
      (trace.map fun entry => entry.1.limiters.keys) = [[], ["10.0.0.1"], ["10.0.0.2", "10.0.0.1"], ["10.0.0.3", "10.0.0.1"],
        ["10.0.0.1", "10.0.0.3"], ["10.0.0.4", "10.0.0.1"]] ∧ final.limiters.keys = ["10.0.0.5"] ∧
      ∀ entry ∈ trace, entry.1.maxEntries = 2 ∧ entry.1.TableKept entry.2 := by
  have run := (newConnLimiter ⟨false, 1, 1, 1, 2⟩).trail_run pairQueries
  have legal := (newConnLimiter ⟨false, 1, 1, 1, 2⟩).trail_legal pairQueries (by decide)
  refine ⟨_, _, run, by decide +kernel, by decide +kernel, ?_⟩
  exact limiter_table_bounded ⟨false, 1, 1, 1, 2⟩ rfl _ _ run legal

end Packethose
