import Packethose.RateLimit

set_option autoImplicit false

namespace Packethose

open Buckets (Bucket)

-- A limiter that never forgets an address: one bucket for each, all full at
-- the start.
def remembered (rate burst : Rat) : (String → Bucket) → List (String × Nat) → List Bool
  | _, [] => []
  | buckets, query :: rest =>
      (Buckets.take rate burst (buckets query.1) query.2).2 ::
        remembered rate burst (Function.update buckets query.1 (Buckets.take rate burst (buckets query.1) query.2).1) rest

def LimiterCall.query (c : LimiterCall) : String × Nat := (c.ip, c.now)

def answerAt (entry : ConnLimiter × LimiterCall) : Bool := (entry.1.allowIP entry.2).2

def queries (trace : List (ConnLimiter × LimiterCall)) : List (String × Nat) := trace.map fun entry => entry.2.query

def allowedWithin (ip : String) (window : Nat → Bool) (trace : List (ConnLimiter × LimiterCall)) : Nat :=
  trace.countP fun entry => entry.2.ip == ip && window entry.2.now && answerAt entry

def timesOf (ip : String) (trace : List (ConnLimiter × LimiterCall)) : List Nat :=
  (trace.filter fun entry => entry.2.ip == ip).map fun entry => entry.2.now

namespace ConnLimiter

structure Uncrowded (trace : List (ConnLimiter × LimiterCall)) (final : ConnLimiter) : Prop where
  ordered : ((queries trace).map Prod.snd).Pairwise (· ≤ ·)
  below : ∀ l, Runs.Visited trace final l → (l.size : Int) < l.maxEntries

structure Limited (l : ConnLimiter) (trace : List (ConnLimiter × LimiterCall)) : Prop where
  answers : trace.map answerAt = remembered l.tickRate l.burst (fun _ => Buckets.full l.burst) (queries trace)
  rated : ∀ ip start stop, start ≤ stop →
    (allowedWithin ip (fun now => decide (start ≤ now) && decide (now ≤ stop)) trace : Rat) ≤
      l.burst + l.tickRate * (stop - start : Nat)

-- The table as seen from the limiter that remembers: a held bucket is the
-- same, a missing one is full from now on.
structure Mirrors (rate burst : Rat) (l : ConnLimiter) (buckets : String → Bucket) (now : Nat) : Prop where
  sound : ∀ ip, Buckets.Sound (buckets ip) now
  held : ∀ ip e, l.limiters.lookup ip = some e → e.lim = buckets ip ∧ (buckets ip).last ≤ e.seen ∧ e.seen ≤ now
  missing : ∀ ip, l.limiters.lookup ip = none → ∀ later, now ≤ later → Buckets.level rate burst (buckets ip) later = burst

section Mirror

variable {rate burst : Rat} {l : ConnLimiter} {buckets : String → Bucket} {c : LimiterCall} {now : Nat}

theorem mirrors_later (mirrors : Mirrors rate burst l buckets now) (later : Nat) (order : now ≤ later) :
    Mirrors rate burst l buckets later :=
  ⟨fun ip => Buckets.sound_later (buckets ip) now later (mirrors.sound ip) order,
    fun ip e found => ⟨(mirrors.held ip e found).1, (mirrors.held ip e found).2.1, (mirrors.held ip e found).2.2.trans order⟩,
    fun ip missing after further => mirrors.missing ip missing after (order.trans further)⟩

theorem mirrors_swept (rated : 0 ≤ rate) (refills : burst ≤ rate * (ipEntryTTL + 1 : Nat)) (ranged : l.Ranged c)
    (mirrors : Mirrors rate burst l buckets c.now) : Mirrors rate burst (l.swept c) buckets c.now := by
  refine ⟨mirrors.sound, fun ip e found => mirrors.held ip e ((swept_lookup ranged ip e).mp found).1, fun ip gone later order => ?_⟩
  cases present : l.limiters.lookup ip with
  | none => exact mirrors.missing ip present later order
  | some e =>
      obtain ⟨_, _, idle⟩ := swept_missing ranged ip e present (by rw [gone]; nofun)
      obtain ⟨_, past, _⟩ := mirrors.held ip e present
      have long : ipEntryTTL + 1 ≤ later - (buckets ip).last := by omega
      refine Buckets.level_refilled rate burst (buckets ip) later (mirrors.sound ip).tokens (refills.trans ?_)
      exact mul_le_mul_of_nonneg_left (by exact_mod_cast long) rated

theorem called_same (rated : 0 ≤ l.tickRate) (bursting : 1 ≤ l.burst)
    (mirrors : Mirrors l.tickRate l.burst (l.swept c) buckets c.now) :
    Buckets.take l.tickRate l.burst (l.bucket c) c.now = Buckets.take l.tickRate l.burst (buckets c.ip) c.now := by
  cases held : (l.swept c).limiters.lookup c.ip with
  | some e =>
      have same : l.bucket c = buckets c.ip := by
        rw [bucket, held]
        exact (mirrors.held c.ip e held).1
      rw [same]
  | none =>
      have fresh : l.bucket c = Buckets.full l.burst := by
        rw [bucket, held]
        rfl
      have filled := Buckets.level_full l.tickRate l.burst rated c.now
      have waited := mirrors.missing c.ip held c.now (Nat.le_refl _)
      rw [fresh, Buckets.take_granted _ _ _ _ (filled.symm ▸ bursting), Buckets.take_granted _ _ _ _ (waited.symm ▸ bursting),
        filled, waited]

theorem mirrors_called (enabled : l.disabled = false) (rated : 0 ≤ l.tickRate) (bursting : 1 ≤ l.burst)
    (spacious : (l.size : Int) < l.maxEntries) (mirrors : Mirrors l.tickRate l.burst (l.swept c) buckets c.now) :
    Mirrors l.tickRate l.burst (l.allowIP c).1
      (Function.update buckets c.ip (Buckets.take l.tickRate l.burst (buckets c.ip) c.now).1) c.now := by
  have same : l.room c = l.swept c := by
    have smaller := l.swept_size c
    exact if_neg fun full => absurd full.2 (by omega)
  have stored : ∀ ip, (l.allowIP c).1.limiters.lookup ip =
      if ip = c.ip then some ⟨(Buckets.take l.tickRate l.burst (buckets c.ip) c.now).1, c.now⟩ else (l.swept c).limiters.lookup ip := by
    intro ip
    rw [l.allow_state c enabled, Table.lookup_put, entry, called_same rated bursting mirrors, same]
  have taken := Buckets.take_sound l.tickRate l.burst (buckets c.ip) c.now c.now (Nat.le_refl _) (mirrors.sound c.ip)
  refine ⟨fun ip => ?_, fun ip e found => ?_, fun ip gone later order => ?_⟩
  · by_cases own : ip = c.ip
    · subst own
      rw [Function.update_self]
      exact taken
    · rw [Function.update_of_ne own]
      exact mirrors.sound ip
  · rw [stored] at found
    by_cases own : ip = c.ip
    · subst own
      rw [if_pos rfl] at found
      cases found
      rw [Function.update_self]
      exact ⟨rfl, taken.past, Nat.le_refl _⟩
    · rw [if_neg own] at found
      rw [Function.update_of_ne own]
      exact mirrors.held ip e found
  · rw [stored] at gone
    by_cases own : ip = c.ip
    · rw [if_pos own] at gone
      cases gone
    · rw [if_neg own] at gone
      rw [Function.update_of_ne own]
      exact mirrors.missing ip gone later order

theorem mirrored_run (refills : burst ≤ rate * (ipEntryTTL + 1 : Nat)) (rated : 0 ≤ rate) (bursting : 1 ≤ burst)
    {final : ConnLimiter} {trace : List (ConnLimiter × LimiterCall)} (run : Runs.Run step l trace final)
    (ranged : Runs.Allowed Ranged trace) (uncrowded : Uncrowded trace final) (started : ∀ entry ∈ trace, now ≤ entry.2.now)
    (enabled : l.disabled = false) (sameRate : l.tickRate = rate) (sameBurst : l.burst = burst)
    (mirrors : Mirrors rate burst l buckets now) :
    trace.map answerAt = remembered rate burst buckets (queries trace) ∧
      ∀ ip window, allowedWithin ip window trace = Buckets.granted rate burst window (buckets ip) (timesOf ip trace) := by
  induction run generalizing buckets now with
  | nil l => exact ⟨rfl, fun _ _ => rfl⟩
  | cons l next final c rest taken tail ih =>
      cases taken
      subst sameRate sameBurst
      obtain ⟨following, ordered⟩ := List.pairwise_cons.mp uncrowded.ordered
      have here := mirrors_later mirrors c.now (started (l, c) (by simp))
      have cleared := mirrors_swept rated refills (ranged (l, c) (by simp)) here
      have spacious := uncrowded.below l (.inr ⟨c, by simp⟩)
      have called := mirrors_called enabled rated bursting spacious cleared
      obtain ⟨disabled, sameRate, sameBurst, _⟩ := l.allow_settings c
      have later : Uncrowded rest final := ⟨ordered, fun state visited =>
        uncrowded.below state (visited.imp id fun ⟨action, member⟩ => ⟨action, List.mem_cons_of_mem _ member⟩)⟩
      have answered : answerAt (l, c) = (Buckets.take l.tickRate l.burst (buckets c.ip) c.now).2 := by
        rw [answerAt, l.allow_state c enabled, called_same rated bursting cleared]
      obtain ⟨answers, counts⟩ := ih (fun entry member => ranged entry (by simp [member])) later
        (fun entry member => following entry.2.now (by
          rw [List.map_map]
          exact List.mem_map_of_mem member))
        (disabled.trans enabled) (by rw [tickRate, sameRate]; rfl) (by rw [burst, sameBurst]; rfl) called
      refine ⟨?_, fun ip window => ?_⟩
      · rw [List.map_cons, answers, answered]
        rfl
      · rw [allowedWithin, List.countP_cons, ← allowedWithin, counts]
        by_cases own : c.ip = ip
        · subst own
          have own : timesOf c.ip ((l, c) :: rest) = c.now :: timesOf c.ip rest := by simp [timesOf]
          rw [own, Buckets.granted, Function.update_self, answered, Nat.add_comm, beq_self_eq_true, Bool.true_and, Bool.and_comm]
        · have other : timesOf ip ((l, c) :: rest) = timesOf ip rest := by simp [timesOf, own]
          rw [other, Function.update_of_ne (Ne.symm own)]
          simp [own]

end Mirror

def Unweakened (start : ConnLimiter) : Prop :=
  ∀ trace final, Runs.Run step start trace final → Runs.Allowed Ranged trace → Uncrowded trace final → start.Limited trace

theorem trail_append (l : ConnLimiter) (first second : List (String × Nat)) :
    l.trail (first ++ second) = l.trail first ++ (l.after first).trail second := by
  induction first generalizing l with
  | nil => rfl
  | cons query rest ih => rw [List.cons_append, trail, ih, trail, after, List.cons_append]

theorem after_append (l : ConnLimiter) (first second : List (String × Nat)) :
    l.after (first ++ second) = (l.after first).after second := by
  induction first generalizing l with
  | nil => rfl
  | cons query rest ih => exact ih _

theorem trail_ranged (l : ConnLimiter) (asked : List (String × Nat)) : Runs.Allowed Ranged (l.trail asked) := by
  induction asked generalizing l with
  | nil => simp [Runs.Allowed, trail]
  | cons query rest ih =>
      intro entry member
      rcases List.mem_cons.mp member with rfl | later
      · exact l.in_order_ranged query.1 query.2
      · exact ih _ entry later

theorem trail_queries (l : ConnLimiter) (asked : List (String × Nat)) : queries (l.trail asked) = asked := by
  induction asked generalizing l with
  | nil => rfl
  | cons query rest ih => exact congrArg (query :: ·) (ih _)

def sole (l : ConnLimiter) (ip : String) (now : Nat) (tokens : Rat) : ConnLimiter :=
  { l with limiters := AList.singleton ip ⟨⟨tokens, now⟩, now⟩, lastGC := now }

theorem allow_taken (l : ConnLimiter) (c : LimiterCall) (enabled : l.disabled = false) (b : Bucket) (answer : Bool)
    (taken : Buckets.take l.tickRate l.burst (l.bucket c) c.now = (b, answer)) :
    l.allowIP c = ({ l.room c with limiters := (l.room c).limiters.insert c.ip ⟨b, c.now⟩ }, answer) := by
  rw [l.allow_state c enabled, entry, taken]

section Volley

variable (l : ConnLimiter) (ip : String) (now : Nat) (enabled : l.disabled = false) (spacious : 1 < l.maxEntries)

include enabled

theorem sole_call (tokens : Rat) (few : tokens ≤ l.burst) (enough : 1 ≤ tokens) (c : LimiterCall) (asked : c.query = (ip, now)) :
    (l.sole ip now tokens).allowIP c = (l.sole ip now (tokens - 1), true) := by
  obtain ⟨rfl, rfl⟩ := Prod.mk.inj asked
  have still : (l.sole c.ip c.now tokens).swept c = l.sole c.ip c.now tokens :=
    if_neg (by simp [sole, ipGCInterval])
  have found : (l.sole c.ip c.now tokens).limiters.lookup c.ip = some ⟨⟨tokens, c.now⟩, c.now⟩ := AList.lookup_insert ∅
  have same : (l.sole c.ip c.now tokens).room c = l.sole c.ip c.now tokens := by
    rw [room, still, found]
    exact if_neg (by simp)
  have held : (l.sole c.ip c.now tokens).bucket c = ⟨tokens, c.now⟩ := by
    rw [bucket, still, found]
    rfl
  have level : Buckets.level l.tickRate l.burst ⟨tokens, c.now⟩ c.now = tokens := by
    simp [Buckets.level, not_lt.mpr few]
  have taken : Buckets.take l.tickRate l.burst ((l.sole c.ip c.now tokens).bucket c) c.now = (⟨tokens - 1, c.now⟩, true) := by
    rw [held, Buckets.take_granted _ _ _ _ (level.symm ▸ enough), level]
  rw [(l.sole c.ip c.now tokens).allow_taken c enabled _ _ taken, same]
  simp only [sole, AList.insert_singleton_eq]

include spacious

theorem fresh_call (rated : 0 ≤ l.tickRate) (bursting : 1 ≤ l.burst) (c : LimiterCall) (asked : c.query = (ip, now))
    (due : c.now - l.lastGC ≥ ipGCInterval) (emptied : (l.gcLocked c.gcOrder c.now).limiters = ∅) :
    l.allowIP c = (l.sole ip now (l.burst - 1), true) := by
  obtain ⟨rfl, rfl⟩ := Prod.mk.inj asked
  have swept : l.swept c = { l with limiters := ∅, lastGC := c.now } := by
    rw [swept, if_pos due, ← emptied]
    rfl
  have same : l.room c = { l with limiters := ∅, lastGC := c.now } := by
    rw [room, swept]
    refine if_neg fun full => ?_
    have crowded : (0 : Int) ≥ l.maxEntries := full.2
    omega
  have held : l.bucket c = Buckets.full l.burst := by
    rw [bucket, swept]
    rfl
  have level := Buckets.level_full l.tickRate l.burst rated c.now
  have taken : Buckets.take l.tickRate l.burst (l.bucket c) c.now = (⟨l.burst - 1, c.now⟩, true) := by
    rw [held, Buckets.take_granted _ _ _ _ (level.symm ▸ bursting), level]
  rw [l.allow_taken c enabled _ _ taken, same]
  rfl

omit spacious in
theorem sole_spent (tokens : Nat) (few : (tokens : Rat) ≤ l.burst) :
    (l.sole ip now tokens).after (List.replicate tokens (ip, now)) = l.sole ip now 0 ∧
      ∀ entry ∈ (l.sole ip now tokens).trail (List.replicate tokens (ip, now)),
        entry.1.size = 1 ∧ entry.1.maxEntries = l.maxEntries ∧ answerAt entry = true := by
  induction tokens with
  | zero => exact ⟨by rw [Nat.cast_zero]; rfl, by simp [trail]⟩
  | succ tokens ih =>
      have left : ((tokens + 1 : Nat) : Rat) - 1 = tokens := by rw [Nat.cast_succ, add_sub_cancel_right]
      have called := l.sole_call ip now enabled (tokens + 1 : Nat) few (by exact_mod_cast Nat.le_add_left 1 tokens)
        ((l.sole ip now (tokens + 1 : Nat)).inOrder ip now) rfl
      rw [left] at called
      obtain ⟨ends, answered⟩ := ih (by push_cast at few; linarith)
      rw [List.replicate_succ, after, trail, called]
      refine ⟨ends, fun entry member => ?_⟩
      rcases List.mem_cons.mp member with rfl | later
      · exact ⟨rfl, rfl, congrArg Prod.snd called⟩
      · exact answered entry later

theorem volley (tokens : Nat) (filled : l.burst = tokens) (rated : 0 ≤ l.tickRate) (bursting : 1 ≤ l.burst)
    (due : now - l.lastGC ≥ ipGCInterval) (small : l.size ≤ 1)
    (emptied : (l.gcLocked (Table.rows l.limiters) now).limiters = ∅) :
    l.after (List.replicate tokens (ip, now)) = l.sole ip now 0 ∧
      ∀ entry ∈ l.trail (List.replicate tokens (ip, now)),
        entry.1.size ≤ 1 ∧ entry.1.maxEntries = l.maxEntries ∧ answerAt entry = true := by
  cases tokens with
  | zero =>
      rw [filled] at bursting
      exact absurd bursting (by norm_num)
  | succ tokens =>
      have called := l.fresh_call ip now enabled spacious rated bursting (l.inOrder ip now) rfl due emptied
      have left : l.burst - 1 = tokens := by rw [filled, Nat.cast_succ, add_sub_cancel_right]
      rw [left] at called
      obtain ⟨ends, answered⟩ := l.sole_spent ip now enabled tokens (by linarith)
      rw [List.replicate_succ, after, trail, called]
      refine ⟨ends, fun entry member => ?_⟩
      rcases List.mem_cons.mp member with rfl | later
      · exact ⟨small, rfl, congrArg Prod.snd called⟩
      · obtain ⟨one, entries, granted⟩ := answered entry later
        exact ⟨one.le, entries, granted⟩

end Volley

theorem sole_expired (l : ConnLimiter) (ip : String) (now later : Nat) (tokens : Rat) (idle : now + ipEntryTTL < later) :
    ((l.sole ip now tokens).gcLocked (Table.rows (l.sole ip now tokens).limiters) later).limiters = ∅ := by
  have expired : (⟨⟨tokens, now⟩, now⟩ : IPLimiterEntry).expired later = true := decide_eq_true (by dsimp only; omega)
  have victims : (Table.rows (l.sole ip now tokens).limiters).filter (fun row => row.2.expired later) = [(ip, ⟨⟨tokens, now⟩, now⟩)] :=
    List.filter_cons_of_pos expired
  rw [gcLocked, victims]
  exact Table.drop_put (∅ : Table String IPLimiterEntry) ip ⟨⟨tokens, now⟩, now⟩ rfl

def volleys (tokens : Nat) : List (String × Nat) :=
  List.replicate tokens ("10.0.0.1", ipGCInterval) ++ List.replicate tokens ("10.0.0.1", ipGCInterval + ipEntryTTL + 1)

section Volleys

variable (l : ConnLimiter) (enabled : l.disabled = false) (spacious : 1 < l.maxEntries) (rated : 0 ≤ l.tickRate)
  (bursting : 1 ≤ l.burst) (tokens : Nat) (filled : l.burst = tokens) (started : l.lastGC = 0) (empty : l.limiters = ∅)

include enabled spacious rated bursting filled started empty

theorem volleys_granted :
    (l.after (volleys tokens)).size ≤ 1 ∧ (l.after (volleys tokens)).maxEntries = l.maxEntries ∧
      ∀ entry ∈ l.trail (volleys tokens), entry.1.size ≤ 1 ∧ entry.1.maxEntries = l.maxEntries ∧ answerAt entry = true := by
  obtain ⟨ends, first⟩ := l.volley "10.0.0.1" ipGCInterval enabled spacious tokens filled rated bursting
    (by omega) (by rw [size, empty]; exact Nat.zero_le 1) (by rw [gcLocked, empty]; rfl)
  have interval : ipGCInterval ≤ ipEntryTTL := by decide
  have swept : (l.sole "10.0.0.1" ipGCInterval 0).lastGC = ipGCInterval := rfl
  obtain ⟨finished, second⟩ := (l.sole "10.0.0.1" ipGCInterval 0).volley "10.0.0.1" (ipGCInterval + ipEntryTTL + 1) enabled spacious
    tokens filled rated bursting (by omega) (Nat.le_refl 1) (l.sole_expired _ _ _ _ (by omega))
  rw [← ends] at second finished
  have whole : l.after (volleys tokens) = _ := (l.after_append _ _).trans finished
  rw [whole, volleys, trail_append]
  have unchanged : (l.after (List.replicate tokens ("10.0.0.1", ipGCInterval))).maxEntries = l.maxEntries := by rw [ends]; rfl
  refine ⟨Nat.le_refl 1, unchanged, fun entry member => ?_⟩
  rcases List.mem_append.mp member with early | late
  · exact first entry early
  · obtain ⟨small, entries, granted⟩ := second entry late
    exact ⟨small, entries.trans unchanged, granted⟩

theorem volleys_uncrowded : Uncrowded (l.trail (volleys tokens)) (l.after (volleys tokens)) := by
  obtain ⟨small, entries, granted⟩ := l.volleys_granted enabled spacious rated bursting tokens filled started empty
  refine ⟨?_, fun state visited => ?_⟩
  · rw [trail_queries, volleys, List.map_append, List.map_replicate, List.map_replicate, List.pairwise_append]
    refine ⟨by simp [List.pairwise_replicate], by simp [List.pairwise_replicate], fun early first late second => ?_⟩
    rw [List.eq_of_mem_replicate first, List.eq_of_mem_replicate second]
    omega
  · rcases visited with rfl | ⟨c, member⟩
    · omega
    · obtain ⟨small, entries, _⟩ := granted (state, c) member
      dsimp only at small entries
      omega

theorem volleys_refill (unweakened : l.Unweakened) : l.burst ≤ l.tickRate * (ipEntryTTL + 1 : Nat) := by
  obtain ⟨_, _, granted⟩ := l.volleys_granted enabled spacious rated bursting tokens filled started empty
  have uncrowded := l.volleys_uncrowded enabled spacious rated bursting tokens filled started empty
  have asked := l.trail_queries (volleys tokens)
  have limit := (unweakened _ _ (l.trail_run _) (l.trail_ranged _) uncrowded).rated "10.0.0.1" ipGCInterval
    (ipGCInterval + ipEntryTTL + 1) (by omega)
  have all : allowedWithin "10.0.0.1" (fun now => decide (ipGCInterval ≤ now) && decide (now ≤ ipGCInterval + ipEntryTTL + 1))
      (l.trail (volleys tokens)) = (l.trail (volleys tokens)).length := by
    refine List.countP_eq_length.mpr fun entry member => ?_
    have listed : entry.2.query ∈ volleys tokens := asked ▸ List.mem_map_of_mem member
    rw [(granted entry member).2.2]
    rcases List.mem_append.mp listed with early | late
    · obtain ⟨own, time⟩ := Prod.mk.inj (List.eq_of_mem_replicate early)
      simp [own, time]
      omega
    · obtain ⟨own, time⟩ := Prod.mk.inj (List.eq_of_mem_replicate late)
      simp [own, time]
      omega
  have length : (l.trail (volleys tokens)).length = tokens + tokens := by
    have same := congrArg List.length asked
    simpa [queries, volleys] using same
  have window : ipGCInterval + ipEntryTTL + 1 - ipGCInterval = ipEntryTTL + 1 := by omega
  rw [all, length, window, Nat.cast_add, ← filled] at limit
  linarith

end Volleys

theorem new_limiter_parts (cfg : RateLimitConfig) (enabled : cfg.disabled = false) :
    0 ≤ (newConnLimiter cfg).tickRate ∧ 1 ≤ (newConnLimiter cfg).perIPBurst ∧ (newConnLimiter cfg).lastGC = 0 ∧
      (newConnLimiter cfg).limiters = ∅ := by
  simp only [newConnLimiter, enabled, Bool.false_eq_true, if_false, tickRate, and_true]
  constructor
  · split_ifs with unset
    · norm_num [defaultPerIPPerSec]
    · exact div_nonneg (not_le.mp unset).le (by norm_num)
  · split_ifs with unset
    · decide
    · omega

theorem mirrors_start (l : ConnLimiter) (rated : 0 ≤ l.tickRate) (bursting : 1 ≤ l.burst) (empty : l.limiters = ∅) :
    Mirrors l.tickRate l.burst l (fun _ => Buckets.full l.burst) 0 := by
  refine ⟨fun _ => ⟨zero_le_one.trans bursting, Nat.le_refl 0⟩, fun ip e found => ?_, fun ip _ later _ => ?_⟩
  · rw [empty] at found
    cases found
  · exact Buckets.level_full l.tickRate l.burst rated later

theorem refilled_limited (l : ConnLimiter) (enabled : l.disabled = false) (rated : 0 ≤ l.tickRate) (bursting : 1 ≤ l.burst)
    (empty : l.limiters = ∅) (refills : l.burst ≤ l.tickRate * (ipEntryTTL + 1 : Nat)) : l.Unweakened := by
  intro trace final run ranged uncrowded
  obtain ⟨answers, counts⟩ := mirrored_run refills rated bursting run ranged uncrowded (fun _ _ => Nat.zero_le _) enabled rfl rfl
    (mirrors_start l rated bursting empty)
  refine ⟨answers, fun ip start stop order => ?_⟩
  rw [counts]
  have sorted : (timesOf ip trace).Pairwise (· ≤ ·) := by
    have ordered := uncrowded.ordered
    rw [queries, List.map_map] at ordered
    exact ordered.sublist (List.filter_sublist.map _)
  exact Buckets.granted_window l.tickRate l.burst _ rated (zero_le_one.trans bursting) start stop _ sorted order
    ⟨zero_le_one.trans bursting, Nat.zero_le start⟩

theorem single_limited (l : ConnLimiter) (enabled : l.disabled = false) (rated : 0 ≤ l.tickRate) (bursting : 1 ≤ l.burst)
    (single : l.maxEntries = 1) : l.Unweakened := by
  intro trace final run ranged uncrowded
  cases run with
  | nil =>
      refine ⟨rfl, fun ip start stop _ => ?_⟩
      have grown : 0 ≤ l.tickRate * (stop - start : Nat) := by positivity
      simp only [allowedWithin, List.countP_nil, Nat.cast_zero]
      linarith
  | cons _ next _ c rest taken tail =>
      cases taken
      have below := uncrowded.below _ ((Runs.visited_start tail).imp id fun visited => visited.imp fun _ => List.mem_cons_of_mem _)
      have filled : 0 < (l.allowIP c).1.size := by
        rw [l.allow_state c enabled]
        exact Nat.succ_pos _
      rw [(l.allow_settings c).2.2.2.1, single] at below
      omega

end ConnLimiter

theorem pruning_unweakened_iff (cfg : RateLimitConfig) (enabled : cfg.disabled = false) :
    (newConnLimiter cfg).Unweakened ↔
      (newConnLimiter cfg).maxEntries = 1 ∨
        (newConnLimiter cfg).burst ≤ (newConnLimiter cfg).tickRate * (ipEntryTTL + 1 : Nat) := by
  have tidy := ConnLimiter.new_limiter_tidy cfg enabled
  obtain ⟨rated, positive, started, empty⟩ := ConnLimiter.new_limiter_parts cfg enabled
  generalize newConnLimiter cfg = l at *
  have bursting : 1 ≤ l.burst := by
    rw [ConnLimiter.burst]
    exact_mod_cast positive
  constructor
  · intro unweakened
    by_cases single : l.maxEntries = 1
    · exact .inl single
    · have spacious : 1 < l.maxEntries := by
        have atLeast := tidy.positive
        omega
      have filled : l.burst = l.perIPBurst.toNat := by
        rw [ConnLimiter.burst]
        exact_mod_cast (Int.toNat_of_nonneg (by omega : 0 ≤ l.perIPBurst)).symm
      exact .inr (l.volleys_refill tidy.enabled spacious rated bursting _ filled started empty unweakened)
  · rintro (single | refills)
    · exact l.single_limited tidy.enabled rated bursting single
    · exact l.refilled_limited tidy.enabled rated bursting empty refills

theorem pruning_unweakened_default : (newConnLimiter ⟨false, 0, 0, 0, 0⟩).Unweakened :=
  (pruning_unweakened_iff ⟨false, 0, 0, 0, 0⟩ rfl).mpr (.inr (by decide +kernel))

-- One connection in a thousand seconds: five minutes and a nanosecond later
-- the address gets another.
theorem pruning_refills_bucket :
    ∃ trace final, Runs.Run ConnLimiter.step (newConnLimiter ⟨false, 1 / 1000, 1, 256, 8192⟩) trace final ∧
      Runs.Allowed ConnLimiter.Ranged trace ∧ ConnLimiter.Uncrowded trace final ∧
      queries trace = [("10.0.0.1", 60000000000), ("10.0.0.1", 360000000001)] ∧ trace.map answerAt = [true, true] ∧
      remembered (1 / 1000000000000) 1 (fun _ => Buckets.full 1) (queries trace) = [true, false] ∧
      ¬ (newConnLimiter ⟨false, 1 / 1000, 1, 256, 8192⟩).Limited trace := by
  have run := (newConnLimiter ⟨false, 1 / 1000, 1, 256, 8192⟩).trail_run (ConnLimiter.volleys 1)
  have ranged := (newConnLimiter ⟨false, 1 / 1000, 1, 256, 8192⟩).trail_ranged (ConnLimiter.volleys 1)
  have answers : ((newConnLimiter ⟨false, 1 / 1000, 1, 256, 8192⟩).trail (ConnLimiter.volleys 1)).map answerAt = [true, true] := by
    decide +kernel
  have uncrowded := (newConnLimiter ⟨false, 1 / 1000, 1, 256, 8192⟩).volleys_uncrowded rfl (by decide) (by decide +kernel)
    (by decide +kernel) 1 (by decide +kernel) rfl rfl
  refine ⟨_, _, run, ranged, uncrowded, by decide +kernel, answers, by decide +kernel, fun limited => ?_⟩
  rw [limited.answers] at answers
  revert answers
  decide +kernel

end Packethose
