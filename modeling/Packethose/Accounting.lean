import Mathlib.Algebra.Ring.Nat
import Mathlib.Data.List.Sort
import Mathlib.Data.List.TakeWhile
import Packethose.Lib.Meters
import Packethose.Nftables

set_option autoImplicit false

namespace Packethose

structure NFCounter where
  packets : UInt64
  bytes : UInt64
deriving DecidableEq, Repr

-- The sets of the script: size 65535, and a counter on each element, which
-- counts the packet that brings the element in as well.
def acctMeter : Meter NFCounter Nat where
  capacity := 65535
  zero := ⟨0, 0⟩
  count counter length := ⟨counter.packets + 1, counter.bytes + UInt64.ofNat length⟩

abbrev NFSets := Table String (Table Addr NFCounter)

structure Crossing where
  hook : NFHook
  transit : Transit
  length : Nat

def NFStatement.updated (packet : InnerPacket) : NFStatement → Option (String × Addr)
  | .updateSaddr _ set => some (set, packet.src)
  | .updateDaddr _ set => some (set, packet.dst)
  | _ => none

def NFRule.updated (t : Transit) (rule : NFRule) : Option (String × Addr) :=
  if rule.conditions.all (NFMatch.holds t) then rule.statement.updated t.packet else none

def NFChain.updated (handed : Int → InnerPacket → Bool) (t : Transit) (c : NFChain) : List (String × Addr) :=
  (c.rules.takeWhile fun rule => (rule.verdict handed t).isNone).filterMap (NFRule.updated t)

def NFChain.rank (c : NFChain) : Int :=
  if c.priority = "mangle" then -150
  else if c.priority = "srcnat" then 100
  else if c.priority = "-300" then -300
  else 0

def NFTable.chainsAt (hook : NFHook) (table : NFTable) : List NFChain :=
  (table.items.filterMap (NFItem.chainAt hook)).insertionSort fun first second => first.rank ≤ second.rank

def chainsUpdated (handed : Int → InnerPacket → Bool) (t : Transit) : List NFChain → List (String × Addr)
  | [] => []
  | c :: rest =>
      c.updated handed t ++ (if c.verdict handed t = .drop then [] else chainsUpdated handed t rest)

def NFTable.updated (handed : Int → InnerPacket → Bool) (table : NFTable) (c : Crossing) : List (String × Addr) :=
  if familySees table.family c.transit.packet.dst then chainsUpdated handed c.transit (table.chainsAt c.hook) else []

def NFItem.declare (sets : NFSets) : NFItem → NFSets
  | .set name _ => sets.insert name ∅
  | .chain _ => sets

namespace NFSets

def fresh (table : NFTable) : NFSets := table.items.foldl NFItem.declare ∅

def count (length : Nat) (sets : NFSets) (target : String × Addr) : NFSets :=
  match sets.lookup target.1 with
  | some set => sets.insert target.1 (acctMeter.update set (target.2, length))
  | none => sets

def cross (handed : Int → InnerPacket → Bool) (table : NFTable) (sets : NFSets) (c : Crossing) : NFSets :=
  (table.updated handed c).foldl (count c.length) sets

def after (handed : Int → InnerPacket → Bool) (table : NFTable) (crossings : List Crossing) : NFSets :=
  crossings.foldl (cross handed table) (fresh table)

end NFSets

def NFTable.entries (handed : Int → InnerPacket → Bool) (table : NFTable) (name : String) (c : Crossing) : List (Addr × Nat) :=
  (table.updated handed c).filterMap fun target => if target.1 = name then some (target.2, c.length) else none

theorem count_lookup (length : Nat) (sets : NFSets) (target : String × Addr) (name : String) :
    (sets.count length target).lookup name =
      (sets.lookup name).map fun set => if target.1 = name then acctMeter.update set (target.2, length) else set := by
  unfold NFSets.count
  cases found : sets.lookup target.1 with
  | none =>
      by_cases same : target.1 = name
      · rw [← same, found]
        rfl
      · simp [same]
  | some set =>
      simp only
      rw [Table.lookup_put]
      by_cases same : name = target.1
      · rw [if_pos same, same, found]
        simp
      · simp [same, Ne.symm same]

theorem counts_lookup (length : Nat) (sets : NFSets) (targets : List (String × Addr)) (name : String) :
    (targets.foldl (NFSets.count length) sets).lookup name =
      (sets.lookup name).map fun set => acctMeter.updates set
        (targets.filterMap fun target => if target.1 = name then some (target.2, length) else none) := by
  induction targets generalizing sets with
  | nil => simp [Meter.updates]
  | cons target rest ih =>
      rw [List.foldl_cons, ih, count_lookup, Option.map_map]
      congr 1
      funext set
      by_cases same : target.1 = name <;> simp [same, Meter.updates]

theorem crossings_lookup (handed : Int → InnerPacket → Bool) (table : NFTable) (sets : NFSets) (crossings : List Crossing)
    (name : String) :
    (crossings.foldl (NFSets.cross handed table) sets).lookup name =
      (sets.lookup name).map fun set => acctMeter.updates set (crossings.flatMap (table.entries handed name)) := by
  induction crossings generalizing sets with
  | nil => simp [Meter.updates]
  | cons c rest ih =>
      rw [List.foldl_cons, ih, NFSets.cross, counts_lookup, Option.map_map]
      congr 1
      funext set
      simp [Meter.updates, NFTable.entries, List.foldl_append]

inductive Way where
  | up
  | down
deriving DecidableEq, Repr

def acctSet : Way → NFProto → String
  | .up, .ip => "acct_up4"
  | .down, .ip => "acct_down4"
  | .up, .ip6 => "acct_up6"
  | .down, .ip6 => "acct_down6"

def Way.hook : Way → NFHook
  | .up => .prerouting
  | .down => .postrouting

def Way.addr : Way → InnerPacket → Addr
  | .up, packet => packet.src
  | .down, packet => packet.dst

namespace NFTConfig

def acctOn (cfg : NFTConfig) : NFProto → Bool
  | .ip => cfg.acctV4
  | .ip6 => cfg.acctV6

def acctPool (cfg : NFTConfig) : NFProto → Prefix
  | .ip => cfg.poolV4
  | .ip6 => cfg.poolV6

-- What the accounting is for: a client's packets into the server count for
-- its source address, those on their way out to it for the destination.
def metered (cfg : NFTConfig) (way : Way) (proto : NFProto) (c : Crossing) : Option (Addr × Nat) :=
  let addr := way.addr c.transit.packet
  if c.hook = way.hook ∧ cfg.acctOn proto = true ∧ familySees cfg.family c.transit.packet.dst = true ∧
      proto.carries addr = true ∧ (cfg.acctPool proto).contains addr = true then some (addr, c.length) else none

end NFTConfig

theorem silent_updated (handed : Int → InnerPacket → Bool) (t : Transit) (c : NFChain)
    (silent : ∀ rule ∈ c.rules, rule.verdict handed t = none) :
    c.updated handed t = c.rules.filterMap (NFRule.updated t) ∧ c.verdict handed t = .accept := by
  constructor
  · unfold NFChain.updated
    rw [List.takeWhile_eq_self_iff.mpr]
    intro rule listed
    simp [silent rule listed]
  · unfold NFChain.verdict
    rw [List.findSome?_eq_none_iff.mpr silent]
    rfl

theorem plain_updated (handed : Int → InnerPacket → Bool) (t : Transit) (c : NFChain)
    (plain : ∀ rule ∈ c.rules, rule.statement.updated t.packet = none) : c.updated handed t = [] := by
  unfold NFChain.updated
  apply List.filterMap_eq_nil_iff.mpr
  intro rule listed
  have inChain := (List.takeWhile_sublist _).subset listed
  unfold NFRule.updated
  rw [plain rule inChain, ite_self]

theorem prerouting_plain (cfg : NFTConfig) (handed : Int → InnerPacket → Bool) (t : Transit) :
    cfg.preroutingChain.updated handed t = [] := by
  apply plain_updated
  intro rule listed
  simp only [NFTConfig.preroutingChain, List.mem_append, mem_emit_if] at listed
  rcases listed with ((⟨_, rfl⟩ | ⟨_, rfl⟩) | ⟨_, rfl⟩) | ⟨_, rfl⟩ <;> rfl

theorem forward_plain (cfg : NFTConfig) (handed : Int → InnerPacket → Bool) (t : Transit) :
    cfg.forwardChain.updated handed t = [] := by
  apply plain_updated
  intro rule listed
  obtain rfl := List.mem_singleton.mp listed
  rfl

theorem postrouting_plain (cfg : NFTConfig) (handed : Int → InnerPacket → Bool) (t : Transit) :
    cfg.postroutingChain.updated handed t = [] := by
  apply plain_updated
  intro rule listed
  obtain rfl := List.mem_singleton.mp listed
  split_ifs <;> rfl

theorem update_silent (handed : Int → InnerPacket → Bool) (t : Transit) (rule : NFRule) (target : String × Addr)
    (updates : rule.statement.updated t.packet = some target) : rule.verdict handed t = none := by
  unfold NFRule.verdict
  cases statement : rule.statement <;> simp_all [NFStatement.updated, NFStatement.verdict]

theorem ingress_updated (cfg : NFTConfig) (handed : Int → InnerPacket → Bool) (t : Transit) :
    cfg.ingressChain.updated handed t = cfg.ingressChain.rules.filterMap (NFRule.updated t) ∧
      cfg.ingressChain.verdict handed t = .accept := by
  apply silent_updated
  intro rule listed
  simp only [NFTConfig.ingressChain, List.mem_append, mem_emit_if] at listed
  rcases listed with ⟨_, rfl⟩ | ⟨_, rfl⟩ <;> exact update_silent handed t _ _ rfl

theorem egress_updated (cfg : NFTConfig) (handed : Int → InnerPacket → Bool) (t : Transit) :
    cfg.egressChain.updated handed t = cfg.egressChain.rules.filterMap (NFRule.updated t) ∧
      cfg.egressChain.verdict handed t = .accept := by
  apply silent_updated
  intro rule listed
  simp only [NFTConfig.egressChain, List.mem_append, mem_emit_if] at listed
  rcases listed with ⟨_, rfl⟩ | ⟨_, rfl⟩ <;> exact update_silent handed t _ _ rfl

theorem acct_chains (cfg : NFTConfig) (accounting : cfg.accounting = true) :
    cfg.buildTable.chainsAt .prerouting = cfg.ingressChain :: emitIf cfg.tproxy cfg.preroutingChain ∧
    cfg.buildTable.chainsAt .postrouting = cfg.egressChain :: emitIf cfg.masquerade cfg.postroutingChain := by
  have entering : cfg.accountingItems.filterMap (NFItem.chainAt .prerouting) = [cfg.ingressChain] := by
    simp only [NFTConfig.accountingItems, List.filterMap_append, filter_map_emit_if]
    cases cfg.acctV4 <;> cases cfg.acctV6 <;> rfl
  have leaving : cfg.accountingItems.filterMap (NFItem.chainAt .postrouting) = [cfg.egressChain] := by
    simp only [NFTConfig.accountingItems, List.filterMap_append, filter_map_emit_if]
    cases cfg.acctV4 <;> cases cfg.acctV6 <;> rfl
  constructor
  · simp only [NFTable.chainsAt, NFTConfig.buildTable, accounting, if_true, List.filterMap_append, filter_map_emit_if, entering]
    cases cfg.tproxy <;> cases cfg.isolation <;> cases cfg.masquerade <;> rfl
  · simp only [NFTable.chainsAt, NFTConfig.buildTable, accounting, if_true, List.filterMap_append, filter_map_emit_if, leaving]
    cases cfg.tproxy <;> cases cfg.isolation <;> cases cfg.masquerade <;> rfl

theorem forward_updated (cfg : NFTConfig) (handed : Int → InnerPacket → Bool) (t : Transit) :
    chainsUpdated handed t (cfg.buildTable.chainsAt .forward) = [] := by
  rw [NFTable.chainsAt, NFTConfig.forward_chains]
  cases cfg.isolation with
  | false => rfl
  | true => simp [emitIf, chainsUpdated, forward_plain]

theorem acct_updated (cfg : NFTConfig) (handed : Int → InnerPacket → Bool) (t : Transit) (accounting : cfg.accounting = true) :
    chainsUpdated handed t (cfg.buildTable.chainsAt .prerouting) = cfg.ingressChain.rules.filterMap (NFRule.updated t) ∧
    chainsUpdated handed t (cfg.buildTable.chainsAt .postrouting) = cfg.egressChain.rules.filterMap (NFRule.updated t) := by
  obtain ⟨entering, leaving⟩ := acct_chains cfg accounting
  obtain ⟨ingress, passed⟩ := ingress_updated cfg handed t
  obtain ⟨egress, left⟩ := egress_updated cfg handed t
  rw [entering, leaving]
  constructor
  · cases cfg.tproxy <;> simp [emitIf, chainsUpdated, ingress, passed, prerouting_plain]
  · cases cfg.masquerade <;> simp [emitIf, chainsUpdated, egress, left, postrouting_plain]

theorem source_rule (on : Bool) (proto : NFProto) (net : Prefix) (set : String) (t : Transit) :
    (emitIf on (⟨[.saddrIn proto net], .updateSaddr proto set⟩ : NFRule)).filterMap (NFRule.updated t) =
      if on = true ∧ proto.carries t.packet.src = true ∧ net.contains t.packet.src = true then [(set, t.packet.src)] else [] := by
  cases on <;> cases carried : proto.carries t.packet.src <;> cases inside : net.contains t.packet.src <;>
    simp [emitIf, NFRule.updated, NFMatch.holds, NFStatement.updated, carried, inside]

theorem destination_rule (on : Bool) (proto : NFProto) (net : Prefix) (set : String) (t : Transit) :
    (emitIf on (⟨[.daddrIn proto net], .updateDaddr proto set⟩ : NFRule)).filterMap (NFRule.updated t) =
      if on = true ∧ proto.carries t.packet.dst = true ∧ net.contains t.packet.dst = true then [(set, t.packet.dst)] else [] := by
  cases on <;> cases carried : proto.carries t.packet.dst <;> cases inside : net.contains t.packet.dst <;>
    simp [emitIf, NFRule.updated, NFMatch.holds, NFStatement.updated, carried, inside]

theorem entries_metered (cfg : NFTConfig) (handed : Int → InnerPacket → Bool) (accounting : cfg.accounting = true) (way : Way)
    (proto : NFProto) (c : Crossing) :
    cfg.buildTable.entries handed (acctSet way proto) c = (cfg.metered way proto c).toList := by
  obtain ⟨hook, t, length⟩ := c
  have family : cfg.buildTable.family = cfg.family := rfl
  obtain ⟨entering, leaving⟩ := acct_updated cfg handed t accounting
  unfold NFTable.entries NFTable.updated NFTConfig.metered
  rw [family]
  cases familySees cfg.family t.packet.dst with
  | false => simp
  | true =>
      cases hook with
      | forward => cases way <;> simp [forward_updated, Way.hook]
      | prerouting =>
          simp only [if_true, entering, NFTConfig.ingressChain, List.filterMap_append, source_rule]
          cases way <;> cases proto <;>
            simp only [acctSet, Way.hook, Way.addr, NFTConfig.acctOn, NFTConfig.acctPool] <;> split_ifs <;> simp_all
      | postrouting =>
          simp only [if_true, leaving, NFTConfig.egressChain, List.filterMap_append, destination_rule]
          cases way <;> cases proto <;>
            simp only [acctSet, Way.hook, Way.addr, NFTConfig.acctOn, NFTConfig.acctPool] <;> split_ifs <;> simp_all

def NFItem.declares (name : String) : NFItem → Bool
  | .set declared _ => declared == name
  | .chain _ => false

theorem declare_lookup (sets : NFSets) (items : List NFItem) (name : String) :
    (items.foldl NFItem.declare sets).lookup name =
      if items.any (NFItem.declares name) then some ∅ else sets.lookup name := by
  induction items generalizing sets with
  | nil => simp
  | cons item rest ih =>
      rw [List.foldl_cons, ih, List.any_cons]
      cases later : rest.any (NFItem.declares name) with
      | true => simp
      | false =>
          cases item with
          | chain c => simp [NFItem.declare, NFItem.declares]
          | set declared proto =>
              simp only [NFItem.declare, NFItem.declares, Table.lookup_put]
              by_cases same : name = declared
              · simp [same]
              · simp [same, Ne.symm same]

theorem any_emit_if {T : Type} (wanted : Bool) (item : T) (test : T → Bool) : (emitIf wanted item).any test = (wanted && test item) := by
  cases wanted <;> simp [emitIf]

theorem fresh_lookup (cfg : NFTConfig) (accounting : cfg.accounting = true) (way : Way) (proto : NFProto) :
    (NFSets.fresh cfg.buildTable).lookup (acctSet way proto) = if cfg.acctOn proto then some ∅ else none := by
  unfold NFSets.fresh
  rw [declare_lookup, AList.lookup_empty]
  have declared : cfg.buildTable.items.any (NFItem.declares (acctSet way proto)) = cfg.acctOn proto := by
    simp only [NFTConfig.buildTable, accounting, if_true, NFTConfig.accountingItems, List.any_append, any_emit_if, NFItem.declares,
      Bool.and_false, Bool.false_or]
    cases way <;> cases proto <;> simp [NFTConfig.acctOn, NFItem.declares, acctSet]
  rw [declared]

theorem acct_sets (cfg : NFTConfig) (handed : Int → InnerPacket → Bool) (accounting : cfg.accounting = true) (way : Way)
    (proto : NFProto) (crossings : List Crossing) :
    (NFSets.after handed cfg.buildTable crossings).lookup (acctSet way proto) =
      if cfg.acctOn proto then some (acctMeter.updates ∅ (crossings.filterMap (cfg.metered way proto))) else none := by
  have entries : crossings.flatMap (cfg.buildTable.entries handed (acctSet way proto)) = crossings.filterMap (cfg.metered way proto) := by
    rw [funext (entries_metered cfg handed accounting way proto), List.filterMap_eq_flatMap_toList]
  unfold NFSets.after
  rw [crossings_lookup, fresh_lookup cfg accounting, entries]
  cases cfg.acctOn proto <;> rfl

def NFSets.bytes (sets : NFSets) (way : Way) (proto : NFProto) (addr : Addr) : Option UInt64 :=
  ((sets.lookup (acctSet way proto)).bind fun set => set.lookup addr).map NFCounter.bytes

def NFTConfig.lengths (cfg : NFTConfig) (way : Way) (proto : NFProto) (crossings : List Crossing) (addr : Addr) : List Nat :=
  Meter.amounts addr (crossings.filterMap (cfg.metered way proto))

def NFTConfig.Crowded (cfg : NFTConfig) (way : Way) (proto : NFProto) (crossings : List Crossing) : Prop :=
  65535 < ((crossings.filterMap (cfg.metered way proto)).map Prod.fst).dedup.length

def NFTConfig.Reads (cfg : NFTConfig) (way : Way) (proto : NFProto) (crossings : List Crossing) (addr : Addr) : Option UInt64 → Prop
  | some bytes =>
      cfg.lengths way proto crossings addr ≠ [] ∧
        bytes = UInt64.ofNat (cfg.lengths way proto crossings addr).sum
  | none => cfg.lengths way proto crossings addr = [] ∨ cfg.Crowded way proto crossings

theorem count_total (lengths : List Nat) (counter : NFCounter) :
    (lengths.foldl acctMeter.count counter).bytes = counter.bytes + UInt64.ofNat lengths.sum := by
  induction lengths generalizing counter with
  | nil => simp
  | cons length rest ih =>
      rw [List.foldl_cons, ih, List.sum_cons, UInt64.ofNat_add, ← UInt64.add_assoc]
      rfl

theorem sets_read (cfg : NFTConfig) (handed : Int → InnerPacket → Bool) (accounting : cfg.accounting = true) (way : Way)
    (proto : NFProto) (crossings : List Crossing) (addr : Addr) :
    cfg.Reads way proto crossings addr ((NFSets.after handed cfg.buildTable crossings).bytes way proto addr) := by
  unfold NFSets.bytes
  rw [acct_sets cfg handed accounting]
  cases on : cfg.acctOn proto with
  | false =>
      refine .inl ?_
      have unmetered : crossings.filterMap (cfg.metered way proto) = [] := by
        apply List.filterMap_eq_nil_iff.mpr
        intro c _
        simp [NFTConfig.metered, on]
      rw [NFTConfig.lengths, unmetered, Meter.amounts_nil]
  | true =>
      have counted := Meter.updates_exact acctMeter ∅ [] (crossings.filterMap (cfg.metered way proto)) (Meter.empty_exact acctMeter)
      rw [List.nil_append] at counted
      rw [if_pos rfl, Option.bind_some]
      cases held : (acctMeter.updates ∅ (crossings.filterMap (cfg.metered way proto))).lookup addr with
      | some counter =>
          obtain ⟨seen, reading⟩ := counted.held addr counter held
          refine ⟨seen, ?_⟩
          rw [reading, Meter.reading, count_total]
          simp [acctMeter, NFTConfig.lengths]
      | none =>
          by_cases seen : cfg.lengths way proto crossings addr = []
          · exact .inl seen
          · exact .inr (Meter.missed_crowded acctMeter _ _ addr counted held seen)

end Packethose
