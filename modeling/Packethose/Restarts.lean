import Mathlib.Logic.Relation
import Packethose.Reinstall

set_option autoImplicit false

namespace Packethose

namespace NFTInstaller

-- What Server.Run has done to the kernel when it returns. Without a
-- successful Reconcile the deferred Remove is never set up.
def serverRun (answer : Nat → ProcessResult) (n : NFTInstaller) (w : NetWorld) : NetWorld :=
  match n.reconcile answer w with
  | (next, none) => (n.remove answer next).1
  | (next, some _) => next

-- One life of the server from one kernel to another: it may be killed behind
-- any of its commands.
def Lived (n : NFTInstaller) (before after : NetKernel) : Prop :=
  ∃ answer cut,
    Commands.faithful (netMachine answer) NetKernel.permits ⟨before, []⟩ (n.serverRun answer ⟨before, []⟩).issued = true ∧
      after = (Commands.reissue (netMachine answer) ⟨before, []⟩ ((n.serverRun answer ⟨before, []⟩).issued.take cut)).kernel

end NFTInstaller

inductive OwnOp where
  | block
  | delete
  | addRule (v6 : Bool)
  | addRoute (v6 : Bool)
  | delRule (v6 : Bool)
  | delRoute (v6 : Bool)
deriving DecidableEq

structure Holdings where
  table : Bool
  rule : Bool → Bool
  route : Bool → Bool

def Holdings.allows (h : Holdings) : OwnOp → Bool
  | .block => true
  | .delete => h.table
  | .addRule v6 => !h.rule v6
  | .addRoute v6 => !h.route v6
  | .delRule v6 => h.rule v6
  | .delRoute v6 => h.route v6

def Holdings.nothing : Holdings := ⟨false, fun _ => false, fun _ => false⟩

namespace NFTInstaller

def serves (n : NFTInstaller) (v6 : Bool) : Bool := if v6 then n.cfg.ipv6 else n.cfg.ipv4

def everything (n : NFTInstaller) : Holdings := ⟨true, n.serves, n.serves⟩

def ownRule (n : NFTInstaller) (v6 : Bool) : IPRule := ⟨v6, n.cfg.tproxyMark, n.cfg.routeTable, ""⟩

def ownRoute (n : NFTInstaller) (v6 : Bool) : IPRoute := ⟨v6, n.cfg.routeTable, localDefault⟩

def command (n : NFTInstaller) : OwnOp → NetCommand
  | .block => .nftBlock n.cfg.buildTable
  | .delete => n.removeScript
  | .addRule v6 => .ruleAdd v6 n.cfg.tproxyMark n.cfg.routeTable
  | .addRoute v6 => .routeAdd v6 n.cfg.routeTable
  | .delRule v6 => .ruleDel v6 n.cfg.tproxyMark n.cfg.routeTable
  | .delRoute v6 => .routeDel v6 n.cfg.routeTable

def addOps (n : NFTInstaller) : List OwnOp :=
  emitIf n.cfg.ipv4 (.addRule false) ++ emitIf n.cfg.ipv4 (.addRoute false) ++
  emitIf n.cfg.ipv6 (.addRule true) ++ emitIf n.cfg.ipv6 (.addRoute true)

def delOps (n : NFTInstaller) : List OwnOp :=
  emitIf n.cfg.ipv4 (.delRule false) ++ emitIf n.cfg.ipv4 (.delRoute false) ++
  emitIf n.cfg.ipv6 (.delRule true) ++ emitIf n.cfg.ipv6 (.delRoute true)

theorem adds_commands (n : NFTInstaller) : n.addOps.map n.command = n.routingAdds := by
  unfold addOps routingAdds
  cases n.cfg.ipv4 <;> cases n.cfg.ipv6 <;> rfl

theorem dels_commands (n : NFTInstaller) : n.delOps.map n.command = n.routingDels := by
  unfold delOps routingDels
  cases n.cfg.ipv4 <;> cases n.cfg.ipv6 <;> rfl

def act (n : NFTInstaller) (h : Holdings) : OwnOp → Option Holdings
  | .block => if h.table then none else some { h with table := true }
  | .delete => some { h with table := false }
  | .addRule v6 =>
      if n.serves v6 && !h.rule true && !h.rule v6 then some { h with rule := Function.update h.rule v6 true } else none
  | .addRoute v6 =>
      if n.serves v6 && !h.route true && !h.route v6 then some { h with route := Function.update h.route v6 true } else none
  | .delRule v6 => if n.serves v6 then some { h with rule := Function.update h.rule v6 false } else none
  | .delRoute v6 => if n.serves v6 then some { h with route := Function.update h.route v6 false } else none

def perform (n : NFTInstaller) (h : Holdings) : List OwnOp → Option Holdings
  | [] => some h
  | op :: rest => (n.act h op).bind fun next => n.perform next rest

theorem perform_append (n : NFTInstaller) (h : Holdings) (first second : List OwnOp) :
    n.perform h (first ++ second) = (n.perform h first).bind fun middle => n.perform middle second := by
  induction first generalizing h with
  | nil => rfl
  | cons op rest ih =>
      simp only [List.cons_append, perform]
      cases n.act h op with
      | none => rfl
      | some next => exact ih next

def startOps (n : NFTInstaller) : List OwnOp := .delete :: n.delOps ++ .block :: n.addOps

def stopOps (n : NFTInstaller) : List OwnOp := n.delOps ++ [.delete]

def Fits (n : NFTInstaller) (h : Holdings) : Prop := ∀ v6, h.rule v6 = true ∨ h.route v6 = true → n.serves v6 = true

theorem act_fits (n : NFTInstaller) (h next : Holdings) (op : OwnOp) (fits : n.Fits h) (acted : n.act h op = some next) :
    n.Fits next := by
  intro family
  have before := fits family
  cases op with
  | block =>
      simp only [act] at acted
      split_ifs at acted
      exact Option.some.inj acted ▸ before
  | delete => exact Option.some.inj acted ▸ before
  | addRule v6 | addRoute v6 | delRule v6 | delRoute v6 =>
      simp only [act] at acted
      split_ifs at acted with served
      obtain rfl := Option.some.inj acted
      by_cases same : family = v6
      · simp_all
      · simpa [same] using before

theorem both_families (held : Bool → Bool) (four six : Bool) :
    Function.update (Function.update held false four) true six = fun v6 => if v6 then six else four := by
  funext v6
  cases v6 <;> rfl

theorem family_cleared (n : NFTInstaller) (h : Holdings) (fits : n.Fits h) (v6 : Bool) :
    n.perform h (emitIf (n.serves v6) (.delRule v6) ++ emitIf (n.serves v6) (.delRoute v6)) =
      some { h with rule := Function.update h.rule v6 false, route := Function.update h.route v6 false } := by
  cases served : n.serves v6 with
  | true => simp [emitIf, perform, act, served]
  | false =>
      have clear := mt (fits v6) (by simp [served])
      rw [not_or, Bool.not_eq_true, Bool.not_eq_true] at clear
      have rule : Function.update h.rule v6 false = h.rule := Function.update_eq_self_iff.mpr clear.1.symm
      have route : Function.update h.route v6 false = h.route := Function.update_eq_self_iff.mpr clear.2.symm
      rw [rule, route]
      rfl

theorem dels_performed (n : NFTInstaller) (h : Holdings) (fits : n.Fits h) :
    n.perform h n.delOps = some { h with rule := fun _ => false, route := fun _ => false } := by
  have four := n.family_cleared h fits false
  have fitting : n.Fits { h with rule := Function.update h.rule false false, route := Function.update h.route false false } := by
    intro v6 held
    cases v6 with
    | false => simp at held
    | true => exact fits true held
  have six := n.family_cleared _ fitting true
  rw [both_families, both_families] at six
  have split : n.delOps = (emitIf (n.serves false) (.delRule false) ++ emitIf (n.serves false) (.delRoute false)) ++
      (emitIf (n.serves true) (.delRule true) ++ emitIf (n.serves true) (.delRoute true)) := by
    simp [delOps, serves]
  rw [split, perform_append, four, Option.bind_some, six]
  simp

theorem family_added (n : NFTInstaller) (h : Holdings) (v6 : Bool) (second : h.rule true = false ∧ h.route true = false)
    (clear : h.rule v6 = false ∧ h.route v6 = false) :
    n.perform h (emitIf (n.serves v6) (.addRule v6) ++ emitIf (n.serves v6) (.addRoute v6)) =
      some { h with rule := Function.update h.rule v6 (n.serves v6), route := Function.update h.route v6 (n.serves v6) } := by
  cases served : n.serves v6 with
  | true => simp [emitIf, perform, act, served, second, clear]
  | false =>
      have rule : Function.update h.rule v6 false = h.rule := Function.update_eq_self_iff.mpr clear.1.symm
      have route : Function.update h.route v6 false = h.route := Function.update_eq_self_iff.mpr clear.2.symm
      rw [rule, route]
      rfl

theorem adds_performed (n : NFTInstaller) (table : Bool) :
    n.perform ⟨table, fun _ => false, fun _ => false⟩ n.addOps = some ⟨table, n.serves, n.serves⟩ := by
  have four := n.family_added ⟨table, fun _ => false, fun _ => false⟩ false ⟨rfl, rfl⟩ ⟨rfl, rfl⟩
  have six := n.family_added ⟨table, Function.update (fun _ => false) false (n.serves false),
    Function.update (fun _ => false) false (n.serves false)⟩ true ⟨rfl, rfl⟩ ⟨rfl, rfl⟩
  rw [both_families] at six
  have served : (fun v6 => if v6 then n.serves true else n.serves false) = n.serves := by
    funext v6
    cases v6 <;> rfl
  have split : n.addOps = (emitIf (n.serves false) (.addRule false) ++ emitIf (n.serves false) (.addRoute false)) ++
      (emitIf (n.serves true) (.addRule true) ++ emitIf (n.serves true) (.addRoute true)) := by
    simp [addOps, serves]
  rw [split, perform_append, four, Option.bind_some, six, served]

theorem start_performed (n : NFTInstaller) (h : Holdings) (fits : n.Fits h) : n.perform h n.startOps = some n.everything := by
  have cleared := n.dels_performed { h with table := false } fits
  rw [startOps, List.cons_append, perform, act, Option.bind_some, perform_append, cleared, Option.bind_some, perform, act,
    if_neg (by simp), Option.bind_some, adds_performed]
  rfl

theorem stop_performed (n : NFTInstaller) (h : Holdings) (fits : n.Fits h) : n.perform h n.stopOps = some .nothing := by
  rw [stopOps, perform_append, n.dels_performed h fits]
  rfl

end NFTInstaller

def stacked {T : Type} (held : Bool → Bool) (own : Bool → T) (base : List T) : List T :=
  emitIf (held true) (own true) ++ emitIf (held false) (own false) ++ base

section Stacks

variable {T : Type} (held : Bool → Bool) (own : Bool → T) (base : List T) (v6 : Bool) (chosen : T → Bool)
  (hits : ∀ family, chosen (own family) = (family == v6)) (foreign : ∀ item ∈ base, chosen item = false)

include hits foreign

theorem stacked_any : (stacked held own base).any chosen = held v6 := by
  have outside : base.any chosen = false := List.any_eq_false.mpr fun item listed => by simp [foreign item listed]
  unfold stacked
  cases v6 <;> cases second : held true <;> cases first : held false <;> simp [emitIf, hits, outside]

theorem stacked_erased : (stacked held own base).eraseP chosen = stacked (Function.update held v6 false) own base := by
  have outside : base.eraseP chosen = base := List.eraseP_of_forall_not fun item listed => by simp [foreign item listed]
  unfold stacked
  cases v6 <;> cases second : held true <;> cases first : held false <;>
    simp [emitIf, hits, outside, second, first]

omit hits foreign

theorem stacked_added (second : held true = false) (clear : held v6 = false) :
    own v6 :: stacked held own base = stacked (Function.update held v6 true) own base := by
  unfold stacked
  cases v6 <;> cases first : held false <;> simp_all [emitIf]

end Stacks

namespace NFTInstaller

-- The kernel is the one before the first start, with the installer's own
-- things added as the holdings say.
structure Holds (n : NFTInstaller) (base : NetKernel) (h : Holdings) (k : NetKernel) : Prop where
  own : k.tables.lookup n.key = if h.table then some n.cfg.buildTable.items else none
  others : ∀ key, key ≠ n.key → k.tables.lookup key = base.tables.lookup key
  rules : k.rules = stacked h.rule n.ownRule base.rules
  routes : k.routes = stacked h.route n.ownRoute base.routes

structure Clean (n : NFTInstaller) (base : NetKernel) : Prop where
  table : base.tables.lookup n.key = none
  rules : ∀ v6, n.serves v6 = true → ∀ rule ∈ base.rules, rule.selected v6 n.cfg.tproxyMark n.cfg.routeTable = false
  routes : ∀ v6, n.serves v6 = true → ∀ route ∈ base.routes, (route == n.ownRoute v6) = false

def obeyed (k : NetKernel) (c : NetCommand) : NetKernel := if k.permits c then c.apply k else k

section Acting

variable {n : NFTInstaller} {base : NetKernel} {h : Holdings} {k : NetKernel}

theorem own_selected (v6 family : Bool) : (n.ownRule family).selected v6 n.cfg.tproxyMark n.cfg.routeTable = (family == v6) := by
  simp [IPRule.selected, ownRule]

theorem own_route_same (v6 family : Bool) : (n.ownRoute family == n.ownRoute v6) = (family == v6) := by
  cases family <;> cases v6 <;> simp [ownRoute]

theorem rule_present (clean : n.Clean base) (holds : n.Holds base h k) (v6 : Bool) (served : n.serves v6 = true) :
    k.rules.any (IPRule.selected v6 n.cfg.tproxyMark n.cfg.routeTable) = h.rule v6 := by
  rw [holds.rules]
  exact stacked_any h.rule n.ownRule base.rules v6 _ (own_selected v6) (clean.rules v6 served)

theorem route_present (clean : n.Clean base) (holds : n.Holds base h k) (v6 : Bool) (served : n.serves v6 = true) :
    n.ownRoute v6 ∈ k.routes ↔ h.route v6 = true := by
  rw [← stacked_any h.route n.ownRoute base.routes v6 _ (own_route_same v6) (clean.routes v6 served), ← holds.routes]
  simp

theorem allowed (clean : n.Clean base) (holds : n.Holds base h k) (op : OwnOp) (next : Holdings) (acted : n.act h op = some next) :
    k.permits (n.command op) = h.allows op := by
  cases op with
  | block => rfl
  | delete =>
      show (k.tables.lookup n.key).isSome = h.table
      rw [holds.own]
      cases h.table <;> rfl
  | addRule v6 =>
      simp only [act] at acted
      split_ifs at acted with possible
      simp only [Bool.and_eq_true, Bool.not_eq_true'] at possible
      have missing : n.ownRule v6 ∉ k.rules := by
        intro listed
        have none := rule_present clean holds v6 possible.1.1
        rw [possible.2, List.any_eq_false] at none
        exact none _ listed (by rw [own_selected]; simp)
      rw [Holdings.allows, possible.2]
      exact decide_eq_true missing
  | addRoute v6 =>
      simp only [act] at acted
      split_ifs at acted with possible
      simp only [Bool.and_eq_true, Bool.not_eq_true'] at possible
      have missing : n.ownRoute v6 ∉ k.routes := by
        rw [route_present clean holds v6 possible.1.1, possible.2]
        simp
      rw [Holdings.allows, possible.2]
      exact decide_eq_true missing
  | delRule v6 =>
      simp only [act] at acted
      split_ifs at acted with served
      exact rule_present clean holds v6 served
  | delRoute v6 =>
      simp only [act] at acted
      split_ifs at acted with served
      exact (Bool.decide_congr (route_present clean holds v6 served)).trans Bool.decide_eq_true

theorem obeyed_allowed (clean : n.Clean base) (holds : n.Holds base h k) (op : OwnOp) (next : Holdings)
    (acted : n.act h op = some next) : obeyed k (n.command op) = if h.allows op then (n.command op).apply k else k := by
  rw [obeyed, allowed clean holds op next acted]

theorem act_holds (clean : n.Clean base) (holds : n.Holds base h k) (op : OwnOp) (next : Holdings) (acted : n.act h op = some next) :
    n.Holds base next (obeyed k (n.command op)) := by
  rw [obeyed_allowed clean holds op next acted]
  have own := holds.own
  cases op with
  | block =>
      simp only [act] at acted
      split_ifs at acted with present
      obtain rfl := Option.some.inj acted
      rw [if_neg present] at own
      have items : (n.command .block).apply k = { k with tables := k.tables.insert n.key n.cfg.buildTable.items } := by
        show { k with tables := k.tables.insert n.key ((k.tables.lookup n.key).getD [] ++ n.cfg.buildTable.items) } = _
        rw [own]
        rfl
      rw [Holdings.allows, if_pos rfl, items]
      refine ⟨?_, fun key other => ?_, holds.rules, holds.routes⟩
      · rw [Table.lookup_put, if_pos rfl]
        rfl
      · rw [Table.lookup_put, if_neg other, holds.others key other]
  | delete =>
      obtain rfl := Option.some.inj acted
      cases present : h.table with
      | true =>
          rw [Holdings.allows, present, if_pos rfl]
          refine ⟨?_, fun key other => ?_, holds.rules, holds.routes⟩
          · exact (Table.lookup_drop k.tables n.key n.key).trans (if_pos rfl)
          · exact ((Table.lookup_drop k.tables n.key key).trans (if_neg other)).trans (holds.others key other)
      | false =>
          rw [Holdings.allows, present, if_neg (by simp)]
          rw [present] at own
          exact ⟨own, holds.others, holds.rules, holds.routes⟩
  | addRule v6 =>
      simp only [act] at acted
      split_ifs at acted with possible
      obtain rfl := Option.some.inj acted
      simp only [Bool.and_eq_true, Bool.not_eq_true'] at possible
      have added := stacked_added h.rule n.ownRule base.rules v6 possible.1.2 possible.2
      rw [Holdings.allows, possible.2, Bool.not_false, if_pos rfl]
      exact ⟨own, holds.others, (congrArg (n.ownRule v6 :: ·) holds.rules).trans added, holds.routes⟩
  | addRoute v6 =>
      simp only [act] at acted
      split_ifs at acted with possible
      obtain rfl := Option.some.inj acted
      simp only [Bool.and_eq_true, Bool.not_eq_true'] at possible
      have added := stacked_added h.route n.ownRoute base.routes v6 possible.1.2 possible.2
      rw [Holdings.allows, possible.2, Bool.not_false, if_pos rfl]
      exact ⟨own, holds.others, holds.rules, (congrArg (n.ownRoute v6 :: ·) holds.routes).trans added⟩
  | delRule v6 =>
      simp only [act] at acted
      split_ifs at acted with served
      obtain rfl := Option.some.inj acted
      have erased := stacked_erased h.rule n.ownRule base.rules v6 _ (own_selected v6) (clean.rules v6 served)
      rw [← holds.rules] at erased
      cases present : h.rule v6 with
      | true =>
          rw [Holdings.allows, present, if_pos rfl]
          exact ⟨own, holds.others, erased, holds.routes⟩
      | false =>
          rw [Holdings.allows, present, if_neg (by simp)]
          refine ⟨own, holds.others, ?_, holds.routes⟩
          rw [Function.update_eq_self_iff.mpr present.symm]
          exact holds.rules
  | delRoute v6 =>
      simp only [act] at acted
      split_ifs at acted with served
      obtain rfl := Option.some.inj acted
      have erased := stacked_erased h.route n.ownRoute base.routes v6 _ (own_route_same v6) (clean.routes v6 served)
      rw [← holds.routes] at erased
      cases present : h.route v6 with
      | true =>
          rw [Holdings.allows, present, if_pos rfl]
          refine ⟨own, holds.others, holds.rules, ?_⟩
          rw [← erased]
          exact List.erase_eq_eraseP' _ _
      | false =>
          rw [Holdings.allows, present, if_neg (by simp)]
          refine ⟨own, holds.others, holds.rules, ?_⟩
          rw [Function.update_eq_self_iff.mpr present.symm]
          exact holds.routes

theorem perform_fits (ops : List OwnOp) (next : Holdings) (fits : n.Fits h) (performed : n.perform h ops = some next) :
    n.Fits next := by
  induction ops generalizing h with
  | nil => exact Option.some.inj performed ▸ fits
  | cons op rest ih =>
      obtain ⟨middle, acted, later⟩ := Option.bind_eq_some_iff.mp performed
      exact ih (n.act_fits h middle op fits acted) later

theorem perform_holds (clean : n.Clean base) (ops : List OwnOp) (next : Holdings) (holds : n.Holds base h k)
    (performed : n.perform h ops = some next) : n.Holds base next ((ops.map n.command).foldl obeyed k) := by
  induction ops generalizing h k with
  | nil => exact Option.some.inj performed ▸ holds
  | cons op rest ih =>
      obtain ⟨middle, acted, later⟩ := Option.bind_eq_some_iff.mp performed
      exact ih (act_holds clean holds op middle acted) later

theorem perform_split (first second : List OwnOp) (final : Holdings) (performed : n.perform h (first ++ second) = some final) :
    ∃ middle, n.perform h first = some middle ∧ n.perform middle second = some final := by
  rw [perform_append] at performed
  exact Option.bind_eq_some_iff.mp performed

theorem add_allowed (op : OwnOp) (next : Holdings) (listed : op ∈ n.addOps) (acted : n.act h op = some next) :
    h.allows op = true := by
  simp only [addOps, List.mem_append, mem_emit_if] at listed
  rcases listed with ((⟨_, rfl⟩ | ⟨_, rfl⟩) | ⟨_, rfl⟩) | ⟨_, rfl⟩ <;>
    · simp only [act] at acted
      split_ifs at acted with possible
      simp only [Bool.and_eq_true] at possible
      exact possible.2

end Acting

section Honest

variable {answer : Nat → ProcessResult} {n : NFTInstaller} {base : NetKernel} {h : Holdings} {k : NetKernel}

theorem remove_issues (enabled : n.cfg.enabled = true) (routed : n.cfg.tproxy = false → n.delOps = []) (w : NetWorld) :
    (n.remove answer w).1 = Commands.reissue (netMachine answer) w (n.stopOps.map n.command) := by
  have whole : n.stopOps.map n.command = n.routingDels ++ [n.removeScript] := by
    rw [stopOps, List.map_append, dels_commands]
    rfl
  rw [whole, remove, enabled]
  cases tproxy : n.cfg.tproxy with
  | true =>
      simp only [Bool.not_true, Bool.false_eq_true, if_false, if_true, removeIPRouting, Commands.issue_all_reissue]
      simp [Commands.reissue]
  | false =>
      have none : n.routingDels = [] := by rw [← dels_commands, routed tproxy]; rfl
      simp [none, Commands.reissue]

theorem addition_permitted (clean : n.Clean base) (holds : n.Holds base h k) (fits : n.Fits h) (done later : List NetCommand)
    (c : NetCommand) (split : n.routingAdds = done ++ c :: later) :
    (((OwnOp.delete :: n.delOps ++ [OwnOp.block]).map n.command ++ done).foldl obeyed k).permits c = true := by
  rw [← adds_commands, List.map_eq_append_iff] at split
  obtain ⟨first, rest, ops, rfl, tail⟩ := split
  rw [List.map_eq_cons_iff] at tail
  obtain ⟨op, second, rfl, rfl, _⟩ := tail
  have whole : n.startOps = (OwnOp.delete :: n.delOps ++ [OwnOp.block] ++ first) ++ op :: second := by simp [startOps, ops]
  have performed := n.start_performed h fits
  rw [whole] at performed
  obtain ⟨middle, before, after⟩ := perform_split _ _ _ performed
  obtain ⟨next, acted, _⟩ := Option.bind_eq_some_iff.mp after
  rw [← List.map_append, allowed clean (perform_holds clean _ middle holds before) op next acted]
  exact add_allowed op next (by rw [ops]; simp) acted

theorem addition_succeeds (clean : n.Clean base) (holds : n.Holds base h k) (fits : n.Fits h) (done later rest : List NetCommand)
    (c : NetCommand) (split : n.routingAdds = done ++ c :: later)
    (honest : Commands.faithful (netMachine answer) NetKernel.permits ⟨k, []⟩
      (((OwnOp.delete :: n.delOps ++ [OwnOp.block]).map n.command ++ done) ++ c :: rest) = true) :
    (answer ((OwnOp.delete :: n.delOps ++ [OwnOp.block]).map n.command ++ done).length).succeeded = true := by
  rw [Commands.faithful_append, Bool.and_eq_true] at honest
  obtain ⟨before, here⟩ := honest
  rw [Commands.faithful, Bool.and_eq_true, beq_iff_eq, Commands.reissue_issued,
    Commands.reissue_faithful (netMachine answer) _ _ before] at here
  exact here.1.trans (addition_permitted clean holds fits done later c split)

theorem start_honest (enabled : n.cfg.enabled = true) (routed : n.cfg.tproxy = false → n.addOps = []) (clean : n.Clean base)
    (holds : n.Holds base h k) (fits : n.Fits h)
    (honest : Commands.faithful (netMachine answer) NetKernel.permits ⟨k, []⟩ (n.reconcile answer ⟨k, []⟩).1.issued = true) :
    n.reconcile answer ⟨k, []⟩ = (Commands.reissue (netMachine answer) ⟨k, []⟩ (n.startOps.map n.command), none) := by
  let sweep := (OwnOp.delete :: n.delOps).map n.command
  let swept : NetWorld := Commands.reissue (netMachine answer) ⟨k, []⟩ sweep
  have run : n.reconcile answer ⟨k, []⟩ = n.install answer swept := by
    simp only [swept, sweep]
    rw [reconcile, enabled, List.map_cons, dels_commands]
    simp only [Bool.not_true, Bool.false_eq_true, if_false, removeIPRouting, Commands.issue_all_reissue]
    rfl
  have genuine : Commands.Genuine (netMachine answer) k swept := Commands.reissue_genuine (netMachine answer) sweep rfl
  have position : swept.issued = sweep := by rw [Commands.reissue_issued, List.nil_append]
  have starts : ∀ adds, Commands.reissue (netMachine answer) (n.built answer swept) adds =
      Commands.reissue (netMachine answer) ⟨k, []⟩ ((OwnOp.delete :: n.delOps ++ [OwnOp.block]).map n.command ++ adds) := by
    intro adds
    simp [Commands.reissue, swept, sweep, built, command]
  have whole : n.startOps.map n.command = (OwnOp.delete :: n.delOps ++ [OwnOp.block]).map n.command ++ n.routingAdds := by
    simp [startOps, ← adds_commands]
  rw [run] at honest ⊢
  have ended := n.install_ended answer enabled swept
  generalize n.install answer swept = outcome at honest ended ⊢
  cases ended with
  | refused problem script =>
      have said := Commands.faithful_issued (netMachine answer) genuine (.nftBlock n.cfg.buildTable) ( List.prefix_refl _) honest
      rw [show (netMachine answer).succeeded ((netMachine answer).answer swept.issued.length) = false from script] at said
      cases said
  | plain script plain =>
      rw [whole, ← starts, ← adds_commands, routed plain]
      rfl
  | routed => rw [whole, starts]
  | rolledBack done later c problem script tproxy split added failed =>
      have issued : (Commands.issue (netMachine answer) (Commands.issue (netMachine answer)
          (Commands.reissue (netMachine answer) (n.built answer swept) done) c).1 n.removeScript).1.issued =
          ((OwnOp.delete :: n.delOps ++ [OwnOp.block]).map n.command ++ done) ++ [c, n.removeScript] := by
        rw [starts]
        simp [Commands.issue, Commands.reissue_issued]
      rw [issued] at honest
      have passed := addition_succeeds clean holds fits done later [n.removeScript] c split honest
      have here : ((OwnOp.delete :: n.delOps ++ [OwnOp.block]).map n.command ++ done).length =
          swept.issued.length + 1 + done.length := by
        simp only [position, sweep, List.length_append, List.length_map, List.length_cons, List.length_nil]
      rw [here, failed] at passed
      cases passed

theorem run_honest (enabled : n.cfg.enabled = true) (plain : n.cfg.tproxy = false → n.cfg.ipv4 = false ∧ n.cfg.ipv6 = false)
    (clean : n.Clean base) (holds : n.Holds base h k) (fits : n.Fits h)
    (honest : Commands.faithful (netMachine answer) NetKernel.permits ⟨k, []⟩ (n.serverRun answer ⟨k, []⟩).issued = true) :
    n.reconcile answer ⟨k, []⟩ = (Commands.reissue (netMachine answer) ⟨k, []⟩ (n.startOps.map n.command), none) ∧
      n.serverRun answer ⟨k, []⟩ = Commands.reissue (netMachine answer) ⟨k, []⟩ ((n.startOps ++ n.stopOps).map n.command) := by
  have noAdds : n.cfg.tproxy = false → n.addOps = [] := fun off => by simp [addOps, emitIf, plain off]
  have noDels : n.cfg.tproxy = false → n.delOps = [] := fun off => by simp [delOps, emitIf, plain off]
  have started := @start_honest answer n base h k enabled noAdds clean holds fits
  unfold serverRun at honest ⊢
  cases outcome : n.reconcile answer ⟨k, []⟩ with
  | mk next problem =>
      cases problem with
      | some text =>
          rw [outcome] at honest started
          cases started honest
      | none =>
          rw [outcome] at honest started
          simp only [remove_issues enabled noDels next, Commands.reissue_issued] at honest ⊢
          rw [Commands.faithful_append, Bool.and_eq_true] at honest
          obtain ⟨rfl, _⟩ := Prod.mk.inj (started honest.1)
          refine ⟨rfl, ?_⟩
          rw [List.map_append]
          simp [Commands.reissue]

end Honest

theorem lived_holds (n : NFTInstaller) (enabled : n.cfg.enabled = true)
    (plain : n.cfg.tproxy = false → n.cfg.ipv4 = false ∧ n.cfg.ipv6 = false) (base k after : NetKernel) (clean : n.Clean base)
    (before : ∃ h, n.Holds base h k ∧ n.Fits h) (lived : n.Lived k after) : ∃ h, n.Holds base h after ∧ n.Fits h := by
  obtain ⟨h, holds, fits⟩ := before
  obtain ⟨answer, cut, honest, rfl⟩ := lived
  have whole : n.perform h (n.startOps ++ n.stopOps) = some .nothing := by
    rw [perform_append, n.start_performed h fits, Option.bind_some]
    exact n.stop_performed n.everything fun v6 held => held.elim id id
  have cutShort := Commands.faithful_take (netMachine answer) _ _ cut honest
  rw [(run_honest enabled plain clean holds fits honest).2, Commands.reissue_issued, List.nil_append] at cutShort ⊢
  rw [Commands.reissue_faithful (netMachine answer) _ _ cutShort, ← List.map_take]
  rw [← List.take_append_drop cut (n.startOps ++ n.stopOps)] at whole
  obtain ⟨middle, performed, _⟩ := perform_split _ _ _ whole
  exact ⟨middle, perform_holds clean _ middle holds performed, perform_fits _ middle fits performed⟩

theorem lives_hold (n : NFTInstaller) (enabled : n.cfg.enabled = true)
    (plain : n.cfg.tproxy = false → n.cfg.ipv4 = false ∧ n.cfg.ipv6 = false) (base k : NetKernel) (clean : n.Clean base)
    (lives : Relation.ReflTransGen n.Lived base k) : ∃ h, n.Holds base h k ∧ n.Fits h := by
  induction lives with
  | refl =>
      refine ⟨.nothing, ⟨clean.table, fun _ _ => rfl, rfl, rfl⟩, fun v6 held => ?_⟩
      cases held <;> contradiction
  | tail _ lived ih => exact n.lived_holds enabled plain base _ _ clean ih lived

theorem absent_clean (n : NFTInstaller) (enabled : n.cfg.enabled = true) (definite : n.Definite)
    (plain : n.cfg.tproxy = false → n.cfg.ipv4 = false ∧ n.cfg.ipv6 = false) (base : NetKernel) (absent : n.Absent base) :
    n.Clean base := by
  have added : ∀ v6, n.serves v6 = true →
      .ruleAdd v6 n.cfg.tproxyMark n.cfg.routeTable ∈ n.adds ∧ .routeAdd v6 n.cfg.routeTable ∈ n.adds := by
    intro v6 served
    have tproxy : n.cfg.tproxy = true := by
      by_contra off
      obtain ⟨four, six⟩ := plain (by simpa using off)
      cases v6 <;> simp [serves, four, six] at served
    rw [adds, enabled, tproxy]
    cases v6 <;> simp [serves] at served <;> simp [routingAdds, mem_emit_if, served]
  refine ⟨absent.table, fun v6 served rule listed => ?_, fun v6 served route listed => ?_⟩
  · obtain ⟨mark, table⟩ := definite v6 _ _ (added v6 served).1
    have foreign := absent.rules rule listed
    by_contra chosen
    simp only [IPRule.selected, mark, table, Bool.not_eq_false, Bool.and_eq_true, Bool.or_eq_true, beq_iff_eq, false_or] at chosen
    obtain ⟨⟨family, marked⟩, routed⟩ := chosen
    rw [ownsRule, family, marked, routed, decide_eq_false_iff_not] at foreign
    exact foreign (added v6 served).1
  · have foreign := absent.routes route listed
    by_contra chosen
    obtain rfl : route = n.ownRoute v6 := by simpa using chosen
    rw [ownsRoute, Bool.and_eq_false_iff] at foreign
    rcases foreign with unlisted | other
    · exact decide_eq_false_iff_not.mp unlisted (added v6 served).2
    · simp [ownRoute] at other

end NFTInstaller

def firstLife (position : Nat) : ProcessResult :=
  if position < 3 then .failed "Error: No such file or directory" "exit status 1" else .ok

def secondLife (position : Nat) : ProcessResult :=
  if position = 2 then .failed "RTNETLINK answers: No such process" "exit status 2" else .ok

end Packethose
