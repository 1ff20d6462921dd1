import Packethose.Lib.Commands
import Packethose.Lib.Tables
import Packethose.Nftables

set_option autoImplicit false

namespace Packethose

structure IPRule where
  v6 : Bool
  mark : UInt32
  table : UInt32
  rest : String
deriving DecidableEq, Repr

structure IPRoute where
  v6 : Bool
  table : UInt32
  route : String
deriving DecidableEq, Repr

structure NetKernel where
  tables : Table (String × String) (List NFItem)
  rules : List IPRule
  routes : List IPRoute

inductive NetCommand where
  | nftBlock (table : NFTable)
  | nftDelete (family name : String)
  | ruleAdd (v6 : Bool) (mark table : UInt32)
  | ruleDel (v6 : Bool) (mark table : UInt32)
  | routeAdd (v6 : Bool) (table : UInt32)
  | routeDel (v6 : Bool) (table : UInt32)
deriving DecidableEq

def localDefault : String := "local default dev lo"

def IPRule.selected (v6 : Bool) (mark table : UInt32) (rule : IPRule) : Bool :=
  rule.v6 == v6 && (mark == 0 || rule.mark == mark) && (table == 0 || rule.table == table)

def NetKernel.addBlock (k : NetKernel) (table : NFTable) : NetKernel :=
  let present := (k.tables.lookup (table.family, table.name)).getD []
  { k with tables := k.tables.insert (table.family, table.name) (present ++ table.items) }

def NetCommand.apply : NetCommand → NetKernel → NetKernel
  | .nftBlock table, k => k.addBlock table
  | .nftDelete family name, k => { k with tables := k.tables.erase (family, name) }
  | .ruleAdd v6 mark table, k => { k with rules := ⟨v6, mark, table, ""⟩ :: k.rules }
  | .ruleDel v6 mark table, k => { k with rules := k.rules.eraseP (IPRule.selected v6 mark table) }
  | .routeAdd v6 table, k => { k with routes := ⟨v6, table, localDefault⟩ :: k.routes }
  | .routeDel v6 table, k => { k with routes := k.routes.erase ⟨v6, table, localDefault⟩ }

inductive ProcessResult where
  | ok
  | failed (stderr problem : String)
deriving DecidableEq, Repr

def ProcessResult.succeeded : ProcessResult → Bool
  | .ok => true
  | .failed _ _ => false

def containsChars (part : List Char) : List Char → Bool
  | [] => part.isEmpty
  | first :: rest => part.isPrefixOf (first :: rest) || containsChars part rest

def containsText (text part : String) : Bool := containsChars part.toList text.toList

def errNFTNotPresent : String := "nft: object not present"

def runNFT : ProcessResult → Option String
  | .ok => none
  | .failed stderr problem =>
      if containsText stderr "No such file" || containsText stderr "does not exist" then some errNFTNotPresent
      else if stderr = "" then some problem
      else some (stderr ++ ": " ++ problem)

def runIP : ProcessResult → Option String
  | .ok => none
  | .failed stderr problem => if stderr = "" then some problem else some (stderr ++ ": " ++ problem)

theorem run_nft_passed (result : ProcessResult) (passed : result.succeeded = true) : runNFT result = none := by
  cases result with
  | ok => rfl
  | failed stderr problem => cases passed

theorem run_nft_refused (result : ProcessResult) (refused : result.succeeded = false) : ∃ problem, runNFT result = some problem := by
  cases result with
  | ok => cases refused
  | failed stderr problem =>
      simp only [runNFT]
      split_ifs <;> exact ⟨_, rfl⟩

theorem run_ip_refused (result : ProcessResult) (refused : result.succeeded = false) : ∃ problem, runIP result = some problem := by
  cases result with
  | ok => cases refused
  | failed stderr problem =>
      simp only [runIP]
      split_ifs <;> exact ⟨_, rfl⟩

def isIPNotPresent (text : String) : Bool :=
  containsText text "No such" || containsText text "RTNETLINK answers: No such file" || containsText text "Cannot find"

abbrev NetWorld := Commands.World NetKernel NetCommand

def netMachine (answer : Nat → ProcessResult) : Commands.Machine NetKernel NetCommand ProcessResult where
  effect := NetCommand.apply
  answer := answer
  succeeded := ProcessResult.succeeded

namespace NFTInstaller

def removeScript (n : NFTInstaller) : NetCommand := .nftDelete n.cfg.family n.cfg.tableName

def routingAdds (n : NFTInstaller) : List NetCommand :=
  emitIf n.cfg.ipv4 (NetCommand.ruleAdd false n.cfg.tproxyMark n.cfg.routeTable) ++
  emitIf n.cfg.ipv4 (NetCommand.routeAdd false n.cfg.routeTable) ++
  emitIf n.cfg.ipv6 (NetCommand.ruleAdd true n.cfg.tproxyMark n.cfg.routeTable) ++
  emitIf n.cfg.ipv6 (NetCommand.routeAdd true n.cfg.routeTable)

def routingDels (n : NFTInstaller) : List NetCommand :=
  emitIf n.cfg.ipv4 (NetCommand.ruleDel false n.cfg.tproxyMark n.cfg.routeTable) ++
  emitIf n.cfg.ipv4 (NetCommand.routeDel false n.cfg.routeTable) ++
  emitIf n.cfg.ipv6 (NetCommand.ruleDel true n.cfg.tproxyMark n.cfg.routeTable) ++
  emitIf n.cfg.ipv6 (NetCommand.routeDel true n.cfg.routeTable)

variable (answer : Nat → ProcessResult)

def installIPRouting (n : NFTInstaller) (w : NetWorld) : NetWorld × Option String :=
  let (next, failure) := Commands.issueUntil (netMachine answer) n.routingAdds w
  (next, failure.bind runIP)

def removeIPRouting (n : NFTInstaller) (w : NetWorld) : NetWorld × Option String :=
  let (next, results) := Commands.issueAll (netMachine answer) n.routingDels w
  (next, (results.filterMap runIP).find? fun text => !isIPNotPresent text)

def install (n : NFTInstaller) (w : NetWorld) : NetWorld × Option String :=
  if !n.cfg.enabled then (w, none)
  else
    let (built, result) := Commands.issue (netMachine answer) w (.nftBlock n.cfg.buildTable)
    match runNFT result with
    | some problem => (built, some ("nft install: " ++ problem))
    | none =>
        if n.cfg.tproxy then
          let (routed, failure) := n.installIPRouting answer built
          match failure with
          | none => (routed, none)
          | some problem =>
              ((Commands.issue (netMachine answer) routed n.removeScript).1, some ("install ip rule/route: " ++ problem))
        else (built, none)

def remove (n : NFTInstaller) (w : NetWorld) : NetWorld × Option String :=
  if !n.cfg.enabled then (w, none)
  else
    let (unrouted, first) := if n.cfg.tproxy then n.removeIPRouting answer w else (w, none)
    let (removed, result) := Commands.issue (netMachine answer) unrouted n.removeScript
    (removed, first.or (runNFT result))

-- The guard on TPROXY that the other two have in front of the routing commands
-- is missing here.
def reconcile (n : NFTInstaller) (w : NetWorld) : NetWorld × Option String :=
  if !n.cfg.enabled then (w, none)
  else n.install answer (n.removeIPRouting answer (Commands.issue (netMachine answer) w n.removeScript).1).1

end NFTInstaller

inductive InstallerCall where
  | install
  | remove
  | reconcile
deriving DecidableEq

namespace NFTInstaller

def call (answer : Nat → ProcessResult) (n : NFTInstaller) (w : NetWorld) : InstallerCall → NetWorld
  | .install => (n.install answer w).1
  | .remove => (n.remove answer w).1
  | .reconcile => (n.reconcile answer w).1

def calls (answer : Nat → ProcessResult) (n : NFTInstaller) (k : NetKernel) (sequence : List InstallerCall) : NetWorld :=
  sequence.foldl (n.call answer) ⟨k, []⟩

def adds (n : NFTInstaller) : List NetCommand := if n.cfg.enabled && n.cfg.tproxy then n.routingAdds else []

end NFTInstaller

def NetCommand.named : NetCommand → Option (Bool × Option UInt32 × UInt32)
  | .ruleAdd v6 mark table | .ruleDel v6 mark table => some (v6, some mark, table)
  | .routeAdd v6 table | .routeDel v6 table => some (v6, none, table)
  | _ => none

namespace NFTInstaller

def Names (n : NFTInstaller) (c : NetCommand) : Prop :=
  ∀ target, c.named = some target → ∃ added ∈ n.adds, added.named = some target

def ownsTable (n : NFTInstaller) (key : String × String) : Bool :=
  n.cfg.enabled && key == (n.cfg.family, n.cfg.tableName)

def ownsRule (n : NFTInstaller) (rule : IPRule) : Bool := decide (.ruleAdd rule.v6 rule.mark rule.table ∈ n.adds)

def ownsRoute (n : NFTInstaller) (route : IPRoute) : Bool :=
  decide (.routeAdd route.v6 route.table ∈ n.adds) && route.route == localDefault

structure Framed (n : NFTInstaller) (before after : NetKernel) : Prop where
  tables : ∀ key, n.ownsTable key = false → after.tables.lookup key = before.tables.lookup key
  rules : after.rules.filter (fun rule => !n.ownsRule rule) = before.rules.filter fun rule => !n.ownsRule rule
  routes : after.routes.filter (fun route => !n.ownsRoute route) = before.routes.filter fun route => !n.ownsRoute route

def Own (n : NFTInstaller) : NetCommand → Prop
  | .nftBlock table => n.ownsTable (table.family, table.name) = true
  | .nftDelete family name => n.ownsTable (family, name) = true
  | .ruleAdd v6 mark table | .ruleDel v6 mark table => .ruleAdd v6 mark table ∈ n.adds
  | .routeAdd v6 table | .routeDel v6 table => .routeAdd v6 table ∈ n.adds

theorem own_names (n : NFTInstaller) (c : NetCommand) (own : n.Own c) : n.Names c := by
  intro target named
  cases c with
  | nftBlock | nftDelete => cases named
  | ruleAdd v6 mark table | ruleDel v6 mark table => exact ⟨.ruleAdd v6 mark table, own, named⟩
  | routeAdd v6 table | routeDel v6 table => exact ⟨.routeAdd v6 table, own, named⟩

theorem filter_erase_p {T : Type} (entries : List T) (chosen kept : T → Bool) (apart : ∀ entry, chosen entry = true → kept entry = false) :
    (entries.eraseP chosen).filter kept = entries.filter kept := by
  induction entries with
  | nil => rfl
  | cons first rest ih =>
      by_cases here : chosen first = true
      · rw [List.eraseP_cons_of_pos here, List.filter_cons_of_neg (by simp [apart first here])]
      · rw [List.eraseP_cons_of_neg here, List.filter_cons, List.filter_cons, ih]

section Effects

variable (n : NFTInstaller)

def Definite : Prop := ∀ v6 mark table, NetCommand.ruleAdd v6 mark table ∈ n.adds → mark ≠ 0 ∧ table ≠ 0

theorem own_framed (definite : n.Definite) (before : NetKernel) (c : NetCommand) (own : n.Own c) (k : NetKernel)
    (framed : n.Framed before k) : n.Framed before (c.apply k) := by
  cases c with
  | nftBlock table =>
      refine ⟨fun key foreign => ?_, framed.rules, framed.routes⟩
      rw [NetCommand.apply, NetKernel.addBlock, Table.lookup_put, if_neg, framed.tables key foreign]
      rintro rfl
      rw [show n.ownsTable _ = true from own] at foreign
      cases foreign
  | nftDelete family name =>
      refine ⟨fun key foreign => ?_, framed.rules, framed.routes⟩
      rw [NetCommand.apply, Table.lookup_drop, if_neg, framed.tables key foreign]
      rintro rfl
      rw [show n.ownsTable _ = true from own] at foreign
      cases foreign
  | ruleAdd v6 mark table =>
      refine ⟨framed.tables, ?_, framed.routes⟩
      have mine : n.ownsRule ⟨v6, mark, table, ""⟩ = true := decide_eq_true own
      rw [NetCommand.apply, List.filter_cons_of_neg (by simp [mine]), framed.rules]
  | ruleDel v6 mark table =>
      refine ⟨framed.tables, ?_, framed.routes⟩
      rw [NetCommand.apply, filter_erase_p, framed.rules]
      intro rule selected
      obtain ⟨markSet, tableSet⟩ := definite v6 mark table own
      simp only [IPRule.selected, Bool.and_eq_true, Bool.or_eq_true, beq_iff_eq, markSet, tableSet, false_or] at selected
      obtain ⟨⟨rfl, rfl⟩, rfl⟩ := selected
      have listed : NetCommand.ruleAdd rule.v6 rule.mark rule.table ∈ n.adds := own
      simp [ownsRule, listed]
  | routeAdd v6 table =>
      refine ⟨framed.tables, framed.rules, ?_⟩
      have listed : NetCommand.routeAdd v6 table ∈ n.adds := own
      have mine : n.ownsRoute ⟨v6, table, localDefault⟩ = true := by simp [ownsRoute, listed]
      rw [NetCommand.apply, List.filter_cons_of_neg (by simp [mine]), framed.routes]
  | routeDel v6 table =>
      refine ⟨framed.tables, framed.rules, ?_⟩
      rw [NetCommand.apply, List.erase_eq_eraseP, filter_erase_p, framed.routes]
      intro route same
      have listed : NetCommand.routeAdd v6 table ∈ n.adds := own
      simp [← beq_iff_eq.mp same, ownsRoute, listed]

theorem adds_own (c : NetCommand) (member : c ∈ n.routingAdds) (tproxy : n.cfg.tproxy = true) (enabled : n.cfg.enabled = true) :
    n.Own c := by
  have listed : c ∈ n.adds := by rwa [adds, enabled, tproxy]
  simp only [routingAdds, List.mem_append, mem_emit_if] at member
  rcases member with ((⟨_, rfl⟩ | ⟨_, rfl⟩) | ⟨_, rfl⟩) | ⟨_, rfl⟩ <;> exact listed

theorem dels_own (c : NetCommand) (member : c ∈ n.routingDels) (tproxy : n.cfg.tproxy = true) (enabled : n.cfg.enabled = true) :
    n.Own c := by
  simp only [routingDels, List.mem_append, mem_emit_if] at member
  rcases member with ((⟨wanted, rfl⟩ | ⟨wanted, rfl⟩) | ⟨wanted, rfl⟩) | ⟨wanted, rfl⟩ <;>
    simp [Own, adds, routingAdds, mem_emit_if, wanted, tproxy, enabled]

theorem script_own (enabled : n.cfg.enabled = true) : n.Own n.removeScript ∧ n.Own (.nftBlock n.cfg.buildTable) := by
  simp [Own, removeScript, ownsTable, enabled, NFTConfig.buildTable]

variable (answer : Nat → ProcessResult) (before : NetKernel) (definite : n.Definite)
include definite

theorem own_confined (c : NetCommand) (own : n.Own c) (w : NetWorld)
    (confined : Commands.Confined n.Own (n.Framed before) w) :
    Commands.Confined n.Own (n.Framed before) (Commands.issue (netMachine answer) w c).1 :=
  Commands.issue_confined (netMachine answer) (n.own_framed definite before) w confined c own

theorem install_confined (w : NetWorld) (confined : Commands.Confined n.Own (n.Framed before) w) :
    Commands.Confined n.Own (n.Framed before) (n.install answer w).1 := by
  unfold install
  by_cases enabled : n.cfg.enabled = true
  · obtain ⟨removal, block⟩ := n.script_own enabled
    have built := n.own_confined answer before definite _ block w confined
    simp only [enabled, Bool.not_true, Bool.false_eq_true, if_false]
    split
    · exact built
    · by_cases tproxy : n.cfg.tproxy = true
      · have routed := Commands.issue_until_confined (netMachine answer) (n.own_framed definite before) n.routingAdds
          (fun c member => n.adds_own c member tproxy enabled) _ built
        rw [if_pos tproxy]
        split
        · exact routed
        · exact n.own_confined answer before definite _ removal _ routed
      · rw [if_neg tproxy]
        exact built
  · simpa [enabled] using confined

theorem remove_confined (w : NetWorld) (confined : Commands.Confined n.Own (n.Framed before) w) :
    Commands.Confined n.Own (n.Framed before) (n.remove answer w).1 := by
  unfold remove
  by_cases enabled : n.cfg.enabled = true
  · have removal := (n.script_own enabled).1
    simp only [enabled, Bool.not_true, Bool.false_eq_true, if_false]
    by_cases tproxy : n.cfg.tproxy = true
    · have unrouted := Commands.issue_all_confined (netMachine answer) (n.own_framed definite before) n.routingDels
        (fun c member => n.dels_own c member tproxy enabled) w confined
      rw [if_pos tproxy]
      exact n.own_confined answer before definite _ removal _ unrouted
    · rw [if_neg tproxy]
      exact n.own_confined answer before definite _ removal _ confined
  · simpa [enabled] using confined

theorem reconcile_confined (guarded : n.cfg.enabled = true → ∀ c ∈ n.routingDels, n.Own c) (w : NetWorld)
    (confined : Commands.Confined n.Own (n.Framed before) w) :
    Commands.Confined n.Own (n.Framed before) (n.reconcile answer w).1 := by
  unfold reconcile
  by_cases enabled : n.cfg.enabled = true
  · have removal := (n.script_own enabled).1
    simp only [enabled, Bool.not_true, Bool.false_eq_true, if_false]
    apply n.install_confined answer before definite
    exact Commands.issue_all_confined (netMachine answer) (n.own_framed definite before) n.routingDels (guarded enabled) _
      (n.own_confined answer before definite _ removal w confined)
  · simpa [enabled] using confined

theorem calls_confined (guarded : n.cfg.enabled = true → ∀ c ∈ n.routingDels, n.Own c) (sequence : List InstallerCall) :
    Commands.Confined n.Own (n.Framed before) (n.calls answer before sequence) := by
  have one : ∀ w call, Commands.Confined n.Own (n.Framed before) w →
      Commands.Confined n.Own (n.Framed before) (n.call answer w call) := by
    intro w call confined
    cases call with
    | install => exact n.install_confined answer before definite w confined
    | remove => exact n.remove_confined answer before definite w confined
    | reconcile => exact n.reconcile_confined answer before definite guarded w confined
  have begins : Commands.Confined n.Own (n.Framed before) ⟨before, []⟩ :=
    ⟨by simp, fun _ _ => rfl, rfl, rfl⟩
  unfold calls
  generalize (⟨before, []⟩ : NetWorld) = w at begins
  induction sequence generalizing w with
  | nil => exact begins
  | cons call rest ih => exact ih (n.call answer w call) (one w call begins)

end Effects

end NFTInstaller

-- The configurations under which every call keeps to packethose's own: with
-- TPROXY a route table that is not zero once defaults are in, without it
-- neither family set.
def NFTConfig.Contained (cfg : NFTConfig) : Prop :=
  cfg.enabled = true →
    if cfg.tproxy then cfg.routeTable ≠ 0 ∨ cfg.tproxyPort = 0 ∨ UInt32.ofInt cfg.tproxyPort ≠ 0
    else cfg.ipv4 = false ∧ cfg.ipv6 = false

theorem resolve_route_table (cfg : NFTConfig) (tproxy : cfg.tproxy = true) :
    cfg.resolve.routeTable ≠ 0 ↔ cfg.routeTable ≠ 0 ∨ cfg.tproxyPort = 0 ∨ UInt32.ofInt cfg.tproxyPort ≠ 0 := by
  simp only [NFTConfig.resolve, tproxy, if_true, NFTConfig.resolveTPROXY]
  by_cases given : cfg.routeTable = 0
  · by_cases port : cfg.tproxyPort = 0
    · simp [given, port]
      decide
    · simp [given, port]
  · simp [given]

theorem resolve_plain (cfg : NFTConfig) (tproxy : cfg.tproxy = false) :
    cfg.resolve.ipv4 = cfg.ipv4 ∧ cfg.resolve.ipv6 = cfg.ipv6 := by
  simp [NFTConfig.resolve, tproxy]

namespace NFTInstaller

def secondOnly (position : Nat) : ProcessResult := if position = 1 then .ok else .failed "" "exit status 1"

theorem second_only_later (position : Nat) (late : position ≠ 1) : (secondOnly position).succeeded = false := by
  simp [secondOnly, late, ProcessResult.succeeded]

theorem dels_first (n : NFTInstaller) (family : n.cfg.ipv4 = true ∨ n.cfg.ipv6 = true) :
    ∃ v6 rest, n.routingDels = .ruleDel v6 n.cfg.tproxyMark n.cfg.routeTable :: rest := by
  by_cases four : n.cfg.ipv4 = true
  · exact ⟨false, _, by simp only [routingDels, four, emitIf, if_true]; rfl⟩
  · exact ⟨true, _, by simp only [routingDels, four, family.resolve_left four, emitIf, if_true]; rfl⟩

theorem install_refused (answer : Nat → ProcessResult) (n : NFTInstaller) (enabled : n.cfg.enabled = true) (w : NetWorld)
    (refused : (answer w.issued.length).succeeded = false) :
    (n.install answer w).1 = ⟨w.kernel, w.issued ++ [.nftBlock n.cfg.buildTable]⟩ := by
  obtain ⟨problem, failed⟩ := run_nft_refused _ refused
  simp [install, enabled, Commands.issue, netMachine, failed, refused]

theorem reconcile_deletes (n : NFTInstaller) (enabled : n.cfg.enabled = true) (c : NetCommand) (rest : List NetCommand)
    (dels : n.routingDels = c :: rest) (before : NetKernel) :
    c ∈ (n.calls secondOnly before [.reconcile]).issued ∧
      (n.calls secondOnly before [.reconcile]).kernel = c.apply before := by
  obtain ⟨w, unrouted⟩ : ∃ w, (Commands.issueAll (netMachine secondOnly) n.routingDels ⟨before, [n.removeScript]⟩).1 = w :=
    ⟨_, rfl⟩
  have issued : w.issued = n.removeScript :: n.routingDels := by
    rw [← unrouted, Commands.issue_all_issued]
    rfl
  have kernel : w.kernel = c.apply before := by
    rw [← unrouted, dels]
    exact Commands.issue_all_refused (netMachine secondOnly) rest ⟨c.apply before, [n.removeScript, c]⟩
      fun position bound => second_only_later position (by simp at bound; omega)
  have run : n.calls secondOnly before [.reconcile] = (n.install secondOnly w).1 := by
    rw [← unrouted]
    simp only [calls, List.foldl_cons, List.foldl_nil, call, reconcile, enabled, Bool.not_true, Bool.false_eq_true, if_false]
    rfl
  rw [run, n.install_refused secondOnly enabled w (second_only_later _ (by simp [issued, dels]))]
  exact ⟨by simp [issued, dels], kernel⟩

theorem adds_given (n : NFTInstaller) (v6 : Bool) (mark table : UInt32) (listed : .ruleAdd v6 mark table ∈ n.adds) :
    n.cfg.enabled = true ∧ n.cfg.tproxy = true ∧ mark = n.cfg.tproxyMark ∧ table = n.cfg.routeTable := by
  unfold adds at listed
  by_cases wanted : (n.cfg.enabled && n.cfg.tproxy) = true
  · rw [if_pos wanted] at listed
    simp only [Bool.and_eq_true] at wanted
    refine ⟨wanted.1, wanted.2, ?_⟩
    simp only [routingAdds, List.mem_append, mem_emit_if, NetCommand.ruleAdd.injEq, reduceCtorEq, and_false, or_false] at listed
    rcases listed with ⟨_, _, rfl, rfl⟩ | ⟨_, _, rfl, rfl⟩ <;> exact ⟨rfl, rfl⟩
  · rw [if_neg wanted] at listed
    cases listed

theorem reconcile_unframed (n : NFTInstaller) (enabled : n.cfg.enabled = true)
    (family : n.cfg.ipv4 = true ∨ n.cfg.ipv6 = true) (unset : n.cfg.routeTable = 0) :
    ∃ before, ¬n.Framed before (n.calls secondOnly before [.reconcile]).kernel := by
  obtain ⟨v6, rest, dels⟩ := n.dels_first family
  refine ⟨⟨∅, [⟨v6, n.cfg.tproxyMark, 1, ""⟩], []⟩, fun framed => ?_⟩
  have unowned : n.ownsRule ⟨v6, n.cfg.tproxyMark, 1, ""⟩ = false := by
    refine decide_eq_false fun listed => ?_
    have same : (1 : UInt32) = n.cfg.routeTable := (n.adds_given _ _ _ listed).2.2.2
    rw [unset] at same
    cases same
  have kept := framed.rules
  rw [(n.reconcile_deletes enabled _ rest dels _).2] at kept
  simp [NetCommand.apply, IPRule.selected, unset, unowned] at kept

theorem reconcile_named (n : NFTInstaller) (enabled : n.cfg.enabled = true)
    (family : n.cfg.ipv4 = true ∨ n.cfg.ipv6 = true) (before : NetKernel) :
    ∃ c ∈ (n.calls secondOnly before [.reconcile]).issued, c.named ≠ none := by
  obtain ⟨v6, rest, dels⟩ := n.dels_first family
  exact ⟨_, (n.reconcile_deletes enabled _ rest dels before).1, nofun⟩

theorem own_plain (n : NFTInstaller) (plain : n.cfg.tproxy = false) (c : NetCommand) (own : n.Own c) : c.named = none := by
  have nothing : n.adds = [] := by simp [adds, plain]
  cases c with
  | nftBlock | nftDelete => rfl
  | ruleAdd | ruleDel | routeAdd | routeDel => simp [Own, nothing] at own

end NFTInstaller

theorem new_installer_safe (lookPath : Except String Unit) (cfg : NFTConfig) (n : NFTInstaller)
    (accepted : newNFTInstaller lookPath cfg = .ok n) (contained : cfg.Contained) :
    n.Definite ∧ (n.cfg.enabled = true → ∀ c ∈ n.routingDels, n.Own c) := by
  obtain ⟨⟨sameEnabled, sameProxy⟩, resolved⟩ := new_installer_cfg lookPath cfg n accepted
  constructor
  · intro v6 mark table listed
    obtain ⟨running, set, rfl, rfl⟩ := n.adds_given v6 mark table listed
    have enabled := sameEnabled.symm.trans running
    have tproxy := sameProxy.symm.trans set
    have table := contained enabled
    rw [if_pos tproxy, ← resolve_route_table cfg tproxy] at table
    rw [resolved enabled]
    exact ⟨(resolve_tproxy cfg tproxy).1, table⟩
  · intro running c member
    have enabled := sameEnabled.symm.trans running
    by_cases tproxy : cfg.tproxy = true
    · exact n.dels_own c member (sameProxy.trans tproxy) running
    · have families := contained enabled
      rw [if_neg tproxy] at families
      obtain ⟨four, six⟩ := resolve_plain cfg (by simpa using tproxy)
      simp [NFTInstaller.routingDels, mem_emit_if, resolved enabled, four, six, families] at member

theorem installer_contained (lookPath : Except String Unit) (cfg : NFTConfig) (n : NFTInstaller)
    (accepted : newNFTInstaller lookPath cfg = .ok n) :
    (∀ answer before sequence,
      (∀ c ∈ (n.calls answer before sequence).issued, n.Names c ∧ (cfg.tproxy = false → c.named = none)) ∧
        n.Framed before (n.calls answer before sequence).kernel) ↔ cfg.Contained := by
  obtain ⟨⟨sameEnabled, sameProxy⟩, resolved⟩ := new_installer_cfg lookPath cfg n accepted
  constructor
  · intro harmless enabled
    have running : n.cfg.enabled = true := sameEnabled.trans enabled
    by_cases tproxy : cfg.tproxy = true
    · rw [if_pos tproxy, ← resolve_route_table cfg tproxy, ← resolved enabled]
      intro unset
      have family := (resolve_tproxy cfg tproxy).2
      rw [← resolved enabled] at family
      obtain ⟨before, broken⟩ := n.reconcile_unframed running family unset
      exact broken (harmless _ before [.reconcile]).2
    · rw [if_neg tproxy]
      obtain ⟨four, six⟩ := resolve_plain cfg (by simpa using tproxy)
      rw [← four, ← six, ← resolved enabled]
      by_contra families
      have family : n.cfg.ipv4 = true ∨ n.cfg.ipv6 = true := by
        rwa [not_and_or, Bool.not_eq_false, Bool.not_eq_false] at families
      obtain ⟨c, issued, named⟩ := n.reconcile_named running family ⟨∅, [], []⟩
      exact named (((harmless _ _ [.reconcile]).1 c issued).2 (by simpa using tproxy))
  · intro contained answer before sequence
    obtain ⟨definite, guarded⟩ := new_installer_safe lookPath cfg n accepted contained
    obtain ⟨issued, kernel⟩ := n.calls_confined answer before definite guarded sequence
    refine ⟨fun c member => ⟨n.own_names c (issued c member), fun plain => ?_⟩, kernel⟩
    exact n.own_plain (sameProxy.trans plain) c (issued c member)

def tunnelFilter (tproxy : Bool) : NFTConfig where
  enabled := true
  family := ""
  tableName := ""
  tunMatch := ""
  isolation := true
  masquerade := false
  egressInterface := ""
  tproxy := tproxy
  tproxyPort := 0
  tproxyMark := 0
  routeTable := 0
  ipv4 := true
  ipv6 := false
  serverIP4 := .zero
  serverIP6 := .zero
  accounting := false
  poolV4 := .invalid
  poolV6 := .invalid

theorem installer_contained_redirecting :
    ∃ n, newNFTInstaller (.ok ()) (tunnelFilter true) = .ok n ∧ n.adds = [.ruleAdd false 1 13338, .routeAdd false 13338] ∧
      ∀ answer before sequence,
        (∀ c ∈ (n.calls answer before sequence).issued, n.Names c ∧ ((tunnelFilter true).tproxy = false → c.named = none)) ∧
          n.Framed before (n.calls answer before sequence).kernel :=
  ⟨_, rfl, by decide, (installer_contained (.ok ()) (tunnelFilter true) _ rfl).mpr fun _ => .inr (.inl rfl)⟩

def bootRules : List IPRule := [⟨false, 0, 255, ""⟩, ⟨false, 0, 254, ""⟩, ⟨false, 0, 253, ""⟩]

-- Isolation without TPROXY: Reconcile takes the kernel's lookup of the local
-- table out.
theorem reconcile_drops_local_rule :
    ∃ n, newNFTInstaller (.ok ()) (tunnelFilter false) = .ok n ∧ n.adds = [] ∧
      .ruleDel false 0 0 ∈ (n.calls (fun _ => .ok) ⟨∅, bootRules, []⟩ [.reconcile]).issued ∧
      (n.calls (fun _ => .ok) ⟨∅, bootRules, []⟩ [.reconcile]).kernel.rules = bootRules.tail := by
  exact ⟨_, rfl, by decide, by decide +kernel, by decide +kernel⟩

end Packethose
