import Packethose.Installer

set_option autoImplicit false

namespace Packethose

def NetCommand.deletes : NetCommand → Bool
  | .nftDelete _ _ | .ruleDel _ _ _ | .routeDel _ _ => true
  | _ => false

namespace NFTInstaller

def built (answer : Nat → ProcessResult) (n : NFTInstaller) (w : NetWorld) : NetWorld :=
  (Commands.issue (netMachine answer) w (.nftBlock n.cfg.buildTable)).1

-- The four ways an enabled Install ends. The rollback deletes the table and
-- leaves the rules and routes that were added before the failure.
inductive Ended (answer : Nat → ProcessResult) (n : NFTInstaller) (w : NetWorld) : NetWorld × Option String → Prop where
  | refused (problem : String) (script : (answer w.issued.length).succeeded = false) :
      Ended answer n w (n.built answer w, some problem)
  | plain (script : (answer w.issued.length).succeeded = true) (plain : n.cfg.tproxy = false) :
      Ended answer n w (n.built answer w, none)
  | routed (script : (answer w.issued.length).succeeded = true) (tproxy : n.cfg.tproxy = true)
      (added : ∀ position < n.routingAdds.length, (answer (w.issued.length + 1 + position)).succeeded = true) :
      Ended answer n w (Commands.reissue (netMachine answer) (n.built answer w) n.routingAdds, none)
  | rolledBack (done later : List NetCommand) (c : NetCommand) (problem : String)
      (script : (answer w.issued.length).succeeded = true) (tproxy : n.cfg.tproxy = true)
      (split : n.routingAdds = done ++ c :: later)
      (added : ∀ position < done.length, (answer (w.issued.length + 1 + position)).succeeded = true)
      (failed : (answer (w.issued.length + 1 + done.length)).succeeded = false) :
      Ended answer n w
        ((Commands.issue (netMachine answer)
          (Commands.issue (netMachine answer) (Commands.reissue (netMachine answer) (n.built answer w) done) c).1
          n.removeScript).1, some problem)

theorem install_ended (answer : Nat → ProcessResult) (n : NFTInstaller) (enabled : n.cfg.enabled = true) (w : NetWorld) :
    n.Ended answer w (n.install answer w) := by
  have issued : Commands.issue (netMachine answer) w (.nftBlock n.cfg.buildTable) = (n.built answer w, answer w.issued.length) := rfl
  have next : (n.built answer w).issued.length = w.issued.length + 1 := by simp [built, Commands.issue]
  rw [install, enabled, issued]
  by_cases script : (answer w.issued.length).succeeded = true
  · simp only [run_nft_passed _ script, Bool.not_true, Bool.false_eq_true, if_false]
    by_cases tproxy : n.cfg.tproxy = true
    · obtain ⟨done, rest, split, added, ended⟩ :=
        Commands.issue_until_ends (netMachine answer) n.routingAdds (n.built answer w)
      simp only [tproxy, if_true, installIPRouting]
      rw [next] at added ended
      obtain ⟨rfl, run⟩ | ⟨c, later, rfl, failed, run⟩ := ended
      · rw [List.append_nil] at split
        rw [run, ← split]
        exact .routed script tproxy (split ▸ added)
      · obtain ⟨problem, reported⟩ := run_ip_refused _ failed
        rw [run, show (some ((netMachine answer).answer (w.issued.length + 1 + done.length))).bind runIP = some problem from reported]
        exact .rolledBack done later c _ script tproxy split added failed
    · rw [if_neg tproxy]
      exact .plain script (by simpa using tproxy)
  · obtain ⟨problem, reported⟩ := run_nft_refused _ (by simpa using script)
    simp only [reported, Bool.not_true, Bool.false_eq_true, if_false]
    exact .refused _ (by simpa using script)

structure Absent (n : NFTInstaller) (k : NetKernel) : Prop where
  table : k.tables.lookup (n.cfg.family, n.cfg.tableName) = none
  rules : ∀ rule ∈ k.rules, n.ownsRule rule = false
  routes : ∀ route ∈ k.routes, n.ownsRoute route = false

section Rollback

variable (answer : Nat → ProcessResult) (n : NFTInstaller)

theorem adds_first (family : n.cfg.ipv4 = true ∨ n.cfg.ipv6 = true) :
    ∃ v6 rest, n.routingAdds = .ruleAdd v6 n.cfg.tproxyMark n.cfg.routeTable :: rest := by
  by_cases four : n.cfg.ipv4 = true
  · exact ⟨false, _, by simp only [routingAdds, four, emitIf, if_true]; rfl⟩
  · exact ⟨true, _, by simp only [routingAdds, four, family.resolve_left four, emitIf, if_true]; rfl⟩

theorem add_keeps (c : NetCommand) (member : c ∈ n.routingAdds) (rule : IPRule) (k : NetKernel) (present : rule ∈ k.rules) :
    rule ∈ (c.apply k).rules := by
  simp only [routingAdds, List.mem_append, mem_emit_if] at member
  rcases member with ((⟨_, rfl⟩ | ⟨_, rfl⟩) | ⟨_, rfl⟩) | ⟨_, rfl⟩
  · exact List.mem_cons_of_mem _ present
  · exact present
  · exact List.mem_cons_of_mem _ present
  · exact present

theorem adds_keep (commands : List NetCommand) (known : ∀ c ∈ commands, c ∈ n.routingAdds) (rule : IPRule) (w : NetWorld)
    (present : rule ∈ w.kernel.rules) : rule ∈ (Commands.reissue (netMachine answer) w commands).kernel.rules := by
  induction commands generalizing w with
  | nil => exact present
  | cons c rest ih =>
      refine ih (fun other member => known other (by simp [member])) (Commands.issue (netMachine answer) w c).1 ?_
      simp only [Commands.issue]
      split
      · exact n.add_keeps c (known c (by simp)) rule w.kernel present
      · exact present

theorem added_rule_stays (v6 : Bool) (w : NetWorld) (first : (answer w.issued.length).succeeded = true) (done : List NetCommand)
    (known : ∀ c ∈ done, c ∈ n.routingAdds) :
    ⟨v6, n.cfg.tproxyMark, n.cfg.routeTable, ""⟩ ∈ (Commands.reissue (netMachine answer) w
      (.ruleAdd v6 n.cfg.tproxyMark n.cfg.routeTable :: done)).kernel.rules := by
  apply n.adds_keep answer done known
  simp [Commands.issue, netMachine, first, NetCommand.apply]

theorem built_links (w : NetWorld) :
    (n.built answer w).kernel.rules = w.kernel.rules ∧ (n.built answer w).kernel.routes = w.kernel.routes := by
  unfold built Commands.issue
  dsimp only
  split <;> exact ⟨rfl, rfl⟩

theorem refused_kernel (w : NetWorld) (c : NetCommand) (refused : (answer w.issued.length).succeeded = false) :
    (Commands.issue (netMachine answer) w c).1.kernel = w.kernel := by
  simp [Commands.issue, netMachine, refused]

theorem passed_kernel (w : NetWorld) (c : NetCommand) (passed : (answer w.issued.length).succeeded = true) :
    (Commands.issue (netMachine answer) w c).1.kernel = c.apply w.kernel := by
  simp [Commands.issue, netMachine, passed]

theorem rolled_back_kernel (w : NetWorld) (c : NetCommand) (refused : (answer w.issued.length).succeeded = false)
    (deleted : (answer (w.issued.length + 1)).succeeded = true) :
    (Commands.issue (netMachine answer) (Commands.issue (netMachine answer) w c).1 n.removeScript).1.kernel =
      { w.kernel with tables := w.kernel.tables.erase (n.cfg.family, n.cfg.tableName) } := by
  have next : (Commands.issue (netMachine answer) w c).1.issued.length = w.issued.length + 1 := by simp [Commands.issue]
  rw [passed_kernel answer _ _ (next ▸ deleted), refused_kernel answer w c refused]
  rfl

theorem rolled_back_absent (enabled : n.cfg.enabled = true) (tproxy : n.cfg.tproxy = true)
    (family : n.cfg.ipv4 = true ∨ n.cfg.ipv6 = true) (w : NetWorld) (absent : n.Absent w.kernel) (done later : List NetCommand)
    (c : NetCommand) (split : n.routingAdds = done ++ c :: later)
    (added : ∀ position < done.length, (answer ((n.built answer w).issued.length + position)).succeeded = true) :
    n.Absent { (Commands.reissue (netMachine answer) (n.built answer w) done).kernel with
      tables := (Commands.reissue (netMachine answer) (n.built answer w) done).kernel.tables.erase (n.cfg.family, n.cfg.tableName) } ↔
      done = [] := by
  obtain ⟨v6, rest, adds⟩ := n.adds_first family
  cases done with
  | nil =>
      obtain ⟨rules, routes⟩ := n.built_links answer w
      refine iff_of_true ⟨?_, ?_, ?_⟩ rfl
      · rw [Table.lookup_drop, if_pos rfl]
      · exact fun rule member => absent.rules rule (rules ▸ member)
      · exact fun route member => absent.routes route (routes ▸ member)
  | cons first more =>
      obtain ⟨rfl, _⟩ := List.cons.inj (adds.symm.trans split)
      have known : ∀ c ∈ more, c ∈ n.routingAdds := by
        intro other member
        rw [split]
        simp [member]
      have stays := n.added_rule_stays answer v6 (n.built answer w) (added 0 (by simp)) more known
      have owned : n.ownsRule ⟨v6, n.cfg.tproxyMark, n.cfg.routeTable, ""⟩ = true := by
        refine decide_eq_true ?_
        rw [NFTInstaller.adds, enabled, tproxy, adds]
        exact List.mem_cons_self ..
      refine iff_of_false (fun clean => ?_) (List.cons_ne_nil _ _)
      have gone := clean.rules _ stays
      rw [owned] at gone
      cases gone

end Rollback

end NFTInstaller

theorem failed_install_absent (lookPath : Except String Unit) (cfg : NFTConfig) (n : NFTInstaller)
    (accepted : newNFTInstaller lookPath cfg = .ok n) (tproxy : cfg.tproxy = true) (answer : Nat → ProcessResult)
    (before : NetKernel) (absent : n.Absent before)
    (deletions : ∀ position c, (n.install answer ⟨before, []⟩).1.issued[position]? = some c → c.deletes = true →
      (answer position).succeeded = true) :
    ((n.install answer ⟨before, []⟩).2 ≠ none → n.Absent (n.install answer ⟨before, []⟩).1.kernel) ↔
      (cfg.enabled = true → (answer 0).succeeded = true → (answer 1).succeeded = true →
        ∀ position, 2 ≤ position → position ≤ n.routingAdds.length → (answer position).succeeded = true) := by
  obtain ⟨⟨sameEnabled, sameProxy⟩, resolved⟩ := new_installer_cfg lookPath cfg n accepted
  by_cases enabled : cfg.enabled = true
  · have family := (resolve_tproxy cfg tproxy).2
    rw [← resolved enabled] at family
    have running : n.cfg.enabled = true := sameEnabled.trans enabled
    have ended := n.install_ended answer running ⟨before, []⟩
    generalize n.install answer ⟨before, []⟩ = outcome at ended deletions
    simp only [enabled, true_implies]
    cases ended with
    | refused problem script =>
        refine iff_of_true (fun _ => ?_) fun passed => ?_
        · rw [NFTInstaller.built, NFTInstaller.refused_kernel answer ⟨before, []⟩ _ script]
          exact absent
        · rw [show (answer 0).succeeded = false from script] at passed
          cases passed
    | plain script plain =>
        rw [sameProxy, tproxy] at plain
        cases plain
    | routed script _ added =>
        refine iff_of_true (fun failed => absurd rfl failed) fun _ _ position low high => ?_
        have here := added (position - 1) (by omega)
        rwa [show ([] : List NetCommand).length + 1 + (position - 1) = position by simp; omega] at here
    | rolledBack done later c problem script redirecting split added failed =>
        have length : (Commands.reissue (netMachine answer) (n.built answer ⟨before, []⟩) done).issued.length = 1 + done.length := by
          rw [Commands.reissue_issued, List.length_append]
          rfl
        have deleted : (answer (1 + done.length + 1)).succeeded = true := by
          refine deletions _ n.removeScript ?_ rfl
          rw [← length]
          simp [Commands.issue]
        have stopped : (answer (1 + done.length)).succeeded = false := by simpa using failed
        rw [n.rolled_back_kernel answer _ c (length ▸ stopped) (length ▸ deleted),
          n.rolled_back_absent answer running redirecting family ⟨before, []⟩ absent done later c split added]
        constructor
        · intro clean _ first
          obtain rfl := clean (by simp)
          rw [show (answer 1).succeeded = false from stopped] at first
          cases first
        · intro complete _
          by_contra some
          have positive : 0 < done.length := List.length_pos_iff.mpr some
          have size : done.length < n.routingAdds.length := by simp [split]
          have late := complete script (added 0 positive) (1 + done.length) (by omega) (by omega)
          rw [stopped] at late
          cases late
  · have idle : n.install answer ⟨before, []⟩ = (⟨before, []⟩, none) := by
      simp [NFTInstaller.install, sameEnabled, enabled]
    simp [idle, enabled]

def taken (refused position : Nat) : ProcessResult :=
  if position = refused then .failed "RTNETLINK answers: File exists" "exit status 2" else .ok

theorem failed_install_absent_first_rule :
    ∃ n, newNFTInstaller (.ok ()) (tunnelFilter true) = .ok n ∧
      (n.install (taken 1) ⟨⟨∅, bootRules, []⟩, []⟩).2 ≠ none ∧
      n.Absent (n.install (taken 1) ⟨⟨∅, bootRules, []⟩, []⟩).1.kernel := by
  obtain ⟨n, made⟩ : ∃ n, newNFTInstaller (.ok ()) (tunnelFilter true) = .ok n := ⟨_, rfl⟩
  obtain rfl : ⟨(tunnelFilter true).resolve⟩ = n := Except.ok.inj made
  have failed : (NFTInstaller.install (taken 1) ⟨(tunnelFilter true).resolve⟩ ⟨⟨∅, bootRules, []⟩, []⟩).2 ≠ none := by
    decide +kernel
  have issued : (NFTInstaller.install (taken 1) ⟨(tunnelFilter true).resolve⟩ ⟨⟨∅, bootRules, []⟩, []⟩).1.issued.map
      NetCommand.deletes = [false, false, true] := by
    decide +kernel
  refine ⟨_, made, failed, (failed_install_absent (.ok ()) (tunnelFilter true) _ made rfl (taken 1) ⟨∅, bootRules, []⟩
    ⟨rfl, by decide, by decide⟩ ?_).mpr ?_ failed⟩
  · intro position c found deletes
    have flagged : [false, false, true][position]? = some true := by
      rw [← issued, List.getElem?_map, found, Option.map_some, deletes]
    have other : position ≠ 1 := by
      rintro rfl
      cases flagged
    simp [taken, other, ProcessResult.succeeded]
  · intro _ _ passed
    cases passed

theorem failed_install_leaves_rule :
    ∃ n, newNFTInstaller (.ok ()) (tunnelFilter true) = .ok n ∧ n.Absent ⟨∅, bootRules, []⟩ ∧
      (n.install (taken 2) ⟨⟨∅, bootRules, []⟩, []⟩).1.issued.map NetCommand.deletes = [false, false, false, true] ∧
      (n.install (taken 2) ⟨⟨∅, bootRules, []⟩, []⟩).2 =
        some "install ip rule/route: RTNETLINK answers: File exists: exit status 2" ∧
      (n.install (taken 2) ⟨⟨∅, bootRules, []⟩, []⟩).1.kernel.rules = ⟨false, 1, 13338, ""⟩ :: bootRules := by
  exact ⟨_, rfl, ⟨rfl, by decide, by decide⟩, by decide +kernel, by decide +kernel, by decide +kernel⟩

-- What nft and the kernel make of a command: a block is added to whatever its
-- table holds, and a rule or a route that is there already is refused.
def NetKernel.permits (k : NetKernel) : NetCommand → Bool
  | .nftBlock _ => true
  | .nftDelete family name => (k.tables.lookup (family, name)).isSome
  | .ruleAdd v6 mark table => decide (⟨v6, mark, table, ""⟩ ∉ k.rules)
  | .ruleDel v6 mark table => k.rules.any (IPRule.selected v6 mark table)
  | .routeAdd v6 table => decide (⟨v6, table, localDefault⟩ ∉ k.routes)
  | .routeDel v6 table => decide (⟨v6, table, localDefault⟩ ∈ k.routes)

def NFItem.rulesOf (name : String) : NFItem → List NFRule
  | .set _ _ => []
  | .chain c => if c.name = name then c.rules else []

def NFItem.header : NFItem → NFItem
  | .set name proto => .set name proto
  | .chain c => .chain { c with rules := [] }

def tableRules (items : List NFItem) (name : String) : List NFRule := items.flatMap (NFItem.rulesOf name)

structure SameRuleset (first second : List NFItem) : Prop where
  declared : ∀ item, item ∈ first.map NFItem.header ↔ item ∈ second.map NFItem.header
  rules : ∀ name, tableRules first name = tableRules second name

structure SameNet (first second : NetKernel) : Prop where
  tables : ∀ key, Option.Rel SameRuleset (first.tables.lookup key) (second.tables.lookup key)
  rules : first.rules = second.rules
  routes : first.routes = second.routes

def NFTConfig.Inert (cfg : NFTConfig) : Prop :=
  cfg.enabled = true →
    cfg.tproxy = false ∧ cfg.isolation = false ∧ cfg.masquerade = false ∧
      (cfg.accounting = true → cfg.acctV4 = false ∧ cfg.acctV6 = false)

theorem table_rules_append (first second : List NFItem) (name : String) :
    tableRules (first ++ second) name = tableRules first name ++ tableRules second name := List.flatMap_append ..

namespace NFTConfig

theorem resolve_inert (cfg : NFTConfig) (plain : cfg.tproxy = false) :
    (cfg.resolve.isolation = cfg.isolation ∧ cfg.resolve.masquerade = cfg.masquerade) ∧
      cfg.resolve.accounting = cfg.accounting ∧ cfg.resolve.acctV4 = cfg.acctV4 ∧ cfg.resolve.acctV6 = cfg.acctV6 := by
  simp [resolve, plain, acctV4, acctV6]

theorem accounting_rules (cfg : NFTConfig) (name : String) :
    tableRules cfg.accountingItems name =
      (if "acct_ingress" = name then cfg.ingressChain.rules else []) ++
        if "acct_egress" = name then cfg.egressChain.rules else [] := by
  simp only [tableRules, accountingItems, List.flatMap_append, flat_map_emit_if, NFItem.rulesOf, ite_self, List.nil_append,
    List.flatMap_cons, List.flatMap_nil, List.append_nil]
  rfl

theorem build_table_rules (cfg : NFTConfig) (plain : cfg.tproxy = false) (name : String) :
    tableRules cfg.buildTable.items name =
      (if cfg.isolation then if "forward" = name then cfg.forwardChain.rules else [] else []) ++
        (if cfg.masquerade then if "postrouting" = name then cfg.postroutingChain.rules else [] else []) ++
        if cfg.accounting then tableRules cfg.accountingItems name else [] := by
  simp only [buildTable, table_rules_append, plain]
  simp only [tableRules, flat_map_emit_if, NFItem.rulesOf, Bool.false_eq_true, if_false, List.nil_append]
  congr 1
  split_ifs <;> rfl

theorem accounting_inert (cfg : NFTConfig) :
    (∀ name, tableRules cfg.accountingItems name = []) ↔ cfg.acctV4 = false ∧ cfg.acctV6 = false := by
  simp only [accounting_rules]
  constructor
  · intro empty
    have counted : cfg.ingressChain.rules = [] := by simpa using empty "acct_ingress"
    simpa only [ingressChain, List.append_eq_nil_iff, emit_if_nil] using counted
  · rintro ⟨four, six⟩ name
    simp [ingressChain, egressChain, four, six, emitIf]

theorem inert_rules (cfg : NFTConfig) (plain : cfg.tproxy = false) :
    (∀ name, tableRules cfg.buildTable.items name = []) ↔
      cfg.isolation = false ∧ cfg.masquerade = false ∧ (cfg.accounting = true → cfg.acctV4 = false ∧ cfg.acctV6 = false) := by
  simp only [cfg.build_table_rules plain, List.append_eq_nil_iff, ← accounting_inert]
  constructor
  · intro empty
    refine ⟨?_, ?_, fun accounting name => ?_⟩
    · have here := (empty "forward").1.1
      cases isolation : cfg.isolation with
      | false => rfl
      | true => simp [isolation, forwardChain] at here
    · have here := (empty "postrouting").1.2
      cases masquerade : cfg.masquerade with
      | false => rfl
      | true => simp [masquerade, postroutingChain] at here
    · rw [← (empty name).2, if_pos accounting]
  · rintro ⟨isolation, masquerade, counted⟩ name
    refine ⟨⟨by simp [isolation], by simp [masquerade]⟩, ?_⟩
    by_cases accounting : cfg.accounting = true
    · rw [if_pos accounting, counted accounting name]
    · rw [if_neg accounting]

end NFTConfig

namespace NFTInstaller

def key (n : NFTInstaller) : String × String := (n.cfg.family, n.cfg.tableName)

def repeated (answer : Nat → ProcessResult) (n : NFTInstaller) (before : NetKernel) (count : Nat) : NetWorld :=
  n.calls answer before (List.replicate count .install)

structure Repeats (answer : Nat → ProcessResult) (n : NFTInstaller) (before : NetKernel) (count : Nat) : Prop where
  succeeded : ∀ earlier < count, (n.install answer (n.repeated answer before earlier)).2 = none
  same : SameNet (n.repeated answer before count).kernel (n.repeated answer before 1).kernel
  once : before.tables.lookup n.key = none → ∀ items,
    (n.repeated answer before count).kernel.tables.lookup n.key = some items → ∀ name, (tableRules items name).Nodup

section Repeating

variable {answer : Nat → ProcessResult} {n : NFTInstaller} {before : NetKernel}

theorem repeated_succ (count : Nat) :
    n.repeated answer before (count + 1) = (n.install answer (n.repeated answer before count)).1 := by
  simp [repeated, calls, List.replicate_succ', call]

theorem ended_genuine {w : NetWorld} {outcome : NetWorld × Option String} (ended : n.Ended answer w outcome)
    (genuine : Commands.Genuine (netMachine answer) before w) : Commands.Genuine (netMachine answer) before outcome.1 := by
  have built := Commands.issue_genuine (netMachine answer) genuine (.nftBlock n.cfg.buildTable)
  cases ended with
  | refused | plain => exact built
  | routed => exact Commands.reissue_genuine (netMachine answer) n.routingAdds built
  | rolledBack done later c =>
      have added := Commands.reissue_genuine (netMachine answer) done built
      exact Commands.issue_genuine (netMachine answer) (Commands.issue_genuine (netMachine answer) added c) n.removeScript

theorem repeated_genuine (enabled : n.cfg.enabled = true) (count : Nat) :
    Commands.Genuine (netMachine answer) before (n.repeated answer before count) := by
  induction count with
  | zero => rfl
  | succ count ih =>
      rw [repeated_succ]
      exact ended_genuine (n.install_ended answer enabled _) ih

theorem ended_script {w : NetWorld} {outcome : NetWorld × Option String} (ended : n.Ended answer w outcome) :
    w.issued ++ [.nftBlock n.cfg.buildTable] <+: outcome.1.issued := by
  have built : (n.built answer w).issued = w.issued ++ [.nftBlock n.cfg.buildTable] := rfl
  cases ended with
  | refused | plain => exact List.prefix_rfl
  | routed =>
      rw [Commands.reissue_issued, built]
      exact List.prefix_append ..
  | rolledBack done later c =>
      simp only [Commands.issue, Commands.reissue_issued, built, List.append_assoc]
      exact ⟨done ++ ([c] ++ [n.removeScript]), by simp⟩

theorem routed_succeeded {w : NetWorld} {outcome : NetWorld × Option String} (ended : n.Ended answer w outcome)
    (tproxy : n.cfg.tproxy = true) (succeeded : outcome.2 = none) :
    outcome.1 = Commands.reissue (netMachine answer) (n.built answer w) n.routingAdds ∧
      ∀ position < n.routingAdds.length, (answer ((n.built answer w).issued.length + position)).succeeded = true := by
  cases ended with
  | refused | rolledBack => cases succeeded
  | plain _ plain =>
      rw [plain] at tproxy
      cases tproxy
  | routed _ _ added => exact ⟨rfl, by simpa [built, Commands.issue] using added⟩

section Honest

variable (enabled : n.cfg.enabled = true)
  (honest : ∀ count, Commands.faithful (netMachine answer) NetKernel.permits ⟨before, []⟩ (n.repeated answer before count).issued = true)
include enabled honest

theorem repeated_script (count : Nat) : (answer (n.repeated answer before count).issued.length).succeeded = true := by
  have continued := ended_script (n.install_ended answer enabled (n.repeated answer before count))
  rw [← repeated_succ] at continued
  exact Commands.faithful_issued (netMachine answer) (repeated_genuine enabled count) _ continued (honest (count + 1))

theorem redirecting_fails (tproxy : n.cfg.tproxy = true) (family : n.cfg.ipv4 = true ∨ n.cfg.ipv6 = true) :
    ¬ n.Repeats answer before 2 := by
  intro repeats
  obtain ⟨v6, rest, adds⟩ := n.adds_first family
  obtain ⟨first, added⟩ := routed_succeeded (n.install_ended answer enabled _) tproxy (repeats.succeeded 0 (by omega))
  obtain ⟨second, again⟩ := routed_succeeded (n.install_ended answer enabled _) tproxy (repeats.succeeded 1 (by omega))
  have some : 0 < n.routingAdds.length := by simp [adds]
  have present : ⟨v6, n.cfg.tproxyMark, n.cfg.routeTable, ""⟩ ∈ (n.repeated answer before 1).kernel.rules := by
    rw [repeated_succ, first, adds]
    exact n.added_rule_stays answer v6 _ (added 0 some) rest fun c member => by simp [adds, member]
  have twice : n.repeated answer before 2 = (n.install answer (n.repeated answer before 1)).1 := repeated_succ 1
  have continued : (n.built answer (n.repeated answer before 1)).issued ++ [.ruleAdd v6 n.cfg.tproxyMark n.cfg.routeTable] <+:
      (n.repeated answer before 2).issued := by
    rw [twice, second, Commands.reissue_issued, adds]
    exact ⟨rest, by simp⟩
  have decided := Commands.faithful_issued (netMachine answer)
    (Commands.issue_genuine (netMachine answer) (repeated_genuine enabled 1) (.nftBlock n.cfg.buildTable)) _ continued (honest 2)
  have refused : NetKernel.permits (n.built answer (n.repeated answer before 1)).kernel
      (.ruleAdd v6 n.cfg.tproxyMark n.cfg.routeTable) = false := by
    refine decide_eq_false (not_not.mpr ?_)
    rw [(n.built_links answer _).1]
    exact present
  exact absurd (again 0 some) (by rw [Nat.add_zero]; exact ne_true_of_eq_false (decided.trans refused))

theorem plain_installed (plain : n.cfg.tproxy = false) (count : Nat) :
    n.install answer (n.repeated answer before count) = (n.built answer (n.repeated answer before count), none) := by
  have ended := n.install_ended answer enabled (n.repeated answer before count)
  have script := repeated_script enabled honest count
  generalize n.install answer (n.repeated answer before count) = outcome at ended
  cases ended with
  | refused problem failed =>
      rw [failed] at script
      cases script
  | plain => rfl
  | routed _ tproxy | rolledBack _ _ _ _ _ tproxy =>
      rw [plain] at tproxy
      cases tproxy

theorem plain_repeated (plain : n.cfg.tproxy = false) (count : Nat) :
    (n.repeated answer before (count + 1)).kernel = (n.repeated answer before count).kernel.addBlock n.cfg.buildTable := by
  rw [repeated_succ, plain_installed enabled honest plain]
  exact passed_kernel answer _ _ (repeated_script enabled honest count)

end Honest

theorem block_lookup (k : NetKernel) (table : String × String) :
    (k.addBlock n.cfg.buildTable).tables.lookup table =
      if table = n.key then some ((k.tables.lookup n.key).getD [] ++ n.cfg.buildTable.items) else k.tables.lookup table := by
  rw [NetKernel.addBlock, Table.lookup_put]
  rfl

end Repeating

end NFTInstaller

theorem SameRuleset.refl (items : List NFItem) : SameRuleset items items := ⟨fun _ => .rfl, fun _ => rfl⟩

theorem SameRuleset.trans {first second third : List NFItem} (one : SameRuleset first second) (two : SameRuleset second third) :
    SameRuleset first third :=
  ⟨fun item => (one.declared item).trans (two.declared item), fun name => (one.rules name).trans (two.rules name)⟩

theorem SameRuleset.again (items block : List NFItem) (empty : ∀ name, tableRules block name = [])
    (declared : ∀ item ∈ block, item ∈ items) : SameRuleset (items ++ block) items := by
  constructor
  · intro item
    simp only [List.map_append, List.mem_append, or_iff_left_iff_imp, List.mem_map]
    rintro ⟨found, member, rfl⟩
    exact ⟨found, declared found member, rfl⟩
  · intro name
    rw [table_rules_append, empty, List.append_nil]

theorem SameNet.refl (k : NetKernel) : SameNet k k := by
  refine ⟨fun key => ?_, rfl, rfl⟩
  cases k.tables.lookup key with
  | none => exact .none
  | some items => exact .some (SameRuleset.refl items)

theorem SameNet.trans {first second third : NetKernel} (one : SameNet first second) (two : SameNet second third) :
    SameNet first third := by
  refine ⟨fun key => ?_, one.rules.trans two.rules, one.routes.trans two.routes⟩
  have left := one.tables key
  have right := two.tables key
  generalize first.tables.lookup key = held at left
  generalize second.tables.lookup key = middle at left right
  generalize third.tables.lookup key = last at right
  cases left with
  | none => exact right
  | some same =>
      cases right with
      | some next => exact .some (same.trans next)

namespace NFTInstaller

theorem block_again (n : NFTInstaller) (k : NetKernel) (items : List NFItem) (held : k.tables.lookup n.key = some items)
    (declared : ∀ item ∈ n.cfg.buildTable.items, item ∈ items) (empty : ∀ name, tableRules n.cfg.buildTable.items name = []) :
    SameNet (k.addBlock n.cfg.buildTable) k := by
  refine ⟨fun table => ?_, rfl, rfl⟩
  rw [block_lookup]
  split_ifs with own
  · rw [own, held]
    exact .some (.again items _ empty declared)
  · exact (SameNet.refl k).tables table

section Inert

variable {answer : Nat → ProcessResult} {n : NFTInstaller} {before : NetKernel} (enabled : n.cfg.enabled = true)
  (honest : ∀ count, Commands.faithful (netMachine answer) NetKernel.permits ⟨before, []⟩ (n.repeated answer before count).issued = true)
  (plain : n.cfg.tproxy = false)
include enabled honest plain

theorem repeated_holds (count : Nat) :
    ∃ items, (n.repeated answer before (count + 1)).kernel.tables.lookup n.key = some items ∧
      ∀ item ∈ n.cfg.buildTable.items, item ∈ items := by
  rw [plain_repeated enabled honest plain, block_lookup, if_pos rfl]
  exact ⟨_, rfl, fun item member => List.mem_append_right _ member⟩

theorem inert_repeated (empty : ∀ name, tableRules n.cfg.buildTable.items name = []) (count : Nat) :
    SameNet (n.repeated answer before (count + 1)).kernel (n.repeated answer before 1).kernel := by
  induction count with
  | zero => exact .refl _
  | succ count ih =>
      obtain ⟨items, held, declared⟩ := repeated_holds enabled honest plain count
      rw [plain_repeated enabled honest plain (count + 1)]
      exact (n.block_again _ items held declared empty).trans ih

theorem repeated_empty (same : SameNet (n.repeated answer before 2).kernel (n.repeated answer before 1).kernel) (name : String) :
    tableRules n.cfg.buildTable.items name = [] := by
  obtain ⟨items, held, _⟩ := repeated_holds enabled honest plain 0
  have again := same.tables n.key
  rw [plain_repeated enabled honest plain 1, block_lookup, if_pos rfl, held, Option.getD_some] at again
  cases again with
  | some doubled =>
      have rules := doubled.rules name
      simpa [table_rules_append] using rules

theorem inert_repeats (empty : ∀ name, tableRules n.cfg.buildTable.items name = []) (count : Nat) :
    n.Repeats answer before (count + 1) := by
  refine ⟨fun earlier _ => by rw [plain_installed enabled honest plain], inert_repeated enabled honest plain empty count, ?_⟩
  intro fresh items found name
  have same := (inert_repeated enabled honest plain empty count).tables n.key
  rw [found, plain_repeated enabled honest plain 0, block_lookup, if_pos rfl] at same
  cases same with
  | some equal =>
      have start : (n.repeated answer before 0).kernel.tables.lookup n.key = none := fresh
      rw [equal.rules, start, table_rules_append, empty]
      exact List.nodup_nil

end Inert

theorem disabled_repeated (answer : Nat → ProcessResult) (n : NFTInstaller) (before : NetKernel) (disabled : n.cfg.enabled = false)
    (count : Nat) : n.repeated answer before count = ⟨before, []⟩ := by
  induction count with
  | zero => rfl
  | succ count ih => simp [repeated_succ, ih, install, disabled]

end NFTInstaller

theorem install_repeats_iff (lookPath : Except String Unit) (cfg : NFTConfig) (n : NFTInstaller)
    (accepted : newNFTInstaller lookPath cfg = .ok n) (answer : Nat → ProcessResult) (before : NetKernel)
    (honest : ∀ count,
      Commands.faithful (netMachine answer) NetKernel.permits ⟨before, []⟩ (n.repeated answer before count).issued = true) :
    (∀ count, 1 ≤ count → n.Repeats answer before count) ↔ cfg.Inert := by
  obtain ⟨⟨sameEnabled, sameProxy⟩, resolved⟩ := new_installer_cfg lookPath cfg n accepted
  constructor
  · intro repeats enabled
    have running : n.cfg.enabled = true := sameEnabled.trans enabled
    by_cases tproxy : cfg.tproxy = true
    · have family := (resolve_tproxy cfg tproxy).2
      rw [← resolved enabled] at family
      exact absurd (repeats 2 (by omega)) (NFTInstaller.redirecting_fails running honest (sameProxy.trans tproxy) family)
    · have plain : cfg.tproxy = false := by simpa using tproxy
      obtain ⟨⟨isolation, masquerade⟩, accounting, four, six⟩ := cfg.resolve_inert plain
      have still : n.cfg.tproxy = false := sameProxy.trans plain
      have empty := (n.cfg.inert_rules still).mp
        (NFTInstaller.repeated_empty running honest still (repeats 2 (by omega)).same)
      rw [resolved enabled, isolation, masquerade, accounting, four, six] at empty
      exact ⟨plain, empty⟩
  · intro inert count positive
    obtain ⟨earlier, rfl⟩ : ∃ earlier, count = earlier + 1 := ⟨count - 1, by omega⟩
    by_cases enabled : cfg.enabled = true
    · obtain ⟨plain, quiet⟩ := inert enabled
      obtain ⟨⟨isolation, masquerade⟩, accounting, four, six⟩ := cfg.resolve_inert plain
      have still : n.cfg.tproxy = false := sameProxy.trans plain
      rw [← isolation, ← masquerade, ← accounting, ← four, ← six, ← resolved enabled] at quiet
      exact NFTInstaller.inert_repeats (sameEnabled.trans enabled) honest still ((n.cfg.inert_rules still).mpr quiet) earlier
    · have disabled : n.cfg.enabled = false := by simpa [sameEnabled] using enabled
      refine ⟨fun _ _ => by simp [NFTInstaller.install, disabled], ?_, ?_⟩
      · rw [n.disabled_repeated answer before disabled, n.disabled_repeated answer before disabled]
        exact .refl before
      · intro fresh items found
        rw [n.disabled_repeated answer before disabled, fresh] at found
        cases found

theorem NFTInstaller.plain_honest (n : NFTInstaller) (before : NetKernel) (plain : n.cfg.tproxy = false) (count : Nat) :
    Commands.faithful (netMachine fun _ => .ok) NetKernel.permits ⟨before, []⟩ (n.repeated (fun _ => .ok) before count).issued = true := by
  by_cases enabled : n.cfg.enabled = true
  · induction count with
    | zero => rfl
    | succ count ih =>
        have ended := n.install_ended (fun _ => .ok) enabled (n.repeated (fun _ => .ok) before count)
        rw [repeated_succ]
        generalize n.install (fun _ => .ok) (n.repeated (fun _ => .ok) before count) = outcome at ended
        cases ended with
        | refused problem failed => cases failed
        | plain =>
            have issued : (n.built (fun _ => .ok) (n.repeated (fun _ => .ok) before count)).issued =
                (n.repeated (fun _ => .ok) before count).issued ++ [.nftBlock n.cfg.buildTable] := rfl
            rw [issued, Commands.faithful_append, ih]
            rfl
        | routed _ tproxy | rolledBack _ _ _ _ _ tproxy =>
            rw [plain] at tproxy
            cases tproxy
  · rw [n.disabled_repeated _ before (by simpa using enabled)]
    rfl

def meteredFilter (pool : Prefix) : NFTConfig :=
  { tunnelFilter false with isolation := false, accounting := true, poolV4 := pool }

theorem install_repeats_poolless :
    ∃ n, newNFTInstaller (.ok ()) (meteredFilter .invalid) = .ok n ∧ n.cfg.buildTable.items.length = 2 ∧
      ∀ count, 1 ≤ count → n.Repeats (fun _ => .ok) ⟨∅, bootRules, []⟩ count := by
  refine ⟨_, rfl, by decide, (install_repeats_iff (.ok ()) (meteredFilter .invalid) _ rfl (fun _ => .ok) ⟨∅, bootRules, []⟩ ?_).mpr ?_⟩
  · exact NFTInstaller.plain_honest _ _ rfl
  · exact fun _ => ⟨rfl, rfl, rfl, fun _ => by decide⟩

-- Metering: both Installs succeed and every packet is counted twice. TPROXY:
-- the second Install meets its own rule, and what it rolls back is the table of
-- the first.
theorem reinstall_duplicates :
    (∃ n, newNFTInstaller (.ok ()) (meteredFilter (tunnelNet 24)) = .ok n ∧
      Commands.faithful (netMachine fun _ => .ok) NetKernel.permits ⟨⟨∅, bootRules, []⟩, []⟩
        (n.repeated (fun _ => .ok) ⟨∅, bootRules, []⟩ 2).issued = true ∧
      (n.install (fun _ => .ok) (n.repeated (fun _ => .ok) ⟨∅, bootRules, []⟩ 1)).2 = none ∧
      ((n.repeated (fun _ => .ok) ⟨∅, bootRules, []⟩ 2).kernel.tables.lookup n.key).map (tableRules · "acct_ingress") =
        some (List.replicate 2 ⟨[.saddrIn .ip (tunnelNet 24)], .updateSaddr .ip "acct_up4"⟩)) ∧
    ∃ n, newNFTInstaller (.ok ()) (tunnelFilter true) = .ok n ∧
      Commands.faithful (netMachine (taken 4)) NetKernel.permits ⟨⟨∅, bootRules, []⟩, []⟩
        (n.repeated (taken 4) ⟨∅, bootRules, []⟩ 2).issued = true ∧
      (n.install (taken 4) ⟨⟨∅, bootRules, []⟩, []⟩).2 = none ∧
      (n.install (taken 4) (n.repeated (taken 4) ⟨∅, bootRules, []⟩ 1)).2 =
        some "install ip rule/route: RTNETLINK answers: File exists: exit status 2" ∧
      (n.repeated (taken 4) ⟨∅, bootRules, []⟩ 2).kernel.tables.lookup n.key = none := by
  refine ⟨⟨_, rfl, ?_, ?_, ?_⟩, _, rfl, ?_, ?_, ?_, ?_⟩ <;> decide +kernel

end Packethose
