import Packethose.FileConfig

set_option autoImplicit false

namespace Packethose

def orDefault (text fallback : String) : String := if text = "" then fallback else text

structure NFTInstaller where
  cfg : NFTConfig

inductive NFTError where
  | binaryNotFound (problem : String)

def NFTError.message : NFTError → String
  | .binaryNotFound problem => "nft binary not found: " ++ problem

namespace NFTConfig

def resolveTPROXY (cfg : NFTConfig) : NFTConfig :=
  let port := if cfg.tproxyPort = 0 then 13338 else cfg.tproxyPort
  { cfg with
    tproxyPort := port
    tproxyMark := if cfg.tproxyMark = 0 then 1 else cfg.tproxyMark
    routeTable := if cfg.routeTable = 0 then UInt32.ofInt port else cfg.routeTable
    ipv4 := cfg.ipv4 || (!cfg.ipv4 && !cfg.ipv6)
    ipv6 := cfg.ipv6 || (!cfg.ipv4 && !cfg.ipv6) }

def resolve (cfg : NFTConfig) : NFTConfig :=
  let named := { cfg with
    family := orDefault cfg.family "inet"
    tableName := orDefault cfg.tableName "packethose"
    tunMatch := orDefault cfg.tunMatch "phose-*" }
  if named.tproxy then named.resolveTPROXY else named

end NFTConfig

def newNFTInstaller (lookPath : Except String Unit) (cfg : NFTConfig) : Except NFTError NFTInstaller :=
  if !cfg.enabled then .ok ⟨cfg⟩
  else (lookPath.mapError .binaryNotFound).map fun _ => ⟨cfg.resolve⟩

theorem resolve_switches (cfg : NFTConfig) : cfg.resolve.enabled = cfg.enabled ∧ cfg.resolve.tproxy = cfg.tproxy := by
  by_cases tproxy : cfg.tproxy = true
  · simp [NFTConfig.resolve, NFTConfig.resolveTPROXY, tproxy]
  · simp [NFTConfig.resolve, tproxy]

theorem resolve_tproxy (cfg : NFTConfig) (tproxy : cfg.tproxy = true) :
    cfg.resolve.tproxyMark ≠ 0 ∧ (cfg.resolve.ipv4 = true ∨ cfg.resolve.ipv6 = true) := by
  simp only [NFTConfig.resolve, tproxy, if_true, NFTConfig.resolveTPROXY]
  constructor
  · split_ifs with unset
    · decide
    · exact unset
  · cases cfg.ipv4 <;> cases cfg.ipv6 <;> decide

theorem new_installer_cfg (lookPath : Except String Unit) (cfg : NFTConfig) (n : NFTInstaller)
    (accepted : newNFTInstaller lookPath cfg = .ok n) :
    (n.cfg.enabled = cfg.enabled ∧ n.cfg.tproxy = cfg.tproxy) ∧ (cfg.enabled = true → n.cfg = cfg.resolve) := by
  unfold newNFTInstaller at accepted
  by_cases enabled : cfg.enabled = true
  · rw [if_neg (by simp [enabled])] at accepted
    obtain ⟨_, _, rfl⟩ := Outcomes.map_ok accepted
    exact ⟨resolve_switches cfg, fun _ => rfl⟩
  · rw [if_pos (by simp [enabled])] at accepted
    cases accepted
    exact ⟨⟨rfl, rfl⟩, fun set => absurd set enabled⟩

inductive NFProto where
  | ip
  | ip6
deriving DecidableEq, Repr

inductive NFHook where
  | prerouting
  | forward
  | postrouting
deriving DecidableEq, Repr

inductive NFMatch where
  | iifname (pattern : String)
  | oifname (pattern : String)
  | oifnameNot (pattern : String)
  | daddr (proto : NFProto) (addr : Addr)
  | saddrIn (proto : NFProto) (net : Prefix)
  | daddrIn (proto : NFProto) (net : Prefix)
  | tcpOrUDP
deriving DecidableEq, Repr

inductive NFStatement where
  | accept
  | drop
  | masquerade
  | updateSaddr (proto : NFProto) (set : String)
  | updateDaddr (proto : NFProto) (set : String)
  | tproxy (proto : NFProto) (port : Int) (mark : UInt32)
deriving DecidableEq, Repr

structure NFRule where
  conditions : List NFMatch
  statement : NFStatement
deriving DecidableEq, Repr

structure NFChain where
  name : String
  kind : String
  hook : NFHook
  priority : String
  rules : List NFRule
deriving DecidableEq, Repr

inductive NFItem where
  | set (name : String) (proto : NFProto)
  | chain (c : NFChain)
deriving DecidableEq, Repr

structure NFTable where
  family : String
  name : String
  items : List NFItem
deriving DecidableEq, Repr

def emitIf {T : Type} (wanted : Bool) (item : T) : List T := if wanted then [item] else []

theorem mem_emit_if {T : Type} (wanted : Bool) (item found : T) : found ∈ emitIf wanted item ↔ wanted = true ∧ found = item := by
  cases wanted <;> simp [emitIf]

theorem emit_if_nil {T : Type} (wanted : Bool) (item : T) : emitIf wanted item = [] ↔ wanted = false := by
  cases wanted <;> simp [emitIf]

theorem filter_map_emit_if {T R : Type} (wanted : Bool) (item : T) (pick : T → Option R) :
    (emitIf wanted item).filterMap pick = if wanted then (pick item).toList else [] := by
  cases wanted with
  | false => rfl
  | true => cases chosen : pick item <;> simp [emitIf, chosen]

theorem find_some_emit_if {T R : Type} (wanted : Bool) (item : T) (pick : T → Option R) :
    (emitIf wanted item).findSome? pick = if wanted then pick item else none := by
  cases wanted <;> simp [emitIf]

theorem flat_map_emit_if {T R : Type} (wanted : Bool) (item : T) (spread : T → List R) :
    (emitIf wanted item).flatMap spread = if wanted then spread item else [] := by
  cases wanted <;> simp [emitIf]

namespace NFTConfig

def serverAccept (cfg : NFTConfig) (proto : NFProto) (addr : Addr) : NFRule :=
  ⟨[.iifname cfg.tunMatch, .daddr proto addr], .accept⟩

def redirect (cfg : NFTConfig) (proto : NFProto) : NFRule :=
  ⟨[.iifname cfg.tunMatch, .tcpOrUDP], .tproxy proto cfg.tproxyPort cfg.tproxyMark⟩

def preroutingChain (cfg : NFTConfig) : NFChain :=
  ⟨"prerouting", "filter", .prerouting, "mangle",
    emitIf (cfg.ipv4 && cfg.serverIP4.isValid) (cfg.serverAccept .ip cfg.serverIP4) ++
    emitIf (cfg.ipv6 && cfg.serverIP6.isValid) (cfg.serverAccept .ip6 cfg.serverIP6) ++
    emitIf cfg.ipv4 (cfg.redirect .ip) ++
    emitIf cfg.ipv6 (cfg.redirect .ip6)⟩

def forwardChain (cfg : NFTConfig) : NFChain :=
  ⟨"forward", "filter", .forward, "0", [⟨[.iifname cfg.tunMatch, .oifname cfg.tunMatch], .drop⟩]⟩

def postroutingChain (cfg : NFTConfig) : NFChain :=
  ⟨"postrouting", "nat", .postrouting, "srcnat",
    [if cfg.egressInterface ≠ "" then ⟨[.iifname cfg.tunMatch, .oifname cfg.egressInterface], .masquerade⟩
      else ⟨[.iifname cfg.tunMatch, .oifnameNot cfg.tunMatch], .masquerade⟩]⟩

def acctV4 (cfg : NFTConfig) : Bool := cfg.ipv4 && cfg.poolV4.isValid

def acctV6 (cfg : NFTConfig) : Bool := cfg.ipv6 && cfg.poolV6.isValid

def ingressChain (cfg : NFTConfig) : NFChain :=
  ⟨"acct_ingress", "filter", .prerouting, "-300",
    emitIf cfg.acctV4 ⟨[.saddrIn .ip cfg.poolV4], .updateSaddr .ip "acct_up4"⟩ ++
    emitIf cfg.acctV6 ⟨[.saddrIn .ip6 cfg.poolV6], .updateSaddr .ip6 "acct_up6"⟩⟩

def egressChain (cfg : NFTConfig) : NFChain :=
  ⟨"acct_egress", "filter", .postrouting, "-300",
    emitIf cfg.acctV4 ⟨[.daddrIn .ip cfg.poolV4], .updateDaddr .ip "acct_down4"⟩ ++
    emitIf cfg.acctV6 ⟨[.daddrIn .ip6 cfg.poolV6], .updateDaddr .ip6 "acct_down6"⟩⟩

def accountingItems (cfg : NFTConfig) : List NFItem :=
  emitIf cfg.acctV4 (NFItem.set "acct_up4" .ip) ++ emitIf cfg.acctV4 (NFItem.set "acct_down4" .ip) ++
  emitIf cfg.acctV6 (NFItem.set "acct_up6" .ip6) ++ emitIf cfg.acctV6 (NFItem.set "acct_down6" .ip6) ++
  [NFItem.chain cfg.ingressChain, NFItem.chain cfg.egressChain]

def buildTable (cfg : NFTConfig) : NFTable :=
  ⟨cfg.family, cfg.tableName,
    emitIf cfg.tproxy (NFItem.chain cfg.preroutingChain) ++
    emitIf cfg.isolation (NFItem.chain cfg.forwardChain) ++
    emitIf cfg.masquerade (NFItem.chain cfg.postroutingChain) ++
    (if cfg.accounting then cfg.accountingItems else [])⟩

end NFTConfig

def NFProto.text : NFProto → String
  | .ip => "ip"
  | .ip6 => "ip6"

def NFProto.addrType : NFProto → String
  | .ip => "ipv4_addr"
  | .ip6 => "ipv6_addr"

def NFHook.text : NFHook → String
  | .prerouting => "prerouting"
  | .forward => "forward"
  | .postrouting => "postrouting"

def hexText (value : UInt32) : String := "0x" ++ String.ofList (Nat.toDigits 16 value.toNat)

def NFMatch.render (go : GoLib) : NFMatch → String
  | .iifname pattern => "iifname " ++ go.quote pattern
  | .oifname pattern => "oifname " ++ go.quote pattern
  | .oifnameNot pattern => "oifname != " ++ go.quote pattern
  | .daddr proto addr => proto.text ++ " daddr " ++ go.addrText addr
  | .saddrIn proto net => proto.text ++ " saddr " ++ go.subnetText net
  | .daddrIn proto net => proto.text ++ " daddr " ++ go.subnetText net
  | .tcpOrUDP => "meta l4proto \x7b tcp, udp \x7d"

def NFStatement.render : NFStatement → String
  | .accept => "accept"
  | .drop => "drop"
  | .masquerade => "masquerade"
  | .updateSaddr proto set => "update @" ++ set ++ " \x7b " ++ proto.text ++ " saddr \x7d"
  | .updateDaddr proto set => "update @" ++ set ++ " \x7b " ++ proto.text ++ " daddr \x7d"
  | .tproxy proto port mark =>
      "tproxy " ++ proto.text ++ " to :" ++ toString port ++ " meta mark set " ++ hexText mark ++ " accept"

def NFRule.render (go : GoLib) (rule : NFRule) : String :=
  "    " ++ String.join (rule.conditions.map fun m => m.render go ++ " ") ++ rule.statement.render ++ "\n"

def NFItem.render (go : GoLib) : NFItem → String
  | .set name proto =>
      "  set " ++ name ++ " \x7b type " ++ proto.addrType ++ "; flags dynamic; size 65535; counter; \x7d\n"
  | .chain c =>
      "  chain " ++ c.name ++ " \x7b\n" ++
      "    type " ++ c.kind ++ " hook " ++ c.hook.text ++ " priority " ++ c.priority ++ "; policy accept;\n" ++
      String.join (c.rules.map (NFRule.render go)) ++ "  \x7d\n"

def NFTable.render (go : GoLib) (table : NFTable) : String :=
  "table " ++ table.family ++ " " ++ table.name ++ " \x7b\n" ++ String.join (table.items.map (NFItem.render go)) ++ "\x7d\n"

def NFTInstaller.buildScript (go : GoLib) (n : NFTInstaller) : String := n.cfg.buildTable.render go

structure InnerPacket where
  src : Addr
  dst : Addr
  l4proto : UInt8
deriving DecidableEq, Repr

structure Transit where
  packet : InnerPacket
  iif : String
  oif : Option String

inductive Verdict where
  | accept
  | drop
  | redirect (port : Int)
deriving DecidableEq, Repr

def ifnameMatches (pattern name : String) : Bool :=
  if pattern.toList.getLast? = some '*' then pattern.toList.dropLast.isPrefixOf name.toList else pattern == name

def NFProto.carries : NFProto → Addr → Bool
  | .ip, addr => addr.is4
  | .ip6, addr => addr.is6

-- The hooks of an inet table see both families, those of an ip or ip6 table
-- one; the other families of nft see no routed IP packet.
def familySees (family : String) (addr : Addr) : Bool :=
  if family = "inet" then addr.is4 || addr.is6
  else if family = "ip" then addr.is4
  else if family = "ip6" then addr.is6
  else false

def NFMatch.holds (t : Transit) : NFMatch → Bool
  | .iifname pattern => ifnameMatches pattern t.iif
  | .oifname pattern => t.oif.any (ifnameMatches pattern)
  | .oifnameNot pattern => t.oif.any fun name => !ifnameMatches pattern name
  | .daddr proto addr => proto.carries t.packet.dst && t.packet.dst == addr
  | .saddrIn proto net => proto.carries t.packet.src && net.contains t.packet.src
  | .daddrIn proto net => proto.carries t.packet.dst && net.contains t.packet.dst
  | .tcpOrUDP => t.packet.l4proto == 6 || t.packet.l4proto == 17

-- handed says whether the socket lookup of a tproxy statement finds the
-- listener; without a socket the rule ends there and the next one is tried.
def NFStatement.verdict (handed : Int → InnerPacket → Bool) (packet : InnerPacket) : NFStatement → Option Verdict
  | .accept => some .accept
  | .drop => some .drop
  | .masquerade => some .accept
  | .updateSaddr _ _ => none
  | .updateDaddr _ _ => none
  | .tproxy proto port _ => if proto.carries packet.dst && handed port packet then some (.redirect port) else none

def NFRule.verdict (handed : Int → InnerPacket → Bool) (t : Transit) (rule : NFRule) : Option Verdict :=
  if rule.conditions.all (NFMatch.holds t) then rule.statement.verdict handed t.packet else none

def NFChain.verdict (handed : Int → InnerPacket → Bool) (t : Transit) (c : NFChain) : Verdict :=
  (c.rules.findSome? (NFRule.verdict handed t)).getD .accept

def NFItem.chainAt (hook : NFHook) : NFItem → Option NFChain
  | .set _ _ => none
  | .chain c => if c.hook = hook then some c else none

-- An accept ends its own chain only and a drop is final, so the order of the
-- chains of one hook does not matter.
def combine (verdicts : List Verdict) : Verdict :=
  if .drop ∈ verdicts then .drop else (verdicts.find? fun v => v ≠ .accept).getD .accept

def NFTable.verdict (handed : Int → InnerPacket → Bool) (hook : NFHook) (t : Transit) (table : NFTable) : Verdict :=
  if familySees table.family t.packet.dst then
    combine ((table.items.filterMap (NFItem.chainAt hook)).map (NFChain.verdict handed t))
  else .accept

theorem NFRule.verdict_some (handed : Int → InnerPacket → Bool) (t : Transit) (rule : NFRule) (v : Verdict)
    (spoke : rule.verdict handed t = some v) :
    (∀ condition ∈ rule.conditions, condition.holds t = true) ∧ rule.statement.verdict handed t.packet = some v := by
  unfold NFRule.verdict at spoke
  split_ifs at spoke with held
  exact ⟨List.all_eq_true.mp held, spoke⟩

theorem combine_source (verdicts : List Verdict) (v : Verdict) (result : combine verdicts = v) (notable : v ≠ .accept) :
    v ∈ verdicts := by
  unfold combine at result
  split_ifs at result with dropped
  · exact result ▸ dropped
  · cases found : verdicts.find? fun v => v ≠ .accept with
    | none =>
        rw [found] at result
        exact absurd result.symm notable
    | some first =>
        rw [found] at result
        exact (show first = v from result) ▸ List.mem_of_find?_eq_some found

theorem NFTable.verdict_source (handed : Int → InnerPacket → Bool) (hook : NFHook) (t : Transit) (table : NFTable)
    (v : Verdict) (result : table.verdict handed hook t = v) (notable : v ≠ .accept) :
    ∃ c rule, NFItem.chain c ∈ table.items ∧ c.hook = hook ∧ rule ∈ c.rules ∧ rule.verdict handed t = some v := by
  unfold NFTable.verdict at result
  split_ifs at result
  · obtain ⟨c, atHook, said⟩ := List.mem_map.mp (combine_source _ v result notable)
    obtain ⟨item, listed, isChain⟩ := List.mem_filterMap.mp atHook
    cases item with
    | set name proto => cases isChain
    | chain found =>
        simp only [NFItem.chainAt, Option.ite_none_right_eq_some, Option.some.injEq] at isChain
        obtain ⟨hooked, same⟩ := isChain
        subst same
        unfold NFChain.verdict at said
        cases first : found.rules.findSome? (NFRule.verdict handed t) with
        | none =>
            rw [first] at said
            exact absurd said.symm notable
        | some w =>
            rw [first] at said
            obtain ⟨rule, member, spoke⟩ := List.exists_of_findSome?_eq_some first
            exact ⟨found, rule, listed, hooked, member, (show w = v from said) ▸ spoke⟩
  · exact absurd result.symm notable

def NFStatement.tproxyPort : NFStatement → Option Int
  | .tproxy _ port _ => some port
  | _ => none

def NFItem.tproxyPorts : NFItem → List Int
  | .set _ _ => []
  | .chain c => c.rules.filterMap fun rule => rule.statement.tproxyPort

def NFTable.tproxyPorts (table : NFTable) : List Int := table.items.flatMap NFItem.tproxyPorts

namespace NFTConfig

theorem prerouting_chains (cfg : NFTConfig) (c : NFChain) (listed : .chain c ∈ cfg.buildTable.items)
    (hooked : c.hook = .prerouting) : c = cfg.preroutingChain ∨ c = cfg.ingressChain := by
  simp only [buildTable, List.mem_append, mem_emit_if, NFItem.chain.injEq] at listed
  obtain ((⟨_, same⟩ | ⟨_, same⟩) | ⟨_, same⟩) | counted := listed
  · exact .inl same
  · cases same ▸ hooked
  · cases same ▸ hooked
  · split_ifs at counted
    · simp only [accountingItems, List.mem_append, mem_emit_if, List.mem_cons, NFItem.chain.injEq, reduceCtorEq, and_false,
        false_or, List.not_mem_nil, or_false] at counted
      obtain same | same := counted
      · exact .inr same
      · cases same ▸ hooked
    · cases counted

theorem prerouting_redirects (cfg : NFTConfig) (handed : Int → InnerPacket → Bool) (t : Transit) (v : Verdict)
    (result : cfg.buildTable.verdict handed .prerouting t = v) (notable : v ≠ .accept) :
    ∃ port, v = .redirect port ∧ handed port t.packet = true ∧ (t.packet.l4proto = 6 ∨ t.packet.l4proto = 17) := by
  obtain ⟨c, rule, listed, hooked, member, spoke⟩ := NFTable.verdict_source handed .prerouting t _ v result notable
  obtain ⟨held, stated⟩ := NFRule.verdict_some handed t rule v spoke
  have fromServer : ∀ proto addr, rule ≠ cfg.serverAccept proto addr := by
    intro proto addr same
    subst same
    exact notable (Option.some.inj stated).symm
  have fromRedirect : ∀ proto, rule = cfg.redirect proto →
      ∃ port, v = .redirect port ∧ handed port t.packet = true ∧ (t.packet.l4proto = 6 ∨ t.packet.l4proto = 17) := by
    intro proto same
    subst same
    have layer := held .tcpOrUDP (by simp [redirect])
    simp only [NFMatch.holds, Bool.or_eq_true, beq_iff_eq] at layer
    simp only [redirect, NFStatement.verdict] at stated
    split_ifs at stated with found
    rw [Bool.and_eq_true] at found
    exact ⟨cfg.tproxyPort, (Option.some.inj stated).symm, found.2, layer⟩
  obtain same | same := cfg.prerouting_chains c listed hooked
  · subst same
    simp only [preroutingChain, List.mem_append, mem_emit_if] at member
    obtain ((⟨_, same⟩ | ⟨_, same⟩) | ⟨_, same⟩) | ⟨_, same⟩ := member
    · exact absurd same (fromServer _ _)
    · exact absurd same (fromServer _ _)
    · exact fromRedirect _ same
    · exact fromRedirect _ same
  · subst same
    simp only [ingressChain, List.mem_append, mem_emit_if] at member
    obtain ⟨_, same⟩ | ⟨_, same⟩ := member <;> subst same <;> cases stated

def takes (cfg : NFTConfig) (p : InnerPacket) : Bool :=
  (p.l4proto == 6 || p.l4proto == 17) && (cfg.ipv4 && p.dst.is4 || cfg.ipv6 && p.dst.is6)

theorem prerouting_filter (cfg : NFTConfig) :
    cfg.buildTable.items.filterMap (NFItem.chainAt .prerouting) =
      emitIf cfg.tproxy cfg.preroutingChain ++ emitIf cfg.accounting cfg.ingressChain := by
  have counted : (if cfg.accounting then cfg.accountingItems else []).filterMap (NFItem.chainAt .prerouting) =
      emitIf cfg.accounting cfg.ingressChain := by
    cases cfg.accounting with
    | false => rfl
    | true =>
        simp only [if_true, accountingItems, List.filterMap_append, filter_map_emit_if]
        cases cfg.acctV4 <;> cases cfg.acctV6 <;> rfl
  simp only [buildTable, List.filterMap_append, filter_map_emit_if, counted]
  cases cfg.tproxy <;> cases cfg.isolation <;> cases cfg.masquerade <;> rfl

theorem ingress_accepts (cfg : NFTConfig) (handed : Int → InnerPacket → Bool) (t : Transit) :
    cfg.ingressChain.verdict handed t = .accept := by
  have silent : ∀ condition proto set, NFRule.verdict handed t ⟨[condition], .updateSaddr proto set⟩ = none := by
    intro condition proto set
    unfold NFRule.verdict
    split_ifs <;> rfl
  simp only [NFChain.verdict, ingressChain, List.findSome?_append, find_some_emit_if, silent, ite_self]
  rfl

section Entering

variable (cfg : NFTConfig) (handed : Int → InnerPacket → Bool) (t : Transit)

theorem server_accept_silent (proto : NFProto) (addr : Addr) (apart : t.packet.dst ≠ addr) :
    (cfg.serverAccept proto addr).verdict handed t = none := by
  simp [NFRule.verdict, serverAccept, NFMatch.holds, apart]

theorem redirect_verdict (entering : ifnameMatches cfg.tunMatch t.iif = true) (proto : NFProto) :
    (cfg.redirect proto).verdict handed t =
      if (t.packet.l4proto == 6 || t.packet.l4proto == 17) && proto.carries t.packet.dst && handed cfg.tproxyPort t.packet then
        some (.redirect cfg.tproxyPort)
      else none := by
  simp only [NFRule.verdict, redirect, List.all_cons, List.all_nil, NFMatch.holds, entering, Bool.true_and, Bool.and_true,
    NFStatement.verdict]
  cases t.packet.l4proto == 6 || t.packet.l4proto == 17 <;> simp

theorem prerouting_verdict (seen : familySees cfg.family t.packet.dst = true) (entering : ifnameMatches cfg.tunMatch t.iif = true)
    (apart4 : t.packet.dst ≠ cfg.serverIP4) (apart6 : t.packet.dst ≠ cfg.serverIP6) :
    cfg.buildTable.verdict handed .prerouting t =
      if cfg.tproxy && cfg.takes t.packet && handed cfg.tproxyPort t.packet then .redirect cfg.tproxyPort else .accept := by
  have chain : cfg.preroutingChain.verdict handed t =
      if cfg.takes t.packet && handed cfg.tproxyPort t.packet then .redirect cfg.tproxyPort else .accept := by
    have either : ∀ layer ipv4 ipv6 is4 is6 found : Bool, ∀ v : Verdict,
        ((if ipv4 then if layer && is4 && found then some v else none else none).or
          (if ipv6 then if layer && is6 && found then some v else none else none)).getD .accept =
        if layer && (ipv4 && is4 || ipv6 && is6) && found then v else .accept := by
      intro layer ipv4 ipv6 is4 is6 found v
      cases layer <;> cases ipv4 <;> cases ipv6 <;> cases is4 <;> cases is6 <;> cases found <;> rfl
    simp only [NFChain.verdict, preroutingChain, List.findSome?_append, find_some_emit_if, server_accept_silent cfg handed t _ _ apart4,
      server_accept_silent cfg handed t _ _ apart6, redirect_verdict cfg handed t entering, NFProto.carries, ite_self, Option.none_or]
    exact either _ _ _ _ _ _ _
  rw [NFTable.verdict, show cfg.buildTable.family = cfg.family from rfl, if_pos seen, prerouting_filter]
  cases cfg.tproxy with
  | false => cases cfg.accounting <;> simp [emitIf, combine, ingress_accepts]
  | true =>
      rw [Bool.true_and, List.map_append, emitIf, if_pos rfl, List.map_singleton, chain]
      cases cfg.accounting <;> cases cfg.takes t.packet && handed cfg.tproxyPort t.packet <;> simp [emitIf, combine, ingress_accepts]

end Entering

theorem build_table_ports (cfg : NFTConfig) (tproxy : cfg.tproxy = true) :
    cfg.buildTable.tproxyPorts = emitIf cfg.ipv4 cfg.tproxyPort ++ emitIf cfg.ipv6 cfg.tproxyPort := by
  have counted : (if cfg.accounting then cfg.accountingItems else []).flatMap NFItem.tproxyPorts = [] := by
    cases cfg.accounting with
    | false => rfl
    | true =>
        simp only [if_true, accountingItems, List.flatMap_append, flat_map_emit_if, List.flatMap_cons, List.flatMap_nil]
        simp only [NFItem.tproxyPorts, ingressChain, egressChain, List.filterMap_append, filter_map_emit_if]
        cases cfg.acctV4 <;> cases cfg.acctV6 <;> rfl
  have redirected : NFItem.tproxyPorts (.chain cfg.preroutingChain) =
      emitIf cfg.ipv4 cfg.tproxyPort ++ emitIf cfg.ipv6 cfg.tproxyPort := by
    simp only [NFItem.tproxyPorts, preroutingChain, List.filterMap_append, filter_map_emit_if]
    cases cfg.ipv4 <;> cases cfg.ipv6 <;> cases cfg.serverIP4.isValid <;> cases cfg.serverIP6.isValid <;> rfl
  have dropped : NFItem.tproxyPorts (.chain cfg.forwardChain) = [] := rfl
  have translated : NFItem.tproxyPorts (.chain cfg.postroutingChain) = [] := by
    simp only [NFItem.tproxyPorts, postroutingChain]
    split_ifs <;> rfl
  simp only [NFTable.tproxyPorts, buildTable, List.flatMap_append, flat_map_emit_if, counted, redirected, dropped, translated,
    tproxy, if_true, ite_self, List.append_nil]

theorem forward_chains (cfg : NFTConfig) :
    cfg.buildTable.items.filterMap (NFItem.chainAt .forward) = emitIf cfg.isolation cfg.forwardChain := by
  have counted : (if cfg.accounting then cfg.accountingItems else []).filterMap (NFItem.chainAt .forward) = [] := by
    cases cfg.accounting with
    | false => rfl
    | true =>
        simp only [if_true, accountingItems, List.filterMap_append, filter_map_emit_if]
        cases cfg.acctV4 <;> cases cfg.acctV6 <;> rfl
  simp only [buildTable, List.filterMap_append, filter_map_emit_if, counted]
  cases cfg.tproxy <;> cases cfg.isolation <;> cases cfg.masquerade <;> rfl

theorem forward_drops (cfg : NFTConfig) (handed : Int → InnerPacket → Bool) (t : Transit) (out : String) (routed : t.oif = some out) :
    cfg.buildTable.verdict handed .forward t = .drop ↔
      familySees cfg.family t.packet.dst = true ∧ cfg.isolation = true ∧
        ifnameMatches cfg.tunMatch t.iif = true ∧ ifnameMatches cfg.tunMatch out = true := by
  rw [NFTable.verdict, forward_chains]
  cases seen : familySees cfg.family t.packet.dst <;> cases isolated : cfg.isolation <;>
    cases entering : ifnameMatches cfg.tunMatch t.iif <;> cases leaving : ifnameMatches cfg.tunMatch out <;>
    simp [buildTable, seen, emitIf, combine, NFChain.verdict, forwardChain, NFRule.verdict, NFMatch.holds, NFStatement.verdict,
      routed, entering, leaving]

end NFTConfig

end Packethose
