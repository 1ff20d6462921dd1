import Mathlib.Data.Prod.Lex
import Mathlib.Data.List.Lex
import Mathlib.Data.String.Basic
import Packethose.Lib.Json
import Packethose.Accounting
import Packethose.PoolHistory

set_option autoImplicit false

namespace Packethose

namespace Addr

def bitLen : Addr → Nat
  | .zero => 0
  | .v4 _ => 32
  | .v6 _ _ => 128

def octets : Addr → List Nat
  | .zero => []
  | .v4 bytes => bytes.toList.map UInt8.toNat
  | .v6 bytes _ => bytes.toList.map UInt8.toNat

def zoneText : Addr → String
  | .v6 _ zone => zone
  | _ => ""

def order (addr : Addr) : Nat ×ₗ List Nat ×ₗ String := toLex (addr.bitLen, toLex (addr.octets, addr.zoneText))

def less (left right : Addr) : Bool := decide (left.order < right.order)

theorem order_injective (left right : Addr) (same : left.order = right.order) : left = right := by
  have width : left.bitLen = right.bitLen := congrArg (fun key => (ofLex key).1) same
  have value : left.octets = right.octets := congrArg (fun key => (ofLex (ofLex key).2).1) same
  have zone : left.zoneText = right.zoneText := congrArg (fun key => (ofLex (ofLex key).2).2) same
  have bytes : Function.Injective UInt8.toNat := fun _ _ => UInt8.toNat_inj.mp
  cases left <;> cases right <;> simp_all [bitLen, octets, zoneText]
  · exact Vector.toList_inj.mp ((List.map_injective_iff.mpr bytes) value)
  · exact Vector.toList_inj.mp ((List.map_injective_iff.mpr bytes) value)

end Addr

structure NFTElemBody where
  val : String
  counter : Option NFCounter

structure NFTElemWrap where
  elem : Option NFTElemBody

structure NFTSetDump where
  name : String
  elem : List Json

structure NFTDumpItem where
  set : Option NFTSetDump

structure NFTDump where
  nftables : List NFTDumpItem

def decodeCounter : Json.Decode NFCounter := Json.asRecord
  [Json.field "packets" NFCounter.packets (fun c packets => { c with packets := packets }) Json.asUint64,
    Json.field "bytes" NFCounter.bytes (fun c bytes => { c with bytes := bytes }) Json.asUint64]

def decodeBody : Json.Decode NFTElemBody := Json.asRecord
  [Json.field "val" NFTElemBody.val (fun body val => { body with val := val }) Json.asString,
    Json.field "counter" NFTElemBody.counter (fun body counter => { body with counter := counter })
      (Json.asPointer ⟨0, 0⟩ decodeCounter)]

def decodeWrap : Json.Decode NFTElemWrap := Json.asRecord
  [Json.field "elem" NFTElemWrap.elem (fun wrap elem => { wrap with elem := elem }) (Json.asPointer ⟨"", none⟩ decodeBody)]

def decodeSet : Json.Decode NFTSetDump := Json.asRecord
  [Json.field "name" NFTSetDump.name (fun set name => { set with name := name }) Json.asString,
    Json.field "elem" NFTSetDump.elem (fun set elem => { set with elem := elem }) (Json.asSlice .null Json.asRaw)]

def decodeItem : Json.Decode NFTDumpItem := Json.asRecord
  [Json.field "set" NFTDumpItem.set (fun item set => { item with set := set }) (Json.asPointer ⟨"", []⟩ decodeSet)]

def decodeDump : Json.Decode NFTDump := Json.asRecord
  [Json.field "nftables" NFTDump.nftables (fun dump items => { dump with nftables := items })
    (Json.asSlice ⟨none⟩ decodeItem)]

def countedEntry (go : GoLib) (val : String) (counter : NFCounter) : Option (Addr × UInt64) :=
  match go.parseAddr val with
  | .ok addr => some (addr, counter.bytes)
  | .error _ => none

-- A counted element is wrapped or, from some versions, inlined; a wrapped one
-- whose address does not parse is not tried again.
def elemEntry (go : GoLib) (raw : Json) : Option (Addr × UInt64) :=
  match decodeWrap ⟨none⟩ raw with
  | (⟨some ⟨val, some counter⟩⟩, true) => countedEntry go val counter
  | _ =>
      match decodeBody ⟨"", none⟩ raw with
      | (⟨val, some counter⟩, true) => countedEntry go val counter
      | _ => none

inductive DumpError where
  | malformed (problem : String)
  | mismatched

def parseNFTSetCounters (go : GoLib) (data : Except String Json) : Except DumpError (Table Addr UInt64) :=
  (data.mapError .malformed).bind fun json =>
    if (decodeDump ⟨[]⟩ json).2 then
      .ok (Table.merge (fun _ _ bytes => bytes) ∅
        ((decodeDump ⟨[]⟩ json).1.nftables.flatMap fun item => (item.set.map NFTSetDump.elem).getD [] |>.filterMap (elemEntry go)))
    else .error .mismatched

structure ClientStat where
  addr : Addr
  upBytes : UInt64
  downBytes : UInt64
deriving DecidableEq, Repr

inductive StatsError where
  | list (set stderr : String)
  | parse (set : String) (problem : DumpError)

abbrev NFTLister := String → String → String → Except String (Except String Json)

def ClientStat.record (up : Bool) (addr : Addr) (stat : Option ClientStat) (bytes : UInt64) : ClientStat :=
  let known := stat.getD ⟨addr, 0, 0⟩
  if up then { known with upBytes := bytes } else { known with downBytes := bytes }

structure StatJob where
  set : String
  up : Bool
  on : Bool

def NFTConfig.statJobs (cfg : NFTConfig) : List StatJob :=
  [⟨"acct_up4", true, cfg.ipv4 && cfg.poolV4.isValid⟩,
    ⟨"acct_down4", false, cfg.ipv4 && cfg.poolV4.isValid⟩,
    ⟨"acct_up6", true, cfg.ipv6 && cfg.poolV6.isValid⟩,
    ⟨"acct_down6", false, cfg.ipv6 && cfg.poolV6.isValid⟩]

namespace NFTInstaller

def listSet (n : NFTInstaller) (nft : NFTLister) (name : String) : Except StatsError (Except String Json) :=
  (nft n.cfg.family n.cfg.tableName name).mapError (.list name)

def readSet (n : NFTInstaller) (go : GoLib) (nft : NFTLister) (j : StatJob) (byAddr : Table Addr ClientStat) :
    Except StatsError (Table Addr ClientStat) :=
  (n.listSet nft j.set).bind fun out =>
    ((parseNFTSetCounters go out).mapError (.parse j.set)).map fun counters =>
      Table.merge (ClientStat.record j.up) byAddr (Table.rows counters)

def readSets (n : NFTInstaller) (go : GoLib) (nft : NFTLister) :
    List StatJob → Table Addr ClientStat → Except StatsError (Table Addr ClientStat)
  | [], byAddr => .ok byAddr
  | j :: rest, byAddr =>
      if j.on then (n.readSet go nft j byAddr).bind (n.readSets go nft rest) else n.readSets go nft rest byAddr

def sorted (stats : List ClientStat) : List ClientStat :=
  stats.insertionSort fun first second => first.addr.order ≤ second.addr.order

def stats (n : NFTInstaller) (go : GoLib) (nft : NFTLister) : Except StatsError (Option (List ClientStat)) :=
  if !n.cfg.enabled || !n.cfg.accounting then .ok none
  else (n.readSets go nft n.cfg.statJobs ∅).map fun byAddr => some (sorted ((Table.rows byAddr).map Prod.snd))

end NFTInstaller

-- How nft prints a set: its own text of an address, which elements it
-- inlines, and the information block in front.
structure SetPrinter where
  text : Addr → String
  inlined : Addr → Bool
  metainfo : Json

namespace SetPrinter

def body (printer : SetPrinter) (element : Addr × NFCounter) : Json :=
  .object [("val", .string (printer.text element.1)),
    ("counter", .object [("packets", .natural element.2.packets.toNat), ("bytes", .natural element.2.bytes.toNat)])]

def element (printer : SetPrinter) (element : Addr × NFCounter) : Json :=
  if printer.inlined element.1 then printer.body element else .object [("elem", printer.body element)]

def setFields (printer : SetPrinter) (family table name : String) (set : Table Addr NFCounter) : List (String × Json) :=
  [("family", .string family), ("name", .string name), ("table", .string table), ("flags", .array [.string "dynamic"])] ++
    emitIf (Table.size set ≠ 0) ("elem", .array ((Table.rows set).map printer.element))

def listing (printer : SetPrinter) (family table name : String) (set : Table Addr NFCounter) : Json :=
  .object [("nftables", .array
    [.object [("metainfo", printer.metainfo)], .object [("set", .object (printer.setFields family table name set))]])]

def lister (printer : SetPrinter) (table : NFTable) (sets : NFSets) : NFTLister := fun family name set =>
  if family = table.family ∧ name = table.name then
    match sets.lookup set with
    | some held => .ok (.ok (printer.listing family name set held))
    | none => .error "Error: No such file or directory"
  else .error "Error: No such file or directory"

end SetPrinter

theorem body_decoded (printer : SetPrinter) (element : Addr × NFCounter) :
    decodeBody ⟨"", none⟩ (printer.body element) = (⟨printer.text element.1, some element.2⟩, true) := by
  have val : Json.sameKey "val" "val" = true := by decide
  have counter : Json.sameKey "counter" "val" = false ∧ Json.sameKey "counter" "counter" = true := by decide
  have packets : Json.sameKey "packets" "packets" = true := by decide
  have bytes : Json.sameKey "bytes" "packets" = false ∧ Json.sameKey "bytes" "bytes" = true := by decide
  simp [decodeBody, SetPrinter.body, Json.asRecord, Json.decodeField, Json.field, val, counter, Json.asString, Json.asPointer,
    decodeCounter, packets, bytes, Json.as_uint64_natural]

theorem element_entry (go : GoLib) (printer : SetPrinter) (element : Addr × NFCounter)
    (readable : go.parseAddr (printer.text element.1) = .ok element.1) :
    elemEntry go (printer.element element) = some (element.1, element.2.bytes) := by
  have entry : countedEntry go (printer.text element.1) element.2 = some (element.1, element.2.bytes) := by
    simp [countedEntry, readable]
  have decoded := body_decoded printer element
  cases inlined : printer.inlined element.1 with
  | true =>
      have skipped : decodeWrap ⟨none⟩ (printer.body element) = (⟨none⟩, true) := by
        have keys : Json.sameKey "val" "elem" = false ∧ Json.sameKey "counter" "elem" = false := by decide
        simp [decodeWrap, SetPrinter.body, Json.asRecord, Json.decodeField, Json.field, keys]
      simp [SetPrinter.element, inlined, elemEntry, skipped, decoded, entry]
  | false =>
      have wrapped : decodeWrap ⟨none⟩ (.object [("elem", printer.body element)]) =
          (⟨some ⟨printer.text element.1, some element.2⟩⟩, true) := by
        have key : Json.sameKey "elem" "elem" = true := by decide
        unfold SetPrinter.body at decoded ⊢
        simp [decodeWrap, Json.asRecord, Json.decodeField, Json.field, key, Json.asPointer, decoded]
      simp [SetPrinter.element, inlined, elemEntry, wrapped, entry]

theorem set_decoded (printer : SetPrinter) (family table name : String) (set : Table Addr NFCounter) :
    decodeSet ⟨"", []⟩ (.object (printer.setFields family table name set)) =
      (⟨name, (Table.rows set).map printer.element⟩, true) := by
  have keys : Json.sameKey "family" "name" = false ∧ Json.sameKey "family" "elem" = false ∧ Json.sameKey "name" "name" = true ∧
      Json.sameKey "table" "name" = false ∧ Json.sameKey "table" "elem" = false ∧ Json.sameKey "flags" "name" = false ∧
      Json.sameKey "flags" "elem" = false ∧ Json.sameKey "elem" "name" = false ∧ Json.sameKey "elem" "elem" = true := by decide
  have raws : Json.items Json.null Json.asRaw [] ((Table.rows set).map printer.element) =
      ((Table.rows set).map printer.element, true) :=
    Json.items_clean Json.null Json.asRaw printer.element printer.element _ fun _ _ => rfl
  unfold SetPrinter.setFields
  by_cases empty : Table.size set = 0
  · have none : Table.rows set = [] := by simpa [Table.rows, Table.size] using empty
    simp [decodeSet, Json.asRecord, Json.decodeField, Json.field, keys, emitIf, empty, none, Json.asString]
  · simp [decodeSet, Json.asRecord, Json.decodeField, Json.field, keys, emitIf, empty, Json.asString, Json.asSlice, raws]

theorem listing_decoded (printer : SetPrinter) (family table name : String) (set : Table Addr NFCounter) :
    decodeDump ⟨[]⟩ (printer.listing family table name set) =
      (⟨[⟨none⟩, ⟨some ⟨name, (Table.rows set).map printer.element⟩⟩]⟩, true) := by
  have keys : Json.sameKey "nftables" "nftables" = true ∧ Json.sameKey "metainfo" "set" = false ∧
      Json.sameKey "set" "set" = true := by decide
  simp [SetPrinter.listing, decodeDump, decodeItem, Json.asRecord, Json.decodeField, Json.field, keys, Json.asSlice, Json.items,
    Json.asPointer, set_decoded]

theorem set_counters (go : GoLib) (printer : SetPrinter) (family table name : String) (set : Table Addr NFCounter)
    (readable : ∀ addr counter, set.lookup addr = some counter → go.parseAddr (printer.text addr) = .ok addr) :
    ∃ counters, parseNFTSetCounters go (.ok (printer.listing family table name set)) = .ok counters ∧
      ∀ addr, counters.lookup addr = (set.lookup addr).map NFCounter.bytes := by
  have entries : ((Table.rows set).map printer.element).filterMap (elemEntry go) =
      (Table.rows set).map fun element => (element.1, element.2.bytes) := by
    rw [List.filterMap_map, ← List.filterMap_eq_map]
    apply List.filterMap_congr
    intro element listed
    exact element_entry go printer element (readable _ _ ((Table.mem_rows set _ _).mp listed))
  refine ⟨Table.merge (fun _ _ bytes => bytes) ∅ ((Table.rows set).map fun element => (element.1, element.2.bytes)), ?_, ?_⟩
  · simp [parseNFTSetCounters, Except.mapError, Except.bind, listing_decoded, entries]
  · intro addr
    have keys : ((Table.rows set).map fun element => (element.1, element.2.bytes)).map Prod.fst = (Table.rows set).map Prod.fst := by
      rw [List.map_map]
      rfl
    cases found : set.lookup addr with
    | some counter =>
        apply Table.lookup_merge_listed (fun _ _ bytes => bytes)
        · rw [keys]
          exact Table.rows_keys_nodup set
        · exact List.mem_map.mpr ⟨(addr, counter), (Table.mem_rows set addr counter).mpr found, rfl⟩
    | none =>
        rw [Table.lookup_merge_unlisted]
        · rfl
        · rw [keys]
          intro member
          obtain ⟨element, listed, rfl⟩ := List.mem_map.mp member
          have present := (Table.mem_rows set element.1 element.2).mp listed
          rw [found] at present
          cases present

def NFTConfig.statJob (cfg : NFTConfig) (source : Way × NFProto) : StatJob :=
  ⟨acctSet source.1 source.2, source.1 = .up, cfg.acctOn source.2⟩

theorem stat_jobs_sources (cfg : NFTConfig) :
    cfg.statJobs = [(.up, .ip), (.down, .ip), (.up, .ip6), (.down, .ip6)].map cfg.statJob := rfl

def ClientStat.fill (sets : NFSets) (addr : Addr) (stat : Option ClientStat) (source : Way × NFProto) : Option ClientStat :=
  ((sets.bytes source.1 source.2 addr).map (ClientStat.record (source.1 = .up) addr stat)).or stat

section Reading

variable (go : GoLib) (printer : SetPrinter) (n : NFTInstaller) (sets : NFSets)
  (declared : ∀ way proto, (sets.lookup (acctSet way proto)).isSome = n.cfg.acctOn proto)
  (readable : ∀ way proto set addr counter, sets.lookup (acctSet way proto) = some set → set.lookup addr = some counter →
    go.parseAddr (printer.text addr) = .ok addr)

include readable in
theorem set_read (source : Way × NFProto) (byAddr : Table Addr ClientStat) (set : Table Addr NFCounter)
    (held : sets.lookup (acctSet source.1 source.2) = some set) :
    ∃ next, n.readSet go (printer.lister n.cfg.buildTable sets) (n.cfg.statJob source) byAddr = .ok next ∧
      ∀ addr, next.lookup addr = ClientStat.fill sets addr (byAddr.lookup addr) source := by
  obtain ⟨counters, parsed, lookups⟩ := set_counters go printer n.cfg.family n.cfg.tableName (acctSet source.1 source.2) set
    fun addr counter present => readable source.1 source.2 set addr counter held present
  have listed : n.listSet (printer.lister n.cfg.buildTable sets) (acctSet source.1 source.2) =
      .ok (.ok (printer.listing n.cfg.family n.cfg.tableName (acctSet source.1 source.2) set)) := by
    simp [NFTInstaller.listSet, SetPrinter.lister, NFTConfig.buildTable, held, Except.mapError]
  refine ⟨Table.merge (ClientStat.record (source.1 = .up)) byAddr (Table.rows counters), ?_, ?_⟩
  · simp [NFTInstaller.readSet, NFTConfig.statJob, listed, Except.bind, parsed, Except.mapError, Except.map]
  · intro addr
    rw [Table.lookup_merge _ byAddr (Table.rows counters) counters (Table.mem_rows counters) (Table.rows_keys_nodup counters),
      lookups, ClientStat.fill, NFSets.bytes, held, Option.bind_some]

include declared readable in
theorem sets_filled (sources : List (Way × NFProto)) (byAddr : Table Addr ClientStat) :
    ∃ result, n.readSets go (printer.lister n.cfg.buildTable sets) (sources.map n.cfg.statJob) byAddr = .ok result ∧
      ∀ addr, result.lookup addr = sources.foldl (ClientStat.fill sets addr) (byAddr.lookup addr) := by
  induction sources generalizing byAddr with
  | nil => exact ⟨byAddr, rfl, fun _ => rfl⟩
  | cons source rest ih =>
      have present := declared source.1 source.2
      rw [List.map_cons, NFTInstaller.readSets]
      cases held : sets.lookup (acctSet source.1 source.2) with
      | none =>
          rw [held] at present
          have off : (n.cfg.statJob source).on = false := present.symm
          obtain ⟨result, ran, lookups⟩ := ih byAddr
          rw [off, if_neg (by simp)]
          refine ⟨result, ran, fun addr => ?_⟩
          rw [lookups, List.foldl_cons, ClientStat.fill, NFSets.bytes, held]
          rfl
      | some set =>
          rw [held] at present
          have on : (n.cfg.statJob source).on = true := present.symm
          obtain ⟨next, read, filled⟩ := set_read go printer n sets readable source byAddr set held
          obtain ⟨result, ran, lookups⟩ := ih next
          rw [on, if_pos rfl, read]
          refine ⟨result, ran, fun addr => ?_⟩
          rw [lookups, filled, List.foldl_cons]

end Reading

theorem sorted_stats (byAddr : Table Addr ClientStat) (own : ∀ addr stat, byAddr.lookup addr = some stat → stat.addr = addr) :
    let result := NFTInstaller.sorted ((Table.rows byAddr).map Prod.snd)
    result.Pairwise (fun first second => first.addr.less second.addr = true) ∧
      ∀ addr, result.find? (fun stat => stat.addr = addr) = byAddr.lookup addr := by
  intro result
  have shuffled : result.Perm ((Table.rows byAddr).map Prod.snd) := List.perm_insertionSort _ _
  have member : ∀ stat, stat ∈ result ↔ byAddr.lookup stat.addr = some stat := by
    intro stat
    rw [shuffled.mem_iff, List.mem_map]
    constructor
    · rintro ⟨row, listed, rfl⟩
      have present := (Table.mem_rows byAddr row.1 row.2).mp listed
      rwa [own _ _ present]
    · intro present
      exact ⟨(stat.addr, stat), (Table.mem_rows byAddr _ _).mpr present, rfl⟩
  have addresses : ((Table.rows byAddr).map Prod.snd).map ClientStat.addr = (Table.rows byAddr).map Prod.fst := by
    rw [List.map_map]
    apply List.map_congr_left
    intro row listed
    exact own _ _ ((Table.mem_rows byAddr row.1 row.2).mp listed)
  have distinct : (result.map ClientStat.addr).Nodup := by
    rw [(shuffled.map ClientStat.addr).nodup_iff, addresses]
    exact Table.rows_keys_nodup byAddr
  constructor
  · have ordered : result.Pairwise fun first second => first.addr.order ≤ second.addr.order := List.pairwise_insertionSort _ _
    have apart : result.Pairwise fun first second => first.addr ≠ second.addr := List.pairwise_map.mp distinct
    refine (ordered.and apart).imp ?_
    rintro first second ⟨weak, different⟩
    refine decide_eq_true (lt_of_le_of_ne weak ?_)
    exact fun same => different (Addr.order_injective _ _ same)
  · intro addr
    cases found : result.find? fun stat => stat.addr = addr with
    | some stat =>
        have isOwn : stat.addr = addr := by simpa using List.find?_some found
        rw [← isOwn]
        exact ((member stat).mp (List.mem_of_find?_eq_some found)).symm
    | none =>
        cases present : byAddr.lookup addr with
        | none => rfl
        | some stat =>
            have isOwn := own addr stat present
            subst isOwn
            have missing := List.find?_eq_none.mp found stat ((member stat).mpr present)
            simp at missing

def Addr.proto (addr : Addr) : NFProto := if addr.is4 then .ip else .ip6

theorem carries_proto (proto : NFProto) (addr : Addr) (carried : proto.carries addr = true) : proto = addr.proto := by
  cases proto <;> cases addr <;> first | rfl | cases carried

theorem filled_stat (sets : NFSets) (addr : Addr)
    (own : ∀ way proto, (sets.bytes way proto addr).isSome = true → proto = addr.proto) :
    [(Way.up, NFProto.ip), (.down, .ip), (.up, .ip6), (.down, .ip6)].foldl (ClientStat.fill sets addr) none =
      if sets.bytes .up addr.proto addr = none ∧ sets.bytes .down addr.proto addr = none then none
      else some ⟨addr, (sets.bytes .up addr.proto addr).getD 0, (sets.bytes .down addr.proto addr).getD 0⟩ := by
  have foreign : ∀ way proto, proto ≠ addr.proto → sets.bytes way proto addr = none := by
    intro way proto different
    cases read : sets.bytes way proto addr with
    | none => rfl
    | some bytes => exact absurd (own way proto (by rw [read]; rfl)) different
  cases family : addr.proto with
  | ip =>
      have noUp := foreign .up .ip6 (by simp [family])
      have noDown := foreign .down .ip6 (by simp [family])
      simp only [List.foldl_cons, List.foldl_nil, ClientStat.fill, noUp, noDown]
      cases sets.bytes .up .ip addr <;> cases sets.bytes .down .ip addr <;> simp [ClientStat.record]
  | ip6 =>
      have noUp := foreign .up .ip (by simp [family])
      have noDown := foreign .down .ip (by simp [family])
      simp only [List.foldl_cons, List.foldl_nil, ClientStat.fill, noUp, noDown]
      cases sets.bytes .up .ip6 addr <;> cases sets.bytes .down .ip6 addr <;> simp [ClientStat.record]

theorem lengths_crossing (cfg : NFTConfig) (way : Way) (proto : NFProto) (crossings : List Crossing) (addr : Addr)
    (counted : cfg.lengths way proto crossings addr ≠ []) :
    ∃ c ∈ crossings, way.addr c.transit.packet = addr ∧ proto.carries addr = true := by
  obtain ⟨length, listed⟩ := List.exists_mem_of_ne_nil _ counted
  obtain ⟨entry, met, picked⟩ := List.mem_filterMap.mp listed
  obtain ⟨c, crossed, metered⟩ := List.mem_filterMap.mp met
  simp only [NFTConfig.metered] at metered
  split_ifs at metered picked with conditions same
  obtain rfl := Option.some.inj metered
  exact ⟨c, crossed, same, same ▸ conditions.2.2.2.1⟩

theorem held_crossing (cfg : NFTConfig) (handed : Int → InnerPacket → Bool) (accounting : cfg.accounting = true) (way : Way)
    (proto : NFProto) (crossings : List Crossing) (addr : Addr)
    (held : ((NFSets.after handed cfg.buildTable crossings).bytes way proto addr).isSome = true) :
    ∃ c ∈ crossings, way.addr c.transit.packet = addr ∧ proto = addr.proto := by
  have reads := sets_read cfg handed accounting way proto crossings addr
  cases read : (NFSets.after handed cfg.buildTable crossings).bytes way proto addr with
  | none =>
      rw [read] at held
      cases held
  | some bytes =>
      rw [read] at reads
      obtain ⟨c, crossed, own, carried⟩ := lengths_crossing cfg way proto crossings addr reads.1
      exact ⟨c, crossed, own, carries_proto proto addr carried⟩

namespace NFTInstaller

-- The statistics are one line for each client, in order, and each line is
-- what the client's packets add up to since the table was loaded.
theorem stats_exact (go : GoLib) (printer : SetPrinter) (n : NFTInstaller) (handed : Int → InnerPacket → Bool)
    (crossings : List Crossing) (enabled : n.cfg.enabled = true) (accounting : n.cfg.accounting = true)
    (readable : ∀ c ∈ crossings, ∀ way : Way,
      go.parseAddr (printer.text (way.addr c.transit.packet)) = .ok (way.addr c.transit.packet)) :
    ∃ entries,
      n.stats go (printer.lister n.cfg.buildTable (NFSets.after handed n.cfg.buildTable crossings)) = .ok (some entries) ∧
      entries.Pairwise (fun first second => first.addr.less second.addr = true) ∧
      ∀ addr, ∃ up down,
        entries.find? (fun stat => stat.addr = addr) =
          (if up = none ∧ down = none then none else some ⟨addr, up.getD 0, down.getD 0⟩) ∧
        n.cfg.Reads .up addr.proto crossings addr up ∧ n.cfg.Reads .down addr.proto crossings addr down := by
  have declared : ∀ way proto,
      ((NFSets.after handed n.cfg.buildTable crossings).lookup (acctSet way proto)).isSome = n.cfg.acctOn proto := by
    intro way proto
    rw [acct_sets n.cfg handed accounting]
    cases n.cfg.acctOn proto <;> rfl
  have printed : ∀ way proto set addr counter,
      (NFSets.after handed n.cfg.buildTable crossings).lookup (acctSet way proto) = some set →
      set.lookup addr = some counter → go.parseAddr (printer.text addr) = .ok addr := by
    intro way proto set addr counter isSet present
    have held : ((NFSets.after handed n.cfg.buildTable crossings).bytes way proto addr).isSome = true := by
      simp [NFSets.bytes, isSet, present]
    obtain ⟨c, crossed, own, _⟩ := held_crossing n.cfg handed accounting way proto crossings addr held
    exact own ▸ readable c crossed way
  obtain ⟨byAddr, ran, lookups⟩ := sets_filled go printer n _ declared printed
    [(.up, .ip), (.down, .ip), (.up, .ip6), (.down, .ip6)] ∅
  have filled : ∀ addr, byAddr.lookup addr = _ := fun addr => (lookups addr).trans (filled_stat _ addr fun way proto held => by
    obtain ⟨_, _, _, family⟩ := held_crossing n.cfg handed accounting way proto crossings addr held
    exact family)
  have own : ∀ addr stat, byAddr.lookup addr = some stat → stat.addr = addr := by
    intro addr stat present
    rw [filled addr] at present
    split_ifs at present
    exact (Option.some.inj present) ▸ rfl
  obtain ⟨ordered, found⟩ := sorted_stats byAddr own
  refine ⟨sorted ((Table.rows byAddr).map Prod.snd), ?_, ordered, fun addr => ⟨_, _, (found addr).trans (filled addr), ?_, ?_⟩⟩
  · rw [stats, enabled, accounting, if_neg (by simp), stat_jobs_sources, ran]
    rfl
  · exact sets_read n.cfg handed accounting .up addr.proto crossings addr
  · exact sets_read n.cfg handed accounting .down addr.proto crossings addr

end NFTInstaller

def acctInstaller : NFTInstaller where
  cfg :=
    { enabled := true
      family := "inet"
      tableName := "packethose"
      tunMatch := "phose-*"
      isolation := true
      masquerade := true
      egressInterface := ""
      tproxy := false
      tproxyPort := 0
      tproxyMark := 0
      routeTable := 0
      ipv4 := true
      ipv6 := false
      serverIP4 := tunnelAddr 1
      serverIP6 := .zero
      accounting := true
      poolV4 := tunnelNet 24
      poolV6 := .invalid }

def acctLib : GoLib where
  quote text := text
  decodeBase64 _ := none
  decodeHex _ := .error ""
  parseAddr text := if text = "10.66.0.10" then .ok (tunnelAddr 10) else .ok (tunnelAddr 99)
  parseSubnet _ := .error ""
  addrText _ := ""
  subnetText _ := ""

def acctPrinter : SetPrinter where
  text addr := if addr = tunnelAddr 10 then "10.66.0.10" else "10.66.0.99"
  inlined _ := false
  metainfo := .object [("version", .string "1.0.9")]

def acctCrossings : List Crossing :=
  let sent : InnerPacket := ⟨tunnelAddr 10, tunnelAddr 99, 17⟩
  let received : InnerPacket := ⟨tunnelAddr 99, tunnelAddr 10, 17⟩
  [⟨.prerouting, ⟨sent, "phose-ab", none⟩, 60⟩, ⟨.prerouting, ⟨sent, "phose-ab", none⟩, 40⟩,
    ⟨.postrouting, ⟨received, "eth0", some "phose-ab"⟩, 1500⟩]

theorem stats_exact_neighbours :
    ∃ entries,
      acctInstaller.stats acctLib (acctPrinter.lister acctInstaller.cfg.buildTable
        (NFSets.after (fun _ _ => false) acctInstaller.cfg.buildTable acctCrossings)) = .ok (some entries) ∧
      entries.Pairwise (fun first second => first.addr.less second.addr = true) ∧
      entries.find? (fun stat => stat.addr = tunnelAddr 10) = some ⟨tunnelAddr 10, 100, 1500⟩ := by
  have readable : ∀ c ∈ acctCrossings, ∀ way : Way,
      acctLib.parseAddr (acctPrinter.text (way.addr c.transit.packet)) = .ok (way.addr c.transit.packet) := by
    intro c crossed way
    simp only [acctCrossings, List.mem_cons, List.not_mem_nil, or_false] at crossed
    rcases crossed with rfl | rfl | rfl <;> cases way <;> rfl
  obtain ⟨entries, read, ordered, lines⟩ := NFTInstaller.stats_exact acctLib acctPrinter acctInstaller (fun _ _ => false) acctCrossings
    rfl rfl readable
  refine ⟨entries, read, ordered, ?_⟩
  obtain ⟨up, down, line, ups, downs⟩ := lines (tunnelAddr 10)
  have sent : acctInstaller.cfg.lengths .up (tunnelAddr 10).proto acctCrossings (tunnelAddr 10) = [60, 40] := by decide
  have received : acctInstaller.cfg.lengths .down (tunnelAddr 10).proto acctCrossings (tunnelAddr 10) = [1500] := by decide
  have room : ¬ acctInstaller.cfg.Crowded .up (tunnelAddr 10).proto acctCrossings ∧
      ¬ acctInstaller.cfg.Crowded .down (tunnelAddr 10).proto acctCrossings := by
    unfold NFTConfig.Crowded
    decide
  cases up with
  | none => simp [NFTConfig.Reads, sent, room] at ups
  | some upBytes =>
      cases down with
      | none => simp [NFTConfig.Reads, received, room] at downs
      | some downBytes =>
          obtain rfl : upBytes = 100 := by rw [ups.2, sent]; rfl
          obtain rfl : downBytes = 1500 := by rw [downs.2, received]; rfl
          simpa using line

end Packethose
