import Tiger.Analysis.ManagerTable

/-!
# Who reaches a management port

Once `_setup` has opened the chain of a server, a packet to a guarded port gets the
verdict of that chain, whatever earlier runs of `_setup` and `_shut` left behind:
every rule they put into `INPUT` jumps to the same chain (`screened_run`), so one
match is enough and no match decides otherwise (`accepted_after_setup`).

`access_control_iff` compares the ports that are guarded with the ports `_service`
listens on. They differ when the configuration has no port at all: the service then
falls back to a default port for which no jump was inserted. They differ as well when
`iptables` and the server do not read a port text alike; with plain decimal numbers they
do (`covered_iff_of_decimal`). And the managers that get a rule differ from those of the
configuration when their text does not fit the line buffer it is cut in.
-/

set_option autoImplicit false

namespace Tiger.Analysis.ManagerAccess

open Tiger.Library Tiger.Model Tiger.Model.Manager Tiger.Analysis.ManagerTable

/-! ## What the configuration asks for -/

/-- The non-empty manager entries of a value: the texts of a table, or the parts of a text
between semicolons. -/
def entriesOfManager : Option Talk → List String
  | none => []
  | some (.text s) => ((s.toList.splitOn ';').filter (· ≠ [])).map String.ofList
  | some (.json es) => (es.filterMap fun e => xText (some e.2)).filter (· ≠ "")

/-- The manager entries of a configuration. -/
def managerEntries (cfg : Option Talk) : List String :=
  entriesOfManager (jsonValue cfg "manager")

/-- A text cut to the `LINE_MAX - 1` bytes of its buffer. -/
def cutToBuffer : Talk → Talk
  | .text s => .text (String.ofList (s.toList.take (lineMax - 1)))
  | .json es => .json es

/-- The manager entries that are left when a manager text is cut to its buffer. -/
def keptEntries (cfg : Option Talk) : List String :=
  entriesOfManager ((jsonValue cfg "manager").map cutToBuffer)

/-- An entry names a packet by its source address or its MAC address. -/
def Names (e : String) (p : Packet) : Prop :=
  inetPton e = some p.source ∨ macText e = some p.mac

/-- Some entry names the packet. -/
def Listed (entries : List String) (p : Packet) : Prop := ∃ e ∈ entries, Names e p

/-- The port texts that the configuration sets. -/
def portTexts (s : Server) (cfg : Option Talk) : List String :=
  let ports := match s with
    | .admin => [jsonString cfg "port", jsonString cfg "sslport"]
    | _ => [jsonString cfg "port"]
  ports.filterMap fun port => if isSet port then some (port.getD "") else none

/-- `iptables` reads one of the port texts of the configuration as a range that holds the port. -/
def Covered (rd : PortReadings) (s : Server) (cfg : Option Talk) (n : ℕ) : Prop :=
  ∃ l ∈ portTexts s cfg, ∃ r ∈ rd.dport l, r.holds n = true

instance (e : String) (p : Packet) : Decidable (Names e p) :=
  inferInstanceAs (Decidable (_ ∨ _))

instance (entries : List String) (p : Packet) : Decidable (Listed entries p) :=
  inferInstanceAs (Decidable (∃ e ∈ entries, Names e p))

variable {α : Type} [DecidableEq α] (rd : PortReadings) (other : α → Packet → Bool)

/-- A table without the server's chain, in which no rule of `INPUT` matches the packet. -/
def Foreign (s : Server) (p : Packet) (t : FilterTable α) : Prop :=
  t.rules s.chain = none ∧
    ∃ rs, t.rules inputChain = some rs ∧ ∀ r ∈ rs, r.cond.sat other p = false

/-- The decision of `INPUT`, with policy ACCEPT. -/
def accepted (t : FilterTable α) (p : Packet) : Prop :=
  t.verdict (Match.sat other) .accept inputChain p = .accept

/-- Access control on the port `n`: after any runs of `_setup` and `_shut` and a last
`_setup`, exactly the managers reach it. -/
def AccessHolds (s : Server) (found : Bool) (cfg : Option Talk) (n : ℕ) : Prop :=
  ∀ (t : FilterTable α) (ops : List ServerOp) (p : Packet), Foreign other s p t →
    p.tcp = true → p.dport = n →
    (accepted other (s.setup rd found cfg (s.run rd ops t)) p ↔ Listed (managerEntries cfg) p)

/-! ## The managers that get a rule -/

/-- The empty entry names no packet. -/
theorem not_names_empty (p : Packet) : ¬ Names "" p := by
  have hip : inetPton "" = none := by decide
  have hmac : macText "" = none := by decide
  unfold Names
  rw [hip, hmac]
  simp

/-- Only the non-empty segments name anybody. -/
theorem listed_filter (segs : List (List Char)) (p : Packet) :
    Listed (segs.map String.ofList) p ↔
      Listed ((segs.filter (· ≠ [])).map String.ofList) p := by
  unfold Listed
  simp only [List.mem_map, List.mem_filter, decide_eq_true_eq]
  constructor
  · rintro ⟨_, ⟨seg, hseg, rfl⟩, hnames⟩
    have hne : seg ≠ [] := by
      rintro rfl
      exact not_names_empty p hnames
    exact ⟨_, ⟨seg, ⟨hseg, hne⟩, rfl⟩, hnames⟩
  · rintro ⟨_, ⟨seg, ⟨hseg, -⟩, rfl⟩, hnames⟩
    exact ⟨_, ⟨seg, hseg, rfl⟩, hnames⟩

/-- The texts of a table the loop comes to are its entries. -/
theorem filterMap_isSet (es : List (String × Talk)) :
    (es.filterMap fun axp => if isSet (xText (some axp.2)) then xText (some axp.2) else none) =
      entriesOfManager (some (.json es)) := by
  change _ = (es.filterMap fun e => xText (some e.2)).filter (· ≠ "")
  rw [List.filter_filterMap]
  congr 1
  funext e
  cases xText (some e.2) with
  | none => rfl
  | some ptr =>
    unfold isSet
    rw [Option.getD_some]
    by_cases hptr : ptr = ""
    · rw [hptr]
      rfl
    · simp [hptr, Option.filter]

/-- The texts of the loops name the managers of the cut configuration. -/
theorem listed_managerTexts (cfg : Option Talk) (p : Packet) :
    Listed (managerTexts cfg) p ↔ Listed (keptEntries cfg) p := by
  unfold managerTexts keptEntries jsonString
  cases jsonValue cfg "manager" with
  | none => rfl
  | some v =>
    cases v with
    | text s =>
      have hsplit := filter_tokLoop ';' [] (s.toList.take (lineMax - 1))
      rw [List.splitOnPPrepend_nil_right] at hsplit
      have hkept : entriesOfManager (some (.text (String.ofList (s.toList.take (lineMax - 1))))) =
          ((tokLoop ';' [] (s.toList.take (lineMax - 1))).filter (· ≠ [])).map String.ofList := by
        change ((List.splitOn ';' _).filter (· ≠ [])).map String.ofList = _
        rw [String.toList_ofList, hsplit]
        rfl
      change Listed (if isSet (some s) then tokSegments ';' s else []) p ↔
        Listed (entriesOfManager (some (.text (String.ofList (s.toList.take (lineMax - 1)))))) p
      rw [hkept, ← listed_filter]
      by_cases hs : s = ""
      · rw [hs]
        rfl
      · have hset : isSet (some s) = true := by simpa [isSet] using hs
        rw [if_pos hset]
        rfl
    | json es =>
      change Listed (es.filterMap _) p ↔ Listed (entriesOfManager (some (.json es))) p
      rw [← filterMap_isSet]

/-- A configuration with a manager entry makes the loops run. -/
theorem managerTexts_ne_nil {cfg : Option Talk} (h : managerEntries cfg ≠ []) :
    managerTexts cfg ≠ [] := by
  unfold managerEntries at h
  unfold managerTexts jsonString
  cases hv : jsonValue cfg "manager" with
  | none =>
    rw [hv] at h
    exact absurd rfl h
  | some v =>
    rw [hv] at h
    cases v with
    | text s =>
      have hs : s ≠ "" := by
        rintro rfl
        exact absurd (by decide) h
      have hset : isSet (some s) = true := by simpa [isSet] using hs
      change (if isSet (some s) then tokSegments ';' s else []) ≠ []
      rw [if_pos hset]
      exact tokSegments_ne_nil ';' hs
    | json es =>
      rw [← filterMap_isSet] at h
      exact h

omit [DecidableEq α] in
/-- A rule of the chain matches exactly the packets its text names. -/
theorem managerMatch_sat (texts : List String) (p : Packet) :
    (∃ m ∈ texts.filterMap (managerMatch α), m.sat other p = true) ↔ Listed texts p := by
  have hone : ∀ e, (∃ m, managerMatch α e = some m ∧ m.sat other p = true) ↔ Names e p := by
    intro e
    unfold managerMatch Names
    cases hip : inetPton e with
    | some ip =>
      have hmac : macText e = none := macText_of_inetPton hip
      rw [hmac]
      constructor
      · rintro ⟨_, ⟨rfl⟩, hsat⟩
        exact Or.inl (congrArg some (beq_iff_eq.mp hsat).symm)
      · rintro (⟨⟨rfl⟩⟩ | ⟨⟨⟩⟩)
        exact ⟨_, rfl, beq_self_eq_true _⟩
    | none =>
      constructor
      · rintro ⟨m, hm, hsat⟩
        obtain ⟨mac, hmac, rfl⟩ := Option.map_eq_some_iff.mp hm
        rw [hmac]
        exact Or.inr (congrArg some (beq_iff_eq.mp hsat).symm)
      · rintro (⟨⟨⟩⟩ | hmac)
        rw [hmac]
        exact ⟨_, rfl, beq_self_eq_true _⟩
  unfold Listed
  constructor
  · rintro ⟨m, hm, hsat⟩
    obtain ⟨e, he, hem⟩ := List.mem_filterMap.mp hm
    exact ⟨e, he, (hone e).mp ⟨m, hem, hsat⟩⟩
  · rintro ⟨e, he, hnames⟩
    obtain ⟨m, hem, hsat⟩ := (hone e).mpr hnames
    exact ⟨m, List.mem_filterMap.mpr ⟨e, he, hem⟩, hsat⟩

/-- A table is never cut, and neither is a text that fits the buffer. -/
theorem keptEntries_eq {cfg : Option Talk}
    (h : ∀ s, jsonString cfg "manager" = some s → s.toList.length < lineMax) :
    keptEntries cfg = managerEntries cfg := by
  unfold keptEntries managerEntries
  unfold jsonString at h
  cases hv : jsonValue cfg "manager" with
  | none => rfl
  | some v =>
    cases v with
    | text s =>
      rw [hv] at h
      have hlen : s.toList.length ≤ lineMax - 1 := by
        have hlt := h s rfl
        omega
      rw [Option.map_some, cutToBuffer, List.take_of_length_le hlen, String.ofList_toList]
    | json es => rfl

/-! ## What earlier runs leave behind -/

/-- Every rule of `INPUT` that matches the packet jumps to the server's chain. -/
def Screened (s : Server) (p : Packet) (t : FilterTable α) : Prop :=
  ∃ rs, t.rules inputChain = some rs ∧
    ∀ r ∈ rs, r.cond.sat other p = true → r.target = .jump s.chain

omit [DecidableEq α] in
/-- Where no rule matches, none leads elsewhere. -/
theorem screened_of_foreign {s : Server} {p : Packet} {t : FilterTable α}
    (h : Foreign other s p t) : Screened other s p t := by
  obtain ⟨-, rs, hrs, hmatch⟩ := h
  refine ⟨rs, hrs, ?_⟩
  intro r hr hsat
  rw [hmatch r hr] at hsat
  cases hsat

/-- One run of `_setup` or `_shut` only adds jumps to the server's chain. -/
theorem screened_step {s : Server} {p : Packet} {t : FilterTable α} (op : ServerOp)
    (h : Screened other s p t) : Screened other s p (s.step rd t op) := by
  obtain ⟨rs, hrs, hjump⟩ := h
  cases op with
  | setup found cfg =>
    change Screened other s p (s.setup rd found cfg t)
    by_cases hopens : opens s found cfg = true
    · refine ⟨(guardPorts rd s cfg).foldl (reinsert s.chain) rs, ?_, ?_⟩
      · rw [rules_setup rd t inputChain hopens, if_neg (chain_ne_input s).symm, if_pos rfl, hrs]
        rfl
      · intro r hr hsat
        rcases (mem_foldl_reinsert _ _ r).mp hr with hr | ⟨ports, -, rfl⟩
        · exact hjump r hr hsat
        · rfl
    · rw [setup_of_not_opens rd t (Bool.eq_false_iff.mpr hopens)]
      exact ⟨rs, hrs, hjump⟩
  | shut =>
    refine ⟨rs.erase (bareJump α s.chain), ?_, ?_⟩
    · change (s.shut t).rules inputChain = _
      rw [rules_shut_of_ne t (chain_ne_input s).symm, if_pos rfl, hrs]
      rfl
    · intro r hr hsat
      exact hjump r (List.mem_of_mem_erase hr) hsat

/-- The same for any sequence of runs. -/
theorem screened_run {s : Server} {p : Packet} {t : FilterTable α} (ops : List ServerOp)
    (h : Screened other s p t) : Screened other s p (s.run rd ops t) := by
  induction ops generalizing t with
  | nil => exact h
  | cons op ops ih => exact ih (screened_step rd other op h)

/-! ## The verdict after setup -/

/-- A rule of `INPUT` matches the packet. -/
def Struck (p : Packet) (t : FilterTable α) : Prop :=
  ∃ rs, t.rules inputChain = some rs ∧ ∃ r ∈ rs, r.cond.sat other p = true

omit [DecidableEq α] in
/-- A jump meets the packets to the ports of its range. -/
theorem jump_sat (chain : String) (r : PortRange) (p : Packet) (htcp : p.tcp = true) :
    (jump α chain r).cond.sat other p = r.holds p.dport := by
  change (p.tcp && r.holds p.dport) = r.holds p.dport
  rw [htcp, Bool.true_and]

/-- **The verdict.** When `_setup` opens the chain, a packet is accepted unless a jump meets
it, an old one or that of a guarded port, and no manager's text names it. -/
theorem accepted_after_setup {s : Server} {found : Bool} {cfg : Option Talk} {p : Packet}
    {t : FilterTable α} (hopens : opens s found cfg = true) (hscreen : Screened other s p t)
    (htcp : p.tcp = true) :
    accepted other (s.setup rd found cfg t) p ↔
      (Struck other p t ∨ (∃ r ∈ guardPorts rd s cfg, r.holds p.dport = true) →
        Listed (managerTexts cfg) p) := by
  obtain ⟨rs, hrs, hjump⟩ := hscreen
  have hinput : (s.setup rd found cfg t).rules inputChain =
      some ((guardPorts rd s cfg).foldl (reinsert s.chain) rs) := by
    rw [rules_setup rd t inputChain hopens, if_neg (chain_ne_input s).symm, if_pos rfl, hrs]
    rfl
  have hchain : (s.setup rd found cfg t).rules s.chain =
      some (((managerTexts cfg).filterMap (managerMatch α)).map (fun m => ⟨m, .accept⟩) ++
        [⟨.any, .drop⟩]) := by
    rw [rules_setup rd t s.chain hopens, if_pos rfl]
    rfl
  have htarget : ∀ r ∈ (guardPorts rd s cfg).foldl (reinsert s.chain) rs,
      r.cond.sat other p = true → r.target = .jump s.chain := by
    intro r hr hsat
    rcases (mem_foldl_reinsert _ _ r).mp hr with hr | ⟨ports, -, rfl⟩
    · exact hjump r hr hsat
    · rfl
  have hstruck : (∃ r ∈ (guardPorts rd s cfg).foldl (reinsert s.chain) rs,
      r.cond.sat other p = true) ↔
        Struck other p t ∨ ∃ r ∈ guardPorts rd s cfg, r.holds p.dport = true := by
    constructor
    · rintro ⟨r, hr, hsat⟩
      rcases (mem_foldl_reinsert _ _ r).mp hr with hr | ⟨ports, hmem, rfl⟩
      · exact Or.inl ⟨rs, hrs, r, hr, hsat⟩
      · rw [jump_sat other _ ports p htcp] at hsat
        exact Or.inr ⟨ports, hmem, hsat⟩
    · rintro (⟨rs', hrs', r, hr, hsat⟩ | ⟨r, hr, hholds⟩)
      · rw [hrs, Option.some.injEq] at hrs'
        subst hrs'
        exact ⟨r, (mem_foldl_reinsert _ _ r).mpr (Or.inl hr), hsat⟩
      · refine ⟨jump α s.chain r, ?_, ?_⟩
        · exact (mem_foldl_reinsert _ _ _).mpr (Or.inr ⟨r, hr, rfl⟩)
        · rw [jump_sat other _ r p htcp, hholds]
  unfold accepted
  rw [Table.verdict_of_guarded (chain_ne_input s).symm hinput hchain rfl htarget, hstruck,
    managerMatch_sat]

/-! ## Guarded ports and listening ports -/

/-- The port texts that are printed into jumps are the ones of the configuration, and for the
terminal servers what is printed of a port that is not set. -/
theorem mem_guardTexts_iff (s : Server) (cfg : Option Talk) (l : String) :
    l ∈ guardTexts s cfg ↔
      l ∈ portTexts s cfg ∨ (s ≠ .admin ∧ isSet (jsonString cfg "port") = false ∧
        l = (jsonString cfg "port").getD "(null)") := by
  have htty : l = (jsonString cfg "port").getD "(null)" ↔
      l ∈ [jsonString cfg "port"].filterMap
          (fun port => if isSet port then some (port.getD "") else none) ∨
        (isSet (jsonString cfg "port") = false ∧ l = (jsonString cfg "port").getD "(null)") := by
    cases hp : jsonString cfg "port" with
    | none => simp [isSet]
    | some port => by_cases hport : port = "" <;> simp [isSet, hport]
  cases s with
  | admin => simp [guardTexts, portTexts]
  | ssh => simpa [guardTexts, portTexts] using htty
  | telnet => simpa [guardTexts, portTexts] using htty

/-- A text that stands for a port that is not set gets no jump. -/
theorem mem_guardPorts_iff (hrd : rd.Lawful) (s : Server) (cfg : Option Talk) (r : PortRange) :
    r ∈ guardPorts rd s cfg ↔ ∃ l ∈ portTexts s cfg, rd.dport l = some r := by
  unfold guardPorts
  rw [List.mem_filterMap]
  constructor
  · rintro ⟨l, hl, hr⟩
    rcases (mem_guardTexts_iff s cfg l).mp hl with hl | ⟨-, hunset, rfl⟩
    · exact ⟨l, hl, hr⟩
    · exfalso
      cases hp : jsonString cfg "port" with
      | none =>
        rw [hp, Option.getD_none, hrd.dport_null] at hr
        cases hr
      | some port =>
        have hempty : port = "" := by
          rw [hp] at hunset
          simpa [isSet] using hunset
        rw [hp, Option.getD_some, hempty, hrd.dport_empty] at hr
        cases hr
  · rintro ⟨l, hl, hr⟩
    exact ⟨l, (mem_guardTexts_iff s cfg l).mpr (Or.inl hl), hr⟩

/-- A port is covered exactly when iptables reads it from one of the guarded texts. -/
theorem covered_iff (hrd : rd.Lawful) (s : Server) (cfg : Option Talk) (n : ℕ) :
    Covered rd s cfg n ↔ ∃ r ∈ guardPorts rd s cfg, r.holds n = true := by
  unfold Covered
  constructor
  · rintro ⟨l, hl, r, hr, hholds⟩
    exact ⟨r, (mem_guardPorts_iff rd hrd s cfg r).mpr ⟨l, hl, hr⟩, hholds⟩
  · rintro ⟨r, hr, hholds⟩
    obtain ⟨l, hl, hr⟩ := (mem_guardPorts_iff rd hrd s cfg r).mp hr
    exact ⟨l, hl, r, hr, hholds⟩

/-- With a port in the configuration, the service is handed port texts of the configuration
only. -/
theorem listenTexts_set {s : Server} {found : Bool} {cfg : Option Talk} {l : String}
    (hset : portTexts s cfg ≠ []) (hl : l ∈ s.listenTexts found cfg) : l ∈ portTexts s cfg := by
  have htty : ∀ default, [jsonString cfg "port"].filterMap
        (fun port => if isSet port then some (port.getD "") else none) ≠ [] →
      l ∈ ttyListenTexts default found cfg → l ∈ [jsonString cfg "port"].filterMap
        (fun port => if isSet port then some (port.getD "") else none) := by
    intro default hset hl
    unfold ttyListenTexts at hl
    by_cases hport : isSet (jsonString cfg "port") = true
    · dsimp only at hl
      rw [if_pos hport] at hl
      split at hl
      · cases hl
      · simpa [hport] using hl
    · exact absurd (by simp [hport]) hset
  cases s with
  | admin =>
    change l ∈ adminListenTexts cfg at hl
    unfold adminListenTexts at hl
    unfold portTexts at hset ⊢
    grind
  | ssh => exact htty "22" hset hl
  | telnet => exact htty "23" hset hl

/-- Where the port texts are plain decimal numbers, a port the service listens on is covered
exactly when the configuration has a port. -/
theorem covered_iff_of_decimal (hrd : rd.Lawful) {s : Server} {found : Bool}
    {cfg : Option Talk} {n : ℕ} (hn : n ∈ s.listen rd found cfg)
    (hdecimal : ∀ l ∈ portTexts s cfg, ∃ k : ℕ, 0 < k ∧ k < 65536 ∧ l = toString k) :
    Covered rd s cfg n ↔ portTexts s cfg ≠ [] := by
  constructor
  · rintro ⟨l, hl, -⟩
    exact List.ne_nil_of_mem hl
  · intro hset
    obtain ⟨l, hl, hlisten⟩ := List.mem_filterMap.mp hn
    have htext : l ∈ portTexts s cfg := listenTexts_set hset hl
    obtain ⟨k, hpos, hlt, rfl⟩ := hdecimal l htext
    rw [hrd.listen_decimal s k hpos hlt, Option.some.injEq] at hlisten
    subst hlisten
    refine ⟨_, htext, ⟨k, k⟩, hrd.dport_decimal k hpos hlt, ?_⟩
    simp [PortRange.holds]

/-- A server that listens and has a manager opens its chain. -/
theorem opens_of_listen {s : Server} {found : Bool} {cfg : Option Talk} {n : ℕ}
    (henabled : enabled cfg = true) (hentries : managerEntries cfg ≠ [])
    (hn : n ∈ s.listen rd found cfg) : opens s found cfg = true := by
  have hfound : (found || s = .admin) = true := by
    cases s with
    | admin => simp
    | ssh =>
      cases found with
      | true => rfl
      | false => simp [Server.listen, Server.listenTexts, sshListenTexts, ttyListenTexts] at hn
    | telnet =>
      cases found with
      | true => rfl
      | false => simp [Server.listen, Server.listenTexts, telnetListenTexts, ttyListenTexts] at hn
  unfold opens
  rw [hfound, henabled]
  simpa using managerTexts_ne_nil hentries

/-! ## Access control -/

/-- A configuration whose `_setup` inserts the jump for the port text `l`. -/
def portConfig (l : String) : Option Talk :=
  some (.json [("status", .text "enable"), ("port", .text l), ("manager", .text "-")])

/-- These configurations open the server. -/
theorem opens_portConfig (s : Server) (l : String) : opens s true (portConfig l) = true := by
  have hentries : managerEntries (portConfig l) ≠ [] := by
    change entriesOfManager (some (.text "-")) ≠ []
    decide
  have henabled : enabled (portConfig l) = true := rfl
  unfold opens
  rw [henabled]
  simpa using managerTexts_ne_nil hentries

/-- Its jump is inserted when `iptables` reads the text. -/
theorem mem_guardPorts_portConfig (hrd : rd.Lawful) (s : Server) {l : String} {r : PortRange}
    (hl : rd.dport l = some r) : r ∈ guardPorts rd s (portConfig l) := by
  have hport : jsonString (portConfig l) "port" = some l := rfl
  have hset : isSet (some l) = true := by
    unfold isSet
    rw [Option.getD_some, decide_eq_true_eq]
    rintro rfl
    rw [hrd.dport_empty] at hl
    cases hl
  have htext : l ∈ portTexts s (portConfig l) := by
    unfold portTexts
    cases s <;> simp [hport, hset]
  exact (mem_guardPorts_iff rd hrd s _ r).mpr ⟨l, htext, hl⟩

omit [DecidableEq α] in
/-- The empty table has no chain of a server and no rule. -/
theorem foreign_emptyTable (s : Server) (p : Packet) :
    Foreign other s p (emptyTable α) := by
  refine ⟨?_, [], ?_, ?_⟩
  · rw [rules_emptyTable, if_neg (chain_ne_input s)]
  · rw [rules_emptyTable, if_pos rfl]
  · intro r hr
    cases hr

omit [DecidableEq α] in
/-- No rule of the empty table matches. -/
theorem not_struck_emptyTable (p : Packet) : ¬ Struck other p (emptyTable α) := by
  rintro ⟨rs, hrs, r, hr, -⟩
  rw [rules_emptyTable, if_pos rfl, Option.some.injEq] at hrs
  subst hrs
  cases hr

/-- After `_setup` has run with the port `n`, a rule of `INPUT` matches the packets to it. -/
theorem struck_portConfig (hrd : rd.Lawful) (s : Server) {l : String} {r : PortRange} {p : Packet}
    (hl : rd.dport l = some r) (hholds : r.holds p.dport = true) (htcp : p.tcp = true) :
    Struck other p (s.setup rd true (portConfig l) (emptyTable α)) := by
  have hrules : (s.setup rd true (portConfig l) (emptyTable α)).rules inputChain =
      some ((guardPorts rd s (portConfig l)).foldl (reinsert s.chain) []) := by
    rw [rules_setup rd _ _ (opens_portConfig s l), if_neg (chain_ne_input s).symm, if_pos rfl,
      rules_emptyTable, if_pos rfl]
    rfl
  have hmem : jump α s.chain r ∈
      (guardPorts rd s (portConfig l)).foldl (reinsert s.chain) [] := by
    rw [mem_foldl_reinsert]
    exact Or.inr ⟨r, mem_guardPorts_portConfig rd hrd s hl, rfl⟩
  refine ⟨_, hrules, _, hmem, ?_⟩
  rw [jump_sat other s.chain r p htcp, hholds]

/-- The same packet sent to the port `n`. -/
def sentTo (n : ℕ) (p : Packet) : Packet := { p with tcp := true, dport := n }

/-- Access control on a port forces the cut to leave the same managers: a jump for the port may
stand from an earlier run, and then the chain decides. -/
theorem listed_kept_of_access (hrd : rd.Lawful) {s : Server} {found : Bool} {cfg : Option Talk}
    {n : ℕ} (hopens : opens s found cfg = true) (hpos : 0 < n) (hlt : n < 65536)
    (haccess : AccessHolds rd other s found cfg n) (p : Packet) :
    Listed (keptEntries cfg) p ↔ Listed (managerEntries cfg) p := by
  let earlier : List ServerOp := [.setup true (portConfig (toString n))]
  have hforeign : Foreign other s (sentTo n p) (emptyTable α) := foreign_emptyTable other s _
  have hstruck : Struck other (sentTo n p) (s.run rd earlier (emptyTable α)) := by
    apply struck_portConfig rd other hrd s (hrd.dport_decimal n hpos hlt) _ rfl
    simp [PortRange.holds, sentTo]
  have hscreen := screened_run rd other earlier (screened_of_foreign other hforeign)
  have hverdict := accepted_after_setup rd other hopens hscreen rfl
  have hsent := haccess (emptyTable α) earlier (sentTo n p) hforeign rfl rfl
  have htexts : Listed (managerTexts cfg) (sentTo n p) ↔
      Listed (managerEntries cfg) (sentTo n p) := by
    rw [← hsent, hverdict]
    simp [hstruck]
  exact (listed_managerTexts cfg (sentTo n p)).symm.trans htexts

/-- Access control on a port that is not covered forces everybody to be a manager: nothing
guards the port in a fresh table. -/
theorem listed_of_access (hrd : rd.Lawful) {s : Server} {found : Bool} {cfg : Option Talk} {n : ℕ}
    (hopens : opens s found cfg = true) (hset : ¬ Covered rd s cfg n)
    (haccess : AccessHolds rd other s found cfg n) (p : Packet) :
    Listed (managerEntries cfg) p := by
  have hforeign : Foreign other s (sentTo n p) (emptyTable α) := foreign_emptyTable other s _
  have hverdict := accepted_after_setup rd other hopens (screened_of_foreign other hforeign)
    (rfl : (sentTo n p).tcp = true)
  have hsent := haccess (emptyTable α) [] (sentTo n p) hforeign rfl rfl
  have hlisted : Listed (managerEntries cfg) (sentTo n p) := by
    apply hsent.mp
    apply hverdict.mpr
    rintro (hstruck | hport)
    · exact absurd hstruck (not_struck_emptyTable other _)
    · exact absurd ((covered_iff rd hrd s cfg n).mpr hport) hset
  exact hlisted

/-- **Access control.** For an enabled configuration with a manager entry and a port the
service listens on, exactly the managers reach that port, whatever earlier runs left behind,
if and only if cutting the manager text to the line buffer leaves the same managers, and the
port is covered by a port text or everybody is a manager. -/
theorem access_control_iff (hrd : rd.Lawful) (s : Server) (found : Bool) (cfg : Option Talk)
    (n : ℕ) (henabled : enabled cfg = true) (hentries : managerEntries cfg ≠ [])
    (hn : n ∈ s.listen rd found cfg) :
    AccessHolds rd other s found cfg n ↔
      (∀ p, Listed (keptEntries cfg) p ↔ Listed (managerEntries cfg) p) ∧
      (Covered rd s cfg n ∨ ∀ p, Listed (managerEntries cfg) p) := by
  have hopens : opens s found cfg = true := opens_of_listen rd henabled hentries hn
  constructor
  · intro haccess
    obtain ⟨l, -, hl⟩ := List.mem_filterMap.mp hn
    obtain ⟨hpos, hlt⟩ := hrd.listen_bounds s l n hl
    refine ⟨listed_kept_of_access rd other hrd hopens hpos hlt haccess, ?_⟩
    by_cases hcovered : Covered rd s cfg n
    · exact Or.inl hcovered
    · exact Or.inr (listed_of_access rd other hrd hopens hcovered haccess)
  · rintro ⟨hkept, hcover⟩ t ops p hforeign htcp hport
    have hscreen := screened_run rd other ops (screened_of_foreign other hforeign)
    rw [accepted_after_setup rd other hopens hscreen htcp, listed_managerTexts, hkept]
    constructor
    · intro hverdict
      rcases hcover with hcovered | hall
      · apply hverdict
        rw [hport]
        exact Or.inr ((covered_iff rd hrd s cfg n).mp hcovered)
      · exact hall p
    · intro hlisted _
      exact hlisted

/-- The administration pages on port 80 for one address. -/
def oneManager : Option Talk :=
  some (.json [("status", .text "enable"), ("port", .text "80"),
    ("manager", .text "192.168.1.10")])

/-- The web server with one manager, on its port 80. -/
theorem access_control_admin_port_80 :
    AccessHolds decimalReadings (fun t : Empty => t.elim) .admin false oneManager 80 := by
  have hkept : keptEntries oneManager = managerEntries oneManager := by
    apply keptEntries_eq
    intro s hs
    cases hs
    decide
  refine (access_control_iff decimalReadings _ lawful_decimalReadings .admin false oneManager 80
    (by decide) (by decide) (by decide)).mpr ⟨?_, Or.inl ?_⟩
  · intro p
    rw [hkept]
  · exact ⟨"80", by decide, ⟨80, 80⟩, by decide, by decide⟩

/-- The secure shell with a manager and no port: the daemon listens on port 22, no jump was
inserted, and another address is accepted. -/
theorem access_control_fails_without_port :
    ¬ ∀ n ∈ Server.ssh.listen decimalReadings true (some (.json [("status", .text "enable"),
        ("manager", .text "192.168.1.10")])),
      AccessHolds decimalReadings (fun t : Empty => t.elim) .ssh true
        (some (.json [("status", .text "enable"), ("manager", .text "192.168.1.10")])) n := by
  intro h
  have haccess := h 22 (by decide) (emptyTable Empty) []
    { tcp := true, dport := 22, source := 0, mac := 0 } (foreign_emptyTable _ _ _) rfl rfl
  have hverdict : accepted (fun t : Empty => t.elim) (Server.ssh.setup decimalReadings true
      (some (.json [("status", .text "enable"), ("manager", .text "192.168.1.10")]))
      (emptyTable Empty)) { tcp := true, dport := 22, source := 0, mac := 0 } := by
    unfold accepted
    decide
  exact absurd (haccess.mp hverdict) (by decide)

end Tiger.Analysis.ManagerAccess
