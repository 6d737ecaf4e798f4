import Tiger.Model.Manager

/-!
# What setup does to the filter table

`_setup` either leaves the table alone or *opens* the server's chain: the chain then
holds one accepting rule for every manager text that is an address, followed by a
drop, and `INPUT` has the jumps of the configuration's ports moved to its end
(`rules_setup`). Whether it opens is a condition on the configuration alone
(`opens`), and so are the port texts it prints into its jumps (`guardTexts`).

The analysis of access control and of teardown reads `_setup` through these lemmas.
-/

set_option autoImplicit false

namespace Tiger.Analysis.ManagerTable

open Tiger.Library Tiger.Model Tiger.Model.Manager

variable {α : Type} [DecidableEq α] (rd : PortReadings)

/-- The jump of `INPUT` for a range of ports. -/
def jump (α : Type) (chain : String) (ports : PortRange) : FilterRule α :=
  ⟨.tcpDport ports, .jump chain⟩

/-- Moving the jump of a range to the end of a rule list. -/
def reinsert (chain : String) (rs : List (FilterRule α)) (ports : PortRange) :
    List (FilterRule α) :=
  rs.erase (jump α chain ports) ++ [jump α chain ports]

/-- The port texts `_setup` prints into the jumps. -/
def guardTexts (s : Server) (cfg : Option Talk) : List String :=
  match s with
  | .admin => [jsonString cfg "port", jsonString cfg "sslport"].filterMap fun port =>
      if isSet port then some (port.getD "") else none
  | _ => [(jsonString cfg "port").getD "(null)"]

/-- The ports whose jumps `_setup` inserts: the ones of the texts that `iptables` accepts. -/
def guardPorts (s : Server) (cfg : Option Talk) : List PortRange :=
  (guardTexts s cfg).filterMap rd.dport

/-- `_setup` gets as far as opening the chain. -/
def opens (s : Server) (found : Bool) (cfg : Option Talk) : Bool :=
  (found || s = .admin) && enabled cfg && managerTexts cfg ≠ []

/-- No server has `INPUT` for its chain. -/
theorem chain_ne_input (s : Server) : s.chain ≠ inputChain := by
  cases s <;> decide

/-- The table with an empty `INPUT` only. -/
def emptyTable (α : Type) : FilterTable α := Table.empty.newChain inputChain

omit [DecidableEq α] in
/-- The empty table has `INPUT` alone, without rules. -/
theorem rules_emptyTable (c : String) :
    (emptyTable α).rules c = if c = inputChain then some [] else none := by
  unfold emptyTable
  rw [Table.rules_newChain, Table.rules_empty, Table.rules_empty]
  rfl

/-! ## Inserting the jumps -/

/-- `insertJump` changes `INPUT` only, where it moves the jump of an accepted text to the end. -/
theorem rules_insertJump (t : FilterTable α) {chain : String} (port d : String)
    (hchain : (t.rules chain).isSome) (hne : chain ≠ inputChain) :
    (insertJump rd t chain port).rules d =
      if d = inputChain then (t.rules inputChain).map fun rs =>
        (rd.dport port).elim rs (reinsert chain rs)
      else t.rules d := by
  unfold insertJump dportJump
  cases hport : rd.dport port with
  | none =>
    simp only [Option.map_none, appendText, deleteText, Option.elim_none, Option.map_id']
    split
    · next hd => rw [hd]
    · rfl
  | some n =>
    simp only [Option.map_some, appendText, deleteText, Option.elim_some]
    have htarget : (t.delete inputChain (jump α chain n)).targetExists (jump α chain n) = true := by
      change ((t.delete inputChain (jump α chain n)).rules chain).isSome = true
      rw [Table.rules_delete, if_neg hne]
      exact hchain
    change ((t.delete inputChain (jump α chain n)).append inputChain (jump α chain n)).rules d = _
    rw [Table.rules_append, Table.rules_delete, Table.rules_delete]
    by_cases hd : d = inputChain
    · rw [if_pos ⟨hd, htarget⟩, if_pos hd, if_pos rfl, Option.map_map]
      rfl
    · rw [if_neg fun h => hd h.1, if_neg hd, if_neg hd]

/-- The same for a list of ports. -/
theorem rules_insertJumps (t : FilterTable α) {chain : String} (ports : List String)
    (d : String) (hchain : (t.rules chain).isSome) (hne : chain ≠ inputChain) :
    (ports.foldl (fun t port => insertJump rd t chain port) t).rules d =
      if d = inputChain then (t.rules inputChain).map fun rs =>
        (ports.filterMap rd.dport).foldl (reinsert chain) rs
      else t.rules d := by
  induction ports generalizing t with
  | nil =>
    simp only [List.foldl_nil, List.filterMap_nil, Option.map_id']
    split
    · next hd => rw [hd]
    · rfl
  | cons port ports ih =>
    have hkeep : ((insertJump rd t chain port).rules chain).isSome := by
      rw [rules_insertJump rd t port chain hchain hne, if_neg hne]
      exact hchain
    rw [List.foldl_cons, ih (insertJump rd t chain port) hkeep]
    rw [rules_insertJump rd t port inputChain hchain hne, if_pos rfl,
      rules_insertJump rd t port d hchain hne]
    by_cases hd : d = inputChain
    · rw [if_pos hd, if_pos hd, Option.map_map]
      congr 1
      funext rs
      rw [Function.comp_apply, List.filterMap_cons]
      cases rd.dport port <;> rfl
    · rw [if_neg hd, if_neg hd, if_neg hd]

/-- A rule stands in the list after the jumps of `ports` were moved to its end exactly when
it stood there before or is one of the jumps. -/
theorem mem_foldl_reinsert {chain : String} (ports : List PortRange) (rs : List (FilterRule α))
    (r : FilterRule α) :
    r ∈ ports.foldl (reinsert chain) rs ↔ r ∈ rs ∨ ∃ n ∈ ports, r = jump α chain n := by
  induction ports generalizing rs with
  | nil => simp
  | cons n ports ih =>
    rw [List.foldl_cons, ih]
    unfold reinsert
    by_cases hr : r = jump α chain n
    · simp [hr]
    · simp [hr, List.mem_erase_of_ne hr]

/-! ## Filling the chain -/

omit [DecidableEq α] in
/-- Once the chain is open, the loop appends the rules of the manager texts. -/
theorem foldl_managerStep_open (openChain : FilterTable α → FilterTable α) (chain : String)
    (texts : List String) (t : FilterTable α) (d : String) :
    ((texts.foldl (managerStep openChain chain) (t, true)).1.rules d =
      if d = chain then (t.rules chain).map
        (· ++ (texts.filterMap (managerMatch α)).map fun m => ⟨m, .accept⟩)
      else t.rules d) ∧
    (texts.foldl (managerStep openChain chain) (t, true)).2 = true := by
  induction texts generalizing t with
  | nil =>
    refine ⟨?_, rfl⟩
    simp only [List.foldl_nil, List.filterMap_nil, List.map_nil, List.append_nil, Option.map_id']
    split
    · next hd => rw [hd]
    · rfl
  | cons ptr texts ih =>
    rw [List.foldl_cons]
    obtain ⟨hrules, hinit⟩ :=
      ih (appendText t chain ((managerMatch α ptr).map fun m => ⟨m, .accept⟩))
    refine ⟨?_, hinit⟩
    change (List.foldl (managerStep openChain chain) (appendText t chain _, true) texts).1.rules d
      = _
    rw [hrules, List.filterMap_cons]
    cases managerMatch α ptr with
    | none => rfl
    | some m =>
      simp only [Option.map_some, appendText, Table.rules_append, Table.targetExists, and_true,
        if_true]
      by_cases hd : d = chain
      · rw [if_pos hd, if_pos hd, Option.map_map]
        congr 1
        funext rs
        simp
      · rw [if_neg hd, if_neg hd, if_neg hd]

/-- Without a manager text the table is left alone. -/
theorem setManager_nil (openChain : FilterTable α → FilterTable α) (chain : String)
    {cfg : Option Talk} (t : FilterTable α) (h : managerTexts cfg = []) :
    setManager openChain chain cfg t = t := by
  unfold setManager
  rw [h]
  rfl

/-- With one, the opened chain holds the managers' rules and the final drop. -/
theorem rules_setManager (openChain : FilterTable α → FilterTable α) {chain : String}
    {cfg : Option Talk} (t : FilterTable α) (d : String) (h : managerTexts cfg ≠ [])
    (hopen : (openChain t).rules chain = some []) :
    (setManager openChain chain cfg t).rules d =
      if d = chain then
        some (((managerTexts cfg).filterMap (managerMatch α)).map (fun m => ⟨m, .accept⟩) ++
          [dropRule α])
      else (openChain t).rules d := by
  obtain ⟨ptr, texts, htexts⟩ := List.exists_cons_of_ne_nil h
  have hfirst : (managerTexts cfg).foldl (managerStep openChain chain) (t, false) =
      (managerTexts cfg).foldl (managerStep openChain chain) (openChain t, true) := by
    rw [htexts]
    rfl
  obtain ⟨hrules, hinit⟩ :=
    foldl_managerStep_open openChain chain (managerTexts cfg) (openChain t) chain
  have hother := (foldl_managerStep_open openChain chain (managerTexts cfg) (openChain t) d).1
  rw [if_pos rfl, hopen, Option.map_some, List.nil_append] at hrules
  unfold setManager
  dsimp only
  rw [hfirst, if_pos hinit]
  -- the drop is no accepting rule, so deleting it changes nothing
  have hnotMem : dropRule α ∉ ((managerTexts cfg).filterMap (managerMatch α)).map
      fun m => (⟨m, .accept⟩ : FilterRule α) := by
    simp [dropRule]
  rw [Table.rules_append, Table.rules_delete, Table.rules_delete]
  by_cases hd : d = chain
  · rw [if_pos ⟨hd, rfl⟩, if_pos rfl, if_pos hd, hrules, Option.map_some,
      List.erase_of_not_mem hnotMem, Option.map_some]
  · rw [if_neg fun h => hd h.1, if_neg hd, if_neg hd, hother, if_neg hd]

/-! ## Setup -/

/-- What the first manager does, for all servers: create and flush the chain, insert the
jumps. -/
def openChain (s : Server) (cfg : Option Talk) (t : FilterTable α) : FilterTable α :=
  (guardTexts s cfg).foldl (fun t port => insertJump rd t s.chain port)
    ((t.newChain s.chain).flush s.chain)

/-- The three `_setup` functions differ in the ports they guard and in that only the two
terminal servers look for their daemon. -/
theorem setup_eq (s : Server) (found : Bool) (cfg : Option Talk) (t : FilterTable α) :
    s.setup rd found cfg t =
      if (found || s = .admin) && enabled cfg then setManager (openChain rd s cfg) s.chain cfg t
      else t := by
  cases s with
  | admin =>
    have hopen : (adminOpen rd cfg : FilterTable α → FilterTable α) = openChain rd .admin cfg := by
      funext t
      unfold adminOpen openChain guardTexts
      by_cases hport : isSet (jsonString cfg "port") = true
      · by_cases hssl : isSet (jsonString cfg "sslport") = true
        · simp [hport, hssl, Server.chain]
        · simp [hport, hssl, Server.chain]
      · by_cases hssl : isSet (jsonString cfg "sslport") = true
        · simp [hport, hssl, Server.chain]
        · simp [hport, hssl, Server.chain]
    change adminSetup rd cfg t = _
    unfold adminSetup
    rw [hopen]
    simp [Server.chain]
  | ssh =>
    cases found
    · rfl
    · change sshSetup rd true cfg t = _
      simp only [sshSetup, ttySetup, Bool.true_or, Bool.true_and]
      rfl
  | telnet =>
    cases found
    · rfl
    · change telnetSetup rd true cfg t = _
      simp only [telnetSetup, ttySetup, Bool.true_or, Bool.true_and]
      rfl

/-- Opening the chain: it is empty, and `INPUT` has the jumps at its end. -/
theorem rules_openChain (s : Server) (cfg : Option Talk) (t : FilterTable α) (d : String) :
    (openChain rd s cfg t).rules d =
      if d = s.chain then some []
      else if d = inputChain then (t.rules inputChain).map fun rs =>
        (guardPorts rd s cfg).foldl (reinsert s.chain) rs
      else t.rules d := by
  have hflush : ∀ e, ((t.newChain s.chain).flush s.chain).rules e =
      if e = s.chain then some [] else t.rules e := by
    intro e
    rw [Table.rules_flush, Table.rules_newChain, Table.rules_newChain, if_pos rfl, Option.map_some]
    by_cases he : e = s.chain
    · rw [if_pos he, if_pos he]
    · rw [if_neg he, if_neg he, if_neg he]
  have hsome : (((t.newChain s.chain).flush s.chain).rules s.chain).isSome := by
    rw [hflush, if_pos rfl]
    rfl
  unfold openChain
  rw [rules_insertJumps rd _ _ d hsome (chain_ne_input s), hflush, hflush]
  by_cases hd : d = inputChain
  · have hne : inputChain ≠ s.chain := (chain_ne_input s).symm
    rw [if_pos hd, if_neg hne, hd, if_neg hne, if_pos rfl]
    rfl
  · rw [if_neg hd, if_neg hd]

/-- A configuration that does not open the chain leaves the table alone. -/
theorem setup_of_not_opens {s : Server} {found : Bool} {cfg : Option Talk}
    (t : FilterTable α) (h : opens s found cfg = false) : s.setup rd found cfg t = t := by
  rw [setup_eq]
  by_cases hrun : ((found || s = .admin) && enabled cfg) = true
  · have htexts : managerTexts cfg = [] := by
      unfold opens at h
      rw [hrun, Bool.true_and] at h
      simpa using h
    rw [if_pos hrun, setManager_nil _ _ t htexts]
  · exact if_neg hrun

/-- **Setup.** When it opens the chain, the chain holds the managers' rules and a drop,
`INPUT` has the jumps of the ports at its end, and no other chain changes. -/
theorem rules_setup {s : Server} {found : Bool} {cfg : Option Talk} (t : FilterTable α)
    (d : String) (h : opens s found cfg = true) :
    (s.setup rd found cfg t).rules d =
      if d = s.chain then
        some (((managerTexts cfg).filterMap (managerMatch α)).map (fun m => ⟨m, .accept⟩) ++
          [dropRule α])
      else if d = inputChain then (t.rules inputChain).map fun rs =>
        (guardPorts rd s cfg).foldl (reinsert s.chain) rs
      else t.rules d := by
  unfold opens at h
  rw [Bool.and_eq_true] at h
  have htexts : managerTexts cfg ≠ [] := by simpa using h.2
  have hopen := rules_openChain rd s cfg t
  rw [setup_eq, if_pos h.1, rules_setManager _ t d htexts (by rw [hopen, if_pos rfl]), hopen]
  by_cases hd : d = s.chain
  · rw [if_pos hd, if_pos hd]
  · rw [if_neg hd, if_neg hd, if_neg hd]

/-! ## Shut -/

/-- The jump that `_shut` deletes, which has no port. -/
def bareJump (α : Type) (chain : String) : FilterRule α := ⟨.any, .jump chain⟩

/-- Shutting flushes the chain, deletes one bare jump and drops the chain. -/
theorem shut_eq (s : Server) (t : FilterTable α) :
    s.shut t = ((t.flush s.chain).delete inputChain (bareJump α s.chain)).deleteChain s.chain := by
  cases s <;> rfl

/-- Outside its own chain `_shut` only deletes a jump without a port from `INPUT`. -/
theorem rules_shut_of_ne {s : Server} (t : FilterTable α) {d : String} (hd : d ≠ s.chain) :
    (s.shut t).rules d =
      if d = inputChain then (t.rules inputChain).map (·.erase (bareJump α s.chain))
      else t.rules d := by
  have hinput : (t.flush s.chain).rules inputChain = t.rules inputChain := by
    rw [Table.rules_flush, if_neg (chain_ne_input s).symm]
  rw [shut_eq, Table.rules_deleteChain_of_ne _ hd, Table.rules_delete, hinput,
    Table.rules_flush, if_neg hd]

/-! ## A reading of port texts -/

/-- The port whose decimal digits the text is. -/
def decimalPort (s : String) : Option ℕ :=
  let n := Nat.ofDigitChars 10 s.toList 0
  if toString n = s ∧ 0 < n ∧ n < 65536 then some n else none

/-- Decimal numbers as they are printed, and nothing else. -/
def decimalReadings : PortReadings where
  dport l := (decimalPort l).map fun n => ⟨n, n⟩
  listen _ l := decimalPort l

/-- A port is read from its own digits. -/
theorem decimalPort_toString {n : ℕ} (hpos : 0 < n) (hlt : n < 65536) :
    decimalPort (toString n) = some n := by
  have hvalue : Nat.ofDigitChars 10 (toString n).toList 0 = n := by
    rw [Nat.toString_eq_ofList_toDigits, String.toList_ofList, Nat.ofDigitChars_ten_toDigits]
  unfold decimalPort
  dsimp only
  rw [hvalue, if_pos ⟨rfl, hpos, hlt⟩]

/-- Reading ports as decimal numbers is lawful. -/
theorem lawful_decimalReadings : decimalReadings.Lawful where
  dport_decimal n hpos hlt := by
    change (decimalPort (toString n)).map _ = _
    rw [decimalPort_toString hpos hlt, Option.map_some]
  listen_decimal _ n hpos hlt := decimalPort_toString hpos hlt
  listen_bounds _ l n hl := by
    change decimalPort l = some n at hl
    unfold decimalPort at hl
    dsimp only at hl
    split at hl
    · next h => exact Option.some.inj hl ▸ h.2
    · cases hl
  dport_empty := by decide
  dport_null := by decide

end Tiger.Analysis.ManagerTable
