import Tiger.Analysis.ManagerAccess

/-!
# The three servers in one table

`_setup` and `_shut` of the three servers run in any order, on one table. What a server sees
of it is everything but the chains of the other two and the jumps to them (`Agree`): its own
runs keep two tables alike that it cannot tell apart, and a run of another server leaves a
table like it was. So a packet to a port of the one server fares as if that server ran alone
(`accepted_runAll`).
-/

set_option autoImplicit false

namespace Tiger.Analysis.ManagerInterleaving

open Tiger.Library Tiger.Model Tiger.Model.Manager Tiger.Analysis.ManagerTable
open Tiger.Analysis.ManagerAccess

variable {α : Type} [DecidableEq α] (rd : PortReadings) (other : α → Packet → Bool)

/-- A run of one of the servers. -/
def systemStep (t : FilterTable α) (e : Server × ServerOp) : FilterTable α := e.1.step rd t e.2

/-- Runs of all servers, in the order they come. -/
def runAll (ops : List (Server × ServerOp)) (t : FilterTable α) : FilterTable α :=
  ops.foldl (systemStep rd) t

/-- The runs of one server among them. -/
def ownOps (s : Server) (ops : List (Server × ServerOp)) : List ServerOp :=
  (ops.filter fun e => e.1 = s).map Prod.snd

/-! ## What a server sees -/

/-- A chain of another server. -/
def foreignChain (s : Server) (c : String) : Bool :=
  [Server.admin, Server.ssh, Server.telnet].any fun s' => s' ≠ s && c = s'.chain

/-- A rule that does not jump to a chain of another server. -/
def keeps (s : Server) (r : FilterRule α) : Bool :=
  match r.target with
  | .jump c => ! foreignChain s c
  | _ => true

/-- A chain is foreign to every other server. -/
theorem foreignChain_chain (s s' : Server) : foreignChain s s'.chain = decide (s' ≠ s) := by
  cases s <;> cases s' <;> decide

/-- `INPUT` is no chain of a server. -/
theorem foreignChain_input (s : Server) : foreignChain s inputChain = false := by
  cases s <;> decide

omit [DecidableEq α] in
/-- A server keeps the jumps to its own chain. -/
theorem keeps_of_jump {s : Server} (s' : Server) {r : FilterRule α}
    (h : r.target = .jump s'.chain) : keeps s r = decide (s' = s) := by
  unfold keeps
  rw [h]
  simp [foreignChain_chain]

/-- Two tables that a server cannot tell apart, in which no chain of another server jumps to its
chain. -/
structure Agree (s : Server) (t u : FilterTable α) : Prop where
  chains : ∀ d, foreignChain s d = false → d ≠ inputChain → t.rules d = u.rules d
  input : (t.rules inputChain).map (·.filter (keeps s)) =
    (u.rules inputChain).map (·.filter (keeps s))
  apart : ∀ d, foreignChain s d = true →
    ∀ rs, t.rules d = some rs → ∀ r ∈ rs, r.target ≠ .jump s.chain
  apart' : ∀ d, foreignChain s d = true →
    ∀ rs, u.rules d = some rs → ∀ r ∈ rs, r.target ≠ .jump s.chain

variable {s : Server} {t u : FilterTable α}

omit [DecidableEq α] in
/-- Agreement does not depend on the sides. -/
theorem Agree.symm (h : Agree s t u) : Agree s u t :=
  ⟨fun d hd hi => (h.chains d hd hi).symm, h.input.symm, h.apart', h.apart⟩

omit [DecidableEq α] in
/-- A table without chains of servers agrees with itself. -/
theorem Agree.refl (h : ∀ s' : Server, t.rules s'.chain = none) : Agree s t t := by
  have hnone : ∀ d, foreignChain s d = true → t.rules d = none := by
    intro d hd
    obtain ⟨s', -, hs'⟩ := List.any_eq_true.mp hd
    rw [Bool.and_eq_true, decide_eq_true_eq, decide_eq_true_eq] at hs'
    rw [hs'.2, h s']
  have hapart : ∀ d, foreignChain s d = true →
      ∀ rs, t.rules d = some rs → ∀ r ∈ rs, r.target ≠ .jump s.chain := by
    intro d hd rs hrs
    rw [hnone d hd] at hrs
    cases hrs
  exact ⟨fun _ _ _ => rfl, rfl, hapart, hapart⟩

omit [DecidableEq α] in
/-- A reference to the server's chain stands where the server sees it. -/
theorem Agree.referenced (h : Agree s t u) (href : t.Referenced s.chain) :
    u.Referenced s.chain := by
  obtain ⟨d, rs, hd, r, hr, hjump⟩ := href
  by_cases hforeign : foreignChain s d = true
  · exact absurd hjump (h.apart d hforeign rs hd r hr)
  by_cases hinput : d = inputChain
  · subst hinput
    have hfilter := h.input
    rw [hd, Option.map_some] at hfilter
    obtain ⟨us, hus, heq⟩ := Option.map_eq_some_iff.mp hfilter.symm
    have hkeep : keeps s r = true := by rw [keeps_of_jump s hjump, decide_eq_true rfl]
    have hmem : r ∈ us.filter (keeps s) := heq ▸ List.mem_filter.mpr ⟨hr, hkeep⟩
    exact ⟨inputChain, us, hus, r, (List.mem_filter.mp hmem).1, hjump⟩
  · rw [h.chains d (Bool.eq_false_iff.mpr hforeign) hinput] at hd
    exact ⟨d, rs, hd, r, hr, hjump⟩

/-! ## Own runs -/

omit [DecidableEq α] in
/-- A change to both tables that goes on in what the server sees. -/
theorem Agree.own (h : Agree s t u) {t' u' : FilterTable α}
    (f : List (FilterRule α) → List (FilterRule α))
    (hf : ∀ rs, (f rs).filter (keeps s) = f (rs.filter (keeps s)))
    (ht : t'.rules inputChain = (t.rules inputChain).map f)
    (hu : u'.rules inputChain = (u.rules inputChain).map f)
    (hchains : ∀ d, foreignChain s d = false → d ≠ inputChain → t'.rules d = u'.rules d)
    (hforeign : ∀ d, foreignChain s d = true → t'.rules d = t.rules d ∧ u'.rules d = u.rules d) :
    Agree s t' u' := by
  refine ⟨hchains, ?_, ?_, ?_⟩
  · have hcomp : ∀ o : Option (List (FilterRule α)),
        (o.map f).map (·.filter (keeps s)) = (o.map (·.filter (keeps s))).map f := by
      intro o
      cases o with
      | none => rfl
      | some rs => exact congrArg some (hf rs)
    rw [ht, hu, hcomp, hcomp, h.input]
  · intro d hd
    rw [(hforeign d hd).1]
    exact h.apart d hd
  · intro d hd
    rw [(hforeign d hd).2]
    exact h.apart' d hd

/-- The server's own chain and `INPUT` are no chains of the others. -/
theorem ne_of_foreign {d : String} (hd : foreignChain s d = true) :
    d ≠ s.chain ∧ d ≠ inputChain := by
  refine ⟨?_, ?_⟩
  · rintro rfl
    rw [foreignChain_chain] at hd
    simp at hd
  · rintro rfl
    rw [foreignChain_input] at hd
    cases hd

/-- A server's own jump is put in front with or without those of others. -/
theorem filter_reinsert (r : PortRange) (rs : List (FilterRule α)) :
    (reinsert s.chain rs r).filter (keeps s) = reinsert s.chain (rs.filter (keeps s)) r := by
  have hkeep : keeps s (jump α s.chain r) = true := by
    rw [keeps_of_jump s rfl, decide_eq_true rfl]
  unfold reinsert
  rw [List.filter_append, List.erase_filter, List.filter_cons_of_pos hkeep, List.filter_nil]

/-- A server's own jumps are put in front with or without those of others. -/
theorem filter_reinserts (ports : List PortRange) (rs : List (FilterRule α)) :
    (ports.foldl (reinsert s.chain) rs).filter (keeps s) =
      ports.foldl (reinsert s.chain) (rs.filter (keeps s)) := by
  induction ports generalizing rs with
  | nil => rfl
  | cons n ports ih => rw [List.foldl_cons, ih, filter_reinsert, List.foldl_cons]

/-- A setup does the same on tables that agree. -/
theorem agree_setup (h : Agree s t u) (found : Bool) (cfg : Option Talk) :
    Agree s (s.setup rd found cfg t) (s.setup rd found cfg u) := by
  by_cases hopens : opens s found cfg = true
  · have hinput : inputChain ≠ s.chain := (chain_ne_input s).symm
    refine h.own ((guardPorts rd s cfg).foldl (reinsert s.chain)) (filter_reinserts _) ?_ ?_ ?_ ?_
    · rw [rules_setup rd t _ hopens, if_neg hinput, if_pos rfl]
    · rw [rules_setup rd u _ hopens, if_neg hinput, if_pos rfl]
    · intro d hd hne
      rw [rules_setup rd t _ hopens, rules_setup rd u _ hopens, if_neg hne, if_neg hne,
        h.chains d hd hne]
    · intro d hd
      obtain ⟨hchain, hne⟩ := ne_of_foreign hd
      rw [rules_setup rd t _ hopens, rules_setup rd u _ hopens, if_neg hchain, if_neg hchain,
        if_neg hne, if_neg hne]
      exact ⟨rfl, rfl⟩
  · rw [setup_of_not_opens rd t (Bool.eq_false_iff.mpr hopens),
      setup_of_not_opens rd u (Bool.eq_false_iff.mpr hopens)]
    exact h

omit [DecidableEq α] in
/-- Flushing the own chain does the same on tables that agree. -/
theorem agree_flush (h : Agree s t u) : Agree s (t.flush s.chain) (u.flush s.chain) := by
  have hinput : inputChain ≠ s.chain := (chain_ne_input s).symm
  refine h.own id (fun _ => rfl) ?_ ?_ ?_ ?_
  · rw [Table.rules_flush, if_neg hinput, Option.map_id]
    rfl
  · rw [Table.rules_flush, if_neg hinput, Option.map_id]
    rfl
  · intro d hd hne
    rw [Table.rules_flush, Table.rules_flush, h.chains d hd hne]
    have hself : foreignChain s s.chain = false := by
      rw [foreignChain_chain]
      simp
    rw [h.chains s.chain hself (chain_ne_input s)]
  · intro d hd
    have hchain := (ne_of_foreign hd).1
    rw [Table.rules_flush, Table.rules_flush, if_neg hchain, if_neg hchain]
    exact ⟨rfl, rfl⟩

/-- Deleting from `INPUT` does the same on tables that agree. -/
theorem agree_delete (h : Agree s t u) (r : FilterRule α) :
    Agree s (t.delete inputChain r) (u.delete inputChain r) := by
  refine h.own (·.erase r) (fun rs => List.erase_filter.symm) ?_ ?_ ?_ ?_
  · rw [Table.rules_delete, if_pos rfl]
  · rw [Table.rules_delete, if_pos rfl]
  · intro d hd hne
    rw [Table.rules_delete, Table.rules_delete, if_neg hne, if_neg hne, h.chains d hd hne]
  · intro d hd
    have hne := (ne_of_foreign hd).2
    rw [Table.rules_delete, Table.rules_delete, if_neg hne, if_neg hne]
    exact ⟨rfl, rfl⟩

/-- Deleting the own chain does the same on tables that agree. -/
theorem agree_deleteChain (h : Agree s t u) :
    Agree s (t.deleteChain s.chain) (u.deleteChain s.chain) := by
  have hself : t.rules s.chain = u.rules s.chain := by
    refine h.chains s.chain ?_ (chain_ne_input s)
    rw [foreignChain_chain]
    simp
  have hinput : inputChain ≠ s.chain := (chain_ne_input s).symm
  refine h.own id (fun _ => rfl) ?_ ?_ ?_ ?_
  · rw [Table.rules_deleteChain_of_ne _ hinput, Option.map_id]
    rfl
  · rw [Table.rules_deleteChain_of_ne _ hinput, Option.map_id]
    rfl
  · intro d hd hne
    by_cases hchain : d = s.chain
    · subst hchain
      by_cases hempty : t.rules s.chain = some []
      · by_cases href : t.Referenced s.chain
        · rw [Table.deleteChain_of_referenced href,
            Table.deleteChain_of_referenced (h.referenced href), hself]
        · have href' : ¬ u.Referenced s.chain := fun href' => href (h.symm.referenced href')
          rw [Table.rules_deleteChain href hempty, Table.rules_deleteChain href' (hself ▸ hempty),
            if_pos rfl, if_pos rfl]
      · rw [Table.deleteChain_of_ne_nil hempty, Table.deleteChain_of_ne_nil (hself ▸ hempty), hself]
    · rw [Table.rules_deleteChain_of_ne _ hchain, Table.rules_deleteChain_of_ne _ hchain,
        h.chains d hd hne]
  · intro d hd
    have hchain := (ne_of_foreign hd).1
    rw [Table.rules_deleteChain_of_ne _ hchain, Table.rules_deleteChain_of_ne _ hchain]
    exact ⟨rfl, rfl⟩

/-- A call of the server does the same on tables that agree. -/
theorem agree_step (h : Agree s t u) (op : ServerOp) :
    Agree s (s.step rd t op) (s.step rd u op) := by
  cases op with
  | setup found cfg => exact agree_setup rd h found cfg
  | shut =>
    change Agree s (s.shut t) (s.shut u)
    rw [shut_eq, shut_eq]
    exact agree_deleteChain (agree_delete (agree_flush h) _)

/-! ## Runs of another server -/

omit [DecidableEq α] in
/-- A change to one table that the server does not see. -/
theorem Agree.unseen (h : Agree s t u) {t' : FilterTable α}
    (f : List (FilterRule α) → List (FilterRule α))
    (hf : ∀ rs, (f rs).filter (keeps s) = rs.filter (keeps s))
    (ht : t'.rules inputChain = (t.rules inputChain).map f)
    (hchains : ∀ d, foreignChain s d = false → d ≠ inputChain → t'.rules d = t.rules d)
    (hforeign : ∀ d, foreignChain s d = true → t'.rules d = t.rules d ∨
      ∀ rs, t'.rules d = some rs → ∀ r ∈ rs, r.target ≠ .jump s.chain) : Agree s t' u := by
  refine ⟨?_, ?_, ?_, h.apart'⟩
  · intro d hd hne
    rw [hchains d hd hne, h.chains d hd hne]
  · rw [ht, Option.map_map, ← h.input]
    congr 1
    exact funext hf
  · intro d hd
    rcases hforeign d hd with hsame | hapart
    · rw [hsame]
      exact h.apart d hd
    · exact hapart

/-- The jumps of another server are not kept. -/
theorem filter_reinserts_of_ne {s' : Server} (hne : s' ≠ s) (ports : List PortRange)
    (rs : List (FilterRule α)) :
    (ports.foldl (reinsert s'.chain) rs).filter (keeps s) = rs.filter (keeps s) := by
  induction ports generalizing rs with
  | nil => rfl
  | cons n ports ih =>
    have hkeep : ¬ keeps s (jump α s'.chain n) = true := by
      rw [keeps_of_jump s' rfl]
      simpa using hne
    rw [List.foldl_cons, ih, reinsert, List.filter_append, List.filter_cons_of_neg hkeep,
      List.filter_nil, List.append_nil, ← List.erase_filter, List.erase_of_not_mem]
    exact fun hmem => hkeep (List.mem_filter.mp hmem).2

/-- A setup of another server cannot be told. -/
theorem agree_other_setup {s' : Server} (hne : s' ≠ s) (h : Agree s t u) (found : Bool)
    (cfg : Option Talk) : Agree s (s'.setup rd found cfg t) u := by
  by_cases hopens : opens s' found cfg = true
  · have hinput : inputChain ≠ s'.chain := (chain_ne_input s').symm
    refine h.unseen ((guardPorts rd s' cfg).foldl (reinsert s'.chain))
      (filter_reinserts_of_ne hne _) ?_ ?_ ?_
    · rw [rules_setup rd t _ hopens, if_neg hinput, if_pos rfl]
    · intro d hd hd'
      have hchain : d ≠ s'.chain := by
        rintro rfl
        rw [foreignChain_chain] at hd
        exact absurd hne (by simpa using hd)
      rw [rules_setup rd t _ hopens, if_neg hchain, if_neg hd']
    · intro d hd
      rw [rules_setup rd t _ hopens]
      by_cases hchain : d = s'.chain
      · rw [if_pos hchain]
        refine Or.inr ?_
        rintro rs hrs r hr
        rw [← Option.some.inj hrs] at hr
        rcases List.mem_append.mp hr with hr | hr
        · obtain ⟨m, -, rfl⟩ := List.mem_map.mp hr
          simp
        · rw [List.mem_singleton.mp hr]
          simp [dropRule]
      · rw [if_neg hchain, if_neg (ne_of_foreign hd).2]
        exact Or.inl rfl
  · rw [setup_of_not_opens rd t (Bool.eq_false_iff.mpr hopens)]
    exact h

/-- After `_shut` the chain of the server is empty, or gone. -/
theorem rules_shut_self (rs : List (FilterRule α)) (h : (s.shut t).rules s.chain = some rs) :
    rs = [] := by
  rw [shut_eq] at h
  rcases Table.rules_deleteChain_self ((t.flush s.chain).delete inputChain
    (bareJump α s.chain)) s.chain with hgone | hsame
  · rw [hgone] at h
    cases h
  · rw [hsame, Table.rules_delete, if_neg (chain_ne_input s), Table.rules_flush,
      if_pos rfl] at h
    obtain ⟨old, -, hold⟩ := Option.map_eq_some_iff.mp h
    exact hold.symm

/-- A shut of another server cannot be told. -/
theorem agree_other_shut {s' : Server} (hne : s' ≠ s) (h : Agree s t u) :
    Agree s (s'.shut t) u := by
  have hinput : inputChain ≠ s'.chain := (chain_ne_input s').symm
  refine h.unseen (·.erase (bareJump α s'.chain)) ?_ ?_ ?_ ?_
  · intro rs
    have hkeep : ¬ keeps s (bareJump α s'.chain) = true := by
      rw [keeps_of_jump s' rfl]
      simpa using hne
    rw [← List.erase_filter, List.erase_of_not_mem]
    exact fun hmem => hkeep (List.mem_filter.mp hmem).2
  · rw [rules_shut_of_ne t hinput, if_pos rfl]
  · intro d hd hd'
    have hchain : d ≠ s'.chain := by
      rintro rfl
      rw [foreignChain_chain] at hd
      exact absurd hne (by simpa using hd)
    rw [rules_shut_of_ne t hchain, if_neg hd']
  · intro d hd
    by_cases hchain : d = s'.chain
    · refine Or.inr ?_
      subst hchain
      intro rs hrs r hr
      rw [rules_shut_self rs hrs] at hr
      cases hr
    · rw [rules_shut_of_ne t hchain, if_neg (ne_of_foreign hd).2]
      exact Or.inl rfl

/-- A call of another server cannot be told. -/
theorem agree_other_step {s' : Server} (hne : s' ≠ s) (h : Agree s t u) (op : ServerOp) :
    Agree s (s'.step rd t op) u := by
  cases op with
  | setup found cfg => exact agree_other_setup rd hne h found cfg
  | shut => exact agree_other_shut hne h

/-! ## All runs -/

/-- After any interleaving, the server sees the table of its own runs alone. -/
theorem agree_runAll (ops : List (Server × ServerOp)) (h : Agree s t u) :
    Agree s (runAll rd ops t) (s.run rd (ownOps s ops) u) := by
  induction ops generalizing t u with
  | nil => exact h
  | cons e ops ih =>
    by_cases hown : e.1 = s
    · have hops : ownOps s (e :: ops) = e.2 :: ownOps s ops := by
        unfold ownOps
        rw [List.filter_cons_of_pos (by simpa using hown), List.map_cons]
      rw [hops]
      have hstep : Agree s (systemStep rd t e) (s.step rd u e.2) := by
        unfold systemStep
        rw [hown]
        exact agree_step rd h e.2
      exact ih hstep
    · have hops : ownOps s (e :: ops) = ownOps s ops := by
        unfold ownOps
        rw [List.filter_cons_of_neg (by simpa using hown)]
      rw [hops]
      exact ih (agree_other_step rd hown h e.2)

/-! ## Packets -/

/-- The server's chain has no jumps. -/
def Flat (s : Server) (t : FilterTable α) : Prop :=
  ∀ ds, t.rules s.chain = some ds → ∀ r ∈ ds, ∀ e, r.target ≠ .jump e

/-- A call puts no jumps into the server's chain. -/
theorem flat_step (h : Flat s t) (op : ServerOp) : Flat s (s.step rd t op) := by
  cases op with
  | setup found cfg =>
    change Flat s (s.setup rd found cfg t)
    by_cases hopens : opens s found cfg = true
    · intro ds hds r hr e
      rw [rules_setup rd t _ hopens, if_pos rfl, Option.some.injEq] at hds
      rw [← hds] at hr
      rcases List.mem_append.mp hr with hr | hr
      · obtain ⟨m, -, rfl⟩ := List.mem_map.mp hr
        simp
      · rw [List.mem_singleton.mp hr]
        simp [dropRule]
    · rw [setup_of_not_opens rd t (Bool.eq_false_iff.mpr hopens)]
      exact h
  | shut =>
    intro ds hds
    have hnil := rules_shut_self (t := t) (s := s) ds hds
    rw [hnil]
    intro r hr
    cases hr

/-- No run puts jumps into the server's chain. -/
theorem flat_run (ops : List ServerOp) (h : Flat s t) : Flat s (s.run rd ops t) := by
  induction ops generalizing t with
  | nil => exact h
  | cons op ops ih => exact ih (flat_step rd h op)

/-- No jump of `INPUT` to a chain of another server meets the packet. -/
def Spared (s : Server) (p : Packet) (t : FilterTable α) : Prop :=
  ∃ rs, t.rules inputChain = some rs ∧
    ∀ r ∈ rs, keeps s r = false → r.cond.sat other p = false

/-- The ports a run puts jumps for. -/
def opPorts (e : Server × ServerOp) : List PortRange :=
  match e.2 with
  | .setup _ cfg => guardPorts rd e.1 cfg
  | .shut => []

/-- A call of another server whose ports are not the packet's spares it. -/
theorem spared_step {p : Packet} {e : Server × ServerOp}
    (he : e.1 ≠ s → ∀ r ∈ opPorts rd e, r.holds p.dport = false) (h : Spared other s p t) :
    Spared other s p (systemStep rd t e) := by
  obtain ⟨rs, hrs, hspared⟩ := h
  obtain ⟨s', op⟩ := e
  cases op with
  | setup found cfg =>
    change Spared other s p (s'.setup rd found cfg t)
    by_cases hopens : opens s' found cfg = true
    · refine ⟨(guardPorts rd s' cfg).foldl (reinsert s'.chain) rs, ?_, ?_⟩
      · rw [rules_setup rd t inputChain hopens, if_neg (chain_ne_input s').symm, if_pos rfl, hrs]
        rfl
      · intro r hr hkeep
        rcases (mem_foldl_reinsert _ _ r).mp hr with hr | ⟨ports, hmem, rfl⟩
        · exact hspared r hr hkeep
        · rw [keeps_of_jump s' rfl, decide_eq_false_iff_not] at hkeep
          have hport : ports.holds p.dport = false := he hkeep ports hmem
          change (p.tcp && ports.holds p.dport) = false
          rw [hport, Bool.and_false]
    · rw [setup_of_not_opens rd t (Bool.eq_false_iff.mpr hopens)]
      exact ⟨rs, hrs, hspared⟩
  | shut =>
    refine ⟨rs.erase (bareJump α s'.chain), ?_, ?_⟩
    · change (s'.shut t).rules inputChain = _
      rw [rules_shut_of_ne t (chain_ne_input s').symm, if_pos rfl, hrs]
      rfl
    · exact fun r hr => hspared r (List.mem_of_mem_erase hr)

/-- A run in which no other server has the packet's port spares it. -/
theorem spared_runAll {p : Packet} {ops : List (Server × ServerOp)}
    (hports : ∀ e ∈ ops, e.1 ≠ s → ∀ r ∈ opPorts rd e, r.holds p.dport = false)
    (h : Spared other s p t) : Spared other s p (runAll rd ops t) := by
  induction ops generalizing t with
  | nil => exact h
  | cons e ops ih =>
    exact ih (fun e' he' => hports e' (List.mem_cons_of_mem _ he'))
      (spared_step rd other (hports e List.mem_cons_self) h)

omit [DecidableEq α] in
/-- Tables that the server cannot tell apart decide alike on a packet that no other jump meets. -/
theorem accepted_of_agree {p : Packet} (hagree : Agree s t u) (hflat : Flat s u)
    (hspared : Spared other s p t) (hscreen : Screened other s p u) :
    accepted other t p ↔ accepted other u p := by
  obtain ⟨rs, hrs, hspare⟩ := hspared
  obtain ⟨us, hus, hjump⟩ := hscreen
  have hself : t.rules s.chain = u.rules s.chain := by
    refine hagree.chains s.chain ?_ (chain_ne_input s)
    rw [foreignChain_chain]
    simp
  have hfilter : rs.filter (keeps s) = us.filter (keeps s) := by
    have h := hagree.input
    rwa [hrs, hus, Option.map_some, Option.map_some, Option.some.injEq] at h
  -- a rule that meets the packet is one the server sees, in either table
  have hsame : ∀ r, r.cond.sat other p = true → (r ∈ rs ↔ r ∈ us) := by
    intro r hsat
    have hkeep : ∀ l : List (FilterRule α), keeps s r = true →
        (r ∈ l ↔ r ∈ l.filter (keeps s)) := by
      intro l hk
      rw [List.mem_filter, and_iff_left hk]
    constructor
    · intro hr
      have hk : keeps s r = true := by
        by_contra hk
        rw [hspare r hr (Bool.eq_false_iff.mpr hk)] at hsat
        cases hsat
      rwa [hkeep us hk, ← hfilter, ← hkeep rs hk]
    · intro hr
      have hk : keeps s r = true := by
        rw [keeps_of_jump s (hjump r hr hsat)]
        simp
      rwa [hkeep rs hk, hfilter, ← hkeep us hk]
  have hstruck : (∃ r ∈ rs, r.cond.sat other p = true) ↔ ∃ r ∈ us, r.cond.sat other p = true :=
    ⟨fun ⟨r, hr, hsat⟩ => ⟨r, (hsame r hsat).mp hr, hsat⟩,
      fun ⟨r, hr, hsat⟩ => ⟨r, (hsame r hsat).mpr hr, hsat⟩⟩
  have hflat' : Flat s t := fun ds hds => hflat ds (hself ▸ hds)
  unfold accepted
  rw [Table.verdict_of_screened .accept (chain_ne_input s).symm hrs
      (fun r hr hsat => hjump r ((hsame r hsat).mp hr) hsat) hflat',
    Table.verdict_of_screened .accept (chain_ne_input s).symm hus hjump hflat, hself]
  simp only [hstruck]

/-- The three servers do not get in each other's way. Their `_setup` and `_shut` runs come in any
order, with any configurations, on a table without their chains in which no rule meets the
packet: when it goes to a port that `iptables` reads from no port text of the other two, it is
accepted exactly when it would be had the one server run alone. -/
theorem accepted_runAll (s : Server) (ops : List (Server × ServerOp)) (t : FilterTable α)
    (p : Packet) (hforeign : ∀ s', Foreign other s' p t)
    (hports : ∀ e ∈ ops, e.1 ≠ s → ∀ r ∈ opPorts rd e, r.holds p.dport = false) :
    accepted other (runAll rd ops t) p ↔ accepted other (s.run rd (ownOps s ops) t) p := by
  have hnone : ∀ s' : Server, t.rules s'.chain = none := fun s' => (hforeign s').1
  have hflat : Flat s t := by
    intro ds hds
    rw [hnone s] at hds
    cases hds
  have hspared : Spared other s p t := by
    obtain ⟨-, rs, hrs, hmatch⟩ := hforeign s
    exact ⟨rs, hrs, fun r hr _ => hmatch r hr⟩
  exact accepted_of_agree other (agree_runAll rd ops (Agree.refl hnone)) (flat_run rd _ hflat)
    (spared_runAll rd other hports hspared)
    (screened_run rd other _ (screened_of_foreign other (hforeign s)))

/-- The shell is set up on port 22 before the pages are on port 80, and shut down after. -/
def threeRuns : List (Server × ServerOp) :=
  [(.ssh, .setup true (portConfig "22")), (.admin, .setup true (portConfig "80")), (.ssh, .shut)]

/-- Calls of all three servers, and a packet to the web server. -/
theorem accepted_threeRuns :
    accepted (fun t : Empty => t.elim) (runAll decimalReadings threeRuns (emptyTable Empty))
        { tcp := true, dport := 80, source := 0, mac := 0 } ↔
      accepted (fun t : Empty => t.elim)
        (Server.admin.run decimalReadings [.setup true (portConfig "80")] (emptyTable Empty))
        { tcp := true, dport := 80, source := 0, mac := 0 } :=
  accepted_runAll decimalReadings _ .admin threeRuns _ _ (fun s' => foreign_emptyTable _ s' _)
    (by decide)

end Tiger.Analysis.ManagerInterleaving
