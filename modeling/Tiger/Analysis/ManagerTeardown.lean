import Tiger.Analysis.ManagerTable

/-!
# Whether shut undoes setup

`_setup` appends jumps to `INPUT` that carry a port; `_shut` deletes a jump without
one. The two rules are never identical, so a jump that was inserted stays, it keeps
the chain referenced, and the chain is never deleted (`jumped_run`). Where `_setup`
inserts no jump, flushing the chain and deleting it gives back the table as it was
(`restored_run`).
-/

set_option autoImplicit false

namespace Tiger.Analysis.ManagerTeardown

open Tiger.Library Tiger.Model Tiger.Model.Manager Tiger.Analysis.ManagerTable

variable {α : Type} [DecidableEq α] (rd : PortReadings)

/-- One `_setup` followed by one `_shut`; the port may have changed in between, but `_shut`
reads no configuration. -/
def pairStep (s : Server) (t : FilterTable α) (setting : Bool × Option Talk) : FilterTable α :=
  s.shut (s.setup rd setting.1 setting.2 t)

/-- A sequence of such pairs. -/
def pairRun (s : Server) (settings : List (Bool × Option Talk)) (t : FilterTable α) :
    FilterTable α :=
  settings.foldl (pairStep rd s) t

/-- No rule jumps to the server's chain, the chain is gone, and `INPUT` is that of `t₀`. -/
def TornDown (s : Server) (t₀ t : FilterTable α) : Prop :=
  ¬ t.Referenced s.chain ∧ t.rules s.chain = none ∧ t.rules inputChain = t₀.rules inputChain

/-- `_setup` inserts a jump for this configuration: the daemon is there, the server is
enabled, there is a manager text and `iptables` accepts one of the port texts. -/
def InsertsJump (s : Server) (setting : Bool × Option Talk) : Prop :=
  opens s setting.1 setting.2 = true ∧ guardPorts rd s setting.2 ≠ []

instance (s : Server) (setting : Bool × Option Talk) : Decidable (InsertsJump rd s setting) :=
  inferInstanceAs (Decidable (_ ∧ _))

/-! ## A jump that was inserted stays -/

/-- `INPUT` has a jump with a port to the server's chain. -/
def Jumped (s : Server) (t : FilterTable α) : Prop :=
  ∃ rs n, t.rules inputChain = some rs ∧ jump α s.chain n ∈ rs

omit [DecidableEq α] in
/-- A chain with a jump to it cannot be dropped. -/
theorem referenced_of_jumped {s : Server} {t : FilterTable α} (h : Jumped s t) :
    t.Referenced s.chain := by
  obtain ⟨rs, n, hrs, hmem⟩ := h
  exact ⟨inputChain, rs, hrs, jump α s.chain n, hmem, rfl⟩

/-- The jump that `_shut` deletes has no port, so the others stay. -/
theorem jumped_shut {s : Server} {t : FilterTable α} (h : Jumped s t) : Jumped s (s.shut t) := by
  obtain ⟨rs, n, hrs, hmem⟩ := h
  refine ⟨rs.erase (bareJump α s.chain), n, ?_, ?_⟩
  · rw [rules_shut_of_ne t (chain_ne_input s).symm, if_pos rfl, hrs]
    rfl
  · have hne : jump α s.chain n ≠ bareJump α s.chain := by
      intro heq
      cases congrArg Rule.cond heq
    exact (List.mem_erase_of_ne hne).mpr hmem

/-- `_setup` appends to `INPUT` what it deletes from it. -/
theorem jumped_setup {s : Server} {t : FilterTable α} (setting : Bool × Option Talk)
    (h : Jumped s t) : Jumped s (s.setup rd setting.1 setting.2 t) := by
  obtain ⟨rs, n, hrs, hmem⟩ := h
  by_cases hopens : opens s setting.1 setting.2 = true
  · refine ⟨(guardPorts rd s setting.2).foldl (reinsert s.chain) rs, n, ?_, ?_⟩
    · rw [rules_setup rd t inputChain hopens, if_neg (chain_ne_input s).symm, if_pos rfl, hrs]
      rfl
    · exact (mem_foldl_reinsert _ _ _).mpr (Or.inl hmem)
  · rw [setup_of_not_opens rd t (Bool.eq_false_iff.mpr hopens)]
    exact ⟨rs, n, hrs, hmem⟩

/-- A `_setup` that inserts a jump. -/
theorem jumped_of_insertsJump {s : Server} {t : FilterTable α} {setting : Bool × Option Talk}
    (hinput : (t.rules inputChain).isSome) (h : InsertsJump rd s setting) :
    Jumped s (s.setup rd setting.1 setting.2 t) := by
  obtain ⟨hopens, hports⟩ := h
  obtain ⟨rs, hrs⟩ := Option.isSome_iff_exists.mp hinput
  obtain ⟨n, hn⟩ := List.exists_mem_of_ne_nil _ hports
  refine ⟨(guardPorts rd s setting.2).foldl (reinsert s.chain) rs, n, ?_, ?_⟩
  · rw [rules_setup rd t inputChain hopens, if_neg (chain_ne_input s).symm, if_pos rfl, hrs]
    rfl
  · exact (mem_foldl_reinsert _ _ _).mpr (Or.inr ⟨n, hn, rfl⟩)

/-- A jump that is there stays over further runs. -/
theorem jumped_run {s : Server} {t : FilterTable α} (settings : List (Bool × Option Talk))
    (h : Jumped s t) : Jumped s (pairRun rd s settings t) := by
  induction settings generalizing t with
  | nil => exact h
  | cons setting settings ih => exact ih (jumped_shut (jumped_setup rd setting h))

/-! ## Without a jump the table comes back -/

/-- Every chain is as in `t₀`. -/
def Restored (t₀ t : FilterTable α) : Prop := ∀ d, t.rules d = t₀.rules d

/-- In a table without the server's chain, `_shut` undoes a `_setup` that inserts no jump. -/
theorem restored_pairStep {s : Server} {t : FilterTable α} {setting : Bool × Option Talk}
    (hfresh : t.rules s.chain = none) (h : ¬ InsertsJump rd s setting) :
    Restored t (pairStep rd s t setting) := by
  -- no rule of the fresh table jumps to the chain
  have hinput : ∀ rs, t.rules inputChain = some rs → bareJump α s.chain ∉ rs := by
    intro rs hrs hmem
    have hsome := Table.isSome_of_jump hrs hmem rfl
    rw [hfresh] at hsome
    cases hsome
  have herase : (t.rules inputChain).map (·.erase (bareJump α s.chain)) = t.rules inputChain := by
    cases hrs : t.rules inputChain with
    | none => rfl
    | some rs => rw [Option.map_some, List.erase_of_not_mem (hinput rs hrs)]
  -- `_setup` changes at most the server's own chain
  have hsetup : ∀ d, d ≠ s.chain → (s.setup rd setting.1 setting.2 t).rules d = t.rules d := by
    intro d hd
    by_cases hopens : opens s setting.1 setting.2 = true
    · have hports : guardPorts rd s setting.2 = [] := by
        by_contra hne
        exact h ⟨hopens, hne⟩
      rw [rules_setup rd t d hopens, if_neg hd, hports]
      by_cases hdi : d = inputChain
      · rw [if_pos hdi, hdi]
        exact Option.map_id'
      · rw [if_neg hdi]
    · rw [setup_of_not_opens rd t (Bool.eq_false_iff.mpr hopens)]
  intro d
  unfold pairStep
  rw [shut_eq]
  apply Table.rules_deleteChain_of_fresh hfresh
  · intro rs hrs
    rw [Table.rules_delete, if_neg (chain_ne_input s), Table.rules_flush, if_pos rfl] at hrs
    obtain ⟨_, -, rfl⟩ := Option.map_eq_some_iff.mp hrs
    rfl
  · intro e he
    rw [Table.rules_delete, Table.rules_flush, Table.rules_flush, if_neg he,
      if_neg (chain_ne_input s).symm, hsetup e he, hsetup inputChain (chain_ne_input s).symm]
    by_cases hei : e = inputChain
    · rw [if_pos hei, hei, herase]
    · rw [if_neg hei]

/-- Runs without a jump restore the table. -/
theorem restored_run {s : Server} {t₀ t : FilterTable α}
    (settings : List (Bool × Option Talk)) (hfresh : t₀.rules s.chain = none)
    (h : ∀ setting ∈ settings, ¬ InsertsJump rd s setting) (ht : Restored t₀ t) :
    Restored t₀ (pairRun rd s settings t) := by
  induction settings generalizing t with
  | nil => exact ht
  | cons setting settings ih =>
    have hfirst : Restored t (pairStep rd s t setting) :=
      restored_pairStep rd ((ht s.chain).trans hfresh) (h setting List.mem_cons_self)
    apply ih
    · intro later hlater
      exact h later (List.mem_cons_of_mem _ hlater)
    · intro d
      exact (hfirst d).trans (ht d)

/-! ## Teardown -/

/-- `INPUT` is never removed. -/
theorem isSome_pairStep {s : Server} {t : FilterTable α} (setting : Bool × Option Talk)
    (hinput : (t.rules inputChain).isSome) :
    ((pairStep rd s t setting).rules inputChain).isSome := by
  have hsetup : ((s.setup rd setting.1 setting.2 t).rules inputChain).isSome := by
    by_cases hopens : opens s setting.1 setting.2 = true
    · rw [rules_setup rd t inputChain hopens, if_neg (chain_ne_input s).symm, if_pos rfl,
        Option.isSome_map]
      exact hinput
    · rw [setup_of_not_opens rd t (Bool.eq_false_iff.mpr hopens)]
      exact hinput
  unfold pairStep
  rw [rules_shut_of_ne _ (chain_ne_input s).symm, if_pos rfl, Option.isSome_map]
  exact hsetup

/-- A sequence with a jump leaves the jump. -/
theorem jumped_of_mem {s : Server} {t : FilterTable α} {settings : List (Bool × Option Talk)}
    (hinput : (t.rules inputChain).isSome)
    (h : ∃ setting ∈ settings, InsertsJump rd s setting) : Jumped s (pairRun rd s settings t) := by
  induction settings generalizing t with
  | nil =>
    obtain ⟨setting, hmem, -⟩ := h
    cases hmem
  | cons setting settings ih =>
    by_cases hins : InsertsJump rd s setting
    · exact jumped_run rd settings (jumped_shut (jumped_of_insertsJump rd hinput hins))
    · obtain ⟨later, hmem, hlater⟩ := h
      have hne : later ≠ setting := by
        rintro rfl
        exact hins hlater
      exact ih (isSome_pairStep rd setting hinput)
        ⟨later, (List.mem_cons.mp hmem).resolve_left hne, hlater⟩

/-- **Teardown.** In a table without the server's chain, a sequence of `_setup` and `_shut`
pairs is undone, chain, jumps and `INPUT`, if and only if none of its configurations makes
`_setup` insert a jump. -/
theorem teardown_iff (s : Server) (t : FilterTable α) (settings : List (Bool × Option Talk))
    (hfresh : t.rules s.chain = none) (hinput : (t.rules inputChain).isSome) :
    TornDown s t (pairRun rd s settings t) ↔ ∀ setting ∈ settings, ¬ InsertsJump rd s setting := by
  constructor
  · rintro ⟨hfree, -, -⟩ setting hmem hins
    exact hfree (referenced_of_jumped (jumped_of_mem rd hinput ⟨setting, hmem, hins⟩))
  · intro h
    have hback : Restored t (pairRun rd s settings t) :=
      restored_run rd settings hfresh h fun _ => rfl
    have hgone : (pairRun rd s settings t).rules s.chain = none := (hback s.chain).trans hfresh
    exact ⟨Table.not_referenced_of_none hgone, hgone, hback inputChain⟩

/-- A secure shell whose managers are set and whose port is not: nothing is left. -/
theorem teardown_without_port :
    TornDown .ssh (emptyTable Empty) (pairRun decimalReadings .ssh
      [(true, some (.json [("status", .text "enable"), ("manager", .text "192.168.1.10")]))]
      (emptyTable Empty)) :=
  (teardown_iff decimalReadings .ssh (emptyTable Empty) _ (by decide) (by decide)).mpr (by decide)

/-- The administration pages on port 80 with a manager: the jump of port 80 stays in
`INPUT`, and the chain with it. -/
theorem teardown_fails_with_port :
    ¬ TornDown .admin (emptyTable Empty) (pairRun decimalReadings .admin
      [(false, some (.json [("status", .text "enable"), ("port", .text "80"),
        ("manager", .text "192.168.1.10")]))]
      (emptyTable Empty)) := by
  rintro ⟨-, hgone, -⟩
  revert hgone
  decide

end Tiger.Analysis.ManagerTeardown
