import Mathlib.Data.List.AList

/-!
# Ordered rule tables

A packet filter as a finite map from chain names to ordered rule lists. A rule
has a condition and a target; a jump runs the named chain and falls through when
that chain decides nothing. `Table` carries the fact that every jump names an
existing chain, so a chain that does not exist is never referenced.

The commands are the five that edit a table by hand: create a chain, flush it,
append a rule, delete the first identical rule, and delete a chain that is empty
and unreferenced. Each has one `rules_` lemma saying what every chain holds
afterwards; the analysis reads tables through these lemmas only.

`verdict_of_guarded` is the evaluation rule the access-control results use: in a
chain whose matching rules all jump to one chain, a packet gets the verdict of
that chain as soon as one rule matches it, and the policy otherwise.
-/

set_option autoImplicit false

namespace Tiger.Library

/-- What a matching rule does with a packet. -/
inductive Target (κ : Type) where
  | accept
  | drop
  | jump (chain : κ)
  deriving DecidableEq

/-- A rule: a condition on packets and the target of the packets that meet it. -/
structure Rule (κ μ : Type) where
  cond : μ
  target : Target κ
  deriving DecidableEq

/-- A final decision on a packet. -/
inductive Verdict where
  | accept
  | drop
  deriving DecidableEq

/-- Chains with their rules, in order. Every jump names an existing chain. -/
structure Table (κ μ : Type) [DecidableEq κ] where
  chains : AList (fun _ : κ => List (Rule κ μ))
  closed : ∀ c rs, chains.lookup c = some rs →
    ∀ r ∈ rs, ∀ d, r.target = .jump d → (chains.lookup d).isSome

namespace Table

variable {κ μ P : Type} [DecidableEq κ]

/-! ## Reading and writing chains -/

/-- The rules of a chain, `none` when there is no such chain. -/
def rules (t : Table κ μ) (c : κ) : Option (List (Rule κ μ)) := t.chains.lookup c

/-- Some rule of the table jumps to `c`. -/
def Referenced (t : Table κ μ) (c : κ) : Prop :=
  ∃ d rs, t.rules d = some rs ∧ ∃ r ∈ rs, r.target = .jump c

/-- Every target of `rs` that is a jump names `c` or a chain of the table. -/
def Allowed (t : Table κ μ) (c : κ) (rs : List (Rule κ μ)) : Prop :=
  ∀ r ∈ rs, ∀ d, r.target = .jump d → d = c ∨ (t.rules d).isSome

/-- Give the chain `c` the rules `rs`, creating it if needed. -/
def put (t : Table κ μ) (c : κ) (rs : List (Rule κ μ)) (h : t.Allowed c rs) : Table κ μ where
  chains := t.chains.insert c rs
  closed := by
    intro d ds hd r hr e he
    by_cases hec : e = c
    · rw [hec, AList.lookup_insert]
      rfl
    rw [AList.lookup_insert_ne hec]
    by_cases hdc : d = c
    · subst hdc
      rw [AList.lookup_insert, Option.some.injEq] at hd
      subst hd
      exact (h r hr e he).resolve_left hec
    · rw [AList.lookup_insert_ne hdc] at hd
      exact t.closed d ds hd r hr e he

/-- Putting rules into a chain leaves every other chain as it is. -/
@[simp] theorem rules_put (t : Table κ μ) (c d : κ) (rs : List (Rule κ μ))
    (h : t.Allowed c rs) :
    (t.put c rs h).rules d = if d = c then some rs else t.rules d := by
  unfold rules put
  split
  · next hdc => rw [hdc, AList.lookup_insert]
  · next hdc => rw [AList.lookup_insert_ne hdc]

/-- A jump that stands in a chain names an existing chain. -/
theorem isSome_of_jump {t : Table κ μ} {c d : κ} {rs : List (Rule κ μ)} {r : Rule κ μ}
    (hc : t.rules c = some rs) (hr : r ∈ rs) (hd : r.target = .jump d) :
    (t.rules d).isSome :=
  t.closed c rs hc r hr d hd

/-- A chain that does not exist is not referenced. -/
theorem not_referenced_of_none {t : Table κ μ} {c : κ} (h : t.rules c = none) :
    ¬ t.Referenced c := by
  rintro ⟨d, rs, hd, r, hr, ht⟩
  have hsome := isSome_of_jump hd hr ht
  rw [h] at hsome
  cases hsome

/-- Referencing a chain is a finite check over the entries of the table. -/
theorem referenced_iff (t : Table κ μ) (c : κ) :
    t.Referenced c ↔ ∃ e ∈ t.chains.entries, ∃ r ∈ e.2, r.target = .jump c := by
  constructor
  · rintro ⟨d, rs, hd, r, hr, ht⟩
    exact ⟨⟨d, rs⟩, AList.mem_lookup_iff.mp hd, r, hr, ht⟩
  · rintro ⟨⟨d, rs⟩, he, r, hr, ht⟩
    exact ⟨d, rs, AList.mem_lookup_iff.mpr he, r, hr, ht⟩

instance (t : Table κ μ) (c : κ) : Decidable (t.Referenced c) :=
  decidable_of_iff _ (t.referenced_iff c).symm

/-- The table without chains. -/
def empty : Table κ μ where
  chains := ∅
  closed := by
    intro c rs hc
    rw [AList.lookup_empty] at hc
    cases hc

/-- The empty table has no chain. -/
theorem rules_empty (c : κ) : (empty : Table κ μ).rules c = none := AList.lookup_empty c

/-! ## The commands -/

/-- A chain's own rules, or fewer of them, may be written back. -/
theorem allowed_of_subset {t : Table κ μ} {c d : κ} {rs qs : List (Rule κ μ)}
    (hd : t.rules d = some rs) (hq : qs ⊆ rs) : t.Allowed c qs :=
  fun _ hr _ ht => Or.inr (isSome_of_jump hd (hq hr) ht)

/-- A chain without rules can always be put. -/
theorem allowed_nil (t : Table κ μ) (c : κ) : t.Allowed c [] :=
  fun _ hr => by cases hr

/-- Create an empty chain; no effect when the chain exists. -/
def newChain (t : Table κ μ) (c : κ) : Table κ μ :=
  match t.rules c with
  | none => t.put c [] (t.allowed_nil c)
  | some _ => t

/-- Remove all rules of a chain; no effect when there is no such chain. -/
def flush (t : Table κ μ) (c : κ) : Table κ μ :=
  match t.rules c with
  | none => t
  | some _ => t.put c [] (t.allowed_nil c)

/-- The target of `r` can be used: it decides, or it jumps to an existing chain. -/
def targetExists (t : Table κ μ) (r : Rule κ μ) : Bool :=
  match r.target with
  | .jump d => (t.rules d).isSome
  | _ => true

/-- A rule whose target exists may go to the end of a chain. -/
theorem allowed_append {t : Table κ μ} {c : κ} {rs : List (Rule κ μ)} {r : Rule κ μ}
    (hc : t.rules c = some rs) (hr : t.targetExists r = true) : t.Allowed c (rs ++ [r]) := by
  intro q hq d hd
  rcases List.mem_append.mp hq with hq | hq
  · exact Or.inr (isSome_of_jump hc hq hd)
  · rw [List.mem_singleton] at hq
    subst hq
    unfold targetExists at hr
    rw [hd] at hr
    exact Or.inr hr

/-- Append a rule to a chain; no effect when the chain or the jump target is missing. -/
def append (t : Table κ μ) (c : κ) (r : Rule κ μ) : Table κ μ :=
  match hc : t.rules c with
  | none => t
  | some rs =>
    if hr : t.targetExists r = true then t.put c (rs ++ [r]) (allowed_append hc hr) else t

/-- Delete the first rule of a chain that is identical to `r`. -/
def delete [DecidableEq μ] (t : Table κ μ) (c : κ) (r : Rule κ μ) : Table κ μ :=
  match hc : t.rules c with
  | none => t
  | some rs => t.put c (rs.erase r) (allowed_of_subset hc List.erase_subset)

/-- Remove a chain from the table. -/
def drop (t : Table κ μ) (c : κ) (h : ¬ t.Referenced c) : Table κ μ where
  chains := t.chains.erase c
  closed := by
    intro d ds hd r hr e he
    have hdc : d ≠ c := by
      rintro rfl
      rw [AList.lookup_erase] at hd
      cases hd
    rw [AList.lookup_erase_ne hdc] at hd
    have hec : e ≠ c := by
      rintro rfl
      exact h ⟨d, ds, hd, r, hr, he⟩
    rw [AList.lookup_erase_ne hec]
    exact t.closed d ds hd r hr e he

/-- Delete a chain; no effect unless the chain is empty and unreferenced. -/
def deleteChain (t : Table κ μ) (c : κ) : Table κ μ :=
  match t.rules c with
  | some [] => if h : t.Referenced c then t else t.drop c h
  | _ => t

/-- A new chain has no rules, and one that exists keeps its own. -/
theorem rules_newChain (t : Table κ μ) (c d : κ) :
    (t.newChain c).rules d = if d = c then some ((t.rules c).getD []) else t.rules d := by
  unfold newChain
  split
  · next hc => rw [rules_put, hc, Option.getD_none]
  · next rs hc =>
    split
    · next hdc => simp [hdc, hc]
    · rfl

/-- Flushing takes the rules out of one chain. -/
theorem rules_flush (t : Table κ μ) (c d : κ) :
    (t.flush c).rules d = if d = c then (t.rules c).map (fun _ => []) else t.rules d := by
  unfold flush
  split
  · next hc =>
    split
    · next hdc => simp [hdc, hc]
    · rfl
  · next rs hc => rw [rules_put, hc, Option.map_some]

/-- A rule goes to the end of one chain, if the chain and the target exist. -/
theorem rules_append (t : Table κ μ) (c d : κ) (r : Rule κ μ) :
    (t.append c r).rules d =
      if d = c ∧ t.targetExists r = true then (t.rules c).map (· ++ [r]) else t.rules d := by
  unfold append
  split
  · next hc =>
    split
    · next h => simp [h.1, hc]
    · rfl
  · next rs hc =>
    by_cases hr : t.targetExists r = true
    · simp [hr, hc]
    · simp [hr]

/-- Deleting takes the first such rule out of one chain. -/
theorem rules_delete [DecidableEq μ] (t : Table κ μ) (c d : κ) (r : Rule κ μ) :
    (t.delete c r).rules d = if d = c then (t.rules c).map (·.erase r) else t.rules d := by
  unfold delete
  split
  · next hc =>
    split
    · next hdc => simp [hdc, hc]
    · rfl
  · next rs hc => simp [hc]

/-- Dropping takes one chain away. -/
theorem rules_drop (t : Table κ μ) (c d : κ) (h : ¬ t.Referenced c) :
    (t.drop c h).rules d = if d = c then none else t.rules d := by
  unfold rules drop
  split
  · next hdc => rw [hdc, AList.lookup_erase]
  · next hdc => rw [AList.lookup_erase_ne hdc]

/-- An empty unreferenced chain is removed. -/
theorem rules_deleteChain {t : Table κ μ} {c : κ} (h : ¬ t.Referenced c)
    (hempty : t.rules c = some []) (d : κ) :
    (t.deleteChain c).rules d = if d = c then none else t.rules d := by
  unfold deleteChain
  rw [hempty]
  simp only [dif_neg h]
  exact rules_drop t c d h

/-- Deleting a chain leaves the others alone. -/
theorem rules_deleteChain_of_ne (t : Table κ μ) {c d : κ} (hd : d ≠ c) :
    (t.deleteChain c).rules d = t.rules d := by
  unfold deleteChain
  split
  · split
    · rfl
    · next h => rw [rules_drop, if_neg hd]
  · rfl

/-- Deleting a chain that does not exist has no effect. -/
theorem deleteChain_of_none {t : Table κ μ} {c : κ} (h : t.rules c = none) :
    t.deleteChain c = t := by
  unfold deleteChain
  rw [h]

/-- Deleting a chain that something jumps to has no effect. -/
theorem deleteChain_of_referenced {t : Table κ μ} {c : κ} (h : t.Referenced c) :
    t.deleteChain c = t := by
  unfold deleteChain
  split
  · exact dif_pos h
  · rfl

/-- Deleting a chain that is not empty has no effect. -/
theorem deleteChain_of_ne_nil {t : Table κ μ} {c : κ} (h : t.rules c ≠ some []) :
    t.deleteChain c = t := by
  unfold deleteChain
  split
  · next hempty => exact absurd hempty h
  · rfl

/-- A chain that is to be deleted is gone or as it was. -/
theorem rules_deleteChain_self (t : Table κ μ) (c : κ) :
    (t.deleteChain c).rules c = none ∨ (t.deleteChain c).rules c = t.rules c := by
  by_cases href : t.Referenced c
  · exact Or.inr (by rw [deleteChain_of_referenced href])
  cases hc : t.rules c with
  | none => exact Or.inl (by rw [deleteChain_of_none hc, hc])
  | some rs =>
    cases rs with
    | nil => exact Or.inl (by rw [rules_deleteChain href hc, if_pos rfl])
    | cons r rs => exact Or.inr (by rw [deleteChain_of_ne_nil (by simp [hc]), hc])

/-- **Restoring.** A table that differs from `t` by an empty chain `c` that `t` does not have
is `t` again once `c` is deleted. -/
theorem rules_deleteChain_of_fresh {t u : Table κ μ} {c : κ} (hfresh : t.rules c = none)
    (hempty : ∀ rs, u.rules c = some rs → rs = [])
    (hsame : ∀ d, d ≠ c → u.rules d = t.rules d) (d : κ) :
    (u.deleteChain c).rules d = t.rules d := by
  have hfree : ¬ u.Referenced c := by
    rintro ⟨e, rs, he, r, hr, ht⟩
    by_cases hec : e = c
    · rw [hec] at he
      rw [hempty rs he] at hr
      cases hr
    · rw [hsame e hec] at he
      exact not_referenced_of_none hfresh ⟨e, rs, he, r, hr, ht⟩
  by_cases hd : d = c
  · rw [hd, hfresh]
    cases hc : u.rules c with
    | none => rw [deleteChain_of_none hc, hc]
    | some rs =>
      rw [hempty rs hc] at hc
      rw [rules_deleteChain hfree hc, if_pos rfl]
  · rw [rules_deleteChain_of_ne u hd, hsame d hd]

/-! ## Evaluation -/

/-- The decision of a rule list, where `call` decides the chains it jumps to. -/
def decide (sat : μ → P → Bool) (call : κ → Option Verdict) (p : P) :
    List (Rule κ μ) → Option Verdict
  | [] => none
  | r :: rs =>
    if sat r.cond p then
      match r.target with
      | .accept => some .accept
      | .drop => some .drop
      | .jump d => (call d).or (decide sat call p rs)
    else decide sat call p rs

/-- The decision of a chain, with jumps nested at most `depth` deep. -/
def walk (t : Table κ μ) (sat : μ → P → Bool) (p : P) : ℕ → κ → Option Verdict
  | 0, _ => none
  | depth + 1, c => decide sat (walk t sat p depth) p ((t.rules c).getD [])

/-- The verdict of a chain with policy `policy`. Jumps do not loop, so they nest no
deeper than there are chains. -/
def verdict (t : Table κ μ) (sat : μ → P → Bool) (policy : Verdict) (c : κ) (p : P) : Verdict :=
  (t.walk sat p t.chains.entries.length c).getD policy

omit [DecidableEq κ] in
/-- When every matching rule jumps to `d` and `d` decides, the first match decides. -/
theorem decide_of_jumps {sat : μ → P → Bool} {call : κ → Option Verdict} {p : P}
    {rs : List (Rule κ μ)} {d : κ} {v : Verdict} (hd : call d = some v)
    (h : ∀ r ∈ rs, sat r.cond p = true → r.target = .jump d) :
    decide sat call p rs = if ∃ r ∈ rs, sat r.cond p = true then some v else none := by
  induction rs with
  | nil => simp [decide]
  | cons r rs ih =>
    have htail := ih fun q hq => h q (List.mem_cons_of_mem _ hq)
    unfold decide
    by_cases hr : sat r.cond p = true
    · rw [if_pos hr, h r (by simp) hr]
      simp [hd, hr]
    · rw [if_neg hr, htail]
      simp [hr]

omit [DecidableEq κ] in
/-- A list of accepting rules closed by a rule that drops everything. -/
theorem decide_accepts_then_drop {sat : μ → P → Bool} {call : κ → Option Verdict} {p : P}
    {conds : List μ} {any : μ} (hany : sat any p = true) :
    decide sat call p (conds.map (fun m => ⟨m, .accept⟩) ++ [⟨any, .drop⟩]) =
      if ∃ m ∈ conds, sat m p = true then some .accept else some .drop := by
  induction conds with
  | nil => simp [decide, hany]
  | cons m conds ih =>
    rw [List.map_cons, List.cons_append]
    unfold decide
    by_cases hm : sat m p = true
    · simp [hm]
    · rw [if_neg hm, ih]
      simp [hm]

/-- Two chains give the evaluation at least two levels of nesting. -/
theorem two_le_entries {t : Table κ μ} {c d : κ} (hcd : c ≠ d)
    (hc : (t.rules c).isSome) (hd : (t.rules d).isSome) : 2 ≤ t.chains.entries.length := by
  have hc' : c ∈ t.chains.keys := AList.mem_keys.mp (AList.lookup_isSome.mp hc)
  have hd' : d ∈ t.chains.keys := AList.mem_keys.mp (AList.lookup_isSome.mp hd)
  have hlen : t.chains.keys.length = t.chains.entries.length := by
    simp [AList.keys, List.keys]
  rw [← hlen]
  have hsub : [c, d].Subperm t.chains.keys :=
    (List.subperm_of_subset (by simp [hcd]) (by simp [hc', hd']))
  simpa using hsub.length_le

/-- **The guarded chain.** In the chain `c` every rule that matches the packet jumps to
`d`; `d` accepts the packets that meet one of `conds` and drops all others. The packet
is accepted exactly when `c` lets it through to the policy or `d` accepts it. -/
theorem verdict_of_guarded {t : Table κ μ} {sat : μ → P → Bool} {p : P} {c d : κ}
    {rs : List (Rule κ μ)} {conds : List μ} {any : μ} (hcd : c ≠ d)
    (hc : t.rules c = some rs)
    (hd : t.rules d = some (conds.map (fun m => ⟨m, .accept⟩) ++ [⟨any, .drop⟩]))
    (hany : sat any p = true)
    (hjump : ∀ r ∈ rs, sat r.cond p = true → r.target = .jump d) :
    t.verdict sat .accept c p = .accept ↔
      ((∃ r ∈ rs, sat r.cond p = true) → ∃ m ∈ conds, sat m p = true) := by
  have hdepth : 2 ≤ t.chains.entries.length :=
    two_le_entries hcd (by rw [hc]; rfl) (by rw [hd]; rfl)
  obtain ⟨n, hn⟩ := Nat.exists_eq_add_of_le' hdepth
  have hcall : t.walk sat p (n + 1) d =
      if ∃ m ∈ conds, sat m p = true then some .accept else some .drop := by
    unfold walk
    rw [hd, Option.getD_some]
    exact decide_accepts_then_drop hany
  unfold verdict
  rw [hn]
  unfold walk
  rw [hc, Option.getD_some]
  by_cases hm : ∃ m ∈ conds, sat m p = true
  · rw [if_pos hm] at hcall
    rw [decide_of_jumps hcall hjump]
    split <;> simp [hm]
  · rw [if_neg hm] at hcall
    rw [decide_of_jumps hcall hjump]
    by_cases hr : ∃ r ∈ rs, sat r.cond p = true
    · simp [hr, hm]
    · simp [hr]

omit [DecidableEq κ] in
/-- Where every matching rule jumps to `d` and `d` decides nothing, nothing is decided. -/
theorem decide_of_jumps_none {sat : μ → P → Bool} {call : κ → Option Verdict} {p : P}
    {rs : List (Rule κ μ)} {d : κ} (hd : call d = none)
    (h : ∀ r ∈ rs, sat r.cond p = true → r.target = .jump d) : decide sat call p rs = none := by
  induction rs with
  | nil => rfl
  | cons r rs ih =>
    have htail := ih fun q hq => h q (List.mem_cons_of_mem _ hq)
    unfold decide
    by_cases hr : sat r.cond p = true
    · rw [if_pos hr, h r List.mem_cons_self hr]
      simp [hd, htail]
    · rw [if_neg hr, htail]

omit [DecidableEq κ] in
/-- A list without jumps decides by itself. -/
theorem decide_of_flat {sat : μ → P → Bool} {p : P} {rs : List (Rule κ μ)}
    (h : ∀ r ∈ rs, ∀ e, r.target ≠ .jump e) (call call' : κ → Option Verdict) :
    decide sat call p rs = decide sat call' p rs := by
  induction rs with
  | nil => rfl
  | cons r rs ih =>
    have htail := ih fun q hq => h q (List.mem_cons_of_mem _ hq)
    unfold decide
    rw [htail]
    cases htarget : r.target with
    | accept => rfl
    | drop => rfl
    | jump e => exact absurd htarget (h r List.mem_cons_self e)

/-- **The screened chain.** In the chain `c` every rule that matches the packet jumps to `d`, and
`d` has no jumps. The packet gets the decision of `d` when a rule matches, and the policy
where there is none. -/
theorem verdict_of_screened {t : Table κ μ} {sat : μ → P → Bool} {p : P} {c d : κ}
    {rs : List (Rule κ μ)} (policy : Verdict) (hcd : c ≠ d) (hc : t.rules c = some rs)
    (hjump : ∀ r ∈ rs, sat r.cond p = true → r.target = .jump d)
    (hflat : ∀ ds, t.rules d = some ds → ∀ r ∈ ds, ∀ e, r.target ≠ .jump e) :
    t.verdict sat policy c p =
      (if ∃ r ∈ rs, sat r.cond p = true then
        decide sat (fun _ => none) p ((t.rules d).getD []) else none).getD policy := by
  unfold verdict
  by_cases hmatch : ∃ r ∈ rs, sat r.cond p = true
  · obtain ⟨r, hr, hsat⟩ := hmatch
    have hd : (t.rules d).isSome := isSome_of_jump hc hr (hjump r hr hsat)
    have hdepth : 2 ≤ t.chains.entries.length := two_le_entries hcd (by rw [hc]; rfl) hd
    obtain ⟨n, hn⟩ := Nat.exists_eq_add_of_le' hdepth
    obtain ⟨ds, hds⟩ := Option.isSome_iff_exists.mp hd
    have hcall : t.walk sat p (n + 1) d = decide sat (fun _ => none) p ds := by
      unfold walk
      rw [hds, Option.getD_some]
      exact decide_of_flat (hflat ds hds) _ _
    rw [hn, if_pos ⟨r, hr, hsat⟩, hds, Option.getD_some]
    unfold walk
    rw [hc, Option.getD_some]
    congr 1
    cases hdec : decide sat (fun _ => none) p ds with
    | none => exact decide_of_jumps_none (hcall.trans hdec) hjump
    | some v => rw [decide_of_jumps (hcall.trans hdec) hjump, if_pos ⟨r, hr, hsat⟩]
  · rw [if_neg hmatch]
    congr 1
    cases t.chains.entries.length with
    | zero => rfl
    | succ n =>
      unfold walk
      rw [hc, Option.getD_some]
      -- no rule matches, so any chain may stand for the one jumped to
      have hnone : ∀ call : κ → Option Verdict, decide sat call p rs = none := by
        intro call
        clear hc hjump
        induction rs with
        | nil => rfl
        | cons r rs ih =>
          unfold decide
          rw [if_neg fun hsat => hmatch ⟨r, List.mem_cons_self, hsat⟩]
          exact ih fun ⟨q, hq, hsat⟩ => hmatch ⟨q, List.mem_cons_of_mem _ hq, hsat⟩
      exact hnone _

end Table

end Tiger.Library
