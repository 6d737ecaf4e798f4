import Mathlib.Data.List.Nodup
import Mathlib.Logic.Function.Iterate
import Tiger.Analysis.RadioTeardown

/-!
# MAC addresses of a radio's interfaces

`_setup` compares the address a new interface comes up with against the address last
given out only. `handOut` is what the loop leaves: the interface keeps its address, or
takes the next one when it has none or exactly the last one.

The addresses given out follow the root device's own, so two of them never collide.
`addresses_iff_apart` says which addresses of new interfaces are safe: for some `N`,
the interfaces with no address or with one of the first `N + 1` addresses are `N`, each
of them came up with the address given out just before, and the others differ.
-/

set_option autoImplicit false

namespace Tiger.Analysis.RadioAddresses

open Tiger.Model Tiger.Model.Radio Tiger.Analysis.RadioTeardown

/-! ## Interfaces and their addresses -/

/-- The interfaces of the configured SSIDs, in the order they are created. -/
def interfaces (r : Object) : List String := (configured r "ssid").map Prod.snd

/-- The interfaces are created by the setup. -/
def NewInterfaces (r : Object) (n : Net) : Prop :=
  (interfaces r).Nodup ∧ ∀ d ∈ interfaces r, n.macs d = none

/-- The root device and all interfaces have addresses of their own. -/
def DistinctMacs (r : Object) (rootdev : String) (n : Net) : Prop :=
  ((rootdev :: interfaces r).map n.macs).Nodup

/-- The MAC address that is `i` after the root's. -/
def following (k : Kit) (root : Mac) (i : ℕ) : Mac := (fun m => k.mac2add m 1)^[i] root

/-- The toolkit's functions on MAC addresses do what they are for: an address is read back
from its text, and adding one gives a new address each time, at least for the interfaces of
one radio. -/
structure Lawful (k : Kit) : Prop where
  read_back : ∀ m, k.string2mac (k.mac2string m) = m
  add_one : ∀ m i j, i ≤ 4 → j ≤ 4 → following k m i = following k m j → i = j

/-- An interface comes up without an address, or with the root's or one of its `N` next. -/
def inBlock (k : Kit) (root : Mac) (N : ℕ) : Option Mac → Bool
  | none => true
  | some m => (List.range (N + 1)).any fun i => m = following k root i

/-- The addresses the driver gives to the new interfaces keep out of each other's way: `N` of
them are missing or among the root's and the `N` next, and each of these is the one given
out just before; the others are different. -/
def Apart (k : Kit) (root : Mac) (inits : List (Option Mac)) : Prop :=
  ∃ N, (inits.filter (inBlock k root N)).length = N ∧
    (∀ i m, (inits.filter (inBlock k root N))[i]? = some (some m) → m = following k root i) ∧
    (inits.filter fun a => ! inBlock k root N a).Nodup

/-- An interface takes a new address when it comes up without one or with the one last given
out. -/
def Takes (last : Mac) (a : Option Mac) : Prop := a = none ∨ a = some last

instance (last : Mac) (a : Option Mac) : Decidable (Takes last a) := by
  unfold Takes
  infer_instance

/-- The addresses the loop leaves on new interfaces that come up with `inits`, when `last` is
the address last given out. -/
def handOut (k : Kit) : Mac → List (Option Mac) → List Mac
  | _, [] => []
  | last, a :: inits =>
    if Takes last a then k.mac2add last 1 :: handOut k (k.mac2add last 1) inits
    else a.getD last :: handOut k last inits

/-- The interfaces that take a new address, as they came up. -/
def taking (k : Kit) : Mac → List (Option Mac) → List (Option Mac)
  | _, [] => []
  | last, a :: inits =>
    if Takes last a then a :: taking k (k.mac2add last 1) inits else taking k last inits

/-- The addresses that are kept. -/
def kept (k : Kit) : Mac → List (Option Mac) → List Mac
  | _, [] => []
  | last, a :: inits =>
    if Takes last a then kept k (k.mac2add last 1) inits else a.getD last :: kept k last inits

/-- One more address is the next one. -/
theorem following_succ (k : Kit) (root : Mac) (i : ℕ) :
    k.mac2add (following k root i) 1 = following k root (i + 1) := by
  unfold following
  rw [Function.iterate_succ_apply']

/-- An address is in the block when it is among the root's and the next ones. -/
theorem inBlock_some_iff (k : Kit) (root : Mac) (N : ℕ) (m : Mac) :
    inBlock k root N (some m) = true ↔ ∃ i ≤ N, m = following k root i := by
  simp only [inBlock, List.any_eq_true, List.mem_range, decide_eq_true_eq, Nat.lt_succ_iff]

/-- An interface that takes a new address is in the block. -/
theorem inBlock_of_takes {k : Kit} {root : Mac} {N c : ℕ} {a : Option Mac} (hc : c ≤ N)
    (h : Takes (following k root c) a) : inBlock k root N a = true := by
  rcases h with rfl | rfl
  · rfl
  · exact (inBlock_some_iff k root N _).mpr ⟨c, hc, rfl⟩

/-- The loop leaves the addresses after the last one given out, and those that are kept. -/
theorem handOut_perm (k : Kit) (root : Mac) (c : ℕ) (inits : List (Option Mac)) :
    (handOut k (following k root c) inits).Perm
      ((List.range' (c + 1) (taking k (following k root c) inits).length).map (following k root) ++
        kept k (following k root c) inits) := by
  induction inits generalizing c with
  | nil => simp [handOut, taking, kept]
  | cons a inits ih =>
    unfold handOut taking kept
    by_cases ha : Takes (following k root c) a
    · rw [if_pos ha, if_pos ha, if_pos ha, following_succ, List.length_cons, List.range'_succ,
        List.map_cons, List.cons_append]
      exact (ih (c + 1)).cons _
    · rw [if_neg ha, if_neg ha, if_neg ha]
      exact ((ih c).cons _).trans List.perm_middle.symm

/-- An interface that takes a new address came up with the one given out just before. -/
theorem taking_getElem (k : Kit) (root : Mac) (c : ℕ) (inits : List (Option Mac)) (i : ℕ)
    (m : Mac) (h : (taking k (following k root c) inits)[i]? = some (some m)) :
    m = following k root (c + i) := by
  induction inits generalizing c i with
  | nil => cases h
  | cons a inits ih =>
    unfold taking at h
    by_cases ha : Takes (following k root c) a
    · rw [if_pos ha, following_succ] at h
      cases i with
      | zero =>
        rcases ha with rfl | rfl
        · cases h
        · cases h
          rfl
      | succ i =>
        rw [ih (c + 1) i h]
        congr 1
        omega
    · rw [if_neg ha] at h
      exact ih c i h

/-- When the kept addresses keep out of the block, the block is what takes a new address. -/
theorem filter_of_kept (k : Kit) (root : Mac) (N c : ℕ) (inits : List (Option Mac))
    (hlen : c + (taking k (following k root c) inits).length ≤ N)
    (hkept : ∀ m ∈ kept k (following k root c) inits, inBlock k root N (some m) = false) :
    inits.filter (inBlock k root N) = taking k (following k root c) inits ∧
      (inits.filter fun a => ! inBlock k root N a) =
        (kept k (following k root c) inits).map some := by
  induction inits generalizing c with
  | nil => exact ⟨rfl, rfl⟩
  | cons a inits ih =>
    unfold taking at hlen ⊢
    unfold kept at hkept ⊢
    by_cases ha : Takes (following k root c) a
    · rw [if_pos ha, following_succ] at hlen hkept
      rw [if_pos ha, if_pos ha, following_succ]
      rw [List.length_cons] at hlen
      obtain ⟨hblock, hown⟩ := ih (c + 1) (by omega) hkept
      have hin : inBlock k root N a = true := inBlock_of_takes (by omega) ha
      rw [List.filter_cons_of_pos hin, hblock, List.filter_cons_of_neg (by simp [hin]), hown]
      exact ⟨rfl, rfl⟩
    · rw [if_neg ha] at hlen hkept
      rw [if_neg ha, if_neg ha]
      obtain ⟨m, rfl⟩ := Option.ne_none_iff_exists'.mp fun hnone => ha (Or.inl hnone)
      obtain ⟨hblock, hown⟩ := ih c hlen fun x hx => hkept x (List.mem_cons_of_mem _ hx)
      have hout : inBlock k root N (some m) = false := hkept m List.mem_cons_self
      rw [List.filter_cons_of_neg (by simp [hout]), hblock,
        List.filter_cons_of_pos (by simp [hout]), hown]
      exact ⟨rfl, rfl⟩

/-- When every interface in the block came up with the address given out just before, the
block is what takes a new address. -/
theorem filter_of_block (k : Kit) (root : Mac) (N c : ℕ) (inits : List (Option Mac))
    (hlen : c + (inits.filter (inBlock k root N)).length ≤ N)
    (hblock : ∀ i m, (inits.filter (inBlock k root N))[i]? = some (some m) →
      m = following k root (c + i)) :
    inits.filter (inBlock k root N) = taking k (following k root c) inits ∧
      (inits.filter fun a => ! inBlock k root N a) =
        (kept k (following k root c) inits).map some := by
  induction inits generalizing c with
  | nil => exact ⟨rfl, rfl⟩
  | cons a inits ih =>
    unfold taking kept
    cases hin : inBlock k root N a with
    | true =>
      rw [List.filter_cons_of_pos hin] at hlen hblock ⊢
      rw [List.length_cons] at hlen
      have ha : Takes (following k root c) a := by
        cases a with
        | none => exact Or.inl rfl
        | some m => exact Or.inr (congrArg some (hblock 0 m rfl))
      have hlater : ∀ i m, (inits.filter (inBlock k root N))[i]? = some (some m) →
          m = following k root (c + 1 + i) := by
        intro i m h
        rw [hblock (i + 1) m h]
        congr 1
        omega
      obtain ⟨hsame, hown⟩ := ih (c + 1) (by omega) hlater
      rw [if_pos ha, if_pos ha, following_succ, hsame, List.filter_cons_of_neg (by simp [hin]),
        hown]
      exact ⟨rfl, rfl⟩
    | false =>
      rw [List.filter_cons_of_neg (by simp [hin])] at hlen hblock ⊢
      have ha : ¬ Takes (following k root c) a := by
        intro htakes
        rw [inBlock_of_takes (by omega) htakes] at hin
        cases hin
      obtain ⟨m, rfl⟩ := Option.ne_none_iff_exists'.mp fun hnone => ha (Or.inl hnone)
      obtain ⟨hsame, hown⟩ := ih c hlen hblock
      rw [if_neg ha, if_neg ha, hsame, List.filter_cons_of_pos (by simp [hin]), hown]
      exact ⟨rfl, rfl⟩

/-- No more interfaces take a new address than there are. -/
theorem length_taking_le (k : Kit) (last : Mac) (inits : List (Option Mac)) :
    (taking k last inits).length ≤ inits.length := by
  induction inits generalizing last with
  | nil => exact le_rfl
  | cons a inits ih =>
    unfold taking
    split
    · exact Nat.succ_le_succ (ih _)
    · exact (ih _).trans (Nat.le_succ _)

/-- The root's address and those the loop leaves are distinct when those that are kept differ
and keep out of the block. -/
theorem nodup_handOut_iff_kept {k : Kit} (hk : Lawful k) (root : Mac) (inits : List (Option Mac))
    (hlen : inits.length ≤ 4) :
    (root :: handOut k root inits).Nodup ↔ (kept k root inits).Nodup ∧
      ∀ m ∈ kept k root inits, inBlock k root (taking k root inits).length (some m) = false := by
  have hle := (length_taking_le k root inits).trans hlen
  have hperm : (root :: handOut k root inits).Perm
      ((List.range ((taking k root inits).length + 1)).map (following k root) ++
        kept k root inits) := by
    rw [List.range_eq_range', List.range'_succ, List.map_cons, List.cons_append]
    exact (handOut_perm k root 0 inits).cons root
  have hfirst : ((List.range ((taking k root inits).length + 1)).map (following k root)).Nodup := by
    refine List.Nodup.map_on (fun i hi j hj h => ?_) List.nodup_range
    rw [List.mem_range] at hi hj
    exact hk.add_one root i j (by omega) (by omega) h
  rw [hperm.nodup_iff, List.nodup_append']
  refine ⟨fun ⟨_, hkept, hdisjoint⟩ => ⟨hkept, fun m hm => ?_⟩,
    fun ⟨hkept, hout⟩ => ⟨hfirst, hkept, fun m hfollow hm => ?_⟩⟩
  · rw [Bool.eq_false_iff]
    intro hin
    obtain ⟨i, hi, rfl⟩ := (inBlock_some_iff k root _ m).mp hin
    exact hdisjoint (List.mem_map_of_mem (List.mem_range.mpr (by omega))) hm
  · obtain ⟨i, hi, rfl⟩ := List.mem_map.mp hfollow
    have hin := (inBlock_some_iff k root (taking k root inits).length _).mpr
      ⟨i, Nat.lt_succ_iff.mp (List.mem_range.mp hi), rfl⟩
    rw [hout _ hm] at hin
    cases hin

/-- **Addresses.** The root's address and those the loop leaves are distinct if and only if
the addresses of the new interfaces keep out of each other's way. -/
theorem nodup_handOut_iff {k : Kit} (hk : Lawful k) (root : Mac) (inits : List (Option Mac))
    (hlen : inits.length ≤ 4) :
    (root :: handOut k root inits).Nodup ↔ Apart k root inits := by
  rw [nodup_handOut_iff_kept hk root inits hlen]
  constructor
  · rintro ⟨hkept, hout⟩
    obtain ⟨hblock, hown⟩ := filter_of_kept k root (taking k root inits).length 0 inits
      (by rw [Nat.zero_add]; exact le_rfl) hout
    refine ⟨(taking k root inits).length, congrArg List.length hblock, fun i m h => ?_, ?_⟩
    · rw [hblock] at h
      have hm := taking_getElem k root 0 inits i m h
      rwa [Nat.zero_add] at hm
    · rw [hown]
      exact hkept.map fun _ _ => Option.some.inj
  · rintro ⟨N, hN, hblock, hown⟩
    obtain ⟨hsame, hrest⟩ := filter_of_block k root N 0 inits
      (by rw [Nat.zero_add]; exact hN.le) (by simpa using hblock)
    have hlength : (taking k root inits).length = N := by
      rw [← hN, hsame]
      rfl
    rw [hrest] at hown
    refine ⟨hown.of_map, fun m hm => ?_⟩
    have hmem : some m ∈ inits.filter fun a => ! inBlock k root N a := by
      rw [hrest]
      exact List.mem_map_of_mem hm
    rw [hlength]
    simpa using (List.mem_filter.mp hmem).2

/-! ## The loop -/

/-- The effects that leave the addresses alone. -/
def Quiet : Effect → Prop
  | .interfaceAdd _ _ => False
  | .hwEther _ _ => False
  | _ => True

/-- Quiet effects leave the addresses alone. -/
theorem macs_of_quiet (k : Kit) (given : String → Option Mac) (n : Net) {es : List Effect}
    (h : ∀ e ∈ es, Quiet e) : (es.foldl (Net.after k given) n).macs = n.macs := by
  induction es generalizing n with
  | nil => rfl
  | cons e es ih =>
    rw [List.foldl_cons, ih _ fun e' he' => h e' (List.mem_cons_of_mem _ he')]
    have hquiet := h e List.mem_cons_self
    cases e with
    | interfaceAdd rootdev dev => exact hquiet.elim
    | hwEther dev mac => exact hquiet.elim
    | _ => rfl

/-- The power has nothing to do with addresses. -/
theorem quiet_setPower (power : Option ℤ) (dev : String) : ∀ e ∈ setPower power dev, Quiet e := by
  intro e he
  cases power with
  | none => cases he
  | some p =>
    rw [List.mem_singleton.mp he]
    trivial

/-- Registering a component has nothing to do with addresses. -/
theorem quiet_registerSlot (r : Object) (com cls rootdev dev : String) :
    ∀ e ∈ registerSlot r com cls rootdev dev, Quiet e := by
  simp [registerSlot, Quiet]

/-- The address a new interface ends up with. -/
def settled (k : Kit) (last : Mac) (a : Option Mac) : Mac :=
  if Takes last a then k.mac2add last 1 else a.getD last

/-- The address last given out after a new interface came up with `a`. -/
def lastAfter (k : Kit) (last : Mac) (a : Option Mac) : Mac :=
  if Takes last a then k.mac2add last 1 else last

/-- The first interface settles on its address, and the others go on from there. -/
theorem handOut_cons (k : Kit) (last : Mac) (a : Option Mac) (inits : List (Option Mac)) :
    handOut k last (a :: inits) = settled k last a :: handOut k (lastAfter k last a) inits := by
  unfold settled lastAfter
  rw [handOut]
  split <;> rfl

/-- An interface takes an address exactly when it needs one. -/
theorem ownMac_eq {k : Kit} (hk : Lawful k) {s : Local} (hmac : s.mac = k.mac2string s.macst)
    (netdev : String) (a : Option Mac) :
    ownMac k s netdev (a.map k.mac2string) =
      (k.mac2string (lastAfter k s.macst a), lastAfter k s.macst a,
        if Takes s.macst a then
          [.hwEther netdev (k.mac2string (k.mac2add s.macst 1)), .ifUp netdev]
        else []) := by
  have htaken : a.map k.mac2string = none ∨ a.map k.mac2string = some s.mac ↔
      Takes s.macst a := by
    cases a with
    | none => simp [Takes]
    | some m =>
      have hinj : k.mac2string m = k.mac2string s.macst → m = s.macst := by
        intro h
        rw [← hk.read_back m, h, hk.read_back]
      simp only [Option.map_some, hmac, Takes, Option.some.injEq, reduceCtorEq, false_or]
      exact ⟨hinj, congrArg _⟩
  unfold ownMac lastAfter
  by_cases ha : Takes s.macst a
  · rw [if_pos (htaken.mpr ha), if_pos ha, if_pos ha]
  · rw [if_neg (fun h => ha (htaken.mp h)), if_neg ha, if_neg ha, hmac]

/-- The interface is created, and takes an address if it needs one. -/
theorem ssidTurn_spec {k : Kit} (hk : Lawful k) (given : String → Option Mac) (r : Object)
    (rootdev : String) (power : Option ℤ) {s : Local} {i : ℕ}
    (hmac : s.mac = k.mac2string s.macst)
    (hcfg : (r.config (slotName r.object "ssid" i)).isSome)
    (hnew : s.run.net.macs (slotName r.obj "ssid" i) = none) :
    let t := ssidTurn k given r rootdev power s i
    t.mac = k.mac2string t.macst ∧
      t.macst = lastAfter k s.macst (given (slotName r.obj "ssid" i)) ∧
      t.run.net.macs = Function.update s.run.net.macs (slotName r.obj "ssid" i)
        (some (settled k s.macst (given (slotName r.obj "ssid" i)))) := by
  unfold ssidTurn
  rw [if_pos hcfg]
  generalize slotName r.obj "ssid" i = dev at hnew ⊢
  generalize slotName r.object "ssid" i = com
  have hbefore := macs_of_quiet k given s.run.net
    (quiet_registerSlot r com "wifi@ap" rootdev dev)
  generalize hnet : (registerSlot r com "wifi@ap" rootdev dev ++
    [Effect.interfaceAdd rootdev dev]).foldl (Net.after k given) s.run.net = net
  have hcreated : net.macs = Function.update s.run.net.macs dev (given dev) := by
    rw [← hnet, List.foldl_append, List.foldl_cons, List.foldl_nil]
    rw [macs_interfaceAdd, hbefore, hnew]
    rfl
  simp only [net_act, hnet]
  rw [hcreated, Function.update_self, ownMac_eq hk hmac]
  refine ⟨rfl, rfl, ?_⟩
  have hrest : ∀ e ∈ setPower power dev ++ [Effect.add com dev], Quiet e := by
    intro e he
    rcases List.mem_append.mp he with he | he
    · exact quiet_setPower power dev e he
    · rw [List.mem_singleton.mp he]
      trivial
  dsimp only
  rw [List.append_assoc, List.foldl_append, macs_of_quiet k given _ hrest]
  unfold settled
  by_cases ha : Takes s.macst (given dev)
  · rw [if_pos ha, if_pos ha, List.foldl_cons, macs_of_quiet k given _ (by simp [Quiet]),
      macs_hwEther, hk.read_back, hcreated, Function.update_idem]
  · rw [if_neg ha, if_neg ha, List.foldl_nil, hcreated]
    obtain ⟨m, hm⟩ := Option.ne_none_iff_exists'.mp fun hnone => ha (Or.inl hnone)
    rw [hm]
    rfl

/-- The devices of the configured SSIDs among some turns of the loop. -/
def devices (r : Object) (l : List ℕ) : List String :=
  (l.filter fun i => (r.config (slotName r.object "ssid" i)).isSome).map (slotName r.obj "ssid")

/-- A turn adds its device, if the SSID is configured. -/
theorem devices_cons (r : Object) (i : ℕ) (l : List ℕ) :
    devices r (i :: l) = if (r.config (slotName r.object "ssid" i)).isSome then
      slotName r.obj "ssid" i :: devices r l else devices r l := by
  unfold devices
  by_cases hcfg : (r.config (slotName r.object "ssid" i)).isSome = true <;> simp [hcfg]

/-- **The loop.** The new interfaces get the addresses of `handOut`, and no other device gets
a new address. -/
theorem loop_macs {k : Kit} (hk : Lawful k) (given : String → Option Mac) (r : Object)
    (rootdev : String) (power : Option ℤ) (l : List ℕ) {s : Local}
    (hmac : s.mac = k.mac2string s.macst) (hnodup : (devices r l).Nodup)
    (hnew : ∀ d ∈ devices r l, s.run.net.macs d = none) :
    (devices r l).map (l.foldl (ssidTurn k given r rootdev power) s).run.net.macs =
        (handOut k s.macst ((devices r l).map given)).map some ∧
      ∀ d, d ∉ devices r l →
        (l.foldl (ssidTurn k given r rootdev power) s).run.net.macs d = s.run.net.macs d := by
  induction l generalizing s with
  | nil => exact ⟨rfl, fun _ _ => rfl⟩
  | cons i l ih =>
    rw [List.foldl_cons]
    by_cases hcfg : (r.config (slotName r.object "ssid" i)).isSome = true
    · rw [devices_cons, if_pos hcfg] at hnodup hnew ⊢
      obtain ⟨hnotMem, hnodup'⟩ := List.nodup_cons.mp hnodup
      obtain ⟨hmac', hlast, hmacs⟩ := ssidTurn_spec hk given r rootdev power hmac hcfg
        (hnew _ List.mem_cons_self)
      have hnew' : ∀ d ∈ devices r l,
          (ssidTurn k given r rootdev power s i).run.net.macs d = none := by
        intro d hd
        have hne : d ≠ slotName r.obj "ssid" i := by
          rintro rfl
          exact hnotMem hd
        rw [hmacs, Function.update_of_ne hne]
        exact hnew d (List.mem_cons_of_mem _ hd)
      obtain ⟨hloop, hother⟩ := ih hmac' hnodup' hnew'
      constructor
      · rw [List.map_cons, List.map_cons, handOut_cons, List.map_cons, hloop, hlast,
          hother _ hnotMem, hmacs, Function.update_self]
      · intro d hd
        rw [List.mem_cons, not_or] at hd
        rw [hother d hd.2, hmacs, Function.update_of_ne hd.1]
    · have hturn : ssidTurn k given r rootdev power s i = s := by
        unfold ssidTurn
        rw [if_neg hcfg]
      rw [devices_cons, if_neg hcfg] at hnodup hnew ⊢
      rw [hturn]
      exact ih hmac hnodup hnew

/-! ## Setup -/

/-- The interfaces are the devices of all turns. -/
theorem interfaces_eq (r : Object) : interfaces r = devices r (List.range 4) := by
  unfold interfaces configured devices
  rw [List.map_map]
  rfl

/-- There are four interfaces at most. -/
theorem length_interfaces_le (r : Object) : (interfaces r).length ≤ 4 := by
  rw [interfaces_eq, devices, List.length_map]
  exact List.length_filter_le _ _

/-- The station has nothing to do with addresses. -/
theorem macs_setupSta (k : Kit) (given : String → Option Mac) (r : Object) (rootdev : String)
    (run : Run) : (setupSta k given r rootdev run).net.macs = run.net.macs := by
  unfold setupSta
  dsimp only
  split
  · refine macs_of_quiet k given run.net fun e he => ?_
    rcases List.mem_append.mp he with he | he
    · exact quiet_registerSlot r _ _ _ _ e he
    · rw [List.mem_singleton.mp he]
      trivial
  · rfl

/-- After setup the root device has its own address and the interfaces those of `handOut`. -/
theorem setup_macs {k : Kit} (hk : Lawful k) (given : String → Option Mac) {r : Object}
    {n : Net} {rootdev : String} {root : Mac} (hruns : Runs k r n rootdev)
    (hroot : n.macs rootdev = some root) (hnew : NewInterfaces r n) :
    (rootdev :: interfaces r).map (setup k given r n).2.net.macs =
      (root :: handOut k root ((interfaces r).map given)).map some := by
  obtain ⟨hnodup, hfresh⟩ := hnew
  rw [interfaces_eq] at hnodup hfresh ⊢
  have hrootdev : rootdev ∉ devices r (List.range 4) := by
    intro hmem
    rw [hfresh _ hmem] at hroot
    cases hroot
  unfold setup
  rw [if_neg hruns.1, hruns.2]
  dsimp only
  rw [macs_setupSta, hroot, Option.map_some, Option.getD_some, hk.read_back]
  have hstart : ((Run.mk n []).act k given ((if n.up rootdev then [] else [.ifUp rootdev]) ++
      setPower (dbm (r.config r.object)) rootdev)).net.macs = n.macs := by
    refine macs_of_quiet k given n fun e he => ?_
    rcases List.mem_append.mp he with he | he
    · split at he
      · cases he
      · rw [List.mem_singleton.mp he]
        trivial
    · exact quiet_setPower _ _ e he
  generalize (Run.mk n []).act k given _ = start at hstart ⊢
  obtain ⟨hloop, hother⟩ := loop_macs hk given r rootdev (dbm (r.config r.object)) (List.range 4)
    (s := ⟨start, k.mac2string root, root⟩) rfl hnodup (by rw [hstart]; exact hfresh)
  rw [List.map_cons, List.map_cons, hloop, hother rootdev hrootdev, hstart, hroot]

/-- **MAC addresses of a radio.** After setup, the root device and all SSID interfaces have
pairwise distinct addresses if and only if the addresses the new interfaces came up with keep
out of each other's way. -/
theorem addresses_iff_apart {k : Kit} (hk : Lawful k) (given : String → Option Mac) {r : Object}
    {n : Net} {rootdev : String} {root : Mac} (hruns : Runs k r n rootdev)
    (hroot : n.macs rootdev = some root) (hnew : NewInterfaces r n) :
    DistinctMacs r rootdev (setup k given r n).2.net ↔
      Apart k root ((interfaces r).map given) := by
  have hlen : ((interfaces r).map given).length ≤ 4 := by
    rw [List.length_map]
    exact length_interfaces_le r
  unfold DistinctMacs
  rw [setup_macs hk given hruns hroot hnew, ← nodup_handOut_iff hk root _ hlen]
  exact List.nodup_map_iff fun _ _ => Option.some.inj

/-- The functions on MAC addresses in their usual form. -/
def macKit : Kit where
  comId := "radio"
  machineMac := "00:00:00:00:00:00"
  string2mac := fun s => (macText s).getD 0
  mac2string := macString
  mac2add := fun m n => m + BitVec.ofNat 48 n

/-- The usual functions on addresses are lawful. -/
theorem lawful_macKit : Lawful macKit where
  read_back := fun m => by
    dsimp only [macKit]
    rw [macText_macString]
    rfl
  add_one := by
    have hadd : ∀ m i, following macKit m i = m + BitVec.ofNat 48 i := by
      intro m i
      induction i with
      | zero => simp [following]
      | succ i ih =>
        rw [← following_succ, ih]
        dsimp only [macKit]
        rw [BitVec.add_assoc, ← BitVec.ofNat_add]
    intro m i j hi hj h
    rw [hadd, hadd, BitVec.add_right_inj] at h
    have hnat := congrArg BitVec.toNat h
    rw [BitVec.toNat_ofNat, BitVec.toNat_ofNat, Nat.mod_eq_of_lt (by omega),
      Nat.mod_eq_of_lt (by omega)] at hnat
    exact hnat

/-- The radio `n` on the device `wlan0` with its own address. -/
def addressedRadio : Net :=
  { oneRadio with macs := fun dev => if dev = "wlan0" then some 0x020000000000 else none }

/-- The radio `n` with its first `count` SSIDs configured. -/
def ssids (count : ℕ) : Object where
  obj := "n"
  object := "wifi@n"
  config := fun object =>
    if object ∈ ["wifi@nssid", "wifi@nssid2"].take count then some (.json []) else none

/-- The setup of this radio runs. -/
theorem runs_ssids (count : ℕ) : Runs macKit (ssids count) addressedRadio "wlan0" :=
  ⟨show "n" ≠ "radio" by decide, rfl⟩

/-- A driver that gives a new interface the address that is in use last. -/
def lastUsed (dev : String) : Option Mac :=
  if dev = "nssid" then some 0x020000000000 else some 0x020000000001

/-- Two SSIDs whose interfaces come up with the address that is in use last. -/
theorem addresses_distinct_two_ssids :
    DistinctMacs (ssids 2) "wlan0" (setup macKit lastUsed (ssids 2) addressedRadio).2.net := by
  have hdevices : interfaces (ssids 2) = ["nssid", "nssid2"] := by decide
  refine (addresses_iff_apart lawful_macKit lastUsed (runs_ssids 2)
    (show _ = some 0x020000000000 from rfl) ⟨by decide, by decide⟩).mpr ⟨2, ?_⟩
  have hinits : (["nssid", "nssid2"].map lastUsed).filter (inBlock macKit 0x020000000000 2) =
      [some 0x020000000000, some 0x020000000001] := by decide
  rw [hdevices]
  refine ⟨by decide, fun i m h => ?_, by decide⟩
  rw [hinits] at h
  rcases i with _ | _ | i
  · cases h
    decide
  · cases h
    decide
  · cases h

/-- Two SSIDs whose driver gives every interface the address of the root device: the second
one keeps it. -/
theorem addresses_equal_two_ssids :
    (setup macKit (fun _ => some 0x020000000000) (ssids 2) addressedRadio).2.net.macs "nssid2" =
        some 0x020000000000 ∧
      ¬ DistinctMacs (ssids 2) "wlan0"
        (setup macKit (fun _ => some 0x020000000000) (ssids 2) addressedRadio).2.net := by
  have hdevices : interfaces (ssids 2) = ["nssid", "nssid2"] := by decide
  have hmacs := setup_macs lawful_macKit (fun _ => some 0x020000000000) (runs_ssids 2)
    (show _ = some 0x020000000000 from rfl) ⟨by decide, by decide⟩
  have hgiven : handOut macKit 0x020000000000 [some 0x020000000000, some 0x020000000000] =
      [0x020000000001, 0x020000000000] := by decide
  unfold DistinctMacs
  rw [hmacs]
  rw [hdevices] at hmacs ⊢
  simp only [List.map_cons, List.map_nil, hgiven] at hmacs ⊢
  simp only [List.cons.injEq, and_true] at hmacs
  exact ⟨hmacs.2.2, by decide⟩

end Tiger.Analysis.RadioAddresses
