import Tiger.Analysis.ScanListing
import Tiger.Library.Latest

/-!
# The access point a station takes

With a name and no address, `station_dev_aplist` goes through the tree of the scan and
compares the ESSID of each entry with the name, then with the second one, then with the
third, whether there are such or not. The signal it looks at is under a key that the scan
never writes, so with `good` nothing is ever taken; without it the last entry with a name
is (`choice_iff`).
-/

set_option autoImplicit false

namespace Tiger.Analysis.ScanChoice

open Tiger.Library Tiger.Model Tiger.Model.Aplist
open Tiger.Analysis.ScanFile Tiger.Analysis.ScanListing

/-! ## The choice that is wanted -/

/-- One of the names is the text. -/
def Named (ssid : String) (ssid2 ssid3 : Option String) (s : String) : Prop :=
  ssid = s ∨ ssid2 = some s ∨ ssid3 = some s

instance (ssid : String) (ssid2 ssid3 : Option String) (s : String) :
    Decidable (Named ssid ssid2 ssid3 s) :=
  inferInstanceAs (Decidable (ssid = s ∨ ssid2 = some s ∨ ssid3 = some s))

/-- An entry has one of the names. -/
def Matches (ssid : String) (ssid2 ssid3 : Option String) (e : String × Attributes) : Prop :=
  ∃ s ∈ e.2.lookup "ssid", Named ssid ssid2 ssid3 s

instance (ssid : String) (ssid2 ssid3 : Option String) (e : String × Attributes) :
    Decidable (Matches ssid ssid2 ssid3 e) :=
  inferInstanceAs (Decidable (∃ s ∈ e.2.lookup "ssid", Named ssid ssid2 ssid3 s))

/-- The level of the signal in an entry. -/
def signalOf (e : String × Attributes) : ℤ := ((e.2.lookup "signal").map atoi).getD 0

/-- What is found for the names: nothing when no entry has one of them, else an entry that has,
with its address and the best signal among those where `good` is set. -/
structure Chooses (tree : List (String × Attributes)) (ssid : String)
    (ssid2 ssid3 : Option String) (good : Bool) (v : Option Attributes) : Prop where
  absent : v = none ↔ ∀ e ∈ tree, ¬ Matches ssid ssid2 ssid3 e
  best : ∀ x ∈ v, ∃ e ∈ tree, Matches ssid ssid2 ssid3 e ∧
    (x = if good then setEntry "peermac" e.1 e.2 else e.2) ∧
    (good = true → ∀ e' ∈ tree, Matches ssid ssid2 ssid3 e' → signalOf e' ≤ signalOf e)

/-- The comparisons with an entry stop in front of an absent name: a name that is not the first
one asks for a second, and one that is neither for a third. -/
def Stops (ssid : String) (ssid2 ssid3 : Option String) (e : String × Attributes) : Prop :=
  ∀ s ∈ e.2.lookup "ssid", ssid ≠ s → ssid2 ≠ none ∧ (ssid2 ≠ some s → ssid3 ≠ none)

/-- No comparison reaches an absent name, and where the signal counts no entry has a name. -/
structure Comparable (tree : List (String × Attributes)) (ssid : String)
    (ssid2 ssid3 : Option String) (good : Bool) : Prop where
  stops : ∀ e ∈ tree, Stops ssid ssid2 ssid3 e
  unmatched : good = true → ∀ e ∈ tree, ¬ Matches ssid ssid2 ssid3 e

/-! ## One entry -/

variable {ssid : String} {ssid2 ssid3 : Option String} {good : Bool}

/-- The comparisons of one text, where they do not reach an absent name. -/
theorem compare_eq {s : String} (hsecond : ssid ≠ s → ssid2 ≠ none)
    (hthird : ssid ≠ s → ssid2 ≠ some s → ssid3 ≠ none) :
    orElse (strcmp ssid s) (orElse (strcmp ssid2 s) (strcmp ssid3 s)) =
      some (decide (Named ssid ssid2 ssid3 s)) := by
  by_cases hfirst : ssid = s
  · simp [strcmp, orElse, Named, hfirst]
  · obtain ⟨name2, rfl⟩ := Option.ne_none_iff_exists'.mp (hsecond hfirst)
    by_cases hname2 : name2 = s
    · simp [strcmp, orElse, Named, hfirst, hname2]
    · obtain ⟨name3, rfl⟩ := Option.ne_none_iff_exists'.mp (hthird hfirst (by simpa using hname2))
      simp [strcmp, orElse, Named, hfirst, hname2]

/-- They reach one otherwise. -/
theorem compare_eq_none {s : String} (hfirst : ssid ≠ s)
    (h : ssid2 = none ∨ ssid2 ≠ some s ∧ ssid3 = none) :
    orElse (strcmp ssid s) (orElse (strcmp ssid2 s) (strcmp ssid3 s)) = none := by
  rcases h with rfl | ⟨hname2, rfl⟩
  · simp [strcmp, orElse, hfirst]
  · cases ssid2 with
    | none => simp [strcmp, orElse, hfirst]
    | some name2 =>
      have hne : name2 ≠ s := by simpa using hname2
      simp [strcmp, orElse, hfirst, hne]

/-- The address of an entry that has one of the names. -/
def addressOf (ssid : String) (ssid2 ssid3 : Option String)
    (e : String × Attributes) : Option String :=
  if Matches ssid ssid2 ssid3 e then some e.1 else none

/-- One turn of the loop, with an entry without `sig`. -/
theorem choose_eq {e : String × Attributes} (hsig : e.2.lookup "sig" = none)
    (he : Stops ssid ssid2 ssid3 e) (c : Choice) :
    choose ssid ssid2 ssid3 good c e =
      some (if good then c
        else { c with peermac := (addressOf ssid ssid2 ssid3 e).or c.peermac }) := by
  unfold choose addressOf
  cases hname : e.2.lookup "ssid" with
  | none =>
    have hnot : ¬ Matches ssid ssid2 ssid3 e := by
      rintro ⟨s, hs, -⟩
      rw [hname] at hs
      cases hs
    rw [if_neg hnot]
    cases good <;> rfl
  | some s =>
    have hs := he s hname
    have hiff : Matches ssid ssid2 ssid3 e ↔ Named ssid ssid2 ssid3 s := by
      unfold Matches
      rw [hname]
      simp
    have hcompare := compare_eq (fun h => (hs h).1) fun h => (hs h).2
    simp only [hcompare, Option.map_some, hsig, Option.some.injEq, hiff]
    by_cases hnamed : Named ssid ssid2 ssid3 s
    · cases good <;> simp [hnamed]
    · cases good <;> simp [hnamed]

/-- A turn whose comparisons reach an absent name. -/
theorem choose_eq_none {e : String × Attributes} (he : ¬ Stops ssid ssid2 ssid3 e)
    (c : Choice) : choose ssid ssid2 ssid3 good c e = none := by
  unfold Stops at he
  push Not at he
  obtain ⟨s, hs, hfirst, hrest⟩ := he
  have hname : e.2.lookup "ssid" = some s := hs
  have hcompare : orElse (strcmp ssid s) (orElse (strcmp ssid2 s) (strcmp ssid3 s)) = none := by
    refine compare_eq_none hfirst ?_
    by_cases hsecond : ssid2 = none
    · exact Or.inl hsecond
    · exact Or.inr (hrest hsecond)
  unfold choose
  simp only [hname, hcompare, Option.map_none]

/-! ## The loop -/

/-- The loop, where no comparison reaches an absent name: with `good` nothing is chosen, else
the last entry with one of the names. -/
theorem foldlM_choose {es : List (String × Attributes)}
    (hsig : ∀ e ∈ es, e.2.lookup "sig" = none) (hes : ∀ e ∈ es, Stops ssid ssid2 ssid3 e)
    (c : Choice) :
    es.foldlM (choose ssid ssid2 ssid3 good) c =
      some (if good then c
        else { c with peermac := (latest (addressOf ssid ssid2 ssid3) es).or c.peermac }) := by
  induction es generalizing c with
  | nil => cases good <;> rfl
  | cons e es ih =>
    rw [List.foldlM_cons, choose_eq (hsig e List.mem_cons_self) (hes e List.mem_cons_self)]
    change es.foldlM (choose ssid ssid2 ssid3 good) _ = _
    rw [ih (fun e he => hsig e (List.mem_cons_of_mem _ he))
      fun e he => hes e (List.mem_cons_of_mem _ he)]
    cases good with
    | true => rfl
    | false => simp [Option.or_assoc]

/-- The loop, where one does. -/
theorem foldlM_choose_eq_none {es : List (String × Attributes)}
    (hsig : ∀ e ∈ es, e.2.lookup "sig" = none) (hes : ¬ ∀ e ∈ es, Stops ssid ssid2 ssid3 e)
    (c : Choice) : es.foldlM (choose ssid ssid2 ssid3 good) c = none := by
  induction es generalizing c with
  | nil => exact absurd (fun e he => absurd he List.not_mem_nil) hes
  | cons e es ih =>
    rw [List.foldlM_cons]
    by_cases he : Stops ssid ssid2 ssid3 e
    · rw [choose_eq (hsig e List.mem_cons_self) he]
      refine ih (fun e he => hsig e (List.mem_cons_of_mem _ he)) (fun h => hes ?_) _
      exact List.forall_mem_cons.mpr ⟨he, h⟩
    · rw [choose_eq_none he]
      rfl

/-- What is found with a name and no address, where no comparison reaches an absent name. -/
theorem stationDevAplist_of_stops {file : List Char} {bssid : Option String}
    (hbssid : given bssid = false) (hes : ∀ e ∈ treeOf file, Stops ssid ssid2 ssid3 e) :
    stationDevAplist file ssid bssid ssid2 ssid3 good =
      some (.value (if good then none
        else (latest (addressOf ssid ssid2 ssid3) (treeOf file)).bind fun mac =>
          (treeOf file).lookup mac)) := by
  have hsig : ∀ e ∈ treeOf file, e.2.lookup "sig" = none := fun e he => sig_eq_none he
  unfold stationDevAplist
  rw [hbssid]
  change ((treeOf file).foldlM (choose ssid ssid2 ssid3 good) ⟨0, none, treeOf file⟩).map _ = _
  rw [foldlM_choose hsig hes]
  cases good <;> simp

/-- Without a given address an entry that does not stop the walk breaks it. -/
theorem stationDevAplist_eq_none {file : List Char} {bssid : Option String}
    (hbssid : given bssid = false) (hes : ¬ ∀ e ∈ treeOf file, Stops ssid ssid2 ssid3 e) :
    stationDevAplist file ssid bssid ssid2 ssid3 good = none := by
  have hsig : ∀ e ∈ treeOf file, e.2.lookup "sig" = none := fun e he => sig_eq_none he
  unfold stationDevAplist
  rw [hbssid]
  change ((treeOf file).foldlM (choose ssid ssid2 ssid3 good) ⟨0, none, treeOf file⟩).map _ = _
  rw [foldlM_choose_eq_none hsig hes]
  rfl

/-- Without `good`, the last entry with a name is what is wanted. -/
theorem chooses_latest {tree : List (String × Attributes)} (htree : (tree.map Prod.fst).Nodup) :
    Chooses tree ssid ssid2 ssid3 false
      ((latest (addressOf ssid ssid2 ssid3) tree).bind fun mac => tree.lookup mac) := by
  have hnone : ∀ e, addressOf ssid ssid2 ssid3 e = none ↔ ¬ Matches ssid ssid2 ssid3 e := by
    intro e
    unfold addressOf
    split <;> simp [*]
  cases hlast : latest (addressOf ssid ssid2 ssid3) tree with
  | none =>
    rw [latest_eq_none_iff] at hlast
    exact ⟨iff_of_true rfl fun e he => (hnone e).mp (hlast e he), fun x hx => by cases hx⟩
  | some mac =>
    obtain ⟨e, he, hmac⟩ := exists_of_latest hlast
    have hmatch : Matches ssid ssid2 ssid3 e := by
      by_contra hnot
      rw [(hnone e).mpr hnot] at hmac
      cases hmac
    have hkey : e.1 = mac := by
      unfold addressOf at hmac
      rw [if_pos hmatch] at hmac
      exact Option.some.inj hmac
    have hfound : tree.lookup mac = some e.2 := lookup_of_mem htree (hkey ▸ he)
    rw [Option.bind_some, hfound]
    refine ⟨iff_of_false (by simp) fun h => h e he hmatch, fun x hx => ?_⟩
    rw [Option.mem_some_iff] at hx
    exact ⟨e, he, hmatch, hx.symm, fun hgood => by cases hgood⟩

/-- **The choice.** For every scan, with a name and no address, no absent name is compared and
what is found is an access point with one of the names, the best one where `good` is set, and
nothing exactly when there is none, if and only if every scanned name is found among the names
before an absent one would be compared and, with `good`, no scanned name is among them. -/
theorem choice_iff (file : List Char) {bssid : Option String} (hbssid : given bssid = false)
    (ssid : String) (ssid2 ssid3 : Option String) (good : Bool) :
    (∃ v, stationDevAplist file (some ssid) bssid ssid2 ssid3 good = some (.value v) ∧
        Chooses (treeOf file) ssid ssid2 ssid3 good v) ↔
      Comparable (treeOf file) ssid ssid2 ssid3 good := by
  constructor
  · rintro ⟨v, hv, hchooses⟩
    have hstops : ∀ e ∈ treeOf file, Stops ssid ssid2 ssid3 e := by
      by_contra hnot
      rw [stationDevAplist_eq_none hbssid hnot] at hv
      cases hv
    refine ⟨hstops, fun hgood => hchooses.absent.mp ?_⟩
    rw [stationDevAplist_of_stops hbssid hstops, hgood] at hv
    cases hv
    rfl
  · intro h
    rw [stationDevAplist_of_stops hbssid h.stops]
    refine ⟨_, rfl, ?_⟩
    cases good with
    | true => exact ⟨iff_of_true rfl (h.unmatched rfl), fun x hx => by cases hx⟩
    | false => exact chooses_latest (nodup_treeOf file)

/-- A network of WPA2. -/
def wpa2Network : AccessPoint := ashyelf (.psk .wpa2 .ccmp)

/-- The file of a scan that finds one network. -/
def oneNetwork : List Char := fileOf [wpa2Network]

/-- A scan with the wanted network alone. -/
theorem choice_iff_oneNetwork :
    (∃ v, stationDevAplist oneNetwork (some "ashyelf") none none none false = some (.value v) ∧
        Chooses (treeOf oneNetwork) "ashyelf" none none false v) ↔
      Comparable (treeOf oneNetwork) "ashyelf" none none false :=
  choice_iff oneNetwork rfl "ashyelf" none none false

/-- With `good`, the network is not taken, although it has the name and is the only one. -/
theorem oneNetwork_not_taken :
    ¬ ∃ v, stationDevAplist oneNetwork (some "ashyelf") none none none true = some (.value v) ∧
      Chooses (treeOf oneNetwork) "ashyelf" none none true v := by
  have htree : treeOf oneNetwork =
      setEntries [] [(wpa2Network.key, setEntries [] wpa2Network.attributes)] :=
    treeOf_fileOf (by decide) (by decide)
  rintro ⟨v, hv, hchooses⟩
  unfold stationDevAplist at hv
  rw [htree] at hv hchooses
  cases hv
  exact hchooses.absent.mp rfl _ List.mem_cons_self ⟨"ashyelf", rfl, Or.inl rfl⟩

end Tiger.Analysis.ScanChoice
