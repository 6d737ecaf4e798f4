import Tiger.Analysis.LteStores

/-!
# Where a setting is stored

Both forms of a write send a key to the same place, `route`. For the keys that the
documentation lists as settings of the baseband, or that a driver reads, this is the
modem's configuration, with the exception of the two locks, which no write stores, and
of `lock_cell`.
-/

set_option autoImplicit false

namespace Tiger.Analysis.SettingRoutes

open Tiger.Library Tiger.Model Tiger.Model.LteSettings Tiger.Analysis.LteStores

/-! ## What the documentation and the drivers ask for -/

/-- The settings of the baseband in the documentation of the interface. -/
def basebandKeys : List String :=
  ["lock_imei", "lock_imsi", "lock_pin", "lock_nettype", "lock_band", "lock_cell",
    "gnss", "atport", "custom_set", "custom_watch",
    "need_simcard", "simcard_failed_threshold", "simcard_failed_threshold2",
    "simcard_failed_threshold3", "simcard_failed_everytime",
    "need_plmn", "need_signal", "signal_failed_threshold", "signal_failed_threshold2",
    "signal_failed_threshold3", "signal_failed_everytime",
    "watch_interval", "profile", "profile_cfg", "bsim", "bsim_cfg", "ssim", "ssim_cfg",
    "sms", "sms_cfg"]

/-- The keys the modem drivers read from the configuration of their device. -/
def driverKeys : List String :=
  ["lock_pin", "lock_nettype", "lock_band", "lock_cell", "profile_cfg"]

/-- The keys of the modem that neither has. -/
def extraModemKeys : List String := ["lock_arfcn", "lock_cellid", "usb_mode"]

/-- One of the two configurations. -/
inductive Store where
  | modem
  | ifname
  deriving DecidableEq

def Store.other : Store → Store
  | .modem => .ifname
  | .ifname => .modem

def config (st : Stores) : Store → Option Talk
  | .modem => st.modem
  | .ifname => st.ifname

/-- The stores after a call whose saves succeed. -/
def written (tk : Toolkit) (v : Option Talk) (path : List String) (st : Stores) : Stores :=
  (LteSettings.set tk ⟨true, true⟩ v path st).stores

/-- Writing any object with the key stores the value in this configuration, and the other
one does not have the key. -/
def WholeSends (tk : Toolkit) (k : String) (d : Store) : Prop :=
  ∀ v st x, KeysDistinct v → jsonValue (some v) k = some x →
    jsonValue (config (written tk (some v) [] st) d) k = some x ∧
      jsonValue (config (written tk (some v) [] st) d.other) k = none

/-- Writing the key alone stores the value in this configuration and leaves the other one. -/
def PathSends (tk : Toolkit) (k : String) (d : Store) : Prop :=
  ∀ x st, jsonValue (config (written tk (some x) [k] st) d) k = some x ∧
    config (written tk (some x) [k] st) d.other = config st d.other

/-- Both forms of a write send the key there. -/
def Sends (tk : Toolkit) (k : String) (d : Store) : Prop :=
  WholeSends tk k d ∧ PathSends tk k d

/-- No form of a write stores the key. -/
def NeverStored (tk : Toolkit) (k : String) : Prop :=
  (∀ v st d, KeysDistinct v → jsonValue (config (written tk (some v) [] st) d) k = none) ∧
    ∀ x st, written tk (some x) [k] st = st

/-! ## Routes -/

/-- The configuration a key goes to, if any. -/
def route (k : String) : Option Store :=
  if k ∈ ignoredKeys then none
  else if k ∈ wholeModemKeys then some .modem else some .ifname

/-- The value of a key after the write of a whole object. -/
theorem jsonValue_written_whole (tk : Toolkit) {v : Talk} (st : Stores) (k : String) (d : Store)
    (hv : KeysDistinct v) :
    jsonValue (config (written tk (some v) [] st) d) k =
      if route k = some d then jsonValue (some v) k else none := by
  obtain ⟨hmodem, hifname⟩ := jsonValue_setWhole tk ⟨true, true⟩ v st k rfl rfl
  obtain ⟨hfst, hsnd⟩ := lookup_separate (keysDistinct_strip hv) k
  rw [hfst, jsonValue_strip] at hmodem
  rw [hsnd, jsonValue_strip] at hifname
  unfold route
  by_cases hignored : k ∈ ignoredKeys
  · rw [if_pos hignored, ite_self] at hmodem hifname
    rw [if_pos hignored, if_neg nofun]
    cases d with
    | modem => exact hmodem
    | ifname => exact hifname
  · rw [if_neg hignored] at hmodem hifname ⊢
    by_cases hkey : k ∈ wholeModemKeys
    · rw [if_pos hkey] at hmodem hifname ⊢
      cases d with
      | modem => exact hmodem
      | ifname => exact hifname
    · rw [if_neg hkey] at hmodem hifname ⊢
      cases d with
      | modem => exact hmodem
      | ifname => exact hifname

/-- The write of a key changes the configuration the key goes to, and no other. -/
theorem config_written_path (tk : Toolkit) (x : Talk) (st : Stores) {k : String} (d : Store)
    (hk : k ≠ "") :
    config (written tk (some x) [k] st) d =
      if route k = some d then attrSet (config st d) [k] (some x) else config st d := by
  unfold route written
  by_cases hignored : k ∈ ignoredKeys
  · rw [if_pos hignored, if_neg nofun,
      stores_setPath_ignored tk ⟨true, true⟩ (some x) st [] hignored]
  · rw [if_neg hignored, ← pathModemKeys_eq]
    by_cases hkey : k ∈ pathModemKeys
    · rw [if_pos hkey, stores_setPath_modem tk (some x) st [] hk hignored hkey rfl]
      cases d <;> rfl
    · rw [if_neg hkey, stores_setPath_ifname tk (some x) st [] hk hignored hkey rfl]
      cases d <;> rfl

/-- Writing whole objects sends a key along its route. -/
theorem wholeSends_iff (tk : Toolkit) (k : String) (d : Store) :
    WholeSends tk k d ↔ route k = some d := by
  constructor
  · intro h
    have hdistinct : KeysDistinct (.json [(k, .text "")]) :=
      List.pairwise_singleton _ _
    have hvalue : jsonValue (some (.json [(k, .text "")])) k = some (.text "") :=
      List.lookup_cons_self
    have hsent := (h (.json [(k, .text "")]) ⟨none, none⟩ (.text "") hdistinct hvalue).1
    rw [jsonValue_written_whole tk _ k d hdistinct] at hsent
    by_contra hroute
    rw [if_neg hroute] at hsent
    cases hsent
  · intro hroute v st x hv hx
    rw [jsonValue_written_whole tk st k d hv, jsonValue_written_whole tk st k d.other hv,
      if_pos hroute]
    refine ⟨hx, if_neg ?_⟩
    rw [hroute]
    cases d <;> nofun

/-- Writing the key alone sends it along the same route. -/
theorem pathSends_iff (tk : Toolkit) {k : String} (d : Store) (hk : k ≠ "") :
    PathSends tk k d ↔ route k = some d := by
  constructor
  · intro h
    have hsent := (h (.text "") ⟨none, none⟩).1
    rw [config_written_path tk _ _ d hk] at hsent
    by_contra hroute
    rw [if_neg hroute] at hsent
    cases d <;> cases hsent
  · intro hroute x st
    rw [config_written_path tk x st d hk, config_written_path tk x st d.other hk,
      if_pos hroute, jsonValue_attrSet, if_pos rfl]
    refine ⟨rfl, if_neg ?_⟩
    rw [hroute]
    cases d <;> nofun

/-- A key without a route is never stored. -/
theorem neverStored_of_route {tk : Toolkit} {k : String} (hk : k ≠ "") (h : route k = none) :
    NeverStored tk k := by
  refine ⟨?_, ?_⟩
  · intro v st d hv
    rw [jsonValue_written_whole tk st k d hv, h]
    rfl
  · intro x st
    have hsame : ∀ d, config (written tk (some x) [k] st) d = config st d := by
      intro d
      rw [config_written_path tk x st d hk, h]
      rfl
    have hmodem := hsame .modem
    have hifname := hsame .ifname
    exact congrArg₂ Stores.mk hmodem hifname

/-- A key with a route is sent there. -/
theorem sends_of_route {tk : Toolkit} {k : String} {d : Store} (hk : k ≠ "")
    (h : route k = some d) : Sends tk k d :=
  ⟨(wholeSends_iff tk k d).mpr h, (pathSends_iff tk d hk).mpr h⟩

/-! ## The documented routing -/

/-- The keys of the documentation and of the drivers go to the modem, and all others to the
interface. -/
def RoutedAsDocumented (tk : Toolkit) : Prop :=
  (∀ k ∈ basebandKeys ++ driverKeys, Sends tk k .modem) ∧
    (∀ k, k ≠ "" → k ∉ basebandKeys ++ driverKeys → Sends tk k .ifname) ∧
    ∀ k, k ≠ "" → ∀ d, WholeSends tk k d ↔ PathSends tk k d

/-- The keys of the documentation and of the drivers have the modem as their route, except for
the locks, which have none, and `lock_cell`. -/
theorem route_baseband :
    ∀ k ∈ basebandKeys ++ driverKeys, k ∉ ignoredKeys → k ≠ "lock_cell" →
      k ≠ "" ∧ route k = some .modem := by
  decide

/-- The keys of the modem are those of the documentation and three more. -/
theorem mem_wholeModemKeys :
    ∀ k ∈ wholeModemKeys ++ ignoredKeys, k ∈ basebandKeys ++ driverKeys ∨ k ∈ extraModemKeys := by
  decide

/-- **Routing.** A key of the documentation or of a driver, other than the locks and
`lock_cell`, goes to the modem, and so do `lock_arfcn`, `lock_cellid` and `usb_mode`. A key
that is none of these goes to the interface. The locks are never stored. Both forms of a write
send a key to the same place. -/
theorem setting_routes (tk : Toolkit) :
    (∀ k ∈ basebandKeys ++ driverKeys, k ∉ ignoredKeys → k ≠ "lock_cell" → Sends tk k .modem) ∧
      (∀ k ∈ extraModemKeys, Sends tk k .modem) ∧
      (∀ k, k ≠ "" → k ∉ basebandKeys ++ driverKeys → k ∉ extraModemKeys →
        Sends tk k .ifname) ∧
      (∀ k ∈ ignoredKeys, NeverStored tk k) ∧
      ∀ k, k ≠ "" → ∀ d, WholeSends tk k d ↔ PathSends tk k d := by
  refine ⟨?_, ?_, ?_, ?_, ?_⟩
  · intro k hk hignored hcell
    obtain ⟨hne, hroute⟩ := route_baseband k hk hignored hcell
    exact sends_of_route hne hroute
  · have hextra : ∀ k ∈ extraModemKeys, k ≠ "" ∧ route k = some .modem := by decide
    intro k hk
    obtain ⟨hne, hroute⟩ := hextra k hk
    exact sends_of_route hne hroute
  · intro k hne hdoc hextra
    have hnot : k ∉ wholeModemKeys ++ ignoredKeys := by
      intro hmem
      rcases mem_wholeModemKeys k hmem with h | h
      · exact hdoc h
      · exact hextra h
    rw [List.mem_append, not_or] at hnot
    have hroute : route k = some .ifname := by
      unfold route
      rw [if_neg hnot.2, if_neg hnot.1]
    exact sends_of_route hne hroute
  · have hlocks : ∀ k ∈ ignoredKeys, k ≠ "" ∧ route k = none := by decide
    intro k hk
    obtain ⟨hne, hroute⟩ := hlocks k hk
    exact neverStored_of_route hne hroute
  · intro k hne d
    rw [wholeSends_iff, pathSends_iff tk d hne]

/-- The documentation lists `lock_imei`, and a write of it stores nothing. -/
theorem lock_imei_not_routed : ¬ RoutedAsDocumented plainToolkit := by
  rintro ⟨hbaseband, -, -⟩
  have hsends := (hbaseband "lock_imei" (by decide)).2
  rw [pathSends_iff plainToolkit .modem (by decide)] at hsends
  exact absurd hsends (by decide)

end Tiger.Analysis.SettingRoutes
