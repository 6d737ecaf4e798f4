import Tiger.Analysis.LteStores

/-!
# The device locks under writes

The locks are meant to be out of reach of `_set`: the path form ignores them and the
whole form takes them out of the value. But the whole form then replaces the modem's
configuration by that value, and the locks that were stored are gone
(`jsonValue_lock_set`). A run of writes keeps them exactly when there are none or no
whole object reaches the modem's configuration.
-/

set_option autoImplicit false

namespace Tiger.Analysis.DeviceLocks

open Tiger.Library Tiger.Model Tiger.Model.LteSettings Tiger.Analysis.LteStores

/-- A call of `_set` with a value. -/
structure Call where
  saves : Saves
  value : Talk
  path : List String

/-- A sequence of calls. -/
def runCalls (tk : Toolkit) (calls : List Call) (st : Stores) : Stores :=
  calls.foldl (fun st c => (LteSettings.set tk c.saves (some c.value) c.path st).stores) st

/-- The locks of the modem's configuration are the same. -/
def LocksKept (st st' : Stores) : Prop :=
  ∀ k ∈ ignoredKeys, jsonValue st'.modem k = jsonValue st.modem k

/-- The call writes a whole object, and a save of the modem's configuration succeeds. -/
def ReplacesModem (c : Call) : Prop := firstLayer c.path = "" ∧ c.saves.modem = true

instance (c : Call) : Decidable (ReplacesModem c) := inferInstanceAs (Decidable (_ ∧ _))

/-- The locks are no settings of the modem. -/
theorem not_mem_wholeModemKeys : ∀ k ∈ ignoredKeys, k ∉ wholeModemKeys := by decide

/-- **One call** takes a lock away or leaves it. -/
theorem jsonValue_lock_set (tk : Toolkit) (c : Call) (st : Stores) {k : String}
    (hk : k ∈ ignoredKeys) :
    jsonValue (LteSettings.set tk c.saves (some c.value) c.path st).stores.modem k =
      if ReplacesModem c then none else jsonValue st.modem k := by
  have hkey := not_mem_wholeModemKeys k hk
  rw [set_eq]
  change jsonValue (saved c.saves.modem st.modem (modemWrite tk (some c.value) c.path st)) k = _
  by_cases hsave : c.saves.modem = true
  · rw [hsave]
    unfold modemWrite
    by_cases hwhole : firstLayer c.path = ""
    · have hreplaces : ReplacesModem c := ⟨hwhole, hsave⟩
      rw [if_pos hreplaces, if_pos hwhole]
      dsimp only
      rw [jsonValue_saved_whole]
      exact lookup_separate_modem_of_notMem (strip c.value) hkey
    · have hkeeps : ¬ ReplacesModem c := fun h => hwhole h.1
      rw [if_neg hkeeps, if_neg hwhole]
      by_cases hignored : firstLayer c.path ∈ ignoredKeys
      · rw [if_pos hignored, saved_none]
      · rw [if_neg hignored]
        by_cases hmodem : firstLayer c.path ∈ pathModemKeys
        · rw [if_pos hmodem]
          change jsonValue (attrSet st.modem c.path (some c.value)) k = jsonValue st.modem k
          cases hpath : c.path with
          | nil =>
            rw [hpath] at hwhole
            exact absurd rfl hwhole
          | cons l ks =>
            rw [hpath] at hignored
            have hne : k ≠ l := by
              rintro rfl
              exact hignored hk
            exact jsonValue_attrSet_of_ne _ _ _ hne
        · rw [if_neg hmodem, saved_none]
  · have hkeeps : ¬ ReplacesModem c := fun h => hsave h.2
    rw [if_neg hkeeps, Bool.eq_false_iff.mpr hsave]
    rfl

/-- A run takes a lock away as soon as one of its calls does. -/
theorem jsonValue_lock_runCalls (tk : Toolkit) (calls : List Call) (st : Stores) {k : String}
    (hk : k ∈ ignoredKeys) :
    jsonValue (runCalls tk calls st).modem k =
      if ∃ c ∈ calls, ReplacesModem c then none else jsonValue st.modem k := by
  induction calls generalizing st with
  | nil => rfl
  | cons c calls ih =>
    have htail := ih (LteSettings.set tk c.saves (some c.value) c.path st).stores
    change jsonValue (runCalls tk calls _).modem k = _
    rw [htail, jsonValue_lock_set tk c st hk]
    by_cases hc : ReplacesModem c
    · simp [hc]
    · simp [hc]

/-- **The locks.** They are the same after a run of writes as before if and only if none is
stored, or no call of the run writes a whole object and saves the modem's configuration. -/
theorem locks_kept_iff (tk : Toolkit) (calls : List Call) (st : Stores) :
    LocksKept st (runCalls tk calls st) ↔
      (∀ k ∈ ignoredKeys, jsonValue st.modem k = none) ∨ ∀ c ∈ calls, ¬ ReplacesModem c := by
  constructor
  · intro hkept
    by_cases hreplaces : ∃ c ∈ calls, ReplacesModem c
    · left
      intro k hk
      have hvalue := hkept k hk
      rw [jsonValue_lock_runCalls tk calls st hk, if_pos hreplaces] at hvalue
      exact hvalue.symm
    · right
      intro c hc hreplaced
      exact hreplaces ⟨c, hc, hreplaced⟩
  · intro h k hk
    rw [jsonValue_lock_runCalls tk calls st hk]
    rcases h with hnone | hpaths
    · rw [hnone k hk, ite_self]
    · have hkeeps : ¬ ∃ c ∈ calls, ReplacesModem c := by
        rintro ⟨c, hc, hreplaced⟩
        exact hpaths c hc hreplaced
      rw [if_neg hkeeps]

/-- The write of an interface setting as a whole object takes the lock of the modem away. -/
theorem lock_imei_lost :
    ¬ LocksKept ⟨some (.json [("lock_imei", .text "861234567890123")]), none⟩
      (runCalls plainToolkit [⟨⟨true, true⟩, .json [("tid", .text "1")], []⟩]
        ⟨some (.json [("lock_imei", .text "861234567890123")]), none⟩) := by
  intro hkept
  exact absurd (hkept "lock_imei" (by decide)) (by decide)

end Tiger.Analysis.DeviceLocks
