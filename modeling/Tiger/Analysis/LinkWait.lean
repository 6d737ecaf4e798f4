import Mathlib.Order.Nat
import Mathlib.Order.Interval.Finset.Nat
import Mathlib.Data.Nat.Count
import Tiger.Analysis.RetryEscalation

/-!
# The wait for the link

`ethcon` waits until the device answers `connected` three times in a row and gives up at
the `failed_timeout`-th negative answer. A positive answer does not count towards the
limit, but after three of them the wait is over, so a flapping link costs at most three
polls for each negative answer (`readyLoop_polls`). The wait succeeds exactly when three
positive answers in a row come early enough (`readyLoop_ready_iff`).
-/

set_option autoImplicit false

namespace Tiger.Analysis.LinkWait

open Tiger.Model Tiger.Model.ConnectService

/-- The negative answers among the first `n`. -/
def negatives (reply : ℕ → Bool) (n : ℕ) : ℕ := Nat.count (fun i => reply i = false) n

/-- Three positive answers in a row come before the `limit`-th negative one. -/
def Debounced (reply : ℕ → Bool) (limit : ℕ) : Prop :=
  ∃ n, reply n = true ∧ reply (n + 1) = true ∧ reply (n + 2) = true ∧ negatives reply n < limit

/-! ## The loop -/

/-- A positive reply is not counted. -/
theorem negatives_succ_of_true {reply : ℕ → Bool} {n : ℕ} (h : reply n = true) :
    negatives reply (n + 1) = negatives reply n := by
  unfold negatives
  rw [Nat.count_succ, if_neg (by simp [h]), Nat.add_zero]

/-- A negative reply is counted. -/
theorem negatives_succ_of_false {reply : ℕ → Bool} {n : ℕ} (h : reply n = false) :
    negatives reply (n + 1) = negatives reply n + 1 := by
  unfold negatives
  rw [Nat.count_succ, if_pos h]

/-- From a state with the last `ready` answers positive, the loop takes at most three polls for
each negative answer that is left, less those it has had. -/
theorem readyLoop_polls (reply : ℕ → Bool) (limit ready check n : ℕ) (hready : ready ≤ 2)
    (hleft : check < limit ∨ ready = 0) :
    (readyLoop reply limit ready check n).2 + ready ≤ n + 3 * (limit - check) := by
  induction ready, check, n using readyLoop.induct reply limit with
  | case1 ready check n hcheck hreply hthree =>
    unfold readyLoop
    rw [if_pos hcheck, if_pos hreply, if_pos hthree]
    omega
  | case2 ready check n hcheck hreply hthree ih =>
    unfold readyLoop
    rw [if_pos hcheck, if_pos hreply, if_neg hthree]
    have hlater := ih (by omega) (Or.inl hcheck)
    omega
  | case3 ready check n hcheck hreply ih =>
    unfold readyLoop
    rw [if_pos hcheck, if_neg hreply]
    have hlater := ih (by omega) (Or.inr rfl)
    omega
  | case4 ready check n hcheck =>
    unfold readyLoop
    rw [if_neg hcheck]
    omega

/-- The loop ends below its limit exactly when there are three positive answers in a row, the
positive ones before the state included, with fewer negative answers before them. -/
theorem readyLoop_lt_iff (reply : ℕ → Bool) (limit ready check n : ℕ) (hready : ready ≤ 2)
    (hleft : check < limit ∨ ready = 0) (hn : ready ≤ n)
    (hrow : ∀ i, n - ready ≤ i → i < n → reply i = true) (hcount : negatives reply n = check) :
    (readyLoop reply limit ready check n).1 < limit ↔
      ∃ k, n - ready ≤ k ∧ reply k = true ∧ reply (k + 1) = true ∧ reply (k + 2) = true ∧
        negatives reply k < limit := by
  induction ready, check, n using readyLoop.induct reply limit with
  | case1 ready check n hcheck hreply hthree =>
    have htwo : ready = 2 := by omega
    subst htwo
    unfold readyLoop
    rw [if_pos hcheck, if_pos hreply, if_pos hthree]
    refine ⟨fun _ => ⟨n - 2, le_refl _, hrow _ (le_refl _) (by omega), ?_, ?_, ?_⟩, fun _ => hcheck⟩
    · exact hrow _ (by omega) (by omega)
    · rw [Nat.sub_add_cancel hn]
      exact hreply
    · have hle : negatives reply (n - 2) ≤ negatives reply n :=
        Nat.count_monotone _ (Nat.sub_le n 2)
      omega
  | case2 ready check n hcheck hreply hthree ih =>
    unfold readyLoop
    rw [if_pos hcheck, if_pos hreply, if_neg hthree]
    have hstart : n + 1 - (ready + 1) = n - ready := by omega
    rw [← hstart]
    apply ih (by omega) (Or.inl hcheck) (by omega)
    · intro i hlow hhigh
      by_cases hi : i = n
      · rw [hi]
        exact hreply
      · exact hrow i (by omega) (by omega)
    · rw [negatives_succ_of_true hreply]
      exact hcount
  | case3 ready check n hcheck hreply ih =>
    have hfalse : reply n = false := Bool.eq_false_iff.mpr hreply
    unfold readyLoop
    rw [if_pos hcheck, if_neg hreply]
    rw [ih (by omega) (Or.inr rfl) (by omega) (fun i hlow hhigh => by omega)
      (by rw [negatives_succ_of_false hfalse, hcount])]
    refine exists_congr fun k => and_congr_left ?_
    rintro ⟨hfirst, hsecond, hthird, -⟩
    -- a row that begins at or before this answer would contain it
    have hne : ∀ j, reply j = true → j ≠ n := by
      rintro j hj rfl
      rw [hfalse] at hj
      cases hj
    have hzero := hne k hfirst
    have hone := hne (k + 1) hsecond
    have htwo := hne (k + 2) hthird
    omega
  | case4 ready check n hcheck =>
    unfold readyLoop
    rw [if_neg hcheck]
    have hzero : ready = 0 := by omega
    subst hzero
    refine ⟨fun hlt => absurd hlt hcheck, ?_⟩
    rintro ⟨k, hk, -, -, -, hfew⟩
    have hle : negatives reply n ≤ negatives reply k := Nat.count_monotone _ (by omega)
    omega

/-- **The wait**: the loop ends below its limit exactly when the answers are debounced. -/
theorem readyLoop_ready_iff (reply : ℕ → Bool) (limit : ℕ) :
    (readyLoop reply limit 0 0 0).1 < limit ↔ Debounced reply limit := by
  have hcount : negatives reply 0 = 0 := Nat.count_zero _
  rw [readyLoop_lt_iff reply limit 0 0 0 (by omega) (Or.inr rfl) (le_refl 0)
    (fun i _ hi => by omega) hcount]
  simp [Debounced]

/-! ## A run -/

/-- The run of `ethcon` comes to the wait. -/
structure Waits (cfg : Option Talk) (env : Dial) (count : Option ℤ) : Prop where
  found : ifdevFound env = true
  configured : cfg ≠ none
  noReset : ethEscalate (failedSettings ethDefaults cfg) (count.getD 0) = some false
  up : env.up = true
  netdev : env.netdev.getD "" ≠ ""
  connect : env.connect 0 = true

/-- The run goes on to the setup of the address. -/
def Acquires (e : ServiceEnd) : Prop := ∃ mode method, Call.acquire mode method ∈ e.calls

/-- The calls before the wait. -/
def callsBefore (cfg : Option Talk) (env : Dial) : List Call :=
  startCalls env ++ modeCalls cfg ++ [.up] ++ [.onlineing] ++ [.connect] ++ setmacCalls cfg

/-- These are all the calls before the link is waited for. -/
theorem notMem_callsBefore {cfg : Option Talk} {env : Dial} {c : Call}
    (hstart : c ≠ .networkOffline) (hmode : ∀ name value, c ≠ .register name value)
    (hup : c ≠ .up) (honlineing : c ≠ .onlineing) (hconnect : c ≠ .connect)
    (hsetmac : ∀ mac, c ≠ .setmac mac) : c ∉ callsBefore cfg env := by
  unfold callsBefore
  simp only [List.mem_append, List.mem_singleton, hup, honlineing, hconnect, or_false]
  rintro ((h | h) | h)
  · exact hstart (mem_startCalls h)
  · obtain ⟨name, value, hc⟩ := mem_modeCalls h
    exact hmode name value hc
  · obtain ⟨mac, hc⟩ := mem_setmacCalls h
    exact hsetmac mac hc

/-- What a run that comes to the wait calls: the loop's polls, and after them either the
setup of the address or `down`. -/
theorem ethService_waits {cfg : Option Talk} {env : Dial} {count : Option ℤ}
    (h : Waits cfg env count) :
    ∃ e, ethService cfg env count = some e ∧
      let timeout := (failedSettings ethDefaults cfg).timeout
      let wait := readyLoop env.connected timeout.toNat 0 0 0
      e.calls = callsBefore cfg env ++ List.replicate wait.2 .connected ++
        if timeout ≤ wait.1 then [.down]
        else [.onlineing, .acquire (dialMode cfg) (dialMethod cfg)] := by
  unfold ethService
  simp only [h.found, h.configured, h.noReset, Bool.not_true, Bool.false_eq_true, if_false,
    Option.map_some]
  refine ⟨_, rfl, ?_⟩
  unfold resetOr ethDial callsBefore
  simp only [h.up, h.netdev, h.connect, Bool.not_true, Bool.false_eq_true, if_false]
  split
  · simp
  · simp

/-- **The link wait.** A run that comes to the wait with a positive `failed_timeout` polls at
most `3 * failed_timeout + 3` times, goes on to the setup of the address exactly when three
positive answers in a row come before the `failed_timeout`-th negative one, and otherwise puts
the device down. -/
theorem link_wait {cfg : Option Talk} {env : Dial} {count : Option ℤ} {timeout : ℕ}
    (hwaits : Waits cfg env count)
    (htimeout : (failedSettings ethDefaults cfg).timeout = timeout) (hpos : 0 < timeout) :
    ∃ e, ethService cfg env count = some e ∧
      e.calls.count .connected ≤ 3 * timeout + 3 ∧
      (Acquires e ↔ Debounced env.connected timeout) ∧
      (.down ∈ e.calls ↔ ¬ Debounced env.connected timeout) := by
  obtain ⟨e, hrun, hcalls⟩ := ethService_waits hwaits
  simp only [htimeout, Int.toNat_natCast, Int.ofNat_le] at hcalls
  have hpolls := readyLoop_polls env.connected timeout 0 0 0 (by omega) (Or.inr rfl)
  have hready := readyLoop_ready_iff env.connected timeout
  have hdown : Call.down ∉ callsBefore cfg env := by
    apply notMem_callsBefore <;> simp
  have hconnected : Call.connected ∉ callsBefore cfg env := by
    apply notMem_callsBefore <;> simp
  have hacquire : ∀ mode method, Call.acquire mode method ∉ callsBefore cfg env := by
    intro mode method
    apply notMem_callsBefore <;> simp
  refine ⟨e, hrun, ?_, ?_, ?_⟩
  · have hcount : e.calls.count .connected =
        (readyLoop env.connected timeout 0 0 0).2 := by
      rw [hcalls, List.count_append, List.count_append, List.count_eq_zero_of_not_mem hconnected,
        List.count_replicate_self]
      split <;> simp
    rw [hcount]
    omega
  · unfold Acquires
    rw [hcalls, ← hready]
    split
    · next hge =>
      simp [hacquire, hge]
    · next hlt =>
      simp [hacquire, Nat.lt_of_not_le hlt]
  · rw [hcalls, ← hready]
    split
    · next hge =>
      simp [hge]
    · next hlt =>
      simp [hdown, Nat.lt_of_not_le hlt]

/-- A device that connects and then answers with two positive replies for each negative one. -/
def flapping : Dial where
  onNetwork := false
  ifdev := some "ethernet@lan"
  ifdevExist := true
  up := true
  hasReset := true
  bsimMode := none
  bsimDialFailed := none
  bsimSetting := 0
  connect _ := true
  connected n := n % 3 ≠ 2
  netdev := some "eth0"
  acquire _ _ := ⟨true, .ttrue⟩

/-- The flapping device is put down after one negative answer. -/
theorem link_wait_flapping :
    ∃ e, ethService (some RetryEscalation.shortTimeout) flapping none = some e ∧
      e.calls.count .connected ≤ 3 * 1 + 3 ∧
      (Acquires e ↔ Debounced flapping.connected 1) ∧
      (.down ∈ e.calls ↔ ¬ Debounced flapping.connected 1) :=
  link_wait ⟨rfl, by decide, rfl, rfl, by decide, rfl⟩ rfl (by decide)

end Tiger.Analysis.LinkWait
