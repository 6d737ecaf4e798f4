import Tiger.Library.Latest
import Tiger.Model.Online

/-!
# What going online leaves behind

`_online` and `_upline` write a resolver file and a masquerade rule, one for IPv4 and
one for IPv6, and `_offline` is to take all of them away. A rule is deleted before it
is added, so there are never two (`single_run`).

`_offline` forgets the IPv6 side, and it deletes the IPv4 rule of the device that the
register names, whichever devices the calls before it were given. `balanced_iff` says
that nothing else is left: a run is balanced exactly when the latest calls before each
`_offline` left no more than that rule.
-/

set_option autoImplicit false

namespace Tiger.Analysis.OnlineBalance

open Tiger.Library Tiger.Model Tiger.Model.Online

/-- A call on an interface, with the configuration and the registers it reads. -/
inductive Call where
  | online (k : Kind) (cfg v : Option Talk) (reg : Register)
  | upline (cfg v : Option Talk) (reg : Register)
  | offline (cfg : Option Talk) (netdev ifdev : Option String) (reg : Register)

def Call.acts : Call → List Act
  | .online k cfg v reg => (Online.online k cfg v reg).acts
  | .upline cfg v reg => (Online.upline cfg v reg).acts
  | .offline cfg netdev ifdev reg => (Online.offline cfg netdev ifdev reg).acts

/-- What the calls of a run do, in order. -/
def actsOf (calls : List Call) : List Act := calls.flatMap Call.acts

/-- The machine after the actions. -/
def worldAfter (acts : List Act) : World := acts.foldl World.act World.empty

/-- At most one rule on each device and for each family. -/
def AtMostOne (w : World) : Prop := ∀ f dev, w.rules f dev ≤ 1

/-- Neither a resolver file nor a rule of the interface is there. -/
def Cleared (w : World) : Prop := ∀ f, w.resolv f = false ∧ ∀ dev, w.rules f dev = 0

/-- After every action of the run there is at most one rule on a device, and after every
`_offline` nothing is left. -/
structure Balanced (calls : List Call) : Prop where
  single : ∀ acts, acts <+: actsOf calls → AtMostOne (worldAfter acts)
  cleared : ∀ before after cfg netdev ifdev reg,
    calls = before ++ .offline cfg netdev ifdev reg :: after →
      Cleared (worldAfter (actsOf (before ++ [.offline cfg netdev ifdev reg])))

/-- What a call decides about the rule of a device: it is there afterwards, or it is not. -/
def Call.rule (f : Family) (dev : String) : Call → Option Bool
  | .online _ cfg v _ =>
    if cfg.isSome ∧ f = .ipv4 ∧ dev = printed (jsonString v "netdev") then
      some (jsonString cfg "masq" = some "enable")
    else none
  | .upline cfg v _ =>
    if cfg.isSome ∧ f = .ipv6 ∧ dev = printed (jsonString v "netdev") then
      some (jsonString cfg "masquerade" = some "enable")
    else none
  | .offline _ netdev _ _ =>
    if given netdev ∧ f = .ipv4 ∧ dev = printed netdev then some false else none

/-- What a call decides about the IPv6 resolver file. Only servers that are customized and empty
leave none. -/
def Call.file6 : Call → Option Bool
  | .upline cfg _ reg =>
    let value := reg.method.bind (jsonValue cfg)
    if cfg.isSome then
      some (jsonString value "custom_resolve" ≠ some "enable" ||
        given (jsonString value "resolve") || given (jsonString value "resolve2"))
    else none
  | _ => none

/-- The latest `_upline` left no resolver file, the latest one on each device left no rule, and an
IPv4 rule is on no device but the registered one. -/
structure Covered (before : List Call) (netdev : Option String) : Prop where
  file6 : latest Call.file6 before ≠ some true
  rule6 : ∀ dev, latest (Call.rule .ipv6 dev) before ≠ some true
  rule4 : ∀ dev, latest (Call.rule .ipv4 dev) before = some true →
    given netdev ∧ dev = printed netdev

/-- What was left before each `_offline` is what an `_offline` takes away. -/
def Coverable (calls : List Call) : Prop :=
  ∀ before after cfg netdev ifdev reg,
    calls = before ++ .offline cfg netdev ifdev reg :: after → Covered before netdev

/-! ## Actions -/

/-- What an action decides about a resolver file. -/
def fileOf (f : Family) : Act → Option Bool
  | .unlinkResolv f' => if f' = f then some false else none
  | .search f' _ => if f' = f then some true else none
  | .nameserver f' _ => if f' = f then some true else none
  | _ => none

/-- The action leaves the rules alone. -/
def Unruled : Act → Prop
  | .masqDelete _ _ => False
  | .masqAppend _ _ => False
  | _ => True

/-- A resolver file is there when the last action on it says so. -/
theorem resolv_run (f : Family) (acts : List Act) :
    (worldAfter acts).resolv f = (latest (fileOf f) acts).getD false := by
  refine latest_run (R := fun (w : World) b => w.resolv f = b) (fun w b a hb => ?_) rfl acts
  have hother : ∀ f' b', (Function.update w.resolv f' b') f =
      ((if f' = f then some b' else none : Option Bool)).getD b := by
    intro f' b'
    by_cases hf : f' = f
    · rw [hf, if_pos rfl, Function.update_self]
      rfl
    · rw [if_neg hf, Function.update_of_ne (Ne.symm hf)]
      exact hb
  cases a with
  | unlinkResolv f' => exact hother f' false
  | search f' _ => exact hother f' true
  | nameserver f' _ => exact hother f' true
  | _ => exact hb

/-- An action that leaves the rules alone leaves their number. -/
theorem rules_act {w : World} {a : Act} (ha : Unruled a) : (w.act a).rules = w.rules := by
  cases a with
  | masqDelete _ _ => exact ha.elim
  | masqAppend _ _ => exact ha.elim
  | _ => rfl

/-- Actions that leave the rules alone leave their number. -/
theorem rules_of_unruled {w : World} {acts : List Act} (h : ∀ a ∈ acts, Unruled a) :
    (acts.foldl World.act w).rules = w.rules := by
  induction acts generalizing w with
  | nil => rfl
  | cons a acts ih =>
    rw [List.foldl_cons, ih fun a' ha' => h a' (List.mem_cons_of_mem a ha'),
      rules_act (h a List.mem_cons_self)]

/-! ## The shape of a call -/

/-- The action leaves the rules and the IPv6 resolver file alone. -/
def Plain (a : Act) : Prop := Unruled a ∧ fileOf .ipv6 a = none

/-- The rules of one device are written, with actions of the kind `P` around it. -/
def Around (P : Act → Prop) (f : Family) (dev : String) (masq : Option String)
    (acts : List Act) : Prop :=
  ∃ before after, acts = before ++ masqActs f dev masq ++ after ∧ ∀ a ∈ before ++ after, P a

/-- The resolver of a gateway has nothing to do with rules. -/
theorem dnsActs_plain (gateway : Option String) (v : Option Talk) (server : Option String) :
    ∀ a ∈ dnsActs gateway v server, Plain a := by
  intro a ha
  simp only [dnsActs, List.mem_ite_nil_right, List.mem_flatMap, List.mem_cons,
    List.mem_ite_nil_left, List.not_mem_nil, or_false] at ha
  obtain ⟨-, ip, -, rfl | ⟨-, rfl⟩⟩ := ha
  · exact ⟨trivial, rfl⟩
  · exact ⟨trivial, rfl⟩

/-- The end of going online has nothing to do with rules. -/
theorem onlineEnd_plain (k : Kind) (cfg v : Option Talk) (netdev ifdev : Option String)
    (tid : Option ℤ) : ∀ a ∈ (onlineEnd k cfg v netdev ifdev tid).1, Plain a := by
  intro a ha
  cases netdev with
  | none =>
    obtain ⟨-, hmem⟩ := List.mem_ite_nil_right.mp ha
    rw [List.mem_singleton.mp hmem]
    exact ⟨trivial, rfl⟩
  | some dev =>
    cases tid with
    | none =>
      simp only [onlineEnd, List.mem_append, List.mem_ite_nil_right, List.mem_singleton,
        List.not_mem_nil, Option.mem_toList, Option.map_eq_some_iff, or_false] at ha
      rcases ha with ((⟨-, rfl⟩ | ⟨-, rfl⟩) | ⟨-, rfl⟩) | ⟨_, -, rfl⟩ <;> exact ⟨trivial, rfl⟩
    | some t =>
      simp only [onlineEnd, List.mem_append, List.mem_ite_nil_right, List.mem_singleton,
        Option.mem_toList, Option.map_eq_some_iff] at ha
      rcases ha with (((⟨-, rfl⟩ | ⟨-, rfl⟩) | ⟨-, rfl⟩) | ⟨-, rfl⟩) | ⟨_, -, rfl⟩ <;>
        exact ⟨trivial, rfl⟩

/-- Going online writes the rules of its device once. -/
theorem online_around (k : Kind) (cfg : Talk) (v : Option Talk) (reg : Register) :
    Around Plain .ipv4 (printed (jsonString v "netdev")) (jsonString (some cfg) "masq")
      (online k (some cfg) v reg).acts := by
  unfold online
  rw [if_neg (by simp)]
  refine ⟨_, _, rfl, fun a ha => ?_⟩
  simp only [List.mem_append, List.mem_cons, or_assoc] at ha
  rcases ha with rfl | ha | ha | ha | ha
  · exact ⟨trivial, rfl⟩
  · obtain ⟨-, hmem⟩ := List.mem_ite_nil_left.mp ha
    obtain ⟨domain, -, rfl⟩ := Option.map_eq_some_iff.mp (Option.mem_toList.mp hmem)
    exact ⟨trivial, rfl⟩
  · exact dnsActs_plain _ _ _ a ha
  · exact dnsActs_plain _ _ _ a ha
  · exact onlineEnd_plain _ _ _ _ _ _ a ha

/-- Going online with IPv6 writes the rules of its device once. -/
theorem upline_around (cfg : Talk) (v : Option Talk) (reg : Register) :
    Around Unruled .ipv6 (printed (jsonString v "netdev")) (jsonString (some cfg) "masquerade")
      (upline (some cfg) v reg).acts := by
  unfold upline
  rw [if_neg (by simp)]
  refine ⟨_, [], (List.append_nil _).symm, fun a ha => ?_⟩
  simp only [List.append_nil, List.mem_append, List.mem_cons, List.mem_ite_nil_left,
    List.mem_ite_nil_right, Option.mem_toList, Option.map_eq_some_iff, or_assoc] at ha
  rcases ha with rfl | ⟨-, _, -, rfl⟩ | ⟨-, _, -, rfl⟩ | ⟨-, _, -, rfl⟩ <;> trivial

/-- Going offline takes the rules of its device away. -/
theorem offline_around (cfg : Option Talk) {netdev : Option String} (ifdev : Option String)
    (reg : Register) (hnetdev : given netdev) :
    Around Plain .ipv4 (printed netdev) none (offline cfg netdev ifdev reg).acts := by
  unfold offline
  rw [if_pos hnetdev]
  refine ⟨[.unlinkResolv .ipv4], .pmtuClear (printed netdev) (jsonString cfg "mtu") ::
    (if given ifdev then (ifdev.map Act.ifdevOffline).toList else []), rfl, fun a ha => ?_⟩
  simp only [List.singleton_append, List.mem_cons, List.mem_ite_nil_right, Option.mem_toList,
    Option.map_eq_some_iff] at ha
  rcases ha with rfl | rfl | ⟨-, _, -, rfl⟩ <;> exact ⟨trivial, rfl⟩

/-- Without a device, going offline has nothing to do with rules. -/
theorem offline_plain (cfg : Option Talk) {netdev : Option String} (ifdev : Option String)
    (reg : Register) (hnetdev : ¬ given netdev) :
    ∀ a ∈ (offline cfg netdev ifdev reg).acts, Plain a := by
  intro a ha
  unfold offline at ha
  rw [if_neg hnetdev] at ha
  simp only [List.mem_append, List.mem_cons, List.not_mem_nil, List.mem_ite_nil_right,
    Option.mem_toList, Option.map_eq_some_iff, or_false] at ha
  rcases ha with rfl | ⟨-, _, -, rfl⟩ <;> exact ⟨trivial, rfl⟩

/-- A call writes the rules of at most one device, and says so. -/
theorem call_shape (c : Call) :
    ((∀ a ∈ c.acts, Unruled a) ∧ ∀ f dev, c.rule f dev = none) ∨
      ∃ f dev masq, Around Unruled f dev masq c.acts ∧ ∀ f' dev', c.rule f' dev' =
        if f' = f ∧ dev' = dev then some (decide (masq = some "enable")) else none := by
  have hplain : ∀ {f dev masq acts}, Around Plain f dev masq acts →
      Around Unruled f dev masq acts := by
    rintro f dev masq acts ⟨before, after, hsplit, h⟩
    exact ⟨before, after, hsplit, fun a ha => (h a ha).1⟩
  cases c with
  | online k cfg v reg =>
    cases cfg with
    | none => exact .inl ⟨fun a ha => absurd ha List.not_mem_nil, by simp [Call.rule]⟩
    | some cfg =>
      refine .inr ⟨_, _, _, hplain (online_around k cfg v reg), fun f' dev' => ?_⟩
      simp [Call.rule]
  | upline cfg v reg =>
    cases cfg with
    | none => exact .inl ⟨fun a ha => absurd ha List.not_mem_nil, by simp [Call.rule]⟩
    | some cfg =>
      refine .inr ⟨_, _, _, upline_around cfg v reg, fun f' dev' => ?_⟩
      simp [Call.rule]
  | offline cfg netdev ifdev reg =>
    by_cases hnetdev : given netdev
    · refine .inr ⟨_, _, _, hplain (offline_around cfg ifdev reg hnetdev), fun f' dev' => ?_⟩
      simp [Call.rule, hnetdev]
    · refine .inl ⟨fun a ha => (offline_plain cfg ifdev reg hnetdev a ha).1, fun f dev => ?_⟩
      simp [Call.rule, hnetdev]

/-! ## One rule at most -/

/-- There is at most one rule on a device from the first action on to the last. -/
def Single : World → List Act → Prop
  | w, [] => AtMostOne w
  | w, a :: acts => AtMostOne w ∧ Single (w.act a) acts

/-- One rule at most all along is one at most after every prefix. -/
theorem atMostOne_of_single {w : World} {acts p : List Act} (h : Single w acts)
    (hp : p <+: acts) : AtMostOne (p.foldl World.act w) := by
  induction acts generalizing w p with
  | nil =>
    rw [List.prefix_nil.mp hp]
    exact h
  | cons a acts ih =>
    cases p with
    | nil => exact h.1
    | cons b p =>
      obtain ⟨rfl, hrest⟩ := List.cons_prefix_cons.mp hp
      rw [List.foldl_cons]
      exact ih h.2 hrest

/-- Two rows of actions have one rule at most when each has. -/
theorem single_append {w : World} {acts acts' : List Act} (h : Single w acts)
    (h' : Single (acts.foldl World.act w) acts') : Single w (acts ++ acts') := by
  induction acts generalizing w with
  | nil => exact h'
  | cons a acts ih => exact ⟨h.1, ih h.2 h'⟩

/-- Actions that leave the rules alone make none. -/
theorem single_of_unruled {w : World} {acts : List Act} (hw : AtMostOne w)
    (h : ∀ a ∈ acts, Unruled a) : Single w acts := by
  induction acts generalizing w with
  | nil => exact hw
  | cons a acts ih =>
    have hone : (w.act a).rules = w.rules := rules_act (h a List.mem_cons_self)
    refine ⟨hw, ih ?_ fun b hb => h b (List.mem_cons_of_mem a hb)⟩
    intro f dev
    rw [hone]
    exact hw f dev

/-- The count of one device, and what it says: a rule is there or not. -/
def Counts (f : Family) (dev : String) (w : World) (b : Bool) : Prop := w.rules f dev = b.toNat

/-- Deleting and adding the rules of one device. -/
theorem masqActs_counts {f : Family} {dev : String} {masq : Option String} {w : World}
    (hw : AtMostOne w) {f' : Family} {dev' : String} {b : Bool} (hb : Counts f' dev' w b) :
    Counts f' dev' ((masqActs f dev masq).foldl World.act w)
      ((if f' = f ∧ dev' = dev then some (decide (masq = some "enable")) else none).getD b) := by
  have hle := hw f dev
  unfold Counts at hb ⊢
  by_cases hf : f' = f
  · by_cases hdev : dev' = dev
    · subst hf hdev
      by_cases hmasq : masq = some "enable"
      · have hone : w.rules f' dev' - 1 + 1 = 1 := by omega
        simpa [masqActs, World.act, hmasq] using hone
      · have hzero : w.rules f' dev' - 1 = 0 := by omega
        simpa [masqActs, World.act, hmasq] using hzero
    · subst hf
      by_cases hmasq : masq = some "enable"
      · simpa [masqActs, World.act, hmasq, hdev] using hb
      · simpa [masqActs, World.act, hmasq, hdev] using hb
  · by_cases hmasq : masq = some "enable"
    · simpa [masqActs, World.act, hmasq, hf] using hb
    · simpa [masqActs, World.act, hmasq, hf] using hb

/-- One rule at most is there or not. -/
theorem exists_counts {w : World} (hw : AtMostOne w) (f : Family) (dev : String) :
    ∃ b, Counts f dev w b := by
  have hle := hw f dev
  by_cases hone : w.rules f dev = 1
  · exact ⟨true, hone⟩
  · have hzero : w.rules f dev = 0 := by omega
    exact ⟨false, hzero⟩

/-- A rule that is there or not is one at most. -/
theorem atMostOne_of_counts {w : World} (h : ∀ f dev, ∃ b, Counts f dev w b) : AtMostOne w := by
  intro f dev
  obtain ⟨b, hb⟩ := h f dev
  rw [hb]
  exact b.toNat_le

/-- Writing the rules of a device leaves one at most. -/
theorem masqActs_atMostOne {w : World} (hw : AtMostOne w) (f : Family) (dev : String)
    (masq : Option String) : AtMostOne ((masqActs f dev masq).foldl World.act w) := by
  refine atMostOne_of_counts fun f' dev' => ?_
  obtain ⟨b, hb⟩ := exists_counts hw f' dev'
  exact ⟨_, masqActs_counts hw hb⟩

/-- Writing the rules of a device makes one at most all along. -/
theorem masqActs_single {w : World} (hw : AtMostOne w) (f : Family) (dev : String)
    (masq : Option String) : Single w (masqActs f dev masq) := by
  have hdeleted := masqActs_atMostOne hw f dev none
  by_cases hmasq : masq = some "enable"
  · have hadded := masqActs_atMostOne hw f dev masq
    rw [hmasq] at hadded ⊢
    exact ⟨hw, hdeleted, hadded⟩
  · unfold masqActs
    rw [if_neg hmasq]
    exact ⟨hw, hdeleted⟩

/-- **One call.** The rules of a device are what the call decides, and there are never two. -/
theorem call_step {w : World} (hw : AtMostOne w) (c : Call) :
    Single w c.acts ∧ ∀ f dev b, Counts f dev w b →
      Counts f dev (c.acts.foldl World.act w) ((c.rule f dev).getD b) := by
  rcases call_shape c with ⟨hacts, hrule⟩ | ⟨f, dev, masq, ⟨before, after, hsplit, hacts⟩, hrule⟩
  · refine ⟨single_of_unruled hw hacts, fun f dev b hb => ?_⟩
    rw [hrule f dev]
    unfold Counts
    rw [rules_of_unruled hacts]
    exact hb
  · have hbefore := rules_of_unruled (w := w) fun a ha => hacts a (List.mem_append_left after ha)
    have hafter := fun a ha => hacts a (List.mem_append_right before ha)
    have hw' : AtMostOne (before.foldl World.act w) := by
      unfold AtMostOne
      rw [hbefore]
      exact hw
    rw [hsplit]
    refine ⟨single_append (single_append (single_of_unruled hw fun a ha =>
      hacts a (List.mem_append_left after ha)) (masqActs_single hw' f dev masq)) ?_, ?_⟩
    · rw [List.foldl_append]
      exact single_of_unruled (masqActs_atMostOne hw' f dev masq) hafter
    · intro f' dev' b hb
      have hcounts : Counts f' dev' (before.foldl World.act w) b := by
        unfold Counts
        rw [hbefore]
        exact hb
      rw [hrule f' dev']
      unfold Counts
      rw [List.foldl_append, List.foldl_append, rules_of_unruled hafter]
      exact masqActs_counts hw' hcounts

/-! ## Runs -/

/-- A run of calls has one rule at most all along. -/
theorem single_run {w : World} (hw : AtMostOne w) (calls : List Call) :
    Single w (actsOf calls) := by
  induction calls generalizing w with
  | nil => exact hw
  | cons c calls ih =>
    have hcall := (call_step hw c).1
    exact single_append hcall (ih (atMostOne_of_single hcall (List.prefix_refl _)))

/-- At the start there is no rule. -/
theorem empty_atMostOne : AtMostOne World.empty := fun _ _ => Nat.zero_le 1

/-- The rules after a run are what the latest calls decided. -/
theorem rules_run (f : Family) (dev : String) (calls : List Call) :
    (worldAfter (actsOf calls)).rules f dev =
      ((latest (Call.rule f dev) calls).getD false).toNat := by
  have hstep : ∀ (w : World) (b : Bool) (c : Call), AtMostOne w ∧ Counts f dev w b →
      AtMostOne (c.acts.foldl World.act w) ∧
        Counts f dev (c.acts.foldl World.act w) ((c.rule f dev).getD b) := by
    rintro w b c ⟨hw, hb⟩
    have hcall := call_step hw c
    exact ⟨atMostOne_of_single hcall.1 (List.prefix_refl _), hcall.2 f dev b hb⟩
  have hstart : AtMostOne World.empty ∧ Counts f dev World.empty false := ⟨empty_atMostOne, rfl⟩
  have hrun := latest_run (R := fun w b => AtMostOne w ∧ Counts f dev w b) hstep hstart calls
  unfold worldAfter actsOf
  rw [List.foldl_flatMap]
  exact hrun.2

/-- A server that is not given is the default. -/
theorem given_serverOr {default : String} (h : default ≠ "") (server : Option String) :
    given (serverOr (some default) server) := by
  unfold serverOr
  by_cases hserver : given server
  · simp [hserver]
  · have hdefault : given (some default) := by simp [given, h]
    simp [hserver, hdefault]

/-- Rules write no resolver file. -/
theorem latest_masqActs (f f' : Family) (dev : String) (masq : Option String) :
    latest (fileOf f) (masqActs f' dev masq) = none := by
  unfold masqActs
  split <;> rfl

/-- A server that is given writes the file. -/
theorem latest_server {s : Option String} (h : given s) :
    latest (fileOf .ipv6) (s.map (Act.nameserver .ipv6)).toList = some true := by
  cases s with
  | none => exact absurd h Bool.false_ne_true
  | some ip => rfl

/-- `_upline` leaves a resolver file unless the servers are customized and empty. -/
theorem upline_file6 (cfg : Talk) (v : Option Talk) (reg : Register) :
    latest (fileOf .ipv6) (upline (some cfg) v reg).acts =
      Call.file6 (.upline (some cfg) v reg) := by
  have hunlink : fileOf .ipv6 (.unlinkResolv .ipv6) = some false := rfl
  by_cases hcustom :
      jsonString (reg.method.bind (jsonValue (some cfg))) "custom_resolve" = some "enable"
  · set value := reg.method.bind (jsonValue (some cfg)) with hvalue
    by_cases hfirst : given (jsonString value "resolve") <;>
      by_cases hsecond : given (jsonString value "resolve2") <;>
      simp [upline, Call.file6, ← hvalue, hcustom, hunlink, hfirst, hsecond, latest_masqActs,
        latest_server]
  · have hsecond := given_serverOr (by decide : "114.114.114.114" ≠ "") (jsonString v "resolve2")
    simp [upline, Call.file6, hcustom, hsecond, latest_masqActs, latest_server hsecond]

/-- What a call writes into the IPv6 file is known from the call. -/
theorem file6_eq (c : Call) : latest (fileOf .ipv6) c.acts = c.file6 := by
  have hplain : ∀ {acts : List Act}, (∀ a ∈ acts, Plain a) → latest (fileOf .ipv6) acts = none :=
    fun h => latest_eq_none fun a ha => (h a ha).2
  have haround : ∀ {f dev masq acts}, Around Plain f dev masq acts →
      latest (fileOf .ipv6) acts = none := by
    rintro f dev masq acts ⟨before, after, rfl, h⟩
    rw [latest_append, latest_append, latest_masqActs,
      hplain fun a ha => h a (List.mem_append_left after ha),
      hplain fun a ha => h a (List.mem_append_right before ha)]
    rfl
  cases c with
  | online k cfg v reg =>
    cases cfg with
    | none => rfl
    | some cfg => exact haround (online_around k cfg v reg)
  | upline cfg v reg =>
    cases cfg with
    | none => rfl
    | some cfg => exact upline_file6 cfg v reg
  | offline cfg netdev ifdev reg =>
    by_cases hnetdev : given netdev
    · exact haround (offline_around cfg ifdev reg hnetdev)
    · exact hplain (offline_plain cfg ifdev reg hnetdev)

/-- The IPv6 resolver file after a run is what the latest call decided. -/
theorem file6_run (calls : List Call) :
    (worldAfter (actsOf calls)).resolv .ipv6 = (latest Call.file6 calls).getD false := by
  have hfiles : (fun c : Call => latest (fileOf .ipv6) c.acts) = Call.file6 := funext file6_eq
  unfold actsOf
  rw [resolv_run, latest_flatMap, hfiles]

/-- Going offline removes the IPv4 file. -/
theorem offline_file4 (cfg : Option Talk) (netdev ifdev : Option String) (reg : Register)
    (acts : List Act) :
    (worldAfter (acts ++ (offline cfg netdev ifdev reg).acts)).resolv .ipv4 = false := by
  have hlatest : latest (fileOf .ipv4) (offline cfg netdev ifdev reg).acts = some false := by
    unfold offline
    rw [List.cons_append, latest_cons, latest_eq_none]
    · rfl
    · intro a ha
      simp only [List.mem_append, List.mem_cons, List.not_mem_nil, List.mem_ite_nil_right,
        Option.mem_toList, Option.map_eq_some_iff, or_false] at ha
      rcases ha with ⟨-, rfl | rfl⟩ | ⟨-, _, -, rfl⟩ <;> rfl
  rw [resolv_run, latest_append, hlatest]
  rfl

/-- No rule is there unless the last call decided for one. -/
theorem toNat_getD_eq_zero_iff (decided : Option Bool) :
    (decided.getD false).toNat = 0 ↔ decided ≠ some true := by
  cases decided with
  | none => simp
  | some b => cases b <;> simp

/-- What has to hold before an `_offline` for nothing to be left after it. -/
theorem cleared_iff (before : List Call) (cfg : Option Talk) (netdev ifdev : Option String)
    (reg : Register) :
    Cleared (worldAfter (actsOf (before ++ [.offline cfg netdev ifdev reg]))) ↔
      Covered before netdev := by
  set c : Call := .offline cfg netdev ifdev reg with hc
  have hfile6 : (worldAfter (actsOf (before ++ [c]))).resolv .ipv6 = false ↔
      latest Call.file6 before ≠ some true := by
    have hlast : latest Call.file6 (before ++ [c]) = latest Call.file6 before := by
      rw [latest_append, hc]
      rfl
    rw [file6_run, hlast]
    cases latest Call.file6 before with
    | none => simp
    | some b => simp
  have hfile4 : (worldAfter (actsOf (before ++ [c]))).resolv .ipv4 = false := by
    have hacts : actsOf (before ++ [c]) =
        actsOf before ++ (offline cfg netdev ifdev reg).acts := by
      simp [actsOf, hc, Call.acts]
    rw [hacts]
    exact offline_file4 cfg netdev ifdev reg _
  have hrule : ∀ f dev, (worldAfter (actsOf (before ++ [c]))).rules f dev = 0 ↔
      (c.rule f dev).or (latest (Call.rule f dev) before) ≠ some true := by
    intro f dev
    rw [rules_run, toNat_getD_eq_zero_iff, latest_append, latest_cons, latest_nil, Option.none_or]
  have hrule6 : ∀ dev, c.rule .ipv6 dev = none := by
    intro dev
    simp [hc, Call.rule]
  have hrule4 : ∀ dev, (c.rule .ipv4 dev).or (latest (Call.rule .ipv4 dev) before) ≠ some true ↔
      (latest (Call.rule .ipv4 dev) before = some true → given netdev ∧ dev = printed netdev) := by
    intro dev
    by_cases hdev : given netdev ∧ dev = printed netdev
    · simp [hc, Call.rule, hdev]
    · simp [hc, Call.rule, hdev]
  constructor
  · intro h
    refine ⟨hfile6.mp (h .ipv6).1, fun dev => ?_, fun dev => ?_⟩
    · have hgone := (hrule .ipv6 dev).mp ((h .ipv6).2 dev)
      rw [hrule6 dev] at hgone
      exact hgone
    · exact (hrule4 dev).mp ((hrule .ipv4 dev).mp ((h .ipv4).2 dev))
  · intro h f
    cases f with
    | ipv4 => exact ⟨hfile4, fun dev => (hrule .ipv4 dev).mpr ((hrule4 dev).mpr (h.rule4 dev))⟩
    | ipv6 =>
      refine ⟨hfile6.mpr h.file6, fun dev => (hrule .ipv6 dev).mpr ?_⟩
      rw [hrule6 dev]
      exact h.rule6 dev

/-- **Balance.** There is never a second rule, and every `_offline` of a run leaves nothing behind
exactly when what the calls before it left is what it takes away. -/
theorem balanced_iff (calls : List Call) : Balanced calls ↔ Coverable calls := by
  constructor
  · intro h before after cfg netdev ifdev reg hsplit
    exact (cleared_iff before cfg netdev ifdev reg).mp
      (h.cleared before after cfg netdev ifdev reg hsplit)
  · intro h
    constructor
    · intro acts hacts
      exact atMostOne_of_single (single_run empty_atMostOne calls) hacts
    · intro before after cfg netdev ifdev reg hsplit
      exact (cleared_iff before cfg netdev ifdev reg).mpr
        (h before after cfg netdev ifdev reg hsplit)

/-- The IPv6 address comes from a router and its traffic is masqueraded. -/
def configIpv6 : Option Talk :=
  some (.json [("mode", .text "dhcpc"), ("method", .text "automatic"), ("masq", .text "enable"),
    ("masquerade", .text "enable")])

/-- The information of the network component about the device `usb0`. -/
def infoUsb0 : Option Talk :=
  some (.json [("ifname", .text "ifname@lte"), ("ifdev", .text "ifdev@lte"),
    ("netdev", .text "usb0"), ("gw", .text "10.0.0.1")])

/-- The register after `_service` recorded the mode and the method. -/
def registerIpv6 : Register :=
  { Register.empty with mode := some "dhcpc", method := some "automatic" }

/-- Online, upline and offline of one interface: the IPv6 rule and the IPv6 file stay. -/
theorem balance_leaves_ipv6 :
    ¬ Balanced [.online lteKind configIpv6 infoUsb0 registerIpv6,
      .upline configIpv6 infoUsb0 registerIpv6,
      .offline configIpv6 (some "usb0") (some "ifdev@lte") registerIpv6] := by
  intro h
  have hclear := h.cleared [.online lteKind configIpv6 infoUsb0 registerIpv6,
    .upline configIpv6 infoUsb0 registerIpv6] [] _ _ _ _ rfl
  have hleft := (hclear .ipv6).2 "usb0"
  revert hleft
  decide

end Tiger.Analysis.OnlineBalance
