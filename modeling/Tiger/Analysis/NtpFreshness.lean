import Mathlib.Data.List.Nodup
import Mathlib.Data.Nat.Bitwise
import Mathlib.Logic.Relation
import Tiger.Model.Ntpclient

/-!
# Which answer the clock is set from

The client, a network and a server. The network loses datagrams, delivers them late, in any
order and any number of times, sends requests back to where they come from, and delivers
whatever it likes from another port. The server answers any request it has seen, as often as
it likes, with the time of the request in `orgtime` and anything else in the other fields.

In every run the clock is set from an answer to the request that was sent last
(`set_from_last`), as long as no two requests are alike. With `-s` alone there is one request,
so nothing is assumed there (`sync_sets_once`).
-/

set_option autoImplicit false

namespace Tiger.Analysis.NtpFreshness

open Tiger.Library Tiger.Model.Ntpclient

/-! ## The parties -/

/-- An answer of the server, with the number of the request it answers. -/
structure Reply where
  request : ℕ
  data : List UInt8

/-- The client, what it has sent, what the server has answered, and when the clock was set: after
how many requests, and to which time. -/
structure World where
  client : Client
  requests : List (List UInt8)
  replies : List Reply
  sets : List (ℕ × NtpTime)

/-- An answer has the time of its request in `orgtime`, and no datagram is cut off. -/
def Answers (data request : List UInt8) : Prop :=
  48 ≤ data.length ∧ data.length < sizeofIncoming ∧ timeAt data 6 = timeAt request 10

/-- What the network may deliver. -/
def Deliverable (w : World) : Event → Prop
  | .packet data port _ _ =>
    port ≠ 123 ∨ (∃ r ∈ w.replies, data = r.data) ∨ data ∈ w.requests
  | _ => True

/-- The requests among what a turn does. -/
def sent : Option Output → List (List UInt8)
  | some (.send data) => [data]
  | _ => []

/-- The settings of the clock among what a turn does. -/
def clockSets : Option Output → List NtpTime
  | some (.set new) => [new]
  | _ => []

section Runs

variable (errorOf : Fields → NtpTime → ℤ)

/-- A turn of the client. -/
def World.react (w : World) (e : Event) : World where
  client := (turn errorOf w.client e).1
  requests := w.requests ++ sent (turn errorOf w.client e).2
  replies := w.replies
  sets := w.sets ++ (clockSets (turn errorOf w.client e).2).map fun new => (w.requests.length, new)

/-- A step of one of the parties. -/
inductive Step : World → World → Prop where
  | client {w : World} (e : Event) (hrun : w.client.status = none) (h : Deliverable w e) :
    Step w (w.react errorOf e)
  | serve {w : World} {k : ℕ} {request : List UInt8} (data : List UInt8)
    (hk : w.requests[k]? = some request) (h : Answers data request) :
    Step w { w with replies := w.replies ++ [⟨k, data⟩] }

end Runs

/-- The program has started, and nothing is sent. -/
def World.init (args : Arguments) (timeOfSend : NtpTime) : World :=
  ⟨start args timeOfSend, [], [], []⟩

/-! ## Packets -/

/-- A reading of the clock fits into two words. -/
theorem ntpcGettime_lt (now : Timespec) :
    (ntpcGettime now).coarse < 2 ^ 32 ∧ (ntpcGettime now).fine < 2 ^ 32 := by
  simp only [ntpcGettime, ntpfrac]
  exact ⟨Nat.mod_lt _ (by decide), Nat.mod_lt _ (by decide)⟩

/-- The words of a request. -/
theorem wordAt_sendPacket {t : NtpTime} (hc : t.coarse < 2 ^ 32) (hf : t.fine < 2 ^ 32) {i : ℕ}
    (hi : i < 12) (rest : List UInt8) :
    wordAt (sendPacket t ++ rest) i =
      ([requestHead, 1 <<< 16, 1 <<< 16, 0, 0, 0, 0, 0, 0, 0, t.coarse, t.fine] : List ℕ)[i] := by
  refine wordAt_flatMap ?_ rest hi
  simp only [List.forall_mem_cons]
  refine ⟨by decide, by decide, by decide, by decide, by decide, by decide, by decide, by decide,
    by decide, by decide, hc, hf, by simp⟩

/-- The time stamp of a request is the one it was sent with. -/
theorem timeAt_sendPacket {t : NtpTime} (hc : t.coarse < 2 ^ 32) (hf : t.fine < 2 ^ 32) :
    timeAt (sendPacket t) 10 = t := by
  have h10 := wordAt_sendPacket hc hf (i := 10) (by decide) []
  have h11 := wordAt_sendPacket hc hf (i := 11) (by decide) []
  rw [List.append_nil] at h10 h11
  unfold timeAt
  rw [h10, h11]
  rfl

/-- The words of a datagram that is not cut off do not depend on the buffer it is put in. -/
theorem wordAt_received {data : List UInt8} (h48 : 48 ≤ data.length)
    (hsize : data.length < sizeofIncoming) (incoming : List UInt8) {i : ℕ} (hi : i < 12) :
    wordAt (received incoming data) i = wordAt data i := by
  unfold received
  rw [List.take_of_length_le (Nat.le_of_lt hsize)]
  exact wordAt_append_left (by omega) _

/-- A packet that fits is read as it was sent. -/
theorem timeAt_received {data : List UInt8} (h48 : 48 ≤ data.length)
    (hsize : data.length < sizeofIncoming) (incoming : List UInt8) {i : ℕ} (hi : i < 11) :
    timeAt (received incoming data) i = timeAt data i := by
  unfold timeAt
  rw [wordAt_received h48 hsize incoming (by omega), wordAt_received h48 hsize incoming (by omega)]

/-- A request that comes back does not pass: it is in the mode of a client. -/
theorem crossCheck_sendPacket {t : NtpTime} (hc : t.coarse < 2 ^ 32) (hf : t.fine < 2 ^ 32)
    (incoming : List UInt8) (timeOfSend : NtpTime) :
    crossCheck (fields (received incoming (sendPacket t))) timeOfSend = false := by
  have hlen : (sendPacket t).length = 48 := rfl
  have hword : wordAt (received incoming (sendPacket t)) 0 = requestHead := by
    rw [wordAt_received (le_of_eq hlen.symm) (by rw [hlen]; decide) incoming (by decide)]
    have h := wordAt_sendPacket hc hf (i := 0) (by decide) []
    rwa [List.append_nil] at h
  have hmode : (fields (received incoming (sendPacket t))).mode = 3 := by
    show (wordAt (received incoming (sendPacket t)) 0 >>> 24) &&& 0x07 = 3
    rw [hword]
    decide
  simp [crossCheck, hmode]

/-! ## One turn -/

/-- What a turn leaves as it is, other than sending. -/
def Kept (c c' : Client) : Prop :=
  c'.probesSent = c.probesSent ∧ ∃ b, c'.ntpc = { c.ntpc with setClock := b }

/-- Ending a turn changes no time stamp. -/
theorem kept_finish (c : Client) (error : ℤ) : Kept c (finish c error) := by
  unfold finish
  split
  · exact ⟨rfl, false, rfl⟩
  · exact ⟨rfl, c.ntpc.setClock, rfl⟩

/-- The buffer of the packet does not count. -/
theorem kept_incoming {c c' : Client} {data : List UInt8}
    (h : Kept { c with incoming := data } c') : Kept c c' := h

/-- A packet that the clock is set from. -/
structure Accepted (c : Client) (data : List UInt8) : Prop where
  nonempty : 0 < data.length
  short : data.length < sizeofIncoming
  checked : c.ntpc.crossCheck = true →
    crossCheck (fields (received c.incoming data)) c.ntpc.timeOfSend = true
  setting : c.ntpc.setClock = true

variable {errorOf : Fields → NtpTime → ℤ}

/-- All that a datagram can do. -/
theorem packetTurn_cases (errorOf : Fields → NtpTime → ℤ) (c : Client) (data : List UInt8)
    (port : ℕ) (arrival : Timespec) (settable : Bool) :
    ((packetTurn errorOf c data port arrival settable).2 = none ∧
      Kept c (packetTurn errorOf c data port arrival settable).1) ∨
    (port = 123 ∧ settable = true ∧ Accepted c data ∧
      ∃ error, packetTurn errorOf c data port arrival settable =
        (finish { c with incoming := received c.incoming data } error,
          some (.set (fields (received c.incoming data)).xmttime))) := by
  unfold packetTurn
  dsimp only
  by_cases hlen : 0 < data.length ∧ data.length < sizeofIncoming
  · rw [if_pos hlen]
    by_cases hport : port ≠ 123
    · rw [if_pos hport]
      exact .inl ⟨rfl, rfl, c.ntpc.setClock, rfl⟩
    rw [if_neg hport]
    by_cases hcheck : (c.ntpc.crossCheck &&
        ! crossCheck (fields (received c.incoming data)) c.ntpc.timeOfSend) = true
    · rw [if_pos hcheck]
      exact .inl ⟨rfl, rfl, c.ntpc.setClock, rfl⟩
    rw [if_neg hcheck]
    by_cases hset : c.ntpc.setClock = true
    · rw [if_pos hset]
      cases settable with
      | false => exact .inl ⟨rfl, rfl, c.ntpc.setClock, rfl⟩
      | true =>
        refine .inr ⟨not_not.mp hport, rfl, ⟨hlen.1, hlen.2, ?_, hset⟩, _, rfl⟩
        intro hon
        simpa [hon] using hcheck
    · rw [if_neg hset]
      exact .inl ⟨rfl, kept_incoming (kept_finish _ _)⟩
  · rw [if_neg hlen]
    exact .inl ⟨rfl, kept_incoming (kept_finish _ _)⟩

/-- All that a turn can do: nothing to the world, a request, or a setting of the clock. -/
theorem turn_cases (errorOf : Fields → NtpTime → ℤ) (c : Client) (e : Event) :
    ((turn errorOf c e).2 = none ∧ Kept c (turn errorOf c e).1) ∨
    (∃ now, ¬ ((c.probesSent : ℤ) ≥ c.ntpc.probeCount ∧ c.ntpc.probeCount ≠ 0) ∧
      turn errorOf c e =
        ({ c with
            ntpc := { c.ntpc with timeOfSend := ntpcGettime now }
            probesSent := c.probesSent + 1 },
          some (.send (sendPacket (ntpcGettime now))))) ∨
    (∃ data arrival, e = .packet data 123 arrival true ∧ Accepted c data ∧
      ∃ error, turn errorOf c e =
        (finish { c with incoming := received c.incoming data } error,
          some (.set (fields (received c.incoming data)).xmttime))) := by
  cases e with
  | interrupted => exact .inl ⟨rfl, rfl, c.ntpc.setClock, rfl⟩
  | timeout now =>
    simp only [turn]
    by_cases hmore : (c.probesSent : ℤ) ≥ c.ntpc.probeCount ∧ c.ntpc.probeCount ≠ 0
    · rw [timeoutTurn, if_pos hmore]
      exact .inl ⟨rfl, rfl, c.ntpc.setClock, rfl⟩
    · rw [timeoutTurn, if_neg hmore]
      exact .inr (.inl ⟨now, hmore, rfl⟩)
  | recvError => exact .inl ⟨rfl, kept_finish _ _⟩
  | packet data port arrival settable =>
    rcases packetTurn_cases errorOf c data port arrival settable with
      h | ⟨rfl, rfl, hacc, error, heq⟩
    · exact .inl h
    · exact .inr (.inr ⟨data, arrival, rfl, hacc, error, heq⟩)

/-! ## Every run -/

/-- What holds at every moment of a run. -/
structure Inv (args : Arguments) (w : World) : Prop where
  arguments : w.client.ntpc.live = args.live ∧ w.client.ntpc.crossCheck = args.crossCheck ∧
    w.client.ntpc.probeCount = args.count
  probes : w.client.probesSent = w.requests.length
  request : ∀ q ∈ w.requests, ∃ t : NtpTime, t.coarse < 2 ^ 32 ∧ t.fine < 2 ^ 32 ∧ q = sendPacket t
  last : ∀ q, w.requests.getLast? = some q → timeAt q 10 = w.client.ntpc.timeOfSend
  answered : ∀ r ∈ w.replies, ∃ q, w.requests[r.request]? = some q ∧ Answers r.data q

/-- The client and the network at the start. -/
theorem inv_init (args : Arguments) (timeOfSend : NtpTime) :
    Inv args (World.init args timeOfSend) where
  arguments := ⟨rfl, rfl, rfl⟩
  probes := rfl
  request := by simp [World.init]
  last := by simp [World.init]
  answered := by simp [World.init]

/-- What the turns that send nothing keep. -/
theorem Inv.of_kept {args : Arguments} {w w' : World} (h : Inv args w)
    (hkept : Kept w.client w'.client) (hrequests : w'.requests = w.requests)
    (hreplies : w'.replies = w.replies) : Inv args w' := by
  obtain ⟨hprobes, b, hntpc⟩ := hkept
  refine ⟨?_, ?_, ?_, ?_, ?_⟩
  · rw [hntpc]
    exact h.arguments
  · rw [hprobes, hrequests, h.probes]
  · rw [hrequests]
    exact h.request
  · rw [hrequests, hntpc]
    exact h.last
  · rw [hrequests, hreplies]
    exact h.answered

/-- A request is the last one, and the answers there are stay answers. -/
theorem Inv.of_send {args : Arguments} {w w' : World} (h : Inv args w) {t : NtpTime}
    (hc : t.coarse < 2 ^ 32) (hf : t.fine < 2 ^ 32)
    (hclient : w'.client = { w.client with
      ntpc := { w.client.ntpc with timeOfSend := t }
      probesSent := w.client.probesSent + 1 })
    (hrequests : w'.requests = w.requests ++ [sendPacket t])
    (hreplies : w'.replies = w.replies) : Inv args w' := by
  refine ⟨?_, ?_, ?_, ?_, ?_⟩
  · rw [hclient]
    exact h.arguments
  · rw [hclient, hrequests, List.length_append, List.length_singleton, ← h.probes]
  · rw [hrequests]
    intro q hq
    rcases List.mem_append.mp hq with hq | hq
    · exact h.request q hq
    · exact ⟨t, hc, hf, List.mem_singleton.mp hq⟩
  · rw [hrequests, hclient]
    intro q hq
    rw [List.getLast?_concat, Option.some.injEq] at hq
    rw [← hq, timeAt_sendPacket hc hf]
  · rw [hrequests, hreplies]
    intro r hr
    obtain ⟨q, hq, hans⟩ := h.answered r hr
    exact ⟨q, by rw [List.getElem?_append_left (List.getElem?_eq_some_iff.mp hq).1, hq], hans⟩

/-- A packet that the clock is set from is an answer to the last request. -/
theorem Inv.fresh {args : Arguments} {w : World} (h : Inv args w) (hcheck : args.crossCheck = true)
    {data : List UInt8} (hacc : Accepted w.client data)
    (hdel : (∃ r ∈ w.replies, data = r.data) ∨ data ∈ w.requests) :
    ∃ r ∈ w.replies, r.data = data ∧ 48 ≤ data.length ∧
      ∃ q, w.requests[r.request]? = some q ∧ w.requests.getLast? = some q := by
  have hpass := hacc.checked (by rw [h.arguments.2.1, hcheck])
  rcases hdel with ⟨r, hr, rfl⟩ | hreq
  · obtain ⟨q, hq, h48, hsize, horg⟩ := h.answered r hr
    refine ⟨r, hr, rfl, h48, q, hq, ?_⟩
    -- the time in the answer is the one the client remembers, and so is that of the last request
    have hsent : timeAt q 10 = w.client.ntpc.timeOfSend := by
      have horgtime : (fields (received w.client.incoming r.data)).orgtime =
          w.client.ntpc.timeOfSend := by
        simp only [crossCheck, Bool.and_eq_true, decide_eq_true_eq] at hpass
        exact hpass.1.1.1.1.2
      rw [← horg, ← timeAt_received h48 hsize w.client.incoming (by decide : 6 < 11)]
      exact horgtime
    have hmem : q ∈ w.requests := List.mem_of_getElem? hq
    obtain ⟨last, hlast⟩ :=
      Option.isSome_iff_exists.mp (List.getLast?_isSome.mpr (List.ne_nil_of_mem hmem))
    obtain ⟨t, htc, htf, rfl⟩ := h.request q hmem
    obtain ⟨t', htc', htf', rfl⟩ := h.request last (List.mem_of_getLast? hlast)
    have hsame := h.last _ hlast
    rw [timeAt_sendPacket htc' htf'] at hsame
    rw [timeAt_sendPacket htc htf] at hsent
    rw [hlast, hsame, hsent]
  · obtain ⟨t, htc, htf, rfl⟩ := h.request data hreq
    rw [crossCheck_sendPacket htc htf] at hpass
    exact absurd hpass Bool.false_ne_true

/-- What a step leaves. -/
inductive Effect (args : Arguments) (w : World) : World → Prop where
  | quiet {w' : World} (hrun : w.client.status = none) (hclient : Kept w.client w'.client)
    (hrequests : w'.requests = w.requests) (hreplies : w'.replies = w.replies)
    (hsets : w'.sets = w.sets) : Effect args w w'
  | send {w' : World} (now : Timespec) (hrun : w.client.status = none)
    (hmore : ¬ ((w.client.probesSent : ℤ) ≥ w.client.ntpc.probeCount ∧
      w.client.ntpc.probeCount ≠ 0))
    (hclient : w'.client = { w.client with
      ntpc := { w.client.ntpc with timeOfSend := ntpcGettime now }
      probesSent := w.client.probesSent + 1 })
    (hrequests : w'.requests = w.requests ++ [sendPacket (ntpcGettime now)])
    (hreplies : w'.replies = w.replies) (hsets : w'.sets = w.sets) : Effect args w w'
  | set {w' : World} (data : List UInt8) (error : ℤ)
    (hrun : w.client.status = none) (hacc : Accepted w.client data)
    (hdel : (∃ r ∈ w.replies, data = r.data) ∨ data ∈ w.requests)
    (hclient : w'.client =
      finish { w.client with incoming := received w.client.incoming data } error)
    (hrequests : w'.requests = w.requests) (hreplies : w'.replies = w.replies)
    (hsets : w'.sets = w.sets ++
      [(w.requests.length, timeAt (received w.client.incoming data) 10)]) : Effect args w w'
  | serve {k : ℕ} {request : List UInt8} (data : List UInt8)
    (hk : w.requests[k]? = some request) (h : Answers data request) :
    Effect args w { w with replies := w.replies ++ [⟨k, data⟩] }

/-- A step has one of these effects. -/
theorem effect_of_step (args : Arguments) {w w' : World} (h : Step errorOf w w') :
    Effect args w w' := by
  cases h with
  | serve data hk h => exact .serve data hk h
  | client e hrun hdel =>
    rcases turn_cases errorOf w.client e with
      ⟨hout, hkept⟩ | ⟨now, hmore, hturn⟩ | ⟨data, arrival, rfl, hacc, error, hturn⟩
    · refine .quiet hrun hkept ?_ rfl ?_
      · simp [World.react, hout, sent]
      · simp [World.react, hout, clockSets]
    · refine .send now hrun hmore ?_ ?_ rfl ?_
      · rw [World.react, hturn]
      · rw [World.react, hturn]
        rfl
      · simp [World.react, hturn, clockSets]
    · have hdata := hdel.resolve_left (by simp)
      refine .set data error hrun hacc hdata ?_ ?_ rfl ?_
      · rw [World.react, hturn]
      · simp [World.react, hturn, sent]
      · rw [World.react, hturn]
        rfl

/-- A step keeps what holds at every moment. -/
theorem inv_step {args : Arguments} {w w' : World} (hinv : Inv args w) (h : Effect args w w') :
    Inv args w' := by
  cases h with
  | quiet hrun hclient hrequests hreplies hsets => exact hinv.of_kept hclient hrequests hreplies
  | send now hrun hmore hclient hrequests hreplies hsets =>
    obtain ⟨hc, hf⟩ := ntpcGettime_lt now
    exact hinv.of_send hc hf hclient hrequests hreplies
  | set data error hrun hacc hdel hclient hrequests hreplies hsets =>
    refine hinv.of_kept ?_ hrequests hreplies
    rw [hclient]
    exact kept_incoming (kept_finish _ _)
  | serve data hk h =>
    refine ⟨hinv.arguments, hinv.probes, hinv.request, hinv.last, ?_⟩
    intro r hr
    rcases List.mem_append.mp hr with hr | hr
    · exact hinv.answered r hr
    · rw [List.mem_singleton.mp hr]
      exact ⟨_, hk, h⟩

/-- Every setting of the clock is one to the time in an answer to the request sent last. -/
def Fresh (w : World) : Prop :=
  ∀ s ∈ w.sets, ∃ r ∈ w.replies, r.request + 1 = s.1 ∧ timeAt r.data 10 = s.2

/-- A step sets the clock, if at all, from an answer to the last request. -/
theorem fresh_step {args : Arguments} (hcheck : args.crossCheck = true) {w w' : World}
    (hinv : Inv args w) (h : Effect args w w') (hfresh : w.requests.Nodup → Fresh w)
    (hnodup : w'.requests.Nodup) : Fresh w' := by
  cases h with
  | quiet hrun hclient hrequests hreplies hsets =>
    rw [hrequests] at hnodup
    unfold Fresh
    rw [hsets, hreplies]
    exact hfresh hnodup
  | send now hrun hmore hclient hrequests hreplies hsets =>
    rw [hrequests] at hnodup
    unfold Fresh
    rw [hsets, hreplies]
    exact hfresh hnodup.of_append_left
  | set data error hrun hacc hdel hclient hrequests hreplies hsets =>
    rw [hrequests] at hnodup
    obtain ⟨r, hr, rfl, h48, q, hq, hlast⟩ := hinv.fresh hcheck hacc hdel
    unfold Fresh
    rw [hsets, hreplies]
    intro s hs
    rcases List.mem_append.mp hs with hs | hs
    · exact hfresh hnodup s hs
    · rw [List.mem_singleton.mp hs]
      refine ⟨r, hr, ?_, (timeAt_received h48 hacc.short _ (by decide)).symm⟩
      -- no two requests are alike, so the one that is answered stands at the end only
      obtain ⟨hlt, hget⟩ := List.getElem?_eq_some_iff.mp hq
      have hpos : w.requests.length - 1 < w.requests.length := by omega
      rw [List.getLast?_eq_getElem?] at hlast
      have hindex := (List.getElem?_inj hlt hnodup).mp (hq.trans hlast.symm)
      omega
  | serve data hk h =>
    intro s hs
    obtain ⟨r, hr, hset⟩ := hfresh hnodup s hs
    exact ⟨r, List.mem_append_left _ hr, hset⟩

/-- What holds at every moment holds in every run. -/
theorem inv_run {args : Arguments} {timeOfSend : NtpTime} {w : World}
    (h : Relation.ReflTransGen (Step errorOf) (World.init args timeOfSend) w) : Inv args w := by
  induction h with
  | refl => exact inv_init args timeOfSend
  | tail _ hstep ih => exact inv_step ih (effect_of_step _ hstep)

/-- Every setting of a run is from an answer to the last request. -/
theorem fresh_run {args : Arguments} (hcheck : args.crossCheck = true) {timeOfSend : NtpTime}
    {w : World} (h : Relation.ReflTransGen (Step errorOf) (World.init args timeOfSend) w)
    (hnodup : w.requests.Nodup) : Fresh w := by
  revert hnodup
  induction h with
  | refl =>
    intro _ s hs
    exact absurd hs List.not_mem_nil
  | tail hrun hstep ih =>
    exact fun hnodup => fresh_step hcheck (inv_run hrun) (effect_of_step _ hstep) ih hnodup

/-- No more requests are sent than the arguments ask for. -/
theorem requests_le {args : Arguments} (hcount : 0 < args.count) {timeOfSend : NtpTime} {w : World}
    (h : Relation.ReflTransGen (Step errorOf) (World.init args timeOfSend) w) :
    (w.requests.length : ℤ) ≤ args.count := by
  induction h with
  | refl => exact Int.le_of_lt hcount
  | tail hrun hstep ih =>
    have hinv := inv_run hrun
    cases effect_of_step args hstep with
    | quiet _ _ hrequests => rwa [hrequests]
    | send _ _ hmore _ hrequests =>
      rw [hinv.probes, hinv.arguments.2.2] at hmore
      rw [hrequests, List.length_append, List.length_singleton]
      push_cast
      omega
    | set _ _ _ _ _ _ hrequests => rwa [hrequests]
    | serve => exact ih

/-- In every run with the checks on, and with no two requests alike, the clock is only ever set to
the time in an answer of the server, and the answer is one to the request that was sent last
before the clock was set. No more requests are sent than `-c` says. -/
theorem set_from_last {args : Arguments} (hcheck : args.crossCheck = true) {timeOfSend : NtpTime}
    {w : World} (h : Relation.ReflTransGen (Step errorOf) (World.init args timeOfSend) w)
    (hnodup : w.requests.Nodup) :
    (∀ s ∈ w.sets, ∃ r ∈ w.replies, r.request + 1 = s.1 ∧ timeAt r.data 10 = s.2) ∧
      (0 < args.count → (w.requests.length : ℤ) ≤ args.count) :=
  ⟨fresh_run hcheck h hnodup, fun hcount => requests_le hcount h⟩

/-! ### Rounds -/

/-- A time of the clock, and one a minute later. -/
def someTime : Timespec := ⟨1546300800, 250000000⟩

def laterTime : Timespec := ⟨1546300860, 250000000⟩

/-- An answer to a request at a time: in the mode of a server, with a stratum and a time. -/
def answerTo (now : Timespec) : List UInt8 :=
  [0x1c0204fa, 0, 0, 0, 0, 0, (ntpcGettime now).coarse, (ntpcGettime now).fine, 0, 0,
    (ntpcGettime now).coarse + 1, 7].flatMap wordBytes

/-- The world after a request, and after the answer to it. -/
def World.asked (w : World) (now : Timespec) : World := w.react (fun _ _ => 0) (.timeout now)

def World.answered (w : World) (now : Timespec) : World :=
  { w with replies := w.replies ++ [⟨w.requests.length - 1, answerTo now⟩] }

/-- The world after the clock was set from the answer. -/
def World.settled (w : World) (now : Timespec) : World :=
  w.react (fun _ _ => 0) (.packet (answerTo now) 123 now true)

/-- A request, its answer, and the setting of the clock. -/
def World.round (w : World) (now : Timespec) : World := ((w.asked now).answered now).settled now

/-- A round is made of steps of the parties. -/
theorem reach_round {args : Arguments} {timeOfSend : NtpTime} {w : World} {now : Timespec}
    {request : List UInt8}
    (h : Relation.ReflTransGen (Step fun _ _ => 0) (World.init args timeOfSend) w)
    (hrun : w.client.status = none) (hasked : (w.asked now).client.status = none)
    (hlast : (w.asked now).requests[(w.asked now).requests.length - 1]? = some request)
    (hanswer : Answers (answerTo now) request) :
    Relation.ReflTransGen (Step fun _ _ => 0) (World.init args timeOfSend) (w.round now) := by
  have hrequest : Step (fun _ _ => 0) w (w.asked now) := .client (.timeout now) hrun trivial
  have hserve : Step (fun _ _ => 0) (w.asked now) ((w.asked now).answered now) :=
    .serve (answerTo now) hlast hanswer
  have hsetting : Step (fun _ _ => 0) ((w.asked now).answered now) (w.round now) :=
    .client (.packet (answerTo now) 123 now true) hasked
      (.inr (.inl ⟨⟨_, answerTo now⟩, List.mem_append_right _ List.mem_cons_self, rfl⟩))
  exact ((h.tail hrequest).tail hserve).tail hsetting

/-- The arguments of `ntpclient -h server -s -c 2`. -/
def twiceArguments : Arguments where
  live := false
  setClock := true
  probeCount := 2
  goodness := 0
  crossCheck := true

def afterOne : World := (World.init twiceArguments ⟨0, 0⟩).round someTime

def afterTwo : World := afterOne.round laterTime

/-- Both exchanges are steps of the network. -/
theorem reach_afterTwo :
    Relation.ReflTransGen (Step fun _ _ => 0) (World.init twiceArguments ⟨0, 0⟩) afterTwo := by
  have hone : Relation.ReflTransGen (Step fun _ _ => 0) (World.init twiceArguments ⟨0, 0⟩)
      afterOne :=
    reach_round .refl rfl rfl rfl ⟨by decide, by decide, by decide +kernel⟩
  exact reach_round hone (by decide +kernel) (by decide +kernel) rfl
    ⟨by decide, by decide, by decide +kernel⟩

/-- Two requests, each answered and followed. -/
theorem set_from_last_twice :
    afterTwo.sets.map Prod.fst = [1, 2] ∧
      ∀ s ∈ afterTwo.sets, ∃ r ∈ afterTwo.replies,
        r.request + 1 = s.1 ∧ timeAt r.data 10 = s.2 :=
  ⟨by decide +kernel, (set_from_last rfl reach_afterTwo (by decide +kernel)).1⟩

/-! ## `-s` alone -/

/-- The arguments of `ntpclient -h server -s`. -/
def syncArguments : Arguments where
  live := false
  setClock := true
  probeCount := 0
  goodness := 0
  crossCheck := true

/-- One request, and one setting of the clock, after which the program is at its end. -/
structure Once (w : World) : Prop where
  requests : w.requests.length ≤ 1
  running : w.client.status = none → w.sets = []
  sets : w.sets.length ≤ 1
  stopped : w.sets ≠ [] → w.client.status = some 0

/-- A step sets the clock once at most. -/
theorem once_step {w w' : World} (hinv : Inv syncArguments w) (h : Effect syncArguments w w')
    (honce : Once w) : Once w' := by
  have hcount : w.client.ntpc.probeCount = 1 := hinv.arguments.2.2
  cases h with
  | quiet hrun hclient hrequests hreplies hsets =>
    have hnone := honce.running hrun
    rw [← hsets] at hnone
    exact ⟨hrequests ▸ honce.requests, fun _ => hnone, by simp [hnone], fun h => absurd hnone h⟩
  | send now hrun hmore hclient hrequests hreplies hsets =>
    have hnone := honce.running hrun
    rw [← hsets] at hnone
    refine ⟨?_, fun _ => hnone, by simp [hnone], fun h => absurd hnone h⟩
    rw [hcount, hinv.probes] at hmore
    rw [hrequests, List.length_append, List.length_singleton]
    omega
  | set data error hrun hacc hdel hclient hrequests hreplies hsets =>
    obtain ⟨r, hr, -, -, q, hq, -⟩ := hinv.fresh rfl hacc hdel
    have hsent : 1 ≤ w.requests.length :=
      Nat.one_le_of_lt (List.getElem?_eq_some_iff.mp hq).1
    have hstopped : w'.client.status = some 0 := by
      have henough : ((w.client.probesSent : ℕ) : ℤ) ≥ w.client.ntpc.probeCount ∧
          w.client.ntpc.probeCount ≠ 0 := by
        rw [hcount, hinv.probes]
        exact ⟨by omega, by decide⟩
      have hlive : w.client.ntpc.live = false := hinv.arguments.1
      rw [hclient, finish, if_pos (Or.inr henough)]
      simp [hlive]
    refine ⟨hrequests ▸ honce.requests, ?_, ?_, fun _ => hstopped⟩
    · intro hnone
      rw [hstopped] at hnone
      exact absurd hnone (by simp)
    · rw [hsets, honce.running hrun]
      rfl
  | serve data hk h =>
    exact ⟨honce.requests, honce.running, honce.sets, honce.stopped⟩

/-- `ntpclient -h server -s`, as the clock service runs it, sends one request at most and sets the
clock once at most, to the time in an answer to that request, and ends with status 0 when it
does. -/
theorem sync_sets_once {timeOfSend : NtpTime} {w : World}
    (h : Relation.ReflTransGen (Step errorOf) (World.init syncArguments timeOfSend) w) :
    w.requests.length ≤ 1 ∧ w.sets.length ≤ 1 ∧ (w.sets ≠ [] → w.client.status = some 0) ∧
      Fresh w := by
  have honce : Once w := by
    induction h with
    | refl => exact ⟨Nat.zero_le _, fun _ => rfl, Nat.zero_le _, fun hne => absurd rfl hne⟩
    | tail hrun hstep ih => exact once_step (inv_run hrun) (effect_of_step _ hstep) ih
  have hnodup : w.requests.Nodup := by
    match hrequests : w.requests, honce.requests with
    | [], _ => exact List.nodup_nil
    | [q], _ => exact List.nodup_singleton q
  exact ⟨honce.requests, honce.sets, honce.stopped, fresh_run rfl h hnodup⟩

/-- The run of one round. -/
def afterSync : World := (World.init syncArguments ⟨0, 0⟩).round someTime

/-- One request, answered and followed. -/
theorem sync_sets_once_run :
    afterSync.sets ≠ [] ∧ afterSync.client.status = some 0 ∧ Fresh afterSync := by
  have hreach : Relation.ReflTransGen (Step fun _ _ => 0) (World.init syncArguments ⟨0, 0⟩)
      afterSync :=
    reach_round .refl rfl rfl rfl ⟨by decide, by decide, by decide +kernel⟩
  have hsets : afterSync.sets.length = 1 := by decide +kernel
  have hne : afterSync.sets ≠ [] := List.ne_nil_of_length_pos (by omega)
  obtain ⟨-, -, hstopped, hfresh⟩ := sync_sets_once hreach
  exact ⟨hne, hstopped hne, hfresh⟩

end Tiger.Analysis.NtpFreshness
