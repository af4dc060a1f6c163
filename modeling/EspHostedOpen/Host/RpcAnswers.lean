import EspHostedOpen.Host.RpcRuns
import EspHostedOpen.Host.RpcSafety

/-!
# Callers get their own answers (`rpc_core.c`)

`rpc_rx_q` is one queue for all callers, and a caller that has been woken takes what is in front.
`answers_own_iff` says for which of the careful runs every caller that gets an answer gets the one
with its own uid, and every response in the queue is for a caller that has been or will be woken.
-/

namespace EspHostedOpen.RpcCore

open Transition

variable {c : Config} {s s' t : State c} {g : Ghost c} {id k : ReqId} {resp : Resp}

/-- In `wait_for_sync_response`, up to its semaphore. -/
def Caller.waits : Caller c → Bool
  | .waiting (.find _) => true
  | .waiting (.get _) => true
  | .waiting (.wait _ _) => true
  | _ => false

/-- It has got its semaphore, and is on its way to the response. -/
def Caller.takes : Caller c → Bool
  | .waiting (.destroy _ ok) => ok
  | .waiting (.clear _ ok) => ok
  | .waiting (.cleared _ ok) => ok
  | .take => true
  | _ => false

def Caller.answer : Caller c → Option Resp
  | .free answer => answer
  | .returned answer => answer
  | _ => none

theorem Caller.waits_of_takes {pc : Caller c} (h : pc.takes = true) : ¬pc.waits = true := by
  cases pc with
  | waiting pc =>
    cases pc with
    | find | get | wait => cases h
    | destroy | clear | cleared => nofun
  | take => nofun
  | idle | sending | free | returned => cases h

/-- On the way to the semaphore of the request. -/
def PostPc.Heads (s : State c) (id : ReqId) : PostPc c → Prop
  | .put _ => False
  | .avail resp n => respInRange resp.msgId = true ∧ resp.uid = s.uids id ∧
      ∃ i, n ≤ i.val ∧ (s.sync i).sem = some id
  | .post resp n => resp.uid = s.uids id ∧ ∃ i, n ≤ i.val ∧ (s.sync i).sem = some id
  | .sem i => (s.sync i).sem = some id
  | .give k => k = id

/-- The caller has been woken, or it waits and its semaphore is or will be posted. -/
def State.Served (s : State c) (id : ReqId) : Prop :=
  (s.callers id).takes = true ∨ (s.callers id).waits = true ∧
    (s.sems id = .made true ∨ ∃ pc ∈ s.rx.posting, pc.Heads s id)

/-- Every answer is the one with the caller's uid, and every response in the queue is for one caller
that has been or will be woken for it. -/
structure Own (s : State c) : Prop where
  answered : ∀ {id}, ∀ resp ∈ (s.callers id).answer, resp.uid = s.uids id
  queued : ∀ {resp}, resp ∈ s.rxQ → ∃ id, s.uids id = resp.uid ∧ s.Served id
  once : (s.rxQ.map Resp.uid).Nodup

/-- The condition on a step of a caller: nobody gives up while a response for it is queued, and
whoever takes one finds its own. -/
def CallerMatched (s : State c) (env : CallerEnv) (id : ReqId) : Caller c → Prop
  | .waiting (.wait _ sem) => s.sems sem = .made false → env.timeout = true →
      ∀ resp ∈ s.rxQ, resp.uid ≠ s.uids id
  | .take => ∀ resp ∈ s.rxQ.head?, resp.uid = s.uids id
  | _ => True

/-- Of the transmit thread: no response for a failure gets into the queue. -/
def TxMatched (s : State c) : TxPc c → Prop
  | .post _ (.put _) => rpcRxQueueSize ≤ s.rxQ.length
  | _ => True

/-- Of the receive thread: a response that gets into the queue is of a known kind, and the first one
for a caller that waits. -/
def RxMatched (s : State c) : RxPc c → Prop
  | .post (.put resp) => s.rxQ.length < rpcRxQueueSize → respInRange resp.msgId = true ∧
    (∃ id < s.reqs.length, (s.callers id).waits = true ∧ s.uids id = resp.uid) ∧
      ∀ q ∈ s.rxQ, q.uid ≠ resp.uid
  | _ => True

/-- The condition on a step. -/
def Matched (s : State c) : Action → Prop
  | .caller env id => CallerMatched s env id (s.callers id)
  | .tx _ => TxMatched s s.tx
  | .rx => RxMatched s s.rx
  | _ => True

/-! ## Steps of the threads and the timers -/

theorem PostPc.Heads.congr {pc : PostPc c} (h : pc.Heads s id) (huids : s'.uids = s.uids)
    (hsync : s'.sync = s.sync) : pc.Heads s' id := by
  cases pc with
  | put => exact h
  | avail resp n =>
    unfold Heads
    rw [huids, hsync]
    exact h
  | post resp n =>
    unfold Heads
    rw [huids, hsync]
    exact h
  | sem i =>
    unfold Heads
    rw [hsync]
    exact h
  | give => exact h

theorem Own.of_keeps (h : Own s) (hs : Keeps s s')
    (hrx : ∀ pc ∈ s.rx.posting, ∃ pc' ∈ s'.rx.posting, ∀ id, pc.Heads s id → pc'.Heads s' id) :
    Own s' := by
  constructor
  · intro id resp hresp
    rw [hs.callers] at hresp
    rw [hs.uids]
    exact h.answered resp hresp
  · intro resp hresp
    rw [hs.rxQ] at hresp
    obtain ⟨id, huid, hserved⟩ := h.queued hresp
    refine ⟨id, (congrFun hs.uids id).trans huid, ?_⟩
    unfold State.Served
    rw [hs.callers, hs.sems]
    rcases hserved with htakes | ⟨hwaits, hmade | ⟨pc, hpc, hheads⟩⟩
    · exact .inl htakes
    · exact .inr ⟨hwaits, .inl hmade⟩
    · obtain ⟨pc', hpc', hall⟩ := hrx pc hpc
      exact .inr ⟨hwaits, .inr ⟨pc', hpc', hall id hheads⟩⟩
  · rw [hs.rxQ]
    exact h.once

/-- The entry of a caller that waits. -/
theorem Inv.waits (h : Inv s g) (hwaits : (s.callers id).waits = true) :
    ∃ i, (s.sync i).sem = some id ∧ s.uids id ≠ 0 ∧
      ∀ j, (s.sync j).uid = s.uids id ↔ j = i := by
  have hat : ∃ i, (view s g id).At i := by
    cases hpc : s.callers id with
    | waiting pc =>
      obtain ⟨-, -, hok⟩ := h.caller hpc
      rw [hpc] at hwaits
      cases pc with
      | find n =>
        obtain ⟨i, -, hat⟩ := hok
        exact ⟨i, hat⟩
      | get i => exact ⟨i, hok⟩
      | wait i sem => exact ⟨i, hok.2⟩
      | destroy | clear | cleared => cases hwaits
    | idle | sending | take | free | returned =>
      rw [hpc] at hwaits
      cases hwaits
  obtain ⟨i, hplace, -⟩ := hat
  obtain ⟨hlive, hpc, -⟩ := (h.legal id).of_place hplace
  exact ⟨i, h.sem_eq hplace, (h.legal id).uid_ne_zero hlive.1 hpc,
    fun j => h.frame.uid_eq_iff h.legal hplace⟩

/-- An entry with a semaphore is that of the caller that has made it. -/
theorem Inv.sem_unique (h : Inv s g) {i j : Fin c.sync} (hi : (s.sync i).sem = some id)
    (hj : (s.sync j).sem = some id) : i = j := by
  obtain ⟨pl, hpl⟩ := h.frame.place_of_sem hi
  obtain ⟨pl', hpl'⟩ := h.frame.place_of_sem hj
  exact (Prod.mk.inj (Option.some_inj.1 (hpl.symm.trans hpl'))).1

/-- A response on its way to a caller that waits goes on to it. -/
theorem Inv.heads (h : Inv s g) {pc : PostPc c} {next : Option (PostPc c)} (hok : pc.Ok s g)
    (hwaits : (s.callers id).waits = true) (hheads : pc.Heads s id)
    (hs : RpcCore.postSyncResp s pc = some (t, next)) :
    t.sems id = .made true ∨ ∃ pc' ∈ next, pc'.Heads t id := by
  obtain ⟨i, hsem, -, huid⟩ := h.waits hwaits
  cases pc with
  | put => exact hheads.elim
  | avail resp n =>
    cases hs
    obtain ⟨hrange, hresp, j, hle, hj⟩ := hheads
    obtain rfl := h.sem_unique hj hsem
    right
    rcases turn_cases (fun i => (s.sync i).uid = resp.uid) n with ⟨hn, hp, hturn⟩ |
      ⟨hn, hp, hturn⟩ | ⟨hn, hturn⟩ <;> rw [hturn]
    · simp only [if_pos hrange]
      exact ⟨_, rfl, hresp, j, Nat.zero_le _, hsem⟩
    · refine ⟨_, rfl, hrange, hresp, j, Nat.lt_of_le_of_ne hle ?_, hsem⟩
      exact fun heq => of_decide_eq_false hp (hresp ▸ (huid _).2 (Fin.ext heq))
    · exact absurd (Nat.le_trans hn hle) (Nat.not_le.2 j.isLt)
  | post resp n =>
    cases hs
    obtain ⟨hresp, j, hle, hj⟩ := hheads
    obtain rfl := h.sem_unique hj hsem
    right
    rcases turn_cases (fun i => (s.sync i).uid = resp.uid) n with ⟨hn, hp, hturn⟩ |
      ⟨hn, hp, hturn⟩ | ⟨hn, hturn⟩ <;> rw [hturn]
    · obtain rfl := (huid _).1 ((of_decide_eq_true hp).trans hresp)
      exact ⟨_, rfl, hsem⟩
    · refine ⟨_, rfl, hresp, j, Nat.lt_of_le_of_ne hle ?_, hsem⟩
      exact fun heq => of_decide_eq_false hp (hresp ▸ (huid _).2 (Fin.ext heq))
    · exact absurd (Nat.le_trans hn hle) (Nat.not_le.2 j.isLt)
  | sem j =>
    cases hs
    right
    rw [show (s.sync j).sem = some id from hheads]
    exact ⟨_, rfl, rfl⟩
  | give k =>
    cases hs
    obtain rfl : k = id := hheads
    obtain ⟨-, b, hmade⟩ := hok
    left
    rw [State.give, hmade]
    exact Function.update_self _ _ _

/-! ## The invariant -/

/-- A response is on its way to the semaphore of the caller, which waits and has not been woken. -/
structure State.Headed (s : State c) (pc : PostPc c) (id : ReqId) : Prop where
  heads : pc.Heads s id
  waits : (s.callers id).waits = true
  unposted : s.sems id ≠ .made true
  queued : ∃ resp ∈ s.rxQ, resp.uid = s.uids id

/-- `Own`, and where the responses in the queue have come from: a caller is woken only for one that
is there, and stays until it has taken it. -/
structure OwnInv (s : State c) : Prop where
  own : Own s
  silent : ∀ pc ∈ s.tx.posting, ∃ resp, pc = .put resp ∧ resp.uid = 0
  posted : ∀ {id}, s.sems id = .made true → (s.callers id).waits = true
  woken : ∀ {id}, (s.callers id).takes = true ∨ s.sems id = .made true →
    ∃ resp ∈ s.rxQ, resp.uid = s.uids id
  headed : ∀ pc ∈ s.rx.posting, (∃ resp, pc = .put resp) ∨ ∃ id, s.Headed pc id

theorem OwnInv.initial : OwnInv ({} : State c) := by
  refine ⟨⟨nofun, nofun, List.nodup_nil⟩, nofun, nofun, fun {id} hid => ?_, nofun⟩
  rcases hid with hfalse | hfalse <;> cases hfalse

/-- Waiting, or on its way to its response. -/
theorem State.Served.expects (h : s.Served id) :
    (s.callers id).waits = true ∨ (s.callers id).takes = true :=
  h.elim .inr fun h => .inl h.1

/-- A caller that waits, or takes a response, has a request with an uid of its own. -/
theorem Inv.expects (h : Inv s g)
    (hpc : (s.callers id).waits = true ∨ (s.callers id).takes = true) :
    (s.req id).isSome = true ∧ s.uids id ≠ 0 := by
  have hnumbering : (s.callers id).numbering = false := by
    cases hid : s.callers id with
    | sending =>
      rw [hid] at hpc
      rcases hpc with hpc | hpc <;> cases hpc
    | idle | waiting | take | free | returned => rfl
  have hlive : (view s g id).Live := by
    cases hid : s.callers id with
    | waiting => exact (h.caller hid).1
    | take => exact (h.caller hid).1
    | idle | sending | free | returned =>
      rw [hid] at hpc
      rcases hpc with hpc | hpc <;> cases hpc
  exact ⟨hlive.isSome, (h.legal id).uid_ne_zero hlive.1 hnumbering⟩

theorem Inv.uid_unique (h : Inv s g)
    (hid : (s.callers id).waits = true ∨ (s.callers id).takes = true)
    (hk : (s.callers k).waits = true ∨ (s.callers k).takes = true)
    (huid : s.uids k = s.uids id) : k = id := by
  obtain ⟨hsome, hzero⟩ := h.expects hk
  exact h.frame.uids (.inl hsome) (.inl (h.expects hid).1) huid hzero

/-! ## Steps of the threads and the timers -/

/-- Where the caller, its semaphore, its uid and the queue are as before. -/
theorem State.Headed.congr {pc pc' : PostPc c} (h : s.Headed pc id) (hheads : pc'.Heads s' id)
    (hcallers : s'.callers id = s.callers id) (hsems : s'.sems id = s.sems id)
    (huids : s'.uids id = s.uids id) (hq : ∀ resp ∈ s.rxQ, resp ∈ s'.rxQ) : s'.Headed pc' id := by
  obtain ⟨resp, hresp, huid⟩ := h.queued
  refine ⟨hheads, ?_, ?_, resp, hq resp hresp, huid.trans huids.symm⟩
  · rw [hcallers]
    exact h.waits
  · rw [hsems]
    exact h.unposted

theorem OwnInv.of_keeps (h : OwnInv s) (hs : Keeps s s')
    (htx : ∀ pc ∈ s'.tx.posting, ∃ resp, pc = .put resp ∧ resp.uid = 0)
    (hrx : s'.rx.posting = s.rx.posting ∨ s.rx.posting = none ∧ Waits s'.rx.posting) :
    OwnInv s' := by
  refine ⟨h.own.of_keeps hs fun pc hpc => ?_, htx, ?_, ?_, ?_⟩
  · rcases hrx with hsame | ⟨hnone, -⟩
    · exact ⟨pc, hsame ▸ hpc, fun _ hheads => hheads.congr hs.uids hs.sync⟩
    · exact absurd (hnone.symm.trans hpc) nofun
  · rw [hs.sems, hs.callers]
    exact h.posted
  · rw [hs.sems, hs.callers, hs.uids, hs.rxQ]
    exact h.woken
  · intro pc hpc
    rcases hrx with hsame | ⟨-, hwaits⟩
    · rcases h.headed pc (hsame ▸ hpc) with hput | ⟨id, hid⟩
      · exact .inl hput
      · refine .inr ⟨id, hid.congr (hid.heads.congr hs.uids hs.sync) ?_ ?_ ?_ fun resp hresp => ?_⟩
        · rw [hs.callers]
        · rw [hs.sems]
        · rw [hs.uids]
        · rw [hs.rxQ]
          exact hresp
    · exact .inl (hwaits pc hpc)

theorem OwnInv.processRpcTxMsg (h : OwnInv s) {env : TxEnv} (hmatched : Matched s (.tx env))
    (hs : RpcCore.processRpcTxMsg env s = some s') : OwnInv s' := by
  rcases tx_cases hs with ⟨-, hstep⟩ | ⟨id, pc, t, next, htx, hp, rfl⟩
  · refine h.of_keeps hstep.toKeeps (fun pc hpc => ?_) (.inl (congrArg RxPc.posting hstep.rx))
    rcases hstep.posting with hnone | ⟨resp, hresp, huid⟩
    · exact absurd (hnone.symm.trans hpc) nofun
    · exact ⟨resp, Option.some_inj.1 (hpc.symm.trans hresp), huid⟩
  · obtain ⟨resp, rfl, -⟩ := h.silent pc (congrArg TxPc.posting htx)
    change TxMatched s s.tx at hmatched
    rw [htx] at hmatched
    rw [postSyncResp, if_neg (Nat.not_lt.2 hmatched)] at hp
    cases hp

/-- The receive thread queues a response. -/
theorem OwnInv.put (h : OwnInv s) (hinv : Inv s g) (hrx : s.rx = .post (.put resp))
    (hroom : s.rxQ.length < rpcRxQueueSize) (hmatched : Matched s .rx) :
    OwnInv ({ s with rxQ := s.rxQ ++ [resp] }.setRx (.post (.avail resp 0))) := by
  change RxMatched s s.rx at hmatched
  rw [hrx] at hmatched
  obtain ⟨hrange, ⟨id, -, hwaits, huid⟩, hnew⟩ := hmatched hroom
  obtain ⟨i, hsem, -⟩ := hinv.waits hwaits
  have hheads : (PostPc.avail resp 0).Heads s id := ⟨hrange, huid.symm, i, Nat.zero_le _, hsem⟩
  have hunposted : s.sems id ≠ .made true := by
    intro hmade
    obtain ⟨q, hq, hquid⟩ := h.woken (.inr hmade)
    exact hnew q hq (hquid.trans huid)
  have hserved : ∀ {k}, s.Served k →
      ({ s with rxQ := s.rxQ ++ [resp] }.setRx (.post (.avail resp 0))).Served k := by
    rintro k (htakes | ⟨hwaits, hmade | ⟨pc, hpc, hheads⟩⟩)
    · exact .inl htakes
    · exact .inr ⟨hwaits, .inl hmade⟩
    · rw [hrx] at hpc
      cases hpc
      exact hheads.elim
  refine ⟨⟨h.own.answered, fun {r} hr => ?_, ?_⟩, h.silent, h.posted, fun {k} hk => ?_, ?_⟩
  · rcases List.mem_append.1 hr with hr | hr
    · obtain ⟨k, huid, hk⟩ := h.own.queued hr
      exact ⟨k, huid, hserved hk⟩
    · obtain rfl := List.mem_singleton.1 hr
      exact ⟨id, huid, .inr ⟨hwaits, .inr ⟨_, rfl, hheads⟩⟩⟩
  · change ((s.rxQ ++ [resp]).map Resp.uid).Nodup
    rw [List.map_append]
    refine List.nodup_append.2 ⟨h.own.once, List.nodup_singleton _, ?_⟩
    intro a ha b hb hab
    obtain ⟨q, hmem, rfl⟩ := List.mem_map.1 ha
    exact hnew q hmem (hab.trans (List.mem_singleton.1 hb))
  · obtain ⟨q, hq, hquid⟩ := h.woken hk
    exact ⟨q, List.mem_append_left _ hq, hquid⟩
  · rintro _ ⟨⟩
    exact .inr ⟨id, hheads, hwaits, hunposted, resp, List.mem_append_right _ (.head _), huid.symm⟩

/-- It posts the semaphore of a caller that waits. -/
theorem OwnInv.give (h : OwnInv s) (hinv : Inv s g) (hrx : s.rx = .post (.give id)) :
    OwnInv ((s.give id).setRx .idle) := by
  obtain ⟨-, b, hsem⟩ := hinv.frame.rxPost (congrArg RxPc.posting hrx)
  have hgive : s.give id = s.setSem id (.made true) := by
    rw [State.give, hsem]
  rw [hgive]
  have hheaded : s.Headed (.give id) id := by
    rcases h.headed _ (congrArg RxPc.posting hrx) with ⟨_, hput⟩ | ⟨k, hk⟩
    · cases hput
    · obtain rfl : id = k := hk.heads
      exact hk
  have hmade : ∀ {k}, ((s.setSem id (.made true)).setRx .idle).sems k = .made true →
      k = id ∨ s.sems k = .made true := by
    intro k hk
    change Function.update s.sems id (.made true) k = .made true at hk
    by_cases hkid : k = id
    · exact .inl hkid
    · rw [Function.update_of_ne hkid] at hk
      exact .inr hk
  refine ⟨⟨h.own.answered, fun {r} hr => ?_, h.own.once⟩, h.silent, fun {k} hk => ?_,
    fun {k} hk => ?_, by rintro _ ⟨⟩⟩
  · obtain ⟨k, huid, hk⟩ := h.own.queued hr
    refine ⟨k, huid, ?_⟩
    rcases hk with htakes | ⟨hwaits, hposted⟩
    · exact .inl htakes
    · refine .inr ⟨hwaits, .inl ?_⟩
      change Function.update s.sems id (.made true) k = .made true
      by_cases hkid : k = id
      · rw [hkid, Function.update_self]
      · rw [Function.update_of_ne hkid]
        rcases hposted with hmade | ⟨pc, hpc, hheads⟩
        · exact hmade
        · rw [hrx] at hpc
          cases hpc
          exact absurd (Eq.symm hheads) hkid
  · rcases hmade hk with rfl | hk
    · exact hheaded.waits
    · exact h.posted hk
  · rcases hk with htakes | hk
    · exact h.woken (.inl htakes)
    · rcases hmade hk with rfl | hk
      · exact hheaded.queued
      · exact h.woken (.inr hk)

/-- It looks for that semaphore. -/
theorem OwnInv.look (h : OwnInv s) (hinv : Inv s g) {pc : PostPc c} {next : Option (PostPc c)}
    (hrx : s.rx = .post pc) (hs : RpcCore.postSyncResp s pc = some (s, next))
    (hput : ∀ resp, pc ≠ .put resp) : OwnInv (s.setRx (next.elim .idle .post)) := by
  have hok : pc.Ok s g := hinv.frame.rxPost (congrArg RxPc.posting hrx)
  have hposting : (s.setRx (next.elim .idle .post)).rx.posting = next := by
    cases next <;> rfl
  have hnext : ∀ {id}, (s.callers id).waits = true → pc.Heads s id →
      s.sems id = .made true ∨ ∃ pc' ∈ next, pc'.Heads s id :=
    fun hwaits hheads => hinv.heads hok hwaits hheads hs
  refine ⟨⟨h.own.answered, fun {r} hr => ?_, h.own.once⟩, h.silent, h.posted, h.woken, ?_⟩
  · obtain ⟨k, huid, hk⟩ := h.own.queued hr
    refine ⟨k, huid, ?_⟩
    rcases hk with htakes | ⟨hwaits, hmade | ⟨pc', hpc', hheads⟩⟩
    · exact .inl htakes
    · exact .inr ⟨hwaits, .inl hmade⟩
    · rw [hrx] at hpc'
      cases hpc'
      rcases hnext hwaits hheads with hmade | ⟨pc', hpc', hheads⟩
      · exact .inr ⟨hwaits, .inl hmade⟩
      · exact .inr ⟨hwaits, .inr ⟨pc', hposting.symm ▸ hpc', hheads⟩⟩
  · intro pc' hpc'
    rw [hposting] at hpc'
    rcases h.headed pc (congrArg RxPc.posting hrx) with ⟨resp, hresp⟩ | ⟨id, hid⟩
    · exact absurd hresp (hput resp)
    · rcases hnext hid.waits hid.heads with hmade | ⟨pc'', hpc'', hheads⟩
      · exact absurd hmade hid.unposted
      · obtain rfl := Option.some_inj.1 (hpc'.symm.trans hpc'')
        exact .inr ⟨id, hid.congr hheads rfl rfl rfl fun _ hresp => hresp⟩

/-- A step of the receive thread with a response. -/
theorem OwnInv.post (h : OwnInv s) (hinv : Inv s g) {pc : PostPc c} {next : Option (PostPc c)}
    (hrx : s.rx = .post pc) (hmatched : Matched s .rx)
    (hs : RpcCore.postSyncResp s pc = some (t, next)) :
    OwnInv (t.setRx (next.elim .idle .post)) := by
  cases pc with
  | put resp =>
    simp only [RpcCore.postSyncResp] at hs
    split at hs
    · next hroom =>
      cases hs
      exact h.put hinv hrx hroom hmatched
    · cases hs
  | avail resp n =>
    cases hs
    refine h.look hinv hrx rfl ?_
    rintro _ ⟨⟩
  | post resp n =>
    cases hs
    refine h.look hinv hrx rfl ?_
    rintro _ ⟨⟩
  | sem i =>
    cases hs
    refine h.look hinv hrx rfl ?_
    rintro _ ⟨⟩
  | give id =>
    cases hs
    exact h.give hinv hrx

theorem OwnInv.rxStep (h : OwnInv s) (hinv : Inv s g) (hmatched : Matched s .rx)
    (hs : RpcCore.rxStep s = some s') : OwnInv s' := by
  rcases rx_cases hs with ⟨hpost, hstep⟩ | ⟨pc, t, next, hrx, hp, rfl⟩
  · refine h.of_keeps hstep.toKeeps ?_ (.inr ⟨hpost, hstep.waits⟩)
    rw [hstep.tx]
    exact h.silent
  · exact h.post hinv hrx hmatched hp

/-! ## Steps of a caller -/

/-- The state apart from the callers, where only one of them has changed it. -/
structure Apart (id : ReqId) (s s' : State c) : Prop where
  rxQ : s'.rxQ = s.rxQ
  rx : s'.rx = s.rx
  tx : s'.tx = s.tx
  callers : s'.callers = s.callers
  uids : ∀ {k}, k ≠ id → s'.uids k = s.uids k
  sems : ∀ {k}, k ≠ id → s'.sems k = s.sems k
  posted : s'.sems id = .made true → s.sems id = .made true
  sync : ∀ {k i}, k ≠ id → (s.sync i).sem = some k → (s'.sync i).sem = some k

namespace Apart

theorem refl : Apart id s s :=
  ⟨rfl, rfl, rfl, rfl, fun _ => rfl, fun _ => rfl, fun h => h, fun _ h => h⟩

theorem setSem {sem : Sem} (hsem : sem ≠ .made true) : Apart id s (s.setSem id sem) := by
  refine ⟨rfl, rfl, rfl, rfl, fun _ => rfl, fun hk => Function.update_of_ne hk _ _, ?_,
    fun _ h => h⟩
  intro hmade
  change Function.update s.sems id sem id = .made true at hmade
  rw [Function.update_self] at hmade
  exact absurd hmade hsem

theorem setSync {i : Fin c.sync} {e : SyncRsp}
    (hsem : ∀ k, k ≠ id → (s.sync i).sem = some k → e.sem = some k) :
    Apart id s (s.setSync i e) := by
  refine ⟨rfl, rfl, rfl, rfl, fun _ => rfl, fun _ => rfl, fun h => h, fun {k j} hk hj => ?_⟩
  change (Function.update s.sync i e j).sem = some k
  by_cases hji : j = i
  · subst hji
    rw [Function.update_self]
    exact hsem k hk hj
  · rw [Function.update_of_ne hji]
    exact hj

theorem destroy : Apart id s (s.destroy id) := by
  unfold State.destroy
  split
  · exact setSem (by rintro ⟨⟩)
  · exact { refl with }

theorem free (h : Apart id s s') : Apart id s (s'.free id) := by
  unfold State.free State.withReq
  split <;> exact { h with }

theorem heads (h : Apart id s s') (hk : k ≠ id) {pc : PostPc c} (hheads : pc.Heads s k) :
    pc.Heads s' k := by
  cases pc with
  | put => exact hheads
  | avail resp n =>
    obtain ⟨hrange, huid, i, hle, hsem⟩ := hheads
    exact ⟨hrange, huid.trans (h.uids hk).symm, i, hle, h.sync hk hsem⟩
  | post resp n =>
    obtain ⟨huid, i, hle, hsem⟩ := hheads
    exact ⟨huid.trans (h.uids hk).symm, i, hle, h.sync hk hsem⟩
  | sem i => exact h.sync hk hheads
  | give => exact hheads

/-- The others are served as before. -/
theorem served (h : Apart id s s') (hk : k ≠ id) (pc : Caller c) (hserved : s.Served k) :
    (s'.setCaller id pc).Served k := by
  unfold State.Served
  rw [State.callers_setCaller_of_ne hk, h.callers]
  change (s.callers k).takes = true ∨ (s.callers k).waits = true ∧
    (s'.sems k = .made true ∨ ∃ pc ∈ s'.rx.posting, pc.Heads s' k)
  rw [h.sems hk, h.rx]
  rcases hserved with htakes | ⟨hwaits, hmade | ⟨p, hp, hheads⟩⟩
  · exact .inl htakes
  · exact .inr ⟨hwaits, .inl hmade⟩
  · exact .inr ⟨hwaits, .inr ⟨p, hp, h.heads hk hheads⟩⟩

end Apart

/-- What one caller does concerns that caller. -/
theorem OwnInv.setCaller (h : OwnInv s) (hs : Apart id s s') {pc : Caller c}
    (hanswer : ∀ resp ∈ pc.answer, resp.uid = s'.uids id)
    (hserved : ∀ resp ∈ s.rxQ, s.uids id = resp.uid → s.Served id →
      s'.uids id = resp.uid ∧ (s'.setCaller id pc).Served id)
    (hposted : s'.sems id = .made true → pc.waits = true)
    (hwoken : pc.takes = true ∨ s'.sems id = .made true →
      ∃ resp ∈ s.rxQ, resp.uid = s'.uids id)
    (hheaded : ∀ {p}, s.Headed p id → (s'.setCaller id pc).Headed p id) :
    OwnInv (s'.setCaller id pc) := by
  refine ⟨⟨?_, ?_, ?_⟩, ?_, ?_, ?_, ?_⟩
  · intro k resp hresp
    change resp.uid = s'.uids k
    by_cases hk : k = id
    · subst hk
      rw [State.callers_setCaller] at hresp
      exact hanswer resp hresp
    · rw [State.callers_setCaller_of_ne hk, hs.callers] at hresp
      rw [hs.uids hk]
      exact h.own.answered resp hresp
  · intro resp hresp
    change resp ∈ s'.rxQ at hresp
    rw [hs.rxQ] at hresp
    obtain ⟨k, huid, hk⟩ := h.own.queued hresp
    by_cases hkid : k = id
    · subst hkid
      exact ⟨k, hserved resp hresp huid hk⟩
    · exact ⟨k, (hs.uids hkid).trans huid, hs.served hkid pc hk⟩
  · change (s'.rxQ.map Resp.uid).Nodup
    rw [hs.rxQ]
    exact h.own.once
  · change ∀ pc ∈ s'.tx.posting, _
    rw [hs.tx]
    exact h.silent
  · intro k hk
    by_cases hkid : k = id
    · subst hkid
      rw [State.callers_setCaller]
      exact hposted hk
    · rw [State.callers_setCaller_of_ne hkid, hs.callers]
      exact h.posted ((hs.sems hkid).symm.trans hk)
  · intro k hk
    change ∃ resp ∈ s'.rxQ, resp.uid = s'.uids k
    change _ ∨ s'.sems k = .made true at hk
    rw [hs.rxQ]
    by_cases hkid : k = id
    · subst hkid
      rw [State.callers_setCaller] at hk
      exact hwoken hk
    · rw [State.callers_setCaller_of_ne hkid, hs.callers, hs.sems hkid] at hk
      rw [hs.uids hkid]
      exact h.woken hk
  · intro p hp
    change p ∈ s'.rx.posting at hp
    rw [hs.rx] at hp
    rcases h.headed p hp with hput | ⟨k, hk⟩
    · exact .inl hput
    · refine .inr ⟨k, ?_⟩
      by_cases hkid : k = id
      · subst hkid
        exact hheaded hk
      · refine hk.congr (hs.heads hkid hk.heads) ?_ (hs.sems hkid) (hs.uids hkid) ?_
        · rw [State.callers_setCaller_of_ne hkid, hs.callers]
        · intro resp hresp
          change resp ∈ s'.rxQ
          rw [hs.rxQ]
          exact hresp

/-- The semaphore of a caller that does not wait is not posted. -/
theorem OwnInv.unposted (h : OwnInv s) (hs : Apart id s s')
    (hwaits : (s.callers id).waits = false) : s'.sems id ≠ .made true := by
  intro hmade
  exact absurd (hwaits.symm.trans (h.posted (hs.posted hmade))) nofun

/-- A caller that no response is for moves on. -/
theorem OwnInv.moveUnserved (h : OwnInv s) (hs : Apart id s s') {pc : Caller c}
    (hwaits : (s.callers id).waits = false) (htakes : (s.callers id).takes = false)
    (hnone : pc.answer = none) (hpc : pc.takes = false) : OwnInv (s'.setCaller id pc) := by
  have hunposted := h.unposted hs hwaits
  refine h.setCaller hs (fun _ hresp => absurd (hnone.symm.trans hresp) nofun)
    (fun _ _ _ hserved => ?_) (fun hmade => absurd hmade hunposted) ?_ fun hheaded => ?_
  · rcases hserved.expects with htrue | htrue
    · exact absurd (hwaits.symm.trans htrue) nofun
    · exact absurd (htakes.symm.trans htrue) nofun
  · rintro (htrue | hmade)
    · exact absurd (hpc.symm.trans htrue) nofun
    · exact absurd hmade hunposted
  · exact absurd (hwaits.symm.trans hheaded.waits) nofun

theorem OwnInv.rpcSendReq (h : OwnInv s) (hinv : Inv s g) {env : CallerEnv} {pc : SendPc c}
    (hpc : s.callers id = .sending pc) (hs : RpcCore.rpcSendReq env id s pc = some s') :
    OwnInv s' := by
  have hwaits : (s.callers id).waits = false := by rw [hpc]; rfl
  have htakes : (s.callers id).takes = false := by rw [hpc]; rfl
  have hmove : ∀ {t : State c} {pc' : Caller c}, Apart id s t → pc'.answer = none →
      pc'.takes = false → OwnInv (t.setCaller id pc') :=
    fun ht => h.moveUnserved ht hwaits htakes
  obtain ⟨hfresh, hok⟩ := hinv.caller hpc
  cases pc with
  | load again =>
    cases hs
    exact hmove .refl rfl rfl
  | store again uid =>
    cases hs
    have hstore : Apart id s { s with uid := uid } := { Apart.refl with }
    exact hmove hstore rfl rfl
  | test =>
    cases hs
    exact hmove .refl rfl rfl
  | read =>
    obtain ⟨r, -, heq⟩ := hfresh.1.withReq fun r =>
      { s with uids := Function.update s.uids id s.uid }.setCaller id
        (.sending (if r.cb then .queue else .create))
    obtain rfl := Option.some_inj.1 (hs.symm.trans (congrArg some heq))
    have hread : Apart id s { s with uids := Function.update s.uids id s.uid } :=
      { Apart.refl with uids := fun hk => Function.update_of_ne hk _ _ }
    exact hmove hread rfl rfl
  | create =>
    obtain ⟨r, -, heq⟩ := hfresh.1.withReq fun r =>
      if inRange r.msgId then
        (s.setSem id (if env.sem then .made false else .unmade)).setCaller id
          (.sending (.search 0))
      else s.setCaller id (.sending .fail)
    simp only [RpcCore.rpcSendReq, Option.some_inj] at hs
    rw [heq] at hs
    subst hs
    split
    · refine hmove (.setSem ?_) rfl rfl
      split <;> rintro ⟨⟩
    · exact hmove .refl rfl rfl
  | search i =>
    cases hs
    exact hmove .refl rfl rfl
  | enter i =>
    obtain ⟨_, -, heq⟩ := hfresh.1.withReq fun _ =>
      (s.setSync i { s.sync i with uid := s.uids id }).setCaller id (.sending (.entered i))
    obtain rfl := Option.some_inj.1 (hs.symm.trans (congrArg some heq))
    have hsame : Apart id s (s.setSync i { s.sync i with uid := s.uids id }) :=
      .setSync fun _ _ hsem => hsem
    exact hmove hsame rfl rfl
  | entered i =>
    obtain ⟨_, -, heq⟩ := hfresh.1.withReq fun _ =>
      (s.setSync i { s.sync i with
        sem := if s.sems id = .unmade then none else some id }).setCaller id (.sending .queue)
    obtain rfl := Option.some_inj.1 (hs.symm.trans (congrArg some heq))
    refine hmove (.setSync fun k _ hsem => ?_) rfl rfl
    obtain ⟨-, -, hplace⟩ := hok
    rw [hinv.frame.sync hplace] at hsem
    cases hsem
  | queue =>
    obtain ⟨r, -, heq⟩ := hfresh.1.withReq fun r =>
      { s with txQ := s.txQ ++ [id] }.setCaller id
        (if r.cb then .returned none else .waiting (.find 0))
    simp only [RpcCore.rpcSendReq] at hs
    split at hs
    · obtain rfl := Option.some_inj.1 (hs.symm.trans (congrArg some heq))
      have hpush : Apart id s { s with txQ := s.txQ ++ [id] } := { Apart.refl with }
      refine hmove hpush ?_ ?_
      · split <;> rfl
      · split <;> rfl
    · cases hs
  | fail =>
    cases hs
    refine hmove ?_ rfl rfl
    split
    · exact Apart.refl.free
    · exact Apart.destroy.free

/-- A caller that waits is still served. -/
theorem OwnInv.moveWaiting (h : OwnInv s) {pc pc' : Caller c} (hpc : s.callers id = pc)
    (htakes : pc.takes = false) (hwaits : pc'.waits = true) (htakes' : pc'.takes = false)
    (hnone : pc'.answer = none) : OwnInv (s.setCaller id pc') := by
  have hwaits' : ((s.setCaller id pc').callers id).waits = true := by
    rw [State.callers_setCaller]
    exact hwaits
  refine h.setCaller .refl (fun _ hresp => absurd (hnone.symm.trans hresp) nofun)
    (fun resp _ huid hserved => ⟨huid, ?_⟩) (fun _ => hwaits) ?_ fun hheaded => ?_
  · rcases hserved with htrue | ⟨-, hposted⟩
    · rw [hpc, htakes] at htrue
      cases htrue
    · exact .inr ⟨hwaits', hposted⟩
  · rintro (htrue | hmade)
    · exact absurd (htakes'.symm.trans htrue) nofun
    · exact h.woken (.inr hmade)
  · exact ⟨hheaded.heads, hwaits', hheaded.unposted, hheaded.queued⟩

/-- A caller has got its semaphore, or moves on to the response. -/
theorem OwnInv.moveTaking (h : OwnInv s) (hs : Apart id s s') {pc : Caller c}
    (huid : s'.uids id = s.uids id)
    (hwas : (s.callers id).takes = true ∨ s.sems id = .made true)
    (hsem : s'.sems id ≠ .made true) (htakes : pc.takes = true) (hnone : pc.answer = none) :
    OwnInv (s'.setCaller id pc) := by
  refine h.setCaller hs (fun _ hresp => absurd (hnone.symm.trans hresp) nofun)
    (fun resp _ hresp _ => ⟨huid.trans hresp, .inl ?_⟩) (fun hmade => absurd hmade hsem)
    (fun _ => ?_) fun hheaded => ?_
  · rw [State.callers_setCaller]
    exact htakes
  · rw [huid]
    exact h.woken hwas
  · rcases hwas with htrue | hmade
    · exact absurd hheaded.waits (Caller.waits_of_takes htrue)
    · exact absurd hmade hheaded.unposted

/-- Behind its semaphore a caller has either got it, or given up. -/
theorem OwnInv.moveDone (h : OwnInv s) (hs : Apart id s s') {pc pc' : Caller c} {ok : Bool}
    (hpc : s.callers id = pc) (hwaits : pc.waits = false) (htakes : pc.takes = ok)
    (huid : s'.uids id = s.uids id) (htakes' : pc'.takes = ok) (hnone : pc'.answer = none) :
    OwnInv (s'.setCaller id pc') := by
  have hwaits' : (s.callers id).waits = false := (congrArg _ hpc).trans hwaits
  have hok : (s.callers id).takes = ok := (congrArg _ hpc).trans htakes
  cases ok with
  | true => exact h.moveTaking hs huid (.inl hok) (h.unposted hs hwaits') htakes' hnone
  | false => exact h.moveUnserved hs hwaits' hok hnone htakes'

theorem OwnInv.waitForSyncResponse (h : OwnInv s) (hinv : Inv s g) {env : CallerEnv} {pc : WaitPc c}
    (hpc : s.callers id = .waiting pc) (hmatched : CallerMatched s env id (.waiting pc))
    (hs : RpcCore.waitForSyncResponse env id s pc = some s') : OwnInv s' := by
  obtain ⟨hlive, hsync, hok⟩ := hinv.caller hpc
  cases pc with
  | find n =>
    obtain ⟨r, hr⟩ := live_iff.1 hlive
    simp only [RpcCore.waitForSyncResponse, State.withReq, hr, Option.some_inj] at hs
    subst hs
    obtain ⟨i, hle, -⟩ := hok
    rcases turn_cases (fun i => (s.sync i).uid = s.uids id) n with ⟨hn, -, hturn⟩ |
      ⟨hn, -, hturn⟩ | ⟨hn, hturn⟩ <;> simp only [hturn]
    · exact h.moveWaiting hpc rfl rfl rfl rfl
    · exact h.moveWaiting hpc rfl rfl rfl rfl
    · exact absurd (Nat.le_trans hn hle) (Nat.not_le.2 i.isLt)
  | get i =>
    cases hs
    rw [hinv.sem_eq hok.1]
    exact h.moveWaiting hpc rfl rfl rfl rfl
  | wait i sem =>
    obtain ⟨rfl, hplace, b, hsem⟩ := hok
    replace hsem : s.sems sem = .made b := hsem
    simp only [RpcCore.waitForSyncResponse, hsem] at hs
    cases b with
    | true =>
      cases hs
      have htaken : Apart sem s (s.setSem sem (.made false)) := .setSem (by rintro ⟨⟩)
      refine h.moveTaking htaken rfl (.inr hsem) ?_ rfl rfl
      change Function.update s.sems sem (.made false) sem ≠ .made true
      rw [Function.update_self]
      rintro ⟨⟩
    | false =>
      simp only at hs
      split at hs
      · next htimeout =>
        cases hs
        have hnone := hmatched hsem htimeout
        have hunposted : s.sems sem ≠ .made true := by
          rw [hsem]
          rintro ⟨⟩
        refine h.setCaller .refl (by rintro _ ⟨⟩) (fun resp hresp huid _ => ?_)
          (fun hmade => absurd hmade hunposted) ?_ fun hheaded => ?_
        · exact absurd huid.symm (hnone resp hresp)
        · rintro (hfalse | hmade)
          · cases hfalse
          · exact absurd hmade hunposted
        · obtain ⟨resp, hresp, huid⟩ := hheaded.queued
          exact absurd huid (hnone resp hresp)
      · cases hs
  | destroy i ok =>
    obtain ⟨hplace, -⟩ := hok
    simp only [RpcCore.waitForSyncResponse, hinv.sem_eq hplace] at hs
    cases hs
    have huid : (s.destroy id).uids id = s.uids id := by
      unfold State.destroy
      split <;> rfl
    exact h.moveDone .destroy hpc rfl rfl huid rfl rfl
  | clear i ok =>
    cases hs
    have hsame : Apart id s (s.setSync i { s.sync i with uid := 0 }) :=
      .setSync fun _ _ hsem => hsem
    exact h.moveDone hsame hpc rfl rfl rfl rfl rfl
  | cleared i ok =>
    cases hs
    have hown : (s.sync i).sem = some id := by
      rw [hinv.frame.sync hok.1]
      rfl
    have hsame : Apart id s (s.setSync i { s.sync i with sem := none }) :=
      .setSync fun k hk hsem => absurd (Option.some_inj.1 (hsem.symm.trans hown)) hk
    cases ok <;> exact h.moveDone hsame hpc rfl rfl rfl rfl rfl

/-- A caller takes the response in front. -/
theorem OwnInv.take (h : OwnInv s) (hinv : Inv s g) (hpc : s.callers id = .take)
    {rest : List Resp} (hq : s.rxQ = resp :: rest) (hown : resp.uid = s.uids id) :
    OwnInv ({ s with rxQ := rest }.setCaller id (.free (some resp))) := by
  have honce := h.own.once
  rw [hq, List.map_cons] at honce
  obtain ⟨hfirst, hrest⟩ := List.nodup_cons.1 honce
  have htakes : (s.callers id).takes = true := by rw [hpc]; rfl
  have hwaits : (s.callers id).waits = false := by rw [hpc]; rfl
  have hunposted : s.sems id ≠ .made true := h.unposted .refl hwaits
  -- the response of another caller stays
  have hstays : ∀ {k}, k ≠ id → (s.callers k).waits = true ∨ (s.callers k).takes = true →
      (∃ r ∈ s.rxQ, r.uid = s.uids k) → ∃ r ∈ rest, r.uid = s.uids k := by
    rintro k hk hexpects ⟨r, hr, huid⟩
    rw [hq] at hr
    rcases List.mem_cons.1 hr with rfl | hr
    · exact absurd (hinv.uid_unique (.inr htakes) hexpects (huid.symm.trans hown)) hk
    · exact ⟨r, hr, huid⟩
  have hserved : ∀ {k}, k ≠ id → s.Served k →
      ({ s with rxQ := rest }.setCaller id (.free (some resp))).Served k := by
    intro k hk hserved
    unfold State.Served
    rw [State.callers_setCaller_of_ne hk]
    rcases hserved with htakes | ⟨hwaits, hmade | ⟨p, hp, hheads⟩⟩
    · exact .inl htakes
    · exact .inr ⟨hwaits, .inl hmade⟩
    · exact .inr ⟨hwaits, .inr ⟨p, hp, hheads.congr rfl rfl⟩⟩
  refine ⟨⟨?_, ?_, hrest⟩, h.silent, ?_, ?_, ?_⟩
  · intro k r hr
    by_cases hk : k = id
    · subst hk
      rw [State.callers_setCaller] at hr
      cases hr
      exact hown
    · rw [State.callers_setCaller_of_ne hk] at hr
      exact h.own.answered r hr
  · intro r hr
    replace hr : r ∈ rest := hr
    obtain ⟨k, huid, hk⟩ := h.own.queued (hq ▸ List.mem_cons_of_mem _ hr)
    refine ⟨k, huid, hserved ?_ hk⟩
    rintro rfl
    have hmem : r.uid ∈ rest.map Resp.uid := List.mem_map_of_mem hr
    rw [show r.uid = resp.uid from huid.symm.trans hown.symm] at hmem
    exact hfirst hmem
  · intro k hk
    have hne : k ≠ id := fun heq => hunposted (heq ▸ hk)
    rw [State.callers_setCaller_of_ne hne]
    exact h.posted hk
  · intro k hk
    by_cases hkid : k = id
    · subst hkid
      rw [State.callers_setCaller] at hk
      rcases hk with hfalse | hmade
      · cases hfalse
      · exact absurd hmade hunposted
    · rw [State.callers_setCaller_of_ne hkid] at hk
      refine hstays hkid ?_ (h.woken hk)
      rcases hk with htakes | hmade
      · exact .inr htakes
      · exact .inl (h.posted hmade)
  · intro p hp
    rcases h.headed p hp with hput | ⟨k, hk⟩
    · exact .inl hput
    · have hkid : k ≠ id := by
        rintro rfl
        exact absurd (hwaits.symm.trans hk.waits) nofun
      refine .inr ⟨k, hk.heads.congr rfl rfl, ?_, hk.unposted, ?_⟩
      · rw [State.callers_setCaller_of_ne hkid]
        exact hk.waits
      · exact hstays hkid (.inl hk.waits) hk.queued

theorem OwnInv.callerStep (h : OwnInv s) (hinv : Inv s g) {env : CallerEnv}
    (hmatched : CallerMatched s env id (s.callers id))
    (hs : RpcCore.callerStep env id s = some s') : OwnInv s' := by
  unfold RpcCore.callerStep at hs
  cases hpc : s.callers id with
  | idle =>
    rw [hpc] at hs
    cases hs
  | sending pc =>
    rw [hpc] at hs
    exact h.rpcSendReq hinv hpc hs
  | waiting pc =>
    rw [hpc] at hs hmatched
    exact h.waitForSyncResponse hinv hpc hmatched hs
  | take =>
    rw [hpc] at hs hmatched
    cases hq : s.rxQ with
    | nil =>
      rw [hq] at hs
      cases hs
    | cons resp rest =>
      rw [hq] at hs
      cases hs
      refine h.take hinv hpc hq (hmatched resp ?_)
      rw [hq]
      rfl
  | free answer =>
    rw [hpc] at hs
    cases hs
    have huid : (s.free id).uids id = s.uids id := by
      unfold State.free State.withReq
      split <;> rfl
    have hwaits : (s.callers id).waits = false := by rw [hpc]; rfl
    have hunposted := h.unposted Apart.refl.free hwaits
    refine h.setCaller Apart.refl.free (fun resp hresp => ?_) (fun _ _ _ hserved => ?_)
      (fun hmade => absurd hmade hunposted) ?_ fun hheaded => ?_
    · rw [huid]
      refine h.own.answered resp ?_
      rw [hpc]
      exact hresp
    · have hexpects := hserved.expects
      rw [hpc] at hexpects
      rcases hexpects with hfalse | hfalse <;> cases hfalse
    · rintro (hfalse | hmade)
      · cases hfalse
      · exact absurd hmade hunposted
    · exact absurd (hwaits.symm.trans hheaded.waits) nofun
  | returned =>
    rw [hpc] at hs
    cases hs

/-! ## Every run -/

/-- What a matched step keeps. -/
theorem OwnInv.step {a : Action} (h : OwnInv s) (hinv : Inv s g) (hmatched : Matched s a)
    (hs : step s a = some s') : OwnInv s' := by
  cases a with
  | request msgId cb =>
    cases hs
    have hidle : s.callers s.reqs.length = .idle := by
      by_contra hpc
      exact Nat.lt_irrefl _ (hinv.lt_of_caller hpc)
    have hadd : Apart s.reqs.length s { s with reqs := s.reqs ++ [Req.mk msgId cb] } :=
      { Apart.refl with }
    refine h.moveUnserved hadd ?_ ?_ rfl rfl
    · rw [hidle]
      rfl
    · rw [hidle]
      rfl
  | caller env id => exact h.callerStep hinv hmatched hs
  | tx env => exact h.processRpcTxMsg hmatched hs
  | receive env resp =>
    simp only [RpcCore.step] at hs
    split at hs
    · next hidle =>
      cases hs
      have hpost : s.rx.posting = none := congrArg RxPc.posting hidle
      have hstep := RxStep.of_receive hpost env resp
      refine h.of_keeps hstep.toKeeps ?_ (.inr ⟨hpost, hstep.waits⟩)
      rw [hstep.tx]
      exact h.silent
    · cases hs
  | rx => exact h.rxStep hinv hmatched hs
  | expire id =>
    simp only [RpcCore.step] at hs
    split at hs
    · cases hs
      exact h.of_keeps ((Keeps.setTimer id .expired).setTask _) h.silent (.inl rfl)
    · cases hs
  | timer calloc =>
    have hstep := TimerStep.of_step hs
    refine h.of_keeps hstep.toKeeps ?_ (.inl (congrArg RxPc.posting hstep.rx))
    rw [hstep.tx]
    exact h.silent

/-- A caller that waits behind its semaphore, or takes a response that is not its own, does not
leave things as they should be. -/
theorem Own.callerMatched (hown : Own s') (hinv : Inv s g) {env : CallerEnv}
    (hs : RpcCore.callerStep env id s = some s') : CallerMatched s env id (s.callers id) := by
  cases hpc : s.callers id with
  | waiting pc =>
    cases pc with
    | wait i sem =>
      intro hmade htimeout resp hresp huid
      simp only [RpcCore.callerStep, RpcCore.waitForSyncResponse, hpc, hmade, htimeout, if_true,
        Option.some_inj] at hs
      subst hs
      obtain ⟨k, hkuid, hserved⟩ := hown.queued hresp
      have hexpects := hserved.expects
      by_cases hk : k = id
      · subst hk
        rw [State.callers_setCaller] at hexpects
        rcases hexpects with hfalse | hfalse <;> cases hfalse
      · rw [State.callers_setCaller_of_ne hk] at hexpects
        refine hk (hinv.uid_unique (.inl ?_) hexpects (hkuid.trans huid))
        rw [hpc]
        rfl
    | find | get | destroy | clear | cleared => trivial
  | take =>
    intro resp hresp
    cases hq : s.rxQ with
    | nil =>
      rw [hq] at hresp
      cases hresp
    | cons r rest =>
      rw [hq] at hresp
      cases hresp
      simp only [RpcCore.callerStep, hpc, hq, Option.some_inj] at hs
      subst hs
      refine hown.answered resp ?_
      rw [State.callers_setCaller]
      rfl
  | idle | sending | free | returned => trivial

/-- A response that is queued for nobody, or twice, does not either. -/
theorem OwnInv.rxMatched (h : OwnInv s) (hinv : Inv s g) (hown : Own s')
    (hs : RpcCore.rxStep s = some s') : Matched s .rx := by
  change RxMatched s s.rx
  cases hrx : s.rx with
  | post pc =>
    cases pc with
    | put resp =>
      intro hroom
      simp only [RpcCore.rxStep, hrx, RpcCore.postSyncResp, if_pos hroom, Option.map_some,
        Option.some_inj] at hs
      subst hs
      have hnew : ∀ q ∈ s.rxQ, q.uid ≠ resp.uid := by
        intro q hq huid
        have honce : ((s.rxQ ++ [resp]).map Resp.uid).Nodup := hown.once
        rw [List.map_append] at honce
        exact (List.nodup_append.1 honce).2.2 _ (List.mem_map_of_mem hq) _ (.head _) huid
      have hmem : resp ∈ s.rxQ ++ [resp] := List.mem_append_right _ (.head _)
      obtain ⟨id, huid, hserved⟩ := hown.queued hmem
      replace huid : s.uids id = resp.uid := huid
      have hnot : ¬∃ q ∈ s.rxQ, q.uid = s.uids id := by
        rintro ⟨q, hq, hquid⟩
        exact hnew q hq (hquid.trans huid)
      rcases hserved with htakes | ⟨hwaits, hmade | ⟨p, hp, hheads⟩⟩
      · exact absurd (h.woken (.inl htakes)) hnot
      · exact absurd (h.woken (.inr hmade)) hnot
      · cases hp
        refine ⟨hheads.1, ⟨id, hinv.lt_of_caller ?_, hwaits, huid⟩, hnew⟩
        intro hidle
        replace hwaits : (s.callers id).waits = true := hwaits
        rw [hidle] at hwaits
        cases hwaits
    | avail | post | sem | give => trivial
  | idle | avail | find | call | clear => trivial

/-- What a step needs that leaves things as they should be. -/
theorem OwnInv.matched {a : Action} (h : OwnInv s) (hinv : Inv s g) (hown : Own s')
    (hs : RpcCore.step s a = some s') : Matched s a := by
  cases a with
  | caller env id => exact hown.callerMatched hinv hs
  | rx => exact h.rxMatched hinv hown hs
  | tx env =>
    change TxMatched s s.tx
    cases htx : s.tx with
    | post id pc =>
      cases pc with
      | put resp =>
        obtain ⟨_, ⟨⟩, hzero⟩ := h.silent _ (congrArg TxPc.posting htx)
        by_contra hroom
        replace hroom : s.rxQ.length < rpcRxQueueSize := Nat.not_le.1 hroom
        simp only [RpcCore.step, RpcCore.processRpcTxMsg, htx, RpcCore.postSyncResp, if_pos hroom,
          Option.map_some, Option.some_inj] at hs
        subst hs
        -- nobody with a uid waits for a response without one
        have hmem : resp ∈ s.rxQ ++ [resp] := List.mem_append_right _ (.head _)
        obtain ⟨k, huid, hserved⟩ := hown.queued hmem
        exact (hinv.expects hserved.expects).2 (huid.trans hzero)
      | avail | post | sem | give => trivial
    | idle | got | start | map | search | enter | send | sent | fail | hook | check | release =>
      trivial
  | request | receive | expire | timer => trivial

/-- An action that is not enabled is matched. -/
theorem matched_of_stuck {a : Action} (hs : step s a = none) : Matched s a := by
  cases a with
  | caller env id =>
    change CallerMatched s env id (s.callers id)
    cases hpc : s.callers id with
    | waiting pc =>
      cases pc with
      | wait i sem =>
        intro hmade htimeout
        simp only [step, callerStep, waitForSyncResponse, hpc, hmade, htimeout] at hs
        cases hs
      | find | get | destroy | clear | cleared => trivial
    | take =>
      intro resp hresp
      cases hq : s.rxQ with
      | nil =>
        rw [hq] at hresp
        cases hresp
      | cons r rest =>
        simp only [step, callerStep, hpc, hq] at hs
        cases hs
    | idle | sending | free | returned => trivial
  | tx env =>
    change TxMatched s s.tx
    cases htx : s.tx with
    | post id pc =>
      cases pc with
      | put resp =>
        by_contra hroom
        replace hroom : s.rxQ.length < rpcRxQueueSize := Nat.not_le.1 hroom
        simp only [step, processRpcTxMsg, htx, postSyncResp, if_pos hroom] at hs
        cases hs
      | avail | post | sem | give => trivial
    | idle | got | start | map | search | enter | send | sent | fail | hook | check | release =>
      trivial
  | rx =>
    change RxMatched s s.rx
    cases hrx : s.rx with
    | post pc =>
      cases pc with
      | put resp =>
        intro hroom
        simp only [step, rxStep, hrx, postSyncResp, if_pos hroom] at hs
        cases hs
      | avail | post | sem | give => trivial
    | idle | avail | find | call | clear => trivial
  | request | receive | expire | timer => trivial

/-- **Callers get their own answers** in exactly those careful runs whose steps are all matched. -/
theorem answers_own_iff {as : List Action} (h : AllSteps step Careful ({} : State c) as) :
    AllStates step Own ({} : State c) as ↔ AllSteps step Matched ({} : State c) as := by
  refine allStates_iff_allSteps_within (J := fun s => (∃ g, Inv s g) ∧ OwnInv s) ?_ ?_ ?_
    matched_of_stuck ⟨⟨_, .initial⟩, .initial⟩ h
  · exact fun h => h.2.own
  · rintro t t' a ⟨⟨g, ht⟩, hown⟩ hcareful hmatched hs
    exact ⟨ht.step hcareful hs, hown.step ht hmatched hs⟩
  · rintro t t' a ⟨⟨g, ht⟩, hown⟩ - hown' hs
    exact hown.matched ht hown' hs

instance (s : State c) (env : CallerEnv) (id : ReqId) :
    (pc : Caller c) → Decidable (CallerMatched s env id pc)
  | .waiting (.wait _ _) => inferInstanceAs (Decidable (_ → _))
  | .take => inferInstanceAs (Decidable (∀ resp ∈ s.rxQ.head?, resp.uid = s.uids id))
  | .idle | .sending _ | .free _ | .returned _ | .waiting (.find _) | .waiting (.get _)
  | .waiting (.destroy _ _) | .waiting (.clear _ _) | .waiting (.cleared _ _) => instDecidableTrue

instance (s : State c) : (pc : TxPc c) → Decidable (TxMatched s pc)
  | .post _ (.put _) => inferInstanceAs (Decidable (_ ≤ _))
  | .post _ (.avail _ _) | .post _ (.post _ _) | .post _ (.sem _) | .post _ (.give _)
  | .idle | .got _ | .start _ | .map _ | .search _ _ | .enter _ _ _ | .send _ | .sent _
  | .fail _ _ | .hook _ | .check _ _ | .release _ => instDecidableTrue

instance (s : State c) : (pc : RxPc c) → Decidable (RxMatched s pc)
  | .post (.put _) => inferInstanceAs (Decidable (_ → _))
  | .post (.avail _ _) | .post (.post _ _) | .post (.sem _) | .post (.give _)
  | .idle | .avail _ _ | .find _ _ | .call _ _ | .clear _ _ => instDecidableTrue

instance (s : State c) : (a : Action) → Decidable (Matched s a)
  | .caller env id => inferInstanceAs (Decidable (CallerMatched s env id (s.callers id)))
  | .tx _ => inferInstanceAs (Decidable (TxMatched s s.tx))
  | .rx => inferInstanceAs (Decidable (RxMatched s s.rx))
  | .request _ _ | .receive _ _ | .expire _ | .timer _ => instDecidableTrue

/-- Two callers wait, the second is answered first, and takes its answer while that of the first is
queued behind it. -/
def crossed : List Action :=
  [.request 300 false, .request 302 false] ++ turns (List.replicate 11 0 ++ List.replicate 13 1) ++
    transmit 8 ++ [.receive ⟨true, true⟩ ⟨558, 2, .slave [8]⟩] ++ List.replicate 10 .rx ++
    [.receive ⟨true, true⟩ ⟨556, 1, .slave [7]⟩] ++ List.replicate 8 .rx ++
    turns (List.replicate 6 1 ++ List.replicate 6 0)

theorem answers_own_iff_crossed : AllStates step Own ({} : State ⟨2, 2⟩) crossed ∧
    ∃ s, run step ({} : State ⟨2, 2⟩) crossed = some s ∧
      s.callers 0 = .returned (some ⟨556, 1, .slave [7]⟩) ∧
      s.callers 1 = .returned (some ⟨558, 2, .slave [8]⟩) := by
  have hrun : (run (guarded (fun s a => careful s a && decide (Matched s a)) step)
      ({} : State ⟨2, 2⟩) crossed).map (fun s =>
        decide (s.callers 0 = .returned (some ⟨556, 1, .slave [7]⟩) ∧
          s.callers 1 = .returned (some ⟨558, 2, .slave [8]⟩))) = some true := by
    decide +kernel
  obtain ⟨s, hs, hend⟩ := Option.map_eq_some_iff.1 hrun
  have hcareful : AllSteps step Careful ({} : State ⟨2, 2⟩) crossed :=
    allSteps_of_guarded_run (fun _ _ h => of_decide_eq_true (Bool.and_eq_true_iff.1 h).1) hs
  have hmatched : AllSteps step Matched ({} : State ⟨2, 2⟩) crossed :=
    allSteps_of_guarded_run (fun _ _ h => of_decide_eq_true (Bool.and_eq_true_iff.1 h).2) hs
  exact ⟨(answers_own_iff hcareful).2 hmatched, s, run_of_guarded_run hs, of_decide_eq_true hend⟩

-- If the first caller is quicker, it takes the answer of the second.
example : (run step ({} : State ⟨2, 2⟩) (crossed.take 54 ++ turns (List.replicate 6 0))).map
    (fun s => decide (s.callers 0 = .returned (some ⟨558, 2, .slave [8]⟩))) = some true := by
  decide +kernel

end EspHostedOpen.RpcCore
