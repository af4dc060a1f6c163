import EspHostedOpen.Host.RpcRequests

/-!
# Uids, and a queue that stays full (`rpc_core.c`)

Two properties of the RPC core whatever its steps do to the requests. As long as the callers come
to `uid` one after the other, the requests count from 1 and leave 0 out when they roll over. And
where the queue of the responses is full while no caller is woken, it stays as it is: the two
threads wait for room, nobody posts a semaphore, and nobody takes a response.
-/

namespace EspHostedOpen.RpcCore

open Transition

variable {c : Config} {s s' : State c} {id k : ReqId} {resp : Resp}

/-! ## What the threads and the timers leave alone -/

/-- What the callers alone write. -/
structure Leaves (s s' : State c) : Prop where
  uid : s'.uid = s.uid
  reqs : s'.reqs = s.reqs
  uids : s'.uids = s.uids
  callers : s'.callers = s.callers

/-- And what lies between a response that is queued and its caller. -/
structure Keeps (s s' : State c) : Prop extends Leaves s s' where
  sync : s'.sync = s.sync
  rxQ : s'.rxQ = s.rxQ
  sems : s'.sems = s.sems

/-- The thread does not post semaphores: it has no response, or waits for room for one. -/
def Waits (posting : Option (PostPc c)) : Prop := ∀ pc ∈ posting, ∃ resp, pc = .put resp

namespace Keeps

theorem refl : Keeps s s := ⟨⟨rfl, rfl, rfl, rfl⟩, rfl, rfl, rfl⟩

theorem broken : Keeps s s.broken := ⟨⟨rfl, rfl, rfl, rfl⟩, rfl, rfl, rfl⟩

theorem setAsync (i : Fin c.async) (e : AsyncRsp) : Keeps s (s.setAsync i e) :=
  ⟨⟨rfl, rfl, rfl, rfl⟩, rfl, rfl, rfl⟩

theorem setTimer (id : ReqId) (timer : Timer) : Keeps s (s.setTimer id timer) :=
  ⟨⟨rfl, rfl, rfl, rfl⟩, rfl, rfl, rfl⟩

theorem call (id : ReqId) (resp : Resp) : Keeps s (s.call id resp) :=
  ⟨⟨rfl, rfl, rfl, rfl⟩, rfl, rfl, rfl⟩

theorem setTx (h : Keeps s s') (pc : TxPc c) : Keeps s (s'.setTx pc) :=
  ⟨⟨h.uid, h.reqs, h.uids, h.callers⟩, h.sync, h.rxQ, h.sems⟩

theorem setRx (h : Keeps s s') (pc : RxPc c) : Keeps s (s'.setRx pc) :=
  ⟨⟨h.uid, h.reqs, h.uids, h.callers⟩, h.sync, h.rxQ, h.sems⟩

theorem setTask (h : Keeps s s') (pc : TimerPc c) : Keeps s (s'.setTask pc) :=
  ⟨⟨h.uid, h.reqs, h.uids, h.callers⟩, h.sync, h.rxQ, h.sems⟩

theorem free : Keeps s (s.free id) := by
  unfold State.free State.withReq
  split
  · exact broken
  · exact ⟨⟨rfl, rfl, rfl, rfl⟩, rfl, rfl, rfl⟩

theorem stop : Keeps s (s.stop id) := by
  unfold State.stop
  split
  · exact setTimer id _
  · exact setTimer id _
  · exact broken

theorem clearAsync (i : Fin c.async) (pc : ClearPc) :
    Keeps s (clearAsyncRespCallback i s pc).1 := by
  cases pc with
  | test | timer | req => exact refl
  | unset | drop | uid | cb => exact setAsync i _
  | stop =>
    change Keeps s ((s.async i).timerHdl.elim s s.stop)
    cases (s.async i).timerHdl with
    | none => exact refl
    | some id => exact stop
  | free =>
    change Keeps s ((s.async i).appReq.elim s s.free)
    cases (s.async i).appReq with
    | none => exact refl
    | some id => exact free

end Keeps

/-- A step with a response. -/
theorem Leaves.of_postSyncResp {pc : PostPc c} {next : Option (PostPc c)}
    (hs : postSyncResp s pc = some (s', next)) :
    Leaves s s' ∧ s'.sync = s.sync ∧ s'.tx = s.tx ∧ s'.rx = s.rx := by
  cases pc with
  | put =>
    simp only [postSyncResp] at hs
    split at hs
    · cases hs
      exact ⟨⟨rfl, rfl, rfl, rfl⟩, rfl, rfl, rfl⟩
    · cases hs
  | avail | post | sem =>
    cases hs
    exact ⟨⟨rfl, rfl, rfl, rfl⟩, rfl, rfl, rfl⟩
  | give id =>
    cases hs
    unfold State.give
    split <;> exact ⟨⟨rfl, rfl, rfl, rfl⟩, rfl, rfl, rfl⟩

/-! ### The transmit thread -/

/-- A step of the transmit thread that is not one with a response. -/
structure TxStep (s s' : State c) : Prop extends Keeps s s' where
  rx : s'.rx = s.rx
  -- a synchronous request has failed
  posting : s'.tx.posting = none ∨ ∃ resp, s'.tx.posting = some (.put resp) ∧ resp.uid = 0

namespace TxStep

theorem setTx (h : Keeps s s') (hrx : s'.rx = s.rx) {pc : TxPc c} (hpc : pc.posting = none) :
    TxStep s (s'.setTx pc) :=
  ⟨h.setTx pc, hrx, .inl hpc⟩

theorem moveTx {pc : TxPc c} (hpc : pc.posting = none) : TxStep s (s.setTx pc) :=
  setTx .refl rfl hpc

theorem withReq (hpost : s.tx.posting = none) {f : Req → State c} (h : ∀ r, TxStep s (f r)) :
    TxStep s (s.withReq id f) := by
  unfold State.withReq
  split
  · exact ⟨.broken, rfl, .inl hpost⟩
  · exact h _

theorem waits (h : TxStep s s') : Waits s'.tx.posting := by
  intro pc hpc
  rcases h.posting with hnone | ⟨resp, hresp, -⟩
  · exact absurd (hnone.symm.trans hpc) nofun
  · exact ⟨resp, Option.some_inj.1 (hpc.symm.trans hresp)⟩

end TxStep

theorem TxStep.of_step {env : TxEnv} (hpost : s.tx.posting = none)
    (hs : processRpcTxMsg env s = some s') : TxStep s s' := by
  unfold processRpcTxMsg at hs
  cases hpc : s.tx with
  | idle =>
    rw [hpc] at hs
    cases hq : s.txQ with
    | nil =>
      rw [hq] at hs
      cases hs
    | cons id rest =>
      rw [hq] at hs
      cases hs
      have hpop : Keeps s { s with txQ := rest } := ⟨⟨rfl, rfl, rfl, rfl⟩, rfl, rfl, rfl⟩
      exact TxStep.setTx hpop rfl rfl
  | got id =>
    rw [hpc] at hs
    cases hs
    refine .withReq hpost fun r => .moveTx ?_
    repeat' split
    all_goals rfl
  | start id =>
    rw [hpc] at hs
    cases hs
    split
    · exact .setTx (.setTimer id _) rfl rfl
    · exact .moveTx rfl
  | map id =>
    rw [hpc] at hs
    cases hs
    refine .withReq hpost fun r => .moveTx ?_
    split <;> rfl
  | search id i =>
    rw [hpc] at hs
    cases hs
    refine .moveTx ?_
    split <;> rfl
  | enter id i f =>
    rw [hpc] at hs
    cases hs
    refine .withReq hpost fun _ => .setTx (.setAsync i _) rfl ?_
    cases f <;> rfl
  | send id =>
    rw [hpc] at hs
    cases hs
    refine .withReq hpost fun _ => .moveTx ?_
    split <;> rfl
  | sent id =>
    rw [hpc] at hs
    cases hs
    exact .withReq hpost fun _ => .moveTx rfl
  | fail id status =>
    rw [hpc] at hs
    cases hs
    refine .withReq hpost fun r => ?_
    split
    · exact .moveTx rfl
    split
    · exact .setTx (.call id _) rfl rfl
    · exact ⟨Keeps.refl.setTx _, rfl, .inr ⟨_, rfl, rfl⟩⟩
  | post id pc =>
    rw [hpc] at hpost
    cases hpost
  | hook id =>
    rw [hpc] at hs
    cases hs
    refine .withReq hpost fun r => .moveTx ?_
    split <;> rfl
  | check id i =>
    rw [hpc] at hs
    cases hs
    refine .withReq hpost fun _ => .moveTx ?_
    split <;> rfl
  | release id =>
    rw [hpc] at hs
    cases hs
    refine .setTx .free ?_ rfl
    unfold State.free State.withReq
    split <;> rfl

/-- A step of the transmit thread. -/
theorem tx_cases {env : TxEnv} (hs : processRpcTxMsg env s = some s') :
    s.tx.posting = none ∧ TxStep s s' ∨ ∃ id pc t next, s.tx = .post id pc ∧
      postSyncResp s pc = some (t, next) ∧ s' = t.setTx (next.elim (.hook id) (.post id)) := by
  cases hpc : s.tx with
  | post id pc =>
    unfold processRpcTxMsg at hs
    rw [hpc] at hs
    obtain ⟨⟨t, next⟩, hp, rfl⟩ := Option.map_eq_some_iff.1 hs
    exact .inr ⟨id, pc, t, next, rfl, hp, rfl⟩
  | idle | got | start | map | search | enter | send | sent | fail | hook | check | release =>
    exact .inl ⟨rfl, TxStep.of_step (congrArg TxPc.posting hpc) hs⟩

/-! ### The receive thread and the timers -/

/-- A step of the receive thread that is not one with a response. -/
structure RxStep (s s' : State c) : Prop extends Keeps s s' where
  tx : s'.tx = s.tx
  waits : Waits s'.rx.posting

theorem RxStep.setRx (h : Keeps s s') (htx : s'.tx = s.tx) {pc : RxPc c} (hpc : pc.posting = none) :
    RxStep s (s'.setRx pc) :=
  ⟨h.setRx pc, htx, fun _ hp => absurd (hpc.symm.trans hp) nofun⟩

theorem RxStep.put (resp : Resp) : RxStep s (s.setRx (.post (.put resp))) := by
  refine ⟨Keeps.refl.setRx _, rfl, ?_⟩
  rintro _ ⟨⟩
  exact ⟨_, rfl⟩

theorem tx_clearAsync (i : Fin c.async) (pc : ClearPc) :
    (clearAsyncRespCallback i s pc).1.tx = s.tx ∧ (clearAsyncRespCallback i s pc).1.rx = s.rx := by
  cases pc with
  | test | timer | req | unset | drop | uid | cb => exact ⟨rfl, rfl⟩
  | stop =>
    change ((s.async i).timerHdl.elim s s.stop).tx = s.tx ∧ _
    cases hid : (s.async i).timerHdl with
    | none =>
      rw [clearAsyncRespCallback, hid]
      exact ⟨rfl, rfl⟩
    | some id =>
      rw [clearAsyncRespCallback, hid]
      change (s.stop id).tx = s.tx ∧ (s.stop id).rx = s.rx
      unfold State.stop
      split <;> exact ⟨rfl, rfl⟩
  | free =>
    change ((s.async i).appReq.elim s s.free).tx = s.tx ∧ _
    cases hid : (s.async i).appReq with
    | none =>
      rw [clearAsyncRespCallback, hid]
      exact ⟨rfl, rfl⟩
    | some id =>
      rw [clearAsyncRespCallback, hid]
      change (s.free id).tx = s.tx ∧ (s.free id).rx = s.rx
      unfold State.free State.withReq
      split <;> exact ⟨rfl, rfl⟩

theorem RxStep.of_step (hpost : s.rx.posting = none) (hs : rxStep s = some s') : RxStep s s' := by
  unfold rxStep at hs
  cases hpc : s.rx with
  | idle =>
    rw [hpc] at hs
    cases hs
  | avail resp i =>
    rw [hpc] at hs
    cases hs
    split
    · exact .setRx .refl rfl rfl
    · exact .setRx .refl rfl rfl
    · exact .put resp
  | find resp i =>
    rw [hpc] at hs
    cases hs
    refine .setRx .refl rfl ?_
    split <;> rfl
  | call resp i =>
    rw [hpc] at hs
    cases hs
    split
    · exact ⟨.broken, rfl, fun _ hp => absurd (hpost.symm.trans hp) nofun⟩
    · exact .setRx (.call _ _) rfl rfl
  | clear i pc =>
    rw [hpc] at hs
    cases hs
    have hidle : ∀ next : Option ClearPc,
        (next.elim .idle (.clear i) : RxPc c).posting = none := by
      rintro (_ | _) <;> rfl
    exact .setRx (.clearAsync i pc) (tx_clearAsync i pc).1 (hidle _)
  | post pc =>
    rw [hpc] at hpost
    cases hpost

/-- A step of the receive thread. -/
theorem rx_cases (hs : rxStep s = some s') : s.rx.posting = none ∧ RxStep s s' ∨
    ∃ pc t next, s.rx = .post pc ∧ postSyncResp s pc = some (t, next) ∧
      s' = t.setRx (next.elim .idle .post) := by
  cases hpc : s.rx with
  | post pc =>
    unfold rxStep at hs
    rw [hpc] at hs
    obtain ⟨⟨t, next⟩, hp, rfl⟩ := Option.map_eq_some_iff.1 hs
    exact .inr ⟨pc, t, next, rfl, hp, rfl⟩
  | idle | avail | find | call | clear =>
    exact .inl ⟨rfl, RxStep.of_step (congrArg RxPc.posting hpc) hs⟩

theorem RxStep.of_receive (hpost : s.rx.posting = none) (env : RxEnv) (resp : Resp) :
    RxStep s (processRpcRxMsg env resp s) := by
  unfold processRpcRxMsg
  split
  · exact ⟨.refl, rfl, fun _ hp => absurd (hpost.symm.trans hp) nofun⟩
  split
  · exact .setRx .refl rfl rfl
  · exact .put resp

/-- A step of the timers. -/
structure TimerStep (s s' : State c) : Prop extends Keeps s s' where
  tx : s'.tx = s.tx
  rx : s'.rx = s.rx

theorem TimerStep.setTask (h : Keeps s s') (htx : s'.tx = s.tx) (hrx : s'.rx = s.rx)
    (pc : TimerPc c) : TimerStep s (s'.setTask pc) :=
  ⟨h.setTask pc, htx, hrx⟩

theorem TimerStep.of_step {calloc : Bool} (hs : rpcAsyncTimeoutHandler calloc s = some s') :
    TimerStep s s' := by
  unfold rpcAsyncTimeoutHandler at hs
  cases hpc : s.timer with
  | idle =>
    rw [hpc] at hs
    cases hs
  | expired id =>
    rw [hpc] at hs
    cases hs
    unfold State.withReq
    split
    · exact ⟨.broken, rfl, rfl⟩
    · exact .setTask .refl rfl rfl _
  | find id uid resp i =>
    rw [hpc] at hs
    cases hs
    exact .setTask .refl rfl rfl _
  | clear id resp i pc =>
    rw [hpc] at hs
    cases hs
    exact .setTask (.clearAsync i pc) (tx_clearAsync i pc).1 (tx_clearAsync i pc).2 _
  | call id resp =>
    rw [hpc] at hs
    cases hs
    exact .setTask (.call id resp) rfl rfl _

/-! ## What a caller does once it has its uid -/

structure CallerStep (id : ReqId) (s s' : State c) : Prop where
  uid : s'.uid = s.uid
  reqs : s'.reqs = s.reqs
  uids : s'.uids = s.uids
  others : ∀ {k}, k ≠ id → s'.callers k = s.callers k
  numbered : (s'.callers id).numbering = false

namespace CallerStep

theorem setCaller (h : Leaves s s') {pc : Caller c} (hpc : pc.numbering = false) :
    CallerStep id s (s'.setCaller id pc) := by
  refine ⟨h.uid, h.reqs, h.uids, fun {k} hk => ?_, ?_⟩
  · change Function.update s'.callers id pc k = s.callers k
    rw [Function.update_of_ne hk, h.callers]
  · change (Function.update s'.callers id pc id).numbering = false
    rw [Function.update_self]
    exact hpc

theorem broken (hpc : (s.callers id).numbering = false) : CallerStep id s s.broken :=
  ⟨rfl, rfl, rfl, fun _ => rfl, hpc⟩

theorem withReq (hpc : (s.callers id).numbering = false) {f : Req → State c}
    (h : ∀ r, CallerStep id s (f r)) : CallerStep id s (s.withReq id f) := by
  unfold State.withReq
  split
  · exact broken hpc
  · exact h _

end CallerStep

theorem Leaves.refl : Leaves s s := ⟨rfl, rfl, rfl, rfl⟩

theorem Leaves.destroy : Leaves s (s.destroy id) := by
  unfold State.destroy
  split <;> exact ⟨rfl, rfl, rfl, rfl⟩

theorem Leaves.setSync (i : Fin c.sync) (e : SyncRsp) : Leaves s (s.setSync i e) :=
  ⟨rfl, rfl, rfl, rfl⟩

theorem Leaves.setSem (id : ReqId) (sem : Sem) : Leaves s (s.setSem id sem) := ⟨rfl, rfl, rfl, rfl⟩

theorem CallerStep.rpcSendReq {env : CallerEnv} {pc : SendPc c} (hpc : s.callers id = .sending pc)
    (hnumbering : (Caller.sending pc).numbering = false) (hs : rpcSendReq env id s pc = some s') :
    CallerStep id s s' := by
  have hold : (s.callers id).numbering = false := (congrArg _ hpc).trans hnumbering
  cases pc with
  | load | store | test | read => cases hnumbering
  | create =>
    cases hs
    refine .withReq hold fun r => ?_
    split
    · exact .setCaller (.setSem id _) rfl
    · exact .setCaller .refl rfl
  | search i =>
    cases hs
    refine .setCaller .refl ?_
    split <;> rfl
  | enter i =>
    cases hs
    exact .withReq hold fun _ => .setCaller (.setSync i _) rfl
  | entered i =>
    cases hs
    exact .withReq hold fun _ => .setCaller (.setSync i _) rfl
  | queue =>
    simp only [RpcCore.rpcSendReq] at hs
    split at hs
    · cases hs
      refine .withReq hold fun r => ?_
      have hpush : Leaves s { s with txQ := s.txQ ++ [id] } := ⟨rfl, rfl, rfl, rfl⟩
      refine .setCaller hpush ?_
      split <;> rfl
    · cases hs
  | fail =>
    cases hs
    refine .setCaller ?_ rfl
    have hfree : ∀ {t : State c}, Leaves s t → Leaves s (t.free id) := by
      intro t ht
      have hkeep : Keeps t (t.free id) := Keeps.free
      exact ⟨hkeep.uid.trans ht.uid, hkeep.reqs.trans ht.reqs, hkeep.uids.trans ht.uids,
        hkeep.callers.trans ht.callers⟩
    split
    · exact hfree .refl
    · exact hfree .destroy

theorem CallerStep.waitForSyncResponse {env : CallerEnv} {pc : WaitPc c}
    (hpc : s.callers id = .waiting pc) (hs : waitForSyncResponse env id s pc = some s') :
    CallerStep id s s' := by
  have hold : (s.callers id).numbering = false := congrArg Caller.numbering hpc
  cases pc with
  | find i =>
    cases hs
    refine .withReq hold fun _ => ?_
    split <;> exact .setCaller .refl rfl
  | get i =>
    cases hs
    exact .setCaller .refl rfl
  | wait i sem =>
    simp only [RpcCore.waitForSyncResponse] at hs
    split at hs
    · cases hs
      exact .setCaller (.setSem sem _) rfl
    · split at hs
      · cases hs
        exact .setCaller .refl rfl
      · cases hs
    · cases hs
      exact .broken hold
  | destroy i ok =>
    cases hs
    split
    · exact .broken hold
    · exact .setCaller .destroy rfl
  | clear i ok =>
    cases hs
    exact .setCaller (.setSync i _) rfl
  | cleared i ok =>
    cases hs
    refine .setCaller (.setSync i _) ?_
    cases ok <;> rfl

theorem CallerStep.of_step {env : CallerEnv} (hpc : (s.callers id).numbering = false)
    (hs : callerStep env id s = some s') : CallerStep id s s' := by
  unfold callerStep at hs
  cases hcaller : s.callers id with
  | idle =>
    rw [hcaller] at hs
    cases hs
  | sending pc =>
    rw [hcaller] at hs hpc
    exact .rpcSendReq hcaller hpc hs
  | waiting pc =>
    rw [hcaller] at hs
    exact .waitForSyncResponse hcaller hs
  | take =>
    rw [hcaller] at hs
    cases hq : s.rxQ with
    | nil =>
      rw [hq] at hs
      cases hs
    | cons resp rest =>
      rw [hq] at hs
      cases hs
      have hpop : Leaves s { s with rxQ := rest } := ⟨rfl, rfl, rfl, rfl⟩
      exact .setCaller hpop rfl
  | free answer =>
    rw [hcaller] at hs
    cases hs
    have hfree : Keeps s (s.free id) := Keeps.free
    exact .setCaller hfree.toLeaves rfl
  | returned =>
    rw [hcaller] at hs
    cases hs

/-! ## Uids -/

/-- Nobody comes to `uid` while somebody else is there. -/
def Serial (s : State c) : Action → Prop
  | .request _ _ => ∀ k < s.reqs.length, (s.callers k).numbering = false
  | _ => True

/-- The last uid there is. -/
def uidMax : Nat := 0xFFFFFFFF

/-- How far the `k`-th request is with its uid. -/
def SendPc.Counted (uid : UInt32) (k : Nat) : SendPc c → Prop
  | .load again => if again then uid = 0 ∧ k % uidMax = 0 else uid.toNat % uidMax = k % uidMax
  | .store again next => next = uid + 1 ∧
      if again then uid = 0 ∧ k % uidMax = 0 else uid.toNat % uidMax = k % uidMax
  | .test => uid = 0 ∧ k % uidMax = 0 ∨ uid.toNat = k % uidMax + 1
  | .read => uid.toNat = k % uidMax + 1
  | _ => True

/-- The requests are numbered. -/
structure Numbered (s : State c) : Prop where
  idle : ∀ {k}, s.reqs.length ≤ k → s.callers k = .idle
  last : (∀ k, (s.callers k).numbering = false) → s.uid.toNat % uidMax = s.reqs.length % uidMax
  counted : ∀ {k pc}, s.callers k = .sending pc → (Caller.sending pc).numbering = true →
    k + 1 = s.reqs.length ∧ pc.Counted s.uid k
  uids : ∀ {k}, k < s.reqs.length → (s.callers k).numbering = false →
    (s.uids k).toNat = k % uidMax + 1

namespace Numbered

theorem initial : Numbered ({} : State c) :=
  ⟨fun _ => rfl, fun _ => rfl, nofun, fun hk => absurd hk (Nat.not_lt_zero _)⟩

theorem of_leaves (h : Numbered s) (hs : Leaves s s') : Numbered s' := by
  obtain ⟨huid, hreqs, huids, hcallers⟩ := hs
  constructor
  · intro k hk
    rw [hcallers]
    exact h.idle (hreqs ▸ hk)
  · rw [hcallers, huid, hreqs]
    exact h.last
  · intro k pc
    rw [hcallers, huid, hreqs]
    exact h.counted
  · intro k
    rw [hcallers, huids, hreqs]
    exact h.uids

theorem of_caller (h : Numbered s) (hidle : s.callers id ≠ .idle)
    (hpc : (s.callers id).numbering = false) (hs : CallerStep id s s') : Numbered s' := by
  have hlt : id < s.reqs.length := Nat.lt_of_not_le fun hle => hidle (h.idle hle)
  have hnumbering : ∀ k, (s'.callers k).numbering = (s.callers k).numbering := by
    intro k
    by_cases hk : k = id
    · rw [hk, hs.numbered, hpc]
    · rw [hs.others hk]
  constructor
  · intro k hk
    rw [hs.reqs] at hk
    rw [hs.others (Nat.ne_of_gt (Nat.lt_of_lt_of_le hlt hk))]
    exact h.idle hk
  · intro hall
    rw [hs.uid, hs.reqs]
    exact h.last fun k => (hnumbering k).symm.trans (hall k)
  · intro k pc hk hpc'
    have hne : k ≠ id := by
      rintro rfl
      have hnumbered := hs.numbered
      rw [hk, hpc'] at hnumbered
      cases hnumbered
    rw [hs.others hne] at hk
    rw [hs.uid, hs.reqs]
    exact h.counted hk hpc'
  · intro k hk hk'
    rw [hs.reqs] at hk
    rw [hs.uids]
    exact h.uids hk ((hnumbering k).symm.trans hk')

/-- A request is made while nobody is at `uid`. -/
theorem request (h : Numbered s) {msgId : UInt32} {cb : Bool}
    (hserial : Serial s (.request msgId cb)) :
    Numbered ({ s with reqs := s.reqs ++ [Req.mk msgId cb] }.setCaller s.reqs.length
      (.sending (.load false))) := by
  have hlength : (s.reqs ++ [Req.mk msgId cb]).length = s.reqs.length + 1 := List.length_append
  have hall : ∀ k, (s.callers k).numbering = false := by
    intro k
    by_cases hk : k < s.reqs.length
    · exact hserial k hk
    · rw [h.idle (Nat.le_of_not_lt hk)]
      rfl
  have hcallers := State.callers_setCaller_cases { s with reqs := s.reqs ++ [Req.mk msgId cb] }
    s.reqs.length (.sending (.load false))
  constructor
  · intro k hk
    replace hk : s.reqs.length + 1 ≤ k := hlength ▸ hk
    rw [State.callers_setCaller_of_ne (Nat.ne_of_gt hk)]
    exact h.idle (Nat.le_of_succ_le hk)
  · intro hnone
    have hlast := hnone s.reqs.length
    rw [State.callers_setCaller] at hlast
    cases hlast
  · intro k pc hk hpc
    rcases hcallers k with ⟨rfl, hlast⟩ | ⟨-, hsame⟩
    · cases hlast.symm.trans hk
      exact ⟨hlength.symm, h.last hall⟩
    · have hnone := hall k
      rw [show s.callers k = .sending pc from hsame.symm.trans hk, hpc] at hnone
      cases hnone
  · intro k hk hk'
    replace hk : k < s.reqs.length + 1 := hlength ▸ hk
    rcases hcallers k with ⟨rfl, hlast⟩ | ⟨hne, hsame⟩
    · rw [hlast] at hk'
      cases hk'
    · rw [hsame] at hk'
      exact h.uids (Nat.lt_of_le_of_ne (Nat.le_of_lt_succ hk) hne) hk'

/-- The last request moves on to its uid. -/
theorem move (h : Numbered s) {pc pc' : SendPc c} (hpc : s.callers id = .sending pc)
    (hnumbering : (Caller.sending pc).numbering = true)
    (hnumbering' : (Caller.sending pc').numbering = true) {uid : UInt32}
    (hcounted : pc.Counted s.uid id → pc'.Counted uid id) :
    Numbered ({ s with uid := uid }.setCaller id (.sending pc')) := by
  obtain ⟨hlength, hold⟩ := h.counted hpc hnumbering
  have hcallers := State.callers_setCaller_cases { s with uid := uid } id (.sending pc')
  constructor
  · intro k hk
    rcases hcallers k with ⟨rfl, -⟩ | ⟨-, hsame⟩
    · exact absurd (Nat.le_trans (Nat.le_of_eq hlength) hk) (Nat.not_succ_le_self k)
    · exact hsame.trans (h.idle hk)
  · intro hnone
    have hid := hnone id
    rw [State.callers_setCaller, hnumbering'] at hid
    cases hid
  · intro k p hk hp
    rcases hcallers k with ⟨rfl, hmoved⟩ | ⟨hne, hsame⟩
    · cases hmoved.symm.trans hk
      exact ⟨hlength, hcounted hold⟩
    · have hlast := (h.counted (hsame.symm.trans hk) hp).1
      exact absurd (Nat.succ_inj.1 (hlast.trans hlength.symm)) hne
  · intro k hk hk'
    rcases hcallers k with ⟨rfl, hmoved⟩ | ⟨-, hsame⟩
    · rw [hmoved, hnumbering'] at hk'
      cases hk'
    · rw [hsame] at hk'
      exact h.uids hk hk'

/-- It gets it. -/
theorem read (h : Numbered s) (hpc : s.callers id = .sending .read) {pc : Caller c}
    (hnumbering : pc.numbering = false) :
    Numbered ({ s with uids := Function.update s.uids id s.uid }.setCaller id pc) := by
  obtain ⟨hlength, hold⟩ := h.counted hpc rfl
  have hcallers := State.callers_setCaller_cases
    { s with uids := Function.update s.uids id s.uid } id pc
  constructor
  · intro k hk
    rcases hcallers k with ⟨rfl, -⟩ | ⟨-, hsame⟩
    · exact absurd (Nat.le_trans (Nat.le_of_eq hlength) hk) (Nat.not_succ_le_self k)
    · exact hsame.trans (h.idle hk)
  · intro _
    change s.uid.toNat % uidMax = s.reqs.length % uidMax
    rw [show s.uid.toNat = id % uidMax + 1 from hold, ← hlength, Nat.add_mod, Nat.mod_mod,
      ← Nat.add_mod]
  · intro k p hk hp
    rcases hcallers k with ⟨rfl, hread⟩ | ⟨hne, hsame⟩
    · rw [hread.symm.trans hk, hp] at hnumbering
      cases hnumbering
    · have hlast := (h.counted (hsame.symm.trans hk) hp).1
      exact absurd (Nat.succ_inj.1 (hlast.trans hlength.symm)) hne
  · intro k hk hk'
    change (Function.update s.uids id s.uid k).toNat = k % uidMax + 1
    rcases hcallers k with ⟨rfl, -⟩ | ⟨hne, hsame⟩
    · rw [Function.update_self]
      exact hold
    · rw [hsame] at hk'
      rw [Function.update_of_ne hne]
      exact h.uids hk hk'

/-- `uid++`, and what is left of it behind the last uid. -/
theorem counted_succ {uid : UInt32} {k : Nat} (h : uid.toNat % uidMax = k % uidMax) :
    uid + 1 = 0 ∧ k % uidMax = 0 ∨ (uid + 1).toNat = k % uidMax + 1 := by
  have hlt := uid.toNat_lt
  have hsucc : (uid + 1).toNat = (uid.toNat + 1) % 2 ^ 32 := UInt32.toNat_add uid 1
  unfold uidMax at h ⊢
  by_cases hmax : uid.toNat = 0xFFFFFFFF
  · left
    refine ⟨UInt32.toNat_inj.1 ?_, ?_⟩
    · rw [hsucc, hmax]
      rfl
    · rw [← h, hmax]
  · right
    omega

theorem sendStep (h : Numbered s) {env : CallerEnv} {pc : SendPc c}
    (hpc : s.callers id = .sending pc) (hs : rpcSendReq env id s pc = some s') : Numbered s' := by
  cases hnumbering : (Caller.sending pc).numbering with
  | false =>
    refine h.of_caller ?_ ((congrArg _ hpc).trans hnumbering) (.rpcSendReq hpc hnumbering hs)
    rw [hpc]
    exact nofun
  | true =>
    cases pc with
    | create | search | enter | entered | queue | fail => cases hnumbering
    | load again =>
      cases hs
      exact h.move hpc rfl rfl fun hold => ⟨rfl, hold⟩
    | store again next =>
      cases hs
      cases again with
      | false =>
        refine h.move hpc rfl rfl ?_
        rintro ⟨rfl, hold⟩
        exact counted_succ hold
      | true =>
        refine h.move hpc rfl rfl ?_
        rintro ⟨rfl, hzero, hk⟩
        change (s.uid + 1).toNat = id % uidMax + 1
        rw [hzero, hk]
        rfl
    | test =>
      cases hs
      by_cases hzero : s.uid = 0
      · rw [if_pos hzero]
        refine h.move hpc rfl rfl ?_
        rintro (hold | hold)
        · exact hold
        · rw [hzero] at hold
          exact absurd hold.symm (Nat.succ_ne_zero _)
      · rw [if_neg hzero]
        refine h.move hpc rfl rfl ?_
        rintro (hold | hold)
        · exact absurd hold.1 hzero
        · exact hold
    | read =>
      cases hs
      unfold State.withReq
      split
      · exact h.of_leaves Keeps.broken.toLeaves
      · refine h.read hpc ?_
        split <;> rfl

theorem step {a : Action} (h : Numbered s) (hserial : Serial s a) (hs : step s a = some s') :
    Numbered s' := by
  cases a with
  | request msgId cb =>
    cases hs
    exact h.request hserial
  | caller env id =>
    cases hcaller : s.callers id with
    | sending pc =>
      replace hs : callerStep env id s = some s' := hs
      rw [callerStep, hcaller] at hs
      exact h.sendStep hcaller hs
    | idle =>
      replace hs : callerStep env id s = some s' := hs
      rw [callerStep, hcaller] at hs
      cases hs
    | waiting | take | free | returned =>
      have hpc : (s.callers id).numbering = false := by
        rw [hcaller]
        rfl
      refine h.of_caller ?_ hpc (.of_step hpc hs)
      rw [hcaller]
      exact nofun
  | tx env =>
    rcases tx_cases hs with ⟨-, hstep⟩ | ⟨id, pc, t, next, -, hp, rfl⟩
    · exact h.of_leaves hstep.toLeaves
    · obtain ⟨hleaves, -⟩ := Leaves.of_postSyncResp hp
      exact h.of_leaves ⟨hleaves.uid, hleaves.reqs, hleaves.uids, hleaves.callers⟩
  | receive env resp =>
    simp only [RpcCore.step] at hs
    split at hs
    · next hidle =>
      cases hs
      exact h.of_leaves (RxStep.of_receive (congrArg RxPc.posting hidle) env resp).toLeaves
    · cases hs
  | rx =>
    rcases rx_cases hs with ⟨-, hstep⟩ | ⟨pc, t, next, -, hp, rfl⟩
    · exact h.of_leaves hstep.toLeaves
    · obtain ⟨hleaves, -⟩ := Leaves.of_postSyncResp hp
      exact h.of_leaves ⟨hleaves.uid, hleaves.reqs, hleaves.uids, hleaves.callers⟩
  | expire id =>
    simp only [RpcCore.step] at hs
    split at hs
    · cases hs
      exact h.of_leaves ⟨rfl, rfl, rfl, rfl⟩
    · cases hs
  | timer calloc => exact h.of_leaves (TimerStep.of_step hs).toLeaves

end Numbered

/-- **The requests count from 1**, and start again behind the last uid, as long as they come to
`uid` one after the other. -/
theorem uid_of_request (h : Reach step Serial ({} : State c) s) :
    (∀ k < s.reqs.length, (s.callers k).numbering = false →
      s.uids k ≠ 0 ∧ (s.uids k).toNat = k % uidMax + 1) ∧
    ∀ j k, j < k → k < j + uidMax → k < s.reqs.length → (s.callers j).numbering = false →
      (s.callers k).numbering = false → s.uids j ≠ s.uids k := by
  have hnumbered : Numbered s := h.invariant .initial fun h hserial hs => h.step hserial hs
  constructor
  · intro k hk hpc
    have huid := hnumbered.uids hk hpc
    refine ⟨fun hzero => ?_, huid⟩
    rw [hzero] at huid
    exact absurd huid (Nat.succ_ne_zero _).symm
  · intro j k hjk hnear hk hj hpc heq
    have hmod := (hnumbered.uids (Nat.lt_trans hjk hk) hj).symm.trans
      ((congrArg UInt32.toNat heq).trans (hnumbered.uids hk hpc))
    unfold uidMax at hmod hnear
    omega

instance (s : State c) (a : Action) : Decidable (Serial s a) := by
  unfold Serial
  split <;> infer_instance

/-- Two requests, one behind the other. -/
def oneByOne : List Action :=
  [.request 300 true] ++ List.replicate 4 (.caller ⟨true, false⟩ 0) ++ [.request 301 false] ++
    List.replicate 4 (.caller ⟨true, false⟩ 1)

theorem uid_of_request_oneByOne : ∃ s : State ⟨1, 1⟩, run step {} oneByOne = some s ∧
    s.uids 0 ≠ s.uids 1 := by
  have hrun : (run (guarded (fun s a => decide (Serial s a)) step) ({} : State ⟨1, 1⟩)
      oneByOne).map (fun s => decide (s.reqs.length = 2 ∧ (s.callers 0).numbering = false ∧
        (s.callers 1).numbering = false)) = some true := by
    decide +kernel
  obtain ⟨s, hs, hend⟩ := Option.map_eq_some_iff.1 hrun
  obtain ⟨hlength, hfirst, hsecond⟩ := of_decide_eq_true hend
  have hreach := reach_of_guarded_run (fun _ _ => of_decide_eq_true) hs
  refine ⟨s, run_of_guarded_run hs, (uid_of_request hreach).2 0 1 ?_ ?_ ?_ hfirst hsecond⟩
  · decide
  · decide
  · rw [hlength]
    decide

-- Two callers at `uid` at once, and both requests have the uid 2.
example : (run step ({} : State ⟨1, 1⟩) ([.request 300 true, .request 301 false] ++
    [0, 0, 0, 1, 1, 1, 1, 0].map (.caller ⟨true, false⟩))).map (fun s => (s.uids 0, s.uids 1)) =
      some (2, 2) := by
  decide +kernel

/-! ## A full queue -/

/-- The caller has been woken: it is on its way to a response, or has one. -/
def Caller.woken : Caller c → Bool
  | .waiting (.destroy _ ok) => ok
  | .waiting (.clear _ ok) => ok
  | .waiting (.cleared _ ok) => ok
  | .take => true
  | .free answer => answer.isSome
  | _ => false

/-- Nobody is woken, or about to be. -/
structure State.Asleep (s : State c) : Prop where
  sems : ∀ id, s.sems id ≠ .made true
  callers : ∀ id, (s.callers id).woken = false
  tx : Waits s.tx.posting
  rx : Waits s.rx.posting

/-- What a step of a caller does while nobody is woken. -/
structure SleepStep (id : ReqId) (s s' : State c) : Prop where
  rxQ : s'.rxQ = s.rxQ
  tx : s'.tx = s.tx
  rx : s'.rx = s.rx
  sems : ∀ k, s'.sems k = .made true → s.sems k = .made true
  others : ∀ {k}, k ≠ id → s'.callers k = s.callers k
  woken : (s'.callers id).woken = false
  answer : ∀ resp, s'.callers id ≠ .returned (some resp)

/-- The state apart from the callers, as such a step leaves it. -/
structure Sleeps (s s' : State c) : Prop where
  rxQ : s'.rxQ = s.rxQ
  tx : s'.tx = s.tx
  rx : s'.rx = s.rx
  sems : ∀ k, s'.sems k = .made true → s.sems k = .made true
  callers : s'.callers = s.callers

namespace Sleeps

theorem refl : Sleeps s s := ⟨rfl, rfl, rfl, fun _ h => h, rfl⟩

theorem setSync (i : Fin c.sync) (e : SyncRsp) : Sleeps s (s.setSync i e) :=
  ⟨rfl, rfl, rfl, fun _ h => h, rfl⟩

theorem setSem (id : ReqId) {sem : Sem} (hsem : sem ≠ .made true) : Sleeps s (s.setSem id sem) := by
  refine ⟨rfl, rfl, rfl, fun k hk => ?_, rfl⟩
  change Function.update s.sems id sem k = .made true at hk
  by_cases hkid : k = id
  · subst hkid
    rw [Function.update_self] at hk
    exact absurd hk hsem
  · rwa [Function.update_of_ne hkid] at hk

theorem destroy : Sleeps s (s.destroy id) := by
  unfold State.destroy
  split
  · exact setSem id nofun
  · exact ⟨rfl, rfl, rfl, fun _ h => h, rfl⟩

theorem free (h : Sleeps s s') : Sleeps s (s'.free id) := by
  unfold State.free State.withReq
  split <;> exact ⟨h.rxQ, h.tx, h.rx, h.sems, h.callers⟩

theorem setCaller (h : Sleeps s s') {pc : Caller c} (hpc : pc.woken = false)
    (hanswer : ∀ resp, pc ≠ .returned (some resp)) : SleepStep id s (s'.setCaller id pc) := by
  refine ⟨h.rxQ, h.tx, h.rx, h.sems, fun {k} hk => ?_, ?_, fun resp => ?_⟩
  · change Function.update s'.callers id pc k = s.callers k
    rw [Function.update_of_ne hk, h.callers]
  · change (Function.update s'.callers id pc id).woken = false
    rw [Function.update_self]
    exact hpc
  · change Function.update s'.callers id pc id ≠ .returned (some resp)
    rw [Function.update_self]
    exact hanswer resp

end Sleeps

theorem SleepStep.withReq (hpc : (s.callers id).woken = false)
    (hanswer : ∀ resp, s.callers id ≠ .returned (some resp)) {f : Req → State c}
    (h : ∀ r, SleepStep id s (f r)) : SleepStep id s (s.withReq id f) := by
  unfold State.withReq
  split
  · exact ⟨rfl, rfl, rfl, fun _ h => h, fun _ => rfl, hpc, hanswer⟩
  · exact h _

theorem SleepStep.rpcSendReq {env : CallerEnv} {pc : SendPc c} (hpc : s.callers id = .sending pc)
    (hs : rpcSendReq env id s pc = some s') : SleepStep id s s' := by
  have hwoken : (s.callers id).woken = false := congrArg Caller.woken hpc
  have hanswer : ∀ resp, s.callers id ≠ .returned (some resp) := by
    rw [hpc]
    exact nofun
  cases pc with
  | load again =>
    cases hs
    exact Sleeps.refl.setCaller rfl nofun
  | store again uid =>
    cases hs
    have hstore : Sleeps s { s with uid := uid } := ⟨rfl, rfl, rfl, fun _ h => h, rfl⟩
    exact hstore.setCaller rfl nofun
  | test =>
    cases hs
    exact Sleeps.refl.setCaller rfl nofun
  | read =>
    cases hs
    refine .withReq hwoken hanswer fun r => ?_
    have hread : Sleeps s { s with uids := Function.update s.uids id s.uid } :=
      ⟨rfl, rfl, rfl, fun _ h => h, rfl⟩
    exact hread.setCaller rfl nofun
  | create =>
    cases hs
    refine .withReq hwoken hanswer fun r => ?_
    split
    · refine (Sleeps.setSem id ?_).setCaller rfl nofun
      split <;> exact nofun
    · exact Sleeps.refl.setCaller rfl nofun
  | search i =>
    cases hs
    exact Sleeps.refl.setCaller rfl nofun
  | enter i =>
    cases hs
    exact .withReq hwoken hanswer fun _ => (Sleeps.setSync i _).setCaller rfl nofun
  | entered i =>
    cases hs
    exact .withReq hwoken hanswer fun _ => (Sleeps.setSync i _).setCaller rfl nofun
  | queue =>
    simp only [RpcCore.rpcSendReq] at hs
    split at hs
    · cases hs
      refine .withReq hwoken hanswer fun r => ?_
      have hpush : Sleeps s { s with txQ := s.txQ ++ [id] } := ⟨rfl, rfl, rfl, fun _ h => h, rfl⟩
      split
      · exact hpush.setCaller rfl nofun
      · exact hpush.setCaller rfl nofun
    · cases hs
  | fail =>
    cases hs
    refine Sleeps.setCaller ?_ rfl nofun
    split
    · exact Sleeps.refl.free
    · exact Sleeps.destroy.free

theorem SleepStep.waitForSyncResponse {env : CallerEnv} {pc : WaitPc c}
    (hsems : ∀ k, s.sems k ≠ .made true) (hpc : s.callers id = .waiting pc)
    (hwoken : (Caller.waiting pc).woken = false) (hs : waitForSyncResponse env id s pc = some s') :
    SleepStep id s s' := by
  have hold : (s.callers id).woken = false := (congrArg _ hpc).trans hwoken
  have hanswer : ∀ resp, s.callers id ≠ .returned (some resp) := by
    rw [hpc]
    exact nofun
  have hbroken : SleepStep id s s.broken :=
    ⟨rfl, rfl, rfl, fun _ h => h, fun _ => rfl, hold, hanswer⟩
  cases pc with
  | find i =>
    cases hs
    refine .withReq hold hanswer fun _ => ?_
    split <;> exact Sleeps.refl.setCaller rfl nofun
  | get i =>
    cases hs
    refine Sleeps.refl.setCaller ?_ nofun
    split <;> rfl
  | wait i sem =>
    simp only [RpcCore.waitForSyncResponse] at hs
    split at hs
    · next hmade => exact absurd hmade (hsems sem)
    · split at hs
      · cases hs
        exact Sleeps.refl.setCaller rfl nofun
      · cases hs
    · cases hs
      exact hbroken
  | destroy i ok =>
    obtain rfl : ok = false := hwoken
    cases hs
    split
    · exact hbroken
    · exact Sleeps.destroy.setCaller rfl nofun
  | clear i ok =>
    obtain rfl : ok = false := hwoken
    cases hs
    exact (Sleeps.setSync i _).setCaller rfl nofun
  | cleared i ok =>
    obtain rfl : ok = false := hwoken
    cases hs
    exact (Sleeps.setSync i _).setCaller rfl nofun

theorem SleepStep.of_step {env : CallerEnv} (hsems : ∀ k, s.sems k ≠ .made true)
    (hwoken : (s.callers id).woken = false) (hs : callerStep env id s = some s') :
    SleepStep id s s' := by
  unfold callerStep at hs
  cases hpc : s.callers id with
  | idle =>
    rw [hpc] at hs
    cases hs
  | sending pc =>
    rw [hpc] at hs
    exact .rpcSendReq hpc hs
  | waiting pc =>
    rw [hpc] at hs hwoken
    exact .waitForSyncResponse hsems hpc hwoken hs
  | take =>
    rw [hpc] at hwoken
    cases hwoken
  | free answer =>
    rw [hpc] at hs hwoken
    cases hs
    cases answer with
    | none => exact Sleeps.refl.free.setCaller rfl nofun
    | some resp => cases hwoken
  | returned =>
    rw [hpc] at hs
    cases hs

/-- No caller has an answer that it had not before. -/
def NoAnswer (s s' : State c) : Prop :=
  ∀ id resp, s'.callers id = .returned (some resp) → s.callers id = .returned (some resp)

theorem State.Asleep.of_keeps (h : s.Asleep) (hs : Keeps s s') (htx : Waits s'.tx.posting)
    (hrx : Waits s'.rx.posting) : s'.rxQ = s.rxQ ∧ s'.Asleep ∧ NoAnswer s s' := by
  refine ⟨hs.rxQ, ⟨?_, ?_, htx, hrx⟩, fun id resp => ?_⟩
  · rw [hs.sems]
    exact h.sems
  · rw [hs.callers]
    exact h.callers
  · rw [hs.callers]
    exact fun hid => hid

theorem State.Asleep.of_caller (h : s.Asleep) (hs : SleepStep id s s') :
    s'.rxQ = s.rxQ ∧ s'.Asleep ∧ NoAnswer s s' := by
  refine ⟨hs.rxQ, ⟨fun k hk => h.sems k (hs.sems k hk), fun k => ?_, ?_, ?_⟩, fun k resp hk => ?_⟩
  · by_cases hkid : k = id
    · rw [hkid]
      exact hs.woken
    · rw [hs.others hkid]
      exact h.callers k
  · rw [hs.tx]
    exact h.tx
  · rw [hs.rx]
    exact h.rx
  · by_cases hkid : k = id
    · subst hkid
      exact absurd hk (hs.answer resp)
    · rwa [hs.others hkid] at hk

/-- A thread that waits for room does not find it. -/
theorem postSyncResp_full {pc : PostPc c} (hfull : s.rxQ.length = rpcRxQueueSize)
    (hwaits : ∃ resp, pc = .put resp) : postSyncResp s pc = none := by
  obtain ⟨resp, rfl⟩ := hwaits
  rw [postSyncResp, hfull]
  exact if_neg (Nat.lt_irrefl _)

theorem full_step {a : Action} (hfull : s.rxQ.length = rpcRxQueueSize) (h : s.Asleep)
    (hs : step s a = some s') : s'.rxQ = s.rxQ ∧ s'.Asleep ∧ NoAnswer s s' := by
  cases a with
  | request msgId cb =>
    cases hs
    have hadd : Sleeps s { s with reqs := s.reqs ++ [Req.mk msgId cb] } :=
      ⟨rfl, rfl, rfl, fun _ h => h, rfl⟩
    exact h.of_caller (hadd.setCaller rfl nofun)
  | caller env id => exact h.of_caller (.of_step h.sems (h.callers id) hs)
  | tx env =>
    rcases tx_cases hs with ⟨-, hstep⟩ | ⟨id, pc, t, next, hpc, hp, -⟩
    · refine h.of_keeps hstep.toKeeps hstep.waits ?_
      rw [hstep.rx]
      exact h.rx
    · rw [postSyncResp_full hfull (h.tx pc (congrArg TxPc.posting hpc))] at hp
      cases hp
  | receive env resp =>
    simp only [step] at hs
    split at hs
    · next hidle =>
      cases hs
      have hstep := RxStep.of_receive (congrArg RxPc.posting hidle) env resp
      refine h.of_keeps hstep.toKeeps ?_ hstep.waits
      rw [hstep.tx]
      exact h.tx
    · cases hs
  | rx =>
    rcases rx_cases hs with ⟨-, hstep⟩ | ⟨pc, t, next, hpc, hp, -⟩
    · refine h.of_keeps hstep.toKeeps ?_ hstep.waits
      rw [hstep.tx]
      exact h.tx
    · rw [postSyncResp_full hfull (h.rx pc (congrArg RxPc.posting hpc))] at hp
      cases hp
  | expire id =>
    simp only [step] at hs
    split at hs
    · cases hs
      exact h.of_keeps ((Keeps.setTimer id .expired).setTask _) h.tx h.rx
    · cases hs
  | timer calloc =>
    have hstep := TimerStep.of_step hs
    refine h.of_keeps hstep.toKeeps ?_ ?_
    · rw [hstep.tx]
      exact h.tx
    · rw [hstep.rx]
      exact h.rx

/-- **Where the queue of the responses is full** and no caller is woken or about to be, it stays as
it is, and no caller gets an answer from then on. -/
theorem full_queue_stays {t : State c} {as : List Action} (hfull : s.rxQ.length = rpcRxQueueSize)
    (hasleep : s.Asleep) (hrun : run step s as = some t) : t.rxQ = s.rxQ ∧
      ∀ id resp, t.callers id = .returned (some resp) → s.callers id = .returned (some resp) := by
  have hinv := (reach_of_run hrun).invariant
    (I := fun t => t.rxQ = s.rxQ ∧ t.Asleep ∧ NoAnswer s t) ⟨rfl, hasleep, fun _ _ h => h⟩ ?_
  · exact ⟨hinv.1, hinv.2.2⟩
  · rintro t t' a ⟨hq, ht, hanswer⟩ - hs
    obtain ⟨hq', ht', hanswer'⟩ := full_step (hq ▸ hfull) ht hs
    exact ⟨hq'.trans hq, ht', fun id resp hid => hanswer id resp (hanswer' id resp hid)⟩

/-- A synchronous request that cannot be sent, and whose caller gives up. -/
def unsent (id : ReqId) : List Action :=
  [.request 300 false] ++ List.replicate 11 (.caller ⟨true, false⟩ id) ++
    List.replicate 11 (.tx ⟨true, true, true, true, false, true⟩) ++
    List.replicate 5 (.caller ⟨true, true⟩ id)

/-- Behind three of them. -/
def afterUnsent : State ⟨5, 5⟩ := (run step {} (unsent 0 ++ unsent 1 ++ unsent 2)).getD {}

theorem afterUnsent_asleep : afterUnsent.Asleep where
  sems := by
    rintro (_ | _ | _ | id)
    · decide +kernel
    · decide +kernel
    · decide +kernel
    · change Sem.unmade ≠ .made true
      exact nofun
  callers := by
    rintro (_ | _ | _ | id)
    · decide +kernel
    · decide +kernel
    · decide +kernel
    · change (Caller.idle : Caller ⟨5, 5⟩).woken = false
      rfl
  tx := by
    change ∀ pc ∈ (none : Option (PostPc ⟨5, 5⟩)), ∃ resp, pc = .put resp
    exact nofun
  rx := by
    change ∀ pc ∈ (none : Option (PostPc ⟨5, 5⟩)), ∃ resp, pc = .put resp
    exact nofun

/-- A fourth request is sent and answered, and its caller gives up as well. -/
def fourth : List Action :=
  [.request 300 false] ++ List.replicate 11 (.caller ⟨true, false⟩ 3) ++
    List.replicate 4 (.tx ⟨true, true, true, true, true, true⟩) ++
    [.receive ⟨true, true⟩ ⟨556, 4, .slave []⟩] ++ List.replicate 6 .rx ++
    List.replicate 5 (.caller ⟨true, true⟩ 3)

theorem full_queue_stays_fourth : ∃ t, run step afterUnsent fourth = some t ∧
    t.callers 3 = .returned none ∧ t.rxQ = afterUnsent.rxQ := by
  have hrun : (run step afterUnsent fourth).map (fun t => decide (t.callers 3 = .returned none)) =
      some true := by
    decide +kernel
  obtain ⟨t, ht, hend⟩ := Option.map_eq_some_iff.1 hrun
  have hfull : afterUnsent.rxQ.length = rpcRxQueueSize := by
    decide +kernel
  exact ⟨t, ht, of_decide_eq_true hend, (full_queue_stays hfull afterUnsent_asleep ht).1⟩

end EspHostedOpen.RpcCore
