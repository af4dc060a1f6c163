import EspHostedOpen.Host.RpcReceive
import Mathlib.Data.Fintype.Basic

/-!
# Requests and callbacks are sound (`rpc_core.c`)

`requests_sound`: as long as every step is careful, nobody uses a request, a semaphore or a timer
that is gone, no request is lost, and the callback of every asynchronous one is called once.
-/

namespace EspHostedOpen.RpcCore

open Transition

variable {c : Config} {s s' : State c} {g : Ghost c} {id : ReqId} {a : Action}

/-! ## The invariant in every run -/

theorem Inv.initial : Inv ({} : State c) {} where
  frame := {
    ok := rfl
    async := nofun
    vacant := fun _ => rfl
    slots := nofun
    sync := nofun
    room := fun _ => rfl
    places := nofun
    entry := nofun
    nodup := List.nodup_nil
    once := List.nodup_nil
    enters := nofun
    enter := nofun
    uids := fun _ _ _ hzero => absurd rfl hzero
    txPost := nofun
    rxPost := nofun }
  legal := fun _ => {
    caller := rfl
    queued := nofun
    tx := nofun
    slot := nofun
    task := nofun
    numbered := fun hreq => absurd rfl hreq
    kept := fun hlive => absurd rfl hlive.1
    answered := nofun
    told := nofun
    rx := nofun }

theorem Inv.step (h : Inv s g) (hcareful : Careful s a) (hs : step s a = some s') :
    ∃ g', Inv s' g' := by
  cases a with
  | request msgId cb =>
    cases hs
    exact ⟨g, h.request⟩
  | caller env id => exact h.callerStep hcareful hs
  | tx env => exact h.processRpcTxMsg hcareful hs
  | receive env resp =>
    simp only [RpcCore.step] at hs
    split at hs
    · cases hs
      exact ⟨g, h.receive ‹_› env resp⟩
    · cases hs
  | rx => exact h.rxStep hcareful hs
  | expire id =>
    simp only [RpcCore.step] at hs
    split at hs
    · next hready =>
      cases hs
      obtain ⟨i, happ, hrx⟩ := hcareful
      exact ⟨g, h.expire hready.2 happ hrx⟩
    · cases hs
  | timer calloc => exact h.rpcAsyncTimeoutHandler hcareful hs

/-! ## What it says -/

/-- An entry that holds a request, and who is at it. -/
theorem Inv.registered (h : Inv s g) {i : Fin c.async} (happ : (s.async i).appReq = some id) :
    (view s g id).told = false ∧ (s.timers id = .running ∨ s.timer.req = some id) ∨
      ∃ pc, s.rx.entry = some (i, some pc) := by
  obtain ⟨st, hslot⟩ := h.frame.slot_of_appReq happ
  obtain ⟨-, hok⟩ := (h.legal id).slot hslot
  have htask : ∀ {pc}, (view s g id).task = some pc → s.timer.req = some id := by
    intro pc hpc
    by_contra hne
    exact absurd ((if_neg hne).symm.trans hpc) nofun
  rw [h.frame.async hslot] at happ
  rcases Stage.cases_of_appReq happ with rfl | ⟨pc, rfl⟩ | ⟨pc, rfl⟩
  · left
    obtain ⟨-, htold, ⟨hrunning, -⟩ | ⟨-, hsought, -⟩⟩ := hok
    · exact ⟨htold, .inl hrunning⟩
    · rcases hsought with hsome | ⟨_, _, hsome, -⟩
      · exact ⟨htold, .inr (htask hsome)⟩
      · exact ⟨htold, .inr (htask hsome)⟩
  · right
    obtain ⟨-, -, hat, -⟩ := hok
    replace hat : s.rx.at (g.slot id) = some (some pc) := hat
    cases hentry : s.rx.entry with
    | none => exact absurd ((RxPc.at_of_none hentry _).symm.trans hat) nofun
    | some p =>
      obtain ⟨j, x⟩ := p
      rw [hslot] at hat
      by_cases hj : j = i
      · subst hj
        cases (RxPc.at_self hentry).symm.trans hat
        exact ⟨pc, rfl⟩
      · have hne : ∀ x, s.rx.entry ≠ some (i, x) := by
          rintro y hy
          exact hj (Prod.mk.inj (Option.some_inj.1 (hentry.symm.trans hy))).1
        exact absurd ((RxPc.at_of_entry hne).symm.trans hat) nofun
  · left
    obtain ⟨htold, ⟨resp, hresp⟩, -⟩ := hok
    exact ⟨htold, .inr (htask hresp)⟩

theorem Inv.kept (h : Inv s g) {r : Req} (hr : s.req id = some r) :
    (s.callers id).active = true ∨ id ∈ s.txQ ∨ s.tx.req = some id ∨
      ∃ i, (s.async i).appReq = some id := by
  have hlive : (view s g id).Live := live_iff.2 ⟨r, hr⟩
  rcases (h.legal id).kept hlive with hactive | hqueued | htx | hslot
  · exact .inl hactive
  · exact .inr (.inl (of_decide_eq_true hqueued))
  · refine .inr (.inr (.inl ?_))
    by_contra hne
    exact htx (if_neg hne)
  · obtain ⟨⟨i, st⟩, hst⟩ := Option.ne_none_iff_exists'.1 hslot
    have hok := ((h.legal id).slot hst).2
    have hentry := h.frame.async hst
    cases st with
    | entering f =>
      refine .inr (.inr (.inl ?_))
      by_contra hne
      exact absurd ((if_neg hne).symm.trans hok) nofun
    | entered => exact .inr (.inr (.inr ⟨i, congrArg AsyncRsp.appReq hentry⟩))
    | called pc =>
      have hfreed : false = pc.freed := hlive.2.symm.trans hok.2.2.2.1
      refine .inr (.inr (.inr ⟨i, (congrArg AsyncRsp.appReq hentry).trans ?_⟩))
      cases pc <;> first | rfl | cases hfreed
    | expired pc =>
      have hfreed : false = pc.freed := hlive.2.symm.trans hok.2.2.2.1
      refine .inr (.inr (.inr ⟨i, (congrArg AsyncRsp.appReq hentry).trans ?_⟩))
      cases pc <;> first | rfl | cases hfreed

theorem Inv.active (h : Inv s g) (hactive : (s.callers id).active = true) :
    (s.req id).isSome = true := by
  have hlive : (view s g id).Live := by
    cases hpc : s.callers id with
    | idle =>
      rw [hpc] at hactive
      cases hactive
    | sending => exact (h.caller hpc).1.1
    | waiting => exact (h.caller hpc).1
    | take => exact (h.caller hpc).1
    | free => exact (h.caller hpc).1
    | returned =>
      rw [hpc] at hactive
      cases hactive
  exact hlive.isSome

theorem Inv.sound (h : Inv s g) : Sound s where
  ok := h.frame.ok
  uids := by
    intro id k r q hr hq
    refine h.frame.uids (.inl ?_) (.inl ?_)
    · exact Option.isSome_iff_exists.2 ⟨r, hr⟩
    · exact Option.isSome_iff_exists.2 ⟨q, hq⟩
  active := h.active
  queued := fun hid => ((h.legal _).queued (decide_eq_true hid)).1.isSome
  hand := fun hid => (h.txView rfl hid).2.1.isSome
  kept := h.kept
  timed := by
    intro id i happ
    rcases h.registered happ with ⟨-, hrunning | htask⟩ | ⟨pc, hentry⟩
    · exact .inl hrunning
    · exact .inr (.inl htask)
    · exact .inr (.inr ⟨some pc, hentry⟩)
  once := h.frame.once
  pending := by
    intro id i happ hrx
    rcases h.registered happ with ⟨htold, -⟩ | ⟨pc, hentry⟩
    · exact of_decide_eq_false htold
    · exact absurd hentry (hrx pc)
  answered := by
    intro id r hr hcb hfreed
    rcases (h.legal id).answered ⟨r, hr, hcb⟩ hfreed with htold | htask
    · exact .inl (of_decide_eq_true htold)
    · refine .inr ?_
      by_contra hne
      exact htask (if_neg hne)

instance (s : State c) (env : CallerEnv) (id : ReqId) (pc : Caller c) :
    Decidable (CallerCareful s env id pc) := by
  unfold CallerCareful
  split <;> infer_instance

instance (s : State c) (env : TxEnv) (pc : TxPc c) : Decidable (TxCareful s env pc) := by
  unfold TxCareful
  split <;> infer_instance

instance (s : State c) (pc : RxPc c) : Decidable (RxCareful s pc) := by
  unfold RxCareful
  split <;> infer_instance

instance (s : State c) (calloc : Bool) (pc : TimerPc c) :
    Decidable (TimerCareful s calloc pc) := by
  unfold TimerCareful
  split <;> infer_instance

instance (s : State c) : (a : Action) → Decidable (Careful s a)
  | .caller env id => inferInstanceAs (Decidable (CallerCareful s env id (s.callers id)))
  | .tx env => inferInstanceAs (Decidable (TxCareful s env s.tx))
  | .rx => inferInstanceAs (Decidable (RxCareful s s.rx))
  | .expire _ => inferInstanceAs (Decidable (∃ _, _))
  | .timer calloc => inferInstanceAs (Decidable (TimerCareful s calloc s.timer))
  | .request _ _ => instDecidableTrue
  | .receive _ _ => instDecidableTrue

def careful (s : State c) (a : Action) : Bool := decide (Careful s a)

/-- Everything succeeds, and nobody has waited too long. -/
def turns (ids : List ReqId) : List Action := ids.map (.caller ⟨true, false⟩)

def transmit (n : Nat) : List Action := List.replicate n (.tx ⟨true, true, true, true, true, true⟩)

-- The caller gives up and destroys its semaphore while the receive thread is about to post it.
example : (run step ({} : State ⟨1, 1⟩) ([.request 300 false] ++ turns (List.replicate 11 0) ++
    transmit 4 ++ [.receive ⟨true, true⟩ ⟨556, 1, .slave []⟩] ++ List.replicate 6 .rx ++
    [.caller ⟨true, true⟩ 0, .caller ⟨true, true⟩ 0, .rx])).map State.fault = some true := by
  decide +kernel

-- The timer expires before the request is in the table, and the response comes afterwards.
example : (run step ({} : State ⟨1, 1⟩) ([.request 300 true] ++ turns (List.replicate 5 0) ++
    transmit 3 ++ [.expire 0] ++ List.replicate 4 (.timer true) ++ transmit 8 ++
    [.receive ⟨true, true⟩ ⟨556, 1, .slave []⟩] ++ List.replicate 3 .rx)).map State.told =
      some [0, 0] := by
  decide +kernel

end EspHostedOpen.RpcCore
