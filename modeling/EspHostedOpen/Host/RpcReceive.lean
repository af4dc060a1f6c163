import EspHostedOpen.Host.RpcTransmit

/-!
# The receive thread and the timers keep the invariant (`rpc_core.c`)

Both clear entries of `async_rsp_table` and free the requests in them: the receive thread behind the
callback, the task of the timers before it.
-/

namespace EspHostedOpen.RpcCore

open Transition

variable {c : Config} {s s' : State c} {g : Ghost c} {id k : ReqId} {v : View c}
  {i : Fin c.async} {st : Stage}

/-! ## Moves of a request in the table -/

/-- Whoever is at the entry of a request moves on. -/
theorem Legal.moveSlot (h : Legal id v) (task : Option (TimerPc c)) (rx : Option (Option ClearPc))
    (hslot : v.slot = some (i, st)) (hst : ∀ f, st ≠ .entering f) {told freed : Bool}
    {timer : Timer} {slot : Option (Fin c.async × Stage)}
    (hreleased : freed = true → v.freed = true ∨ v.tx = none)
    (hslot' : ∀ {j st'}, slot = some (j, st') → j = i ∧ (∀ f, st' ≠ .entering f) ∧
      st'.Ok { v with
        told := told, freed := freed, timer := timer, task := task, rx := rx, slot := slot } id i)
    (hgone : slot = none → freed = true)
    (htask : ∀ {pc}, task = some pc → pc.req = some id ∧ pc.Ok { v with
      told := told, freed := freed, timer := timer, task := task, rx := rx, slot := slot })
    (hanswered : freed = true → told = true ∨ task ≠ none)
    (hrx : ∀ {x}, rx = some x → ∃ i, slot = some (i, x.elim .entered .called)) :
    Legal id { v with
      told := told, freed := freed, timer := timer, task := task, rx := rx, slot := slot } := by
  have hasync := (h.slot hslot).1
  have hearly : ¬v.Early := fun hearly => absurd (hearly.1.symm.trans hslot) nofun
  obtain ⟨answer, hreturned⟩ := h.returned hasync fun hfresh => hearly hfresh.2.2.2
  have hqueued : v.queued = false := by
    cases hq : v.queued with
    | false => rfl
    | true => exact absurd ((h.queued hq).2.2 hasync) hearly
  have htx : freed = true → v.tx = none := by
    intro hfreed
    rcases hreleased hfreed with hold | hnone
    · cases htx : v.tx with
      | none => rfl
      | some pc => exact absurd (hold.symm.trans (h.tx htx).2.1.2) nofun
    · exact hnone
  exact {
    caller := by
      have hcaller := h.caller
      change v.caller.Ok _ id
      rw [hreturned] at hcaller ⊢
      exact ⟨hcaller.1, hcaller.2.1, fun _ => hasync⟩
    queued := fun hq => absurd (hqueued.symm.trans hq) nofun
    tx := by
      intro pc hpc
      replace hpc : v.tx = some pc := hpc
      obtain ⟨hreq, hlive, hok⟩ := h.tx hpc
      have hfreed : freed = false := by
        cases hf : freed with
        | false => rfl
        | true => exact absurd ((htx hf).symm.trans hpc) nofun
      cases hsome : slot with
      | none => exact absurd (hfreed.symm.trans (hgone hsome)) nofun
      | some p =>
        obtain ⟨hj, hst', -⟩ := @hslot' p.1 p.2 hsome
        refine ⟨hreq, ⟨hlive.1, hfreed⟩, hok.registered hasync hslot hst hst' rfl ?_⟩
        exact congrArg (fun j => some (j, p.2)) hj
    slot := by
      intro j st' hj
      obtain ⟨rfl, -, hok⟩ := hslot' hj
      exact ⟨hasync, hok⟩
    task := fun hpc => ⟨(htask hpc).1, hasync, (htask hpc).2⟩
    numbered := h.numbered
    kept := fun hlive => .inr (.inr (.inr fun hnone => by
      exact absurd (hlive.2.symm.trans (hgone hnone)) nofun))
    answered := fun _ => hanswered
    told := fun _ => hasync
    rx := hrx }

/-! ## The receive thread, away from the entries -/

theorem RxPc.at_of_none {pc : RxPc c} (h : pc.entry = none)
    (slot : Option (Fin c.async × Stage)) : pc.at slot = none := by
  unfold RxPc.at
  rw [h]
  cases slot <;> rfl

theorem RxPc.at_of_ne {pc : RxPc c} {slot : Option (Fin c.async × Stage)}
    (hentry : ∀ {j x}, pc.entry = some (j, x) → j = i) (hslot : ∀ st, slot ≠ some (i, st)) :
    pc.at slot = none := by
  unfold RxPc.at
  split
  · next j st j' x hentry' =>
    refine if_neg ?_
    rintro rfl
    exact hslot st (hentry hentry' ▸ rfl)
  · rfl

theorem RxPc.at_self {pc : RxPc c} {x : Option ClearPc} (h : pc.entry = some (i, x)) :
    pc.at (some (i, st)) = some x := by
  unfold RxPc.at
  rw [h]
  exact if_pos rfl

theorem Inv.setRx (h : Inv s g) {pc : RxPc c} (hold : s.rx.entry = none) (hnew : pc.entry = none)
    (hpost : ∀ {p}, pc.posting = some p → p.Ok s g) : Inv (s.setRx pc) g := by
  refine ⟨h.frame.setRx (fun hentry => absurd (hnew.symm.trans hentry) nofun) hpost, fun k => ?_⟩
  have hview : view (s.setRx pc) g k = view s g k := by
    rw [view_setRx, RxPc.at_of_none hnew, ← RxPc.at_of_none hold (g.slot k)]
    rfl
  rw [hview]
  exact h.legal k

theorem Inv.receive (h : Inv s g) (hrx : s.rx = .idle) (env : RxEnv) (resp : Resp) :
    Inv (processRpcRxMsg env resp s) g := by
  have hold : s.rx.entry = none := congrArg RxPc.entry hrx
  unfold processRpcRxMsg
  split
  · exact h
  split
  · exact h.setRx hold rfl nofun
  · refine h.setRx hold rfl ?_
    rintro _ ⟨⟩
    trivial

/-! ## At an entry -/

/-- The receive thread is at the entry of the request, or comes to it. -/
theorem Inv.view_setRx_of_ne (h : Inv s g) {pc : RxPc c} (hslot : g.slot id = some (i, st))
    (hold : ∀ {j x}, s.rx.entry = some (j, x) → j = i)
    (hnew : ∀ {j x}, pc.entry = some (j, x) → j = i) (hk : k ≠ id) :
    view (s.setRx pc) g k = view s g k := by
  have hne : ∀ st', g.slot k ≠ some (i, st') := fun st' hk' => hk (h.frame.slots hk' hslot)
  rw [view_setRx, RxPc.at_of_ne hnew hne, ← RxPc.at_of_ne hold hne]
  rfl

/-- An entry that holds a request is entered, or somebody is clearing it. -/
theorem Stage.cases_of_appReq (happ : (st.entry (s.uids id) id).appReq = some k) :
    st = .entered ∨ (∃ pc, st = .called pc) ∨ ∃ pc, st = .expired pc := by
  cases st with
  | entering f => cases f <;> cases happ
  | entered => exact .inl rfl
  | called pc => exact .inr (.inl ⟨pc, rfl⟩)
  | expired pc => exact .inr (.inr ⟨pc, rfl⟩)

/-- The request of an entry that the receive thread finds. -/
theorem Inv.find (h : Inv s g) {resp : Resp} {n : Nat} (hpc : s.rx = .find resp n)
    (happ : (s.async i).appReq = some id) (htimer : s.timer.req ≠ some id) :
    Inv (s.setRx (.call resp i)) g := by
  obtain ⟨st, hslot⟩ := h.frame.slot_of_appReq happ
  have hlegal := h.legal id
  have hok := (hlegal.slot hslot).2
  have hrx : s.rx.at (g.slot id) = none := RxPc.at_of_none (congrArg RxPc.entry hpc) _
  have htask : (view s g id).task = none := if_neg htimer
  rw [h.frame.async hslot] at happ
  obtain rfl : st = .entered := by
    rcases Stage.cases_of_appReq happ with rfl | ⟨pc, rfl⟩ | ⟨pc, rfl⟩
    · rfl
    · exact absurd (hrx.symm.trans hok.2.2.1) nofun
    · obtain ⟨resp, hresp⟩ := hok.2.1
      exact absurd (htask.symm.trans hresp) nofun
  obtain ⟨hfreed, htold, ⟨hrunning, -, -⟩ | ⟨-, hsought, -⟩⟩ := hok
  · refine h.of_view id (h.frame.setRx ?_ nofun) (fun hk => h.view_setRx_of_ne hslot ?_ ?_ hk) ?_
    · rintro _ _ ⟨⟩
      exact ⟨id, _, hslot⟩
    · rw [hpc]
      exact nofun
    · rintro _ _ ⟨⟩
      rfl
    · rw [view_setRx, hslot, RxPc.at_self rfl]
      refine hlegal.moveSlot _ (some none) hslot nofun .inl ?_ ?_ ?_ ?_ ?_
      · intro j st' hj
        obtain ⟨rfl, rfl⟩ := Prod.mk.inj (Option.some_inj.1 (hj.symm.trans hslot))
        exact ⟨rfl, nofun, hfreed, htold, .inl ⟨hrunning, htask, .inr rfl⟩⟩
      · exact fun hnone => absurd (hslot.symm.trans hnone) nofun
      · exact fun hsome => absurd (htask.symm.trans hsome) nofun
      · exact fun hgone => absurd (hfreed.symm.trans hgone) nofun
      · rintro x ⟨⟩
        exact ⟨i, hslot⟩
  · rcases hsought with hsome | ⟨_, _, hsome, -⟩
    · exact absurd (htask.symm.trans hsome) nofun
    · exact absurd (htask.symm.trans hsome) nofun

/-- The request of the entry that the receive thread is at. -/
theorem Inv.of_entry (h : Inv s g) {x : Option ClearPc} (hentry : s.rx.entry = some (i, x)) :
    ∃ id, g.slot id = some (i, x.elim .entered .called) ∧ s.rx.at (g.slot id) = some x := by
  obtain ⟨id, st, hslot⟩ := h.frame.entry hentry
  have hat : s.rx.at (g.slot id) = some x := by
    rw [hslot]
    exact RxPc.at_self hentry
  obtain ⟨j, hj⟩ := (h.legal id).rx hat
  obtain ⟨rfl, -⟩ := Prod.mk.inj (Option.some_inj.1 (hj.symm.trans hslot))
  exact ⟨id, hj, hat⟩

/-- The callback of an entry is called. -/
theorem Inv.call (h : Inv s g) {resp : Resp} (hpc : s.rx = .call resp i) :
    ∃ id, (s.async i).cb = some id ∧
      Inv ((s.call id resp).setRx (.clear i .test)) (g.setSlot id (some (i, .called .test))) := by
  obtain ⟨id, hslot, hat⟩ := h.of_entry (i := i) (x := none) (congrArg RxPc.entry hpc)
  have hlegal := h.legal id
  obtain ⟨hasync, hfreed, htold, hwho⟩ := hlegal.slot hslot
  have hentry : s.async i = Stage.entered.entry (s.uids id) id := h.frame.async hslot
  refine ⟨id, congrArg AsyncRsp.cb hentry, ?_⟩
  obtain ⟨hrunning, htask, -⟩ | ⟨-, -, hrx⟩ := hwho
  · have hrx : Frame ((s.call id resp).setRx (.clear i .test)) g := by
      refine (h.frame.call (of_decide_eq_false htold)).setRx ?_ nofun
      rintro _ _ ⟨⟩
      exact ⟨id, _, hslot⟩
    have hframe := hrx.setAsync id i (s.async i) (some (i, .called .test))
      (fun hsome => (Prod.mk.inj (Option.some_inj.1 (hsome.symm.trans hslot))).1)
      (fun hk => h.frame.slots hk hslot) (.inr ⟨_, rfl, hentry⟩) nofun
      fun _ _ => .inr ⟨i, _, hslot, rfl⟩
    rw [show ((s.call id resp).setRx (.clear i .test)).setAsync i (s.async i) = _ from
      setAsync_self] at hframe
    have hold : ∀ {j x}, s.rx.entry = some (j, x) → j = i := by
      rw [hpc]
      rintro _ _ ⟨⟩
      rfl
    refine h.of_view id hframe (fun {k} hk => ?_) ?_
    · rw [view_setSlot_of_ne _ hk]
      change { view (s.setRx (.clear i .test)) g k with
        told := decide (k ∈ (s.call id resp).told) } = view s g k
      rw [h.view_setRx_of_ne hslot hold (by rintro _ _ ⟨⟩; rfl) hk]
      exact view_call_of_ne resp hk
    · rw [view_setSlot]
      change Legal id { view (s.call id resp) g id with slot := _, rx := RxPc.at _ _ }
      rw [view_call, RxPc.at_self rfl]
      refine hlegal.moveSlot _ (some (some .test)) hslot nofun .inl ?_ ?_ ?_ ?_ ?_
      · rintro _ _ ⟨⟩
        exact ⟨rfl, nofun, rfl, htask, rfl, hfreed, hrunning⟩
      · exact nofun
      · exact fun hsome => absurd (htask.symm.trans hsome) nofun
      · exact fun hgone => absurd (hfreed.symm.trans hgone) nofun
      · rintro x ⟨⟩
        exact ⟨i, rfl⟩
  · exact absurd (hat.symm.trans hrx) nofun

/-! ## `clear_async_resp_callback` -/

def ClearPc.next : ClearPc → Option ClearPc
  | .test => some .timer
  | .timer => some .stop
  | .stop => some .unset
  | .unset => some .req
  | .req => some .free
  | .free => some .drop
  | .drop => some .uid
  | .uid => some .cb
  | .cb => none

/-- An entry, the timer of its request and whether that is freed, as a step leaves them. -/
def State.clearing (s : State c) (i : Fin c.async) (id : ReqId) (e : AsyncRsp) (timer : Timer)
    (freed : Bool) : State c :=
  { s with
    async := Function.update s.async i e
    timers := Function.update s.timers id timer
    freed := Function.update s.freed id freed }

/-- **The nine steps**: the entry, the timer and the request are what `ClearPc` says of them. -/
theorem clearAsyncRespCallback_eq {pc : ClearPc} {timer : Timer}
    (hentry : s.async i = pc.entry (s.uids id) id) (hzero : s.uids id ≠ 0)
    (hreq : s.reqs[id]? ≠ none) (hfreed : s.freed id = pc.freed)
    (htimer : s.timers id = pc.timerOf timer) (hrun : timer = .running ∨ timer = .expired) :
    clearAsyncRespCallback i s pc =
      (s.clearing i id (pc.next.elim {} (·.entry (s.uids id) id))
        (pc.next.elim .deleted (·.timerOf timer)) (pc.next.elim true (·.freed)), pc.next) := by
  have hself : ∀ {e t f}, s.async i = e → s.timers id = t → s.freed id = f →
      s.clearing i id e t f = s := by
    rintro _ _ _ rfl rfl rfl
    rw [State.clearing, Function.update_eq_self, Function.update_eq_self, Function.update_eq_self]
  have hwrite : ∀ {e t f}, s.timers id = t → s.freed id = f →
      s.clearing i id e t f = s.setAsync i e := by
    rintro _ _ _ rfl rfl
    rw [State.clearing, Function.update_eq_self, Function.update_eq_self]
    rfl
  have hdelete : ∀ {e t f}, s.async i = e → s.freed id = f →
      s.clearing i id e t f = s.setTimer id t := by
    rintro _ _ _ rfl rfl
    rw [State.clearing, Function.update_eq_self, Function.update_eq_self]
    rfl
  have hfree : ∀ {e t f}, s.async i = e → s.timers id = t →
      s.clearing i id e t f = { s with freed := Function.update s.freed id f } := by
    rintro _ _ _ rfl rfl
    rw [State.clearing, Function.update_eq_self, Function.update_eq_self]
  cases pc with
  | test =>
    have huid : (s.async i).uid ≠ 0 := by
      rw [hentry]
      exact hzero
    rw [clearAsyncRespCallback, if_neg huid]
    exact congrArg (·, _) (hself hentry htimer hfreed).symm
  | timer =>
    have hset : (s.async i).timerHdl ≠ none := by
      rw [hentry]
      exact nofun
    rw [clearAsyncRespCallback, if_neg hset]
    exact congrArg (·, _) (hself hentry htimer hfreed).symm
  | stop =>
    have hstop : s.stop id = s.setTimer id .deleted := by
      rw [State.stop, show s.timers id = timer from htimer]
      rcases hrun with rfl | rfl <;> rfl
    rw [clearAsyncRespCallback, hentry]
    change (s.stop id, _) = _
    rw [hstop]
    exact congrArg (·, _) (hdelete hentry hfreed).symm
  | unset =>
    rw [clearAsyncRespCallback, hentry]
    exact congrArg (·, _) (hwrite htimer hfreed).symm
  | req =>
    have hset : (s.async i).appReq ≠ none := by
      rw [hentry]
      exact nofun
    rw [clearAsyncRespCallback, if_neg hset]
    exact congrArg (·, _) (hself hentry htimer hfreed).symm
  | free =>
    have hlive : (view s {} id).Live := ⟨hreq, hfreed⟩
    rw [clearAsyncRespCallback, hentry]
    change (s.free id, _) = _
    rw [hlive.free]
    exact congrArg (·, _) (hfree hentry htimer).symm
  | drop =>
    rw [clearAsyncRespCallback, hentry]
    exact congrArg (·, _) (hwrite htimer hfreed).symm
  | uid =>
    rw [clearAsyncRespCallback, hentry]
    exact congrArg (·, _) (hwrite htimer hfreed).symm
  | cb =>
    rw [clearAsyncRespCallback, hentry]
    exact congrArg (·, _) (hwrite htimer hfreed).symm

theorem view_clearing (e : AsyncRsp) (timer : Timer) (freed : Bool) :
    view (s.clearing i id e timer freed) g id =
      { view s g id with timer := timer, freed := freed } := by
  change view { s.setTimer id timer with freed := Function.update s.freed id freed } g id = _
  rw [show s.freed = (s.setTimer id timer).freed from rfl, view_freed, view_setTimer]

theorem view_clearing_of_ne (e : AsyncRsp) (timer : Timer) (freed : Bool) (hk : k ≠ id) :
    view (s.clearing i id e timer freed) g k = view s g k := by
  change view { s.setTimer id timer with freed := Function.update s.freed id freed } g k = _
  rw [show s.freed = (s.setTimer id timer).freed from rfl, view_freed_of_ne _ hk,
    view_setTimer_of_ne _ hk]

theorem Frame.clearing (h : Frame s g) (e : AsyncRsp) (timer : Timer) (freed : Bool)
    (slot : Option (Fin c.async × Stage)) (hslot : g.slot id = some (i, st))
    (hmono : s.freed id = true → freed = true)
    (hentry : slot = none ∧ e = {} ∨ ∃ st, slot = some (i, st) ∧ e = st.entry (s.uids id) id)
    (hrx : slot = none → ∀ x, s.rx.entry ≠ some (i, x)) (hshows : slot = none ∨ st.shows = true) :
    Frame (s.clearing i id e timer freed) (g.setSlot id slot) :=
  ((h.freed id freed hmono).setTimer timer).setAsync id i e slot
    (fun hsome => (Prod.mk.inj (Option.some_inj.1 (hsome.symm.trans hslot))).1)
    (fun hk => h.slots hk hslot) hentry hrx fun hsome _ => .inr ⟨i, st, hslot, by
      rcases hshows with rfl | hshows
      · cases hsome
      · exact hshows⟩

namespace ClearPc

theorem freed_next {pc : ClearPc} (h : pc.freed = true) : pc.next.elim true (·.freed) = true := by
  cases pc <;> first | rfl | cases h

theorem next_freed {pc : ClearPc} (h : pc.next.elim true (·.freed) = true) :
    pc.freed = true ∨ pc = .free := by
  cases pc <;> first | exact .inl rfl | exact .inr rfl | cases h

theorem shows_of_next {pc p : ClearPc} (h : pc.next = some p) :
    (Stage.called pc).shows = true ∧ (Stage.expired pc).shows = true := by
  cases pc <;> first | exact ⟨rfl, rfl⟩ | cases h

theorem appReq_free {uid : UInt32} : (ClearPc.free.entry uid id).appReq = some id := rfl

end ClearPc

/-- The receive thread clears an entry. -/
theorem Inv.clearRx (h : Inv s g) {pc : ClearPc} (hpc : s.rx = .clear i pc)
    (hcareful : pc = .free → ∀ id ∈ (s.async i).appReq, s.Released id) :
    ∃ g', Inv ((clearAsyncRespCallback i s pc).1.setRx
      ((clearAsyncRespCallback i s pc).2.elim .idle (.clear i))) g' := by
  obtain ⟨id, hslot, hat⟩ := h.of_entry (i := i) (x := some pc) (congrArg RxPc.entry hpc)
  replace hslot : g.slot id = some (i, .called pc) := hslot
  have hlegal := h.legal id
  obtain ⟨⟨r, hr, hcb⟩, htold, htask, -, hfreed, htimer⟩ := hlegal.slot hslot
  have hentry : s.async i = pc.entry (s.uids id) id := h.frame.async hslot
  have hreq : s.reqs[id]? ≠ none := Option.ne_none_iff_exists'.2 ⟨r, hr⟩
  rw [clearAsyncRespCallback_eq hentry (hlegal.uid_of_slot hslot) hreq hfreed htimer (.inl rfl)]
  have hmono : s.freed id = true → pc.next.elim true (·.freed) = true := fun htrue =>
    ClearPc.freed_next (hfreed.symm.trans htrue)
  have hreleased : pc.next.elim true (·.freed) = true →
      (view s g id).freed = true ∨ (view s g id).tx = none := by
    intro htrue
    rcases ClearPc.next_freed htrue with htrue | rfl
    · exact .inl (hfreed.trans htrue)
    · exact .inr (if_neg (hcareful rfl id (hentry ▸ ClearPc.appReq_free)).2)
  have hold : ∀ {j x}, s.rx.entry = some (j, x) → j = i := by
    rw [hpc]
    rintro _ _ ⟨⟩
    rfl
  cases hnext : pc.next with
  | none =>
    rw [hnext] at hmono hreleased
    change ∃ g', Inv ((s.setRx .idle).clearing i id {} .deleted true) g'
    have hidle : Frame (s.setRx .idle) g := h.frame.setRx nofun nofun
    have hframe := hidle.clearing {} .deleted true none hslot
      (fun _ => rfl) (.inl ⟨rfl, rfl⟩) (fun _ _ => nofun) (.inl rfl)
    refine ⟨_, h.of_view id hframe (fun {k} hk => ?_) ?_⟩
    · rw [view_setSlot_of_ne _ hk, view_clearing_of_ne _ _ _ hk]
      exact h.view_setRx_of_ne hslot hold nofun hk
    · rw [view_setSlot, view_clearing]
      refine hlegal.moveSlot _ none hslot nofun hreleased nofun (fun _ => rfl) ?_ ?_ nofun
      · exact fun hsome => absurd (htask.symm.trans hsome) nofun
      · exact fun _ => .inl htold
  | some p =>
    rw [hnext] at hmono hreleased
    change ∃ g', Inv ((s.setRx (.clear i p)).clearing i id (p.entry (s.uids id) id)
      (p.timerOf .running) p.freed) g'
    have hclear : Frame (s.setRx (.clear i p)) g := by
      refine h.frame.setRx ?_ nofun
      rintro _ _ ⟨⟩
      exact ⟨id, _, hslot⟩
    have hframe := hclear.clearing (p.entry (s.uids id) id) (p.timerOf .running)
      p.freed (some (i, .called p)) hslot hmono (.inr ⟨.called p, rfl, rfl⟩) nofun
      (.inr (ClearPc.shows_of_next hnext).1)
    refine ⟨_, h.of_view id hframe (fun {k} hk => ?_) ?_⟩
    · rw [view_setSlot_of_ne _ hk, view_clearing_of_ne _ _ _ hk]
      exact h.view_setRx_of_ne hslot hold (by rintro _ _ ⟨⟩; rfl) hk
    · rw [view_setSlot, view_clearing]
      change Legal id { view s g id with
        timer := _, freed := _, slot := _, rx := (RxPc.clear i p).at (some (i, .called p)) }
      rw [RxPc.at_self rfl]
      refine hlegal.moveSlot _ (some (some p)) hslot nofun hreleased ?_ nofun ?_ ?_ ?_
      · rintro _ _ ⟨⟩
        exact ⟨rfl, nofun, htold, htask, rfl, rfl, rfl⟩
      · exact fun hsome => absurd (htask.symm.trans hsome) nofun
      · exact fun _ => .inl htold
      · rintro _ ⟨⟩
        exact ⟨i, rfl⟩

theorem Inv.rxStep (h : Inv s g) (hcareful : RxCareful s s.rx) (hs : rxStep s = some s') :
    ∃ g', Inv s' g' := by
  unfold RpcCore.rxStep at hs
  cases hpc : s.rx with
  | idle =>
    rw [hpc] at hs
    cases hs
  | avail resp n =>
    rw [hpc] at hs
    cases hs
    have hold : s.rx.entry = none := congrArg RxPc.entry hpc
    split
    · exact ⟨g, h.setRx hold rfl nofun⟩
    · exact ⟨g, h.setRx hold rfl nofun⟩
    · exact ⟨g, h.setRx hold rfl (by rintro _ ⟨⟩; trivial)⟩
  | find resp n =>
    rw [hpc] at hs hcareful
    cases hs
    have hold : s.rx.entry = none := congrArg RxPc.entry hpc
    rcases turn_cases (fun i => (s.async i).uid = resp.uid) n with ⟨hn, hp, hturn⟩ |
      ⟨-, -, hturn⟩ | ⟨-, hturn⟩ <;> rw [hturn]
    · obtain ⟨id, happ, htimer⟩ := hcareful ⟨n, hn⟩ rfl (of_decide_eq_true hp)
      exact ⟨g, h.find hpc happ htimer⟩
    · exact ⟨g, h.setRx hold rfl nofun⟩
    · exact ⟨g, h.setRx hold rfl nofun⟩
  | call resp i =>
    rw [hpc] at hs
    obtain ⟨id, hcb, hcall⟩ := h.call hpc
    simp only [hcb, Option.some_inj] at hs
    subst hs
    exact ⟨_, hcall⟩
  | clear i pc =>
    rw [hpc] at hs hcareful
    cases hs
    refine h.clearRx hpc ?_
    rintro rfl
    exact hcareful
  | post pc =>
    rw [hpc] at hs hcareful
    obtain ⟨⟨t, next⟩, hpost, rfl⟩ := Option.map_eq_some_iff.1 hs
    have hok : pc.Ok s g := h.frame.rxPost (congrArg RxPc.posting hpc)
    obtain ⟨ht, hnext, -, hrx⟩ := h.postSyncResp hok hcareful hpost
    have hold : t.rx.entry = none := congrArg RxPc.entry (hrx.trans hpc)
    cases next with
    | none => exact ⟨g, ht.setRx hold rfl nofun⟩
    | some pc' =>
      refine ⟨g, ?_⟩
      change Inv (t.setRx (.post pc')) g
      refine ht.setRx hold rfl ?_
      rintro _ ⟨⟩
      exact hnext pc' rfl

/-! ## The timers -/

theorem view_setTask_of_task {old pc : TimerPc c} (hold : s.timer = old) (hid : old.req = some id)
    (hreq : pc.req = some id) (hk : k ≠ id) : view (s.setTask pc) g k = view s g k := by
  refine view_setTask_of_ne ?_ ?_
  · rw [hold, hid]
    exact fun heq => hk (Option.some_inj.1 heq).symm
  · rw [hreq]
    exact fun heq => hk (Option.some_inj.1 heq).symm

theorem Inv.taskView (h : Inv s g) {pc : TimerPc c} (hpc : s.timer = pc) (hreq : pc.req = some id) :
    (view s g id).task = some pc ∧ (view s g id).Async ∧ pc.Ok (view s g id) := by
  have htask : (view s g id).task = some pc := by
    subst hpc
    exact if_pos hreq
  exact ⟨htask, ((h.legal id).task htask).2⟩

/-- A timer expires while its request is in the table and the receive thread is elsewhere. -/
theorem Inv.expire (h : Inv s g) (hidle : s.timer = .idle)
    (happ : (s.async i).appReq = some id) (hrx : ∀ p ∈ s.rx.entry, p.1 ≠ i) :
    Inv ((s.setTimer id .expired).setTask (.expired id)) g := by
  obtain ⟨st, hslot⟩ := h.frame.slot_of_appReq happ
  have hlegal := h.legal id
  obtain ⟨hasync, hok⟩ := hlegal.slot hslot
  have hnone : (view s g id).rx = none := by
    change s.rx.at (g.slot id) = none
    rw [hslot]
    exact RxPc.at_of_entry fun x hx => hrx _ hx rfl
  have htask : (view s g id).task = none := by
    refine if_neg ?_
    rw [hidle]
    exact nofun
  rw [h.frame.async hslot] at happ
  obtain rfl : st = .entered := by
    rcases Stage.cases_of_appReq happ with rfl | ⟨pc, rfl⟩ | ⟨pc, rfl⟩
    · rfl
    · exact absurd (hnone.symm.trans hok.2.2.1) nofun
    · obtain ⟨resp, hresp⟩ := hok.2.1
      exact absurd (htask.symm.trans hresp) nofun
  refine h.of_view id ((h.frame.setTimer .expired).setTask (.expired id)) (fun {k} hk => ?_) ?_
  · rw [view_setTask_of_ne, view_setTimer_of_ne _ hk]
    · rw [show (s.setTimer id .expired).timer = s.timer from rfl, hidle]
      exact nofun
    · exact fun heq => hk (Option.some_inj.1 heq).symm
  · rw [view_setTask rfl, view_setTimer]
    refine hlegal.moveSlot (some (.expired id)) _ hslot nofun .inl ?_ ?_ ?_ ?_ hlegal.rx
    · intro j st' hj
      obtain ⟨rfl, rfl⟩ := Prod.mk.inj (Option.some_inj.1 (hj.symm.trans hslot))
      exact ⟨rfl, nofun, hok.1, hok.2.1, .inr ⟨rfl, .inl rfl, hnone⟩⟩
    · exact fun hgone => absurd (hslot.symm.trans hgone) nofun
    · rintro _ ⟨⟩
      exact ⟨rfl, i, hslot⟩
    · exact fun hgone => absurd (hok.1.symm.trans hgone) nofun

/-- What the task of the timers knows of the entry that it looks for. -/
theorem Inv.sought (h : Inv s g) {pc : TimerPc c} (hpc : s.timer = pc) (hreq : pc.req = some id)
    (hslot : g.slot id = some (i, .entered)) : (view s g id).freed = false ∧
      (view s g id).told = false ∧ s.timers id = .expired ∧ (view s g id).Sought id i ∧
      (view s g id).rx = none := by
  obtain ⟨htask, -⟩ := h.taskView hpc hreq
  obtain ⟨-, hfreed, htold, ⟨-, hnone, -⟩ | hexpired⟩ := (h.legal id).slot hslot
  · exact absurd (hnone.symm.trans htask) nofun
  · exact ⟨hfreed, htold, hexpired⟩

/-- The task of the timers moves on to the entry. -/
theorem Inv.seek (h : Inv s g) {old pc : TimerPc c} (hpc : s.timer = old) (hold : old.req = some id)
    (hreq : pc.req = some id) (hslot : g.slot id = some (i, .entered))
    (hsought : View.Sought { view s g id with task := some pc } id i)
    (hok : pc.Ok { view s g id with task := some pc }) : Inv (s.setTask pc) g := by
  obtain ⟨hfreed, htold, hexpired, -, hrx⟩ := h.sought hpc hold hslot
  refine h.of_view id (h.frame.setTask pc) (fun hk => view_setTask_of_task hpc hold hreq hk) ?_
  rw [view_setTask hreq]
  have hlegal := h.legal id
  refine hlegal.moveSlot (some pc) _ hslot nofun .inl ?_ ?_ ?_ ?_ hlegal.rx
  · intro j st' hj
    obtain ⟨rfl, rfl⟩ := Prod.mk.inj (Option.some_inj.1 (hj.symm.trans hslot))
    exact ⟨rfl, nofun, hfreed, htold, .inr ⟨hexpired, hsought, hrx⟩⟩
  · exact fun hgone => absurd (hslot.symm.trans hgone) nofun
  · rintro _ ⟨⟩
    exact ⟨hreq, hok⟩
  · exact fun hgone => absurd (hfreed.symm.trans hgone) nofun

/-- It is at the entry. -/
theorem Inv.reach (h : Inv s g) {uid : UInt32} {resp : Resp} {n : Nat}
    (hpc : s.timer = .find id uid resp n) (hslot : g.slot id = some (i, .entered)) :
    Inv (s.setTask (.clear id resp i .test)) (g.setSlot id (some (i, .expired .test))) := by
  obtain ⟨hfreed, htold, hexpired, -, hrx⟩ := h.sought hpc rfl hslot
  have hentry : s.async i = Stage.entered.entry (s.uids id) id := h.frame.async hslot
  have hframe := (h.frame.setTask (.clear id resp i .test)).setAsync id i (s.async i)
    (some (i, .expired .test))
    (fun hsome => (Prod.mk.inj (Option.some_inj.1 (hsome.symm.trans hslot))).1)
    (fun hk => h.frame.slots hk hslot) (.inr ⟨_, rfl, hentry⟩) nofun
    fun _ _ => .inr ⟨i, _, hslot, rfl⟩
  rw [show (s.setTask (.clear id resp i .test)).setAsync i (s.async i) = _ from setAsync_self]
    at hframe
  refine h.of_view id hframe (fun {k} hk => ?_) ?_
  · rw [view_setSlot_of_ne _ hk]
    exact view_setTask_of_task hpc rfl rfl hk
  · have hnone : s.rx.at (some (i, .expired .test)) = none := by
      rw [RxPc.at_congr _ .entered, ← hslot]
      exact hrx
    rw [view_setSlot, view_setTask rfl]
    have hlegal := h.legal id
    refine hlegal.moveSlot (some (.clear id resp i .test)) _ hslot nofun .inl ?_ nofun ?_ ?_ ?_
    · rintro _ _ ⟨⟩
      exact ⟨rfl, nofun, htold, ⟨resp, rfl⟩, hnone, hfreed, hexpired⟩
    · rintro _ ⟨⟩
      exact ⟨rfl, rfl⟩
    · exact fun hgone => absurd (hfreed.symm.trans hgone) nofun
    · exact fun hx => absurd (hnone.symm.trans hx) nofun

/-- The task of the timers clears an entry. -/
theorem Inv.clearTimer (h : Inv s g) {pc : ClearPc} {resp : Resp}
    (hpc : s.timer = .clear id resp i pc)
    (hcareful : pc = .free → ∀ id ∈ (s.async i).appReq, s.Released id) :
    ∃ g', Inv ((clearAsyncRespCallback i s pc).1.setTask
      ((clearAsyncRespCallback i s pc).2.elim (.call id resp) (.clear id resp i))) g' := by
  obtain ⟨htask, ⟨r, hr, hcb⟩, hslot⟩ := h.taskView hpc rfl
  replace hslot : g.slot id = some (i, .expired pc) := hslot
  have hlegal := h.legal id
  obtain ⟨-, htold, -, hrx, hfreed, htimer⟩ := hlegal.slot hslot
  have hentry : s.async i = pc.entry (s.uids id) id := h.frame.async hslot
  have hreq : s.reqs[id]? ≠ none := Option.ne_none_iff_exists'.2 ⟨r, hr⟩
  rw [clearAsyncRespCallback_eq hentry (hlegal.uid_of_slot hslot) hreq hfreed htimer (.inr rfl)]
  have hmono : s.freed id = true → pc.next.elim true (·.freed) = true := fun htrue =>
    ClearPc.freed_next (hfreed.symm.trans htrue)
  have hreleased : pc.next.elim true (·.freed) = true →
      (view s g id).freed = true ∨ (view s g id).tx = none := by
    intro htrue
    rcases ClearPc.next_freed htrue with htrue | rfl
    · exact .inl (hfreed.trans htrue)
    · exact .inr (if_neg (hcareful rfl id (hentry ▸ ClearPc.appReq_free)).2)
  have hnowhere : ∀ x, s.rx.entry ≠ some (i, x) := by
    intro x hx
    have hat : s.rx.at (g.slot id) = some x := by
      rw [hslot]
      exact RxPc.at_self hx
    exact absurd (hrx.symm.trans hat) nofun
  cases hnext : pc.next with
  | none =>
    rw [hnext] at hmono hreleased
    change ∃ g', Inv ((s.setTask (.call id resp)).clearing i id {} .deleted true) g'
    have hframe := (h.frame.setTask (.call id resp)).clearing {} .deleted true none hslot
      (fun _ => rfl) (.inl ⟨rfl, rfl⟩) (fun _ => hnowhere) (.inl rfl)
    refine ⟨_, h.of_view id hframe (fun {k} hk => ?_) ?_⟩
    · rw [view_setSlot_of_ne _ hk, view_clearing_of_ne _ _ _ hk]
      exact view_setTask_of_task hpc rfl rfl hk
    · rw [view_setSlot, view_clearing, view_setTask rfl]
      refine hlegal.moveSlot (some (.call id resp)) _ hslot nofun hreleased nofun
        (fun _ => rfl) ?_ ?_ nofun
      · rintro _ ⟨⟩
        exact ⟨rfl, rfl, htold, rfl⟩
      · exact fun _ => .inr nofun
  | some p =>
    rw [hnext] at hmono hreleased
    change ∃ g', Inv ((s.setTask (.clear id resp i p)).clearing i id (p.entry (s.uids id) id)
      (p.timerOf .expired) p.freed) g'
    have hframe := (h.frame.setTask (.clear id resp i p)).clearing (p.entry (s.uids id) id)
      (p.timerOf .expired) p.freed (some (i, .expired p)) hslot hmono
      (.inr ⟨.expired p, rfl, rfl⟩) nofun (.inr (ClearPc.shows_of_next hnext).2)
    refine ⟨_, h.of_view id hframe (fun {k} hk => ?_) ?_⟩
    · rw [view_setSlot_of_ne _ hk, view_clearing_of_ne _ _ _ hk]
      exact view_setTask_of_task hpc rfl rfl hk
    · have hnone : s.rx.at (some (i, .expired p)) = none := RxPc.at_of_entry hnowhere
      rw [view_setSlot, view_clearing, view_setTask rfl]
      refine hlegal.moveSlot (some (.clear id resp i p)) _ hslot nofun hreleased ?_ nofun
        ?_ ?_ ?_
      · rintro _ _ ⟨⟩
        exact ⟨rfl, nofun, htold, ⟨resp, rfl⟩, hnone, rfl, rfl⟩
      · rintro _ ⟨⟩
        exact ⟨rfl, rfl⟩
      · exact fun _ => .inr nofun
      · exact fun hx => absurd (hnone.symm.trans hx) nofun

/-- The callback of a request that has timed out is called. -/
theorem Inv.callTimer (h : Inv s g) {resp : Resp} (hpc : s.timer = .call id resp) :
    Inv ((s.call id resp).setTask .idle) g := by
  obtain ⟨htask, hasync, hfreed, htold, hslot⟩ := h.taskView hpc rfl
  refine h.of_view id ((h.frame.call (of_decide_eq_false htold)).setTask .idle)
    (fun {k} hk => ?_) ?_
  · rw [view_setTask_of_ne, view_call_of_ne _ hk]
    · rw [show (s.call id resp).timer = s.timer from rfl, hpc]
      exact fun heq => hk (Option.some_inj.1 heq).symm
    · exact nofun
  · rw [view_setTask_idle, view_call]
    have hlegal := h.legal id
    have hlive : ¬(view s g id).Live := fun hlive => absurd (hlive.2.symm.trans hfreed) nofun
    obtain ⟨r, hr, -⟩ := hasync
    have hreq : (view s g id).req ≠ none := Option.ne_none_iff_exists'.2 ⟨r, hr⟩
    exact { hlegal with
      caller := hlegal.known hreq fun hfresh => hlive hfresh.1
      queued := fun hq => absurd (hlegal.queued hq).1 hlive
      tx := fun htx => absurd (hlegal.tx htx).2.1 hlive
      slot := fun hsome => absurd (hslot.symm.trans hsome) nofun
      task := nofun
      kept := fun hlive' => absurd hlive' hlive
      answered := fun _ _ => .inl rfl
      told := fun _ => (h.taskView hpc rfl).2.1 }

theorem Inv.rpcAsyncTimeoutHandler (h : Inv s g) {calloc : Bool}
    (hcareful : TimerCareful s calloc s.timer) (hs : rpcAsyncTimeoutHandler calloc s = some s') :
    ∃ g', Inv s' g' := by
  unfold RpcCore.rpcAsyncTimeoutHandler at hs
  cases hpc : s.timer with
  | idle =>
    rw [hpc] at hs
    cases hs
  | expired id =>
    rw [hpc] at hs hcareful
    obtain ⟨-, ⟨r, hr, hcb⟩, i, hslot⟩ := h.taskView hpc rfl
    obtain ⟨hfreed, -⟩ := h.sought hpc rfl hslot
    have hlive : (view s g id).Live := ⟨Option.ne_none_iff_exists'.2 ⟨r, hr⟩, hfreed⟩
    obtain ⟨q, hq, heq⟩ := hlive.withReq fun r => s.setTask <|
      if r.cb = false ∨ calloc = false then .idle
      else .find id (s.uids id) ⟨expRespMsgId r.msgId, 0, .requestTimeout⟩ 0
    simp only [heq, Option.some_inj] at hs
    subst hs
    have hgo : ¬(q.cb = false ∨ calloc = false) := by
      rw [show q.cb = true from View.Async.cb ⟨r, hr, hcb⟩ hq, show calloc = true from hcareful]
      decide
    rw [if_neg hgo]
    exact ⟨g, h.seek hpc rfl rfl hslot (.inr ⟨_, 0, rfl, Nat.zero_le _⟩) ⟨i, hslot⟩⟩
  | find id uid resp n =>
    rw [hpc] at hs
    obtain ⟨htask, hasync, i, hslot⟩ := h.taskView hpc rfl
    obtain ⟨-, -, -, hsought, -⟩ := h.sought hpc rfl hslot
    obtain ⟨rfl, hle⟩ : uid = s.uids id ∧ n ≤ i.val := by
      rcases hsought with hsome | ⟨_, _, hsome, hle⟩
      · exact absurd (htask.symm.trans hsome) nofun
      · cases htask.symm.trans hsome
        exact ⟨rfl, hle⟩
    cases hs
    have huid : ∀ j, (s.async j).uid = s.uids id ↔ j = i := fun j => h.async_uid_iff hslot rfl
    rcases turn_cases (fun i => (s.async i).uid = s.uids id) n with ⟨hn, hp, hturn⟩ |
      ⟨hn, hp, hturn⟩ | ⟨hn, hturn⟩ <;> rw [hturn]
    · obtain rfl := (huid _).1 (of_decide_eq_true hp)
      exact ⟨_, h.reach hpc hslot⟩
    · have hne : n ≠ i.val := fun heq => of_decide_eq_false hp ((huid _).2 (Fin.ext heq))
      exact ⟨g, h.seek hpc rfl rfl hslot
        (.inr ⟨_, n + 1, rfl, Nat.lt_of_le_of_ne hle hne⟩) ⟨i, hslot⟩⟩
    · exact absurd (Nat.le_trans hn hle) (Nat.not_le.2 i.isLt)
  | clear id resp i pc =>
    rw [hpc] at hs hcareful
    cases hs
    refine h.clearTimer hpc ?_
    rintro rfl
    exact hcareful
  | call id resp =>
    rw [hpc] at hs
    cases hs
    exact ⟨g, h.callTimer hpc⟩

end EspHostedOpen.RpcCore
