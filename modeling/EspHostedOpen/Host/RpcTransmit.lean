import EspHostedOpen.Host.RpcCallers

/-!
# The transmit thread keeps the invariant (`rpc_core.c`)

It has a request from the queue until it has sent it or failed. A synchronous one stays its
caller's; an asynchronous one gets a timer and an entry of `async_rsp_table` on the way, or is freed
here where it has failed before.
-/

namespace EspHostedOpen.RpcCore

open Transition

variable {c : Config} {s s' : State c} {g g' : Ghost c} {id : ReqId} {v v' : View c}

/-! ## A response on its way to a caller -/

namespace Legal

theorem sem_of_place (h : Legal id v) {i : Fin c.sync} {pl : Place}
    (hplace : v.place = some (i, pl)) {b : Bool} (hsem : v.sem = .made b) (hpl : pl ≠ .entered) :
    pl = .full := by
  cases pl with
  | entered => exact absurd rfl hpl
  | full => rfl
  | cleared =>
    obtain ⟨ok, hpc⟩ := (h.of_place hplace).2.2 rfl
    have hcaller := h.caller
    rw [hpc] at hcaller
    exact absurd (hsem.symm.trans hcaller.2.2.2) nofun

/-- The semaphore of an entry is there, unless its caller has destroyed it. -/
theorem made_of_place (h : Legal id v) {i : Fin c.sync} {pl : Place}
    (hplace : v.place = some (i, pl)) (hdestroyed : v.sem ≠ .destroyed) : ∃ b, v.sem = .made b := by
  have hcaller := h.caller
  cases hpc : v.caller with
  | idle =>
    rw [hpc] at hcaller
    change v = {} at hcaller
    rw [hcaller] at hplace
    cases hplace
  | sending pc =>
    rw [hpc] at hcaller
    obtain ⟨-, hok⟩ := hcaller
    cases pc with
    | load | store | test | read => exact absurd (hok.2.1.symm.trans hplace) nofun
    | create | fail => exact absurd (hok.2.2.symm.trans hplace) nofun
    | search | enter | entered => exact ⟨false, hok.2.1⟩
    | queue =>
      rcases hok with ⟨-, j, -, hb⟩ | ⟨-, hnone⟩
      · exact hb
      · exact absurd (hnone.symm.trans hplace) nofun
  | waiting pc =>
    rw [hpc] at hcaller
    obtain ⟨-, -, hok⟩ := hcaller
    cases pc with
    | find =>
      obtain ⟨j, -, -, hb⟩ := hok
      exact hb
    | get | destroy => exact hok.2
    | wait => exact hok.2.2
    | clear | cleared => exact absurd hok.2 hdestroyed
  | take | free =>
    rw [hpc] at hcaller
    exact absurd (hcaller.2.2.2.symm.trans hplace) nofun
  | returned =>
    rw [hpc] at hcaller
    exact absurd (hcaller.2.1.symm.trans hplace) nofun

/-- A semaphore is posted. -/
theorem give (h : Legal id v) {i : Fin c.sync} (hplace : v.place = some (i, .full)) {b : Bool}
    (hsem : v.sem = .made b) : Legal id { v with sem := .made true } := by
  refine { h with caller := ?_ }
  have hcaller := h.caller
  change v.caller.Ok { v with sem := .made true } id
  cases hpc : v.caller with
  | idle =>
    rw [hpc] at hcaller
    change v = {} at hcaller
    rw [hcaller] at hplace
    cases hplace
  | sending pc =>
    rw [hpc] at hcaller
    obtain ⟨hfresh, hok⟩ := hcaller
    refine ⟨hfresh, ?_⟩
    cases pc with
    | load | store | test | read => exact absurd (hok.2.1.symm.trans hplace) nofun
    | create | search | enter | entered | fail => exact absurd (hok.2.2.symm.trans hplace) nofun
    | queue =>
      rcases hok with ⟨hsync, j, hj, -⟩ | ⟨-, hnone⟩
      · exact .inl ⟨hsync, j, hj, true, rfl⟩
      · exact absurd (hnone.symm.trans hplace) nofun
  | waiting pc =>
    rw [hpc] at hcaller
    obtain ⟨hlive, hsync, hok⟩ := hcaller
    refine ⟨hlive, hsync, ?_⟩
    cases pc with
    | find =>
      obtain ⟨j, hle, hj, -⟩ := hok
      exact ⟨j, hle, hj, true, rfl⟩
    | get | destroy => exact ⟨hok.1, true, rfl⟩
    | wait => exact ⟨hok.1, hok.2.1, true, rfl⟩
    | clear | cleared => exact absurd (hsem.symm.trans hok.2) nofun
  | take | free =>
    rw [hpc] at hcaller
    exact absurd (hsem.symm.trans hcaller.2.2.1) nofun
  | returned =>
    rw [hpc] at hcaller
    exact absurd (hcaller.2.1.symm.trans hplace) nofun

end Legal

/-- A step with a response that goes to a caller. -/
theorem Inv.postSyncResp (h : Inv s g) {pc : PostPc c} {next : Option (PostPc c)}
    (hok : pc.Ok s g) (hpost : s.Postable pc) (hs : postSyncResp s pc = some (s', next)) :
    Inv s' g ∧ (∀ p ∈ next, p.Ok s' g) ∧ s'.tx = s.tx ∧ s'.rx = s.rx := by
  cases pc with
  | put resp =>
    simp only [RpcCore.postSyncResp] at hs
    split at hs
    · cases hs
      refine ⟨⟨{ h.frame with ok := h.frame.ok }, h.legal⟩, ?_, rfl, rfl⟩
      rintro p ⟨⟩
      trivial
    · cases hs
  | avail resp i =>
    cases hs
    refine ⟨h, ?_, rfl, rfl⟩
    intro p hp
    split at hp
    · split at hp
      · cases hp
        trivial
      · cases hp
    · cases hp
      trivial
    · cases hp
  | post resp i =>
    cases hs
    refine ⟨h, ?_, rfl, rfl⟩
    intro p hp
    rcases turn_cases (fun i => (s.sync i).uid = resp.uid) i with ⟨hi, hfound, hturn⟩ |
      ⟨-, -, hturn⟩ | ⟨-, hturn⟩ <;> rw [hturn] at hp <;> cases hp
    · intro sem hsem
      obtain ⟨pl, hplace⟩ := h.frame.place_of_sem hsem
      have hmade := hpost ⟨i, hi⟩ rfl (of_decide_eq_true hfound) sem hsem
      exact (h.legal sem).made_of_place hplace hmade
    · trivial
  | sem i =>
    cases hs
    refine ⟨h, ?_, rfl, rfl⟩
    intro p hp
    obtain ⟨sem, hsem, rfl⟩ := Option.map_eq_some_iff.1 hp
    obtain ⟨b, hmade⟩ := hok sem hsem
    obtain ⟨pl, hplace⟩ := h.frame.place_of_sem hsem
    refine ⟨⟨i, ?_⟩, b, hmade⟩
    rw [hplace, (h.legal sem).sem_of_place hplace hmade]
    rintro rfl
    rw [h.frame.sync hplace] at hsem
    cases hsem
  | give sem =>
    cases hs
    obtain ⟨⟨i, hplace⟩, b, hmade⟩ := hok
    have hgive : s.give sem = s.setSem sem (.made true) := by
      rw [State.give, hmade]
    rw [hgive]
    have hframe := h.frame.setSem sem (.made true) (.inl ⟨true, rfl⟩)
    refine ⟨h.of_view sem hframe (fun hk => view_setSem_of_ne _ hk) ?_, nofun, rfl, rfl⟩
    rw [view_setSem]
    exact (h.legal sem).give hplace hmade

/-! ## Moves of the transmit thread -/

/-- The transmit thread need not look at a stage that is not its own. -/
theorem Stage.Ok.setTx {st : Stage} {i : Fin c.async} (h : st.Ok v id i)
    (hst : ∀ f, st ≠ .entering f) (tx : Option (TxPc c)) : st.Ok { v with tx := tx } id i := by
  cases st with
  | entering f => exact absurd rfl (hst f)
  | entered => exact h
  | called => exact h
  | expired => exact h

namespace Legal

theorem active_of_sync (h : Legal id v) (hlive : v.Live) (hsync : v.Sync) :
    v.caller.active = true := by
  have hcaller := h.caller
  cases hpc : v.caller with
  | idle =>
    rw [hpc] at hcaller
    change v = {} at hcaller
    exact absurd (congrArg View.req hcaller) hlive.1
  | sending | waiting | take | free => rfl
  | returned =>
    rw [hpc] at hcaller
    exact absurd (hcaller.2.2 hlive.2) hsync.not_async

/-- Once somebody else knows of the request, its caller looks only at its own. -/
theorem known (h : Legal id v) (hreq : v.req ≠ none) (hfresh : ¬v.Fresh) {told queued : Bool}
    {timer : Timer} {tx : Option (TxPc c)} {task : Option (TimerPc c)}
    {rx : Option (Option ClearPc)} {slot : Option (Fin c.async × Stage)} :
    v.caller.Ok { v with
      told := told, queued := queued, timer := timer, tx := tx, task := task, rx := rx,
      slot := slot } id := by
  have hcaller := h.caller
  cases hpc : v.caller with
  | idle =>
    rw [hpc] at hcaller
    change v = {} at hcaller
    exact absurd (congrArg View.req hcaller) hreq
  | sending =>
    rw [hpc] at hcaller
    exact absurd hcaller.1 hfresh
  | waiting | take | free | returned =>
    rw [hpc] at hcaller
    exact hcaller

/-- The caller of an asynchronous request that somebody else knows of has returned. -/
theorem returned (h : Legal id v) (hasync : v.Async) (hfresh : ¬v.Fresh) :
    ∃ answer, v.caller = .returned answer := by
  have hcaller := h.caller
  cases hpc : v.caller with
  | idle =>
    rw [hpc] at hcaller
    change v = {} at hcaller
    obtain ⟨r, hr, -⟩ := hasync
    exact absurd ((congrArg View.req hcaller).symm.trans hr) nofun
  | sending =>
    rw [hpc] at hcaller
    exact absurd hcaller.1 hfresh
  | waiting | take | free =>
    rw [hpc] at hcaller
    exact absurd hasync hcaller.2.1.not_async
  | returned answer => exact ⟨answer, rfl⟩

theorem stage_of_tx (h : Legal id v) {pc : TxPc c} (htx : v.tx = some pc)
    (henter : ∀ i f, pc ≠ .enter id i f) {i : Fin c.async} {st : Stage}
    (hslot : v.slot = some (i, st)) : ∀ f, st ≠ .entering f := by
  rintro f rfl
  exact henter i f (Option.some_inj.1 (htx.symm.trans (h.slot hslot).2))

/-- The transmit thread moves on with a request. -/
theorem moveTx (h : Legal id v) {old pc : TxPc c} (hold : v.tx = some old)
    (henter : ∀ i f, old ≠ .enter id i f) (hreq : pc.req = some id)
    (hok : pc.Ok { v with tx := some pc }) : Legal id { v with tx := some pc } :=
  { h with
    caller := h.known (h.tx hold).2.1.1 fun hfresh => nomatch hfresh.2.2.1.symm.trans hold
    queued := fun hq => absurd ((h.queued hq).2.1.symm.trans hold) nofun
    tx := by
      rintro _ ⟨⟩
      exact ⟨hreq, (h.tx hold).2.1, hok⟩
    slot := fun hslot => ⟨(h.slot hslot).1,
      (h.slot hslot).2.setTx (h.stage_of_tx hold henter hslot) _⟩
    kept := fun _ => .inr (.inr (.inl nofun)) }

/-- It has done with it. -/
theorem leaveTx (h : Legal id v) {old : TxPc c} (hold : v.tx = some old)
    (henter : ∀ i f, old ≠ .enter id i f)
    (hkept : v.Live → v.caller.active = true ∨ v.slot ≠ none) : Legal id { v with tx := none } :=
  { h with
    caller := h.known (h.tx hold).2.1.1 fun hfresh => nomatch hfresh.2.2.1.symm.trans hold
    queued := fun hq => absurd ((h.queued hq).2.1.symm.trans hold) nofun
    tx := nofun
    slot := fun hslot => ⟨(h.slot hslot).1,
      (h.slot hslot).2.setTx (h.stage_of_tx hold henter hslot) _⟩
    kept := fun hlive => (hkept hlive).imp_right fun hslot => .inr (.inr hslot) }

end Legal

theorem Inv.txView (h : Inv s g) {pc : TxPc c} (hpc : s.tx = pc) (hreq : pc.req = some id) :
    (view s g id).tx = some pc ∧ (view s g id).Live ∧ pc.Ok (view s g id) := by
  have htx : (view s g id).tx = some pc := by
    subst hpc
    exact if_pos hreq
  exact ⟨htx, ((h.legal id).tx htx).2⟩

theorem Inv.moveTx (h : Inv s g) {old pc : TxPc c} (hold : s.tx = old) (hid : old.req = some id)
    (henter : ∀ i f, old ≠ .enter id i f) (hreq : pc.req = some id)
    (hpost : ∀ {p}, pc.posting = some p → p.Ok s g)
    (hok : pc.Ok { view s g id with tx := some pc }) :
    Inv (s.setTx pc) g := by
  refine h.of_view id (h.frame.setTx pc hpost) (fun {k} hk => view_setTx_of_ne ?_ ?_) ?_
  · rw [hold, hid]
    exact fun heq => hk (Option.some_inj.1 heq).symm
  · rw [hreq]
    exact fun heq => hk (Option.some_inj.1 heq).symm
  · rw [view_setTx hreq]
    exact (h.legal id).moveTx (h.txView hold hid).1 henter hreq hok

theorem Inv.leaveTx (h : Inv s g) {old : TxPc c} (hold : s.tx = old) (hid : old.req = some id)
    (henter : ∀ i f, old ≠ .enter id i f)
    (hkept : (view s g id).caller.active = true ∨ (view s g id).slot ≠ none) :
    Inv (s.setTx .idle) g := by
  refine h.of_view id (h.frame.setTx .idle nofun) (fun {k} hk => view_setTx_of_ne ?_ nofun) ?_
  · rw [hold, hid]
    exact fun heq => hk (Option.some_inj.1 heq).symm
  · rw [view_setTx_idle]
    exact (h.legal id).leaveTx (h.txView hold hid).1 henter fun _ => hkept

/-! ## The transmit thread -/

/-- A request comes from the queue. -/
theorem Inv.pop (h : Inv s g) (htx : s.tx = .idle) {rest : List ReqId} (hq : s.txQ = id :: rest) :
    Inv ({ s with txQ := rest }.setTx (.got id)) g := by
  have hqueued : (view s g id).queued = true := by
    refine decide_eq_true ?_
    rw [hq]
    exact List.mem_cons_self
  obtain ⟨hlive, -, hearly⟩ := (h.legal id).queued hqueued
  refine h.of_view id ((h.frame.pop hq).setTx (.got id) nofun) (fun {k} hk => ?_) ?_
  · rw [view_setTx_of_ne, view_pop_of_ne hq hk]
    · rw [show ({ s with txQ := rest } : State c).tx = s.tx from rfl, htx]
      exact nofun
    · exact fun heq => hk (Option.some_inj.1 heq).symm
  · rw [view_setTx rfl, view_pop hq h.frame.nodup]
    have hlegal := h.legal id
    exact { hlegal with
      caller := hlegal.known hlive.1 fun hfresh => nomatch hfresh.2.1.symm.trans hqueued
      queued := nofun
      tx := by
        rintro _ ⟨⟩
        exact ⟨rfl, hlive, hearly⟩
      slot := fun hslot => absurd ((hearly (hlegal.slot hslot).1).1.symm.trans hslot) nofun
      kept := fun _ => .inr (.inr (.inl nofun)) }

/-- The timer of a request is started. -/
theorem Inv.start (h : Inv s g) (hpc : s.tx = .start id) :
    Inv ((s.setTimer id .running).setTx (.map id)) g := by
  obtain ⟨htx, hlive, hasync, hslot, -, htask, htold⟩ := h.txView hpc rfl
  refine h.of_view id ((h.frame.setTimer .running).setTx (.map id) nofun) (fun {k} hk => ?_) ?_
  · rw [view_setTx_of_ne, view_setTimer_of_ne _ hk]
    · rw [show (s.setTimer id .running).tx = s.tx from rfl, hpc]
      exact fun heq => hk (Option.some_inj.1 heq).symm
    · exact fun heq => hk (Option.some_inj.1 heq).symm
  · rw [view_setTx rfl, view_setTimer]
    have hlegal := h.legal id
    exact { hlegal with
      caller := hlegal.known hlive.1 fun hfresh => nomatch hfresh.2.2.1.symm.trans htx
      queued := fun hq => absurd ((hlegal.queued hq).2.1.symm.trans htx) nofun
      tx := by
        rintro _ ⟨⟩
        exact ⟨rfl, hlive, hasync, hslot, rfl, htask, htold⟩
      slot := fun hsome => absurd (hslot.symm.trans hsome) nofun
      task := fun hsome => absurd (htask.symm.trans hsome) nofun
      kept := fun _ => .inr (.inr (.inl nofun)) }

/-! ### Entries of `async_rsp_table` -/

theorem Legal.uid_of_slot (h : Legal id v) {i : Fin c.async} {st : Stage}
    (hslot : v.slot = some (i, st)) : v.uid ≠ 0 := by
  have hasync := (h.slot hslot).1
  obtain ⟨answer, hpc⟩ := h.returned hasync fun hfresh => nomatch hfresh.2.2.2.1.symm.trans hslot
  obtain ⟨r, hr, -⟩ := hasync
  exact h.uid_ne_zero (Option.ne_none_iff_exists'.2 ⟨r, hr⟩) (congrArg Caller.numbering hpc)

theorem Stage.uid_of_not_shows {st : Stage} {uid : UInt32} (h : st.shows = false) :
    (st.entry uid id).uid = 0 := by
  cases st with
  | entering f => cases f <;> first | rfl | cases h
  | entered => cases h
  | called pc => cases pc <;> first | rfl | cases h
  | expired pc => cases pc <;> first | rfl | cases h

/-- An entry with the uid of a request is its entry. -/
theorem Inv.slot_of_uid (h : Inv s g) (huses : g.Uses s id) (hzero : s.uids id ≠ 0)
    {i : Fin c.async} (huid : (s.async i).uid = s.uids id) : ∃ st, g.slot id = some (i, st) := by
  by_cases hroom : ∀ k st, g.slot k ≠ some (i, st)
  · rw [h.frame.vacant hroom] at huid
    exact absurd huid.symm hzero
  · simp only [ne_eq, not_forall, not_not] at hroom
    obtain ⟨k, st, hk⟩ := hroom
    rw [h.frame.async hk] at huid
    cases hshows : st.shows with
    | false =>
      rw [Stage.uid_of_not_shows hshows] at huid
      exact absurd huid.symm hzero
    | true =>
      rw [Stage.uid_entry hshows] at huid
      have hid : k = id := h.frame.uids (.inr ⟨i, st, hk, hshows⟩) huses huid (huid ▸ hzero)
      exact ⟨st, hid ▸ hk⟩

theorem Inv.async_uid_iff (h : Inv s g) {i j : Fin c.async} {st : Stage}
    (hslot : g.slot id = some (i, st)) (hshows : st.shows = true) :
    (s.async j).uid = s.uids id ↔ j = i := by
  constructor
  · intro huid
    obtain ⟨st', hst'⟩ := h.slot_of_uid (.inr ⟨i, st, hslot, hshows⟩)
      ((h.legal id).uid_of_slot hslot) huid
    exact (Prod.mk.inj (Option.some_inj.1 (hst'.symm.trans hslot))).1
  · rintro rfl
    rw [h.frame.async hslot, Stage.uid_entry hshows]

/-- An entry whose `uid` is 0, and that nobody is at, is free. -/
theorem Inv.vacant (h : Inv s g) {i : Fin c.async} (huid : (s.async i).uid = 0)
    (htx : ∀ {id f}, s.tx ≠ .enter id i f) (hrx : s.rx.entry ≠ some (i, some .cb))
    (htimer : s.timer.entry ≠ some (i, .cb)) : ∀ k st, g.slot k ≠ some (i, st) := by
  intro k st hk
  have hlegal := h.legal k
  have hst := (hlegal.slot hk).2
  cases hshows : st.shows with
  | true =>
    rw [h.frame.async hk, Stage.uid_entry hshows] at huid
    exact hlegal.uid_of_slot hk huid
  | false =>
    cases st with
    | entering f =>
      have hst : (if s.tx.req = some k then some s.tx else none) = some (.enter k i f) := hst
      split at hst
      · exact htx (Option.some_inj.1 hst)
      · cases hst
    | entered => cases hshows
    | called pc =>
      obtain ⟨-, -, hat, -⟩ := hst
      have hat : s.rx.at (g.slot k) = some (some pc) := hat
      rw [hk] at hat
      unfold RxPc.at at hat
      split at hat
      · next heq hentry =>
        split at hat
        · next hi =>
          cases hat
          obtain rfl : pc = .cb := by
            cases pc <;> first | rfl | cases hshows
          cases heq
          exact hrx (hi ▸ hentry)
        · cases hat
      · cases hat
    | expired pc =>
      obtain ⟨-, ⟨resp, htask⟩, -⟩ := hst
      have htask : (if s.timer.req = some k then some s.timer else none) =
        some (.clear k resp i pc) := htask
      split at htask
      · obtain rfl : pc = .cb := by
          cases pc <;> first | rfl | cases hshows
        rw [Option.some_inj.1 htask] at htimer
        exact htimer rfl
      · cases htask

/-- To the transmit thread, a request in the table is one in the table. -/
theorem TxPc.Ok.registered {pc : TxPc c} (h : pc.Ok v) (hasync : v.Async) {i : Fin c.async}
    {st st' : Stage} (hslot : v.slot = some (i, st)) (hst : ∀ f, st ≠ .entering f)
    (hst' : ∀ f, st' ≠ .entering f) (hreq : v'.req = v.req) (hslot' : v'.slot = some (i, st')) :
    pc.Ok v' := by
  have hasync' : v'.Async := by
    obtain ⟨r, hr, hcb⟩ := hasync
    exact ⟨r, hreq.trans hr, hcb⟩
  have hnot : v.slot ≠ none := by
    rw [hslot]
    exact nofun
  have hzero : v'.Registered 0 := ⟨i, st', hslot', Nat.zero_le _, hst'⟩
  cases pc with
  | idle => exact h
  | got => exact absurd (h hasync).1 hnot
  | start => exact absurd h.2.1 hnot
  | map => exact absurd h.2.1 hnot
  | search => exact absurd h.2.1 hnot
  | enter id j f =>
    obtain ⟨-, rfl⟩ := Prod.mk.inj (Option.some_inj.1 (hslot.symm.trans h.2.1))
    exact absurd rfl (hst f)
  | send => exact fun _ => hzero
  | sent => exact fun _ => hzero
  | fail id status =>
    intro _
    have hold := h hasync
    split at hold
    · rw [if_pos ‹_›]
      exact hzero
    · exact absurd hold.1 hnot
  | post => exact absurd hasync h.not_async
  | hook => exact fun _ => .inl hzero
  | check id n =>
    refine ⟨hasync', .inl ⟨i, st', hslot', ?_, hst'⟩⟩
    rcases h.2 with ⟨j, st'', hj, hle, -⟩ | hover
    · obtain ⟨rfl, -⟩ := Prod.mk.inj (Option.some_inj.1 (hj.symm.trans hslot))
      exact hle
    · exact absurd hover.1 hnot
  | release => exact absurd h.2.1 hnot

theorem RxPc.at_of_entry {pc : RxPc c} {i : Fin c.async} {st : Stage}
    (h : ∀ x, pc.entry ≠ some (i, x)) : pc.at (some (i, st)) = none := by
  unfold RxPc.at
  split
  · next hslot hentry =>
    cases hslot
    refine if_neg fun hi => ?_
    subst hi
    exact h _ hentry
  · rfl

/-- The receive thread is at the entry of nobody else. -/
theorem RxPc.at_congr {pc : RxPc c} {i : Fin c.async} (st st' : Stage) :
    pc.at (some (i, st)) = pc.at (some (i, st')) := by
  unfold RxPc.at
  cases pc.entry <;> rfl

theorem Inv.entry_of_rx (h : Inv s g) {i : Fin c.async} (hroom : ∀ k st, g.slot k ≠ some (i, st))
    (x : Option ClearPc) : s.rx.entry ≠ some (i, x) := by
  intro hentry
  obtain ⟨k, st, hk⟩ := h.frame.entry hentry
  exact hroom k st hk

theorem setAsync_self {i : Fin c.async} : s.setAsync i (s.async i) = s := by
  rw [State.setAsync, Function.update_eq_self]

theorem TxPc.ne_enter {pc : TxPc c} (h : s.tx = pc) (hpc : ∀ {id i f}, pc ≠ .enter id i f)
    {i : Fin c.async} {f : Field} : s.tx ≠ .enter id i f := by
  rw [h]
  exact hpc

/-- A request finds an entry. -/
theorem Inv.seize (h : Inv s g) {n : Nat} (hpc : s.tx = .search id n) {i : Fin c.async}
    (hroom : ∀ k st, g.slot k ≠ some (i, st)) :
    Inv (s.setTx (.enter id i .uid)) (g.setSlot id (some (i, .entering .uid))) := by
  obtain ⟨htx, hlive, hasync, hslot, htimer, htask, htold⟩ := h.txView hpc rfl
  have hrx := h.entry_of_rx hroom
  have hframe := (h.frame.setTx (.enter id i .uid) nofun).setAsync id i (s.async i)
    (some (i, .entering .uid))
    (fun hsome => absurd (hslot.symm.trans hsome) nofun) (fun {k st} hk => absurd hk (hroom k st))
    (.inr ⟨_, rfl, h.frame.vacant hroom⟩) nofun fun hst hshows => by
      cases hst
      cases hshows
  rw [show (s.setTx (.enter id i .uid)).setAsync i (s.async i) = s.setTx (.enter id i .uid) from
    setAsync_self] at hframe
  refine h.of_view id hframe (fun {k} hk => ?_) ?_
  · rw [view_setSlot_of_ne _ hk, view_setTx_of_ne]
    · rw [hpc]
      exact fun heq => hk (Option.some_inj.1 heq).symm
    · exact fun heq => hk (Option.some_inj.1 heq).symm
  · rw [view_setSlot, view_setTx rfl]
    have hlegal := h.legal id
    exact { hlegal with
      caller := hlegal.known hlive.1 fun hfresh => nomatch hfresh.2.2.1.symm.trans htx
      queued := fun hq => absurd ((hlegal.queued hq).2.1.symm.trans htx) nofun
      tx := by
        rintro _ ⟨⟩
        exact ⟨rfl, hlive, hasync, rfl, htimer, htask, htold⟩
      slot := by
        rintro _ _ ⟨⟩
        exact ⟨hasync, rfl⟩
      task := fun hsome => absurd (htask.symm.trans hsome) nofun
      kept := fun _ => .inr (.inr (.inl nofun))
      rx := fun hx => by
        change s.rx.at (some (i, .entering .uid)) = _ at hx
        rw [RxPc.at_of_entry hrx] at hx
        cases hx }

/-- A member of the entry is written. -/
theorem Inv.write (h : Inv s g) {i : Fin c.async} {f : Field} (hpc : s.tx = .enter id i f) :
    ∃ st, Inv ((s.setAsync i (f.write (s.uids id) id (s.async i))).setTx
      (f.next.elim (.send id) (.enter id i))) (g.setSlot id (some (i, st))) := by
  obtain ⟨htx, hlive, hasync, hslot, htimer, htask, htold⟩ := h.txView hpc rfl
  replace hslot : g.slot id = some (i, .entering f) := hslot
  have hlegal := h.legal id
  have hrx : s.rx.at (g.slot id) = none := by
    cases hx : s.rx.at (g.slot id) with
    | none => rfl
    | some x =>
      obtain ⟨j, hj⟩ := hlegal.rx hx
      have hst := (Prod.mk.inj (Option.some_inj.1 (hslot.symm.trans hj))).2
      cases x <;> cases hst
  let st : Stage := f.next.elim .entered .entering
  let pc : TxPc c := f.next.elim (.send id) (.enter id i)
  have hpcid : pc.req = some id := by
    cases f <;> rfl
  have hposting : pc.posting = none := by
    cases f <;> rfl
  have hentry : f.write (s.uids id) id (s.async i) = st.entry (s.uids id) id := by
    rw [h.frame.async hslot]
    cases f <;> rfl
  have hframe := (h.frame.setTx pc fun hp => absurd (hposting.symm.trans hp) nofun).setAsync
    id i (f.write (s.uids id) id (s.async i)) (some (i, st))
    (fun hsome => (Prod.mk.inj (Option.some_inj.1 (hsome.symm.trans hslot))).1)
    (fun hk => h.frame.slots hk hslot) (.inr ⟨st, rfl, hentry⟩) nofun fun _ _ => .inl (by
      obtain ⟨r, hr⟩ := live_iff.1 hlive
      exact Option.isSome_iff_exists.2 ⟨r, hr⟩)
  refine ⟨st, h.of_view id hframe (fun {k} hk => ?_) ?_⟩
  · rw [view_setSlot_of_ne _ hk]
    change view (s.setTx pc) g k = view s g k
    refine view_setTx_of_ne ?_ ?_
    · rw [hpc]
      exact fun heq => hk (Option.some_inj.1 heq).symm
    · rw [hpcid]
      exact fun heq => hk (Option.some_inj.1 heq).symm
  · rw [view_setSlot]
    change Legal id { view (s.setTx pc) g id with slot := _, rx := s.rx.at _ }
    rw [view_setTx hpcid]
    have hnone : s.rx.at (some (i, st)) = none := by
      rw [RxPc.at_congr st (.entering f), ← hslot, hrx]
    exact { hlegal with
      caller := hlegal.known hlive.1 fun hfresh => nomatch hfresh.2.2.1.symm.trans htx
      queued := fun hq => absurd ((hlegal.queued hq).2.1.symm.trans htx) nofun
      tx := by
        rintro _ ⟨⟩
        refine ⟨hpcid, hlive, ?_⟩
        cases f with
        | uid | cb | timerHdl => exact ⟨hasync, rfl, htimer, htask, htold⟩
        | appReq => exact fun _ => ⟨i, .entered, rfl, Nat.zero_le _, nofun⟩
      slot := by
        rintro _ _ ⟨⟩
        refine ⟨hasync, ?_⟩
        cases f with
        | uid | cb | timerHdl => rfl
        | appReq => exact ⟨hlive.2, htold, .inl ⟨htimer, htask, .inl hnone⟩⟩
      task := fun hsome => absurd (htask.symm.trans hsome) nofun
      kept := fun _ => .inr (.inr (.inl nofun))
      rx := fun hx => absurd (hnone.symm.trans hx) nofun }

/-- The callback is called for a request that has failed before it was registered. -/
theorem Inv.failCall (h : Inv s g) {status : Status} (hpc : s.tx = .fail id status)
    (hasync : (view s g id).Async) (hearly : (view s g id).Early) (resp : Resp) :
    Inv ((s.call id resp).setTx (.hook id)) g := by
  obtain ⟨htx, hlive, -⟩ := h.txView hpc rfl
  obtain ⟨hslot, htimer, htask, htold⟩ := hearly
  have hframe : Frame ((s.call id resp).setTx (.hook id)) g :=
    (h.frame.call (of_decide_eq_false htold)).setTx (.hook id) nofun
  refine h.of_view id hframe (fun {k} hk => ?_) ?_
  · rw [view_setTx_of_ne, view_call_of_ne _ hk]
    · rw [show (s.call id resp).tx = s.tx from rfl, hpc]
      exact fun heq => hk (Option.some_inj.1 heq).symm
    · exact fun heq => hk (Option.some_inj.1 heq).symm
  · rw [view_setTx rfl, view_call]
    have hlegal := h.legal id
    exact { hlegal with
      caller := hlegal.known hlive.1 fun hfresh => nomatch hfresh.2.2.1.symm.trans htx
      queued := fun hq => absurd ((hlegal.queued hq).2.1.symm.trans htx) nofun
      tx := by
        rintro _ ⟨⟩
        exact ⟨rfl, hlive, fun _ => .inr ⟨hslot, htimer, htask, rfl⟩⟩
      slot := fun hsome => absurd (hslot.symm.trans hsome) nofun
      task := fun hsome => absurd (htask.symm.trans hsome) nofun
      kept := fun _ => .inr (.inr (.inl nofun))
      answered := fun _ _ => .inl rfl
      told := fun _ => hasync }

/-- The transmit thread frees a request that is not in the table. -/
theorem Inv.release (h : Inv s g) (hpc : s.tx = .release id) : Inv ((s.free id).setTx .idle) g := by
  obtain ⟨htx, hlive, hasync, hslot, htimer, htask, htold⟩ := h.txView hpc rfl
  rw [hlive.free]
  refine h.of_view id ((h.frame.freed id true fun _ => rfl).setTx .idle nofun) (fun {k} hk => ?_) ?_
  · rw [view_setTx_of_ne, view_freed_of_ne _ hk]
    · change s.tx.req ≠ some k
      rw [hpc]
      exact fun heq => hk (Option.some_inj.1 heq).symm
    · exact nofun
  · rw [view_setTx_idle, view_freed]
    have hlegal := h.legal id
    have hfresh : ¬(view s g id).Fresh := fun hfresh =>
      absurd (hfresh.2.2.1.symm.trans htx) nofun
    obtain ⟨answer, hreturned⟩ := hlegal.returned hasync hfresh
    exact { hlegal with
      caller := by
        have hcaller := hlegal.caller
        change (view s g id).caller.Ok _ id
        rw [hreturned] at hcaller ⊢
        exact ⟨hcaller.1, hcaller.2.1, nofun⟩
      queued := fun hq => absurd ((hlegal.queued hq).2.1.symm.trans htx) nofun
      tx := nofun
      slot := fun hsome => absurd (hslot.symm.trans hsome) nofun
      task := fun hsome => absurd (htask.symm.trans hsome) nofun
      kept := fun hlive => absurd hlive.2 nofun
      answered := fun _ _ => .inl htold }

theorem View.Live.isSome (h : (view s g id).Live) : (s.req id).isSome = true := by
  obtain ⟨r, hr⟩ := live_iff.1 h
  rw [hr]
  rfl

/-- It looks whether an entry is the request's. -/
theorem Inv.check (h : Inv s g) {env : TxEnv} {n : Nat} (hpc : s.tx = .check id n)
    (hs : RpcCore.processRpcTxMsg env s = some s') : Inv s' g := by
  obtain ⟨htx, hlive, hasync, hok⟩ := h.txView hpc rfl
  obtain ⟨r, hr⟩ := live_iff.1 hlive
  simp only [RpcCore.processRpcTxMsg, hpc, State.withReq, hr, Option.some_inj] at hs
  subst hs
  have henter : ∀ i f, (TxPc.check id n : TxPc c) ≠ .enter id i f := by
    rintro i f ⟨⟩
  have huses : g.Uses s id := .inl hlive.isSome
  have hzero : s.uids id ≠ 0 := by
    obtain ⟨answer, hreturned⟩ := (h.legal id).returned hasync fun hfresh => by
      have htx' : (view s g id).tx = none := hfresh.2.2.1
      rw [htx] at htx'
      cases htx'
    exact (h.legal id).uid_ne_zero hlive.1 (congrArg Caller.numbering hreturned)
  rcases turn_cases (fun i => (s.async i).uid = s.uids id) n with ⟨hn, hp, hturn⟩ |
    ⟨hn, hp, hturn⟩ | ⟨hn, hturn⟩ <;> rw [hturn]
  · obtain ⟨st, hslot⟩ := h.slot_of_uid huses hzero (of_decide_eq_true hp)
    have hsome : (view s g id).slot ≠ none := by
      rw [show (view s g id).slot = some _ from hslot]
      exact Option.some_ne_none _
    exact h.leaveTx hpc rfl henter (.inr hsome)
  · refine h.moveTx hpc rfl henter rfl (by rintro _ ⟨⟩) ⟨hasync, hok.imp_left ?_⟩
    rintro ⟨i, st, hslot, hle, hst⟩
    refine ⟨i, st, hslot, Nat.lt_of_le_of_ne hle ?_, hst⟩
    rintro rfl
    refine of_decide_eq_false hp ?_
    change (s.async i).uid = s.uids id
    rw [h.frame.async hslot]
    refine Stage.uid_entry ?_
    have hstage := ((h.legal id).slot hslot).2
    cases st with
    | entering f => exact absurd rfl (hst f)
    | entered => rfl
    | called pc =>
      have hfreed : false = pc.freed := hlive.2.symm.trans hstage.2.2.2.1
      cases pc <;> first | rfl | cases hfreed
    | expired pc =>
      have hfreed : false = pc.freed := hlive.2.symm.trans hstage.2.2.2.1
      cases pc <;> first | rfl | cases hfreed
  · refine h.moveTx hpc rfl henter rfl (by rintro _ ⟨⟩) ⟨hasync, hok.resolve_left ?_⟩
    rintro ⟨i, st, -, hle, -⟩
    exact absurd (Nat.le_trans hn hle) (Nat.not_le.2 i.isLt)

theorem Inv.processRpcTxMsg (h : Inv s g) {env : TxEnv} (hcareful : TxCareful s env s.tx)
    (hs : processRpcTxMsg env s = some s') : ∃ g', Inv s' g' := by
  unfold RpcCore.processRpcTxMsg at hs
  cases hpc : s.tx with
  | idle =>
    rw [hpc] at hs
    cases hq : s.txQ with
    | nil =>
      rw [hq] at hs
      cases hs
    | cons id rest =>
      rw [hq] at hs
      cases hs
      exact ⟨g, h.pop hpc hq⟩
  | got id =>
    obtain ⟨htx, hlive, hok⟩ := h.txView hpc rfl
    rw [hpc] at hs
    obtain ⟨r, hr, heq⟩ := hlive.withReq fun r => s.setTx <|
      if env.compose = false then .fail id .compose
      else if env.size = false then .fail id .protobufEncode
      else if env.calloc = false then .fail id .memoryFailure
      else if r.cb then .start id
      else .send id
    simp only [heq, Option.some_inj] at hs
    subst hs
    have hfail : ∀ status, status ≠ .transportSend →
        (TxPc.fail id status).Ok { view s g id with tx := some (.fail id status) } := by
      intro status hstatus hasync
      rw [if_neg hstatus]
      exact hok hasync
    split
    · exact ⟨g, h.moveTx hpc rfl nofun rfl nofun (hfail _ nofun)⟩
    split
    · exact ⟨g, h.moveTx hpc rfl nofun rfl nofun (hfail _ nofun)⟩
    split
    · exact ⟨g, h.moveTx hpc rfl nofun rfl nofun (hfail _ nofun)⟩
    split
    · exact ⟨g, h.moveTx hpc rfl nofun rfl nofun ⟨⟨r, hr, ‹_›⟩, hok ⟨r, hr, ‹_›⟩⟩⟩
    · exact ⟨g, h.moveTx hpc rfl nofun rfl nofun fun hasync => absurd (hasync.cb hr) ‹_›⟩
  | start id =>
    obtain ⟨-, -, hasync, hearly⟩ := h.txView hpc rfl
    rw [hpc] at hs
    cases hs
    split
    · exact ⟨g, h.start hpc⟩
    · exact ⟨g, h.moveTx hpc rfl nofun rfl nofun fun _ => hearly⟩
  | map id =>
    obtain ⟨-, hlive, hok⟩ := h.txView hpc rfl
    rw [hpc] at hs hcareful
    obtain ⟨r, hr, heq⟩ := hlive.withReq fun r =>
      s.setTx (if inRange r.msgId then .search id 0 else .fail id .setAsyncCb)
    simp only [heq, Option.some_inj] at hs
    subst hs
    rw [if_pos (hcareful r (State.req_eq_some.2 ⟨hlive.2, hr⟩))]
    exact ⟨g, h.moveTx hpc rfl nofun rfl nofun hok⟩
  | search id n =>
    obtain ⟨-, -, hok⟩ := h.txView hpc rfl
    rw [hpc] at hs hcareful
    cases hs
    rcases turn_cases (fun i => (s.async i).uid = 0) n with ⟨hn, hp, hturn⟩ | ⟨-, -, hturn⟩ |
      ⟨hn, hturn⟩ <;> rw [hturn]
    · obtain ⟨hrx, htimer⟩ := hcareful.2 ⟨n, hn⟩ rfl
      exact ⟨_, h.seize hpc (h.vacant (of_decide_eq_true hp) (TxPc.ne_enter hpc nofun) hrx htimer)⟩
    · exact ⟨g, h.moveTx hpc rfl nofun rfl nofun hok⟩
    · exact absurd hcareful.1 (Nat.not_lt.2 hn)
  | enter id i f =>
    obtain ⟨-, hlive, -⟩ := h.txView hpc rfl
    rw [hpc] at hs
    obtain ⟨_, -, heq⟩ := hlive.withReq fun _ =>
      (s.setAsync i (f.write (s.uids id) id (s.async i))).setTx
        (f.next.elim (.send id) (.enter id i))
    simp only [heq, Option.some_inj] at hs
    subst hs
    obtain ⟨st, hwrite⟩ := h.write hpc
    exact ⟨_, hwrite⟩
  | send id =>
    obtain ⟨-, hlive, hok⟩ := h.txView hpc rfl
    rw [hpc] at hs
    obtain ⟨_, -, heq⟩ := hlive.withReq fun _ =>
      s.setTx (if env.send then .sent id else .fail id .transportSend)
    simp only [heq, Option.some_inj] at hs
    subst hs
    split
    · exact ⟨g, h.moveTx hpc rfl nofun rfl nofun hok⟩
    · exact ⟨g, h.moveTx hpc rfl nofun rfl nofun hok⟩
  | sent id =>
    obtain ⟨-, hlive, hok⟩ := h.txView hpc rfl
    rw [hpc] at hs
    obtain ⟨_, -, heq⟩ := hlive.withReq fun _ => s.setTx .idle
    simp only [heq, Option.some_inj] at hs
    subst hs
    refine ⟨g, h.leaveTx hpc rfl nofun ?_⟩
    rcases hlive.async_or_sync with hasync | hsync
    · obtain ⟨i, st, hslot, -⟩ := hok hasync
      exact .inr fun hnone => absurd (hslot.symm.trans hnone) nofun
    · exact .inl ((h.legal id).active_of_sync hlive hsync)
  | fail id status =>
    obtain ⟨-, hlive, hok⟩ := h.txView hpc rfl
    rw [hpc] at hs hcareful
    obtain ⟨r, hr, heq⟩ := hlive.withReq fun r =>
      if env.resp = false then s.setTx (.hook id)
      else if r.cb then (s.call id ⟨expRespMsgId r.msgId, 0, status⟩).setTx (.hook id)
      else s.setTx (.post id (.put ⟨expRespMsgId r.msgId, 0, status⟩))
    simp only [heq, Option.some_inj] at hs
    subst hs
    have hresp := hcareful r (State.req_eq_some.2 ⟨hlive.2, hr⟩)
    by_cases hmem : env.resp = false
    · rw [if_pos hmem]
      refine ⟨g, h.moveTx hpc rfl nofun rfl nofun fun hasync => .inl ?_⟩
      have hregistered := hok hasync
      rw [if_pos] at hregistered
      · exact hregistered
      · by_contra hstatus
        have htrue := (hresp (hasync.cb hr)).2 hstatus
        rw [hmem] at htrue
        cases htrue
    rw [if_neg hmem]
    split
    · have hasync : (view s g id).Async := ⟨r, hr, ‹_›⟩
      have hearly := hok hasync
      rw [if_neg ((hresp ‹_›).1 (eq_true_of_ne_false hmem))] at hearly
      exact ⟨g, h.failCall hpc hasync hearly _⟩
    · refine ⟨g, h.moveTx hpc rfl nofun rfl (by rintro _ ⟨⟩; trivial) ?_⟩
      exact ⟨r, hr, eq_false_of_ne_true ‹_›⟩
  | post id pc =>
    obtain ⟨-, hlive, hsync⟩ := h.txView hpc rfl
    rw [hpc] at hs hcareful
    obtain ⟨⟨t, next⟩, hpost, rfl⟩ := Option.map_eq_some_iff.1 hs
    have hok : pc.Ok s g := h.frame.txPost (congrArg TxPc.posting hpc)
    obtain ⟨ht, hnext, htx, -⟩ := h.postSyncResp hok hcareful hpost
    have hpct := htx.trans hpc
    obtain ⟨-, -, hsync⟩ := ht.txView hpct rfl
    cases next with
    | none =>
      refine ⟨g, ht.moveTx hpct rfl nofun rfl nofun fun hasync => ?_⟩
      exact absurd hasync hsync.not_async
    | some pc' =>
      refine ⟨g, ?_⟩
      change Inv (t.setTx (.post id pc')) g
      refine ht.moveTx hpct rfl nofun rfl ?_ hsync
      rintro _ ⟨⟩
      exact hnext pc' rfl
  | hook id =>
    obtain ⟨-, hlive, hok⟩ := h.txView hpc rfl
    rw [hpc] at hs
    obtain ⟨r, hr, heq⟩ := hlive.withReq fun r => s.setTx (if r.cb then .check id 0 else .idle)
    simp only [heq, Option.some_inj] at hs
    subst hs
    split
    · exact ⟨g, h.moveTx hpc rfl nofun rfl nofun ⟨⟨r, hr, ‹_›⟩, hok ⟨r, hr, ‹_›⟩⟩⟩
    · have hsync : (view s g id).Sync := ⟨r, hr, eq_false_of_ne_true ‹_›⟩
      exact ⟨g, h.leaveTx hpc rfl nofun (.inl ((h.legal id).active_of_sync hlive hsync))⟩
  | check id n => exact ⟨g, h.check hpc hs⟩
  | release id =>
    rw [hpc] at hs
    cases hs
    exact ⟨g, h.release hpc⟩

end EspHostedOpen.RpcCore
