import EspHostedOpen.Host.RpcViews

/-!
# Callers keep the invariant (`rpc_core.c`)

A caller owns its request until it has queued it, and its entry of `sync_rsp_table` and its
semaphore until it has done with them. What it needs of the others is in `CallerCareful`: a uid that
nobody uses, an entry that nobody is at, and a request and a semaphore that no thread is about to
touch.
-/

namespace EspHostedOpen.RpcCore

open Transition

variable {c : Config} {s s' : State c} {g g' : Ghost c} {id : ReqId} {v : View c} {msgId : UInt32}
  {cb : Bool}

/-! ## Moves of a caller -/

/-- What changes one request only. -/
theorem Inv.of_view (h : Inv s g) (id : ReqId) (hframe : Frame s' g')
    (hothers : ∀ {k}, k ≠ id → view s' g' k = view s g k) (hlegal : Legal id (view s' g' id)) :
    Inv s' g' := by
  refine ⟨hframe, fun k => ?_⟩
  by_cases hk : k = id
  · exact hk ▸ hlegal
  · rw [hothers hk]
    exact h.legal k

theorem Inv.caller (h : Inv s g) {pc : Caller c} (hpc : s.callers id = pc) :
    pc.Ok (view s g id) id :=
  hpc ▸ (h.legal id).caller

namespace Legal

/-- A caller moves on, and its semaphore and its entry with it. -/
theorem move (h : Legal id v) (pc : Caller c) {sem : Sem} {place : Option (Fin c.sync × Place)}
    (hok : pc.Ok { v with caller := pc, sem := sem, place := place } id)
    (hnumbered : v.req ≠ none → v.uid ≠ 0 ∨ pc.numbering = true)
    (hkept : v.Live → pc.active = true ∨ v.queued = true ∨ v.tx ≠ none ∨ v.slot ≠ none) :
    Legal id { v with caller := pc, sem := sem, place := place } :=
  { h with caller := hok, numbered := hnumbered, kept := hkept }

theorem uid_ne_zero (h : Legal id v) (hreq : v.req ≠ none) (hpc : v.caller.numbering = false) :
    v.uid ≠ 0 := by
  refine (h.numbered hreq).resolve_right fun htrue => ?_
  rw [hpc] at htrue
  cases htrue

theorem req_ne_none (h : Legal id v) (hpc : v.caller ≠ .idle) : v.req ≠ none := by
  have hcaller := h.caller
  cases hv : v.caller with
  | idle => exact absurd hv hpc
  | sending =>
    rw [hv] at hcaller
    exact hcaller.1.1.1
  | waiting =>
    rw [hv] at hcaller
    exact hcaller.1.1
  | take =>
    rw [hv] at hcaller
    exact hcaller.1.1
  | free =>
    rw [hv] at hcaller
    exact hcaller.1.1
  | returned =>
    rw [hv] at hcaller
    exact hcaller.1

theorem of_place (h : Legal id v) {i : Fin c.sync} {pl : Place} (hplace : v.place = some (i, pl)) :
    v.Live ∧ v.caller.numbering = false ∧
      (pl = .cleared → ∃ ok, v.caller = .waiting (.cleared i ok)) := by
  have hcaller := h.caller
  cases hv : v.caller with
  | idle =>
    rw [hv] at hcaller
    change v = {} at hcaller
    rw [hcaller] at hplace
    cases hplace
  | sending pc =>
    rw [hv] at hcaller
    obtain ⟨hfresh, hok⟩ := hcaller
    refine ⟨hfresh.1, ?_, ?_⟩
    · cases pc with
      | load | store | test | read => exact absurd (hok.2.1.symm.trans hplace) nofun
      | create | search | enter | entered | queue | fail => rfl
    · rintro rfl
      cases pc with
      | load | store | test | read => exact absurd (hok.2.1.symm.trans hplace) nofun
      | create | search | enter | entered | fail => exact absurd (hok.2.2.symm.trans hplace) nofun
      | queue =>
        rcases hok with ⟨-, j, hj, -⟩ | ⟨-, hnone⟩
        · exact absurd (hj.symm.trans hplace) nofun
        · exact absurd (hnone.symm.trans hplace) nofun
  | waiting pc =>
    rw [hv] at hcaller
    obtain ⟨hlive, -, hok⟩ := hcaller
    refine ⟨hlive, rfl, ?_⟩
    rintro rfl
    cases pc with
    | find =>
      obtain ⟨j, -, hj, -⟩ := hok
      exact absurd (hj.symm.trans hplace) nofun
    | get | destroy | clear => exact absurd (hok.1.symm.trans hplace) nofun
    | wait => exact absurd (hok.2.1.symm.trans hplace) nofun
    | cleared j ok =>
      obtain ⟨rfl, -⟩ := Prod.mk.inj (Option.some_inj.1 (hok.1.symm.trans hplace))
      exact ⟨ok, rfl⟩
  | take =>
    rw [hv] at hcaller
    exact absurd (hcaller.2.2.2.symm.trans hplace) nofun
  | free =>
    rw [hv] at hcaller
    exact absurd (hcaller.2.2.2.symm.trans hplace) nofun
  | returned =>
    rw [hv] at hcaller
    exact absurd (hcaller.2.1.symm.trans hplace) nofun

/-- A request that is synchronous is in no entry of `async_rsp_table`. -/
theorem slot_of_sync (h : Legal id v) (hsync : v.Sync) : v.slot = none := by
  cases hslot : v.slot with
  | none => rfl
  | some p => exact absurd (h.slot hslot).1 hsync.not_async

theorem task_of_sync (h : Legal id v) (hsync : v.Sync) : v.task = none := by
  cases htask : v.task with
  | none => rfl
  | some p => exact absurd (h.task htask).2.1 hsync.not_async

/-- A synchronous request is freed by its caller. -/
theorem free (h : Legal id v) (hsync : v.Sync) (hqueued : v.queued = false) (htx : v.tx = none)
    (hplace : v.place = none) {answer : Option Resp} {sem : Sem} (huid : v.uid ≠ 0) :
    Legal id { v with freed := true, sem := sem, caller := .returned answer } where
  caller := by
    obtain ⟨r, hr, -⟩ := hsync
    exact ⟨fun hnone => absurd (hr.symm.trans hnone) nofun, hplace, nofun⟩
  queued := fun htrue => absurd (hqueued.symm.trans htrue) nofun
  tx := fun hpc => absurd (htx.symm.trans hpc) nofun
  slot := fun hslot => absurd ((h.slot_of_sync hsync).symm.trans hslot) nofun
  task := fun htask => absurd ((h.task_of_sync hsync).symm.trans htask) nofun
  numbered := fun _ => .inl huid
  kept := fun hlive => absurd hlive.2 nofun
  answered := fun hasync => absurd hasync hsync.not_async
  told := h.told
  rx := fun hx => by
    obtain ⟨i, hslot⟩ := h.rx hx
    exact absurd ((h.slot_of_sync hsync).symm.trans hslot) nofun

end Legal

theorem Inv.setCaller (h : Inv s g) {pc : Caller c} (hframe : Frame (s.setCaller id pc) g)
    (hok : pc.Ok { view s g id with caller := pc } id)
    (hnumbered : (view s g id).req ≠ none → s.uids id ≠ 0 ∨ pc.numbering = true)
    (hactive : pc.active = true) : Inv (s.setCaller id pc) g := by
  refine h.of_view id hframe (fun hk => view_setCaller_of_ne pc hk) ?_
  rw [view_setCaller]
  exact (h.legal id).move pc hok hnumbered fun _ => .inl hactive

/-- A caller writes its entry. -/
theorem Inv.setPlace (h : Inv s g) {i : Fin c.sync} {e : SyncRsp} {pc : Caller c}
    {place : Option (Fin c.sync × Place)}
    (hframe : Frame ((s.setSync i e).setCaller id pc) (g.setPlace id place))
    (hok : pc.Ok { view s g id with caller := pc, place := place } id)
    (hnumbered : (view s g id).req ≠ none → s.uids id ≠ 0 ∨ pc.numbering = true)
    (hactive : pc.active = true) : Inv ((s.setSync i e).setCaller id pc) (g.setPlace id place) := by
  have hview : ∀ {k}, view ((s.setSync i e).setCaller id pc) (g.setPlace id place) k =
      view (s.setCaller id pc) (g.setPlace id place) k := rfl
  refine h.of_view id hframe (fun hk => ?_) ?_
  · rw [hview, view_setPlace_of_ne _ hk, view_setCaller_of_ne _ hk]
  · rw [hview, view_setPlace, view_setCaller]
    exact (h.legal id).move pc hok hnumbered fun _ => .inl hactive

/-- A caller that has its number, and is not about to enter its request. -/
theorem Inv.setCaller_of_quiet (h : Inv s g) {old pc : Caller c} (hpc : s.callers id = old)
    (hold : old.numbering = false) (henter : ∀ i, pc ≠ .sending (.enter i))
    (hok : pc.Ok { view s g id with caller := pc } id)
    (hactive : pc.active = true) : Inv (s.setCaller id pc) g :=
  h.setCaller (h.frame.setCaller_of_quiet henter) hok
    (fun hreq => .inl ((h.legal id).uid_ne_zero hreq ((congrArg _ hpc).trans hold))) hactive

/-! ## A turn of a loop -/

theorem turn_cases {n : Nat} (p : Fin n → Bool) (i : Nat) :
    (∃ h : i < n, p ⟨i, h⟩ = true ∧ turn p i = .found ⟨i, h⟩) ∨
      (∃ h : i < n, p ⟨i, h⟩ = false ∧ turn p i = .next) ∨ n ≤ i ∧ turn p i = .over := by
  unfold turn
  by_cases h : i < n
  · rw [dif_pos h]
    cases hp : p ⟨i, h⟩ with
    | true => exact .inl ⟨h, hp, if_pos rfl⟩
    | false => exact .inr (.inl ⟨h, hp, if_neg Bool.false_ne_true⟩)
  · rw [dif_neg h]
    exact .inr (.inr ⟨Nat.le_of_not_lt h, rfl⟩)

/-! ## `rpc_send_req` -/

/-- A step on the way to the uid. -/
theorem Inv.number (h : Inv s g) {p : SendPc c} (hpc : s.callers id = .sending p) (p' : SendPc c)
    (uid : UInt32)    (hnumbering : (Caller.sending p').numbering = true)
    (hok : p.Ok (view s g id) → p'.Ok (view s g id)) :
    Inv ({ s with uid := uid }.setCaller id (.sending p')) g := by
  have hcaller : (Caller.sending p).Ok (view s g id) id := h.caller hpc
  have henter : ∀ i, (Caller.sending p') ≠ .sending (.enter i) := by
    rintro i ⟨⟩
    cases hnumbering
  refine h.of_view id ((h.frame.uid uid).setCaller_of_quiet henter)
    (fun hk => view_setCaller_of_ne (s := { s with uid := uid }) _ hk) ?_
  rw [view_setCaller]
  refine (h.legal id).move (.sending p') ⟨hcaller.1, ?_⟩ (fun _ => .inr hnumbering)
    fun _ => .inl rfl
  cases p' with
  | load | store | test | read => exact hok hcaller.2
  | create | search | enter | entered | queue | fail => cases hnumbering

theorem Stage.uid_entry {st : Stage} {uid : UInt32} (h : st.shows = true) :
    (st.entry uid id).uid = uid := by
  cases st with
  | entering f => cases f <;> first | rfl | cases h
  | entered => rfl
  | called pc => cases pc <;> first | rfl | cases h
  | expired pc => cases pc <;> first | rfl | cases h

/-- Nobody uses the uid that a request is given. -/
theorem Inv.read (h : Inv s g) (hpc : s.callers id = .sending .read)
    (hlive : ∀ k < s.reqs.length, s.freed k = false → s.uids k ≠ s.uid)
    (hasync : ∀ i, (s.async i).uid ≠ s.uid) {r : Req} (hr : s.reqs[id]? = some r) :
    Inv ({ s with uids := Function.update s.uids id s.uid }.setCaller id
      (.sending (if r.cb then .queue else .create))) g := by
  obtain ⟨⟨hfreshlive, hqueued, htx, hearly⟩, hsem, hplace, huid⟩ := h.caller hpc
  have hnew : ∀ {k}, g.Uses s k → s.uids k ≠ s.uid := by
    rintro k (hsome | ⟨i, st, hk, hshows⟩)
    · obtain ⟨q, hq⟩ := Option.isSome_iff_exists.1 hsome
      obtain ⟨hfreed, hreq⟩ := State.req_eq_some.1 hq
      exact hlive k (List.getElem?_eq_some_iff.1 hreq).1 hfreed
    · have huid := hasync i
      rwa [h.frame.async hk, Stage.uid_entry hshows] at huid
  have hzero : s.uid ≠ 0 := by
    have hid := hlive id (List.getElem?_eq_some_iff.1 hr).1 hfreshlive.2
    rw [show s.uids id = 0 from huid] at hid
    exact hid.symm
  have hframe := h.frame.numbered hearly.1 hplace hnew
  have hquiet : ∀ i, Caller.sending (c := c) (if r.cb then .queue else .create) ≠
      .sending (.enter i) := by
    cases r.cb <;> exact nofun
  refine h.of_view id (hframe.setCaller_of_quiet hquiet)
    (fun hk => (view_setCaller_of_ne _ hk).trans (view_uids_of_ne _ hk)) ?_
  rw [view_setCaller, view_uids]
  have hlegal := h.legal id
  refine { hlegal with
    caller := ⟨⟨hfreshlive, hqueued, htx, hearly⟩, ?_⟩
    numbered := fun _ => .inl hzero
    kept := fun _ => .inl rfl
    slot := fun hslot => absurd (hearly.1.symm.trans hslot) nofun }
  cases hcb : r.cb with
  | true => exact .inr ⟨⟨r, hr, hcb⟩, hplace⟩
  | false => exact ⟨⟨r, hr, hcb⟩, hsem, hplace⟩

/-- Where a request is in `sync_rsp_table`, as its caller finds it. -/
theorem Frame.uid_eq_iff (h : Frame s g) (hlegal : ∀ k, Legal k (view s g k)) {i j : Fin c.sync}
    (hplace : g.place id = some (i, .full)) : (s.sync j).uid = s.uids id ↔ j = i := by
  obtain ⟨hlive, hpc, -⟩ := (hlegal id).of_place hplace
  have hzero : s.uids id ≠ 0 := (hlegal id).uid_ne_zero hlive.1 hpc
  constructor
  · intro huid
    by_cases hroom : ∀ k pl, g.place k ≠ some (j, pl)
    · rw [h.room hroom] at huid
      exact absurd huid.symm hzero
    · simp only [ne_eq, not_forall, not_not] at hroom
      obtain ⟨k, pl, hk⟩ := hroom
      have hkuid : s.uids k = s.uids id := by
        rw [h.sync hk] at huid
        cases pl with
        | entered => exact huid
        | full => exact huid
        | cleared => exact absurd huid.symm hzero
      obtain ⟨r, hr⟩ := live_iff.1 ((hlegal k).of_place hk).1
      obtain ⟨q, hq⟩ := live_iff.1 hlive
      have hid : k = id := h.uids (.inl (Option.isSome_iff_exists.2 ⟨r, hr⟩))
        (.inl (Option.isSome_iff_exists.2 ⟨q, hq⟩)) hkuid (hkuid ▸ hzero)
      subst hid
      obtain ⟨rfl, -⟩ := Prod.mk.inj (Option.some_inj.1 (hk.symm.trans hplace))
      rfl
  · rintro rfl
    rw [h.sync hplace]
    rfl

/-- An entry whose `uid` is 0, and that is not being written, is free. -/
theorem Inv.room (h : Inv s g) {i : Fin c.sync} (huid : (s.sync i).uid = 0)
    (hcleared : ∀ k < s.reqs.length, ∀ ok, s.callers k ≠ .waiting (.cleared i ok)) :
    ∀ k pl, g.place k ≠ some (i, pl) := by
  intro k pl hk
  obtain ⟨hlive, hpc, hplace⟩ := (h.legal k).of_place hk
  have hzero : s.uids k ≠ 0 := (h.legal k).uid_ne_zero hlive.1 hpc
  rw [h.frame.sync hk] at huid
  cases pl with
  | entered => exact hzero huid
  | full => exact hzero huid
  | cleared =>
    obtain ⟨ok, hok⟩ := hplace rfl
    obtain ⟨r, hr⟩ := Option.ne_none_iff_exists'.1 hlive.1
    exact hcleared k (List.getElem?_eq_some_iff.1 hr).1 ok hok

theorem Inv.lt_of_caller (h : Inv s g) (hpc : s.callers id ≠ .idle) : id < s.reqs.length := by
  obtain ⟨r, hr⟩ := Option.ne_none_iff_exists'.1 ((h.legal id).req_ne_none hpc)
  exact (List.getElem?_eq_some_iff.1 hr).1

/-- The entry that is found is about to be written. -/
theorem Inv.found (h : Inv s g) {n : Nat} (hpc : s.callers id = .sending (.search n))
    {i : Fin c.sync} (huid : (s.sync i).uid = 0) (halone : ∀ k < s.reqs.length,
      s.callers k ≠ .sending (.enter i) ∧ ∀ ok, s.callers k ≠ .waiting (.cleared i ok)) :
    Inv (s.setCaller id (.sending (.enter i))) g := by
  have hroom := h.room huid fun k hk => (halone k hk).2
  have hframe : Frame (s.setCaller id (.sending (.enter i))) g := by
    refine h.frame.setCaller ?_
    rintro j ⟨⟩
    refine ⟨fun {k} hk => ?_, hroom⟩
    exact absurd hk (halone k (h.lt_of_caller fun hidle => nomatch hk.symm.trans hidle)).1
  obtain ⟨hfresh, hok⟩ := h.caller hpc
  exact h.setCaller hframe ⟨hfresh, hok⟩
    (fun hreq => .inl ((h.legal id).uid_ne_zero hreq (congrArg Caller.numbering hpc))) rfl

theorem Inv.enter (h : Inv s g) {i : Fin c.sync} (hpc : s.callers id = .sending (.enter i)) :
    Inv ((s.setSync i { s.sync i with uid := s.uids id }).setCaller id (.sending (.entered i)))
      (g.setPlace id (some (i, .entered))) := by
  obtain ⟨hfresh, hsync, hsem, hplace⟩ := h.caller hpc
  have hroom : s.sync i = {} := h.frame.room (h.frame.enter hpc)
  have hcaller : Frame (s.setCaller id (.sending (.entered i))) g :=
    h.frame.setCaller_of_quiet nofun
  have hframe : Frame ((s.setCaller id (.sending (.entered i))).setSync i
      { s.sync i with uid := s.uids id }) (g.setPlace id (some (i, .entered))) := by
    refine hcaller.setSync (fun hold => absurd (hplace.symm.trans hold) nofun)
      (fun {k pl} hk => absurd hk (h.frame.enter hpc k pl)) ?_ ?_ (.inl rfl)
      fun hfull => absurd (hplace.symm.trans hfull) nofun
    · refine .inr ⟨.entered, rfl, ?_⟩
      rw [hroom]
      rfl
    · intro k hk
      by_cases hkid : k = id
      · subst hkid
        rw [State.callers_setCaller] at hk
        cases hk
      · rw [State.callers_setCaller_of_ne hkid] at hk
        exact hkid (h.frame.enters hk hpc)
  exact h.setPlace hframe ⟨hfresh, hsync, hsem, rfl⟩
    (fun hreq => .inl ((h.legal id).uid_ne_zero hreq (congrArg Caller.numbering hpc))) rfl

theorem Inv.entered (h : Inv s g) {i : Fin c.sync} (hpc : s.callers id = .sending (.entered i)) :
    Inv ((s.setSync i { s.sync i with
        sem := if s.sems id = .unmade then none else some id }).setCaller
      id (.sending .queue)) (g.setPlace id (some (i, .full))) := by
  obtain ⟨hfresh, hsync, hsem, hplace⟩ := h.caller hpc
  replace hsem : s.sems id = .made false := hsem
  replace hplace : g.place id = some (i, .entered) := hplace
  have hcaller : Frame (s.setCaller id (.sending .queue)) g := h.frame.setCaller_of_quiet nofun
  have hmade : s.sems id ≠ .unmade := by
    rw [hsem]
    exact nofun
  rw [if_neg hmade, h.frame.sync hplace]
  have hframe : Frame ((s.setCaller id (.sending .queue)).setSync i
      { Place.entered.entry (s.uids id) id with sem := some id })
      (g.setPlace id (some (i, .full))) := by
    refine hcaller.setSync (fun hold => ?_) (fun hk => h.frame.places hk hplace)
      (.inr ⟨.full, rfl, rfl⟩) (fun k hk => ?_) (.inr ?_) fun hfull => ?_
    · exact (Prod.mk.inj (Option.some_inj.1 (hold.symm.trans hplace))).1
    · by_cases hkid : k = id
      · subst hkid
        rw [State.callers_setCaller] at hk
        cases hk
      · rw [State.callers_setCaller_of_ne hkid] at hk
        exact h.frame.enter hk id _ hplace
    · rintro k ⟨⟩
      exact ⟨false, hsem⟩
    · cases hplace.symm.trans hfull
  exact h.setPlace hframe ⟨hfresh, .inl ⟨hsync, i, rfl, false, hsem⟩⟩
    (fun hreq => .inl ((h.legal id).uid_ne_zero hreq (congrArg Caller.numbering hpc))) rfl

/-- The transmit thread gets the request. -/
theorem Inv.queue (h : Inv s g) (hpc : s.callers id = .sending .queue) {r : Req}
    (hr : s.reqs[id]? = some r) :
    Inv ({ s with txQ := s.txQ ++ [id] }.setCaller id
      (if r.cb then .returned none else .waiting (.find 0))) g := by
  obtain ⟨⟨hlive, hqueued, htx, hearly⟩, hok⟩ := h.caller hpc
  have hquiet : ∀ i, (if r.cb then .returned none else .waiting (.find 0) : Caller c) ≠
      .sending (.enter i) := by
    cases r.cb <;> exact nofun
  have hframe := h.frame.push (of_decide_eq_false hqueued)
  refine h.of_view id (hframe.setCaller_of_quiet hquiet)
    (fun hk => (view_setCaller_of_ne _ hk).trans (view_push_of_ne hk)) ?_
  rw [view_setCaller, view_push]
  have hlegal := h.legal id
  refine { hlegal with
    caller := ?_
    queued := fun _ => ⟨hlive, htx, fun _ => hearly⟩
    tx := fun hpc => absurd (htx.symm.trans hpc) nofun
    slot := fun hslot => absurd (hearly.1.symm.trans hslot) nofun
    numbered := fun hreq => .inl (hlegal.uid_ne_zero hreq (congrArg Caller.numbering hpc))
    kept := fun _ => .inr (.inl rfl) }
  rcases hok with ⟨hsync, i, hat⟩ | ⟨hasync, hplace⟩
  · rw [hsync.cb hr]
    exact ⟨hlive, hsync, i, Nat.zero_le _, hat⟩
  · rw [hasync.cb hr]
    exact ⟨hlive.1, hplace, fun _ => hasync⟩

theorem Inv.failed (h : Inv s g) (hpc : s.callers id = .sending .fail) :
    Inv (((if s.sems id = .unmade then s else s.destroy id).free id).setCaller id (.returned none))
      g := by
  obtain ⟨⟨hlive, hqueued, htx, hearly⟩, hsync, hsem, hplace⟩ := h.caller hpc
  have huid : s.uids id ≠ 0 := (h.legal id).uid_ne_zero hlive.1 (congrArg Caller.numbering hpc)
  have hnone : ∀ {i pl}, g.place id = some (i, pl) → s.Unposted i id :=
    fun hsome => absurd (hplace.symm.trans hsome) nofun
  have hstate : ∃ sem, (if s.sems id = .unmade then s else s.destroy id) = s.setSem id sem := by
    cases hs : s.sems id with
    | unmade =>
      refine ⟨.unmade, (if_pos rfl).trans ?_⟩
      rw [State.setSem, ← hs, Function.update_eq_self]
    | made b =>
      refine ⟨.destroyed, (if_neg nofun).trans ?_⟩
      rw [State.destroy, hs]
    | destroyed => exact absurd hs hsem
  obtain ⟨sem, hstate⟩ := hstate
  have hframe := (h.frame.setSem id sem (.inr hnone)).freed id true fun _ => rfl
  have hlive' : (view (s.setSem id sem) g id).Live := hlive
  rw [hstate, hlive'.free]
  refine h.of_view id (hframe.setCaller_of_quiet nofun) (fun hk => ?_) ?_
  · rw [view_setCaller_of_ne _ hk, view_freed_of_ne _ hk, view_setSem_of_ne _ hk]
  · rw [view_setCaller, view_freed, view_setSem]
    exact (h.legal id).free hsync hqueued htx hplace huid

theorem Inv.rpcSendReq (h : Inv s g) {env : CallerEnv} {pc : SendPc c}
    (hpc : s.callers id = .sending pc) (hcareful : CallerCareful s env id (.sending pc))
    (hs : rpcSendReq env id s pc = some s') : ∃ g', Inv s' g' := by
  obtain ⟨hfresh, hok⟩ := h.caller hpc
  cases pc with
  | load again =>
    cases hs
    exact ⟨g, h.number hpc _ _ rfl fun hok => hok⟩
  | store again uid =>
    cases hs
    cases again with
    | false => exact ⟨g, h.number hpc .test _ rfl fun hok => hok⟩
    | true => exact ⟨g, h.number hpc .read _ rfl fun hok => hok⟩
  | test =>
    cases hs
    split
    · exact ⟨g, h.number hpc _ _ rfl fun hok => hok⟩
    · exact ⟨g, h.number hpc _ _ rfl fun hok => hok⟩
  | read =>
    obtain ⟨r, hr, heq⟩ := hfresh.1.withReq fun r =>
      { s with uids := Function.update s.uids id s.uid }.setCaller id
        (.sending (if r.cb then .queue else .create))
    obtain rfl := Option.some_inj.1 (hs.symm.trans (congrArg some heq))
    exact ⟨g, h.read hpc hcareful.1 hcareful.2 hr⟩
  | create =>
    obtain ⟨r, hr, heq⟩ := hfresh.1.withReq fun r =>
      if inRange r.msgId then
        (s.setSem id (if env.sem then .made false else .unmade)).setCaller id
          (.sending (.search 0))
      else s.setCaller id (.sending .fail)
    simp only [RpcCore.rpcSendReq, Option.some_inj] at hs
    rw [heq] at hs
    subst hs
    obtain ⟨hsync, hsem, hplace⟩ := hok
    replace hcareful : env.sem = true := hcareful
    rw [if_pos hcareful]
    split
    · have hframe := h.frame.setSem id (.made false) (.inl ⟨false, rfl⟩)
      refine ⟨g, h.of_view id (hframe.setCaller_of_quiet nofun) (fun hk => ?_) ?_⟩
      · rw [view_setCaller_of_ne _ hk]
        exact view_setSem_of_ne _ hk
      · rw [view_setCaller, view_setSem]
        exact (h.legal id).move (.sending (.search 0)) ⟨hfresh, hsync, rfl, hplace⟩
          (fun hreq => .inl ((h.legal id).uid_ne_zero hreq (congrArg Caller.numbering hpc)))
          fun _ => .inl rfl
    · refine ⟨g, h.setCaller_of_quiet hpc rfl nofun ⟨hfresh, hsync, ?_, hplace⟩ rfl⟩
      rw [show (view s g id).sem = .unmade from hsem]
      exact nofun
  | search i =>
    cases hs
    rcases turn_cases (fun i => (s.sync i).uid = 0) i with ⟨hi, hp, hturn⟩ | ⟨-, -, hturn⟩ |
      ⟨-, hturn⟩ <;> rw [hturn]
    · have huid := of_decide_eq_true hp
      exact ⟨g, h.found hpc huid (hcareful ⟨i, hi⟩ rfl huid)⟩
    · exact ⟨g, h.setCaller_of_quiet hpc rfl nofun ⟨hfresh, hok⟩ rfl⟩
    · obtain ⟨hsync, hsem, hplace⟩ := hok
      refine ⟨g, h.setCaller_of_quiet hpc rfl nofun ⟨hfresh, hsync, ?_, hplace⟩ rfl⟩
      rw [show (view s g id).sem = .made false from hsem]
      exact nofun
  | enter i =>
    obtain ⟨_, -, heq⟩ := hfresh.1.withReq fun _ =>
      (s.setSync i { s.sync i with uid := s.uids id }).setCaller id (.sending (.entered i))
    obtain rfl := Option.some_inj.1 (hs.symm.trans (congrArg some heq))
    exact ⟨_, h.enter hpc⟩
  | entered i =>
    obtain ⟨_, -, heq⟩ := hfresh.1.withReq fun _ =>
      (s.setSync i { s.sync i with
        sem := if s.sems id = .unmade then none else some id }).setCaller id (.sending .queue)
    obtain rfl := Option.some_inj.1 (hs.symm.trans (congrArg some heq))
    exact ⟨_, h.entered hpc⟩
  | queue =>
    obtain ⟨r, hr, heq⟩ := hfresh.1.withReq fun r =>
      { s with txQ := s.txQ ++ [id] }.setCaller id
        (if r.cb then .returned none else .waiting (.find 0))
    simp only [RpcCore.rpcSendReq] at hs
    split at hs
    · obtain rfl := Option.some_inj.1 (hs.symm.trans (congrArg some heq))
      exact ⟨g, h.queue hpc hr⟩
    · cases hs
  | fail =>
    cases hs
    exact ⟨g, h.failed hpc⟩

/-! ## `wait_for_sync_response` -/

/-- The caller has made the semaphore, and it is still there. -/
theorem Inv.sem_eq (h : Inv s g) {i : Fin c.sync} (hplace : g.place id = some (i, .full)) :
    (s.sync i).sem = some id := by
  rw [h.frame.sync hplace]
  rfl

/-- A caller takes or destroys its semaphore. -/
theorem Inv.setSem (h : Inv s g) {sem : Sem} {old pc : Caller c} (hpc : s.callers id = old)
    (hold : old.numbering = false) (henter : ∀ i, pc ≠ .sending (.enter i))
    (hframe : Frame (s.setSem id sem) g)
    (hok : pc.Ok { view s g id with caller := pc, sem := sem } id) (hactive : pc.active = true) :
    Inv ((s.setSem id sem).setCaller id pc) g := by
  refine h.of_view id (hframe.setCaller_of_quiet henter) (fun hk => ?_) ?_
  · rw [view_setCaller_of_ne _ hk, view_setSem_of_ne _ hk]
  · rw [view_setCaller, view_setSem]
    exact (h.legal id).move pc hok
      (fun hreq => .inl ((h.legal id).uid_ne_zero hreq ((congrArg _ hpc).trans hold)))
      fun _ => .inl hactive

/-- The caller has destroyed its semaphore: no thread is about to post it. -/
theorem Inv.setSync_destroyed (h : Inv s g) {i : Fin c.sync} {e : SyncRsp} {old pc : Caller c}
    {pl : Place} (place : Option (Fin c.sync × Place)) (hpc : s.callers id = old)
    (hold : old.numbering = false) (hplace : g.place id = some (i, pl))
    (hdestroyed : s.sems id = .destroyed) (henter : ∀ i, pc ≠ .sending (.enter i))
    (hentry : place = none ∧ e = {} ∨ ∃ pl, place = some (i, pl) ∧ e = pl.entry (s.uids id) id)
    (hsem : e.sem = (s.sync i).sem ∨ e.sem = none)
    (hok : pc.Ok { view s g id with caller := pc, place := place } id)
    (hactive : pc.active = true) :
    Inv ((s.setSync i e).setCaller id pc) (g.setPlace id place) := by
  have hcaller : Frame (s.setCaller id pc) g := h.frame.setCaller_of_quiet henter
  have hframe : Frame ((s.setCaller id pc).setSync i e) (g.setPlace id place) := by
    refine hcaller.setSync (fun hsome => ?_) (fun hk => h.frame.places hk hplace) hentry
      (fun k hk => ?_) (hsem.imp_right fun hnone k hk => ?_) fun _ hmade => ?_
    · exact (Prod.mk.inj (Option.some_inj.1 (hsome.symm.trans hplace))).1
    · by_cases hkid : k = id
      · subst hkid
        rw [State.callers_setCaller] at hk
        exact henter i hk
      · rw [State.callers_setCaller_of_ne hkid] at hk
        exact h.frame.enter hk id _ hplace
    · rw [hnone] at hk
      cases hk
    · cases hdestroyed.symm.trans hmade
  exact h.setPlace hframe hok
    (fun hreq => .inl ((h.legal id).uid_ne_zero hreq ((congrArg _ hpc).trans hold))) hactive

/-- A caller looks for its entry. -/
theorem Inv.findEntry (h : Inv s g) {env : CallerEnv} {n : Nat}
    (hpc : s.callers id = .waiting (.find n))
    (hs : RpcCore.waitForSyncResponse env id s (.find n) = some s') : Inv s' g := by
  obtain ⟨hlive, hsync, i, hle, hat⟩ := h.caller hpc
  obtain ⟨r, hr⟩ := live_iff.1 hlive
  simp only [RpcCore.waitForSyncResponse, State.withReq, hr, Option.some_inj] at hs
  subst hs
  have hmove : ∀ {pc : WaitPc c}, pc.Ok { view s g id with caller := .waiting pc } id →
      Inv (s.setCaller id (.waiting pc)) g :=
    fun hok => h.setCaller_of_quiet hpc rfl (by rintro _ ⟨⟩) ⟨hlive, hsync, hok⟩ rfl
  have huid : ∀ j, (s.sync j).uid = s.uids id ↔ j = i :=
    fun j => h.frame.uid_eq_iff h.legal hat.1
  rcases turn_cases (fun i => (s.sync i).uid = s.uids id) n with ⟨hn, hp, hturn⟩ |
    ⟨hn, hp, hturn⟩ | ⟨hn, hturn⟩ <;> simp only [hturn]
  · obtain rfl := (huid _).1 (of_decide_eq_true hp)
    exact hmove hat
  · have hne : n ≠ i.val := fun heq =>
      of_decide_eq_false hp ((huid _).2 (Fin.ext heq))
    exact hmove ⟨i, Nat.lt_of_le_of_ne hle hne, hat⟩
  · exact absurd (Nat.le_trans hn hle) (Nat.not_le.2 i.isLt)

theorem Inv.waitForSyncResponse (h : Inv s g) {env : CallerEnv} {pc : WaitPc c}
    (hpc : s.callers id = .waiting pc) (hcareful : CallerCareful s env id (.waiting pc))
    (hs : waitForSyncResponse env id s pc = some s') : ∃ g', Inv s' g' := by
  obtain ⟨hlive, hsync, hok⟩ := h.caller hpc
  cases pc with
  | find n => exact ⟨g, h.findEntry hpc hs⟩
  | get i =>
    cases hs
    rw [h.sem_eq hok.1]
    exact ⟨g, h.setCaller_of_quiet hpc rfl nofun ⟨hlive, hsync, rfl, hok⟩ rfl⟩
  | wait i sem =>
    obtain ⟨rfl, hplace, b, hsem⟩ := hok
    replace hsem : s.sems sem = .made b := hsem
    simp only [RpcCore.waitForSyncResponse, hsem] at hs
    cases b with
    | true =>
      cases hs
      exact ⟨g, h.setSem hpc rfl nofun (h.frame.setSem _ _ (.inl ⟨false, rfl⟩))
        ⟨hlive, hsync, hplace, false, rfl⟩ rfl⟩
    | false =>
      simp only at hs
      split at hs
      · cases hs
        exact ⟨g, h.setCaller_of_quiet hpc rfl nofun ⟨hlive, hsync, hplace, false, hsem⟩ rfl⟩
      · cases hs
  | destroy i ok =>
    obtain ⟨hplace, b, hsem⟩ := hok
    replace hsem : s.sems id = .made b := hsem
    have hdestroy : s.destroy id = s.setSem id .destroyed := by
      rw [State.destroy, hsem]
    simp only [RpcCore.waitForSyncResponse, h.sem_eq hplace, hdestroy] at hs
    cases hs
    have hframe : Frame (s.setSem id .destroyed) g := by
      refine h.frame.setSem _ _ (.inr fun {j pl} hpl => ?_)
      obtain ⟨rfl, -⟩ := Prod.mk.inj (Option.some_inj.1 (hpl.symm.trans hplace))
      exact hcareful
    exact ⟨g, h.setSem hpc rfl nofun hframe ⟨hlive, hsync, hplace, rfl⟩ rfl⟩
  | clear i ok =>
    cases hs
    obtain ⟨hplace, hsem⟩ := hok
    refine ⟨_, h.setSync_destroyed (some (i, .cleared)) hpc rfl hplace hsem nofun
      (.inr ⟨.cleared, rfl, ?_⟩) (.inl rfl) ⟨hlive, hsync, rfl, hsem⟩ rfl⟩
    rw [h.frame.sync hplace]
    rfl
  | cleared i ok =>
    cases hs
    obtain ⟨hplace, hsem⟩ := hok
    have hentry : { s.sync i with sem := none } = ({} : SyncRsp) := by
      rw [h.frame.sync hplace]
      rfl
    rw [hentry]
    cases ok with
    | true =>
      exact ⟨_, h.setSync_destroyed none hpc rfl hplace hsem nofun
        (.inl ⟨rfl, rfl⟩) (.inr rfl) ⟨hlive, hsync, hsem, rfl⟩ rfl⟩
    | false =>
      exact ⟨_, h.setSync_destroyed none hpc rfl hplace hsem nofun
        (.inl ⟨rfl, rfl⟩) (.inr rfl) ⟨hlive, hsync, hsem, rfl⟩ rfl⟩

/-! ## A caller -/

theorem Inv.callerStep (h : Inv s g) {env : CallerEnv}
    (hcareful : CallerCareful s env id (s.callers id)) (hs : callerStep env id s = some s') :
    ∃ g', Inv s' g' := by
  unfold RpcCore.callerStep at hs
  cases hpc : s.callers id with
  | idle =>
    rw [hpc] at hs
    cases hs
  | sending pc =>
    rw [hpc] at hs hcareful
    exact h.rpcSendReq hpc hcareful hs
  | waiting pc =>
    rw [hpc] at hs hcareful
    exact h.waitForSyncResponse hpc hcareful hs
  | take =>
    rw [hpc] at hs
    have hok := h.caller hpc
    cases hq : s.rxQ with
    | nil =>
      rw [hq] at hs
      cases hs
    | cons resp rest =>
      rw [hq] at hs
      cases hs
      have hpopped : Inv { s with rxQ := rest } g := ⟨{ h.frame with ok := h.frame.ok }, h.legal⟩
      exact ⟨g, hpopped.setCaller_of_quiet (show s.callers id = .take from hpc) rfl nofun hok rfl⟩
  | free answer =>
    rw [hpc] at hs hcareful
    obtain ⟨hlive, hsync, hsem, hplace⟩ := h.caller hpc
    obtain ⟨hqueued, htx⟩ := hcareful
    rw [hlive.free] at hs
    cases hs
    have huid := (h.legal id).uid_ne_zero hlive.1 (congrArg Caller.numbering hpc)
    refine ⟨g, h.of_view id ((h.frame.freed id true fun _ => rfl).setCaller_of_quiet nofun)
      (fun hk => (view_setCaller_of_ne _ hk).trans (view_freed_of_ne _ hk)) ?_⟩
    rw [view_setCaller, view_freed]
    exact (h.legal id).free hsync (decide_eq_false hqueued) (if_neg htx) hplace huid
  | returned =>
    rw [hpc] at hs
    cases hs

/-- A request that is made. -/
theorem Inv.request (h : Inv s g) :
    Inv ({ s with reqs := s.reqs ++ [Req.mk msgId cb] }.setCaller s.reqs.length
      (.sending (.load false))) g := by
  have hidle : s.callers s.reqs.length = .idle := by
    by_contra hpc
    exact Nat.lt_irrefl _ (h.lt_of_caller hpc)
  have hview : view s g s.reqs.length = {} := h.caller hidle
  have hframe := h.frame.add (Req.mk msgId cb) (congrArg View.uid hview)
  have hcaller : Frame ({ s with reqs := s.reqs ++ [Req.mk msgId cb] }.setCaller s.reqs.length
      (.sending (.load false))) g :=
    hframe.setCaller_of_quiet nofun
  refine h.of_view s.reqs.length hcaller
    (fun hk => (view_setCaller_of_ne _ hk).trans (view_add_of_ne _ hk)) ?_
  rw [view_setCaller, view_add, hview]
  exact {
    caller := ⟨⟨⟨nofun, rfl⟩, rfl, rfl, rfl, rfl, rfl, rfl⟩, rfl, rfl, rfl⟩
    queued := nofun
    tx := nofun
    slot := nofun
    task := nofun
    numbered := fun _ => .inr rfl
    kept := fun _ => .inl rfl
    answered := fun _ => nofun
    told := nofun
    rx := nofun }

end EspHostedOpen.RpcCore
