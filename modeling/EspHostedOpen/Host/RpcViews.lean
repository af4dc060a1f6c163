import EspHostedOpen.Host.RpcRequests
import Mathlib.Data.List.Nodup
import Mathlib.Tactic.Spread

/-!
# What a step changes (`rpc_core.c`)

Every step is put together from a few operations on the state. Each of them changes the view of one
request and leaves those of all others alone, and it keeps the frame under a condition that says
what it needs of the others.
-/

namespace EspHostedOpen.RpcCore

open Transition

variable {c : Config} {s : State c} {g : Ghost c} {id k : ReqId}

/-! ## Requests -/

theorem State.req_eq_some {r : Req} : s.req id = some r ↔
    s.freed id = false ∧ s.reqs[id]? = some r := by
  unfold State.req
  cases s.freed id with
  | true => exact iff_of_false nofun fun h => Bool.noConfusion h.1
  | false => exact (and_iff_right rfl).symm

theorem live_iff : (view s g id).Live ↔ ∃ r, s.req id = some r := by
  constructor
  · rintro ⟨hreq, hfreed⟩
    obtain ⟨r, hr⟩ := Option.ne_none_iff_exists'.1 hreq
    exact ⟨r, State.req_eq_some.2 ⟨hfreed, hr⟩⟩
  · rintro ⟨r, hr⟩
    obtain ⟨hfreed, hreq⟩ := State.req_eq_some.1 hr
    exact ⟨Option.ne_none_iff_exists'.2 ⟨r, hreq⟩, hfreed⟩

theorem View.Live.withReq (h : (view s g id).Live) (f : Req → State c) :
    ∃ r, (view s g id).req = some r ∧ s.withReq id f = f r := by
  obtain ⟨r, hr⟩ := live_iff.1 h
  refine ⟨r, (State.req_eq_some.1 hr).2, ?_⟩
  rw [State.withReq, hr]

theorem View.Live.free (h : (view s g id).Live) :
    s.free id = { s with freed := Function.update s.freed id true } := by
  obtain ⟨r, -, heq⟩ := h.withReq fun _ => { s with freed := Function.update s.freed id true }
  exact heq

namespace View

variable {v : View c} {r : Req}

theorem Async.cb (h : v.Async) (hr : v.req = some r) : r.cb = true := by
  obtain ⟨q, hq, hcb⟩ := h
  obtain rfl : q = r := Option.some_inj.1 (hq.symm.trans hr)
  exact hcb

theorem Sync.cb (h : v.Sync) (hr : v.req = some r) : r.cb = false := by
  obtain ⟨q, hq, hcb⟩ := h
  obtain rfl : q = r := Option.some_inj.1 (hq.symm.trans hr)
  exact hcb

theorem Sync.not_async (h : v.Sync) : ¬v.Async := by
  rintro ⟨r, hr, hcb⟩
  exact Bool.noConfusion (hcb.symm.trans (h.cb hr))

theorem Live.async_or_sync (h : v.Live) : v.Async ∨ v.Sync := by
  obtain ⟨r, hr⟩ := Option.ne_none_iff_exists'.1 h.1
  cases hcb : r.cb with
  | true => exact .inl ⟨r, hr, hcb⟩
  | false => exact .inr ⟨r, hr, hcb⟩

end View

/-! ## Views

### The operations -/

theorem view_setCaller (pc : Caller c) :
    view (s.setCaller id pc) g id = { view s g id with caller := pc } :=
  congrArg (fun pc => ({ view s g id with caller := pc } : View c)) (Function.update_self _ _ _)

theorem view_setCaller_of_ne (pc : Caller c) (h : k ≠ id) :
    view (s.setCaller id pc) g k = view s g k :=
  congrArg (fun pc => ({ view s g k with caller := pc } : View c)) (Function.update_of_ne h _ _)

theorem view_setSem (sem : Sem) :
    view (s.setSem id sem) g id = { view s g id with sem := sem } :=
  congrArg (fun sem => ({ view s g id with sem := sem } : View c)) (Function.update_self _ _ _)

theorem view_setSem_of_ne (sem : Sem) (h : k ≠ id) : view (s.setSem id sem) g k = view s g k :=
  congrArg (fun sem => ({ view s g k with sem := sem } : View c)) (Function.update_of_ne h _ _)

theorem view_setTimer (timer : Timer) :
    view (s.setTimer id timer) g id = { view s g id with timer := timer } :=
  congrArg (fun timer => ({ view s g id with timer := timer } : View c))
    (Function.update_self _ _ _)

theorem view_setTimer_of_ne (timer : Timer) (h : k ≠ id) :
    view (s.setTimer id timer) g k = view s g k :=
  congrArg (fun timer => ({ view s g k with timer := timer } : View c))
    (Function.update_of_ne h _ _)

theorem view_freed (freed : Bool) :
    view { s with freed := Function.update s.freed id freed } g id =
      { view s g id with freed := freed } :=
  congrArg (fun freed => ({ view s g id with freed := freed } : View c))
    (Function.update_self _ _ _)

theorem view_freed_of_ne (freed : Bool) (h : k ≠ id) :
    view { s with freed := Function.update s.freed id freed } g k = view s g k :=
  congrArg (fun freed => ({ view s g k with freed := freed } : View c))
    (Function.update_of_ne h _ _)

theorem view_uids (uid : UInt32) : view { s with uids := Function.update s.uids id uid } g id =
    { view s g id with uid := uid } :=
  congrArg (fun uid => ({ view s g id with uid := uid } : View c)) (Function.update_self _ _ _)

theorem view_uids_of_ne (uid : UInt32) (h : k ≠ id) :
    view { s with uids := Function.update s.uids id uid } g k = view s g k :=
  congrArg (fun uid => ({ view s g k with uid := uid } : View c)) (Function.update_of_ne h _ _)

theorem mem_told_call {resp : Resp} :
    k ∈ (s.call id resp).told ↔ k ∈ s.told ∨ k = id := by
  rw [State.told, State.call, List.map_append, List.mem_append]
  exact or_congr_right List.mem_singleton

theorem view_call (resp : Resp) : view (s.call id resp) g id = { view s g id with told := true } :=
  congrArg (fun told => ({ view s g id with told := told } : View c))
    (decide_eq_true (mem_told_call.2 (.inr rfl)))

theorem view_call_of_ne (resp : Resp) (h : k ≠ id) : view (s.call id resp) g k = view s g k :=
  congrArg (fun told => ({ view s g k with told := told } : View c))
    (decide_eq_decide.2 (mem_told_call.trans (or_iff_left h)))

theorem view_push : view { s with txQ := s.txQ ++ [id] } g id =
    { view s g id with queued := true } :=
  congrArg (fun queued => ({ view s g id with queued := queued } : View c))
    (decide_eq_true (List.mem_append_right _ (List.mem_singleton_self id)))

theorem view_push_of_ne (h : k ≠ id) : view { s with txQ := s.txQ ++ [id] } g k = view s g k := by
  refine congrArg (fun queued => ({ view s g k with queued := queued } : View c))
    (decide_eq_decide.2 ?_)
  rw [List.mem_append, List.mem_singleton]
  exact or_iff_left h

theorem view_pop {rest : List ReqId} (hq : s.txQ = id :: rest) (hnodup : s.txQ.Nodup) :
    view { s with txQ := rest } g id = { view s g id with queued := false } := by
  rw [hq] at hnodup
  exact congrArg (fun queued => ({ view s g id with queued := queued } : View c))
    (decide_eq_false (List.nodup_cons.1 hnodup).1)

theorem view_pop_of_ne {rest : List ReqId} (hq : s.txQ = id :: rest) (h : k ≠ id) :
    view { s with txQ := rest } g k = view s g k := by
  refine congrArg (fun queued => ({ view s g k with queued := queued } : View c))
    (decide_eq_decide.2 ?_)
  rw [hq, List.mem_cons]
  exact (or_iff_right h).symm

theorem view_add (r : Req) : view { s with reqs := s.reqs ++ [r] } g s.reqs.length =
    { view s g s.reqs.length with req := some r } :=
  congrArg (fun req => ({ view s g s.reqs.length with req := req } : View c))
    List.getElem?_concat_length

theorem view_add_of_ne (r : Req) (h : k ≠ s.reqs.length) :
    view { s with reqs := s.reqs ++ [r] } g k = view s g k := by
  refine congrArg (fun req => ({ view s g k with req := req } : View c)) ?_
  change (s.reqs ++ [r])[k]? = s.reqs[k]?
  rcases Nat.lt_or_gt_of_ne h with hlt | hgt
  · exact List.getElem?_append_left hlt
  · rw [List.getElem?_eq_none (Nat.le_of_lt hgt)]
    refine List.getElem?_eq_none ?_
    rw [List.length_append]
    exact hgt

theorem view_setTx {pc : TxPc c} (h : pc.req = some id) :
    view (s.setTx pc) g id = { view s g id with tx := some pc } :=
  congrArg (fun tx => ({ view s g id with tx := tx } : View c)) (if_pos h)

theorem view_setTx_idle : view (s.setTx .idle) g id = { view s g id with tx := none } :=
  congrArg (fun tx => ({ view s g id with tx := tx } : View c)) (if_neg nofun)

theorem view_setTx_of_ne {pc : TxPc c} (h : s.tx.req ≠ some k) (hpc : pc.req ≠ some k) :
    view (s.setTx pc) g k = view s g k :=
  congrArg (fun tx => ({ view s g k with tx := tx } : View c)) ((if_neg hpc).trans (if_neg h).symm)

theorem view_setTask {pc : TimerPc c} (h : pc.req = some id) :
    view (s.setTask pc) g id = { view s g id with task := some pc } :=
  congrArg (fun task => ({ view s g id with task := task } : View c)) (if_pos h)

theorem view_setTask_idle : view (s.setTask .idle) g id = { view s g id with task := none } :=
  congrArg (fun task => ({ view s g id with task := task } : View c)) (if_neg nofun)

theorem view_setTask_of_ne {pc : TimerPc c} (h : s.timer.req ≠ some k) (hpc : pc.req ≠ some k) :
    view (s.setTask pc) g k = view s g k :=
  congrArg (fun task => ({ view s g k with task := task } : View c))
    ((if_neg hpc).trans (if_neg h).symm)

theorem view_setRx (pc : RxPc c) :
    view (s.setRx pc) g k = { view s g k with rx := pc.at (g.slot k) } := rfl

/-! ### The tables -/

namespace Ghost

def setSlot (g : Ghost c) (id : ReqId) (slot : Option (Fin c.async × Stage)) : Ghost c :=
  { g with slot := Function.update g.slot id slot }

def setPlace (g : Ghost c) (id : ReqId) (place : Option (Fin c.sync × Place)) : Ghost c :=
  { g with place := Function.update g.place id place }

end Ghost

theorem Ghost.slot_setSlot {slot : Option (Fin c.async × Stage)} :
    (g.setSlot id slot).slot id = slot := by
  change Function.update g.slot id slot id = slot
  rw [Function.update_self]

theorem Ghost.slot_setSlot_of_ne {slot : Option (Fin c.async × Stage)} (h : k ≠ id) :
    (g.setSlot id slot).slot k = g.slot k := by
  change Function.update g.slot id slot k = g.slot k
  rw [Function.update_of_ne h]

theorem Ghost.place_setPlace {place : Option (Fin c.sync × Place)} :
    (g.setPlace id place).place id = place := by
  change Function.update g.place id place id = place
  rw [Function.update_self]

theorem Ghost.place_setPlace_of_ne {place : Option (Fin c.sync × Place)} (h : k ≠ id) :
    (g.setPlace id place).place k = g.place k := by
  change Function.update g.place id place k = g.place k
  rw [Function.update_of_ne h]

theorem view_setSlot (slot : Option (Fin c.async × Stage)) :
    view s (g.setSlot id slot) id = { view s g id with slot := slot, rx := s.rx.at slot } :=
  congrArg (fun slot => ({ view s g id with slot := slot, rx := s.rx.at slot } : View c))
    (Function.update_self _ _ _)

theorem view_setSlot_of_ne (slot : Option (Fin c.async × Stage)) (h : k ≠ id) :
    view s (g.setSlot id slot) k = view s g k :=
  congrArg (fun slot => ({ view s g k with slot := slot, rx := s.rx.at slot } : View c))
    (Function.update_of_ne h _ _)

theorem view_setPlace (place : Option (Fin c.sync × Place)) :
    view s (g.setPlace id place) id = { view s g id with place := place } :=
  congrArg (fun place => ({ view s g id with place := place } : View c))
    (Function.update_self _ _ _)

theorem view_setPlace_of_ne (place : Option (Fin c.sync × Place)) (h : k ≠ id) :
    view s (g.setPlace id place) k = view s g k :=
  congrArg (fun place => ({ view s g k with place := place } : View c))
    (Function.update_of_ne h _ _)

/-! ## The frame -/

theorem Frame.place_of_sem (h : Frame s g) {i : Fin c.sync} (hsem : (s.sync i).sem = some id) :
    ∃ pl, g.place id = some (i, pl) := by
  by_cases hroom : ∀ k pl, g.place k ≠ some (i, pl)
  · rw [h.room hroom] at hsem
    cases hsem
  · simp only [ne_eq, not_forall, not_not] at hroom
    obtain ⟨k, pl, hk⟩ := hroom
    rw [h.sync hk] at hsem
    cases pl with
    | entered => cases hsem
    | full =>
      cases hsem
      exact ⟨.full, hk⟩
    | cleared =>
      cases hsem
      exact ⟨.cleared, hk⟩

theorem Frame.slot_of_appReq (h : Frame s g) {i : Fin c.async}
    (happ : (s.async i).appReq = some id) : ∃ st, g.slot id = some (i, st) := by
  by_cases hroom : ∀ k st, g.slot k ≠ some (i, st)
  · rw [h.vacant hroom] at happ
    cases happ
  · simp only [ne_eq, not_forall, not_not] at hroom
    obtain ⟨k, st, hk⟩ := hroom
    rw [h.async hk] at happ
    have hid : (st.entry (s.uids k) k).appReq = some id → k = id := by
      cases st with
      | entering f => cases f <;> exact nofun
      | entered => exact Option.some_inj.1
      | called pc => cases pc <;> first | exact Option.some_inj.1 | exact nofun
      | expired pc => cases pc <;> first | exact Option.some_inj.1 | exact nofun
    exact ⟨st, hid happ ▸ hk⟩

/-- What a thread that is on its way to a semaphore needs of it. -/
theorem PostPc.Ok.setSem {pc : PostPc c} {sem : Sem} (hpc : pc.Ok s g) (h : Frame s g)
    (hsem : (∃ b, sem = .made b) ∨ ∀ {i pl}, g.place id = some (i, pl) → ¬pc.At i id) :
    pc.Ok (s.setSem id sem) g := by
  cases pc with
  | put | avail | post => trivial
  | sem i =>
    intro k hk
    by_cases hkid : k = id
    · subst hkid
      obtain ⟨pl, hpl⟩ := h.place_of_sem hk
      rcases hsem with ⟨b, rfl⟩ | hnot
      · exact ⟨b, Function.update_self _ _ _⟩
      · exact absurd (.inl rfl) (hnot hpl)
    · obtain ⟨b, hb⟩ := hpc k hk
      exact ⟨b, (Function.update_of_ne hkid _ _).trans hb⟩
  | give k =>
    obtain ⟨⟨i, hi⟩, b, hb⟩ := hpc
    refine ⟨⟨i, hi⟩, ?_⟩
    by_cases hkid : k = id
    · subst hkid
      rcases hsem with ⟨b, rfl⟩ | hnot
      · exact ⟨b, Function.update_self _ _ _⟩
      · exact absurd (.inr rfl) (hnot hi)
    · exact ⟨b, (Function.update_of_ne hkid _ _).trans hb⟩

namespace Frame

theorem setTimer (h : Frame s g) (timer : Timer) : Frame (s.setTimer id timer) g :=
  { h with ok := h.ok }

theorem setTask (h : Frame s g) (pc : TimerPc c) : Frame (s.setTask pc) g :=
  { h with ok := h.ok }

theorem setTx (h : Frame s g) (pc : TxPc c) (hpost : ∀ {p}, pc.posting = some p → p.Ok s g) :
    Frame (s.setTx pc) g :=
  { h with txPost := hpost }

theorem setRx (h : Frame s g) {pc : RxPc c}
    (hentry : ∀ {i x}, pc.entry = some (i, x) → ∃ id st, g.slot id = some (i, st))
    (hpost : ∀ {p}, pc.posting = some p → p.Ok s g) : Frame (s.setRx pc) g :=
  { h with entry := hentry, rxPost := hpost }

theorem setCaller (h : Frame s g) {pc : Caller c}
    (henters : ∀ {i}, pc = .sending (.enter i) → (∀ {k}, s.callers k = .sending (.enter i) →
      k = id) ∧ ∀ k pl, g.place k ≠ some (i, pl)) : Frame (s.setCaller id pc) g := by
  have hcallers := State.callers_setCaller_cases s id pc
  refine { h with enters := ?_, enter := ?_ }
  · intro a b i ha hb
    rcases hcallers a with ⟨rfl, ha'⟩ | ⟨-, ha'⟩ <;>
      rcases hcallers b with ⟨rfl, hb'⟩ | ⟨-, hb'⟩ <;> rw [ha'] at ha <;> rw [hb'] at hb
    · exact ((henters ha).1 hb).symm
    · exact (henters hb).1 ha
    · exact h.enters ha hb
  · intro k i hk
    rcases hcallers k with ⟨rfl, hk'⟩ | ⟨-, hk'⟩ <;> rw [hk'] at hk
    · exact (henters hk).2
    · exact h.enter hk

/-- A caller that is not about to enter its request. -/
theorem setCaller_of_quiet (h : Frame s g) {pc : Caller c}
    (henter : ∀ i, pc ≠ .sending (.enter i)) :
    Frame (s.setCaller id pc) g :=
  h.setCaller fun {i} hi => absurd hi (henter i)

theorem setSem (h : Frame s g) (id : ReqId) (sem : Sem)
    (hsem : (∃ b, sem = .made b) ∨ ∀ {i pl}, g.place id = some (i, pl) → s.Unposted i id) :
    Frame (s.setSem id sem) g where
  __ := h
  txPost := fun {pc} hpc => (h.txPost hpc).setSem h (hsem.imp_right fun hun {_ _} hpl =>
    (hun hpl).1 pc hpc)
  rxPost := fun {pc} hpc => (h.rxPost hpc).setSem h (hsem.imp_right fun hun {_ _} hpl =>
    (hun hpl).2 pc hpc)

theorem call (h : Frame s g) {resp : Resp} (htold : id ∉ s.told) : Frame (s.call id resp) g where
  __ := h
  once := by
    have heq : (s.call id resp).told = s.told ++ [id] := List.map_append
    rw [heq]
    exact List.nodup_append.2 ⟨h.once, List.nodup_singleton _, fun _ ha _ hb hab =>
      htold (List.mem_singleton.1 hb ▸ hab ▸ ha)⟩

theorem push (h : Frame s g) (hid : id ∉ s.txQ) : Frame { s with txQ := s.txQ ++ [id] } g where
  __ := h
  nodup := List.nodup_append.2 ⟨h.nodup, List.nodup_singleton _, fun _ ha _ hb hab =>
    hid (List.mem_singleton.1 hb ▸ hab ▸ ha)⟩

theorem pop {rest : List ReqId} (h : Frame s g) (hq : s.txQ = id :: rest) :
    Frame { s with txQ := rest } g where
  __ := h
  nodup := (List.nodup_cons.1 (hq ▸ h.nodup)).2

/-- A request that is freed, or is not. -/
theorem freed (h : Frame s g) (id : ReqId) (freed : Bool)
    (hmono : s.freed id = true → freed = true) :
    Frame { s with freed := Function.update s.freed id freed } g where
  __ := h
  uids := by
    have huses : ∀ {k}, g.Uses { s with freed := Function.update s.freed id freed } k →
        g.Uses s k := by
      rintro k (hsome | hslot)
      · left
        obtain ⟨r, hr⟩ := Option.isSome_iff_exists.1 hsome
        obtain ⟨hfreed, hreq⟩ := State.req_eq_some.1 hr
        refine Option.isSome_iff_exists.2 ⟨r, State.req_eq_some.2 ⟨?_, hreq⟩⟩
        change Function.update s.freed id freed k = false at hfreed
        by_cases hk : k = id
        · subst hk
          rw [Function.update_self] at hfreed
          refine eq_false_of_ne_true fun htrue => ?_
          exact absurd (hfreed.symm.trans (hmono htrue)) nofun
        · rwa [Function.update_of_ne hk] at hfreed
      · exact .inr hslot
    exact fun {_ _} ha hb => h.uids (huses ha) (huses hb)

theorem uid (h : Frame s g) (uid : UInt32) : Frame { s with uid := uid } g :=
  { h with ok := h.ok }

/-- A request is given its number. -/
theorem numbered (h : Frame s g) {uid : UInt32} (hslot : g.slot id = none)
    (hplace : g.place id = none) (hnew : ∀ {k}, g.Uses s k → s.uids k ≠ uid) :
    Frame { s with uids := Function.update s.uids id uid } g where
  __ := h
  async := by
    intro k i st hk
    have hne : k ≠ id := by
      rintro rfl
      cases hslot.symm.trans hk
    exact (h.async hk).trans (congrArg (st.entry · k) (Function.update_of_ne hne _ _).symm)
  sync := by
    intro k i pl hk
    have hne : k ≠ id := by
      rintro rfl
      cases hplace.symm.trans hk
    exact (h.sync hk).trans (congrArg (pl.entry · k) (Function.update_of_ne hne _ _).symm)
  uids := by
    intro a b ha hb hab hzero
    by_cases haid : a = id <;> by_cases hbid : b = id
    · exact haid.trans hbid.symm
    · subst haid
      change Function.update s.uids a uid a = Function.update s.uids a uid b at hab
      rw [Function.update_self, Function.update_of_ne hbid] at hab
      exact absurd hab.symm (hnew hb)
    · subst hbid
      change Function.update s.uids b uid a = Function.update s.uids b uid b at hab
      rw [Function.update_self, Function.update_of_ne haid] at hab
      exact absurd hab (hnew ha)
    · change Function.update s.uids id uid a = Function.update s.uids id uid b at hab
      change Function.update s.uids id uid a ≠ 0 at hzero
      rw [Function.update_of_ne haid, Function.update_of_ne hbid] at hab
      rw [Function.update_of_ne haid] at hzero
      exact h.uids ha hb hab hzero

/-- A request that is made has no uid yet. -/
theorem add (h : Frame s g) (r : Req) (huid : s.uids s.reqs.length = 0) :
    Frame { s with reqs := s.reqs ++ [r] } g where
  __ := h
  uids := by
    have huses : ∀ {k}, g.Uses { s with reqs := s.reqs ++ [r] } k → s.uids k ≠ 0 → g.Uses s k := by
      rintro k (hsome | hslot) hk
      · left
        obtain ⟨q, hq⟩ := Option.isSome_iff_exists.1 hsome
        obtain ⟨hfreed, hreq⟩ := State.req_eq_some.1 hq
        have hne : k ≠ s.reqs.length := by
          rintro rfl
          exact hk huid
        have hview := congrArg View.req (view_add_of_ne (g := g) r hne)
        exact Option.isSome_iff_exists.2 ⟨q, State.req_eq_some.2 ⟨hfreed, hview.symm.trans hreq⟩⟩
      · exact .inr hslot
    exact fun {_ _} ha hb hab hzero => h.uids (huses ha hzero) (huses hb (hab ▸ hzero)) hab hzero

/-- An entry of `async_rsp_table` is written. -/
theorem setAsync (h : Frame s g) (id : ReqId) (i : Fin c.async) (e : AsyncRsp)
    (slot : Option (Fin c.async × Stage)) (hold : ∀ {j st}, g.slot id = some (j, st) → j = i)
    (hother : ∀ {k st}, g.slot k = some (i, st) → k = id)
    (hentry : slot = none ∧ e = {} ∨ ∃ st, slot = some (i, st) ∧ e = st.entry (s.uids id) id)
    (hrx : slot = none → ∀ x, s.rx.entry ≠ some (i, x))
    (huses : ∀ {j st}, slot = some (j, st) → st.shows = true → g.Uses s id) :
    Frame (s.setAsync i e) (g.setSlot id slot) := by
  have hslot : ∀ {k j st}, (g.setSlot id slot).slot k = some (j, st) →
      k = id ∧ j = i ∧ slot = some (i, st) ∧ e = st.entry (s.uids id) id ∨
      k ≠ id ∧ j ≠ i ∧ g.slot k = some (j, st) := by
    intro k j st hk
    by_cases hkid : k = id
    · subst hkid
      rw [Ghost.slot_setSlot] at hk
      rcases hentry with ⟨hnone, -⟩ | ⟨st', hst, he⟩
      · cases hnone.symm.trans hk
      · cases hst.symm.trans hk
        exact .inl ⟨rfl, rfl, hst, he⟩
    · rw [Ghost.slot_setSlot_of_ne hkid] at hk
      refine .inr ⟨hkid, ?_, hk⟩
      rintro rfl
      exact hkid (hother hk)
  refine { h with async := ?_, vacant := ?_, slots := ?_, entry := ?_, uids := ?_ }
  · intro k j st hk
    rcases hslot hk with ⟨rfl, rfl, -, he⟩ | ⟨-, hj, hk⟩
    · exact (Function.update_self _ _ _).trans he
    · exact (Function.update_of_ne hj _ _).trans (h.async hk)
  · intro j hj
    by_cases hji : j = i
    · subst hji
      rcases hentry with ⟨-, rfl⟩ | ⟨st, rfl, -⟩
      · exact Function.update_self _ _ _
      · exact absurd (Function.update_self _ _ _) (hj id st)
    · refine (Function.update_of_ne hji _ _).trans (h.vacant fun k st hk => ?_)
      have hkid : k ≠ id := by
        rintro rfl
        exact hji (hold hk)
      exact hj k st ((Function.update_of_ne hkid _ _).trans hk)
  · intro a b j st st' ha hb
    rcases hslot ha with ⟨rfl, rfl, -⟩ | ⟨-, hj, ha⟩ <;>
      rcases hslot hb with ⟨rfl, hj', -⟩ | ⟨-, hj', hb⟩
    · rfl
    · exact absurd rfl hj'
    · exact absurd hj' hj
    · exact h.slots ha hb
  · intro j x hx
    by_cases hji : j = i
    · subst hji
      rcases hentry with ⟨hnone, -⟩ | ⟨st, rfl, -⟩
      · exact absurd hx (hrx hnone x)
      · exact ⟨id, st, Function.update_self _ _ _⟩
    · obtain ⟨k, st, hk⟩ := h.entry hx
      have hkid : k ≠ id := by
        rintro rfl
        exact hji (hold hk)
      exact ⟨k, st, (Function.update_of_ne hkid _ _).trans hk⟩
  · have hback : ∀ {k}, (g.setSlot id slot).Uses (s.setAsync i e) k → g.Uses s k := by
      rintro k (hsome | ⟨j, st, hk, hshows⟩)
      · exact .inl hsome
      · rcases hslot hk with ⟨rfl, -, hst, -⟩ | ⟨-, -, hk⟩
        · exact huses hst hshows
        · exact .inr ⟨j, st, hk, hshows⟩
    exact fun {_ _} ha hb => h.uids (hback ha) (hback hb)

/-- An entry of `sync_rsp_table` is written. -/
theorem setSync (h : Frame s g) {i : Fin c.sync} {e : SyncRsp} {place : Option (Fin c.sync × Place)}
    (hold : ∀ {j pl}, g.place id = some (j, pl) → j = i)
    (hother : ∀ {k pl}, g.place k = some (i, pl) → k = id)
    (hentry : place = none ∧ e = {} ∨ ∃ pl, place = some (i, pl) ∧ e = pl.entry (s.uids id) id)
    (henter : ∀ k, s.callers k ≠ .sending (.enter i))
    (hsem : e.sem = (s.sync i).sem ∨ ∀ k ∈ e.sem, ∃ b, s.sems k = .made b)
    (hgive : ∀ {j b}, g.place id = some (j, .full) → s.sems id = .made b →
      place = some (i, .full)) :
    Frame (s.setSync i e) (g.setPlace id place) := by
  have hplace : ∀ {k j pl}, (g.setPlace id place).place k = some (j, pl) →
      k = id ∧ j = i ∧ place = some (i, pl) ∧ e = pl.entry (s.uids id) id ∨
      k ≠ id ∧ j ≠ i ∧ g.place k = some (j, pl) := by
    intro k j pl hk
    by_cases hkid : k = id
    · subst hkid
      rw [Ghost.place_setPlace] at hk
      rcases hentry with ⟨hnone, -⟩ | ⟨pl', hpl, he⟩
      · cases hnone.symm.trans hk
      · cases hpl.symm.trans hk
        exact .inl ⟨rfl, rfl, hpl, he⟩
    · rw [Ghost.place_setPlace_of_ne hkid] at hk
      refine .inr ⟨hkid, ?_, hk⟩
      rintro rfl
      exact hkid (hother hk)
  have hpost : ∀ {pc : PostPc c}, pc.Ok s g → pc.Ok (s.setSync i e) (g.setPlace id place) := by
    intro pc hpc
    cases pc with
    | put | avail | post => trivial
    | sem j =>
      intro k hk
      by_cases hji : j = i
      · subst hji
        replace hk : e.sem = some k :=
          (congrArg SyncRsp.sem (Function.update_self _ _ _)).symm.trans hk
        rcases hsem with hsame | hmade
        · exact hpc k (hsame.symm.trans hk)
        · exact hmade k hk
      · exact hpc k ((congrArg SyncRsp.sem (Function.update_of_ne hji _ _)).symm.trans hk)
    | give k =>
      obtain ⟨⟨j, hj⟩, b, hb⟩ := hpc
      refine ⟨?_, b, hb⟩
      by_cases hkid : k = id
      · subst hkid
        exact ⟨i, (Function.update_self _ _ _).trans (hgive hj hb)⟩
      · exact ⟨j, (Function.update_of_ne hkid _ _).trans hj⟩
  refine { h with sync := ?_, room := ?_, places := ?_, enter := ?_, txPost := ?_, rxPost := ?_ }
  · intro k j pl hk
    rcases hplace hk with ⟨rfl, rfl, -, he⟩ | ⟨-, hj, hk⟩
    · exact (Function.update_self _ _ _).trans he
    · exact (Function.update_of_ne hj _ _).trans (h.sync hk)
  · intro j hj
    by_cases hji : j = i
    · subst hji
      rcases hentry with ⟨-, rfl⟩ | ⟨pl, rfl, -⟩
      · exact Function.update_self _ _ _
      · exact absurd (Function.update_self _ _ _) (hj id pl)
    · refine (Function.update_of_ne hji _ _).trans (h.room fun k pl hk => ?_)
      have hkid : k ≠ id := by
        rintro rfl
        exact hji (hold hk)
      exact hj k pl ((Function.update_of_ne hkid _ _).trans hk)
  · intro a b j pl pl' ha hb
    rcases hplace ha with ⟨rfl, rfl, -⟩ | ⟨-, hj, ha⟩ <;>
      rcases hplace hb with ⟨rfl, hj', -⟩ | ⟨-, hj', hb⟩
    · rfl
    · exact absurd rfl hj'
    · exact absurd hj' hj
    · exact h.places ha hb
  · intro k j hk a pl ha
    rcases hplace ha with ⟨-, rfl, -⟩ | ⟨-, -, ha⟩
    · exact henter k hk
    · exact h.enter hk a pl ha
  · exact fun hpc => hpost (h.txPost hpc)
  · exact fun hpc => hpost (h.rxPost hpc)

end Frame

end EspHostedOpen.RpcCore
