import EspHostedOpen.Host.Accounting

/-!
# Responses and the buffers of finished calls

`on_response` tests `in_use` and copies under the mutex, `do_call` clears `in_use` and returns
without it. `copies_into_live_calls`: where no slot with a buffer is released between a match on it
and the copy, the buffer copied into belongs to a call that has not returned.
`release_during_copy_breaks`: wherever one is, the call can return first, and `copy_after_return` is
a run in which it does.
-/

namespace EspHostedOpen.Dispatcher

open Sharing Transition

/-- Matched, the copy still to come. -/
def RxPc.pending : RxPc → Option (Response × SlotId)
  | .matched m k | .statusSet m k => some (m, k)
  | _ => none

/-- Some `on_response` is between its match on the slot and the copy of a body. -/
def CopyPending (s : State) (k : SlotId) : Prop :=
  ∃ j m, (s.rxs j).pending = some (m, k) ∧ m.body ≠ []

/-- `in_use` of a slot with a buffer is cleared only while no copy into it is pending. -/
def ReleasesIdle (s : State) : Action → Prop
  | .call c => ∀ h r, s.calls c = .clearing h r → h.args.respBodyCap ≠ 0 → ¬CopyPending s h.slot
  | _ => True

/-- The `memcpy` that comes next goes into the buffer of a call that has not returned. -/
def CopiesLive (s : State) : Prop :=
  ∀ j m k c, s.rxs j = .statusSet m k → m.body ≠ [] → (s.slots k).outBuf = some c →
    ∀ r, s.calls c ≠ .returned r

/-! ## Pending copies keep their slot -/

/-- The slot of a pending copy is in use. -/
def PendingUsed (s : State) : Prop :=
  ∀ j m k, (s.rxs j).pending = some (m, k) → m.body ≠ [] → (s.slots k).outBuf ≠ none →
    (s.slots k).inUse = true

theorem lease_eq_iff {sl sl' : Inflight} (h : sl'.lease = sl.lease) :
    sl'.inUse = sl.inUse ∧ sl'.outBuf = sl.outBuf := by
  simp only [Inflight.lease, Prod.mk.injEq] at h
  exact ⟨h.1, h.2.2.2.1⟩

/-- The slot of a call with a buffer points to it. -/
theorem Sound.outBuf_of_holds {s : State} (h : Sound s) {c : CallId} {r : Reservation}
    (hc : (s.calls c).holds = some r) : (s.slots r.slot).outBuf = outBuf r.args c := by
  have hserves := h.serves hc
  simp only [Inflight.lease, Reservation.lease, Prod.mk.injEq] at hserves
  exact hserves.2.2.2.1

section Pending

variable {s s' : State}

/-- No new match, and the slots serve whom they served. -/
theorem PendingUsed.congr (h : PendingUsed s)
    (hrxs : ∀ j p, (s'.rxs j).pending = some p → (s.rxs j).pending = some p)
    (hslots : ∀ k, (s'.slots k).lease = (s.slots k).lease) : PendingUsed s' := by
  intro j m k hj hbody hbuf
  obtain ⟨huse, hout⟩ := lease_eq_iff (hslots k)
  rw [hout] at hbuf
  rw [huse]
  exact h j m k (hrxs j _ hj) hbody hbuf

/-- A response that goes on without a match. -/
theorem pending_setRx {j : RxId} {rpc old : RxPc} (hj : s.rxs j = old)
    (hnew : ∀ p, rpc.pending = some p → old.pending = some p) (j' : RxId) (p : Response × SlotId)
    (h : ((s.setRx j rpc).rxs j').pending = some p) : (s.rxs j').pending = some p := by
  by_cases heq : j' = j
  · subst heq
    rw [State.setRx_self] at h
    rw [hj]
    exact hnew p h
  · rwa [State.setRx_ne _ _ heq] at h

/-- **One step** keeps it where the release is guarded. -/
theorem pendingUsed_effect {a : Action} (h : PendingUsed s) (hsound : Sound s)
    (hG : ReleasesIdle s a) (heff : Effect s a s') : PendingUsed s' := by
  have sameRxs : ∀ j p, (s.rxs j).pending = some p → (s.rxs j).pending = some p := fun _ _ hp => hp
  cases heff with
  | reserve hc =>
    rename_i c a k
    intro j m k' hj hbody hbuf
    by_cases hk : k' = k
    · subst hk
      rw [State.setCall_slots, State.setSlot_self]
      rfl
    · have hsame :
        ((State.setSlot { s with nextOpId := s.nextOpId + 1, allotted := s.allotted + 1 } k
          (reserve (s.slots k) c a s.nextOpId)).slots k') = s.slots k' := State.setSlot_ne _ _ hk
      have hbuf' : (s.slots k').outBuf ≠ none := hsame ▸ hbuf
      exact (congrArg Inflight.inUse hsame).trans (h j m k' hj hbody hbuf')
  | clear hc =>
    rename_i c r res
    intro j m k hj hbody hbuf
    have hout := hsound.outBuf_of_holds (c := c) (r := r) (by rw [hc]; rfl)
    by_cases hk : k = r.slot
    · subst hk
      have hbuf' : (s.slots r.slot).outBuf ≠ none := by
        have hself := State.setSlot_self s r.slot { s.slots r.slot with inUse := false }
        exact fun hnone => hbuf ((congrArg Inflight.outBuf hself).trans hnone)
      have hcap : r.args.respBodyCap ≠ 0 := by
        intro hzero
        apply hbuf'
        rw [hout, outBuf, if_pos hzero]
      exact absurd ⟨j, m, hj, hbody⟩ (hG r res hc hcap)
    · have hsame : (s.setSlot r.slot { s.slots r.slot with inUse := false }).slots k = s.slots k :=
        State.setSlot_ne _ _ hk
      have hbuf' : (s.slots k).outBuf ≠ none := hsame ▸ hbuf
      exact (congrArg Inflight.inUse hsame).trans (h j m k hj hbody hbuf')
  | rxMatch hj hk hm =>
    rename_i j m i k
    intro j' m' k' hj' hbody hbuf
    by_cases heq : j' = j
    · subst heq
      rw [State.setRx_self] at hj'
      cases hj'
      simp only [Inflight.awaits, Bool.and_eq_true] at hm
      exact hm.1.1
    · rw [State.setRx_ne _ _ heq] at hj'
      exact h j' m' k' hj' hbody hbuf
  | takeDone hc hdone => exact h.congr sameRxs (setSlot_lease rfl)
  | arrive hj => exact h.congr (pending_setRx hj nofun) fun _ => rfl
  | rxTake hj hfree => exact h.congr (pending_setRx hj nofun) fun _ => rfl
  | rxMiss hj _ _ => exact h.congr (pending_setRx hj nofun) fun _ => rfl
  | rxNone hj _ => exact h.congr (pending_setRx hj nofun) fun _ => rfl
  | rxStatus hj => exact h.congr (pending_setRx hj fun _ hp => hp) (setSlot_lease rfl)
  | rxCopy hj =>
    obtain ⟨-, -, hrxs, -⟩ := copyBody_rest s _ _
    refine h.congr (fun j p hp => ?_) (copyBody_lease s _ _)
    rw [← hrxs]
    refine pending_setRx ((congrFun hrxs _).trans hj) ?_ j p hp
    nofun
  | rxGive hj => exact h.congr (pending_setRx hj nofun) (setSlot_lease rfl)
  | rxLeave hj => exact h.congr (pending_setRx hj nofun) fun _ => rfl
  | _ => exact h.congr sameRxs fun _ => rfl

theorem pendingUsed_of_reach (h : Reach step ReleasesIdle {} s) : PendingUsed s := by
  have hboth : Sound s ∧ PendingUsed s := by
    refine h.invariant (I := fun s => Sound s ∧ PendingUsed s) ⟨sound_init, by rintro j m k ⟨⟩⟩ ?_
    rintro s s' a ⟨hsound, hpend⟩ hG hstep
    have heff := step_effect hstep
    exact ⟨sound_effect hsound heff, pendingUsed_effect hpend hsound hG heff⟩
  exact hboth.2

end Pending

/-- A slot in use belongs to the call whose buffer it has. -/
theorem Sound.holds_of_outBuf {s : State} (h : Sound s) {k : SlotId} {c : CallId}
    (huse : (s.slots k).inUse = true) (hbuf : (s.slots k).outBuf = some c) :
    ∃ r, (s.calls c).holds = some r := by
  obtain ⟨c', hlease⟩ := h.slots.owned huse
  obtain ⟨r, hr, hslot⟩ := Option.map_eq_some_iff.1 hlease
  have hown : some c = outBuf r.args c' := by rw [← hbuf, ← hslot, h.outBuf_of_holds hr]
  unfold outBuf at hown
  split at hown
  · cases hown
  · cases hown
    exact ⟨r, hr⟩

/-- **Buffers outlive the copies into them** in every run that releases no slot under a pending
copy. -/
theorem copies_into_live_calls {s : State} (h : Reach step ReleasesIdle {} s) : CopiesLive s := by
  intro j m k c hj hbody hbuf r hret
  have hpending : (s.rxs j).pending = some (m, k) := by rw [hj]; rfl
  have hsome : (s.slots k).outBuf ≠ none := by rw [hbuf]; nofun
  have huse := pendingUsed_of_reach h j m k hpending hbody hsome
  obtain ⟨res, hholds⟩ := (sound_of_reach h).holds_of_outBuf huse hbuf
  rw [hret] at hholds
  cases hholds

/-- **The condition is exact**: from a release under a pending copy the call can return before the
copy. -/
theorem release_during_copy_breaks {s : State} (hsound : Sound s) {c : CallId} {h : Reservation}
    {r : CallResult} (hc : s.calls c = .clearing h r) (hcap : h.args.respBodyCap ≠ 0)
    (hpending : CopyPending s h.slot) : ∃ s', Reach step Free s s' ∧ ¬CopiesLive s' := by
  obtain ⟨j, m, hj, hbody⟩ := hpending
  have hbuf : (s.slots h.slot).outBuf = some c := by
    rw [hsound.outBuf_of_holds (c := c) (by rw [hc]; rfl), outBuf, if_neg hcap]
  -- the call clears `in_use` and returns
  let s₁ := (s.setSlot h.slot { s.slots h.slot with inUse := false }).setCall c (.returning r)
  let s₂ := s₁.setCall c (.returned r)
  have hstep₁ : step s (.call c) = some s₁ := by simp only [step, callStep, hc]; rfl
  have hcall₁ : s₁.calls c = .returning r := State.setCall_self _ _ _
  have hstep₂ : step s₁ (.call c) = some s₂ := by simp only [step, callStep, hcall₁]; rfl
  have hreach : Reach step Free s s₂ := (Reach.init.step trivial hstep₁).step trivial hstep₂
  have hret : s₂.calls c = .returned r := State.setCall_self _ _ _
  have hslot : (s₂.slots h.slot).outBuf = some c :=
    (congrArg Inflight.outBuf (State.setSlot_self s h.slot _)).trans hbuf
  cases hrx : s.rxs j with
  | statusSet m' k =>
    rw [hrx] at hj
    cases hj
    exact ⟨s₂, hreach, fun hlive => hlive j m h.slot c hrx hbody hslot r hret⟩
  | matched m' k =>
    rw [hrx] at hj
    cases hj
    -- the status is stored, and the copy comes next
    let s₃ := (s₂.setSlot h.slot { s₂.slots h.slot with status := m.status }).setRx j
      (.statusSet m h.slot)
    have hrx₂ : s₂.rxs j = .matched m h.slot := hrx
    have hstep₃ : step s₂ (.rx j) = some s₃ := by simp only [step, rxStep, hrx₂]; rfl
    have hslot₃ : (s₃.slots h.slot).outBuf = some c :=
      (congrArg Inflight.outBuf (State.setSlot_self s₂ h.slot _)).trans hslot
    refine ⟨s₃, hreach.step trivial hstep₃, fun hlive => ?_⟩
    exact hlive j m h.slot c (State.setRx_self _ _ _) hbody hslot₃ r hret
  | _ =>
    rw [hrx] at hj
    cases hj

/-- The getters' call: a response body of eight bytes. -/
def ccaCall : Call :=
  { reqMsgId := Rpc.getCcaCounters.req, respMsgId := Rpc.getCcaCounters.resp, reqBody := []
    respBodyCap := 8 }

/-- The slave's answer to op_id 1, with a body of eight bytes. -/
def ccaResponse : Response :=
  { msgId := Rpc.getCcaCounters.resp, data := [1, 0, 0, 0, 0, 0, 0, 0, 1, 2, 3, 4, 0, 0, 0, 0] }

/-- Up to the match: reserve, send, wait, and the answer comes in. -/
def matchedRun : List Action :=
  [.invoke 0 ccaCall true, .call 0, .call 0, .call 0, .call 0, .call 0, .sendResult 0 espOk,
    .deliver 0 ccaResponse, .rx 0, .rx 0]

/-- No call is about to clear `in_use`. -/
def noRelease (s : State) : Action → Bool
  | .call c =>
    match s.calls c with
    | .clearing .. => false
    | _ => true
  | _ => true

theorem releasesIdle_of_noRelease (s : State) (a : Action) (h : noRelease s a = true) :
    ReleasesIdle s a := by
  cases a with
  | call c =>
    intro r res hc
    simp only [noRelease, hc] at h
    cases h
  | _ => trivial

theorem copies_live_matchedRun :
    ∃ s, run (guarded noRelease step) {} (matchedRun ++ [.rx 0]) = some s ∧
      s.rxs 0 = .statusSet ccaResponse 0 ∧ CopiesLive s := by
  have hrun : ∃ s, run (guarded noRelease step) {} (matchedRun ++ [.rx 0]) = some s ∧
      s.rxs 0 = .statusSet ccaResponse 0 := ⟨_, rfl, rfl⟩
  obtain ⟨s, hs, hrx⟩ := hrun
  exact ⟨s, hs, hrx, copies_into_live_calls (reach_of_guarded_run releasesIdle_of_noRelease hs)⟩

/-- The call times out, clears `in_use` and returns between the match and the copy. -/
theorem copy_after_return :
    ∃ s, run step {} (matchedRun ++ [.timeout 0, .call 0, .call 0, .rx 0]) = some s ∧
      ¬CopiesLive s := by
  refine ⟨_, rfl, fun h => ?_⟩
  exact h 0 ccaResponse 0 0 rfl (by decide) rfl (.failed espErrTimeout) rfl

end EspHostedOpen.Dispatcher
