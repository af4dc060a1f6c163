import EspHostedOpen.Host.Accounting

/-!
# Semaphore tokens and the calls they complete

The three paths that release a slot leave its semaphore as it is: a response that comes in after a
failed send or after a timeout leaves a token for whoever reserves the slot next.
`completions_are_own`: where every reservation finds the semaphore of its slot empty, a call is
completed by a response to its own op_id. `stale_token_completes`: where one does not, the next call
can return before anything was answered, and `stale_completion` is a run in which it does.
-/

namespace EspHostedOpen.Dispatcher

open Sharing Transition

/-! ## The condition and the property -/

/-- Responses to one op_id under one id are copies of each other. -/
def Copies (s : State) : Prop :=
  ∀ m ∈ s.delivered, ∀ m' ∈ s.delivered, m.opId = m'.opId → m.msgId = m'.msgId → m = m'

/-- A reservation finds the semaphore of its slot empty; a response that comes in again is a
copy. -/
def FreshTokens (s : State) : Action → Prop
  | .call c => ∀ a k, s.calls c = .found a k → (s.slots k).done = false
  | .deliver _ m => ∀ m' ∈ s.delivered, m'.opId = m.opId → m'.msgId = m.msgId → m' = m
  | _ => True

/-- The result is that of a response to the call's own op_id. -/
def OwnResult (s : State) : CallResult → Prop
  | .failed _ => True
  | .completed a op st len =>
    ∃ m ∈ s.delivered, m.opId = op ∧ m.msgId = a.respMsgId ∧ st = m.status ∧
      len = min m.body.length a.respBodyCap

/-- Every call that returned after taking its semaphore has a result of its own. -/
def CompletedOwn (s : State) : Prop := ∀ c r, s.calls c = .returned r → OwnResult s r

/-! ## What the slots hold -/

/-- A delivered response that the slot's reservation waits for. -/
def Answers (s : State) (k : SlotId) (m : Response) : Prop :=
  m ∈ s.delivered ∧ m.opId = (s.slots k).opId ∧ m.msgId = (s.slots k).wantRespId

/-- Status and length of the slot are those of a response it waits for. -/
def Filled (s : State) (k : SlotId) : Prop :=
  ∃ m, Answers s k m ∧ (s.slots k).status = m.status ∧ (s.slots k).outLen = (s.slots k).copyLen m

def RxHonest (s : State) : RxPc → Prop
  | .idle | .leaving => True
  | .arrived m | .scanning m _ => m ∈ s.delivered
  | .matched m k => Answers s k m
  | .statusSet m k => Answers s k m ∧ (s.slots k).status = m.status
  | .copied m k =>
    Answers s k m ∧ (s.slots k).status = m.status ∧ (s.slots k).outLen = (s.slots k).copyLen m

def CallHonest (s : State) : CallPc → Prop
  | .took h => Filled s h.slot
  | .gotStatus h st =>
    ∃ m, Answers s h.slot m ∧ st = m.status ∧
      (s.slots h.slot).outLen = (s.slots h.slot).copyLen m
  | .clearing _ r | .returning r | .returned r => OwnResult s r
  | _ => True

/-- **The invariant**: a token stands for a response to the reservation it would complete. -/
structure Honest (s : State) : Prop where
  copies : Copies s
  rxs : ∀ j, RxHonest s (s.rxs j)
  calls : ∀ c, CallHonest s (s.calls c)
  done : ∀ k, (s.slots k).done = true → Filled s k
  /-- The length is still 0 or that of a response. -/
  len : ∀ k, (s.slots k).outLen = 0 ∨
    ∃ m, Answers s k m ∧ (s.slots k).outLen = (s.slots k).copyLen m

theorem honest_init : Honest {} where
  copies := by rintro m ⟨⟩
  rxs := fun _ => trivial
  calls := fun _ => trivial
  done := by rintro k ⟨⟩
  len := fun _ => .inl rfl

/-! ## Writes to a slot -/

/-- What `s'` keeps of slot `k`: the reservation, and whatever was that of a response. -/
structure Keeps (s s' : State) (k : SlotId) : Prop where
  opId : (s'.slots k).opId = (s.slots k).opId
  wantRespId : (s'.slots k).wantRespId = (s.slots k).wantRespId
  outBuf : (s'.slots k).outBuf = (s.slots k).outBuf
  outCap : (s'.slots k).outCap = (s.slots k).outCap
  status : ∀ m, Answers s k m → (s.slots k).status = m.status → (s'.slots k).status = m.status
  outLen : ∀ m, Answers s k m → (s.slots k).outLen = (s.slots k).copyLen m →
    (s'.slots k).outLen = (s.slots k).copyLen m
  zero : (s.slots k).outLen = 0 → (s'.slots k).outLen = 0 ∨
    ∃ m, Answers s k m ∧ (s'.slots k).outLen = (s.slots k).copyLen m

section Keep

variable {s s' : State} {k : SlotId} {m : Response}

/-- Nothing but the semaphore or `in_use` was written. -/
theorem Keeps.of_eq (hid : (s'.slots k).lease.2 = (s.slots k).lease.2)
    (hst : (s'.slots k).status = (s.slots k).status)
    (hlen : (s'.slots k).outLen = (s.slots k).outLen) : Keeps s s' k := by
  simp only [Inflight.lease, Prod.mk.injEq] at hid
  obtain ⟨hop, hwant, hbuf, hcap⟩ := hid
  exact ⟨hop, hwant, hbuf, hcap, fun _ _ h => hst.trans h, fun _ _ h => hlen.trans h,
    fun h => .inl (hlen.trans h)⟩

/-- A slot rewritten so. -/
theorem keeps_setSlot {sl : Inflight} (hid : sl.lease.2 = (s.slots k).lease.2)
    (hst : sl.status = (s.slots k).status) (hlen : sl.outLen = (s.slots k).outLen) :
    Keeps s (s.setSlot k sl) k := by
  have hself := State.setSlot_self s k sl
  exact .of_eq (by rw [hself, hid]) (by rw [hself, hst]) (by rw [hself, hlen])

theorem Keeps.copyLen (h : Keeps s s' k) (m : Response) :
    (s'.slots k).copyLen m = (s.slots k).copyLen m := by
  rw [Inflight.copyLen, Inflight.copyLen, h.outBuf, h.outCap]

theorem Answers.keep (h : Answers s k m) (hk : Keeps s s' k)
    (hd : ∀ m ∈ s.delivered, m ∈ s'.delivered) : Answers s' k m :=
  ⟨hd m h.1, h.2.1.trans hk.opId.symm, h.2.2.trans hk.wantRespId.symm⟩

theorem Filled.keep (h : Filled s k) (hk : Keeps s s' k)
    (hd : ∀ m ∈ s.delivered, m ∈ s'.delivered) : Filled s' k := by
  obtain ⟨m, hans, hst, hlen⟩ := h
  exact ⟨m, hans.keep hk hd, hk.status m hans hst, (hk.copyLen m).symm ▸ hk.outLen m hans hlen⟩

variable (hd : ∀ m ∈ s.delivered, m ∈ s'.delivered)
include hd

theorem OwnResult.keep {r : CallResult} (h : OwnResult s r) : OwnResult s' r := by
  cases r with
  | failed err => trivial
  | completed a op st len =>
    obtain ⟨m, hm, hrest⟩ := h
    exact ⟨m, hd m hm, hrest⟩

theorem RxHonest.keep {pc : RxPc} (h : RxHonest s pc) (hk : ∀ m k, (pc = .matched m k ∨
    pc = .statusSet m k ∨ pc = .copied m k) → Keeps s s' k) : RxHonest s' pc := by
  cases pc with
  | idle | leaving => trivial
  | arrived m | scanning m i => exact hd m h
  | matched m k => exact Answers.keep h (hk m k (.inl rfl)) hd
  | statusSet m k =>
    have hkeep := hk m k (.inr (.inl rfl))
    exact ⟨h.1.keep hkeep hd, hkeep.status m h.1 h.2⟩
  | copied m k =>
    have hkeep := hk m k (.inr (.inr rfl))
    obtain ⟨hans, hst, hlen⟩ := h
    refine ⟨hans.keep hkeep hd, hkeep.status m hans hst, ?_⟩
    rw [hkeep.copyLen]
    exact hkeep.outLen m hans hlen

theorem CallHonest.keep {pc : CallPc} (h : CallHonest s pc)
    (hk : ∀ r, pc.holds = some r → Keeps s s' r.slot) : CallHonest s' pc := by
  cases pc with
  | took r => exact Filled.keep h (hk r rfl) hd
  | gotStatus r st =>
    obtain ⟨m, hans, hst, hlen⟩ := h
    have hkeep := hk r rfl
    refine ⟨m, hans.keep hkeep hd, hst, ?_⟩
    rw [hkeep.copyLen]
    exact hkeep.outLen m hans hlen
  | clearing _ r | returning r | returned r => exact OwnResult.keep hd h
  | _ => trivial

end Keep

namespace Honest

variable {s s' : State}

/-- **Frame**: the slots are kept, and a task that moved is honest where it is now. -/
theorem frame (h : Honest s) (hd : ∀ m ∈ s.delivered, m ∈ s'.delivered) (hcopies : Copies s')
    (hk : ∀ k, Keeps s s' k)
    (hdone : ∀ k, (s'.slots k).done = true → (s.slots k).done = true ∨ Filled s' k)
    (hcalls : ∀ c, s'.calls c = s.calls c ∨ CallHonest s' (s'.calls c))
    (hrxs : ∀ j, s'.rxs j = s.rxs j ∨ RxHonest s' (s'.rxs j)) : Honest s' where
  copies := hcopies
  rxs := by
    intro j
    rcases hrxs j with heq | hnew
    · rw [heq]
      exact (h.rxs j).keep hd fun m k _ => hk k
    · exact hnew
  calls := by
    intro c
    rcases hcalls c with heq | hnew
    · rw [heq]
      exact (h.calls c).keep hd fun r _ => hk r.slot
    · exact hnew
  done := by
    intro k hk'
    rcases hdone k hk' with hold | hnew
    · exact (h.done k hold).keep (hk k) hd
    · exact hnew
  len := by
    intro k
    have hkeep := hk k
    rcases h.len k with hzero | ⟨m, hans, hlen⟩
    · rcases hkeep.zero hzero with hzero' | ⟨m, hans, hlen⟩
      · exact .inl hzero'
      · exact .inr ⟨m, hans.keep hkeep hd, hlen.trans (hkeep.copyLen m).symm⟩
    · exact .inr ⟨m, hans.keep hkeep hd, (hkeep.outLen m hans hlen).trans (hkeep.copyLen m).symm⟩

/-- A call goes on. -/
theorem moveCall (h : Honest s) {owner : Option Agent} {c : CallId} {p : CallPc}
    (hp : CallHonest s p) : Honest ((s.setMutex owner).setCall c p) := by
  refine h.frame (fun _ hm => hm) h.copies (fun _ => .of_eq rfl rfl rfl) (fun _ hdone => .inl hdone)
    (fun c' => ?_) fun _ => .inl rfl
  by_cases heq : c' = c
  · subst heq
    rw [State.setCall_self]
    exact .inr (CallHonest.keep (fun _ hm => hm) hp fun _ _ => .of_eq rfl rfl rfl)
  · exact .inl (State.setCall_ne _ _ heq)

/-- A response goes on. -/
theorem moveRx (h : Honest s) {owner : Option Agent} {j : RxId} {p : RxPc} (hp : RxHonest s p) :
    Honest ((s.setMutex owner).setRx j p) := by
  refine h.frame (fun _ hm => hm) h.copies (fun _ => .of_eq rfl rfl rfl) (fun _ hdone => .inl hdone)
    (fun _ => .inl rfl) fun j' => ?_
  by_cases heq : j' = j
  · subst heq
    rw [State.setRx_self]
    exact .inr (RxHonest.keep (fun _ hm => hm) hp fun _ _ _ => .of_eq rfl rfl rfl)
  · exact .inl (State.setRx_ne _ _ heq)

/-- A slot is written. -/
theorem setSlot (h : Honest s) {k : SlotId} {sl : Inflight} (hk : Keeps s (s.setSlot k sl) k)
    (hdone : sl.done = true → (s.slots k).done = true ∨ Filled (s.setSlot k sl) k) :
    Honest (s.setSlot k sl) := by
  refine h.frame (fun _ hm => hm) h.copies (fun k' => ?_) (fun k' hk' => ?_) (fun _ => .inl rfl)
    fun _ => .inl rfl
  · by_cases heq : k' = k
    · exact heq ▸ hk
    · have hsame := State.setSlot_ne s sl heq
      exact .of_eq (by rw [hsame]) (by rw [hsame]) (by rw [hsame])
  · by_cases heq : k' = k
    · subst heq
      rw [State.setSlot_self] at hk'
      exact hdone hk'
    · rw [State.setSlot_ne _ _ heq] at hk'
      exact .inl hk'

/-- Two responses a slot waits for are copies. -/
theorem answers_unique (h : Honest s) {k : SlotId} {m m' : Response} (hm : Answers s k m)
    (hm' : Answers s k m') : m = m' :=
  h.copies m hm.1 m' hm'.1 (hm.2.1.trans hm'.2.1.symm) (hm.2.2.trans hm'.2.2.symm)

/-- Storing the status of a response the slot waits for. -/
theorem storeStatus (h : Honest s) {k : SlotId} {m : Response} (hans : Answers s k m) :
    Honest (s.setSlot k { s.slots k with status := m.status }) := by
  refine h.setSlot ?_ fun hdone => .inl hdone
  have hself := State.setSlot_self s k { s.slots k with status := m.status }
  refine ⟨by rw [hself], by rw [hself], by rw [hself], by rw [hself], fun m' hans' _ => ?_,
    fun m' _ hlen => ?_, fun hzero => .inl ?_⟩
  · rw [hself, h.answers_unique hans hans']
  · rw [hself]
    exact hlen
  · rw [hself]
    exact hzero

/-- Copying the body of a response the slot waits for. -/
theorem copyBody (h : Honest s) {k : SlotId} {m : Response} (hans : Answers s k m)
    (hst : (s.slots k).status = m.status) :
    Honest (copyBody s m k) ∧ RxHonest (copyBody s m k) (.copied m k) := by
  -- where nothing is copied, the length is the one of an empty copy
  have hskip : (s.slots k).copyLen m = 0 → (s.slots k).outLen = (s.slots k).copyLen m := by
    intro hnone
    rcases h.len k with hzero | ⟨m', hans', hlen⟩
    · rw [hzero, hnone]
    · rw [h.answers_unique hans hans', hlen]
  unfold Dispatcher.copyBody
  split
  · rename_i hbuf
    exact ⟨h, hans, hst, hskip (by rw [Inflight.copyLen, if_pos hbuf])⟩
  · rename_i c hbuf
    split
    · rename_i hbody
      refine ⟨h, hans, hst, hskip ?_⟩
      rw [Inflight.copyLen, hbody]
      split
      · rfl
      · exact Nat.zero_min _
    · let sl : Inflight := { s.slots k with outLen := (s.slots k).copyLen m }
      have hself := State.setSlot_self s k sl
      have hkeeps : Keeps s (s.setSlot k sl) k := by
        refine ⟨by rw [hself], by rw [hself], by rw [hself], by rw [hself], fun m' _ hold => ?_,
          fun m' hans' _ => ?_, fun _ => .inr ⟨m, hans, ?_⟩⟩
        · rw [hself]
          exact hold
        · rw [hself, h.answers_unique hans' hans]
        · rw [hself]
      have hset : Honest (s.setSlot k sl) := h.setSlot hkeeps fun hdone => .inl hdone
      refine ⟨⟨hset.copies, hset.rxs, hset.calls, hset.done, hset.len⟩, ?_⟩
      have hd : ∀ m ∈ s.delivered, m ∈ (s.setSlot k sl).delivered := fun _ hm => hm
      have hans' : Answers (s.setSlot k sl) k m := hans.keep hkeeps hd
      refine ⟨hans', (hkeeps.status m hans hst), ?_⟩
      show ((s.setSlot k sl).slots k).outLen = ((s.setSlot k sl).slots k).copyLen m
      rw [hkeeps.copyLen, hself]

/-- The reservation of a slot with an empty semaphore: nobody looks at the slot. -/
theorem reserves (h : Honest s) (hsound : Sound s) {c : CallId} {a : Call} {k : SlotId}
    (hc : s.calls c = .found a k) (hfresh : (s.slots k).done = false) (op : UInt32) :
    Honest ((s.setSlot k (reserve (s.slots k) c a op)).setCall c (.reserved ⟨a, k, op⟩)) := by
  let s' := (s.setSlot k (reserve (s.slots k) c a op)).setCall c (.reserved ⟨a, k, op⟩)
  have hd : ∀ m ∈ s.delivered, m ∈ s'.delivered := fun _ hm => hm
  have hself : s'.slots k = reserve (s.slots k) c a op := State.setSlot_self _ _ _
  have hother : ∀ {k'}, k' ≠ k → Keeps s s' k' := by
    intro k' hne
    have hsame : s'.slots k' = s.slots k' := State.setSlot_ne _ _ hne
    exact .of_eq (by rw [hsame]) (by rw [hsame]) (by rw [hsame])
  refine ⟨h.copies, fun j => ?_, fun c' => ?_, fun k' hdone => ?_, fun k' => ?_⟩
  · refine (h.rxs j).keep hd fun m k' hpc => ?_
    -- a response at a slot would hold the mutex as well
    have hrx : s.critical (.rx j) := by
      rw [State.critical]
      rcases hpc with hpc | hpc | hpc <;> rw [hpc] <;> rfl
    have hsame : Agent.rx j = Agent.call c := hsound.alone_of_found hc hrx
    cases hsame
  · by_cases heq : c' = c
    · subst heq
      rw [State.setCall_self]
      trivial
    · rw [State.setCall_ne _ _ heq]
      exact (h.calls c').keep hd fun r hr => hother (hsound.ne_of_found hc hr)
  · by_cases heq : k' = k
    · subst heq
      have hdone' : (s'.slots k').done = true := hdone
      rw [hself] at hdone'
      have hempty : (reserve (s.slots k') c a op).done = false := hfresh
      rw [hempty] at hdone'
      cases hdone'
    · have hsame : (s'.slots k').done = (s.slots k').done :=
        congrArg Inflight.done (State.setSlot_ne _ _ heq)
      exact (h.done k' (hsame.symm.trans hdone)).keep (hother heq) hd
  · by_cases heq : k' = k
    · subst heq
      exact .inl (congrArg Inflight.outLen hself)
    · have hkeep := hother heq
      have hsame : s'.slots k' = s.slots k' := State.setSlot_ne _ _ heq
      rcases h.len k' with hzero | ⟨m, hans, hlen⟩
      · exact .inl ((congrArg Inflight.outLen hsame).trans hzero)
      · refine .inr ⟨m, hans.keep hkeep hd, ?_⟩
        exact (hkeep.outLen m hans hlen).trans (hkeep.copyLen m).symm

end Honest

/-! ## Runs -/

section Runs

variable {s s' : State}

/-- What a call reads after its token is the result of a response to it. -/
theorem ownResult_of_filled (hsound : Sound s) {c : CallId} {h : Reservation} {st : EspErr}
    (hc : s.calls c = .gotStatus h st) (hst : CallHonest s (.gotStatus h st)) :
    OwnResult s (.completed h.args h.opId st (s.slots h.slot).outLen) := by
  have hserves := hsound.serves (c := c) (h := h) (by rw [hc]; rfl)
  simp only [Inflight.lease, Reservation.lease, Prod.mk.injEq] at hserves
  obtain ⟨-, hop, hwant, hbuf, hcap⟩ := hserves
  obtain ⟨m, ⟨hm, hmop, hmid⟩, hstat, hlen⟩ := hst
  refine ⟨m, hm, hmop.trans hop, hmid.trans hwant, hstat, ?_⟩
  rw [hlen, Inflight.copyLen, hbuf, hcap, outBuf]
  by_cases hzero : h.args.respBodyCap = 0
  · simp [hzero]
  · simp [hzero]

/-- **One step** keeps the tokens honest where reservations are fresh. -/
theorem honest_effect {a : Action} (h : Honest s) (hsound : Sound s) (hG : FreshTokens s a)
    (heff : Effect s a s') : Honest s' := by
  cases heff with
  | reserve hc =>
    have hcounted : Honest { s with nextOpId := s.nextOpId + 1, allotted := s.allotted + 1 } :=
      ⟨h.copies, h.rxs, h.calls, h.done, h.len⟩
    have hsound' : Sound { s with nextOpId := s.nextOpId + 1, allotted := s.allotted + 1 } :=
      hsound.congr rfl rfl rfl fun _ => rfl
    exact hcounted.reserves hsound' hc (hG _ _ hc) _
  | takeDone hc hdone =>
    rename_i c r
    have hkeeps : Keeps s (s.setSlot r.slot { s.slots r.slot with done := false }) r.slot :=
      keeps_setSlot rfl rfl rfl
    have hset := h.setSlot hkeeps nofun
    exact hset.moveCall (p := .took r) ((h.done r.slot hdone).keep hkeeps fun _ hm => hm)
  | readStatus hc =>
    rename_i c r
    have hfilled : CallHonest s (.took r) := hc ▸ h.calls c
    obtain ⟨m, hans, hst, hlen⟩ := hfilled
    exact h.moveCall (p := .gotStatus r _) ⟨m, hans, hst, hlen⟩
  | readLen hc =>
    rename_i c r st
    have hstatus : CallHonest s (.gotStatus r st) := hc ▸ h.calls c
    exact h.moveCall (p := .clearing r _) (ownResult_of_filled hsound hc hstatus)
  | clear hc =>
    rename_i c r res
    have hres : CallHonest s (.clearing r res) := hc ▸ h.calls c
    let s₁ := s.setSlot r.slot { s.slots r.slot with inUse := false }
    have hkeeps : Keeps s s₁ r.slot := keeps_setSlot rfl rfl rfl
    have hset : Honest s₁ := h.setSlot hkeeps fun hdone => .inl hdone
    have hd : ∀ m ∈ s.delivered, m ∈ s₁.delivered := fun _ hm => hm
    exact hset.moveCall (p := .returning res) (OwnResult.keep hd hres)
  | ret hc =>
    rename_i c res
    have hres : CallHonest s (.returning res) := hc ▸ h.calls c
    exact h.moveCall (p := .returned res) hres
  | arrive hj =>
    rename_i j m
    have hd : ∀ m' ∈ s.delivered, m' ∈ s.delivered ++ [m] :=
      fun _ hm => List.mem_append_left _ hm
    have hcopies : Copies { s with delivered := s.delivered ++ [m] } := by
      intro m₁ h₁ m₂ h₂ hop hid
      rcases List.mem_append.1 h₁ with h₁ | h₁ <;> rcases List.mem_append.1 h₂ with h₂ | h₂
      · exact h.copies m₁ h₁ m₂ h₂ hop hid
      · rw [List.mem_singleton.1 h₂] at hop hid ⊢
        exact hG m₁ h₁ hop hid
      · rw [List.mem_singleton.1 h₁] at hop hid ⊢
        exact (hG m₂ h₂ hop.symm hid.symm).symm
      · rw [List.mem_singleton.1 h₁, List.mem_singleton.1 h₂]
    have hrecorded : Honest { s with delivered := s.delivered ++ [m] } :=
      h.frame hd hcopies (fun _ => .of_eq rfl rfl rfl) (fun _ hdone => .inl hdone)
        (fun _ => .inl rfl) fun _ => .inl rfl
    exact hrecorded.moveRx (p := .arrived m) (List.mem_append_right _ List.mem_cons_self)
  | rxTake hj hfree =>
    rename_i j m
    have harrived : RxHonest s (.arrived m) := hj ▸ h.rxs j
    exact h.moveRx (p := .scanning m 0) harrived
  | rxMatch hj hk hm =>
    rename_i j m i k
    have hscan : RxHonest s (.scanning m i) := hj ▸ h.rxs j
    simp only [Inflight.awaits, Bool.and_eq_true, beq_iff_eq] at hm
    exact h.moveRx (p := .matched m k) ⟨hscan, hm.1.2.symm, hm.2.symm⟩
  | rxMiss hj hk hm =>
    rename_i j m i k
    have hscan : RxHonest s (.scanning m i) := hj ▸ h.rxs j
    exact h.moveRx (p := .scanning m (i + 1)) hscan
  | rxStatus hj =>
    rename_i j m k
    have hans : RxHonest s (.matched m k) := hj ▸ h.rxs j
    have hself := State.setSlot_self s k { s.slots k with status := m.status }
    have hstored :
      RxHonest (s.setSlot k { s.slots k with status := m.status }) (.statusSet m k) := by
      refine ⟨⟨hans.1, ?_, ?_⟩, by rw [hself]⟩
      · rw [hself]
        exact hans.2.1
      · rw [hself]
        exact hans.2.2
    exact (h.storeStatus hans).moveRx hstored
  | rxCopy hj =>
    rename_i j m k
    have hset : RxHonest s (.statusSet m k) := hj ▸ h.rxs j
    obtain ⟨hcopied, hrx⟩ := h.copyBody hset.1 hset.2
    exact hcopied.moveRx hrx
  | rxGive hj =>
    rename_i j m k
    have hcopied : RxHonest s (.copied m k) := hj ▸ h.rxs j
    have hkeeps : Keeps s (s.setSlot k { s.slots k with done := true }) k :=
      keeps_setSlot rfl rfl rfl
    have hfilled : Filled s k := ⟨m, hcopied⟩
    have hset := h.setSlot hkeeps fun _ => .inr (hfilled.keep hkeeps fun _ hm => hm)
    exact hset.moveRx (p := .leaving) trivial
  | rxNone hj _ | rxLeave hj => exact h.moveRx trivial
  | send hc =>
    rename_i c r
    have hsent :
      Honest { s with sent := s.sent ++ [(r.args.reqMsgId, requestBytes r.opId r.args)] } :=
      ⟨h.copies, h.rxs, h.calls, h.done, h.len⟩
    exact hsent.moveCall (p := .sending r) trivial
  | drop => exact h
  | _ => exact h.moveCall trivial

/-- **Every completion is the call's own** in a run of fresh reservations. -/
theorem completions_are_own (h : Reach step FreshTokens {} s) : CompletedOwn s := by
  have hboth : Sound s ∧ Honest s := by
    refine h.invariant (I := fun s => Sound s ∧ Honest s) ⟨sound_init, honest_init⟩ ?_
    rintro s s' a ⟨hsound, hhonest⟩ hG hstep
    have heff := step_effect hstep
    exact ⟨sound_effect hsound heff, honest_effect hhonest hsound hG heff⟩
  intro c r hret
  have hcall := hboth.2.calls c
  rw [hret] at hcall
  exact hcall

/-- **The condition is exact**: a call that reserves a slot with a token left can be completed by it
before anything carries its op_id. -/
theorem stale_token_completes {c : CallId} {a : Call} {k : SlotId} (hc : s.calls c = .found a k)
    (hdone : (s.slots k).done = true) (hnew : ∀ m ∈ s.delivered, m.opId ≠ s.nextOpId) :
    ∃ s', Reach step Free s s' ∧ ¬CompletedOwn s' := by
  -- reserve, give, send, the send succeeds, take, read both, clear, return
  have hrun : ∃ s', run step s [.call c, .call c, .call c, .sendResult c espOk, .call c, .call c,
      .call c, .call c, .call c] = some s' ∧
      s'.calls c = .returned (.completed a s.nextOpId espFail 0) ∧ s'.delivered = s.delivered := by
    simp [run, step, callStep, hc, State.setCall, State.setSlot, State.setMutex, reserve, hdone]
  obtain ⟨s', hs', hret, hdel⟩ := hrun
  refine ⟨s', reach_of_run hs', fun hown => ?_⟩
  obtain ⟨m, hm, hop, -⟩ := hown c _ hret
  exact hnew m (hdel ▸ hm) hop

end Runs

/-! ## Two runs -/

def channelCall : Call :=
  { reqMsgId := Rpc.setChannel.req, respMsgId := Rpc.setChannel.resp, reqBody := [172],
    respBodyCap := 0 }

/-- The answer to op_id 1. -/
def channelResponse : Response :=
  { msgId := Rpc.setChannel.resp, data := [1, 0, 0, 0, 0, 0, 0, 0] }

/-- From the invocation into the send. -/
def sendRun (c : CallId) : List Action :=
  [.invoke c channelCall true, .call c, .call c, .call c, .call c, .call c]

/-- From the arrival of the answer to the end of `on_response`. -/
def responseRun : List Action := .deliver 0 channelResponse :: List.replicate 6 (.rx 0)

/-- The test behind `completions_are_own_answered`. -/
def freshOnce (s : State) : Action → Bool
  | .call c =>
    match s.calls c with
    | .found _ k => !(s.slots k).done
    | _ => true
  | .deliver _ _ => s.delivered.isEmpty
  | _ => true

theorem freshTokens_of_freshOnce (s : State) (a : Action) (h : freshOnce s a = true) :
    FreshTokens s a := by
  cases a with
  | call c =>
    intro a k hc
    simp only [freshOnce, hc] at h
    simpa using h
  | deliver j m =>
    intro m' hm'
    rw [List.isEmpty_iff.1 h] at hm'
    cases hm'
  | _ => trivial

/-- A call that is answered while it waits. -/
theorem completions_are_own_answered :
    ∃ s, run (guarded freshOnce step) {}
        (sendRun 0 ++ .sendResult 0 espOk :: responseRun ++ List.replicate 5 (.call 0)) = some s ∧
      s.calls 0 = .returned (.completed channelCall 1 espOk 0) ∧ CompletedOwn s := by
  have hrun : ∃ s, run (guarded freshOnce step) {}
        (sendRun 0 ++ .sendResult 0 espOk :: responseRun ++ List.replicate 5 (.call 0)) = some s ∧
      s.calls 0 = .returned (.completed channelCall 1 espOk 0) := ⟨_, rfl, rfl⟩
  obtain ⟨s, hs, hret⟩ := hrun
  exact ⟨s, hs, hret, completions_are_own (reach_of_guarded_run freshTokens_of_freshOnce hs)⟩

/-- The answer to the first call comes in during its send, the send then fails; the second call gets
the slot and its token, and returns `ESP_FAIL` though nothing was answered. -/
theorem stale_completion :
    ∃ s, run step {} (sendRun 0 ++ responseRun ++ [.sendResult 0 espFail, .call 0, .call 0] ++
        sendRun 1 ++ .sendResult 1 espOk :: List.replicate 5 (.call 1)) = some s ∧
      s.calls 1 = .returned (.completed channelCall 2 espFail 0) ∧
      (∀ m ∈ s.delivered, m.opId = 1) ∧ ¬CompletedOwn s := by
  refine ⟨_, rfl, rfl, by decide, fun hown => ?_⟩
  obtain ⟨m, hm, hop, -⟩ := hown 1 _ rfl
  obtain rfl : m = channelResponse := List.mem_singleton.1 hm
  exact absurd hop (by decide)

end EspHostedOpen.Dispatcher
