import EspHostedOpen.Host.Dispatcher

/-!
# The slots and the mutex of the dispatcher

`Sound` is what every interleaving keeps: the mutex is owned by the task in its critical section, a
slot is in use iff one `do_call` has it reserved, and the slot then serves that call: its op_id, the
response it waits for, its buffer. `sound_step` is one step, `sound_of_reach` a whole run.
-/

namespace EspHostedOpen.Dispatcher

open Sharing Transition

/-! ## What a task holds -/

/-- Between taking and giving the mutex. -/
def CallPc.critical : CallPc → Bool
  | .scanning .. | .noSlot | .found .. | .reserved _ => true
  | _ => false

def RxPc.critical : RxPc → Bool
  | .idle | .arrived _ => false
  | _ => true

/-- Between the reservation of a slot and its release. -/
def CallPc.holds : CallPc → Option Reservation
  | .reserved h | .ready h | .sending h | .waiting h | .took h | .gotStatus h _ | .clearing h _ =>
    some h
  | _ => none

def State.critical (s : State) : Agent → Prop
  | .call c => (s.calls c).critical = true
  | .rx j => (s.rxs j).critical = true

def State.lease (s : State) (c : CallId) : Option SlotId := (s.calls c).holds.map (·.slot)

theorem State.lease_of_holds {s : State} {c : CallId} {r : Reservation}
    (h : (s.calls c).holds = some r) : s.lease c = some r.slot := by
  rw [State.lease, h]
  rfl

/-- The members that say whom a slot serves. -/
def Inflight.lease (sl : Inflight) : Bool × UInt32 × UInt32 × Option CallId × Nat :=
  (sl.inUse, sl.opId, sl.wantRespId, sl.outBuf, sl.outCap)

/-- The members of a slot that is in use for `h`, reserved by `c`. -/
def Reservation.lease (h : Reservation) (c : CallId) :
    Bool × UInt32 × UInt32 × Option CallId × Nat :=
  (true, h.opId, h.args.respMsgId, outBuf h.args c, h.args.respBodyCap)

/-- **The invariant** of the dispatcher. -/
structure Sound (s : State) : Prop where
  /-- The mutex belongs to the task in its critical section. -/
  lock : Exclusive s.mutex s.critical
  /-- A slot is in use iff exactly one call has it reserved. -/
  slots : Leased (fun k => (s.slots k).inUse = true) s.lease
  /-- A reserved slot serves the call that reserved it. -/
  serves : ∀ {c h}, (s.calls c).holds = some h → (s.slots h.slot).lease = h.lease c
  /-- A slot found free stays free until the reservation. -/
  free : ∀ {c a k}, s.calls c = .found a k → (s.slots k).inUse = false

theorem sound_init : Sound {} where
  lock := by
    rintro (c | j) <;> exact iff_of_false (by rintro ⟨⟩) (by rintro ⟨⟩)
  slots :=
    { used := by rintro c k ⟨⟩
      unique := by rintro c c' k ⟨⟩
      owned := by rintro k ⟨⟩ }
  serves := by rintro c h ⟨⟩
  free := by rintro c a k ⟨⟩

/-! ## The lock -/

section Lock

variable {s : State} {c : CallId} {j : RxId} {pc : CallPc} {rpc : RxPc}

theorem critical_setCall_self : (s.setCall c pc).critical (.call c) ↔ pc.critical = true := by
  rw [State.critical, State.setCall_self]

theorem critical_setRx_self : (s.setRx j rpc).critical (.rx j) ↔ rpc.critical = true := by
  rw [State.critical, State.setRx_self]

theorem critical_setCall_ne {b : Agent} (h : b ≠ .call c) :
    (s.setCall c pc).critical b ↔ s.critical b := by
  cases b with
  | call c' =>
    have hne : c' ≠ c := fun heq => h (congrArg _ heq)
    rw [State.critical, State.critical, State.setCall_ne s pc hne]
  | rx j => exact Iff.rfl

theorem critical_setRx_ne {b : Agent} (h : b ≠ .rx j) :
    (s.setRx j rpc).critical b ↔ s.critical b := by
  cases b with
  | call c => exact Iff.rfl
  | rx j' =>
    have hne : j' ≠ j := fun heq => h (congrArg _ heq)
    rw [State.critical, State.critical, State.setRx_ne s rpc hne]

theorem lock_keepCall (h : Exclusive s.mutex s.critical)
    (hcrit : pc.critical = (s.calls c).critical) :
    Exclusive s.mutex (s.setCall c pc).critical := by
  refine h.congr fun b => ?_
  by_cases hb : b = .call c
  · subst hb
    rw [critical_setCall_self, hcrit]
    exact Iff.rfl
  · exact critical_setCall_ne hb

theorem lock_keepRx (h : Exclusive s.mutex s.critical)
    (hcrit : rpc.critical = (s.rxs j).critical) :
    Exclusive s.mutex (s.setRx j rpc).critical := by
  refine h.congr fun b => ?_
  by_cases hb : b = .rx j
  · subst hb
    rw [critical_setRx_self, hcrit]
    exact Iff.rfl
  · exact critical_setRx_ne hb

theorem lock_takeCall (h : Exclusive s.mutex s.critical) (hfree : s.mutex = none)
    (hcrit : pc.critical = true) : Exclusive (some (.call c)) (s.setCall c pc).critical :=
  (hfree ▸ h).acquire (critical_setCall_self.2 hcrit) fun _ hb => critical_setCall_ne hb

theorem lock_takeRx (h : Exclusive s.mutex s.critical) (hfree : s.mutex = none)
    (hcrit : rpc.critical = true) : Exclusive (some (.rx j)) (s.setRx j rpc).critical :=
  (hfree ▸ h).acquire (critical_setRx_self.2 hcrit) fun _ hb => critical_setRx_ne hb

theorem lock_giveCall (h : Exclusive s.mutex s.critical) (hin : (s.calls c).critical = true)
    (hcrit : pc.critical = false) : Exclusive none (s.setCall c pc).critical := by
  have hout : ¬(s.setCall c pc).critical (.call c) := by
    rw [critical_setCall_self, hcrit]
    exact Bool.false_ne_true
  exact Exclusive.release (a := .call c) h hin hout fun _ hb => critical_setCall_ne hb

theorem lock_giveRx (h : Exclusive s.mutex s.critical) (hin : (s.rxs j).critical = true)
    (hcrit : rpc.critical = false) : Exclusive none (s.setRx j rpc).critical := by
  have hout : ¬(s.setRx j rpc).critical (.rx j) := by
    rw [critical_setRx_self, hcrit]
    exact Bool.false_ne_true
  exact Exclusive.release (a := .rx j) h hin hout fun _ hb => critical_setRx_ne hb

end Lock

/-! ## What keeps the invariant -/

namespace Sound

variable {s s' : State} {c : CallId} {j : RxId} {k : SlotId} {pc : CallPc} {rpc : RxPc}

/-- The invariant looks at the mutex, the tasks and whom the slots serve. -/
theorem congr (h : Sound s) (hmutex : s'.mutex = s.mutex) (hcalls : s'.calls = s.calls)
    (hrxs : s'.rxs = s.rxs) (hslots : ∀ k, (s'.slots k).lease = (s.slots k).lease) : Sound s' := by
  have huse : ∀ k, (s'.slots k).inUse = (s.slots k).inUse := fun k => congrArg Prod.fst (hslots k)
  have hcrit : ∀ b, s'.critical b ↔ s.critical b := by
    rintro (c | j)
    · rw [State.critical, State.critical, hcalls]
    · rw [State.critical, State.critical, hrxs]
  refine ⟨hmutex ▸ h.lock.congr hcrit, h.slots.congr (fun k => by rw [huse k]) fun c => ?_,
    fun {c r} hc => ?_, fun {c a k} hc => ?_⟩
  · rw [State.lease, State.lease, hcalls]
  · rw [hslots]
    exact h.serves (hcalls ▸ hc)
  · rw [huse]
    exact h.free (hcalls ▸ hc)

/-- A call goes on without touching the slots. -/
theorem moveCall (h : Sound s) {owner : Option Agent}
    (hlock : Exclusive owner (s.setCall c pc).critical) (hholds : pc.holds = (s.calls c).holds)
    (hfree : ∀ {a k}, pc = .found a k → (s.slots k).inUse = false) :
    Sound ((s.setMutex owner).setCall c pc) := by
  have hsame : ∀ c', (((s.setMutex owner).setCall c pc).calls c').holds = (s.calls c').holds := by
    intro c'
    by_cases hc : c' = c
    · subst hc
      rw [State.setCall_self, hholds]
    · rw [State.setCall_ne _ _ hc]
      rfl
  refine ⟨hlock, h.slots.congr (fun _ => Iff.rfl) fun c' => ?_, fun {c' r} hc' => ?_,
    fun {c' a k} hc' => ?_⟩
  · rw [State.lease, State.lease, hsame]
  · exact h.serves ((hsame c').symm.trans hc')
  · by_cases hc : c' = c
    · subst hc
      rw [State.setCall_self] at hc'
      exact hfree hc'
    · rw [State.setCall_ne _ _ hc] at hc'
      exact h.free hc'

/-- A call goes on, in its critical section or out of it as before. -/
theorem keepCall (h : Sound s) {old : CallPc} (hc : s.calls c = old)
    (hcrit : pc.critical = old.critical) (hholds : pc.holds = old.holds)
    (hfree : ∀ {a k}, pc = .found a k → (s.slots k).inUse = false) : Sound (s.setCall c pc) := by
  subst hc
  exact h.moveCall (lock_keepCall h.lock hcrit) hholds hfree

/-- A response goes on. -/
theorem moveRx (h : Sound s) {owner : Option Agent}
    (hlock : Exclusive owner (s.setRx j rpc).critical) :
    Sound ((s.setMutex owner).setRx j rpc) :=
  ⟨hlock, h.slots.congr (fun _ => Iff.rfl) fun _ => rfl, h.serves, h.free⟩

theorem keepRx (h : Sound s) {old : RxPc} (hj : s.rxs j = old)
    (hcrit : rpc.critical = old.critical) :
    Sound (s.setRx j rpc) := by
  subst hj
  exact h.moveRx (lock_keepRx h.lock hcrit)

/-- While a call has found a slot, nobody else is inside the mutex. -/
theorem alone_of_found (h : Sound s) {a : Call} (hc : s.calls c = .found a k) {b : Agent}
    (hb : s.critical b) : b = .call c := by
  have hcrit : s.critical (.call c) := by
    rw [State.critical, hc]
    rfl
  exact h.lock.unique hb hcrit

/-- A slot found free is nobody's. -/
theorem ne_of_found (h : Sound s) {a : Call} (hc : s.calls c = .found a k) {c' : CallId}
    {r : Reservation} (hr : (s.calls c').holds = some r) : r.slot ≠ k := by
  rintro rfl
  have huse := h.slots.used (State.lease_of_holds hr)
  rw [h.free hc] at huse
  cases huse

/-- The reservation. -/
theorem reserves (h : Sound s) {a : Call} {sl : Inflight} {op : UInt32}
    (hc : s.calls c = .found a k) (hsl : sl.lease = (Reservation.mk a k op).lease c) :
    Sound ((s.setSlot k sl).setCall c (.reserved ⟨a, k, op⟩)) := by
  have hcrit : (CallPc.reserved ⟨a, k, op⟩).critical = (s.calls c).critical := by
    rw [hc]
    rfl
  have hunused := h.free hc
  have huse : sl.inUse = true := congrArg Prod.fst hsl
  refine ⟨lock_keepCall h.lock hcrit, ?_, fun {c' r} hc' => ?_, fun {c' a' k'} hc' => ?_⟩
  · refine h.slots.grant (c := c) (k := k) (by rw [hunused]; exact Bool.false_ne_true) ?_ ?_ ?_ ?_
    · rw [State.lease, State.setCall_self]
      rfl
    · intro k'
      by_cases hk : k' = k
      · subst hk
        rw [State.setCall_slots, State.setSlot_self, huse]
        simp
      · rw [State.setCall_slots, State.setSlot_ne _ _ hk]
        simp [hk]
    · intro c' hne
      rw [State.lease, State.setCall_ne _ _ hne]
      rfl
    · rw [State.lease, hc]
      rfl
  · by_cases heq : c' = c
    · subst heq
      rw [State.setCall_self] at hc'
      cases hc'
      rw [State.setCall_slots, State.setSlot_self, hsl]
    · rw [State.setCall_ne _ _ heq] at hc'
      have hne : r.slot ≠ k := h.ne_of_found hc hc'
      rw [State.setCall_slots, State.setSlot_ne _ _ hne]
      exact h.serves hc'
  · by_cases heq : c' = c
    · subst heq
      rw [State.setCall_self] at hc'
      cases hc'
    · -- two calls in the critical section
      rw [State.setCall_ne _ _ heq] at hc'
      have hfound : s.calls c' = .found a' k' := hc'
      have hcrit' : s.critical (.call c') := by
        rw [State.critical, hfound]
        rfl
      exact absurd (Agent.call.inj (h.alone_of_found hc hcrit')) heq

/-- The release of a slot, without the mutex. -/
theorem clears (h : Sound s) {r : Reservation} {res : CallResult}
    (hc : s.calls c = .clearing r res) :
    Sound ((s.setSlot r.slot { s.slots r.slot with inUse := false }).setCall c
    (.returning res)) := by
  have hcrit : (CallPc.returning res).critical = (s.calls c).critical := by
    rw [hc]
    rfl
  have hleased : s.lease c = some r.slot := by
    rw [State.lease, hc]
    rfl
  refine ⟨lock_keepCall h.lock hcrit, ?_, fun {c' r'} hc' => ?_, fun {c' a' k'} hc' => ?_⟩
  · refine h.slots.release hleased ?_ ?_ ?_
    · rw [State.lease, State.setCall_self]
      rfl
    · intro k'
      by_cases hk : k' = r.slot
      · subst hk
        rw [State.setCall_slots, State.setSlot_self]
        simp
      · rw [State.setCall_slots, State.setSlot_ne _ _ hk]
        simp [hk]
    · intro c' hne
      rw [State.lease, State.setCall_ne _ _ hne]
      rfl
  · have hne : c' ≠ c := by
      rintro rfl
      rw [State.setCall_self] at hc'
      cases hc'
    rw [State.setCall_ne _ _ hne] at hc'
    have hother : s.lease c' = some r'.slot := State.lease_of_holds hc'
    have hslot : r'.slot ≠ r.slot := by
      intro heq
      exact hne (h.slots.unique hother (heq ▸ hleased))
    rw [State.setCall_slots, State.setSlot_ne _ _ hslot]
    exact h.serves hc'
  · have hne : c' ≠ c := by
      rintro rfl
      rw [State.setCall_self] at hc'
      cases hc'
    rw [State.setCall_ne _ _ hne] at hc'
    rw [State.setCall_slots]
    by_cases hk : k' = r.slot
    · subst hk
      rw [State.setSlot_self]
    · rw [State.setSlot_ne _ _ hk]
      exact h.free hc'

end Sound

/-! ## Runs -/

/-- The copy leaves whom a slot serves alone. -/
theorem copyBody_lease (s : State) (m : Response) (k k' : SlotId) :
    ((copyBody s m k).slots k').lease = (s.slots k').lease := by
  unfold copyBody
  split
  · rfl
  · split
    · rfl
    · by_cases hk : k' = k
      · subst hk
        rw [State.setSlot_self]
        rfl
      · rw [State.setSlot_ne _ _ hk]

/-- A slot rewritten without changing whom it serves. -/
theorem setSlot_lease {s : State} {k : SlotId} {sl : Inflight} (h : sl.lease = (s.slots k).lease)
    (k' : SlotId) : ((s.setSlot k sl).slots k').lease = (s.slots k').lease := by
  by_cases hk : k' = k
  · subst hk
    rw [State.setSlot_self, h]
  · rw [State.setSlot_ne _ _ hk]

theorem copyBody_rest (s : State) (m : Response) (k : SlotId) :
    (copyBody s m k).mutex = s.mutex ∧ (copyBody s m k).calls = s.calls ∧
      (copyBody s m k).rxs = s.rxs ∧ (copyBody s m k).delivered = s.delivered := by
  unfold copyBody
  split
  · exact ⟨rfl, rfl, rfl, rfl⟩
  · split <;> exact ⟨rfl, rfl, rfl, rfl⟩

/-- **One step** keeps the invariant. -/
theorem sound_effect {s s' : State} {a : Action} (h : Sound s) (heff : Effect s a s') :
    Sound s' := by
  cases heff with
  | enter hc | noMem hc => exact h.keepCall hc rfl rfl nofun
  | take hc hfree => exact h.moveCall (lock_takeCall h.lock hfree rfl) (by rw [hc]; rfl) nofun
  | testUsed hc _ _ => exact h.keepCall hc rfl rfl nofun
  | testFree hc _ hfree =>
    refine h.keepCall hc rfl rfl fun heq => ?_
    cases heq
    exact hfree
  | full hc _ => exact h.keepCall hc rfl rfl nofun
  | giveUp hc | give hc =>
    exact h.moveCall (lock_giveCall h.lock (by rw [hc]; rfl) rfl) (by rw [hc]; rfl) nofun
  | reserve hc =>
    have hcounted : Sound { s with nextOpId := s.nextOpId + 1, allotted := s.allotted + 1 } :=
      h.congr rfl rfl rfl fun _ => rfl
    exact hcounted.reserves hc rfl
  | send hc => exact .keepCall (h.congr rfl rfl rfl fun _ => rfl) hc rfl rfl nofun
  | sent hc => exact h.keepCall hc rfl rfl nofun
  | sendFailed hc _ | timeout hc _ => exact h.keepCall hc rfl rfl nofun
  | takeDone hc _ => exact .keepCall (h.congr rfl rfl rfl (setSlot_lease rfl)) hc rfl rfl nofun
  | readStatus hc | readLen hc | ret hc => exact h.keepCall hc rfl rfl nofun
  | clear hc => exact h.clears hc
  | drop => exact h
  | arrive hj => exact .keepRx (h.congr rfl rfl rfl fun _ => rfl) hj rfl
  | rxTake hj hfree => exact h.moveRx (lock_takeRx h.lock hfree rfl)
  | rxMatch hj _ _ | rxMiss hj _ _ => exact h.keepRx hj rfl
  | rxNone hj _ => exact h.keepRx hj rfl
  | rxStatus hj | rxGive hj => exact .keepRx (h.congr rfl rfl rfl (setSlot_lease rfl)) hj rfl
  | rxCopy hj =>
    obtain ⟨hmutex, hcalls, hrxs, -⟩ := copyBody_rest s _ _
    exact .keepRx (h.congr hmutex hcalls hrxs (copyBody_lease s _ _))
      ((congrFun hrxs _).trans hj) rfl
  | rxLeave hj => exact h.moveRx (lock_giveRx h.lock (by rw [hj]; rfl) rfl)

/-- **Every run** keeps it. -/
theorem sound_of_reach {G : State → Action → Prop} {s : State} (h : Reach step G {} s) : Sound s :=
  h.invariant sound_init fun hs _ hstep => sound_effect hs (step_effect hstep)

end EspHostedOpen.Dispatcher
