import EspHostedOpen.Host.Accounting

/-!
# Slots and the calls that own them

`slot_accounting`: in every run the slots in use are as many as the calls between reservation and
release, each has one owner, their op_ids differ, a call releases what it reserved once, and a call
finds no slot only if all were owned at a moment at which it held the mutex.

The last point needs a look back: `do_call` tests the slots one after the other, and releases happen
without the mutex. `Scanned` says what a scan has seen so far about the moment it took the mutex.
-/

namespace EspHostedOpen.Dispatcher

open Sharing Transition

/-! ## Reservations and releases of a call -/

/-- The slot that the next statement fills in. -/
def CallPc.reserves : CallPc → Option SlotId
  | .found _ k => some k
  | _ => none

/-- The slot whose `in_use` the next statement clears. -/
def CallPc.releases : CallPc → Option SlotId
  | .clearing h _ => some h.slot
  | _ => none

/-- The reservation is still to come. -/
def CallPc.early : CallPc → Bool
  | .idle | .entered _ | .scanning .. | .found .. => true
  | _ => false

/-- A step in which `c` reserves `k`. -/
def reservesSlot (c : CallId) (k : SlotId) (s : State) : Action → Bool
  | .call c' => c' == c && (s.calls c).reserves == some k
  | _ => false

/-- A step in which `c` releases `k`. -/
def releasesSlot (c : CallId) (k : SlotId) (s : State) : Action → Bool
  | .call c' => c' == c && (s.calls c).releases == some k
  | _ => false

def State.owns (s : State) (c : CallId) (k : SlotId) : Bool := s.lease c == some k

/-- The call that an action is a step of. -/
def Action.caller : Action → Option CallId
  | .invoke c _ _ | .call c | .sendResult c _ | .timeout c => some c
  | .deliver .. | .rx _ => none

section Steps

variable {s s' : State} {a : Action} {c : CallId} {k : SlotId}

/-- The other calls stay where they are. -/
theorem Effect.calls_ne (heff : Effect s a s') (hne : a.caller ≠ some c) :
    s'.calls c = s.calls c := by
  have hsame : ∀ {c' : CallId} {pc : CallPc} {t : State}, some c' ≠ some c → t.calls = s.calls →
      (t.setCall c' pc).calls c = s.calls c := by
    intro c' pc t hc' ht
    rw [State.setCall_ne t pc fun heq => hc' (congrArg some heq.symm), ht]
  cases heff with
  | rxCopy hj =>
    obtain ⟨-, hcalls, -⟩ := copyBody_rest s _ _
    exact congrFun hcalls c
  | drop | arrive | rxTake | rxMatch | rxMiss | rxNone | rxStatus | rxGive | rxLeave => rfl
  | _ => exact hsame hne rfl

theorem caller_of_reserves (h : reservesSlot c k s a = true) : a.caller = some c := by
  cases a with
  | call c' =>
    simp only [reservesSlot, Bool.and_eq_true, beq_iff_eq] at h
    exact congrArg some h.1
  | _ => cases h

theorem caller_of_releases (h : releasesSlot c k s a = true) : a.caller = some c := by
  cases a with
  | call c' =>
    simp only [releasesSlot, Bool.and_eq_true, beq_iff_eq] at h
    exact congrArg some h.1
  | _ => cases h

/-- A reservation or a release changes what the call owns, and nothing else does. -/
theorem Effect.balance (heff : Effect s a s') :
    (s.owns c k).toNat + (reservesSlot c k s a).toNat =
      (s'.owns c k).toNat + (releasesSlot c k s a).toNat := by
  by_cases hcaller : a.caller = some c
  · cases heff with
    | drop | arrive | rxTake | rxMatch | rxMiss | rxNone | rxStatus | rxCopy | rxGive | rxLeave =>
      cases hcaller
    | _ hc =>
      cases hcaller
      simp [State.owns, State.lease, reservesSlot, releasesSlot, hc, CallPc.reserves,
        CallPc.releases, CallPc.holds]
  · have hres : reservesSlot c k s a = false :=
      Bool.eq_false_iff.2 fun h => hcaller (caller_of_reserves h)
    have hrel : releasesSlot c k s a = false :=
      Bool.eq_false_iff.2 fun h => hcaller (caller_of_releases h)
    rw [hres, hrel, State.owns, State.owns, State.lease, State.lease, heff.calls_ne hcaller]

/-- A call reserves where it has not reserved before. -/
theorem Effect.budget (heff : Effect s a s') :
    (reservesSlot c k s a).toNat + (s'.calls c).early.toNat ≤ (s.calls c).early.toNat := by
  by_cases hcaller : a.caller = some c
  · cases heff with
    | drop | arrive | rxTake | rxMatch | rxMiss | rxNone | rxStatus | rxCopy | rxGive | rxLeave =>
      cases hcaller
    | _ hc =>
      cases hcaller
      simp [reservesSlot, hc, CallPc.reserves, CallPc.early, Bool.toNat_le]
  · have hres : reservesSlot c k s a = false :=
      Bool.eq_false_iff.2 fun h => hcaller (caller_of_reserves h)
    rw [hres, heff.calls_ne hcaller]
    exact Nat.le_of_eq (Nat.zero_add _)

/-- Only a reservation puts a slot in use. -/
theorem Effect.inUse_mono (heff : Effect s a s') (hnot : ∀ c a k, s.calls c = .found a k → False)
    (huse : (s'.slots k).inUse = true) : (s.slots k).inUse = true := by
  have hlease : ∀ {t : State}, (∀ k, (t.slots k).lease = (s.slots k).lease) →
      (t.slots k).inUse = true → (s.slots k).inUse = true :=
    fun ht hk => (congrArg Prod.fst (ht k)).symm.trans hk
  cases heff with
  | reserve hc => exact (hnot _ _ _ hc).elim
  | @clear c r res hc =>
    rw [State.setCall_slots] at huse
    by_cases hk : k = r.slot
    · subst hk
      rw [State.setSlot_self] at huse
      cases huse
    · rwa [State.setSlot_ne _ _ hk] at huse
  | @takeDone c r hc hdone =>
    exact hlease (@setSlot_lease s r.slot { s.slots r.slot with done := false } rfl) huse
  | @rxStatus j m i hj =>
    exact hlease (@setSlot_lease s i { s.slots i with status := m.status } rfl) huse
  | @rxGive j m i hj =>
    exact hlease (@setSlot_lease s i { s.slots i with done := true } rfl) huse
  | rxCopy hj => exact hlease (copyBody_lease s _ _) huse
  | _ => exact huse

end Steps

/-! ## op_ids -/

/-- The op_ids in use were handed out once each, from 1 on. -/
structure Numbered (s : State) : Prop where
  next : s.nextOpId = UInt32.ofNat (1 + s.allotted)
  below : ∀ {c h}, (s.calls c).holds = some h → ∃ n, n < s.allotted ∧ h.opId = UInt32.ofNat (1 + n)
  distinct : s.allotted ≤ 2 ^ 32 → ∀ {c c' h h'}, (s.calls c).holds = some h →
    (s.calls c').holds = some h' → h.opId = h'.opId → c = c'

theorem numbered_init : Numbered {} where
  next := rfl
  below := by rintro c h ⟨⟩
  distinct := by rintro - c c' h h' ⟨⟩

namespace Numbered

variable {s s' : State} {c : CallId}

/-- No op_id was handed out. -/
theorem congr (h : Numbered s) (hnext : s'.nextOpId = s.nextOpId)
    (hallot : s'.allotted = s.allotted)
    (hholds : ∀ {c r}, (s'.calls c).holds = some r → (s.calls c).holds = some r) : Numbered s' := by
  refine ⟨by rw [hnext, hallot, h.next], fun hc => ?_, fun hle => ?_⟩
  · rw [hallot]
    exact h.below (hholds hc)
  · rw [hallot] at hle
    exact fun hc hc' => h.distinct hle (hholds hc) (hholds hc')

/-- A call moves and holds nothing new. -/
theorem move (h : Numbered s) {t : State} {pc : CallPc} (hnext : t.nextOpId = s.nextOpId)
    (hallot : t.allotted = s.allotted) (hcalls : t.calls = s.calls)
    (hpc : ∀ {r}, pc.holds = some r → (s.calls c).holds = some r) : Numbered (t.setCall c pc) := by
  refine h.congr hnext hallot fun {c' r} hc' => ?_
  by_cases heq : c' = c
  · subst heq
    rw [State.setCall_self] at hc'
    exact hpc hc'
  · rwa [State.setCall_ne _ _ heq, hcalls] at hc'

/-- An op_id of `2 ^ 32` in a row is new. -/
theorem fresh (h : Numbered s) {r : Reservation} (hc : (s.calls c).holds = some r)
    (hle : s.allotted + 1 ≤ 2 ^ 32) : r.opId ≠ s.nextOpId := by
  obtain ⟨n, hn, hop⟩ := h.below hc
  rw [hop, h.next]
  intro heq
  have hmod := congrArg UInt32.toNat heq
  rw [UInt32.toNat_ofNat', UInt32.toNat_ofNat'] at hmod
  omega

end Numbered

/-- **One step** keeps the op_ids apart. -/
theorem numbered_effect {s s' : State} {a : Action} (h : Numbered s) (heff : Effect s a s') :
    Numbered s' := by
  cases heff with
  | reserve hc =>
    rename_i c a k
    have hsplit : ∀ {c' r},
      ((({ s with nextOpId := s.nextOpId + 1, allotted := s.allotted + 1 }.setSlot k
        (reserve (s.slots k) c a s.nextOpId)).setCall c (.reserved ⟨a, k, s.nextOpId⟩)).calls
          c').holds =
          some r → (c' = c ∧ r.opId = s.nextOpId) ∨ (c' ≠ c ∧ (s.calls c').holds = some r) := by
      intro c' r hc'
      by_cases heq : c' = c
      · subst heq
        rw [State.setCall_self] at hc'
        cases hc'
        exact .inl ⟨rfl, rfl⟩
      · rw [State.setCall_ne _ _ heq] at hc'
        exact .inr ⟨heq, hc'⟩
    refine ⟨?_, fun hc' => ?_, fun hle {c₁ c₂ r₁ r₂} h₁ h₂ hop => ?_⟩
    · have hnext : s.nextOpId + 1 = UInt32.ofNat (1 + s.allotted + 1) := by
        rw [h.next, UInt32.ofNat_add (1 + s.allotted)]
        rfl
      exact hnext
    · rcases hsplit hc' with ⟨-, hop⟩ | ⟨-, hold⟩
      · exact ⟨s.allotted, Nat.lt_succ_self _, hop.trans h.next⟩
      · obtain ⟨n, hn, hop⟩ := h.below hold
        exact ⟨n, Nat.lt_succ_of_lt hn, hop⟩
    · have hle' : s.allotted + 1 ≤ 2 ^ 32 := hle
      rcases hsplit h₁ with ⟨rfl, hop₁⟩ | ⟨hne₁, hold₁⟩
      · rcases hsplit h₂ with ⟨rfl, -⟩ | ⟨-, hold₂⟩
        · rfl
        · exact absurd (hop.symm.trans hop₁) (h.fresh hold₂ hle')
      · rcases hsplit h₂ with ⟨rfl, hop₂⟩ | ⟨-, hold₂⟩
        · exact absurd (hop.trans hop₂) (h.fresh hold₁ hle')
        · exact h.distinct (by omega) hold₁ hold₂ hop
  | rxCopy hj =>
    rename_i j m k
    have hsame : (copyBody s m k).nextOpId = s.nextOpId ∧ (copyBody s m k).allotted =
      s.allotted := by
      unfold copyBody
      split
      · exact ⟨rfl, rfl⟩
      · split <;> exact ⟨rfl, rfl⟩
    obtain ⟨-, hcalls, -⟩ := copyBody_rest s m k
    refine h.congr hsame.1 hsame.2 fun {c r} hc => ?_
    exact (congrArg CallPc.holds (congrFun hcalls c)).symm.trans hc
  | drop => exact h
  | arrive | rxTake | rxMatch | rxMiss | rxNone | rxStatus | rxGive | rxLeave =>
    exact h.congr rfl rfl fun hc => hc
  | clear => exact h.move rfl rfl rfl fun hr => by cases hr
  | _ hc => exact h.move rfl rfl rfl fun hr => by rw [hc]; exact hr

theorem numbered_of_run {as : List Action} {s : State} (h : run step {} as = some s) : Numbered s :=
  (reach_of_run h).invariant numbered_init fun hs _ hstep => numbered_effect hs (step_effect hstep)

/-! ## The scan -/

/-- In the run `as` to `s` there was a moment at which `c` held the mutex and the slots below `i`
were in use, and no slot was reserved since. -/
def Scanned (as : List Action) (s : State) (c : CallId) (i : Nat) : Prop :=
  ∃ as₁ as₂ s₁, as = as₁ ++ as₂ ∧ run step {} as₁ = some s₁ ∧ s₁.mutex = some (.call c) ∧
    (∀ k, (s.slots k).inUse = true → (s₁.slots k).inUse = true) ∧
    ∀ k : SlotId, k.val < i → (s₁.slots k).inUse = true

/-- How far the scan of a call has come. -/
def CallPc.scanned : CallPc → Option Nat
  | .scanning _ i => some i
  | .noSlot => some maxInflight
  | _ => none

section Scan

variable {as : List Action} {s s' : State} {a : Action} {c : CallId} {i : Nat}

/-- No slot is reserved while a call scans. -/
theorem Sound.not_found (h : Sound s) (hc : (s.calls c).scanned = some i) {c' : CallId} {b : Call}
    {k : SlotId} (hc' : s.calls c' = .found b k) : False := by
  have hcrit : s.critical (.call c) := by
    rw [State.critical]
    cases hpc : s.calls c with
    | scanning | noSlot => rfl
    | _ =>
      rw [hpc] at hc
      cases hc
  cases h.alone_of_found hc' hcrit
  rw [hc'] at hc
  cases hc

theorem Scanned.snoc (h : Scanned as s c i)
    (hmono : ∀ k, (s'.slots k).inUse = true → (s.slots k).inUse = true) :
    Scanned (as ++ [a]) s' c i := by
  obtain ⟨as₁, as₂, s₁, rfl, hrun, hmutex, huse, hbelow⟩ := h
  exact ⟨as₁, as₂ ++ [a], s₁, List.append_assoc .., hrun, hmutex, fun k hk =>
    huse k (hmono k hk), hbelow⟩

theorem Scanned.mono (h : Scanned as s c i) {j : Nat} (hij : j ≤ i) : Scanned as s c j := by
  obtain ⟨as₁, as₂, s₁, has, hrun, hmutex, hsince, hbelow⟩ := h
  exact ⟨as₁, as₂, s₁, has, hrun, hmutex, hsince, fun k hk => hbelow k (Nat.lt_of_lt_of_le hk hij)⟩

/-- A slot tested and found in use. -/
theorem Scanned.tested (h : Scanned as s c i) {k : SlotId} (hk : k.val = i)
    (huse : (s.slots k).inUse = true) : Scanned as s c (i + 1) := by
  obtain ⟨as₁, as₂, s₁, has, hrun, hmutex, hsince, hbelow⟩ := h
  refine ⟨as₁, as₂, s₁, has, hrun, hmutex, hsince, fun k' hk' => ?_⟩
  rcases Nat.lt_succ_iff_lt_or_eq.1 hk' with hlt | heq
  · exact hbelow k' hlt
  · obtain rfl : k' = k := Fin.ext (heq.trans hk.symm)
    exact hsince k' huse

/-- The scan starts. -/
theorem scanned_start (hrun : run step {} as = some s) (hmutex : s.mutex = some (.call c)) :
    Scanned as s c 0 :=
  ⟨as, [], s, (List.append_nil as).symm, hrun, hmutex, fun _ hk => hk,
    fun _ hk => absurd hk (Nat.not_lt_zero _)⟩

/-- **One step** keeps what the scans have seen. -/
theorem scanned_step (hrun : run step {} as = some s)
    (ih : ∀ c i, (s.calls c).scanned = some i → Scanned as s c i) (h : step s a = some s')
    (c : CallId)
    (i : Nat) (hc : (s'.calls c).scanned = some i) : Scanned (as ++ [a]) s' c i := by
  have heff := step_effect h
  have hsound : Sound s := sound_of_reach (reach_of_run hrun)
  have hkeep : ∀ {j}, (s.calls c).scanned = some j →
      ∀ k, (s'.slots k).inUse = true → (s.slots k).inUse = true := by
    intro j hj k hk
    exact heff.inUse_mono (fun _ _ _ hfound => hsound.not_found hj hfound) hk
  by_cases hcaller : a.caller = some c
  · cases heff with
    | drop | arrive | rxTake | rxMatch | rxMiss | rxNone | rxStatus | rxCopy | rxGive | rxLeave =>
      cases hcaller
    | take hpc hfree =>
      cases hcaller
      rw [State.setCall_self] at hc
      cases hc
      refine scanned_start ?_ rfl
      rw [run_append, hrun, Option.bind_some, run, h]
      rfl
    | @testUsed _ b j k hpc hk huse =>
      cases hcaller
      rw [State.setCall_self] at hc
      cases hc
      have hold : (s.calls c).scanned = some j := congrArg CallPc.scanned hpc
      exact ((ih c j hold).tested hk huse).snoc (hkeep hold)
    | @full _ b j hpc hi =>
      cases hcaller
      rw [State.setCall_self] at hc
      cases hc
      have hold : (s.calls c).scanned = some j := congrArg CallPc.scanned hpc
      exact ((ih c j hold).mono hi).snoc (hkeep hold)
    | _ =>
      cases hcaller
      rw [State.setCall_self] at hc
      cases hc
  · rw [heff.calls_ne hcaller] at hc
    exact (ih c i hc).snoc (hkeep hc)

end Scan

/-! ## The accounts -/

/-- What the slots and the calls account for at the end `s` of the run `as`. -/
structure SlotAccounting (as : List Action) (s : State) : Prop where
  /-- As many slots are in use as calls are between reservation and release. -/
  count : {k | (s.slots k).inUse = true}.encard = {c | s.lease c ≠ none}.encard
  /-- A slot in use has one owner, and what a call owns is in use. -/
  owner : ∀ k, (s.slots k).inUse = true → ∃! c, s.lease c = some k
  used : ∀ {c k}, s.lease c = some k → (s.slots k).inUse = true
  /-- The op_ids in use differ. -/
  opIds : ∀ {k k'}, (s.slots k).inUse = true → (s.slots k').inUse = true →
    (s.slots k).opId = (s.slots k').opId → k = k'
  /-- A call reserves once at most, and releases what it reserved exactly once: it still has to as
  long as it owns the slot. -/
  once : ∀ c k, tally step (reservesSlot c k) {} as ≤ 1
  released : ∀ c k, tally step (releasesSlot c k) {} as + (s.owns c k).toNat =
    tally step (reservesSlot c k) {} as
  returned : ∀ {c r}, s.calls c = .returned r → ∀ k, s.owns c k = false
  /-- A call that fails for want of a slot held the mutex at a moment at which all slots were
  owned. -/
  full : ∀ {c}, s.calls c = .noSlot → ∃ as₁ as₂ s₁, as = as₁ ++ as₂ ∧ run step {} as₁ = some s₁ ∧
    s₁.mutex = some (.call c) ∧ ∀ k, ∃ c', s₁.lease c' = some k

/-- **Slot accounting**: it holds at the end of every run with less than `2 ^ 32` reservations. -/
theorem slot_accounting {as : List Action} {s : State} (h : run step {} as = some s)
    (hcalls : s.allotted < 2 ^ 32) : SlotAccounting as s := by
  have hreach := reach_of_run h
  have hsound : Sound s := sound_of_reach hreach
  have hscan :=
    run_induction (P := fun as s => ∀ c i, (s.calls c).scanned = some i → Scanned as s c i)
    (by rintro c i ⟨⟩) scanned_step h
  refine ⟨hsound.slots.encard_eq, fun k hk => ?_, hsound.slots.used, fun {k k'} hk hk' hop => ?_,
    fun c k => ?_, fun c k => ?_, fun {c r} hc k => ?_, fun {c} hc => ?_⟩
  · obtain ⟨c, hc⟩ := hsound.slots.owned hk
    exact ⟨c, hc, fun c' hc' => hsound.slots.unique hc' hc⟩
  · obtain ⟨c, hc⟩ := hsound.slots.owned hk
    obtain ⟨c', hc'⟩ := hsound.slots.owned hk'
    obtain ⟨r, hr, rfl⟩ := Option.map_eq_some_iff.1 hc
    obtain ⟨r', hr', rfl⟩ := Option.map_eq_some_iff.1 hc'
    have hserve : (s.slots r.slot).opId = r.opId := congrArg (·.2.1) (hsound.serves hr)
    have hserve' : (s.slots r'.slot).opId = r'.opId := congrArg (·.2.1) (hsound.serves hr')
    have hsame : r.opId = r'.opId := hserve.symm.trans (hop.trans hserve')
    obtain rfl := (numbered_of_run h).distinct (Nat.le_of_lt hcalls) hr hr' hsame
    exact Option.some_inj.1 (hc.symm.trans hc')
  · have hbudget : tally step (reservesSlot c k) {} as + (s.calls c).early.toNat ≤
        (({} : State).calls c).early.toNat := tally_budget (fun hs => (step_effect hs).budget) h
    have hearly : (({} : State).calls c).early.toNat = 1 := rfl
    omega
  · have hbalance : (({} : State).owns c k).toNat + tally step (reservesSlot c k) {} as =
        (s.owns c k).toNat + tally step (releasesSlot c k) {} as :=
      tally_balance (fun hs => (step_effect hs).balance) h
    have hnone : (({} : State).owns c k).toNat = 0 := rfl
    omega
  · rw [State.owns, State.lease, hc]
    rfl
  · have hseen : Scanned as s c maxInflight := hscan c _ (congrArg CallPc.scanned hc)
    obtain ⟨as₁, as₂, s₁, has, hrun, hmutex, -, hbelow⟩ := hseen
    have hsound₁ : Sound s₁ := sound_of_reach (reach_of_run hrun)
    exact ⟨as₁, as₂, s₁, has, hrun, hmutex, fun k => hsound₁.slots.owned (hbelow k k.isLt)⟩

/-- A request without a body. -/
def emptyCall : Call := { reqMsgId := 1, respMsgId := 2, reqBody := [], respBodyCap := 0 }

/-- Four calls reserve the slots 0 to 3, the fifth finds none. -/
def crowdedRun : List Action :=
  (List.range maxInflight).flatMap
    (fun c => .invoke c emptyCall true :: List.replicate (c + 4) (.call c)) ++
    .invoke 4 emptyCall true :: List.replicate 6 (.call 4)

theorem slot_accounting_crowded :
    ∃ s, run step {} crowdedRun = some s ∧ s.calls 4 = .noSlot ∧ s.allotted < 2 ^ 32 ∧
      SlotAccounting crowdedRun s := by
  have hrun : ∃ s, run step {} crowdedRun = some s ∧ s.calls 4 = .noSlot ∧ s.allotted = 4 :=
    ⟨_, rfl, rfl, rfl⟩
  obtain ⟨s, hs, hfull, hallot⟩ := hrun
  have hcalls : s.allotted < 2 ^ 32 := by omega
  exact ⟨s, hs, hfull, hcalls, slot_accounting hs hcalls⟩

end EspHostedOpen.Dispatcher
