import EspHostedOpen.Slave.Reassembly

/-!
# The wait for `r.valid` (`esp_hosted_coprocessor.c`, `protocomm_pserial.c`)

`process_serial_rx_pkt` waits without limit while `r.valid` is set, and only `serial_read_data`, in
`pserial_task`, clears it. So the wait ends if there is a request item between the two tasks.
`protocomm_pserial_data_ready` makes that item, but it can fail, and `parse_protobuf_req` drops its
result.

Here the fragments are arbitrary: no order, size or completeness is assumed.
-/

namespace EspHostedOpen.Reassembly

open ByteCodec Fragments Transition

/-- `pserial_task` has taken an item and not cleared `r.valid` for it yet. -/
def TaskPc.endsWait : TaskPc → Bool
  | .gotArg _ | .gotLen .. | .reading .. | .clearValid _ => true
  | .receiving | .clearLen _ | .clearSeq _ | .parsing _ => false

/-- The receive task is inside `parse_protobuf_req`. -/
def RxPc.inParse : RxPc → Bool
  | .readying _ | .sending .. => true
  | _ => false

/-- A request item is on the queue or in the hands of `pserial_task`. -/
def State.Awaited (s : State) : Prop := s.queue ≠ [] ∨ s.task.endsWait = true

/-- `pserial_task` alone gets `r.valid` cleared. -/
def Ends (s : State) : Prop :=
  ∃ n t, run step s (List.replicate n .task) = some t ∧ t.r.valid = false

/-- **The receiver is not wedged**: whatever sets `r.valid` has an item for it, and that item ends
the wait. -/
structure NotWedged (s : State) : Prop where
  item : s.rx.inParse = false → s.r.valid = true → s.Awaited
  ends : s.rx.inParse = false → s.r.valid = true → Ends s

/-- Where there is something to copy for the queue, there is memory for it. -/
def Allocated (s : State) : Action → Prop
  | .rx malloc => ∀ f, s.rx = .readying f → s.r.len ≠ 0 → malloc = true
  | .task => True

/-! ## The wait ends -/

theorem Ends.of_task {s t : State} (hstep : taskStep s = some t) (h : Ends t) : Ends s := by
  obtain ⟨n, u, hrun, hvalid⟩ := h
  refine ⟨n + 1, u, ?_, hvalid⟩
  rw [List.replicate_succ, run, step, hstep]
  exact hrun

/-- An item in hand ends the wait. -/
theorem ends_of_endsWait {s : State} (hvalid : s.r.valid = true) (htask : s.task.endsWait = true) :
    Ends s := by
  have hclear : ∀ (t : State) (bytes : List UInt8), t.task = .clearValid bytes → Ends t := by
    intro t bytes ht
    refine .of_task (t := (t.setData { t.r with valid := false }).setTask (.clearLen bytes)) ?_ ?_
    · rw [taskStep, ht]
    · exact ⟨0, _, rfl, rfl⟩
  have hread : ∀ (t : State) (arg : List UInt8) (len : Nat), t.task = .reading arg len →
    Ends t := by
    intro t arg len ht
    refine .of_task (t := t.setTask (.clearValid (t.r.data.take len))) ?_ (hclear _ _ rfl)
    rw [taskStep, ht]
  have htest : ∀ (t : State) (arg : List UInt8) (len : Nat), t.r.valid = true →
      t.task = .gotLen arg len → Ends t := by
    intro t arg len hv ht
    refine .of_task (t := t.setTask (.reading arg len)) ?_ (hread _ _ _ rfl)
    rw [taskStep, ht]
    simp only [hv, if_true]
  cases hpc : s.task with
  | gotArg arg =>
    refine .of_task (t := s.setTask (.gotLen arg (min arg.length s.r.len))) ?_
      (htest _ _ _ hvalid rfl)
    rw [taskStep, hpc]
  | gotLen arg len => exact htest s arg len hvalid hpc
  | reading arg len => exact hread s arg len hpc
  | clearValid bytes => exact hclear s bytes hpc
  | _ =>
    rw [hpc] at htask
    cases htask

/-- An item on the queue ends it too, once `pserial_task` is done with the one before. -/
theorem ends_of_queue {s : State} (hvalid : s.r.valid = true) (hqueue : s.queue ≠ []) : Ends s := by
  have hreceive : ∀ t : State, t.r.valid = true → t.queue ≠ [] → t.task = .receiving → Ends t := by
    intro t hv hq ht
    obtain ⟨arg, rest, hcons⟩ := List.exists_cons_of_ne_nil hq
    refine .of_task (t := { t with queue := rest, task := .gotArg arg }) ?_ ?_
    · rw [taskStep, ht, hcons]
    · exact ends_of_endsWait hv rfl
  have hparse : ∀ (t : State) (bytes : List UInt8), t.r.valid = true → t.queue ≠ [] →
      t.task = .parsing bytes → Ends t := by
    intro t bytes hv hq ht
    refine .of_task (t := State.setTask
      { t with parsed := if bytes = [] then t.parsed else t.parsed ++ [bytes] } .receiving) ?_ ?_
    · rw [taskStep, ht]
    · exact hreceive _ hv hq rfl
  have hseq : ∀ (t : State) (bytes : List UInt8), t.r.valid = true → t.queue ≠ [] →
      t.task = .clearSeq bytes → Ends t := by
    intro t bytes hv hq ht
    refine .of_task (t := (t.setData { t.r with curSeqNo := 0 }).setTask (.parsing bytes)) ?_
      (hparse _ _ hv hq rfl)
    rw [taskStep, ht]
  by_cases htask : s.task.endsWait = true
  · exact ends_of_endsWait hvalid htask
  cases hpc : s.task with
  | receiving => exact hreceive s hvalid hqueue hpc
  | parsing bytes => exact hparse s bytes hvalid hqueue hpc
  | clearSeq bytes => exact hseq s bytes hvalid hqueue hpc
  | clearLen bytes =>
    refine .of_task (t := (s.setData { s.r with len := 0 }).setTask (.clearSeq bytes)) ?_
      (hseq _ _ hvalid hqueue rfl)
    rw [taskStep, hpc]
  | _ =>
    rw [hpc] at htask
    exact absurd rfl htask

theorem notWedged_iff {s : State} :
    NotWedged s ↔ (s.rx.inParse = false → s.r.valid = true → s.Awaited) := by
  refine ⟨NotWedged.item, fun h => ⟨h, fun hrx hvalid => ?_⟩⟩
  rcases h hrx hvalid with hqueue | htask
  · exact ends_of_queue hvalid hqueue
  · exact ends_of_endsWait hvalid htask

/-! ## Whose turn it is -/

/-- The items between the two tasks for which `r.valid` is still to be cleared. -/
def State.outstanding (s : State) : Nat := s.queue.length + s.task.endsWait.toNat

theorem State.awaited_iff (s : State) : s.Awaited ↔ s.outstanding ≠ 0 := by
  unfold Awaited outstanding
  cases s.task.endsWait with
  | true => simp
  | false => simp

/-- **What every step keeps**, memory or not: past its wait the receive task has the buffer to
itself, and there is never more than one item, with `r.valid` set for it. -/
def Turns (s : State) : Prop :=
  match s.rx with
  | .idle | .waiting .. => s.outstanding ≤ s.r.valid.toNat
  | .readying _ | .sending .. => s.r.valid = true ∧ s.outstanding = 0
  | _ => s.r.valid = false ∧ s.outstanding = 0

theorem turns_start (fs : List Frag) : Turns { input := fs } := Nat.le_refl 0

/-- A step of the receive task. -/
theorem turns_rx {s s' : State} {malloc : Bool} (h : Turns s) (hs : rxStep malloc s = some s') :
    Turns s' := by
  unfold rxStep at hs
  unfold Turns at h
  cases hrx : s.rx with
  | idle =>
    simp only [hrx] at hs h
    split at hs
    · cases hs
    · cases hs
      exact h
  | waiting f rem =>
    simp only [hrx] at hs h
    cases hs
    split
    · rw [Turns, hrx]
      exact h
    · rename_i hvalid
      have hvalid' : s.r.valid = false := Bool.eq_false_iff.2 hvalid
      rw [hvalid'] at h
      exact ⟨hvalid', Nat.le_zero.1 h⟩
  | lenTest f rem | seqTest f rem =>
    simp only [hrx] at hs h
    cases hs
    split <;> exact h
  | copying f rem =>
    simp only [hrx] at hs h
    obtain ⟨data, -, rfl⟩ := Option.map_eq_some_iff.1 hs
    exact h
  | setSeq f rem | counting f rem | counted f len =>
    simp only [hrx] at hs h
    cases hs
    exact h
  | flagTest f =>
    simp only [hrx] at hs h
    cases hs
    split
    · exact Nat.le_of_eq (h.2.trans (congrArg Bool.toNat h.1).symm)
    · exact h
  | completing f =>
    simp only [hrx] at hs h
    cases hs
    exact ⟨rfl, h.2⟩
  | readying f =>
    simp only [hrx] at hs h
    split at hs
    · cases hs
      exact h.2.le.trans (Nat.zero_le _)
    · cases hs
      exact h
  | sending f arg =>
    -- the item is the only one
    simp only [hrx] at hs h
    cases hs
    have hone : (s.queue ++ [arg]).length + s.task.endsWait.toNat = s.outstanding + 1 := by
      rw [List.length_append, State.outstanding, List.length_singleton]
      omega
    have hvalid : s.r.valid.toNat = 1 := congrArg Bool.toNat h.1
    refine Nat.le_of_eq (hone.trans ?_)
    rw [h.2]
    exact hvalid.symm

/-- What a step of `pserial_task` does to the buffer and the items: it keeps `r.valid` and makes no
item, or it clears `r.valid` for the one in hand. -/
theorem taskStep_turns {s s' : State} (hs : taskStep s = some s') :
    s'.rx = s.rx ∧ ((s'.r.valid = s.r.valid ∧ s'.outstanding = s.outstanding) ∨
      (s.r.valid = false ∧ s'.r.valid = false ∧ s'.outstanding ≤ s.outstanding) ∨
      (s'.r.valid = false ∧ s.outstanding = s'.outstanding + 1)) := by
  unfold taskStep at hs
  unfold State.outstanding
  cases htask : s.task with
  | receiving =>
    simp only [htask] at hs
    split at hs
    · cases hs
    · rename_i arg rest hqueue
      cases hs
      refine ⟨rfl, .inl ⟨rfl, ?_⟩⟩
      rw [hqueue]
      rfl
  | gotLen arg len =>
    simp only [htask] at hs
    cases hs
    refine ⟨rfl, ?_⟩
    cases hvalid : s.r.valid with
    | true => exact .inl ⟨hvalid, rfl⟩
    | false => exact .inr (.inl ⟨rfl, hvalid, Nat.le_add_right _ _⟩)
  | clearValid bytes =>
    simp only [htask] at hs
    cases hs
    exact ⟨rfl, .inr (.inr ⟨rfl, rfl⟩)⟩
  | _ =>
    simp only [htask] at hs
    cases hs
    exact ⟨rfl, .inl ⟨rfl, rfl⟩⟩

theorem turns_task {s s' : State} (h : Turns s) (hs : taskStep s = some s') : Turns s' := by
  obtain ⟨hrx, hsame | ⟨hclear, hclear', hle⟩ | ⟨hclear', hless⟩⟩ := taskStep_turns hs
  · unfold Turns at h ⊢
    rw [hrx, hsame.1, hsame.2]
    exact h
  · unfold Turns at h ⊢
    rw [hrx]
    cases hpc : s.rx <;> simp only [hpc, hclear, hclear'] at h ⊢ <;> grind
  · unfold Turns at h ⊢
    rw [hrx]
    cases hpc : s.rx <;> simp only [hpc, hclear'] at h ⊢ <;> grind [Bool.toNat_le]

theorem turns_step {s s' : State} {a : Action} (h : Turns s) (hs : step s a = some s') :
    Turns s' := by
  cases a with
  | rx malloc => exact turns_rx h hs
  | task => exact turns_task h hs

/-! ## When the receiver is wedged -/

/-- Where the wait has begun and no item is outstanding, nothing is left that ends it. -/
structure Wedged (s : State) : Prop where
  rx : s.rx = .idle ∨ ∃ f rem, s.rx = .waiting f rem
  valid : s.r.valid = true
  item : s.outstanding = 0

theorem Wedged.next {s s' : State} {a : Action} (h : Wedged s) (hs : step s a = some s') :
    Wedged s' ∧ s'.taken = s.taken := by
  cases a with
  | task =>
    have htaken : s'.taken = s.taken := by
      unfold step taskStep at hs
      cases htask : s.task <;> simp only [htask] at hs <;> grind [State.setTask, State.setData]
    obtain ⟨hrx, ⟨hvalid, hitem⟩ | ⟨hno, -⟩ | ⟨-, hitem⟩⟩ := taskStep_turns hs
    · exact ⟨⟨hrx ▸ h.rx, hvalid.trans h.valid, hitem.trans h.item⟩, htaken⟩
    · exact absurd (hno.symm.trans h.valid) Bool.false_ne_true
    · exact absurd (h.item.symm.trans hitem) (Nat.zero_ne_add_one _)
  | rx malloc =>
    unfold step rxStep at hs
    rcases h.rx with hrx | ⟨f, rem, hrx⟩
    · simp only [hrx] at hs
      split at hs
      · cases hs
      · cases hs
        exact ⟨⟨.inr ⟨_, _, rfl⟩, h.valid, h.item⟩, rfl⟩
    · simp only [hrx, h.valid, if_true] at hs
      cases hs
      exact ⟨h, rfl⟩

/-- **A wedged receiver stays wedged**: whatever happens, it is never done with another fragment. -/
theorem Wedged.later {as : List Action} {s t : State} (h : Wedged s)
    (hrun : run step s as = some t) :
    Wedged t ∧ t.taken = s.taken := by
  refine run_induction (P := fun _ t => Wedged t ∧ t.taken = s.taken) ⟨h, rfl⟩ ?_ hrun
  intro as t t' a _ hP hs
  obtain ⟨hnext, htaken⟩ := hP.1.next hs
  exact ⟨hnext, htaken.trans hP.2⟩

/-- The one step that wedges it. -/
theorem wedged_of_failed {s s' : State} {f : Frag} (h : Turns s) (hrx : s.rx = .readying f)
    (hlen : s.r.len ≠ 0) (hs : step s (.rx false) = some s') : Wedged s' := by
  rw [step, rxStep, hrx] at hs
  simp only [hlen, ne_eq, not_false_eq_true, and_self, if_true] at hs
  cases hs
  rw [Turns, hrx] at h
  exact ⟨.inl rfl, h.1, h.2⟩

theorem Wedged.not_notWedged {s : State} (h : Wedged s) : ¬NotWedged s := by
  intro hno
  have hrx : s.rx.inParse = false := by
    rcases h.rx with hidle | ⟨f, rem, hwait⟩
    · rw [hidle]
      rfl
    · rw [hwait]
      rfl
  exact s.awaited_iff.1 (hno.item hrx h.valid) h.item

/-! ## When it is not -/

theorem notWedged_start (fs : List Frag) : NotWedged { input := fs } :=
  notWedged_iff.2 fun _ hvalid => absurd hvalid Bool.false_ne_true

/-- Where the receive task hands over, an item is on the queue; elsewhere it sets nothing that waits
for one. -/
theorem rxStep_awaited {s s' : State} {malloc : Bool} (hturns : Turns s) (h : NotWedged s)
    (hguard : Allocated s (.rx malloc)) (hs : rxStep malloc s = some s') : NotWedged s' := by
  rw [notWedged_iff]
  intro hparse hvalid
  have hitem := h.item
  unfold rxStep at hs
  unfold Turns at hturns
  cases hrx : s.rx with
  | idle =>
    simp only [hrx] at hs hitem
    split at hs
    · cases hs
    · cases hs
      exact hitem rfl hvalid
  | waiting f rem =>
    simp only [hrx] at hs hitem
    cases hs
    split at hvalid
    · rw [if_pos ‹_›]
      exact hitem rfl hvalid
    · exact absurd hvalid ‹_›
  | lenTest f rem | setSeq f rem | seqTest f rem | counting f rem | counted f len | flagTest f =>
    -- `r.valid` is clear
    simp only [hrx] at hs hturns
    cases hs
    have hclear := hturns.1
    grind [State.setRx, State.setData, State.finish]
  | copying f rem =>
    simp only [hrx] at hs hturns
    obtain ⟨data, -, rfl⟩ := Option.map_eq_some_iff.1 hs
    exact absurd (hturns.1.symm.trans hvalid) Bool.false_ne_true
  | completing f =>
    simp only [hrx] at hs
    cases hs
    cases hparse
  | readying f =>
    simp only [hrx] at hs
    split at hs
    · rename_i hfail
      exact absurd (hfail.2.symm.trans (hguard f hrx hfail.1)) Bool.false_ne_true
    · cases hs
      cases hparse
  | sending f arg =>
    simp only [hrx] at hs
    cases hs
    exact .inl (List.append_ne_nil_of_right_ne_nil _ (List.cons_ne_nil _ _))

theorem notWedged_step {s s' : State} {a : Action} (hturns : Turns s) (h : NotWedged s)
    (hguard : Allocated s a) (hs : step s a = some s') : NotWedged s' := by
  cases a with
  | rx malloc => exact rxStep_awaited hturns h hguard hs
  | task =>
    rw [notWedged_iff]
    intro hparse hvalid
    obtain ⟨hrx, ⟨hsame, hitem⟩ | ⟨-, hclear, -⟩ | ⟨hclear, -⟩⟩ := taskStep_turns hs
    · have hbefore := h.item (hrx ▸ hparse) (hsame ▸ hvalid)
      rw [State.awaited_iff] at hbefore ⊢
      rwa [hitem]
    · exact absurd (hclear.symm.trans hvalid) Bool.false_ne_true
    · exact absurd (hclear.symm.trans hvalid) Bool.false_ne_true

/-- **The receiver never wedges exactly where the copies for the queue find memory**: in every run
over any fragments, every state it passes through is free of the wedge if and only if no allocation
fails. -/
theorem never_wedged_iff (fs : List Frag) (as : List Action) :
    AllStates step NotWedged { input := fs } as ↔ AllSteps step Allocated { input := fs } as := by
  refine allStates_iff_allSteps_of_stuck (J := Turns) turns_step ?_ ?_ (turns_start fs)
    (notWedged_start fs)
  · intro s s' a hturns hfree hs
    refine ⟨fun hfree' => ?_, fun hguard => notWedged_step hturns hfree hguard hs⟩
    cases a with
    | task => trivial
    | rx malloc =>
      intro f hrx hlen
      by_contra hfail
      rw [Bool.not_eq_true] at hfail
      subst hfail
      exact (wedged_of_failed hturns hrx hlen hs).not_notWedged hfree'
  · intro s a hs
    cases a with
    | task => trivial
    | rx malloc =>
      intro f hrx hlen
      by_contra hfail
      simp only [step, rxStep, hrx] at hs
      split at hs <;> cases hs

/-- A request of one byte, complete in one fragment. -/
def oneByte : Frag := { key := 1, more := false, payload := [7] }

/-- The copy for the queue finds no memory: the receive task waits from the next fragment on, for
good. -/
theorem failed_malloc_wedges :
    ∃ s, run step { input := [oneByte, oneByte] }
    (List.replicate 10 (.rx true) ++ [.rx false, .rx true]) =
        some s ∧ ¬NotWedged s ∧ ∀ as t, run step s as = some t → t.taken = [oneByte] := by
  have hrun : (run step { input := [oneByte, oneByte] }
      (List.replicate 10 (.rx true) ++ [.rx false, .rx true])).map
        (fun s => (decide (s.rx = .waiting oneByte 8191), s.r.valid, s.outstanding, s.taken)) =
          some (true, true, 0, [oneByte]) := by
    decide +kernel
  obtain ⟨s, hs, hproj⟩ := Option.map_eq_some_iff.1 hrun
  simp only [Prod.mk.injEq, decide_eq_true_eq] at hproj
  obtain ⟨hrx, hvalid, hitem, htaken⟩ := hproj
  have hwedged : Wedged s := ⟨.inr ⟨_, _, hrx⟩, hvalid, hitem⟩
  refine ⟨s, hs, hwedged.not_notWedged, fun as t hlater => ?_⟩
  exact (hwedged.later hlater).2.trans htaken

/-! ## The buffer is never overrun -/

/-- The room the receive task has still to rely on. -/
def RxPc.rem : RxPc → Nat
  | .waiting _ rem | .lenTest _ rem | .setSeq _ rem | .seqTest _ rem | .copying _ rem | .counting
    _ rem => rem
  | _ => 0

/-- What is in the buffer and what may still be copied behind it fit into it. -/
structure Room (s : State) : Prop where
  size : s.r.data.length = rxDataSize
  fits : s.r.len + s.rx.rem ≤ rxDataSize
  counted : ∀ f len, s.rx = .counted f len → len ≤ rxDataSize

theorem room_start (fs : List Frag) : Room { input := fs } :=
  ⟨List.length_replicate, Nat.zero_le _, nofun⟩

theorem room_rx {s s' : State} {malloc : Bool} (h : Room s) (hs : rxStep malloc s = some s') :
      Room s' := by
  have hfits := h.fits
  unfold rxStep at hs
  cases hrx : s.rx with
  | idle =>
    simp only [hrx] at hs hfits
    split at hs
    · cases hs
    · cases hs
      refine ⟨h.size, ?_, nofun⟩
      exact Nat.le_of_eq (Nat.add_sub_cancel' (Nat.le_of_add_right_le hfits))
  | waiting f rem =>
    simp only [hrx] at hs
    cases hs
    split
    · exact h
    · exact ⟨h.size, by rwa [hrx] at hfits, nofun⟩
  | copying f rem =>
    simp only [hrx] at hs
    obtain ⟨data, hpoke, rfl⟩ := Option.map_eq_some_iff.1 hs
    exact ⟨(length_poke hpoke).trans h.size, by rwa [hrx] at hfits, nofun⟩
  | counting f rem =>
    simp only [hrx] at hs hfits
    cases hs
    refine ⟨h.size, Nat.le_of_add_right_le hfits, fun f' len heq => ?_⟩
    cases heq
    exact (Nat.add_le_add_left (Nat.min_le_right _ _) _).trans hfits
  | counted f len =>
    simp only [hrx] at hs
    cases hs
    exact ⟨h.size, h.counted f len hrx, nofun⟩
  | lenTest f rem =>
    simp only [hrx] at hs
    cases hs
    split <;> exact ⟨h.size, by rwa [hrx] at hfits, nofun⟩
  | seqTest f rem =>
    simp only [hrx] at hs hfits
    cases hs
    split
    · exact ⟨h.size, hfits, nofun⟩
    · exact ⟨h.size, Nat.le_of_add_right_le hfits, nofun⟩
  | setSeq f rem =>
    simp only [hrx] at hs
    cases hs
    exact ⟨h.size, by rwa [hrx] at hfits, nofun⟩
  | flagTest f | readying f =>
    simp only [hrx] at hs
    split at hs <;> cases hs <;> exact ⟨h.size, by rwa [hrx] at hfits, nofun⟩
  | completing f | sending f arg =>
    simp only [hrx] at hs
    cases hs
    exact ⟨h.size, by rwa [hrx] at hfits, nofun⟩

/-- `pserial_task` only ever makes room. -/
theorem room_task {s s' : State} (h : Room s) (hs : taskStep s = some s') : Room s' := by
  have hsame : s'.rx = s.rx ∧ s'.r.data = s.r.data ∧ s'.r.len ≤ s.r.len := by
    unfold taskStep at hs
    cases htask : s.task <;> simp only [htask] at hs <;> grind [State.setTask, State.setData]
  obtain ⟨hrx, hdata, hlen⟩ := hsame
  refine ⟨?_, ?_, ?_⟩
  · rw [hdata]
    exact h.size
  · rw [hrx]
    exact (Nat.add_le_add_right hlen _).trans h.fits
  · rw [hrx]
    exact h.counted

/-- **The copy is in bounds**: whatever the fragments are, the receive task stops only where there
is nothing to receive. -/
theorem rx_goes_on {fs : List Frag} {s : State} (h : Reach step Free { input := fs } s)
      (malloc : Bool) :
    rxStep malloc s = none ↔ s.rx = .idle ∧ s.input = [] := by
  have hroom : Room s := by
    refine h.invariant (room_start fs) ?_
    intro s s' a hs _ hstep
    cases a with
    | rx malloc => exact room_rx hs hstep
    | task => exact room_task hs hstep
  unfold rxStep
  cases hrx : s.rx with
  | idle => cases hinput : s.input <;> simp
  | copying f rem =>
    have hfits := hroom.fits
    rw [hrx] at hfits
    have hcopied : (f.payload.take (min f.payload.length rem)).length ≤ rem := by
      rw [List.length_take]
      omega
    have hpoke : s.r.len + (f.payload.take (min f.payload.length rem)).length ≤
        s.r.data.length := by
      rw [hroom.size]
      exact (Nat.add_le_add_left hcopied _).trans hfits
    dsimp only
    rw [poke_inside hpoke]
    simp
  | readying f =>
    dsimp only
    split <;> simp
  | _ => simp

end EspHostedOpen.Reassembly
