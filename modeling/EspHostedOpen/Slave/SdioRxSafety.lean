import EspHostedOpen.Slave.SdioRxTraffic

/-!
# Receive buffers of the SDIO transport are not lost, duplicated or used after they are gone
-/

namespace EspHostedOpen.SdioRx

open Ledger Transition

/-! ## The owners -/

/-- **The owners**: a registered buffer is loaded, or filled, or in one place outside the driver.
`held` is what is outside. -/
structure Owned (d : Driver) (held : Multiset Nat) : Prop where
  owned : (d.registered : Multiset Nat) = d.loaded + d.received.map Prod.fst + held
  nodup : d.registered.Nodup
  fresh : ∀ h ∈ d.registered, h < d.next
  current : d.stale = false
  single : d.doubled = false

namespace Owned

variable {d : Driver} {held : Multiset Nat} {a : Nat}

theorem nodup_all (h : Owned d held) :
    ((d.loaded : Multiset Nat) + d.received.map Prod.fst + held).Nodup := by
  rw [← h.owned]
  exact Multiset.coe_nodup.2 h.nodup

theorem mem_registered (h : Owned d held) : a ∈ d.registered ↔ ¬d.Idle a ∨ a ∈ held := by
  rw [← Multiset.mem_coe, h.owned, Multiset.mem_add, Multiset.mem_add, Multiset.mem_coe,
    Multiset.mem_coe, Driver.Idle, not_and_or, not_not, not_not]

/-- What is outside the driver is idle. -/
theorem idle (h : Owned d held) (ha : a ∈ held) : d.Idle a := by
  obtain ⟨-, -, hdisjoint⟩ := Multiset.nodup_add.1 h.nodup_all
  have hnot := Multiset.disjoint_right.1 hdisjoint ha
  rw [Multiset.mem_add, not_or] at hnot
  exact hnot

theorem load (h : Owned d ({a} + held)) : Owned (d.load a) held := by
  have ha : a ∈ {a} + held := by simp
  have hidle := h.idle ha
  have hmem := h.mem_registered.2 (.inr ha)
  refine ⟨?_, h.nodup, h.fresh, ?_, ?_⟩
  · show (d.registered : Multiset Nat) =
      ((if a ∈ d.registered ∧ d.Idle a then d.loaded ++ [a] else d.loaded :
      List Nat) : Multiset Nat) + d.received.map Prod.fst + held
    rw [if_pos ⟨hmem, hidle⟩, h.owned, ← Multiset.coe_add, Multiset.coe_singleton]
    abel
  · simp [Driver.load, h.current, hmem]
  · simp [Driver.load, h.single, hidle]

theorem use (h : Owned d held) (ha : a ∈ held) : Owned (d.use a) held := by
  have hmem := h.mem_registered.2 (.inr ha)
  refine ⟨h.owned, h.nodup, h.fresh, ?_, h.single⟩
  simp [Driver.use, h.current, hmem]

theorem arrive {rest : List Nat} (h : Owned d held) (hloaded : d.loaded = a :: rest)
    (pkt : Packet) :
    Owned { d with loaded := rest, received := d.received ++ [(a, pkt)] } held where
  owned := by
    refine h.owned.trans ?_
    rw [hloaded, List.map_append, ← Multiset.coe_add, ← Multiset.cons_coe, ← Multiset.singleton_add]
    show _ = _ + (_ + {a}) + _
    abel
  nodup := h.nodup
  fresh := h.fresh
  current := h.current
  single := h.single

theorem recv {rest : List (Nat × Packet)} {pkt : Packet} (h : Owned d held)
    (hreceived : d.received = (a, pkt) :: rest) : Owned { d with received := rest }
    ({a} + held) where
  owned := by
    refine h.owned.trans ?_
    rw [hreceived, List.map_cons, ← Multiset.cons_coe, ← Multiset.singleton_add]
    abel
  nodup := h.nodup
  fresh := h.fresh
  current := h.current
  single := h.single

theorem register (h : Owned d held) : Owned d.register ({d.next} + held) where
  owned := by
    show ((d.next :: d.registered : List Nat) : Multiset Nat) =
      d.loaded + d.received.map Prod.fst + _
    rw [← Multiset.cons_coe, h.owned, ← Multiset.singleton_add]
    abel
  nodup := by
    refine List.nodup_cons.2 ⟨?_, h.nodup⟩
    intro hmem
    exact Nat.lt_irrefl _ (h.fresh _ hmem)
  fresh := by
    intro a ha
    rcases List.mem_cons.1 ha with rfl | ha
    · exact Nat.lt_succ_self d.next
    · exact Nat.lt_succ_of_lt (h.fresh a ha)
  current := h.current
  single := h.single

/-- A buffer that the driver has stays registered. -/
theorem unregister_eq (h : Owned d held) (hmem : a ∈ d.registered) (ha : a ∉ held) :
    d.unregister a = d := by
  have hidle := (h.mem_registered.1 hmem).resolve_right ha
  simp [Driver.unregister, hidle, hmem]

theorem deinit (h : Owned d held) : Owned d.deinit 0 where
  owned := rfl
  nodup := List.nodup_nil
  fresh := nofun
  current := h.current
  single := h.single

end Owned

theorem rxStep_owned {build : Build} {ok : Bool} {s s' : State} {pc : RxPc} {rest : Multiset Nat}
    (h : Owned s.driver ((hand s.held + pool s.queue).map Buf.handle + rest)) (hrx : s.rx = some pc)
    (hs : rxStep build ok s pc = some s') :
    Owned s'.driver ((hand s'.held + pool s'.queue).map Buf.handle + rest) := by
  rw [held_of_rx hrx] at h
  cases pc with
  | test =>
    cases hs
    cases s.active <;> exact h
  | recv =>
    cases received_of_recv hs with
    | nothing => exact h
    | buffer handle pkt received hreceived =>
      have hnext := h.recv hreceived
      show Owned _ ((hand (some _) + pool s.queue).map Buf.handle + rest)
      simpa [RxPc.held, add_assoc] using hnext
  | check b pkt =>
    cases hs
    cases hvalid : pkt.valid build <;> exact h
  | drop b =>
    cases hs
    simp only [RxPc.held, hand_some, Multiset.map_add, Multiset.map_singleton, add_assoc] at h
    show Owned _ ((hand none + pool s.queue).map Buf.handle + rest)
    rw [hand_none, zero_add]
    exact h.load
  | send b q =>
    obtain ⟨-, hs⟩ := Option.ite_none_right_eq_some.1 hs
    cases hs
    show Owned _
      ((hand none + pool (Function.update s.queue q (s.queue q ++ [b]))).map Buf.handle + rest)
    rw [pool_append, hand_none, zero_add, add_comm (pool s.queue)]
    exact h
  | give =>
    cases hs
    exact h

theorem opStep_owned {s t : State} {op : Op} {qs : List Op} {rest : Multiset Nat}
    (h : Owned s.driver ((pool s.queue + op.reading).map Buf.handle + rest))
    (haccounted : Accounted s.toTraffic s.reading) (hs : opStep s op = some (t, qs)) :
    Owned t.driver ((pool t.queue + total Op.reading qs).map Buf.handle + rest) := by
  cases op with
  | readTest =>
    cases hs
    cases s.active <;> simpa [Op.reading, Op.held] using h
  | readTake =>
    obtain ⟨-, rfl, rfl⟩ := take_of_readTake hs
    simpa [Op.reading, Op.held] using h
  | readPoll q mark =>
    simp only [Op.reading, Op.held, hand_none, add_zero] at h
    cases look_of_readPoll hs with
    | miss q' => simpa [Op.reading, Op.held] using h
    | last => simpa using h
    | hit b queue hitem =>
      rw [if_neg (haccounted.length_ne_zero hitem)]
      have hb : b.handle ∈ (pool s.queue).map Buf.handle + rest := by
        rw [pool_pop hitem]
        simp
      have hnext := h.use hb
      rw [pool_pop hitem, add_comm ({b} : Multiset Buf)] at hnext
      simpa [Op.reading, Op.held, Traffic.receive] using hnext
  | process b =>
    cases hs
    simp only [Op.reading, Op.held, hand_some, Multiset.map_add, Multiset.map_singleton] at h
    rw [add_comm ((pool s.queue).map Buf.handle), add_assoc] at h
    simpa using h.load

/-! ## Down and up again -/

/-- The table names the registered buffers. -/
def Tabled (handles : Nat → Option Nat) (n : Nat) (d : Driver) : Prop :=
  ∀ h, h ∈ d.registered ↔ ∃ j < n, handles j = some h

/-- Nothing is under way. -/
structure Down (t : Traffic) : Prop where
  rx : t.rx = none
  outstanding : t.outstanding = 0

/-- From the `i`th buffer on the table still names the registered buffers, and all that are
outstanding. -/
structure Leaving (n i : Nat) (s : State) : Prop where
  rx : s.rx = none
  named : ∀ j h, i ≤ j → j < n → s.handles j = some h → h ∈ s.driver.registered
  outstanding : ∀ b ∈ s.outstanding, ∃ j, i ≤ j ∧ j < n ∧ s.handles j = some b.handle

/-- How far `sdio_deinit` and `sdio_init` have come. -/
def Phase (n : Nat) (s : State) : PowerPc → Prop
  | .idle => if s.active then Tabled s.handles n s.driver else Down s.toTraffic ∧
    s.driver.registered = []
  | .deinitKill => Tabled s.handles n s.driver
  | .unregister i => Leaving n i s
  | .driverDeinit => Down s.toTraffic
  | .deinitState => Down s.toTraffic ∧ s.driver.registered = []
  | .initDriver => s.active = false ∧ Down s.toTraffic ∧ s.driver.registered = []
  | .register i => s.active = false ∧ Down s.toTraffic ∧ i ≤ n ∧ Tabled s.handles i s.driver
  | .load i _ => s.active = false ∧ Down s.toTraffic ∧ i < n ∧ Tabled s.handles (i + 1) s.driver
  | .initStart => s.active = false ∧ Down s.toTraffic ∧ Tabled s.handles n s.driver
  | .initFail _ => s.active = false ∧ Down s.toTraffic
  | .initState => Down s.toTraffic ∧ Tabled s.handles n s.driver
  | .initTask => s.active = true ∧ s.rx = none ∧ Tabled s.handles n s.driver

/-- The buffer that `sdio_init` has registered and not loaded. -/
def PowerPc.spare : PowerPc → Multiset Nat
  | load _ h => {h}
  | initFail (some h) => {h}
  | _ => 0

/-- The transport is down. -/
theorem phase_asleep {n : Nat} {s : State} (hactive : s.active = false) (hdown : Down s.toTraffic)
    (hregistered : s.driver.registered = []) : Phase n s .idle := by
  rw [Phase, hactive, if_neg Bool.false_ne_true]
  exact ⟨hdown, hregistered⟩

/-- What the readers, the task and the host leave as it is. -/
structure Still (s s' : State) : Prop where
  power : s'.power = s.power
  registered : s'.driver.registered = s.driver.registered
  handles : s'.handles = s.handles
  active : s'.active = s.active
  rx : s.rx = none → s'.rx = none
  outstanding : s.rx = none → s'.outstanding ≤ s.outstanding

theorem Down.still {s s' : State} (h : Down s.toTraffic) (hstill : Still s s') :
    Down s'.toTraffic where
  rx := hstill.rx h.rx
  outstanding := by
    have hle := hstill.outstanding h.rx
    rw [h.outstanding] at hle
    exact Multiset.le_zero.1 hle

theorem Phase.still {n : Nat} {s s' : State} {pc : PowerPc} (h : Phase n s pc)
    (hstill : Still s s') :
    Phase n s' pc := by
  have htabled : ∀ {i}, Tabled s.handles i s.driver → Tabled s'.handles i s'.driver := by
    intro i htab
    unfold Tabled
    rw [hstill.registered, hstill.handles]
    exact htab
  cases pc with
  | idle =>
    simp only [Phase, hstill.active, hstill.registered] at h ⊢
    split
    · rename_i hactive
      rw [if_pos hactive] at h
      exact htabled h
    · rename_i hactive
      rw [if_neg hactive] at h
      exact h.imp_left fun hdown => hdown.still hstill
  | deinitKill => exact htabled h
  | unregister i =>
    refine ⟨hstill.rx h.rx, ?_, ?_⟩
    · rw [hstill.registered, hstill.handles]
      exact h.named
    · intro b hb
      rw [hstill.handles]
      exact h.outstanding b (Multiset.mem_of_le (hstill.outstanding h.rx) hb)
  | driverDeinit => exact Down.still h hstill
  | deinitState =>
    refine ⟨h.1.still hstill, ?_⟩
    rw [hstill.registered]
    exact h.2
  | initDriver =>
    obtain ⟨hactive, hdown, hregistered⟩ := h
    exact ⟨hstill.active.trans hactive, hdown.still hstill, hstill.registered.trans hregistered⟩
  | register i =>
    obtain ⟨hactive, hdown, hi, htab⟩ := h
    exact ⟨hstill.active.trans hactive, hdown.still hstill, hi, htabled htab⟩
  | load i a =>
    obtain ⟨hactive, hdown, hi, htab⟩ := h
    exact ⟨hstill.active.trans hactive, hdown.still hstill, hi, htabled htab⟩
  | initStart =>
    obtain ⟨hactive, hdown, htab⟩ := h
    exact ⟨hstill.active.trans hactive, hdown.still hstill, htabled htab⟩
  | initFail left =>
    obtain ⟨hactive, hdown⟩ := h
    exact ⟨hstill.active.trans hactive, hdown.still hstill⟩
  | initState =>
    obtain ⟨hdown, htab⟩ := h
    exact ⟨hdown.still hstill, htabled htab⟩
  | initTask =>
    obtain ⟨hactive, hrx, htab⟩ := h
    exact ⟨hstill.active.trans hactive, hstill.rx hrx, htabled htab⟩

/-- The task runs only while the table names the registered buffers. -/
theorem Phase.tabled {n : Nat} {s : State} {pc : PowerPc} (h : Phase n s pc) (hrx : s.rx ≠ none) :
    Tabled s.handles n s.driver := by
  cases pc with
  | idle =>
    rw [Phase] at h
    split at h
    · exact h
    · exact absurd h.1.rx hrx
  | deinitKill => exact h
  | unregister i => exact absurd h.rx hrx
  | driverDeinit => exact absurd (Down.rx h) hrx
  | deinitState => exact absurd h.1.rx hrx
  | initDriver => exact absurd h.2.1.rx hrx
  | register i => exact absurd h.2.1.rx hrx
  | load i a => exact absurd h.2.1.rx hrx
  | initStart => exact absurd h.2.1.rx hrx
  | initFail left => exact absurd h.2.rx hrx
  | initState => exact absurd h.1.rx hrx
  | initTask => exact absurd h.2.1 hrx

theorem Tabled.length_le {handles : Nat → Option Nat} {n : Nat} {d : Driver}
    (h : Tabled handles n d)
    (hnodup : d.registered.Nodup) : d.registered.length ≤ n := by
  have hsubset : d.registered ⊆ (List.range n).filterMap handles := by
    intro a ha
    obtain ⟨j, hj, hjh⟩ := (h a).1 ha
    exact List.mem_filterMap.2 ⟨j, List.mem_range.2 hj, hjh⟩
  calc d.registered.length ≤ ((List.range n).filterMap handles).length :=
        (List.subperm_of_subset hnodup hsubset).length_le
    _ ≤ (List.range n).length := List.length_filterMap_le _ _
    _ = n := List.length_range

theorem rxStep_still {build : Build} {ok : Bool} {s s' : State} {pc : RxPc} (hrx : s.rx = some pc)
    (hs : rxStep build ok s pc = some s') : Still s s' := by
  have hnone : s.rx ≠ none := by
    rw [hrx]
    exact Option.some_ne_none pc
  have hbusy : ∀ {P : Prop}, s.rx = none → P := fun h => absurd h hnone
  cases pc with
  | recv =>
    cases received_of_recv hs <;> exact ⟨rfl, rfl, rfl, rfl, hbusy, hbusy⟩
  | send b q =>
    obtain ⟨-, hs⟩ := Option.ite_none_right_eq_some.1 hs
    cases hs
    exact ⟨rfl, rfl, rfl, rfl, hbusy, hbusy⟩
  | _ =>
    cases hs
    exact ⟨rfl, rfl, rfl, rfl, hbusy, hbusy⟩

/-- What a reader takes comes out of the queues. -/
theorem opStep_le {s t : State} {op : Op} {qs : List Op} (hs : opStep s op = some (t, qs)) :
    pool t.queue + total Op.reading qs ≤ pool s.queue + op.reading := by
  cases op with
  | readTest =>
    cases hs
    cases s.active <;> exact le_refl _
  | readTake =>
    obtain ⟨-, rfl, rfl⟩ := take_of_readTake hs
    exact le_refl _
  | readPoll q mark =>
    cases look_of_readPoll hs with
    | miss => exact le_refl _
    | last => exact le_refl _
    | hit b rest hitem =>
      rw [pool_pop hitem]
      show pool (Function.update s.queue q rest) + _ ≤ {b} + _ + 0
      split
      · simp [Multiset.le_cons_self]
      · simp [Op.reading, Op.held, add_comm]
  | process b =>
    cases hs
    exact add_le_add_right (Multiset.zero_le _) _

/-- What a reader leaves as it is. -/
structure Reader (s t : State) : Prop where
  power : t.power = s.power
  registered : t.driver.registered = s.driver.registered
  handles : t.handles = s.handles
  active : t.active = s.active
  rx : t.rx = s.rx

theorem opStep_reader {s t : State} {op : Op} {qs : List Op} (hs : opStep s op = some (t, qs)) :
    Reader s t := by
  cases op with
  | readTake =>
    obtain ⟨-, rfl, rfl⟩ := take_of_readTake hs
    exact ⟨rfl, rfl, rfl, rfl, rfl⟩
  | readPoll q mark =>
    cases look_of_readPoll hs <;> exact ⟨rfl, rfl, rfl, rfl, rfl⟩
  | _ =>
    cases hs
    exact ⟨rfl, rfl, rfl, rfl, rfl⟩

theorem opStep_still {s t : State} {op : Op} {qs : List Op} {i : Nat} (hop : s.ops[i]? = some op)
    (hs : opStep s op = some (t, qs)) : Still s { t with ops := qs ++ s.ops.eraseIdx i } := by
  have hreader := opStep_reader hs
  have hrx := hreader.rx
  refine ⟨hreader.power, hreader.registered, hreader.handles, hreader.active, hrx.trans, ?_⟩
  intro _
  have hle := opStep_le hs
  show hand (t.rx.bind RxPc.held) + pool t.queue + total Op.reading (qs ++ s.ops.eraseIdx i) ≤
    hand (s.rx.bind RxPc.held) + pool s.queue + total Op.reading s.ops
  rw [hrx, total_append, total_split hop]
  calc _ = hand (s.rx.bind RxPc.held) + (pool t.queue + total Op.reading qs) +
        total Op.reading (s.ops.eraseIdx i) := by abel
    _ ≤ hand (s.rx.bind RxPc.held) + (pool s.queue + op.reading) + total Op.reading
      (s.ops.eraseIdx i) := by gcongr
    _ = _ := by abel

/-! ## The invariant -/

/-- **The invariant** of the guarded runs. -/
structure Inv (build : Build) (s : State) : Prop where
  flow : Flow build.numRxBuffers s.toTraffic
  owned : Owned s.driver (s.outstanding.map Buf.handle + s.power.spare)
  phase : Phase build.numRxBuffers s s.power

theorem inv_start (build : Build) : Inv build (start build) where
  flow := flow_start build
  owned :=
    { owned := by
        show (List.range build.numRxBuffers : Multiset Nat) =
          List.range build.numRxBuffers + 0 + (0 + 0)
        rw [add_zero, add_zero, add_zero]
      nodup := List.nodup_range
      fresh := fun _ hmem => List.mem_range.1 hmem
      current := rfl
      single := rfl }
  phase := by
    intro h
    show h ∈ List.range build.numRxBuffers ↔ ∃ j < _,
      (if j < build.numRxBuffers then some j else none) = some h
    rw [List.mem_range]
    constructor
    · intro hlt
      exact ⟨h, hlt, if_pos hlt⟩
    · rintro ⟨j, hj, hjh⟩
      rw [if_pos hj] at hjh
      cases hjh
      exact hj

theorem outstanding_setRx (t : Traffic) (rx : Option RxPc) (hheld : rx.bind RxPc.held = t.held) :
    { t with rx := rx }.outstanding = t.outstanding := by
  show hand (rx.bind RxPc.held) + pool t.queue + t.reading = _
  rw [hheld]
  rfl

section Power

variable {build : Build} {ok : Bool} {s s' : State}

/-- `sdio_rx_task` is deleted. -/
theorem Inv.kill (h : Inv build s) (hpower : s.power = .deinitKill) (hheld : s.held = none)
    (hgive : s.rx ≠ some .give) : Inv build { s with rx := none, power := .unregister 0 } := by
  have hpending : pending none = pending s.rx := by
    symm
    unfold pending
    split
    · exact absurd ‹_› hgive
    · rfl
  have hphase := h.phase
  have howned := h.owned
  rw [hpower] at hphase howned
  have hout := outstanding_setRx s.toTraffic none hheld.symm
  refine ⟨h.flow.setRx none hheld.symm hpending nofun, ?_, rfl, ?_, ?_⟩
  · rw [hout]
    exact howned
  · intro j a _ hj hja
    exact (hphase a).2 ⟨j, hj, hja⟩
  · intro b hb
    rw [hout] at hb
    have hmem : b.handle ∈ s.outstanding.map Buf.handle + PowerPc.deinitKill.spare :=
      Multiset.mem_add.2 (.inl (Multiset.mem_map_of_mem _ hb))
    obtain ⟨j, hj, hjb⟩ := (hphase b.handle).1 (howned.mem_registered.2 (.inr hmem))
    exact ⟨j, Nat.zero_le j, hj, hjb⟩

/-- `sdio_rx_task` is created. -/
theorem Inv.create (h : Inv build s) (hpower : s.power = .initTask) :
    Inv build { s with rx := some .test, power := .idle } := by
  have hphase := h.phase
  have howned := h.owned
  rw [hpower] at hphase howned
  obtain ⟨hactive, hrx, htabled⟩ := hphase
  have hheld : s.held = none := by
    rw [Traffic.held, hrx]
    rfl
  have hpending : pending (some .test) = pending s.rx := by
    rw [hrx]
    rfl
  have hout := outstanding_setRx s.toTraffic (some .test) hheld.symm
  refine ⟨h.flow.setRx (some .test) hheld.symm hpending (forall_mem_some trivial), ?_, ?_⟩
  · rw [← hout] at howned
    exact howned
  · show if s.active then _ else _
    rw [if_pos hactive]
    exact htabled

/-- The buffer that is unregistered is with the driver. -/
theorem Inv.unregister {i a : Nat} (h : Inv build s) (hpower : s.power = .unregister i)
    (hi : i < build.numRxBuffers) (ha : s.handles i = some a)
    (hfree : ∀ b ∈ s.outstanding, b.handle ≠ a) :
    Inv build { s with
      driver := s.driver.unregister a
      handles := Function.update s.handles i none
      power := .unregister (i + 1) } := by
  have hphase := h.phase
  have howned := h.owned
  rw [hpower] at hphase howned
  have hnot : a ∉ s.outstanding.map Buf.handle + (PowerPc.unregister i).spare := by
    simpa [PowerPc.spare] using hfree
  rw [howned.unregister_eq (hphase.named i a (Nat.le_refl i) hi ha) hnot]
  refine ⟨h.flow, howned, hphase.rx, ?_, ?_⟩
  · intro j a' hij hj hja
    have hja : Function.update s.handles i none j = some a' := hja
    have hne : j ≠ i := by omega
    rw [Function.update_of_ne hne] at hja
    exact hphase.named j a' (by omega) hj hja
  · intro b hb
    obtain ⟨j, hij, hj, hjb⟩ := hphase.outstanding b hb
    have hne : j ≠ i := by
      rintro rfl
      rw [ha, Option.some.injEq] at hjb
      exact hfree b hb hjb.symm
    refine ⟨j, by omega, hj, ?_⟩
    show Function.update s.handles i none j = some b.handle
    rw [Function.update_of_ne hne]
    exact hjb

/-- `sdio_init` registers a buffer. -/
theorem Tabled.register {handles : Nat → Option Nat} {i : Nat} {d : Driver}
    (h : Tabled handles i d) :
    Tabled (Function.update handles i (some d.next)) (i + 1) d.register := by
  intro a
  show a ∈ d.next :: d.registered ↔ _
  rw [List.mem_cons, h a]
  constructor
  · rintro (rfl | ⟨j, hj, hja⟩)
    · exact ⟨i, Nat.lt_succ_self i, Function.update_self ..⟩
    · refine ⟨j, Nat.lt_succ_of_lt hj, ?_⟩
      rw [Function.update_of_ne (Nat.ne_of_lt hj)]
      exact hja
  · rintro ⟨j, hj, hja⟩
    by_cases hji : j = i
    · subst hji
      rw [Function.update_self, Option.some.injEq] at hja
      exact .inl hja.symm
    · rw [Function.update_of_ne hji] at hja
      exact .inr ⟨j, by omega, hja⟩

/-- Where the driver has let go of everything nothing is outstanding. -/
theorem Owned.deinit_down {d : Driver} {t : Traffic} {held : Multiset Nat} (h : Owned d held)
    (hdown : Down t) :
    Owned d.deinit (t.outstanding.map Buf.handle + 0) := by
  rw [hdown.outstanding]
  exact h.deinit

/-- **One step of `sdio_deinit` or `sdio_init`** keeps the invariant. -/
theorem powerStep_inv (h : Inv build s) (hG : Guard build s (.power ok))
    (hs : powerStep build ok s s.power = some s') : Inv build s' := by
  have howned := h.owned
  have hphase := h.phase
  cases hpower : s.power with
  | idle =>
    rw [hpower] at hs
    cases hs
  | deinitKill =>
    simp only [Guard, PowerGuard, hpower] at hG
    rw [hpower] at hs
    cases hs
    exact h.kill hpower hG.1 hG.2
  | unregister i =>
    simp only [Guard, PowerGuard, hpower] at hG
    rw [hpower] at hs hphase howned
    rw [powerStep] at hs
    split at hs
    · rename_i hi
      split at hs
      · rename_i a ha
        cases hs
        exact h.unregister hpower hi ha (hG hi a ha)
      · rename_i hnone
        cases hs
        refine ⟨h.flow, howned, hphase.rx, fun j a hij => hphase.named j a (by omega), ?_⟩
        intro b hb
        obtain ⟨j, hij, hj, hjb⟩ := hphase.outstanding b hb
        have hne : j ≠ i := by
          rintro rfl
          rw [hnone] at hjb
          cases hjb
        exact ⟨j, by omega, hj, hjb⟩
    · cases hs
      refine ⟨h.flow, howned, hphase.rx, Multiset.eq_zero_of_forall_notMem ?_⟩
      intro b hb
      obtain ⟨j, hij, hj, -⟩ := hphase.outstanding b hb
      omega
  | driverDeinit =>
    rw [hpower] at hs hphase
    cases hs
    exact ⟨h.flow, howned.deinit_down hphase, hphase, rfl⟩
  | deinitState =>
    rw [hpower] at hs hphase howned
    cases hs
    exact ⟨h.flow, howned, hphase⟩
  | initDriver =>
    rw [hpower] at hs hphase howned
    obtain ⟨hactive, hdown, hregistered⟩ := hphase
    cases hs
    cases ok with
    | true =>
      refine ⟨h.flow, howned, hactive, hdown, Nat.zero_le _, fun a => ?_⟩
      rw [hregistered]
      simp
    | false => exact ⟨h.flow, howned, phase_asleep hactive hdown hregistered⟩
  | register i =>
    rw [hpower] at hs hphase howned
    obtain ⟨hactive, hdown, hi, htabled⟩ := hphase
    rw [powerStep] at hs
    split at hs
    · rename_i hlt
      split at hs
      · cases hs
        refine ⟨h.flow, ?_, hactive, hdown, hlt, htabled.register⟩
        have hnext :
          Owned s.driver.register ({s.driver.next} + (s.outstanding.map Buf.handle + 0)) :=
          howned.register
        rw [add_comm, add_zero] at hnext
        exact hnext
      · cases hs
    · cases hs
      have hlast : i = build.numRxBuffers := by omega
      rw [hlast] at htabled
      exact ⟨h.flow, howned, hactive, hdown, htabled⟩
  | load i a =>
    rw [hpower] at hs hphase howned
    obtain ⟨hactive, hdown, hi, htabled⟩ := hphase
    cases ok with
    | true =>
      cases hs
      rw [add_comm] at howned
      have hnext := howned.load
      rw [← add_zero (Multiset.map _ _)] at hnext
      exact ⟨h.flow, hnext, hactive, hdown, hi, htabled⟩
    | false =>
      cases hs
      exact ⟨h.flow, howned, hactive, hdown⟩
  | initStart =>
    rw [hpower] at hs hphase howned
    obtain ⟨hactive, hdown, htabled⟩ := hphase
    cases ok with
    | true =>
      cases hs
      exact ⟨h.flow, howned, hdown, htabled⟩
    | false =>
      cases hs
      exact ⟨h.flow, howned, hactive, hdown⟩
  | initFail left =>
    rw [hpower] at hs hphase
    obtain ⟨hactive, hdown⟩ := hphase
    cases hs
    exact ⟨h.flow, howned.deinit_down hdown, phase_asleep hactive hdown rfl⟩
  | initState =>
    rw [hpower] at hs hphase howned
    obtain ⟨hdown, htabled⟩ := hphase
    cases hs
    exact ⟨h.flow, howned, rfl, hdown.rx, htabled⟩
  | initTask =>
    have hrx : s.rx = none := by
      rw [hpower] at hphase
      exact hphase.2.1
    rw [hpower] at hs
    cases hs
    rw [hrx]
    exact h.create hpower

end Power

/-! ## Runs -/

theorem step_inv {build : Build} {s s' : State} {a : Action} (h : Inv build s)
    (hG : Guard build s a)
    (hs : step build s a = some s') : Inv build s' := by
  have hphase := h.phase
  cases a with
  | arrive pkt =>
    rw [step] at hs
    split at hs
    · cases hs
    · rename_i a rest hloaded
      cases hs
      exact ⟨h.flow, h.owned.arrive hloaded pkt,
        hphase.still ⟨rfl, rfl, rfl, rfl, id, fun _ => le_refl _⟩⟩
  | rx ok =>
    obtain ⟨pc, hrx, hs⟩ := Option.bind_eq_some_iff.1 hs
    have hstill := rxStep_still hrx hs
    refine ⟨rxStep_flow h.flow hrx hs, ?_, ?_⟩
    · have howned := h.owned
      rw [Traffic.outstanding, Multiset.map_add, add_assoc] at howned
      rw [Traffic.outstanding, Multiset.map_add, add_assoc, hstill.power, Traffic.reading,
        rxStep_ops hs]
      exact rxStep_owned howned hrx hs
    · rw [hstill.power]
      exact hphase.still hstill
  | read =>
    cases hs
    have hreading : total Op.reading (.readTest :: s.ops) = s.reading := by
      rw [total_cons]
      exact zero_add _
    have hout : { s.toTraffic with ops := .readTest :: s.ops }.outstanding = s.outstanding := by
      show _ + total Op.reading (.readTest :: s.ops) = _
      rw [hreading]
      rfl
    refine ⟨h.flow.read, ?_, hphase.still ⟨rfl, rfl, rfl, rfl, id, fun _ => le_of_eq hout⟩⟩
    have howned := h.owned
    rw [← hout] at howned
    exact howned
  | op i =>
    obtain ⟨op, hop, hs⟩ := Option.bind_eq_some_iff.1 hs
    obtain ⟨⟨t, qs⟩, hstep, rfl⟩ := Option.map_eq_some_iff.1 hs
    have hstill := opStep_still hop hstep
    refine ⟨opStep_flow h.flow hop hstep, ?_, ?_⟩
    · have hheld : t.held = s.held := by
        rw [Traffic.held, (opStep_reader hstep).rx]
        rfl
      -- what the others hold stays
      have hbefore : s.outstanding.map Buf.handle + s.power.spare =
        (pool s.queue + op.reading).map Buf.handle +
          ((hand s.held + total Op.reading (s.ops.eraseIdx i)).map Buf.handle + s.power.spare) := by
        rw [Traffic.outstanding, Traffic.reading, total_split hop]
        simp only [Multiset.map_add]
        abel
      have hafter :
        (hand t.held + pool t.queue + total Op.reading (qs ++ s.ops.eraseIdx i)).map Buf.handle +
          t.power.spare = (pool t.queue + total Op.reading qs).map Buf.handle +
            ((hand s.held + total Op.reading (s.ops.eraseIdx i)).map Buf.handle +
              s.power.spare) := by
        rw [hheld, total_append, (opStep_reader hstep).power]
        simp only [Multiset.map_add]
        abel
      have howned := h.owned
      rw [hbefore] at howned
      have hnext := opStep_owned howned h.flow.accounted hstep
      rw [← hafter] at hnext
      exact hnext
    · rw [hstill.power]
      exact hphase.still hstill
  | deinit =>
    obtain ⟨hidle, hs⟩ := Option.ite_none_right_eq_some.1 hs
    have howned := h.owned
    rw [hidle] at howned hphase
    rw [Option.some.injEq] at hs
    split at hs
    · rename_i hactive
      rw [Bool.and_eq_true] at hactive
      cases hs
      rw [Phase, if_pos hactive.2] at hphase
      exact ⟨h.flow, howned, hphase⟩
    · cases hs
      exact h
  | init =>
    obtain ⟨hidle, hs⟩ := Option.ite_none_right_eq_some.1 hs
    have howned := h.owned
    rw [hidle] at howned hphase
    rw [Option.some.injEq] at hs
    split at hs
    · cases hs
      exact h
    · rename_i hactive
      cases hs
      rw [Phase, if_neg hactive] at hphase
      exact ⟨h.flow, howned, Bool.eq_false_of_not_eq_true hactive, hphase⟩
  | power ok => exact powerStep_inv h hG hs

/-- While the task runs there are no more buffers outstanding than registered. -/
theorem Inv.room {build : Build} {s : State} {b : Buf} {q : PrioQ} (h : Inv build s)
    (hrx : s.rx = some (.send b q)) : (s.queue q).length < build.numRxBuffers := by
  have htabled := h.phase.tabled (by rw [hrx]; exact Option.some_ne_none _)
  have hcard := congrArg Multiset.card h.owned.owned
  have hout : s.outstanding.card = 1 + (pool s.queue).card + s.reading.card := by
    rw [Traffic.outstanding, held_of_rx hrx, Multiset.card_add, Multiset.card_add]
    rfl
  rw [Multiset.card_add, Multiset.card_add, Multiset.card_add, Multiset.card_map, hout,
    Multiset.coe_card] at hcard
  have hqueue := length_le_pool (f := s.queue) q
  have hlength := htabled.length_le h.owned.nodup
  omega

theorem Inv.tokens {build : Build} {s : State} (h : Inv build s) (hgive : s.rx ≠ some .give)
    (hpoll : ∀ q mark, .readPoll q mark ∉ s.ops) :
    s.tokens = (s.queue .serial).length + (s.queue .bt).length + (s.queue .others).length := by
  have hpending : pending s.rx = 0 := by
    unfold pending
    split
    · exact absurd ‹_› hgive
    · rfl
  have hlooking : total Op.looking s.ops = 0 := by
    refine total_eq_zero ?_
    intro op hop
    cases op with
    | readPoll q mark => exact absurd hop (hpoll q mark)
    | _ => rfl
  have hcounts := h.flow.counted.counts
  rw [hpending, hlooking] at hcounts
  exact hcounts.tokens_eq

theorem Inv.sound {build : Build} {s : State} (h : Inv build s) : Sound build s where
  account := h.flow.accounted.account
  once := h.flow.accounted.once
  owner := by
    have hnodup := h.owned.nodup_all
    rw [← add_assoc] at hnodup
    exact Multiset.nodup_of_le (Multiset.le_add_right _ _) hnodup
  live := by
    intro b hb
    exact h.owned.mem_registered.2 (.inr (Multiset.mem_add.2 (.inl (Multiset.mem_map_of_mem _ hb))))
  current := h.owned.current
  single := h.owned.single
  order := h.flow.ordered.arrival
  priority := h.flow.ordered.priority
  found := h.flow.counted.found
  tokens := h.tokens
  room := fun _ _ hrx => h.room hrx

/-- **Receive buffers**: in every run whose `sdio_deinit` finds nothing in the way the receive side
is sound. -/
theorem rx_buffers_sound (build : Build) (s : State)
    (h : Reach (step build) (Guard build) (start build) s) :
    Sound build s := by
  have hinv := h.invariant (inv_start build) step_inv
  exact hinv.sound

instance (build : Build) (s : State) (pc : PowerPc) : Decidable (PowerGuard build s pc) :=
  match pc with
  | .deinitKill => inferInstanceAs (Decidable (_ ∧ _))
  | .unregister i =>
    inferInstanceAs
      (Decidable (i < build.numRxBuffers → ∀ h ∈ s.handles i, ∀ b ∈ s.outstanding, b.handle ≠ h))
  | .idle | .driverDeinit | .deinitState | .initDriver | .register _ | .load _ _ | .initStart
    | .initFail _
  | .initState | .initTask => inferInstanceAs (Decidable True)

/-- The guard, as a test. -/
def unhindered (build : Build) (s : State) : Action → Bool
  | .power _ => PowerGuard build s s.power
  | _ => true

theorem guard_of_unhindered {build : Build} (s : State) (a : Action)
    (h : unhindered build s a = true) :
    Guard build s a := by
  cases a with
  | power ok =>
    show PowerGuard build s s.power
    exact of_decide_eq_true h
  | _ => trivial

/-- A packet that `sdio_rx_task` takes as far as `n` steps go. -/
def deliver (len n : Nat) : List Action :=
  .arrive ⟨20, 1, len, 12, true⟩ :: List.replicate n (.rx true)

/-- A packet that is read and given back. -/
def consume : List Action := .read :: List.replicate 6 (.op 0)

/-- Down and up again with `n` buffers. -/
def cycle (n : Nat) : List Action :=
  .deinit :: List.replicate (n + 4) (.power true) ++ .init :: List.replicate (2 * n + 5)
    (.power true)

/-- One packet before and one behind a cycle, and an empty one between. -/
theorem rx_buffers_sound_cycle :
    ∃ s, run (guarded (unhindered ⟨1, true, true⟩) (step ⟨1, true, true⟩)) (start ⟨1, true, true⟩)
        (deliver 8 5 ++ consume ++ deliver 0 4 ++ cycle 1 ++ deliver 8 5 ++ consume) = some s ∧
      (s.serial, s.returned .others, s.released, s.dropped, s.driver.loaded) =
        (3, [0, 2], [0, 2], [1], [1]) ∧
      Sound ⟨1, true, true⟩ s := by
  have hrun :
    (run (guarded (unhindered ⟨1, true, true⟩) (step ⟨1, true, true⟩)) (start ⟨1, true, true⟩)
      (deliver 8 5 ++ consume ++ deliver 0 4 ++ cycle 1 ++ deliver 8 5 ++ consume)).map
        (fun s => (s.serial, s.returned .others, s.released, s.dropped, s.driver.loaded)) =
          some (3, [0, 2], [0, 2], [1], [1]) := by
    decide +kernel
  obtain ⟨s, hs, hend⟩ := Option.map_eq_some_iff.1 hrun
  exact ⟨s, hs, hend, rx_buffers_sound _ s (reach_of_guarded_run guard_of_unhindered hs)⟩

/-- `sdio_deinit` comes while one packet waits in its queue and another is in the hands of
`sdio_rx_task`: after the cycle `sdio_read` returns the one with a handle that is not registered any
more, and the other is nowhere. -/
theorem rx_buffers_stale :
    ∃ s, run (step ⟨2, true, true⟩) (start ⟨2, true, true⟩)
    (deliver 8 5 ++ deliver 8 2 ++ cycle 2 ++ consume) =
        some s ∧
      (s.serial, s.returned .others, s.released, s.dropped, s.driver.stale) =
        (2, [0], [0], [], true) ∧
      ¬Sound ⟨2, true, true⟩ s := by
  have hrun : (run (step ⟨2, true, true⟩) (start ⟨2, true, true⟩)
      (deliver 8 5 ++ deliver 8 2 ++ cycle 2 ++ consume)).map
        (fun s => (s.serial, s.returned .others, s.released, s.dropped, s.driver.stale)) =
          some (2, [0], [0], [], true) := by
    decide +kernel
  obtain ⟨s, hs, hend⟩ := Option.map_eq_some_iff.1 hrun
  refine ⟨s, hs, hend, fun hsound => ?_⟩
  simp only [Prod.mk.injEq] at hend
  have hcurrent := hsound.current
  rw [hend.2.2.2.2] at hcurrent
  cases hcurrent

end EspHostedOpen.SdioRx
