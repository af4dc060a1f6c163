import EspHostedOpen.Slave.SdioRx

/-!
# The traffic between `sdio_rx_task` and the readers

What holds of the queues, the semaphore and the packets as long as the task is not deleted in the
middle of something.
-/

namespace EspHostedOpen.SdioRx

open Ledger Transition

/-! ## What a step can do -/

/-- What `sdio_slave_recv` comes back with. -/
inductive Received (s : State) : State → Prop
  | nothing : Received s { s with rx := some .test }
  | buffer (h : Nat) (pkt : Packet) (rest : List (Nat × Packet))
    (hreceived : s.driver.received = (h, pkt) :: rest) :
    Received s { s with
      driver := { s.driver with received := rest }
      serial := s.serial + 1
      rx := some (.check ⟨s.serial, h, pkt.payloadLen⟩ pkt) }

theorem received_of_recv {build : Build} {ok : Bool} {s s' : State}
    (hs : rxStep build ok s .recv = some s') :
    Received s s' := by
  rw [rxStep] at hs
  split at hs
  · split at hs
    · cases hs
    · rename_i h pkt rest hreceived
      cases hs
      exact .buffer h pkt rest hreceived
  · cases hs
    exact .nothing

/-- What a reader finds in a queue. -/
inductive Look (s : State) (q : PrioQ) (mark : Nat) : State → List Op → Prop
  | miss (q' : PrioQ) (hempty : s.queue q = []) (hnext : q.next = some q') :
    Look s q mark s [.readPoll q' mark]
  | last (hempty : s.queue q = []) (hlast : q.next = none) : Look s q mark
  { s with missed := true } []
  | hit (b : Buf) (rest : List Buf) (hitem : s.queue q = b :: rest) :
    Look s q mark
      { s with toTraffic := s.toTraffic.receive q mark b rest, driver := s.driver.use b.handle }
      (if b.payloadLen = 0 then [] else [.process b])

theorem look_of_readPoll {s t : State} {q : PrioQ} {mark : Nat} {qs : List Op}
    (hs : opStep s (.readPoll q mark) = some (t, qs)) : Look s q mark t qs := by
  rw [opStep] at hs
  split at hs
  · rename_i hempty
    split at hs
    · rename_i q' hnext
      cases hs
      exact .miss q' hempty hnext
    · rename_i hlast
      cases hs
      exact .last hempty hlast
  · rename_i b rest hitem
    cases hs
    exact .hit b rest hitem

theorem take_of_readTake {s t : State} {qs : List Op} (hs : opStep s .readTake = some (t, qs)) :
    s.tokens ≠ 0 ∧ t = { s with tokens := s.tokens - 1 } ∧ qs = [.readPoll .serial s.front] := by
  rw [opStep] at hs
  split at hs
  · cases hs
  · rename_i htoken
    cases hs
    exact ⟨htoken, rfl, rfl⟩

/-! ## Hands and pools -/

@[simp] theorem hand_none : hand none = 0 := rfl

@[simp] theorem hand_some (b : Buf) : hand (some b) = {b} := rfl

section Pool

variable {α : Type} {f : PrioQ → List α} {q : PrioQ} {a : α} {rest : List α}

theorem pool_append : pool (Function.update f q (f q ++ [a])) = pool f + {a} := by
  cases q <;> simp only [pool, Function.update_self, ne_eq, reduceCtorEq, not_false_eq_true,
    Function.update_of_ne, ← Multiset.coe_add, Multiset.coe_singleton] <;> abel

theorem pool_pop (h : f q = a :: rest) : pool f = {a} + pool (Function.update f q rest) := by
  have hcoe : (f q : Multiset α) = {a} + rest := by
    rw [h]
    rfl
  cases q <;> simp only [pool, Function.update_self, ne_eq, reduceCtorEq, not_false_eq_true,
    Function.update_of_ne, hcoe] <;> abel

theorem length_le_pool (q : PrioQ) : (f q).length ≤ (pool f).card := by
  simp only [pool, Multiset.card_add, Multiset.coe_card]
  cases q <;> omega

end Pool

/-! ## The count -/

/-- Between its queue send and its semaphore give. -/
def pending : Option RxPc → Nat
  | some .give => 1
  | _ => 0

/-- The class a reader that has a token looks into. -/
def Op.looking : Op → ℕ → ℕ
  | .readPoll q _ => Pi.single q.idx 1
  | _ => 0

/-- **The count**: a packet has a token, or the task has still to give it, or a reader has taken it
and looks for the packet. -/
structure Counted (size : Nat) (t : Traffic) (looking : ℕ → ℕ) : Prop where
  counts : Counts (fun q => (t.queue q).length) t.tokens (pending t.rx) looking
  room : ∀ q, (t.queue q).length ≤ size
  found : t.missed = false

namespace Counted

variable {size : Nat} {t : Traffic} {looking : ℕ → ℕ} {q : PrioQ} {b : Buf} {rest : List Buf}
    {mark : Nat}

theorem setRx (h : Counted size t looking) (rx : Option RxPc) (hrx : pending rx = pending t.rx) :
    Counted size { t with rx := rx } looking where
  counts := by
    show Counts _ _ (pending rx) _
    rw [hrx]
    exact h.counts
  room := h.room
  found := h.found

theorem send (h : Counted size t looking) (hrx : pending t.rx = 0)
    (hroom : (t.queue q).length < size) :
    Counted size (t.send q b) looking where
  counts := by
    have hcounts := h.counts
    rw [hrx] at hcounts
    have hlength : (t.queue q ++ [b]).length = (t.queue q).length + 1 := List.length_append
    simp only [Traffic.send, PrioQ.length_update, hlength]
    exact hcounts.send
  room := PrioQ.room_update h.room (by simpa using hroom)
  found := h.found

theorem give (h : Counted size t looking) (hrx : t.rx = some .give) : Counted size
    (t.give size) looking where
  counts := by
    have hcounts := h.counts
    rw [hrx] at hcounts
    exact hcounts.give h.room
  room := h.room
  found := h.found

theorem take (h : Counted size t looking) (htoken : t.tokens ≠ 0) :
    Counted size { t with tokens := t.tokens - 1 } (Pi.single PrioQ.serial.idx 1 + looking) :=
  ⟨h.counts.take htoken, h.room, h.found⟩

theorem receive (h : Counted size t (Pi.single q.idx 1 + looking)) (hitem : t.queue q = b :: rest) :
    Counted size (t.receive q mark b rest) looking where
  counts := by
    have hlength : rest.length = (t.queue q).length - 1 := by
      rw [hitem]
      rfl
    simp only [Traffic.receive, PrioQ.length_update, hlength]
    refine h.counts.receive ?_
    rw [hitem]
    exact Nat.succ_ne_zero _
  room := by
    refine PrioQ.room_update h.room (Nat.le_trans (Nat.le_succ _) ?_)
    have hfull := h.room q
    rwa [hitem] at hfull
  found := h.found

theorem miss {q' : PrioQ} (h : Counted size t (Pi.single q.idx 1 + looking))
    (hempty : t.queue q = [])
    (hnext : q.next = some q') : Counted size t (Pi.single q'.idx 1 + looking) :=
  ⟨h.counts.miss (by rw [hempty]; rfl) hnext, h.room, h.found⟩

end Counted

theorem rxStep_counted {build : Build} {ok : Bool} {s s' : State} {pc : RxPc} {looking : ℕ → ℕ}
    (h : Counted build.numRxBuffers s.toTraffic looking) (hrx : s.rx = some pc)
    (hs : rxStep build ok s pc = some s') : Counted build.numRxBuffers s'.toTraffic looking := by
  cases pc with
  | test | check b pkt =>
    cases hs
    refine h.setRx _ ?_
    rw [hrx]
    split <;> rfl
  | recv =>
    cases received_of_recv hs with
    | nothing => exact h.setRx _ (by rw [hrx]; rfl)
    | buffer =>
      have hnext := h.setRx none (by rw [hrx]; rfl)
      exact ⟨hnext.counts, hnext.room, hnext.found⟩
  | drop b =>
    cases hs
    have hnext := h.setRx none (by rw [hrx]; rfl)
    exact ⟨hnext.counts, hnext.room, hnext.found⟩
  | send b q =>
    obtain ⟨hroom, hs⟩ := Option.ite_none_right_eq_some.1 hs
    cases hs
    exact h.send (by rw [hrx]; rfl) hroom
  | give =>
    cases hs
    exact h.give hrx

theorem opStep_counted {size : Nat} {s t : State} {op : Op} {qs : List Op} {looking : ℕ → ℕ}
    (h : Counted size s.toTraffic (op.looking + looking)) (hs : opStep s op = some (t, qs)) :
    Counted size t.toTraffic (total Op.looking qs + looking) := by
  cases op with
  | readTest =>
    cases hs
    cases s.active <;> simpa [Op.looking] using h
  | readTake =>
    obtain ⟨htoken, rfl, rfl⟩ := take_of_readTake hs
    simpa [Op.looking] using h.take htoken
  | readPoll q mark =>
    cases look_of_readPoll hs with
    | miss q' hempty hnext => simpa [Op.looking] using h.miss hempty hnext
    | last hempty hlast => exact absurd (congrArg List.length hempty) (h.counts.last hlast)
    | hit b rest hitem =>
      have hnext : Counted size (s.toTraffic.receive q mark b rest) looking :=
        Counted.receive h hitem
      have hqs : total Op.looking (if b.payloadLen = 0 then [] else [.process b]) = 0 := by
        split <;> rfl
      rw [hqs, zero_add]
      exact hnext
  | process b =>
    cases hs
    simp only [Op.looking, zero_add] at h
    rw [total_nil, zero_add]
    exact ⟨h.counts, h.room, h.found⟩

/-! ## The account -/

/-- What is known of the length where `sdio_rx_task` goes by it. -/
def RxPc.Filled : RxPc → Prop
  | check b pkt => b.payloadLen = pkt.payloadLen
  | send b _ => b.payloadLen ≠ 0
  | _ => True

theorem Packet.payloadLen_ne_zero {build : Build} {pkt : Packet} (h : pkt.valid build = true) :
    pkt.payloadLen ≠ 0 := by
  simp only [Packet.valid, Bool.and_eq_true, decide_eq_true_eq, Bool.not_eq_true',
    decide_eq_false_iff_not] at h
  omega

theorem forall_mem_some {pc : RxPc} (h : pc.Filled) : ∀ pc' ∈ some pc, pc'.Filled := by
  intro pc' hpc
  cases hpc
  exact h

theorem held_of_rx {t : Traffic} {pc : RxPc} (h : t.rx = some pc) : t.held = pc.held := by
  rw [Traffic.held, h]
  rfl

/-- **The account**: each buffer that was received is in one place, and no packet in a queue is
empty. `reading` is what the readers have. -/
structure Accounted (t : Traffic) (reading : Multiset Buf) : Prop where
  account : (hand t.held + pool t.queue + reading).map Buf.serial + t.dropped + t.released =
    Multiset.range t.serial
  once : pool t.returned = reading.map Buf.serial + t.released
  rx : ∀ pc ∈ t.rx, pc.Filled
  queue : ∀ q, ∀ b ∈ t.queue q, b.payloadLen ≠ 0

namespace Accounted

variable {t : Traffic} {reading : Multiset Buf} {q : PrioQ} {b : Buf} {rest : List Buf} {mark : Nat}

theorem length_ne_zero (h : Accounted t reading) (hitem : t.queue q = b :: rest) :
    b.payloadLen ≠ 0 := by
  refine h.queue q b ?_
  rw [hitem]
  exact List.mem_cons_self

/-- The task goes on with what it has in its hands. -/
theorem setRx (h : Accounted t reading) (rx : Option RxPc) (hheld : rx.bind RxPc.held = t.held)
    (hfilled : ∀ pc ∈ rx, pc.Filled) : Accounted { t with rx := rx } reading where
  account := by
    show (hand (rx.bind RxPc.held) + _ + _).map _ + _ + _ = _
    rw [hheld]
    exact h.account
  once := h.once
  rx := hfilled
  queue := h.queue

/-- `sdio_slave_recv` returns a buffer. -/
theorem recv (h : Accounted t reading) (hheld : t.held = none) (handle : Nat) (pkt : Packet) :
    Accounted { t with
      serial := t.serial + 1
      rx := some (.check ⟨t.serial, handle, pkt.payloadLen⟩ pkt) } reading where
  account := by
    have haccount := h.account
    rw [hheld, hand_none, zero_add] at haccount
    show (hand (some ⟨t.serial, handle, pkt.payloadLen⟩) + _ + _).map Buf.serial + _ + _ =
      Multiset.range (t.serial + 1)
    rw [Multiset.range_succ, ← Multiset.singleton_add, ← haccount, hand_some]
    simp only [Multiset.map_add, Multiset.map_singleton]
    abel
  once := h.once
  rx := by
    intro pc' hpc
    cases hpc
    rfl
  queue := h.queue

/-- The task gives back what it has. -/
theorem drop (h : Accounted t reading) (hheld : t.held = some b) :
    Accounted { t with dropped := t.dropped ++ [b.serial], rx := some .test } reading where
  account := by
    have haccount := h.account
    rw [hheld, hand_some] at haccount
    show (hand none + _ + _).map Buf.serial +
      ((t.dropped ++ [b.serial] : List Nat) : Multiset Nat) + _ = _
    rw [← haccount, hand_none, ← Multiset.coe_add, Multiset.coe_singleton]
    simp only [Multiset.map_add, Multiset.map_singleton, Multiset.map_zero]
    abel
  once := h.once
  rx := by
    intro pc' hpc
    cases hpc
    trivial
  queue := h.queue

theorem send (h : Accounted t reading) (hrx : t.rx = some (.send b q)) : Accounted
    (t.send q b) reading where
  account := by
    refine Eq.trans ?_ h.account
    show (hand none + pool (Function.update t.queue q (t.queue q ++ [b])) + _).map Buf.serial + _ +
      _ = _
    rw [held_of_rx hrx, pool_append]
    simp only [RxPc.held, hand_some, hand_none, Multiset.map_add, Multiset.map_singleton,
      Multiset.map_zero]
    show _ + (t.dropped : Multiset Nat) + (t.released : Multiset Nat) = _
    abel
  once := h.once
  rx := by
    intro pc' hpc
    cases hpc
    trivial
  queue := PrioQ.forall_append h.queue (h.rx (.send b q) hrx)

/-- A reader takes a packet. -/
theorem receive (h : Accounted t reading) (hitem : t.queue q = b :: rest) :
    Accounted (t.receive q mark b rest) ({b} + reading) where
  account := by
    refine Eq.trans ?_ h.account
    rw [pool_pop hitem]
    show (hand t.held + pool (Function.update t.queue q rest) + _).map Buf.serial + t.dropped +
      t.released = _
    simp only [Multiset.map_add, Multiset.map_singleton]
    abel
  once := by
    show pool (Function.update t.returned q (t.returned q ++ [b.serial])) =
      _ + (t.released : Multiset Nat)
    rw [pool_append, h.once]
    simp only [Multiset.map_add, Multiset.map_singleton]
    abel
  rx := h.rx
  queue := PrioQ.forall_pop h.queue hitem

/-- A reader gives back what it has. -/
theorem release (h : Accounted t ({b} + reading)) :
    Accounted { t with released := t.released ++ [b.serial] } reading where
  account := by
    rw [← h.account]
    simp only [← Multiset.coe_add, Multiset.coe_singleton, Multiset.map_add, Multiset.map_singleton]
    show (hand t.held).map _ + _ + _ + _ + _ = _
    abel
  once := by
    show pool t.returned = _
    rw [h.once]
    simp only [← Multiset.coe_add, Multiset.coe_singleton, Multiset.map_add, Multiset.map_singleton]
    abel
  rx := h.rx
  queue := h.queue

end Accounted

theorem rxStep_accounted {build : Build} {ok : Bool} {s s' : State} {pc : RxPc}
    {reading : Multiset Buf}
    (h : Accounted s.toTraffic reading) (hrx : s.rx = some pc)
    (hs : rxStep build ok s pc = some s') :
    Accounted s'.toTraffic reading := by
  have hheld := held_of_rx hrx
  cases pc with
  | test =>
    cases hs
    refine h.setRx _ ?_ ?_
    · rw [hheld]
      cases s.active <;> rfl
    · cases s.active <;> exact forall_mem_some trivial
  | recv =>
    cases received_of_recv hs with
    | nothing => exact h.setRx _ hheld.symm (forall_mem_some trivial)
    | buffer handle pkt => exact h.recv hheld handle pkt
  | check b pkt =>
    have hlength : b.payloadLen = pkt.payloadLen := h.rx _ hrx
    cases hs
    cases hvalid : pkt.valid build with
    | true =>
      refine h.setRx _ hheld.symm (forall_mem_some ?_)
      show b.payloadLen ≠ 0
      rw [hlength]
      exact Packet.payloadLen_ne_zero hvalid
    | false => exact h.setRx _ hheld.symm (forall_mem_some trivial)
  | drop b =>
    cases hs
    exact h.drop hheld
  | send b q =>
    obtain ⟨-, hs⟩ := Option.ite_none_right_eq_some.1 hs
    cases hs
    exact h.send hrx
  | give =>
    cases hs
    have hnext := h.setRx (some .test) hheld.symm (forall_mem_some trivial)
    exact ⟨hnext.account, hnext.once, hnext.rx, hnext.queue⟩

theorem opStep_accounted {s t : State} {op : Op} {qs : List Op} {reading : Multiset Buf}
    (h : Accounted s.toTraffic (op.reading + reading)) (hs : opStep s op = some (t, qs)) :
    Accounted t.toTraffic (total Op.reading qs + reading) := by
  cases op with
  | readTest =>
    cases hs
    cases s.active <;> simpa [Op.reading, Op.held] using h
  | readTake =>
    obtain ⟨-, rfl, rfl⟩ := take_of_readTake hs
    simp only [Op.reading, Op.held, total_cons, total_nil, hand_none, zero_add] at h ⊢
    exact ⟨h.account, h.once, h.rx, h.queue⟩
  | readPoll q mark =>
    simp only [Op.reading, Op.held, hand_none, zero_add] at h
    cases look_of_readPoll hs with
    | miss q' => simpa [Op.reading, Op.held] using h
    | last =>
      rw [total_nil, zero_add]
      exact ⟨h.account, h.once, h.rx, h.queue⟩
    | hit b rest hitem =>
      rw [if_neg (h.length_ne_zero hitem)]
      simpa [Op.reading, Op.held] using h.receive hitem
  | process b =>
    cases hs
    rw [total_nil, zero_add]
    exact h.release

/-! ## The order -/

/-- **The order**: in each class the packets come out as they came in, those that came in before
those that are still to come. -/
structure Ordered (t : Traffic) : Prop where
  arrival : ∀ q, (t.returned q ++ (t.queue q).map Buf.serial).Pairwise (· < ·)
  behind : ∀ q, ∀ n ∈ t.returned q ++ (t.queue q).map Buf.serial, n < t.front
  held : ∀ b ∈ t.held, b.serial < t.serial
  priority : t.overtaken = false

/-- What a reader passed has come in behind its mark. -/
def Op.Placed (t : Traffic) : Op → Prop
  | .readPoll q mark => mark ≤ t.front ∧ ∀ q' ∈ q.above, ∀ b ∈ t.queue q', mark ≤ b.serial
  | _ => True

theorem front_of_none {t : Traffic} (h : t.held = none) : t.front = t.serial := by
  rw [Traffic.front, h]
  rfl

theorem front_of_some {t : Traffic} {b : Buf} (h : t.held = some b) : t.front = b.serial := by
  rw [Traffic.front, h]
  rfl

/-- What comes in later comes in behind. -/
structure Forward (t t' : Traffic) : Prop where
  front : t.front ≤ t'.front
  queue : ∀ q, ∀ b ∈ t'.queue q, b ∈ t.queue q ∨ t.front ≤ b.serial

theorem Forward.same {t t' : Traffic} (hfront : t'.front = t.front) (hqueue : t'.queue = t.queue) :
    Forward t t' := by
  refine ⟨Nat.le_of_eq hfront.symm, ?_⟩
  intro q b hb
  rw [hqueue] at hb
  exact .inl hb

theorem Op.Placed.mono {t t' : Traffic} {op : Op} (h : op.Placed t) (hforward : Forward t t') :
    op.Placed t' := by
  cases op with
  | readPoll q mark =>
    obtain ⟨hmark, habove⟩ := h
    refine ⟨hmark.trans hforward.front, ?_⟩
    intro q' hq' b hb
    rcases hforward.queue q' b hb with hb | hb
    · exact habove q' hq' b hb
    · exact hmark.trans hb
  | _ => trivial

theorem front_setRx {t : Traffic} {rx : Option RxPc} (hheld : rx.bind RxPc.held = t.held) :
    { t with rx := rx }.front = t.front := by
  simp only [Traffic.front, Traffic.held, hheld]

namespace Ordered

variable {t : Traffic} {q : PrioQ} {b : Buf} {rest : List Buf} {mark : Nat}

/-- The task goes on with what it has in its hands. -/
theorem setRx (h : Ordered t) (rx : Option RxPc) (hheld : rx.bind RxPc.held = t.held) :
    Ordered { t with rx := rx } := by
  refine ⟨h.arrival, ?_, ?_, h.priority⟩
  · rw [front_setRx hheld]
    exact h.behind
  · show ∀ b ∈ rx.bind RxPc.held, _
    rw [hheld]
    exact h.held

/-- `sdio_slave_recv` returns a buffer. -/
theorem recv (h : Ordered t) (hheld : t.held = none) (handle : Nat) (pkt : Packet) :
    Ordered { t with
      serial := t.serial + 1
      rx := some (.check ⟨t.serial, handle, pkt.payloadLen⟩ pkt) } where
  arrival := h.arrival
  behind := by
    have hbehind := h.behind
    rw [front_of_none hheld] at hbehind
    exact hbehind
  held := by
    intro b hb
    cases hb
    exact Nat.lt_succ_self t.serial
  priority := h.priority

/-- The task has nothing in its hands any more. -/
theorem clear (h : Ordered t) {rx : Option RxPc} (hrx : rx.bind RxPc.held = none)
    (dropped : List Nat) :
    Ordered { t with dropped := dropped, rx := rx } where
  arrival := h.arrival
  behind := by
    intro q n hn
    rw [front_of_none (t := { t with dropped := dropped, rx := rx }) hrx]
    have hlt := h.behind q n hn
    cases hheld : t.held with
    | none => rwa [front_of_none hheld] at hlt
    | some b =>
      rw [front_of_some hheld] at hlt
      exact hlt.trans (h.held b hheld)
  held := by
    intro b hb
    rw [Traffic.held, hrx] at hb
    cases hb
  priority := h.priority

theorem send (h : Ordered t) (hheld : t.held = some b) : Ordered (t.send q b) := by
  have hbehind := h.behind
  rw [front_of_some hheld] at hbehind
  have hlt := h.held b hheld
  have hsplit : ∀ q', t.returned q' ++ ((t.send q b).queue q').map Buf.serial =
      t.returned q' ++ (t.queue q').map Buf.serial ++ if q' = q then [b.serial] else [] := by
    intro q'
    by_cases hq : q' = q
    · subst hq
      simp [Traffic.send]
    · simp [Traffic.send, hq]
  refine ⟨?_, ?_, nofun, h.priority⟩
  · intro q'
    show (t.returned q' ++ _).Pairwise _
    rw [hsplit, List.pairwise_append]
    refine ⟨h.arrival q', ?_, ?_⟩
    · split
      · exact List.pairwise_singleton _ _
      · exact List.Pairwise.nil
    · intro n hn m hm
      split at hm
      · cases List.mem_singleton.1 hm
        exact hbehind q' n hn
      · cases hm
  · intro q' n hn
    have hn' : n ∈ t.returned q' ++ ((t.send q b).queue q').map Buf.serial := hn
    show n < t.serial
    rw [hsplit, List.mem_append] at hn'
    rcases hn' with hn' | hn'
    · exact (hbehind q' n hn').trans hlt
    · split at hn'
      · cases List.mem_singleton.1 hn'
        exact hlt
      · cases hn'

/-- A reader takes a packet, and has passed none of a higher class that was there first. -/
theorem receive (h : Ordered t) (hitem : t.queue q = b :: rest)
    (hplaced : (Op.readPoll q mark).Placed t) : Ordered (t.receive q mark b rest) := by
  have hsame : ∀ q', (t.receive q mark b rest).returned q' ++
      ((t.receive q mark b rest).queue q').map Buf.serial =
        t.returned q' ++ (t.queue q').map Buf.serial := by
    intro q'
    by_cases hq : q' = q
    · subst hq
      simp [Traffic.receive, hitem]
    · simp [Traffic.receive, hq]
  refine ⟨?_, ?_, h.held, ?_⟩
  · intro q'
    rw [hsame]
    exact h.arrival q'
  · intro q'
    rw [hsame]
    exact h.behind q'
  · have hnone : (q.above.any fun q' => (t.queue q').any fun b' => b'.serial < mark) = false := by
      simp only [List.any_eq_false, decide_eq_true_eq, Bool.not_eq_true]
      intro q' hq' b' hb'
      exact Nat.not_lt.2 (hplaced.2 q' hq' b' hb')
    show (t.overtaken || _) = false
    rw [h.priority, hnone]
    rfl

end Ordered

theorem rxStep_ordered {build : Build} {ok : Bool} {s s' : State} {pc : RxPc}
    (h : Ordered s.toTraffic)
    (hrx : s.rx = some pc) (hs : rxStep build ok s pc = some s') :
    Ordered s'.toTraffic ∧ Forward s.toTraffic s'.toTraffic := by
  have hheld := held_of_rx hrx
  cases pc with
  | test =>
    cases hs
    have hrx' : (some (if s.active then RxPc.recv else .test)).bind RxPc.held = s.held := by
      rw [hheld]
      cases s.active <;> rfl
    exact ⟨h.setRx _ hrx', .same (front_setRx hrx') rfl⟩
  | recv =>
    cases received_of_recv hs with
    | nothing => exact ⟨h.setRx _ hheld.symm, .same (front_setRx hheld.symm) rfl⟩
    | buffer handle pkt => exact ⟨h.recv hheld handle pkt, .same (front_of_none hheld).symm rfl⟩
  | check b pkt =>
    cases hs
    have hrx' : (some (if pkt.valid build then RxPc.send b pkt.queue else .drop b)).bind RxPc.held =
      s.held := by
      rw [hheld]
      cases pkt.valid build <;> rfl
    exact ⟨h.setRx _ hrx', .same (front_setRx hrx') rfl⟩
  | drop b =>
    cases hs
    refine ⟨h.clear rfl _, ?_, fun q b' hb' => .inl hb'⟩
    rw [front_of_some hheld]
    exact Nat.le_of_lt (h.held b hheld)
  | send b q =>
    obtain ⟨-, hs⟩ := Option.ite_none_right_eq_some.1 hs
    cases hs
    refine ⟨h.send hheld, ?_, ?_⟩
    · rw [front_of_some hheld]
      exact Nat.le_of_lt (h.held b hheld)
    · intro q' b' hb'
      rcases PrioQ.mem_update hb' with hmem | ⟨rfl, hmem⟩
      · exact .inl hmem
      · rcases List.mem_append.1 hmem with hmem | hmem
        · exact .inl hmem
        · cases List.mem_singleton.1 hmem
          exact .inr (Nat.le_of_eq (front_of_some hheld))
  | give =>
    cases hs
    have hnext := h.setRx (some .test) hheld.symm
    exact ⟨⟨hnext.arrival, hnext.behind, hnext.held, hnext.priority⟩,
      .same (front_setRx hheld.symm) rfl⟩

theorem opStep_ordered {s t : State} {op : Op} {qs : List Op} (h : Ordered s.toTraffic)
    (hplaced : op.Placed s.toTraffic) (hs : opStep s op = some (t, qs)) :
    Ordered t.toTraffic ∧ Forward s.toTraffic t.toTraffic ∧ ∀ p ∈ qs, p.Placed t.toTraffic := by
  cases op with
  | readTest =>
    cases hs
    refine ⟨h, .same rfl rfl, ?_⟩
    cases s.active with
    | true => exact List.forall_mem_singleton.2 trivial
    | false => exact fun p hp => nomatch hp
  | readTake =>
    obtain ⟨-, rfl, rfl⟩ := take_of_readTake hs
    refine ⟨⟨h.arrival, h.behind, h.held, h.priority⟩, .same rfl rfl,
      List.forall_mem_singleton.2 ⟨?_, ?_⟩⟩
    · exact Nat.le_refl s.front
    · exact fun q' hq' => nomatch hq'
  | readPoll q mark =>
    cases look_of_readPoll hs with
    | miss q' hempty hnext =>
      refine ⟨h, .same rfl rfl, List.forall_mem_singleton.2 ⟨hplaced.1, ?_⟩⟩
      intro r hr b hb
      rcases PrioQ.mem_above_next hnext hr with hr | rfl
      · exact hplaced.2 r hr b hb
      · rw [hempty] at hb
        cases hb
    | last =>
      exact ⟨⟨h.arrival, h.behind, h.held, h.priority⟩, .same rfl rfl, fun p hp => nomatch hp⟩
    | hit b rest hitem =>
      refine ⟨h.receive hitem hplaced, ⟨Nat.le_refl s.front, ?_⟩, ?_⟩
      · intro q' b' hb'
        left
        rcases PrioQ.mem_update hb' with hmem | ⟨rfl, hmem⟩
        · exact hmem
        · rw [hitem]
          exact List.mem_cons_of_mem b hmem
      · intro p hp
        split at hp
        · cases hp
        · cases List.mem_singleton.1 hp
          trivial
  | process b =>
    cases hs
    exact ⟨⟨h.arrival, h.behind, h.held, h.priority⟩, .same rfl rfl, fun p hp => nomatch hp⟩

/-! ## The traffic -/

/-- **The traffic**: count, account and order, with the readers under way. -/
structure Flow (size : Nat) (t : Traffic) : Prop where
  counted : Counted size t (total Op.looking t.ops)
  accounted : Accounted t t.reading
  ordered : Ordered t
  placed : ∀ op ∈ t.ops, op.Placed t

theorem flow_start (build : Build) : Flow build.numRxBuffers (start build).toTraffic where
  counted := ⟨.start, fun _ => Nat.zero_le _, rfl⟩
  accounted := ⟨rfl, rfl, forall_mem_some trivial, fun _ _ hb => (nomatch hb)⟩
  ordered := ⟨fun _ => .nil, fun _ _ hn => (nomatch hn), nofun, rfl⟩
  placed := nofun

namespace Flow

variable {size : Nat} {t : Traffic}

/-- The task is deleted, or created, with nothing in its hands. -/
theorem setRx (h : Flow size t) (rx : Option RxPc) (hheld : rx.bind RxPc.held = t.held)
    (hpending : pending rx = pending t.rx) (hfilled : ∀ pc ∈ rx, pc.Filled) :
    Flow size { t with rx := rx } where
  counted := h.counted.setRx rx hpending
  accounted := h.accounted.setRx rx hheld hfilled
  ordered := h.ordered.setRx rx hheld
  placed := fun op hop => (h.placed op hop).mono (.same (front_setRx hheld) rfl)

/-- `sdio_read` is called. -/
theorem read (h : Flow size t) : Flow size { t with ops := .readTest :: t.ops } where
  counted := by
    have hlooking : total Op.looking (.readTest :: t.ops) = total Op.looking t.ops := by
      rw [total_cons]
      exact zero_add _
    rw [hlooking]
    exact ⟨h.counted.counts, h.counted.room, h.counted.found⟩
  accounted := by
    have hreading : { t with ops := .readTest :: t.ops }.reading = t.reading := by
      rw [Traffic.reading, total_cons]
      exact zero_add _
    rw [hreading]
    exact ⟨h.accounted.account, h.accounted.once, h.accounted.rx, h.accounted.queue⟩
  ordered := ⟨h.ordered.arrival, h.ordered.behind, h.ordered.held, h.ordered.priority⟩
  placed := List.forall_mem_cons.2 ⟨trivial, fun op hop => (h.placed op hop).mono (.same rfl rfl)⟩

end Flow

theorem rxStep_ops {build : Build} {ok : Bool} {s s' : State} {pc : RxPc}
    (hs : rxStep build ok s pc = some s') : s'.ops = s.ops := by
  cases pc with
  | recv =>
    cases received_of_recv hs <;> rfl
  | send b q =>
    obtain ⟨-, hs⟩ := Option.ite_none_right_eq_some.1 hs
    cases hs
    rfl
  | _ =>
    cases hs
    rfl

theorem rxStep_flow {build : Build} {ok : Bool} {s s' : State} {pc : RxPc}
    (h : Flow build.numRxBuffers s.toTraffic) (hrx : s.rx = some pc)
    (hs : rxStep build ok s pc = some s') :
    Flow build.numRxBuffers s'.toTraffic := by
  have hops := rxStep_ops hs
  obtain ⟨hordered, hforward⟩ := rxStep_ordered h.ordered hrx hs
  refine ⟨?_, ?_, hordered, ?_⟩
  · rw [hops]
    exact rxStep_counted h.counted hrx hs
  · rw [Traffic.reading, hops]
    exact rxStep_accounted h.accounted hrx hs
  · rw [hops]
    exact fun op hop => (h.placed op hop).mono hforward

theorem opStep_flow {size : Nat} {s t : State} {op : Op} {qs : List Op} {i : Nat}
    (h : Flow size s.toTraffic)
    (hop : s.ops[i]? = some op) (hs : opStep s op = some (t, qs)) :
    Flow size { t.toTraffic with ops := qs ++ s.ops.eraseIdx i } := by
  have hcounted := h.counted
  have haccounted := h.accounted
  rw [total_split hop] at hcounted
  rw [Traffic.reading, total_split hop] at haccounted
  have hcounted := opStep_counted hcounted hs
  have haccounted := opStep_accounted haccounted hs
  have hmem := List.mem_of_getElem? hop
  obtain ⟨hordered, hforward, hplaced⟩ := opStep_ordered h.ordered (h.placed op hmem) hs
  rw [← total_append] at hcounted haccounted
  refine ⟨⟨hcounted.counts, hcounted.room, hcounted.found⟩,
    ⟨haccounted.account, haccounted.once, haccounted.rx, haccounted.queue⟩,
    ⟨hordered.arrival, hordered.behind, hordered.held, hordered.priority⟩, ?_⟩
  have hall := forall_exchange (i := i) (fun p hp => (h.placed p hp).mono hforward) hplaced
  exact fun p hp => (hall p hp).mono (.same rfl rfl)

end EspHostedOpen.SdioRx
