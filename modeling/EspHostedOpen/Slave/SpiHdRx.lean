import EspHostedOpen.Lib.Ledger
import EspHostedOpen.Lib.Transition
import EspHostedOpen.Slave.RxFrames
import EspHostedOpen.Slave.SdioRxTraffic

/-!
# The receive transactions of SPI-HD (`spi_hd_slave_api.c`)

`spi_hd_rx_task` preloads its transactions into the driver, takes them back as the host fills them,
and passes them on through three queues or puts them back. `esp_spi_hd_read` takes them from the
queues, and its caller puts them back when it is done. Any number of readers are under way at a
time. Each call into the driver, a queue or the semaphore is a step of its own; what the task does
with a transaction in between is part of the step that got it.

Of IDF's driver: transactions are filled in the order in which they were queued, never beyond their
length, and `spi_slave_hd_get_trans_res` leaves `ret_trans` as it is when it reports an error.
-/

namespace EspHostedOpen.SpiHdRx

open Ledger RxFrames Transition

structure Build extends RxFrames.Build where
  queueSize : Nat                                -- `SPI_HD_QUEUE_SIZE`

/-- `interface_buffer_handle_t`. `serial` is for the statements only: the number of the packet, by
arrival. -/
structure Buf where
  serial : Nat
  trans : Nat
  payloadLen : Nat
  deriving DecidableEq, Repr

/-- What `spi_hd_rx_task` is about to do. -/
inductive RxPc
  | preload (i : Nat)                            -- `spi_slave_hd_queue_trans` of transaction `i`
  | getRes                                       -- `spi_slave_hd_get_trans_res`
  | readDone (t : Nat)                           -- `spi_hd_read_done`
  | send (b : Buf) (q : PrioQ)                   -- `xQueueSend`
  | give                                         -- `xSemaphoreGive`
  | fault                                        -- `ret_trans->trans_len` of a NULL `ret_trans`
  deriving DecidableEq, Repr

/-- A reader, by what it is about to do. -/
inductive Op
  | readTest                                     -- `esp_spi_hd_read`: `if_handle->state`
  | readTake                                     -- `xSemaphoreTake`
  | readPoll (q : PrioQ)                         -- `xQueueReceive`
  | process (b : Buf)                            -- `process_rx_pkt`: `free_buf_handle`
  deriving DecidableEq, Repr

/-- For the statements only are `preloaded`, the transactions that the driver took at first;
`received` and `delivered`, the valid packets that the task got and those that a reader returned;
and `missed`, a reader that had taken a token found every queue empty. -/
structure State where
  mem : Nat → Frame := fun _ => { buf := [], received := 0 }
  queued : List Nat := []                        -- in the driver, to be filled
  results : List (Nat × Nat) := []               -- in the driver, filled: transaction and packet
  retTrans : Option (Nat × Nat) := none
  rx : RxPc := .preload 0
  tokens : Nat := 0
  queue : PrioQ → List Buf := fun _ => []
  ops : List Op := []
  active : Bool := false
  freed : List Nat := []
  serial : Nat := 0
  preloaded : List Nat := []
  received : List Nat := []
  delivered : List Nat := []
  missed : Bool := false

/-! ## Steps -/

/-- `spi_hd_read_done`; `ok` is what `spi_slave_hd_queue_trans` answers. -/
def spiHdReadDone (ok : Bool) (t : Nat) (s : State) : State :=
  if ok then { s with queued := s.queued ++ [t] } else { s with freed := s.freed ++ [t] }

/-- `spi_hd_rx_task` on `ret_trans`. -/
def processTrans (build : Build) (t n : Nat) (s : State) : State :=
  let f := s.mem t
  match spiHdVerdict build.toBuild f with
  | .accepted =>
    { s with
      mem := Function.update s.mem t (f.checked build.toBuild)
      rx := .send ⟨n, t, f.received % 2 ^ 16⟩ f.queue }
  | .badChecksum =>
    { s with mem := Function.update s.mem t (f.checked build.toBuild), rx := .readDone t }
  | _ => { s with rx := .readDone t }

/-- One step of `spi_hd_rx_task`; `ok` is what the driver answers. -/
def rxStep (build : Build) (ok : Bool) (s : State) : RxPc → Option State
  | .preload i =>
    if i < build.queueSize then
      some (if ok then
          { s with queued := s.queued ++ [i], preloaded := s.preloaded ++ [i], rx :=
            .preload (i + 1) }
        else { s with freed := s.freed ++ [i], rx := .preload (i + 1) })
    else some { s with rx := .getRes }
  | .getRes =>
    if ok then
      match s.results with
      | [] => none
      | (t, n) :: rest =>
        some (processTrans build t n { s with
          results := rest
          retTrans := some (t, n)
          received := if spiHdVerdict build.toBuild (s.mem t) = .accepted then s.received ++ [n]
            else s.received })
    else
      -- the error is in `res`, the loop tests `ret`
      match s.retTrans with
      | none => some { s with rx := .fault }
      | some (t, n) => some (processTrans build t n s)
  | .readDone t => some { spiHdReadDone ok t s with rx := .getRes }
  | .send b q =>
    if (s.queue q).length < build.queueSize then
      some { s with queue := Function.update s.queue q (s.queue q ++ [b]), rx := .give }
    else none
  | .give => some { s with tokens := min (s.tokens + 1) (build.queueSize * 3), rx := .getRes }
  | .fault => none

/-- One step of a reader: the readers that it becomes. -/
def opStep (ok : Bool) (s : State) : Op → Option (State × List Op)
  | .readTest => some (s, if s.active then [.readTake] else [])
  | .readTake =>
    if s.tokens = 0 then none else some ({ s with tokens := s.tokens - 1 }, [.readPoll .serial])
  | .readPoll q =>
    match s.queue q with
    | [] =>
      match q.next with
      | some q' => some (s, [.readPoll q'])
      | none => some ({ s with missed := true }, [])
    | b :: rest =>
      -- `recv_task` goes on with a packet where `esp_spi_hd_read` returns a length
      some ({ s with queue := Function.update s.queue q rest, delivered :=
        s.delivered ++ [b.serial] }, if b.payloadLen = 0 then [] else [.process b])
  | .process b => some (spiHdReadDone ok b.trans s, [])

inductive Action
  | arrive (f : Frame)                           -- the host sends, the driver fills a transaction
  | rx (ok : Bool)
  | read                                         -- `esp_spi_hd_read` is called
  | op (i : Nat) (ok : Bool)                     -- the `i`th reader under way
  | setActive (active : Bool)                    -- `if_handle->state`
  deriving DecidableEq, Repr

def step (build : Build) (s : State) : Action → Option State
  | .arrive f =>
    match s.queued with
    | [] => none
    | t :: rest =>
      if f.received ≤ bufferSize then
        some { s with
          mem := Function.update s.mem t f
          queued := rest
          results := s.results ++ [(t, s.serial)]
          serial := s.serial + 1 }
      else none
  | .rx ok => rxStep build ok s s.rx
  | .read => some { s with ops := .readTest :: s.ops }
  | .op i ok => s.ops[i]?.bind fun op => (opStep ok s op).map fun r =>
    { r.1 with ops := r.2 ++ s.ops.eraseIdx i }
  | .setActive active => some { s with active := active }

/-! ## What the transport promises -/

/-- The transaction that the task has, and the valid packet in it. -/
def RxPc.trans : RxPc → Multiset Nat
  | readDone t => {t}
  | send b _ => {b.trans}
  | _ => 0

def RxPc.serial : RxPc → Multiset Nat
  | send b _ => {b.serial}
  | _ => 0

def Op.reading : Op → Multiset Buf
  | process b => {b}
  | _ => 0

/-- The transactions outside the driver and the task. -/
def State.waiting (s : State) : Multiset Buf := SdioRx.pool s.queue

def State.reading (s : State) : Multiset Buf := total Op.reading s.ops

/-- **The receive transactions are conserved.** -/
structure Sound (s : State) : Prop where
  /-- each transaction is in one place: with the driver, with the task, in a queue or with a
  reader -/
  place : (s.queued : Multiset Nat) + s.results.map Prod.fst + s.rx.trans +
    (s.waiting + s.reading).map Buf.trans =
    s.preloaded
  single : s.preloaded.Nodup
  /-- each valid packet that was received is with the task, in a queue or was delivered -/
  delivery : (s.received : Multiset Nat) = s.rx.serial + s.waiting.map Buf.serial + s.delivered
  once : s.received.Nodup
  /-- a packet in a queue is there for a reader -/
  tokens : s.rx ≠ .give → (∀ q, .readPoll q ∉ s.ops) →
    s.tokens = (s.queue .serial).length + (s.queue .bt).length + (s.queue .others).length
  found : s.missed = false
  alive : s.rx ≠ .fault

/-- `spi_slave_hd_get_trans_res` reports no error, and the driver takes back what it is given. -/
def Guard (s : State) : Action → Prop
  | .rx ok => (s.rx = .getRes ∨ ∃ t, s.rx = .readDone t) → ok = true
  | .op i ok => (∃ b, s.ops[i]? = some (.process b)) → ok = true
  | _ => True

/-! ## The account -/

/-- **The account**, with what the readers have. -/
structure Accounted (s : State) (reading : Multiset Buf) : Prop where
  place : (s.queued : Multiset Nat) + s.results.map Prod.fst + s.rx.trans +
    (s.waiting + reading).map Buf.trans =
    s.preloaded
  single : s.preloaded.Nodup
  fresh : ∀ i, s.rx = .preload i → ∀ t ∈ s.preloaded, t < i
  delivery : (s.received : Multiset Nat) = s.rx.serial + s.waiting.map Buf.serial + s.delivered
  order : (s.received ++ s.results.map Prod.snd).Pairwise (· < ·)
  behind : ∀ n ∈ s.received ++ s.results.map Prod.snd, n < s.serial
  bounded : ∀ t, (s.mem t).received ≤ bufferSize
  sending : ∀ b q, s.rx = .send b q → b.payloadLen ≠ 0
  queue : ∀ q, ∀ b ∈ s.queue q, b.payloadLen ≠ 0
  alive : s.rx ≠ .fault

theorem checked_received (build : RxFrames.Build) (f : Frame) :
    (f.checked build).received = f.received := by
  unfold Frame.checked
  split <;> rfl

theorem bounded_update {mem : Nat → Frame} (h : ∀ t, (mem t).received ≤ bufferSize) {f : Frame}
    (hf : f.received ≤ bufferSize) (t t' : Nat) : (Function.update mem t f t').received ≤
      bufferSize := by
  by_cases ht : t' = t
  · subst ht
    rw [Function.update_self]
    exact hf
  · rw [Function.update_of_ne ht]
    exact h t'

/-- An accepted frame is not empty. -/
theorem payloadLen_ne_zero {build : RxFrames.Build} {f : Frame}
    (h : spiHdVerdict build f = .accepted)
    (hf : f.received ≤ bufferSize) : f.received % 2 ^ 16 ≠ 0 := by
  have hlt : f.received < 2 ^ 16 := hf.trans_lt (by decide)
  rw [Nat.mod_eq_of_lt hlt]
  intro hzero
  unfold spiHdVerdict at h
  simp only [hzero, if_true] at h
  cases h

/-- What the task makes of a transaction. -/
inductive Processed (build : Build) (t n : Nat) (s : State) : State → Prop
  | accepted (mem : Nat → Frame) (hmem : ∀ t', (mem t').received = (s.mem t').received)
      (hv : spiHdVerdict build.toBuild (s.mem t) = .accepted) :
    Processed build t n s
      { s with mem := mem, rx := .send ⟨n, t, (s.mem t).received % 2 ^ 16⟩ (s.mem t).queue }
  | dropped (mem : Nat → Frame) (hmem : ∀ t', (mem t').received = (s.mem t').received)
      (hv : spiHdVerdict build.toBuild (s.mem t) ≠ .accepted) :
    Processed build t n s { s with mem := mem, rx := .readDone t }

theorem processed (build : Build) (t n : Nat) (s : State) : Processed build t n s
    (processTrans build t n s) := by
  have hmem : ∀ t', (Function.update s.mem t ((s.mem t).checked build.toBuild) t').received =
      (s.mem t').received := by
    intro t'
    by_cases ht : t' = t
    · subst ht
      rw [Function.update_self, checked_received]
    · rw [Function.update_of_ne ht]
  unfold processTrans
  dsimp only
  split
  · rename_i hv
    exact .accepted _ hmem hv
  · rename_i hv
    exact .dropped _ hmem (by rw [hv]; nofun)
  · rename_i hv _
    exact .dropped _ (fun _ => rfl) hv

namespace Accounted

variable {s : State} {reading : Multiset Buf} {q : PrioQ} {b : Buf} {rest : List Buf}

/-- Only `rx` moves on, with nothing in hand before and after. -/
theorem setRx (h : Accounted s reading) (rx : RxPc) (htrans : s.rx.trans = rx.trans)
    (hserial : s.rx.serial = rx.serial) (hfresh : ∀ i, rx ≠ .preload i)
    (hsend : ∀ b q, rx ≠ .send b q)
    (halive : rx ≠ .fault) : Accounted { s with rx := rx } reading where
  place := by
    rw [← h.place, htrans]
    rfl
  single := h.single
  fresh i hrx := absurd hrx (hfresh i)
  delivery := by
    rw [h.delivery, hserial]
    rfl
  order := h.order
  behind := h.behind
  bounded := h.bounded
  sending b q hrx := absurd hrx (hsend b q)
  queue := h.queue
  alive := halive

/-- Tokens and readers are no place for a transaction. -/
theorem elsewhere (h : Accounted s reading) (tokens : Nat) (ops : List Op) (active missed : Bool) :
    Accounted { s with tokens, ops, active, missed } reading :=
  ⟨h.place, h.single, h.fresh, h.delivery, h.order, h.behind, h.bounded, h.sending,
    h.queue, h.alive⟩

/-- A transaction is preloaded. -/
theorem preload {i : Nat} (h : Accounted s reading) (hrx : s.rx = .preload i) :
    Accounted { s with queued := s.queued ++ [i], preloaded :=
    s.preloaded ++ [i], rx := .preload (i + 1) }
      reading where
  place := by
    have hplace := h.place
    rw [hrx] at hplace
    show ((s.queued ++ [i] : List Nat) : Multiset Nat) + _ + 0 + _ =
      ((s.preloaded ++ [i] : List Nat) : Multiset Nat)
    rw [← Multiset.coe_add, ← Multiset.coe_add, ← hplace, Multiset.coe_singleton]
    show _ = _ + _ + 0 + _ + _
    abel
  single := by
    refine List.nodup_append.2 ⟨h.single, List.nodup_singleton i, ?_⟩
    intro t ht t' ht'
    cases List.mem_singleton.1 ht'
    exact Nat.ne_of_lt (h.fresh i hrx t ht)
  fresh := by
    intro j hj t ht
    cases hj
    rcases List.mem_append.1 ht with ht | ht
    · exact (h.fresh i hrx t ht).trans (Nat.lt_succ_self i)
    · cases List.mem_singleton.1 ht
      exact Nat.lt_succ_self _
  delivery := by
    rw [h.delivery, hrx]
    rfl
  order := h.order
  behind := h.behind
  bounded := h.bounded
  sending := nofun
  queue := h.queue
  alive := nofun

/-- The driver does not take it. -/
theorem preloadFail {i : Nat} (h : Accounted s reading) (hrx : s.rx = .preload i) :
    Accounted { s with freed := s.freed ++ [i], rx := .preload (i + 1) } reading where
  place := by
    rw [← h.place, hrx]
    rfl
  single := h.single
  fresh := by
    intro j hj t ht
    cases hj
    exact (h.fresh i hrx t ht).trans (Nat.lt_succ_self i)
  delivery := by
    rw [h.delivery, hrx]
    rfl
  order := h.order
  behind := h.behind
  bounded := h.bounded
  sending := nofun
  queue := h.queue
  alive := nofun

/-- The driver fills a transaction. -/
theorem arrive {t : Nat} {rest : List Nat} {f : Frame} (h : Accounted s reading)
    (hqueued : s.queued = t :: rest)
    (hf : f.received ≤ bufferSize) :
    Accounted { s with
      mem := Function.update s.mem t f
      queued := rest
      results := s.results ++ [(t, s.serial)]
      serial := s.serial + 1 } reading where
  place := by
    refine Eq.trans ?_ h.place
    rw [hqueued, List.map_append]
    show (rest : Multiset Nat) + ((s.results.map Prod.fst ++ [t] : List Nat) : Multiset Nat) + _ +
      _ =
      (([t] ++ rest : List Nat) : Multiset Nat) + _ + _ + _
    rw [← Multiset.coe_add, ← Multiset.coe_add]
    show _ + _ + s.rx.trans + (s.waiting + reading).map Buf.trans = _
    abel
  single := h.single
  fresh := h.fresh
  delivery := h.delivery
  order := by
    show (s.received ++ (s.results ++ [(t, s.serial)]).map Prod.snd).Pairwise _
    rw [List.map_append, ← List.append_assoc, List.pairwise_append]
    refine ⟨h.order, List.pairwise_singleton _ _, ?_⟩
    intro n hn m hm
    cases List.mem_singleton.1 hm
    exact h.behind n hn
  behind := by
    intro n hn
    have hn' : n ∈ s.received ++ s.results.map Prod.snd ++ [s.serial] := by
      rw [List.append_assoc]
      simpa [List.map_append] using hn
    rcases List.mem_append.1 hn' with hn | hn
    · exact (h.behind n hn).trans (Nat.lt_succ_self _)
    · cases List.mem_singleton.1 hn
      exact Nat.lt_succ_self _
  bounded := bounded_update h.bounded hf t
  sending := h.sending
  queue := h.queue
  alive := h.alive

/-- **The task gets a transaction** and looks at what is in it. -/
theorem getRes {build : Build} {t n : Nat} {rest : List (Nat × Nat)} {s' : State}
    (h : Accounted s reading)
    (hrx : s.rx = .getRes) (hresults : s.results = (t, n) :: rest)
    (hs : Processed build t n { s with
      results := rest
      retTrans := some (t, n)
      received := if spiHdVerdict build.toBuild (s.mem t) = .accepted then s.received ++
        [n] else s.received } s') :
    Accounted s' reading := by
  have hplace :
    (s.queued : Multiset Nat) + rest.map Prod.fst + {t} + (s.waiting + reading).map Buf.trans =
      s.preloaded := by
    refine Eq.trans ?_ h.place
    rw [hrx, hresults]
    show _ = _ + (([t] ++ rest.map Prod.fst : List Nat) : Multiset Nat) + 0 + _
    rw [← Multiset.coe_add, Multiset.coe_singleton]
    abel
  have hdelivery : (s.received : Multiset Nat) = s.waiting.map Buf.serial + s.delivered := by
    have hnothing : s.rx.serial = 0 := by
      rw [hrx]
      rfl
    have hbefore := h.delivery
    rwa [hnothing, zero_add] at hbefore
  have horder := h.order
  have hbehind := h.behind
  rw [hresults, List.map_cons] at horder hbehind
  cases hs with
  | accepted mem hmem hv =>
    have hv' : spiHdVerdict build.toBuild (s.mem t) = .accepted := hv
    simp only [if_pos hv']
    constructor
    case place => exact hplace
    case single => exact h.single
    case fresh => exact nofun
    case delivery =>
      show ((s.received ++ [n] : List Nat) : Multiset Nat) =
        {n} + s.waiting.map Buf.serial + s.delivered
      rw [← Multiset.coe_add, hdelivery, Multiset.coe_singleton]
      abel
    case order => rwa [List.append_assoc]
    case behind => rwa [List.append_assoc]
    case bounded =>
      intro t'
      rw [hmem]
      exact h.bounded t'
    case sending =>
      intro b q hb
      cases hb
      exact payloadLen_ne_zero hv' (h.bounded t)
    case queue => exact h.queue
    case alive => exact nofun
  | dropped mem hmem hv =>
    have hv' : spiHdVerdict build.toBuild (s.mem t) ≠ .accepted := hv
    have hsub : (s.received ++ rest.map Prod.snd).Sublist (s.received ++ n :: rest.map Prod.snd) :=
      (List.sublist_cons_self _ _).append_left _
    simp only [if_neg hv']
    constructor
    case place => exact hplace
    case single => exact h.single
    case fresh => exact nofun
    case delivery =>
      show (s.received : Multiset Nat) = 0 + s.waiting.map Buf.serial + s.delivered
      rw [zero_add]
      exact hdelivery
    case order => exact horder.sublist hsub
    case behind => exact fun m hm => hbehind m (hsub.subset hm)
    case bounded =>
      intro t'
      rw [hmem]
      exact h.bounded t'
    case sending => exact nofun
    case queue => exact h.queue
    case alive => exact nofun

/-- The task puts a transaction back. -/
theorem readDone {t : Nat} (h : Accounted s reading) (hrx : s.rx = .readDone t) :
    Accounted { s with queued := s.queued ++ [t], rx := .getRes } reading where
  place := by
    refine Eq.trans ?_ h.place
    rw [hrx]
    show ((s.queued ++ [t] : List Nat) : Multiset Nat) + _ + 0 + _ = _ + _ + {t} + _
    rw [← Multiset.coe_add, Multiset.coe_singleton]
    show _ + _ + 0 + (s.waiting + reading).map Buf.trans = _
    abel
  single := h.single
  fresh := nofun
  delivery := by
    rw [h.delivery, hrx]
    rfl
  order := h.order
  behind := h.behind
  bounded := h.bounded
  sending := nofun
  queue := h.queue
  alive := nofun

/-- The task passes a packet on. -/
theorem send (h : Accounted s reading) (hrx : s.rx = .send b q) :
    Accounted
    { s with queue := Function.update s.queue q (s.queue q ++ [b]), rx := .give } reading where
  place := by
    refine Eq.trans ?_ h.place
    show _ + _ + 0 + (SdioRx.pool (Function.update s.queue q (s.queue q ++ [b])) + reading).map
      Buf.trans = _
    rw [SdioRx.pool_append, hrx]
    show _ = _ + _ + {b.trans} + (s.waiting + reading).map Buf.trans
    simp only [Multiset.map_add, Multiset.map_singleton]
    show _ + _ + 0 + (s.waiting.map Buf.trans + _ + _) = _
    abel
  single := h.single
  fresh := nofun
  delivery := by
    refine h.delivery.trans ?_
    show _ = 0 + (SdioRx.pool (Function.update s.queue q (s.queue q ++ [b]))).map Buf.serial + _
    rw [SdioRx.pool_append, hrx]
    simp only [Multiset.map_add, Multiset.map_singleton]
    show {b.serial} + s.waiting.map Buf.serial + _ = 0 + (s.waiting.map Buf.serial + _) + _
    abel
  order := h.order
  behind := h.behind
  bounded := h.bounded
  sending := nofun
  queue := PrioQ.forall_append h.queue (h.sending b q hrx)
  alive := nofun

/-- A reader takes a packet. -/
theorem receive (h : Accounted s reading) (hitem : s.queue q = b :: rest) :
    Accounted
    { s with queue := Function.update s.queue q rest, delivered := s.delivered ++ [b.serial] }
      ({b} + reading) where
  place := by
    refine Eq.trans ?_ h.place
    show _ + _ + s.rx.trans +
      (SdioRx.pool (Function.update s.queue q rest) + ({b} + reading)).map Buf.trans =
      _ + _ + _ + (SdioRx.pool s.queue + reading).map Buf.trans
    rw [SdioRx.pool_pop hitem]
    simp only [Multiset.map_add, Multiset.map_singleton]
    abel
  single := h.single
  fresh := h.fresh
  delivery := by
    refine h.delivery.trans ?_
    show s.rx.serial + (SdioRx.pool s.queue).map Buf.serial + _ =
      s.rx.serial + (SdioRx.pool (Function.update s.queue q rest)).map Buf.serial +
        ((s.delivered ++ [b.serial] : List Nat) : Multiset Nat)
    rw [SdioRx.pool_pop hitem, ← Multiset.coe_add, Multiset.coe_singleton]
    simp only [Multiset.map_add, Multiset.map_singleton]
    abel
  order := h.order
  behind := h.behind
  bounded := h.bounded
  sending := h.sending
  queue := PrioQ.forall_pop h.queue hitem
  alive := h.alive

/-- A reader puts a transaction back. -/
theorem release (h : Accounted s ({b} + reading)) :
    Accounted { s with queued := s.queued ++ [b.trans] } reading where
  place := by
    refine Eq.trans ?_ h.place
    show ((s.queued ++ [b.trans] : List Nat) : Multiset Nat) + _ + s.rx.trans +
      (s.waiting + reading).map Buf.trans = _
    rw [← Multiset.coe_add, Multiset.coe_singleton]
    simp only [Multiset.map_add, Multiset.map_singleton]
    abel
  single := h.single
  fresh := h.fresh
  delivery := h.delivery
  order := h.order
  behind := h.behind
  bounded := h.bounded
  sending := h.sending
  queue := h.queue
  alive := h.alive

theorem length_ne_zero (h : Accounted s reading) (hitem : s.queue q = b :: rest) :
    b.payloadLen ≠ 0 := by
  refine h.queue q b ?_
  rw [hitem]
  exact List.mem_cons_self

end Accounted

theorem rxStep_accounted {build : Build} {ok : Bool} {s s' : State} {reading : Multiset Buf}
    (h : Accounted s reading) (hguard : Guard s (.rx ok)) (hs : rxStep build ok s s.rx = some s') :
    Accounted s' reading := by
  unfold rxStep at hs
  cases hrx : s.rx with
  | preload i =>
    simp only [hrx] at hs
    split at hs
    · cases ok with
      | true =>
        cases hs
        exact h.preload hrx
      | false =>
        cases hs
        exact h.preloadFail hrx
    · cases hs
      exact h.setRx .getRes (by rw [hrx]; rfl) (by rw [hrx]; rfl) nofun nofun nofun
  | getRes =>
    obtain rfl : ok = true := hguard (.inl hrx)
    simp only [hrx, if_true] at hs
    split at hs
    · cases hs
    · rename_i t n rest hresults
      cases hs
      exact h.getRes hrx hresults (processed build t n _)
  | readDone t =>
    obtain rfl : ok = true := hguard (.inr ⟨t, hrx⟩)
    simp only [hrx] at hs
    cases hs
    exact h.readDone hrx
  | send b q =>
    simp only [hrx] at hs
    obtain ⟨-, hs⟩ := Option.ite_none_right_eq_some.1 hs
    cases hs
    exact h.send hrx
  | give =>
    simp only [hrx] at hs
    cases hs
    have hnext := h.setRx .getRes (by rw [hrx]; rfl) (by rw [hrx]; rfl) nofun nofun nofun
    exact hnext.elsewhere _ s.ops s.active s.missed
  | fault => exact absurd hrx h.alive

theorem opStep_accounted {ok : Bool} {s t : State} {op : Op} {qs : List Op} {reading : Multiset Buf}
    (h : Accounted s (op.reading + reading)) (hguard : (∃ b, op = .process b) → ok = true)
    (hs : opStep ok s op = some (t, qs)) : Accounted t (total Op.reading qs + reading) := by
  cases op with
  | readTest =>
    cases hs
    cases s.active <;> simpa [Op.reading] using h
  | readTake =>
    obtain ⟨-, hs⟩ := Option.ite_none_left_eq_some.1 hs
    cases hs
    simp only [Op.reading, total_cons, total_nil, zero_add] at h ⊢
    exact h.elsewhere _ s.ops s.active s.missed
  | readPoll q =>
    simp only [Op.reading, zero_add] at h
    unfold opStep at hs
    dsimp only at hs
    split at hs
    · split at hs
      · cases hs
        simpa [Op.reading] using h
      · cases hs
        rw [total_nil, zero_add]
        exact h.elsewhere s.tokens s.ops s.active _
    · rename_i b rest hitem
      cases hs
      rw [if_neg (h.length_ne_zero hitem)]
      simpa [Op.reading] using h.receive hitem
  | process b =>
    obtain rfl : ok = true := hguard ⟨b, rfl⟩
    cases hs
    rw [total_nil, zero_add]
    exact h.release

/-! ## The count -/

/-- Between its queue send and its semaphore give. -/
def RxPc.pending : RxPc → Nat
  | give => 1
  | _ => 0

/-- The class a reader that has a token looks into. -/
def Op.looking : Op → ℕ → ℕ
  | .readPoll q => Pi.single q.idx 1
  | _ => 0

/-- **The count**: a packet has a token, or the task has still to give it, or a reader has taken it
and looks for the packet. -/
structure Counted (size : Nat) (s : State) (looking : ℕ → ℕ) : Prop where
  counts : Counts (fun q => (s.queue q).length) s.tokens s.rx.pending looking
  room : ∀ q, (s.queue q).length ≤ size
  found : s.missed = false

/-- What the task does apart from its queue send and its semaphore give. -/
theorem Counted.same {size : Nat} {s s' : State} {looking : ℕ → ℕ} (h : Counted size s looking)
    (hqueue : s'.queue = s.queue) (htokens : s'.tokens = s.tokens) (hmissed : s'.missed = s.missed)
    (hrx : s'.rx.pending = s.rx.pending) : Counted size s' looking where
  counts := by
    rw [hqueue, htokens, hrx]
    exact h.counts
  room := by
    rw [hqueue]
    exact h.room
  found := hmissed.trans h.found

theorem processed_same {build : Build} {t n : Nat} {s s' : State} (hs : Processed build t n s s') :
    s'.ops = s.ops ∧ s'.queue = s.queue ∧ s'.tokens = s.tokens ∧ s'.missed = s.missed ∧
      s'.rx.pending = 0 := by
  cases hs <;> exact ⟨rfl, rfl, rfl, rfl, rfl⟩

theorem rxStep_counted {build : Build} {ok : Bool} {s s' : State} {looking : ℕ → ℕ}
    (h : Counted build.queueSize s looking) (hs : rxStep build ok s s.rx = some s') :
    Counted build.queueSize s' looking := by
  unfold rxStep at hs
  cases hrx : s.rx with
  | preload i =>
    simp only [hrx] at hs
    split at hs
    · cases ok <;> cases hs <;> exact h.same rfl rfl rfl (by rw [hrx]; rfl)
    · cases hs
      exact h.same rfl rfl rfl (by rw [hrx]; rfl)
  | getRes =>
    simp only [hrx] at hs
    split at hs
    · split at hs
      · cases hs
      · rename_i t n rest _
        cases hs
        obtain ⟨-, hqueue, htokens, hmissed, hpending⟩ :=
            processed_same (processed build t n { s with
          results := rest
          retTrans := some (t, n)
          received := if spiHdVerdict build.toBuild (s.mem t) = .accepted then s.received ++ [n]
            else s.received })
        exact h.same hqueue htokens hmissed (hpending.trans (by rw [hrx]; rfl))
    · split at hs
      · cases hs
        exact h.same rfl rfl rfl (by rw [hrx]; rfl)
      · rename_i t n _
        cases hs
        obtain ⟨-, hqueue, htokens, hmissed, hpending⟩ := processed_same (processed build t n s)
        exact h.same hqueue htokens hmissed (hpending.trans (by rw [hrx]; rfl))
  | readDone t =>
    simp only [hrx] at hs
    cases hs
    cases ok <;> exact h.same rfl rfl rfl (by rw [hrx]; rfl)
  | send b q =>
    simp only [hrx] at hs
    obtain ⟨hroom, hs⟩ := Option.ite_none_right_eq_some.1 hs
    cases hs
    have hlength : (s.queue q ++ [b]).length = (s.queue q).length + 1 := List.length_append
    have hpending : s.rx.pending = 0 := by
      rw [hrx]
      rfl
    refine ⟨?_, PrioQ.room_update h.room (hlength.trans_le hroom), h.found⟩
    have hcounts := h.counts
    rw [hpending] at hcounts
    simp only [PrioQ.length_update, hlength]
    exact hcounts.send
  | give =>
    simp only [hrx] at hs
    cases hs
    have hcounts := h.counts
    rw [hrx] at hcounts
    exact ⟨hcounts.give h.room, h.room, h.found⟩
  | fault =>
    simp only [hrx] at hs
    cases hs

theorem opStep_counted {size : Nat} {ok : Bool} {s t : State} {op : Op} {qs : List Op}
    {looking : ℕ → ℕ}
    (h : Counted size s (op.looking + looking)) (hs : opStep ok s op = some (t, qs)) :
    Counted size t (total Op.looking qs + looking) := by
  cases op with
  | readTest =>
    cases hs
    cases s.active <;> simpa [Op.looking] using h
  | readTake =>
    obtain ⟨htoken, hs⟩ := Option.ite_none_left_eq_some.1 hs
    cases hs
    simp only [Op.looking, total_cons, total_nil, zero_add, add_zero] at h ⊢
    exact ⟨h.counts.take htoken, h.room, h.found⟩
  | readPoll q =>
    unfold opStep at hs
    dsimp only at hs
    split at hs
    · rename_i hempty
      split at hs
      · rename_i q' hnext
        cases hs
        simp only [Op.looking, total_cons, total_nil, add_zero] at h ⊢
        exact ⟨h.counts.miss (congrArg List.length hempty) hnext, h.room, h.found⟩
      · rename_i hlast
        exact absurd (congrArg List.length hempty) (h.counts.last hlast)
    · rename_i b rest hitem
      cases hs
      have hlength : rest.length = (s.queue q).length - 1 := by
        rw [hitem]
        rfl
      have hne : (s.queue q).length ≠ 0 := by
        rw [hitem]
        exact Nat.succ_ne_zero _
      have hqs : total Op.looking (if b.payloadLen = 0 then [] else [.process b]) = 0 := by
        split <;> rfl
      rw [hqs, zero_add]
      refine ⟨?_, PrioQ.room_update h.room ((hlength.trans_le (Nat.sub_le _ _)).trans (h.room q)),
        h.found⟩
      simp only [PrioQ.length_update, hlength]
      exact h.counts.receive hne
  | process b =>
    cases hs
    simp only [Op.looking, zero_add] at h
    rw [total_nil, zero_add]
    cases ok <;> exact ⟨h.counts, h.room, h.found⟩

/-! ## Every run -/

/-- What a guarded step keeps. -/
structure Inv (build : Build) (s : State) : Prop where
  accounted : Accounted s s.reading
  counted : Counted build.queueSize s (total Op.looking s.ops)

theorem inv_start (build : Build) : Inv build {} where
  accounted := by
    constructor
    case place => rfl
    case single => exact List.nodup_nil
    case fresh => exact fun i _ t ht => absurd ht List.not_mem_nil
    case delivery => rfl
    case order => exact List.Pairwise.nil
    case behind => exact fun n hn => absurd hn List.not_mem_nil
    case bounded => exact fun t => Nat.zero_le _
    case sending => exact nofun
    case queue => exact fun q b hb => absurd hb List.not_mem_nil
    case alive => exact nofun
  counted := ⟨.start, fun _ => Nat.zero_le _, rfl⟩

theorem rxStep_ops {build : Build} {ok : Bool} {s s' : State} {pc : RxPc}
      (hs : rxStep build ok s pc = some s') :
    s'.ops = s.ops := by
  unfold rxStep at hs
  cases pc with
  | preload i =>
    dsimp only at hs
    split at hs
    · cases ok <;> cases hs <;> rfl
    · cases hs
      rfl
  | getRes =>
    dsimp only at hs
    split at hs
    · split at hs
      · cases hs
      · cases hs
        exact (processed_same (processed build _ _ _)).1
    · split at hs
      · cases hs
        rfl
      · cases hs
        exact (processed_same (processed build _ _ _)).1
  | readDone t =>
    cases hs
    cases ok <;> rfl
  | send b q =>
    obtain ⟨-, hs⟩ := Option.ite_none_right_eq_some.1 hs
    cases hs
    rfl
  | give =>
    cases hs
    rfl
  | fault => cases hs

theorem step_inv {build : Build} {s s' : State} {a : Action} (h : Inv build s) (hguard : Guard s a)
    (hs : step build s a = some s') : Inv build s' := by
  cases a with
  | arrive f =>
    unfold step at hs
    dsimp only at hs
    split at hs
    · cases hs
    · rename_i t rest hqueued
      obtain ⟨hf, hs⟩ := Option.ite_none_right_eq_some.1 hs
      cases hs
      exact ⟨h.accounted.arrive hqueued hf, h.counted.same rfl rfl rfl rfl⟩
  | rx ok =>
    have hops := rxStep_ops hs
    constructor
    · rw [State.reading, hops]
      exact rxStep_accounted h.accounted hguard hs
    · rw [hops]
      exact rxStep_counted h.counted hs
  | read =>
    cases hs
    have hreading : total Op.reading (.readTest :: s.ops) = s.reading := by
      rw [total_cons, Op.reading, zero_add]
      · rfl
      · nofun
    have hlooking : total Op.looking (.readTest :: s.ops) = total Op.looking s.ops := by
      rw [total_cons, Op.looking, zero_add]
      nofun
    constructor
    · rw [State.reading, hreading]
      exact h.accounted.elsewhere s.tokens _ s.active s.missed
    · rw [hlooking]
      exact h.counted.same rfl rfl rfl rfl
  | op i ok =>
    obtain ⟨op, hop, hs⟩ := Option.bind_eq_some_iff.1 hs
    obtain ⟨⟨t, qs⟩, hstep, rfl⟩ := Option.map_eq_some_iff.1 hs
    have hacc := h.accounted
    have hcount := h.counted
    rw [State.reading, total_split hop] at hacc
    rw [total_split hop] at hcount
    have hacc' :=
      opStep_accounted hacc (fun ⟨b, hb⟩ => hguard ⟨b, hop.trans (congrArg some hb)⟩) hstep
    have hcount' := opStep_counted hcount hstep
    rw [← total_append] at hacc' hcount'
    exact ⟨hacc'.elsewhere t.tokens _ t.active t.missed, hcount'.same rfl rfl rfl rfl⟩
  | setActive active =>
    cases hs
    exact ⟨h.accounted.elsewhere s.tokens s.ops active s.missed, h.counted.same rfl rfl rfl rfl⟩

theorem Inv.sound {build : Build} {s : State} (h : Inv build s) : Sound s where
  place := h.accounted.place
  single := h.accounted.single
  delivery := h.accounted.delivery
  once := (List.pairwise_append.1 h.accounted.order).1.imp Nat.ne_of_lt
  tokens := by
    intro hgive hpoll
    have hpending : s.rx.pending = 0 := by
      cases hrx : s.rx with
      | give => exact absurd hrx hgive
      | _ => rfl
    have hlooking : total Op.looking s.ops = 0 := by
      refine total_eq_zero fun op hop => ?_
      cases op with
      | readPoll q => exact absurd hop (hpoll q)
      | _ => rfl
    have hcounts := h.counted.counts
    rw [hpending, hlooking] at hcounts
    exact hcounts.tokens_eq
  found := h.counted.found
  alive := h.accounted.alive

/-! ## Where the guard is needed -/

/-- Two sound states with the same preloaded transactions have the same number of them in the four
places. -/
theorem Sound.card_eq {s s' : State} (h : Sound s) (h' : Sound s')
    (hpreloaded : s'.preloaded = s.preloaded) :
    s.queued.length + s.results.length + s.rx.trans.card + (s.waiting.card + s.reading.card) =
      s'.queued.length + s'.results.length + s'.rx.trans.card +
        (s'.waiting.card + s'.reading.card) := by
  have hcard :=
    congrArg Multiset.card (h.place.trans ((congrArg _ hpreloaded.symm).trans h'.place.symm))
  simpa only [Multiset.card_add, Multiset.coe_card, List.length_map, Multiset.card_map] using hcard

/-- **An error result is fatal**: the task takes NULL for a transaction, or has one twice. -/
theorem error_result_unsound {build : Build} {s s' : State} (h : Sound s) (hrx : s.rx = .getRes)
    (hs : rxStep build false s .getRes = some s') : ¬Sound s' := by
  intro h'
  unfold rxStep at hs
  dsimp only at hs
  rw [if_neg Bool.false_ne_true] at hs
  split at hs
  · cases hs
    exact h'.alive rfl
  · rename_i t n _
    have hprocessed := processed build t n s
    rw [Option.some.inj hs] at hprocessed
    have hbefore : s.rx.trans.card = 0 := by
      rw [hrx]
      rfl
    have htwice : s'.rx.trans.card = 1 := by
      cases hprocessed <;> rfl
    have hcard :
        s.queued.length + s.results.length + s.rx.trans.card + (s.waiting.card + s.reading.card) =
        s.queued.length + s.results.length + s'.rx.trans.card +
            (s.waiting.card + s.reading.card) := by
      cases hprocessed <;> exact h.card_eq h' rfl
    omega

/-- A transaction that the driver does not take back is in no place. -/
theorem readDone_refused_unsound {s : State} {t : Nat} (h : Sound s) (hrx : s.rx = .readDone t) :
    ¬Sound { spiHdReadDone false t s with rx := .getRes } := by
  intro h'
  have hbefore : s.rx.trans.card = 1 := by
    rw [hrx]
    rfl
  have hcard :
    s.queued.length + s.results.length + s.rx.trans.card + (s.waiting.card + s.reading.card) =
      s.queued.length + s.results.length + 0 + (s.waiting.card + s.reading.card) :=
    h.card_eq h' rfl
  omega

theorem release_refused_unsound {s : State} {b : Buf} {i : Nat} (h : Sound s)
    (hop : s.ops[i]? = some (.process b)) :
    ¬Sound { spiHdReadDone false b.trans s with ops := s.ops.eraseIdx i } := by
  intro h'
  have hbefore : s.reading.card = 1 + (total Op.reading (s.ops.eraseIdx i)).card := by
    rw [State.reading, total_split hop, Multiset.card_add]
    rfl
  have hcard :
    s.queued.length + s.results.length + s.rx.trans.card + (s.waiting.card + s.reading.card) =
      s.queued.length + s.results.length + s.rx.trans.card +
        (s.waiting.card + (total Op.reading (s.ops.eraseIdx i)).card) :=
    h.card_eq h' rfl
  omega

theorem guard_of_sound {build : Build} {s s' : State} {a : Action} (h : Sound s) (h' : Sound s')
    (hs : step build s a = some s') : Guard s a := by
  cases a with
  | rx ok =>
    intro hcall
    by_contra hok
    rw [Bool.not_eq_true] at hok
    subst hok
    rcases hcall with hrx | ⟨t, hrx⟩
    · rw [step, hrx] at hs
      exact error_result_unsound h hrx hs h'
    · rw [step, hrx] at hs
      cases hs
      exact readDone_refused_unsound h hrx h'
  | op i ok =>
    rintro ⟨b, hop⟩
    by_contra hok
    rw [Bool.not_eq_true] at hok
    subst hok
    rw [step, hop] at hs
    cases hs
    exact release_refused_unsound h hop h'
  | _ => trivial

/-- A call that reports an error always returns. -/
theorem guard_of_stuck {build : Build} {s : State} {a : Action} (hs : step build s a = none) :
      Guard s a := by
  cases a with
  | rx ok =>
    intro hcall
    by_contra hok
    rw [Bool.not_eq_true] at hok
    subst hok
    rcases hcall with hrx | ⟨t, hrx⟩
    · rw [step, hrx, rxStep, if_neg Bool.false_ne_true] at hs
      split at hs <;> cases hs
    · rw [step, hrx] at hs
      cases hs
  | op i ok =>
    rintro ⟨b, hop⟩
    rw [step, hop] at hs
    cases hs
  | _ => trivial

/-- **The receive transactions are conserved exactly where the driver reports no error**: in every
run, whatever is received and at whatever pace the readers go, every state is sound if and only if
`spi_slave_hd_get_trans_res` never fails and every transaction that is put back is taken. -/
theorem transactions_conserved_iff (build : Build) (as : List Action) :
    AllStates (step build) Sound {} as ↔ AllSteps (step build) Guard {} as :=
  allStates_iff_allSteps_of_invariant (J := Inv build) Inv.sound step_inv guard_of_sound
    guard_of_stuck
    (inv_start build)

/-- Two transactions. -/
def twoTrans : Build := { checksum := true, pktNumDebug := false, queueSize := 2 }

/-- A run that ends in an error result: a packet that is in its queue is processed again, and its
transaction put back while the reader has still to take it. -/
def errorRun : List Action :=
  [.rx true, .rx true, .rx true,
    .arrive { buf := [1, 0, 1, 0, 12, 0, 15, 0, 0, 0, 0, 0, 1], received := 13 },
   .rx true, .rx true, .rx true, .rx false, .rx true]

theorem error_result_requeues :
    ∃ s, run (step twoTrans) {} errorRun = some s ∧ s.queued = [1, 0] ∧
      (s.queue .others).map Buf.trans = [0] ∧ ¬AllStates (step twoTrans) Sound {} errorRun := by
  have hrun : (run (step twoTrans) {} errorRun).map
      (fun s => (s.queued, (s.queue .others).map Buf.trans)) = some ([1, 0], [0]) := by
    decide +kernel
  obtain ⟨s, hs, hproj⟩ := Option.map_eq_some_iff.1 hrun
  simp only [Prod.mk.injEq] at hproj
  obtain ⟨hqueued, hothers⟩ := hproj
  refine ⟨s, hs, hqueued, hothers, fun hall => ?_⟩
  have hsound : Sound s := hall.last hs
  have hnodup : ((s.queued : Multiset Nat) + s.results.map Prod.fst + s.rx.trans +
      (s.waiting + s.reading).map Buf.trans).Nodup := by
    rw [hsound.place]
    exact Multiset.coe_nodup.2 hsound.single
  -- transaction 0 is with the driver and in a queue
  have hdriver : 0 ∈ (s.queued : Multiset Nat) + s.results.map Prod.fst + s.rx.trans := by
    simp [hqueued]
  obtain ⟨b, hb, hzero⟩ : ∃ b ∈ s.queue .others, b.trans = 0 := by
    refine List.mem_map.1 ?_
    rw [hothers]
    exact List.mem_singleton.2 rfl
  have hwaiting : 0 ∈ (s.waiting + s.reading).map Buf.trans := by
    refine Multiset.mem_map.2 ⟨b, ?_, hzero⟩
    exact Multiset.mem_add.2 (.inl (Multiset.mem_add.2 (.inr (Multiset.mem_coe.2 hb))))
  exact Multiset.disjoint_left.1 (Multiset.nodup_add.1 hnodup).2.2 hdriver hwaiting

end EspHostedOpen.SpiHdRx
