import EspHostedOpen.Lib.Ledger
import EspHostedOpen.Lib.Transition

/-!
# The transmit side of the SPI half-duplex transport (`spi_hd_slave_api.c`)

`mempool_tx_sem` counts as `sdio_send_queue_sem` does in `Slave.SdioTx`, but the credit is taken
first and comes back last, and a transaction descriptor from a pool of its own goes with each
buffer. Buffers and descriptors are known by the number of their allocation.
-/

namespace EspHostedOpen.SpiHdTx

open Ledger Transition

/-- What is taken from a pool. -/
inductive Item
  | buffer (n : Nat)
  | trans (n : Nat)
  deriving DecidableEq, Repr

/-- `spi_slave_hd_data_t`: the descriptor and the buffer it points to. -/
structure Trans where
  id : Nat
  data : Nat
  deriving DecidableEq, Repr

/-- An invocation, by what it is about to do. -/
inductive Op
  | writeTest                                    -- `esp_spi_hd_write`: the checks in front
  | writeTake                                    -- `xSemaphoreTake`
  | writeAlloc
  | writeTrans (buf : Nat)                       -- `spi_hd_trans_tx_alloc`
  | writeQueue (t : Trans)                       -- `spi_slave_hd_queue_trans`
  | startupTake                                  -- `generate_startup_event`
  | startupAlloc
  | startupTrans (buf : Nat)
  | startupQueue (t : Trans)
  | freeBuffer (t : Trans)                       -- the error exit of both
  | freeTrans (t : Trans)
  deriving DecidableEq, Repr

/-- What `spi_hd_tx_done_task` is about to do. -/
inductive TxDonePc
  | waiting                                      -- `spi_slave_hd_get_trans_res`
  | freeBuffer (t : Trans)
  | freeTrans (t : Trans)
  | give
  deriving DecidableEq, Repr

/-- The semaphore, both pools with what came back to them, the driver, the task and the invocations.
`leaked` is for the statements only. -/
structure State where
  tokens : Nat
  nextBuffer : Nat := 0
  nextTrans : Nat := 0
  freed : List Item := []
  queued : List Trans := []
  finished : List Trans := []
  txDone : TxDonePc := .waiting
  ops : List Op := []
  leaked : Holding Item := 0

namespace State

def give (size : Nat) (s : State) : State := { s with tokens := min (s.tokens + 1) size }

def free (x : Item) (s : State) : State := { s with freed := s.freed ++ [x] }

def lose (h : Holding Item) (s : State) : State := { s with leaked := s.leaked + h }

end State

/-- `esp_spi_hd_init` is done. `size` is `SPI_HD_QUEUE_SIZE`. -/
def start (size : Nat) : State := { tokens := size }

/-! ## Steps -/

/-- One step of an invocation: the invocations that it becomes. -/
def opStep (ok : Bool) (s : State) : Op → Option (State × List Op)
  | .writeTest => some (s, if ok then [.writeTake] else [])
  | .writeTake =>
    if s.tokens = 0 then none else some ({ s with tokens := s.tokens - 1 }, [.writeAlloc])
  | .writeAlloc =>
    -- the credit is not given back
    some (if ok then ({ s with nextBuffer := s.nextBuffer + 1 }, [.writeTrans s.nextBuffer])
      else (s.lose (credits 1), []))
  | .startupTake =>
    if s.tokens = 0 then none else some ({ s with tokens := s.tokens - 1 }, [.startupAlloc])
  | .startupAlloc =>
    -- `assert(buf_handle.payload)`
    if ok then some ({ s with nextBuffer := s.nextBuffer + 1 },
      [.startupTrans s.nextBuffer]) else none
  | .writeTrans buf =>
    -- the result is used unchecked
    if ok then some ({ s with nextTrans := s.nextTrans + 1 },
      [.writeQueue ⟨s.nextTrans, buf⟩]) else none
  | .startupTrans buf =>
    if ok then some ({ s with nextTrans := s.nextTrans + 1 },
      [.startupQueue ⟨s.nextTrans, buf⟩]) else none
  | .writeQueue t | .startupQueue t =>
    -- nor is it here
    some (if ok then ({ s with queued := s.queued ++ [t] }, [])
      else (s.lose (credits 1), [.freeBuffer t]))
  | .freeBuffer t => some (s.free (.buffer t.data), [.freeTrans t])
  | .freeTrans t => some (s.free (.trans t.id), [])

/-- One step of `spi_hd_tx_done_task`. -/
def txDoneStep (size : Nat) (ok : Bool) (s : State) : Option State :=
  match s.txDone with
  | .waiting =>
    if ok then
      match s.finished with
      | [] => none
      | t :: rest => some { s with finished := rest, txDone := .freeBuffer t }
    else some s
  | .freeBuffer t => some { s.free (.buffer t.data) with txDone := .freeTrans t }
  | .freeTrans t => some { s.free (.trans t.id) with txDone := .give }
  | .give => some { s.give size with txDone := .waiting }

inductive Action
  | write
  | startup
  | op (i : Nat) (ok : Bool)                     -- the `i`th invocation under way
  | txDone (ok : Bool)
  | complete                                     -- the host has fetched a buffer
  deriving DecidableEq, Repr

def step (size : Nat) (s : State) : Action → Option State
  | .write => some { s with ops := .writeTest :: s.ops }
  | .startup => some { s with ops := .startupTake :: s.ops }
  | .op i ok =>
    s.ops[i]?.bind fun op =>
      (opStep ok s op).map fun r => { r.1 with ops := r.2 ++ s.ops.eraseIdx i }
  | .txDone ok => txDoneStep size ok s
  | .complete =>
    match s.queued with
    | [] => none
    | t :: rest => some { s with queued := rest, finished := s.finished ++ [t] }

/-! ## The account -/

/-- What was taken from the pools for it. -/
def Trans.parts (t : Trans) : List Item := [.buffer t.data, .trans t.id]

/-- A transaction under way holds a credit. -/
def Trans.holding (t : Trans) : Holding Item := queue [.buffer t.data] + items [.trans t.id]

def Op.holding : Op → Holding Item
  | .writeAlloc | .startupAlloc => credits 1
  | .writeTrans buf | .startupTrans buf => queue [.buffer buf]
  | .writeQueue t | .startupQueue t => t.holding
  | .freeBuffer t => items [.buffer t.data] + items [.trans t.id]
  | .freeTrans t => items [.trans t.id]
  | _ => 0

def TxDonePc.holding : TxDonePc → Holding Item
  | .freeBuffer t => t.holding
  | .freeTrans t => credits 1 + items [.trans t.id]
  | .give => credits 1
  | .waiting => 0

/-- What is not in the hands of an invocation. -/
def State.elsewhere (s : State) : Holding Item :=
  credits s.tokens + items s.freed + total Trans.holding s.queued + total Trans.holding s.finished +
    s.txDone.holding + s.leaked

/-- Everything taken from the pools. -/
def State.taken (s : State) : Holding Item :=
  items ((List.range s.nextBuffer).map .buffer) + items ((List.range s.nextTrans).map .trans)

/-- **The account**: every credit, buffer and descriptor is in exactly one place. -/
def Account (size : Nat) (s : State) : Prop :=
  total Op.holding s.ops + s.elsewhere = credits size + s.taken

theorem account_start (size : Nat) : Account size (start size) := by
  simp [Account, start, State.elsewhere, State.taken, TxDonePc.holding]

section Elsewhere

variable (s : State)

theorem elsewhere_free (x : Item) : (s.free x).elsewhere = items [x] + s.elsewhere := by
  simp only [State.elsewhere, State.free, items_append]
  abel

theorem elsewhere_lose (h : Holding Item) : (s.lose h).elsewhere = h + s.elsewhere := by
  simp only [State.elsewhere, State.lose]
  abel

theorem elsewhere_enqueue (t : Trans) :
    { s with queued := s.queued ++ [t] }.elsewhere = t.holding + s.elsewhere := by
  simp only [State.elsewhere, total_append, total_cons, total_nil]
  abel

theorem elsewhere_buffer : { s with nextBuffer := s.nextBuffer + 1 }.elsewhere = s.elsewhere := rfl

theorem elsewhere_trans : { s with nextTrans := s.nextTrans + 1 }.elsewhere = s.elsewhere := rfl

theorem taken_buffer :
    { s with nextBuffer := s.nextBuffer + 1 }.taken = items [.buffer s.nextBuffer] + s.taken := by
  simp only [State.taken, List.range_succ, List.map_append, items_append, List.map_cons,
    List.map_nil]
  abel

theorem taken_trans :
    { s with nextTrans := s.nextTrans + 1 }.taken = items [.trans s.nextTrans] + s.taken := by
  simp only [State.taken, List.range_succ, List.map_append, items_append, List.map_cons,
    List.map_nil]
  abel

variable {s}

theorem elsewhere_take (h : s.tokens ≠ 0) :
    credits 1 + { s with tokens := s.tokens - 1 }.elsewhere = s.elsewhere := by
  simp only [State.elsewhere, credits_pred h]
  abel

end Elsewhere

/-- **One step of an invocation** keeps the account. -/
theorem opStep_balance {ok : Bool} {s s' : State} {op : Op} {qs : List Op}
    (h : opStep ok s op = some (s', qs)) :
    op.holding + (s.elsewhere + s'.taken) = total Op.holding qs + (s'.elsewhere + s.taken) := by
  cases op with
  | writeTest =>
    cases h
    split <;> simp [Op.holding]
  | writeTake | startupTake =>
    simp only [opStep] at h
    split at h
    · cases h
    · rename_i hpos
      cases h
      simp only [Op.holding, total_cons, total_nil, ← elsewhere_take hpos, State.taken]
      abel
  | writeAlloc =>
    simp only [opStep] at h
    split at h
    · cases h
      simp only [Op.holding, total_cons, total_nil, queue_singleton, taken_buffer, elsewhere_buffer]
      abel
    · cases h
      rw [elsewhere_lose]
      simp only [Op.holding, total_nil, State.taken, State.lose]
      abel
  | startupAlloc =>
    simp only [opStep] at h
    split at h
    · cases h
      simp only [Op.holding, total_cons, total_nil, queue_singleton, taken_buffer, elsewhere_buffer]
      abel
    · cases h
  | writeTrans buf | startupTrans buf =>
    simp only [opStep] at h
    split at h
    · cases h
      simp only [Op.holding, Trans.holding, total_cons, total_nil, taken_trans, elsewhere_trans]
      abel
    · cases h
  | writeQueue t | startupQueue t =>
    simp only [opStep] at h
    split at h
    · cases h
      simp only [Op.holding, total_nil, elsewhere_enqueue, State.taken]
      abel
    · cases h
      rw [elsewhere_lose]
      simp only [Op.holding, Trans.holding, total_cons, total_nil, queue_singleton,
        State.taken, State.lose]
      abel
  | freeBuffer t =>
    cases h
    rw [elsewhere_free]
    simp only [Op.holding, total_cons, total_nil, State.taken, State.free]
    abel
  | freeTrans t =>
    cases h
    rw [elsewhere_free]
    simp only [Op.holding, total_nil, State.taken, State.free]
    abel

/-- **One step of `spi_hd_tx_done_task`** moves what it has. -/
theorem txDoneStep_balance {size : Nat} {ok : Bool} {s s' : State}
    (hroom : 1 ≤ s.txDone.holding.1 → s.tokens < size) (h : txDoneStep size ok s = some s') :
    s'.elsewhere = s.elsewhere ∧ s'.taken = s.taken ∧ s'.ops = s.ops := by
  unfold txDoneStep at h
  cases htask : s.txDone with
  | waiting =>
    simp only [htask] at h
    split at h
    · split at h
      · cases h
      · rename_i t rest hfinished
        cases h
        refine ⟨?_, rfl, rfl⟩
        simp only [State.elsewhere, htask, TxDonePc.holding, hfinished, total_cons]
        abel
    · cases h
      exact ⟨rfl, rfl, rfl⟩
  | freeBuffer t =>
    simp only [htask] at h
    cases h
    refine ⟨?_, rfl, rfl⟩
    simp only [State.elsewhere, State.free, htask, TxDonePc.holding, Trans.holding, items_append,
      queue_singleton]
    abel
  | freeTrans t =>
    simp only [htask] at h
    cases h
    refine ⟨?_, rfl, rfl⟩
    simp only [State.elsewhere, State.free, htask, TxDonePc.holding, items_append]
    abel
  | give =>
    simp only [htask] at h
    cases h
    have hlt : s.tokens < size := hroom (by rw [htask]; exact Nat.le_refl 1)
    have hfull : min (s.tokens + 1) size = s.tokens + 1 := Nat.min_eq_left hlt
    refine ⟨?_, rfl, rfl⟩
    simp only [State.elsewhere, State.give, htask, TxDonePc.holding, hfull, credits_add]
    abel

/-- **Every step keeps the account**, whatever fails. -/
theorem step_account {size : Nat} {s s' : State} {a : Action} (hacc : Account size s)
    (hs : step size s a = some s') : Account size s' := by
  unfold step at hs
  cases a with
  | write | startup =>
    cases hs
    refine Eq.trans (congrArg (· + s.elsewhere) ?_) hacc
    exact zero_add _
  | op i ok =>
    obtain ⟨op, hop, hs⟩ := Option.bind_eq_some_iff.1 hs
    obtain ⟨⟨t, qs⟩, hstep, rfl⟩ := Option.map_eq_some_iff.1 hs
    have hbalance := opStep_balance hstep
    exact account_exchange hop hbalance hacc
  | txDone ok =>
    have hroom : 1 ≤ s.txDone.holding.1 → s.tokens < size := by
      intro hcredit
      have hfst := congrArg Prod.fst hacc
      simp only [State.elsewhere, State.taken, credits, items, Prod.fst_add] at hfst
      omega
    obtain ⟨helsewhere, htaken, hops⟩ := txDoneStep_balance hroom hs
    unfold Account at *
    rw [hops, helsewhere, htaken]
    exact hacc
  | complete =>
    dsimp only at hs
    split at hs
    · cases hs
    · rename_i t rest hqueued
      cases hs
      refine Eq.trans ?_ hacc
      simp only [State.elsewhere, hqueued, total_cons, total_append, total_nil]
      abel

theorem account_of_reach {size : Nat} {G : State → Action → Prop} {s : State}
    (h : Reach (step size) G (start size) s) : Account size s :=
  h.invariant (account_start size) fun hacc _ hs => step_account hacc hs

/-! ## Conservation -/

/-- No operation is mid-way. -/
def State.Quiet (s : State) : Prop := s.ops = [] ∧ s.txDone = .waiting

/-- The transactions that the driver owns. -/
def State.owned (s : State) : List Trans := s.queued ++ s.finished

/-- Everything ever taken from the pools. -/
def State.takenItems (s : State) : List Item :=
  (List.range s.nextBuffer).map .buffer ++ (List.range s.nextTrans).map .trans

/-- **Conservation**, as for SDIO. -/
structure Conserved (size : Nat) (s : State) : Prop where
  credits : s.Quiet → s.tokens + s.owned.length = size
  returned : s.Quiet → (s.freed ++ s.owned.flatMap Trans.parts).Perm s.takenItems
  once : s.freed.Nodup

theorem taken_eq (s : State) : s.taken = items s.takenItems := (items_append _ _).symm

/-- The credits and items of the transactions in a queue. -/
theorem total_holding (l : List Trans) :
    total Trans.holding l = (l.length, ((l.flatMap Trans.parts : List Item) : Multiset Item)) := by
  induction l with
  | nil => rfl
  | cons t l ih =>
    rw [total_cons, ih, List.flatMap_cons, ← Multiset.coe_add]
    refine Prod.ext ?_ rfl
    simp [Trans.holding, queue, items, Nat.add_comm]

theorem Account.quiet {size : Nat} {s : State} (hacc : Account size s) (hquiet : s.Quiet) :
    s.tokens + s.owned.length + s.leaked.1 = size ∧
      ((s.freed ++ s.owned.flatMap Trans.parts : List Item) : Multiset Item) + s.leaked.2 =
        s.takenItems := by
  obtain ⟨hops, htx⟩ := hquiet
  unfold Account at hacc
  rw [hops, total_nil, zero_add, State.elsewhere, htx, TxDonePc.holding, total_holding,
    total_holding, taken_eq] at hacc
  constructor
  · have hfst := congrArg Prod.fst hacc
    simp only [Ledger.credits, items, Prod.fst_add, Prod.fst_zero] at hfst
    rw [State.owned, List.length_append]
    omega
  · have hsnd := congrArg Prod.snd hacc
    simp only [Ledger.credits, items, Prod.snd_add, zero_add, add_zero] at hsnd
    rw [State.owned, List.flatMap_append, ← Multiset.coe_add, ← Multiset.coe_add, ← hsnd]
    abel

/-- **Nothing but a leak breaks conservation.** -/
theorem conserved_iff {size : Nat} {s : State} (h : Reach (step size) Free (start size) s)
    (hquiet : s.Quiet) :
    (s.tokens + s.owned.length = size ∧
      (s.freed ++ s.owned.flatMap Trans.parts).Perm s.takenItems) ↔
      s.leaked = 0 := by
  obtain ⟨hcredits, hitems⟩ := (account_of_reach h).quiet hquiet
  exact settled_iff hcredits hitems

/-- `esp_spi_hd_write` finds a buffer, and the driver takes what it is given. -/
def Careful (s : State) : Action → Prop
  | .op i ok =>
    match s.ops[i]? with
    | some .writeAlloc | some (.writeQueue _) | some (.startupQueue _) => ok = true
    | _ => True
  | _ => True

theorem leaked_opStep {ok : Bool} {s s' : State} {i : Nat} {op : Op} {qs : List Op}
    (hop : s.ops[i]? = some op)
    (hguard : Careful s (.op i ok)) (h : opStep ok s op = some (s', qs)) :
    s'.leaked = s.leaked := by
  simp only [Careful, hop] at hguard
  cases op with
  | writeAlloc | writeQueue t | startupQueue t =>
    subst hguard
    cases h
    rfl
  | writeTake | startupTake | startupAlloc | writeTrans buf | startupTrans buf =>
    simp only [opStep] at h
    split at h <;> cases h
    rfl
  | _ =>
    cases h
    rfl

/-- **No step that meets `Careful` loses anything.** -/
theorem leaked_step {size : Nat} {s s' : State} {a : Action} (hguard : Careful s a)
    (hs : step size s a = some s') : s'.leaked = s.leaked := by
  unfold step at hs
  cases a with
  | write | startup =>
    cases hs
    rfl
  | op i ok =>
    obtain ⟨op, hop, hs⟩ := Option.bind_eq_some_iff.1 hs
    obtain ⟨⟨t, qs⟩, hstep, rfl⟩ := Option.map_eq_some_iff.1 hs
    have hsame : t.leaked = s.leaked := leaked_opStep hop hguard hstep
    exact hsame
  | txDone ok =>
    unfold txDoneStep at hs
    dsimp only at hs
    (repeat' split at hs) <;> cases hs <;> rfl
  | complete =>
    dsimp only at hs
    split at hs
    · cases hs
    · cases hs
      rfl

theorem nodup_takenItems (s : State) : s.takenItems.Nodup := by
  refine List.nodup_append.2 ⟨?_, ?_, ?_⟩
  · exact List.nodup_range.map fun _ _ heq => Item.buffer.inj heq
  · exact List.nodup_range.map fun _ _ heq => Item.trans.inj heq
  · intro x hx y hy heq
    obtain ⟨n, -, rfl⟩ := List.mem_map.1 hx
    obtain ⟨m, -, rfl⟩ := List.mem_map.1 hy
    cases heq

/-- **Transmit credits are conserved** in a run whose steps all meet `Careful`. -/
theorem conserved_of_careful {size : Nat} {s : State}
    (h : Reach (step size) Careful (start size) s) :
    Conserved size s := by
  have hleaked : s.leaked = 0 := by
    refine h.invariant (I := fun s => s.leaked = 0) rfl fun hzero hguard hs => ?_
    rw [leaked_step hguard hs]
    exact hzero
  have hconserved := fun hquiet => (conserved_iff h.free hquiet).2 hleaked
  refine ⟨fun hquiet => (hconserved hquiet).1, fun hquiet => (hconserved hquiet).2, ?_⟩
  have hacc : Account size s := account_of_reach h
  have heq :
    items s.freed + (total Op.holding s.ops + (credits s.tokens + total Trans.holding s.queued +
      total Trans.holding s.finished + s.txDone.holding + s.leaked)) = credits size + s.taken := by
    rw [← hacc, State.elsewhere]
    abel
  refine nodup_of_items_add heq ?_
  rw [taken_eq]
  simpa [Ledger.credits, items] using nodup_takenItems s

end EspHostedOpen.SpiHdTx
