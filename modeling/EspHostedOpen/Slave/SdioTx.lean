import EspHostedOpen.Lib.Ledger
import EspHostedOpen.Lib.Transition

/-!
# The transmit side of the SDIO transport (`sdio_slave_api.c`)

`sdio_send_queue_sem` counts what the driver may still be given. Any number of invocations are under
way at a time: `sdio_write`, `generate_startup_event`, `sdio_deinit`, `sdio_init`; besides them runs
`sdio_tx_done_task`. Each call into the driver, the pool or the semaphore is a step of its own, and
a step brings along whether the call succeeds. A buffer is known by the number of its allocation.

Of IDF's driver: `sdio_slave_reset` hands everything queued over to `sdio_slave_send_get_finished`,
and `sdio_slave_deinit` drops what it still has. A run begins with the first `sdio_init` done.
-/

namespace EspHostedOpen.SdioTx

open Ledger Transition

structure Build where
  txQueueSize : Nat                              -- `SDIO_DRIVER_TX_QUEUE_SIZE`
  unloadBusWhilePs : Bool                        -- `H_PS_UNLOAD_BUS_WHILE_PS`

/-- `INTERFACE_STATE`. -/
inductive IfState
  | deinit | deactive | active
  deriving DecidableEq, Repr

/-- An invocation, by what it is about to do; `buf` is the buffer in its hands. -/
inductive Op
  | writeTest                                    -- `sdio_write`: the checks in front
  | writeAlloc
  | writeTake (buf : Nat)                        -- `xSemaphoreTake`
  | writeSend (buf : Nat)                        -- `sdio_slave_send_queue`
  | writeGive (buf : Nat)                        -- `xSemaphoreGive`
  | writeFree (buf : Nat)
  | startupAlloc                                 -- `generate_startup_event`
  | startupTake (buf : Nat)
  | startupSend (buf : Nat)
  | startupFree (buf : Nat)
  | deinitTest                                   -- `sdio_deinit`
  | deinitKill                                   -- `vTaskDelete` of `sdio_tx_done_task`
  | deinitReset                                  -- `sdio_slave_reset`
  | drain (retry : Nat)                          -- `sdio_slave_send_get_finished`
  | drainGive (buf retry : Nat)
  | drainFree (buf retry : Nat)
  | driverDeinit                                 -- `sdio_slave_deinit`
  | deinitState                                  -- `if_handle_g.state = DEINIT`
  | initTest                                     -- `sdio_init`
  | initDriver                                   -- `sdio_slave_initialize`
  | initStart                                    -- up to `sdio_slave_start`
  | initFail                                     -- `sdio_slave_deinit`
  | initState                                    -- `if_handle_g.state = ACTIVE`
  | initTask                                     -- `xTaskCreate`
  deriving DecidableEq, Repr

/-- What `sdio_tx_done_task` is about to do. -/
inductive TxDonePc
  | test                                         -- `if_handle_g.state`
  | waiting                                      -- `sdio_slave_send_get_finished`
  | give (buf : Nat)
  | free (buf : Nat)
  deriving DecidableEq, Repr

/-- The semaphore, the pool with what came back to it, the driver, the task and the invocations.
`leaked` is for the statements only: credits and buffers that nobody has any more. -/
structure State where
  tokens : Nat
  next : Nat := 0                                -- buffers taken from the pool
  freed : List Nat := []                         -- and returned to it
  up : Bool := true  -- between `sdio_slave_initialize` and `sdio_slave_deinit`
  queued : List Nat := []
  finished : List Nat := []
  ifState : IfState := .active
  txDone : Option TxDonePc := some .test
  ops : List Op := []
  leaked : Holding Nat := 0

namespace State

/-- `xSemaphoreGive`: the count stops at its maximum. -/
def give (size : Nat) (s : State) : State := { s with tokens := min (s.tokens + 1) size }

def free (buf : Nat) (s : State) : State := { s with freed := s.freed ++ [buf] }

def lose (h : Holding Nat) (s : State) : State := { s with leaked := s.leaked + h }

/-- `sdio_slave_deinit`. -/
def driverDeinit (s : State) : State :=
  { s.lose (queue s.queued + queue s.finished) with queued := [], finished := [], up := false }

end State

/-- The first `sdio_init` is done. -/
def start (build : Build) : State := { tokens := build.txQueueSize }

/-! ## What is in whose hands -/

/-- From `xSemaphoreTake` on an invocation also holds a credit, until it gives it back or passes it
on. -/
def Op.holding : Op → Holding Nat
  | .writeTake buf | .writeFree buf | .startupTake buf | .startupFree buf | .drainFree buf _ =>
    items [buf]
  | .writeSend buf | .writeGive buf | .startupSend buf | .drainGive buf _ => queue [buf]
  | _ => 0

def TxDonePc.holding : TxDonePc → Holding Nat
  | .give buf => queue [buf]
  | .free buf => items [buf]
  | _ => 0

/-- A deleted task has nothing. -/
def txHolding : Option TxDonePc → Holding Nat
  | some pc => pc.holding
  | none => 0

/-! ## Steps -/

/-- One step of an invocation: the invocations that it becomes. -/
def opStep (build : Build) (ok : Bool) (s : State) : Op → Option (State × List Op)
  | .writeTest => some (s, if ok && s.ifState = .active then [.writeAlloc] else [])
  | .writeAlloc =>
    some (if ok then ({ s with next := s.next + 1 }, [.writeTake s.next]) else (s, []))
  | .writeTake buf =>
    if ok then
      if s.tokens = 0 then none else some ({ s with tokens := s.tokens - 1 }, [.writeSend buf])
    else some (s, [.writeFree buf])
  | .writeSend buf =>
    some (if ok &&
      s.up then ({ s with queued := s.queued ++ [buf] }, []) else (s, [.writeGive buf]))
  | .writeGive buf => some (s.give build.txQueueSize, [.writeFree buf])
  | .writeFree buf => some (s.free buf, [])
  | .startupAlloc =>
    -- `assert(buf_handle.payload)`
    if ok then some ({ s with next := s.next + 1 }, [.startupTake s.next]) else none
  | .startupTake buf =>
    if s.tokens = 0 then none else some ({ s with tokens := s.tokens - 1 }, [.startupSend buf])
  | .startupSend buf =>
    -- where `sdio_write` gives the credit back, this does not
    some (if ok && s.up then ({ s with queued := s.queued ++ [buf] }, [])
      else (s.lose (credits 1), [.startupFree buf]))
  | .startupFree buf => some (s.free buf, [])
  | .deinitTest =>
    some (s, if build.unloadBusWhilePs && s.ifState ≠ .deinit then [.deinitKill] else [])
  | .deinitKill => some ({ s.lose (txHolding s.txDone) with txDone := none }, [.deinitReset])
  | .deinitReset =>
    some (if ok then { s with finished := s.finished ++ s.queued, queued := [] } else s, [.drain 3])
  | .drain 0 => some (s, [.driverDeinit])
  | .drain (retry + 1) =>
    match s.finished with
    | [] => some (s, [if ok then .drain retry else .driverDeinit])
    | buf :: rest =>
      some (if ok then ({ s with finished := rest }, [.drainGive buf retry]) else (s,
        [.driverDeinit]))
  | .drainGive buf retry => some (s.give build.txQueueSize, [.drainFree buf retry])
  | .drainFree buf retry => some (s.free buf, [.drain retry])
  | .driverDeinit => some (s.driverDeinit, [.deinitState])
  | .deinitState => some ({ s with ifState := .deinit }, [])
  | .initTest => some (s, if s.ifState = .deinit then [.initDriver] else [])
  | .initDriver => some (if ok then ({ s with up := true }, [.initStart]) else (s, []))
  | .initStart => some (s, [if ok then .initState else .initFail])
  | .initFail => some (s.driverDeinit, [])
  | .initState => some ({ s with ifState := .active }, [.initTask])
  | .initTask => some ({ s with txDone := some (s.txDone.getD .test) }, [])

/-- One step of `sdio_tx_done_task`. It waits without a limit for a finished buffer. -/
def txDoneStep (build : Build) (ok : Bool) (s : State) : TxDonePc → Option State
  | .test => some (if s.ifState = .deinit then s else { s with txDone := some .waiting })
  | .waiting =>
    if ok then
      match s.finished with
      | [] => none
      | buf :: rest => some { s with finished := rest, txDone := some (.give buf) }
    else some { s with txDone := some .test }
  | .give buf => some { s.give build.txQueueSize with txDone := some (.free buf) }
  | .free buf => some { s.free buf with txDone := some .test }

/-- The functions that are called from outside. -/
inductive Call
  | write | startup | deinit | init
  deriving DecidableEq, Repr

def Call.entry : Call → Op
  | .write => .writeTest
  | .startup => .startupAlloc
  | .deinit => .deinitTest
  | .init => .initTest

inductive Action
  | call (c : Call)
  | op (i : Nat) (ok : Bool)                     -- the `i`th invocation under way
  | txDone (ok : Bool)
  | complete                                     -- the host has fetched a buffer
  | openDataPath
  | closeDataPath
  deriving DecidableEq, Repr

def step (build : Build) (s : State) : Action → Option State
  | .call c => some { s with ops := c.entry :: s.ops }
  | .op i ok =>
    s.ops[i]?.bind fun op =>
      (opStep build ok s op).map fun r => { r.1 with ops := r.2 ++ s.ops.eraseIdx i }
  | .txDone ok => s.txDone.bind (txDoneStep build ok s)
  | .complete =>
    match s.queued with
    | [] => none
    | buf :: rest => some { s with queued := rest, finished := s.finished ++ [buf] }
  | .openDataPath => some { s with ifState := .active }
  | .closeDataPath =>
    some { s with ifState := if s.ifState = .active then .deactive else s.ifState }

/-! ## The account -/

/-- What is not in the hands of an invocation. -/
def State.elsewhere (s : State) : Holding Nat :=
  credits s.tokens + items s.freed + queue s.queued + queue s.finished +
    txHolding s.txDone + s.leaked

/-- Every buffer taken from the pool. -/
def State.taken (s : State) : Holding Nat := (0, Multiset.range s.next)

/-- **The account**: every credit and every buffer is in exactly one place. -/
def Account (build : Build) (s : State) : Prop :=
  total Op.holding s.ops + s.elsewhere = credits build.txQueueSize + s.taken

theorem account_start (build : Build) : Account build (start build) := by
  simp [Account, start, State.elsewhere, State.taken, txHolding, TxDonePc.holding]

section Elsewhere

variable (s : State) (buf : Nat)

theorem elsewhere_free : (s.free buf).elsewhere = items [buf] + s.elsewhere := by
  simp only [State.elsewhere, State.free, items_append]
  abel

theorem elsewhere_lose (h : Holding Nat) : (s.lose h).elsewhere = h + s.elsewhere := by
  simp only [State.elsewhere, State.lose]
  abel

theorem elsewhere_enqueue :
    { s with queued := s.queued ++ [buf] }.elsewhere = queue [buf] + s.elsewhere := by
  simp only [State.elsewhere, queue_append]
  abel

theorem elsewhere_reset :
    { s with finished := s.finished ++ s.queued, queued := [] }.elsewhere = s.elsewhere := by
  simp only [State.elsewhere, queue_append, queue_nil]
  abel

theorem elsewhere_kill :
    { s.lose (txHolding s.txDone) with txDone := none }.elsewhere = s.elsewhere := by
  simp only [State.elsewhere, State.lose, txHolding]
  abel

theorem elsewhere_driverDeinit : s.driverDeinit.elsewhere = s.elsewhere := by
  simp only [State.elsewhere, State.driverDeinit, State.lose, queue_nil]
  abel

variable {s buf}

theorem elsewhere_give {size : Nat} (h : s.tokens < size) :
    (s.give size).elsewhere = credits 1 + s.elsewhere := by
  have hroom : min (s.tokens + 1) size = s.tokens + 1 := Nat.min_eq_left h
  simp only [State.elsewhere, State.give, hroom, credits_add]
  abel

theorem elsewhere_take (h : s.tokens ≠ 0) :
    credits 1 + { s with tokens := s.tokens - 1 }.elsewhere = s.elsewhere := by
  simp only [State.elsewhere, credits_pred h]
  abel

theorem elsewhere_pop {rest : List Nat} (h : s.finished = buf :: rest) :
    queue [buf] + { s with finished := rest }.elsewhere = s.elsewhere := by
  simp only [State.elsewhere, h, queue_cons buf rest]
  abel

theorem elsewhere_alloc : { s with next := s.next + 1 }.elsewhere = s.elsewhere := rfl

theorem taken_succ : { s with next := s.next + 1 }.taken = items [s.next] + s.taken := by
  simp only [State.taken, Multiset.range_succ, items, Prod.mk_add_mk, Nat.zero_add]
  rfl

end Elsewhere

/-- Who holds a credit finds room when giving it back. -/
theorem Account.room {build : Build} {s : State} {h : Holding Nat} (hacc : Account build s)
    (hcredit : 1 ≤ h.1)
    (hpart : ∃ h', total Op.holding s.ops + s.elsewhere = h + h' + credits s.tokens) :
    s.tokens < build.txQueueSize := by
  obtain ⟨h', heq⟩ := hpart
  have hfst := congrArg Prod.fst (heq.symm.trans hacc)
  simp only [Prod.fst_add, credits, State.taken] at hfst
  omega

/-! ### Invocations -/

/-- **One step of an invocation** keeps the account. -/
theorem opStep_balance {build : Build} {ok : Bool} {s s' : State} {op : Op} {qs : List Op}
    (hroom : 1 ≤ op.holding.1 → s.tokens < build.txQueueSize)
    (h : opStep build ok s op = some (s', qs)) :
    op.holding + (s.elsewhere + s'.taken) = total Op.holding qs + (s'.elsewhere + s.taken) := by
  have hcall : ∀ {op : Op}, op.holding = 0 →
      0 + (s.elsewhere + s.taken) = total Op.holding [op] + (s.elsewhere + s.taken) := by
    intro op hop
    rw [total_cons, total_nil, hop, add_zero]
  cases op with
  | writeTest | deinitTest | initTest =>
    cases h
    split
    · exact hcall rfl
    · rfl
  | initStart =>
    cases h
    split <;> exact hcall rfl
  | initDriver =>
    simp only [opStep] at h
    split at h
    · cases h
      exact hcall rfl
    · cases h
      rfl
  | writeAlloc =>
    simp only [opStep] at h
    split at h
    · cases h
      simp only [Op.holding, total_cons, total_nil, taken_succ, elsewhere_alloc]
      abel
    · cases h
      rfl
  | startupAlloc =>
    simp only [opStep] at h
    split at h
    · cases h
      simp only [Op.holding, total_cons, total_nil, taken_succ, elsewhere_alloc]
      abel
    · cases h
  | writeTake buf =>
    simp only [opStep] at h
    split at h
    · split at h
      · cases h
      · rename_i hpos
        cases h
        simp only [Op.holding, total_cons, total_nil, ← elsewhere_take hpos, queue_singleton,
          State.taken]
        abel
    · cases h
      simp [Op.holding]
  | startupTake buf =>
    simp only [opStep] at h
    split at h
    · cases h
    · rename_i hpos
      cases h
      simp only [Op.holding, total_cons, total_nil, ← elsewhere_take hpos, queue_singleton,
        State.taken]
      abel
  | writeSend buf =>
    simp only [opStep] at h
    split at h
    · cases h
      simp only [Op.holding, total_nil, elsewhere_enqueue, State.taken]
      abel
    · cases h
      simp [Op.holding]
  | startupSend buf =>
    simp only [opStep] at h
    split at h
    · cases h
      simp only [Op.holding, total_nil, elsewhere_enqueue, State.taken]
      abel
    · cases h
      rw [elsewhere_lose]
      simp only [Op.holding, total_cons, total_nil, queue_singleton, State.taken, State.lose]
      abel
  | writeGive buf | drainGive buf retry =>
    cases h
    have hlt := hroom (Nat.le_refl 1)
    rw [elsewhere_give hlt]
    simp only [Op.holding, total_cons, total_nil, queue_singleton, State.taken, State.give]
    abel
  | writeFree buf | startupFree buf =>
    cases h
    rw [elsewhere_free]
    simp only [Op.holding, total_nil, State.taken, State.free]
    abel
  | drainFree buf retry =>
    cases h
    rw [elsewhere_free]
    simp only [Op.holding, total_cons, total_nil, State.taken, State.free]
    abel
  | deinitKill =>
    cases h
    rw [elsewhere_kill]
    exact hcall rfl
  | deinitReset =>
    simp only [opStep] at h
    split at h
    · cases h
      rw [elsewhere_reset]
      exact hcall rfl
    · cases h
      exact hcall rfl
  | drain retry =>
    cases retry with
    | zero =>
      cases h
      exact hcall rfl
    | succ retry =>
      simp only [opStep] at h
      split at h
      · cases h
        split <;> exact hcall rfl
      · rename_i buf rest hfinished
        split at h
        · cases h
          simp only [Op.holding, total_cons, total_nil, ← elsewhere_pop hfinished, State.taken]
          abel
        · cases h
          exact hcall rfl
  | driverDeinit | initFail =>
    cases h
    rw [elsewhere_driverDeinit]
    rfl
  | deinitState | initState =>
    cases h
    rfl
  | initTask =>
    cases h
    have hsame : txHolding (some (s.txDone.getD .test)) = txHolding s.txDone := by
      cases s.txDone <;> rfl
    simp only [Op.holding, total_nil, State.elsewhere, State.taken, hsame]

/-! ### The other steps -/

/-- **One step of `sdio_tx_done_task`** moves what it has. -/
theorem txDoneStep_balance {build : Build} {ok : Bool} {s s' : State} {pc : TxDonePc}
    (htask : s.txDone = some pc) (hroom : 1 ≤ pc.holding.1 → s.tokens < build.txQueueSize)
    (h : txDoneStep build ok s pc = some s') : s'.elsewhere = s.elsewhere ∧ s'.next = s.next ∧
      s'.ops = s.ops := by
  cases pc with
  | test =>
    cases h
    split
    · exact ⟨rfl, rfl, rfl⟩
    · refine ⟨?_, rfl, rfl⟩
      simp only [State.elsewhere, htask, txHolding, TxDonePc.holding]
  | waiting =>
    simp only [txDoneStep] at h
    split at h
    · split at h
      · cases h
      · rename_i buf rest hfinished
        cases h
        refine ⟨?_, rfl, rfl⟩
        simp only [State.elsewhere, htask, txHolding, TxDonePc.holding, hfinished,
          queue_cons buf rest]
        abel
    · cases h
      refine ⟨?_, rfl, rfl⟩
      simp only [State.elsewhere, htask, txHolding, TxDonePc.holding]
  | give buf =>
    cases h
    have hfull : min (s.tokens + 1) build.txQueueSize = s.tokens + 1 :=
      Nat.min_eq_left (hroom (Nat.le_refl 1))
    refine ⟨?_, rfl, rfl⟩
    simp only [State.elsewhere, State.give, htask, txHolding, TxDonePc.holding, hfull, credits_add,
      queue_singleton]
    abel
  | free buf =>
    cases h
    refine ⟨?_, rfl, rfl⟩
    simp only [State.elsewhere, State.free, htask, txHolding, TxDonePc.holding, items_append]
    abel

theorem Call.entry_holding (c : Call) : c.entry.holding = 0 := by
  cases c <;> rfl

/-- **Every step keeps the account**, whatever fails. -/
theorem step_account {build : Build} {s s' : State} {a : Action} (hacc : Account build s)
    (hs : step build s a = some s') : Account build s' := by
  unfold step at hs
  cases a with
  | call c =>
    cases hs
    unfold Account at *
    rw [total_cons, c.entry_holding, zero_add]
    exact hacc
  | op i ok =>
    obtain ⟨op, hop, hs⟩ := Option.bind_eq_some_iff.1 hs
    obtain ⟨⟨t, qs⟩, hstep, rfl⟩ := Option.map_eq_some_iff.1 hs
    have hroom : 1 ≤ op.holding.1 → s.tokens < build.txQueueSize := by
      intro hcredit
      refine hacc.room hcredit
        ⟨total Op.holding (s.ops.eraseIdx i) + (items s.freed + queue s.queued +
        queue s.finished + txHolding s.txDone + s.leaked), ?_⟩
      rw [total_split hop, State.elsewhere]
      abel
    have hbalance := opStep_balance hroom hstep
    exact account_exchange hop hbalance hacc
  | txDone ok =>
    obtain ⟨pc, hpc, hs⟩ := Option.bind_eq_some_iff.1 hs
    have hroom : 1 ≤ pc.holding.1 → s.tokens < build.txQueueSize := by
      intro hcredit
      refine hacc.room hcredit ⟨total Op.holding s.ops + (items s.freed + queue s.queued +
        queue s.finished + s.leaked), ?_⟩
      rw [State.elsewhere, hpc, txHolding]
      abel
    obtain ⟨helsewhere, hnext, hops⟩ := txDoneStep_balance hpc hroom hs
    unfold Account State.taken at *
    rw [hops, helsewhere, hnext]
    exact hacc
  | complete =>
    dsimp only at hs
    split at hs
    · cases hs
    · rename_i buf rest hqueued
      cases hs
      refine Eq.trans ?_ hacc
      simp only [State.elsewhere, hqueued, queue_cons buf rest, queue_append]
      abel
  | openDataPath =>
    cases hs
    exact hacc
  | closeDataPath =>
    cases hs
    exact hacc

theorem account_of_reach {build : Build} {G : State → Action → Prop} {s : State}
    (h : Reach (step build) G (start build) s) : Account build s :=
  h.invariant (account_start build) fun hacc _ hs => step_account hacc hs

/-! ## Conservation -/

/-- `sdio_tx_done_task` has a buffer in its hands. -/
def TxDonePc.busy : TxDonePc → Bool
  | .give _ | .free _ => true
  | _ => false

/-- No operation is mid-way. -/
def State.Quiet (s : State) : Prop := s.ops = [] ∧ s.txDone.any TxDonePc.busy = false

/-- The buffers that the driver owns. -/
def State.owned (s : State) : List Nat := s.queued ++ s.finished

/-- **Conservation**: with no operation mid-way the credits are those left and those of the driver's
buffers, and a buffer is either the driver's or back in the pool; and none is ever returned
twice. -/
structure Conserved (build : Build) (s : State) : Prop where
  credits : s.Quiet → s.tokens + s.owned.length = build.txQueueSize
  returned : s.Quiet → (s.freed ++ s.owned).Perm (List.range s.next)
  once : s.freed.Nodup

theorem txHolding_idle {o : Option TxDonePc} (h : o.any TxDonePc.busy = false) :
    txHolding o = 0 := by
  cases o with
  | none => rfl
  | some pc =>
    cases pc with
    | test | waiting => rfl
    | give buf | free buf => cases h

/-- The account of a quiet state. -/
theorem Account.quiet {build : Build} {s : State} (hacc : Account build s) (hquiet : s.Quiet) :
    s.tokens + s.owned.length + s.leaked.1 = build.txQueueSize ∧
      ((s.freed ++ s.owned : List Nat) : Multiset Nat) + s.leaked.2 = Multiset.range s.next := by
  obtain ⟨hops, htx⟩ := hquiet
  unfold Account at hacc
  rw [hops, total_nil, zero_add, State.elsewhere, txHolding_idle htx] at hacc
  constructor
  · have hfst := congrArg Prod.fst hacc
    simp only [credits, items, queue, State.taken, Prod.fst_add, Prod.fst_zero] at hfst
    rw [State.owned, List.length_append]
    omega
  · have hsnd := congrArg Prod.snd hacc
    simp only [credits, items, queue, State.taken, Prod.snd_add, zero_add, add_zero] at hsnd
    rw [State.owned, ← Multiset.coe_add, ← Multiset.coe_add, ← hsnd]
    abel

/-- **Nothing but a leak breaks conservation**: in a quiet state of any run, it holds exactly when
nothing has been lost. -/
theorem conserved_iff {build : Build} {s : State} (h : Reach (step build) Free (start build) s)
    (hquiet : s.Quiet) :
    (s.tokens + s.owned.length = build.txQueueSize ∧ (s.freed ++ s.owned).Perm
    (List.range s.next)) ↔
      s.leaked = 0 := by
  obtain ⟨hcredits, hbuffers⟩ := (account_of_reach h).quiet hquiet
  exact settled_iff hcredits hbuffers

/-- A start-up event finds the driver ready to take it, `sdio_tx_done_task` is deleted with nothing
in its hands, and `sdio_slave_deinit` has no buffer left to drop. -/
def Careful (s : State) : Action → Prop
  | .op i ok =>
    match s.ops[i]? with
    | some (.startupSend _) => ok = true ∧ s.up = true
    | some .deinitKill => s.txDone.any TxDonePc.busy = false
    | some .driverDeinit | some .initFail => s.owned = []
    | _ => True
  | _ => True

theorem leaked_opStep {build : Build} {ok : Bool} {s s' : State} {i : Nat} {op : Op} {qs : List Op}
    (hop : s.ops[i]? = some op) (hguard : Careful s (.op i ok))
    (h : opStep build ok s op = some (s', qs)) : s'.leaked = s.leaked := by
  simp only [Careful, hop] at hguard
  cases op with
  | startupSend buf =>
    obtain ⟨rfl, hup⟩ := hguard
    simp only [opStep, hup] at h
    cases h
    rfl
  | deinitKill =>
    cases h
    simp only [State.lose, txHolding_idle hguard, add_zero]
  | driverDeinit | initFail =>
    cases h
    obtain ⟨hqueued, hfinished⟩ := List.append_eq_nil_iff.1 hguard
    simp [State.driverDeinit, State.lose, hqueued, hfinished]
  | writeTake buf | startupTake buf =>
    simp only [opStep] at h
    (repeat' split at h) <;> cases h <;> rfl
  | startupAlloc | writeAlloc | writeSend buf | deinitReset | initDriver =>
    simp only [opStep] at h
    split at h <;> cases h
    all_goals rfl
  | drain retry =>
    cases retry with
    | zero =>
      cases h
      rfl
    | succ retry =>
      simp only [opStep] at h
      (repeat' split at h) <;> cases h <;> rfl
  | _ =>
    cases h
    rfl

theorem leaked_txDoneStep {build : Build} {ok : Bool} {s s' : State} {pc : TxDonePc}
    (h : txDoneStep build ok s pc = some s') : s'.leaked = s.leaked := by
  cases pc with
  | test =>
    cases h
    split <;> rfl
  | waiting =>
    simp only [txDoneStep] at h
    (repeat' split at h) <;> cases h <;> rfl
  | give buf | free buf =>
    cases h
    rfl

/-- **No step that meets `Careful` loses anything.** -/
theorem leaked_step {build : Build} {s s' : State} {a : Action} (hguard : Careful s a)
    (hs : step build s a = some s') : s'.leaked = s.leaked := by
  unfold step at hs
  cases a with
  | op i ok =>
    obtain ⟨op, hop, hs⟩ := Option.bind_eq_some_iff.1 hs
    obtain ⟨⟨t, qs⟩, hstep, rfl⟩ := Option.map_eq_some_iff.1 hs
    have hsame : t.leaked = s.leaked := leaked_opStep hop hguard hstep
    exact hsame
  | txDone ok =>
    obtain ⟨pc, -, hs⟩ := Option.bind_eq_some_iff.1 hs
    exact leaked_txDoneStep hs
  | complete =>
    dsimp only at hs
    split at hs
    · cases hs
    · cases hs
      rfl
  | _ =>
    cases hs
    rfl

/-- **Transmit credits are conserved** in a run whose steps all meet `Careful`. -/
theorem conserved_of_careful {build : Build} {s : State}
    (h : Reach (step build) Careful (start build) s) :
    Conserved build s := by
  have hleaked : s.leaked = 0 := by
    refine h.invariant (I := fun s => s.leaked = 0) rfl fun hzero hguard hs => ?_
    rw [leaked_step hguard hs]
    exact hzero
  have hconserved := fun hquiet => (conserved_iff h.free hquiet).2 hleaked
  refine ⟨fun hquiet => (hconserved hquiet).1, fun hquiet => (hconserved hquiet).2, ?_⟩
  have hacc : Account build s := account_of_reach h
  have heq : items s.freed + (total Op.holding s.ops + (credits s.tokens + queue s.queued +
      queue s.finished + txHolding s.txDone + s.leaked)) = credits build.txQueueSize + s.taken := by
    rw [← hacc, State.elsewhere]
    abel
  refine nodup_of_items_add heq ?_
  simpa [credits, State.taken] using Multiset.nodup_range s.next

end EspHostedOpen.SdioTx
