import EspHostedOpen.Lib.Transition
import Mathlib.Logic.Function.Basic

/-!
# The RPC core of the host (`rpc_core.c`)

A request gets an uid and goes to the transmit thread. For a synchronous one the caller waits on a
semaphore in `sync_rsp_table` and takes its answer from `rpc_rx_q`; for an asynchronous one the
transmit thread starts a timer and enters the request in `async_rsp_table`, and the receive thread
or the timer calls its callback.

There is no lock. The callers, the two threads and the task of the timers each stand somewhere in
their code, and whatever one of them does to what they share is a step of its own: an access to
`uid`, to a member of an entry, to a request, a queue, a semaphore or a timer, and each turn of a
loop over a table. Any number of callers may be in the core at once.

Requests are numbered in the order in which they come to `rpc_send_req`; a semaphore, a timer and a
callback go by the request that they belong to.
-/

namespace EspHostedOpen.RpcCore

open Transition

abbrev ReqId := Nat

def rpcRxQueueSize : Nat := 3
def rpcTxQueueSize : Nat := 5

/-- `MAX_SYNC_RPC_TRANSACTIONS` and `MAX_ASYNC_RPC_TRANSACTIONS`. -/
structure Config where
  sync : Nat
  async : Nat

/-- `exp_resp_msg_id`: from `RPC_ID__Req_Base` to `RPC_ID__Resp_Base`. -/
def expRespMsgId (msgId : UInt32) : UInt32 := msgId - 256 + 512

/-- It is less than `RPC_ID__Resp_Max`, as an `int`. -/
def inRange (msgId : UInt32) : Bool := decide ((expRespMsgId msgId).toInt32 < 653)

/-- From `RPC_ID__Resp_Base` to `RPC_ID__Resp_Max`. -/
def respInRange (msgId : UInt32) : Bool := decide (512 ≤ msgId) && decide (msgId < 653)

/-- What the caller has put into a request. -/
structure Req where
  msgId : UInt32
  cb : Bool                                      -- `rpc_rsp_cb` is set
  deriving DecidableEq, Repr

/-- `resp_event_status`: what the slave has answered, or what went wrong. -/
inductive Status
  | slave (content : List UInt8)
  | compose                                      -- as `compose_rpc_req` has set it
  | protobufEncode
  | memoryFailure
  | notSet
  | setAsyncCb
  | transportSend
  | requestTimeout
  deriving DecidableEq, Repr

/-- As a value; it is freed by the caller that takes it, or by the callback. -/
structure Resp where
  msgId : UInt32
  uid : UInt32
  status : Status
  deriving DecidableEq, Repr

/-- `sync_rsp_t`. -/
structure SyncRsp where
  uid : UInt32 := 0
  sem : Option ReqId := none
  deriving DecidableEq, Repr

/-- `async_rsp_t`. -/
structure AsyncRsp where
  uid : UInt32 := 0
  cb : Option ReqId := none
  timerHdl : Option ReqId := none
  appReq : Option ReqId := none
  deriving DecidableEq, Repr

inductive Sem
  | unmade
  | made (posted : Bool)
  | destroyed
  deriving DecidableEq, Repr

inductive Timer
  | unmade
  | running
  | expired
  | deleted
  deriving DecidableEq, Repr

/-! ## Where the parties stand -/

/-- In `rpc_send_req`, with `set_sync_resp_sem`. -/
inductive SendPc (c : Config)
  | load (again : Bool)                          -- about to read `uid`, to add one
  | store (again : Bool) (uid : UInt32)          -- about to write it back
  | test                                         -- about to look whether it has rolled over
  | read                                         -- about to read it for the request
  | create                                       -- about to make the semaphore
  | search (i : Nat)                             -- about to look at an entry
  | enter (i : Fin c.sync)                       -- about to write its `uid`
  | entered (i : Fin c.sync)                     -- about to write its `sem`
  | queue
  | fail
  deriving DecidableEq

/-- In `wait_for_sync_response`; `ok` says whether the semaphore has been taken. -/
inductive WaitPc (c : Config)
  | find (i : Nat)                               -- about to look at an entry
  | get (i : Fin c.sync)                         -- about to read its `sem`
  | wait (i : Fin c.sync) (sem : ReqId)
  | destroy (i : Fin c.sync) (ok : Bool)
  | clear (i : Fin c.sync) (ok : Bool)           -- about to clear its `uid`
  | cleared (i : Fin c.sync) (ok : Bool)         -- about to clear its `sem`
  deriving DecidableEq

/-- The caller of a request. -/
inductive Caller (c : Config)
  | idle
  | sending (pc : SendPc c)
  | waiting (pc : WaitPc c)
  | take                                         -- about to take the response
  | free (answer : Option Resp)                  -- about to free the request
  | returned (answer : Option Resp)
  deriving DecidableEq

/-- On the way of a response to a caller: `post_sync_resp_sem`, and what stands around it. -/
inductive PostPc (c : Config)
  | put (resp : Resp)                            -- about to queue it
  | avail (resp : Resp) (i : Nat)                -- in `is_sync_resp_sem_available`
  | post (resp : Resp) (i : Nat)                 -- in the loop of `post_sync_resp_sem`
  | sem (i : Fin c.sync)                         -- about to read the semaphore of the entry
  | give (id : ReqId)                            -- about to post it
  deriving DecidableEq

/-- The member of an entry that `set_async_resp_callback` is about to write. -/
inductive Field
  | uid
  | cb
  | timerHdl
  | appReq
  deriving DecidableEq

/-- In `process_rpc_tx_msg`, with a request. -/
inductive TxPc (c : Config)
  | idle
  | got (id : ReqId)
  | start (id : ReqId)                           -- about to start its timer
  | map (id : ReqId)                             -- enters `set_async_resp_callback`
  | search (id : ReqId) (i : Nat)
  | enter (id : ReqId) (i : Fin c.async) (f : Field)
  | send (id : ReqId)                            -- about to pack and to send it
  | sent (id : ReqId)
  | fail (id : ReqId) (status : Status)
  | post (id : ReqId) (pc : PostPc c)
  | hook (id : ReqId)                            -- about to free the application's buffer
  | check (id : ReqId) (i : Nat)                 -- about to look whether the entry is this one's
  | release (id : ReqId)                         -- about to free it
  deriving DecidableEq

/-- In `clear_async_resp_callback`. -/
inductive ClearPc
  | test                                         -- about to test `uid`
  | timer                                        -- about to test `timer_hdl`
  | stop
  | unset                                        -- about to clear `timer_hdl`
  | req                                          -- about to test `app_req`
  | free
  | drop                                         -- about to clear `app_req`
  | uid                                          -- about to clear `uid`
  | cb                                           -- about to clear `cb`
  deriving DecidableEq

/-- In `process_rpc_rx_msg`, for a response. -/
inductive RxPc (c : Config)
  | idle
  | avail (resp : Resp) (i : Nat)                -- in `is_async_resp_callback_available`
  | find (resp : Resp) (i : Nat)                 -- in the loop of `call_async_resp_callback`
  | call (resp : Resp) (i : Fin c.async)
  | clear (i : Fin c.async) (pc : ClearPc)
  | post (pc : PostPc c)
  deriving DecidableEq

/-- In `rpc_async_timeout_handler`. -/
inductive TimerPc (c : Config)
  | idle
  | expired (id : ReqId)                         -- about to read the request
  | find (id : ReqId) (uid : UInt32) (resp : Resp) (i : Nat)
  | clear (id : ReqId) (resp : Resp) (i : Fin c.async) (pc : ClearPc)
  | call (id : ReqId) (resp : Resp)
  deriving DecidableEq

/-! ## State -/

/-- Both tables, both queues, the requests that have been made with their uids, and where everybody
stands; `log` is what the callbacks have been called with. A use of freed memory, a call of a null
pointer and a failed assertion is a `fault`. -/
structure State (c : Config) where
  uid : UInt32 := 0
  sync : Fin c.sync → SyncRsp := fun _ => {}
  async : Fin c.async → AsyncRsp := fun _ => {}
  txQ : List ReqId := []
  rxQ : List Resp := []
  reqs : List Req := []
  uids : ReqId → UInt32 := fun _ => 0            -- `app_req->uid`
  freed : ReqId → Bool := fun _ => false
  sems : ReqId → Sem := fun _ => .unmade
  timers : ReqId → Timer := fun _ => .unmade
  callers : ReqId → Caller c := fun _ => .idle
  tx : TxPc c := .idle
  rx : RxPc c := .idle
  timer : TimerPc c := .idle
  log : List (ReqId × Resp) := []
  fault : Bool := false

variable {c : Config}

namespace State

/-- A request, while it is allocated. -/
def req (s : State c) (id : ReqId) : Option Req := if s.freed id then none else s.reqs[id]?

def broken (s : State c) : State c := { s with fault := true }

/-- What is done with a request. -/
def withReq (s : State c) (id : ReqId) (f : Req → State c) : State c :=
  match s.req id with
  | none => s.broken
  | some r => f r

def free (s : State c) (id : ReqId) : State c :=
  s.withReq id fun _ => { s with freed := Function.update s.freed id true }

def setCaller (s : State c) (id : ReqId) (pc : Caller c) : State c :=
  { s with callers := Function.update s.callers id pc }

def setSync (s : State c) (i : Fin c.sync) (e : SyncRsp) : State c :=
  { s with sync := Function.update s.sync i e }

def setAsync (s : State c) (i : Fin c.async) (e : AsyncRsp) : State c :=
  { s with async := Function.update s.async i e }

def setSem (s : State c) (id : ReqId) (sem : Sem) : State c :=
  { s with sems := Function.update s.sems id sem }

def setTimer (s : State c) (id : ReqId) (timer : Timer) : State c :=
  { s with timers := Function.update s.timers id timer }

def setTx (s : State c) (pc : TxPc c) : State c := { s with tx := pc }

def setRx (s : State c) (pc : RxPc c) : State c := { s with rx := pc }

def setTask (s : State c) (pc : TimerPc c) : State c := { s with timer := pc }

/-- A callback is called. -/
def call (s : State c) (id : ReqId) (resp : Resp) : State c :=
  { s with log := s.log ++ [(id, resp)] }

/-- `_h_post_semaphore`. -/
def give (s : State c) (id : ReqId) : State c :=
  match s.sems id with
  | .made _ => s.setSem id (.made true)
  | _ => s.broken

/-- `_h_destroy_semaphore`. -/
def destroy (s : State c) (id : ReqId) : State c :=
  match s.sems id with
  | .made _ => s.setSem id .destroyed
  | _ => s.broken

/-- `_h_timer_stop`: the timer is deleted. -/
def stop (s : State c) (id : ReqId) : State c :=
  match s.timers id with
  | .running => s.setTimer id .deleted
  | .expired => s.setTimer id .deleted
  | _ => s.broken

theorem callers_setCaller {s : State c} {id : ReqId} {pc : Caller c} :
    (s.setCaller id pc).callers id = pc :=
  Function.update_self _ _ _

theorem callers_setCaller_of_ne {s : State c} {id k : ReqId} {pc : Caller c} (h : k ≠ id) :
    (s.setCaller id pc).callers k = s.callers k :=
  Function.update_of_ne h _ _

theorem callers_setCaller_cases (s : State c) (id : ReqId) (pc : Caller c) (k : ReqId) :
    k = id ∧ (s.setCaller id pc).callers k = pc ∨
      k ≠ id ∧ (s.setCaller id pc).callers k = s.callers k := by
  by_cases hk : k = id
  · subst hk
    exact .inl ⟨rfl, callers_setCaller⟩
  · exact .inr ⟨hk, callers_setCaller_of_ne hk⟩

end State

/-! ## Loops over a table -/

/-- A turn of a loop that looks for an entry. -/
inductive Turn (n : Nat)
  | found (i : Fin n)
  | next
  | over

def turn {n : Nat} (p : Fin n → Bool) (i : Nat) : Turn n :=
  if h : i < n then if p ⟨i, h⟩ then .found ⟨i, h⟩ else .next
  else .over

/-! ## Callers -/

/-- What may go one way or the other in a step of a caller. -/
structure CallerEnv where
  sem : Bool                                     -- there is memory for the semaphore
  timeout : Bool                                 -- the wait is over
  deriving DecidableEq, Repr

/-- The next step of `rpc_send_req`. -/
def rpcSendReq (env : CallerEnv) (id : ReqId) (s : State c) : SendPc c → Option (State c)
  | .load again => some (s.setCaller id (.sending (.store again (s.uid + 1))))
  | .store again uid =>
    some ({ s with uid := uid }.setCaller id (.sending (if again then .read else .test)))
  | .test => some (s.setCaller id (.sending (if s.uid = 0 then .load true else .read)))
  | .read =>
    some (s.withReq id fun r =>
      { s with uids := Function.update s.uids id s.uid }.setCaller id
        (.sending (if r.cb then .queue else .create)))
  | .create =>
    some (s.withReq id fun r =>
      if inRange r.msgId then
        (s.setSem id (if env.sem then .made false else .unmade)).setCaller id
          (.sending (.search 0))
      else s.setCaller id (.sending .fail))
  | .search i =>
    some (s.setCaller id (.sending (match turn (fun i => (s.sync i).uid = 0) i with
      | .found i => .enter i
      | .next => .search (i + 1)
      | .over => .fail)))
  | .enter i =>
    some (s.withReq id fun _ =>
      (s.setSync i { s.sync i with uid := s.uids id }).setCaller id (.sending (.entered i)))
  | .entered i =>
    some (s.withReq id fun _ =>
      (s.setSync i { s.sync i with sem := if s.sems id = .unmade then none else some id }).setCaller
        id (.sending .queue))
  | .queue =>
    if s.txQ.length < rpcTxQueueSize then
      some (s.withReq id fun r =>
        { s with txQ := s.txQ ++ [id] }.setCaller id
          (if r.cb then .returned none else .waiting (.find 0)))
    else none
  | .fail =>
    some (((if s.sems id = .unmade then s else s.destroy id).free id).setCaller id (.returned none))

/-- The next step of `wait_for_sync_response`. -/
def waitForSyncResponse (env : CallerEnv) (id : ReqId) (s : State c) : WaitPc c → Option (State c)
  | .find i =>
    some (s.withReq id fun _ =>
      match turn (fun i => (s.sync i).uid = s.uids id) i with
      | .found i => s.setCaller id (.waiting (.get i))
      | .next => s.setCaller id (.waiting (.find (i + 1)))
      | .over => s.setCaller id (.free none))
  | .get i =>
    some (s.setCaller id (.waiting (match (s.sync i).sem with
      | none => .destroy i false
      | some sem => .wait i sem)))
  | .wait i sem =>
    match s.sems sem with
    | .made true =>
      some ((s.setSem sem (.made false)).setCaller id (.waiting (.destroy i true)))
    | .made false =>
      if env.timeout then some (s.setCaller id (.waiting (.destroy i false))) else none
    | _ => some s.broken
  | .destroy i ok =>
    some (match (s.sync i).sem with
      | none => s.broken
      | some sem => (s.destroy sem).setCaller id (.waiting (.clear i ok)))
  | .clear i ok =>
    some ((s.setSync i { s.sync i with uid := 0 }).setCaller id (.waiting (.cleared i ok)))
  | .cleared i ok =>
    some ((s.setSync i { s.sync i with sem := none }).setCaller id
      (if ok then .take else .free none))

/-- The next step of a caller: in `rpc_send_req`, and for a synchronous request in
`rpc_wait_and_parse_sync_resp`. -/
def callerStep (env : CallerEnv) (id : ReqId) (s : State c) : Option (State c) :=
  match s.callers id with
  | .idle => none
  | .sending pc => rpcSendReq env id s pc
  | .waiting pc => waitForSyncResponse env id s pc
  | .take =>
    match s.rxQ with
    | [] => none
    | resp :: rest => some ({ s with rxQ := rest }.setCaller id (.free (some resp)))
  | .free answer => some ((s.free id).setCaller id (.returned answer))
  | .returned _ => none

/-! ## A response on its way -/

/-- The next step with a response that goes to a caller, and where it leads; `none` for the latter
where it is done with. -/
def postSyncResp (s : State c) : PostPc c → Option (State c × Option (PostPc c))
  | .put resp =>
    if s.rxQ.length < rpcRxQueueSize then
      some ({ s with rxQ := s.rxQ ++ [resp] }, some (.avail resp 0))
    else none
  | .avail resp i =>
    some (s, match turn (fun i => (s.sync i).uid = resp.uid) i with
      | .found _ => if respInRange resp.msgId then some (.post resp 0) else none
      | .next => some (.avail resp (i + 1))
      | .over => none)
  | .post resp i =>
    some (s, match turn (fun i => (s.sync i).uid = resp.uid) i with
      | .found i => some (.sem i)
      | .next => some (.post resp (i + 1))
      | .over => none)
  | .sem i => some (s, (s.sync i).sem.map .give)
  | .give id => some (s.give id, none)

/-! ## The transmit thread -/

structure TxEnv where
  compose : Bool                                 -- `compose_rpc_req`
  size : Bool                                    -- the packed size is not 0
  calloc : Bool                                  -- for the packed request
  timer : Bool                                   -- `_h_timer_start`
  send : Bool                                    -- `transport_pserial_send`
  resp : Bool                                    -- there is memory for a failure response
  deriving DecidableEq, Repr

/-- The next member that `set_async_resp_callback` writes. -/
def Field.next : Field → Option Field
  | .uid => some .cb
  | .cb => some .timerHdl
  | .timerHdl => some .appReq
  | .appReq => none

/-- It writes one. -/
def Field.write (f : Field) (uid : UInt32) (id : ReqId) (e : AsyncRsp) : AsyncRsp :=
  match f with
  | .uid => { e with uid := uid }
  | .cb => { e with cb := some id }
  | .timerHdl => { e with timerHdl := some id }
  | .appReq => { e with appReq := some id }

/-- The next step of `process_rpc_tx_msg`, from the queue on. -/
def processRpcTxMsg (env : TxEnv) (s : State c) : Option (State c) :=
  match s.tx with
  | .idle =>
    match s.txQ with
    | [] => none
    | id :: rest => some ({ s with txQ := rest }.setTx (.got id))
  | .got id =>
    some (s.withReq id fun r => s.setTx <|
      if env.compose = false then .fail id .compose
      else if env.size = false then .fail id .protobufEncode
      else if env.calloc = false then .fail id .memoryFailure
      else if r.cb then .start id
      else .send id)
  | .start id =>
    some (if env.timer then (s.setTimer id .running).setTx (.map id)
      else s.setTx (.fail id .notSet))
  | .map id =>
    some (s.withReq id fun r =>
      s.setTx (if inRange r.msgId then .search id 0 else .fail id .setAsyncCb))
  | .search id i =>
    some (s.setTx (match turn (fun i => (s.async i).uid = 0) i with
      | .found i => .enter id i .uid
      | .next => .search id (i + 1)
      | .over => .fail id .setAsyncCb))
  | .enter id i f =>
    some (s.withReq id fun _ =>
      (s.setAsync i (f.write (s.uids id) id (s.async i))).setTx
        (f.next.elim (.send id) (.enter id i)))
  | .send id =>
    some (s.withReq id fun _ => s.setTx (if env.send then .sent id else .fail id .transportSend))
  | .sent id => some (s.withReq id fun _ => s.setTx .idle)
  -- `fail_req`
  | .fail id status =>
    some (s.withReq id fun r =>
      let resp : Resp := ⟨expRespMsgId r.msgId, 0, status⟩
      if env.resp = false then s.setTx (.hook id)
      else if r.cb then (s.call id resp).setTx (.hook id)
      else s.setTx (.post id (.put resp)))
  | .post id pc =>
    (postSyncResp s pc).map fun (s, next) => s.setTx (next.elim (.hook id) (.post id))
  | .hook id => some (s.withReq id fun r => s.setTx (if r.cb then .check id 0 else .idle))
  | .check id i =>
    some (s.withReq id fun _ => s.setTx <|
      match turn (fun i => (s.async i).uid = s.uids id) i with
      | .found _ => .idle
      | .next => .check id (i + 1)
      | .over => .release id)
  | .release id => some ((s.free id).setTx .idle)

/-! ## The receive thread and the timers -/

structure RxEnv where
  calloc : Bool                                  -- for the response
  parse : Bool                                   -- `rpc_parse_rsp`
  deriving DecidableEq, Repr

/-- `process_rpc_rx_msg` gets a response. -/
def processRpcRxMsg (env : RxEnv) (resp : Resp) (s : State c) : State c :=
  if env.calloc = false ∨ env.parse = false then s
  else if respInRange resp.msgId then s.setRx (.avail resp 0)
  else s.setRx (.post (.put resp))

/-- The next step of `clear_async_resp_callback`, and where it leads. -/
def clearAsyncRespCallback (i : Fin c.async) (s : State c) : ClearPc → State c × Option ClearPc
  | .test => (s, if (s.async i).uid = 0 then none else some .timer)
  | .timer => (s, some (if (s.async i).timerHdl = none then .req else .stop))
  | .stop => ((s.async i).timerHdl.elim s s.stop, some .unset)
  | .unset => (s.setAsync i { s.async i with timerHdl := none }, some .req)
  | .req => (s, some (if (s.async i).appReq = none then .uid else .free))
  | .free => ((s.async i).appReq.elim s s.free, some .drop)
  | .drop => (s.setAsync i { s.async i with appReq := none }, some .uid)
  | .uid => (s.setAsync i { s.async i with uid := 0 }, some .cb)
  | .cb => (s.setAsync i { s.async i with cb := none }, none)

/-- The next step of `process_rpc_rx_msg`. -/
def rxStep (s : State c) : Option (State c) :=
  match s.rx with
  | .idle => none
  | .avail resp i =>
    some (s.setRx (match turn (fun i => (s.async i).uid = resp.uid) i with
      | .found _ => .find resp 0
      | .next => .avail resp (i + 1)
      | .over => .post (.put resp)))
  | .find resp i =>
    some (s.setRx (match turn (fun i => (s.async i).uid = resp.uid) i with
      | .found i => .call resp i
      | .next => .find resp (i + 1)
      | .over => .idle))
  | .call resp i =>
    some (match (s.async i).cb with
      | none => s.broken
      | some id => (s.call id resp).setRx (.clear i .test))
  | .clear i pc =>
    let (s, next) := clearAsyncRespCallback i s pc
    some (s.setRx (next.elim .idle (.clear i)))
  | .post pc => (postSyncResp s pc).map fun (s, next) => s.setRx (next.elim .idle .post)

/-- The next step of `rpc_async_timeout_handler`; `calloc` is for the response. -/
def rpcAsyncTimeoutHandler (calloc : Bool) (s : State c) : Option (State c) :=
  match s.timer with
  | .idle => none
  | .expired id =>
    some (s.withReq id fun r => s.setTask <|
      if r.cb = false ∨ calloc = false then .idle
      else .find id (s.uids id) ⟨expRespMsgId r.msgId, 0, .requestTimeout⟩ 0)
  | .find id uid resp i =>
    some (s.setTask (match turn (fun i => (s.async i).uid = uid) i with
      | .found i => .clear id resp i .test
      | .next => .find id uid resp (i + 1)
      | .over => .call id resp))
  | .clear id resp i pc =>
    let (s, next) := clearAsyncRespCallback i s pc
    some (s.setTask (next.elim (.call id resp) (.clear id resp i)))
  | .call id resp => some ((s.call id resp).setTask .idle)

/-! ## Steps -/

inductive Action
  | request (msgId : UInt32) (cb : Bool)         -- somebody calls `rpc_send_req`
  | caller (env : CallerEnv) (id : ReqId)
  | tx (env : TxEnv)
  | receive (env : RxEnv) (resp : Resp)          -- a response comes in
  | rx
  | expire (id : ReqId)                          -- the timer of a request expires
  | timer (calloc : Bool)
  deriving DecidableEq, Repr

def step (s : State c) : Action → Option (State c)
  | .request msgId cb =>
    some ({ s with reqs := s.reqs ++ [Req.mk msgId cb] }.setCaller s.reqs.length
      (.sending (.load false)))
  | .caller env id => callerStep env id s
  | .tx env => processRpcTxMsg env s
  | .receive env resp => if s.rx = .idle then some (processRpcRxMsg env resp s) else none
  | .rx => rxStep s
  | .expire id =>
    if s.timers id = .running ∧ s.timer = .idle then
      some ((s.setTimer id .expired).setTask (.expired id))
    else none
  | .timer calloc => rpcAsyncTimeoutHandler calloc s

end EspHostedOpen.RpcCore
