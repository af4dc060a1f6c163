import EspHostedOpen.Host.RpcCore

/-!
# What is known of a request (`rpc_core.c`)

A request goes through many hands: its caller, the transmit thread, an entry of a table, the
receive thread or the task of the timers. `Sound` says that none of them uses it after it has been
freed, and that its callback is called once. `Careful` names the steps at which the parties, that
know nothing of each other, have to be lucky.

Between the two stands `Inv`. Most of it is about one request at a time: `view` is all that there
is of it in the state, and `Legal` says which of these views go together.
-/

namespace EspHostedOpen.RpcCore

open Transition

variable {c : Config}

/-! ## Who has what in hand -/

def TxPc.req : TxPc c → Option ReqId
  | .idle => none
  | .got id => some id
  | .start id => some id
  | .map id => some id
  | .search id _ => some id
  | .enter id _ _ => some id
  | .send id => some id
  | .sent id => some id
  | .fail id _ => some id
  | .post id _ => some id
  | .hook id => some id
  | .check id _ => some id
  | .release id => some id

def TimerPc.req : TimerPc c → Option ReqId
  | .idle => none
  | .expired id => some id
  | .find id _ _ _ => some id
  | .clear id _ _ _ => some id
  | .call id _ => some id

/-- The entry whose callback is called, and how far the thread is with clearing it. -/
def RxPc.entry : RxPc c → Option (Fin c.async × Option ClearPc)
  | .call _ i => some (i, none)
  | .clear i pc => some (i, some pc)
  | _ => none

/-- The entry that the task of the timers clears. -/
def TimerPc.entry : TimerPc c → Option (Fin c.async × ClearPc)
  | .clear _ _ i pc => some (i, pc)
  | _ => none

def TxPc.posting : TxPc c → Option (PostPc c)
  | .post _ pc => some pc
  | _ => none

def RxPc.posting : RxPc c → Option (PostPc c)
  | .post pc => some pc
  | _ => none

/-- About to post the semaphore of the entry. -/
def PostPc.At (pc : PostPc c) (i : Fin c.sync) (id : ReqId) : Prop := pc = .sem i ∨ pc = .give id

instance (pc : PostPc c) (i : Fin c.sync) (id : ReqId) : Decidable (pc.At i id) :=
  inferInstanceAs (Decidable (_ ∨ _))

/-- The response that the thread has queued and still reads. -/
def PostPc.reading : PostPc c → Option Resp
  | .avail resp _ => some resp
  | .post resp _ => some resp
  | _ => none

/-- The caller has not got its uid. -/
def Caller.numbering : Caller c → Bool
  | .sending (.load _) => true
  | .sending (.store _ _) => true
  | .sending .test => true
  | .sending .read => true
  | _ => false

/-- The caller has still to do with its request. -/
def Caller.active : Caller c → Bool
  | .idle => false
  | .returned _ => false
  | _ => true

namespace State

/-- The requests whose callback has been called. -/
def told (s : State c) : List ReqId := s.log.map Prod.fst

/-- The transmit thread has done with the request. -/
def Released (s : State c) (id : ReqId) : Prop := id ∉ s.txQ ∧ s.tx.req ≠ some id

instance (s : State c) (id : ReqId) : Decidable (s.Released id) :=
  inferInstanceAs (Decidable (_ ∧ _))

/-- No thread is about to post the semaphore of the entry. -/
def Unposted (s : State c) (i : Fin c.sync) (id : ReqId) : Prop :=
  (∀ pc ∈ s.tx.posting, ¬pc.At i id) ∧ ∀ pc ∈ s.rx.posting, ¬pc.At i id

instance (s : State c) (i : Fin c.sync) (id : ReqId) : Decidable (s.Unposted i id) :=
  inferInstanceAs (Decidable (_ ∧ _))

/-- No thread still reads the response. -/
def Unread (s : State c) (resp : Resp) : Prop :=
  (∀ pc ∈ s.tx.posting, pc.reading ≠ some resp) ∧ ∀ pc ∈ s.rx.posting, pc.reading ≠ some resp

instance (s : State c) (resp : Resp) : Decidable (s.Unread resp) :=
  inferInstanceAs (Decidable (_ ∧ _))

/-- A semaphore that a thread finds in the table has not been destroyed. -/
def Postable (s : State c) : PostPc c → Prop
  | .post resp i => ∀ j : Fin c.sync, j.val = i → (s.sync j).uid = resp.uid →
      ∀ sem ∈ (s.sync j).sem, s.sems sem ≠ .destroyed
  | _ => True

instance (s : State c) (pc : PostPc c) : Decidable (s.Postable pc) := by
  cases pc <;> unfold Postable <;> infer_instance

end State

/-! ## The condition and the property -/

/-- The condition on a step of a caller. -/
def CallerCareful (s : State c) (env : CallerEnv) (id : ReqId) : Caller c → Prop
  -- no request has the uid, nor an entry; this one has 0 so far
  | .sending .read =>
    (∀ k < s.reqs.length, s.freed k = false → s.uids k ≠ s.uid) ∧ ∀ i, (s.async i).uid ≠ s.uid
  | .sending .create => env.sem = true
  -- the entry that is found is not about to be written by another caller
  | .sending (.search i) => ∀ j : Fin c.sync, j.val = i → (s.sync j).uid = 0 →
      ∀ k < s.reqs.length, s.callers k ≠ .sending (.enter j) ∧
        ∀ ok, s.callers k ≠ .waiting (.cleared j ok)
  | .waiting (.destroy i _) => s.Unposted i id
  -- it frees the response afterwards
  | .take => ∀ resp ∈ s.rxQ.head?, s.Unread resp
  | .free _ => s.Released id
  | _ => True

/-- The condition on a step of the transmit thread. -/
def TxCareful (s : State c) (env : TxEnv) : TxPc c → Prop
  -- a request whose timer runs gets its entry, and none that is still being cleared
  | .map id => ∀ r ∈ s.req id, inRange r.msgId = true
  | .search _ i => i < c.async ∧ ∀ j : Fin c.async, j.val = i →
      s.rx.entry ≠ some (j, some .cb) ∧ s.timer.entry ≠ some (j, .cb)
  -- its callback is called for a failure before it is registered, and not behind that
  | .fail id status => ∀ r ∈ s.req id, r.cb = true → (env.resp = true ↔ status ≠ .transportSend)
  | .post _ pc => s.Postable pc
  | _ => True

/-- The condition on a step of the receive thread. -/
def RxCareful (s : State c) : RxPc c → Prop
  -- the entry that is found is whole, and its timer has not expired
  | .find resp i => ∀ j : Fin c.async, j.val = i → (s.async j).uid = resp.uid →
      ∃ id ∈ (s.async j).appReq, s.timer.req ≠ some id
  | .clear i .free => ∀ id ∈ (s.async i).appReq, s.Released id
  | .post pc => s.Postable pc
  | _ => True

/-- The condition on a step of the task of the timers. -/
def TimerCareful (s : State c) (calloc : Bool) : TimerPc c → Prop
  | .expired _ => calloc = true
  | .clear _ _ i .free => ∀ id ∈ (s.async i).appReq, s.Released id
  | _ => True

/-- The condition on a step: whatever is freed, destroyed, cleared or numbered anew is what nobody
else is about to use. -/
def Careful (s : State c) : Action → Prop
  | .caller env id => CallerCareful s env id (s.callers id)
  | .tx env => TxCareful s env s.tx
  | .rx => RxCareful s s.rx
  -- the request has its entry, and the receive thread is not at it
  | .expire id => ∃ i, (s.async i).appReq = some id ∧ ∀ p ∈ s.rx.entry, p.1 ≠ i
  | .timer calloc => TimerCareful s calloc s.timer
  | .request _ _ => True
  | .receive _ _ => True

/-- Nothing has gone wrong. The requests that there are have different uids, and each of them is
still in somebody's hands; who has one finds it allocated. The callback of an asynchronous request
is called once, and before it is gone: by its timer at the latest, which runs as long as the request
is in the table and nobody is at it. -/
structure Sound (s : State c) : Prop where
  ok : s.fault = false
  uids : ∀ {id k r q}, s.req id = some r → s.req k = some q → s.uids id = s.uids k →
    s.uids id ≠ 0 → id = k
  active : ∀ {id}, (s.callers id).active = true → (s.req id).isSome = true
  queued : ∀ {id}, id ∈ s.txQ → (s.req id).isSome = true
  hand : ∀ {id}, s.tx.req = some id → (s.req id).isSome = true
  kept : ∀ {id r}, s.req id = some r → (s.callers id).active = true ∨ id ∈ s.txQ ∨
    s.tx.req = some id ∨ ∃ i, (s.async i).appReq = some id
  timed : ∀ {id i}, (s.async i).appReq = some id → s.timers id = .running ∨ s.timer.req = some id ∨
    ∃ x, s.rx.entry = some (i, x)
  once : s.told.Nodup
  pending : ∀ {id i}, (s.async i).appReq = some id → (∀ pc, s.rx.entry ≠ some (i, some pc)) →
    id ∉ s.told
  answered : ∀ {id r}, s.reqs[id]? = some r → r.cb = true → s.freed id = true →
    id ∈ s.told ∨ s.timer.req = some id

/-! ## What there is of one request -/

/-- How far an entry of `async_rsp_table` is. -/
inductive Stage
  | entering (f : Field)                         -- by the transmit thread, which writes `f` next
  | entered
  | called (pc : ClearPc)                        -- the receive thread has called the callback
  | expired (pc : ClearPc)                       -- the task of the timers has found it

/-- How far an entry of `sync_rsp_table` is. -/
inductive Place
  | entered                                      -- its `uid` is written
  | full
  | cleared                                      -- its `uid` is cleared

/-- The entry, as far as `clear_async_resp_callback` has come. -/
def ClearPc.entry (uid : UInt32) (id : ReqId) : ClearPc → AsyncRsp
  | .test => ⟨uid, some id, some id, some id⟩
  | .timer => ⟨uid, some id, some id, some id⟩
  | .stop => ⟨uid, some id, some id, some id⟩
  | .unset => ⟨uid, some id, some id, some id⟩
  | .req => ⟨uid, some id, none, some id⟩
  | .free => ⟨uid, some id, none, some id⟩
  | .drop => ⟨uid, some id, none, some id⟩
  | .uid => ⟨uid, some id, none, none⟩
  | .cb => ⟨0, some id, none, none⟩

def Stage.entry (uid : UInt32) (id : ReqId) : Stage → AsyncRsp
  | .entering .uid => {}
  | .entering .cb => ⟨uid, none, none, none⟩
  | .entering .timerHdl => ⟨uid, some id, none, none⟩
  | .entering .appReq => ⟨uid, some id, some id, none⟩
  | .entered => ⟨uid, some id, some id, some id⟩
  | .called pc => pc.entry uid id
  | .expired pc => pc.entry uid id

def Place.entry (uid : UInt32) (id : ReqId) : Place → SyncRsp
  | .entered => ⟨uid, none⟩
  | .full => ⟨uid, some id⟩
  | .cleared => ⟨0, some id⟩

/-- Where the requests are in the tables. -/
structure Ghost (c : Config) where
  slot : ReqId → Option (Fin c.async × Stage) := fun _ => none
  place : ReqId → Option (Fin c.sync × Place) := fun _ => none

/-- All that there is of a request; by default, of one that has not been made. -/
@[ext] structure View (c : Config) where
  req : Option Req := none
  uid : UInt32 := 0
  freed : Bool := false
  told : Bool := false
  sem : Sem := .unmade
  timer : Timer := .unmade
  caller : Caller c := .idle
  queued : Bool := false
  tx : Option (TxPc c) := none
  task : Option (TimerPc c) := none
  rx : Option (Option ClearPc) := none           -- the receive thread, at its entry
  slot : Option (Fin c.async × Stage) := none
  place : Option (Fin c.sync × Place) := none

/-- What the receive thread does at the entry. -/
def RxPc.at (pc : RxPc c) (slot : Option (Fin c.async × Stage)) : Option (Option ClearPc) :=
  match slot, pc.entry with
  | some (i, _), some (j, x) => if i = j then some x else none
  | _, _ => none

def view (s : State c) (g : Ghost c) (id : ReqId) : View c where
  req := s.reqs[id]?
  uid := s.uids id
  freed := s.freed id
  told := decide (id ∈ s.told)
  sem := s.sems id
  timer := s.timers id
  caller := s.callers id
  queued := decide (id ∈ s.txQ)
  tx := if s.tx.req = some id then some s.tx else none
  task := if s.timer.req = some id then some s.timer else none
  rx := s.rx.at (g.slot id)
  slot := g.slot id
  place := g.place id

namespace View

variable {v : View c}

def Live (v : View c) : Prop := v.req ≠ none ∧ v.freed = false

def Async (v : View c) : Prop := ∃ r, v.req = some r ∧ r.cb = true

def Sync (v : View c) : Prop := ∃ r, v.req = some r ∧ r.cb = false

/-- It has no timer and no entry, and its callback has not been called. -/
def Early (v : View c) : Prop :=
  v.slot = none ∧ v.timer = .unmade ∧ v.task = none ∧ v.told = false

/-- Only its caller knows of it. -/
def Fresh (v : View c) : Prop := v.Live ∧ v.queued = false ∧ v.tx = none ∧ v.Early

/-- It has a timer, but no entry. -/
def Timed (v : View c) : Prop :=
  v.slot = none ∧ v.timer = .running ∧ v.task = none ∧ v.told = false

/-- It is in the table, from entry `n` on. -/
def Registered (v : View c) (n : Nat) : Prop :=
  ∃ i st, v.slot = some (i, st) ∧ n ≤ i.val ∧ ∀ f, st ≠ .entering f

/-- Its callback has been called, and nobody else knows of it. -/
def Over (v : View c) : Prop :=
  v.slot = none ∧ v.timer = .unmade ∧ v.task = none ∧ v.told = true

/-- In the table, with a semaphore. -/
def At (v : View c) (i : Fin c.sync) : Prop := v.place = some (i, .full) ∧ ∃ b, v.sem = .made b

end View

/-- What holds of a request whose caller is in `rpc_send_req`. -/
def SendPc.Ok (v : View c) : SendPc c → Prop
  | .load _ => v.sem = .unmade ∧ v.place = none ∧ v.uid = 0
  | .store _ _ => v.sem = .unmade ∧ v.place = none ∧ v.uid = 0
  | .test => v.sem = .unmade ∧ v.place = none ∧ v.uid = 0
  | .read => v.sem = .unmade ∧ v.place = none ∧ v.uid = 0
  | .create => v.Sync ∧ v.sem = .unmade ∧ v.place = none
  | .search _ => v.Sync ∧ v.sem = .made false ∧ v.place = none
  | .enter _ => v.Sync ∧ v.sem = .made false ∧ v.place = none
  | .entered i => v.Sync ∧ v.sem = .made false ∧ v.place = some (i, .entered)
  | .queue => v.Sync ∧ (∃ i, v.At i) ∨ v.Async ∧ v.place = none
  | .fail => v.Sync ∧ v.sem ≠ .destroyed ∧ v.place = none

/-- In `wait_for_sync_response`. -/
def WaitPc.Ok (v : View c) (id : ReqId) : WaitPc c → Prop
  | .find n => ∃ i, n ≤ i.val ∧ v.At i
  | .get i => v.At i
  | .wait i sem => sem = id ∧ v.At i
  | .destroy i _ => v.At i
  | .clear i _ => v.place = some (i, .full) ∧ v.sem = .destroyed
  | .cleared i _ => v.place = some (i, .cleared) ∧ v.sem = .destroyed

def Caller.Ok (v : View c) (id : ReqId) : Caller c → Prop
  | .idle => v = {}
  | .sending pc => v.Fresh ∧ pc.Ok v
  | .waiting pc => v.Live ∧ v.Sync ∧ pc.Ok v id
  | .take => v.Live ∧ v.Sync ∧ v.sem = .destroyed ∧ v.place = none
  | .free _ => v.Live ∧ v.Sync ∧ v.sem = .destroyed ∧ v.place = none
  | .returned _ => v.req ≠ none ∧ v.place = none ∧ (v.freed = false → v.Async)

/-- Of a request that the transmit thread has. -/
def TxPc.Ok (v : View c) : TxPc c → Prop
  | .idle => False
  | .got _ => v.Async → v.Early
  | .start _ => v.Async ∧ v.Early
  | .map _ => v.Async ∧ v.Timed
  | .search _ _ => v.Async ∧ v.Timed
  | .enter _ i f => v.Async ∧ v.slot = some (i, .entering f) ∧ v.timer = .running ∧
      v.task = none ∧ v.told = false
  | .send _ => v.Async → v.Registered 0
  | .sent _ => v.Async → v.Registered 0
  | .fail _ status => v.Async → if status = .transportSend then v.Registered 0 else v.Early
  | .post _ _ => v.Sync
  | .hook _ => v.Async → v.Registered 0 ∨ v.Over
  | .check _ n => v.Async ∧ (v.Registered n ∨ v.Over)
  | .release _ => v.Async ∧ v.Over

/-- The request has been freed. -/
def ClearPc.freed : ClearPc → Bool
  | .drop => true
  | .uid => true
  | .cb => true
  | _ => false

/-- Its timer, which was `timer` before. -/
def ClearPc.timerOf (timer : Timer) : ClearPc → Timer
  | .test => timer
  | .timer => timer
  | .stop => timer
  | _ => .deleted

/-- Of a request whose entry is being cleared. -/
def ClearPc.Ok (v : View c) (timer : Timer) (pc : ClearPc) : Prop :=
  v.freed = pc.freed ∧ v.timer = pc.timerOf timer

/-- The task of the timers is on its way to the entry. -/
def View.Sought (v : View c) (id : ReqId) (i : Fin c.async) : Prop :=
  v.task = some (.expired id) ∨ ∃ resp n, v.task = some (.find id v.uid resp n) ∧ n ≤ i.val

/-- Of a request with an entry. -/
def Stage.Ok (v : View c) (id : ReqId) (i : Fin c.async) : Stage → Prop
  | .entering f => v.tx = some (.enter id i f)
  | .entered => v.freed = false ∧ v.told = false ∧
      (v.timer = .running ∧ v.task = none ∧ (v.rx = none ∨ v.rx = some none) ∨
        v.timer = .expired ∧ v.Sought id i ∧ v.rx = none)
  | .called pc => v.told = true ∧ v.task = none ∧ v.rx = some (some pc) ∧ pc.Ok v .running
  | .expired pc => v.told = false ∧ (∃ resp, v.task = some (.clear id resp i pc)) ∧
      v.rx = none ∧ pc.Ok v .expired

/-- Of a request that the task of the timers has. -/
def TimerPc.Ok (v : View c) : TimerPc c → Prop
  | .idle => False
  | .expired _ => ∃ i, v.slot = some (i, .entered)
  | .find _ _ _ _ => ∃ i, v.slot = some (i, .entered)
  | .clear _ _ i pc => v.slot = some (i, .expired pc)
  | .call _ _ => v.freed = true ∧ v.told = false ∧ v.slot = none

/-- **What goes together** in the view of a request. -/
structure Legal (id : ReqId) (v : View c) : Prop where
  caller : v.caller.Ok v id
  queued : v.queued = true → v.Live ∧ v.tx = none ∧ (v.Async → v.Early)
  tx : ∀ {pc}, v.tx = some pc → pc.req = some id ∧ v.Live ∧ pc.Ok v
  slot : ∀ {i st}, v.slot = some (i, st) → v.Async ∧ st.Ok v id i
  task : ∀ {pc}, v.task = some pc → pc.req = some id ∧ v.Async ∧ pc.Ok v
  numbered : v.req ≠ none → v.uid ≠ 0 ∨ v.caller.numbering = true
  kept : v.Live → v.caller.active = true ∨ v.queued = true ∨ v.tx ≠ none ∨ v.slot ≠ none
  answered : v.Async → v.freed = true → v.told = true ∨ v.task ≠ none
  told : v.told = true → v.Async
  rx : ∀ {x}, v.rx = some x → ∃ i, v.slot = some (i, x.elim .entered .called)

/-- A thread that is about to post a semaphore finds one. -/
def PostPc.Ok (s : State c) (g : Ghost c) : PostPc c → Prop
  | .sem i => ∀ id ∈ (s.sync i).sem, ∃ b, s.sems id = .made b
  | .give id => (∃ i, g.place id = some (i, .full)) ∧ ∃ b, s.sems id = .made b
  | _ => True

/-- The uid is in the entry. -/
def Stage.shows : Stage → Bool
  | .entering .uid => false
  | .called .cb => false
  | .expired .cb => false
  | _ => true

/-- The request is allocated, or an entry still has its uid. -/
def Ghost.Uses (g : Ghost c) (s : State c) (id : ReqId) : Prop :=
  (s.req id).isSome = true ∨ ∃ i st, g.slot id = some (i, st) ∧ st.shows = true

/-- The tables hold what they should, the threads stand where they may, and the parties keep out
of each other's way. -/
structure Frame (s : State c) (g : Ghost c) : Prop where
  ok : s.fault = false
  async : ∀ {id i st}, g.slot id = some (i, st) → s.async i = st.entry (s.uids id) id
  vacant : ∀ {i}, (∀ id st, g.slot id ≠ some (i, st)) → s.async i = {}
  slots : ∀ {id k i st st'}, g.slot id = some (i, st) → g.slot k = some (i, st') → id = k
  sync : ∀ {id i pl}, g.place id = some (i, pl) → s.sync i = pl.entry (s.uids id) id
  room : ∀ {i}, (∀ id pl, g.place id ≠ some (i, pl)) → s.sync i = {}
  places : ∀ {id k i pl pl'}, g.place id = some (i, pl) → g.place k = some (i, pl') → id = k
  entry : ∀ {i x}, s.rx.entry = some (i, x) → ∃ id st, g.slot id = some (i, st)
  nodup : s.txQ.Nodup
  once : s.told.Nodup
  enters : ∀ {id k i}, s.callers id = .sending (.enter i) → s.callers k = .sending (.enter i) →
    id = k
  enter : ∀ {id i}, s.callers id = .sending (.enter i) → ∀ k pl, g.place k ≠ some (i, pl)
  uids : ∀ {id k}, g.Uses s id → g.Uses s k → s.uids id = s.uids k → s.uids id ≠ 0 → id = k
  txPost : ∀ {pc}, s.tx.posting = some pc → pc.Ok s g
  rxPost : ∀ {pc}, s.rx.posting = some pc → pc.Ok s g

/-- **The invariant.** -/
structure Inv (s : State c) (g : Ghost c) : Prop where
  frame : Frame s g
  legal : ∀ id, Legal id (view s g id)

end EspHostedOpen.RpcCore
