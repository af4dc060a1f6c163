import EspHostedOpen.Lib.Ledger
import EspHostedOpen.Lib.Transition
import EspHostedOpen.Slave.PrioQueues

/-!
# The receive side of the SDIO transport (`sdio_slave_api.c`)

The driver fills the buffers that it was given, `sdio_rx_task` takes them from it and puts them into
the three queues, `sdio_read` takes them from there, and `process_rx_pkt` gives them back to the
driver. Any number of `sdio_read` calls are under way at a time; besides them runs the one thread
that puts the transport down and up again while the host sleeps. Each call into the driver, a queue
or the semaphore is a step of its own.

Of IDF's driver: a buffer that is loaded or filled cannot be unregistered or loaded again
(`ESP_ERR_INVALID_ARG`), and `sdio_slave_deinit` frees every handle. A handle is known by the number
of its registration, a buffer that `sdio_slave_recv` returned by the number of that call. A run
begins with the first `sdio_init` done.

Throttling and the power-save flags of a packet do not matter here, and what is in a packet only as
far as `sdio_rx_task` checks it.
-/

namespace EspHostedOpen.SdioRx

open Ledger Transition

structure Build where
  numRxBuffers : Nat                             -- `SDIO_NUM_RX_BUFFERS`
  checksum : Bool                                -- `CONFIG_ESP_SDIO_CHECKSUM`
  unloadBusWhilePs : Bool                        -- `H_PS_UNLOAD_BUS_WHILE_PS`

/-- What the host sends. -/
structure Packet where
  readLen : Nat
  ifType : Nat
  len : Nat
  offset : Nat
  checksumOk : Bool  -- the checksum of the packet is the one in its header
  deriving DecidableEq, Repr

/-- `sdio_read_len & 0xFFFF`. -/
def Packet.payloadLen (pkt : Packet) : Nat := pkt.readLen % 2 ^ 16

/-- The checks of `sdio_rx_task`. -/
def Packet.valid (build : Build) (pkt : Packet) : Bool :=
  pkt.len ≠ 0 && !(pkt.payloadLen < pkt.len + pkt.offset) && (!build.checksum || pkt.checksumOk)

/-- `ESP_SERIAL_IF`, `ESP_HCI_IF` and the others. -/
def Packet.queue (pkt : Packet) : PrioQ :=
  if pkt.ifType = 3 then .serial else if pkt.ifType = 4 then .bt else .others

/-- `interface_buffer_handle_t`. -/
structure Buf where
  serial : Nat
  handle : Nat
  payloadLen : Nat
  deriving DecidableEq, Repr

/-! ## The driver -/

/-- `stale` and `doubled` are for the statements only: a handle was used that the driver does not
have any more, a buffer was loaded that the driver had. -/
structure Driver where
  registered : List Nat
  loaded : List Nat
  received : List (Nat × Packet) := []
  next : Nat
  stale : Bool := false
  doubled : Bool := false

namespace Driver

/-- Neither loaded nor filled. -/
def Idle (h : Nat) (d : Driver) : Prop := h ∉ d.loaded ∧ h ∉ d.received.map Prod.fst

instance (h : Nat) (d : Driver) : Decidable (d.Idle h) := inferInstanceAs (Decidable (_ ∧ _))

/-- `sdio_slave_recv_register_buf`. -/
def register (d : Driver) : Driver :=
    { d with registered := d.next :: d.registered, next := d.next + 1 }

/-- `sdio_slave_recv_unregister_buf`. -/
def unregister (h : Nat) (d : Driver) : Driver :=
  { d with
    registered := if d.Idle h then d.registered.erase h else d.registered
    stale := d.stale || h ∉ d.registered }

/-- `sdio_slave_recv_load_buf`. -/
def load (h : Nat) (d : Driver) : Driver :=
  { d with
    loaded := if h ∈ d.registered ∧ d.Idle h then d.loaded ++ [h] else d.loaded
    stale := d.stale || h ∉ d.registered
    doubled := d.doubled || (h ∈ d.registered && !d.Idle h) }

/-- `sdio_slave_deinit`. -/
def deinit (d : Driver) : Driver := { d with registered := [], loaded := [], received := [] }

/-- A handle that `sdio_read` hands out. -/
def use (h : Nat) (d : Driver) : Driver := { d with stale := d.stale || h ∉ d.registered }

end Driver

/-! ## The state -/

/-- What `sdio_rx_task` is about to do. -/
inductive RxPc
  | test                                         -- `if_handle_g.state`
  | recv                                         -- `sdio_slave_recv`
  | check (b : Buf) (pkt : Packet)
  | drop (b : Buf)                               -- `sdio_read_done`
  | send (b : Buf) (q : PrioQ)                   -- `xQueueSend`
  | give                                         -- `xSemaphoreGive`
  deriving DecidableEq, Repr

/-- A reader, by what it is about to do. `mark` is for the statements only: the packets below it
were in their queues when the reader took its token. -/
inductive Op
  | readTest                                     -- `sdio_read`: `if_handle->state`
  | readTake                                     -- `xSemaphoreTake`
  | readPoll (q : PrioQ) (mark : Nat)            -- `xQueueReceive`
  | process (b : Buf)                            -- `process_rx_pkt`: `free_buf_handle`
  deriving DecidableEq, Repr

/-- What `sdio_deinit` and `sdio_init` are about to do. `left` is for the statements only: the
buffer that could not be loaded. -/
inductive PowerPc
  | idle
  | deinitKill                                   -- `vTaskDelete` of `sdio_rx_task`
  | unregister (i : Nat)                         -- `sdio_slave_recv_unregister_buf`
  | driverDeinit                                 -- `sdio_slave_deinit`
  | deinitState                                  -- `if_handle_g.state = DEINIT`
  | initDriver                                   -- `sdio_slave_initialize`
  | register (i : Nat)                           -- `sdio_slave_recv_register_buf`
  | load (i h : Nat)                             -- `sdio_slave_recv_load_buf`
  | initStart                                    -- `sdio_slave_start`
  | initFail (left : Option Nat)                 -- `sdio_slave_deinit`
  | initState                                    -- `if_handle_g.state = ACTIVE`
  | initTask                                     -- `xTaskCreate`
  deriving DecidableEq, Repr

/-- What `sdio_rx_task` and the readers share. For the statements only are `dropped`, `returned`,
`released`, the buffers that the task gave back, that `sdio_read` took out of each queue, and that
`process_rx_pkt` gave back; `missed`, a reader that had taken a token found every queue empty; and
`overtaken`, a reader returned a packet and passed one of a higher class that was there first. -/
structure Traffic where
  tokens : Nat := 0
  queue : PrioQ → List Buf := fun _ => []
  rx : Option RxPc := some .test
  ops : List Op := []
  serial : Nat := 0
  dropped : List Nat := []
  returned : PrioQ → List Nat := fun _ => []
  released : List Nat := []
  missed : Bool := false
  overtaken : Bool := false

structure State extends Traffic where
  driver : Driver
  handles : Nat → Option Nat                     -- `sdio_rx_buf_handles`
  active : Bool := true                          -- `if_handle_g.state >= DEACTIVE`
  power : PowerPc := .idle

/-- The first `sdio_init` is done. -/
def start (build : Build) : State where
  driver :=
    { registered := List.range build.numRxBuffers
      loaded := List.range build.numRxBuffers
      next := build.numRxBuffers }
  handles := fun i => if i < build.numRxBuffers then some i else none

def RxPc.held : RxPc → Option Buf
  | check b _ | drop b | send b _ => some b
  | _ => none

def Op.held : Op → Option Buf
  | process b => some b
  | _ => none

namespace Traffic

/-- What `sdio_rx_task` has in its hands. -/
def held (t : Traffic) : Option Buf := t.rx.bind RxPc.held

/-- From here on the packets have not reached their queues. -/
def front (t : Traffic) : Nat := (t.held.map Buf.serial).getD t.serial

def send (q : PrioQ) (b : Buf) (t : Traffic) : Traffic :=
  { t with queue := Function.update t.queue q (t.queue q ++ [b]), rx := some .give }

/-- `xSemaphoreGive`: `sdio_rx_sem` counts up to the length of the three queues. -/
def give (size : Nat) (t : Traffic) : Traffic :=
  { t with tokens := min (t.tokens + 1) (size * 3), rx := some .test }

/-- A reader takes `b` out of its queue and leaves `rest`. -/
def receive (q : PrioQ) (mark : Nat) (b : Buf) (rest : List Buf) (t : Traffic) : Traffic :=
  { t with
    queue := Function.update t.queue q rest
    returned := Function.update t.returned q (t.returned q ++ [b.serial])
    overtaken := t.overtaken || q.above.any fun q' => (t.queue q').any fun b' => b'.serial < mark }

end Traffic

/-! ## Steps -/

/-- One step of `sdio_rx_task`; `sdio_slave_recv` may come back with nothing. -/
def rxStep (build : Build) (ok : Bool) (s : State) : RxPc → Option State
  | .test => some { s with rx := some (if s.active then .recv else .test) }
  | .recv =>
    if ok then
      match s.driver.received with
      | [] => none
      | (h, pkt) :: rest =>
        some { s with
          driver := { s.driver with received := rest }
          serial := s.serial + 1
          rx := some (.check ⟨s.serial, h, pkt.payloadLen⟩ pkt) }
    else some { s with rx := some .test }
  | .check b pkt =>
    some { s with rx := some (if pkt.valid build then .send b pkt.queue else .drop b) }
  | .drop b =>
    some { s with driver := s.driver.load b.handle, dropped :=
      s.dropped ++ [b.serial], rx := some .test }
  | .send b q =>
    if (s.queue q).length <
      build.numRxBuffers then some { s with toTraffic := s.toTraffic.send q b } else none
  | .give => some { s with toTraffic := s.toTraffic.give build.numRxBuffers }

/-- One step of a reader: the readers that it becomes. -/
def opStep (s : State) : Op → Option (State × List Op)
  | .readTest => some (s, if s.active then [.readTake] else [])
  | .readTake =>
    if s.tokens =
      0 then none else some ({ s with tokens := s.tokens - 1 }, [.readPoll .serial s.front])
  | .readPoll q mark =>
    match s.queue q with
    | [] =>
      match q.next with
      | some q' => some (s, [.readPoll q' mark])
      | none => some ({ s with missed := true }, [])
    | b :: rest =>
      -- `recv_task` goes on with a packet where `sdio_read` returns a length
      some ({ s with toTraffic := s.toTraffic.receive q mark b rest, driver :=
          s.driver.use b.handle }, if b.payloadLen = 0 then [] else [.process b])
  | .process b =>
    some ({ s with driver := s.driver.load b.handle, released := s.released ++ [b.serial] }, [])

/-- One step of `sdio_deinit` or `sdio_init`. -/
def powerStep (build : Build) (ok : Bool) (s : State) : PowerPc → Option State
  | .idle => none
  | .deinitKill => some { s with rx := none, power := .unregister 0 }
  | .unregister i =>
    if i < build.numRxBuffers then
      match s.handles i with
      | some h =>
        some { s with
          driver := s.driver.unregister h
          handles := Function.update s.handles i none
          power := .unregister (i + 1) }
      | none => some { s with power := .unregister (i + 1) }
    else some { s with power := .driverDeinit }
  | .driverDeinit => some { s with driver := s.driver.deinit, power := .deinitState }
  | .deinitState => some { s with active := false, power := .idle }
  | .initDriver => some { s with power := if ok then .register 0 else .idle }
  | .register i =>
    if i < build.numRxBuffers then
      -- `assert(sdio_rx_buf_handles[i] != NULL)`
      if ok then
        some { s with
          driver := s.driver.register
          handles := Function.update s.handles i (some s.driver.next)
          power := .load i s.driver.next }
      else none
    else some { s with power := .initStart }
  | .load i h =>
    some (if ok then { s with driver := s.driver.load h, power := .register (i + 1) }
      else { s with power := .initFail (some h) })
  | .initStart => some { s with power := if ok then .initState else .initFail none }
  | .initFail _ => some { s with driver := s.driver.deinit, power := .idle }
  | .initState => some { s with active := true, power := .initTask }
  | .initTask => some { s with rx := some (s.rx.getD .test), power := .idle }

inductive Action
  | arrive (pkt : Packet)                        -- the host sends, the driver fills a buffer
  | rx (ok : Bool)
  | read                                         -- `sdio_read` is called
  | op (i : Nat)                                 -- the `i`th reader under way
  | deinit                                       -- `sdio_deinit` is called
  | init                                         -- `sdio_init` is called
  | power (ok : Bool)
  deriving DecidableEq, Repr

def step (build : Build) (s : State) : Action → Option State
  | .arrive pkt =>
    match s.driver.loaded with
    | [] => none
    | h :: rest =>
      some { s with driver :=
      { s.driver with loaded := rest, received := s.driver.received ++ [(h, pkt)] } }
  | .rx ok => s.rx.bind (rxStep build ok s)
  | .read => some { s with ops := .readTest :: s.ops }
  | .op i =>
    s.ops[i]?.bind fun op => (opStep s op).map fun r => { r.1 with ops := r.2 ++ s.ops.eraseIdx i }
  | .deinit =>
    if s.power = .idle then
      some (if build.unloadBusWhilePs && s.active then { s with power := .deinitKill } else s)
    else none
  | .init => if s.power =
    .idle then some (if s.active then s else { s with power := .initDriver }) else none
  | .power ok => powerStep build ok s s.power

/-! ## What the transport promises -/

/-- The buffers of all classes. -/
def pool {α : Type} (f : PrioQ → List α) : Multiset α := f .serial + f .bt + f .others

/-- A buffer in somebody's hands. -/
def hand (b : Option Buf) : Multiset Buf := (b.toList : Multiset Buf)

def Op.reading (op : Op) : Multiset Buf := hand op.held

/-- What `sdio_read` has handed out and is not given back. -/
def Traffic.reading (t : Traffic) : Multiset Buf := total Op.reading t.ops

/-- The buffers that `sdio_slave_recv` returned and that are not given back. -/
def Traffic.outstanding (t : Traffic) : Multiset Buf := hand t.held + pool t.queue + t.reading

/-- **The receive side is sound.** -/
structure Sound (build : Build) (s : State) : Prop where
  /-- each buffer that was received is outstanding, was dropped once or was released once -/
  account : s.outstanding.map Buf.serial + s.dropped + s.released = Multiset.range s.serial
  /-- what `sdio_read` returned once is being processed or was released once -/
  once : pool s.returned = s.reading.map Buf.serial + s.released
  /-- a buffer is with the driver or in one place outside it -/
  owner : ((s.driver.loaded : Multiset Nat) + s.driver.received.map Prod.fst +
    s.outstanding.map Buf.handle).Nodup
  /-- who has a buffer has one that is registered -/
  live : ∀ b ∈ s.outstanding, b.handle ∈ s.driver.registered
  current : s.driver.stale = false
  single : s.driver.doubled = false
  /-- the packets of a class are returned in the order of their arrival -/
  order : ∀ q, (s.returned q ++ (s.queue q).map Buf.serial).Pairwise (· < ·)
  priority : s.overtaken = false
  found : s.missed = false
  /-- every packet in a queue is there for a reader -/
  tokens : s.rx ≠ some .give → (∀ q mark, .readPoll q mark ∉ s.ops) →
    s.tokens = (s.queue .serial).length + (s.queue .bt).length + (s.queue .others).length
  /-- `sdio_rx_task` does not wait for room -/
  room : ∀ b q, s.rx = some (.send b q) → (s.queue q).length < build.numRxBuffers

/-- What `sdio_deinit` needs: the task is not in the middle of something when it is deleted, and the
buffer that is unregistered is not outstanding. -/
def PowerGuard (build : Build) (s : State) : PowerPc → Prop
  | .deinitKill => s.held = none ∧ s.rx ≠ some .give
  | .unregister i => i < build.numRxBuffers → ∀ h ∈ s.handles i, ∀ b ∈ s.outstanding, b.handle ≠ h
  | _ => True

def Guard (build : Build) (s : State) : Action → Prop
  | .power _ => PowerGuard build s s.power
  | _ => True

end EspHostedOpen.SdioRx
