import EspHostedOpen.Lib.Fragments
import EspHostedOpen.Lib.Overlay
import EspHostedOpen.Lib.Transition

/-!
# Reassembly of serial fragments (`esp_hosted_coprocessor.c`, `protocomm_pserial.c`)

The receive task puts the fragments of a request together in the static `r`
(`process_serial_rx_pkt`) and queues a copy; `pserial_task` takes the entry, reads `r` again
(`serial_read_data`) and parses. Each access to a member of `r` is a step of its own.

The receive task computes the room left in `r.data` *before* it waits for `r.valid`, and
`serial_read_data` clears `r.valid` *before* `r.len` and `r.cur_seq_no`. `InOrder` names the steps
at which this shows.
-/

namespace EspHostedOpen.Reassembly

open ByteCodec Fragments Transition

/-- What `esp_payload_header` says of a fragment, and its payload. -/
abbrev Frag := Fragment UInt16 UInt8

/-- `sizeof(r.data)`. -/
def rxDataSize : Nat := 8192

/-! ## State -/

/-- `struct rx_data`. -/
structure RxData where
  valid : Bool := false
  curSeqNo : UInt16 := 0
  len : Nat := 0
  data : List UInt8 := List.replicate rxDataSize 0

/-- Where `process_serial_rx_pkt` stands. `rem` is `rem_buff_size`. -/
inductive RxPc
  | idle
  | waiting (f : Frag) (rem : Nat)               -- about to test `r.valid`
  | lenTest (f : Frag) (rem : Nat)               -- about to test `r.len`
  | setSeq (f : Frag) (rem : Nat)                -- about to store the sequence number
  | seqTest (f : Frag) (rem : Nat)               -- about to compare it
  | copying (f : Frag) (rem : Nat)               -- about to copy
  | counting (f : Frag) (rem : Nat)              -- about to read `r.len`
  | counted (f : Frag) (len : Nat)               -- about to store its new value
  | flagTest (f : Frag)                          -- about to test `MORE_FRAGMENT`
  | completing (f : Frag)                        -- about to set `r.valid`
  | readying (f : Frag)                          -- about to copy `r.data` for the queue
  | sending (f : Frag) (arg : List UInt8)        -- inside `xQueueSend`
  deriving DecidableEq

/-- Where `pserial_task` stands, with the buffer of the entry. -/
inductive TaskPc
  | receiving
  | gotArg (arg : List UInt8)                    -- about to read `r.len`
  | gotLen (arg : List UInt8) (len : Nat)        -- about to test `r.valid`
  | reading (arg : List UInt8) (len : Nat)       -- about to copy
  | clearValid (bytes : List UInt8)
  | clearLen (bytes : List UInt8)
  | clearSeq (bytes : List UInt8)
  | parsing (bytes : List UInt8)
  deriving DecidableEq

/-- The buffer, both tasks and the queue between them; `input` is still to be received, `taken` is
done with, `parsed` was passed to the request parser. -/
structure State where
  r : RxData := {}
  rx : RxPc := .idle
  task : TaskPc := .receiving
  queue : List (List UInt8) := []
  input : List Frag := []
  taken : List Frag := []
  parsed : List (List UInt8) := []

namespace State

def setRx (s : State) (pc : RxPc) : State := { s with rx := pc }

def setTask (s : State) (pc : TaskPc) : State := { s with task := pc }

def setData (s : State) (r : RxData) : State := { s with r := r }

/-- `process_serial_rx_pkt` returns. -/
def finish (s : State) (f : Frag) : State := { s with rx := .idle, taken := s.taken ++ [f] }

end State

/-! ## Steps -/

/-- The next step of the receive task. `malloc` is for the copy in
`protocomm_pserial_data_ready`. -/
def rxStep (malloc : Bool) (s : State) : Option State :=
  match s.rx with
  | .idle =>
    match s.input with
    | [] => none
    | f :: fs => some { s with rx := .waiting f (rxDataSize - s.r.len), input := fs }
  | .waiting f rem => some (if s.r.valid then s else s.setRx (.lenTest f rem))
  | .lenTest f rem => some (s.setRx (if s.r.len = 0 then .setSeq f rem else .seqTest f rem))
  | .setSeq f rem => some ((s.setData { s.r with curSeqNo := f.key }).setRx (.seqTest f rem))
  | .seqTest f rem =>
    some (s.setRx (if f.key = s.r.curSeqNo then .copying f rem else .completing f))
  | .copying f rem =>
    (poke s.r.len (f.payload.take (min f.payload.length rem)) s.r.data).map fun data =>
      (s.setData { s.r with data := data }).setRx (.counting f rem)
  | .counting f rem => some (s.setRx (.counted f (s.r.len + min f.payload.length rem)))
  | .counted f len => some ((s.setData { s.r with len := len }).setRx (.flagTest f))
  | .flagTest f => some (if f.more then s.finish f else s.setRx (.completing f))
  | .completing f => some ((s.setData { s.r with valid := true }).setRx (.readying f))
  | .readying f =>
    if s.r.len ≠ 0 ∧ malloc = false then some (s.finish f)
    else some (s.setRx (.sending f (s.r.data.take s.r.len)))
  | .sending f arg => some ({ s with queue := s.queue ++ [arg] }.finish f)

/-- The next step of `pserial_task`. Events that pass through the same queue do not touch `r`. -/
def taskStep (s : State) : Option State :=
  match s.task with
  | .receiving =>
    match s.queue with
    | [] => none
    | arg :: rest => some { s with queue := rest, task := .gotArg arg }
  | .gotArg arg => some (s.setTask (.gotLen arg (min arg.length s.r.len)))
  | .gotLen arg len =>
    some (s.setTask (if s.r.valid then .reading arg len else .parsing (arg.take len)))
  | .reading _ len => some (s.setTask (.clearValid (s.r.data.take len)))
  | .clearValid bytes => some ((s.setData { s.r with valid := false }).setTask (.clearLen bytes))
  | .clearLen bytes => some ((s.setData { s.r with len := 0 }).setTask (.clearSeq bytes))
  | .clearSeq bytes => some ((s.setData { s.r with curSeqNo := 0 }).setTask (.parsing bytes))
  | .parsing bytes =>
    some ({ s with parsed := if bytes = [] then s.parsed else s.parsed ++
      [bytes] }.setTask .receiving)

inductive Action
  | rx (malloc : Bool)
  | task
  deriving DecidableEq, Repr

def step (s : State) : Action → Option State
  | .rx malloc => rxStep malloc s
  | .task => taskStep s

/-! ## Messages -/

/-- A request of the host: its sequence number and the fragments it is cut into. -/
structure Message where
  seq : UInt16
  fragments : List (List UInt8)
  pos : 1 ≤ fragments.flatten.length
  fits : fragments.flatten.length ≤ rxDataSize

def Message.bytes (m : Message) : List UInt8 := m.fragments.flatten

/-- The fragments of all messages, in order. -/
def serialStream (msgs : List Message) : List Frag := stream
    (msgs.map fun m => (m.seq, m.fragments))

/-- Nothing received yet. -/
def start (msgs : List Message) : State := { input := serialStream msgs }

/-- What `pserial_task` has taken out of the queue and not passed on yet. -/
def TaskPc.inHand : TaskPc → List (List UInt8)
  | .receiving => []
  | .gotArg b | .gotLen b _ | .reading b _ | .clearValid b | .clearLen b | .clearSeq b
  | .parsing b => [b]

/-- Both tasks have nothing left to do. -/
def State.Quiet (s : State) : Prop :=
  s.rx = .idle ∧ s.input = [] ∧ s.task = .receiving ∧ s.queue = []

/-- **Nothing is lost and nothing invented**: the messages received so far are those parsed and
those on their way to the parser, and in the end all are parsed. -/
structure Faithful (msgs : List Message) (s : State) : Prop where
  account : s.parsed ++ s.task.inHand ++ s.queue = (msgs.take (completed s.taken)).map Message.bytes
  complete : s.Quiet → s.parsed = msgs.map Message.bytes

/-! ## The condition -/

/-- `pserial_task` has cleared `r.valid` and not yet the rest. -/
def TaskPc.clearing : TaskPc → Bool
  | .clearLen _ | .clearSeq _ => true
  | _ => false

/-- The receive task goes on after its wait only when `r` is cleared as a whole, what it copies fits
into the room it computed before the wait, and its copy for the queue finds memory. -/
def InOrder (s : State) : Action → Prop
  | .rx malloc =>
    match s.rx with
    | .lenTest .. => s.task.clearing = false
    | .copying f rem => f.payload.length ≤ rem
    | .readying _ => malloc = true
    | _ => True
  | .task => True

/-! ## The invariant -/

/-- The fragment in the hands of the receive task. -/
def RxPc.hand : RxPc → List Frag
  | .idle => []
  | .waiting f _ | .lenTest f _ | .setSeq f _ | .seqTest f _ | .copying f _ | .counting f _
  | .counted f _ | .flagTest f | .completing f | .readying f | .sending f _ => [f]

def State.upcoming (s : State) : List Frag := s.rx.hand ++ s.input

/-- The buffer is filled with `b`. -/
def Holds (r : RxData) (b : List UInt8) : Prop := r.len = b.length ∧ r.data.take b.length = b

/-- The buffer is the receive task's, between two fragments. -/
structure Open (a : Assembly UInt16 UInt8) (r : RxData) : Prop where
  valid : r.valid = false
  part : Holds r a.part
  key : a.part ≠ [] → a.key = some r.curSeqNo

/-- The buffer is the receive task's: what is in it at each of its steps. -/
def RxOk (a : Assembly UInt16 UInt8) : RxPc → RxData → Prop
  | .idle, r | .waiting .., r | .lenTest .., r => Open a r
  | .setSeq .., r => r.valid = false ∧ Holds r a.part
  | .seqTest f _, r | .copying f _, r => r.valid = false ∧ Holds r a.part ∧ f.key = r.curSeqNo
  | .counting f rem, r =>
    r.valid = false ∧ f.key = r.curSeqNo ∧ r.len = a.part.length ∧ f.payload.length ≤ rem ∧
      r.data.take (a.part ++ f.payload).length = a.part ++ f.payload
  | .counted f len, r =>
    r.valid = false ∧ f.key = r.curSeqNo ∧ len = (a.part ++ f.payload).length ∧
      r.data.take (a.part ++ f.payload).length = a.part ++ f.payload
  | .flagTest f, r => r.valid = false ∧ f.key = r.curSeqNo ∧ Holds r (a.part ++ f.payload)
  | .completing f, r => f.more = false ∧ Holds r (a.part ++ f.payload)
  | .readying f, r => f.more = false ∧ r.valid = true ∧ Holds r (a.part ++ f.payload)
  | .sending f arg, r =>
    f.more = false ∧ r.valid = true ∧ Holds r (a.part ++ f.payload) ∧ arg = a.part ++ f.payload

/-- `pserial_task` is not concerned with the buffer. -/
def TaskPc.Free : TaskPc → Prop
  | .receiving => True
  | .parsing b => b ≠ []
  | _ => False

/-- The buffer is `pserial_task`'s: it holds the message `b` until it is cleared. -/
inductive Lent (b : List UInt8) (r : RxData) : TaskPc → List (List UInt8) → Prop
  | queued {task} (hfree : task.Free) (hvalid : r.valid = true) (hr : Holds r b) : Lent b r task [b]
  | gotArg (hvalid : r.valid = true) (hr : Holds r b) : Lent b r (.gotArg b) []
  | gotLen (hvalid : r.valid = true) (hr : Holds r b) : Lent b r (.gotLen b b.length) []
  | reading (hvalid : r.valid = true) (hr : Holds r b) : Lent b r (.reading b b.length) []
  | clearValid (hvalid : r.valid = true) : Lent b r (.clearValid b) []
  | clearLen (hvalid : r.valid = false) : Lent b r (.clearLen b) []
  | clearSeq (hvalid : r.valid = false) (hlen : r.len = 0) : Lent b r (.clearSeq b) []

theorem Lent.clearing {b : List UInt8} {r : RxData} {task : TaskPc} {queue : List (List UInt8)}
    (h : Lent b r task queue) (hvalid : r.valid = false) : task.clearing = true := by
  cases h with
  | clearLen | clearSeq => rfl
  | queued _ hv => exact absurd (hvalid.symm.trans hv) Bool.false_ne_true
  | _ hv => exact absurd (hvalid.symm.trans hv) Bool.false_ne_true

theorem Lent.queue_nil {b : List UInt8} {r : RxData} {task : TaskPc} {queue : List (List UInt8)}
    (h : Lent b r task queue) (hfree : ¬task.Free) : queue = [] := by
  cases h with
  | queued hf => exact absurd hf hfree
  | _ => rfl

theorem Lent.queue_eq {b : List UInt8} {r : RxData} {task : TaskPc} {queue : List (List UInt8)}
    (h : Lent b r task queue) (hfree : task.Free) :
    queue = [b] ∧ r.valid = true ∧ Holds r b := by
  cases h with
  | queued _ hvalid hr => exact ⟨rfl, hvalid, hr⟩
  | _ => exact absurd hfree fun hf => hf

/-- The receive task keeps away from a buffer that is not its own. -/
def RxPc.Rests : RxPc → RxData → Prop
  | .idle, _ | .waiting .., _ => True
  | .lenTest .., r => r.valid = false
  | _, _ => False

/-- Whose the buffer is. -/
inductive Owner (a : Assembly UInt16 UInt8) (s : State) : Prop
  | rx (hqueue : s.queue = []) (htask : s.task.Free) (hrx : RxOk a s.rx s.r)
  | task {b : List UInt8} (hlent : Lent b s.r s.task s.queue) (hrx : s.rx.Rests s.r)
  (hpart : a.part = [])
    (hne : b ≠ [])

/-- **The invariant** of the stream `fs`. -/
structure Inv (fs : List Frag) (s : State) : Prop where
  stream : s.taken ++ s.upcoming = fs
  fitting : Fitting rxDataSize (assemble s.taken) s.upcoming
  size : s.r.data.length = rxDataSize
  account : s.parsed ++ s.task.inHand ++ s.queue = (assemble s.taken).done
  owner : Owner (assemble s.taken) s

theorem inv_start {fs : List Frag} (h : Fitting rxDataSize {} fs) : Inv fs { input := fs } where
  stream := rfl
  fitting := h
  size := List.length_replicate
  account := rfl
  owner := .rx rfl trivial ⟨rfl, ⟨rfl, rfl⟩, fun hne => absurd rfl hne⟩

/-! ## The receive task -/

namespace Inv

variable {fs : List Frag} {s : State} {f : Frag}

/-- The receive task goes on with its fragment. -/
theorem rxMove (h : Inv fs s) {pc : RxPc} {r : RxData} (hhand : pc.hand = s.rx.hand)
    (hsize : r.data.length = rxDataSize)
    (howner : Owner (assemble s.taken) ((s.setData r).setRx pc)) : Inv fs
    ((s.setData r).setRx pc) := by
  have hup : ((s.setData r).setRx pc).upcoming = s.upcoming := congrArg (· ++ s.input) hhand
  refine ⟨?_, ?_, hsize, h.account, howner⟩
  · rw [hup]
    exact h.stream
  · rw [hup]
    exact h.fitting

/-- From the first test of `r.len` on the buffer is the receive task's. -/
theorem free_of_hand {pc : RxPc} (h : Inv fs s) (hrx : s.rx = pc) (hrests : ¬pc.Rests s.r) :
    s.queue = [] ∧ s.task.Free ∧ RxOk (assemble s.taken) pc s.r := by
  subst hrx
  cases h.owner with
  | rx hqueue htask hrx => exact ⟨hqueue, htask, hrx⟩
  | task _ hrx => exact absurd hrx hrests

/-- What may be relied on for the fragment in hand. -/
theorem head (h : Inv fs s) (hhand : s.rx.hand = [f]) :
    (∀ k ∈ (assemble s.taken).key, f.key = k) ∧
      ((assemble s.taken).part ++ f.payload).length ≤ rxDataSize ∧
      (f.more = false → (assemble s.taken).part ++ f.payload ≠ []) ∧
      Fitting rxDataSize ((assemble s.taken).add f) s.input := by
  have hfit := h.fitting
  rw [State.upcoming, hhand] at hfit
  exact hfit

end Inv

/-- The copy behind the part makes it longer. -/
theorem take_poke {off : Nat} {bs buf buf' part : List UInt8} (hlen : off = part.length)
    (htake : buf.take part.length = part) (h : poke off bs buf = some buf') :
    buf'.take (part ++ bs).length = part ++ bs := by
  obtain ⟨-, rfl⟩ := poke_inv h
  subst hlen
  rw [htake]
  exact List.take_left' rfl

/-- Stream and bound once the fragment in hand is done with. -/
theorem Inv.finish_stream {fs : List Frag} {s : State} {f : Frag} (h : Inv fs s)
    (hhand : s.rx.hand = [f]) :
    (s.taken ++ [f]) ++ s.input = fs ∧ Fitting rxDataSize (assemble (s.taken ++ [f])) s.input := by
  constructor
  · have hstream := h.stream
    rw [State.upcoming, hhand] at hstream
    rw [List.append_assoc]
    exact hstream
  · rw [assemble_snoc]
    exact (h.head hhand).2.2.2

/-- A fragment that more follow leaves a longer part. -/
theorem Inv.finish_more {fs : List Frag} {s : State} {f : Frag} (h : Inv fs s)
    (hrx : s.rx = .flagTest f)
    (hmore : f.more = true) : Inv fs (s.finish f) := by
  obtain ⟨hqueue, htask, hvalid, hkey, hr⟩ := h.free_of_hand hrx fun hno => hno
  obtain ⟨hstream, hfit⟩ := h.finish_stream (congrArg RxPc.hand hrx)
  have hadd : assemble (s.taken ++ [f]) = { assemble s.taken with
      part := (assemble s.taken).part ++ f.payload, key := some f.key } := by
    rw [assemble_snoc, Assembly.add_more hmore]
  have hdone := congrArg Assembly.done hadd
  have hpart := congrArg Assembly.part hadd
  have hkeys := congrArg Assembly.key hadd
  refine ⟨hstream, hfit, h.size, h.account.trans hdone.symm,
    .rx hqueue htask ⟨hvalid, ?_, fun _ => ?_⟩⟩
  · dsimp only [State.finish] at hpart ⊢
    rw [hpart]
    exact hr
  · dsimp only [State.finish] at hkeys ⊢
    rw [hkeys, hkey]

/-- The last fragment of a message hands the buffer over. -/
theorem Inv.finish_last {fs : List Frag} {s : State} {f : Frag} {arg : List UInt8} (h : Inv fs s)
    (hrx : s.rx = .sending f arg) : Inv fs ({ s with queue := s.queue ++ [arg] }.finish f) := by
  obtain ⟨hqueue, htask, hlast, hvalid, hr, harg⟩ := h.free_of_hand hrx fun hno => hno
  have hhand : s.rx.hand = [f] := congrArg RxPc.hand hrx
  obtain ⟨hstream, hfit⟩ := h.finish_stream hhand
  have hadd : assemble (s.taken ++ [f]) =
      { done := (assemble s.taken).done ++ [(assemble s.taken).part ++ f.payload] } := by
    rw [assemble_snoc, Assembly.add_last hlast]
  have hdone := congrArg Assembly.done hadd
  have hpart := congrArg Assembly.part hadd
  have hqueued : s.queue ++ [arg] = [(assemble s.taken).part ++ f.payload] := by
    rw [hqueue, harg, List.nil_append]
  refine ⟨hstream, hfit, h.size, ?_, ?_⟩
  · have haccount := h.account
    rw [hqueue, List.append_nil] at haccount
    dsimp only [State.finish] at hdone ⊢
    rw [hdone, ← haccount, hqueued]
  · have hne := (h.head hhand).2.2.1 hlast
    refine .task (b := (assemble s.taken).part ++ f.payload) ?_ trivial hpart hne
    dsimp only [State.finish]
    rw [hqueued]
    exact .queued htask hvalid hr

/-- **One step of the receive task** keeps the invariant. -/
theorem inv_rx {fs : List Frag} {s s' : State} {malloc : Bool} (h : Inv fs s)
    (hguard : InOrder s (.rx malloc)) (hs : rxStep malloc s = some s') : Inv fs s' := by
  unfold rxStep at hs
  cases hrx : s.rx with
  | idle =>
    simp only [hrx] at hs
    split at hs
    · cases hs
    · rename_i f rest hinput
      cases hs
      have hup : s.upcoming = f :: rest := by rw [State.upcoming, hrx, hinput]; rfl
      refine ⟨?_, ?_, h.size, h.account, ?_⟩
      · have hstream := h.stream
        rwa [hup] at hstream
      · have hfit := h.fitting
        rwa [hup] at hfit
      · cases h.owner with
        | rx hqueue htask hok =>
          rw [hrx] at hok
          exact .rx hqueue htask hok
        | task hlent _ hpart hne => exact .task hlent trivial hpart hne
  | waiting f rem =>
    simp only [hrx] at hs
    cases hs
    split
    · exact h
    · rename_i hvalid
      have hfree : s.r.valid = false := Bool.eq_false_iff.2 hvalid
      refine h.rxMove (r := s.r) (by rw [hrx]; rfl) h.size ?_
      cases h.owner with
      | rx hqueue htask hok =>
        rw [hrx] at hok
        exact .rx hqueue htask hok
      | task hlent _ hpart hne => exact .task hlent hfree hpart hne
  | lenTest f rem =>
    -- the guard excludes a buffer that is half cleared
    simp only [hrx] at hs
    simp only [InOrder, hrx] at hguard
    cases hs
    cases h.owner with
    | task hlent hrests =>
      rw [hrx] at hrests
      have hvalid : s.r.valid = false := hrests
      exact absurd (hguard.symm.trans (hlent.clearing hvalid)) Bool.false_ne_true
    | rx hqueue htask hok =>
      rw [hrx] at hok
      obtain ⟨hvalid, hpart, hkey⟩ := hok
      have hhand : s.rx.hand = [f] := by rw [hrx]; rfl
      split
      · exact h.rxMove (r := s.r) hhand.symm h.size (.rx hqueue htask ⟨hvalid, hpart⟩)
      · rename_i hlen
        have hne : (assemble s.taken).part ≠ [] := by
          intro hnil
          rw [hpart.1, hnil] at hlen
          exact hlen rfl
        have heq : f.key = s.r.curSeqNo := (h.head hhand).1 _ (hkey hne)
        exact h.rxMove (r := s.r) hhand.symm h.size (.rx hqueue htask ⟨hvalid, hpart, heq⟩)
  | setSeq f rem =>
    simp only [hrx] at hs
    cases hs
    obtain ⟨hqueue, htask, hvalid, hpart⟩ := h.free_of_hand hrx fun hno => hno
    exact h.rxMove (by rw [hrx]; rfl) h.size (.rx hqueue htask ⟨hvalid, hpart, rfl⟩)
  | seqTest f rem =>
    simp only [hrx] at hs
    cases hs
    obtain ⟨hqueue, htask, hvalid, hpart, hkey⟩ := h.free_of_hand hrx fun hno => hno
    rw [if_pos hkey]
    exact h.rxMove (r := s.r) (by rw [hrx]; rfl) h.size (.rx hqueue htask ⟨hvalid, hpart, hkey⟩)
  | copying f rem =>
    -- the guard lets the whole payload be copied
    simp only [hrx] at hs
    simp only [InOrder, hrx] at hguard
    obtain ⟨data, hpoke, rfl⟩ := Option.map_eq_some_iff.1 hs
    obtain ⟨hqueue, htask, hvalid, hpart, hkey⟩ := h.free_of_hand hrx fun hno => hno
    have hall : f.payload.take (min f.payload.length rem) = f.payload := by
      rw [Nat.min_eq_left hguard, List.take_length]
    rw [hall] at hpoke
    have hsize := (length_poke hpoke).trans h.size
    have hcopied := take_poke hpart.1 hpart.2 hpoke
    exact h.rxMove (r := { s.r with data := data }) (by rw [hrx]; rfl) hsize
      (.rx hqueue htask ⟨hvalid, hkey, hpart.1, hguard, hcopied⟩)
  | counting f rem =>
    simp only [hrx] at hs
    cases hs
    obtain ⟨hqueue, htask, hvalid, hkey, hlen, hrem, hcopied⟩ := h.free_of_hand hrx fun hno => hno
    have hnew : s.r.len + min f.payload.length rem =
      ((assemble s.taken).part ++ f.payload).length := by
      rw [Nat.min_eq_left hrem, hlen, List.length_append]
    exact h.rxMove (r := s.r) (by rw [hrx]; rfl) h.size
      (.rx hqueue htask ⟨hvalid, hkey, hnew, hcopied⟩)
  | counted f len =>
    simp only [hrx] at hs
    cases hs
    obtain ⟨hqueue, htask, hvalid, hkey, hlen, hcopied⟩ := h.free_of_hand hrx fun hno => hno
    exact h.rxMove (by rw [hrx]; rfl) h.size (.rx hqueue htask ⟨hvalid, hkey, hlen, hcopied⟩)
  | flagTest f =>
    simp only [hrx] at hs
    cases hs
    obtain ⟨hqueue, htask, -, -, hr⟩ := h.free_of_hand hrx fun hno => hno
    split
    · exact h.finish_more hrx ‹_›
    · rename_i hlast
      have hlast' : f.more = false := Bool.eq_false_iff.2 hlast
      exact h.rxMove (r := s.r) (by rw [hrx]; rfl) h.size (.rx hqueue htask ⟨hlast', hr⟩)
  | completing f =>
    simp only [hrx] at hs
    cases hs
    obtain ⟨hqueue, htask, hlast, hr⟩ := h.free_of_hand hrx fun hno => hno
    exact h.rxMove (by rw [hrx]; rfl) h.size (.rx hqueue htask ⟨hlast, rfl, hr⟩)
  | readying f =>
    -- the guard grants the memory
    simp only [hrx] at hs
    simp only [InOrder, hrx] at hguard
    obtain ⟨hqueue, htask, hlast, hvalid, hr⟩ := h.free_of_hand hrx fun hno => hno
    rw [if_neg fun hno => Bool.false_ne_true (hno.2.symm.trans hguard)] at hs
    cases hs
    have harg : s.r.data.take s.r.len = (assemble s.taken).part ++ f.payload := by
      rw [hr.1]
      exact hr.2
    exact h.rxMove (r := s.r) (by rw [hrx]; rfl) h.size (.rx hqueue htask ⟨hlast, hvalid, hr, harg⟩)
  | sending f arg =>
    simp only [hrx] at hs
    cases hs
    exact h.finish_last hrx

/-! ## The parser's task -/

/-- `pserial_task` goes on with what it has in hand. -/
theorem Inv.taskMove {fs : List Frag} {s : State} (h : Inv fs s) {pc : TaskPc} {r : RxData}
    (hhand : pc.inHand = s.task.inHand) (hdata : r.data = s.r.data)
    (howner : Owner (assemble s.taken) ((s.setData r).setTask pc)) : Inv fs
    ((s.setData r).setTask pc) := by
  refine ⟨h.stream, h.fitting, ?_, ?_, howner⟩
  · exact (congrArg List.length hdata).trans h.size
  · have hsame : ((s.setData r).setTask pc).task.inHand = s.task.inHand := hhand
    rw [hsame]
    exact h.account

/-- While `pserial_task` works on an entry, the buffer is its own. -/
theorem Inv.lent {fs : List Frag} {s : State} {pc : TaskPc} (h : Inv fs s) (htask : s.task = pc)
    (hfree : ¬pc.Free) :
    ∃ b, s.queue = [] ∧ Lent b s.r pc [] ∧ s.rx.Rests s.r ∧ (assemble s.taken).part = [] ∧
      b ≠ [] := by
  subst htask
  cases h.owner with
  | rx _ htask => exact absurd htask hfree
  | @task b hlent hrx hpart hne =>
    have hqueue := hlent.queue_nil hfree
    exact ⟨b, hqueue, hqueue ▸ hlent, hrx, hpart, hne⟩

/-- And stays so. -/
theorem Inv.lend {fs : List Frag} {s : State} (h : Inv fs s) {b : List UInt8} {pc : TaskPc}
    {r : RxData}
    (hhand : pc.inHand = s.task.inHand) (hdata : r.data = s.r.data) (hqueue : s.queue = [])
    (hlent : Lent b r pc []) (hrx : s.rx.Rests r) (hpart : (assemble s.taken).part = [])
    (hne : b ≠ []) :
    Inv fs ((s.setData r).setTask pc) := by
  refine h.taskMove hhand hdata (.task (b := b) ?_ hrx hpart hne)
  dsimp only [State.setTask, State.setData]
  rwa [hqueue]

theorem RxPc.Rests.mono {pc : RxPc} {r r' : RxData} (h : pc.Rests r) (hvalid : r'.valid = false) :
    pc.Rests r' := by
  cases pc with
  | lenTest => exact hvalid
  | _ => exact h

/-- At rest, the receive task finds the cleared buffer as it expects. -/
theorem RxPc.Rests.ok {pc : RxPc} {r r' : RxData} {a : Assembly UInt16 UInt8} (h : pc.Rests r)
    (hpart : a.part = []) (hvalid : r'.valid = false) (hlen : r'.len = 0) : RxOk a pc r' := by
  have hopen : Open a r' := by
    refine ⟨hvalid, ⟨?_, ?_⟩, fun hne => absurd hpart hne⟩
    · rw [hlen, hpart]
      rfl
    · rw [hpart]
      rfl
  cases pc with
  | idle | waiting | lenTest => exact hopen
  | _ => exact absurd h fun hno => hno

/-- **One step of `pserial_task`** keeps the invariant. -/
theorem inv_task {fs : List Frag} {s s' : State} (h : Inv fs s) (hs : taskStep s = some s') :
    Inv fs s' := by
  unfold taskStep at hs
  cases htask : s.task with
  | receiving =>
    simp only [htask] at hs
    split at hs
    · cases hs
    · rename_i arg rest hqueue
      cases hs
      have howner := h.owner
      have haccount := h.account
      rw [htask, hqueue] at haccount
      cases howner with
      | rx hempty => exact absurd (hqueue.symm.trans hempty) (List.cons_ne_nil _ _)
      | task hlent hrx hpart hne =>
        rw [htask, hqueue] at hlent
        cases hlent with
        | queued _ hvalid hr =>
          refine ⟨h.stream, h.fitting, h.size, ?_, .task (.gotArg hvalid hr) hrx hpart hne⟩
          rw [← haccount]
          simp [TaskPc.inHand]
  | gotArg arg =>
    simp only [htask] at hs
    cases hs
    obtain ⟨b, hqueue, hlent, hrx, hpart, hne⟩ := h.lent htask fun hf => hf
    cases hlent with
    | gotArg hvalid hr =>
      have hlen : min arg.length s.r.len = arg.length := by rw [hr.1, Nat.min_self]
      rw [hlen]
      exact h.lend (r := s.r) (by rw [htask]; rfl) rfl hqueue (.gotLen hvalid hr) hrx hpart hne
  | gotLen arg len =>
    simp only [htask] at hs
    cases hs
    obtain ⟨b, hqueue, hlent, hrx, hpart, hne⟩ := h.lent htask fun hf => hf
    cases hlent with
    | gotLen hvalid hr =>
      rw [if_pos hvalid]
      exact h.lend (r := s.r) (by rw [htask]; rfl) rfl hqueue (.reading hvalid hr) hrx hpart hne
  | reading arg len =>
    simp only [htask] at hs
    cases hs
    obtain ⟨b, hqueue, hlent, hrx, hpart, hne⟩ := h.lent htask fun hf => hf
    cases hlent with
    | reading hvalid hr =>
      rw [hr.2]
      exact h.lend (r := s.r) (by rw [htask]; rfl) rfl hqueue (.clearValid hvalid) hrx hpart hne
  | clearValid bytes =>
    -- from here on the receive task may go past its wait
    simp only [htask] at hs
    cases hs
    obtain ⟨b, hqueue, hlent, hrx, hpart, hne⟩ := h.lent htask fun hf => hf
    cases hlent with
    | clearValid =>
      exact h.lend (by rw [htask]; rfl) rfl hqueue (.clearLen rfl) (hrx.mono rfl) hpart hne
  | clearLen bytes =>
    simp only [htask] at hs
    cases hs
    obtain ⟨b, hqueue, hlent, hrx, hpart, hne⟩ := h.lent htask fun hf => hf
    cases hlent with
    | clearLen hvalid =>
      exact h.lend (by rw [htask]; rfl) rfl hqueue (.clearSeq hvalid rfl)
        (hrx.mono hvalid) hpart hne
  | clearSeq bytes =>
    -- the buffer goes back to the receive task
    simp only [htask] at hs
    cases hs
    obtain ⟨b, hqueue, hlent, hrx, hpart, hne⟩ := h.lent htask fun hf => hf
    cases hlent with
    | clearSeq hvalid hlen =>
      exact h.taskMove (by rw [htask]; rfl) rfl (.rx hqueue hne (hrx.ok hpart hvalid hlen))
  | parsing bytes =>
    simp only [htask] at hs
    cases hs
    have howner := h.owner
    have haccount := h.account
    rw [htask] at haccount
    have hfree : s.task.Free := by
      by_contra hno
      obtain ⟨b, -, hlent, -⟩ := h.lent htask (by rwa [htask] at hno)
      cases hlent
    have hne : bytes ≠ [] := by rwa [htask] at hfree
    rw [if_neg hne]
    refine ⟨h.stream, h.fitting, h.size, ?_, ?_⟩
    · refine Eq.trans ?_ haccount
      simp [State.setTask, TaskPc.inHand]
    · cases howner with
      | rx hqueue _ hok => exact .rx hqueue trivial hok
      | task hlent hrx hpart hb =>
        obtain ⟨hqueue, hvalid, hr⟩ := hlent.queue_eq hfree
        refine .task ?_ hrx hpart hb
        dsimp only [State.setTask]
        rw [hqueue]
        exact .queued trivial hvalid hr

theorem inv_step {fs : List Frag} {s s' : State} {a : Action} (h : Inv fs s) (hguard : InOrder s a)
    (hs : step s a = some s') : Inv fs s' := by
  cases a with
  | rx malloc => exact inv_rx h hguard hs
  | task => exact inv_task h hs

/-! ## Runs -/

theorem inv_of_reach {msgs : List Message} {s : State} (h : Reach step InOrder (start msgs) s) :
    Inv (serialStream msgs) s := by
  have hfit : Fitting rxDataSize {} (serialStream msgs) := by
    refine fitting_stream (fun m hm => ?_) rfl rfl
    obtain ⟨m', -, rfl⟩ := List.mem_map.1 hm
    exact ⟨List.ne_nil_of_length_pos m'.pos, m'.fits⟩
  exact h.invariant (inv_start hfit) fun hs hguard hstep => inv_step hs hguard hstep

theorem assemble_serialStream (msgs : List Message) :
    (assemble (serialStream msgs)).done = msgs.map Message.bytes := by
  have hne : ∀ m ∈ msgs.map fun m => (m.seq, m.fragments), m.2 ≠ [] := by
    intro m hm
    obtain ⟨m', -, rfl⟩ := List.mem_map.1 hm
    intro hnil
    have hempty : m'.fragments = [] := hnil
    have hpos := m'.pos
    rw [hempty] at hpos
    cases hpos
  rw [serialStream, assemble_stream hne]
  exact List.map_map

/-- **Reassembly is faithful** in every state of a run whose steps are all in order. -/
theorem reassembly_faithful {msgs : List Message} {s : State}
    (h : Reach step InOrder (start msgs) s) : Faithful msgs s := by
  have hinv := inv_of_reach h
  have hdone := (done_eq_take hinv.stream).trans (by rw [assemble_serialStream, ← List.map_take])
  refine ⟨hinv.account.trans hdone, fun hquiet => ?_⟩
  obtain ⟨hrx, hinput, htask, hqueue⟩ := hquiet
  have hall : s.taken = serialStream msgs := by
    have hstream := hinv.stream
    rwa [State.upcoming, hrx, hinput, RxPc.hand, List.append_nil, List.append_nil] at hstream
  have haccount := hinv.account
  rwa [htask, hqueue, hall, assemble_serialStream, TaskPc.inHand, List.append_nil, List.append_nil]
    at haccount

/-! ## Runs in and out of order -/

/-- A message in one fragment. -/
def whole (seq : UInt16) (p : List UInt8) (pos : 1 ≤ p.length)
    (fits : p.length ≤ rxDataSize) : Message :=
  { seq := seq, fragments := [p], pos := by simpa using pos, fits := by simpa using fits }

/-- From the arrival of the first fragment of a message to the queue. -/
def receiveRun : List Action := List.replicate 12 (.rx true)

/-- From the queue to the parser. -/
def parseRun : List Action := List.replicate 8 .task

/-- The test behind `reassembly_faithful_two`. -/
def inOrder (s : State) : Action → Bool
  | .rx malloc =>
    match s.rx with
    | .lenTest .. => !s.task.clearing
    | .copying f rem => f.payload.length ≤ rem
    | .readying _ => malloc
    | _ => true
  | .task => true

theorem inOrder_of_test (s : State) (a : Action) (h : inOrder s a = true) : InOrder s a := by
  cases a with
  | task => trivial
  | rx malloc =>
    cases hrx : s.rx with
    | lenTest f rem =>
      rw [InOrder, hrx]
      simpa [inOrder, hrx] using h
    | copying f rem =>
      rw [InOrder, hrx]
      simpa [inOrder, hrx] using h
    | readying f =>
      rw [InOrder, hrx]
      simpa [inOrder, hrx] using h
    | _ =>
      rw [InOrder, hrx]
      trivial

def twoMessages : List Message :=
  [whole 1 [1] (by decide) (by decide), whole 2 [2, 3] (by decide) (by decide)]

/-- One message after the other. -/
theorem reassembly_faithful_two :
    ∃ s, run (guarded inOrder step) (start twoMessages)
    (receiveRun ++ parseRun ++ receiveRun ++ parseRun) =
        some s ∧ s.parsed = [[1], [2, 3]] ∧ Faithful twoMessages s := by
  have hrun : (run (guarded inOrder step) (start twoMessages)
      (receiveRun ++ parseRun ++ receiveRun ++ parseRun)).map State.parsed =
        some [[1], [2, 3]] := by
    decide +kernel
  obtain ⟨s, hs, hparsed⟩ := Option.map_eq_some_iff.1 hrun
  exact ⟨s, hs, hparsed, reassembly_faithful (reach_of_guarded_run inOrder_of_test hs)⟩

instance (s : State) : Decidable s.Quiet := inferInstanceAs (Decidable (_ ∧ _ ∧ _ ∧ _))

/-- The receive task looks at `r.len` after `pserial_task` has cleared `r.valid` and before it
clears `r.len`: the second message is taken for a mismatch and dropped. -/
theorem reassembly_loses_message :
    ∃ s, run step (start twoMessages)
    (receiveRun ++ List.replicate 5 .task ++ List.replicate 7 (.rx true) ++
        List.replicate 3 .task ++ parseRun) = some s ∧ s.Quiet ∧ s.parsed = [[1]] ∧
      ¬Faithful twoMessages s := by
  have hrun : (run step (start twoMessages) (receiveRun ++ List.replicate 5 .task ++
      List.replicate 7 (.rx true) ++ List.replicate 3 .task ++ parseRun)).map
        (fun s => (decide s.Quiet, s.parsed)) = some (true, [[1]]) := by
    decide +kernel
  obtain ⟨s, hs, hproj⟩ := Option.map_eq_some_iff.1 hrun
  obtain ⟨hquiet, hparsed⟩ := Prod.mk.inj hproj
  have hq := of_decide_eq_true hquiet
  refine ⟨s, hs, hq, hparsed, fun hfaithful => ?_⟩
  have hall := hfaithful.complete hq
  rw [hparsed] at hall
  exact absurd hall (by decide)

end EspHostedOpen.Reassembly
