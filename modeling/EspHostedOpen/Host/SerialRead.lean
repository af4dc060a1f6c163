import EspHostedOpen.Host.SerialWrite

/-!
# What the host receives from the RPC task (`serial_ll_if.c`, `serial_drv.c`, `serial_if.c`)

`serial_ll_rx_handler` puts a message together in the static `r` and queues a copy of it;
`serial_drv_read` takes the copies out of the queue and parses them. On its way out of an error the
handler frees `r.data` and leaves the pointer as it is: `Tidy` names the calls after which it does
not point to freed memory.
-/

namespace EspHostedOpen.HostSerialRx

open ByteCodec Fragments Transition Records RxFrames HostUart Tlv HostSerialTx

/-- What `r.data` points to. -/
inductive Data
  | null
  | live (bytes : List UInt8)
  | dangling
  deriving DecidableEq, Repr

/-- `struct rx_data`. -/
structure RxData where
  len : Nat := 0
  data : Data := .null
  deriving DecidableEq, Repr

/-- What is queued for `serial_ll_read`. -/
structure Msg where
  payload : List UInt8
  payloadLen : UInt16
  deriving DecidableEq, Repr

/-- The static `r` and the queue; `lost` counts the blocks that `r.data` no longer points to, and a
use of freed memory is a `fault`. -/
structure State where
  r : RxData := {}
  queue : List Msg := []
  lost : Nat := 0
  fault : Bool := false
  deriving DecidableEq, Repr

structure Env where
  active : Bool  -- the interface has a handle, and its state is `ACTIVE`
  alloc : Bool                                   -- for `r.data`
  malloc : Bool                                  -- for the copy
  queue : Bool                                   -- `_h_queue_item`
  deriving DecidableEq, Repr

/-! ## Receiving -/

/-- `serial_buff_cleanup`. -/
def cleanup (s : State) : State :=
  match s.r.data with
  | .null => { s with r := ⟨0, .null⟩ }
  | .live _ => { s with r := ⟨0, .dangling⟩ }
  | .dangling => { s with r := ⟨0, .dangling⟩, fault := true }

/-- `SERIAL_ALLOC_REALLOC_RDATA`; `false` where there is no memory. -/
def allocRealloc (alloc : Bool) (s : State) : Bool × State :=
  match s.r.data with
  | .null => (alloc, { s with r := ⟨s.r.len, if alloc then .live [] else .null⟩ })
  | .live _ =>
    if alloc then (true, s)
    else (false, { s with r := ⟨s.r.len, .null⟩, lost := s.lost + 1 })
  | .dangling =>
    (alloc, { s with r := ⟨s.r.len, if alloc then .live [] else .null⟩, fault := true })

/-- What is in `r.data`. -/
def RxData.bytes (r : RxData) : List UInt8 :=
  match r.data with
  | .live bytes => bytes
  | _ => []

/-- The payload behind what is there. -/
def RxData.append (r : RxData) (payload : List UInt8) : RxData :=
  ⟨r.len + payload.length, .live (r.bytes ++ payload)⟩

/-- `serial_ll_rx_handler`, with the callback that `rpc_platform_init` has set. -/
def serialLlRxHandler (env : Env) (h : Item) (s : State) : Int × State :=
  if h.payload = [] then (failure, cleanup s)
  else if env.active = false then (failure, cleanup s)
  else
    let (ok, s) := allocRealloc env.alloc s
    if ok = false then (failure, cleanup s)
    else
      let r := s.r.append h.payload
      if h.flag &&& moreFragment ≠ 0 then (success, { s with r := r })
      else if env.malloc = false then (failure, cleanup { s with r := r })
      else
        -- `payload_len` is an `uint16_t`
        let msg : Msg := ⟨r.bytes, r.len.toUInt16⟩
        if env.queue = false then (failure, cleanup { s with r := {} })
        else (success, { s with r := {}, queue := s.queue ++ [msg] })

abbrev Received := Env × Item

def step (s : State) (c : Received) : Option State := some (serialLlRxHandler c.1 c.2 s).2

/-! ## Reading -/

/-- `parse_tlv`, of the first bytes of a message. -/
def parseTlv (data : List UInt8) : Option Nat :=
  if data.getD 0 0 = tlvEpname ∧ leNat (slice 1 2 data) = rpcEpNameRsp.length ∧
      (slice 3 6 data = rpcEpNameRsp ∨ slice 3 6 data = rpcEpNameEvt) ∧ data.getD 9 0 = tlvData then
    some (leNat (slice 10 2 data))
  else none

/-- A message of the slave: an endpoint and data. -/
def composed (ep data : List UInt8) : List UInt8 := (epnameTlv ep).bytes ++ (dataTlv data).bytes

/-- The handler gets to its copy of the payload. -/
def Accepted (c : Received) : Prop := c.2.payload ≠ [] ∧ c.1.active = true ∧ c.1.alloc = true

instance (c : Received) : Decidable (Accepted c) := inferInstanceAs (Decidable (_ ∧ _ ∧ _))

/-- The fragment is not the last one. -/
def More (h : Item) : Prop := h.flag &&& moreFragment ≠ 0

instance (h : Item) : Decidable (More h) := inferInstanceAs (Decidable (_ ≠ _))

/-- `r.data` does not point to freed memory, and what it has pointed to is freed. -/
structure Sound (s : State) : Prop where
  noFault : s.fault = false
  kept : s.lost = 0
  pointed : s.r.data ≠ .dangling

/-- The handler does not give up while it has a part of a message. -/
def Tidy (s : State) (c : Received) : Prop :=
  (¬Accepted c → s.r.data = .null) ∧ (Accepted c → ¬More c.2 → c.1.malloc = true)

section Handler

variable {s : State} {c : Received}

/-- What `r` is where the payload has been added to it. -/
theorem handler_refused (h : ¬Accepted c) (hnull : s.r.data = .null) :
    (serialLlRxHandler c.1 c.2 s).2 = { s with r := {} } := by
  have hclean : cleanup s = { s with r := {} } := by rw [cleanup, hnull]
  unfold serialLlRxHandler
  by_cases hpayload : c.2.payload = []
  · rw [if_pos hpayload]
    exact hclean
  rw [if_neg hpayload]
  by_cases hactive : c.1.active = false
  · rw [if_pos hactive]
    exact hclean
  rw [if_neg hactive]
  have halloc : c.1.alloc = false :=
    eq_false_of_ne_true fun halloc => h ⟨hpayload, eq_true_of_ne_false hactive, halloc⟩
  rw [halloc, allocRealloc, hnull]
  rfl

/-- A call that is refused while a part is there lets go of it. -/
theorem handler_strands (h : ¬Accepted c) {bytes : List UInt8} (hlive : s.r.data = .live bytes) :
    ¬Sound (serialLlRxHandler c.1 c.2 s).2 := by
  have hclean : (cleanup s).r.data = .dangling := by rw [cleanup, hlive]
  unfold serialLlRxHandler
  by_cases hpayload : c.2.payload = []
  · rw [if_pos hpayload]
    exact fun hs => hs.pointed hclean
  rw [if_neg hpayload]
  by_cases hactive : c.1.active = false
  · rw [if_pos hactive]
    exact fun hs => hs.pointed hclean
  rw [if_neg hactive]
  have halloc : c.1.alloc = false :=
    eq_false_of_ne_true fun halloc => h ⟨hpayload, eq_true_of_ne_false hactive, halloc⟩
  rw [halloc, allocRealloc, hlive]
  exact fun hs => absurd hs.kept (Nat.succ_ne_zero s.lost)

/-- What a call does whose payload is added to the part. -/
theorem handler_accepted (h : Accepted c) (hpointed : s.r.data ≠ .dangling) :
    (serialLlRxHandler c.1 c.2 s).2 =
      if More c.2 then { s with r := s.r.append c.2.payload }
      else if c.1.malloc = false then { s with r := ⟨0, .dangling⟩ }
      else if c.1.queue = false then { s with r := {} }
      else { s with
        r := {}
        queue := s.queue ++
          [⟨s.r.bytes ++ c.2.payload, (s.r.append c.2.payload).len.toUInt16⟩] } := by
  obtain ⟨hpayload, hactive, halloc⟩ := h
  have happend : ∃ r, allocRealloc true s = (true, { s with r := r }) ∧
      r.append c.2.payload = s.r.append c.2.payload := by
    unfold allocRealloc
    cases hdata : s.r.data with
    | null => exact ⟨_, rfl, by simp [RxData.append, RxData.bytes, hdata]⟩
    | live bytes => exact ⟨s.r, rfl, rfl⟩
    | dangling => exact absurd hdata hpointed
  obtain ⟨r, hr, happend⟩ := happend
  unfold serialLlRxHandler
  rw [if_neg hpayload, if_neg (ne_false_of_eq_true hactive), halloc, hr]
  dsimp only
  rw [if_neg Bool.noConfusion, happend]
  by_cases hmore : More c.2
  · rw [if_pos hmore]
    exact congrArg Prod.snd (if_pos hmore)
  rw [if_neg hmore]
  refine (congrArg Prod.snd (if_neg hmore)).trans ?_
  by_cases hmalloc : c.1.malloc = false
  · rw [if_pos hmalloc, if_pos hmalloc]
    rfl
  rw [if_neg hmalloc, if_neg hmalloc]
  by_cases hqueue : c.1.queue = false
  · rw [if_pos hqueue, if_pos hqueue]
    rfl
  · rw [if_neg hqueue, if_neg hqueue]
    rfl

end Handler

/-! ## The refinement -/

/-- A fragment, as `Fragments` has it. -/
def fragment (h : Item) : Fragment UInt16 UInt8 := ⟨h.seqNum.toUInt16, h.payload, decide (More h)⟩

/-- What a call adds to the messages: nothing if it is refused, and where there is no room in the
queue the message is lost as a whole. -/
def add (a : Assembly UInt16 UInt8) (c : Received) : Assembly UInt16 UInt8 :=
  if ¬Accepted c then a
  else if More c.2 ∨ c.1.queue = true then a.add (fragment c.2)
  else { done := a.done }

/-- `r.data` for a part of a message. -/
def Data.ofPart : List UInt8 → Data
  | [] => .null
  | b :: bs => .live (b :: bs)

theorem Data.ofPart_live {part : List UInt8} (h : part ≠ []) : Data.ofPart part = .live part := by
  obtain ⟨b, bs, rfl⟩ := List.exists_cons_of_ne_nil h
  rfl

theorem Data.ofPart_null {part : List UInt8} : Data.ofPart part = .null ↔ part = [] := by
  cases part <;> simp [Data.ofPart]

/-- The state for what has been put together. -/
def ofAssembly (a : Assembly UInt16 UInt8) : State where
  r := ⟨a.part.length, .ofPart a.part⟩
  queue := a.done.map fun m => ⟨m, m.length.toUInt16⟩

theorem ofAssembly_bytes (a : Assembly UInt16 UInt8) : (ofAssembly a).r.bytes = a.part := by
  unfold ofAssembly RxData.bytes
  cases a.part <;> rfl

theorem ofAssembly_sound (a : Assembly UInt16 UInt8) : Sound (ofAssembly a) := by
  refine ⟨rfl, rfl, ?_⟩
  unfold ofAssembly
  cases a.part <;> exact nofun

theorem ofAssembly_append {a : Assembly UInt16 UInt8} {payload : List UInt8} (h : payload ≠ []) :
    (ofAssembly a).r.append payload =
      ⟨(a.part ++ payload).length, .ofPart (a.part ++ payload)⟩ := by
  have hne : a.part ++ payload ≠ [] := fun hnil => h (List.append_eq_nil_iff.1 hnil).2
  rw [RxData.append, ofAssembly_bytes, Data.ofPart_live hne, List.length_append]
  rfl

/-- A tidy call adds to what has been put together. -/
theorem handler_tidy {a : Assembly UInt16 UInt8} {c : Received} (h : Tidy (ofAssembly a) c) :
    (serialLlRxHandler c.1 c.2 (ofAssembly a)).2 = ofAssembly (add a c) := by
  by_cases haccepted : Accepted c
  · rw [handler_accepted haccepted (ofAssembly_sound a).pointed, add, if_neg (not_not.2 haccepted),
      ofAssembly_bytes, ofAssembly_append haccepted.1]
    by_cases hmore : More c.2
    · rw [if_pos hmore, if_pos (.inl hmore),
        Assembly.add_more (f := fragment c.2) (decide_eq_true hmore)]
      rfl
    · rw [if_neg hmore, if_neg (ne_false_of_eq_true (h.2 haccepted hmore))]
      by_cases hqueue : c.1.queue = true
      · rw [if_neg (ne_false_of_eq_true hqueue), if_pos (.inr hqueue),
          Assembly.add_last (f := fragment c.2) (decide_eq_false hmore), ofAssembly, ofAssembly,
            List.map_append]
        rfl
      · rw [if_pos (eq_false_of_ne_true hqueue), if_neg (not_or.2 ⟨hmore, hqueue⟩)]
        rfl
  · have hnull := h.1 haccepted
    have hpart : a.part = [] := Data.ofPart_null.1 hnull
    rw [handler_refused haccepted hnull, add, if_pos haccepted, ofAssembly, hpart]
    rfl

/-- A call that is not tidy. -/
theorem handler_untidy {s : State} {c : Received} (hsound : Sound s) (h : ¬Tidy s c) :
    ¬Sound (serialLlRxHandler c.1 c.2 s).2 := by
  by_cases haccepted : Accepted c
  · have hlast : ¬More c.2 ∧ c.1.malloc = false := by
      by_contra hcontra
      refine h ⟨fun h => absurd haccepted h, fun _ hmore => eq_true_of_ne_false fun hmalloc => ?_⟩
      exact hcontra ⟨hmore, hmalloc⟩
    rw [handler_accepted haccepted hsound.pointed, if_neg hlast.1, if_pos hlast.2]
    exact fun hs => hs.pointed rfl
  · cases hdata : s.r.data with
    | null => exact absurd ⟨fun _ => hdata, fun h => absurd h haccepted⟩ h
    | live bytes => exact handler_strands haccepted hdata
    | dangling => exact absurd hdata hsound.pointed

/-- The states of a run whose calls are all tidy. -/
theorem run_tidy {cs : List Received} (a : Assembly UInt16 UInt8)
    (h : AllSteps step Tidy (ofAssembly a) cs) :
    run step (ofAssembly a) cs = some (ofAssembly (cs.foldl add a)) := by
  induction cs generalizing a with
  | nil => rfl
  | cons c cs ih =>
    obtain ⟨hc, hrest⟩ := h
    have hstep : step (ofAssembly a) c = some (ofAssembly (add a c)) :=
      congrArg some (handler_tidy hc)
    rw [run, hstep, Option.bind_some]
    exact ih _ (hrest _ hstep)

/-- **When the receiver works**: `r.data` never points to freed memory and nothing it has pointed to
is lost, in any state of a run, if and only if no call gives up while a part of a message is there;
and then the messages queued are those that the calls complete, and what is in `r` is the part of
the next. -/
theorem serial_rx_sound_iff (cs : List Received) :
    (AllStates step Sound {} cs ↔ AllSteps step Tidy {} cs) ∧
      (AllSteps step Tidy {} cs → run step {} cs = some (ofAssembly (cs.foldl add {}))) := by
  have hstart : ({} : State) = ofAssembly {} := rfl
  rw [hstart]
  refine ⟨?_, run_tidy {}⟩
  refine allStates_iff_allSteps_of_invariant (J := fun s => ∃ a, s = ofAssembly a) ?_ ?_ ?_ ?_
    ⟨{}, rfl⟩
  · rintro s ⟨a, rfl⟩
    exact ofAssembly_sound a
  · rintro s s' c ⟨a, rfl⟩ hG hs
    cases hs
    exact ⟨add a c, handler_tidy hG⟩
  · rintro s s' c hs hs' ⟨⟩
    by_contra hG
    exact handler_untidy hs hG hs'
  · intro s c hs
    cases hs

end EspHostedOpen.HostSerialRx
