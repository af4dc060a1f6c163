import EspHostedOpen.Lib.Bytes
import EspHostedOpen.Lib.Fragments
import EspHostedOpen.Lib.Ownership
import EspHostedOpen.Proto.Messages

/-!
# Serial messages to the host (`esp_hosted_coprocessor.c`, `sdio_slave_api.c`)

`serial_write_data` cuts a message into fragments. With `BYPASS_TX_PRIORITY_Q`, as it is built, each
fragment goes through `process_tx_pkt` before the next is cut. What `process_tx_pkt` finds may
differ from one fragment to the next, so it is a function of the fragment's number.

The fragments point into the message; the last one carries its buffer, which `process_tx_pkt` frees.
-/

namespace EspHostedOpen.SerialTx

open ByteCodec Fragments

/-- `ETH_DATA_LEN`. -/
def ethDataLen : Nat := 1500

def moreFragment : UInt8 := 0x1
def flagWakeupPkt : UInt8 := 0x2

/-- `esp_hosted_if_type_t`. -/
inductive IfType
  | invalid | sta | ap | serial | hci | priv | test | eth
  deriving DecidableEq, Repr

/-- `interface_buffer_handle_t`, what is set of it here. `payload` is an offset into the message,
and `privBufferHandle` says whether the message's buffer is in `priv_buffer_handle` with `free`
beside it. -/
structure BufHandle where
  ifType : IfType
  seqNum : UInt16
  flag : UInt8
  payload : Nat
  payloadLen : UInt16
  privBufferHandle : Bool := false
  deriving DecidableEq, Repr

/-- What a call of `process_tx_pkt` finds. -/
structure TxEnv where
  datapath : Bool := true
  hasWrite : Bool := true                        -- `if_context->if_ops->write` is there
  powerSaving : Bool := false                    -- `is_host_power_saving`
  wakeup : Bool := true                          -- `wakeup_host`
  write : EspErr                                 -- what `if_ops->write` returns
  deriving DecidableEq, Repr

inductive Event
  | handed (h : BufHandle)                       -- `process_tx_pkt` is called
  | write (h : BufHandle) (ret : EspErr)         -- `if_ops->write`
  | free                                         -- of the message's buffer
  deriving DecidableEq, Repr

/-- `is_host_wakeup_needed`; no packet here is a flow-control one, or without a payload. -/
def isHostWakeupNeeded (h : BufHandle) : Bool :=
  match h.ifType with
  | .serial | .hci | .priv | .test | .sta | .ap => true
  | .invalid | .eth => false

/-- The post-processing of `process_tx_pkt`. -/
def postProcess (h : BufHandle) : List Event := if h.privBufferHandle then [.free] else []

def processTxPkt (env : TxEnv) (h : BufHandle) : List Event :=
  if env.datapath = false then postProcess h
  else
    let wake := env.powerSaving && isHostWakeupNeeded h
    let h' := if wake then { h with flag := h.flag ||| flagWakeupPkt } else h
    (if env.hasWrite && (!wake || env.wakeup) then [.write h' env.write] else []) ++ postProcess h

/-- `send_to_host_queue`, with `BYPASS_TX_PRIORITY_Q`. -/
def sendToHostQueue (env : TxEnv) (h : BufHandle) : EspErr × List Event :=
  (espOk, .handed h :: processTxPkt env h)

structure Result where
  ret : EspErr
  events : List Event
  seqNum : UInt16
  deriving DecidableEq

/-- `frag_len`. -/
def fragLen (left : Nat) : Nat := if left > ethDataLen then ethDataLen else left

/-- `buf_handle`, as the loop fills it. -/
def bufHandle (seqNum : UInt16) (pos left : Nat) : BufHandle where
  ifType := .serial
  seqNum := seqNum
  flag := if left > ethDataLen then moreFragment else 0
  payload := pos
  payloadLen := (fragLen left).toUInt16
  privBufferHandle := decide (¬left > ethDataLen)

/-- The loop of `serial_write_data`, for `fuel` turns at most; `i` is the number of the turn. -/
def serialWriteLoop (env : Nat → TxEnv) : Nat → Nat → UInt16 → Nat → Nat → Option Result
  | 0, _, _, _, _ => none
  | fuel + 1, i, seqNum, pos, left =>
    let (ret, events) := sendToHostQueue (env i) (bufHandle (seqNum + 1) pos left)
    if ret ≠ espOk then
      some { ret := espFail, events := events ++ [.free], seqNum := seqNum + 1 }
    else if left - fragLen left =
      0 then some { ret := espOk, events := events, seqNum := seqNum + 1 }
    else
      (serialWriteLoop env fuel (i + 1) (seqNum + 1) (pos + fragLen left) (left - fragLen left)).map
        fun r => { r with events := events ++ r.events }

/-- `serial_write_data`; `seqNum` is its static. -/
def serialWriteData (fuel : Nat) (env : Nat → TxEnv) (seqNum : UInt16) (data : List UInt8) :
    Option Result :=
  serialWriteLoop env fuel 0 seqNum 0 data.length

/-! ## What the loop does -/

/-- The number of fragments of a message of `len` bytes. -/
def fragments (len : Nat) : Nat := (len - 1) / ethDataLen + 1

/-- The fragment number `k`. -/
def fragment (seqNum : UInt16) (len k : Nat) : BufHandle :=
  bufHandle (seqNum + UInt16.ofNat (k + 1)) (ethDataLen * k) (len - ethDataLen * k)

/-- One turn of the loop. -/
def turn (env : Nat → TxEnv) (seqNum : UInt16) (len k : Nat) : List Event :=
  .handed (fragment seqNum len k) :: processTxPkt (env k) (fragment seqNum len k)

/-- More than one fragment's length is left in front of every turn but the last. -/
theorem left_gt_iff {len k : Nat} (hk : k < fragments len) :
    len - ethDataLen * k > ethDataLen ↔ k + 1 < fragments len := by
  unfold fragments ethDataLen at *
  omega

theorem serialWriteLoop_eq (env : Nat → TxEnv) (seqNum : UInt16) (len : Nat) {fuel k : Nat}
    (hk : k < fragments len) (hfuel : fragments len ≤ fuel + k) :
    serialWriteLoop env fuel k (seqNum + UInt16.ofNat k) (ethDataLen * k) (len - ethDataLen * k) =
      some { ret := espOk, events :=
      (List.range' k (fragments len - k)).flatMap (turn env seqNum len),
             seqNum := seqNum + UInt16.ofNat (fragments len) } := by
  induction fuel generalizing k with
  | zero => exact absurd hfuel (by omega)
  | succ fuel ih =>
    have hseq : seqNum + UInt16.ofNat k + 1 = seqNum + UInt16.ofNat (k + 1) := by
      rw [UInt16.ofNat_add, UInt16.add_assoc]
      rfl
    obtain ⟨n, hn⟩ : ∃ n, fragments len - k = n + 1 := ⟨fragments len - k - 1, by omega⟩
    rw [serialWriteLoop, hseq, hn, List.range'_succ, List.flatMap_cons]
    dsimp only [sendToHostQueue]
    rw [if_neg (not_not.2 rfl)]
    by_cases hmore : k + 1 < fragments len
    · have hleft := (left_gt_iff hk).2 hmore
      have hlen : fragLen (len - ethDataLen * k) = ethDataLen := if_pos hleft
      have hpos : ethDataLen * k + ethDataLen = ethDataLen * (k + 1) := (Nat.mul_succ _ _).symm
      have hrest : len - ethDataLen * k - ethDataLen = len - ethDataLen * (k + 1) := by
        rw [Nat.sub_sub, hpos]
      rw [hlen, if_neg (Nat.sub_ne_zero_of_lt hleft), hpos, hrest, ih hmore (by omega)]
      have hn' : fragments len - (k + 1) = n := by omega
      rw [hn']
      rfl
    · have hlen : fragLen (len - ethDataLen * k) = len - ethDataLen * k :=
        if_neg (mt (left_gt_iff hk).1 hmore)
      have hlast : fragments len = k + 1 := by omega
      have hn' : n = 0 := by omega
      rw [hlen, Nat.sub_self, if_pos rfl, hlast, hn']
      simp only [List.range'_zero, List.flatMap_nil, List.append_nil]
      rfl

/-- **What `serial_write_data` does**: one turn for each fragment, and `ESP_OK`. -/
theorem serialWriteData_eq (env : Nat → TxEnv) (seqNum : UInt16) (data : List UInt8) {fuel : Nat}
    (hfuel : fragments data.length ≤ fuel) :
    serialWriteData fuel env seqNum data =
      some { ret := espOk,
             events := (List.range (fragments data.length)).flatMap (turn env seqNum data.length),
             seqNum := seqNum + UInt16.ofNat (fragments data.length) } := by
  have hloop := serialWriteLoop_eq env seqNum data.length (k := 0) (Nat.succ_pos _) hfuel
  rw [List.range_eq_range']
  simpa [serialWriteData] using hloop

/-! ## Fragmentation -/

/-- The fragments handed to `process_tx_pkt`. -/
def handed (events : List Event) : List BufHandle :=
  events.filterMap fun
    | .handed h => some h
    | _ => none

def BufHandle.more (h : BufHandle) : Bool := h.flag &&& moreFragment != 0

def BufHandle.bytes (h : BufHandle) (data : List UInt8) : List UInt8 :=
  slice h.payload h.payloadLen.toNat data

/-- **A message cut into fragments**, its buffer freed once, at the end. -/
structure Fragmented (data : List UInt8) (events : List Event) : Prop where
  bounds : ∀ h ∈ handed events, 0 < h.payloadLen.toNat ∧ h.payloadLen.toNat ≤ ethDataLen ∧
    h.payload + h.payloadLen.toNat ≤ data.length
  whole : ((handed events).map fun h => h.bytes data).flatten = data
  flags : ∃ init last, handed events = init ++ [last] ∧ (∀ h ∈ init, h.more = true) ∧
    last.more = false
  freed : ∃ before, events = before ++ [.free] ∧ Event.free ∉ before

theorem handed_append (es es' : List Event) : handed (es ++ es') = handed es ++ handed es' :=
  List.filterMap_append

/-- What `process_tx_pkt` does before its post-processing: it writes, once at most. -/
theorem processTxPkt_eq (env : TxEnv) (h : BufHandle) :
    ∃ writes, processTxPkt env h = writes ++ postProcess h ∧ handed writes = [] ∧
      Event.free ∉ writes := by
  unfold processTxPkt
  split
  · exact ⟨[], rfl, rfl, List.not_mem_nil⟩
  · dsimp only
    split
    · exact ⟨_, rfl, rfl, by simp⟩
    · exact ⟨_, rfl, rfl, List.not_mem_nil⟩

theorem handed_turn (env : Nat → TxEnv) (seqNum : UInt16) (len k : Nat) :
    handed (turn env seqNum len k) = [fragment seqNum len k] := by
  obtain ⟨writes, heq, hwrites, -⟩ := processTxPkt_eq (env k) (fragment seqNum len k)
  have hpost : handed (postProcess (fragment seqNum len k)) = [] := by
    unfold postProcess
    split <;> rfl
  have hall : handed (processTxPkt (env k) (fragment seqNum len k)) = [] := by
    rw [heq, handed_append, hwrites, hpost]
    rfl
  rw [turn, handed, List.filterMap_cons]
  exact congrArg _ hall

theorem handed_turns (env : Nat → TxEnv) (seqNum : UInt16) (len : Nat) (ks : List Nat) :
    handed (ks.flatMap (turn env seqNum len)) = ks.map (fragment seqNum len) := by
  induction ks with
  | nil => rfl
  | cons k ks ih =>
    rw [List.flatMap_cons, handed_append, handed_turn, ih]
    rfl

/-! ### One fragment -/

theorem fragment_payloadLen (seqNum : UInt16) (len k : Nat) :
    (fragment seqNum len k).payloadLen.toNat = min ethDataLen (len - ethDataLen * k) := by
  have hlen : fragLen (len - ethDataLen * k) = min ethDataLen (len - ethDataLen * k) := by
    unfold fragLen
    split <;> omega
  have hsmall : min ethDataLen (len - ethDataLen * k) < 65536 :=
    (Nat.min_le_left _ _).trans_lt (by decide)
  rw [fragment, bufHandle, hlen]
  exact UInt16.toNat_ofNat_of_lt' hsmall

theorem fragment_bytes (seqNum : UInt16) (data : List UInt8) (k : Nat) :
    (fragment seqNum data.length k).bytes data = slice (ethDataLen * k) ethDataLen data := by
  have hpayload : (fragment seqNum data.length k).payload = ethDataLen * k := rfl
  rw [BufHandle.bytes, hpayload, fragment_payloadLen, slice, ← List.length_drop, ← List.take_take,
    List.take_length]
  rfl

theorem fragment_more (seqNum : UInt16) {len k : Nat} (hk : k < fragments len) :
    (fragment seqNum len k).more = decide (k + 1 < fragments len) := by
  rw [BufHandle.more, fragment, bufHandle]
  by_cases hmore : k + 1 < fragments len
  · rw [if_pos ((left_gt_iff hk).2 hmore), decide_eq_true hmore]
    dsimp only
    decide
  · rw [if_neg (mt (left_gt_iff hk).1 hmore), decide_eq_false hmore]
    dsimp only
    decide

/-- The last fragment carries the buffer, and only the last. -/
theorem postProcess_fragment (seqNum : UInt16) {len k : Nat} (hk : k < fragments len) :
    postProcess (fragment seqNum len k) = if k + 1 < fragments len then [] else [.free] := by
  rw [postProcess, fragment, bufHandle]
  by_cases hmore : k + 1 < fragments len
  · have hleft := (left_gt_iff hk).2 hmore
    simp [hmore, hleft]
  · have hleft := mt (left_gt_iff hk).1 hmore
    simp [hmore, hleft]

/-! ### All of them -/

theorem exists_fragments_eq (len : Nat) : ∃ m, fragments len = m + 1 := ⟨_, rfl⟩

theorem fragments_le {len : Nat} (hpos : 0 < len) : fragments len ≤ len := by
  unfold fragments ethDataLen
  omega

/-- `MORE_FRAGMENT` is set on all but the last. -/
theorem flags_fragments (seqNum : UInt16) (len : Nat) :
    ∃ init last, (List.range (fragments len)).map (fragment seqNum len) = init ++ [last] ∧
      (∀ h ∈ init, h.more = true) ∧ last.more = false := by
  have hflag : ∀ k < fragments len, (fragment seqNum len k).more = decide (k + 1 < fragments len) :=
    fun k hk => fragment_more seqNum hk
  obtain ⟨m, hm⟩ := exists_fragments_eq len
  rw [hm] at hflag ⊢
  refine ⟨(List.range m).map (fragment seqNum len), fragment seqNum len m, ?_, ?_, ?_⟩
  · rw [List.range_succ, List.map_append, List.map_singleton]
  · intro h hmem
    obtain ⟨k, hk, rfl⟩ := List.mem_map.1 hmem
    rw [List.mem_range] at hk
    exact (hflag k (Nat.lt_succ_of_lt hk)).trans (decide_eq_true (Nat.add_lt_add_right hk 1))
  · exact (hflag m (Nat.lt_succ_self m)).trans (decide_eq_false (Nat.lt_irrefl _))

/-- The buffer is freed by the last turn, after its write. -/
theorem freed_turns (env : Nat → TxEnv) (seqNum : UInt16) (len : Nat) :
    ∃ before, (List.range (fragments len)).flatMap (turn env seqNum len) = before ++ [.free] ∧
      Event.free ∉ before := by
  have hturn : ∀ k < fragments len, ∃ before, turn env seqNum len k =
      before ++ (if k + 1 < fragments len then [] else [.free]) ∧ Event.free ∉ before := by
    intro k hk
    obtain ⟨writes, heq, -, hfree⟩ := processTxPkt_eq (env k) (fragment seqNum len k)
    refine ⟨.handed (fragment seqNum len k) :: writes, ?_, ?_⟩
    · rw [turn, heq, postProcess_fragment seqNum hk]
      rfl
    · simpa using hfree
  obtain ⟨m, hm⟩ := exists_fragments_eq len
  rw [hm] at hturn ⊢
  have hinit : Event.free ∉ (List.range m).flatMap (turn env seqNum len) := by
    intro hmem
    obtain ⟨k, hk, hfree⟩ := List.mem_flatMap.1 hmem
    rw [List.mem_range] at hk
    obtain ⟨before, heq, hno⟩ := hturn k (Nat.lt_succ_of_lt hk)
    rw [heq, if_pos (Nat.add_lt_add_right hk 1), List.append_nil] at hfree
    exact hno hfree
  obtain ⟨before, heq, hno⟩ := hturn m (Nat.lt_succ_self m)
  rw [if_neg (Nat.lt_irrefl _)] at heq
  refine ⟨(List.range m).flatMap (turn env seqNum len) ++ before, ?_, ?_⟩
  · rw [List.range_succ, List.flatMap_append, List.flatMap_singleton, heq,
      List.append_assoc]
  · rw [List.mem_append]
    exact not_or.2 ⟨hinit, hno⟩

/-- What an event is to the buffer `o` that the payload lies in. -/
def onBuffer {α : Type} (o : α) : Event → Ownership.Event α
  | .handed _ | .write .. => .use o
  | .free => .release o

section Buffer

variable {α : Type} {events : List Event}

/-- It is the only buffer. -/
theorem onBuffer_obj_ne {o o' : α} (hne : o ≠ o') : ∀ e ∈ events.map (onBuffer o), e.obj ≠ o' := by
  intro e he
  obtain ⟨w, -, rfl⟩ := List.mem_map.1 he
  cases w <;> exact hne

/-- A buffer that is freed at the end has only been looked at before. -/
theorem life_onBuffer [DecidableEq α] (o : α) (hfree : Event.free ∉ events) :
    Ownership.life o .live ((events ++ [Event.free]).map (onBuffer o)) = some .released := by
  have huses : ∀ e ∈ events.map (onBuffer o), e.obj = o → e = .use o := by
    rintro e he -
    obtain ⟨w, hw, rfl⟩ := List.mem_map.1 he
    cases w with
    | handed => rfl
    | write => rfl
    | free => exact absurd hw hfree
  rw [List.map_append, Ownership.life_append, Ownership.life_of_uses huses]
  exact if_pos rfl

end Buffer

/-- The turns cut the message, and free its buffer at their end. -/
theorem fragmented_turns (env : Nat → TxEnv) (seqNum : UInt16) {data : List UInt8}
    (hpos : 0 < data.length) :
    Fragmented data
    ((List.range (fragments data.length)).flatMap (turn env seqNum data.length)) := by
  refine ⟨?_, ?_, ?_, freed_turns env seqNum data.length⟩
  · intro h hmem
    rw [handed_turns] at hmem
    obtain ⟨k, hk, rfl⟩ := List.mem_map.1 hmem
    rw [List.mem_range] at hk
    have hpayload : (fragment seqNum data.length k).payload = ethDataLen * k := rfl
    rw [fragment_payloadLen, hpayload]
    unfold fragments ethDataLen at *
    omega
  · rw [handed_turns, List.map_map]
    have hbytes : (fun h : BufHandle => h.bytes data) ∘ fragment seqNum data.length =
        fun k => slice (ethDataLen * k) ethDataLen data := by
      funext k
      exact fragment_bytes seqNum data k
    rw [hbytes, flatten_slices]
    refine List.take_of_length_le ?_
    unfold fragments ethDataLen
    omega
  · rw [handed_turns]
    exact flags_fragments seqNum data.length

/-- **Serial transmit fragmentation**: whatever happens to the fragments, the loop ends, and what it
hands over is the message, cut as the host expects; the buffer is freed once, after the last
fragment. -/
theorem serial_write_fragments (env : Nat → TxEnv) (seqNum : UInt16) (data : List UInt8)
    (hpos : 0 < data.length) :
    ∃ r, (∀ fuel ≥ data.length, serialWriteData fuel env seqNum data = some r) ∧
      Fragmented data r.events := by
  refine ⟨_, fun fuel hfuel => serialWriteData_eq env seqNum data ((fragments_le hpos).trans hfuel),
    ?_⟩
  exact fragmented_turns env seqNum hpos

/-- A message of one byte more than a fragment holds, its second fragment not written. -/
theorem serial_write_fragments_two :
    ∃ r, (∀ fuel ≥ (List.replicate 1501 (0 : UInt8)).length,
        serialWriteData fuel (fun k => { datapath := k = 0, write := 1500 }) 7
          (List.replicate 1501 0) = some r) ∧ Fragmented (List.replicate 1501 0) r.events :=
  serial_write_fragments _ _ _ (by rw [List.length_replicate]; decide)

/-! ## What the transport takes -/

/-- `if_handle_g.state`, and what the calls inside `sdio_write` answer. -/
structure SdioEnv where
  active : Bool := true
  powerSaving : Bool := false                    -- `is_host_power_saving`, read again
  alloc : Bool := true                           -- `sdio_buffer_tx_alloc`
  take : Bool := true                            -- `xSemaphoreTake`
  sendQueue : EspErr := espOk                    -- `sdio_slave_send_queue`

/-- `sdio_write`: what it returns, and whether the driver has the packet. -/
def sdioWrite (env : SdioEnv) (h : BufHandle) : EspErr × Bool :=
  if env.active = false then (espFail, false)
  else if env.powerSaving then (espFail, false)
  else if env.alloc = false then (espFail, false)
  else if env.take = false then (espFail, false)
  else if env.sendQueue ≠ espOk then (espFail, false)
  else (Int32.ofNat h.payloadLen.toNat, true)

/-- A length is not taken for `ESP_FAIL`: the result of `sdio_write` says whether the driver has the
packet. -/
theorem sdioWrite_taken (env : SdioEnv) (h : BufHandle) :
    (sdioWrite env h).1 ≠ espFail ↔ (sdioWrite env h).2 = true := by
  have hlen : Int32.ofNat h.payloadLen.toNat ≠ espFail := by
    intro heq
    have hint := congrArg Int32.toInt heq
    have hlt := h.payloadLen.toNat_lt
    rw [Int32.toInt_ofNat_of_lt (by omega)] at hint
    have hfail : espFail.toInt = -1 := by decide
    omega
  unfold sdioWrite
  split_ifs <;> simp [hlen]

/-- The writes that the transport took. -/
def accepted (events : List Event) : List BufHandle :=
  events.filterMap fun
    | .write h ret => if ret = espFail then none else some h
    | _ => none

/-- Nothing stops a fragment. -/
def TxEnv.Passes (env : TxEnv) : Prop :=
  env.datapath = true ∧ env.hasWrite = true ∧ (env.powerSaving = true → env.wakeup = true) ∧
    env.write ≠ espFail

instance (env : TxEnv) : Decidable env.Passes := inferInstanceAs (Decidable (_ ∧ _ ∧ _ ∧ _))

/-- A fragment as the host sees it. -/
def BufHandle.frag (data : List UInt8) (h : BufHandle) : Fragment UInt16 UInt8 :=
  { key := h.seqNum, payload := h.bytes data, more := h.more }

/-- The fragments of the message that the host receives. -/
def received (data : List UInt8) (events : List Event) : List (Fragment UInt16 UInt8) :=
  (accepted events).map (BufHandle.frag data)

/-- **No half-sent message passes as sent**: `ESP_OK` means that the transport has all fragments,
and where it has the last one, it has all. -/
structure NotHalfSent (data : List UInt8) (r : Result) : Prop where
  reported : r.ret = espOk → received data r.events = (handed r.events).map (BufHandle.frag data)
  last : ∀ f ∈ received data r.events, f.more = false →
    received data r.events = (handed r.events).map (BufHandle.frag data)

/-- Marking a packet as the one that wakes the host up leaves `MORE_FRAGMENT` alone. -/
theorem frag_wakeup (data : List UInt8) (h : BufHandle) :
    BufHandle.frag data { h with flag := h.flag ||| flagWakeupPkt } = BufHandle.frag data h := by
  have hflag : (h.flag ||| flagWakeupPkt) &&& moreFragment = h.flag &&& moreFragment := by
    have hzero : flagWakeupPkt.toBitVec &&& moreFragment.toBitVec = 0#8 := by decide
    apply UInt8.toBitVec_inj.1
    rw [UInt8.toBitVec_and, UInt8.toBitVec_or, BitVec.and_or_distrib_right, hzero, BitVec.or_zero,
      UInt8.toBitVec_and]
  simp only [BufHandle.frag, BufHandle.more, hflag]
  rfl

theorem received_append (data : List UInt8) (es es' : List Event) :
    received data (es ++ es') = received data es ++ received data es' := by
  simp only [received, accepted, List.filterMap_append, List.map_append]

theorem received_turn (env : Nat → TxEnv) (seqNum : UInt16) (data : List UInt8) (k : Nat) :
    received data (turn env seqNum data.length k) =
      if (env k).Passes then [(fragment seqNum data.length k).frag data] else [] := by
  have hserial : isHostWakeupNeeded (fragment seqNum data.length k) = true := rfl
  have hpost : received data (postProcess (fragment seqNum data.length k)) = [] := by
    unfold postProcess
    split <;> rfl
  have hturn : received data (turn env seqNum data.length k) =
      received data (processTxPkt (env k) (fragment seqNum data.length k)) := rfl
  rw [hturn, processTxPkt, hserial]
  by_cases hpath : (env k).datapath = true
  · rw [if_neg (by rw [hpath]; exact Bool.false_ne_true.symm)]
    dsimp only
    rw [received_append, hpost, List.append_nil]
    by_cases hsleep : (env k).powerSaving = true
    · by_cases hret : (env k).write = espFail <;> cases hwrite : (env k).hasWrite <;>
        cases hwake : (env k).wakeup <;>
        simp [TxEnv.Passes, received, accepted, hpath, hsleep, hwrite, hwake, hret, frag_wakeup]
    · by_cases hret : (env k).write = espFail <;> cases hwrite : (env k).hasWrite <;>
        simp [TxEnv.Passes, received, accepted, hpath, hsleep, hwrite, hret]
  · rw [if_pos (Bool.eq_false_iff.2 hpath), hpost, if_neg fun h => hpath h.1]

theorem received_turns (env : Nat → TxEnv) (seqNum : UInt16) (data : List UInt8) (ks : List Nat) :
    received data (ks.flatMap (turn env seqNum data.length)) =
      (ks.filter fun k => (env k).Passes).map fun k =>
        (fragment seqNum data.length k).frag data := by
  induction ks with
  | nil => rfl
  | cons k ks ih =>
    rw [List.flatMap_cons, received_append, received_turn, ih]
    by_cases hk : (env k).Passes
    · simp [hk]
    · simp [hk]

/-- The host receives the whole message iff nothing stops a fragment. -/
theorem received_eq_iff (env : Nat → TxEnv) (seqNum : UInt16) (data : List UInt8) (ks : List Nat) :
    received data (ks.flatMap (turn env seqNum data.length)) =
        (handed (ks.flatMap (turn env seqNum data.length))).map (BufHandle.frag data) ↔
      ∀ k ∈ ks, (env k).Passes := by
  rw [received_turns, handed_turns, List.map_map]
  constructor
  · intro heq
    have hlen := congrArg List.length heq
    rw [List.length_map, List.length_map, List.length_filter_eq_length_iff] at hlen
    exact fun k hk => of_decide_eq_true (hlen k hk)
  · intro hall
    rw [List.filter_eq_self.2 fun k hk => decide_eq_true (hall k hk)]
    rfl

/-- **When no half-sent message passes as sent**: exactly when nothing stops a fragment. -/
theorem not_half_sent_iff (env : Nat → TxEnv) (seqNum : UInt16) (data : List UInt8) :
    ∃ r, (∀ fuel ≥ fragments data.length, serialWriteData fuel env seqNum data = some r) ∧
      (NotHalfSent data r ↔ ∀ k < fragments data.length, (env k).Passes) := by
  refine ⟨_, fun fuel hfuel => serialWriteData_eq env seqNum data hfuel, ?_⟩
  have hiff := received_eq_iff env seqNum data (List.range (fragments data.length))
  simp only [List.mem_range] at hiff
  constructor
  · exact fun h => hiff.1 (h.reported rfl)
  · exact fun hall => ⟨fun _ => hiff.2 hall, fun _ _ _ => hiff.2 hall⟩

/-- A message of two fragments. -/
def twoFragments : List UInt8 := List.replicate 1500 1 ++ [2]

/-- The datapath opens between the two: `ESP_OK`, and the host takes the second for a message. -/
theorem half_sent_passes :
    ∃ r, serialWriteData 2 (fun k => { datapath := k ≠ 0, write := 1500 }) 0 twoFragments = some r ∧
      r.ret = espOk ∧ (assemble (received twoFragments r.events)).done = [[2]] ∧
      ¬NotHalfSent twoFragments r := by
  have hrun : (serialWriteData 2 (fun k => { datapath := k ≠ 0, write := 1500 }) 0 twoFragments).map
      (fun r => (r.ret, (assemble (received twoFragments r.events)).done,
        (received twoFragments r.events).length,
        (handed r.events).length)) = some (espOk, [[2]], 1, 2) := by
    decide +kernel
  obtain ⟨r, hr, hproj⟩ := Option.map_eq_some_iff.1 hrun
  simp only [Prod.mk.injEq] at hproj
  obtain ⟨hret, hdone, hreceived, hhanded⟩ := hproj
  refine ⟨r, hr, hret, hdone, fun h => ?_⟩
  have hlen := congrArg List.length (h.reported hret)
  rw [hreceived, List.length_map, hhanded] at hlen
  exact absurd hlen (by decide)

/-! ## The host -/

/-- A call of `serial_write_data`. -/
structure Call where
  env : Nat → TxEnv
  seqNum : UInt16
  data : List UInt8

/-- What the host receives of it. -/
def Call.received (c : Call) : List (Fragment UInt16 UInt8) :=
  match serialWriteData (fragments c.data.length) c.env c.seqNum c.data with
  | some r => SerialTx.received c.data r.events
  | none => []

/-- Nothing stops a fragment of the call. -/
def Call.Passes (c : Call) : Prop := ∀ k < fragments c.data.length, (c.env k).Passes

end EspHostedOpen.SerialTx
