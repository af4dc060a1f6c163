import EspHostedOpen.Slave.ReplyContract

/-!
# Evaluating a handler, and the status it answers

The values of the reading and calling primitives, and `replyStatus`, the status in the last message
of a trace. `replyStatus_answering` reduces the status of an `answering` handler to the value of its
action.
-/

namespace EspHostedOpen

open ByteCodec

/-! ## Evaluation of the primitives -/

section Eval

variable (r : Input) (s : SlaveState) (off : Nat)

@[simp] theorem readBytes_val (n : Nat) : (readBytes off n r s).val = slice off n r.data := rfl
@[simp] theorem readBytes_state (n : Nat) : (readBytes off n r s).state = s := rfl

@[simp] theorem readU8_val : (readU8 off r s).val = UInt8.ofNat (leNat (slice off 1 r.data)) := by
  rw [readU8, Cmd.map_eval, readBytes_val]

@[simp] theorem readU8_state : (readU8 off r s).state = s := rfl

@[simp] theorem readI8_val :
    (readI8 off r s).val = (UInt8.ofNat (leNat (slice off 1 r.data))).toInt8 := by
  rw [readI8, Cmd.map_eval, readU8_val]

@[simp] theorem readI8_state : (readI8 off r s).state = s := rfl

@[simp] theorem readU16_val : (readU16 off r s).val = UInt16.ofNat
    (leNat (slice off 2 r.data)) := by
  rw [readU16, Cmd.map_eval, readBytes_val]

@[simp] theorem readU16_state : (readU16 off r s).state = s := rfl

@[simp] theorem readU32_val : (readU32 off r s).val = UInt32.ofNat
    (leNat (slice off 4 r.data)) := by
  rw [readU32, Cmd.map_eval, readBytes_val]

@[simp] theorem readU32_state : (readU32 off r s).state = s := rfl

section Events

@[simp] theorem readBytes_events (n : Nat) :
    (readBytes off n r s).events = (List.range' off n).map .read := rfl

@[simp] theorem readU8_events : (readU8 off r s).events = (List.range' off 1).map .read := by
  rw [readU8, Cmd.map_eval, readBytes_events]

@[simp] theorem readI8_events : (readI8 off r s).events = (List.range' off 1).map .read := by
  rw [readI8, Cmd.map_eval, readU8_events]

@[simp] theorem readU16_events : (readU16 off r s).events = (List.range' off 2).map .read := by
  rw [readU16, Cmd.map_eval, readBytes_events]

@[simp] theorem readU32_events : (readU32 off r s).events = (List.range' off 4).map .read := by
  rw [readU32, Cmd.map_eval, readBytes_events]

@[simp] theorem readU64_events : (readU64 off r s).events = (List.range' off 8).map .read := by
  rw [readU64, Cmd.map_eval, readBytes_events]

end Events

@[simp] theorem dataLen_eval : dataLen r s = ⟨r.data.length, s, []⟩ := by
  rw [dataLen, Cmd.ask_eval]

@[simp] theorem resolved_eval (sym : Sym) : resolved sym r s = ⟨r.env.resolved sym, s, []⟩ := by
  rw [resolved, Cmd.ask_eval]

@[simp] theorem callPhy_eval (c : PhyCall) : callPhy c r s = ⟨(), s, [.phy c]⟩ := rfl

@[simp] theorem callDrv_eval (c : DrvCall) :
    callDrv c r s = ⟨r.env.err c, s, [.drv c (r.env.err c)]⟩ := by
  rw [callDrv]

@[simp] theorem callOs_eval (c : OsCall) :
    callOs c r s = ⟨r.env.os c, s, [.os c (r.env.os c)]⟩ := by
  rw [callOs]

@[simp] theorem getPhy_eval (c : PhyCall) (sym : Sym) :
    getPhy c sym r s = ⟨r.env.value sym, s, [.phy c]⟩ := by
  rw [getPhy]

@[simp] theorem setState_eval (f : PhyState → PhyState) :
    setState f r s = ⟨(), { s with phy := f s.phy }, []⟩ := rfl

@[simp] theorem ifResolved_eval (sym : Sym) (c : PhyCall) :
    ifResolved sym c r s = ⟨(), s, if r.env.resolved sym then [.phy c] else []⟩ := by
  unfold ifResolved
  cases h : r.env.resolved sym <;> simp [h]

/-- The two outcomes of `HOOK_OPT`. -/
theorem hookOpt_eval (sym : Sym) (act : Handler Unit) :
    hookOpt sym act r s =
      if r.env.resolved sym then ⟨espOk, (act r s).state, (act r s).events⟩
      else ⟨espErrNotSupported, s, []⟩ := by
  unfold hookOpt
  cases h : r.env.resolved sym <;> simp [h]

theorem drvOrNs_eval (sym : Sym) (call : DrvCall) :
    drvOrNs sym call r s =
      if r.env.resolved sym then ⟨r.env.err call, s, [.drv call (r.env.err call)]⟩
      else ⟨espErrNotSupported, s, []⟩ := by
  unfold drvOrNs
  cases h : r.env.resolved sym <;> simp [h]

end Eval

/-! ## Well-formed requests -/

/-- The length member of the requests with a variable tail. -/
def tailLength (rpc : Rpc) (data : List UInt8) : Nat :=
  match rpc with
  | .tx80211 => leNat (slice (rpc.reqStruct.offset 4) 2 data)
  | .espnowSend => leNat (slice (rpc.reqStruct.offset 2) 2 data)
  | .ieee154TxRaw => leNat (slice (rpc.reqStruct.offset 3) 2 data)
  | _ => 0

/-- A request is as long as its structure and its claimed tail. -/
def WellFormedReq (rpc : Rpc) (data : List UInt8) : Prop :=
  rpc.reqStruct.sizeof + tailLength rpc data ≤ data.length

theorem WellFormedReq.sizeof_le {rpc : Rpc} {data : List UInt8} (h : WellFormedReq rpc data) :
    rpc.reqStruct.sizeof ≤ data.length :=
  Nat.le_trans (Nat.le_add_right _ _) h

/-! ## Behind `UNPACK_REQ` -/

/-- The op_id bytes of a request, as a number. -/
def opIdOf (data : List UInt8) : UInt32 := UInt32.ofNat (leNat (slice 0 4 data))

/-- A request that is too short is dropped. -/
theorem answering_short {t : Packed} {r : Input} (s : SlaveState)
    (hshort : r.data.length < t.sizeof)
    (respId : UInt32) (act : Handler EspErr) : answering t respId act r s = ⟨(), s, []⟩ := by
  rw [answering, unpackReq, Cmd.bind_eval, dataLen_eval, Cmd.ite_eval, if_pos hshort]
  rfl

section Unpack

variable {t : Packed} {r : Input} (s : SlaveState) (hlen : t.sizeof ≤ r.data.length)
include hlen

theorem unpackReq_state (k : UInt32 → Handler Unit) :
    (unpackReq t k r s).state = (k (opIdOf r.data) r s).state := by
  simp [unpackReq, Nat.not_lt.2 hlen, Packed.offset, opIdOf]

theorem unpackReq_events (k : UInt32 → Handler Unit) :
    (unpackReq t k r s).events =
      (List.range' 0 4).map .read ++ (k (opIdOf r.data) r s).events := by
  simp [unpackReq, Nat.not_lt.2 hlen, Packed.offset, opIdOf, readU32, readBytes]

theorem answering_state (respId : UInt32) (act : Handler EspErr) :
    (answering t respId act r s).state = (act r s).state := by
  rw [answering, unpackReq_state s hlen]
  rfl

theorem answering_events (respId : UInt32) (act : Handler EspErr) :
    (answering t respId act r s).events =
      (List.range' 0 4).map .read ++ ((act r s).events ++
        [.send respId (u32Bytes (opIdOf r.data) ++ i32Bytes (act r s).val)]) := by
  rw [answering, unpackReq_events s hlen]
  rfl

end Unpack

/-! ## The status of a trace -/

/-- The `status` member of a response. -/
def statusOf (m : List UInt8) : EspErr := (UInt32.ofNat (leNat (slice 4 4 m))).toInt32

/-- The status of the last message sent. -/
def replyStatus (es : List Event) : Option EspErr := (sends es).getLast?.map fun m => statusOf m.2

theorem statusOf_reply (op : UInt32) (st : EspErr) (body : List UInt8) :
    statusOf (u32Bytes op ++ i32Bytes st ++ body) = st := by
  have hop : (u32Bytes op).length = 4 := length_leBytes 4 _
  have hst : (i32Bytes st).length = 4 := length_leBytes 4 _
  have hlt : st.toUInt32.toNat < 256 ^ 4 := st.toUInt32.toNat_lt
  rw [statusOf, List.append_assoc, slice_append_right _ _ (by omega), hop, Nat.sub_self,
    slice_prefix _ hst, i32Bytes, u32Bytes, leNat_leBytes_of_lt hlt, UInt32.ofNat_toNat]
  exact Int32.toInt32_toUInt32 st

/-- What was sent before the last message does not matter. -/
theorem replyStatus_append {es' : List Event} {st : EspErr} (h : replyStatus es' = some st)
    (es : List Event) : replyStatus (es ++ es') = some st := by
  obtain ⟨m, hm, hst⟩ := Option.map_eq_some_iff.1 h
  rw [replyStatus, sends_append, List.getLast?_append, hm]
  exact congrArg some hst

theorem replyStatus_bind {α : Type} {c : Handler α} {k : α → Handler Unit} {r : Input}
    {s : SlaveState}
    {st : EspErr} (h : replyStatus (k (c r s).val r (c r s).state).events = some st) :
    replyStatus ((c >>= k) r s).events = some st :=
  replyStatus_append h _

theorem replyStatus_simple (respId op : UInt32) (st : EspErr) (r : Input) (s : SlaveState) :
    replyStatus (sendSimpleResp respId op st r s).events = some st := by
  have h := statusOf_reply op st []
  rw [List.append_nil] at h
  exact congrArg some h

/-- `send_resp_with_body` answers its status, or `ESP_ERR_NO_MEM`. -/
theorem replyStatus_withBody (respId op : UInt32) (st : EspErr) (body : List UInt8) (r : Input)
    (s : SlaveState) : replyStatus (sendRespWithBody respId op st body r s).events =
      some (if r.env.malloc then st else espErrNoMem) := by
  cases hm : r.env.malloc with
  | true =>
    have hev : (sendRespWithBody respId op st body r s).events =
        [.send respId (u32Bytes op ++ i32Bytes st ++ body)] := by
      simp [sendRespWithBody, hm]
    rw [hev]
    exact congrArg some (statusOf_reply op st body)
  | false =>
    have hev : (sendRespWithBody respId op st body r s).events =
        (sendSimpleResp respId op espErrNoMem r s).events := by
      simp [sendRespWithBody, hm]
    rw [hev]
    exact replyStatus_simple respId op espErrNoMem r s

section Unpack

variable {t : Packed} {r : Input} (s : SlaveState) (hlen : t.sizeof ≤ r.data.length)
include hlen

theorem replyStatus_unpackReq {k : UInt32 → Handler Unit} {st : EspErr}
    (h : replyStatus (k (opIdOf r.data) r s).events = some st) :
    replyStatus (unpackReq t k r s).events = some st := by
  rw [unpackReq_events s hlen]
  exact replyStatus_append h _

/-- **The status of an `answering` handler** is the value of its action. -/
theorem replyStatus_answering (respId : UInt32) (act : Handler EspErr) :
    replyStatus (answering t respId act r s).events = some (act r s).val :=
  replyStatus_unpackReq s hlen (replyStatus_bind (replyStatus_simple _ _ _ _ _))

end Unpack

end EspHostedOpen
