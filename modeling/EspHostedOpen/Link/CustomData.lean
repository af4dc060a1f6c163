import EspHostedOpen.Link.Events

/-!
# Custom data on its way into and out of the queue (`slave_control.c`, `protocomm_pserial.c`)

`esp_hosted_send_custom_data` with everything it depends on: the three points where it can fail, the
value it returns, and the lengths at their C types (`size_t`, `int` and `ssize_t` of 32 bits). The
item that `pserial_task` takes out is `rpc_evt_custom_rpc`'s to unpack.

The item is lossless whenever there is one (`handleItem_sent`). The return value is not: it is
`ESP_OK` behind `send_event_data_to_host`, which returns nothing, whether or not the item was
queued.
-/

namespace EspHostedOpen.CustomData

open ByteCodec

/-- What the calls on the way answer: `malloc` of the packing buffer, `pc->priv` being set, `malloc`
of the queue's copy, `xQueueSend`. -/
structure Outcomes where
  buf : Bool
  pserialCfg : Bool
  copy : Bool
  queued : Bool

/-- `serial_arg_t`. -/
structure SerialArg where
  len : Int32
  data : List UInt8
  msgId : Nat
  deriving DecidableEq, Repr

/-- `protocomm_pserial_data_ready`: its result, and the item on the queue. -/
def protocommPserialDataReady (o : Outcomes) (inBytes : List UInt8) (len : Int32) (msgId : Nat) :
    EspErr × Option SerialArg :=
  if o.pserialCfg = false then (espFail, none)
  else if len ≠ 0 ∧ o.copy = false then (espFail, none)
  else if o.queued = false then (espFail, none)
  else (espOk, some { len := len, data := inBytes.take len.toUInt32.toNat, msgId := msgId })

/-- `send_event_data_to_host`: the result is dropped. -/
def sendEventDataToHost (o : Outcomes) (eventId : Nat) (data : List UInt8) (size : Int32) :
    Option SerialArg :=
  (protocommPserialDataReady o data size eventId).2

/-- `esp_hosted_send_custom_data` on a buffer that is not `NULL`: its result, and the item on the
queue. -/
def espHostedSendCustomData (o : Outcomes) (msgIdToSend : UInt32) (dataToSend : List UInt8) :
    EspErr × Option SerialArg :=
  let dataLenToSend := UInt32.ofNat dataToSend.length
  if dataLenToSend = 0 then (espErrInvalidArg, none)
  else if dataLenToSend > 8166 then (espErrInvalidSize, none)
  else
    let totalLen := 4 + dataLenToSend
    if o.buf = false then (espErrNoMem, none)
    else
      (espOk, sendEventDataToHost o Pserial.rpcIdEventCustomRpc (u32Bytes msgIdToSend ++ dataToSend)
        totalLen.toInt32)

/-- `rpc_evt_custom_rpc` with its two allocations succeeding: `custom_event_id` and `data` of the
notification. -/
def rpcEvtCustomRpc (data : List UInt8) (len : Int32) : UInt32 × List UInt8 :=
  let msgId := UInt32.ofNat (leNat (slice 0 4 data))
  let userDataLen := (len.toUInt32 - 4).toInt32
  if userDataLen > 0 then (msgId, slice 4 userDataLen.toUInt32.toNat data) else (msgId, [])

/-- What `pserial_task` makes of an item of this event. -/
def handleItem (arg : SerialArg) : Option (UInt32 × List UInt8) :=
  if Pserial.rpcIdEventBase < arg.msgId ∧ arg.msgId < Pserial.rpcIdEventMax ∧
      arg.msgId = Pserial.rpcIdEventCustomRpc then
    some (rpcEvtCustomRpc arg.data arg.len)
  else none

/-- **The contract**: `ESP_OK` means that the item is on the queue and no other result does, and the
item is the message. -/
def HonestLossless (o : Outcomes) (msgId : UInt32) (data : List UInt8) : Prop :=
  let r := espHostedSendCustomData o msgId data
  (r.1 = espOk ↔ ∃ arg, r.2 = some arg) ∧ ∀ arg, r.2 = some arg →
    handleItem arg = some (msgId, data)

/-! ## The lengths -/

section Lengths

variable {n : Nat}

theorem toNat_ofNat_of_le (h : n ≤ 8166) : (UInt32.ofNat n).toNat = n := by
  rw [UInt32.toNat_ofNat']
  exact Nat.mod_eq_of_lt (by omega)

/-- `size_t total_len`, then `int`, then `ssize_t`: no bit is lost. -/
theorem toNat_totalLen (h : n ≤ 8166) : (4 + UInt32.ofNat n).toInt32.toUInt32.toNat = 4 + n := by
  have hback : (4 + UInt32.ofNat n).toInt32.toUInt32 = 4 + UInt32.ofNat n := rfl
  rw [hback, UInt32.toNat_add, toNat_ofNat_of_le h]
  exact Nat.mod_eq_of_lt (show 4 + n < 2 ^ 32 by omega)

theorem totalLen_ne_zero (h : n ≤ 8166) : (4 + UInt32.ofNat n).toInt32 ≠ 0 := by
  intro hzero
  have hnat := toNat_totalLen h
  rw [hzero] at hnat
  have hz : (0 : Int32).toUInt32.toNat = 0 := rfl
  omega

/-- `len - sizeof(msg_id)` as `ssize_t` is the length of the data. -/
theorem userDataLen_eq (n : Nat) :
    ((4 + UInt32.ofNat n).toInt32.toUInt32 - 4).toInt32 = (UInt32.ofNat n).toInt32 := by
  have hback : (4 + UInt32.ofNat n).toInt32.toUInt32 = 4 + UInt32.ofNat n := rfl
  rw [hback, UInt32.add_comm, UInt32.add_sub_cancel]

theorem userDataLen_pos (h : n ≤ 8166) (hpos : 0 < n) : (UInt32.ofNat n).toInt32 > 0 := by
  have hnat := toNat_ofNat_of_le h
  have hint : (UInt32.ofNat n).toInt32.toInt = n := by
    show (UInt32.ofNat n).toBitVec.toInt = n
    rw [BitVec.toInt_eq_toNat_of_lt]
    · show ((UInt32.ofNat n).toNat : Int) = n
      rw [hnat]
    · show 2 * (UInt32.ofNat n).toNat < 2 ^ 32
      omega
  apply Int32.lt_iff_toInt_lt.2
  rw [hint]
  exact Int.ofNat_lt.2 hpos

end Lengths

/-! ## The way of a message -/

section Message

variable {o : Outcomes} {msgId : UInt32} {data : List UInt8}

/-- The item of a message. -/
def item (msgId : UInt32) (data : List UInt8) : SerialArg :=
  { len := (4 + UInt32.ofNat data.length).toInt32, data := u32Bytes msgId ++ data,
    msgId := Pserial.rpcIdEventCustomRpc }

/-- What reaches the queue, once the message is packed. -/
theorem sendEventDataToHost_eq (h : data.length ≤ 8166) :
    sendEventDataToHost o Pserial.rpcIdEventCustomRpc (u32Bytes msgId ++ data)
        (4 + UInt32.ofNat data.length).toInt32 =
      if o.pserialCfg ∧ o.copy ∧ o.queued then some (item msgId data) else none := by
  have hall : (u32Bytes msgId ++ data).take (4 + UInt32.ofNat data.length).toInt32.toUInt32.toNat =
      u32Bytes msgId ++ data := by
    apply List.take_of_length_le
    rw [toNat_totalLen h, List.length_append, u32Bytes, length_leBytes]
  unfold sendEventDataToHost protocommPserialDataReady
  rw [hall]
  obtain ⟨buf, pserialCfg, copy, queued⟩ := o
  cases pserialCfg with
  | false => simp
  | true =>
    cases copy with
    | false =>
      rw [if_neg Bool.noConfusion, if_pos ⟨totalLen_ne_zero h, rfl⟩, if_neg (by simp)]
    | true => cases queued <;> simp [item]

/-- The three outcomes of a well-formed call. -/
theorem espHostedSendCustomData_eq (hne : data ≠ []) (h : data.length ≤ 8166) :
    espHostedSendCustomData o msgId data =
      if o.buf = false then (espErrNoMem, none)
      else (espOk, if o.pserialCfg ∧ o.copy ∧ o.queued then some (item msgId data) else none) := by
  have hnat := toNat_ofNat_of_le h
  have hpos : 0 < data.length := List.length_pos_iff.2 hne
  have hnonzero : UInt32.ofNat data.length ≠ 0 := by
    intro hzero
    rw [hzero] at hnat
    have hz : (0 : UInt32).toNat = 0 := rfl
    omega
  have hshort : ¬UInt32.ofNat data.length > 8166 := by
    intro hlong
    have hlt : 8166 < (UInt32.ofNat data.length).toNat := UInt32.lt_iff_toNat_lt.1 hlong
    omega
  simp only [espHostedSendCustomData, if_neg hnonzero, if_neg hshort, sendEventDataToHost_eq h]

/-- **Lossless**: the item of a message unpacks to the message. -/
theorem handleItem_item (hne : data ≠ []) (h : data.length ≤ 8166) :
    handleItem (item msgId data) = some (msgId, data) := by
  have hhead : (u32Bytes msgId).length = 4 := length_leBytes 4 _
  have hid : UInt32.ofNat (leNat (slice 0 4 (u32Bytes msgId ++ data))) = msgId := by
    rw [ slice_prefix data hhead, u32Bytes, leNat_leBytes_of_lt msgId.toNat_lt, UInt32.ofNat_toNat]
  have hdata : slice 4 (UInt32.ofNat data.length).toInt32.toUInt32.toNat (u32Bytes msgId ++ data) =
      data := by
    have hback : (UInt32.ofNat data.length).toInt32.toUInt32 = UInt32.ofNat data.length := rfl
    rw [slice_append_right _ _ (Nat.le_of_eq hhead), hhead, hback, toNat_ofNat_of_le h]
    exact slice_all rfl
  have hpos := userDataLen_pos h (List.length_pos_iff.2 hne)
  simp only [handleItem, item, rpcEvtCustomRpc, userDataLen_eq, hid, hdata, if_pos hpos]
  rfl

/-- The send is honest exactly where the packing buffer cannot be had, or everything behind it
works. -/
theorem honestLossless_iff (o : Outcomes) (msgId : UInt32) (hne : data ≠ [])
    (h : data.length ≤ 8166) :
    HonestLossless o msgId data ↔ o.buf = false ∨ (o.pserialCfg ∧ o.copy ∧ o.queued) := by
  unfold HonestLossless
  rw [espHostedSendCustomData_eq hne h]
  by_cases hbuf : o.buf = false
  · simp [hbuf, espErrNoMem_ne_ok]
  · by_cases hrest : (o.pserialCfg ∧ o.copy ∧ o.queued : Prop)
    · simp [hbuf, hrest, handleItem_item hne h]
    · simp [hbuf, hrest]

end Message

theorem honestLossless_byte : HonestLossless ⟨true, true, true, true⟩ 0xC175F004 [7] := by
  apply (honestLossless_iff ⟨true, true, true, true⟩ 0xC175F004 (by decide) (by decide)).2
  exact .inr ⟨rfl, rfl, rfl⟩

/-- **A lost event**: the copy for the queue cannot be allocated, and the caller is told
`ESP_OK`. -/
theorem send_not_honest :
    espHostedSendCustomData ⟨true, true, false, true⟩ 0xC175F004 [7] = (espOk, none) ∧
      ¬HonestLossless ⟨true, true, false, true⟩ 0xC175F004 [7] := by
  have hsend : espHostedSendCustomData ⟨true, true, false, true⟩ 0xC175F004 [7] =
    (espOk, none) := by
    decide
  refine ⟨hsend, fun h => ?_⟩
  unfold HonestLossless at h
  rw [hsend] at h
  obtain ⟨arg, harg⟩ := h.1.1 rfl
  cases harg

/-! ## The lists of the queue model -/

/-- The queue model, which has no lengths of its own, drops nothing of this. -/
theorem espHostedSendCustomData_eq_pserial (buf copy : Bool) (msgId : UInt32) {data : List UInt8}
    (h : data.length ≤ 8166) :
    (espHostedSendCustomData ⟨buf, true, copy, true⟩ msgId data).2.map
    (fun a => (a.data, a.msgId)) =
      match Pserial.espHostedSendCustomData buf copy msgId data with
      | .ok arg => arg.map fun a => (a.data, a.msgId)
      | .error _ => none := by
  by_cases hne : data = []
  · subst hne
    rfl
  · rw [espHostedSendCustomData_eq hne h]
    have hpack : u32Bytes msgId ++ data ≠ [] := by simp [hne]
    simp only [Pserial.espHostedSendCustomData, if_neg hne, if_neg (Nat.not_lt.2 h),
      Pserial.sendEventDataToHost, Pserial.protocommPserialDataReady]
    cases buf <;> cases copy <;> simp [item, hpack]

end EspHostedOpen.CustomData
