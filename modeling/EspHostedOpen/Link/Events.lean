import EspHostedOpen.Host.Events
import EspHostedOpen.Slave.Producers
import EspHostedOpen.Slave.Pserial

/-!
# Asynchronous events from the radio to the application

`delivered` is the way of an event: `esp_hosted_send_custom_data`, the queue entry,
`rpc_evt_custom_rpc`, the host's dispatch and handler. `event_contract` says that what a producer
puts in comes out, or nothing does, and that a handler of the host lets through exactly the byte
strings that hold what they declare.
-/

namespace EspHostedOpen

open ByteCodec

/-! ## The channel -/

/-- The allocations on the way: two in `esp_hosted_send_custom_data`, two in
`rpc_evt_custom_rpc`. -/
structure ChannelAllocs where
  buf : Bool
  copy : Bool
  ntfy : Bool
  bytes : Bool

def ChannelAllocs.ok (a : ChannelAllocs) : Bool := a.buf && a.copy && a.ntfy && a.bytes

/-- `rpc_evt_custom_rpc`: the id and the bytes of the notification; without memory for the bytes it
goes out without them. -/
def rpcEvtCustomRpc (ntfy bytes : Bool) (data : List UInt8) : Option (UInt32 × List UInt8) :=
  if ntfy = false then none
  else
    let msgId := UInt32.ofNat (leNat (slice 0 4 data))
    let userData := data.drop 4
    if userData ≠ [] ∧ bytes = false then some (msgId, []) else some (msgId, userData)

/-- From the slave's call to the host's event. -/
def eventChannel (a : ChannelAllocs) (msg : UInt32 × List UInt8) : Option (UInt32 × List UInt8) :=
  match Pserial.espHostedSendCustomData a.buf a.copy msg.1 msg.2 with
  | .ok (some arg) => rpcEvtCustomRpc a.ntfy a.bytes arg.data
  | _ => none

/-- What the application gets of an event. -/
def delivered {κ : Type} (cbs : EventCallbacks κ) (a : ChannelAllocs) (msg : UInt32 × List UInt8) :
    Option (Upcall κ) :=
  (eventChannel a msg).bind fun m => rpcParseEvt cbs m.1 m.2

section Channel

variable {κ : Type} {a : ChannelAllocs} {data : List UInt8}

/-- Id and bytes cross unchanged. -/
theorem eventChannel_ok (ha : a.ok = true) (hne : data ≠ []) (hlen : data.length ≤ 8166)
    (id : UInt32) :
    eventChannel a (id, data) = some (id, data) := by
  simp only [ChannelAllocs.ok, Bool.and_eq_true] at ha
  obtain ⟨⟨⟨hbuf, hcopy⟩, hntfy⟩, hbytes⟩ := ha
  have hhead : (u32Bytes id).length = 4 := length_leBytes 4 _
  have hid : UInt32.ofNat (leNat (slice 0 4 (u32Bytes id ++ data))) = id := by
    rw [ slice_prefix data hhead, u32Bytes, leNat_leBytes_of_lt id.toNat_lt, UInt32.ofNat_toNat]
  have hdata : (u32Bytes id ++ data).drop 4 = data := List.drop_left' hhead
  simp [eventChannel, Pserial.espHostedSendCustomData, Pserial.sendEventDataToHost,
    Pserial.protocommPserialDataReady, rpcEvtCustomRpc, hne, Nat.not_lt.2 hlen, hbuf, hcopy, hntfy,
    hbytes, hid, hdata]

/-- Too much is refused by `esp_hosted_send_custom_data`. -/
theorem eventChannel_long (a : ChannelAllocs) (hlen : 8166 < data.length) (id : UInt32) :
    eventChannel a (id, data) = none := by
  have hne : data ≠ [] := by
    rintro rfl
    cases hlen
  simp [eventChannel, Pserial.espHostedSendCustomData, hne, hlen]

/-- No handler accepts an event without bytes. -/
theorem onEvent_nil (cbs : EventCallbacks κ) (e : Evt) : onEvent cbs [] e = none := by
  cases e <;> rfl

/-- **What comes of an event**: its handler gets the bytes, or nothing happens. -/
theorem delivered_msgId (cbs : EventCallbacks κ) (a : ChannelAllocs) (e : Evt) (hne : data ≠ [])
    (hlen : data.length ≤ 8166) :
    delivered cbs a (e.msgId, data) = if a.ok then onEvent cbs data e else none := by
  by_cases ha : a.ok = true
  · rw [if_pos ha, delivered, eventChannel_ok ha hne hlen, Option.bind_some, rpcParseEvt_msgId]
  · rw [if_neg ha, delivered]
    -- the id still arrives where only the copy of the bytes failed
    have hlost : eventChannel a (e.msgId, data) = none ∨ eventChannel a (e.msgId, data) =
      some (e.msgId, []) := by
      have hhead : (u32Bytes e.msgId).length = 4 := length_leBytes 4 _
      have hid : UInt32.ofNat (leNat (slice 0 4 (u32Bytes e.msgId ++ data))) = e.msgId := by
        rw [ slice_prefix data hhead, u32Bytes, leNat_leBytes_of_lt (UInt32.toNat_lt _),
          UInt32.ofNat_toNat]
      have hdata : (u32Bytes e.msgId ++ data).drop 4 = data := List.drop_left' hhead
      obtain ⟨buf, copy, ntfy, bytes⟩ := a
      cases buf <;> cases copy <;> cases ntfy <;> cases bytes <;>
        simp_all [eventChannel, Pserial.espHostedSendCustomData, Pserial.sendEventDataToHost,
          Pserial.protocommPserialDataReady, rpcEvtCustomRpc, ChannelAllocs.ok, Nat.not_lt.2 hlen]
    rcases hlost with h | h
    · rw [h]
      rfl
    · rw [h, Option.bind_some, rpcParseEvt_msgId, onEvent_nil]

end Channel

/-! ## Reading members back -/

section Members

variable {t : Packed} {k : Nat} {data : List UInt8}

theorem memberU8_of {b : UInt8} (h : slice (t.offset k) 1 data = [b]) : memberU8 t k data = b := by
  rw [memberU8, memberBytes, h, leNat_cons, leNat_nil, Nat.mul_zero, Nat.add_zero,
    UInt8.ofNat_toNat]

theorem memberI8_of {b : Int8} (h : slice (t.offset k) 1 data = [b.toUInt8]) :
    memberI8 t k data = b := by
  rw [memberI8, memberU8_of h, Int8.toInt8_toUInt8]

theorem memberU16_of {n : Nat} (h : slice (t.offset k) 2 data = leBytes 2 n) (hn : n < 65536) :
    memberU16 t k data = n := by
  rw [memberU16, memberBytes, h, leNat_leBytes_of_lt hn]

theorem memberU32_of {n : UInt32} (h : slice (t.offset k) 4 data = leBytes 4 n.toNat) :
    memberU32 t k data = n := by
  rw [memberU32, memberBytes, h, leNat_leBytes_of_lt n.toNat_lt, UInt32.ofNat_toNat]

end Members

/-- A producer that allocates its event, fills it and sends it: what the handler of the host makes
of a filled block, or nothing. -/
theorem delivered_alloc {κ : Type} {malloc : Malloc} {e : Evt} {n : Nat} {ws : List Store}
    {result : Option (Upcall κ)} (hsize : 0 < e.struct.sizeof) (hfit : e.struct.sizeof + n ≤ 8166)
    (cbs : EventCallbacks κ) (a : ChannelAllocs)
    (hfill : (malloc (e.struct.sizeof + n)).isSome = true →
      ∃ buf, allocStores malloc (e.struct.sizeof + n) ws = some buf ∧ buf.length =
        e.struct.sizeof + n ∧
        onEvent cbs buf e = result) :
    ((allocStores malloc (e.struct.sizeof + n) ws).map (e.msgId, ·)).bind (delivered cbs a) =
      if (malloc (e.struct.sizeof + n)).isSome = true ∧ a.ok = true then result else none := by
  cases hmalloc : (malloc (e.struct.sizeof + n)).isSome with
  | false =>
    rw [allocStores_none hmalloc]
    simp
  | true =>
    obtain ⟨buf, hbuf, hbuflen, hevent⟩ := hfill hmalloc
    have hne : buf ≠ [] := List.ne_nil_of_length_pos (by omega)
    rw [hbuf, Option.map_some, Option.bind_some, delivered_msgId cbs a e hne (by omega), hevent]
    simp

/-- Filled in order, every member reads back. -/
theorem delivered_filled {κ : Type} {malloc : Malloc} {e : Evt} {n : Nat} {ws : List Store}
    {result : Option (Upcall κ)} (hin : ∀ w ∈ ws, w.stop ≤ e.struct.sizeof + n)
    (hsorted : Sorted ws)
    (hsize : 0 < e.struct.sizeof) (hfit : e.struct.sizeof + n ≤ 8166) (cbs : EventCallbacks κ)
    (a : ChannelAllocs)
    (hread : ∀ buf, buf.length = e.struct.sizeof + n → (∀ w ∈ ws, slice w.1 w.2.length buf = w.2) →
      onEvent cbs buf e = result) :
    ((allocStores malloc (e.struct.sizeof + n) ws).map (e.msgId, ·)).bind (delivered cbs a) =
      if (malloc (e.struct.sizeof + n)).isSome = true ∧ a.ok = true then result else none := by
  refine delivered_alloc hsize hfit cbs a fun hmalloc => ?_
  obtain ⟨buf, hbuf, hbuflen, hback⟩ := allocStores_sorted hmalloc hin hsorted
  exact ⟨buf, hbuf, hbuflen, hread buf hbuflen hback⟩

/-! ## Promiscuous frames -/

/-- The metadata the slave's producer puts in. -/
def WifiPromiscuousPkt.rawMeta (p : WifiPromiscuousPkt) (type : WifiPktType) : RawMeta :=
  { rssiDbm := p.rssi, channel := p.channel, rate := p.rate, isQos := isQos p type ≠ 0
    timestampUs := p.timestamp }

theorem WifiPromiscuousPkt.length_frame (p : WifiPromiscuousPkt) : p.frame.length = p.sigLen := by
  rw [frame, List.length_take]
  exact Nat.min_eq_left p.inside

section Raw

variable {κ : Type} {malloc : Malloc} {p : WifiPromiscuousPkt} {type : WifiPktType}

/-- The queued structure holds what was assigned. -/
theorem rawEvt_filled (hmalloc : (malloc (rawEvt.sizeof + p.sigLen)).isSome = true) :
    ∃ e, allocStores malloc (rawEvt.sizeof + p.sigLen) (rawEvtStores p type) = some e ∧
      ∀ w ∈ rawEvtStores p type, slice w.1 w.2.length e = w.2 := by
  have hin : ∀ w ∈ rawEvtStores p type, w.stop ≤ rawEvt.sizeof + p.sigLen := by
    simp [rawEvtStores, Store.stop, rawEvt, Packed.offset, Packed.sizeof, p.length_frame]
    omega
  have hsorted : Sorted (rawEvtStores p type) := by
    simp [Sorted, rawEvtStores, Store.stop, rawEvt, Packed.offset, Packed.sizeof]
  obtain ⟨e, he, -, hread⟩ := allocStores_sorted hmalloc hin hsorted
  exact ⟨e, he, hread⟩

/-- What `raw_forward_task` assigns, from a structure that `promisc_cb` filled. -/
theorem rawFrameStores_filled {e : List UInt8}
    (he : ∀ w ∈ rawEvtStores p type, slice w.1 w.2.length e = w.2) :
    rawFrameStores e p.sigLen =
      let t := Evt.rawFrame.struct
      [(t.offset 0, [p.rssi.toUInt8]), (t.offset 1, [p.channel]), (t.offset 2, [p.rate]),
        (t.offset 3, [isQos p type]), (t.offset 4, leBytes 2 p.sigLen), (t.offset 5, [0, 0]),
        (t.offset 6, leBytes 4 p.timestamp.toNat), (t.sizeof, p.frame)] := by
  have hrssi : slice (rawEvt.offset 0) 1 e = [p.rssi.toUInt8] :=
    he _ (List.mem_of_getElem? (i := 0) rfl)
  have hchannel : slice (rawEvt.offset 1) 1 e = [p.channel] :=
    he _ (List.mem_of_getElem? (i := 1) rfl)
  have hrate : slice (rawEvt.offset 2) 1 e = [p.rate] := he _ (List.mem_of_getElem? (i := 2) rfl)
  have hqos : slice (rawEvt.offset 3) 1 e = [isQos p type] :=
    he _ (List.mem_of_getElem? (i := 3) rfl)
  have hlen : slice (rawEvt.offset 4) 2 e = leBytes 2 p.sigLen :=
    he _ (List.mem_of_getElem? (i := 4) rfl)
  have htime : slice (rawEvt.offset 6) 4 e = leBytes 4 p.timestamp.toNat :=
    he _ (List.mem_of_getElem? (i := 5) rfl)
  have hframe : slice rawEvt.sizeof p.frame.length e = p.frame :=
    he _ (List.mem_of_getElem? (i := 6) rfl)
  rw [p.length_frame] at hframe
  simp only [rawFrameStores, hrssi, hchannel, hrate, hqos, hlen, htime, hframe]

theorem rawEvt_frameLen {e : List UInt8} (hlen : p.sigLen ≤ 1600)
    (he : ∀ w ∈ rawEvtStores p type, slice w.1 w.2.length e = w.2) :
    leNat (slice (rawEvt.offset 4) 2 e) = p.sigLen := by
  have hbytes : slice (rawEvt.offset 4) 2 e = leBytes 2 p.sigLen :=
    he _ (List.mem_of_getElem? (i := 4) rfl)
  rw [hbytes, leNat_leBytes_of_lt (by omega)]

theorem rawFrameStores_laid {e : List UInt8}
    (he : ∀ w ∈ rawEvtStores p type, slice w.1 w.2.length e = w.2) :
    (∀ w ∈ rawFrameStores e p.sigLen, w.stop ≤ Evt.rawFrame.struct.sizeof + p.sigLen) ∧
      Sorted (rawFrameStores e p.sigLen) := by
  rw [rawFrameStores_filled he]
  constructor
  · simp [Store.stop, Evt.struct, Packed.offset, Packed.sizeof, p.length_frame]
    omega
  · simp [Sorted, Store.stop, Evt.struct, Packed.offset, Packed.sizeof]

/-- From the queue on: the handler of the host reads the frame back. -/
theorem delivered_rawForwardTask {e : List UInt8} (hlen : p.sigLen ≤ 1600)
    (he : ∀ w ∈ rawEvtStores p type, slice w.1 w.2.length e = w.2) (cbs : EventCallbacks κ)
    (a : ChannelAllocs) :
    (rawForwardTask malloc e).bind (delivered cbs a) =
      if (malloc (Evt.rawFrame.struct.sizeof + p.sigLen)).isSome = true ∧ a.ok = true then
        cbs.raw.map fun ctx => .raw ctx p.frame (p.rawMeta type)
      else none := by
  obtain ⟨hin, hsorted⟩ := rawFrameStores_laid he
  have hsizeof : Evt.rawFrame.struct.sizeof = 12 := rfl
  rw [rawForwardTask, rawEvt_frameLen hlen he]
  refine delivered_filled hin hsorted (by omega) (by omega) cbs a fun buf hbuflen hread => ?_
  rw [rawFrameStores_filled he] at hread
  have hrssi : memberI8 Evt.rawFrame.struct 0 buf = p.rssi :=
    memberI8_of (hread _ (List.mem_of_getElem? (i := 0) rfl))
  have hchannel : memberU8 Evt.rawFrame.struct 1 buf = p.channel :=
    memberU8_of (hread _ (List.mem_of_getElem? (i := 1) rfl))
  have hrate : memberU8 Evt.rawFrame.struct 2 buf = p.rate :=
    memberU8_of (hread _ (List.mem_of_getElem? (i := 2) rfl))
  have hqos : memberU8 Evt.rawFrame.struct 3 buf = isQos p type :=
    memberU8_of (hread _ (List.mem_of_getElem? (i := 3) rfl))
  have hdeclared : memberU16 Evt.rawFrame.struct 4 buf = p.sigLen :=
    memberU16_of (hread _ (List.mem_of_getElem? (i := 4) rfl)) (by omega)
  have htime : memberU32 Evt.rawFrame.struct 6 buf = p.timestamp :=
    memberU32_of (hread _ (List.mem_of_getElem? (i := 6) rfl))
  have hframe : slice Evt.rawFrame.struct.sizeof p.frame.length buf = p.frame :=
    hread _ (List.mem_of_getElem? (i := 7) rfl)
  rw [p.length_frame] at hframe
  rw [onEvent, onEventRaw, onTailed_of_length hdeclared hbuflen, Option.map_map]
  simp only [Function.comp_def, TailCall.payload, hframe, hrssi, hchannel, hrate, hqos, htime,
    WifiPromiscuousPkt.rawMeta]

/-- Into the queue: a frame that `promisc_cb` queues, or none. -/
theorem promiscCb_cases (rawQ queued : Bool) (malloc : Malloc) (p : WifiPromiscuousPkt)
    (type : WifiPktType) (hlen : p.sigLen ≤ 1600) :
    (type ≠ .misc ∧ rawQ = true ∧ queued = true ∧
      (malloc (rawEvt.sizeof + p.sigLen)).isSome = true ∧
      ∃ e, promiscCb rawQ queued malloc p type = some e ∧
        ∀ w ∈ rawEvtStores p type, slice w.1 w.2.length e = w.2) ∨
    (¬(type ≠ .misc ∧ rawQ = true ∧ queued = true ∧
        (malloc (rawEvt.sizeof + p.sigLen)).isSome = true) ∧
      promiscCb rawQ queued malloc p type = none) := by
  have hfits : ¬p.sigLen > 1600 := by omega
  unfold promiscCb
  by_cases hrawQ : rawQ = false
  · rw [if_pos hrawQ]
    exact .inr ⟨fun h => by simp [hrawQ] at h, rfl⟩
  · rw [if_neg hrawQ]
    by_cases htype : type = .misc
    · rw [if_pos htype]
      exact .inr ⟨fun h => h.1 htype, rfl⟩
    · rw [if_neg htype, if_neg hfits]
      cases hmalloc : (malloc (rawEvt.sizeof + p.sigLen)).isSome with
      | false =>
        rw [allocStores_none hmalloc]
        exact .inr ⟨fun h => Bool.false_ne_true h.2.2.2, rfl⟩
      | true =>
        have hfilled := @rawEvt_filled malloc p type hmalloc
        obtain ⟨e, he, hread⟩ := hfilled
        rw [he]
        by_cases hqueued : queued = true
        · exact .inl ⟨htype, by simpa using hrawQ, hqueued, rfl, e, if_pos hqueued, hread⟩
        · exact .inr ⟨fun h => hqueued h.2.2.1, if_neg hqueued⟩

/-- From `promisc_cb` to the application. -/
def promiscEvent (rawQ queued : Bool) (malloc malloc' : Malloc) (a : ChannelAllocs)
    (cbs : EventCallbacks κ) (p : WifiPromiscuousPkt) (type : WifiPktType) : Option (Upcall κ) :=
  ((promiscCb rawQ queued malloc p type).bind (rawForwardTask malloc')).bind (delivered cbs a)

/-- The slave forwards the frame: not one of no kind, the queue exists and takes it, and there is
memory for each of the copies. -/
def RawForwarded (rawQ queued : Bool) (malloc malloc' : Malloc) (a : ChannelAllocs)
    (p : WifiPromiscuousPkt) (type : WifiPktType) : Prop :=
  type ≠ .misc ∧ rawQ = true ∧ queued = true ∧ (malloc (rawEvt.sizeof + p.sigLen)).isSome = true ∧
    (malloc' (Evt.rawFrame.struct.sizeof + p.sigLen)).isSome = true ∧ a.ok = true

instance (rawQ queued : Bool) (malloc malloc' : Malloc) (a : ChannelAllocs) (p : WifiPromiscuousPkt)
    (type : WifiPktType) : Decidable (RawForwarded rawQ queued malloc malloc' a p type) :=
  inferInstanceAs (Decidable (_ ∧ _))

theorem promiscEvent_eq (rawQ queued : Bool) (malloc malloc' : Malloc) (a : ChannelAllocs)
    (cbs : EventCallbacks κ) (p : WifiPromiscuousPkt) (type : WifiPktType)
    (hlen : p.sigLen ≤ 1600) :
    promiscEvent rawQ queued malloc malloc' a cbs p type =
      if RawForwarded rawQ queued malloc malloc' a p type then
        cbs.raw.map fun ctx => .raw ctx p.frame (p.rawMeta type)
      else none := by
  rw [promiscEvent]
  rcases promiscCb_cases rawQ queued malloc p type hlen with
    ⟨htype, hrawQ, hqueued, hmalloc, e, he, hread⟩ | ⟨hlost, hnone⟩
  · rw [he, Option.bind_some, delivered_rawForwardTask hlen hread]
    simp [RawForwarded, htype, hrawQ, hqueued, hmalloc]
  · rw [hnone, if_neg fun h => hlost ⟨h.1, h.2.1, h.2.2.1, h.2.2.2.1⟩]
    rfl

end Raw

/-! ## CSI -/

theorem WifiCsiInfo.length_capture (info : WifiCsiInfo) (hbuf : info.buf ≠ none) :
    info.capture.length = info.len.toNat := by
  obtain ⟨b, hb⟩ := Option.ne_none_iff_exists'.1 hbuf
  rw [capture, hb, Option.getD_some, List.length_take]
  exact Nat.min_eq_left (info.inside b hb)

theorem csiStores_laid (info : WifiCsiInfo) (hbuf : info.buf ≠ none) :
    (∀ w ∈ csiStores info, w.stop ≤ Evt.csi.struct.sizeof + info.len.toNat) ∧
      Sorted (csiStores info) := by
  have hcapture := info.length_capture hbuf
  have hmac : info.mac.toList.length = 6 := info.mac.length_toList
  constructor
  · simp [csiStores, Store.stop, Evt.struct, Packed.offset, Packed.sizeof, hcapture]
    omega
  · simp [csiStores, Sorted, Store.stop, Evt.struct, Packed.offset, Packed.sizeof]

def WifiCsiInfo.csiMeta (info : WifiCsiInfo) : CsiMeta :=
  { rssiDbm := info.rssi, channel := info.channel, srcMac := info.mac.toList
    timestampUs := info.timestamp }

/-- From `csi_cb` to the application. -/
def csiEvent {κ : Type} (malloc : Malloc) (a : ChannelAllocs) (cbs : EventCallbacks κ)
    (info : Option WifiCsiInfo) : Option (Upcall κ) :=
  (csiCb malloc info).bind (delivered cbs a)

theorem csiEvent_eq {κ : Type} (malloc : Malloc) (a : ChannelAllocs) (cbs : EventCallbacks κ)
    (info : WifiCsiInfo) (hbuf : info.buf ≠ none)
    (hlen : 1 ≤ info.len.toNat ∧ info.len.toNat ≤ 8150) :
    csiEvent malloc a cbs (some info) =
      if (malloc (Evt.csi.struct.sizeof + info.len.toNat)).isSome = true ∧ a.ok = true then
        cbs.csi.map fun ctx => .csi ctx info.capture info.csiMeta
      else none := by
  have hcapture := info.length_capture hbuf
  have hmac : info.mac.toList.length = 6 := info.mac.length_toList
  obtain ⟨hin, hsorted⟩ := csiStores_laid info hbuf
  have hsizeof : Evt.csi.struct.sizeof = 16 := rfl
  have hadm : ¬(info.buf = none ∨ info.len.toNat = 0) := by
    rintro (h | h)
    · exact hbuf h
    · omega
  rw [csiEvent, csiCb, if_neg hadm]
  refine delivered_filled hin hsorted (by omega) (by omega) cbs a fun buf hbuflen hread => ?_
  have hrssi : memberI8 Evt.csi.struct 0 buf = info.rssi :=
    memberI8_of (hread _ (List.mem_of_getElem? (i := 0) rfl))
  have hchannel : memberU8 Evt.csi.struct 1 buf = info.channel :=
    memberU8_of (hread _ (List.mem_of_getElem? (i := 1) rfl))
  have hsrc : slice (Evt.csi.struct.offset 2) info.mac.toList.length buf = info.mac.toList :=
    hread _ (List.mem_of_getElem? (i := 2) rfl)
  have hdeclared : memberU16 Evt.csi.struct 3 buf = info.len.toNat :=
    memberU16_of (hread _ (List.mem_of_getElem? (i := 3) rfl)) info.len.toNat_lt
  have htime : memberU32 Evt.csi.struct 5 buf = info.timestamp :=
    memberU32_of (hread _ (List.mem_of_getElem? (i := 5) rfl))
  have htail : slice Evt.csi.struct.sizeof info.capture.length buf = info.capture :=
    hread _ (List.mem_of_getElem? (i := 6) rfl)
  rw [hmac] at hsrc
  rw [hcapture] at htail
  rw [onEvent, onEventCsi, onTailed_of_length hdeclared hbuflen, Option.map_map]
  simp only [Function.comp_def, TailCall.payload, htail, hrssi, hchannel, htime, memberBytes, hsrc,
    WifiCsiInfo.csiMeta]

/-! ## ESP-NOW -/

theorem espnowRxStores_laid (info : EspNowRecvInfo) (data : List UInt8) :
    (∀ w ∈ espnowRxStores info data, w.stop ≤ Evt.espnowRx.struct.sizeof + data.length) ∧
      Sorted (espnowRxStores info data) := by
  have hsrclen : info.srcAddr.toList.length = 6 := info.srcAddr.length_toList
  have hdstlen : info.desAddr.toList.length = 6 := info.desAddr.length_toList
  constructor
  · simp [espnowRxStores, Store.stop, Evt.struct, Packed.offset, Packed.sizeof]
    omega
  · simp [espnowRxStores, Sorted, Store.stop, Evt.struct, Packed.offset, Packed.sizeof]

def EspNowRecvInfo.espnowMeta (info : EspNowRecvInfo) : EspnowMeta :=
  { srcMac := info.srcAddr.toList, dstMac := info.desAddr.toList, rssiDbm := info.rssi
    channel := info.channel }

/-- From `espnow_rx_cb` to the application. -/
def espnowRxEvent {κ : Type} (malloc : Malloc) (a : ChannelAllocs) (cbs : EventCallbacks κ)
    (info : EspNowRecvInfo) (data : List UInt8) : Option (Upcall κ) :=
  (espnowRxCb malloc info data).bind (delivered cbs a)

theorem espnowRxEvent_eq {κ : Type} (malloc : Malloc) (a : ChannelAllocs) (cbs : EventCallbacks κ)
    (info : EspNowRecvInfo) (data : List UInt8) (hlen : 1 ≤ data.length ∧ data.length ≤ 250) :
    espnowRxEvent malloc a cbs info data =
      if (malloc (Evt.espnowRx.struct.sizeof + data.length)).isSome = true ∧ a.ok = true then
        cbs.espnowRx.map fun ctx => .espnowRx ctx data info.espnowMeta
      else none := by
  have hsrclen : info.srcAddr.toList.length = 6 := info.srcAddr.length_toList
  have hdstlen : info.desAddr.toList.length = 6 := info.desAddr.length_toList
  obtain ⟨hin, hsorted⟩ := espnowRxStores_laid info data
  have hsizeof : Evt.espnowRx.struct.sizeof = 16 := rfl
  have hadm : ¬(data.length = 0 ∨ data.length > 250) := by omega
  rw [espnowRxEvent, espnowRxCb, if_neg hadm]
  refine delivered_filled hin hsorted (by omega) (by omega) cbs a fun buf hbuflen hread => ?_
  have hsrc : slice (Evt.espnowRx.struct.offset 0) info.srcAddr.toList.length buf =
    info.srcAddr.toList :=
    hread _ (List.mem_of_getElem? (i := 0) rfl)
  have hdst : slice (Evt.espnowRx.struct.offset 1) info.desAddr.toList.length buf =
    info.desAddr.toList :=
    hread _ (List.mem_of_getElem? (i := 1) rfl)
  have hrssi : memberI8 Evt.espnowRx.struct 2 buf = info.rssi :=
    memberI8_of (hread _ (List.mem_of_getElem? (i := 2) rfl))
  have hchannel : memberU8 Evt.espnowRx.struct 3 buf = info.channel :=
    memberU8_of (hread _ (List.mem_of_getElem? (i := 3) rfl))
  have hdeclared : memberU16 Evt.espnowRx.struct 4 buf = data.length :=
    memberU16_of (hread _ (List.mem_of_getElem? (i := 4) rfl)) (by omega)
  have htail : slice Evt.espnowRx.struct.sizeof data.length buf = data :=
    hread _ (List.mem_of_getElem? (i := 5) rfl)
  rw [hsrclen] at hsrc
  rw [hdstlen] at hdst
  rw [onEvent, onEventEspnowRx, onTailed_of_length hdeclared hbuflen, Option.map_map]
  simp only [Function.comp_def, TailCall.payload, htail, hrssi, hchannel, memberBytes, hsrc, hdst,
    EspNowRecvInfo.espnowMeta]

/-- From `espnow_tx_cb` to the application. -/
def espnowTxEvent {κ : Type} (a : ChannelAllocs) (cbs : EventCallbacks κ) (info : Option WifiTxInfo)
    (status : EspNowSendStatus) : Option (Upcall κ) :=
  delivered cbs a (espnowTxCb info status)

theorem espnowTxEvent_eq {κ : Type} (a : ChannelAllocs) (cbs : EventCallbacks κ) (own : Mac)
    (des : Option Mac) (status : EspNowSendStatus) :
    espnowTxEvent a cbs (some ⟨des, some own⟩) status =
      if a.ok = true then
        cbs.espnowTx.map fun ctx => .espnowTx ctx own.toList (status = .success)
      else none := by
  have hown : own.toList.length = 6 := own.length_toList
  have hsizeof : Evt.espnowTxStatus.struct.sizeof = 8 := rfl
  have hbytes : ∀ b : UInt8, (own.toList ++ [b, 0]).length = 8 := by
    intro b
    rw [List.length_append, hown]
    rfl
  have hne : ∀ b : UInt8, own.toList ++ [b, 0] ≠ [] := fun b =>
    List.ne_nil_of_length_pos (by rw [hbytes]; decide)
  have hpeer : ∀ b : UInt8, memberBytes Evt.espnowTxStatus.struct 0 (own.toList ++ [b, 0]) 6 =
    own.toList :=
    fun b => slice_prefix _ hown
  have hstatus : ∀ b : UInt8, memberU8 Evt.espnowTxStatus.struct 1 (own.toList ++ [b, 0]) = b := by
    intro b
    refine memberU8_of ?_
    show slice 6 1 (own.toList ++ [b, 0]) = [b]
    rw [slice_append_right _ _ (Nat.le_of_eq hown), hown]
    rfl
  rw [espnowTxEvent, espnowTxCb]
  simp only [Option.bind_some]
  rw [delivered_msgId cbs a .espnowTxStatus (hne _) (by rw [hbytes]; decide), onEvent,
    onEventEspnowTx]
  simp only [hbytes, hsizeof, hpeer, hstatus, Nat.lt_irrefl, if_false, Option.map_map]
  cases status <;> rfl

/-! ## 802.15.4 -/

/-- What `esp_ieee802154_receive_done` leaves at zero. -/
def noIeee154Meta : Ieee154Meta := { rssiDbm := 0, lqi := 0, channel := 0, timestampUs := 0 }

theorem Ieee802154Frame.length_body (f : Ieee802154Frame) (hphr : f.phr.toNat ≤ 127) :
    f.body.length = f.phr.toNat := by
  rw [body, List.length_take]
  exact Nat.min_eq_left (f.inside hphr)

/-- From `esp_ieee802154_receive_done` to the application. -/
def ieee154RxEvent {κ : Type} (malloc : Malloc) (a : ChannelAllocs) (cbs : EventCallbacks κ)
    (frame : Option Ieee802154Frame) : Option (Upcall κ) :=
  (espIeee802154ReceiveDone malloc frame).bind (delivered cbs a)

theorem ieee154RxEvent_eq {κ : Type} (malloc : Malloc) (a : ChannelAllocs) (cbs : EventCallbacks κ)
    (f : Ieee802154Frame) (hphr : 2 ≤ f.phr.toNat ∧ f.phr.toNat ≤ 127) :
    ieee154RxEvent malloc a cbs (some f) =
      if (malloc (Evt.ieee154Rx.struct.sizeof + f.phr.toNat)).isSome = true ∧ a.ok = true then
        cbs.ieee154Rx.map fun ctx => .ieee154Rx ctx f.body noIeee154Meta
      else none := by
  have hbody := f.length_body hphr.2
  have hsizeof : Evt.ieee154Rx.struct.sizeof = 12 := rfl
  have hlenAt : Evt.ieee154Rx.struct.offset 4 = 4 := rfl
  have hadm : ¬(f.phr.toNat < 2 ∨ f.phr.toNat > 127) := by omega
  rw [ieee154RxEvent, espIeee802154ReceiveDone, if_neg hadm]
  refine delivered_alloc (by omega) (by omega) cbs a fun hmalloc => ?_
  have hin : ∀ w ∈ (ieee154RxStores f).tail,
    w.stop ≤ Evt.ieee154Rx.struct.sizeof + f.phr.toNat := by
    simp [ieee154RxStores, Store.stop, Evt.struct, Packed.offset, Packed.sizeof, hbody]
    omega
  have hsorted : Sorted (ieee154RxStores f).tail := by
    simp [ieee154RxStores, Sorted, Store.stop, Evt.struct, Packed.offset, Packed.sizeof]
  obtain ⟨buf, hbuf, hbuflen, hread, hzero⟩ :=
    allocStores_zeroed hmalloc (Nat.le_add_right Evt.ieee154Rx.struct.sizeof _) hin hsorted
  refine ⟨buf, hbuf, hbuflen, ?_⟩
  -- the members but the length lie beside it, in the zeroed part
  have hrest : ∀ off n, off + n ≤ 12 → off + n ≤ 4 ∨ 6 ≤ off →
    slice off n buf = List.replicate n 0 := by
    intro off n hoff hapart
    refine hzero off n hoff ?_
    simp [ieee154RxStores, Store.stop, hlenAt, hsizeof]
    omega
  have hrssi : memberI8 Evt.ieee154Rx.struct 0 buf = 0 :=
    memberI8_of (hrest 0 1 (by decide) (by decide))
  have hlqi : memberU8 Evt.ieee154Rx.struct 1 buf = 0 :=
    memberU8_of (hrest 1 1 (by decide) (by decide))
  have hchannel : memberU8 Evt.ieee154Rx.struct 2 buf = 0 :=
    memberU8_of (hrest 2 1 (by decide) (by decide))
  have htime : memberU32 Evt.ieee154Rx.struct 6 buf = 0 :=
    memberU32_of (hrest 8 4 (by decide) (by decide))
  have hdeclared : memberU16 Evt.ieee154Rx.struct 4 buf = f.phr.toNat :=
    memberU16_of (hread _ (List.mem_of_getElem? (i := 0) rfl)) (by omega)
  have htail : slice Evt.ieee154Rx.struct.sizeof f.body.length buf = f.body :=
    hread _ (List.mem_of_getElem? (i := 1) rfl)
  rw [hbody] at htail
  rw [onEvent, onEventIeee154Rx, onTailed_of_length hdeclared hbuflen, Option.map_map]
  simp only [Function.comp_def, TailCall.payload, htail, hrssi, hlqi, hchannel, htime,
    noIeee154Meta]

/-! ## The contract -/

/-- What an event is worth: what goes in comes out, and what does not fit does nothing. -/
structure EventContract (κ : Type) : Prop where
  /-- A forwarded promiscuous frame arrives with its metadata. -/
  promisc : ∀ rawQ queued malloc malloc' a (cbs : EventCallbacks κ) (p : WifiPromiscuousPkt) type,
    p.sigLen ≤ 1600 → promiscEvent rawQ queued malloc malloc' a cbs p type =
      if RawForwarded rawQ queued malloc malloc' a p type then
        cbs.raw.map fun ctx => .raw ctx p.frame (p.rawMeta type)
      else none
  csi : ∀ malloc a (cbs : EventCallbacks κ) (info : WifiCsiInfo), info.buf ≠ none →
    1 ≤ info.len.toNat ∧ info.len.toNat ≤ 8150 → csiEvent malloc a cbs (some info) =
      if (malloc (Evt.csi.struct.sizeof + info.len.toNat)).isSome = true ∧ a.ok = true then
        cbs.csi.map fun ctx => .csi ctx info.capture info.csiMeta
      else none
  ieee154 : ∀ malloc a (cbs : EventCallbacks κ) (f : Ieee802154Frame),
    2 ≤ f.phr.toNat ∧ f.phr.toNat ≤ 127 → ieee154RxEvent malloc a cbs (some f) =
      if (malloc (Evt.ieee154Rx.struct.sizeof + f.phr.toNat)).isSome = true ∧ a.ok = true then
        cbs.ieee154Rx.map fun ctx => .ieee154Rx ctx f.body noIeee154Meta
      else none
  ocbRuns : RunsOnFitting Evt.ocbFrame.struct 3 (@onEventOcb κ)
  rawRuns : RunsOnFitting Evt.rawFrame.struct 4 (@onEventRaw κ)
  csiRuns : RunsOnFitting Evt.csi.struct 3 (@onEventCsi κ)
  espnowRxRuns : RunsOnFitting Evt.espnowRx.struct 4 (@onEventEspnowRx κ)
  ieee154Runs : RunsOnFitting Evt.ieee154Rx.struct 4 (@onEventIeee154Rx κ)

/-- **Events survive the wire**, and malformed ones do nothing. -/
theorem event_contract (κ : Type) : EventContract κ where
  promisc := promiscEvent_eq
  csi := csiEvent_eq
  ieee154 := ieee154RxEvent_eq
  ocbRuns := onTailed_runs _ _ _
  rawRuns := onTailed_runs _ _ _
  csiRuns := onTailed_runs _ _ _
  espnowRxRuns := onTailed_runs _ _ _
  ieee154Runs := onTailed_runs _ _ _

end EspHostedOpen
