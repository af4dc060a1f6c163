import EspHostedOpen.Lib.Transition
import EspHostedOpen.Link.Events
import EspHostedOpen.Slave.Status
import EspHostedOpen.Slave.Table

/-!
# Event sources: what enabling one sets up, and what it delivers

SET_PROMISC, SET_CSI_ENABLE, FTM_INITIATE and ESPNOW_INIT each put something in place (a queue with
a forwarding task behind it, a callback, an event handler) on the way to their answer. A run is a
sequence of these requests, each with outcomes of its own. `World` is what FreeRTOS and the driver
hold afterwards, read off the trace of the handlers, and `State.sent` is what becomes of one
delivery of the driver.

`Sound` says that what was answered `ESP_OK` delivers. The results of creating and registering are
not looked at, so a run keeps it only where they are what the answer says (`Guard`).
-/

namespace EspHostedOpen

open ByteCodec Transition

namespace Sources

inductive Source
  | promisc | csi | ftm | espnow
  deriving DecidableEq, Repr

def Source.rpc : Source → Rpc
  | promisc => .setPromisc
  | csi => .setCsiEnable
  | ftm => .ftmInitiate
  | espnow => .espnowInit

/-! ## What the handlers set up -/

/-- The tasks that run `raw_forward_task`, the registrations of `on_ftm_event`, and whether each of
the driver's callbacks is set. -/
structure World where
  forwarders : Nat := 0
  ftmHandlers : Nat := 0
  promiscRxCb : Bool := false
  csiRxCb : Bool := false
  espnowRecvCb : Bool := false
  espnowSendCb : Bool := false
  deriving DecidableEq, Repr

/-- What a driver call sets up where it succeeds. -/
def World.afterDrv (w : World) : DrvCall → World
  | .espWifiSetPromiscuousRxCb => { w with promiscRxCb := true }
  | .espWifiSetCsiRxCb => { w with csiRxCb := true }
  | .espEventHandlerRegisterFtm => { w with ftmHandlers := w.ftmHandlers + 1 }
  | .espNowRegisterRecvCb => { w with espnowRecvCb := true }
  | .espNowRegisterSendCb => { w with espnowSendCb := true }
  | _ => w

def World.after (w : World) : Event → World
  | .os .xTaskCreateRawForward ok => { w with forwarders := w.forwarders + ok.toNat }
  | .drv c err => if err = espOk then w.afterDrv c else w
  | _ => w

def worldAfter (w : World) (es : List Event) : World := es.foldl World.after w

section World

variable (w : World) (e : Event) (es es' : List Event)

@[simp] theorem worldAfter_nil : worldAfter w [] = w := rfl

@[simp] theorem worldAfter_cons : worldAfter w (e :: es) = worldAfter (w.after e) es := rfl

@[simp] theorem worldAfter_append : worldAfter w (es ++ es') = worldAfter (worldAfter w es) es' :=
  List.foldl_append

@[simp] theorem worldAfter_reads (l : List Nat) : worldAfter w (l.map .read) = w := by
  induction l with
  | nil => rfl
  | cons i l ih => exact ih

end World

/-! ## Requests -/

/-- A request, with the outcomes its handler meets. -/
structure Request where
  source : Source
  env : Env
  data : List UInt8

def Request.input (q : Request) : Input := ⟨q.env, q.data⟩

/-- The `enable` member of the two requests that have one. -/
def enableByte (q : Request) : UInt8 := UInt8.ofNat
    (leNat (slice (q.source.rpc.reqStruct.offset 1) 1 q.data))

/-- The request is long enough to be looked at, and asks for the source to be on. -/
def Request.Enabling (q : Request) : Prop :=
  q.source.rpc.reqStruct.sizeof ≤ q.data.length ∧
    (q.source = .promisc ∨ q.source = .csi → enableByte q ≠ 0)

instance (q : Request) : Decidable q.Enabling := inferInstanceAs (Decidable (_ ∧ _))

/-- `enabled` records which sources were answered `ESP_OK` so far. -/
structure State where
  statics : SlaveState := {}
  world : World := {}
  enabled : Source → Bool := fun _ => false

/-- Serve a request. -/
def State.serve (s : State) (q : Request) : State :=
  let o := q.source.rpc.handler q.input s.statics
  { statics := o.state
    world := worldAfter s.world o.events
    enabled := fun x => s.enabled x ||
      (decide (x = q.source ∧ q.Enabling) && decide (replyStatus o.events = some espOk)) }

def State.step (s : State) (q : Request) : Option State := some (s.serve q)

/-! ## Deliveries -/

/-- What the driver hands over. -/
inductive Delivery
  | frame (p : WifiPromiscuousPkt) (type : WifiPktType)
  | csi (info : WifiCsiInfo)
  | ftm (r : WifiEventFtmReport)
  | espnowRx (info : EspNowRecvInfo) (data : List UInt8)
  | espnowTx (info : Option WifiTxInfo) (status : EspNowSendStatus)

def Delivery.source : Delivery → Source
  | frame .. => .promisc
  | csi .. => .csi
  | ftm .. => .ftm
  | espnowRx .. => .espnow
  | espnowTx .. => .espnow

/-- What the overlay forwards: a frame of some kind within 1600 bytes, a CSI report with a capture
that fits `esp_hosted_send_custom_data`, an ESP-NOW frame of 1 to 250 bytes. -/
def Delivery.Fits : Delivery → Prop
  | frame p type => type ≠ .misc ∧ p.sigLen ≤ 1600
  | csi info => info.buf ≠ none ∧ 1 ≤ info.len.toNat ∧ info.len.toNat ≤ 8150
  | ftm _ => True
  | espnowRx _ data => 1 ≤ data.length ∧ data.length ≤ 250
  | espnowTx .. => True

/-- Allocations that succeed: in the callbacks, in the forwarding task, in the channel. -/
structure Plenty where
  malloc : Malloc
  malloc' : Malloc
  channel : ChannelAllocs
  malloc_ok : ∀ n, (malloc n).isSome = true
  malloc'_ok : ∀ n, (malloc' n).isSome = true
  channel_ok : channel.ok = true

/-- What the overlay passes to `esp_hosted_send_custom_data`. An entry of `s_raw_q`, which is not
full, goes to one of the tasks; every registered handler sees the report. -/
def State.passed (s : State) (m : Plenty) : Delivery → List (UInt32 × List UInt8)
  | .frame p type =>
    if s.world.promiscRxCb ∧ 0 < s.world.forwarders then
      ((promiscCb s.statics.rawQ true m.malloc p type).bind (rawForwardTask m.malloc')).toList
    else []
  | .csi info => if s.world.csiRxCb then (csiCb m.malloc (some info)).toList else []
  | .ftm r => List.replicate s.world.ftmHandlers (onFtmEvent r)
  | .espnowRx info data =>
    if s.world.espnowRecvCb then (espnowRxCb m.malloc info data).toList else []
  | .espnowTx info status => if s.world.espnowSendCb then [espnowTxCb info status] else []

/-- The events that go to the host. -/
def State.sent (s : State) (m : Plenty) (d : Delivery) : List (UInt32 × List UInt8) :=
  (s.passed m d).filterMap (eventChannel m.channel)

/-- **An enabled source delivers**: one task and one handler at most, no task without a queue, and
one event for each delivery of a source that was answered `ESP_OK`. -/
structure Sound (s : State) : Prop where
  forwarders : s.world.forwarders ≤ 1
  handlers : s.world.ftmHandlers ≤ 1
  queue : 0 < s.world.forwarders → s.statics.rawQ = true
  delivers : ∀ m d, s.enabled d.source = true → d.Fits → (s.sent m d).length = 1

/-! ## Which set-ups deliver -/

/-- What a source needs to be in place. -/
def State.Up (s : State) : Source → Prop
  | .promisc => s.world.promiscRxCb = true ∧ 0 < s.world.forwarders ∧ s.statics.rawQ = true
  | .csi => s.world.csiRxCb = true
  | .ftm => s.world.ftmHandlers = 1
  | .espnow => s.world.espnowRecvCb = true ∧ s.world.espnowSendCb = true

section Deliveries

variable {s : State} {m : Plenty}

/-- A filled block goes out as one event if the channel has room for it. -/
theorem sent_filled {malloc : Malloc} {a : ChannelAllocs} {e : Evt} {n : Nat} {ws : List Store}
    (hmalloc : (malloc (e.struct.sizeof + n)).isSome = true) (ha : a.ok = true)
    (hsize : 0 < e.struct.sizeof) (hlaid : (∀ w ∈ ws, w.stop ≤ e.struct.sizeof + n) ∧ Sorted ws) :
    (((allocStores malloc (e.struct.sizeof + n) ws).map (e.msgId, ·)).toList.filterMap
      (eventChannel a)).length = if e.struct.sizeof + n ≤ 8166 then 1 else 0 := by
  obtain ⟨buf, hbuf, hlen, -⟩ := allocStores_sorted hmalloc hlaid.1 hlaid.2
  have hne : buf ≠ [] := List.ne_nil_of_length_pos (by omega)
  rw [hbuf, Option.map_some, Option.toList_some]
  split
  · rename_i hfit
    rw [List.filterMap_cons_some (eventChannel_ok ha hne (by omega) _)]
    rfl
  · rename_i hlong
    rw [List.filterMap_cons_none (eventChannel_long a (by omega) _)]
    rfl

/-- An event of a fixed structure goes out as one event. -/
theorem eventChannel_fixed {a : ChannelAllocs} (ha : a.ok = true) (msg : UInt32 × List UInt8)
    (hlen : 1 ≤ msg.2.length ∧ msg.2.length ≤ 8166) : eventChannel a msg = some msg :=
  eventChannel_ok ha (List.ne_nil_of_length_pos hlen.1) hlen.2 msg.1

theorem length_onFtmEvent (r : WifiEventFtmReport) : (onFtmEvent r).2.length = 20 := by
  simp [onFtmEvent]

theorem length_espnowTxCb (info : Option WifiTxInfo) (status : EspNowSendStatus) :
    (espnowTxCb info status).2.length = 8 := by
  unfold espnowTxCb
  split <;> simp

/-- A frame on its way through the queue. -/
theorem sent_frame {p : WifiPromiscuousPkt} {type : WifiPktType} (htype : type ≠ .misc)
    (hlen : p.sigLen ≤ 1600) :
    (s.sent m (.frame p type)).length = 1 ↔ s.Up .promisc := by
  have hsizeof : Evt.rawFrame.struct.sizeof = 12 := rfl
  by_cases hup : s.world.promiscRxCb = true ∧ 0 < s.world.forwarders
  · have hsent : s.sent m (.frame p type) =
        (((promiscCb s.statics.rawQ true m.malloc p type).bind
          (rawForwardTask m.malloc')).toList.filterMap
          (eventChannel m.channel)) := by
      rw [State.sent, State.passed, if_pos hup]
    rw [hsent]
    rcases promiscCb_cases s.statics.rawQ true m.malloc p type hlen with
      ⟨-, hrawQ, -, -, e, he, hread⟩ | ⟨hlost, hnone⟩
    · refine iff_of_true ?_ ⟨hup.1, hup.2, hrawQ⟩
      rw [he, Option.bind_some, rawForwardTask, rawEvt_frameLen hlen hread,
        sent_filled (m.malloc'_ok _) m.channel_ok (by omega) (rawFrameStores_laid hread),
          if_pos (by omega)]
    · rw [hnone]
      refine iff_of_false Nat.zero_ne_one fun hall => ?_
      exact hlost ⟨htype, hall.2.2, rfl, m.malloc_ok _⟩
  · have hsent : s.sent m (.frame p type) = [] := by
      rw [State.sent, State.passed, if_neg hup]
      rfl
    rw [hsent]
    exact iff_of_false Nat.zero_ne_one fun hall => hup ⟨hall.1, hall.2.1⟩

/-- What fits is sent once, if the source's callback is set. -/
theorem sent_csi {info : WifiCsiInfo} (hbuf : info.buf ≠ none)
    (hlen : 1 ≤ info.len.toNat ∧ info.len.toNat ≤ 8150) :
    (s.sent m (.csi info)).length = 1 ↔ s.Up .csi := by
  have hsizeof : Evt.csi.struct.sizeof = 16 := rfl
  have hadm : ¬(info.buf = none ∨ info.len.toNat = 0) := by
    rintro (h | h)
    · exact hbuf h
    · omega
  rw [State.sent, State.passed]
  by_cases hcb : s.world.csiRxCb = true
  · rw [if_pos hcb, csiCb, if_neg hadm,
      sent_filled (m.malloc_ok _) m.channel_ok (by omega) (csiStores_laid info hbuf),
        if_pos (by omega)]
    exact iff_of_true rfl hcb
  · rw [if_neg hcb]
    exact iff_of_false Nat.zero_ne_one hcb

theorem sent_ftm (r : WifiEventFtmReport) : (s.sent m (.ftm r)).length = s.world.ftmHandlers := by
  have hlen := length_onFtmEvent r
  have hone : eventChannel m.channel (onFtmEvent r) = some (onFtmEvent r) :=
    eventChannel_fixed m.channel_ok _ (by omega)
  rw [State.sent, State.passed, List.filterMap_replicate_of_some hone, List.length_replicate]

theorem sent_espnowRx (info : EspNowRecvInfo) {data : List UInt8}
    (hlen : 1 ≤ data.length ∧ data.length ≤ 250) :
    (s.sent m (.espnowRx info data)).length = 1 ↔ s.world.espnowRecvCb = true := by
  have hsizeof : Evt.espnowRx.struct.sizeof = 16 := rfl
  rw [State.sent, State.passed]
  by_cases hcb : s.world.espnowRecvCb = true
  · rw [if_pos hcb, espnowRxCb, if_neg (by omega),
      sent_filled (m.malloc_ok _) m.channel_ok (by omega) (espnowRxStores_laid info data),
        if_pos (by omega)]
    exact iff_of_true rfl hcb
  · rw [if_neg hcb]
    exact iff_of_false Nat.zero_ne_one hcb

theorem sent_espnowTx (info : Option WifiTxInfo) (status : EspNowSendStatus) :
    (s.sent m (.espnowTx info status)).length = 1 ↔ s.world.espnowSendCb = true := by
  have hlen := length_espnowTxCb info status
  have hone := eventChannel_fixed m.channel_ok (espnowTxCb info status) (by omega)
  rw [State.sent, State.passed]
  by_cases hcb : s.world.espnowSendCb = true
  · rw [if_pos hcb, List.filterMap_cons_some hone]
    exact iff_of_true rfl hcb
  · rw [if_neg hcb]
    exact iff_of_false Nat.zero_ne_one hcb

/-- What does not fit is not forwarded, whatever is in place. -/
theorem sent_of_not_fits {d : Delivery} (h : ¬d.Fits) : s.sent m d = [] := by
  cases d with
  | frame p type =>
    have hnone : promiscCb s.statics.rawQ true m.malloc p type = none := by
      unfold promiscCb
      by_cases htype : type = .misc
      · rw [if_pos htype, ite_self]
      · have hlong : p.sigLen > 1600 := by
          by_contra hshort
          exact h ⟨htype, by omega⟩
        rw [if_neg htype, if_pos hlong, ite_self]
    rw [State.sent, State.passed, hnone, Option.bind_none, Option.toList_none, ite_self]
    rfl
  | csi info =>
    rw [State.sent, State.passed, csiCb]
    by_cases hadm : info.buf = none ∨ info.len.toNat = 0
    · rw [if_pos hadm, Option.toList_none, ite_self]
      rfl
    · have hbuf : info.buf ≠ none := fun hb => hadm (.inl hb)
      have hlong : 8150 < info.len.toNat := by
        by_contra hshort
        exact h ⟨hbuf, by omega, by omega⟩
      have hsizeof : Evt.csi.struct.sizeof = 16 := rfl
      have hlost := sent_filled (m.malloc_ok _) m.channel_ok (by omega) (csiStores_laid info hbuf)
      rw [if_neg (by omega)] at hlost
      rw [if_neg hadm]
      split
      · exact List.eq_nil_of_length_eq_zero hlost
      · rfl
  | ftm r => exact absurd trivial h
  | espnowRx info data =>
    have hadm : data.length = 0 ∨ data.length > 250 := by
      by_contra hboth
      exact h ⟨by omega, by omega⟩
    rw [State.sent, State.passed, espnowRxCb, if_pos hadm, Option.toList_none, ite_self]
    rfl
  | espnowTx info status => exact absurd trivial h

/-- What was set up delivers. -/
theorem sent_of_up {d : Delivery} (hup : s.Up d.source) (hfits : d.Fits) :
    (s.sent m d).length = 1 := by
  cases d with
  | frame p type => exact (sent_frame hfits.1 hfits.2).2 hup
  | csi info => exact (sent_csi hfits.1 hfits.2).2 hup
  | ftm r => exact (sent_ftm r).trans hup
  | espnowRx info data => exact (sent_espnowRx info hfits).2 hup.1
  | espnowTx info status => exact (sent_espnowTx info status).2 hup.2

/-- What delivers was set up. -/
theorem up_of_sent (m : Plenty) {x : Source}
    (h : ∀ d : Delivery, d.source = x → d.Fits → (s.sent m d).length = 1) : s.Up x := by
  cases x with
  | promisc =>
    let p : WifiPromiscuousPkt :=
      { rssi := 0, channel := 0, rate := 0, timestamp := 0, sigLen := 0, payload := [],
        inside := le_rfl }
    have hp : (Delivery.frame p .mgmt).Fits := ⟨by decide, by decide⟩
    exact (sent_frame hp.1 hp.2).1 (h (.frame p .mgmt) rfl hp)
  | csi =>
    let info : WifiCsiInfo :=
      { rssi := 0, channel := 0, timestamp := 0, mac := Vector.replicate 6 0, len := 1,
        buf := some [0], inside := by simp }
    have hinfo : (Delivery.csi info).Fits := ⟨Option.some_ne_none _, by decide, by decide⟩
    exact (sent_csi hinfo.1 hinfo.2).1 (h (.csi info) rfl hinfo)
  | ftm =>
    let r : WifiEventFtmReport := ⟨Vector.replicate 6 0, 0, 0, 0, 0⟩
    exact (sent_ftm r).symm.trans (h (.ftm r) rfl trivial)
  | espnow =>
    let info : EspNowRecvInfo := ⟨Vector.replicate 6 0, Vector.replicate 6 0, none⟩
    have hrx : (Delivery.espnowRx info [0]).Fits := ⟨by decide, by decide⟩
    exact ⟨(sent_espnowRx info hrx).1 (h (.espnowRx info [0]) rfl hrx),
      (sent_espnowTx none .fail).1 (h (.espnowTx none .fail) rfl trivial)⟩

end Deliveries

/-- Allocations that hand out zeros. -/
def plentyOfZeros : Plenty :=
  { malloc := .zeroed, malloc' := .zeroed, channel := ⟨true, true, true, true⟩
    malloc_ok := fun _ => rfl, malloc'_ok := fun _ => rfl, channel_ok := rfl }

/-- **Soundness read off the set-up**: a delivery of every kind shows whether its source is up. -/
theorem sound_iff (s : State) : Sound s ↔ s.world.forwarders ≤ 1 ∧ s.world.ftmHandlers ≤ 1 ∧
    (0 < s.world.forwarders → s.statics.rawQ = true) ∧ ∀ x, s.enabled x = true → s.Up x := by
  constructor
  · intro h
    refine ⟨h.forwarders, h.handlers, h.queue, fun x hx => ?_⟩
    exact up_of_sent plentyOfZeros fun d hd => h.delivers _ d (hd ▸ hx)
  · rintro ⟨hforwarders, hhandlers, hqueue, hup⟩
    exact ⟨hforwarders, hhandlers, hqueue, fun m d hd => sent_of_up (hup _ hd)⟩

/-! ## What a request changes -/

section Requests

variable (s : State) {q : Request}

/-- A handler of the common shape, on a request that is long enough. -/
theorem serve_answering {respId : UInt32} {act : Handler EspErr}
    (hhandler : q.source.rpc.handler = answering q.source.rpc.reqStruct respId act)
    (hlen : q.source.rpc.reqStruct.sizeof ≤ q.data.length) :
    s.serve q =
      { statics := (act q.input s.statics).state
        world := worldAfter s.world (act q.input s.statics).events
        enabled := fun x => s.enabled x ||
          (decide (x = q.source ∧ q.Enabling) &&
            decide ((act q.input s.statics).val = espOk)) } := by
  have hdata : q.source.rpc.reqStruct.sizeof ≤ q.input.data.length := hlen
  have hstate := answering_state s.statics hdata respId act
  have hreply := replyStatus_answering s.statics hdata respId act
  have hworld :
    worldAfter s.world (answering q.source.rpc.reqStruct respId act q.input s.statics).events =
      worldAfter s.world (act q.input s.statics).events := by
    rw [answering_events s.statics hdata, worldAfter_append, worldAfter_append, worldAfter_reads]
    rfl
  simp only [State.serve, hhandler, hstate, hreply, hworld, Option.some.injEq]

/-- A request that is too short is dropped. -/
theorem serve_short (hshort : q.data.length < q.source.rpc.reqStruct.sizeof) : s.serve q = s := by
  have hdata : q.input.data.length < q.source.rpc.reqStruct.sizeof := hshort
  have hdropped : q.source.rpc.handler q.input s.statics = ⟨(), s.statics, []⟩ := by
    obtain ⟨source, env, data⟩ := q
    cases source <;> exact answering_short s.statics hdata _ _
  have hoff : ¬q.Enabling := fun h => Nat.not_lt.2 h.1 hshort
  simp [State.serve, hdropped, hoff]

/-- A request that turns its source off sets nothing up. -/
theorem serve_of_not_enabling (hq : ¬q.Enabling) : s.serve q = s := by
  by_cases hlen : q.source.rpc.reqStruct.sizeof ≤ q.data.length
  · obtain ⟨source, env, data⟩ := q
    have hoff : (source = .promisc ∨ source = .csi) ∧ enableByte ⟨source, env, data⟩ = 0 := by
      by_contra hon
      exact hq ⟨hlen, fun hsource hzero => hon ⟨hsource, hzero⟩⟩
    obtain ⟨rfl | rfl, hzero⟩ := hoff
    · have hbyte : UInt8.ofNat (leNat (slice (Rpc.setPromisc.reqStruct.offset 1) 1 data)) = 0 :=
        hzero
      rw [serve_answering s rfl hlen]
      simp [hq, hbyte, Request.input, World.after, World.afterDrv]
    · have hbyte : UInt8.ofNat (leNat (slice (Rpc.setCsiEnable.reqStruct.offset 1) 1 data)) = 0 :=
        hzero
      rw [serve_answering s rfl hlen]
      simp [hq, hbyte, Request.input, World.after, World.afterDrv]
  · exact serve_short s (Nat.lt_of_not_le hlen)

theorem serve_promisc (env : Env) (data : List UInt8)
    (hq : Request.Enabling ⟨.promisc, env, data⟩) :
    s.serve ⟨.promisc, env, data⟩ =
      { statics := { s.statics with rawQ := s.statics.rawQ || env.os .xQueueCreateRaw }
        world := { s.world with
          forwarders :=
            s.world.forwarders + (!s.statics.rawQ && env.os .xTaskCreateRawForward).toNat
          promiscRxCb := s.world.promiscRxCb ||
            (!s.statics.rawQ && decide (env.err .espWifiSetPromiscuousRxCb = espOk)) }
        enabled := fun x => s.enabled x ||
          (decide (x = .promisc) && decide (env.err (.espWifiSetPromiscuous true) = espOk)) } := by
  have hbyte : UInt8.ofNat (leNat (slice (Rpc.setPromisc.reqStruct.offset 1) 1 data)) ≠ 0 :=
    hq.2 (.inl rfl)
  rw [serve_answering s rfl hq.1]
  cases hraw : s.statics.rawQ with
  | true =>
    simp [hraw, hq, hbyte, Request.input, World.after, World.afterDrv]
    rw [← hraw]
  | false =>
    by_cases hcb : env.err .espWifiSetPromiscuousRxCb = espOk <;>
      simp [hraw, hq, hbyte, hcb, Request.input, World.after, World.afterDrv]

theorem serve_csi (env : Env) (data : List UInt8) (hq : Request.Enabling ⟨.csi, env, data⟩) :
    s.serve ⟨.csi, env, data⟩ =
      { s with
        world := { s.world with
          csiRxCb := s.world.csiRxCb || decide (env.err .espWifiSetCsiRxCb = espOk) }
        enabled := fun x => s.enabled x ||
          (decide (x = .csi) &&
            decide (env.err .espWifiSetCsiRxCb = espOk ∧ env.err (.espWifiSetCsi true) = espOk))
              } := by
  have hbyte : UInt8.ofNat (leNat (slice (Rpc.setCsiEnable.reqStruct.offset 1) 1 data)) ≠ 0 :=
    hq.2 (.inr rfl)
  rw [serve_answering s rfl hq.1]
  by_cases hcb : env.err .espWifiSetCsiRxCb = espOk <;>
    simp [hq, hbyte, hcb, Request.input, World.after, World.afterDrv]

/-- The session a request asks for. -/
def ftmCfg (data : List UInt8) : FtmInitiatorCfg :=
  let byteAt k := UInt8.ofNat (leNat (slice (Rpc.ftmInitiate.reqStruct.offset k) 1 data))
  { respMac := slice (Rpc.ftmInitiate.reqStruct.offset 1) 6 data, frmCount := byteAt 2,
    burstPeriod := byteAt 3
    channel := byteAt 4 }

theorem serve_ftm (env : Env) (data : List UInt8) (hq : Request.Enabling ⟨.ftm, env, data⟩) :
    s.serve ⟨.ftm, env, data⟩ =
      { statics := { s.statics with ftmHandlerRegistered := true }
        world := { s.world with
          ftmHandlers := s.world.ftmHandlers +
            (!s.statics.ftmHandlerRegistered &&
              decide (env.err .espEventHandlerRegisterFtm = espOk)).toNat }
        enabled := fun x => s.enabled x ||
          (decide (x = .ftm) && decide (env.err (.espWifiFtmInitiateSession (ftmCfg data)) = espOk))
            } := by
  rw [serve_answering s rfl hq.1]
  cases hflag : s.statics.ftmHandlerRegistered with
  | true =>
    simp [ensureFtmHandler, hflag, hq, Request.input, World.after, World.afterDrv]
    rw [← hflag]
    exact ⟨rfl, rfl⟩
  | false =>
    by_cases hreg : env.err .espEventHandlerRegisterFtm = espOk
    all_goals
      simp [ensureFtmHandler, hflag, hq, hreg, Request.input, World.after, World.afterDrv]
      rfl

theorem serve_espnow (env : Env) (data : List UInt8) (hq : Request.Enabling ⟨.espnow, env, data⟩) :
    s.serve ⟨.espnow, env, data⟩ =
      { s with
        world := { s.world with
          espnowRecvCb := s.world.espnowRecvCb ||
            decide (env.err .espNowInit = espOk ∧ env.err .espNowRegisterRecvCb = espOk)
          espnowSendCb := s.world.espnowSendCb ||
            decide (env.err .espNowInit = espOk ∧ env.err .espNowRegisterSendCb = espOk) }
        enabled := fun x => s.enabled x ||
          (decide (x = .espnow) && decide (env.err .espNowInit = espOk)) } := by
  rw [serve_answering s rfl hq.1]
  by_cases hinit : env.err .espNowInit = espOk
  · by_cases hrecv : env.err .espNowRegisterRecvCb = espOk <;>
      by_cases hsend : env.err .espNowRegisterSendCb = espOk <;>
        simp [hq, hinit, hrecv, hsend, Request.input, World.after, World.afterDrv]
  · simp [hq, hinit, Request.input, World.after]

end Requests

/-! ## The exact condition -/

/-- The outcomes under which an enabling request keeps its promise. The first SET_PROMISC that finds
no queue must not get a task without one; where it is answered `ESP_OK` it must get everything, and
a later one must find everything. The FTM flag must not stand for a registration that failed, and
ESPNOW_INIT must get both callbacks. -/
def Guard (s : State) (q : Request) : Prop :=
  q.Enabling →
    match q.source with
    | .promisc =>
      if s.statics.rawQ then
        q.env.err (.espWifiSetPromiscuous true) = espOk →
          0 < s.world.forwarders ∧ s.world.promiscRxCb = true
      else
        (q.env.os .xTaskCreateRawForward = true → q.env.os .xQueueCreateRaw = true) ∧
          (q.env.err (.espWifiSetPromiscuous true) = espOk →
            q.env.os .xQueueCreateRaw = true ∧ q.env.os .xTaskCreateRawForward = true ∧
              (s.world.promiscRxCb = true ∨ q.env.err .espWifiSetPromiscuousRxCb = espOk))
    | .csi => True
    | .ftm =>
      q.env.err (.espWifiFtmInitiateSession (ftmCfg q.data)) = espOk →
        if s.statics.ftmHandlerRegistered then 0 < s.world.ftmHandlers
        else q.env.err .espEventHandlerRegisterFtm = espOk
    | .espnow =>
      q.env.err .espNowInit = espOk →
        (s.world.espnowRecvCb = true ∨ q.env.err .espNowRegisterRecvCb = espOk) ∧
          (s.world.espnowSendCb = true ∨ q.env.err .espNowRegisterSendCb = espOk)

/-- No handler is registered before the flag says so. -/
def FlagFirst (s : State) : Prop := s.statics.ftmHandlerRegistered = false → s.world.ftmHandlers = 0

theorem FlagFirst.serve {s : State} (h : FlagFirst s) (q : Request) : FlagFirst (s.serve q) := by
  by_cases hq : q.Enabling
  · obtain ⟨source, env, data⟩ := q
    cases source with
    | promisc => rwa [serve_promisc s env data hq]
    | csi => rwa [serve_csi s env data hq]
    | ftm =>
      rw [serve_ftm s env data hq]
      exact fun hflag => Bool.noConfusion hflag
    | espnow => rwa [serve_espnow s env data hq]
  · rwa [serve_of_not_enabling s hq]

section Step

variable {s : State} {env : Env} {data : List UInt8} (h : Sound s)
include h

/-- Before the queue exists, there is no task and nothing was promised. -/
theorem nothing_of_no_queue (hraw : s.statics.rawQ = false) :
    s.world.forwarders = 0 ∧ s.enabled .promisc = false := by
  obtain ⟨-, -, hqueue, hup⟩ := (sound_iff s).1 h
  constructor
  · by_contra hsome
    exact absurd (hqueue (by omega)) (by simp [hraw])
  · by_contra hen
    have hall := hup .promisc (by simpa using hen)
    exact absurd hall.2.2 (by simp [hraw])

/-- A request touches its own source only: what is left to ask of the state behind it. -/
theorem sound_serve_of_frame {q : Request}
    (hframe : ∀ x, x ≠ q.source → (s.serve q).enabled x = s.enabled x ∧
      (s.Up x → (s.serve q).Up x)) :
    Sound (s.serve q) ↔ (s.serve q).world.forwarders ≤ 1 ∧ (s.serve q).world.ftmHandlers ≤ 1 ∧
      (0 < (s.serve q).world.forwarders → (s.serve q).statics.rawQ = true) ∧
      ((s.serve q).enabled q.source = true → (s.serve q).Up q.source) := by
  obtain ⟨-, -, -, hup⟩ := (sound_iff s).1 h
  rw [sound_iff]
  constructor
  · rintro ⟨hone, hhandlers, hqueue, hall⟩
    exact ⟨hone, hhandlers, hqueue, hall _⟩
  · rintro ⟨hone, hhandlers, hqueue, hown⟩
    refine ⟨hone, hhandlers, hqueue, fun x hx => ?_⟩
    by_cases hsource : x = q.source
    · subst hsource
      exact hown hx
    · obtain ⟨hen, hkeep⟩ := hframe x hsource
      exact hkeep (hup x (hen ▸ hx))

theorem sound_serve_promisc (hq : Request.Enabling ⟨.promisc, env, data⟩) :
    Sound (s.serve ⟨.promisc, env, data⟩) ↔ Guard s ⟨.promisc, env, data⟩ := by
  obtain ⟨hone, hhandlers, hqueue, hup⟩ := (sound_iff s).1 h
  have hpromised := hup .promisc
  rw [sound_serve_of_frame h, serve_promisc s env data hq]
  · cases hraw : s.statics.rawQ with
    | true =>
      -- no queue is created: the answer rests on what is there
      simp only [State.Up, hraw, and_true] at hpromised
      simp only [Guard, hq, hraw, State.Up, hone, hhandlers, forall_const, if_true,
        Bool.true_or, and_true,
        implies_true, true_and, Bool.not_true, Bool.false_and, Bool.toNat_false, Nat.add_zero,
          Bool.or_false,
        Bool.or_eq_true, decide_eq_true_eq, decide_true, Bool.true_and]
      constructor
      · exact fun hall hok => And.symm (hall (.inr hok))
      · rintro hkeep (hbefore | hok)
        · exact hpromised hbefore
        · exact And.symm (hkeep hok)
    | false =>
      obtain ⟨hnone, hoff⟩ := nothing_of_no_queue h hraw
      cases htask : env.os .xTaskCreateRawForward with
      | false => simp [Guard, hq, hraw, State.Up, hnone, hoff, htask, hhandlers]
      | true =>
        simp [Guard, hq, hraw, State.Up, hnone, hoff, htask, hhandlers]
        exact fun _ => forall_congr' fun _ => and_comm
  · intro x hx
    rw [serve_promisc s env data hq]
    cases x with
    | promisc => exact absurd rfl hx
    | _ => exact ⟨by simp, id⟩

theorem sound_serve_csi (hq : Request.Enabling ⟨.csi, env, data⟩) :
    Sound (s.serve ⟨.csi, env, data⟩) := by
  obtain ⟨hone, hhandlers, hqueue, hup⟩ := (sound_iff s).1 h
  rw [sound_serve_of_frame h, serve_csi s env data hq]
  · refine ⟨hone, hhandlers, hqueue, fun hen => ?_⟩
    have hset : s.enabled .csi = true ∨
        env.err .espWifiSetCsiRxCb = espOk ∧ env.err (.espWifiSetCsi true) = espOk := by
      simpa using hen
    rcases hset with hbefore | hnow
    · have hcb : s.world.csiRxCb = true := hup .csi hbefore
      simp [State.Up, hcb]
    · simp [State.Up, hnow.1]
  · intro x hx
    rw [serve_csi s env data hq]
    cases x with
    | csi => exact absurd rfl hx
    | _ => exact ⟨by simp, id⟩

theorem sound_serve_ftm (hflag : FlagFirst s) (hq : Request.Enabling ⟨.ftm, env, data⟩) :
    Sound (s.serve ⟨.ftm, env, data⟩) ↔ Guard s ⟨.ftm, env, data⟩ := by
  obtain ⟨hone, hhandlers, hqueue, hup⟩ := (sound_iff s).1 h
  have hpromised := hup .ftm
  rw [sound_serve_of_frame h, serve_ftm s env data hq]
  · cases hset : s.statics.ftmHandlerRegistered with
    | true =>
      -- nothing is registered: the answer rests on what is there
      simp only [State.Up] at hpromised
      simp [Guard, hq, hset, State.Up, hone, hhandlers]
      constructor
      · rintro ⟨-, hall⟩ hok
        have hthere := hall (.inr hok)
        omega
      · intro hkeep
        refine ⟨hqueue, ?_⟩
        rintro (hbefore | hok)
        · exact hpromised hbefore
        · have hthere := hkeep hok
          omega
    | false =>
      have hnone := hflag hset
      have hoff : s.enabled .ftm = false := by
        by_contra hen
        have hall : s.world.ftmHandlers = 1 := hpromised (by simpa using hen)
        omega
      simp [Guard, hq, hset, State.Up, hone, hnone, hoff]
      constructor
      · exact fun hall => hall.2.2
      · exact fun hkeep => ⟨Bool.toNat_le _, hqueue, hkeep⟩
  · intro x hx
    rw [serve_ftm s env data hq]
    cases x with
    | ftm => exact absurd rfl hx
    | _ => exact ⟨by simp, id⟩

theorem sound_serve_espnow (hq : Request.Enabling ⟨.espnow, env, data⟩) :
    Sound (s.serve ⟨.espnow, env, data⟩) ↔ Guard s ⟨.espnow, env, data⟩ := by
  obtain ⟨hone, hhandlers, hqueue, hup⟩ := (sound_iff s).1 h
  have hpromised := hup .espnow
  rw [sound_serve_of_frame h, serve_espnow s env data hq]
  · simp only [State.Up] at hpromised
    simp [Guard, hq, State.Up, hone, hhandlers]
    constructor
    · rintro ⟨-, hall⟩ hok
      obtain ⟨hrecv, hsend⟩ := hall (.inr hok)
      exact ⟨hrecv.imp_right And.right, hsend.imp_right And.right⟩
    · intro hkeep
      refine ⟨hqueue, ?_⟩
      rintro (hbefore | hok)
      · obtain ⟨hrecv, hsend⟩ := hpromised hbefore
        exact ⟨.inl hrecv, .inl hsend⟩
      · obtain ⟨hrecv, hsend⟩ := hkeep hok
        exact ⟨hrecv.imp_right (And.intro hok), hsend.imp_right (And.intro hok)⟩
  · intro x hx
    rw [serve_espnow s env data hq]
    cases x with
    | espnow => exact absurd rfl hx
    | _ => exact ⟨by simp, id⟩

/-- **One request** keeps soundness exactly under the guard. -/
theorem sound_serve_iff (hflag : FlagFirst s) (q : Request) : Sound (s.serve q) ↔ Guard s q := by
  by_cases hq : q.Enabling
  · obtain ⟨source, env, data⟩ := q
    cases source with
    | promisc => exact sound_serve_promisc h hq
    | csi => exact iff_of_true (sound_serve_csi h hq) fun _ => trivial
    | ftm => exact sound_serve_ftm h hflag hq
    | espnow => exact sound_serve_espnow h hq
  · rw [serve_of_not_enabling s hq]
    exact iff_of_true h fun hen => absurd hen hq

end Step

/-- After boot. -/
def boot : State := {}

theorem sound_boot : Sound boot where
  forwarders := Nat.zero_le _
  handlers := Nat.zero_le _
  queue := fun h => absurd h (Nat.lt_irrefl 0)
  delivers := fun _ _ hen => Bool.noConfusion hen

/-- **Enabled sources deliver**, in every state of a run, exactly where every request of the run met
the guard; and a delivery that does not fit is sent in no state. -/
theorem sources_deliver_iff (qs : List Request) :
    (AllStates State.step Sound boot qs ↔ AllSteps State.step Guard boot qs) ∧
      ∀ (s : State) (m : Plenty) (d : Delivery), ¬d.Fits → s.sent m d = [] := by
  refine ⟨?_, fun s m d => sent_of_not_fits⟩
  refine allStates_iff_allSteps (J := FlagFirst) ?_ ?_ (fun s q => rfl) (fun _ => rfl) sound_boot
  · intro s s' q hflag hs
    cases hs
    exact hflag.serve q
  · intro s s' q hflag h hs
    cases hs
    exact sound_serve_iff h hflag q

/-! ## A task without a queue -/

/-- Only `xQueueCreate` fails. -/
def noQueue : Env := { bareChip with os := fun c => c ≠ .xQueueCreateRaw }

/-- SET_PROMISC with `enable` set, op_id 1. -/
def setPromiscOn (env : Env) : Request := ⟨.promisc, env, [1, 0, 0, 0, 1]⟩

/-- The task is there, the queue is not, and the answer was `ESP_OK`: a task without a queue, and no
frame of a source that was reported on. The next request makes a second task. -/
theorem forwarder_without_queue :
    let s := boot.serve (setPromiscOn noQueue)
    s.world.forwarders = 1 ∧ s.statics.rawQ = false ∧ s.enabled .promisc = true ∧ ¬Sound s ∧
      (s.serve (setPromiscOn bareChip)).world.forwarders = 2 ∧
      ¬∀ qs : List Request, AllStates State.step Sound boot qs := by
  have hq : ∀ env, (setPromiscOn env).Enabling := by
    intro env
    exact ⟨Nat.le_refl 5, fun _ => by show (1 : UInt8) ≠ 0; decide⟩
  have hfirst := serve_promisc boot noQueue [1, 0, 0, 0, 1] (hq noQueue)
  have hsound : ¬Sound (boot.serve (setPromiscOn noQueue)) := by
    intro h
    have hqueue := h.queue
    rw [setPromiscOn, hfirst] at hqueue
    exact absurd (hqueue (by decide)) (by decide)
  have hsecond := serve_promisc (boot.serve (setPromiscOn noQueue)) bareChip [1, 0, 0, 0, 1]
    (hq bareChip)
  refine ⟨?_, ?_, ?_, hsound, ?_, fun hall => ?_⟩
  · rw [setPromiscOn, hfirst]
    rfl
  · rw [setPromiscOn, hfirst]
    rfl
  · rw [setPromiscOn, hfirst]
    rfl
  · rw [show setPromiscOn bareChip = ⟨.promisc, bareChip, [1, 0, 0, 0, 1]⟩ from rfl, hsecond,
      setPromiscOn, hfirst]
    rfl
  · exact hsound ((hall [setPromiscOn noQueue]).2 _ rfl)

end Sources

end EspHostedOpen
