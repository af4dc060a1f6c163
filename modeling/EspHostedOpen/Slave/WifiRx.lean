import EspHostedOpen.Lib.Ownership
import EspHostedOpen.Slave.Router
import EspHostedOpen.Slave.SerialTx

/-!
# Received Wi-Fi frames (`esp_hosted_coprocessor.c`)

The driver gives a frame and the buffer that it lies in, `eb`, to a callback. The buffer goes back
to the driver by `esp_wifi_internal_free_rx_buffer`: here, in `process_tx_pkt` or in the stack that
`esp_netif_receive` hands it to. The stack may free the buffer as soon as it has it, and the model
lets it do so at once.

The priority queue is bypassed. `assert` stops the device.
-/

namespace EspHostedOpen.WifiRx

open Ownership Router SerialTx

inductive Obj
  | eb                                           -- the driver's buffer; `buffer` points into it
  | copyBuff
  deriving DecidableEq, Repr

abbrev Trace := List (Ownership.Event Obj)

/-- What a callback finds; `datapath` may have changed when `process_tx_pkt` looks at it. -/
structure RxEnv where
  networkSplit : Bool                            -- `CONFIG_ESP_HOSTED_NETWORK_SPLIT_ENABLED`
  datapath : Bool
  route : Bridge                                 -- what `nw_split_filter_and_route_packet` returns
  slaveStaNetif : Bool                           -- `slave_sta_netif` is there
  malloc : Bool                                  -- of `copy_buff`
  tx : TxEnv

/-- `populate_buff_handle`, with flag, number of the interface and sequence number 0. -/
def populateBuffHandle (ifType : IfType) (len : UInt16) (priv : Bool) : BufHandle where
  ifType := ifType
  seqNum := 0
  flag := 0
  payload := 0
  payloadLen := len
  privBufferHandle := priv

/-- `send_to_host_queue`, of a packet in the buffer `o`. -/
def sendBuffer (env : TxEnv) (o : Obj) (h : BufHandle) : EspErr × Trace :=
  let (ret, events) := sendToHostQueue env h
  (ret, events.map (onBuffer o))

/-- `if (eb) esp_wifi_internal_free_rx_buffer(eb)`. -/
def freeEb (eb : Bool) : Trace := if eb then [.release .eb] else []

/-- A frame on its way to the host in the driver's buffer, which is freed here if the packet is not
taken. -/
def sendEb (env : RxEnv) (ifType : IfType) (len : UInt16) (eb : Bool) : Trace :=
  let (ret, t) := sendBuffer env.tx .eb (populateBuffHandle ifType len eb)
  if ret ≠ espOk then t ++ freeEb eb else t

/-- `wlan_ap_rx_callback`; `buffer` and `eb` say which of the pointers are there. -/
def wlanApRxCallback (env : RxEnv) (buffer eb : Bool) (len : UInt16) : Trace :=
  if !buffer || !eb || !env.datapath then freeEb eb else sendEb env .ap len eb

/-- `esp_netif_receive`. -/
def espNetifReceive : Trace := [.use .eb, .release .eb]

/-- The two-way route. -/
def rxBoth (env : RxEnv) (len : UInt16) (eb : Bool) : Option Trace :=
  if !env.malloc then none
  else
    let copy : Trace := [.create .copyBuff, .use .eb, .use .copyBuff]
    let slave := if !env.slaveStaNetif then freeEb eb else espNetifReceive
    let (ret, host) := sendBuffer env.tx .copyBuff (populateBuffHandle .sta len true)
    some (copy ++ slave ++ if ret ≠ espOk then host ++ [.release .copyBuff] else host)

/-- `wlan_sta_rx_callback`; `none` where `copy_buff` cannot be allocated. -/
def wlanStaRxCallback (env : RxEnv) (buffer eb : Bool) (len : UInt16) : Option Trace :=
  if !buffer || !eb then some (freeEb eb)
  else if env.networkSplit then
    -- the router looks at the frame
    (match env.route with
      | .hostLwip => some (if !env.datapath then freeEb eb else sendEb env .sta len eb)
      | .slaveLwip => some (if !env.slaveStaNetif then freeEb eb else espNetifReceive)
      | .bothLwip => rxBoth env len eb
      | .invalid => some (freeEb eb)).map (.use .eb :: ·)
  else some (if !env.datapath then freeEb eb else sendEb env .sta len eb)

/-- **Released once**: the driver's buffer if there is one, a copy if one was made, and neither
touched afterwards. -/
structure Released (eb : Bool) (t : Trace) : Prop where
  given : eb = true → ReleasedOnce .eb t
  absent : eb = false → ∀ e ∈ t, e.obj ≠ .eb
  copied : (∀ e ∈ t, e.obj ≠ .copyBuff) ∨ t.count (.create .copyBuff) = 1 ∧ ReleasedOnce .copyBuff t

/-! ## Lives -/

variable {env : RxEnv} {len : UInt16} {t : Trace}

/-- A packet is only looked at before its buffer is freed. -/
theorem life_sendBuffer (tx : TxEnv) (o : Obj) {h : BufHandle} (hpriv : h.privBufferHandle = true) :
    life o .live (sendBuffer tx o h).2 = some .released := by
  obtain ⟨writes, heq, -, hfree⟩ := processTxPkt_eq tx h
  have hpost : postProcess h = [.free] := if_pos hpriv
  show life o .live ((.handed h :: processTxPkt tx h).map (onBuffer o)) = _
  rw [heq, hpost, ← List.cons_append]
  exact life_onBuffer o (List.not_mem_cons_of_ne_of_not_mem nofun hfree)

/-- It has no other buffer. -/
theorem life_sendBuffer_of_ne (tx : TxEnv) {o o' : Obj} (hne : o ≠ o') (h : BufHandle) (p : Phase) :
    life o' p (sendBuffer tx o h).2 = some p :=
  life_of_not_obj (onBuffer_obj_ne hne)

/-- What is asked of a call that is given a buffer. -/
def Handled (t : Trace) : Prop :=
  life .eb .live t = some .released ∧
    (life .copyBuff .absent t = some .absent ∨ life .copyBuff .absent t = some .released)

theorem Handled.released (h : Handled t) : Released true t where
  given := fun _ => releasedOnce_of_life h.1
  absent := nofun
  copied := h.2.imp not_obj_of_life createdOnce_of_life

theorem handled_freeEb : Handled (freeEb true) := ⟨rfl, .inl rfl⟩

theorem handled_espNetifReceive : Handled espNetifReceive := ⟨rfl, .inl rfl⟩

theorem Handled.use (h : Handled t) : Handled (.use .eb :: t) := h

theorem handled_sendEb (ifType : IfType) : Handled (sendEb env ifType len true) := by
  have hsend : sendEb env ifType len true =
    (sendBuffer env.tx .eb (populateBuffHandle ifType len true)).2 := by
    simp only [sendEb, sendBuffer, sendToHostQueue, ne_eq, not_true_eq_false, if_false]
  rw [hsend]
  exact ⟨life_sendBuffer env.tx .eb rfl, .inl (life_sendBuffer_of_ne env.tx (by decide) _ _)⟩

/-- The stack gets the driver's buffer and the host the copy. -/
theorem handled_rxBoth (h : rxBoth env len true = some t) : Handled t := by
  cases hmalloc : env.malloc with
  | false =>
    rw [rxBoth, hmalloc] at h
    cases h
  | true =>
    have ht : [.create .copyBuff, .use .eb, .use .copyBuff] ++
        (if !env.slaveStaNetif then freeEb true else espNetifReceive) ++
        (sendBuffer env.tx .copyBuff (populateBuffHandle .sta len true)).2 = t := by
      simpa only [rxBoth, hmalloc, sendBuffer, sendToHostQueue, Bool.not_true,
        Bool.false_eq_true, ne_eq, not_true_eq_false, if_false, Option.some.injEq] using h
    have heb : life .eb .live ([.create .copyBuff, .use .eb, .use .copyBuff] ++
        if !env.slaveStaNetif then freeEb true else espNetifReceive) = some .released := by
      cases env.slaveStaNetif <;> rfl
    have hcopy : life .copyBuff .absent ([.create .copyBuff, .use .eb, .use .copyBuff] ++
        if !env.slaveStaNetif then freeEb true else espNetifReceive) = some .live := by
      cases env.slaveStaNetif <;> rfl
    rw [← ht]
    refine ⟨?_, .inr ?_⟩
    · rw [life_append, heb]
      exact life_sendBuffer_of_ne env.tx (by decide) _ _
    · rw [life_append, hcopy]
      exact life_sendBuffer env.tx .copyBuff rfl

theorem handled_ap (buffer : Bool) : Handled (wlanApRxCallback env buffer true len) := by
  unfold wlanApRxCallback
  split
  · exact handled_freeEb
  · exact handled_sendEb .ap

/-- The route of a co-processor without the split, and that to the host. -/
theorem handled_toHost : Handled
    (if !env.datapath then freeEb true else sendEb env .sta len true) := by
  split
  · exact handled_freeEb
  · exact handled_sendEb .sta

theorem handled_sta (buffer : Bool) (h : wlanStaRxCallback env buffer true len = some t) :
    Handled t := by
  unfold wlanStaRxCallback at h
  split at h
  · cases h
    exact handled_freeEb
  · split at h
    · obtain ⟨t', ht', rfl⟩ := Option.map_eq_some_iff.1 h
      apply Handled.use
      split at ht'
      · cases ht'
        exact handled_toHost
      · cases ht'
        split
        · exact handled_freeEb
        · exact handled_espNetifReceive
      · exact handled_rxBoth ht'
      · cases ht'
        exact handled_freeEb
    · cases h
      exact handled_toHost

/-- Where there is no buffer, nothing is done. -/
theorem released_nil : Released false [] := ⟨nofun, fun _ => nofun, .inl nofun⟩

theorem ap_false (buffer : Bool) : wlanApRxCallback env buffer false len = [] := by
  cases buffer <;> rfl

theorem sta_false (buffer : Bool) : wlanStaRxCallback env buffer false len = some [] := by
  cases buffer <;> rfl

theorem rxBoth_eq_none (eb : Bool) : rxBoth env len eb = none ↔ env.malloc = false := by
  cases hmalloc : env.malloc <;> simp [rxBoth, hmalloc]

/-- **Received buffers are released exactly once**, whatever the route, the data path, the stack and
the transport; a call only stops the device where the two-way route finds no memory for the copy. -/
theorem wlanRx_released (env : RxEnv) (buffer eb : Bool) (len : UInt16) :
    Released eb (wlanApRxCallback env buffer eb len) ∧
      (∀ t, wlanStaRxCallback env buffer eb len = some t → Released eb t) ∧
      (wlanStaRxCallback env buffer eb len = none ↔
        (buffer = true ∧ eb = true ∧ env.networkSplit = true) ∧ env.route = .bothLwip ∧ env.malloc =
          false) := by
  cases eb with
  | false =>
    rw [ap_false, sta_false]
    refine ⟨released_nil, fun t ht => ?_, nofun, fun h => absurd h.1.2.1 nofun⟩
    cases ht
    exact released_nil
  | true =>
    refine ⟨(handled_ap buffer).released, fun t ht => (handled_sta buffer ht).released, ?_⟩
    unfold wlanStaRxCallback
    cases buffer with
    | false => simp
    | true =>
      cases hsplit : env.networkSplit with
      | false => simp
      | true => cases hroute : env.route <;> simp [rxBoth_eq_none]

end EspHostedOpen.WifiRx
