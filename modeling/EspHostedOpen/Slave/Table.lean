import EspHostedOpen.Slave.Registry
import EspHostedOpen.Slave.Extras
import EspHostedOpen.Slave.Wireless
import EspHostedOpen.Slave.Caps

/-!
# The registration tables, and what is served

`Rpc.handler` pairs each request with the function its table registers for it. The three
registration loops run one after the other on the same registry (`slaveRegistry`), so the capacity
cuts the concatenation of the tables: `served_iff` says which requests the lookup still finds.

The capability bitmap never looks at the registry. Everything it can advertise is found exactly when
the capacity covers the last advertised entry of the tables (`advertisedServed_iff`).
-/

namespace EspHostedOpen

/-- The callback the tables register for a request. -/
def Rpc.handler : Rpc → Handler Unit
  | .setChannel => onSetChannel
  | .setPhy11p => onSetPhy11p
  | .setTxPower => onSetTxPower
  | .setRxGain => onSetRxGain
  | .setAgcMaxGain => onSetAgcMaxGain
  | .setCca => onSetCca
  | .getCcaCounters => onGetCcaCounters
  | .resetCcaCount => onResetCcaCounters
  | .setLowRate => onSetLowRate
  | .setBandwidth => onSetBandwidth
  | .getPhyRssi => onGetPhyRssi
  | .setCountryPerm => onSetCountryPermissive
  | .getInfo => onGetInfo
  | .setFreq => onSetFreq
  | .setBand => onSetBand
  | .setChanFilt => onSetChanFilt
  | .setChan14Mic => onSetChan14Mic
  | .setRate => onSetRate
  | .setMostTpw => onSetMostTpw
  | .getMostTpw => onGetMostTpw
  | .resetRxGainTbl => onResetRxGainTable
  | .getNoiseFloor => onGetNoiseFloor
  | .getTemperature => onGetTemperature
  | .setCsiDump => onSetCsiDump
  | .setLoopback => onSetLoopback
  | .setBtTxGain => onSetBtTxGain
  | .setBtFilter => onSetBtFilter
  | .getCaps => onGetCaps
  | .tx80211 => onTx80211
  | .setPromisc => onSetPromisc
  | .setPromiscFilter => onSetPromiscFilter
  | .setProtocol => onSetProtocol
  | .setMac => onSetMac
  | .setCsiEnable => onSetCsiEnable
  | .ftmInitiate => onFtmInitiate
  | .setEventMask => onSetEventMask
  | .espnowInit => onEspnowInit
  | .espnowDeinit => onEspnowDeinit
  | .espnowSetPmk => onEspnowSetPmk
  | .espnowAddPeer => onEspnowAddPeer
  | .espnowDelPeer => onEspnowDelPeer
  | .espnowSend => onEspnowSend
  | .ieee154Enable => onI154Enable
  | .ieee154SetChan => onI154SetChan
  | .ieee154SetPanid => onI154SetPanid
  | .ieee154SetPromisc => onI154SetPromisc
  | .ieee154TxRaw => onI154TxRaw

/-- The rows of a `table[]`, from the requests it lists. -/
def rows (rs : List Rpc) : List (UInt32 × Handler Unit) := rs.map fun r => (r.req, r.handler)

def handlersTable : List Rpc :=
  [.setChannel, .setPhy11p, .setTxPower, .setRxGain, .setAgcMaxGain, .setCca, .getCcaCounters,
    .resetCcaCount, .setLowRate, .setBandwidth, .getPhyRssi, .setCountryPerm, .getInfo, .setFreq,
    .setBand, .setChanFilt, .setChan14Mic, .setRate, .setMostTpw, .getMostTpw, .resetRxGainTbl,
    .getNoiseFloor, .getTemperature, .setCsiDump, .setLoopback, .setBtTxGain,
      .setBtFilter, .getCaps]

def extrasTable : List Rpc :=
  [.tx80211, .setPromisc, .setPromiscFilter, .setProtocol, .setMac, .setCsiEnable, .ftmInitiate,
    .setEventMask]

def wirelessTable : List Rpc :=
  [.espnowInit, .espnowDeinit, .espnowSetPmk, .espnowAddPeer, .espnowDelPeer, .espnowSend,
    .ieee154Enable, .ieee154SetChan, .ieee154SetPanid, .ieee154SetPromisc, .ieee154TxRaw]

abbrev SlaveRegistry := Registry (Handler Unit) Unit

def phyRpcHandlersRegister (made : UInt32 → Bool) (reg : SlaveRegistry) : SlaveRegistry :=
  registerAll made reg (rows handlersTable)

def phyRpcExtrasRegister (made : UInt32 → Bool) (reg : SlaveRegistry) : SlaveRegistry :=
  registerAll made reg (rows extrasTable)

def phyRpcWirelessRegister (made : UInt32 → Bool) (reg : SlaveRegistry) : SlaveRegistry :=
  registerAll made reg (rows wirelessTable)

/-- The registry after boot, for a capacity and the outcomes of creating the mutex. -/
def slaveRegistry (made : UInt32 → Bool) (n : Nat) : SlaveRegistry :=
  phyRpcWirelessRegister made (phyRpcExtrasRegister made (phyRpcHandlersRegister made (.empty n)))

/-- A request is dispatched to its own handler. -/
def Served (made : UInt32 → Bool) (n : Nat) (r : Rpc) : Prop :=
  handleCustomRpcRequest (slaveRegistry made n) r.req = .ok (r.handler, none)

/-- Every request whose capability bit is set is dispatched to its own handler. -/
def AdvertisedServed (made : UInt32 → Bool) (n : Nat) (res : Sym → Bool) : Prop :=
  ∀ r : Rpc, capBit (getCaps res) r.req = true → Served made n r

/-! ## The three loops as one table -/

/-- All requests in the order they are registered. -/
def registerOrder : List Rpc := handlersTable ++ (extrasTable ++ wirelessTable)

theorem nodup_registerOrder : registerOrder.Nodup := by decide

theorem map_fst_rows (rs : List Rpc) : (rows rs).map Prod.fst = rs.map Rpc.req := by
  rw [rows, List.map_map]
  rfl

theorem nodup_map_req {rs : List Rpc} (h : rs.Nodup) : ((rows rs).map Prod.fst).Nodup := by
  rw [map_fst_rows]
  exact h.map Rpc.req_injective

theorem req_ne_invalid (r : Rpc) : r.req ≠ invalidMsgId := by
  cases r <;> decide

theorem invalid_notMem_rows (rs : List Rpc) : invalidMsgId ∉ (rows rs).map Prod.fst := by
  rw [map_fst_rows]
  intro h
  obtain ⟨r, -, hr⟩ := List.mem_map.1 h
  exact req_ne_invalid r hr

/-- What is left of the registration order once the mutex exists. -/
def fromMutex (made : UInt32 → Bool) : List Rpc := registerOrder.dropWhile fun r => !made r.req

theorem nodup_fromMutex (made : UInt32 → Bool) : (fromMutex made).Nodup :=
  nodup_registerOrder.sublist (List.dropWhile_sublist _)

theorem slaveRegistry_eq (made : UInt32 → Bool) (n : Nat) :
    slaveRegistry made n =
      ⟨registerOrder.any fun r => made r.req, layout n (rows (fromMutex made))⟩ := by
  have htable : rows handlersTable ++ (rows extrasTable ++ rows wirelessTable) =
    rows registerOrder := by
    simp only [rows, registerOrder, List.map_append]
  have hdrop : (rows registerOrder).dropWhile (fun e => !made e.1) = rows (fromMutex made) :=
    List.dropWhile_map
  unfold slaveRegistry phyRpcWirelessRegister phyRpcExtrasRegister phyRpcHandlersRegister
  rw [← registerAll_append, ← registerAll_append, htable,
    registerAll_empty made n (invalid_notMem_rows _) (nodup_map_req nodup_registerOrder), hdrop,
    rows, List.any_map]
  rfl

/-- **What is served**: the first `n` requests of the order that met a mutex; the others are not
found. -/
theorem lookup_eq (made : UInt32 → Bool) (n : Nat) (r : Rpc) :
    handleCustomRpcRequest (slaveRegistry made n) r.req =
      if r ∈ (fromMutex made).take n then .ok (r.handler, none) else .error espErrNotFound := by
  have htake : (rows (fromMutex made)).take n = rows ((fromMutex made).take n) :=
    List.map_take.symm
  rw [slaveRegistry_eq]
  split
  · rename_i h
    have hany : (registerOrder.any fun r => made r.req) = true := by
      have hne : fromMutex made ≠ [] := List.ne_nil_of_mem (List.mem_of_mem_take h)
      rw [List.any_eq_true]
      by_contra hnone
      push Not at hnone
      refine hne (List.dropWhile_eq_nil_iff.2 fun r hr => ?_)
      simp [hnone r hr]
    have hrow : (r.req, r.handler) ∈ (rows (fromMutex made)).take n := by
      rw [htake]
      exact List.mem_map_of_mem h
    rw [hany]
    exact handleCustomRpcRequest_layout_of_mem (e := (r.req, r.handler)) (req_ne_invalid r)
      (nodup_map_req (nodup_fromMutex made)) hrow
  · rename_i h
    refine handleCustomRpcRequest_layout_of_not_mem (req_ne_invalid r) ?_
    rw [htake, map_fst_rows]
    intro hreq
    obtain ⟨r', hr', heq⟩ := List.mem_map.1 hreq
    exact h (Rpc.req_injective heq ▸ hr')

theorem served_iff (made : UInt32 → Bool) (n : Nat) (r : Rpc) :
    Served made n r ↔ r ∈ (fromMutex made).take n := by
  rw [Served, lookup_eq]
  split <;> simp_all

/-! ## Advertised and served -/

theorem mem_registerOrder (r : Rpc) : r ∈ registerOrder := by
  cases r <;> decide

/-- Once the first registration created the mutex, a request is served if its row is within the
capacity. -/
theorem served_iff_idxOf {made : UInt32 → Bool} (hmade : made Rpc.setChannel.req = true) (n : Nat)
    (r : Rpc) : Served made n r ↔ registerOrder.idxOf r < n := by
  have hall : fromMutex made = registerOrder :=
    List.dropWhile_cons_of_neg (by simp [hmade])
  rw [served_iff, hall, List.mem_take_iff_idxOf_lt (mem_registerOrder r)]

/-- The first row is lost if the mutex could not be created for it. -/
theorem not_served_of_not_made {made : UInt32 → Bool} (hmade : made Rpc.setChannel.req = false)
    (n : Nat) : ¬Served made n .setChannel := by
  rw [served_iff]
  intro h
  have htail : fromMutex made = registerOrder.tail.dropWhile fun r => !made r.req :=
    List.dropWhile_cons_of_pos (by simp [hmade])
  rw [htail] at h
  have hmem : Rpc.setChannel ∈ registerOrder.tail :=
    (List.dropWhile_sublist _).subset (List.mem_of_mem_take h)
  exact absurd hmem (by decide)

/-- The capacity that covers every row the bitmap can advertise: the 802.15.4 rows are the last
five. -/
def capacityNeeded (res : Sym → Bool) : Nat := if res .espIeee802154Enable then 47 else 42

theorem idxOf_lt_capacityNeeded {res : Sym → Bool} {r : Rpc} (h : advertised res r = true) :
    registerOrder.idxOf r < capacityNeeded res := by
  unfold capacityNeeded
  split
  · have hmem := List.idxOf_lt_length_of_mem (mem_registerOrder r)
    exact hmem
  · rename_i hres
    cases r <;> first | decide | exact absurd h hres

/-- **Advertised means served** exactly when the mutex was created at once and the capacity covers
the advertised rows. -/
theorem advertisedServed_iff (made : UInt32 → Bool) (n : Nat) (res : Sym → Bool) :
    AdvertisedServed made n res ↔ made Rpc.setChannel.req = true ∧ capacityNeeded res ≤ n := by
  unfold AdvertisedServed
  simp only [capBit_getCaps]
  cases hmade : made Rpc.setChannel.req with
  | false =>
    simp only [Bool.false_eq_true, false_and, iff_false]
    intro h
    exact not_served_of_not_made hmade n (h .setChannel rfl)
  | true =>
    simp only [true_and, served_iff_idxOf hmade]
    constructor
    · intro h
      unfold capacityNeeded
      split
      · rename_i hres
        exact h .ieee154TxRaw hres
      · exact h .espnowSend rfl
    · intro h r hr
      exact lt_of_lt_of_le (idxOf_lt_capacityNeeded hr) h

/-- `CONFIG_ESP_HOSTED_MAX_CUSTOM_MSG_HANDLERS` goes up to 32. Whatever it is, some advertised
request is not dispatched. -/
theorem not_advertisedServed (made : UInt32 → Bool) {n : Nat} (hn : n ≤ 32) (res : Sym → Bool) :
    ¬AdvertisedServed made n res := by
  rw [advertisedServed_iff]
  rintro ⟨-, h⟩
  unfold capacityNeeded at h
  split at h <;> omega

theorem not_advertisedServed_thirtyTwo : ¬AdvertisedServed (fun _ => true) 32 fun _ => false :=
  not_advertisedServed (fun _ => true) (by decide) fun _ => false

/-- With the 16 slots of `sdkconfig.defaults` ESP-NOW is advertised on every chip and not found. -/
theorem espnowInit_not_found :
    capBit (getCaps fun _ => false) Rpc.espnowInit.req = true ∧
      handleCustomRpcRequest (slaveRegistry (fun _ => true) 16) Rpc.espnowInit.req =
        .error espErrNotFound ∧
      ¬AdvertisedServed (fun _ => true) 16 fun _ => false := by
  refine ⟨by rw [capBit_getCaps]; rfl, ?_, ?_⟩
  · rw [lookup_eq, if_neg (by decide)]
  · rw [advertisedServed_iff]
    decide

end EspHostedOpen
