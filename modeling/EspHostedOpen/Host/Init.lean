import EspHostedOpen.Host.Events
import EspHostedOpen.Slave.RegistryMap

/-!
# Initialisation of the host library (`phy_rpc.c`)

`esp_hosted_open_init` and `esp_hosted_open_deinit` with the statics they assign, over the registry
of the communication layer below, which other modules share. The registry is that of
`slave_control.c`.

`init_allOrNothing_iff` is what `init` leaves behind in every case. It undoes nothing: with the
mutex created, all that follows has to succeed.
-/

namespace EspHostedOpen.HostInit

open SlotMap

/-- What is registered: `on_response`, one of the `on_event_*`, or a callback of another module. -/
inductive Callback (α : Type)
  | onResponse
  | onEvent (e : Evt)
  | other (cb : α)

/-- `MAX_INFLIGHT`. -/
def maxInflight : Nat := 4

/-- `resp_ids` of `esp_hosted_open_init`. -/
def initRespIds : List Rpc :=
  [.setChannel, .setPhy11p, .setTxPower, .setRxGain, .setAgcMaxGain, .setCca, .getCcaCounters,
    .resetCcaCount, .setLowRate, .setBandwidth, .getPhyRssi, .setCountryPerm, .getInfo, .setFreq,
    .setBand, .setChanFilt, .setChan14Mic, .setRate, .setMostTpw, .getMostTpw, .resetRxGainTbl,
    .getNoiseFloor, .getTemperature, .setCsiDump, .setLoopback, .setBtTxGain,
      .setBtFilter, .getCaps,
    .tx80211, .setPromisc, .setPromiscFilter, .setProtocol, .setMac, .setCsiEnable, .ftmInitiate,
    .espnowInit, .espnowDeinit, .espnowAddPeer, .espnowDelPeer, .espnowSend, .espnowSetPmk,
    .ieee154Enable, .ieee154SetChan, .ieee154SetPanid, .ieee154SetPromisc, .ieee154TxRaw,
      .setEventMask]

/-- `all_ids` of `esp_hosted_open_deinit`, before its one event. -/
def deinitRespIds : List Rpc :=
  [.setChannel, .setPhy11p, .setTxPower, .setRxGain, .setAgcMaxGain, .setCca, .getCcaCounters,
    .resetCcaCount, .setLowRate, .setBandwidth, .getPhyRssi, .setCountryPerm, .getInfo, .setFreq,
    .setBand, .setChanFilt, .setChan14Mic, .setRate, .setMostTpw, .getMostTpw, .resetRxGainTbl,
    .getNoiseFloor, .getTemperature, .setCsiDump, .setLoopback, .setBtTxGain,
      .setBtFilter, .getCaps]

def allIds : List UInt32 := deinitRespIds.map Rpc.resp ++ [Evt.ocbFrame.msgId]

section Statics

variable {α κ γ : Type}

/-- The registrations of responses, in order. -/
def respTable : List (UInt32 × Callback α) := initRespIds.map fun r => (r.resp, .onResponse)

/-- The registrations of events, in order. -/
def eventTable : List (UInt32 × Callback α) := eventRegistrations.map fun r => (r.1, .onEvent r.2)

/-- `s_inflight_mutex` and the `done` of `s_inflight`, the registry, and of the semaphores how many
were created (a handle is its number) and which were deleted. -/
structure State (α κ : Type) where
  inflightMutex : Option Nat := none
  done : List (Option Nat) := List.replicate maxInflight none
  registry : Registry (Callback α) κ
  created : Nat := 0
  deleted : List Nat := []

/-- What the creations answer: `xSemaphoreCreateMutex`, `xSemaphoreCreateBinary` for each slot, and
the registry's own mutex where the registration of an id creates it. -/
structure Outcomes where
  mutexMade : Bool
  doneMade : Nat → Bool
  registryMade : UInt32 → Bool

/-- `esp_err_t` returned, or the `abort` of `ESP_ERROR_CHECK`. -/
inductive InitResult
  | returned (err : EspErr)
  | aborted
  deriving DecidableEq

/-- The loop over `s_inflight`: the handles of the slots, and the next free handle. -/
def createDone (made : Nat → Bool) : List Nat → Nat → List (Option Nat) × Nat
  | [], next => ([], next)
  | i :: is, next =>
    if made i then
      let r := createDone made is (next + 1)
      (some next :: r.1, r.2)
    else
      let r := createDone made is next
      (none :: r.1, r.2)

/-- Register the entries until one fails. -/
def registerUntil (made : UInt32 → Bool) : List (UInt32 × γ) → Registry γ κ → EspErr × Registry γ κ
  | [], reg => (espOk, reg)
  | e :: es, reg =>
    let r := registerCustomCallback (made e.1) reg e.1 (some e.2) none
    if r.1 ≠ espOk then r else registerUntil made es r.2

/-- `esp_hosted_open_init`. -/
def espHostedOpenInit (o : Outcomes) (s : State α κ) : InitResult × State α κ :=
  if s.inflightMutex.isSome then (.returned espErrInvalidState, s)
  else if o.mutexMade = false then (.returned espErrNoMem, s)
  else
    let d := createDone o.doneMade (List.range maxInflight) (s.created + 1)
    let s := { s with inflightMutex := some s.created, done := d.1, created := d.2 }
    let r := registerUntil o.registryMade respTable s.registry
    if r.1 ≠ espOk then (.returned r.1, { s with registry := r.2 })
    else
      let r := registerUntil o.registryMade eventTable r.2
      if r.1 ≠ espOk then (.aborted, { s with registry := r.2 })
      else (.returned espOk, { s with registry := r.2 })

/-- `esp_hosted_open_deinit`. -/
def espHostedOpenDeinit (registryMade : UInt32 → Bool) (s : State α κ) : State α κ :=
  let registry := allIds.foldl (fun reg id =>
    (registerCustomCallback (registryMade id) reg id none none).2) s.registry
  { s with
    registry := registry
    inflightMutex := none
    deleted := s.deleted ++ s.inflightMutex.toList ++ s.done.reduceOption }

/-! ## The contract of `init` -/

/-- The ids of the module. -/
def moduleIds : List UInt32 := initRespIds.map Rpc.resp ++ eventRegistrations.map Prod.fst

/-- Everything is registered, and every slot has its semaphore. -/
structure Up (s : State α κ) : Prop where
  mutex : s.inflightMutex.isSome = true
  slots : s.done.length = maxInflight
  done : ∀ d ∈ s.done, d.isSome = true
  responses : ∀ r : Rpc, handleCustomRpcRequest s.registry r.resp = .ok (.onResponse, none)
  events : ∀ e : Evt, handleCustomRpcRequest s.registry e.msgId = .ok (.onEvent e, none)

/-- **All or nothing**: `init` does not abort; it is up where it returns `ESP_OK`, and where it does
not, the mutex, the semaphores and the registry are what they were. -/
def AllOrNothing (o : Outcomes) (s : State α κ) : Prop :=
  match espHostedOpenInit o s with
  | (.aborted, _) => False
  | (.returned err, s') =>
    if err = espOk then Up s'
    else s'.inflightMutex = s.inflightMutex ∧ s'.done = s.done ∧ s'.registry = s.registry

/-- The ids of the module the registry does not hold, and those it holds, fit into the array. -/
def HasRoom (reg : Registry (Callback α) κ) : Prop :=
  (moduleIds.filter (· ∉ keys reg.table)).length + (keys reg.table).length ≤ reg.slots.length

/-- The registry has its mutex, or creates it for the first id. -/
def Lockable (o : Outcomes) (reg : Registry (Callback α) κ) : Prop :=
  reg.mutex = true ∨ o.registryMade Rpc.setChannel.resp = true

/-! ## The registrations -/

/-- An entry as the table of the registry has it. -/
def asKey (e : UInt32 × γ) : UInt32 × (γ × Option κ) := (e.1, e.2, none)

theorem map_fst_asKey (es : List (UInt32 × γ)) :
    (es.map (asKey (κ := κ))).map Prod.fst = es.map Prod.fst := by
  rw [List.map_map]
  rfl

/-- **One registration** where the registry can be locked. -/
theorem register_lockable {reg : Registry γ κ} (hwf : reg.WellFormed) {made : Bool} {e : UInt32 × γ}
    (hne : e.1 ≠ invalidMsgId) (hlock : reg.mutex = true ∨ made = true) :
    (registerCustomCallback made reg e.1 (some e.2) none).2.WellFormed ∧
      (registerCustomCallback made reg e.1 (some e.2) none).2.mutex = true ∧
      (put e.1 (e.2, none) reg.table = none ∧
          (registerCustomCallback made reg e.1 (some e.2) none).1 ≠ espOk ∨
        (registerCustomCallback made reg e.1 (some e.2) none).1 = espOk ∧
          put e.1 (e.2, none) reg.table =
            some (registerCustomCallback made reg e.1 (some e.2) none).2.table) := by
  obtain ⟨hwf', href⟩ := registerCustomCallback_refines hwf made e.1 (some e.2) none
  have hlock' : ¬(!reg.mutex && !made) = true := by
    rcases hlock with h | h <;> simp [h]
  refine ⟨hwf', ?_⟩
  unfold registerTable at href
  rw [if_neg hne, if_neg hlock'] at href
  dsimp only at href
  rcases Option.eq_none_or_eq_some (put e.1 (e.2, none) reg.table) with hput | ⟨t', hput⟩
  · rw [hput] at href
    obtain ⟨herr, hrest⟩ := Prod.mk.inj href
    exact ⟨(Prod.mk.inj hrest).1.symm, .inl ⟨hput, by rw [← herr]; exact espErrNoMem_ne_ok⟩⟩
  · rw [hput] at href
    obtain ⟨herr, hrest⟩ := Prod.mk.inj href
    obtain ⟨hmutex, htable⟩ := Prod.mk.inj hrest
    exact ⟨hmutex.symm, .inr ⟨herr.symm, by rw [hput, htable]⟩⟩

/-- **The loop** over a table writes all of it, or stops where there is no slot. -/
theorem registerUntil_lockable (made : UInt32 → Bool) {es : List (UInt32 × γ)} :
    ∀ {reg : Registry γ κ}, reg.WellFormed → (∀ e ∈ es, e.1 ≠ invalidMsgId) →
    (∀ e ∈ es.head?, reg.mutex = true ∨ made e.1 = true) →
    (registerUntil made es reg).2.WellFormed ∧
      (es ≠ [] → (registerUntil made es reg).2.mutex = true) ∧
      (putAll (es.map asKey) reg.table = none ∧ (registerUntil made es reg).1 ≠ espOk ∨
        (registerUntil made es reg).1 = espOk ∧
          putAll (es.map asKey) reg.table = some (registerUntil made es reg).2.table) := by
  induction es with
  | nil => exact fun hwf _ _ => ⟨hwf, fun h => absurd rfl h, .inr ⟨rfl, rfl⟩⟩
  | cons e es ih =>
    intro reg hwf hids hlock
    obtain ⟨hwf', hmutex, hone⟩ :=
      register_lockable hwf (hids e List.mem_cons_self) (hlock e rfl)
    rw [registerUntil, List.map_cons, putAll]
    rcases hone with ⟨hput, herr⟩ | ⟨hok, hput⟩
    · rw [if_pos herr]
      refine ⟨hwf', fun _ => hmutex, .inl ⟨?_, herr⟩⟩
      rw [asKey, hput]
      rfl
    · rw [if_neg (not_not.2 hok)]
      obtain ⟨hwf'', hmutex', hrest⟩ := ih hwf' (fun e' he' => hids e' (List.mem_cons_of_mem e he'))
        (fun _ _ => .inl hmutex)
      refine ⟨hwf'', fun _ => ?_, ?_⟩
      · cases es with
        | nil => exact hmutex
        | cons e' es => exact hmutex' (List.cons_ne_nil _ _)
      · rw [asKey, hput]
        exact hrest

/-- Without a mutex the first registration fails, and changes nothing. -/
theorem registerUntil_unlockable {made : UInt32 → Bool} {e : UInt32 × γ} {es : List (UInt32 × γ)}
    {reg : Registry γ κ} (hne : e.1 ≠ invalidMsgId) (hmutex : reg.mutex = false)
    (hmade : made e.1 = false) :
    registerUntil made (e :: es) reg = (espErrNoMem, reg) := by
  have hfail : registerCustomCallback (made e.1) reg e.1 (some e.2) none = (espErrNoMem, reg) := by
    simp [registerCustomCallback, hne, hmutex, hmade]
  rw [registerUntil, hfail]
  exact if_pos espErrNoMem_ne_ok

/-! ## The semaphores -/

/-- One handle for each slot, all there exactly where every creation succeeds. -/
theorem createDone_spec (made : Nat → Bool) (is : List Nat) : ∀ next : Nat,
    (createDone made is next).1.length = is.length ∧
      ((∀ d ∈ (createDone made is next).1, d.isSome = true) ↔ ∀ i ∈ is, made i = true) := by
  induction is with
  | nil => simp [createDone]
  | cons i is ih =>
    intro next
    unfold createDone
    by_cases hi : made i = true
    · simp [hi, ih (next + 1)]
    · simp [hi, ih next]

/-! ## The whole of `init` -/

/-- All registrations of `init`, in order. -/
def moduleTable : List (UInt32 × Callback α) := respTable ++ eventTable

theorem map_fst_moduleTable : (moduleTable (α := α)).map Prod.fst = moduleIds := rfl

theorem nodup_moduleIds : moduleIds.Nodup := by decide

theorem invalid_not_mem_moduleIds : invalidMsgId ∉ moduleIds := by decide

theorem resp_mem_moduleIds (r : Rpc) : r.resp ∈ moduleIds := by
  have hmem : r ∈ initRespIds := by cases r <;> decide
  exact List.mem_append_left _ (List.mem_map_of_mem hmem)

theorem ne_invalid_of_mem {e : UInt32 × Callback α} (he : e ∈ moduleTable) :
    e.1 ≠ invalidMsgId := by
  intro h
  have hmem : e.1 ∈ moduleIds := List.mem_map_of_mem (f := Prod.fst) he
  exact invalid_not_mem_moduleIds (h ▸ hmem)

theorem putAll_moduleTable_iff (reg : Registry (Callback α) κ) :
    (putAll (moduleTable.map asKey) reg.table).isSome = true ↔ HasRoom reg := by
  have hlen : reg.table.length = reg.slots.length := List.length_map _
  have hkeys : ((moduleTable (α := α)).map (asKey (κ := κ))).map Prod.fst = moduleIds := by
    rw [map_fst_asKey, map_fst_moduleTable]
  rw [putAll_isSome_iff (by rw [hkeys]; exact nodup_moduleIds), hkeys, HasRoom, hlen]

variable {o : Outcomes} {s : State α κ}

/-- With the mutex created, the statics are assigned whatever the registrations do. -/
theorem init_assigns (hmutex : s.inflightMutex = none) (hmade : o.mutexMade = true) :
    (espHostedOpenInit o s).2.inflightMutex = some s.created ∧
      (espHostedOpenInit o s).2.done =
        (createDone o.doneMade (List.range maxInflight) (s.created + 1)).1 ∧
      (espHostedOpenInit o s).2.created =
        (createDone o.doneMade (List.range maxInflight) (s.created + 1)).2 ∧
      (espHostedOpenInit o s).2.deleted = s.deleted := by
  unfold espHostedOpenInit
  rw [if_neg (by simp [hmutex]), if_neg (by simp [hmade])]
  dsimp only
  split
  · exact ⟨rfl, rfl, rfl, rfl⟩
  · split <;> exact ⟨rfl, rfl, rfl, rfl⟩

theorem respTable_unlockable {reg : Registry (Callback α) κ} (h : ¬Lockable o reg) :
    registerUntil o.registryMade respTable reg = (espErrNoMem, reg) := by
  have hmutex : reg.mutex = false := by
    cases hm : reg.mutex with
    | true => exact absurd (.inl hm) h
    | false => rfl
  have hmade : o.registryMade Rpc.setChannel.resp = false := by
    cases hm : o.registryMade Rpc.setChannel.resp with
    | true => exact absurd (.inr hm) h
    | false => rfl
  have hfirst : Rpc.setChannel.resp ≠ invalidMsgId := by decide
  exact registerUntil_unlockable hfirst hmutex hmade

/-- **The registrations of `init`**: all of them where the registry can be locked and has room, and
not `ESP_OK` where not. -/
theorem init_registers (hwf : s.registry.WellFormed) (hmutex : s.inflightMutex = none)
    (hmade : o.mutexMade = true) :
    (espHostedOpenInit o s).2.registry.WellFormed ∧
      (((espHostedOpenInit o s).1 = .returned espOk ∧ (Lockable o s.registry ∧ HasRoom s.registry) ∧
          putAll (moduleTable.map asKey) s.registry.table =
            some (espHostedOpenInit o s).2.registry.table) ∨
        ((espHostedOpenInit o s).1 ≠ .returned espOk ∧
          ¬(Lockable o s.registry ∧ HasRoom s.registry))) := by
  have hreturned : ∀ err : EspErr, err ≠ espOk → InitResult.returned err ≠ .returned espOk :=
    fun err h heq => h (InitResult.returned.inj heq)
  unfold espHostedOpenInit
  rw [if_neg (by simp [hmutex]), if_neg (by simp [hmade])]
  dsimp only
  by_cases hlock : Lockable o s.registry
  · have hresp : ∀ e ∈ respTable (α := α), e.1 ≠ invalidMsgId := fun e he =>
      ne_invalid_of_mem (List.mem_append_left _ he)
    have hevent : ∀ e ∈ eventTable (α := α), e.1 ≠ invalidMsgId := fun e he =>
      ne_invalid_of_mem (List.mem_append_right _ he)
    have hhead : ∀ e ∈ (respTable (α := α)).head?, s.registry.mutex = true ∨
      o.registryMade e.1 = true := by
      intro e he
      cases he
      exact hlock
    obtain ⟨hwf₁, hmutex₁, hall₁⟩ := registerUntil_lockable o.registryMade hwf hresp hhead
    have hlocked := hmutex₁ (List.cons_ne_nil _ _)
    obtain ⟨hwf₂, -, hall₂⟩ := registerUntil_lockable o.registryMade hwf₁ hevent fun _ _ =>
      .inl hlocked
    have hroom := putAll_moduleTable_iff s.registry
    rw [moduleTable, List.map_append, putAll_append] at hroom ⊢
    rcases hall₁ with ⟨hnone, herr⟩ | ⟨hok, hsome⟩
    · rw [if_pos herr]
      refine ⟨hwf₁, .inr ⟨hreturned _ herr, fun h => ?_⟩⟩
      have hall := hroom.2 h.2
      rw [hnone] at hall
      cases hall
    · rw [if_neg (not_not.2 hok)]
      rw [hsome, Option.bind_some] at hroom ⊢
      rcases hall₂ with ⟨hnone, herr⟩ | ⟨hok₂, hsome₂⟩
      · rw [if_pos herr]
        refine ⟨hwf₂, .inr ⟨InitResult.noConfusion, fun h => ?_⟩⟩
        have hall := hroom.2 h.2
        rw [hnone] at hall
        cases hall
      · rw [if_neg (not_not.2 hok₂)]
        refine ⟨hwf₂, .inl ⟨rfl, ⟨hlock, hroom.1 ?_⟩, hsome₂⟩⟩
        rw [hsome₂]
        rfl
  · rw [respTable_unlockable hlock]
    dsimp only
    rw [if_pos espErrNoMem_ne_ok]
    exact ⟨hwf, .inr ⟨hreturned _ espErrNoMem_ne_ok, fun h => hlock h.1⟩⟩

/-- An empty registry has room from 54 slots on. -/
theorem hasRoom_empty {n : Nat} : HasRoom (Registry.empty n : Registry (Callback α) κ) ↔
    54 ≤ n := by
  have hkeys := (Registry.wellFormed_empty (γ := Callback α) (κ := κ) n).unused rfl
  have hslots : (Registry.empty n : Registry (Callback α) κ).slots.length = n :=
    List.length_replicate
  have hids : moduleIds.length = 54 := rfl
  rw [HasRoom, hkeys, hslots, List.filter_eq_self.2 (by simp), hids]
  simp

/-- What is registered is found. -/
theorem lookup_of_putAll {reg reg' : Registry (Callback α) κ} (hwf : reg'.WellFormed)
    (hput : putAll (moduleTable.map asKey) reg.table = some reg'.table) {e : UInt32 × Callback α}
    (he : e ∈ moduleTable) : handleCustomRpcRequest reg' e.1 = .ok (e.2, none) := by
  have hnd : ((moduleTable (α := α)).map (asKey (κ := κ))).map Prod.fst |>.Nodup := by
    rw [map_fst_asKey, map_fst_moduleTable]
    exact nodup_moduleIds
  have hget := get_putAll_of_mem hnd (List.mem_map_of_mem (f := asKey) he) hput
  rw [handleCustomRpcRequest_eq_get hwf (ne_invalid_of_mem he), show get e.1 reg'.table =
    _ from hget]
  rfl

theorem resp_mem_moduleTable (r : Rpc) : (r.resp, Callback.onResponse) ∈ moduleTable (α := α) := by
  have hmem : r ∈ initRespIds := by cases r <;> decide
  exact List.mem_append_left _ (List.mem_map_of_mem hmem)

theorem evt_mem_moduleTable (e : Evt) : (e.msgId, Callback.onEvent e) ∈ moduleTable (α := α) := by
  have hmem : (e.msgId, e) ∈ eventRegistrations := by cases e <;> decide
  exact List.mem_append_right _ (List.mem_map_of_mem hmem)

/-- `init` keeps its contract exactly where it is refused at the start, or every creation succeeds
and all registrations fit. -/
theorem init_allOrNothing_iff (o : Outcomes) (s : State α κ) (hwf : s.registry.WellFormed) :
    AllOrNothing o s ↔
      s.inflightMutex.isSome = true ∨ o.mutexMade = false ∨
        ((∀ i < maxInflight, o.doneMade i = true) ∧ Lockable o s.registry ∧
          HasRoom s.registry) := by
  cases hmutex : s.inflightMutex with
  | some h =>
    have hinit : espHostedOpenInit o s = (.returned espErrInvalidState, s) :=
      if_pos (by simp [hmutex])
    rw [AllOrNothing, hinit]
    simp [espErrInvalidState_ne_ok]
  | none =>
    cases hmade : o.mutexMade with
    | false =>
      have hinit : espHostedOpenInit o s = (.returned espErrNoMem, s) := by
        unfold espHostedOpenInit
        rw [if_neg (by simp [hmutex]), if_pos hmade]
      rw [AllOrNothing, hinit]
      simp [espErrNoMem_ne_ok]
    | true =>
      obtain ⟨hm, hd, -, -⟩ := init_assigns hmutex hmade
      obtain ⟨hlen, hdone⟩ := createDone_spec o.doneMade (List.range maxInflight) (s.created + 1)
      obtain ⟨hwf', hregs⟩ := init_registers hwf hmutex hmade
      rw [← hd, List.length_range] at hlen
      simp only [← hd, List.mem_range] at hdone
      unfold AllOrNothing
      rcases hregs with ⟨hres, hcond, hput⟩ | ⟨hres, hcond⟩
      · generalize espHostedOpenInit o s = r at *
        obtain ⟨res, s'⟩ := r
        cases hres
        dsimp only
        rw [if_pos rfl]
        constructor
        · exact fun hup => .inr (.inr ⟨hdone.1 hup.done, hcond⟩)
        · rintro (h | h | h)
          · cases h
          · cases h
          · refine ⟨by rw [hm]; rfl, hlen, hdone.2 h.1, fun r => ?_, fun e => ?_⟩
            · exact lookup_of_putAll hwf' hput (resp_mem_moduleTable r)
            · exact lookup_of_putAll hwf' hput (evt_mem_moduleTable e)
      · constructor
        · intro h
          generalize espHostedOpenInit o s = r at *
          obtain ⟨res, s'⟩ := r
          cases res with
          | aborted => exact h.elim
          | returned err =>
            have herr : err ≠ espOk := fun heq => hres (congrArg _ heq)
            dsimp only at h hm
            rw [if_neg herr] at h
            rw [h.1, hmutex] at hm
            cases hm
        · rintro (h | h | h)
          · cases h
          · cases h
          · exact absurd h.2 hcond

end Statics

/-- The statics at boot, over a registry of `n` slots. -/
def bootState (n : Nat) : State Unit Unit := { registry := Registry.empty n }

def allMade : Outcomes := ⟨true, fun _ => true, fun _ => true⟩

theorem init_allOrNothing_room : AllOrNothing allMade (bootState 54) := by
  apply (init_allOrNothing_iff allMade (bootState 54) (Registry.wellFormed_empty 54)).2
  exact .inr (.inr ⟨fun _ _ => rfl, .inr rfl, hasRoom_empty.2 (Nat.le_refl 54)⟩)

/-- **A half-done `init`**: the registry is too small, the error is returned with the mutex in
place, and `init` is refused from then on. -/
theorem init_not_allOrNothing :
    ¬AllOrNothing allMade (bootState 16) ∧
      (espHostedOpenInit allMade (espHostedOpenInit allMade (bootState 16)).2).1 =
        .returned espErrInvalidState := by
  have hres : (espHostedOpenInit allMade (bootState 16)).1 =
    .returned espErrNoMem := by decide +kernel
  have hmutex : (espHostedOpenInit allMade (bootState 16)).2.inflightMutex =
    some 0 := by decide +kernel
  constructor
  · intro h
    unfold AllOrNothing at h
    generalize espHostedOpenInit allMade (bootState 16) = r at *
    obtain ⟨res, s'⟩ := r
    cases hres
    dsimp only at h hmutex
    rw [if_neg espErrNoMem_ne_ok] at h
    rw [h.1] at hmutex
    cases hmutex
  · rw [espHostedOpenInit, hmutex]
    rfl

end EspHostedOpen.HostInit
