import EspHostedOpen.Lib.Transition
import EspHostedOpen.Slave.Settings

/-!
# Boot, and the radio hack on top of Wi-Fi (`phy_rpc_overlay.c`)

Three tasks: `app_main`, the RPC task with the host's Wi-Fi and PHY requests, and the event task
with `on_wifi_event`. Every call into the Wi-Fi driver or into `libphy.a` is a step of its own, and
a step brings along what the driver answers: `esp_wifi_set_country` and `esp_wifi_set_channel`
refuse while the driver is not initialised, whatever the step says.

Who initialises the driver depends on the build: `connect_sta` does in two of the options, else the
host must. The calls of `connect_sta` that can neither fail the boot nor change what is recorded
here are left out, and so is what happens to the configuration of the station (`Slave.Station`).
-/

namespace EspHostedOpen.Boot

open Transition

/-- The members that `wifi_init_config_changed` compares. -/
abbrev WifiInitConfig := List UInt32

structure Build where
  networkSplit : Bool                            -- `CONFIG_ESP_HOSTED_NETWORK_SPLIT_ENABLED`
  preProvision : Bool  -- `CONFIG_ESP_HOSTED_USE_EXAMPLE_WIFI_PRE_PROVISION_CONFIG`
  reapplyOnWifiReady : Bool                      -- `CONFIG_PHY_RPC_OVERLAY_REAPPLY_ON_WIFI_READY`
  channel : UInt8                                -- `CONFIG_PHY_RPC_OVERLAY_CHANNEL`
  initConfig : WifiInitConfig                    -- `WIFI_INIT_CONFIG_DEFAULT()`

def espErrNvsNoFreePages : EspErr := 0x110D
def espErrNvsNewVersionFound : EspErr := 0x1110

/-! ## State -/

/-- Inside `slave_phy_apply`. -/
inductive ApplyPc
  | country                                      -- `esp_wifi_set_country`
  | arm                                          -- `phy_11p_set`
  | channel                                      -- `esp_wifi_set_channel`
  | tune                                         -- `phy_change_channel`
  | ps                                           -- `esp_wifi_set_ps`
  deriving DecidableEq, Repr

/-- Inside `__wrap_esp_wifi_init`. -/
inductive InitPc
  | test (cfg : WifiInitConfig)
  | stop (cfg : WifiInitConfig)
  | deinit (cfg : WifiInitConfig)
  | clear (cfg : WifiInitConfig)                 -- `wifi_initialized = false`
  | cache (cfg : WifiInitConfig)
  | real                                         -- `__real_esp_wifi_init`
  | set                                          -- `wifi_initialized = true`
  deriving DecidableEq, Repr

/-- What `app_main` is about to do. -/
inductive BootPc
  | nvsInit
  | nvsErase
  | nvsInitAgain
  | transport  -- `esp_hosted_coprocessor_init` up to `connect_sta`
  | staInit (pc : InitPc)                        -- `connect_sta`
  | staStorage
  | staMode
  | staPs
  | staStart
  | hostReset                                    -- the rest of `esp_hosted_coprocessor_init`
  | registerEvents                               -- `esp_event_handler_register`
  | apply (pc : ApplyPc)
  | registerHandlers
  | registerExtras
  | registerWireless
  | serving
  | aborted
  deriving DecidableEq, Repr

/-- What the RPC task is about to do. -/
inductive RpcPc
  | idle
  | init (pc : InitPc)                           -- `req_wifi_init`
  | deinitClear                                  -- `req_wifi_deinit`: `wifi_initialized = false`
  | deinit
  | start
  | stop
  | setCountry (channel : UInt8)                 -- `on_set_channel`
  | setChannel (channel : UInt8)
  | changeChannel (channel : UInt8)
  | phy11p (enable : Bool)                       -- `on_set_phy_11p`
  deriving DecidableEq, Repr

/-- What the event task is about to do: nothing, or `slave_phy_apply`. -/
inductive EventPc
  | idle
  | apply (pc : ApplyPc)
  deriving DecidableEq, Repr

/-- The driver, the statics of the wrapper, the three tasks, and the calls into `libphy.a` with
whether the driver was initialised. -/
structure State where
  initialised : Bool := false
  wifiInitialized : Bool := false
  cachedConfig : Option WifiInitConfig := none
  boot : BootPc := .nvsInit
  rpc : RpcPc := .idle
  event : EventPc := .idle
  online : Bool := false                         -- `protocomm_pserial_start`
  onWifiEvent : Bool := false
  phyHandlers : Bool := false
  phyCalls : List (PhyCall × Bool) := []

namespace State

def setBoot (s : State) (pc : BootPc) : State := { s with boot := pc }

def setRpc (s : State) (pc : RpcPc) : State := { s with rpc := pc }

def setEvent (s : State) (pc : EventPc) : State := { s with event := pc }

/-- A call into `libphy.a`. -/
def phy (s : State) (c : PhyCall) : State :=
    { s with phyCalls := s.phyCalls ++ [(c, s.initialised)] }

/-- `esp_wifi_set_country` and `esp_wifi_set_channel`. -/
def answer (s : State) (result : EspErr) : EspErr :=
    if s.initialised then result else espErrWifiNotInit

/-- `ESP_ERROR_CHECK` in `app_main`. -/
def check (s : State) (err : EspErr) (next : BootPc) : State :=
  s.setBoot (if err = espOk then next else .aborted)

end State

/-! ## Functions called from more than one task -/

/-- `slave_phy_apply`, one step: it goes on, or returns. -/
def slavePhyApply (channel : UInt8) (result : EspErr) (s : State) :
    ApplyPc → State × (ApplyPc ⊕ EspErr)
  | .country => (s, if s.answer result = espOk then .inl .arm else .inr (s.answer result))
  | .arm => (s.phy (.phy11pSet 1 0), .inl .channel)
  | .channel => (s, if s.answer result = espOk then .inl .tune else .inr (s.answer result))
  | .tune => (s.phy (.phyChangeChannel channel.toUInt32.toInt32 1 0 0), .inl .ps)
  | .ps => (s, .inr espOk)

/-- `__wrap_esp_wifi_init`, one step. -/
def wrapEspWifiInit (result : EspErr) (s : State) : InitPc → State × (InitPc ⊕ EspErr)
  | .test cfg =>
    (s, if s.wifiInitialized then
        if s.cachedConfig.any (· != cfg) then .inl (.stop cfg) else .inr espOk
      else .inl (.cache cfg))
  | .stop cfg => (s, .inl (.deinit cfg))
  | .deinit cfg => ({ s with initialised := s.initialised && result != espOk }, .inl (.clear cfg))
  | .clear cfg => ({ s with wifiInitialized := false }, .inl (.cache cfg))
  | .cache cfg => ({ s with cachedConfig := some cfg }, .inl .real)
  | .real =>
    ({ s with initialised := s.initialised || result == espOk },
      if result = espOk then .inl .set else .inr result)
  | .set => ({ s with wifiInitialized := true }, .inr espOk)

/-! ## Steps -/

/-- The next step of `app_main`. -/
def bootStep (build : Build) (result : EspErr) (s : State) : Option State :=
  match s.boot with
  | .nvsInit =>
    some (if result = espErrNvsNoFreePages ∨
      result = espErrNvsNewVersionFound then s.setBoot .nvsErase
      else s.check result .transport)
  | .nvsErase => some (s.check result .nvsInitAgain)
  | .nvsInitAgain => some (s.check result .transport)
  | .transport =>
    let next := if build.networkSplit || build.preProvision then .staInit (.test build.initConfig)
      else .hostReset
    some ({ s with online := result == espOk }.check result next)
  | .staInit pc =>
    match wrapEspWifiInit result s pc with
    | (s, .inl pc) => some (s.setBoot (.staInit pc))
    | (s, .inr err) => some (s.check err .staStorage)
  | .staStorage => some (s.check result .staMode)
  | .staMode => some (s.check result .staPs)
  | .staPs => some (s.check result .staStart)
  | .staStart => some (s.check result .hostReset)
  | .hostReset => some (s.check result .registerEvents)
  | .registerEvents =>
    some (if build.reapplyOnWifiReady then
        { s with onWifiEvent := result == espOk }.check result (.apply .country)
      else s.setBoot (.apply .country))
  | .apply pc =>
    match slavePhyApply build.channel result s pc with
    | (s, .inl pc) => some (s.setBoot (.apply pc))
    | (s, .inr err) => some (s.check err .registerHandlers)
  | .registerHandlers => some ({ s with phyHandlers := true }.setBoot .registerExtras)
  | .registerExtras => some (s.setBoot .registerWireless)
  | .registerWireless => some (s.setBoot .serving)
  | .serving | .aborted => none

inductive Request
  | wifiInit (cfg : WifiInitConfig)
  | wifiDeinit
  | wifiStart
  | wifiStop
  | setChannel (channel : UInt8)
  | setPhy11p (enable : Bool)
  deriving DecidableEq, Repr

/-- The RPC task begins with a request. -/
def request (s : State) : Request → Option State
  | .wifiInit cfg => if s.online then some (s.setRpc (.init (.test cfg))) else none
  | .wifiDeinit => if s.online then some (s.setRpc .deinitClear) else none
  | .wifiStart => if s.online then some (s.setRpc .start) else none
  | .wifiStop => if s.online then some (s.setRpc .stop) else none
  | .setChannel channel => if s.phyHandlers then some (s.setRpc (.setCountry channel)) else none
  | .setPhy11p enable => if s.phyHandlers then some (s.setRpc (.phy11p enable)) else none

/-- The next step of the RPC task. -/
def rpcStep (result : EspErr) (s : State) : Option State :=
  match s.rpc with
  | .idle => none
  | .init pc =>
    match wrapEspWifiInit result s pc with
    | (s, .inl pc) => some (s.setRpc (.init pc))
    | (s, .inr _) => some (s.setRpc .idle)
  | .deinitClear => some ({ s with wifiInitialized := false }.setRpc .deinit)
  | .deinit => some ({ s with initialised := s.initialised && result != espOk }.setRpc .idle)
  | .start | .stop => some (s.setRpc .idle)
  | .setCountry channel => some (s.setRpc (.setChannel channel))
  | .setChannel channel =>
    some (s.setRpc (if s.answer result = espOk then .changeChannel channel else .idle))
  | .changeChannel channel =>
    some ((s.phy (.phyChangeChannel channel.toUInt32.toInt32 1 0 0)).setRpc .idle)
  | .phy11p enable => some ((s.phy (.phy11pSet (intFlag enable) 0)).setRpc .idle)

/-- The next step of the event task: `on_wifi_event` ignores what `slave_phy_apply` returns. -/
def eventStep (build : Build) (result : EspErr) (s : State) : Option State :=
  match s.event with
  | .idle => none
  | .apply pc =>
    match slavePhyApply build.channel result s pc with
    | (s, .inl pc) => some (s.setEvent (.apply pc))
    | (s, .inr _) => some (s.setEvent .idle)

inductive Action
  | boot (result : EspErr)
  | request (r : Request)
  | rpc (result : EspErr)
  | wifiReady
  | event (result : EspErr)
  deriving DecidableEq, Repr

def step (build : Build) (s : State) : Action → Option State
  | .boot result => bootStep build result s
  | .request r => if s.rpc = .idle ∧ s.boot ≠ .aborted then request s r else none
  | .rpc result => if s.boot ≠ .aborted then rpcStep result s else none
  | .wifiReady =>
    if s.event = .idle ∧ s.onWifiEvent = true ∧ s.boot ≠ .aborted then
      some (s.setEvent (.apply .country))
    else none
  | .event result => if s.boot ≠ .aborted then eventStep build result s else none

def start : State := {}

end EspHostedOpen.Boot
