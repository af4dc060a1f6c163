import EspHostedOpen.Lib.Transition
import EspHostedOpen.Proto.Messages

/-!
# Station configuration and connection (`slave_wifi_std.c`)

The RPC task (`esp_hosted_set_sta_config`, `req_wifi_connect`) and the event task
(`event_handler_wifi`) share `new_wifi_config` and four flags without a lock. Each driver call and
each access to what they share is a step of its own, and a step brings along what the driver
answers. `esp_wifi_set_config (&new_wifi_config)` is one step: it reads the cache as a part of the
call.

A configuration carries the number of the request that supplied it: that is what "older" refers to.
-/

namespace EspHostedOpen.Station

open Transition

/-- `wifi_config_t` of the station. The fields that no code here looks at are left out. -/
structure Config where
  serial : Nat
  ssid : List UInt8
  deriving DecidableEq, Repr

def strlen (s : List UInt8) : Nat := (s.takeWhile (· != 0)).length

/-- The options of `Kconfig.projbuild` that change `event_handler_wifi`. -/
structure Build where
  autoConnectOnStaDisconnect : Bool
  autoReconnectMaxRetry : Nat
  autoConnectOnStaStart : Bool

/-! ## State -/

/-- The events of the station. -/
inductive StaEvent
  | connected | disconnected | start | stop
  deriving DecidableEq, Repr

/-- What the RPC task is about to do. -/
inductive RpcPc
  | idle
  | setConfig (cfg : Config)                     -- test `station_connecting`
  | apply (cfg : Config)                         -- `esp_wifi_set_config`
  | cache (cfg : Config)                         -- copy into `new_wifi_config`
  | flag                                         -- set `new_config_recvd`
  | unflag                                       -- clear `new_config_recvd`
  | connect                                      -- `esp_wifi_get_config`
  | connectedTest                                -- test `station_connected`
  | setConnecting                                -- set `station_connecting`
  | connecting                                   -- `esp_wifi_connect`
  | unsetConnecting (ret : EspErr)               -- clear `station_connecting`
  deriving DecidableEq, Repr

/-- What the event task is about to do. -/
inductive EventPc
  | idle
  | connected                                    -- test `new_config_recvd`
  | connectedApply                               -- `esp_wifi_set_config`
  | connectedDisconnect                          -- `esp_wifi_disconnect`
  | connectedSuppress                            -- set `suppress_disconnect`
  | connectedClear                               -- clear `station_connecting`
  | connectedForward                             -- tell the host
  | connectedDone                                -- set `station_connected`
  | disconnected                                 -- test `new_config_recvd`
  | disconnectedApply                            -- `esp_wifi_set_config`
  | disconnectedUnflag (applied : Config)        -- clear `new_config_recvd`
  | disconnectedLost (pending : Bool)            -- clear `station_connected`
  | disconnectedConnecting (pending : Bool)      -- write `station_connecting`
  | disconnectedConnect                          -- `esp_wifi_connect`
  | disconnectedReport (pending issued : Bool)   -- test `suppress_disconnect`
  | autoReconnect                                -- `esp_wifi_connect`, up to the limit
  | started                                      -- test `station_connecting`
  | startedConnecting                            -- set `station_connecting`
  | startedConnect                               -- `esp_wifi_connect`
  | startedForward                               -- tell the host
  | stopped                                      -- clear `station_connecting`
  | stoppedForward                               -- tell the host
  deriving DecidableEq, Repr

/-- How a `DISCONNECTED` event was handled. -/
structure Handling where
  forwarded : Bool
  applied : Bool                                 -- `esp_wifi_set_config` took the new configuration
  issued : Bool                                  -- `esp_wifi_connect` succeeded
  deriving DecidableEq, Repr

/-- The statics of `slave_wifi_std.c`, the configuration in the driver, both tasks and what went to
the host. `latest` and `disconnects` are for the statements only. -/
structure State where
  newWifiConfig : Config := ⟨0, []⟩
  newConfigRecvd : Bool := false
  suppressDisconnect : Bool := false
  stationConnecting : Bool := false
  stationConnected : Bool := false
  wifiReconnectRetries : Nat := 0
  driver : Config
  rpc : RpcPc := .idle
  resp : EspErr := espOk
  event : EventPc := .idle
  toHost : List StaEvent := []
  latest : Config
  disconnects : List Handling := []

namespace State

def setRpc (s : State) (pc : RpcPc) : State := { s with rpc := pc }

def setEvent (s : State) (pc : EventPc) : State := { s with event := pc }

/-- The handler of the RPC task returns with `resp_payload->resp`. -/
def reply (s : State) (resp : EspErr) : State := { s with rpc := .idle, resp := resp }

/-- `send_event_data_to_host`. -/
def forward (s : State) (e : StaEvent) : State := { s with toHost := s.toHost ++ [e] }

end State

/-- Boot: nothing cached, and the driver holds what it found in flash. -/
def start (ssid : List UInt8) : State := { driver := ⟨1, ssid⟩, latest := ⟨1, ssid⟩ }

/-! ## Steps -/

inductive Request
  | setStaConfig (ssid : List UInt8)
  | connect
  deriving DecidableEq, Repr

/-- The RPC task begins with a request. -/
def request (s : State) : Request → State
  | .setStaConfig ssid =>
    let cfg : Config := ⟨s.latest.serial + 1, ssid⟩
    { s with latest := cfg, rpc := .setConfig cfg }
  | .connect => s.setRpc .connect

/-- The next step of the RPC task: `esp_hosted_set_sta_config` and `req_wifi_connect`. -/
def rpcStep (result : EspErr) (s : State) : Option State :=
  match s.rpc with
  | .idle => none
  | .setConfig cfg => some (s.setRpc (if s.stationConnecting then .cache cfg else .apply cfg))
  | .apply cfg =>
    some (if result = espOk then { s with driver := cfg, rpc := .unflag } else s.setRpc
      (.cache cfg))
  | .cache cfg => some { s with newWifiConfig := cfg, rpc := .flag }
  | .flag => some ({ s with newConfigRecvd := true }.reply espOk)
  | .unflag => some ({ s with newConfigRecvd := false }.reply espOk)
  | .connect =>
    some (if result ≠ espOk then s.reply espErrWifiNotInit
      else if strlen s.driver.ssid = 0 then s.reply espErrWifiSsid
      else s.setRpc .connectedTest)
  | .connectedTest =>
    some (if s.stationConnected then (s.forward .connected).reply espOk else s.setRpc
      .setConnecting)
  | .setConnecting => some { s with stationConnecting := true, rpc := .connecting }
  | .connecting =>
    some (if result = espOk ∨ result = espErrWifiConn then s.reply espOk
      else s.setRpc (.unsetConnecting result))
  | .unsetConnecting ret => some ({ s with stationConnecting := false }.reply ret)

/-- `event_handler_wifi` is called. -/
def deliver (s : State) : StaEvent → State
  | .connected => s.setEvent .connected
  | .disconnected => s.setEvent .disconnected
  | .start => s.setEvent .started
  | .stop => s.setEvent .stopped

/-- The end of the `DISCONNECTED` branch. -/
def report (build : Build) (s : State) (pending issued : Bool) : State :=
  if s.suppressDisconnect then
    { s with
      suppressDisconnect := false
      event := .idle
      disconnects := s.disconnects ++ [⟨false, pending, issued⟩] }
  else
    { s.forward .disconnected with
      event := if build.autoConnectOnStaDisconnect then .autoReconnect else .idle
      disconnects := s.disconnects ++ [⟨true, pending, issued⟩] }

/-- The next step of the event task. -/
def eventStep (build : Build) (result : EspErr) (s : State) : Option State :=
  match s.event with
  | .idle => none
  | .connected => some (s.setEvent (if s.newConfigRecvd then .connectedApply else .connectedClear))
  | .connectedApply =>
    some ({ s with driver := if result = espOk then s.newWifiConfig else s.driver }.setEvent
      .connectedDisconnect)
  | .connectedDisconnect => some (s.setEvent .connectedSuppress)
  | .connectedSuppress => some ({ s with suppressDisconnect := true }.setEvent .idle)
  | .connectedClear => some ({ s with stationConnecting := false }.setEvent .connectedForward)
  | .connectedForward =>
    let retries := if build.autoConnectOnStaDisconnect then 0 else s.wifiReconnectRetries
    some (({ s with wifiReconnectRetries := retries }.forward .connected).setEvent .connectedDone)
  | .connectedDone => some ({ s with stationConnected := true }.setEvent .idle)
  | .disconnected =>
    some (s.setEvent (if s.newConfigRecvd then .disconnectedApply else .disconnectedLost false))
  | .disconnectedApply =>
    some (if result = espOk then
        { s with driver := s.newWifiConfig }.setEvent (.disconnectedUnflag s.newWifiConfig)
      else s.setEvent (.disconnectedLost false))
  | .disconnectedUnflag _ =>
    some ({ s with newConfigRecvd := false }.setEvent (.disconnectedLost true))
  | .disconnectedLost pending =>
    some ({ s with stationConnected := false }.setEvent (.disconnectedConnecting pending))
  | .disconnectedConnecting pending =>
    some ({ s with stationConnecting := pending }.setEvent
      (if pending then .disconnectedConnect else .disconnectedReport false false))
  | .disconnectedConnect => some (s.setEvent (.disconnectedReport true (result = espOk)))
  | .disconnectedReport pending issued => some (report build s pending issued)
  | .autoReconnect =>
    let retries :=
      if s.wifiReconnectRetries < build.autoReconnectMaxRetry then s.wifiReconnectRetries + 1 else 0
    some ({ s with wifiReconnectRetries := retries }.setEvent .idle)
  | .started =>
    some (s.setEvent (if s.stationConnecting then .idle
      else if build.autoConnectOnStaStart then .startedConnecting else .startedForward))
  | .startedConnecting => some ({ s with stationConnecting := true }.setEvent .startedConnect)
  | .startedConnect => some (s.setEvent .startedForward)
  | .startedForward => some ((s.forward .start).setEvent .idle)
  | .stopped => some ({ s with stationConnecting := false }.setEvent .stoppedForward)
  | .stoppedForward => some ((s.forward .stop).setEvent .idle)

inductive Action
  | request (r : Request)
  | rpc (result : EspErr)
  | deliver (e : StaEvent)
  | event (result : EspErr)
  deriving DecidableEq, Repr

def step (build : Build) (s : State) : Action → Option State
  | .request r => if s.rpc = .idle then some (request s r) else none
  | .rpc result => rpcStep result s
  | .deliver e => if s.event = .idle then some (deliver s e) else none
  | .event result => eventStep build result s

end EspHostedOpen.Station
