import EspHostedOpen.Lib.Bytes

/-!
# The wire protocol (`phy_rpc_proto.h`)

Message ids and packed payload layouts of the 47 requests the slave serves. `Rpc` names a request;
`Rpc.req` and `Rpc.resp` are the two id tables of the header, `Rpc.reqStruct` and `Rpc.respStruct`
the packed structures a request is overlaid with and its full response is laid out as.
-/

namespace EspHostedOpen

open ByteCodec

/-- An `esp_err_t`. -/
abbrev EspErr := Int32

def espOk : EspErr := 0
def espFail : EspErr := -1
def espErrNoMem : EspErr := 0x101
def espErrInvalidArg : EspErr := 0x102
def espErrInvalidState : EspErr := 0x103
def espErrInvalidSize : EspErr := 0x104
def espErrNotFound : EspErr := 0x105
def espErrNotSupported : EspErr := 0x106
def espErrTimeout : EspErr := 0x107
def espErrWifiNotInit : EspErr := 0x3001
def espErrWifiConn : EspErr := 0x3007
def espErrWifiSsid : EspErr := 0x300A

theorem espErrNoMem_ne_ok : espErrNoMem ≠ espOk := by decide
theorem espErrInvalidArg_ne_ok : espErrInvalidArg ≠ espOk := by decide
theorem espErrInvalidState_ne_ok : espErrInvalidState ≠ espOk := by decide
theorem espErrNotFound_ne_ok : espErrNotFound ≠ espOk := by decide

/-! ## Message ids -/

def phyRpcMsgBase : UInt32 := 0xC1750000

def phyRpcMsgReq (n : UInt32) : UInt32 := phyRpcMsgBase ||| n
def phyRpcMsgResp (n : UInt32) : UInt32 := phyRpcMsgBase ||| 0x8000 ||| n
def phyRpcMsgEvt (n : UInt32) : UInt32 := phyRpcMsgBase ||| 0xF000 ||| n

/-- The requests with a handler on the slave. -/
inductive Rpc
  | setChannel | setFreq | setBand | setBandwidth | setChanFilt | setCountryPerm | setChan14Mic
  | setPhy11p | setRate | setLowRate
  | setTxPower | setMostTpw | getMostTpw
  | setRxGain | setAgcMaxGain | resetRxGainTbl
  | setCca | getCcaCounters | resetCcaCount
  | getPhyRssi | getNoiseFloor | getTemperature
  | setCsiDump | setLoopback | setBtTxGain | setBtFilter
  | getInfo | getCaps
  | tx80211 | setPromisc | setPromiscFilter | setProtocol | setMac | setCsiEnable | ftmInitiate
  | setEventMask
  | espnowInit | espnowDeinit | espnowAddPeer | espnowDelPeer | espnowSend | espnowSetPmk
  | ieee154Enable | ieee154SetChan | ieee154SetPanid | ieee154SetPromisc | ieee154TxRaw
  deriving DecidableEq, Repr

namespace Rpc

/-- `PHY_RPC_REQ_*`. -/
def req : Rpc → UInt32
  | setChannel => phyRpcMsgReq 0x001
  | setFreq => phyRpcMsgReq 0x010
  | setBand => phyRpcMsgReq 0x011
  | setBandwidth => phyRpcMsgReq 0x00A
  | setChanFilt => phyRpcMsgReq 0x012
  | setCountryPerm => phyRpcMsgReq 0x00C
  | setChan14Mic => phyRpcMsgReq 0x013
  | setPhy11p => phyRpcMsgReq 0x002
  | setRate => phyRpcMsgReq 0x014
  | setLowRate => phyRpcMsgReq 0x009
  | setTxPower => phyRpcMsgReq 0x003
  | setMostTpw => phyRpcMsgReq 0x015
  | getMostTpw => phyRpcMsgReq 0x016
  | setRxGain => phyRpcMsgReq 0x004
  | setAgcMaxGain => phyRpcMsgReq 0x005
  | resetRxGainTbl => phyRpcMsgReq 0x017
  | setCca => phyRpcMsgReq 0x006
  | getCcaCounters => phyRpcMsgReq 0x007
  | resetCcaCount => phyRpcMsgReq 0x008
  | getPhyRssi => phyRpcMsgReq 0x00B
  | getNoiseFloor => phyRpcMsgReq 0x018
  | getTemperature => phyRpcMsgReq 0x019
  | setCsiDump => phyRpcMsgReq 0x01A
  | setLoopback => phyRpcMsgReq 0x01B
  | setBtTxGain => phyRpcMsgReq 0x01C
  | setBtFilter => phyRpcMsgReq 0x01D
  | getInfo => phyRpcMsgReq 0x00D
  | getCaps => phyRpcMsgReq 0x01E
  | tx80211 => phyRpcMsgReq 0x020
  | setPromisc => phyRpcMsgReq 0x021
  | setPromiscFilter => phyRpcMsgReq 0x022
  | setProtocol => phyRpcMsgReq 0x023
  | setMac => phyRpcMsgReq 0x024
  | setCsiEnable => phyRpcMsgReq 0x025
  | ftmInitiate => phyRpcMsgReq 0x026
  | setEventMask => phyRpcMsgReq 0x027
  | espnowInit => phyRpcMsgReq 0x030
  | espnowDeinit => phyRpcMsgReq 0x031
  | espnowAddPeer => phyRpcMsgReq 0x032
  | espnowDelPeer => phyRpcMsgReq 0x033
  | espnowSend => phyRpcMsgReq 0x034
  | espnowSetPmk => phyRpcMsgReq 0x035
  | ieee154Enable => phyRpcMsgReq 0x040
  | ieee154SetChan => phyRpcMsgReq 0x041
  | ieee154SetPanid => phyRpcMsgReq 0x042
  | ieee154SetPromisc => phyRpcMsgReq 0x043
  | ieee154TxRaw => phyRpcMsgReq 0x044

/-- `PHY_RPC_RESP_*`. -/
def resp : Rpc → UInt32
  | setChannel => phyRpcMsgResp 0x001
  | setPhy11p => phyRpcMsgResp 0x002
  | setTxPower => phyRpcMsgResp 0x003
  | setRxGain => phyRpcMsgResp 0x004
  | setAgcMaxGain => phyRpcMsgResp 0x005
  | setCca => phyRpcMsgResp 0x006
  | getCcaCounters => phyRpcMsgResp 0x007
  | resetCcaCount => phyRpcMsgResp 0x008
  | setLowRate => phyRpcMsgResp 0x009
  | setBandwidth => phyRpcMsgResp 0x00A
  | getPhyRssi => phyRpcMsgResp 0x00B
  | setCountryPerm => phyRpcMsgResp 0x00C
  | getInfo => phyRpcMsgResp 0x00D
  | setFreq => phyRpcMsgResp 0x010
  | setBand => phyRpcMsgResp 0x011
  | setChanFilt => phyRpcMsgResp 0x012
  | setChan14Mic => phyRpcMsgResp 0x013
  | setRate => phyRpcMsgResp 0x014
  | setMostTpw => phyRpcMsgResp 0x015
  | getMostTpw => phyRpcMsgResp 0x016
  | resetRxGainTbl => phyRpcMsgResp 0x017
  | getNoiseFloor => phyRpcMsgResp 0x018
  | getTemperature => phyRpcMsgResp 0x019
  | setCsiDump => phyRpcMsgResp 0x01A
  | setLoopback => phyRpcMsgResp 0x01B
  | setBtTxGain => phyRpcMsgResp 0x01C
  | setBtFilter => phyRpcMsgResp 0x01D
  | getCaps => phyRpcMsgResp 0x01E
  | tx80211 => phyRpcMsgResp 0x020
  | setPromisc => phyRpcMsgResp 0x021
  | setPromiscFilter => phyRpcMsgResp 0x022
  | setProtocol => phyRpcMsgResp 0x023
  | setMac => phyRpcMsgResp 0x024
  | setCsiEnable => phyRpcMsgResp 0x025
  | ftmInitiate => phyRpcMsgResp 0x026
  | espnowInit => phyRpcMsgResp 0x030
  | espnowDeinit => phyRpcMsgResp 0x031
  | espnowAddPeer => phyRpcMsgResp 0x032
  | espnowDelPeer => phyRpcMsgResp 0x033
  | espnowSend => phyRpcMsgResp 0x034
  | espnowSetPmk => phyRpcMsgResp 0x035
  | ieee154Enable => phyRpcMsgResp 0x040
  | ieee154SetChan => phyRpcMsgResp 0x041
  | ieee154SetPanid => phyRpcMsgResp 0x042
  | ieee154SetPromisc => phyRpcMsgResp 0x043
  | ieee154TxRaw => phyRpcMsgResp 0x044
  | setEventMask => phyRpcMsgResp 0x027

/-- A response id is the request id with the direction bit set. -/
theorem resp_eq (r : Rpc) : r.resp = r.req ||| 0x8000 := by
  cases r <;> decide

end Rpc

/-! ## Packed structures -/

/-- `phy_rpc_hdr_t`: op_id. -/
def phyRpcHdr : Packed := [4]

/-- `phy_rpc_resp_hdr_t`: op_id, status. -/
def phyRpcRespHdr : Packed := [4, 4]

def phyRpcCapsBytes : Nat := 16

/-- `phy_rpc_req_*_t`: the header and the members of the fixed part. Requests without a body are
overlaid with `phy_rpc_hdr_t` itself. -/
def Rpc.reqStruct : Rpc → Packed
  | .setChannel => phyRpcHdr ++ [1]              -- channel
  | .setPhy11p => phyRpcHdr ++ [1]               -- enable
  | .setTxPower => phyRpcHdr ++ [1]              -- dbm
  | .setRxGain => phyRpcHdr ++ [1]               -- gain_index
  | .setAgcMaxGain => phyRpcHdr ++ [1]           -- max_gain
  | .setCca => phyRpcHdr ++ [1]                  -- enable
  | .setLowRate => phyRpcHdr ++ [1]              -- enable
  | .setBandwidth => phyRpcHdr ++ [1]            -- bw_mhz
  | .setFreq => phyRpcHdr ++ [4]                 -- freq_mhz
  | .setBand => phyRpcHdr ++ [1]                 -- band
  | .setChanFilt => phyRpcHdr ++ [4]             -- filter
  | .setChan14Mic => phyRpcHdr ++ [1]            -- enable
  | .setRate => phyRpcHdr ++ [1]                 -- rate
  | .setMostTpw => phyRpcHdr ++ [1]              -- tpw
  | .setCsiDump => phyRpcHdr ++ [1]              -- enable
  | .setLoopback => phyRpcHdr ++ [1]             -- gain
  | .setBtTxGain => phyRpcHdr ++ [1]             -- gain
  | .setBtFilter => phyRpcHdr ++ [4]             -- reg_value
  | .tx80211 => phyRpcHdr ++ [1, 1, 2, 2]        -- wifi_if, en_seq_nr, reserved, frame_len, frame[]
  | .setPromisc => phyRpcHdr ++ [1]              -- enable
  | .setPromiscFilter => phyRpcHdr ++ [4]        -- filter_mask
  | .setProtocol => phyRpcHdr ++ [1, 1, 2]       -- protocol_mask, wifi_if, reserved[2]
  | .setMac => phyRpcHdr ++ [1, 6, 1]            -- wifi_if, mac[6], reserved
  | .setCsiEnable => phyRpcHdr ++ [1]            -- enable
  | .ftmInitiate => phyRpcHdr ++ [6, 1, 1, 1, 3] -- peer_mac[6], frames_count, burst_period, channel
  | .espnowAddPeer => phyRpcHdr ++ [6, 16, 1, 1, 1, 1] -- peer_mac, lmk, channel, wifi_if, encrypt
  | .espnowDelPeer => phyRpcHdr ++ [6]           -- peer_mac[6]
  | .espnowSend => phyRpcHdr ++ [6, 2]           -- peer_mac[6], data_len, data[]
  | .espnowSetPmk => phyRpcHdr ++ [16]           -- pmk[16]
  | .ieee154Enable => phyRpcHdr ++ [1]           -- enable
  | .ieee154SetChan => phyRpcHdr ++ [1]          -- channel
  | .ieee154SetPanid => phyRpcHdr ++ [2]         -- pan_id
  | .ieee154SetPromisc => phyRpcHdr ++ [1]       -- enable
  | .ieee154TxRaw => phyRpcHdr ++ [1, 1, 2]      -- cca, reserved, frame_len, frame[]
  | .setEventMask => phyRpcHdr ++ [8]            -- mask
  | .setCountryPerm | .getMostTpw | .resetRxGainTbl | .getCcaCounters | .resetCcaCount
  | .getPhyRssi | .getNoiseFloor | .getTemperature | .getInfo | .getCaps | .espnowInit
  | .espnowDeinit => phyRpcHdr

/-- `phy_rpc_resp_*_t`; a response without a structure of its own is the header alone. -/
def Rpc.respStruct : Rpc → Packed
  | .getCcaCounters => phyRpcRespHdr ++ [4, 4]   -- busy_us, total_us
  | .getPhyRssi => phyRpcRespHdr ++ [1]          -- rssi_dbm
  | .getMostTpw => phyRpcRespHdr ++ [1]          -- dbm
  | .getNoiseFloor => phyRpcRespHdr ++ [1]       -- dbm
  | .getTemperature => phyRpcRespHdr ++ [1]      -- celsius
  | .getCaps => phyRpcRespHdr ++ [phyRpcCapsBytes] -- caps[]
  -- channel, tx_power_dbm, phy_11p_armed, cca_enabled, low_rate_enabled, agc_max_gain,
  -- reserved[2], fw_version[32]
  | .getInfo => phyRpcRespHdr ++ [1, 1, 1, 1, 1, 1, 2, 32]
  | _ => phyRpcRespHdr

/-- Every request structure starts with `phy_rpc_hdr_t`. -/
theorem Rpc.hdr_le_sizeof (r : Rpc) : phyRpcHdr.sizeof ≤ r.reqStruct.sizeof := by
  cases r <;> decide

end EspHostedOpen
