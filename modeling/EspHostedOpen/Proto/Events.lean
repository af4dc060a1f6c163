import EspHostedOpen.Proto.Messages

/-!
# The asynchronous events of the wire protocol (`phy_rpc_proto.h`)

`Evt` names the events the host listens to, `Evt.msgId` is their id and `Evt.struct` the fixed part
of their payload.
-/

namespace EspHostedOpen

open ByteCodec

inductive Evt
  | ocbFrame | rawFrame | csi | ftmReport | espnowRx | espnowTxStatus | ieee154Rx
  deriving DecidableEq, Repr

namespace Evt

/-- `PHY_RPC_EVT_*`. -/
def msgId : Evt → UInt32
  | ocbFrame => phyRpcMsgEvt 0x001
  | rawFrame => phyRpcMsgEvt 0x003
  | csi => phyRpcMsgEvt 0x004
  | ftmReport => phyRpcMsgEvt 0x005
  | espnowRx => phyRpcMsgEvt 0x006
  | espnowTxStatus => phyRpcMsgEvt 0x007
  | ieee154Rx => phyRpcMsgEvt 0x008

/-- `phy_rpc_evt_*_t`; the structures of frames and captures have a tail behind. -/
def struct : Evt → Packed
  -- rssi_dbm, channel, src_mac[6], llc_payload_len, timestamp_us, data[]
  | ocbFrame => [1, 1, 6, 2, 4]
  -- rssi_dbm, channel, rate, is_qos, frame_len, reserved, timestamp_us, frame[]
  | rawFrame => [1, 1, 1, 1, 2, 2, 4]
  -- rssi_dbm, channel, src_mac[6], csi_len, reserved, timestamp_us, csi[]
  | csi => [1, 1, 6, 2, 2, 4]
  -- peer_mac[6], status, reserved, rtt_raw_ps, rtt_est_ps, dist_est_cm
  | ftmReport => [6, 1, 1, 4, 4, 4]
  -- src_mac[6], dst_mac[6], rssi_dbm, channel, data_len, data[]
  | espnowRx => [6, 6, 1, 1, 2]
  -- peer_mac[6], status, reserved
  | espnowTxStatus => [6, 1, 1]
  -- rssi_dbm, lqi, channel, reserved, frame_len, reserved2, timestamp_us, frame[]
  | ieee154Rx => [1, 1, 1, 1, 2, 2, 4]

end Evt

end EspHostedOpen
