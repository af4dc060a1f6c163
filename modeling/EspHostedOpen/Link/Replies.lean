import EspHostedOpen.Host.SerialRead
import EspHostedOpen.Link.Uart
import EspHostedOpen.Slave.SerialTx

/-!
# Replies from end to end (`esp_hosted_coprocessor.c`, `uart_slave_api.c`, `uart_drv.c`,
`serial_ll_if.c`, `serial_drv.c`)

A reply or an event of the slave is cut into fragments by `serial_write_data`, sent over the UART
among the packets of the other interfaces, put together again by the host, and read.
-/

namespace EspHostedOpen.SerialLink

open ByteCodec Framing Fragments Transition RxFrames HostUart HostSerialTx HostSerialRx UartApi
  UartLink SerialTx

/-- The buffer that `if_ops->write` gets for a fragment of the message. -/
def toUart (data : List UInt8) (h : SerialTx.BufHandle) : UartApi.BufHandle where
  ifType := espSerialIf
  ifNum := 0
  flag := h.flag
  seqNum := h.seqNum
  payload := h.bytes data
  wifiFlowCtrlEn := 0
  payload_lt := Nat.lt_of_le_of_lt (List.length_take_le _ _) h.payloadLen.toNat_lt

/-- What the transport has taken of a call. -/
def taken (c : SerialTx.Call) : List UartApi.BufHandle :=
  match serialWriteData (fragments c.data.length) c.env c.seqNum c.data with
  | some r => (accepted r.events).map (toUart c.data)
  | none => []

section Replies

variable {build : Build}

end Replies

/-! ### Two messages -/

/-- Nothing happens to it on the way. -/
def whole (s : Reply withChecksum) : Leaving withChecksum := ⟨s, s.wire, true, rfl⟩

end EspHostedOpen.SerialLink
