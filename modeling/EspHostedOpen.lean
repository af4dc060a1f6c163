import EspHostedOpen.Lib.Bytes
import EspHostedOpen.Lib.Bitmap
import EspHostedOpen.Lib.Overlay
import EspHostedOpen.Lib.Records
import EspHostedOpen.Lib.BitFields
import EspHostedOpen.Lib.Fragments
import EspHostedOpen.Lib.Command
import EspHostedOpen.Lib.Transition
import EspHostedOpen.Lib.Lease
import EspHostedOpen.Lib.Ledger
import EspHostedOpen.Lib.SlotMap
import EspHostedOpen.Lib.Polling
import EspHostedOpen.Proto.Messages
import EspHostedOpen.Proto.Events
import EspHostedOpen.Host.Wrappers
import EspHostedOpen.Host.Events
import EspHostedOpen.Host.Dispatcher
import EspHostedOpen.Host.Accounting
import EspHostedOpen.Host.Buffers
import EspHostedOpen.Host.Slots
import EspHostedOpen.Host.Tokens
import EspHostedOpen.Host.Getters
import EspHostedOpen.Slave.Driver
import EspHostedOpen.Slave.Handlers
import EspHostedOpen.Slave.Extras
import EspHostedOpen.Slave.Wireless
import EspHostedOpen.Slave.Caps
import EspHostedOpen.Slave.Registry
import EspHostedOpen.Slave.RegistryMap
import EspHostedOpen.Host.Init
import EspHostedOpen.Host.Deinit
import EspHostedOpen.Slave.Table
import EspHostedOpen.Slave.ReplyContract
import EspHostedOpen.Slave.Status
import EspHostedOpen.Slave.CapsTruth
import EspHostedOpen.Slave.Refusal
import EspHostedOpen.Slave.Device
import EspHostedOpen.Slave.Mirror
import EspHostedOpen.Slave.Settings
import EspHostedOpen.Slave.Producers
import EspHostedOpen.Link.RawTx
import EspHostedOpen.Link.Setters
import EspHostedOpen.Link.Events
import EspHostedOpen.Link.Espnow
import EspHostedOpen.Link.Capability
import EspHostedOpen.Link.CustomData
import EspHostedOpen.Link.Sources
import EspHostedOpen.Slave.Pserial
import EspHostedOpen.Slave.Reassembly
import EspHostedOpen.Slave.SerialWait
import EspHostedOpen.Slave.SerialTx
import EspHostedOpen.Slave.Tlv
import EspHostedOpen.Slave.InitConfig
import EspHostedOpen.Slave.WifiReinit
import EspHostedOpen.Slave.StaConfig
import EspHostedOpen.Slave.Ota
import EspHostedOpen.Slave.OtaSafety
import EspHostedOpen.Slave.Station
import EspHostedOpen.Slave.StationSafety
import EspHostedOpen.Slave.Boot
import EspHostedOpen.Slave.BootSafety
import EspHostedOpen.Slave.SdioTx
import EspHostedOpen.Slave.SpiHdTx
import EspHostedOpen.Slave.TxCredits
import EspHostedOpen.Slave.HostPowerSave
import EspHostedOpen.Slave.PrioQueues
import EspHostedOpen.Slave.SpiTx
import EspHostedOpen.Slave.RxFrames
import EspHostedOpen.Slave.SdioRx
import EspHostedOpen.Slave.SdioRxTraffic
import EspHostedOpen.Slave.SdioRxSafety
import EspHostedOpen.Slave.SpiHdRx
import EspHostedOpen.Lib.Ownership
import EspHostedOpen.Slave.ReservedPorts
import EspHostedOpen.Lib.Inspect
import EspHostedOpen.Slave.PortCache
import EspHostedOpen.Slave.Router
import EspHostedOpen.Slave.RouterBounds
import EspHostedOpen.Slave.WifiRx
import EspHostedOpen.Slave.HostWakeup
import EspHostedOpen.Slave.Throttle
import EspHostedOpen.Slave.RpcPipeline
import EspHostedOpen.Slave.EapCredentials
import EspHostedOpen.Lib.Framing
import EspHostedOpen.Link.Header
import EspHostedOpen.Link.UartFrames
import EspHostedOpen.Host.UartDrv
import EspHostedOpen.Slave.UartApi
import EspHostedOpen.Link.UartPackets
import EspHostedOpen.Link.Uart
import EspHostedOpen.Host.SerialStream
import EspHostedOpen.Link.Requests
import EspHostedOpen.Host.SerialRead
import EspHostedOpen.Link.Replies
import EspHostedOpen.Host.RpcAnswers
import EspHostedOpen.Host.Mempool
import EspHostedOpen.Host.MempoolList
