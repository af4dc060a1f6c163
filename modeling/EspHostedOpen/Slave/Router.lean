import EspHostedOpen.Lib.Inspect
import EspHostedOpen.Slave.PortCache
import EspHostedOpen.Slave.ReservedPorts

/-!
# Routing of received frames (`nw_split_router.c`)

`nw_split_filter_and_route_packet` decides for each frame that Wi-Fi receives whether the stack of
the slave, that of the host or both get it. Every byte it looks at is a read of the memory that the
frame is part of, and the frame ends before the memory does.
-/

namespace EspHostedOpen.Router

open PortCache ReservedPorts

/-- `hosted_l2_bridge`. -/
inductive Bridge
  | slaveLwip | hostLwip | bothLwip | invalid
  deriving DecidableEq, Repr

/-- `*_PORT_RANGE_START` and `*_PORT_RANGE_END`. -/
structure PortRange where
  start : UInt16
  stop : UInt16
  deriving DecidableEq, Repr

def PortRange.contains (r : PortRange) (port : UInt16) : Bool := port ≥ r.start &&
    (r.stop == 0xffff || port ≤ r.stop)

/-- The configuration of the build. -/
structure Config where
  defaultLwipToSend : Bridge                     -- `DEFAULT_LWIP_TO_SEND`
  selected : defaultLwipToSend ≠ .invalid
  remoteTcp : PortRange                          -- `IS_REMOTE_TCP_PORT`
  localTcp : PortRange
  remoteUdp : PortRange
  localUdp : PortRange

/-- What a call finds: the reserved ports, the caches of open ports, the clock and the lists behind
them, and `is_host_power_saving`. -/
structure World where
  reserved : ReservedPorts.State
  caches : Caches
  now : UInt64
  pcbs : Pcbs
  hostPowerSaving : Bool

/-- The bytes from `frame_data` on. -/
abbrev Memory := Nat → UInt8

abbrev Look := Inspect Nat UInt8

/-- `u8_t` at an offset. -/
def u8 (i : Nat) : Look UInt8 := Inspect.cell i

def be16 (hi lo : UInt8) : UInt16 := hi.toUInt16 <<< 8 ||| lo.toUInt16

/-- `lwip_ntohs` of the `u16_t` at an offset. -/
def ntohs (i : Nat) : Look UInt16 := do
  let hi ← u8 i
  let lo ← u8 (i + 1)
  pure (be16 hi lo)

def sizeofEthHdr : Nat := 14
def ethtypeIp : UInt16 := 0x0800
def ethtypeArp : UInt16 := 0x0806
def ipProtoIcmp : UInt8 := 1
def ipProtoTcp : UInt8 := 6
def ipProtoUdp : UInt8 := 17
def icmpEr : UInt8 := 0
def icmpEcho : UInt8 := 8
def arpRequest : UInt16 := 1
def tcpFlags : UInt16 := 0x3f                    -- `TCP_FLAGS`, the mask of `TCPH_FLAGS`
def lwipIanaPortDhcpClient : UInt16 := 68
def mqttPort : UInt16 := 1883
def defaultIperfPort : UInt16 := 5001

/-- `WAKEUP_HOST_STRING`. -/
def wakeupHostString : List UInt8 := "wakeup-host".toList.map fun c => UInt8.ofNat c.toNat

/-- `host_mqtt_wakeup_triggered`. -/
def hostMqttWakeupTriggered (payload : Nat) (payloadLength : UInt16) : Look Bool :=
  if payloadLength.toNat ≥ wakeupHostString.length then do
    let bytes ← Inspect.cells ((List.range wakeupHostString.length).map (payload + ·))
    pure (bytes == wakeupHostString)
  else pure false

/-- `TCP_HDR_LEN`, of the two bytes with the data offset and the flags. -/
def tcpHdrLen (hdrlenRsvdFlags : UInt16) :
    Nat := (((hdrlenRsvdFlags &&& tcpFlags) >>> 12) * 4).toNat

/-- The MQTT filter. -/
def routeMqtt (tcphdr : Nat) : Look Bridge := do
  let hdrLen ← tcpHdrLen <$> ntohs (tcphdr + 12)
  let wnd ← ntohs (tcphdr + 14)
  let triggered ← hostMqttWakeupTriggered (tcphdr + hdrLen) wnd
  pure (if triggered then .hostLwip else .invalid)

/-- The iperf port: open here, open on a host that is awake, or not decided. -/
def routeIperf (proto : Protocol) (w : World) (dstPort : UInt16) : Option Bridge × Caches :=
  if dstPort = defaultIperfPort then
    let (found, caches) := query proto w.now w.pcbs dstPort w.caches
    (if found then some .slaveLwip else if !w.hostPowerSaving then some .hostLwip else none, caches)
  else (none, w.caches)

/-- The rules for ports: reserved ones first, then the iperf port, then the ranges. -/
def routePorts (proto : Protocol)
    (srcPortAllowed dstPortAllowed : ReservedPorts.State → UInt16 → Bool)
    (routeRange : UInt16 → UInt16 → Look Bridge) (w : World) (srcPort dstPort : UInt16) :
    Look (Bridge × Caches) :=
  if srcPortAllowed w.reserved srcPort ||
    dstPortAllowed w.reserved dstPort then pure (.hostLwip, w.caches)
  else
    match routeIperf proto w dstPort with
    | (some result, caches) => pure (result, caches)
    | (none, caches) => (·, caches) <$> routeRange srcPort dstPort

/-- The ports of a TCP or UDP header. -/
def readPorts (hdr : Nat) (route : UInt16 → UInt16 → Look (Bridge × Caches)) :
    Look (Bridge × Caches) := do
  let dstPort ← ntohs (hdr + 2)
  let srcPort ← ntohs hdr
  route srcPort dstPort

/-- The port ranges of TCP. -/
def routeTcpRange (cfg : Config) (w : World) (tcphdr : Nat) (srcPort dstPort : UInt16) :
    Look Bridge :=
  if cfg.remoteTcp.contains dstPort then
    if w.hostPowerSaving then
      if srcPort = mqttPort then routeMqtt tcphdr else pure .invalid
    else pure .hostLwip
  else if cfg.localTcp.contains dstPort then pure .slaveLwip
  else pure cfg.defaultLwipToSend

/-- The DHCP client and the port ranges of UDP. -/
def routeUdpRange (cfg : Config) (w : World) (dstPort : UInt16) : Bridge :=
  if dstPort = lwipIanaPortDhcpClient then .bothLwip
  else if cfg.remoteUdp.contains dstPort then
    if w.hostPowerSaving then .invalid else .hostLwip
  else if cfg.localUdp.contains dstPort then .slaveLwip
  else cfg.defaultLwipToSend

def routeTcp (cfg : Config) (w : World) (tcphdr : Nat) : Look (Bridge × Caches) :=
  readPorts tcphdr
    (routePorts .tcp isTcpSrcPortAllowed isTcpDstPortAllowed (routeTcpRange cfg w tcphdr) w)

def routeUdp (cfg : Config) (w : World) (udphdr : Nat) : Look (Bridge × Caches) :=
  readPorts udphdr
    (routePorts .udp isUdpSrcPortAllowed isUdpDstPortAllowed
      (fun _ dstPort => pure (routeUdpRange cfg w dstPort)) w)

def routeIcmp (cfg : Config) (w : World) (icmphdr : Nat) : Look Bridge := do
  let type ← u8 icmphdr
  pure (if type = icmpEcho then .slaveLwip
    else if type = icmpEr then if w.hostPowerSaving then .slaveLwip else .bothLwip
    else cfg.defaultLwipToSend)

/-- `IPH_HL(iphdr) * 4`, of the first byte of the header. -/
def iphHl (vhl : UInt8) : Nat := (vhl &&& 0x0f).toNat * 4

def routeIp (cfg : Config) (w : World) : Look (Bridge × Caches) := do
  let iphdr := sizeofEthHdr
  let proto ← u8 (iphdr + 9)
  if proto = ipProtoTcp then do
    let vhl ← u8 iphdr
    routeTcp cfg w (iphdr + iphHl vhl)
  else if proto = ipProtoUdp then do
    let vhl ← u8 iphdr
    routeUdp cfg w (iphdr + iphHl vhl)
  else if proto = ipProtoIcmp then do
    let vhl ← u8 iphdr
    (·, w.caches) <$> routeIcmp cfg w (iphdr + iphHl vhl)
  else pure (cfg.defaultLwipToSend, w.caches)

def routeArp (w : World) : Look Bridge := do
  let opcode ← ntohs (sizeofEthHdr + 6)
  pure (if opcode =
    arpRequest then .slaveLwip else if w.hostPowerSaving then .slaveLwip else .bothLwip)

/-- `nw_split_filter_and_route_packet`, which does not look at `frame_length`. -/
def nwSplitFilterAndRoutePacket (cfg : Config) (w : World) : Look (Bridge × Caches) := do
  let dest ← u8 0
  if dest &&& 0x01 ≠ 0 then pure (.slaveLwip, w.caches)
  else do
    let type ← ntohs 12
    if type = ethtypeIp then routeIp cfg w
    else if type = ethtypeArp then (·, w.caches) <$> routeArp w
    else pure (cfg.defaultLwipToSend, w.caches)

/-- The memory that a frame is part of. -/
def memory (frame : List UInt8) (beyond : Memory) : Memory := fun i => (frame[i]?).getD (beyond i)

/-! ## What the parts look at -/

variable {m : Memory} {cfg : Config} {w : World} {i : Nat}

@[simp] theorem run_u8 : (u8 i).run m = m i := rfl

@[simp] theorem run_ntohs : (ntohs i).run m = be16 (m i) (m (i + 1)) := rfl

theorem toNat_be16 (a b : UInt8) : (be16 a b).toNat = 256 * a.toNat + b.toNat := by
  have ha : a.toNat < 256 := a.toNat_lt
  have hb : b.toNat < 2 ^ 8 := b.toNat_lt
  have hor : (be16 a b).toNat = a.toNat <<< 8 % 65536 ||| b.toNat := by
    simp [be16]
  have hshift : a.toNat <<< 8 = 256 * a.toNat := by
    rw [Nat.shiftLeft_eq]
    omega
  have hsmall : a.toNat <<< 8 % 65536 = a.toNat <<< 8 := Nat.mod_eq_of_lt (by omega)
  rw [hor, hsmall, ← Nat.shiftLeft_add_eq_or_of_lt hb, hshift]

/-- The mask leaves nothing of the data offset. -/
theorem tcpHdrLen_eq (h : UInt16) : tcpHdrLen h = 0 := by
  have hmask : ((h &&& tcpFlags) >>> 12).toNat = 0 := by
    have hle : h.toNat &&& 63 ≤ 63 := Nat.and_le_right
    simp [tcpFlags, Nat.shiftRight_eq_div_pow]
    omega
  rw [tcpHdrLen, UInt16.toNat_mul, hmask]
  rfl

/-- The payload is looked for where the header begins, which is the source port. -/
theorem run_routeMqtt (h : m i = 0x07) : (routeMqtt i).run m = .invalid := by
  have hstart : ((List.range wakeupHostString.length).map (i + ·)).map m ≠ wakeupHostString := by
    intro heq
    have hfirst : m i = 119 := (List.cons.inj heq).1
    rw [h] at hfirst
    exact absurd hfirst (by decide)
  have htriggered : ∀ length, (hostMqttWakeupTriggered i length).run m = false := by
    intro length
    unfold hostMqttWakeupTriggered
    split
    · rw [Inspect.run_bind, Inspect.run_cells, Inspect.run_pure]
      exact beq_false_of_ne hstart
    · rfl
  simp only [routeMqtt, Inspect.run_bind, Inspect.run_map, run_ntohs, tcpHdrLen_eq,
    Nat.add_zero, htriggered, Inspect.run_pure]
  rfl

/-! ## MQTT -/

/-- A MAC address. -/
structure Mac where
  (a b c d e f : UInt8)

/-- Four bytes of a header: an address or a sequence number. -/
structure Word where
  (a b c d : UInt8)

/-- The options of a header. -/
structure Options where
  bytes : List UInt8
  words : bytes.length % 4 = 0
  short : bytes.length ≤ 40

/-- A unicast frame with a TCP segment in one fragment. The checksums, and what follows the packet
in the frame, may be anything. -/
structure TcpFrame where
  dest : Mac
  unicast : dest.a &&& 0x01 = 0
  src : Mac
  tos : UInt8
  identification : UInt16
  dontFragment : Bool
  ttl : UInt8
  ipChecksum : UInt16
  srcAddr : Word
  dstAddr : Word
  ipOptions : Options
  srcPort : UInt16
  dstPort : UInt16
  seq : Word
  ack : Word
  rsvd : UInt8
  fourBits : rsvd < 16
  flags : UInt8
  window : UInt16
  tcpChecksum : UInt16
  urgent : UInt16
  tcpOptions : Options
  payload : List UInt8
  padding : List UInt8
  fits : 40 + ipOptions.bytes.length + tcpOptions.bytes.length + payload.length < 65536

def hi (n : UInt16) : UInt8 := (n >>> 8).toUInt8
def lo (n : UInt16) : UInt8 := n.toUInt8

namespace TcpFrame

def totalLength (fr : TcpFrame) : UInt16 :=
  UInt16.ofNat (40 + fr.ipOptions.bytes.length + fr.tcpOptions.bytes.length + fr.payload.length)

/-- The first byte of the IP header: version 4 and the length in words. -/
def vhl (fr : TcpFrame) : UInt8 := UInt8.ofNat (0x45 + fr.ipOptions.bytes.length / 4)

/-- The data offset, in words. -/
def hdrlenRsvd (fr : TcpFrame) : UInt8 := UInt8.ofNat
    (16 * (5 + fr.tcpOptions.bytes.length / 4)) + fr.rsvd

def ethIpHeader (fr : TcpFrame) : List UInt8 :=
  [fr.dest.a, fr.dest.b, fr.dest.c, fr.dest.d, fr.dest.e, fr.dest.f,
   fr.src.a, fr.src.b, fr.src.c, fr.src.d, fr.src.e, fr.src.f, hi ethtypeIp, lo ethtypeIp,
   fr.vhl, fr.tos, hi fr.totalLength, lo fr.totalLength, hi fr.identification, lo fr.identification,
   if fr.dontFragment then 0x40 else 0, 0, fr.ttl, ipProtoTcp, hi fr.ipChecksum, lo fr.ipChecksum,
   fr.srcAddr.a, fr.srcAddr.b, fr.srcAddr.c, fr.srcAddr.d, fr.dstAddr.a, fr.dstAddr.b, fr.dstAddr.c,
     fr.dstAddr.d]

def tcpHeader (fr : TcpFrame) : List UInt8 :=
  [hi fr.srcPort, lo fr.srcPort, hi fr.dstPort, lo fr.dstPort, fr.seq.a, fr.seq.b,
    fr.seq.c, fr.seq.d,
   fr.ack.a, fr.ack.b, fr.ack.c, fr.ack.d, fr.hdrlenRsvd, fr.flags, hi fr.window, lo fr.window,
   hi fr.tcpChecksum, lo fr.tcpChecksum, hi fr.urgent, lo fr.urgent]

def bytes (fr : TcpFrame) : List UInt8 :=
  (fr.ethIpHeader ++ fr.ipOptions.bytes) ++
    (fr.tcpHeader ++ (fr.tcpOptions.bytes ++ fr.payload ++ fr.padding))

/-- What the MQTT filter is for: the host gets the frames that are to wake it, and no others. -/
def Filtered (fr : TcpFrame) (result : Bridge) : Prop :=
  (result = .hostLwip ↔ wakeupHostString <+: fr.payload) ∧
    (¬wakeupHostString <+: fr.payload → result = .invalid)

variable {beyond : Memory}

/-- The headers in front of the options. -/
theorem memory_ethIpHeader (fr : TcpFrame) (k : Nat) (h : k < 34) :
    memory fr.bytes beyond k = fr.ethIpHeader.get ⟨k, h⟩ := by
  have hk : k < (fr.ethIpHeader ++ fr.ipOptions.bytes).length := by
    rw [List.length_append]
    exact Nat.lt_add_right _ h
  rw [memory, bytes, List.getElem?_append_left hk, List.getElem?_append_left h,
    List.getElem?_eq_getElem h]
  rfl

/-- The header behind them. -/
theorem memory_tcpHeader (fr : TcpFrame) (k : Nat) (h : k < 20) :
    memory fr.bytes beyond (34 + fr.ipOptions.bytes.length + k) = fr.tcpHeader.get ⟨k, h⟩ := by
  have hlength : (fr.ethIpHeader ++ fr.ipOptions.bytes).length = 34 + fr.ipOptions.bytes.length :=
    List.length_append
  rw [memory, bytes, List.getElem?_append_right (by omega), hlength, Nat.add_sub_cancel_left,
    List.getElem?_append_left h, List.getElem?_eq_getElem h]
  rfl

/-- The IP header ends where the TCP header begins. -/
theorem iphHl_vhl (fr : TcpFrame) : iphHl fr.vhl = 20 + fr.ipOptions.bytes.length := by
  have hwords := fr.ipOptions.words
  have hshort := fr.ipOptions.short
  have hlow : ∀ n < 11, (UInt8.ofNat (0x45 + n) &&& 0x0f).toNat = 5 + n := by decide
  rw [iphHl, vhl, hlow _ (by omega)]
  omega

end TcpFrame

theorem be16_hi_lo (n : UInt16) : be16 (hi n) (lo n) = n := by
  have hlt : n.toNat < 65536 := n.toNat_lt
  have hhi : (hi n).toNat = n.toNat / 256 := by
    simp [hi, Nat.shiftRight_eq_div_pow]
    omega
  have hlo : (lo n).toNat = n.toNat % 256 := by simp [lo]
  apply UInt16.toNat_inj.1
  rw [toNat_be16, hhi, hlo]
  omega

/-- The way of a TCP frame to its ports. -/
theorem run_nwSplit_tcp (hdest : m 0 &&& 0x01 = 0) (htype : be16 (m 12) (m 13) = ethtypeIp)
    (hproto : m 23 = ipProtoTcp) :
    (nwSplitFilterAndRoutePacket cfg w).run m = (routeTcp cfg w (14 + iphHl (m 14))).run m := by
  rw [nwSplitFilterAndRoutePacket, Inspect.run_bind, run_u8, if_neg (by simpa using hdest),
    Inspect.run_bind,
    run_ntohs, htype, if_pos rfl, routeIp, Inspect.run_bind, run_u8, sizeofEthHdr,
      hproto, if_pos rfl,
    Inspect.run_bind, run_u8]

def srcPort (m : Memory) (hdr : Nat) : UInt16 := be16 (m hdr) (m (hdr + 1))

def dstPort (m : Memory) (hdr : Nat) : UInt16 := be16 (m (hdr + 2)) (m (hdr + 3))

theorem run_readPorts (route : UInt16 → UInt16 → Look (Bridge × Caches)) :
    (readPorts i route).run m = (route (srcPort m i) (dstPort m i)).run m := by
  rw [readPorts, Inspect.run_bind, Inspect.run_bind]
  rfl

/-- The ranges of TCP do not wake the host, whatever the source port. -/
theorem run_routeTcpRange (cfg : Config) (w : World) (m : Memory) (i : Nat) (port : UInt16) :
    (routeTcpRange cfg w i (srcPort m i) port).run m =
      if cfg.remoteTcp.contains port then if w.hostPowerSaving then .invalid else .hostLwip
      else if cfg.localTcp.contains port then .slaveLwip
      else cfg.defaultLwipToSend := by
  unfold routeTcpRange
  split
  · split
    · split
      · rename_i hmqtt
        have hnat := toNat_be16 (m i) (m (i + 1))
        have hlow : (m (i + 1)).toNat < 256 := (m (i + 1)).toNat_lt
        rw [srcPort] at hmqtt
        rw [hmqtt] at hnat
        have hport : (1883 : Nat) = 256 * (m i).toNat + (m (i + 1)).toNat := hnat
        exact run_routeMqtt (UInt8.toNat_inj.1 (show (m i).toNat = 7 by omega))
      · rfl
    · rfl
  · split <;> rfl

/-- What becomes of a frame from the MQTT port. -/
theorem run_nwSplit_mqtt (fr : TcpFrame) (beyond : Memory) (hsrc : fr.srcPort = mqttPort)
    (hps : w.hostPowerSaving = true) (hremote : cfg.remoteTcp.contains fr.dstPort = true)
    (hreserved : isTcpDstPortAllowed w.reserved fr.dstPort = false)
    (hiperf : fr.dstPort ≠ defaultIperfPort) :
    ((nwSplitFilterAndRoutePacket cfg w).run (memory fr.bytes beyond)).1 =
      if isTcpSrcPortAllowed w.reserved mqttPort then .hostLwip else .invalid := by
  have hdest : memory fr.bytes beyond 0 &&& 0x01 = 0 := by
    rw [fr.memory_ethIpHeader 0 (by decide)]
    exact fr.unicast
  have htype : be16 (memory fr.bytes beyond 12) (memory fr.bytes beyond 13) = ethtypeIp := by
    rw [fr.memory_ethIpHeader 12 (by decide), fr.memory_ethIpHeader 13 (by decide)]
    exact be16_hi_lo ethtypeIp
  have hproto : memory fr.bytes beyond 23 = ipProtoTcp := fr.memory_ethIpHeader 23 (by decide)
  have hvhl : memory fr.bytes beyond 14 = fr.vhl := fr.memory_ethIpHeader 14 (by decide)
  have htcp : 14 + iphHl fr.vhl = 34 + fr.ipOptions.bytes.length := by
    rw [fr.iphHl_vhl]
    omega
  have hsrcPort : srcPort (memory fr.bytes beyond) (34 + fr.ipOptions.bytes.length) =
    fr.srcPort := by
    rw [srcPort, ← Nat.add_zero (34 + _), fr.memory_tcpHeader 0 (by decide),
      fr.memory_tcpHeader 1 (by decide)]
    exact be16_hi_lo fr.srcPort
  have hdstPort : dstPort (memory fr.bytes beyond) (34 + fr.ipOptions.bytes.length) =
    fr.dstPort := by
    rw [dstPort, fr.memory_tcpHeader 2 (by decide), fr.memory_tcpHeader 3 (by decide)]
    exact be16_hi_lo fr.dstPort
  have hrange :=
    run_routeTcpRange cfg w (memory fr.bytes beyond) (34 + fr.ipOptions.bytes.length) fr.dstPort
  rw [if_pos hremote, if_pos hps, hsrcPort] at hrange
  rw [run_nwSplit_tcp hdest htype hproto, hvhl, htcp, routeTcp, run_readPorts, hsrcPort,
    hdstPort, routePorts, hreserved, Bool.or_false, ← hsrc]
  split
  · rfl
  · rw [routeIperf, if_neg hiperf]
    show Prod.fst (Inspect.run _ ((·, w.caches) <$> routeTcpRange cfg w _ fr.srcPort fr.dstPort)) =
      _
    rw [Inspect.run_map, hrange]

/-- **The MQTT filter is exact** if the host has reserved the port of MQTT and the frame is to wake
it, or neither. -/
theorem filtered_iff (cfg : Config) (w : World) (fr : TcpFrame) (beyond : Memory)
    (hsrc : fr.srcPort = mqttPort)
    (hps : w.hostPowerSaving = true) (hremote : cfg.remoteTcp.contains fr.dstPort = true)
    (hreserved : isTcpDstPortAllowed w.reserved fr.dstPort = false)
    (hiperf : fr.dstPort ≠ defaultIperfPort) :
    fr.Filtered ((nwSplitFilterAndRoutePacket cfg w).run (memory fr.bytes beyond)).1 ↔
      (isTcpSrcPortAllowed w.reserved mqttPort = true ↔ wakeupHostString <+: fr.payload) := by
  rw [run_nwSplit_mqtt fr beyond hsrc hps hremote hreserved hiperf, TcpFrame.Filtered]
  cases isTcpSrcPortAllowed w.reserved mqttPort with
  | true => simp
  | false => simp

/-- A publication of a broker. -/
def publication (payload : List UInt8) (h : payload.length < 1000) : TcpFrame where
  dest := ⟨0x24, 0x0a, 0xc4, 1, 2, 3⟩
  unicast := by decide
  src := ⟨0x24, 0x0a, 0xc4, 4, 5, 6⟩
  tos := 0
  identification := 1
  dontFragment := true
  ttl := 64
  ipChecksum := 0
  srcAddr := ⟨192, 168, 1, 2⟩
  dstAddr := ⟨192, 168, 1, 3⟩
  ipOptions := ⟨[], rfl, by decide⟩
  srcPort := mqttPort
  dstPort := 50000
  seq := ⟨0, 0, 0, 1⟩
  ack := ⟨0, 0, 0, 1⟩
  rsvd := 0
  fourBits := by decide
  flags := 0x18
  window := 4096
  tcpChecksum := 0
  urgent := 0
  tcpOptions := ⟨[], rfl, by decide⟩
  payload := payload
  padding := []
  fits := by
    show 40 + 0 + 0 + payload.length < 65536
    omega

/-- The ranges of a build that leaves the ports from 49152 on to the host. -/
def splitConfig : Config where
  defaultLwipToSend := .slaveLwip
  selected := by decide
  remoteTcp := ⟨49152, 61439⟩
  localTcp := ⟨61440, 65535⟩
  remoteUdp := ⟨49152, 61439⟩
  localUdp := ⟨61440, 65535⟩

/-- The host sleeps and has reserved no ports. -/
def hostAsleep : World where
  reserved := atBoot
  caches := fun _ => {}
  now := 0
  pcbs := fun _ => []
  hostPowerSaving := true

/-- The publication `on` of the topic `lamp` goes to the slave. -/
theorem filtered_publication :
    (publication [0x30, 8, 0, 4, 108, 97, 109, 112, 111, 110] (by decide)).Filtered
      ((nwSplitFilterAndRoutePacket splitConfig hostAsleep).run
        (memory (publication [0x30, 8, 0, 4, 108, 97, 109, 112, 111, 110] (by decide)).bytes
          fun _ => 0)).1 :=
  (filtered_iff splitConfig hostAsleep
    (publication [0x30, 8, 0, 4, 108, 97, 109, 112, 111, 110] (by decide)) (fun _ => 0) rfl rfl
    (by decide) (by decide) (by decide)).2 (by decide)

/-- A frame that is to wake the host is dropped. -/
theorem not_filtered_wakeup :
    ¬(publication wakeupHostString (by decide)).Filtered
      ((nwSplitFilterAndRoutePacket splitConfig hostAsleep).run
        (memory (publication wakeupHostString (by decide)).bytes fun _ => 0)).1 := by
  rw [run_nwSplit_mqtt (publication wakeupHostString (by decide)) (fun _ => 0) rfl rfl
    (by decide) (by decide)
    (by decide)]
  intro hfiltered
  exact absurd (hfiltered.1.2 (List.prefix_refl wakeupHostString)) (by decide)

end EspHostedOpen.Router
