import EspHostedOpen.Slave.Router

/-!
# What the router reads, and of which frames

`nw_split_filter_and_route_packet` does not look at the length of the frame. A frame that holds the
headers it announces is not read beyond its end; of the others it is said exactly which are spared
(`staysInside_iff`).
-/

namespace EspHostedOpen.Router

open PortCache ReservedPorts

/-! ## Frames that are too short -/

/-- The data offset of a TCP header, in bytes. -/
def dataOffset (hdrlen : UInt8) : Nat := (hdrlen >>> 4).toNat * 4

/-- The offset of what follows the IP header. -/
def ipPayload (m : Memory) : Nat := sizeofEthHdr + iphHl (m 14)

/-- An IP packet that ends before its headers do. -/
def IpTooShort (m : Memory) (n : Nat) : Prop :=
  n < 34 ∨ n < ipPayload m ∨
    (m 23 = ipProtoTcp ∧
      (n < ipPayload m + 20 ∨ n < ipPayload m + dataOffset (m (ipPayload m + 12)))) ∨
    (m 23 = ipProtoUdp ∧ n < ipPayload m + 8) ∨ (m 23 = ipProtoIcmp ∧ n < ipPayload m + 8)

/-- A frame of `n` bytes that ends before the headers that it announces do. -/
def TooShort (m : Memory) (n : Nat) : Prop :=
  n < 14 ∨ (be16 (m 12) (m 13) = ethtypeIp ∧ IpTooShort m n) ∨
    (be16 (m 12) (m 13) = ethtypeArp ∧ n < 42)

/-- **Routing stays inside the frame**: no byte beyond its end is read, and a frame that is too
short is routed by the default rule. -/
def StaysInside (cfg : Config) (w : World) (frame : List UInt8) (beyond : Memory) : Prop :=
  (∀ i ∈ (nwSplitFilterAndRoutePacket cfg w).reads (memory frame beyond), i < frame.length) ∧
    (TooShort (memory frame fun _ => 0) frame.length →
      ((nwSplitFilterAndRoutePacket cfg w).run (memory frame beyond)).1 = cfg.defaultLwipToSend)

/-! ## Frames that are spared

The bytes that decide are there, and the rule that they select names the default. -/

/-- The ranges name the default. -/
def RangeSpared (cfg : Config) (w : World) (remoteRange localRange : PortRange)
    (dstPort : UInt16) : Prop :=
  (remoteRange.contains dstPort = true → w.hostPowerSaving = false ∧ cfg.defaultLwipToSend =
    .hostLwip) ∧
    (remoteRange.contains dstPort = false → localRange.contains dstPort = true →
      cfg.defaultLwipToSend = .slaveLwip)

/-- Whether the iperf port is open here, as far as the cache knows. -/
def iperfOpen (proto : Protocol) (w : World) :
    Bool := (query proto w.now w.pcbs defaultIperfPort w.caches).1

/-- The ports are there and the rule for them names the default. -/
structure SegmentSpared (cfg : Config) (w : World) (proto : Protocol) (reserved : Bool)
    (dstPort : UInt16)
    (rangeSpared : Prop) : Prop where
  host : reserved = true → cfg.defaultLwipToSend = .hostLwip
  iperfHere : reserved = false → dstPort = defaultIperfPort → iperfOpen proto w = true →
    cfg.defaultLwipToSend = .slaveLwip
  iperfHost : reserved = false → dstPort = defaultIperfPort → iperfOpen proto w = false →
    w.hostPowerSaving = false → cfg.defaultLwipToSend = .hostLwip
  range : reserved = false →
    (dstPort = defaultIperfPort → iperfOpen proto w = false ∧ w.hostPowerSaving = true) →
      rangeSpared

def TcpSpared (cfg : Config) (w : World) (m : Memory) (n hdr : Nat) : Prop :=
  hdr + 4 ≤ n ∧
    SegmentSpared cfg w .tcp
      (isTcpSrcPortAllowed w.reserved (srcPort m hdr) ||
        isTcpDstPortAllowed w.reserved (dstPort m hdr))
      (dstPort m hdr) (RangeSpared cfg w cfg.remoteTcp cfg.localTcp (dstPort m hdr))

def UdpSpared (cfg : Config) (w : World) (m : Memory) (n hdr : Nat) : Prop :=
  hdr + 4 ≤ n ∧
    SegmentSpared cfg w .udp
      (isUdpSrcPortAllowed w.reserved (srcPort m hdr) ||
        isUdpDstPortAllowed w.reserved (dstPort m hdr))
      (dstPort m hdr)
      (if dstPort m hdr = lwipIanaPortDhcpClient then cfg.defaultLwipToSend = .bothLwip
        else RangeSpared cfg w cfg.remoteUdp cfg.localUdp (dstPort m hdr))

/-- The reply to a ping, or to an ARP request, names the default. -/
def ReplySpared (cfg : Config) (w : World) : Prop :=
  cfg.defaultLwipToSend = if w.hostPowerSaving then .slaveLwip else .bothLwip

def IcmpSpared (cfg : Config) (w : World) (m : Memory) (n hdr : Nat) : Prop :=
  hdr < n ∧ (m hdr = icmpEcho → cfg.defaultLwipToSend = .slaveLwip) ∧
    (m hdr = icmpEr → ReplySpared cfg w)

def IpSpared (cfg : Config) (w : World) (m : Memory) (n : Nat) : Prop :=
  24 ≤ n ∧ (m 23 = ipProtoTcp → TcpSpared cfg w m n (ipPayload m)) ∧
    (m 23 = ipProtoUdp → UdpSpared cfg w m n (ipPayload m)) ∧
    (m 23 = ipProtoIcmp → IcmpSpared cfg w m n (ipPayload m))

def ArpSpared (cfg : Config) (w : World) (m : Memory) (n : Nat) : Prop :=
  22 ≤ n ∧
    if be16 (m 20) (m 21) = arpRequest then cfg.defaultLwipToSend =
      .slaveLwip else ReplySpared cfg w

/-- A frame of which the bytes that decide are there, and decide for the default. -/
def Spared (cfg : Config) (w : World) (m : Memory) (n : Nat) : Prop :=
  if m 0 &&& 0x01 ≠ 0 then 1 ≤ n ∧ cfg.defaultLwipToSend = .slaveLwip
  else
    14 ≤ n ∧ (be16 (m 12) (m 13) = ethtypeIp → IpSpared cfg w m n) ∧
      (be16 (m 12) (m 13) = ethtypeArp → ArpSpared cfg w m n)

/-! ## The branches -/

open Inspect

variable {cfg : Config} {w : World} {m : Memory} {n hdr i : Nat}

@[simp] theorem within_u8 {Q : UInt8 → Prop} : Within (· < n) m (u8 i) Q ↔ i < n ∧ Q (m i) :=
    within_cell i

@[simp] theorem within_ntohs {Q : UInt16 → Prop} :
    Within (· < n) m (ntohs i) Q ↔ i + 1 < n ∧ Q (be16 (m i) (m (i + 1))) := by
  rw [ntohs, within_bind, within_u8, within_bind, within_u8, within_pure, ← and_assoc]
  exact and_congr_left fun _ => ⟨And.right, fun h => ⟨by omega, h⟩⟩

theorem rangeSpared_iff {remoteRange localRange : PortRange} {port : UInt16} :
    (if remoteRange.contains port then if w.hostPowerSaving then Bridge.invalid else .hostLwip
      else if localRange.contains port then .slaveLwip
      else cfg.defaultLwipToSend) = cfg.defaultLwipToSend ↔
        RangeSpared cfg w remoteRange localRange port := by
  have hne := cfg.selected.symm
  unfold RangeSpared
  cases remoteRange.contains port <;> cases w.hostPowerSaving <;> cases localRange.contains port <;>
    simp [eq_comm, hne]

/-- A sleeping host gets nothing of its range; else the range is decided without a further look. -/
theorem within_routeTcpRange {port : UInt16} :
    Within (· < n) m (routeTcpRange cfg w hdr (srcPort m hdr) port) (· = cfg.defaultLwipToSend) ↔
      RangeSpared cfg w cfg.remoteTcp cfg.localTcp port := by
  rw [← rangeSpared_iff, ← run_routeTcpRange cfg w m hdr port]
  refine ⟨And.right, fun h => ⟨?_, h⟩⟩
  rw [run_routeTcpRange] at h
  unfold routeTcpRange
  by_cases hremote : cfg.remoteTcp.contains port = true
  · by_cases hps : w.hostPowerSaving = true
    · rw [if_pos hremote, if_pos hps] at h
      exact absurd h.symm cfg.selected
    · rw [if_pos hremote, if_neg hps]
      exact nofun
  · rw [if_neg hremote]
    split <;> exact nofun

theorem routeIperf_defaultIperfPort (proto : Protocol) :
    routeIperf proto w defaultIperfPort =
      (if iperfOpen proto
      w then some .slaveLwip else if !w.hostPowerSaving then some .hostLwip else none,
        (query proto w.now w.pcbs defaultIperfPort w.caches).2) := if_pos rfl

theorem within_readPorts {route : UInt16 → UInt16 → Look (Bridge × Caches)}
    {Q : Bridge × Caches → Prop} :
    Within (· < n) m (readPorts hdr route) Q ↔
      hdr + 4 ≤ n ∧ Within (· < n) m (route (srcPort m hdr) (dstPort m hdr)) Q := by
  rw [readPorts, within_bind, within_ntohs, within_bind, within_ntohs, ← and_assoc]
  exact and_congr_left fun _ => ⟨fun h => h.1, fun h => ⟨h, by omega⟩⟩

section Ports

variable {proto : Protocol} {srcAllowed dstAllowed : ReservedPorts.State → UInt16 → Bool}
  {routeRange : UInt16 → UInt16 → Look Bridge} {rangeSpared : Prop} {src dst : UInt16}

theorem within_routePorts_iperf (hdst : dst = defaultIperfPort)
    (hrange : Within (· < n) m (routeRange src dst) (· = cfg.defaultLwipToSend) ↔ rangeSpared)
    (hreserved : (srcAllowed w.reserved src || dstAllowed w.reserved dst) = false) :
    Within (· < n) m (routePorts proto srcAllowed dstAllowed routeRange w src dst)
        (·.1 = cfg.defaultLwipToSend) ↔
      SegmentSpared cfg w proto false dst rangeSpared := by
  subst hdst
  rw [routePorts, hreserved, if_neg Bool.false_ne_true, routeIperf_defaultIperfPort]
  cases hopen : iperfOpen proto w with
  | true =>
    show Within (· < n) m (pure (Bridge.slaveLwip, _)) _ ↔ _
    rw [within_pure]
    refine ⟨fun h => ⟨Bool.noConfusion, fun _ _ _ => h.symm, ?_, ?_⟩, fun h =>
      (h.iperfHere rfl rfl hopen).symm⟩
    · exact fun _ _ hclosed => Bool.noConfusion (hopen.symm.trans hclosed)
    · exact fun _ hclosed => Bool.noConfusion (hopen.symm.trans (hclosed rfl).1)
  | false =>
    cases hps : w.hostPowerSaving with
    | true =>
      show Within (· < n) m ((·, _) <$> routeRange src defaultIperfPort) _ ↔ _
      rw [within_map, hrange]
      refine ⟨fun h => ⟨Bool.noConfusion, ?_, ?_, fun _ _ => h⟩, fun h => h.range rfl fun _ =>
        ⟨hopen, hps⟩⟩
      · exact fun _ _ hopen' => Bool.noConfusion (hopen.symm.trans hopen')
      · exact fun _ _ _ hawake => Bool.noConfusion (hps.symm.trans hawake)
    | false =>
      show Within (· < n) m (pure (Bridge.hostLwip, _)) _ ↔ _
      rw [within_pure]
      refine ⟨fun h => ⟨Bool.noConfusion, ?_, fun _ _ _ _ => h.symm, ?_⟩,
        fun h => (h.iperfHost rfl rfl hopen hps).symm⟩
      · exact fun _ _ hopen' => Bool.noConfusion (hopen.symm.trans hopen')
      · exact fun _ hsleeps => Bool.noConfusion (hps.symm.trans (hsleeps rfl).2)

theorem within_routePorts
    (hrange : Within (· < n) m (routeRange src dst) (· = cfg.defaultLwipToSend) ↔ rangeSpared) :
    Within (· < n) m (routePorts proto srcAllowed dstAllowed routeRange w src dst)
        (·.1 = cfg.defaultLwipToSend) ↔
      SegmentSpared cfg w proto
      (srcAllowed w.reserved src || dstAllowed w.reserved dst) dst rangeSpared := by
  cases hreserved : srcAllowed w.reserved src || dstAllowed w.reserved dst with
  | true =>
    rw [routePorts, hreserved, if_pos rfl, within_pure]
    exact ⟨fun h => ⟨fun _ => h.symm, Bool.noConfusion, Bool.noConfusion, Bool.noConfusion⟩,
      fun h => (h.host rfl).symm⟩
  | false =>
    by_cases hiperf : dst = defaultIperfPort
    · exact within_routePorts_iperf hiperf hrange hreserved
    · rw [routePorts, hreserved, if_neg Bool.false_ne_true, routeIperf, if_neg hiperf]
      show Within (· < n) m ((·, _) <$> routeRange src dst) _ ↔ _
      rw [within_map, hrange]
      exact ⟨fun h =>
          ⟨Bool.noConfusion, fun _ h' => absurd h' hiperf, fun _ h' => absurd h' hiperf,
            fun _ _ => h⟩,
        fun h => h.range rfl fun h' => absurd h' hiperf⟩

end Ports

theorem within_routeTcp :
    Within (· < n) m (routeTcp cfg w hdr) (·.1 = cfg.defaultLwipToSend) ↔
      TcpSpared cfg w m n hdr := by
  rw [routeTcp, within_readPorts, within_routePorts within_routeTcpRange]
  rfl

theorem within_routeUdp :
    Within (· < n) m (routeUdp cfg w hdr) (·.1 = cfg.defaultLwipToSend) ↔
      UdpSpared cfg w m n hdr := by
  have hrange :
    ∀ port, Within (· < n) m (pure (routeUdpRange cfg w port)) (· = cfg.defaultLwipToSend) ↔
      if port = lwipIanaPortDhcpClient then cfg.defaultLwipToSend = .bothLwip
      else RangeSpared cfg w cfg.remoteUdp cfg.localUdp port := by
    intro port
    rw [within_pure, routeUdpRange]
    split
    · exact eq_comm
    · exact rangeSpared_iff
  rw [routeUdp, within_readPorts, within_routePorts (hrange _)]
  rfl

theorem within_routeIcmp :
    Within (· < n) m (routeIcmp cfg w hdr) (· = cfg.defaultLwipToSend) ↔
      IcmpSpared cfg w m n hdr := by
  rw [routeIcmp, within_bind, within_u8, within_pure, IcmpSpared, ReplySpared]
  refine and_congr_right fun _ => ?_
  by_cases hecho : m hdr = icmpEcho
  · have her : icmpEcho ≠ icmpEr := by decide
    rw [if_pos hecho, hecho]
    exact ⟨fun h => ⟨fun _ => h.symm, fun h' => absurd h' her⟩, fun h => (h.1 rfl).symm⟩
  · rw [if_neg hecho]
    by_cases her : m hdr = icmpEr
    · rw [if_pos her]
      exact ⟨fun h => ⟨fun h' => absurd h' hecho, fun _ => h.symm⟩, fun h => (h.2 her).symm⟩
    · rw [if_neg her]
      exact ⟨fun _ => ⟨fun h' => absurd h' hecho, fun h' => absurd h' her⟩, fun _ => rfl⟩

theorem within_routeArp :
    Within (· < n) m (routeArp w) (· = cfg.defaultLwipToSend) ↔ ArpSpared cfg w m n := by
  rw [routeArp, within_bind, within_ntohs, within_pure, ArpSpared, ReplySpared]
  refine and_congr_right fun _ => ?_
  show (if be16 (m 20) (m 21) = arpRequest then _ else _) = _ ↔ _
  split <;> exact eq_comm

theorem within_routeIp :
    Within (· < n) m (routeIp cfg w) (·.1 = cfg.defaultLwipToSend) ↔ IpSpared cfg w m n := by
  have hvhl : ∀ {α : Type} {f : UInt8 → Look α} {Q : α → Prop}, 24 ≤ n →
      (Within (· < n) m (u8 sizeofEthHdr >>= f) Q ↔ Within (· < n) m (f (m 14)) Q) := by
    intro α f Q hn
    rw [within_bind, within_u8]
    exact and_iff_right (show 14 < n by omega)
  have hproto : m (sizeofEthHdr + 9) = m 23 := rfl
  rw [routeIp, within_bind, within_u8, hproto]
  refine and_congr_right fun hn => ?_
  by_cases htcp : m 23 = ipProtoTcp
  · rw [if_pos htcp, hvhl hn, within_routeTcp, htcp]
    exact ⟨fun h => ⟨fun _ => h, fun h' => absurd h' (by decide), fun h' => absurd h' (by decide)⟩,
      fun h => h.1 rfl⟩
  · rw [if_neg htcp]
    by_cases hudp : m 23 = ipProtoUdp
    · rw [if_pos hudp, hvhl hn, within_routeUdp, hudp]
      exact ⟨fun h =>
        ⟨fun h' => absurd h' (by decide), fun _ => h, fun h' => absurd h' (by decide)⟩,
        fun h => h.2.1 rfl⟩
    · rw [if_neg hudp]
      by_cases hicmp : m 23 = ipProtoIcmp
      · rw [if_pos hicmp, hvhl hn, within_map, within_routeIcmp, hicmp]
        exact ⟨fun h =>
          ⟨fun h' => absurd h' (by decide), fun h' => absurd h' (by decide), fun _ => h⟩,
          fun h => h.2.2 rfl⟩
      · rw [if_neg hicmp, within_pure]
        exact ⟨fun _ =>
          ⟨fun h' => absurd h' htcp, fun h' => absurd h' hudp, fun h' => absurd h' hicmp⟩,
          fun _ => rfl⟩

/-- The default, and from bytes that are there: the frames that are spared. -/
theorem within_nwSplit :
    Within (· < n) m (nwSplitFilterAndRoutePacket cfg w) (·.1 = cfg.defaultLwipToSend) ↔
      Spared cfg w m n := by
  rw [nwSplitFilterAndRoutePacket, within_bind, within_u8, Spared]
  by_cases hdest : m 0 &&& 0x01 ≠ 0
  · rw [if_pos hdest, if_pos hdest, within_pure]
    exact and_congr Iff.rfl eq_comm
  · have htype : be16 (m 12) (m (12 + 1)) = be16 (m 12) (m 13) := rfl
    rw [if_neg hdest, if_neg hdest, within_bind, within_ntohs, ← and_assoc, htype]
    refine and_congr (by omega) ?_
    by_cases hip : be16 (m 12) (m 13) = ethtypeIp
    · rw [if_pos hip, within_routeIp, hip]
      exact ⟨fun h => ⟨fun _ => h, fun h' => absurd h' (by decide)⟩, fun h => h.1 rfl⟩
    · rw [if_neg hip]
      by_cases harp : be16 (m 12) (m 13) = ethtypeArp
      · rw [if_pos harp, within_map, within_routeArp, harp]
        exact ⟨fun h => ⟨fun h' => absurd h' (by decide), fun _ => h⟩, fun h => h.2 rfl⟩
      · rw [if_neg harp, within_pure]
        exact ⟨fun _ => ⟨fun h' => absurd h' hip, fun h' => absurd h' harp⟩, fun _ => rfl⟩

/-! ## Frames that are long enough -/

/-- The bytes read are there. -/
abbrev Inside {α : Type} (m : Memory) (n : Nat) (p : Look α) : Prop := ∀ i ∈ p.reads m, i < n

theorem inside_iff {α : Type} {p : Look α} : Inside m n p ↔ Within (· < n) m p fun _ => True :=
  (and_iff_left trivial).symm

theorem inside_pure {α : Type} (x : α) : Inside m n (pure x) := fun _ hi =>
    absurd hi List.not_mem_nil

theorem inside_routePorts {proto : Protocol}
    {srcAllowed dstAllowed : ReservedPorts.State → UInt16 → Bool}
    {routeRange : UInt16 → UInt16 → Look Bridge} {src dst : UInt16}
    (h : Inside m n (routeRange src dst)) :
    Inside m n (routePorts proto srcAllowed dstAllowed routeRange w src dst) := by
  unfold routePorts
  split
  · exact inside_pure _
  · split
    · exact inside_pure _
    · rwa [Inside, reads_map]

/-- The MQTT filter reads no further than the fixed part of the TCP header. -/
theorem inside_routeTcpRange {src dst : UInt16} (h : hdr + 20 ≤ n) :
    Inside m n (routeTcpRange cfg w hdr src dst) := by
  have hmqtt : Inside m n (routeMqtt hdr) := by
    have hcells : ∀ i ∈ (List.range wakeupHostString.length).map (hdr + ·), i < n := by
      intro i hi
      obtain ⟨k, hk, rfl⟩ := List.mem_map.1 hi
      have hlength : wakeupHostString.length = 11 := rfl
      have hlt := List.mem_range.1 hk
      omega
    rw [inside_iff, routeMqtt, within_bind, within_map, within_ntohs, tcpHdrLen_eq, within_bind,
      within_ntohs, within_bind, hostMqttWakeupTriggered]
    refine ⟨by omega, by omega, ?_⟩
    split
    · rw [within_bind, Nat.add_zero, within_cells]
      exact ⟨hcells, by simp⟩
    · simp
  unfold routeTcpRange
  split
  · split
    · split
      · exact hmqtt
      · exact inside_pure _
    · exact inside_pure _
  · split <;> exact inside_pure _

theorem inside_routeIp (h : ¬IpTooShort m n) : Inside m n (routeIp cfg w) := by
  simp only [IpTooShort, not_or, not_and, not_lt] at h
  obtain ⟨hn, -, htcp, hudp, hicmp⟩ := h
  have hvhl : sizeofEthHdr < n := show 14 < n by omega
  rw [inside_iff, routeIp, within_bind, within_u8]
  refine ⟨show 23 < n by omega, ?_⟩
  split
  · have hports := (htcp ‹_›).1
    rw [within_bind, within_u8, routeTcp, within_readPorts]
    refine ⟨hvhl, show ipPayload m + 4 ≤ n by omega, inside_iff.1 (inside_routePorts ?_)⟩
    exact inside_routeTcpRange hports
  · split
    · have hports := hudp ‹_›
      rw [within_bind, within_u8, routeUdp, within_readPorts]
      refine ⟨hvhl, show ipPayload m + 4 ≤ n by omega, inside_iff.1 (inside_routePorts ?_)⟩
      exact inside_pure _
    · split
      · have htype := hicmp ‹_›
        rw [within_bind, within_u8, within_map, routeIcmp, within_bind, within_u8, within_pure]
        exact ⟨hvhl, show ipPayload m < n by omega, trivial⟩
      · simp

/-- A frame that holds the headers it announces is not read beyond its end. -/
theorem inside_nwSplit (h : ¬TooShort m n) : Inside m n (nwSplitFilterAndRoutePacket cfg w) := by
  simp only [TooShort, not_or, not_and, not_lt] at h
  obtain ⟨hn, hip, harp⟩ := h
  rw [inside_iff, nwSplitFilterAndRoutePacket, within_bind, within_u8]
  refine ⟨by omega, ?_⟩
  split
  · simp
  · rw [within_bind, within_ntohs]
    refine ⟨by omega, ?_⟩
    split
    · exact inside_iff.1 (inside_routeIp (hip ‹_›))
    · split
      · have hopcode := harp ‹_›
        rw [within_map, routeArp, within_bind, within_ntohs, within_pure]
        exact ⟨show 21 < n by omega, trivial⟩
      · simp

/-! ## The whole -/

theorem memory_eq {frame : List UInt8} {b b' : Memory} (h : i < frame.length) :
    memory frame b i = memory frame b' i := by
  rw [memory, memory, List.getElem?_eq_getElem h, Option.getD_some, Option.getD_some]

/-- Whether a frame is too short is for its own bytes to say. -/
theorem TooShort.congr {m' : Memory} (hm : ∀ i < n, m i = m' i) (h : TooShort m n) :
    TooShort m' n := by
  by_cases hn : n < 14
  · exact .inl hn
  · have htype :
      be16 (m 12) (m 13) = be16 (m' 12) (m' 13) := by rw [hm 12 (by omega), hm 13 (by omega)]
    rcases h with h | ⟨hip, h⟩ | ⟨harp, h⟩
    · exact .inl h
    · refine .inr (.inl ⟨htype ▸ hip, ?_⟩)
      by_cases hn' : n < 34
      · exact .inl hn'
      · have hpayload : ipPayload m = ipPayload m' := by rw [ipPayload, ipPayload, hm 14 (by omega)]
        rw [IpTooShort, hm 23 (by omega), hpayload] at h
        rcases h with h | h | ⟨hproto, h⟩ | h | h
        · exact .inl h
        · exact .inr (.inl h)
        · refine .inr (.inr (.inl ⟨hproto, ?_⟩))
          by_cases hn'' : n < ipPayload m' + 20
          · exact .inl hn''
          · rwa [hm _ (by omega)] at h
        · exact .inr (.inr (.inr (.inl h)))
        · exact .inr (.inr (.inr (.inr h)))
    · exact .inr (.inr ⟨htype ▸ harp, h⟩)

/-- **Routing stays inside the frame** if the frame holds the headers that it announces, or the
bytes that decide are there and decide for the default. -/
theorem staysInside_iff (cfg : Config) (w : World) (frame : List UInt8) (beyond : Memory) :
    StaysInside cfg w frame beyond ↔
      ¬TooShort (memory frame fun _ => 0) frame.length ∨
        Spared cfg w (memory frame fun _ => 0) frame.length := by
  have hagree : ∀ i < frame.length, memory frame (fun _ => 0) i = memory frame beyond i :=
    fun i hi => memory_eq hi
  have hspared := within_congr (p := nwSplitFilterAndRoutePacket cfg w)
    (Q := fun r => r.1 = cfg.defaultLwipToSend) hagree
  rw [← within_nwSplit, hspared]
  constructor
  · rintro ⟨hinside, hdefault⟩
    by_cases hshort : TooShort (memory frame fun _ => 0) frame.length
    · exact .inr ⟨hinside, hdefault hshort⟩
    · exact .inl hshort
  · rintro (hlong | hspared)
    · refine ⟨inside_nwSplit fun h => hlong (h.congr fun i hi => (hagree i hi).symm), fun h =>
        absurd h hlong⟩
    · exact ⟨hspared.1, fun _ => hspared.2⟩

/-- The ports of a TCP packet that ends with its IP header are taken from behind the frame. -/
theorem not_staysInside_truncated :
    ¬StaysInside splitConfig hostAsleep
    ((publication [] (by decide)).bytes.take 34) fun _ => 0 := by
  intro h
  exact absurd (h.1 37 (by decide)) (by decide)

end EspHostedOpen.Router
