import EspHostedOpen.Slave.RxFrames

/-!
# The header in front of every packet (`esp_hosted_header.h`)

`Header.bytes` lays the header out as both ends fill it in, and `packet` puts it in front of a
payload with the checksum over both. `RxFrames.Frame` reads the fields back.
-/

namespace EspHostedOpen.RxFrames

open ByteCodec

/-! ## Reading back -/

namespace Frame

def ifNum (f : Frame) : UInt8 := f.buf.getD 0 0 >>> 4
def seqNum (f : Frame) : Nat := leNat (slice 8 2 f.buf)

/-- `hci_pkt_type` and `priv_pkt_type`, the last byte of the header. -/
def pktType (build : Build) (f : Frame) : UInt8 := f.buf.getD (build.headerSize - 1) 0

/-- What stands behind the offset. -/
def payload (f : Frame) : List UInt8 := slice f.offset f.len f.buf

end Frame

/-! ## Filling in -/

/-- `struct esp_payload_header` as a sender fills it in, but for its checksum. -/
structure Header where
  ifType : UInt8                                 -- of 4 bits
  ifNum : UInt8                                  -- of 4 bits
  flags : UInt8
  len : UInt16
  offset : UInt16
  seqNum : UInt16
  throttleCmd : UInt8 := 0                       -- of 2 bits
  pktType : UInt8 := 0
  deriving DecidableEq, Repr

/-- The bytes of the header; `pkt_num` is not filled in. -/
def Header.bytes (build : Build) (h : Header) (checksum : Nat) : List UInt8 :=
  ((h.ifType &&& 0x0F : UInt8) ||| (h.ifNum <<< 4 : UInt8)) :: h.flags ::
    (leBytes 2 h.len.toNat ++ leBytes 2 h.offset.toNat ++ leBytes 2 checksum ++
      leBytes 2 h.seqNum.toNat ++
      (h.throttleCmd &&& 0x03 : UInt8) ::
        ((if build.pktNumDebug then [0, 0] else []) ++ [h.pktType]))

/-- The packet without its checksum. -/
def plain (build : Build) (h : Header) (payload : List UInt8) : List UInt8 :=
    h.bytes build 0 ++ payload

/-- The packet as it is sent. -/
def packet (build : Build) (h : Header) (payload : List UInt8) : List UInt8 :=
  if build.checksum then
    h.bytes build (computeChecksum (plain build h payload) (plain build h payload).length).toNat ++
      payload
  else plain build h payload

/-! ## The round trip -/

section RoundTrip

variable {build : Build} {h : Header} {checksum received : Nat} {payload : List UInt8}

theorem length_bytes (build : Build) (h : Header) (checksum : Nat) :
    (h.bytes build checksum).length = build.headerSize := by
  unfold Header.bytes Build.headerSize
  cases build.pktNumDebug <;> rfl

theorem leNat_two {n : Nat} (hn : n < 2 ^ 16) : leNat (leBytes 2 n) = n := leNat_leBytes_of_lt hn

/-- The first byte holds two values of 4 bits. -/
theorem nibbles (a b : UInt8) :
    ((a &&& 0x0F : UInt8) ||| (b <<< 4 : UInt8)) &&& 0x0F = (a &&& 0x0F : UInt8) ∧
      ((a &&& 0x0F : UInt8) ||| (b <<< 4 : UInt8)) >>> 4 = (b &&& 0x0F : UInt8) := by
  have hall : ∀ a b : BitVec 8, ((a &&& 0x0F#8) ||| (b <<< 4)) &&& 0x0F#8 = a &&& 0x0F#8 ∧
      ((a &&& 0x0F#8) ||| (b <<< 4)) >>> 4 = b &&& 0x0F#8 := by
    intro a b
    constructor <;> ext i hi <;> simp <;> interval_cases i <;> simp
  obtain ⟨hlow, hhigh⟩ := hall a.toBitVec b.toBitVec
  exact ⟨UInt8.toBitVec_inj.1 hlow, UInt8.toBitVec_inj.1 hhigh⟩

/-- **Every field reads back.** -/
structure ReadsBack (build : Build) (h : Header) (checksum : Nat) (payload : List UInt8)
    (f : Frame) : Prop where
  ifType : f.ifType = (h.ifType &&& 0x0F : UInt8)
  ifNum : f.ifNum = (h.ifNum &&& 0x0F : UInt8)
  flags : f.flags = h.flags
  len : f.len = h.len.toNat
  offset : f.offset = h.offset.toNat
  checksum : f.checksum = checksum
  seqNum : f.seqNum = h.seqNum.toNat
  pktType : f.pktType build = h.pktType

theorem readsBack (hchecksum : checksum < 2 ^ 16) :
    ReadsBack build h checksum payload ⟨h.bytes build checksum ++ payload, received⟩ where
  ifType := (nibbles h.ifType h.ifNum).1
  ifNum := (nibbles h.ifType h.ifNum).2
  flags := rfl
  len := leNat_two h.len.toNat_lt
  offset := leNat_two h.offset.toNat_lt
  checksum := leNat_two hchecksum
  seqNum := leNat_two h.seqNum.toNat_lt
  pktType := by
    unfold Frame.pktType Header.bytes Build.headerSize
    cases build.pktNumDebug <;> rfl

theorem clearChecksum_bytes :
    (Frame.mk (h.bytes build checksum ++ payload) received).clearChecksum =
    ⟨plain build h payload, received⟩ := by
  unfold Frame.clearChecksum plain Header.bytes
  simp [leBytes]

end RoundTrip

end EspHostedOpen.RxFrames
