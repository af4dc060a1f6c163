import EspHostedOpen.Link.UartFrames

/-!
# A packet on the UART, whole and damaged

A packet whose header says where its payload stands and how long it is is one frame for either
receive loop. It stays one frame if another byte than those of `len` and `offset` is damaged; the
checksum tells that this happened.
-/

namespace EspHostedOpen.RxFrames

open ByteCodec Framing

/-- The header says where the payload stands and how long it is, and the scratch buffer holds
both. -/
structure Framed (build : Build) (limit : Nat) (h : Header) (payload : List UInt8) : Prop where
  len : h.len.toNat = payload.length
  offset : h.offset.toNat = build.headerSize
  limit : payload.length + build.headerSize ≤ limit

section Whole

variable {build : Build} {limit : Nat} {h : Header} {payload : List UInt8}

/-- The checksum that `packet` fills in. -/
def Header.sum (build : Build) (h : Header) (payload : List UInt8) : Nat :=
  if build.checksum then (computeChecksum (plain build h payload)
    (plain build h payload).length).toNat else 0

theorem packet_eq (build : Build) (h : Header) (payload : List UInt8) :
    packet build h payload = h.bytes build (h.sum build payload) ++ payload := by
  unfold packet Header.sum plain
  split <;> rfl

theorem sum_lt (build : Build) (h : Header) (payload : List UInt8) :
    h.sum build payload < 2 ^ 16 := by
  unfold Header.sum
  split
  · exact UInt16.toNat_lt _
  · decide

theorem length_packet (build : Build) (h : Header) (payload : List UInt8) :
    (packet build h payload).length = build.headerSize + payload.length := by
  rw [packet_eq, List.length_append, length_bytes]

theorem length_plain (build : Build) (h : Header) (payload : List UInt8) :
    (plain build h payload).length = build.headerSize + payload.length := by
  rw [plain, List.length_append, length_bytes]

/-- The packet, as the receive loop finds it in its scratch buffer. -/
def whole (build : Build) (h : Header) (payload : List UInt8) : Frame :=
  ⟨packet build h payload, (packet build h payload).length⟩

theorem readsBack_whole (build : Build) (h : Header) (payload : List UInt8) :
    ReadsBack build h (h.sum build payload) payload (whole build h payload) := by
  rw [whole, packet_eq]
  exact readsBack (sum_lt build h payload)

theorem clearChecksum_whole (build : Build) (h : Header) (payload : List UInt8) :
    (whole build h payload).clearChecksum =
      ⟨plain build h payload, (packet build h payload).length⟩ := by
  rw [whole, packet_eq]
  exact clearChecksum_bytes

/-- Where the fields that the loop looks at fit, a string of the length of a packet is one frame. -/
theorem frames_of_fields (hframed : Framed build limit h payload) {got : List UInt8}
    (hlen : (Frame.mk got 0).len = h.len.toNat) (hoffset : (Frame.mk got 0).offset = h.offset.toNat)
    (hlength : got.length = build.headerSize + payload.length) :
    (uartReader build limit).Frames got ⟨got, got.length⟩ := by
  refine frames_of_size ?_
  have hlimit := hframed.limit
  rw [hlength, frameSize, if_neg, hlen, hframed.len]
  rw [hlen, hoffset, hframed.len, hframed.offset]
  omega

theorem frames_packet (hframed : Framed build limit h payload) :
    (uartReader build limit).Frames (packet build h payload) (whole build h payload) :=
  frames_of_fields hframed (readsBack_whole build h payload).len
    (readsBack_whole build h payload).offset
    (length_packet build h payload)

/-- A frame that is as long as it says is read as a whole. -/
theorem uartRead_accepted {f : Frame} {n : Nat} (hlen : f.len = n)
    (hoffset : f.offset = build.headerSize)
    (hreceived : f.received = build.headerSize + n) (hlimit : n + build.headerSize ≤ bufferSize) :
    uartRead build f = .accepted := by
  rw [uartRead, hlen, hoffset, hreceived, if_neg (by omega), if_neg (by omega), if_neg (by omega),
    if_neg (by omega)]

theorem uartRead_whole (hframed : Framed build bufferSize h payload) :
    uartRead build (whole build h payload) = .accepted :=
  have hback := readsBack_whole build h payload
  uartRead_accepted (hback.len.trans hframed.len) (hback.offset.trans hframed.offset)
    (length_packet build h payload) hframed.limit

theorem checksumOk_whole (hframed : Framed build limit h payload) :
    (whole build h payload).checksumOk build
    ((whole build h payload).len + (whole build h payload).offset) = true := by
  have hback := readsBack_whole build h payload
  have hsize : (whole build h payload).len + (whole build h payload).offset =
    (plain build h payload).length := by
    rw [hback.len, hback.offset, hframed.len, hframed.offset, length_plain, Nat.add_comm]
  rw [hsize, Frame.checksumOk, hback.checksum, clearChecksum_whole, Header.sum]
  cases build.checksum with
  | false => rfl
  | true => exact beq_self_eq_true _

theorem uartVerdict_whole (hframed : Framed build bufferSize h payload) :
    uartVerdict build (whole build h payload) = .accepted := by
  have hback := readsBack_whole build h payload
  have hok := checksumOk_whole hframed
  rw [hback.offset, hframed.offset] at hok
  rw [uartVerdict, uartRead_whole hframed]
  dsimp only
  rw [hok]
  rfl

/-- What is left of an accepted packet is the packet without its checksum. -/
theorem checked_whole (build : Build) (h : Header) (payload : List UInt8) :
    (whole build h payload).checked build =
      ⟨plain build h payload, (packet build h payload).length⟩ := by
  unfold Frame.checked
  split
  · exact clearChecksum_whole build h payload
  · rename_i hoff
    rw [whole, packet, if_neg hoff]

/-- **The payload comes out** where the header says. -/
theorem payload_bytes (hframed : Framed build limit h payload) {checksum : Nat}
    (hchecksum : checksum < 2 ^ 16)
    (received : Nat) : (Frame.mk (h.bytes build checksum ++ payload) received).payload =
      payload := by
  have hback : ReadsBack build h checksum payload ⟨h.bytes build checksum ++ payload, received⟩ :=
    readsBack hchecksum
  rw [Frame.payload, hback.offset, hback.len, hframed.offset, hframed.len,
    slice_append_right _ _ (Nat.le_of_eq (length_bytes build h checksum)), length_bytes,
      Nat.sub_self, slice_all rfl]

theorem payload_whole (hframed : Framed build limit h payload) : (whole build h payload).payload =
    payload := by
  rw [whole, packet_eq]
  exact payload_bytes hframed (sum_lt build h payload) _

/-- The last byte of the header stands right in front of the payload. -/
theorem pktType_payload_plain (hframed : Framed build limit h payload) (received : Nat) :
    slice ((Frame.mk (plain build h payload) received).offset - 1)
    ((Frame.mk (plain build h payload) received).len + 1)
      (plain build h payload) = h.pktType :: payload := by
  have hback : ReadsBack build h 0 payload ⟨plain build h payload, received⟩ :=
    readsBack (by decide)
  obtain ⟨front, hfront⟩ : ∃ front, h.bytes build 0 = front ++ [h.pktType] := by
    refine ⟨(h.bytes build 0).dropLast, ?_⟩
    unfold Header.bytes
    cases build.pktNumDebug <;> rfl
  have hlength : front.length + 1 = build.headerSize := by
    rw [← length_bytes build h 0, hfront, List.length_append]
    rfl
  rw [hback.offset, hback.len, hframed.offset, hframed.len, plain, hfront, List.append_assoc,
    slice_append_right _ _ (by omega), show build.headerSize - 1 - front.length = 0 by omega]
  exact slice_all rfl

end Whole

/-! ## Damage -/

/-- One byte is another, and it is none of those of `len` and `offset`. -/
inductive Damaged : List UInt8 → List UInt8 → Prop
  | byte (front : List UInt8) {a b : UInt8} (back : List UInt8) (hne : a ≠ b)
    (hplace : front.length < 2 ∨ 6 ≤ front.length) : Damaged (front ++ a :: back)
    (front ++ b :: back)

section Damage

variable {build : Build} {limit : Nat} {h : Header} {payload sent got : List UInt8}

theorem Damaged.length (hdamaged : Damaged sent got) : got.length = sent.length := by
  cases hdamaged
  simp

/-- What does not reach the damaged byte is as it was. -/
theorem slice_damaged {front back : List UInt8} {a b : UInt8} {off n : Nat}
    (happart : front.length < off ∨ off + n ≤ front.length) :
    slice off n (front ++ b :: back) = slice off n (front ++ a :: back) := by
  rcases happart with hlt | hle
  · rw [slice_append_right _ _ (by omega), slice_append_right _ _ (by omega)]
    obtain ⟨k, hk⟩ : ∃ k, off - front.length = k + 1 := ⟨off - front.length - 1, by omega⟩
    rw [hk]
    rfl
  · rw [slice_append_left _ hle, slice_append_left _ hle]

theorem Damaged.fields (hdamaged : Damaged sent got) (received : Nat) :
    (Frame.mk got received).len = (Frame.mk sent received).len ∧
      (Frame.mk got received).offset = (Frame.mk sent received).offset := by
  obtain ⟨front, back, -, hplace⟩ := hdamaged
  constructor
  · exact congrArg leNat (slice_damaged (by omega))
  · exact congrArg leNat (slice_damaged (by omega))

/-- The sum of bytes, as `compute_checksum` takes it. -/
theorem computeChecksum_eq_sum (buf : List UInt8) (len : Nat) :
    computeChecksum buf len = ((buf.take (len % 2 ^ 16)).map UInt8.toUInt16).sum := by
  have hgen : ∀ (l : List UInt8) (acc : UInt16),
      l.foldl (fun checksum b => checksum + b.toUInt16) acc = acc + (l.map UInt8.toUInt16).sum := by
    intro l
    induction l with
    | nil => exact fun acc => (add_zero acc).symm
    | cons b l ih =>
      intro acc
      rw [List.foldl_cons, ih, List.map_cons, List.sum_cons, add_assoc]
  rw [computeChecksum, hgen, zero_add]

/-- **One byte shows in the sum**. -/
theorem computeChecksum_ne {front back : List UInt8} {a b : UInt8} (hne : a ≠ b) {len : Nat}
    (hin : front.length < len % 2 ^ 16) :
    computeChecksum (front ++ b :: back) len ≠ computeChecksum (front ++ a :: back) len := by
  obtain ⟨k, hk⟩ : ∃ k, len % 2 ^ 16 - front.length = k + 1 :=
    ⟨len % 2 ^ 16 - front.length - 1, by omega⟩
  have htake : ∀ c : UInt8, (front ++ c :: back).take (len % 2 ^ 16) = front ++
    c :: back.take k := by
    intro c
    rw [List.take_append, List.take_of_length_le (by omega), hk, List.take_succ_cons]
  rw [computeChecksum_eq_sum, computeChecksum_eq_sum, htake, htake]
  intro heq
  simp only [List.map_append, List.map_cons, List.sum_append, List.sum_cons] at heq
  have hbyte : b.toUInt16 = a.toUInt16 := add_right_cancel (add_left_cancel heq)
  refine hne (UInt8.toNat_inj.1 ?_)
  rw [← UInt8.toNat_toUInt16, ← UInt8.toNat_toUInt16 b, hbyte]

/-- A damaged packet is one frame. -/
theorem frames_damaged (hframed : Framed build limit h payload)
    (hdamaged : Damaged (packet build h payload) got) :
    (uartReader build limit).Frames got ⟨got, got.length⟩ := by
  have hback := readsBack_whole build h payload
  obtain ⟨hlen, hoffset⟩ := hdamaged.fields 0
  exact frames_of_fields hframed (hlen.trans hback.len) (hoffset.trans hback.offset)
    (hdamaged.length.trans (length_packet build h payload))

/-- Clearing the checksum leaves a byte elsewhere where it is. -/
theorem clearChecksum_apart {front : List UInt8} (happart : front.length < 6 ∨ 8 ≤ front.length)
    (back : List UInt8) (received : Nat) : ∃ front' back', front'.length = front.length ∧
      ∀ c, (Frame.mk (front ++ c :: back) received).clearChecksum.buf = front' ++ c :: back' := by
  rcases happart with hlt | hge
  · obtain ⟨k, hk⟩ : ∃ k, 6 - front.length = k + 1 := ⟨5 - front.length, by omega⟩
    obtain ⟨m, hm⟩ : ∃ m, 8 - front.length = m + 1 := ⟨7 - front.length, by omega⟩
    refine ⟨front, back.take k ++ [0, 0] ++ back.drop m, rfl, fun c => ?_⟩
    unfold Frame.clearChecksum
    rw [List.take_append, List.take_of_length_le (by omega), hk, List.take_succ_cons,
      List.drop_append, List.drop_eq_nil_of_le (by omega), hm, List.drop_succ_cons]
    simp
  · refine ⟨front.take 6 ++ [0, 0] ++ front.drop 8, back, ?_, fun c => ?_⟩
    · simp only [List.length_append, List.length_take, List.length_drop, List.length_cons,
        List.length_nil]
      omega
    · unfold Frame.clearChecksum
      rw [List.take_append_of_le_length (by omega), List.drop_append_of_le_length hge]
      simp

/-- A byte of the checksum itself is cleared. -/
theorem clearChecksum_inside {front : List UInt8} (hplace : front.length = 6 ∨ front.length = 7)
    (back : List UInt8) (a b : UInt8) (received : Nat) :
    (Frame.mk (front ++ b :: back) received).clearChecksum.buf =
      (Frame.mk (front ++ a :: back) received).clearChecksum.buf := by
  have hdrop : ∀ c : UInt8, (front ++ c :: back).drop 8 = back.drop (7 - front.length) := by
    intro c
    rw [List.drop_append, List.drop_eq_nil_of_le (by omega),
      show 8 - front.length = 7 - front.length + 1 by omega]
    rfl
  unfold Frame.clearChecksum
  dsimp only
  rw [List.take_append_of_le_length (by omega), List.take_append_of_le_length (by omega),
    hdrop, hdrop]

/-- **The checksum tells** that a byte of the packet is another. -/
theorem checksumOk_damaged (hsum : build.checksum = true) (hframed : Framed build limit h payload)
    (hlimit : limit < 2 ^ 16) (hdamaged : Damaged (packet build h payload) got) :
    (Frame.mk got got.length).checksumOk build (build.headerSize + payload.length) = false := by
  have hback := readsBack_whole build h payload
  have hclear := clearChecksum_whole build h payload
  have hlength := length_packet build h payload
  have hsize : payload.length + build.headerSize ≤ limit := hframed.limit
  have hsumEq : h.sum build payload =
      (computeChecksum (plain build h payload) (build.headerSize + payload.length)).toNat := by
    rw [Header.sum, if_pos hsum, length_plain]
  rw [whole] at hback hclear
  generalize hsent : packet build h payload = sent at hdamaged hback hclear hlength
  obtain ⟨front, back, hne, hplace⟩ := hdamaged
  rename_i a b
  rw [Frame.checksumOk, hsum, Bool.not_true, Bool.false_or, beq_eq_false_iff_ne]
  by_cases hinside : front.length = 6 ∨ front.length = 7
  · -- the sum is the one of the packet, and it is compared with another
    have hbuf := clearChecksum_inside hinside back a b (front ++ b :: back).length
    have hplain : (Frame.mk (front ++ a :: back) (front ++ b :: back).length).clearChecksum.buf =
        plain build h payload := congrArg Frame.buf hclear
    rw [hbuf, hplain, ← hsumEq, ← hback.checksum]
    intro heq
    have hslices : slice 6 2 (front ++ a :: back) = slice 6 2 (front ++ b :: back) := by
      have hlen : (front ++ b :: back).length = (front ++ a :: back).length := by simp
      rw [← leBytes_leNat (slice 6 2 (front ++ a :: back)),
        ← leBytes_leNat (slice 6 2 (front ++ b :: back)),
        length_slice (by have := headerSize_ge build; omega),
          length_slice (by have := headerSize_ge build; omega)]
      exact congrArg (leBytes 2) heq
    have hget : ∀ c : UInt8, (slice 6 2 (front ++ c :: back))[front.length - 6]? = some c := by
      intro c
      rw [slice, List.getElem?_take_of_lt (by omega), List.getElem?_drop,
        show 6 + (front.length - 6) = front.length by omega,
          List.getElem?_append_right (Nat.le_refl _), Nat.sub_self]
      rfl
    exact hne (Option.some.inj
      ((hget a).symm.trans ((congrArg (·[front.length - 6]?) hslices).trans (hget b))))
  · -- the sum is another, and it is compared with the one of the packet
    obtain ⟨front', back', hlen', hbuf⟩ :=
      clearChecksum_apart (by omega : front.length < 6 ∨ 8 ≤ front.length) back
        (front ++ b :: back).length
    have hplain : front' ++ a :: back' = plain build h payload :=
      (hbuf a).symm.trans (congrArg Frame.buf hclear)
    have hsame : (Frame.mk (front ++ b :: back) (front ++ b :: back).length).checksum =
        (Frame.mk (front ++ a :: back) (front ++ a :: back).length).checksum :=
      congrArg leNat (slice_damaged (by omega))
    have hin : front'.length < (build.headerSize + payload.length) % 2 ^ 16 := by
      rw [List.length_append, List.length_cons] at hlength
      rw [Nat.mod_eq_of_lt (by omega)]
      omega
    rw [hbuf, hsame, hback.checksum, hsumEq, ← hplain]
    exact fun heq => computeChecksum_ne hne hin (UInt16.toNat_inj.1 heq)

end Damage

/-! ## On the line -/

/-- What was sent, and what comes in of it. -/
structure Transit {α : Type} (wire : α → List UInt8) where
  sent : α
  got : List UInt8
  intact : Bool
  arrival : if intact then got = wire sent else Damaged (wire sent) got

namespace Transit

variable {α : Type} {wire : α → List UInt8} {build : Build} {limit : Nat} {header : α → Header}
  {payload : α → List UInt8}

/-- What the receive loop finds in its scratch buffer. -/
def arrived (t : Transit wire) : Frame := ⟨t.got, t.got.length⟩

theorem got_eq (t : Transit wire) (h : t.intact = true) : t.got = wire t.sent := by
  have hgot := t.arrival
  rwa [if_pos h] at hgot

theorem damaged (t : Transit wire) (h : t.intact = false) : Damaged (wire t.sent) t.got := by
  have hgot := t.arrival
  rwa [if_neg (by rw [h]; exact Bool.false_ne_true)] at hgot

variable (hwire : ∀ a, wire a = packet build (header a) (payload a))
  (hframed : ∀ a, Framed build limit (header a) (payload a))

include hwire

theorem arrived_eq (t : Transit wire) (h : t.intact = true) :
    t.arrived = whole build (header t.sent) (payload t.sent) := by
  rw [arrived, t.got_eq h, hwire]
  rfl

include hframed

/-- Damaged or not, it is one frame. -/
theorem frames (t : Transit wire) : (uartReader build limit).Frames t.got t.arrived := by
  cases h : t.intact with
  | true =>
    rw [arrived_eq hwire t h, t.got_eq h, hwire]
    exact frames_packet (hframed t.sent)
  | false => exact frames_damaged (hframed t.sent) (hwire t.sent ▸ t.damaged h)

/-- The checksum tells whether it is damaged. -/
theorem checksumOk_iff (hsum : build.checksum = true) (hlimit : limit < 2 ^ 16) (t : Transit wire) :
    t.arrived.checksumOk build (t.arrived.len + t.arrived.offset) = t.intact := by
  cases h : t.intact with
  | true =>
    rw [arrived_eq hwire t h]
    exact checksumOk_whole (hframed t.sent)
  | false =>
    have hdamaged := t.damaged h
    rw [hwire] at hdamaged
    have hback := readsBack_whole build (header t.sent) (payload t.sent)
    have hsize : t.arrived.len + t.arrived.offset = build.headerSize + (payload t.sent).length := by
      rw [arrived, (hdamaged.fields _).1, (hdamaged.fields _).2, Nat.add_comm]
      exact congrArg₂ (· + ·) (hback.offset.trans (hframed t.sent).offset)
        (hback.len.trans (hframed t.sent).len)
    rw [hsize]
    exact checksumOk_damaged hsum (hframed t.sent) hlimit hdamaged

/-- Damaged or not, it says where its payload stands and how long it is. -/
theorem arrived_fields (t : Transit wire) :
    t.arrived.len = (payload t.sent).length ∧ t.arrived.offset = build.headerSize ∧
      t.arrived.received = build.headerSize + (payload t.sent).length := by
  have hback := readsBack_whole build (header t.sent) (payload t.sent)
  have hlength := length_packet build (header t.sent) (payload t.sent)
  have hlen := hback.len.trans (hframed t.sent).len
  have hoffset := hback.offset.trans (hframed t.sent).offset
  cases h : t.intact with
  | true =>
    rw [arrived_eq hwire t h]
    exact ⟨hlen, hoffset, hlength⟩
  | false =>
    have hdamaged := t.damaged h
    rw [hwire] at hdamaged
    refine ⟨(hdamaged.fields _).1.trans hlen, (hdamaged.fields _).2.trans hoffset, ?_⟩
    exact hdamaged.length.trans hlength

end Transit

end EspHostedOpen.RxFrames
