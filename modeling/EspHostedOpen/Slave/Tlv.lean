import EspHostedOpen.Lib.Overlay
import EspHostedOpen.Lib.Records
import EspHostedOpen.Proto.Messages

/-!
# The TLVs of a request (`protocomm_pserial.c`)

`rpc_req_handler` takes a request apart with `parse_tlv`, and `compose_tlv` puts a response together
in the same format. `parse_tlv` does not compare the length it reads with what is left: `total_len`
is unsigned and wraps, and the loop goes on behind the request. So addresses and lengths are of 32
bits here, an address is relative to the request, and the memory behind the request is arbitrary.
-/

namespace EspHostedOpen.Tlv

open ByteCodec Records

def epnameMax : Nat := 16                        -- `EPNAME_MAX`
def tlvEpname : UInt8 := 1                       -- `PROTO_PSER_TLV_T_EPNAME`
def tlvData : UInt8 := 2                         -- `PROTO_PSER_TLV_T_DATA`

/-- `strlen`. -/
def strlen (s : List UInt8) : Nat := (s.takeWhile (· != 0)).length

/-! ## The parser -/

/-- The variables of `rpc_req_handler`. For the statements only: what was read, and whether
`total_len` has wrapped. -/
structure Parser where
  buf : UInt32 := 0
  totalLen : UInt32
  epname : List UInt8 := List.replicate epnameMax 0
  data : Option UInt32 := none
  dataLen : UInt32 := 0
  reads : List (UInt32 × Nat) := []
  wrapped : Bool := false
  deriving DecidableEq, Repr

/-- The memory, at an address. -/
abbrev Memory := UInt32 → UInt8

/-- A request of `s` with `beyond` behind it. -/
def memory (s : List UInt8) (beyond : Nat → UInt8) : Memory := fun a => byteAt s beyond a.toNat

/-- The bytes behind a pointer. -/
def Memory.bytes (m : Memory) (ptr : UInt32) (len : Nat) : List UInt8 :=
  (List.range len).map fun i => m (ptr + UInt32.ofNat i)

/-- What `parse_tlv` returns through its pointers. -/
structure Parsed where
  type : UInt8
  len : UInt32
  ptr : UInt32

/-- `parse_tlv`. `none` is `ESP_FAIL`. -/
def parseTlv (m : Memory) (p : Parser) : Option (Parsed × Parser) :=
  if p.totalLen = 0 then none
  else
    let len := (leNat (m.bytes (p.buf + 1) 2)).toUInt32
    some (⟨m p.buf, len, p.buf + 3⟩,
      { p with
        buf := p.buf + 3 + len
        totalLen := p.totalLen - (len + 3)
        reads := p.reads ++ [(p.buf, 3)]
        wrapped := p.wrapped || decide (p.totalLen < len + 3) })

/-- How one turn of the loop ends. -/
inductive Turn
  | again (p : Parser)
  | done (p : Parser)                            -- `parse_tlv` has failed
  | failed (p : Parser)                          -- `return ESP_FAIL`
  deriving DecidableEq, Repr

def Turn.parser : Turn → Parser
  | .again p | .done p | .failed p => p

/-- One turn of the loop of `rpc_req_handler`. -/
def turn (m : Memory) (p : Parser) : Turn :=
  match parseTlv m p with
  | none => .done p
  | some (⟨type, len, ptr⟩, p) =>
    if type = tlvEpname then
      if len.toNat ≥ epnameMax - 1 then .failed p
      else .again { p with
        epname := copyFront (m.bytes ptr len.toNat) p.epname
        reads := p.reads ++ [(ptr, len.toNat)] }
    else if type = tlvData then .again { p with data := some ptr, dataLen := len }
    else .failed p

/-- The loop, for `fuel` turns at most. -/
def parse (m : Memory) : Nat → Parser → Option Turn
  | 0, _ => none
  | fuel + 1, p =>
    match turn m p with
    | .again p => parse m fuel p
    | t => some t

/-- What `rpc_req_handler` passes to `protocomm_req_handle`. -/
structure Request where
  epname : List UInt8
  data : List UInt8
  deriving DecidableEq, Repr

/-- `rpc_req_handler` behind its loop, up to the call of `protocomm_req_handle`, which reads the
data. -/
def accept (m : Memory) : Turn → Parser × Except EspErr Request
  | .failed p | .again p => (p, .error espFail)
  | .done p =>
    match p.data with
    | none => (p, .error espFail)
    | some data =>
      if p.dataLen = 0 ∨ strlen p.epname = 0 then (p, .error espFail)
      else
        ({ p with reads := p.reads ++ [(data, p.dataLen.toNat)] },
          .ok ⟨p.epname.take (strlen p.epname), m.bytes data p.dataLen.toNat⟩)

/-- `rpc_req_handler`, up to the call of `protocomm_req_handle`. -/
def rpcReqHandler (m : Memory) (fuel : Nat) (inLen : UInt32) : Option
    (Parser × Except EspErr Request) :=
  (parse m fuel { totalLen := inLen }).map (accept m)

/-! ## What is asked of it -/

/-- The format: a type, a length of two bytes, the value. -/
def tlv : Format := ⟨3, by decide, fun header => leNat (header.drop 1)⟩

/-- All that was read lies in the first `n` bytes. -/
def InBounds (n : Nat) (p : Parser) : Prop := ∀ a ∈ p.reads, ∀ i < a.2,
    (a.1 + UInt32.ofNat i).toNat < n

/-- **Total and in bounds**: the loop ends within `n/3 + 1` turns, nothing outside the request is
read, `total_len` does not wrap, and what is not a sequence of complete TLVs is rejected. -/
structure Safe (s : List UInt8) (beyond : Nat → UInt8) : Prop where
  safe : ∃ r, rpcReqHandler (memory s beyond) (s.length / 3 + 1) s.length.toUInt32 = some r ∧
    InBounds s.length r.1 ∧ r.1.wrapped = false ∧ (¬tlv.Complete s → r.2 = .error espFail)

/-- A TLV that the loop goes on from. -/
def Known (r : Record) : Prop :=
  (r.header.head? = some tlvEpname ∧ r.value.length < epnameMax - 1) ∨ r.header.head? = some tlvData

/-- Every TLV that the loop comes to is complete: up to the end, or up to one that it rejects. -/
inductive Reached : List UInt8 → Prop
  | nil : Reached []
  | known {bytes rest : List UInt8} {r : Record} (hhead : tlv.head? bytes = some (r, rest))
  (hknown : Known r)
    (hrest : Reached rest) : Reached bytes
  | rejected {bytes rest : List UInt8} {r : Record} (hhead : tlv.head? bytes = some (r, rest))
    (hunknown : ¬Known r) : Reached bytes

/-! ## Where the parser stands -/

/-- `n - pos` bytes are left, from `pos` on. -/
structure At (s : List UInt8) (pos : Nat) (p : Parser) : Prop where
  size : s.length < 4294967296
  le : pos ≤ s.length
  buf : p.buf.toNat = pos
  left : p.totalLen.toNat = s.length - pos

section Spec

variable {s : List UInt8} (beyond : Nat → UInt8) {pos : Nat} {p : Parser}

theorem toNat_add_small {a : UInt32} {n m : Nat} (ha : a.toNat = n) (hsum : n + m < 4294967296) :
    (a + UInt32.ofNat m).toNat = n + m := by
  rw [UInt32.toNat_add, UInt32.toNat_ofNat', ha]
  omega

theorem bytes_memory (hsize : s.length < 4294967296) {ptr : UInt32} {n : Nat}
    (hptr : ptr.toNat + n ≤ s.length) :
    (memory s beyond).bytes ptr n = slice ptr.toNat n s := by
  rw [← map_byteAt s beyond hptr]
  refine List.map_congr_left fun i hi => ?_
  rw [List.mem_range] at hi
  rw [memory, toNat_add_small rfl (by omega)]

theorem leNat_two_lt (bytes : List UInt8) (h : bytes.length = 2) : leNat bytes < 65536 := by
  have hlt := leNat_lt bytes
  rwa [h] at hlt

theorem tlv_length_lt (header : List UInt8) (h : header.length = 3) : tlv.length header < 65536 :=
  leNat_two_lt _ (by rw [List.length_drop, h])

/-- What `parse_tlv` finds where the header is inside the request. -/
theorem parseTlv_header (hat : At s pos p) (hheader : pos + 3 ≤ s.length) :
    ∃ type len, (slice pos 3 s).head? = some type ∧ len.toNat = tlv.length (slice pos 3 s) ∧
      len.toNat < 65536 ∧ parseTlv (memory s beyond) p = some (⟨type, len, p.buf + 3⟩,
        { p with
          buf := p.buf + 3 + len
          totalLen := p.totalLen - (len + 3)
          reads := p.reads ++ [(p.buf, 3)]
          wrapped := p.wrapped || decide (p.totalLen < len + 3) }) := by
  have hsize := hat.size
  have hptr : (p.buf + 1).toNat = pos + 1 := toNat_add_small (m := 1) hat.buf (by omega)
  have hbytes : (memory s beyond).bytes (p.buf + 1) 2 = (slice pos 3 s).drop 1 := by
    rw [bytes_memory beyond hsize (by omega), hptr, slice, slice, List.drop_take, List.drop_drop]
  have hlt := tlv_length_lt (slice pos 3 s) (length_slice hheader)
  have hlen : (leNat ((memory s beyond).bytes (p.buf + 1) 2)).toUInt32.toNat =
    tlv.length (slice pos 3 s) := by
    rw [hbytes]
    exact UInt32.toNat_ofNat_of_lt' (Nat.lt_trans hlt (by decide))
  refine ⟨memory s beyond p.buf, _, ?_, hlen, by rwa [hlen], ?_⟩
  · have hin : 0 < (s.drop pos).length := by
      rw [List.length_drop]
      omega
    have hbyte := byteAt_drop s beyond pos hin
    rw [Nat.add_zero] at hbyte
    rw [memory, hat.buf, hbyte, slice, List.head?_take, if_neg (by decide), List.head?_eq_getElem?,
      List.getElem?_eq_getElem hin]
  · have hleft : p.totalLen ≠ 0 := by
      intro hzero
      have hnat := hat.left
      rw [hzero] at hnat
      have hz : (0 : UInt32).toNat = 0 := rfl
      omega
    rw [parseTlv, if_neg hleft]

/-- A complete TLV: the pointer is behind it, the length is what is left. -/
theorem parseTlv_complete (hat : At s pos p) {r : Record} {rest : List UInt8}
    (hhead : tlv.head? (s.drop pos) = some (r, rest)) :
    ∃ type len q, r.header.head? = some type ∧ len.toNat = r.value.length ∧
      parseTlv (memory s beyond) p = some (⟨type, len, p.buf + 3⟩, q) ∧
      At s (pos + (3 + r.value.length)) q ∧ rest = s.drop (pos + (3 + r.value.length)) ∧
      q.epname = p.epname ∧ q.data = p.data ∧ q.dataLen = p.dataLen ∧ q.reads = p.reads ++
        [(p.buf, 3)] ∧
      q.wrapped = p.wrapped := by
  have hsize := hat.size
  obtain ⟨hbytes, hheaderlen, hvalue⟩ := Format.head?_inv hhead
  have hlen := Format.length_rest hhead
  have hheader3 : r.header.length = 3 := hheaderlen
  rw [List.length_drop] at hlen
  have h3 : tlv.header = 3 := rfl
  have hheader : slice pos 3 s = r.header := by
    rw [slice, hbytes, Record.bytes, List.append_assoc]
    exact List.take_left' hheader3
  obtain ⟨type, len, htype, htlv, hsmall, hparse⟩ := parseTlv_header beyond hat (by omega)
  rw [hheader] at htype htlv
  rw [← hvalue] at htlv
  have hsum : (len + 3).toNat = r.value.length + 3 := toNat_add_small (m := 3) htlv (by omega)
  have hleft := hat.left
  have hfit : ¬p.totalLen < len + 3 := by
    rw [UInt32.lt_iff_toNat_lt, hsum]
    omega
  refine ⟨type, len, _, htype, htlv, hparse, ⟨hsize, by omega, ?_, ?_⟩, ?_, rfl, rfl, rfl, rfl, ?_⟩
  · have hptr : (p.buf + 3).toNat = pos + 3 := toNat_add_small (m := 3) hat.buf (by omega)
    dsimp only
    rw [UInt32.toNat_add, hptr, htlv]
    omega
  · dsimp only
    rw [UInt32.toNat_sub_of_le _ _ (UInt32.not_lt.1 hfit), hsum, hleft]
    omega
  · have hsplit : s.drop (pos + (3 + r.value.length)) = (s.drop pos).drop (3 + r.value.length) := by
      rw [List.drop_drop]
    rw [hsplit, hbytes]
    refine (List.drop_left' ?_).symm
    rw [Record.bytes, List.length_append, hheader3]
  · dsimp only
    rw [decide_eq_false hfit, Bool.or_false]

/-- The bytes behind the pointer are the value. -/
theorem bytes_value (hat : At s pos p) {r : Record} {rest : List UInt8}
    (hhead : tlv.head? (s.drop pos) = some (r, rest)) :
    (memory s beyond).bytes (p.buf + 3) r.value.length = r.value := by
  have hsize := hat.size
  have h3 : tlv.header = 3 := rfl
  have hlen := Format.length_rest hhead
  obtain ⟨hbytes, hheader, -⟩ := Format.head?_inv hhead
  rw [List.length_drop] at hlen
  have hptr : (p.buf + 3).toNat = pos + 3 := toNat_add_small (m := 3) hat.buf (by omega)
  have hsplit : s.drop (pos + 3) = (s.drop pos).drop 3 := List.drop_drop.symm
  rw [bytes_memory beyond hsize (by omega), hptr, slice, hsplit, hbytes, Record.bytes,
    List.append_assoc, List.drop_left' (hheader.trans h3), List.take_left]

/-- At the end of the request the loop is left. -/
theorem turn_end (hat : At s pos p) (hend : s.length ≤ pos) :
    turn (memory s beyond) p = .done p := by
  have hleft := hat.left
  have hzero : p.totalLen = 0 :=
    UInt32.toNat_inj.1 (by rw [hleft]; exact Nat.sub_eq_zero_of_le hend)
  rw [turn, parseTlv, if_pos hzero]

/-! ## Complete TLVs -/

/-- Nothing has gone wrong so far, and the data slice lies in the request. -/
structure Good (s : List UInt8) (p : Parser) : Prop where
  inBounds : InBounds s.length p
  wrapped : p.wrapped = false
  data : ∀ d ∈ p.data, d.toNat + p.dataLen.toNat ≤ s.length

theorem inBounds_snoc {n : Nat} {p q : Parser} (h : InBounds n p) (hn : n < 4294967296)
    {a : UInt32} {len : Nat}
    (hreads : q.reads = p.reads ++ [(a, len)]) (hin : a.toNat + len ≤ n) : InBounds n q := by
  intro b hb i hi
  rw [hreads, List.mem_append, List.mem_singleton] at hb
  rcases hb with hb | rfl
  · exact h b hb i hi
  · have hi' : i < len := hi
    have hsum : (a + UInt32.ofNat i).toNat = a.toNat + i := toNat_add_small rfl (by omega)
    exact hsum.trans_lt (by omega)

/-- One turn over a complete TLV reads inside it; it goes on exactly if it knows the TLV. -/
theorem turn_complete (hat : At s pos p) (hgood : Good s p) {r : Record} {rest : List UInt8}
    (hhead : tlv.head? (s.drop pos) = some (r, rest)) :
    (Known r ∧ ∃ q, turn (memory s beyond) p = .again q ∧ At s
    (pos + (3 + r.value.length)) q ∧ Good s q) ∨
      (¬Known r ∧ ∃ q, turn (memory s beyond) p = .failed q ∧ Good s q) := by
  obtain ⟨type, len, q, htype, hlen, hparse, hat', -, -, hdata, hdataLen, hreads, hwrapped⟩ :=
    parseTlv_complete beyond hat hhead
  have hsize := hat.size
  have hle := hat'.le
  have hptr : (p.buf + 3).toNat = pos + 3 := toNat_add_small (m := 3) hat.buf (by omega)
  have hbounds : InBounds s.length q :=
    inBounds_snoc hgood.inBounds hsize hreads (by rw [hat.buf]; omega)
  have hgood' : Good s q := by
    refine ⟨hbounds, hwrapped.trans hgood.wrapped, ?_⟩
    rw [hdata, hdataLen]
    exact hgood.data
  have hne : tlvData ≠ tlvEpname := by decide
  unfold turn Known
  rw [hparse, htype]
  simp only [Option.some.injEq]
  by_cases hep : type = tlvEpname
  · subst hep
    simp only [if_true, hlen, true_and, hne.symm, or_false]
    by_cases hlong : r.value.length ≥ epnameMax - 1
    · exact .inr ⟨Nat.not_lt.2 hlong, q, if_pos hlong, hgood'⟩
    · refine .inl ⟨Nat.not_le.1 hlong, _, if_neg hlong, ⟨hsize, hle, hat'.buf, hat'.left⟩, ?_,
        hgood'.wrapped, hgood'.data⟩
      exact inBounds_snoc hbounds hsize rfl (by rw [hptr]; omega)
  · simp only [hep, if_false, false_and, false_or]
    by_cases hdat : type = tlvData
    · refine .inl ⟨hdat, _, if_pos hdat, ⟨hsize, hle, hat'.buf, hat'.left⟩, hbounds,
        hgood'.wrapped, ?_⟩
      intro d hd
      obtain rfl := Option.mem_some_iff.1 hd
      dsimp only
      rw [hptr, hlen]
      omega
    · exact .inr ⟨hdat, q, if_neg hdat, hgood'⟩

/-- **Forward**: where every TLV reached is complete, the loop ends in time and nothing goes
wrong. -/
theorem parse_reached {bytes : List UInt8} (h : Reached bytes) :
    ∀ {pos p}, bytes = s.drop pos → At s pos p → Good s p → ∀ fuel ≥ bytes.length / 3 + 1,
      ∃ t, parse (memory s beyond) fuel p = some t ∧ Good s t.parser ∧
        ((∃ q, t = .failed q) ∨ tlv.Complete bytes) := by
  induction h with
  | nil =>
    intro pos p hbytes hat hgood fuel hfuel
    obtain ⟨n, rfl⟩ : ∃ n, fuel = n + 1 := ⟨fuel - 1, by omega⟩
    have hdone := turn_end beyond hat (List.drop_eq_nil_iff.1 hbytes.symm)
    refine ⟨.done p, ?_, hgood, .inr (congrArg Prod.snd Format.records_nil)⟩
    rw [parse, hdone]
  | known hhead hknown _ ih =>
    intro pos p hbytes hat hgood fuel hfuel
    obtain ⟨n, rfl⟩ : ∃ n, fuel = n + 1 := ⟨fuel - 1, by omega⟩
    have hlen := Format.length_rest hhead
    have h3 : tlv.header = 3 := rfl
    subst hbytes
    obtain ⟨-, q, hturn, hat', hgood'⟩ | ⟨hno, -⟩ := turn_complete beyond hat hgood hhead
    · obtain ⟨-, -, -, -, -, -, -, hrest, -⟩ := parseTlv_complete beyond hat hhead
      obtain ⟨t, ht, hgood'', hend⟩ := ih hrest hat' hgood' n (by omega)
      refine ⟨t, ?_, hgood'', hend.imp_right fun hcomplete => ?_⟩
      · rw [parse, hturn]
        exact ht
      · rw [Format.Complete, Format.records_some hhead]
        exact hcomplete
    · exact absurd hknown hno
  | rejected hhead hunknown =>
    intro pos p hbytes hat hgood fuel hfuel
    obtain ⟨n, rfl⟩ : ∃ n, fuel = n + 1 := ⟨fuel - 1, by omega⟩
    subst hbytes
    obtain ⟨hknown, -⟩ | ⟨-, q, hturn, hgood'⟩ := turn_complete beyond hat hgood hhead
    · exact absurd hknown hunknown
    · refine ⟨.failed q, ?_, hgood', .inl ⟨q, rfl⟩⟩
      rw [parse, hturn]

/-! ## TLVs that are not -/

/-- Something has gone wrong. -/
def Bad (s : List UInt8) (p : Parser) : Prop := ¬InBounds s.length p ∨ p.wrapped = true

/-- Later reads and subtractions do not undo it. -/
def Extends (p q : Parser) : Prop := p.reads <+: q.reads ∧ (p.wrapped = true → q.wrapped = true)

theorem Bad.extends {q : Parser} (h : Bad s p) (hext : Extends p q) : Bad s q := by
  rcases h with hreads | hwrapped
  · exact .inl fun hin => hreads fun a ha => hin a (hext.1.subset ha)
  · exact .inr (hext.2 hwrapped)

theorem Extends.trans {q r : Parser} (h : Extends p q) (h' : Extends q r) : Extends p r :=
  ⟨h.1.trans h'.1, fun hwrapped => h'.2 (h.2 hwrapped)⟩

theorem parseTlv_extends {m : Memory} {q : Parser} {parsed : Parsed}
    (h : parseTlv m p = some (parsed, q)) :
    (p.reads ++ [(p.buf, 3)]) <+: q.reads ∧ (p.wrapped = true → q.wrapped = true) := by
  unfold parseTlv at h
  split at h
  · cases h
  · cases h
    exact ⟨List.prefix_rfl, fun hwrapped => by rw [hwrapped]; rfl⟩

/-- What a turn adds to what `parse_tlv` has done. -/
theorem turn_extends_parsed {m : Memory} {q : Parser} {parsed : Parsed}
    (h : parseTlv m p = some (parsed, q)) :
    Extends q (turn m p).parser := by
  unfold turn
  rw [h]
  dsimp only
  split_ifs
  · exact ⟨List.prefix_rfl, id⟩
  · exact ⟨List.prefix_append _ _, id⟩
  · exact ⟨List.prefix_rfl, id⟩
  · exact ⟨List.prefix_rfl, id⟩

theorem turn_extends (m : Memory) (p : Parser) : Extends p (turn m p).parser := by
  cases h : parseTlv m p with
  | none =>
    have hturn : turn m p = .done p := by rw [turn, h]
    rw [hturn]
    exact ⟨List.prefix_rfl, id⟩
  | some r =>
    obtain ⟨parsed, q⟩ := r
    obtain ⟨hreads, hwrapped⟩ := parseTlv_extends h
    exact Extends.trans ⟨(List.prefix_append _ _).trans hreads, hwrapped⟩ (turn_extends_parsed h)

theorem parse_extends {m : Memory} {fuel : Nat} {t : Turn} (h : parse m fuel p = some t) :
    Extends p t.parser := by
  induction fuel generalizing p with
  | zero => cases h
  | succ fuel ih =>
    have hturn := turn_extends m p
    rw [parse] at h
    cases hq : turn m p with
    | again q =>
      rw [hq] at h hturn
      exact hturn.trans (ih h)
    | done q | failed q =>
      rw [hq] at h hturn
      cases h
      exact hturn

theorem accept_extends (m : Memory) (t : Turn) : Extends t.parser (accept m t).1 := by
  cases t with
  | failed q | again q => exact ⟨List.prefix_rfl, id⟩
  | done q =>
    unfold accept
    dsimp only
    split
    · exact ⟨List.prefix_rfl, id⟩
    · split
      · exact ⟨List.prefix_rfl, id⟩
      · exact ⟨List.prefix_append _ _, id⟩

/-- A TLV that is not complete: its header is read beyond the end, or the subtraction wraps. -/
theorem turn_incomplete (hat : At s pos p) (hmore : s.drop pos ≠ [])
    (hhead : tlv.head? (s.drop pos) = none) :
    Bad s (turn (memory s beyond) p).parser := by
  have hsize := hat.size
  have hlt : pos < s.length := by
    rw [Ne, List.drop_eq_nil_iff] at hmore
    exact Nat.not_le.1 hmore
  rw [Format.head?_eq_none_iff, List.length_drop] at hhead
  by_cases hheader : pos + 3 ≤ s.length
  · obtain ⟨type, len, -, hlen, hsmall, hparse⟩ := parseTlv_header beyond hat hheader
    have hsum : (len + 3).toNat = len.toNat + 3 := toNat_add_small (m := 3) rfl (by omega)
    have hleft := hat.left
    have hslice : (s.drop pos).take tlv.header = slice pos 3 s := rfl
    rw [hslice, ← hlen] at hhead
    have h3 : tlv.header = 3 := rfl
    have hwraps : p.totalLen < len + 3 := by
      rw [UInt32.lt_iff_toNat_lt, hsum]
      omega
    refine Bad.extends (.inr ?_) (turn_extends_parsed hparse)
    dsimp only
    rw [decide_eq_true hwraps, Bool.or_true]
  · -- the header is cut short
    cases hparse : parseTlv (memory s beyond) p with
    | none =>
      unfold parseTlv at hparse
      split at hparse
      · rename_i hzero
        have hleft := hat.left
        rw [hzero] at hleft
        have hz : (0 : UInt32).toNat = 0 := rfl
        omega
      · cases hparse
    | some r =>
      obtain ⟨parsed, q⟩ := r
      refine Bad.extends (.inl fun hin => ?_) (turn_extends_parsed hparse)
      have hread :=
        hin (p.buf, 3) ((parseTlv_extends hparse).1.subset (by simp)) (s.length - pos) (by
        dsimp only
        omega)
      dsimp only at hread
      rw [toNat_add_small hat.buf (by omega)] at hread
      omega

/-- **Backward**: where the loop comes to a TLV that is not complete, something goes wrong. -/
theorem parse_not_reached {fuel : Nat} : ∀ {pos p t}, ¬Reached (s.drop pos) →
    At s pos p → Good s p →
    parse (memory s beyond) fuel p = some t → Bad s t.parser := by
  induction fuel with
  | zero => exact fun _ _ _ h => (by cases h)
  | succ fuel ih =>
    intro pos p t hno hat hgood h
    rw [parse] at h
    cases hhead : tlv.head? (s.drop pos) with
    | none =>
      have hmore : s.drop pos ≠ [] := fun hnil => hno (hnil ▸ .nil)
      have hbad := turn_incomplete beyond hat hmore hhead
      cases hturn : turn (memory s beyond) p with
      | again q =>
        rw [hturn] at h hbad
        exact hbad.extends (parse_extends h)
      | done q | failed q =>
        rw [hturn] at h hbad
        cases h
        exact hbad
    | some hr =>
      obtain ⟨r, rest⟩ := hr
      obtain ⟨hknown, q, hturn, hat', hgood'⟩ | ⟨hunknown, -⟩ :=
        turn_complete beyond hat hgood hhead
      · rw [hturn] at h
        obtain ⟨-, -, -, -, -, -, -, hrest, -⟩ := parseTlv_complete beyond hat hhead
        exact ih (fun hreached => hno (.known hhead hknown (hrest ▸ hreached))) hat' hgood' h
      · exact absurd (.rejected hhead hunknown) hno

theorem at_start (hsize : s.length < 4294967296) : At s 0 { totalLen := s.length.toUInt32 } :=
  ⟨hsize, Nat.zero_le _, rfl, UInt32.toNat_ofNat_of_lt' hsize⟩

theorem good_start (s : List UInt8) (n : UInt32) : Good s { totalLen := n } :=
  ⟨nofun, rfl, nofun⟩

/-- The data slice is read in bounds too. -/
theorem accept_good (hsize : s.length < 4294967296) {m : Memory} {t : Turn} (h : Good s t.parser) :
    InBounds s.length (accept m t).1 ∧ (accept m t).1.wrapped = false := by
  cases t with
  | failed q | again q => exact ⟨h.inBounds, h.wrapped⟩
  | done q =>
    unfold accept
    dsimp only
    split
    · exact ⟨h.inBounds, h.wrapped⟩
    · rename_i d hd
      split
      · exact ⟨h.inBounds, h.wrapped⟩
      · exact ⟨inBounds_snoc h.inBounds hsize rfl (h.data d hd), h.wrapped⟩

/-- **When the parser is total and in bounds**: exactly when every TLV it comes to is complete. -/
theorem parser_safe_iff (s : List UInt8) (beyond : Nat → UInt8) (hsize : s.length < 4294967296) :
    Safe s beyond ↔ Reached s := by
  constructor
  · rintro ⟨r, hrun, hin, hwrapped, -⟩
    by_contra hno
    obtain ⟨t, ht, rfl⟩ := Option.map_eq_some_iff.1 hrun
    have hbad := parse_not_reached beyond (by rwa [List.drop_zero]) (at_start hsize)
      (good_start s _) ht
    rcases hbad.extends (accept_extends (memory s beyond) t) with hreads | hwraps
    · exact hreads hin
    · exact Bool.false_ne_true (hwrapped.symm.trans hwraps)
  · intro h
    obtain ⟨t, ht, hgood, hend⟩ :=
      parse_reached beyond h (by rw [List.drop_zero]) (at_start hsize) (good_start s _) _
        (Nat.le_refl _)
    obtain ⟨hin, hwrapped⟩ := accept_good hsize (m := memory s beyond) hgood
    refine ⟨accept (memory s beyond) t, ?_, hin, hwrapped, fun hincomplete => ?_⟩
    · rw [rpcReqHandler, ht]
      rfl
    · rcases hend with ⟨q, rfl⟩ | hcomplete
      · rfl
      · exact absurd hcomplete hincomplete

end Spec

/-- A TLV of one data byte. -/
theorem parser_safe_data : Safe [2, 1, 0, 7] (fun _ => 0) := by
  have hhead : tlv.head? [2, 1, 0, 7] = some (⟨[2, 1, 0], [7]⟩, []) := by decide
  exact (parser_safe_iff [2, 1, 0, 7] (fun _ => 0) (by decide)).2 (.known hhead (.inr rfl) .nil)

/-- A header that announces 255 bytes where none follow: `total_len` wraps, and the next header is
read 255 bytes behind the request. -/
theorem parser_leaves_request : ¬Safe [2, 255, 0] (fun _ => 0) := by
  rintro ⟨r, hrun, hin, -, -⟩
  have hproj : (rpcReqHandler (memory [2, 255, 0] fun _ => 0) 2 3).map (fun r => r.1.reads) =
      some [(0, 3), (258, 3)] := by
    decide +kernel
  obtain ⟨r', hrun', hreads⟩ := Option.map_eq_some_iff.1 hproj
  obtain rfl := Option.some_inj.1 (hrun.symm.trans hrun')
  have hread := hin (258, 3) (by rw [hreads]; decide) 0 (by decide)
  exact absurd hread (by decide)

/-! ## The composer -/

/-- The variables of `compose_tlv`. For the statements only: how much was written, and whether `len`
has wrapped. -/
structure Composer where
  len : UInt16 := 0
  buf : List UInt8
  wrote : Nat := 0
  wrapped : Bool := false

/-- Write at `buf[len]`, and add to `len`; `none` where that is outside the buffer. -/
def Composer.put (bs : List UInt8) (c : Composer) : Option Composer :=
  (poke c.len.toNat bs c.buf).map fun buf =>
    { len := c.len + bs.length.toUInt16
      buf := buf
      wrote := c.wrote + bs.length
      wrapped := c.wrapped || decide (65536 ≤ c.len.toNat + bs.length) }

/-- `compose_tlv`: its result and what it leaves in `*out` and `*outlen`. -/
def composeTlv (calloc : Bool) (epname out : List UInt8) (outlen : UInt32) :
    Option (EspErr × Composer × UInt32) := do
  let epLen := (strlen epname).toUInt16
  let bufLen : UInt32 := 3 + epLen.toUInt32 + 3 + outlen
  if calloc = false then
    return (espFail, { buf := out }, outlen)
  let c : Composer := { buf := List.replicate bufLen.toNat 0 }
  let c ← c.put [tlvEpname]
  let c ← c.put [epLen.toUInt8]
  let c ← c.put [(epLen >>> 8).toUInt8]
  let c ← c.put (epname.take (strlen epname))
  let c ← c.put [tlvData]
  let c ← c.put [outlen.toUInt8]
  let c ← c.put [(outlen >>> 8).toUInt8]
  let bufLen := c.len.toUInt32 + outlen
  let buf ← poke c.len.toNat (out.take outlen.toNat) c.buf
  return (espOk, { c with buf := buf, wrote := c.wrote + outlen.toNat }, bufLen)

/-- **Round trip**: what was composed is reported in full, and parses to the name and the data. -/
structure RoundTrip (ep data : List UInt8) (c : Composer) (outlen : UInt32) : Prop where
  whole : c.buf.length = outlen.toNat
  wrote : c.wrote = outlen.toNat
  noWrap : c.wrapped = false
  parses : ∀ beyond, ∀ fuel ≥ 3, ∃ p, rpcReqHandler (memory c.buf beyond) fuel outlen =
    some (p, .ok ⟨ep, data⟩) ∧
    p.totalLen = 0 ∧ p.buf = outlen ∧ p.wrapped = false

/-- The composer has written `done` into a zeroed buffer. -/
structure Composer.Wrote (size : Nat) (done : List UInt8) (c : Composer) : Prop where
  len : c.len.toNat = done.length
  buf : c.buf = done ++ List.replicate (size - done.length) 0
  fits : done.length ≤ size
  wrote : c.wrote = done.length
  wrapped : c.wrapped = false

theorem Composer.Wrote.poke {size : Nat} {done : List UInt8} {c : Composer} (h : c.Wrote size done)
    (bs : List UInt8) (hfits : (done ++ bs).length ≤ size) :
    ByteCodec.poke c.len.toNat bs c.buf =
      some (done ++ bs ++ List.replicate (size - (done ++ bs).length) 0) := by
  have hlen : c.buf.length = size := by
    rw [h.buf, List.length_append, List.length_replicate]
    exact Nat.add_sub_cancel' h.fits
  rw [List.length_append] at hfits ⊢
  rw [poke_inside (by rw [h.len, hlen]; exact hfits), h.len, h.buf, List.take_left,
    List.drop_append, List.drop_eq_nil_of_le (by omega), List.nil_append, List.drop_replicate]
  congr 3
  omega

theorem Composer.Wrote.put {size : Nat} {done : List UInt8} {c : Composer} (h : c.Wrote size done)
    (bs : List UInt8) (hfits : (done ++ bs).length ≤ size) (hsmall : (done ++ bs).length < 65536) :
    ∃ c', c.put bs = some c' ∧ c'.Wrote size (done ++ bs) := by
  rw [List.length_append] at hsmall
  refine ⟨_, by rw [Composer.put, h.poke bs hfits]; rfl, ?_, rfl, hfits, ?_, ?_⟩
  · dsimp only
    rw [UInt16.toNat_add, h.len, UInt16.toNat_ofNat', List.length_append]
    omega
  · dsimp only
    rw [h.wrote, List.length_append]
  · dsimp only
    rw [h.wrapped, h.len, decide_eq_false (by omega)]
    rfl

theorem strlen_append_zero {ep : List UInt8} (hnul : 0 ∉ ep) (rest : List UInt8) :
    strlen (ep ++ 0 :: rest) = ep.length := by
  have hall : ∀ b ∈ ep, (b != 0) = true := by
    intro b hb
    rw [bne_iff_ne]
    rintro rfl
    exact hnul hb
  rw [strlen, List.takeWhile_append_of_pos hall]
  simp

/-- The low and the high byte of a 16-bit length. -/
theorem lenBytes16 {n : Nat} (h : n < 65536) :
    [n.toUInt16.toUInt8, (n.toUInt16 >>> 8).toUInt8] = leBytes 2 n := by
  have hn : n.toUInt16.toNat = n := UInt16.toNat_ofNat_of_lt' h
  have hlow : n.toUInt16.toUInt8 = UInt8.ofNat n := by
    apply UInt8.toNat_inj.1
    rw [UInt16.toNat_toUInt8, hn, UInt8.toNat_ofNat']
  have hhigh : (n.toUInt16 >>> 8).toUInt8 = UInt8.ofNat (n / 256) := by
    apply UInt8.toNat_inj.1
    rw [UInt16.toNat_toUInt8, UInt16.toNat_shiftRight, hn, UInt8.toNat_ofNat',
      Nat.shiftRight_eq_div_pow]
    rfl
  rw [hlow, hhigh]
  rfl

/-- Those of a 32-bit one. -/
theorem lenBytes32 {n : Nat} (h : n < 4294967296) :
    [n.toUInt32.toUInt8, (n.toUInt32 >>> 8).toUInt8] = leBytes 2 n := by
  have hn : n.toUInt32.toNat = n := UInt32.toNat_ofNat_of_lt' h
  have hlow : n.toUInt32.toUInt8 = UInt8.ofNat n := by
    apply UInt8.toNat_inj.1
    rw [UInt32.toNat_toUInt8, hn, UInt8.toNat_ofNat']
  have hhigh : (n.toUInt32 >>> 8).toUInt8 = UInt8.ofNat (n / 256) := by
    apply UInt8.toNat_inj.1
    rw [UInt32.toNat_toUInt8, UInt32.toNat_shiftRight, hn, UInt8.toNat_ofNat',
      Nat.shiftRight_eq_div_pow]
    rfl
  rw [hlow, hhigh]
  rfl

/-- The two TLVs of a response. -/
def epnameTlv (ep : List UInt8) : Record := ⟨tlvEpname :: leBytes 2 ep.length, ep⟩
def dataTlv (data : List UInt8) : Record := ⟨tlvData :: leBytes 2 data.length, data⟩

section Compose

variable {ep data : List UInt8}

/-- What `compose_tlv` writes. -/
theorem composeTlv_eq (hep14 : ep.length ≤ 14) (hnul : 0 ∉ ep)
    (hdata : ep.length + data.length + 6 < 4294967296) :
    ∃ c outlen, composeTlv true (ep ++ [0]) data data.length.toUInt32 = some (espOk, c, outlen) ∧
      c.buf = (epnameTlv ep).bytes ++ ((dataTlv data).bytes ++ []) ∧ c.buf.length = outlen.toNat ∧
      c.wrote = outlen.toNat ∧ c.wrapped = false := by
  have hstrlen : strlen (ep ++ [0]) = ep.length := strlen_append_zero hnul []
  have htake : (ep ++ [0]).take ep.length = ep := List.take_left
  have hout : data.length.toUInt32.toNat = data.length :=
    UInt32.toNat_ofNat_of_lt' (Nat.lt_of_le_of_lt (by omega) hdata)
  have hep16 : ep.length.toUInt16.toNat = ep.length :=
    UInt16.toNat_ofNat_of_lt' (hep14.trans_lt (by decide))
  have hsize : (3 + ep.length.toUInt16.toUInt32 + 3 + data.length.toUInt32 : UInt32).toNat =
      ep.length + data.length + 6 := by
    have h3 : (3 : UInt32).toNat = 3 := rfl
    rw [UInt32.toNat_add, UInt32.toNat_add, UInt32.toNat_add, UInt16.toNat_toUInt32,
      hep16, hout, h3]
    omega
  -- seven writes of which the buffer has room for each
  have hstart : Composer.Wrote (ep.length + data.length + 6) []
      { buf := List.replicate (ep.length + data.length + 6) 0 } :=
    ⟨rfl, rfl, Nat.zero_le _, rfl, rfl⟩
  obtain ⟨c1, hc1, h1⟩ := hstart.put [tlvEpname] (by simp) (by simp)
  obtain ⟨c2, hc2, h2⟩ := h1.put [ep.length.toUInt16.toUInt8] (by simp) (by simp)
  obtain ⟨c3, hc3, h3⟩ := h2.put ([(ep.length.toUInt16 >>> 8).toUInt8]) (by simp) (by simp)
  obtain ⟨c4, hc4, h4⟩ := h3.put ep (by simp; omega) (by simp; omega)
  obtain ⟨c5, hc5, h5⟩ := h4.put [tlvData] (by simp; omega) (by simp; omega)
  obtain ⟨c6, hc6, h6⟩ := h5.put [data.length.toUInt32.toUInt8] (by simp; omega) (by simp; omega)
  obtain ⟨c7, hc7, h7⟩ :=
    h6.put ([(data.length.toUInt32 >>> 8).toUInt8]) (by simp) (by simp; omega)
  have hlast := h7.poke data (by simp; omega)
  have hbytes :
    (([] ++ [tlvEpname] ++ [ep.length.toUInt16.toUInt8] ++ [(ep.length.toUInt16 >>> 8).toUInt8] ++
      ep ++ [tlvData] ++ [data.length.toUInt32.toUInt8] ++
        [(data.length.toUInt32 >>> 8).toUInt8]) ++ data) =
        (epnameTlv ep).bytes ++ ((dataTlv data).bytes ++ []) := by
    have hlen := lenBytes16 (n := ep.length) (by omega)
    have hlen' := lenBytes32 (n := data.length) (by omega)
    rw [Record.bytes, Record.bytes, epnameTlv, dataTlv, ← hlen, ← hlen']
    simp
  have hall : ((epnameTlv ep).bytes ++ ((dataTlv data).bytes ++ [])).length =
    ep.length + data.length + 6 := by
    simp [Record.bytes, epnameTlv, dataTlv]
    omega
  have hcopied : data.take data.length = data := List.take_length
  rw [hbytes, hall, Nat.sub_self, List.replicate_zero, List.append_nil] at hlast
  have hlen7 : c7.len.toNat = ep.length + 6 := by
    rw [h7.len]
    simp
  have hreport : (c7.len.toUInt32 + data.length.toUInt32).toNat = ep.length + data.length + 6 := by
    rw [UInt32.toNat_add, UInt16.toNat_toUInt32, hlen7, hout]
    omega
  have hwrote : c7.wrote + data.length = ep.length + data.length + 6 := by
    rw [h7.wrote]
    simp
    omega
  refine ⟨{ c7 with
    buf := (epnameTlv ep).bytes ++ ((dataTlv data).bytes ++ []), wrote := c7.wrote + data.length },
    c7.len.toUInt32 + data.length.toUInt32, ?_, rfl, ?_, ?_, h7.wrapped⟩
  · unfold composeTlv
    dsimp only
    rw [hstrlen, htake, hsize]
    simp only [Bool.true_eq_false, if_false, hc1, hc2, hc3, hc4, hc5, hc6, hc7, Option.bind_eq_bind,
      Option.bind_some, hout, hcopied, hlast]
    rfl
  · rw [hall, hreport]
  · rw [hreport]
    exact hwrote

/-- The two TLVs, as the parser finds them. -/
theorem head?_epnameTlv (hlen : ep.length ≤ 14) (rest : List UInt8) :
    tlv.head? ((epnameTlv ep).bytes ++ rest) = some (epnameTlv ep, rest) := by
  refine Format.head?_append rfl ?_ rest
  exact (leNat_leBytes_of_lt (w := 2) (n := ep.length) (hlen.trans_lt (by decide))).symm

theorem head?_dataTlv (hlen : data.length ≤ 65535) (rest : List UInt8) :
    tlv.head? ((dataTlv data).bytes ++ rest) = some (dataTlv data, rest) := by
  refine Format.head?_append rfl ?_ rest
  exact (leNat_leBytes_of_lt (w := 2) (n := data.length) (hlen.trans_lt (by decide))).symm

section Turns

variable {s : List UInt8} (beyond : Nat → UInt8) {pos : Nat} {p : Parser} {rest : List UInt8}

theorem turn_epnameTlv (hat : At s pos p) (hlen : ep.length ≤ 14)
    (hhead : tlv.head? (s.drop pos) = some (epnameTlv ep, rest)) :
    ∃ q, turn (memory s beyond) p = .again q ∧ At s (pos + (3 + ep.length)) q ∧
      rest = s.drop (pos + (3 + ep.length)) ∧ q.epname = copyFront ep p.epname ∧ q.data = p.data ∧
      q.wrapped = p.wrapped := by
  obtain ⟨type, len, q, htype, hlenep, hparse, hat', hrest, hepname, hdata, -, -, hwrapped⟩ :=
    parseTlv_complete beyond hat hhead
  have hvalue := bytes_value beyond hat hhead
  rw [← hlenep] at hvalue
  have hshort : ¬len.toNat ≥ epnameMax - 1 := by
    rw [hlenep]
    exact Nat.not_le.2 (Nat.lt_succ_of_le hlen)
  obtain rfl : tlvEpname = type := Option.some_inj.1 htype
  refine ⟨{ q with epname := copyFront ep p.epname, reads := q.reads ++ [(p.buf + 3, len.toNat)] },
    ?_, ⟨hat'.size, hat'.le, hat'.buf, hat'.left⟩, hrest, rfl, hdata, hwrapped⟩
  rw [turn, hparse]
  dsimp only
  rw [if_pos rfl, if_neg hshort, hvalue, hepname]
  rfl

theorem turn_dataTlv (hat : At s pos p)
    (hhead : tlv.head? (s.drop pos) = some (dataTlv data, rest)) :
    ∃ q ptr, turn (memory s beyond) p = .again q ∧ At s (pos + (3 + data.length)) q ∧
      rest = s.drop (pos + (3 + data.length)) ∧ q.epname = p.epname ∧ q.data = some ptr ∧
      q.dataLen.toNat = data.length ∧ (memory s beyond).bytes ptr q.dataLen.toNat = data ∧
      q.wrapped = p.wrapped := by
  obtain ⟨type, len, q, htype, hlen, hparse, hat', hrest, hepname, -, -, -, hwrapped⟩ :=
    parseTlv_complete beyond hat hhead
  have hvalue := bytes_value beyond hat hhead
  rw [← hlen] at hvalue
  have hne : tlvData ≠ tlvEpname := by decide
  obtain rfl : tlvData = type := Option.some_inj.1 htype
  refine ⟨{ q with data := some (p.buf + 3), dataLen := len }, p.buf + 3, ?_,
    ⟨hat'.size, hat'.le, hat'.buf, hat'.left⟩, hrest, hepname, rfl, hlen, hvalue, hwrapped⟩
  rw [turn, hparse]
  dsimp only
  rw [if_neg hne, if_pos rfl]

end Turns

variable (hep : 1 ≤ ep.length ∧ ep.length ≤ 14) (hnul : 0 ∉ ep)
    (hdata : 1 ≤ data.length ∧ data.length ≤ 65535)

include hep hnul hdata in
/-- **`compose_tlv` and the parser are inverse**, over the whole range of both lengths. -/
theorem compose_then_parse :
    ∃ c outlen, composeTlv true (ep ++ [0]) data data.length.toUInt32 = some (espOk, c, outlen) ∧
      RoundTrip ep data c outlen := by
  obtain ⟨c, outlen, hcompose, hbuf, hlen, hwrote, hwrapped⟩ :=
    composeTlv_eq hep.2 hnul (show ep.length + data.length + 6 < 4294967296 by omega)
  refine ⟨c, outlen, hcompose, hlen, hwrote, hwrapped, fun beyond fuel hfuel => ?_⟩
  obtain ⟨n, rfl⟩ : ∃ n, fuel = n + 3 := ⟨fuel - 3, by omega⟩
  have hsize : c.buf.length < 4294967296 := hlen ▸ outlen.toNat_lt
  have houtlen : c.buf.length.toUInt32 = outlen := by
    apply UInt32.toNat_inj.1
    rw [UInt32.toNat_ofNat_of_lt' hsize, hlen]
  have hat := at_start hsize
  rw [houtlen] at hat
  -- the endpoint's name
  have hhead : tlv.head? (c.buf.drop 0) = some (epnameTlv ep, (dataTlv data).bytes ++ []) := by
    rw [List.drop_zero, hbuf]
    exact head?_epnameTlv hep.2 _
  obtain ⟨q, hturn, hat1, hrest, hepname, -, hwraps⟩ := turn_epnameTlv beyond hat hep.2 hhead
  -- the data
  have hhead1 : tlv.head? (c.buf.drop (0 + (3 + ep.length))) = some (dataTlv data, []) := by
    rw [← hrest]
    exact head?_dataTlv hdata.2 []
  obtain ⟨q', ptr, hturn', hat2, hrest', hepname', hptr, hdatalen, hbytes, hwraps'⟩ :=
    turn_dataTlv beyond hat1 hhead1
  -- and the end
  have hend : c.buf.length ≤ 0 + (3 + ep.length) + (3 + data.length) :=
    List.drop_eq_nil_iff.1 hrest'.symm
  have hturn'' := turn_end beyond hat2 hend
  have hname : q'.epname = ep ++ 0 :: List.replicate (15 - ep.length) 0 := by
    rw [hepname', hepname, copyFront, List.length_replicate,
      List.take_of_length_le (hep.2.trans (by decide)), List.drop_replicate]
    congr 1
    obtain ⟨k, hk⟩ : ∃ k, epnameMax - ep.length = k + 1 :=
      ⟨15 - ep.length, by unfold epnameMax; omega⟩
    have hk' : 15 - ep.length = k := by
      unfold epnameMax at hk
      omega
    rw [hk, hk', List.replicate_succ]
  have hstrlen : strlen q'.epname = ep.length := by
    rw [hname]
    exact strlen_append_zero hnul _
  have hnonempty : ¬(q'.dataLen = 0 ∨ strlen q'.epname = 0) := by
    rw [hstrlen]
    rintro (hzero | hzero)
    · rw [hzero] at hdatalen
      have hz : (0 : UInt32).toNat = 0 := rfl
      omega
    · omega
  refine ⟨{ q' with reads := q'.reads ++ [(ptr, q'.dataLen.toNat)] }, ?_, ?_, ?_, ?_⟩
  · have hparse : parse (memory c.buf beyond) (n + 3) { totalLen := outlen } = some (.done q') := by
      rw [parse, hturn]
      dsimp only
      rw [parse, hturn']
      dsimp only
      rw [parse, hturn'']
    have htake : q'.epname.take ep.length = ep := by rw [hname, List.take_left]
    rw [rpcReqHandler, hparse, Option.map_some, accept]
    simp only [hptr]
    rw [if_neg hnonempty, hbytes, hstrlen, htake]
  · apply UInt32.toNat_inj.1
    rw [hat2.left]
    exact Nat.sub_eq_zero_of_le hend
  · apply UInt32.toNat_inj.1
    rw [hat2.buf, ← hlen]
    exact Nat.le_antisymm hat2.le hend
  · exact hwraps'.trans hwraps

end Compose

/-- The endpoint `RPCRsp`, and data whose length takes both bytes. -/
theorem compose_then_parse_long :
    ∃ c outlen, composeTlv true ([82, 80, 67, 82, 115, 112] ++ [0]) (List.replicate 300 7)
        (List.replicate 300 (7 : UInt8)).length.toUInt32 = some (espOk, c, outlen) ∧
      RoundTrip [82, 80, 67, 82, 115, 112] (List.replicate 300 7) c outlen :=
  compose_then_parse (by decide) (by decide) (by rw [List.length_replicate]; decide)

end EspHostedOpen.Tlv
