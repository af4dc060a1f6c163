import EspHostedOpen.Lib.Overlay
import EspHostedOpen.Host.Dispatcher
import EspHostedOpen.Host.Events

/-!
# The getters of the host (`phy_rpc.c`)

A getter lends `do_call` a local variable for the body of the response and hands parts of it to its
caller. A response may be shorter than the variable. Where the variable was initialised that is a
zero; in `esp_hosted_open_get_info` and `esp_hosted_open_get_cca_counters` it was not, and the
length received, `got`, is not looked at.

`getters_nonInterfering_iff`: the results depend on the responses alone exactly where the bytes read
were received or initialised.
-/

namespace EspHostedOpen

open ByteCodec

namespace Getters

/-- What `do_call` leaves in the buffer it was lent: the bodies of the responses that matched, in
turn. -/
def doCallBody (bodies : List (List UInt8)) (respBody : List UInt8) : List UInt8 :=
  bodies.foldl (fun buf body => copyFront body buf) respBody

/-- `esp_hosted_open_info_t`. -/
structure Info where
  channel : UInt8
  txPowerDbm : Int8
  phy11pArmed : Bool
  ccaEnabled : Bool
  lowRateEnabled : Bool
  agcMaxGain : UInt8
  fwVersion : List UInt8
  deriving DecidableEq, Repr

/-- What a getter has stored for its caller. -/
inductive Stored
  | info (i : Info)
  | counters (busyUs totalUs : Option UInt32)
  | level (v : Option Int8)
  | caps (bytes : List UInt8)
  deriving DecidableEq, Repr

/-! ## The wrappers

`err` is what `do_call` returns, `stack` what the memory of the local variable held before. A
pointer argument is a `Bool`, `false` for `NULL`. -/

section Wrappers

variable (err : EspErr) (bodies : List (List UInt8)) (stack : List UInt8)

/-- The anonymous structure of `esp_hosted_open_get_info`: the response without its header. -/
def infoBody : Packed := [1, 1, 1, 1, 1, 1, 2, 32]

def espHostedOpenGetInfo (out : Bool) : EspErr × Option Stored :=
  if out = false then (espErrInvalidArg, none)
  else
    let body := doCallBody bodies stack
    if err ≠ espOk then (err, none)
    else (espOk, some <| .info {
      channel := memberU8 infoBody 0 body
      txPowerDbm := memberI8 infoBody 1 body
      phy11pArmed := memberU8 infoBody 2 body ≠ 0
      ccaEnabled := memberU8 infoBody 3 body ≠ 0
      lowRateEnabled := memberU8 infoBody 4 body ≠ 0
      agcMaxGain := memberU8 infoBody 5 body
      fwVersion := (memberBytes infoBody 7 body 32).take 31 ++ [0] })

/-- The local variable is the whole response; the body goes behind the header. -/
def espHostedOpenGetCcaCounters (busyUs totalUs : Bool) : EspErr × Option Stored :=
  let t := Rpc.getCcaCounters.respStruct
  let body := stack.take phyRpcRespHdr.sizeof ++ doCallBody bodies (stack.drop phyRpcRespHdr.sizeof)
  if err ≠ espOk then (err, none)
  else (espOk, some <| .counters (if busyUs then some (memberU32 t 2 body) else none)
    (if totalUs then some (memberU32 t 3 body) else none))

/-- The getters of one byte, with a local variable set to 0. -/
def getLevel (p : Bool) : EspErr × Option Stored :=
  let v := doCallBody bodies [0]
  if err ≠ espOk then (err, none)
  else (espOk, some <| .level (if p then some (memberI8 [1] 0 v) else none))

def espHostedOpenGetPhyRssi (rssiDbm : Bool) := getLevel err bodies rssiDbm
def espHostedOpenGetMostTpw (tpw : Bool) := getLevel err bodies tpw
def espHostedOpenGetNoiseFloor (dbm : Bool) := getLevel err bodies dbm
def espHostedOpenGetTemperature (celsius : Bool) := getLevel err bodies celsius

/-- The caller's own array, cleared before the call. -/
def espHostedOpenGetCaps (caps : Bool) : EspErr × Option Stored :=
  if caps = false then (espErrInvalidArg, none)
  else (err, some (.caps (doCallBody bodies (List.replicate phyRpcCapsBytes 0))))

end Wrappers

/-- A call of a getter. -/
inductive Getter
  | getInfo (out : Bool)
  | getCcaCounters (busyUs totalUs : Bool)
  | getPhyRssi (rssiDbm : Bool)
  | getMostTpw (tpw : Bool)
  | getNoiseFloor (dbm : Bool)
  | getTemperature (celsius : Bool)
  | getCaps (caps : Bool)
  deriving DecidableEq, Repr

namespace Getter

def run (err : EspErr) (bodies : List (List UInt8)) (stack : List UInt8) :
    Getter → EspErr × Option Stored
  | getInfo out => espHostedOpenGetInfo err bodies stack out
  | getCcaCounters busyUs totalUs => espHostedOpenGetCcaCounters err bodies stack busyUs totalUs
  | getPhyRssi p => espHostedOpenGetPhyRssi err bodies p
  | getMostTpw p => espHostedOpenGetMostTpw err bodies p
  | getNoiseFloor p => espHostedOpenGetNoiseFloor err bodies p
  | getTemperature p => espHostedOpenGetTemperature err bodies p
  | getCaps p => espHostedOpenGetCaps err bodies p

/-- The size of the local variable. -/
def stackSize : Getter → Nat
  | getInfo _ => infoBody.sizeof
  | getCcaCounters _ _ => Rpc.getCcaCounters.respStruct.sizeof
  | getPhyRssi _ | getMostTpw _ | getNoiseFloor _ | getTemperature _ => 1
  | getCaps _ => 0

/-- How many bytes of the body have to be there for what the getter reads of uninitialised
memory. -/
def reads : Getter → Nat
  | getInfo true => 39
  | getCcaCounters _ true => 8
  | getCcaCounters true false => 4
  | _ => 0

end Getter

/-- **Noninterference**: the result is the same whatever the local variable held. -/
def NonInterfering (g : Getter) (bodies : List (List UInt8)) : Prop :=
  ∀ stack stack', stack.length = g.stackSize → stack'.length = g.stackSize →
    g.run espOk bodies stack = g.run espOk bodies stack'

/-- What is read was received, or nothing uninitialised is read. -/
def Covered (g : Getter) (bodies : List (List UInt8)) : Prop :=
  g.reads = 0 ∨ ∃ body ∈ bodies, g.reads ≤ body.length

/-! ## Bytes received and bytes left over -/

section Bytes

variable {n : Nat} {bodies : List (List UInt8)} {stack : List UInt8}

/-- A slice that was received does not depend on the variable. -/
theorem slice_doCallBody (hlen : stack.length = n) {off k : Nat}
    (h : off + k ≤ (written n bodies).length) :
    slice off k (doCallBody bodies stack) = slice off k (written n bodies) := by
  rw [doCallBody, (foldl_copyFront hlen).2, slice_append_left _ h]

/-- A byte that was not received is still there. -/
theorem getElem_doCallBody (hlen : stack.length = n) {i : Nat} (h : (written n bodies).length ≤ i) :
    (doCallBody bodies stack)[i]? = stack[i]? := by
  rw [doCallBody, (foldl_copyFront hlen).2, List.getElem?_append_right h, List.getElem?_drop]
  congr 1
  omega

theorem length_doCallBody (bodies : List (List UInt8)) (stack : List UInt8) :
    (doCallBody bodies stack).length = stack.length := by
  unfold doCallBody
  induction bodies generalizing stack with
  | nil => rfl
  | cons body bodies ih => rw [List.foldl_cons, ih, length_copyFront]

theorem getElem_slice {off k i : Nat} (h : i < k) (bs : List UInt8) :
    (slice off k bs)[i]? = bs[off + i]? := by
  rw [slice, List.getElem?_take_of_lt h, List.getElem?_drop]

/-- Four bytes and their number determine each other. -/
theorem slice_of_memberU32 {t : Packed} {k : Nat} {bs bs' : List UInt8}
    (h : t.offset k + 4 ≤ bs.length)
    (h' : t.offset k + 4 ≤ bs'.length) (heq : memberU32 t k bs = memberU32 t k bs') :
    slice (t.offset k) 4 bs = slice (t.offset k) 4 bs' := by
  have hnum : ∀ {b : List UInt8}, t.offset k + 4 ≤ b.length →
      leBytes 4 (memberU32 t k b).toNat = slice (t.offset k) 4 b := by
    intro b hb
    have hlen := length_slice hb
    have hlt : leNat (slice (t.offset k) 4 b) < 2 ^ 32 := by
      have hbound := leNat_lt (slice (t.offset k) 4 b)
      rwa [hlen] at hbound
    have hbytes := leBytes_leNat (slice (t.offset k) 4 b)
    rw [hlen] at hbytes
    rw [memberU32, memberBytes, UInt32.toNat_ofNat', Nat.mod_eq_of_lt hlt, hbytes]
  rw [← hnum h, ← hnum h', heq]

end Bytes

/-! ## Each getter -/

section Each

variable {bodies : List (List UInt8)}

/-- The members of the information in a buffer. -/
def infoOf (body : List UInt8) : Info :=
  { channel := memberU8 infoBody 0 body
    txPowerDbm := memberI8 infoBody 1 body
    phy11pArmed := memberU8 infoBody 2 body ≠ 0
    ccaEnabled := memberU8 infoBody 3 body ≠ 0
    lowRateEnabled := memberU8 infoBody 4 body ≠ 0
    agcMaxGain := memberU8 infoBody 5 body
    fwVersion := (memberBytes infoBody 7 body 32).take 31 ++ [0] }

theorem run_getInfo (bodies : List (List UInt8)) (stack : List UInt8) :
    (Getter.getInfo true).run espOk bodies stack =
      (espOk, some (.info (infoOf (doCallBody bodies stack)))) :=
  rfl

/-- Equal slices, equal information. -/
theorem infoOf_congr {body body' : List UInt8}
    (h : ∀ off k, off + k ≤ 39 → slice off k body = slice off k body') :
    infoOf body = infoOf body' := by
  have hbyte : ∀ k, infoBody.offset k + 1 ≤ 39 → memberU8 infoBody k body =
    memberU8 infoBody k body' := by
    intro k hk
    rw [memberU8, memberU8, memberBytes, memberBytes, h _ _ hk]
  have hversion : (memberBytes infoBody 7 body 32).take 31 =
    (memberBytes infoBody 7 body' 32).take 31 := by
    rw [memberBytes, memberBytes, slice, slice, List.take_take, List.take_take]
    exact h 8 31 (by decide)
  simp only [infoOf, memberI8, hversion, hbyte 0 (by decide), hbyte 1 (by decide),
    hbyte 2 (by decide), hbyte 3 (by decide), hbyte 4 (by decide), hbyte 5 (by decide)]

/-- The version string shows byte 38 of the buffer. -/
theorem getElem_of_infoOf {body body' : List UInt8} (h : infoOf body = infoOf body') :
    body[38]? = body'[38]? := by
  have hversion : (memberBytes infoBody 7 body 32).take 31 ++ [0] =
      (memberBytes infoBody 7 body' 32).take 31 ++ [0] := congrArg Info.fwVersion h
  have hslice := List.append_cancel_right hversion
  have hget : ∀ {b : List UInt8}, ((memberBytes infoBody 7 b 32).take 31)[30]? = b[38]? := by
    intro b
    rw [List.getElem?_take_of_lt (by decide), memberBytes, getElem_slice (by decide)]
    rfl
  rw [← hget, hslice, hget]

theorem nonInterfering_getInfo :
    NonInterfering (.getInfo true) bodies ↔ ∃ body ∈ bodies, 39 ≤ body.length := by
  rw [← le_length_written_iff (n := 40) (by decide) (by decide)]
  constructor
  · intro h
    by_contra hshort
    have hzeros : (List.replicate 40 (0 : UInt8)).length = 40 := List.length_replicate
    have hones : (List.replicate 40 (1 : UInt8)).length = 40 := List.length_replicate
    have heq := h (List.replicate 40 0) (List.replicate 40 1) hzeros hones
    rw [run_getInfo, run_getInfo] at heq
    have hinfo := Stored.info.inj (Option.some_inj.1 (Prod.mk.inj heq).2)
    have hbyte := getElem_of_infoOf hinfo
    rw [getElem_doCallBody hzeros (by omega), getElem_doCallBody hones (by omega)] at hbyte
    cases hbyte
  · intro h stack stack' hlen hlen'
    have hinfo : infoOf (doCallBody bodies stack) = infoOf (doCallBody bodies stack') := by
      apply infoOf_congr
      intro off k hk
      rw [slice_doCallBody hlen (Nat.le_trans hk h), slice_doCallBody hlen' (Nat.le_trans hk h)]
    rw [run_getInfo, run_getInfo, hinfo]

/-- The body of the counters behind the header. -/
def countersBuf (bodies : List (List UInt8)) (stack : List UInt8) : List UInt8 :=
  stack.take phyRpcRespHdr.sizeof ++ doCallBody bodies (stack.drop phyRpcRespHdr.sizeof)

theorem run_getCcaCounters (bodies : List (List UInt8)) (stack : List UInt8)
    (busyUs totalUs : Bool) :
    (Getter.getCcaCounters busyUs totalUs).run espOk bodies stack =
      (espOk, some (.counters
        (if busyUs then some (memberU32 Rpc.getCcaCounters.respStruct 2
        (countersBuf bodies stack)) else none)
        (if totalUs then some (memberU32 Rpc.getCcaCounters.respStruct 3 (countersBuf bodies stack))
          else none))) := rfl

/-- A counter lies in the bytes behind the header. -/
theorem slice_countersBuf {stack : List UInt8} (hlen : stack.length = 16) (off n : Nat) :
    slice (8 + off) n (countersBuf bodies stack) = slice off n
    (doCallBody bodies (stack.drop 8)) := by
  have hhead : (stack.take 8).length = 8 := by
    rw [List.length_take]
    omega
  show slice (8 + off) n (stack.take 8 ++ doCallBody bodies (stack.drop 8)) = _
  rw [slice_append_right _ _ (by omega), hhead, Nat.add_sub_cancel_left]

theorem length_countersBuf {stack : List UInt8} (hlen : stack.length = 16) :
    (countersBuf bodies stack).length = 16 := by
  show (stack.take 8 ++ doCallBody bodies (stack.drop 8)).length = 16
  rw [List.length_append, length_doCallBody, List.length_take, List.length_drop]
  omega

/-- A counter that was received depends on the responses alone. -/
theorem memberU32_of_received {stack stack' : List UInt8} (hlen : stack.length = 16)
    (hlen' : stack'.length = 16) (off : Nat) {k : Nat}
    (hk : Rpc.getCcaCounters.respStruct.offset k = 8 + off)
    (h : off + 4 ≤ (written 8 bodies).length) :
    memberU32 Rpc.getCcaCounters.respStruct k (countersBuf bodies stack) =
      memberU32 Rpc.getCcaCounters.respStruct k (countersBuf bodies stack') := by
  have hdrop : (stack.drop 8).length = 8 := by rw [List.length_drop]; omega
  have hdrop' : (stack'.drop 8).length = 8 := by rw [List.length_drop]; omega
  rw [memberU32, memberU32, memberBytes, memberBytes, hk, slice_countersBuf hlen,
    slice_countersBuf hlen', slice_doCallBody hdrop h, slice_doCallBody hdrop' h]

/-- A counter whose last byte was not received shows that byte of the variable. -/
theorem getElem_of_memberU32 {stack stack' : List UInt8} (hlen : stack.length = 16)
    (hlen' : stack'.length = 16) (off : Nat) {k : Nat}
    (hk : Rpc.getCcaCounters.respStruct.offset k = 8 + off)
    (hoff : off + 4 ≤ 8) (h : (written 8 bodies).length < off + 4)
    (heq : memberU32 Rpc.getCcaCounters.respStruct k (countersBuf bodies stack) =
      memberU32 Rpc.getCcaCounters.respStruct k (countersBuf bodies stack')) :
    stack[8 + (off + 3)]? = stack'[8 + (off + 3)]? := by
  have hdrop : (stack.drop 8).length = 8 := by rw [List.length_drop]; omega
  have hdrop' : (stack'.drop 8).length = 8 := by rw [List.length_drop]; omega
  have hslice := slice_of_memberU32 (by rw [hk, length_countersBuf hlen]; omega)
    (by rw [hk, length_countersBuf hlen']; omega) heq
  rw [hk, slice_countersBuf hlen, slice_countersBuf hlen'] at hslice
  have hbyte : (slice off 4 (doCallBody bodies (stack.drop 8)))[3]? =
      (slice off 4 (doCallBody bodies (stack'.drop 8)))[3]? := by rw [hslice]
  rw [getElem_slice (by decide), getElem_slice (by decide), getElem_doCallBody hdrop (by omega),
    getElem_doCallBody hdrop' (by omega), List.getElem?_drop, List.getElem?_drop] at hbyte
  exact hbyte

theorem nonInterfering_getCcaCounters (busyUs totalUs : Bool) :
    NonInterfering (.getCcaCounters busyUs totalUs) bodies ↔
      (busyUs = true → 4 ≤ (written 8 bodies).length) ∧
        (totalUs = true → 8 ≤ (written 8 bodies).length) := by
  have hzeros : (List.replicate 16 (0 : UInt8)).length = 16 := List.length_replicate
  have hones : (List.replicate 16 (1 : UInt8)).length = 16 := List.length_replicate
  constructor
  · intro h
    have heq := h (List.replicate 16 0) (List.replicate 16 1) hzeros hones
    rw [run_getCcaCounters, run_getCcaCounters] at heq
    obtain ⟨hbusy, htotal⟩ := Stored.counters.inj (Option.some_inj.1 (Prod.mk.inj heq).2)
    constructor
    · rintro rfl
      by_contra hshort
      have hbyte := getElem_of_memberU32 hzeros hones 0 rfl (by decide) (by omega)
        (Option.some_inj.1 hbusy)
      cases hbyte
    · rintro rfl
      by_contra hshort
      have hbyte := getElem_of_memberU32 hzeros hones 4 rfl (by decide) (by omega)
        (Option.some_inj.1 htotal)
      cases hbyte
  · rintro ⟨hbusy, htotal⟩ stack stack' hlen hlen'
    rw [run_getCcaCounters, run_getCcaCounters]
    congr 3
    · cases busyUs with
      | false => rfl
      | true =>
        rw [if_pos rfl, if_pos rfl, memberU32_of_received hlen hlen' 0 rfl (hbusy rfl)]
    · cases totalUs with
      | false => rfl
      | true =>
        rw [if_pos rfl, if_pos rfl, memberU32_of_received hlen hlen' 4 rfl (htotal rfl)]

end Each

/-- Every getter is noninterfering exactly where the bytes it reads of an uninitialised variable
were received. -/
theorem getters_nonInterfering_iff (g : Getter) (bodies : List (List UInt8)) :
    NonInterfering g bodies ↔ Covered g bodies := by
  cases g with
  | getInfo out =>
    cases out with
    | false => exact ⟨fun _ => .inl rfl, fun _ _ _ _ _ => rfl⟩
    | true =>
      rw [nonInterfering_getInfo, Covered]
      simp [Getter.reads]
  | getCcaCounters busyUs totalUs =>
    have hfour : 4 ≤ (written 8 bodies).length ↔ ∃ body ∈ bodies, 4 ≤ body.length :=
      le_length_written_iff (by decide) (by decide)
    have height : 8 ≤ (written 8 bodies).length ↔ ∃ body ∈ bodies, 8 ≤ body.length :=
      le_length_written_iff (by decide) (by decide)
    rw [nonInterfering_getCcaCounters, Covered]
    cases totalUs with
    | true =>
      have hless : 8 ≤ (written 8 bodies).length → 4 ≤ (written 8 bodies).length := by omega
      simp only [Getter.reads, ← height, forall_const, Nat.succ_ne_zero, false_or]
      exact ⟨fun h => h.2, fun h => ⟨fun _ => hless h, h⟩⟩
    | false =>
      cases busyUs with
      | true => simp [Getter.reads, hfour]
      | false => simp [Getter.reads]
  | getPhyRssi p | getMostTpw p | getNoiseFloor p | getTemperature p | getCaps p =>
    exact ⟨fun _ => .inl rfl, fun _ _ _ _ _ => rfl⟩

/-- **Stack bytes as measurements**: the status alone makes both getters succeed. -/
theorem getters_leak :
    ¬NonInterfering (.getInfo true) [[]] ∧ ¬NonInterfering (.getCcaCounters true true)
    [[0x10]] := by
  constructor
  · rw [nonInterfering_getInfo]
    decide
  · rw [nonInterfering_getCcaCounters]
    decide

/-! ## The copy of the dispatcher -/

/-- `doCallBody` is made of the copies of `on_response`. -/
theorem copyFront_eq_copyBody {s : Dispatcher.State} {m : Dispatcher.Response}
    {k : Dispatcher.SlotId}
    {c : Dispatcher.CallId} {buf : List UInt8} (hbuf : (s.slots k).outBuf = some c)
    (hcap : (s.slots k).outCap = buf.length) (hbody : m.body ≠ []) :
    copyFront m.body buf =
      (Dispatcher.copyBody s m k).bufs c ++ buf.drop
      ((Dispatcher.copyBody s m k).bufs c).length := by
  have hcopied : (Dispatcher.copyBody s m k).bufs c =
    m.body.take (min m.body.length buf.length) := by
    simp [Dispatcher.copyBody, Dispatcher.State.setSlot, Dispatcher.Inflight.copyLen, hbuf,
      hcap, hbody]
  rw [hcopied, copyFront, List.length_take, List.take_eq_take_min, Nat.min_comm buf.length]
  by_cases hshort : m.body.length ≤ buf.length
  · rw [Nat.min_eq_left hshort, Nat.min_self]
  · rw [Nat.min_eq_right (by omega), Nat.min_eq_left (by omega), List.drop_eq_nil_of_le (by omega),
      List.drop_eq_nil_of_le (Nat.le_refl _)]

end Getters

end EspHostedOpen
