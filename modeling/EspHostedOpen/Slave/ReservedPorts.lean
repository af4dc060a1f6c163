import Mathlib.Data.List.Induction
import Mathlib.Data.List.TakeWhile
import Mathlib.Data.Nat.Basic
import Mathlib.Logic.Function.Basic

/-!
# The ports reserved for the host (`nw_split_router.c`)

`init_allowed_ports` takes a list of ports apart, digit by digit, in a scratch buffer of six bytes.
A write outside that buffer or outside the array of ports is `none` here.
-/

namespace EspHostedOpen.ReservedPorts

/-- `port_type`. -/
inductive PortType
  | tcpSrc | tcpDst | udpSrc | udpDst
  deriving DecidableEq, Repr

/-- An array of ports and how many of it are in use. -/
structure Ports where
  array : List UInt16
  count : Nat := 0
  deriving DecidableEq, Repr

/-- The statics: the four arrays, and whether they were initialised. -/
structure State where
  initialized : PortType → Bool := fun _ => false
  ports : PortType → Ports

def comma : UInt8 := 44

/-- `isdigit`. -/
def isdigit (c : UInt8) : Bool := 48 ≤ c && c ≤ 57

/-- `atoi`, of a string that has no sign and no blanks in front. -/
def atoi (s : List UInt8) : Nat := (s.takeWhile isdigit).foldl
    (fun n c => 10 * n + (c.toNat - 48)) 0

def portBufSize : Nat := 6

/-- `port_buf` and `port_buf_idx`, and the array. -/
structure Scan where
  portBuf : List UInt8
  portBufIdx : Nat := 0
  ports : Ports
  deriving DecidableEq, Repr

def Scan.write (c : UInt8) (s : Scan) : Option Scan :=
  if s.portBufIdx <
    s.portBuf.length then some { s with portBuf := s.portBuf.set s.portBufIdx c } else none

/-- A digit. -/
def Scan.digit (c : UInt8) (s : Scan) : Option Scan :=
  (s.write c).map fun s =>
    { s with
      portBufIdx :=
        if s.portBufIdx + 1 ≥ portBufSize - 1 then portBufSize - 2 else s.portBufIdx + 1 }

/-- The end of an item. -/
def Scan.store (s : Scan) : Option Scan :=
  if s.portBufIdx > 0 then
    (s.write 0).bind fun s =>
      if s.ports.count < s.ports.array.length then
        some { s with
          portBufIdx := 0
          ports := ⟨s.ports.array.set s.ports.count (atoi s.portBuf).toUInt16, s.ports.count + 1⟩ }
      else none
  else some s

/-- One turn of the loop. -/
def Scan.char (c : UInt8) (s : Scan) : Option Scan :=
  if isdigit c then s.digit c else if c = comma then s.store else some s

/-- The loop. -/
def scan (maxPorts : Nat) : List UInt8 → Scan → Option Scan
  | [], s => some s
  | c :: str, s => if s.ports.count < maxPorts then (s.char c).bind (scan maxPorts str) else some s

/-- `init_allowed_ports`; `scratch` is what `port_buf` holds at first. -/
def initAllowedPorts (scratch : List UInt8) (type : PortType) (str : Option (List UInt8))
    (maxPorts : Nat)
    (st : State) : Option State :=
  if st.initialized type then some st
  else
    let ports := { st.ports type with count := 0 }
    match str with
    | none | some [] => some { st with ports := Function.update st.ports type ports }
    | some str =>
      ((scan maxPorts str { portBuf := scratch, ports := ports }).bind Scan.store).map fun s =>
        { initialized := Function.update st.initialized type true
          ports := Function.update st.ports type s.ports }

/-- `is_tcp_src_port_allowed` and its three siblings. -/
def Ports.allowed (ports : Ports) (port : UInt16) :
    Bool := (ports.array.take ports.count).contains port

def isTcpSrcPortAllowed (st : State) (port : UInt16) : Bool := (st.ports .tcpSrc).allowed port
def isTcpDstPortAllowed (st : State) (port : UInt16) : Bool := (st.ports .tcpDst).allowed port
def isUdpSrcPortAllowed (st : State) (port : UInt16) : Bool := (st.ports .udpSrc).allowed port
def isUdpDstPortAllowed (st : State) (port : UInt16) : Bool := (st.ports .udpDst).allowed port

/-! ## What is asked of it -/

/-- A list of decimal ports: items of up to five digits, of which some may be empty. -/
structure PortList where
  items : List (List UInt8)
  digits : ∀ item ∈ items, ∀ c ∈ item, isdigit c = true
  short : ∀ item ∈ items, item.length ≤ 5
  inRange : ∀ item ∈ items, atoi item < 65536

namespace PortList

/-- The list as a string. -/
def str (l : PortList) : List UInt8 := [comma].intercalate l.items

/-- The items that are ports. -/
def written (l : PortList) : List (List UInt8) := l.items.filter (· ≠ [])

def ports (l : PortList) : List UInt16 := l.written.map fun item => (atoi item).toUInt16

end PortList

/-- **Parsed exactly**: the first `maxPorts` ports are stored, those alone are allowed then, and
nothing changes any more. -/
structure Parsed (type : PortType) (l : PortList) (maxPorts : Nat) (st' : State) : Prop where
  count : (st'.ports type).count = min maxPorts l.ports.length
  stored : (st'.ports type).array.take (st'.ports type).count = l.ports.take maxPorts
  allowed : ∀ port, (st'.ports type).allowed port = true ↔ port ∈ l.ports.take maxPorts
  once : ∀ scratch str maxPorts, initAllowedPorts scratch type str maxPorts st' = some st'

/-! ## Numbers -/

variable {c : UInt8} {w item : List UInt8}

/-- The terminator and what the buffer holds behind it are not read. -/
theorem atoi_append (h : ∀ c ∈ w, isdigit c = true) (rest : List UInt8) :
    atoi (w ++ 0 :: rest) = atoi w := by
  have hrest : List.takeWhile isdigit (0 :: rest) = [] := rfl
  rw [atoi, atoi, List.takeWhile_append_of_pos h, hrest, List.append_nil,
    List.takeWhile_eq_self_iff.2 h]

theorem atoi_snoc (h : ∀ d ∈ w ++ [c], isdigit d = true) : atoi
    (w ++ [c]) = 10 * atoi w + (c.toNat - 48) := by
  have hw : ∀ c ∈ w, isdigit c = true := fun c hc => h c (List.mem_append_left _ hc)
  rw [atoi, atoi, List.takeWhile_eq_self_iff.2 h, List.takeWhile_eq_self_iff.2 hw,
    List.foldl_append]
  rfl

theorem isdigit_toNat : isdigit c = true ↔ 48 ≤ c.toNat ∧ c.toNat ≤ 57 := by
  rw [isdigit, Bool.and_eq_true, decide_eq_true_iff, decide_eq_true_iff, UInt8.le_iff_toNat_le,
    UInt8.le_iff_toNat_le]
  rfl

/-- Nought is written with zeros alone. -/
theorem atoi_eq_zero_iff (h : ∀ c ∈ w, isdigit c = true) : atoi w = 0 ↔ ∀ c ∈ w, c = 48 := by
  induction w using List.reverseRecOn with
  | nil => exact ⟨nofun, fun _ => rfl⟩
  | append_singleton w c ih =>
    have hc := isdigit_toNat.1 (h c (by simp))
    have hzero : c = 48 ↔ c.toNat = 48 := UInt8.toNat_inj.symm
    rw [atoi_snoc h, List.forall_mem_append, List.forall_mem_singleton, hzero,
      ← ih fun c hc => h c (List.mem_append_left _ hc)]
    omega

/-! ## What the scratch buffer and the array hold -/

theorem take_succ_set {α : Type} {xs : List α} {i : Nat} (h : i < xs.length) (x : α) :
    (xs.set i x).take (i + 1) = xs.take i ++ [x] := by
  have hset : i < (xs.set i x).length := by simpa using h
  rw [List.take_succ_eq_append_getElem hset, List.take_set_of_le (le_refl i), List.getElem_set_self]

/-- What is stored for an item. -/
def kept (item : List UInt8) : UInt16 := (atoi (item.take 4)).toUInt16

/-- `w` was read of the current item, and `ps` is stored. -/
structure Scan.Holds (w : List UInt8) (ps : List UInt16) (s : Scan) : Prop where
  buf : s.portBuf.length = portBufSize
  idx : s.portBufIdx = min w.length 4
  pending : s.portBuf.take s.portBufIdx = w.take 4
  count : s.ports.count = ps.length
  stored : s.ports.array.take ps.length = ps

variable {s : Scan} {ps : List UInt16} {maxPorts : Nat} {items : List (List UInt8)}

namespace Scan.Holds

theorem write (h : s.Holds w ps) (c : UInt8) :
    s.write c = some { s with portBuf := s.portBuf.set s.portBufIdx c } := by
  have hbuf := h.buf
  have hidx := h.idx
  rw [portBufSize] at hbuf
  exact if_pos (by omega)

theorem digit_eq (h : s.Holds w ps) (c : UInt8) :
    s.digit c =
      some { s with portBuf :=
        s.portBuf.set s.portBufIdx c, portBufIdx := min (s.portBufIdx + 1) 4 } := by
  have hclamp : (if s.portBufIdx + 1 ≥ portBufSize - 1 then portBufSize - 2 else s.portBufIdx + 1) =
      min (s.portBufIdx + 1) 4 := by
    show (if s.portBufIdx + 1 ≥ 5 then 4 else s.portBufIdx + 1) = min (s.portBufIdx + 1) 4
    split <;> omega
  rw [Scan.digit, h.write c, Option.map_some, hclamp]

/-- A digit joins the item; from the fifth on it is forgotten. -/
theorem digit (h : s.Holds w ps) (c : UInt8) :
    ∃ s', s.digit c = some s' ∧ s'.Holds (w ++ [c]) ps ∧ s'.ports = s.ports := by
  have hbuf := h.buf
  have hidx := h.idx
  have hpending := h.pending
  refine ⟨_, h.digit_eq c, ⟨(List.length_set ..).trans hbuf, ?_, ?_, h.count, h.stored⟩, rfl⟩
  · simp only [List.length_append, List.length_singleton]
    omega
  · rw [portBufSize] at hbuf
    by_cases hfull : 4 ≤ w.length
    · -- the index stays, and what stands below it has not changed
      have hmin : min (s.portBufIdx + 1) 4 = s.portBufIdx := by omega
      simp only [hmin]
      rw [List.take_set_of_le (le_refl _), hpending, List.take_append_of_le_length hfull]
    · have hlen : s.portBufIdx < s.portBuf.length := by omega
      have hmin : min (s.portBufIdx + 1) 4 = s.portBufIdx + 1 := by omega
      have hw : w.take 4 = w := List.take_of_length_le (by omega)
      have hw' : (w ++ [c]).take 4 = w ++ [c] := List.take_of_length_le (by simp; omega)
      simp only [hmin]
      rw [take_succ_set hlen, hpending, hw, hw']

end Scan.Holds

/-- What is stored for a list of items. -/
def keptPorts (items : List (List UInt8)) : List UInt16 := (items.filter (· ≠ [])).map kept

theorem keptPorts_cons : keptPorts (item :: items) = keptPorts [item] ++ keptPorts items := by
  rw [keptPorts, keptPorts, keptPorts, ← List.map_append, ← List.filter_append]
  rfl

namespace Scan.Holds

/-- The end of an item, where there is room for it. -/
theorem store (h : s.Holds w ps) (hdigits : ∀ c ∈ w, isdigit c = true)
    (hroom : ps.length < s.ports.array.length) :
    ∃ s', s.store = some s' ∧ s'.Holds [] (ps ++ keptPorts [w]) ∧
      s'.ports.array.length = s.ports.array.length := by
  have hbuf := h.buf
  have hidx := h.idx
  have hpending := h.pending
  rw [portBufSize] at hbuf
  by_cases hw : w = []
  · subst hw
    refine ⟨s, if_neg (by simp [hidx]), ?_, rfl⟩
    simpa [keptPorts] using h
  · have hpos : 0 < w.length := List.length_pos_iff.2 hw
    have hlen : s.portBufIdx < s.portBuf.length := by omega
    have hatoi : atoi (s.portBuf.set s.portBufIdx 0) = atoi (w.take 4) := by
      rw [List.set_eq_take_append_cons_drop, if_pos hlen, hpending]
      exact atoi_append (fun c hc => hdigits c (List.mem_of_mem_take hc)) _
    have hkept : keptPorts [w] = [(atoi (s.portBuf.set s.portBufIdx 0)).toUInt16] := by
      rw [hatoi, keptPorts, List.filter_cons_of_pos (by simpa using hw)]
      rfl
    have hcount : s.ports.count < s.ports.array.length := h.count ▸ hroom
    rw [Scan.store, if_pos (by omega), h.write 0, Option.bind_some, if_pos hcount]
    refine ⟨_, rfl, ⟨(List.length_set ..).trans h.buf, rfl, rfl, ?_, ?_⟩, List.length_set ..⟩
    · simp [hkept, h.count]
    · rw [hkept, List.length_append, List.length_singleton, h.count, take_succ_set hroom, h.stored]

end Scan.Holds

/-! ## The loop -/

theorem scan_full (h : s.Holds w ps) (hfull : maxPorts ≤ ps.length) (str : List UInt8) :
    scan maxPorts str s = some s := by
  have hcount : ¬s.ports.count < maxPorts := by
    rw [h.count]
    omega
  cases str with
  | nil => rfl
  | cons c str => rw [scan, if_neg hcount]

/-- The digits of an item. -/
theorem scan_item (h : s.Holds w ps) (hroom : ps.length < maxPorts)
    (hdigits : ∀ c ∈ item, isdigit c = true)
    (str : List UInt8) :
    ∃ s', scan maxPorts (item ++ str) s = scan maxPorts str s' ∧ s'.Holds
    (w ++ item) ps ∧ s'.ports = s.ports := by
  induction item generalizing s w with
  | nil => exact ⟨s, rfl, by rwa [List.append_nil], rfl⟩
  | cons c item ih =>
    obtain ⟨s₁, hs₁, h₁, hports₁⟩ := h.digit c
    obtain ⟨s', hs', h', hports'⟩ := ih h₁ fun c hc => hdigits c (List.mem_cons_of_mem _ hc)
    refine ⟨s', ?_, ?_, hports'.trans hports₁⟩
    · rw [List.cons_append, scan, if_pos (h.count ▸ hroom), Scan.char,
        if_pos (hdigits c List.mem_cons_self), hs₁]
      exact hs'
    · rwa [← List.append_cons] at h'

/-- The rest of the list is not looked at once the array is full. -/
theorem scan_items_full (h : s.Holds [] ps) (hfull : ps.length = maxPorts) (str : List UInt8)
    (qs : List UInt16) :
    (scan maxPorts str s).bind Scan.store = some s ∧ s.Holds [] ((ps ++ qs).take maxPorts) := by
  constructor
  · rw [scan_full h hfull.ge, Option.bind_some, Scan.store, if_neg (by simp [h.idx])]
  · rwa [← hfull, List.take_left]

/-- The whole loop and the item it leaves behind: the first `maxPorts` items are stored. -/
theorem scan_items (h : s.Holds [] ps) (hps : ps.length ≤ maxPorts)
    (harray : maxPorts ≤ s.ports.array.length)
    (hdigits : ∀ item ∈ items, ∀ c ∈ item, isdigit c = true) :
    ∃ s', (scan maxPorts ([comma].intercalate items) s).bind Scan.store = some s' ∧
      s'.Holds [] ((ps ++ keptPorts items).take maxPorts) := by
  induction items generalizing s ps with
  | nil =>
    refine ⟨s, ?_, ?_⟩
    · show Scan.store s = some s
      rw [Scan.store, if_neg (by simp [h.idx])]
    · rwa [keptPorts, List.filter_nil, List.map_nil, List.append_nil, List.take_of_length_le hps]
  | cons item items ih =>
    rcases hps.eq_or_lt with hfull | hroom
    · exact ⟨s, scan_items_full h hfull _ _⟩
    · have hitem := hdigits item List.mem_cons_self
      have hone : (ps ++ keptPorts [item]).length ≤ maxPorts := by
        have := List.length_filter_le (· ≠ []) [item]
        rw [List.length_append, keptPorts, List.length_map]
        simp only [List.length_singleton] at this
        omega
      cases items with
      | nil =>
        obtain ⟨s₁, hs₁, h₁, hports₁⟩ := scan_item h hroom hitem []
        obtain ⟨s₂, hs₂, h₂, -⟩ := h₁.store hitem (hports₁ ▸ hroom.trans_le harray)
        refine ⟨s₂, ?_, ?_⟩
        · rw [List.append_nil] at hs₁
          rw [List.intercalate_singleton, hs₁]
          exact hs₂
        · rwa [List.take_of_length_le hone]
      | cons next items =>
        obtain ⟨s₁, hs₁, h₁, hports₁⟩ :=
          scan_item h hroom hitem (comma :: [comma].intercalate (next :: items))
        obtain ⟨s₂, hs₂, h₂, harray₂⟩ := h₁.store hitem (hports₁ ▸ hroom.trans_le harray)
        obtain ⟨s', hs', h'⟩ := ih h₂ hone (by rw [harray₂, hports₁]; exact harray)
          fun item hitem => hdigits item (List.mem_cons_of_mem _ hitem)
        refine ⟨s', ?_, ?_⟩
        · have hcomma : isdigit comma ≠ true := by decide
          rw [List.intercalate_cons_cons, List.append_assoc, List.singleton_append, hs₁, scan,
            if_pos (h₁.count ▸ hroom), Scan.char, if_neg hcomma, if_pos rfl, hs₂]
          exact hs'
        · rwa [keptPorts_cons, ← List.append_assoc]

/-! ## The whole function -/

variable {type : PortType} {st : State} {scratch : List UInt8} {str : List UInt8}

/-- A second use changes nothing. -/
theorem initAllowedPorts_of_initialized (h : st.initialized type = true) (scratch : List UInt8)
    (str : Option (List UInt8)) (maxPorts : Nat) :
    initAllowedPorts scratch type str maxPorts st = some st :=
  if_pos h

theorem initAllowedPorts_nil (h : st.initialized type = false) :
    initAllowedPorts scratch type (some []) maxPorts st =
      some { st with ports :=
      Function.update st.ports type { st.ports type with count := 0 } } := by
  rw [initAllowedPorts, if_neg (by simp [h])]

theorem initAllowedPorts_str (h : st.initialized type = false) (hstr : str ≠ []) :
    initAllowedPorts scratch type (some str) maxPorts st =
      ((scan maxPorts str { portBuf := scratch, ports := { st.ports type with count := 0 } }).bind
      Scan.store).map
        fun s =>
          { initialized := Function.update st.initialized type true
            ports := Function.update st.ports type s.ports } := by
  rw [initAllowedPorts, if_neg (by simp [h])]
  cases str with
  | nil => exact absurd rfl hstr
  | cons c str => rfl

/-- What a list that is not empty leaves behind. -/
theorem initAllowedPorts_stored (l : PortList) (hfirst : st.initialized type = false)
    (hscratch : scratch.length = portBufSize) (harray : maxPorts ≤ (st.ports type).array.length)
    (hstr : l.str ≠ []) :
    ∃ st', initAllowedPorts scratch type (some l.str) maxPorts st = some st' ∧
      st'.initialized type = true ∧
      (st'.ports type).count = min maxPorts (keptPorts l.items).length ∧
      (st'.ports type).array.take (st'.ports type).count = (keptPorts l.items).take maxPorts := by
  have hstart : Scan.Holds [] []
      { portBuf := scratch, ports := { st.ports type with count := 0 } } :=
        ⟨hscratch, rfl, rfl, rfl, rfl⟩
  obtain ⟨s', hs', h'⟩ := scan_items hstart (Nat.zero_le maxPorts) harray l.digits
  rw [List.nil_append] at h'
  have hcount := h'.count
  have hstored := h'.stored
  rw [← hcount] at hstored
  rw [List.length_take] at hcount
  refine ⟨{ initialized := Function.update st.initialized type true
            ports := Function.update st.ports type s'.ports }, ?_, ?_, ?_, ?_⟩
  · rw [initAllowedPorts_str hfirst hstr, PortList.str, hs', Option.map_some]
  · exact Function.update_self type true st.initialized
  · simpa only [Function.update_self] using hcount
  · simpa only [Function.update_self] using hstored

/-- An item is stored as it is written unless it has five digits, of which the last is lost. -/
theorem kept_eq_iff (hdigits : ∀ c ∈ item, isdigit c = true) (hshort : item.length ≤ 5)
    (hrange : atoi item < 65536) :
    kept item = (atoi item).toUInt16 ↔ (item.length = 5 → ∀ c ∈ item, c = 48) := by
  rcases hshort.lt_or_eq with hless | hfive
  · rw [kept, List.take_of_length_le (by omega)]
    exact ⟨fun _ h => absurd h (by omega), fun _ => rfl⟩
  · obtain ⟨c, hc⟩ : ∃ c, item.drop 4 = [c] := List.length_eq_one_iff.1 (by simp [hfive])
    have hsplit : item.take 4 ++ [c] = item := by rw [← hc, List.take_append_drop]
    have hatoi := atoi_snoc (w := item.take 4) (c := c) (by rwa [hsplit])
    have hdigit := isdigit_toNat.1 (hdigits c (by rw [← hsplit]; simp))
    rw [hsplit] at hatoi
    have hzero := atoi_eq_zero_iff hdigits
    rw [← hzero, kept, ← UInt16.toNat_inj]
    simp only [Nat.toUInt16, UInt16.toNat_ofNat']
    omega

theorem length_keptPorts (l : PortList) : (keptPorts l.items).length = l.ports.length := by
  rw [keptPorts, PortList.ports, PortList.written, List.length_map, List.length_map]

/-- What is stored is what is listed, as far as it is stored. -/
theorem take_keptPorts_eq_iff (l : PortList) (maxPorts : Nat) :
    (keptPorts l.items).take maxPorts = l.ports.take maxPorts ↔
      ∀ item ∈ l.written.take maxPorts, item.length = 5 → ∀ c ∈ item, c = 48 := by
  rw [keptPorts, PortList.ports, ← List.map_take, ← List.map_take]
  show (l.written.take maxPorts).map kept = _ ↔ _
  rw [List.map_inj_left]
  refine forall₂_congr fun item hitem => ?_
  have hmem : item ∈ l.items := (List.mem_filter.1 (List.mem_of_mem_take hitem)).1
  exact kept_eq_iff (l.digits item hmem) (l.short item hmem) (l.inRange item hmem)

/-- A first use with an empty list is not marked, so that the next one is a first use again. -/
theorem not_parsed_nil (l : PortList) (hstr : l.str = []) (hfirst : st.initialized type = false)
    {st' : State}
    (hst' : initAllowedPorts scratch type (some l.str) maxPorts st = some st') :
    ¬Parsed type l maxPorts st' := by
  rw [hstr, initAllowedPorts_nil hfirst, Option.some_inj] at hst'
  have hst'first : st'.initialized type = false := by
    rw [← hst']
    exact hfirst
  intro hparsed
  have honce := hparsed.once scratch (some [comma]) 0
  rw [initAllowedPorts_str hst'first (List.cons_ne_nil _ _)] at honce
  obtain ⟨s, -, hs⟩ := Option.map_eq_some_iff.1 honce
  rw [← hs] at hst'first
  have hmarked : Function.update st'.initialized type true type = true := Function.update_self ..
  exact Bool.false_ne_true (hst'first.symm.trans hmarked)

/-- **The list is parsed exactly** if it is not empty and none of the ports that count has five
digits. -/
theorem initAllowedPorts_parsed_iff (l : PortList) (type : PortType) (st : State)
    (scratch : List UInt8)
    (maxPorts : Nat) (hfirst : st.initialized type = false)
    (hscratch : scratch.length = portBufSize)
    (harray : maxPorts ≤ (st.ports type).array.length) :
    (∃ st', initAllowedPorts scratch type (some l.str) maxPorts st = some st' ∧
      Parsed type l maxPorts st') ↔
      l.str ≠ [] ∧ ∀ item ∈ l.written.take maxPorts, item.length = 5 → ∀ c ∈ item, c = 48 := by
  rw [← take_keptPorts_eq_iff]
  constructor
  · rintro ⟨st', hst', hparsed⟩
    by_cases hstr : l.str = []
    · exact absurd hparsed (not_parsed_nil l hstr hfirst hst')
    · obtain ⟨st'', hst'', -, -, hstored⟩ := initAllowedPorts_stored l hfirst hscratch harray hstr
      obtain rfl : st'' = st' := Option.some.inj (hst''.symm.trans hst')
      exact ⟨hstr, hstored.symm.trans hparsed.stored⟩
  · rintro ⟨hstr, hkept⟩
    obtain ⟨st', hst', hmarked, hcount, hstored⟩ :=
      initAllowedPorts_stored l hfirst hscratch harray hstr
    rw [hkept] at hstored
    refine ⟨st', hst', by rw [hcount, length_keptPorts], hstored, fun port => ?_, ?_⟩
    · rw [Ports.allowed, hstored, List.contains_iff_mem]
    · exact initAllowedPorts_of_initialized hmarked

/-- The four lists before the first use. -/
def atBoot : State where
  ports := fun _ => ⟨List.replicate 10 0, 0⟩

/-- `80,,443`. -/
def webPorts : PortList where
  items := [[56, 48], [], [52, 52, 51]]
  digits := by simp [isdigit]
  short := by decide
  inRange := by decide

theorem initAllowedPorts_parsed_webPorts :
    ∃ st', initAllowedPorts [0, 0, 0, 0, 0, 0] .tcpDst (some webPorts.str) 10 atBoot = some st' ∧
      Parsed .tcpDst webPorts 10 st' :=
  (initAllowedPorts_parsed_iff webPorts .tcpDst atBoot [0, 0, 0, 0, 0, 0] 10 rfl rfl (by decide)).2
    ⟨by decide, by decide⟩

/-- `12345`. -/
def fiveDigits : PortList where
  items := [[49, 50, 51, 52, 53]]
  digits := by simp [isdigit]
  short := by decide
  inRange := by decide

/-- 1234 is stored for 12345. -/
theorem initAllowedPorts_fiveDigits :
    ¬∃ st', initAllowedPorts [0, 0, 0, 0, 0, 0] .tcpDst (some fiveDigits.str) 10 atBoot = some st' ∧
      Parsed .tcpDst fiveDigits 10 st' := by
  rintro ⟨st', hst', hparsed⟩
  cases hst'
  have hstored := hparsed.stored
  exact absurd hstored (by decide)

end EspHostedOpen.ReservedPorts
