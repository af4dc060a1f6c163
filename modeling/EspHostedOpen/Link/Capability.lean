import EspHostedOpen.Slave.Caps

/-!
# The capability bitmap from slave to host

`MARK` on the slave and `esp_hosted_open_has_capability` on the host both reduce a message id to its
low byte. The bitmap is a set of request ids (`hasCapability_eq_mem`): an id of another kind is
answered for the request that has its low byte, `requestOf`.
-/

namespace EspHostedOpen

/-- `esp_hosted_open_has_capability`. -/
def hasCapability (requestMsgId : UInt32) (caps : List UInt8) : Bool :=
  let low := requestMsgId &&& 0xFF
  if low.toNat ≥ phyRpcCapsBytes * 8 then false else Bitmap.testBit low.toNat caps

/-- The bitmap after `MARK` of each id in turn, from all zero bytes. -/
def markedCaps (ids : List UInt32) : List UInt8 :=
  ids.foldl (fun caps id => mark id true caps) (List.replicate phyRpcCapsBytes 0)

/-- The ids the bitmap was made for: `PHY_RPC_MSG_BASE | n` with `n < 128`. -/
def IsRequestId (q : UInt32) : Prop := ∃ n : UInt32, n < 128 ∧ q = phyRpcMsgBase ||| n

/-- The request id with the low byte of `q`. -/
def requestOf (q : UInt32) : UInt32 := phyRpcMsgBase ||| (q &&& 0xFF)

theorem capIndex_eq_mod (q : UInt32) : capIndex q = q.toNat % 256 := by
  rw [capIndex, UInt32.toNat_and]
  exact Nat.and_two_pow_sub_one_eq_mod q.toNat 8

/-- The namespace leaves the low byte alone. -/
theorem low_base_or (x : UInt32) : (phyRpcMsgBase ||| x) &&& 0xFF = x &&& 0xFF := by
  have hbase : phyRpcMsgBase.toNat &&& (0xFF : UInt32).toNat = 0 := by decide
  apply UInt32.toNat_inj.1
  rw [UInt32.toNat_and, UInt32.toNat_or, Nat.and_or_distrib_right, hbase, Nat.zero_or,
    UInt32.toNat_and]

theorem low_requestId {n : UInt32} (h : n < 128) : (phyRpcMsgBase ||| n) &&& 0xFF = n := by
  have hlt : n.toNat < 128 := UInt32.lt_iff_toNat_lt.1 h
  apply UInt32.toNat_inj.1
  rw [low_base_or, show (n &&& 0xFF).toNat = n.toNat % 256 from capIndex_eq_mod n,
    Nat.mod_eq_of_lt (by omega)]

theorem requestOf_of_isRequestId {q : UInt32} (h : IsRequestId q) : requestOf q = q := by
  obtain ⟨n, hn, rfl⟩ := h
  rw [requestOf, low_requestId hn]

theorem IsRequestId.capIndex_lt {q : UInt32} (h : IsRequestId q) :
    capIndex q < phyRpcCapsBytes * 8 := by
  obtain ⟨n, hn, rfl⟩ := h
  rw [capIndex, low_requestId hn]
  exact UInt32.lt_iff_toNat_lt.1 hn

/-- The low byte of a request id that has one below 128 names the request. -/
theorem eq_requestOf_iff {id q : UInt32} (hid : IsRequestId id) :
    id = requestOf q ↔ capIndex id = capIndex q := by
  constructor
  · intro h
    have hlow : requestOf q &&& 0xFF = q &&& 0xFF := by
      rw [requestOf, low_base_or, UInt32.and_assoc, UInt32.and_self]
    rw [h, capIndex, hlow, capIndex]
  · intro h
    have hlow : id &&& 0xFF = q &&& 0xFF := UInt32.toNat_inj.1 h
    rw [← requestOf_of_isRequestId hid, requestOf, requestOf, hlow]

/-! ## The round trip -/

theorem hasCapability_eq (q : UInt32) (caps : List UInt8) :
    hasCapability q caps = (decide (capIndex q < phyRpcCapsBytes * 8) && capBit caps q) := by
  unfold hasCapability capBit capIndex
  by_cases h : (q &&& 0xFF).toNat < phyRpcCapsBytes * 8
  · rw [if_neg (by omega), decide_eq_true h, Bool.true_and]
  · rw [if_pos (by omega), decide_eq_false h, Bool.false_and]

/-- **One `MARK`** adds the ids with its low byte. -/
theorem hasCapability_mark {caps : List UInt8} (hlen : caps.length = phyRpcCapsBytes)
    (id q : UInt32) :
    hasCapability q (mark id true caps) = true ↔
      (capIndex q < phyRpcCapsBytes * 8 ∧ capIndex id = capIndex q) ∨
        hasCapability q caps = true := by
  rw [hasCapability_eq, hasCapability_eq, mark]
  by_cases hid : capIndex id < phyRpcCapsBytes * 8
  · have hroom : capIndex id / 8 < caps.length := by omega
    rw [if_pos ⟨hid, rfl⟩]
    unfold capBit
    rw [Bitmap.testBit_setBit hroom]
    simp only [Bool.and_eq_true, Bool.or_eq_true, decide_eq_true_iff]
    tauto
  · rw [if_neg fun h => hid h.1]
    constructor
    · exact Or.inr
    · rintro (⟨hq, heq⟩ | h)
      · exact absurd (heq ▸ hq) hid
      · exact h

/-- **What the host reads back** of any list of marks. -/
theorem hasCapability_markedCaps (ids : List UInt32) (q : UInt32) :
    hasCapability q (markedCaps ids) = true ↔
      capIndex q < phyRpcCapsBytes * 8 ∧ ∃ id ∈ ids, capIndex id = capIndex q := by
  have hfold : ∀ {caps : List UInt8}, caps.length = phyRpcCapsBytes →
      (hasCapability q (ids.foldl (fun caps id => mark id true caps) caps) = true ↔
        (capIndex q < phyRpcCapsBytes * 8 ∧ ∃ id ∈ ids, capIndex id = capIndex q) ∨
          hasCapability q caps = true) := by
    induction ids with
    | nil => simp
    | cons id ids ih =>
      intro caps hlen
      rw [List.foldl_cons, ih (by rw [length_mark, hlen]), hasCapability_mark hlen]
      simp only [List.mem_cons, exists_eq_or_imp, and_or_left, or_assoc]
      exact or_left_comm
  have hnone : hasCapability q (List.replicate phyRpcCapsBytes 0) = false := by
    rw [hasCapability_eq, capBit, Bitmap.testBit_replicate, Bool.and_false]
  rw [markedCaps, hfold (List.length_replicate ..), hnone]
  simp

/-- The bitmap is a set of request ids: an id is answered for the request with its low byte. -/
theorem hasCapability_eq_mem {ids : List UInt32} (hids : ∀ id ∈ ids, IsRequestId id) (q : UInt32) :
    (hasCapability q (markedCaps ids) = true ↔ requestOf q ∈ ids) ∧
      (IsRequestId q → (hasCapability q (markedCaps ids) = true ↔ q ∈ ids)) := by
  have hmem : hasCapability q (markedCaps ids) = true ↔ requestOf q ∈ ids := by
    rw [hasCapability_markedCaps]
    constructor
    · rintro ⟨-, id, hid, heq⟩
      rwa [← (eq_requestOf_iff (hids id hid)).2 heq]
    · intro h
      have heq : capIndex (requestOf q) = capIndex q := (eq_requestOf_iff (hids _ h)).1 rfl
      exact ⟨heq ▸ (hids _ h).capIndex_lt, requestOf q, h, heq⟩
  refine ⟨hmem, fun hq => ?_⟩
  rw [hmem, requestOf_of_isRequestId hq]

theorem Rpc.isRequestId (r : Rpc) : IsRequestId r.req := by
  refine ⟨r.req &&& 0xFF, UInt32.lt_iff_toNat_lt.2 (EspHostedOpen.capIndex_lt r), ?_⟩
  cases r <;> decide

theorem hasCapability_eq_mem_two :
    hasCapability Rpc.getCaps.req (markedCaps [Rpc.setChannel.req, Rpc.getCaps.req]) = true ↔
      Rpc.getCaps.req ∈ [Rpc.setChannel.req, Rpc.getCaps.req] := by
  have hids : ∀ id ∈ [Rpc.setChannel.req, Rpc.getCaps.req], IsRequestId id := by
    intro id hid
    rcases List.mem_pair.1 hid with rfl | rfl <;> exact Rpc.isRequestId _
  exact (hasCapability_eq_mem hids Rpc.getCaps.req).2 (Rpc.isRequestId _)

/-- **Aliasing**: a response id, and an id of no namespace, pass for the request. -/
theorem hasCapability_alias :
    ¬∀ (ids : List UInt32) (q : UInt32), (∀ id ∈ ids, IsRequestId id) →
      (hasCapability q (markedCaps ids) = true ↔ IsRequestId q ∧ q ∈ ids) := by
  intro h
  have hids : ∀ id ∈ [Rpc.setChannel.req], IsRequestId id := by
    intro id hid
    rw [List.mem_singleton.1 hid]
    exact Rpc.isRequestId _
  have hread : hasCapability Rpc.setChannel.resp (markedCaps [Rpc.setChannel.req]) =
    true := by decide
  have hmem := ((h [Rpc.setChannel.req] Rpc.setChannel.resp hids).1 hread).2
  exact absurd hmem (by decide)

/-! ## The bitmap of a slave -/

/-- The marks of a handler list are the ids of its present requests. -/
theorem markAll_eq_markedCaps (marks : List (Rpc × Bool)) :
    markAll marks (List.replicate phyRpcCapsBytes 0) =
      markedCaps ((marks.filter (·.2)).map (·.1.req)) := by
  rw [markAll, markedCaps, List.foldl_map]
  generalize List.replicate phyRpcCapsBytes (0 : UInt8) = caps
  induction marks generalizing caps with
  | nil => rfl
  | cons m marks ih =>
    obtain ⟨r, p⟩ := m
    cases p with
    | false =>
      have hskip : mark r.req false caps = caps := if_neg fun h => Bool.false_ne_true h.2
      rw [List.foldl_cons, List.filter_cons_of_neg Bool.false_ne_true, hskip, ih]
    | true => exact ih _

/-- **A slave's bitmap at the host**: an id is reported where the request with its low byte is
wired. -/
theorem hasCapability_getCaps (res : Sym → Bool) (q : UInt32) :
    hasCapability q (getCaps res) = true ↔ ∃ r : Rpc, requestOf q = r.req ∧
      advertised res r = true := by
  have hids : ∀ id ∈ ((markOrder.map fun r => (r, advertised res r)).filter (·.2)).map (·.1.req),
      IsRequestId id := by
    intro id hid
    obtain ⟨m, -, rfl⟩ := List.mem_map.1 hid
    exact Rpc.isRequestId m.1
  rw [getCaps_eq_markAll, markAll_eq_markedCaps, (hasCapability_eq_mem hids q).1]
  simp only [List.mem_map, List.mem_filter]
  constructor
  · rintro ⟨m, ⟨⟨r, -, rfl⟩, hp⟩, hid⟩
    exact ⟨r, hid.symm, hp⟩
  · rintro ⟨r, hid, hp⟩
    exact ⟨(r, advertised res r), ⟨⟨r, mem_markOrder r, rfl⟩, hp⟩, hid.symm⟩

end EspHostedOpen
