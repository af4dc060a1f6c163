import EspHostedOpen.Proto.Messages

/-!
# The custom-message registry (`slave_control.c`)

`custom_msg_callbacks` is a fixed array searched by message id, filled first-free. The mutex around
it is created on first use, and creating it can fail.

Registering distinct ids on an empty registry of capacity `n` keeps the first `n` of those whose
registration met a mutex (`registerAll_empty`): everything behind them is refused, and the lookup
answers `ESP_ERR_NOT_FOUND` for it (`handleCustomRpcRequest_layout_of_not_mem`).
-/

namespace EspHostedOpen

/-- `(uint32_t)-1`, the id of a free slot. -/
def invalidMsgId : UInt32 := 0xFFFFFFFF

/-- An entry of `custom_msg_callbacks`; `none` is a null pointer. -/
structure CallbackSlot (γ κ : Type) where
  msgId : UInt32 := invalidMsgId
  callback : Option γ := none
  localContext : Option κ := none

/-- The initializer of every element. -/
def CallbackSlot.free {γ κ : Type} : CallbackSlot γ κ := {}

/-- The array, and whether `custom_callbacks_mutex` was created. -/
structure Registry (γ κ : Type) where
  mutex : Bool
  slots : List (CallbackSlot γ κ)

variable {γ κ : Type}

/-- The statics at boot, for `CONFIG_ESP_HOSTED_MAX_CUSTOM_MSG_HANDLERS = n`. -/
def Registry.empty (n : Nat) : Registry γ κ := { mutex := false, slots := List.replicate n .free }

/-- `esp_hosted_register_custom_callback`. `made` is what `xSemaphoreCreateMutex` answers where it
is called; a null `callback` deregisters. -/
def registerCustomCallback (made : Bool) (reg : Registry γ κ) (msgId : UInt32) (callback : Option γ)
    (ctx : Option κ) : EspErr × Registry γ κ :=
  if msgId = invalidMsgId then (espErrInvalidArg, reg)
  else if !reg.mutex && !made then (espErrNoMem, reg)
  else
    match reg.slots.findIdx? (·.msgId == msgId), callback with
    | some i, none => (espOk, { mutex := true, slots := reg.slots.set i .free })
    | some i, some cb =>
      (espOk, { mutex := true,
                slots := reg.slots.modify i fun s =>
                  { s with callback := some cb, localContext := ctx } })
    | none, none => (espErrNotFound, { reg with mutex := true })
    | none, some cb =>
      match reg.slots.findIdx? (·.callback.isNone) with
      | some i => (espOk, { mutex := true, slots := reg.slots.set i ⟨msgId, some cb, ctx⟩ })
      | none => (espErrNoMem, { reg with mutex := true })

/-- `handle_custom_rpc_request` up to the call: the callback and its context, or the error
answered. -/
def handleCustomRpcRequest (reg : Registry γ κ) (msgId : UInt32) : Except EspErr (γ × Option κ) :=
  if msgId = invalidMsgId then .error espErrInvalidArg
  else if reg.mutex then
    match reg.slots.findSome? fun s =>
        if s.msgId = msgId then s.callback.map (·, s.localContext) else none with
    | some cb => .ok cb
    | none => .error espErrNotFound
  else .error espErrNotFound

/-- A registration loop: register each pair of a table, log a failure and go on. -/
def registerAll (made : UInt32 → Bool) (reg : Registry γ κ) (table : List (UInt32 × γ)) :
    Registry γ κ :=
  table.foldl (fun reg e => (registerCustomCallback (made e.1) reg e.1 (some e.2) none).2) reg

theorem registerAll_append (made : UInt32 → Bool) (reg : Registry γ κ) (t t' : List (UInt32 × γ)) :
    registerAll made reg (t ++ t') = registerAll made (registerAll made reg t) t' :=
  List.foldl_append

/-! ## Filling the array -/

def filled (e : UInt32 × γ) : CallbackSlot γ κ := ⟨e.1, some e.2, none⟩

/-- The array of capacity `n` after distinct entries `es` were registered: the first `n` of them,
then free slots. -/
def layout (n : Nat) (es : List (UInt32 × γ)) : List (CallbackSlot γ κ) :=
  (es.take n).map filled ++ List.replicate (n - es.length) .free

theorem layout_nil (n : Nat) :
    layout n ([] : List (UInt32 × γ)) = List.replicate n
    (CallbackSlot.free : CallbackSlot γ κ) := by
  simp [layout]

/-- No slot of the layout carries an id that is not among the entries. -/
theorem findIdx_layout_msgId {n : Nat} {es : List (UInt32 × γ)} {id : UInt32}
    (hne : id ≠ invalidMsgId) (hid : id ∉ es.map Prod.fst) :
    (layout (κ := κ) n es).findIdx? (·.msgId == id) = none := by
  rw [List.findIdx?_eq_none_iff]
  intro s hs
  rw [layout, List.mem_append, List.mem_map] at hs
  rcases hs with ⟨e, he, rfl⟩ | hs
  · have hmem : e.1 ∈ es.map Prod.fst := List.mem_map_of_mem (List.mem_of_mem_take he)
    have hne' : e.1 ≠ id := fun h => hid (h ▸ hmem)
    simpa [filled] using hne'
  · rw [(List.mem_replicate.1 hs).2]
    simpa [CallbackSlot.free] using hne.symm

/-- The first free slot is the one behind the entries, where there is room for one more. -/
theorem findIdx_layout_free (n : Nat) (es : List (UInt32 × γ)) :
    (layout (κ := κ) n es).findIdx? (·.callback.isNone) =
      if es.length < n then some es.length else none := by
  have hfull : ((es.take n).map (filled (κ := κ))).findIdx? (·.callback.isNone) = none := by
    rw [List.findIdx?_eq_none_iff]
    intro s hs
    obtain ⟨e, -, rfl⟩ := List.mem_map.1 hs
    rfl
  rw [layout, List.findIdx?_append, hfull, List.findIdx?_replicate]
  by_cases h : es.length < n
  · have hlen : ((es.take n).map (filled (κ := κ))).length = es.length := by
      rw [List.length_map, List.length_take]
      omega
    rw [if_pos h, if_pos ⟨by omega, rfl⟩, hlen]
    simp
  · rw [if_neg h, if_neg (by omega)]
    simp

theorem layout_snoc_of_lt {n : Nat} {es : List (UInt32 × γ)} (e : UInt32 × γ) (h : es.length < n) :
    (layout (κ := κ) n es).set es.length (filled e) = layout n (es ++ [e]) := by
  have htake : es.take n = es := List.take_of_length_le (by omega)
  have htake' : (es ++ [e]).take n = es ++ [e] :=
    List.take_of_length_le (by rw [List.length_append, List.length_singleton]; omega)
  have hroom : n - es.length = (n - (es ++ [e]).length) + 1 := by
    rw [List.length_append, List.length_singleton]
    omega
  rw [layout, layout, htake, htake', hroom, List.replicate_succ, List.map_append,
    List.set_append_right _ _ (Nat.le_of_eq (List.length_map _))]
  simp

theorem layout_snoc_of_le {n : Nat} {es : List (UInt32 × γ)} (e : UInt32 × γ) (h : n ≤ es.length) :
    layout (κ := κ) n (es ++ [e]) = layout n es := by
  have hroom : n - (es ++ [e]).length = n - es.length := by
    rw [List.length_append, List.length_singleton]
    omega
  rw [layout, layout, List.take_append_of_le_length h, hroom]

/-- **One registration** of a new id appends its entry to the layout, whatever room is left. -/
theorem registerCustomCallback_layout {made : Bool} {mutex : Bool} {n : Nat}
    {es : List (UInt32 × γ)} {e : UInt32 × γ} (hmade : mutex = true ∨ made = true)
    (hne : e.1 ≠ invalidMsgId) (hid : e.1 ∉ es.map Prod.fst) :
    (registerCustomCallback (κ := κ) made ⟨mutex, layout n es⟩ e.1 (some e.2) none).2 =
      ⟨true, layout n (es ++ [e])⟩ := by
  have hmutex : (!mutex && !made) = false := by
    rcases hmade with rfl | rfl <;> simp
  simp only [registerCustomCallback, if_neg hne, hmutex, Bool.false_eq_true, if_false,
    findIdx_layout_msgId hne hid, findIdx_layout_free]
  by_cases h : es.length < n
  · simp only [if_pos h]
    rw [← layout_snoc_of_lt e h]
    rfl
  · simp only [if_neg h]
    rw [layout_snoc_of_le e (by omega)]

theorem registerAll_layout (made : UInt32 → Bool) (n : Nat) {table : List (UInt32 × γ)} :
    ∀ {es : List (UInt32 × γ)}, invalidMsgId ∉ table.map Prod.fst →
      ((es ++ table).map Prod.fst).Nodup →
      registerAll (κ := κ) made ⟨true, layout n es⟩ table = ⟨true, layout n (es ++ table)⟩ := by
  induction table with
  | nil => intro es _ _; rw [List.append_nil]; rfl
  | cons e table ih =>
    intro es hinv hnd
    rw [List.map_cons, List.mem_cons, not_or] at hinv
    have hid : e.1 ∉ es.map Prod.fst := by
      rw [List.map_append, List.map_cons] at hnd
      intro hmem
      exact (List.nodup_append.1 hnd).2.2 _ hmem _ List.mem_cons_self rfl
    rw [registerAll, List.foldl_cons, registerCustomCallback_layout (.inl rfl) (Ne.symm hinv.1) hid,
      ← registerAll, ih hinv.2 (by rwa [List.append_assoc, List.singleton_append]),
      List.append_assoc, List.singleton_append]

/-- **Registering a table on the empty registry**: nothing is kept until the mutex exists, and from
there on the first `n` entries are. -/
theorem registerAll_empty (made : UInt32 → Bool) (n : Nat) {table : List (UInt32 × γ)}
    (hinv : invalidMsgId ∉ table.map Prod.fst) (hnd : (table.map Prod.fst).Nodup) :
    registerAll (κ := κ) made (Registry.empty n) table =
      ⟨table.any fun e => made e.1, layout n (table.dropWhile fun e => !made e.1)⟩ := by
  induction table with
  | nil => rw [List.dropWhile_nil, layout_nil]; rfl
  | cons e table ih =>
    rw [List.map_cons, List.mem_cons, not_or] at hinv
    rw [List.map_cons, List.nodup_cons] at hnd
    cases hm : made e.1 with
    | false =>
      have hstep : registerCustomCallback (κ := κ) false (Registry.empty n) e.1 (some e.2) none =
          (espErrNoMem, Registry.empty n) := by
        simp [registerCustomCallback, Registry.empty, Ne.symm hinv.1]
      rw [registerAll, List.foldl_cons, hm, hstep, ← registerAll, ih hinv.2 hnd.2]
      simp [hm]
    | true =>
      have hstep :
        (registerCustomCallback (κ := κ) true ⟨false, layout n []⟩ e.1 (some e.2) none).2 =
          ⟨true, layout n [e]⟩ :=
        registerCustomCallback_layout (.inr rfl) (Ne.symm hinv.1) List.not_mem_nil
      rw [layout_nil] at hstep
      rw [registerAll, List.foldl_cons, hm, Registry.empty, hstep, ← registerAll,
        registerAll_layout made n hinv.2 (by
          rw [List.singleton_append, List.map_cons]
          exact List.nodup_cons.2 hnd)]
      simp [hm]

/-! ## Looking up -/

/-- What a slot answers to a lookup. -/
theorem findSome_layout {n : Nat} {es : List (UInt32 × γ)} {id : UInt32}
    (hne : id ≠ invalidMsgId) :
    ((layout (κ := κ) n es).findSome? fun s =>
        if s.msgId = id then s.callback.map (·, s.localContext) else none) =
      (es.take n).findSome? fun e => if e.1 = id then some (e.2, none) else none := by
  have hfree : (List.replicate (n - es.length) (.free : CallbackSlot γ κ)).findSome? (fun s =>
      if s.msgId = id then s.callback.map (·, s.localContext) else none) = none := by
    rw [List.findSome?_eq_none_iff]
    intro s hs
    rw [(List.mem_replicate.1 hs).2]
    exact if_neg (Ne.symm hne)
  rw [layout, List.findSome?_append, hfree, Option.or_none, List.findSome?_map]
  rfl

theorem handleCustomRpcRequest_layout_of_mem {n : Nat} {es : List (UInt32 × γ)} {e : UInt32 × γ}
    (hne : e.1 ≠ invalidMsgId) (hnd : (es.map Prod.fst).Nodup) (he : e ∈ es.take n) :
    handleCustomRpcRequest (κ := κ) ⟨true, layout n es⟩ e.1 = .ok (e.2, none) := by
  have hfind : ((es.take n).findSome? fun e' =>
      if e'.1 = e.1 then some (e'.2, (none : Option κ)) else none) = some (e.2, none) := by
    have hnd' : ((es.take n).map Prod.fst).Nodup := by
      rw [List.map_take]
      exact hnd.sublist (List.take_sublist _ _)
    obtain ⟨a, b, hab⟩ := List.append_of_mem he
    rw [hab, List.map_append, List.map_cons] at hnd'
    have hnone : (a.findSome? fun e' =>
        if e'.1 = e.1 then some (e'.2, (none : Option κ)) else none) = none := by
      rw [List.findSome?_eq_none_iff]
      intro e' he'
      refine if_neg fun h => ?_
      exact (List.nodup_append.1 hnd').2.2 _ (List.mem_map_of_mem he') _ List.mem_cons_self h
    rw [hab, List.findSome?_append, hnone, Option.none_or, List.findSome?_cons, if_pos rfl]
  simp only [handleCustomRpcRequest, if_neg hne, if_true, findSome_layout hne, hfind]

theorem handleCustomRpcRequest_layout_of_not_mem {mutex : Bool} {n : Nat} {es : List (UInt32 × γ)}
    {id : UInt32} (hne : id ≠ invalidMsgId) (hid : id ∉ (es.take n).map Prod.fst) :
    handleCustomRpcRequest (κ := κ) ⟨mutex, layout n es⟩ id = .error espErrNotFound := by
  have hfind : ((es.take n).findSome? fun e' =>
      if e'.1 = id then some (e'.2, (none : Option κ)) else none) = none := by
    rw [List.findSome?_eq_none_iff]
    intro e' he'
    exact if_neg fun h : e'.1 = id => hid (h ▸ List.mem_map_of_mem he')
  simp only [handleCustomRpcRequest, if_neg hne, findSome_layout hne, hfind, ite_self]

/-- Whatever the lookup finds is one of the entries. -/
theorem mem_of_handleCustomRpcRequest_layout {mutex : Bool} {n : Nat} {es : List (UInt32 × γ)}
    {id : UInt32} {cb : γ} {ctx : Option κ}
    (h : handleCustomRpcRequest (κ := κ) ⟨mutex, layout n es⟩ id = .ok (cb, ctx)) :
    (id, cb) ∈ es := by
  by_cases hid : id ∈ (es.take n).map Prod.fst
  · unfold handleCustomRpcRequest at h
    split at h
    · cases h
    · rename_i hne
      split at h
      · split at h
        · rename_i found hfind
          cases h
          rw [findSome_layout hne] at hfind
          obtain ⟨e, he, hval⟩ := List.exists_of_findSome?_eq_some hfind
          split at hval
          · rename_i heq
            cases hval
            have hmem := List.mem_of_mem_take he
            rwa [← heq]
          · cases hval
        · cases h
      · cases h
  · by_cases hne : id = invalidMsgId
    · rw [handleCustomRpcRequest, if_pos hne] at h
      cases h
    · rw [handleCustomRpcRequest_layout_of_not_mem hne hid] at h
      cases h

end EspHostedOpen
