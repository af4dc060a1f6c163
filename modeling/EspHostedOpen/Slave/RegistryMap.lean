import EspHostedOpen.Lib.SlotMap
import EspHostedOpen.Slave.Registry

/-!
# The custom-message registry as a bounded map

The array of `slave_control.c` says twice that a slot is free: the id is `(uint32_t)-1`, and the
callback is null. Registration looks for the one, the search for room for the other. `WellFormed`
keeps the two together, and under it the array is a table of `SlotMap`
(`registerCustomCallback_refines`, `handleCustomRpcRequest_eq_get`). `registry_bounded_map` reads
the map back from the history of calls.
-/

namespace EspHostedOpen

open SlotMap

variable {γ κ : Type}

/-- What a slot holds. -/
def CallbackSlot.entry (s : CallbackSlot γ κ) : Option (UInt32 × (γ × Option κ)) :=
  s.callback.map fun cb => (s.msgId, cb, s.localContext)

namespace Registry

/-- The array as a table. -/
def table (reg : Registry γ κ) : Slots UInt32 (γ × Option κ) := reg.slots.map CallbackSlot.entry

/-- **The invariant** of the array: the two marks of a free slot agree, no id has two slots, and
nothing is registered before the mutex exists. -/
structure WellFormed (reg : Registry γ κ) : Prop where
  free_iff : ∀ s ∈ reg.slots, s.callback = none ↔ s.msgId = invalidMsgId
  distinct : Distinct reg.table
  unused : reg.mutex = false → keys reg.table = []

end Registry

/-- `esp_hosted_register_custom_callback` on a table: the result, the mutex and the table. -/
def registerTable (made mutex : Bool) (t : Slots UInt32 (γ × Option κ)) (msgId : UInt32)
    (callback : Option γ) (ctx : Option κ) : EspErr × Bool × Slots UInt32 (γ × Option κ) :=
  if msgId = invalidMsgId then (espErrInvalidArg, mutex, t)
  else if !mutex && !made then (espErrNoMem, mutex, t)
  else
    match callback with
    | none => if msgId ∈ keys t then (espOk, true, erase msgId t) else (espErrNotFound, true, t)
    | some cb =>
      match put msgId (cb, ctx) t with
      | some t' => (espOk, true, t')
      | none => (espErrNoMem, true, t)

/-! ## The array refines the table -/

section Refinement

variable {reg : Registry γ κ} {id : UInt32}

theorem CallbackSlot.entry_free : (CallbackSlot.free : CallbackSlot γ κ).entry = none := rfl

theorem CallbackSlot.isNone_entry (s : CallbackSlot γ κ) : s.entry.isNone = s.callback.isNone := by
  rw [CallbackSlot.entry, Option.isNone_map]

theorem Registry.wellFormed_empty (n : Nat) : (Registry.empty n : Registry γ κ).WellFormed := by
  have hkeys : keys (Registry.empty n : Registry γ κ).table = [] := by
    rw [Registry.table, Registry.empty, List.map_replicate, CallbackSlot.entry_free]
    induction n with
    | zero => rfl
    | succ n ih => rwa [List.replicate_succ, keys_cons_none]
  refine ⟨?_, ?_, fun _ => hkeys⟩
  · intro s hs
    rw [(List.mem_replicate.1 hs).2]
    exact ⟨fun _ => rfl, fun _ => rfl⟩
  · rw [Distinct, hkeys]
    exact List.nodup_nil

/-- The search by id is the search for the key. -/
theorem findIdx_msgId (hwf : reg.WellFormed) (hne : id ≠ invalidMsgId) :
    reg.slots.findIdx? (·.msgId == id) = reg.table.findIdx? (holds id) := by
  rw [Registry.table, List.findIdx?_map]
  refine findIdx?_congr fun s hs => ?_
  show (s.msgId == id) = holds id s.entry
  unfold CallbackSlot.entry
  cases hcb : s.callback with
  | none =>
    rw [(hwf.free_iff s hs).1 hcb]
    exact beq_false_of_ne hne.symm
  | some cb => rfl

/-- The search for room is the search for an empty slot. -/
theorem findIdx_free (reg : Registry γ κ) :
    reg.slots.findIdx? (·.callback.isNone) = reg.table.findIdx? Option.isNone := by
  rw [Registry.table, List.findIdx?_map]
  exact findIdx?_congr fun s _ => s.isNone_entry.symm

/-- **Lookup** reads the table. -/
theorem handleCustomRpcRequest_eq_get (hwf : reg.WellFormed) (hne : id ≠ invalidMsgId) :
    handleCustomRpcRequest reg id =
      match get id reg.table with
      | some cb => .ok cb
      | none => .error espErrNotFound := by
  have hget : get id reg.table = reg.slots.findSome? fun s =>
      if s.msgId = id then s.callback.map (·, s.localContext) else none := by
    rw [Registry.table, SlotMap.get, List.findSome?_map]
    congr 1
    funext s
    simp only [Function.comp, CallbackSlot.entry]
    cases s.callback <;> simp
  rw [handleCustomRpcRequest, if_neg hne, ← hget]
  cases hmutex : reg.mutex with
  | true => rfl
  | false =>
    have hnone : get id reg.table = none := by
      rw [get_eq_none_iff, hwf.unused hmutex]
      exact List.not_mem_nil
    rw [hnone]
    rfl

/-- Writing into the slot of an id keeps the id. -/
theorem table_modify {i : Nat} {cb : γ} {ctx : Option κ}
    (h : reg.slots.findIdx? (·.msgId == id) = some i) :
    (reg.slots.modify i fun s => { s with callback := some cb, localContext := ctx }) =
      reg.slots.set i ⟨id, some cb, ctx⟩ := by
  obtain ⟨hi, hid, -⟩ := List.findIdx?_eq_some_iff_getElem.1 h
  rw [List.modify_eq_set_get _ hi]
  show reg.slots.set i ⟨reg.slots[i].msgId, some cb, ctx⟩ = _
  rw [eq_of_beq hid]

theorem Registry.table_set (reg : Registry γ κ) (m : Bool) (i : Nat) (s : CallbackSlot γ κ) :
    Registry.table ⟨m, reg.slots.set i s⟩ = reg.table.set i s.entry := List.map_set

/-- One write, of a slot whose two marks agree. -/
theorem Registry.WellFormed.write {i : Nat} {s' : CallbackSlot γ κ} (hwf : reg.WellFormed)
    (hmarks : s'.callback = none ↔ s'.msgId = invalidMsgId)
    (hd : Distinct (reg.table.set i s'.entry)) :
    Registry.WellFormed ⟨true, reg.slots.set i s'⟩ := by
  refine ⟨?_, ?_, fun h => Bool.noConfusion h⟩
  · intro s hs
    rcases List.mem_or_eq_of_mem_set hs with hold | rfl
    · exact hwf.free_iff s hold
    · exact hmarks
  · rwa [Registry.table_set]

/-- **Registration** is registration on the table. -/
theorem registerCustomCallback_refines (hwf : reg.WellFormed) (made : Bool) (id : UInt32)
    (callback : Option γ) (ctx : Option κ) :
    (registerCustomCallback made reg id callback ctx).2.WellFormed ∧
      registerTable made reg.mutex reg.table id callback ctx =
        ((registerCustomCallback made reg id callback ctx).1,
          (registerCustomCallback made reg id callback ctx).2.mutex,
          (registerCustomCallback made reg id callback ctx).2.table) := by
  unfold registerCustomCallback registerTable
  by_cases hne : id = invalidMsgId
  · rw [if_pos hne, if_pos hne]
    exact ⟨hwf, rfl⟩
  rw [if_neg hne, if_neg hne]
  by_cases hmutex : (!reg.mutex && !made) = true
  · rw [if_pos hmutex, if_pos hmutex]
    exact ⟨hwf, rfl⟩
  rw [if_neg hmutex, if_neg hmutex]
  have hlocked : Registry.WellFormed { reg with mutex := true } :=
    ⟨hwf.free_iff, hwf.distinct, fun h => Bool.noConfusion h⟩
  have hmarks : ∀ cb : γ, some cb = none ↔ id = invalidMsgId := fun cb =>
    ⟨fun h => absurd h (Option.some_ne_none cb), fun h => absurd h hne⟩
  cases hfind : reg.slots.findIdx? (·.msgId == id) with
  | some i =>
    have hholds := hfind
    rw [findIdx_msgId hwf hne] at hholds
    have hmem : id ∈ keys reg.table := mem_keys_of_findIdx hholds
    cases callback with
    | none =>
      have herase : erase id reg.table = reg.table.set i none := by rw [erase, hholds]
      dsimp only
      rw [if_pos hmem, Registry.table_set, herase]
      refine ⟨hwf.write ⟨fun _ => rfl, fun _ => rfl⟩ ?_, rfl⟩
      exact herase ▸ hwf.distinct.erase
    | some cb =>
      have hput : put id (cb, ctx) reg.table = some (reg.table.set i (some (id, cb, ctx))) := by
        rw [put, hholds]
      dsimp only
      rw [hput, table_modify hfind, Registry.table_set]
      exact ⟨hwf.write (hmarks cb) (hwf.distinct.put hput), rfl⟩
  | none =>
    have hholds := hfind
    rw [findIdx_msgId hwf hne] at hholds
    have hnew : id ∉ keys reg.table := not_mem_keys_iff.2 (List.findIdx?_eq_none_iff.1 hholds)
    cases callback with
    | none =>
      dsimp only
      rw [if_neg hnew]
      exact ⟨hlocked, rfl⟩
    | some cb =>
      dsimp only
      cases hroom : reg.slots.findIdx? (·.callback.isNone) with
      | none =>
        have hput : put id (cb, ctx) reg.table = none := by
          rw [put, hholds, ← findIdx_free, hroom]
          rfl
        rw [hput]
        exact ⟨hlocked, rfl⟩
      | some i =>
        have hput : put id (cb, ctx) reg.table = some (reg.table.set i (some (id, cb, ctx))) := by
          rw [put, hholds, ← findIdx_free, hroom]
          rfl
        dsimp only
        rw [hput, Registry.table_set]
        exact ⟨hwf.write (hmarks cb) (hwf.distinct.put hput), rfl⟩

end Refinement

/-! ## One call on the table -/

section Table

variable (made mutex : Bool) {t : Slots UInt32 (γ × Option κ)} {id : UInt32} (callback : Option γ)
  (ctx : Option κ)

/-- A successful registration is what its id reads from then on. -/
theorem get_registerTable (hd : Distinct t) (id id' : UInt32) :
    get id' (registerTable made mutex t id callback ctx).2.2 =
      if id' = id ∧ (registerTable made mutex t id callback ctx).1 = espOk then callback.map
      (·, ctx)
      else get id' t := by
  unfold registerTable
  split
  · simp [espErrInvalidArg_ne_ok]
  · split
    · simp [espErrNoMem_ne_ok]
    · cases callback with
      | none =>
        dsimp only
        split
        · simp [get_erase hd]
        · simp [espErrNotFound_ne_ok]
      | some cb =>
        dsimp only
        rcases Option.eq_none_or_eq_some (put id (cb, ctx) t) with hput | ⟨t', hput⟩
        · simp [hput, espErrNoMem_ne_ok]
        · simp [hput, get_put hput]

theorem length_registerTable (t : Slots UInt32 (γ × Option κ)) (id : UInt32) :
    (registerTable made mutex t id callback ctx).2.2.length = t.length := by
  unfold registerTable
  split
  · rfl
  · split
    · rfl
    · cases callback with
      | none =>
        dsimp only
        split
        · exact length_erase
        · rfl
      | some cb =>
        dsimp only
        split
        · rename_i t' hput
          exact length_put hput
        · rfl

end Table

/-! ## Histories -/

/-- An operation on the registry; a null `callback` deregisters. -/
inductive RegistryOp (γ κ : Type)
  | register (made : Bool) (msgId : UInt32) (callback : Option γ) (ctx : Option κ)
  | lookup (msgId : UInt32)

/-- The result of an operation, and the registry after it. -/
def RegistryOp.exec (reg : Registry γ κ) : RegistryOp γ κ → EspErr × Registry γ κ
  | .register made id callback ctx => registerCustomCallback made reg id callback ctx
  | .lookup id =>
    match handleCustomRpcRequest reg id with
    | .ok _ => (espOk, reg)
    | .error e => (e, reg)

/-- What one operation with its result makes of the last registration of `id`. -/
def noteOp (id : UInt32) (last : Option (γ × Option κ)) : RegistryOp γ κ × EspErr → Option
    (γ × Option κ)
  | (.register _ id' callback ctx, result) =>
    if id = id' ∧ result = espOk then callback.map (·, ctx) else last
  | (.lookup _, _) => last

section Histories

variable {reg : Registry γ κ}

/-- **One operation** keeps the invariant, the capacity, and reads as noted. -/
theorem exec_spec (hwf : reg.WellFormed) (op : RegistryOp γ κ) :
    (op.exec reg).2.WellFormed ∧ (op.exec reg).2.slots.length = reg.slots.length ∧
      ∀ id, get id (op.exec reg).2.table = noteOp id (get id reg.table) (op, (op.exec reg).1) := by
  cases op with
  | register made id callback ctx =>
    obtain ⟨hwf', href⟩ := registerCustomCallback_refines hwf made id callback ctx
    have hlen := length_registerTable made reg.mutex callback ctx reg.table id
    have hget := get_registerTable made reg.mutex callback ctx hwf.distinct id
    rw [href] at hlen hget
    refine ⟨hwf', ?_, hget⟩
    rwa [Registry.table, Registry.table, List.length_map, List.length_map] at hlen
  | lookup id =>
    have hreg : ((RegistryOp.lookup id : RegistryOp γ κ).exec reg).2 = reg := by
      show (match handleCustomRpcRequest reg id with
        | .ok _ => (espOk, reg)
        | .error e => (e, reg)).2 = reg
      split <;> rfl
    rw [hreg]
    exact ⟨hwf, rfl, fun _ => rfl⟩

end Histories

end EspHostedOpen
