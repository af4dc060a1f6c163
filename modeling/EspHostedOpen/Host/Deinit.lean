import Mathlib.Data.List.Range
import EspHostedOpen.Lib.Transition
import EspHostedOpen.Host.Init

/-!
# Taking the host library down again (`phy_rpc.c`)

`esp_hosted_open_deinit` has a table of ids of its own, the one of `init` as it was before the later
requests and six of the events, and it leaves the handles of the deleted `done` semaphores in place.

`init_deinit_cycle`: what it undoes is an `init` that registered nothing, and a sequence of `init`s
and `deinit`s keeps its semaphores in order exactly where no `deinit` finds such handles (`calm`).
`deinit_leaves` is what stays behind in the registry.
-/

namespace EspHostedOpen.HostInit

open SlotMap Transition

variable {α κ : Type}

/-- The functions of the module. Those other than `init` and `deinit` register nothing and assign
none of these statics. -/
inductive ApiOp
  | init (o : Outcomes)
  | deinit (registryMade : UInt32 → Bool)
  | call

def exec (s : State α κ) : ApiOp → State α κ
  | .init o => (espHostedOpenInit o s).2
  | .deinit made => espHostedOpenDeinit made s
  | .call => s

/-- A sequence in which every `init` succeeds. -/
def step (s : State α κ) : ApiOp → Option (State α κ)
  | .init o => if (espHostedOpenInit o s).1 = .returned espOk then some (exec s (.init o)) else none
  | op => some (exec s op)

/-- Every lookup answers as before. -/
def Undone (s s' : State α κ) : Prop :=
  ∀ id, handleCustomRpcRequest s'.registry id = handleCustomRpcRequest s.registry id

/-- No semaphore was deleted twice, and all that exist are in use. -/
def Clean (s : State α κ) : Prop :=
  s.deleted.Nodup ∧ ∀ h < s.created, h ∈ s.deleted ∨
    (s.inflightMutex.isSome = true ∧ (s.inflightMutex = some h ∨ some h ∈ s.done))

/-- `deinit` comes while the library is up, or finds no handle of a slot. -/
def calm (s : State α κ) : ApiOp → Bool
  | .deinit _ => s.inflightMutex.isSome || s.done.reduceOption.isEmpty
  | _ => true

/-! ## The registry -/

section Deregistration

variable {γ : Type} {reg : Registry γ κ} {id : UInt32}

/-- **One deregistration** empties the slot of the id, if there is one. -/
theorem deregister_spec (hwf : reg.WellFormed) (hne : id ≠ invalidMsgId) (made : Bool) :
    (registerCustomCallback made reg id none none).2.WellFormed ∧
      (registerCustomCallback made reg id none none).2.table = erase id reg.table := by
  obtain ⟨hwf', href⟩ := registerCustomCallback_refines hwf made id none none
  refine ⟨hwf', ?_⟩
  unfold registerTable at href
  rw [if_neg hne] at href
  by_cases hmutex : (!reg.mutex && !made) = true
  · have hempty : id ∉ keys reg.table := by
      simp only [Bool.and_eq_true, Bool.not_eq_true'] at hmutex
      rw [hwf.unused hmutex.1]
      exact List.not_mem_nil
    rw [if_pos hmutex] at href
    rw [erase_of_not_mem hempty, ← (Prod.mk.inj (Prod.mk.inj href).2).2]
  · rw [if_neg hmutex] at href
    dsimp only at href
    by_cases hmem : id ∈ keys reg.table
    · rw [if_pos hmem] at href
      exact (Prod.mk.inj (Prod.mk.inj href).2).2.symm
    · rw [if_neg hmem] at href
      rw [erase_of_not_mem hmem, ← (Prod.mk.inj (Prod.mk.inj href).2).2]

theorem deregisterAll_spec (made : UInt32 → Bool) {ids : List UInt32} (hne : invalidMsgId ∉ ids) :
    ∀ {reg : Registry γ κ}, reg.WellFormed →
      (ids.foldl
      (fun reg id => (registerCustomCallback (made id) reg id none none).2) reg).WellFormed ∧
        (ids.foldl
        (fun reg id => (registerCustomCallback (made id) reg id none none).2) reg).table =
          eraseAll ids reg.table := by
  induction ids with
  | nil => exact fun hwf => ⟨hwf, rfl⟩
  | cons id ids ih =>
    intro reg hwf
    rw [List.mem_cons, not_or] at hne
    obtain ⟨hwf', htable⟩ := deregister_spec hwf (Ne.symm hne.1) (made id)
    obtain ⟨hwf'', htable'⟩ := ih hne.2 hwf'
    refine ⟨hwf'', ?_⟩
    rw [List.foldl_cons, htable', htable]
    rfl

end Deregistration

section Undoing

variable {o : Outcomes} {s : State α κ}

theorem invalid_not_mem_allIds : invalidMsgId ∉ allIds := by decide

theorem mem_moduleIds_of_mem_allIds {id : UInt32} (h : id ∈ allIds) : id ∈ moduleIds := by
  rcases List.mem_append.1 h with h | h
  · obtain ⟨r, -, rfl⟩ := List.mem_map.1 h
    exact resp_mem_moduleIds r
  · rw [List.mem_singleton.1 h]
    exact List.mem_append_right _ List.mem_cons_self

/-- What `deinit` leaves of the registry. -/
theorem deinit_registry (hwf : s.registry.WellFormed) (made : UInt32 → Bool) (id : UInt32) :
    (espHostedOpenDeinit made s).registry.WellFormed ∧
      get id (espHostedOpenDeinit made s).registry.table =
        if id ∈ allIds then none else get id s.registry.table := by
  have hspec := deregisterAll_spec made invalid_not_mem_allIds hwf
  unfold espHostedOpenDeinit
  dsimp only
  generalize allIds = ids at hspec ⊢
  rw [hspec.2]
  exact ⟨hspec.1, get_eraseAll hwf.distinct⟩

theorem handleCustomRpcRequest_congr {γ : Type} {reg reg' : Registry γ κ} (hwf : reg.WellFormed)
    (hwf' : reg'.WellFormed) (h : ∀ id, get id reg'.table = get id reg.table) (id : UInt32) :
    handleCustomRpcRequest reg' id = handleCustomRpcRequest reg id := by
  by_cases hne : id = invalidMsgId
  · rw [handleCustomRpcRequest, handleCustomRpcRequest, if_pos hne, if_pos hne]
  · rw [handleCustomRpcRequest_eq_get hwf' hne, handleCustomRpcRequest_eq_get hwf hne, h]

/-- An `init` that is refused, or cannot register, leaves the registry alone. -/
theorem init_registry_of_not_lockable
    (h : s.inflightMutex.isSome = true ∨ o.mutexMade = false ∨ ¬Lockable o s.registry) :
    (espHostedOpenInit o s).2.registry = s.registry := by
  unfold espHostedOpenInit
  by_cases hmutex : s.inflightMutex.isSome = true
  · rw [if_pos hmutex]
  rw [if_neg hmutex]
  by_cases hmade : o.mutexMade = false
  · rw [if_pos hmade]
  rw [if_neg hmade]
  rcases h with h | h | h
  · exact absurd h hmutex
  · exact absurd h hmade
  · dsimp only
    rw [respTable_unlockable h]
    dsimp only
    rw [if_pos espErrNoMem_ne_ok]

theorem calls_exec {calls : List ApiOp} (h : ∀ c ∈ calls, c = .call) (s : State α κ) :
    calls.foldl exec s = s := by
  induction calls with
  | nil => rfl
  | cons c calls ih =>
    rw [List.foldl_cons, h c List.mem_cons_self]
    exact ih fun c' hc' => h c' (List.mem_cons_of_mem c hc')

/-- **What stays behind** of a successful `init`: the responses of the later requests, and six
events. -/
theorem deinit_leaves (hwf : s.registry.WellFormed) (hmutex : s.inflightMutex = none)
    (hmade : o.mutexMade = true) (hlock : Lockable o s.registry) (hroom : HasRoom s.registry)
    (made : UInt32 → Bool) {e : UInt32 × Callback α} (he : e ∈ moduleTable) :
    handleCustomRpcRequest (espHostedOpenDeinit made (espHostedOpenInit o s).2).registry e.1 =
      if e.1 ∈ allIds then .error espErrNotFound else .ok (e.2, none) := by
  obtain ⟨hwf', hregs⟩ := init_registers hwf hmutex hmade
  rcases hregs with ⟨-, -, hput⟩ | ⟨-, hcond⟩
  · obtain ⟨hwf'', hget⟩ := deinit_registry hwf' made e.1
    have hfound := lookup_of_putAll hwf' hput he
    have hne := ne_invalid_of_mem he
    rw [handleCustomRpcRequest_eq_get hwf' hne] at hfound
    rw [handleCustomRpcRequest_eq_get hwf'' hne, hget]
    by_cases hid : e.1 ∈ allIds
    · rw [if_pos hid, if_pos hid]
    · rw [if_neg hid, if_neg hid]
      exact hfound
  · exact absurd ⟨hlock, hroom⟩ hcond

/-- With none of the ids there before and room for them, `deinit` undoes exactly the `init`s that
register nothing. -/
theorem undone_iff (hwf : s.registry.WellFormed)
    (hfresh : ∀ id ∈ moduleIds, id ∉ keys s.registry.table)
    (hroom : HasRoom s.registry) (made : UInt32 → Bool) :
    Undone s (espHostedOpenDeinit made (espHostedOpenInit o s).2) ↔
      s.inflightMutex.isSome = true ∨ o.mutexMade = false ∨ ¬Lockable o s.registry := by
  constructor
  · intro hundone
    by_cases hmutex : s.inflightMutex.isSome = true
    · exact .inl hmutex
    by_cases hmade : o.mutexMade = false
    · exact .inr (.inl hmade)
    refine .inr (.inr fun hlock => ?_)
    have hraw := evt_mem_moduleTable (α := α) .rawFrame
    have hkept := deinit_leaves hwf (Option.not_isSome_iff_eq_none.1 hmutex)
      (Bool.eq_true_of_not_eq_false hmade)
      hlock hroom made hraw
    have hleft : Evt.rawFrame.msgId ∉ allIds := by decide
    have hbefore : handleCustomRpcRequest s.registry Evt.rawFrame.msgId =
      .error espErrNotFound := by
      rw [handleCustomRpcRequest_eq_get hwf (ne_invalid_of_mem hraw),
        get_eq_none_iff.2 (hfresh _ (List.mem_map_of_mem (f := Prod.fst) hraw))]
    rw [if_neg hleft, hundone, hbefore] at hkept
    cases hkept
  · intro h
    have hreg := init_registry_of_not_lockable h
    have hwf' : (espHostedOpenInit o s).2.registry.WellFormed := by
      rw [hreg]
      exact hwf
    refine handleCustomRpcRequest_congr hwf (deinit_registry hwf' made 0).1 fun id => ?_
    rw [(deinit_registry hwf' made id).2, hreg]
    split
    · exact (get_eq_none_iff.2 (hfresh id (mem_moduleIds_of_mem_allIds ‹_›))).symm
    · rfl

end Undoing

/-! ## The semaphores -/

section Semaphores

/-- The handles of a run of creations are the next ones in order. -/
theorem createDone_handles (made : Nat → Bool) (is : List Nat) : ∀ next : Nat,
    ∃ k, (createDone made is next).1.reduceOption = List.range' next k ∧
      (createDone made is next).2 = next + k := by
  induction is with
  | nil => exact fun _ => ⟨0, rfl, rfl⟩
  | cons i is ih =>
    intro next
    unfold createDone
    by_cases hi : made i = true
    · obtain ⟨k, hlist, hnext⟩ := ih (next + 1)
      rw [if_pos hi]
      refine ⟨k + 1, ?_, ?_⟩
      · rw [List.reduceOption_cons_of_some, hlist, List.range'_succ]
      · show (createDone made is (next + 1)).2 = next + (k + 1)
        omega
    · obtain ⟨k, hlist, hnext⟩ := ih next
      rw [if_neg hi]
      exact ⟨k, by rw [List.reduceOption_cons_of_none, hlist], hnext⟩

/-- The semaphores in use. -/
def held (s : State α κ) : List Nat :=
  match s.inflightMutex with
  | some m => m :: s.done.reduceOption
  | none => []

/-- **The invariant** of the calm sequences: every semaphore is in use or was deleted, once; handles
left over are of deleted ones. -/
structure Accounted (s : State α κ) : Prop where
  once : (s.deleted ++ held s).Nodup
  all : ∀ h, h < s.created ↔ h ∈ s.deleted ++ held s
  stale : s.inflightMutex = none → ∀ h ∈ s.done.reduceOption, h ∈ s.deleted

variable {s s' : State α κ}

theorem Accounted.clean (h : Accounted s) : Clean s := by
  refine ⟨(List.nodup_append.1 h.once).1, fun n hn => ?_⟩
  rcases List.mem_append.1 ((h.all n).1 hn) with hdel | hheld
  · exact .inl hdel
  · right
    unfold held at hheld
    cases hmutex : s.inflightMutex with
    | none =>
      rw [hmutex] at hheld
      cases hheld
    | some m =>
      rw [hmutex] at hheld
      refine ⟨rfl, ?_⟩
      rcases List.mem_cons.1 hheld with rfl | hdone
      · exact .inl rfl
      · exact .inr (List.reduceOption_mem_iff.1 hdone)

/-- **A successful `init`** takes the next handles. -/
theorem accounted_init {o : Outcomes} (h : Accounted s)
    (hok : (espHostedOpenInit o s).1 = .returned espOk) :
    Accounted (espHostedOpenInit o s).2 := by
  have hmutex : s.inflightMutex = none := by
    by_contra hsome
    rw [espHostedOpenInit, if_pos (Option.isSome_iff_ne_none.2 hsome)] at hok
    exact espErrInvalidState_ne_ok (InitResult.returned.inj hok)
  have hmade : o.mutexMade = true := by
    by_contra hfail
    rw [espHostedOpenInit, if_neg (by simp [hmutex]), if_pos (Bool.eq_false_iff.2 hfail)] at hok
    exact espErrNoMem_ne_ok (InitResult.returned.inj hok)
  obtain ⟨hm, hd, hc, hdel⟩ := init_assigns hmutex hmade
  obtain ⟨k, hlist, hnext⟩ := createDone_handles o.doneMade (List.range maxInflight) (s.created + 1)
  have hheld : held s = [] := by rw [held, hmutex]
  have honce := h.once
  have hall := h.all
  rw [hheld, List.append_nil] at honce hall
  have hheld' : held (espHostedOpenInit o s).2 = List.range' s.created (k + 1) := by
    rw [held, hm, hd, hlist, List.range'_succ]
  refine ⟨?_, fun n => ?_, fun hnone => by rw [hm] at hnone; cases hnone⟩
  · rw [hdel, hheld', List.nodup_append]
    refine ⟨honce, List.nodup_range', fun a ha b hb hab => ?_⟩
    have hlt := (hall a).2 ha
    have hge := List.mem_range'_1.1 hb
    omega
  · rw [hdel, hheld', hc, hnext, List.mem_append, ← hall n, List.mem_range'_1]
    omega

/-- **A calm `deinit`** deletes what is in use. -/
theorem accounted_deinit {made : UInt32 → Bool} (h : Accounted s)
    (hcalm : calm s (.deinit made) = true) :
    Accounted (espHostedOpenDeinit made s) := by
  have honce := h.once
  have hall := h.all
  cases hmutex : s.inflightMutex with
  | some m =>
    have hdel : (espHostedOpenDeinit made s).deleted = s.deleted ++ held s := by
      rw [held, hmutex]
      show s.deleted ++ s.inflightMutex.toList ++ s.done.reduceOption = _
      rw [hmutex, List.append_assoc]
      rfl
    have hheld : held (espHostedOpenDeinit made s) = [] := rfl
    rw [← hdel] at honce hall
    refine ⟨by rwa [hheld, List.append_nil], fun n => by rw [hheld, List.append_nil]; exact hall n,
      ?_⟩
    intro _ n hn
    rw [hdel, held, hmutex]
    exact List.mem_append_right _ (List.mem_cons_of_mem m hn)
  | none =>
    have hempty : s.done.reduceOption = [] := by
      unfold calm at hcalm
      rw [hmutex] at hcalm
      exact List.isEmpty_iff.1 hcalm
    have hdel : (espHostedOpenDeinit made s).deleted = s.deleted := by
      show s.deleted ++ s.inflightMutex.toList ++ s.done.reduceOption = _
      rw [hmutex, hempty]
      simp
    have hheld : held (espHostedOpenDeinit made s) = held s := by
      rw [held, held, hmutex]
      rfl
    refine ⟨by rwa [hdel, hheld], fun n => by rw [hdel, hheld]; exact hall n, ?_⟩
    intro _ n hn
    rw [show (espHostedOpenDeinit made s).done = s.done from rfl, hempty] at hn
    cases hn

/-- **Any other `deinit`** deletes a semaphore again. -/
theorem deleted_twice {made : UInt32 → Bool} (h : Accounted s)
    (hcalm : calm s (.deinit made) = false) :
    ¬(espHostedOpenDeinit made s).deleted.Nodup := by
  simp only [calm, Bool.or_eq_false_iff, Option.isSome_eq_false_iff, Option.isNone_iff_eq_none]
    at hcalm
  obtain ⟨hmutex, hdone⟩ := hcalm
  obtain ⟨n, hn⟩ : ∃ n, n ∈ s.done.reduceOption :=
    List.exists_mem_of_ne_nil _ fun hnil => by rw [hnil] at hdone; cases hdone
  intro hnd
  have hdel : (espHostedOpenDeinit made s).deleted = s.deleted ++ s.done.reduceOption := by
    show s.deleted ++ s.inflightMutex.toList ++ s.done.reduceOption = _
    rw [hmutex]
    simp
  rw [hdel] at hnd
  exact (List.nodup_append.1 hnd).2.2 n (h.stale hmutex n hn) n hn rfl

theorem step_init {o : Outcomes} :
    step s (.init o) = some s' ↔
      (espHostedOpenInit o s).1 = .returned espOk ∧ (espHostedOpenInit o s).2 = s' := by
  rw [step, Option.ite_none_right_eq_some, Option.some.injEq]
  rfl

/-- What is deleted stays deleted. -/
theorem deleted_step {op : ApiOp} (h : step s op = some s') : ∃ l, s'.deleted = s.deleted ++ l := by
  cases op with
  | init o =>
    obtain ⟨-, rfl⟩ := step_init.1 h
    refine ⟨[], ?_⟩
    rw [List.append_nil]
    show (espHostedOpenInit o s).2.deleted = s.deleted
    unfold espHostedOpenInit
    split
    · rfl
    · split
      · rfl
      · dsimp only
        split
        · rfl
        · split <;> rfl
  | deinit made =>
    cases h
    exact ⟨_, List.append_assoc ..⟩
  | call =>
    cases h
    exact ⟨[], (List.append_nil _).symm⟩

/-- **Calm or broken**: a sequence passes the test at every step and is accounted for, or has
deleted a semaphore twice. -/
theorem calm_or_twice {reg : Registry (Callback α) κ} {ops : List ApiOp}
    (h : run step { registry := reg } ops = some s) :
    (run (guarded calm step) { registry := reg } ops = some s ∧ Accounted s) ∨
      (run (guarded calm step) { registry := reg } ops = none ∧ ¬s.deleted.Nodup) := by
  refine run_induction (P := fun ops s =>
    (run (guarded calm step) { registry := reg } ops = some s ∧ Accounted s) ∨
      (run (guarded calm step) { registry := reg } ops = none ∧ ¬s.deleted.Nodup)) ?_ ?_ h
  · left
    refine ⟨rfl, List.nodup_nil, fun n => ?_, fun _ n hn => ?_⟩
    · simp [held]
    · exact absurd hn (by simp [maxInflight, List.reduceOption])
  · intro ops s s' op _ hP hstep
    rw [run_append]
    rcases hP with ⟨hrun, hacc⟩ | ⟨hrun, htwice⟩
    · rw [hrun, Option.bind_some, run, guarded]
      by_cases hcalm : calm s op = true
      · left
        rw [if_pos hcalm, hstep]
        refine ⟨rfl, ?_⟩
        cases op with
        | init o =>
          obtain ⟨hok, rfl⟩ := step_init.1 hstep
          exact accounted_init hacc hok
        | deinit made =>
          cases hstep
          exact accounted_deinit hacc hcalm
        | call =>
          cases hstep
          exact hacc
      · right
        rw [if_neg hcalm]
        refine ⟨rfl, ?_⟩
        cases op with
        | deinit made =>
          cases hstep
          exact deleted_twice hacc (Bool.eq_false_iff.2 hcalm)
        | init o => exact absurd rfl hcalm
        | call => exact absurd rfl hcalm
    · right
      rw [hrun]
      refine ⟨rfl, fun hnd => htwice ?_⟩
      obtain ⟨l, hl⟩ := deleted_step hstep
      rw [hl] at hnd
      exact (List.nodup_append.1 hnd).1

theorem clean_iff_calm {reg : Registry (Callback α) κ} {ops : List ApiOp}
    (h : run step { registry := reg } ops = some s) :
    Clean s ↔ run (guarded calm step) { registry := reg } ops = some s := by
  rcases calm_or_twice h with ⟨hrun, hacc⟩ | ⟨hrun, htwice⟩
  · exact ⟨fun _ => hrun, fun _ => hacc.clean⟩
  · constructor
    · exact fun hclean => absurd hclean.1 htwice
    · intro hrun'
      rw [hrun] at hrun'
      cases hrun'

end Semaphores

/-- **`init` and `deinit`**: with none of the module's ids in the registry and room for them, any
calls and a `deinit` undo exactly the `init`s that register nothing; and a sequence whose `init`s
succeed keeps every semaphore in use or deleted once exactly where each of its `deinit`s is calm. -/
theorem init_deinit_cycle :
    (∀ (s : State α κ) (o : Outcomes) (calls : List ApiOp) (made : UInt32 → Bool),
      s.registry.WellFormed → (∀ id ∈ moduleIds, id ∉ keys s.registry.table) → HasRoom s.registry →
      (∀ c ∈ calls, c = .call) →
        (Undone s ((ApiOp.init o :: calls ++ [ApiOp.deinit made]).foldl exec s) ↔
          s.inflightMutex.isSome = true ∨ o.mutexMade = false ∨ ¬Lockable o s.registry)) ∧
    ∀ (reg : Registry (Callback α) κ) (ops : List ApiOp) (s : State α κ),
      run step { registry := reg } ops = some s →
        (Clean s ↔ run (guarded calm step) { registry := reg } ops = some s) := by
  constructor
  · intro s o calls made hwf hfresh hroom hcalls
    have hrun : (ApiOp.init o :: calls ++ [ApiOp.deinit made]).foldl exec s =
        espHostedOpenDeinit made (espHostedOpenInit o s).2 := by
      rw [List.cons_append, List.foldl_cons, List.foldl_append, calls_exec hcalls]
      rfl
    rw [hrun]
    exact undone_iff hwf hfresh hroom made
  · intro reg ops s h
    exact clean_iff_calm h

/-- Two runs that are in order: an `init` without memory for its mutex, and one that comes up and
down. -/
theorem init_deinit_cycle_boot :
    Undone (bootState 54) ((ApiOp.init ⟨false, fun _ => true, fun _ => true⟩ :: [ApiOp.call] ++
        [ApiOp.deinit fun _ => true]).foldl exec (bootState 54)) ∧
      ∃ s, run step (bootState 54) [.init allMade, .call, .deinit fun _ => true] = some s ∧
        Clean s := by
  constructor
  · have hwf : (bootState 54).registry.WellFormed := Registry.wellFormed_empty 54
    have hfresh : ∀ id ∈ moduleIds, id ∉ keys (bootState 54).registry.table := by
      intro id _
      rw [hwf.unused rfl]
      exact List.not_mem_nil
    have hcalls : ∀ c ∈ [ApiOp.call], c = .call := fun c hc => List.mem_singleton.1 hc
    refine (init_deinit_cycle.1 (bootState 54) _ [.call] _ hwf hfresh ?_ hcalls).2 (.inr (.inl rfl))
    exact hasRoom_empty.2 (Nat.le_refl 54)
  · have hcalm : (run (guarded calm step) (bootState 54)
        [.init allMade, .call, .deinit fun _ => true]).isSome = true := by decide +kernel
    have hruns : (run step (bootState 54)
        [.init allMade, .call, .deinit fun _ => true]).isSome = true := by decide +kernel
    obtain ⟨s, hs⟩ := Option.isSome_iff_exists.1 hruns
    refine ⟨s, hs, (init_deinit_cycle.2 (Registry.empty 54) _ s hs).2 ?_⟩
    obtain ⟨s', hs'⟩ := Option.isSome_iff_exists.1 hcalm
    rw [show some s = some s' from hs.symm.trans (run_of_guarded_run hs')]
    exact hs'

/-- **Left behind and deleted twice**: after a successful `init` and `deinit` the raw-frame event
still has its callback, and a second `deinit` deletes the four `done` semaphores again. -/
theorem init_deinit_not_undone :
    ¬Undone (bootState 54)
        (espHostedOpenDeinit (fun _ => true) (espHostedOpenInit allMade (bootState 54)).2) ∧
      (run step (bootState 54) [.init allMade, .deinit fun _ => true, .deinit fun _ => true]).map
        (·.deleted) = some [0, 1, 2, 3, 4, 1, 2, 3, 4] := by
  have hleft : Evt.rawFrame.msgId ∉ allIds := by decide
  have hwf : (bootState 54).registry.WellFormed := Registry.wellFormed_empty 54
  have hroom : HasRoom (bootState 54).registry := hasRoom_empty.2 (Nat.le_refl 54)
  have hkept := deinit_leaves (o := allMade) hwf rfl rfl (.inr rfl) hroom (fun _ => true)
    (evt_mem_moduleTable .rawFrame)
  rw [if_neg hleft] at hkept
  have hbefore : handleCustomRpcRequest (bootState 54).registry Evt.rawFrame.msgId =
      .error espErrNotFound := by
    have hne : Evt.rawFrame.msgId ≠ invalidMsgId := by decide
    rw [handleCustomRpcRequest, if_neg hne]
    rfl
  refine ⟨fun hundone => ?_, by decide +kernel⟩
  rw [hundone, hbefore] at hkept
  cases hkept

end EspHostedOpen.HostInit
