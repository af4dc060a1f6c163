import EspHostedOpen.Host.Mempool

/-!
# The list of all pools (`g_os_mempool_list`)

A tail queue through the pools: `os_mempool_init_internal` puts a pool at the end, and
`os_mempool_unregister` looks for it and cuts it out by hand. Whatever the order of the calls, the
queue is the list of the pools that are registered, and taking out one that is not is refused and
changes nothing.
-/

namespace EspHostedOpen.Mempool

/-- `STAILQ_HEAD`, and the links of the pools. A null pointer is 0; `last` is the pool whose link is
last, or 0 where it is that of the head. -/
structure Queue where
  first : Nat := 0
  last : Nat := 0
  next : Nat → Nat := fun _ => 0

namespace Queue

/-- `STAILQ_INSERT_TAIL`. -/
def insertTail (q : Queue) (mp : Nat) : Queue :=
  let next := Function.update q.next mp 0
  if q.last = 0 then { first := mp, last := mp, next := next }
  else { first := q.first, last := mp, next := Function.update next q.last mp }

/-- The loop that looks for a pool: it, with the one before it, or the end. -/
def find (q : Queue) (mp : Nat) : Nat → (prev cur : Nat) → Option (Nat × Nat)
  | 0, _, _ => none
  | fuel + 1, prev, cur =>
    if cur = 0 then some (prev, 0)
    else if cur = mp then some (prev, cur)
    else find q mp fuel cur (q.next cur)

/-- `os_mempool_unregister`; `none` where the loop does not end. -/
def osMempoolUnregister (fuel : Nat) (q : Queue) (mp : Nat) : Option
    (Except OsError Unit × Queue) :=
  (q.find mp fuel 0 q.first).map fun (prev, cur) =>
    if cur = 0 then (.error .invalidParm, q)
    else if prev = 0 then
      -- `STAILQ_REMOVE_HEAD`
      let first := q.next q.first
      (.ok (), { q with first := first, last := if first = 0 then 0 else q.last })
    else
      let next := q.next cur
      (.ok (), { q with last := if next = 0 then prev else q.last, next :=
          Function.update q.next prev next })

/-- The queue is that list of pools. -/
structure Represents (q : Queue) (l : List Nat) : Prop where
  linked : Linked q.next 0 q.first l
  last : q.last = l.getLast?.getD 0

variable {q : Queue} {l : List Nat} {mp : Nat}

theorem Represents.empty : Represents {} [] := ⟨rfl, rfl⟩

theorem Represents.insertTail (h : q.Represents l) (hmp : mp ≠ 0) (hnew : mp ∉ l) :
    (q.insertTail mp).Represents (l ++ [mp]) := by
  have hlast := h.last
  rcases List.eq_nil_or_concat' l with rfl | ⟨u, b, rfl⟩
  · have hz : q.last = 0 := hlast
    simp only [Queue.insertTail, if_pos hz]
    exact ⟨⟨rfl, hmp, Function.update_self ..⟩, rfl⟩
  · have hb : b ≠ 0 := fun hb =>
      h.linked.null_notMem (hb ▸ List.mem_append_right u List.mem_cons_self)
    rw [List.getLast?_append_cons, List.getLast?_singleton, Option.getD_some] at hlast
    have hbmp : mp ≠ b := fun he => hnew (he ▸ List.mem_append_right u List.mem_cons_self)
    simp only [Queue.insertTail, hlast, if_neg hb, List.append_assoc]
    refine ⟨?_, by simp⟩
    refine h.linked.snoc hmp (Function.update_self ..) ?_ fun c hc => ?_
    · exact (Function.update_of_ne hbmp ..).trans (Function.update_self ..)
    · have hcb : c ≠ b := fun he =>
        (List.nodup_append.1 h.linked.nodup).2.2 c hc b List.mem_cons_self he
      have hcmp : c ≠ mp := fun he => hnew (he ▸ List.mem_append_left _ hc)
      exact (Function.update_of_ne hcb ..).trans (Function.update_of_ne hcmp ..)

/-- The loop finds the pool, with the one before it. -/
theorem find_mem {fuel prev cur : Nat} {u v : List Nat} (hl : Linked q.next 0 cur (u ++ mp :: v))
    (hmp : mp ∉ u)
    (hfuel : u.length < fuel) : q.find mp fuel prev cur = some (u.getLast?.getD prev, mp) := by
  induction u generalizing fuel prev cur with
  | nil =>
    obtain ⟨fuel, rfl⟩ := Nat.exists_eq_add_one_of_ne_zero (Nat.ne_of_gt hfuel)
    rw [find, hl.1, if_neg hl.2.1, if_pos rfl]
    rfl
  | cons a u ih =>
    obtain ⟨fuel, rfl⟩ := Nat.exists_eq_add_one_of_ne_zero (Nat.ne_of_gt (Nat.zero_lt_of_lt hfuel))
    obtain ⟨rfl, hne, hl⟩ := hl
    have hother : cur ≠ mp := fun he => hmp (he ▸ List.mem_cons_self)
    rw [find, if_neg hne, if_neg hother,
      ih hl (fun hm => hmp (List.mem_cons_of_mem _ hm)) (Nat.lt_of_succ_lt_succ hfuel),
        List.getLast?_cons]
    cases u.getLast? <;> rfl

/-- It gets to the end where the pool is not there. -/
theorem find_notMem {fuel cur : Nat} (prev : Nat) (hl : Linked q.next 0 cur l) (hmp : mp ∉ l)
    (hfuel : l.length < fuel) :
    ∃ prev', q.find mp fuel prev cur = some (prev', 0) := by
  induction l generalizing fuel prev cur with
  | nil =>
    obtain ⟨fuel, rfl⟩ := Nat.exists_eq_add_one_of_ne_zero (Nat.ne_of_gt hfuel)
    have hend : cur = 0 := hl
    exact ⟨prev, by rw [find, if_pos hend]⟩
  | cons a l ih =>
    obtain ⟨fuel, rfl⟩ := Nat.exists_eq_add_one_of_ne_zero (Nat.ne_of_gt (Nat.zero_lt_of_lt hfuel))
    obtain ⟨rfl, hne, hl⟩ := hl
    have hother : cur ≠ mp := fun he => hmp (he ▸ List.mem_cons_self)
    rw [find, if_neg hne, if_neg hother]
    exact ih cur hl (fun hm => hmp (List.mem_cons_of_mem _ hm)) (Nat.lt_of_succ_lt_succ hfuel)

theorem Represents.unregister_mem (h : q.Represents l) (hmp : mp ∈ l) {fuel : Nat}
    (hfuel : l.length < fuel) :
    ∃ q', q.osMempoolUnregister fuel mp = some (.ok (), q') ∧ q'.Represents (l.erase mp) := by
  obtain ⟨u, v, rfl, hu⟩ := List.eq_append_cons_of_mem hmp
  have hz : mp ≠ 0 := fun he => h.linked.null_notMem (he ▸ hmp)
  have hlast := h.last
  have hfind : q.find mp fuel 0 q.first = some (u.getLast?.getD 0, mp) :=
    find_mem h.linked hu (by rw [List.length_append] at hfuel; omega)
  have htail := (Linked.from_mem h.linked).2.2
  rw [List.erase_append_right _ hu, List.erase_cons_head]
  rcases List.eq_nil_or_concat' u with rfl | ⟨u, b, rfl⟩
  · have hfirst : q.first = mp := h.linked.1
    simp only [osMempoolUnregister, hfind, Option.map_some, if_neg hz]
    refine ⟨_, rfl, ?_⟩
    rw [hfirst]
    refine ⟨htail, ?_⟩
    by_cases hv : v = []
    · rw [if_pos (htail.eq_null_iff.2 hv), hv]
      rfl
    · rw [if_neg (mt htail.eq_null_iff.1 hv)]
      refine hlast.trans ?_
      rw [List.nil_append, List.getLast?_cons_of_ne_nil hv]
      rfl
  · have hb : b ≠ 0 := fun hb => h.linked.null_notMem (by simp [hb])
    rw [List.getLast?_append_cons, List.getLast?_singleton, Option.getD_some] at hfind
    simp only [osMempoolUnregister, hfind, Option.map_some, if_neg hz, if_neg hb]
    refine ⟨_, rfl, ?_⟩
    have hlinked := h.linked
    rw [List.append_assoc] at hlinked ⊢
    have hnd := List.nodup_append.1 hlinked.nodup
    refine ⟨hlinked.cut (Function.update_self ..) fun c hc => Function.update_of_ne ?_ .., ?_⟩
    · rintro rfl
      rcases List.mem_append.1 hc with hc | hc
      · exact hnd.2.2 c hc c List.mem_cons_self rfl
      · exact (List.nodup_cons.1 hnd.2.1).1 (List.mem_cons_of_mem mp hc)
    · by_cases hv : v = []
      · rw [if_pos (htail.eq_null_iff.2 hv), hv]
        simp
      · rw [if_neg (mt htail.eq_null_iff.1 hv)]
        rw [hlast, List.getLast?_append_cons, List.getLast?_cons_of_ne_nil hv, ← List.append_assoc,
          List.getLast?_append_of_ne_nil _ hv]

theorem Represents.unregister_notMem (h : q.Represents l) (hmp : mp ∉ l) {fuel : Nat}
    (hfuel : l.length < fuel) :
    q.osMempoolUnregister fuel mp = some (.error .invalidParm, q) := by
  obtain ⟨prev, hfind⟩ := find_notMem 0 h.linked hmp hfuel
  rw [osMempoolUnregister, hfind]
  rfl

end Queue

/-! ## Runs -/

inductive PoolOp
  | register (mp : Nat)                          -- the end of `os_mempool_init_internal`
  | unregister (mp : Nat)
  deriving DecidableEq, Repr

/-- A call on the queue. -/
def PoolOp.exec (fuel : Nat) (q : Queue) : PoolOp → Option (Except OsError Unit × Queue)
  | .register mp => some (.ok (), q.insertTail mp)
  | .unregister mp => q.osMempoolUnregister fuel mp

/-- The calls one after the other, with what they return. -/
def execAll (fuel : Nat) : Queue → List PoolOp → Option (List (Except OsError Unit) × Queue)
  | q, [] => some ([], q)
  | q, op :: ops => (op.exec fuel q).bind fun r =>
    (execAll fuel r.2 ops).map fun rest => (r.1 :: rest.1, rest.2)

/-- What a call is to do to the list of the pools. -/
def PoolOp.spec (l : List Nat) : PoolOp → Except OsError Unit × List Nat
  | .register mp => (.ok (), l ++ [mp])
  | .unregister mp => if mp ∈ l then (.ok (), l.erase mp) else (.error .invalidParm, l)

def specAll : List Nat → List PoolOp → List (Except OsError Unit) × List Nat
  | l, [] => ([], l)
  | l, op :: ops =>
    let r := op.spec l
    let rest := specAll r.2 ops
    (r.1 :: rest.1, rest.2)

/-- A pool that is registered is not in the list. -/
def PoolOp.Fresh (l : List Nat) : PoolOp → Prop
  | .register mp => mp ≠ 0 ∧ mp ∉ l
  | .unregister _ => True

def AllFresh : List Nat → List PoolOp → Prop
  | _, [] => True
  | l, op :: ops => op.Fresh l ∧ AllFresh (op.spec l).2 ops

theorem exec_spec {q : Queue} {l : List Nat} (h : q.Represents l) {op : PoolOp} (hop : op.Fresh l)
    {fuel : Nat}
    (hfuel : l.length < fuel) :
    ∃ q', op.exec fuel q = some ((op.spec l).1, q') ∧ q'.Represents (op.spec l).2 := by
  cases op with
  | register mp => exact ⟨_, rfl, h.insertTail hop.1 hop.2⟩
  | unregister mp =>
    by_cases hmp : mp ∈ l
    · simp only [PoolOp.exec, PoolOp.spec, if_pos hmp]
      exact h.unregister_mem hmp hfuel
    · simp only [PoolOp.exec, PoolOp.spec, if_neg hmp]
      exact ⟨q, h.unregister_notMem hmp hfuel, h⟩

theorem length_spec (l : List Nat) (op : PoolOp) : (op.spec l).2.length ≤ l.length + 1 := by
  cases op with
  | register mp => simp [PoolOp.spec]
  | unregister mp =>
    by_cases hmp : mp ∈ l
    · simp only [PoolOp.spec, if_pos hmp]
      exact Nat.le_succ_of_le List.length_erase_le
    · simp only [PoolOp.spec, if_neg hmp]
      exact Nat.le_succ _

theorem execAll_spec {ops : List PoolOp} {q : Queue} {l : List Nat} (h : q.Represents l)
    (hops : AllFresh l ops)
    {fuel : Nat} (hfuel : l.length + ops.length ≤ fuel) :
    ∃ q', execAll fuel q ops = some ((specAll l ops).1, q') ∧ q'.Represents (specAll l ops).2 := by
  induction ops generalizing q l with
  | nil => exact ⟨q, rfl, h⟩
  | cons op ops ih =>
    rw [List.length_cons] at hfuel
    have hroom : l.length < fuel := by omega
    obtain ⟨q₁, hexec, h₁⟩ := exec_spec h hops.1 hroom
    have hlen := length_spec l op
    obtain ⟨q₂, hrest, h₂⟩ := ih h₁ hops.2 (by omega)
    refine ⟨q₂, ?_, h₂⟩
    rw [execAll, hexec, Option.bind_some, hrest]
    rfl

/-- Whatever the order in which pools are registered and unregistered, every call ends and returns
what it would on a list, and the queue is that list: the pools that are registered, in their
order. -/
theorem pools_listed {ops : List PoolOp} (hops : AllFresh [] ops) {fuel : Nat}
    (hfuel : ops.length ≤ fuel) :
    ∃ q, execAll fuel {} ops = some ((specAll [] ops).1, q) ∧ q.Represents (specAll [] ops).2 :=
  execAll_spec .empty hops (by simpa using hfuel)

theorem pools_listed_three : ∃ q, execAll 5 {}
    [.register 8, .register 16, .register 24, .unregister 16, .unregister 16] =
    some ([.ok (), .ok (), .ok (), .ok (), .error .invalidParm], q) ∧ q.Represents [8, 24] :=
  pools_listed (by simp [AllFresh, PoolOp.Fresh, PoolOp.spec]) (Nat.le_refl 5)

end EspHostedOpen.Mempool
