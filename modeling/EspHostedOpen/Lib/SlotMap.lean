import Mathlib.Data.List.ReduceOption
import Mathlib.Data.List.Nodup
import Mathlib.Data.List.Perm.Basic

/-!
# Finite maps in a fixed array

A table of a fixed number of slots, each empty or holding a key with its value. `put` overwrites the
slot of a key that is there and fills the first empty one for a key that is not; `erase` empties a
slot. With distinct keys (`Distinct`, kept by both) the table is a finite map whose size is bounded
by the array: `get_put`, `get_erase`, `put_eq_none`.
-/

namespace SlotMap

abbrev Slots (K V : Type) := List (Option (K × V))

/-! ## Splitting at the first match -/

/-- The first match of a predicate, and what writing to its place does. -/
theorem split_of_findIdx? {α : Type} {p : α → Bool} {l : List α} {i : Nat}
    (h : l.findIdx? p = some i) :
    ∃ a x b, l = a ++ x :: b ∧ p x = true ∧ (∀ y ∈ a, p y = false) ∧ ∀ z,
    l.set i z = a ++ z :: b := by
  induction l generalizing i with
  | nil => cases h
  | cons y l ih =>
    rw [List.findIdx?_cons] at h
    by_cases hy : p y = true
    · rw [if_pos hy] at h
      cases h
      exact ⟨[], y, l, rfl, hy, fun _ hmem => absurd hmem List.not_mem_nil, fun _ => rfl⟩
    · rw [if_neg hy] at h
      obtain ⟨j, hj, rfl⟩ := Option.map_eq_some_iff.1 h
      obtain ⟨a, x, b, rfl, hx, ha, hset⟩ := ih hj
      refine ⟨y :: a, x, b, rfl, hx, ?_, fun z => ?_⟩
      · intro z hz
        rcases List.mem_cons.1 hz with rfl | hz
        · exact Bool.eq_false_iff.2 hy
        · exact ha z hz
      · rw [List.set_cons_succ, hset]
        rfl

theorem findIdx?_congr {α : Type} {p q : α → Bool} {l : List α} (h : ∀ x ∈ l, p x = q x) :
    l.findIdx? p = l.findIdx? q := by
  induction l with
  | nil => rfl
  | cons x l ih =>
    rw [List.findIdx?_cons, List.findIdx?_cons, h x List.mem_cons_self,
      ih fun y hy => h y (List.mem_cons_of_mem x hy)]

variable {K V : Type}

/-! ## Keys -/

/-- The keys in the table, in slot order. -/
def keys (t : Slots K V) : List K := t.reduceOption.map Prod.fst

/-- No key has two slots. -/
def Distinct (t : Slots K V) : Prop := (keys t).Nodup

@[simp] theorem keys_nil : keys ([] : Slots K V) = [] := rfl

@[simp] theorem keys_cons_none (t : Slots K V) : keys (none :: t) = keys t := rfl

@[simp] theorem keys_cons_some (e : K × V) (t : Slots K V) :
    keys (some e :: t) = e.1 :: keys t := rfl

@[simp] theorem keys_append (t t' : Slots K V) : keys (t ++ t') = keys t ++ keys t' := by
  rw [keys, List.reduceOption_append, List.map_append, keys, keys]

theorem length_keys_le (t : Slots K V) : (keys t).length ≤ t.length := by
  rw [keys, List.length_map]
  exact List.reduceOption_length_le t

/-- Every slot holds a key. -/
theorem length_keys_eq_iff {t : Slots K V} :
    (keys t).length = t.length ↔ ∀ e ∈ t, e.isNone = false := by
  rw [keys, List.length_map, List.reduceOption_length_eq_iff]
  refine forall₂_congr fun e _ => ?_
  cases e <;> simp

variable [DecidableEq K]

/-- A slot holds `k`. -/
def holds (k : K) : Option (K × V) → Bool
  | some e => e.1 = k
  | none => false

/-- The value of a key: that of the first slot that holds it. -/
def get (k : K) (t : Slots K V) : Option V :=
  t.findSome? fun
    | some e => if e.1 = k then some e.2 else none
    | none => none

/-- Write a key, `none` where there is no slot for it. -/
def put (k : K) (v : V) (t : Slots K V) : Option (Slots K V) :=
  match t.findIdx? (holds k) with
  | some i => some (t.set i (some (k, v)))
  | none => (t.findIdx? Option.isNone).map fun i => t.set i (some (k, v))

/-- Empty the slot of a key. -/
def erase (k : K) (t : Slots K V) : Slots K V :=
  match t.findIdx? (holds k) with
  | some i => t.set i none
  | none => t

theorem mem_keys_iff {k : K} {t : Slots K V} : k ∈ keys t ↔ ∃ e ∈ t, holds k e = true := by
  induction t with
  | nil => simp
  | cons e t ih =>
    cases e with
    | none => simp [ih, holds]
    | some e =>
      have hhead : holds k (some e) = true ↔ k = e.1 := by
        rw [holds, decide_eq_true_iff, eq_comm]
      simp only [keys_cons_some, List.mem_cons, exists_eq_or_imp, hhead, ih]

theorem not_mem_keys_iff {k : K} {t : Slots K V} : k ∉ keys t ↔ ∀ e ∈ t, holds k e = false := by
  rw [mem_keys_iff]
  simp

theorem mem_keys_of_findIdx {k : K} {t : Slots K V} {i : Nat} (h : t.findIdx? (holds k) = some i) :
    k ∈ keys t := by
  obtain ⟨hi, hholds, -⟩ := List.findIdx?_eq_some_iff_getElem.1 h
  exact mem_keys_iff.2 ⟨t[i], List.getElem_mem hi, hholds⟩

/-! ## Reading -/

@[simp] theorem get_nil (k : K) : get k ([] : Slots K V) = none := rfl

@[simp] theorem get_cons_none (k : K) (t : Slots K V) : get k (none :: t) = get k t := rfl

@[simp] theorem get_cons_some (k : K) (e : K × V) (t : Slots K V) :
    get k (some e :: t) = if e.1 = k then some e.2 else get k t := by
  by_cases h : e.1 = k <;> simp [get, h]

@[simp] theorem get_append (k : K) (t t' : Slots K V) : get k (t ++ t') = (get k t).or (get k t') :=
  List.findSome?_append

/-- A key is found exactly where a slot holds it. -/
theorem get_eq_none_iff {k : K} {t : Slots K V} : get k t = none ↔ k ∉ keys t := by
  induction t with
  | nil => simp
  | cons e t ih =>
    cases e with
    | none => rw [get_cons_none, keys_cons_none, ih]
    | some e =>
      rw [get_cons_some, keys_cons_some, List.mem_cons, not_or]
      by_cases h : e.1 = k
      · simp [h]
      · simp [h, ih, Ne.symm h]

theorem isSome_get_iff {k : K} {t : Slots K V} : (get k t).isSome = true ↔ k ∈ keys t := by
  rw [Option.isSome_iff_ne_none, ne_eq, get_eq_none_iff, not_not]

/-! ## Writing -/

/-- A write goes to the key's own slot, or to the first empty one. -/
inductive PutSplit (k : K) (v : V) (t t' : Slots K V) : Prop
  | replace (a b : Slots K V) (w : V) (ha : k ∉ keys a) (ht : t = a ++ some (k, w) :: b)
      (ht' : t' = a ++ some (k, v) :: b) : PutSplit k v t t'
  | fill (a b : Slots K V) (hnew : k ∉ keys t) (ht : t = a ++ none :: b)
      (ht' : t' = a ++ some (k, v) :: b) : PutSplit k v t t'

variable {k : K} {v : V} {t t' : Slots K V}

theorem put_split (h : put k v t = some t') : PutSplit k v t t' := by
  unfold put at h
  split at h
  · rename_i i hi
    cases h
    obtain ⟨a, x, b, rfl, hx, ha, hset⟩ := split_of_findIdx? hi
    cases x with
    | none => cases hx
    | some e =>
      obtain ⟨k', w⟩ := e
      cases of_decide_eq_true hx
      exact .replace a b w (not_mem_keys_iff.2 ha) rfl (hset _)
  · rename_i hnone
    obtain ⟨i, hi, rfl⟩ := Option.map_eq_some_iff.1 h
    have hnew : k ∉ keys t := by
      rw [not_mem_keys_iff]
      exact fun e he => List.findIdx?_eq_none_iff.1 hnone e he
    obtain ⟨a, x, b, rfl, hx, -, hset⟩ := split_of_findIdx? hi
    cases Option.isNone_iff_eq_none.1 hx
    exact .fill a b hnew rfl (hset _)

/-- There is no slot for a key exactly when it is new and every slot is taken. -/
theorem put_eq_none_iff : put k v t = none ↔ k ∉ keys t ∧ (keys t).length = t.length := by
  rw [length_keys_eq_iff, not_mem_keys_iff]
  unfold put
  split
  · rename_i i hi
    have hfound : ¬∀ e ∈ t, holds k e = false := by
      intro hall
      rw [List.findIdx?_eq_none_iff.2 hall] at hi
      cases hi
    simp [hfound]
  · rename_i hnone
    rw [Option.map_eq_none_iff, List.findIdx?_eq_none_iff]
    exact ⟨fun h => ⟨List.findIdx?_eq_none_iff.1 hnone, h⟩, fun h => h.2⟩

theorem get_put (h : put k v t = some t') (k' : K) :
    get k' t' = if k' = k then some v else get k' t := by
  rcases put_split h with ⟨a, b, w, ha, rfl, rfl⟩ | ⟨a, b, hnew, rfl, rfl⟩
  · by_cases hk : k' = k
    · subst hk
      simp [get_eq_none_iff.2 ha]
    · simp [hk, Ne.symm hk]
  · by_cases hk : k' = k
    · subst hk
      have ha : k' ∉ keys a := fun hmem => hnew (by simp [hmem])
      simp [get_eq_none_iff.2 ha]
    · simp [hk, Ne.symm hk]

theorem length_put (h : put k v t = some t') : t'.length = t.length := by
  rcases put_split h with ⟨a, b, w, ha, rfl, rfl⟩ | ⟨a, b, hnew, rfl, rfl⟩ <;> simp

/-- The keys after a write: the same where the key was there, one more where it was not. -/
theorem keys_put (h : put k v t = some t') :
    (k ∈ keys t ∧ keys t' = keys t) ∨ (k ∉ keys t ∧ (keys t').Perm (k :: keys t)) := by
  rcases put_split h with ⟨a, b, w, ha, rfl, rfl⟩ | ⟨a, b, hnew, rfl, rfl⟩
  · left
    simp
  · right
    refine ⟨hnew, ?_⟩
    simp only [keys_append, keys_cons_some, keys_cons_none]
    exact List.perm_middle

theorem mem_keys_put (h : put k v t = some t') (k' : K) : k' ∈ keys t' ↔ k' = k ∨ k' ∈ keys t := by
  rw [← isSome_get_iff, get_put h, ← isSome_get_iff]
  by_cases hk : k' = k <;> simp [hk]

theorem Distinct.put (hd : Distinct t) (h : SlotMap.put k v t = some t') : Distinct t' := by
  rcases keys_put h with ⟨-, heq⟩ | ⟨hnew, hperm⟩
  · rwa [Distinct, heq]
  · exact hperm.nodup_iff.2 (List.nodup_cons.2 ⟨hnew, hd⟩)

/-! ## Erasing -/

/-- Where the key is there, its slot is emptied. -/
theorem erase_split (h : k ∈ keys t) :
    ∃ a w b, t = a ++ some (k, w) :: b ∧ k ∉ keys a ∧ erase k t = a ++ none :: b := by
  unfold erase
  split
  · rename_i i hi
    obtain ⟨a, x, b, rfl, hx, ha, hset⟩ := split_of_findIdx? hi
    cases x with
    | none => cases hx
    | some e =>
      obtain ⟨k', w⟩ := e
      cases of_decide_eq_true hx
      exact ⟨a, w, b, rfl, not_mem_keys_iff.2 ha, hset none⟩
  · rename_i hnone
    exact absurd h (not_mem_keys_iff.2 (List.findIdx?_eq_none_iff.1 hnone))

theorem erase_of_not_mem (h : k ∉ keys t) : erase k t = t := by
  unfold erase
  rw [List.findIdx?_eq_none_iff.2 (not_mem_keys_iff.1 h)]

theorem length_erase : (erase k t).length = t.length := by
  by_cases hk : k ∈ keys t
  · obtain ⟨a, w, b, rfl, -, herase⟩ := erase_split hk
    simp [herase]
  · rw [erase_of_not_mem hk]

theorem keys_erase (hd : Distinct t) : keys (erase k t) = (keys t).filter (· ≠ k) := by
  by_cases hk : k ∈ keys t
  · obtain ⟨a, w, b, rfl, ha, herase⟩ := erase_split hk
    simp only [Distinct, keys_append, keys_cons_some] at hd
    have hb : k ∉ keys b := (List.nodup_cons.1 (List.nodup_append.1 hd).2.1).1
    have hkeep : ∀ {l : List K}, k ∉ l → l.filter (· ≠ k) = l := by
      intro l hl
      rw [List.filter_eq_self]
      intro x hx
      exact decide_eq_true fun heq => hl (heq ▸ hx)
    simp only [herase, keys_append, keys_cons_none, keys_cons_some, List.filter_append, hkeep ha]
    rw [List.filter_cons_of_neg (by simp), hkeep hb]
  · rw [erase_of_not_mem hk, List.filter_eq_self.2]
    intro x hx
    exact decide_eq_true fun heq => hk (heq ▸ hx)

theorem Distinct.erase (hd : Distinct t) : Distinct (SlotMap.erase k t) := by
  rw [Distinct, keys_erase hd]
  exact hd.filter _

theorem get_erase (hd : Distinct t) (k' : K) :
    get k' (erase k t) = if k' = k then none else get k' t := by
  by_cases heq : k' = k
  · subst heq
    rw [if_pos rfl, get_eq_none_iff, keys_erase hd]
    simp
  · rw [if_neg heq]
    by_cases hk : k ∈ keys t
    · obtain ⟨a, w, b, rfl, -, herase⟩ := erase_split hk
      simp [herase, Ne.symm heq]
    · rw [erase_of_not_mem hk]

/-- Write the entries in turn, `none` where one finds no slot. -/
def putAll : List (K × V) → Slots K V → Option (Slots K V)
  | [], t => some t
  | e :: es, t => (put e.1 e.2 t).bind (putAll es)

/-- Empty the slots of the keys in turn. -/
def eraseAll (ks : List K) (t : Slots K V) : Slots K V := ks.foldl (fun t k => erase k t) t

theorem putAll_append (es es' : List (K × V)) : ∀ t : Slots K V,
    putAll (es ++ es') t = (putAll es t).bind (putAll es') := by
  induction es with
  | nil => exact fun _ => rfl
  | cons e es ih =>
    intro t
    rw [List.cons_append, putAll, putAll, Option.bind_assoc]
    exact Option.bind_congr fun t' _ => ih t'

/-- **Room**: distinct keys can be written exactly where those not there yet fit into the rest. -/
theorem putAll_isSome_iff {es : List (K × V)} (hnd : (es.map Prod.fst).Nodup) : ∀ {t : Slots K V},
    (putAll es t).isSome = true ↔
      ((es.map Prod.fst).filter (· ∉ keys t)).length + (keys t).length ≤ t.length := by
  induction es with
  | nil =>
    intro t
    simpa [putAll] using length_keys_le t
  | cons e es ih =>
    intro t
    rw [List.map_cons, List.nodup_cons] at hnd
    rw [putAll, List.map_cons]
    rcases Option.eq_none_or_eq_some (put e.1 e.2 t) with hput | ⟨t', hput⟩
    · obtain ⟨hnew, hfull⟩ := put_eq_none_iff.1 hput
      rw [hput, List.filter_cons_of_pos (by simpa using hnew), List.length_cons]
      simp only [Option.bind_none, Option.isSome_none, Bool.false_eq_true, false_iff]
      omega
    · rw [hput, Option.bind_some, ih hnd.2, length_put hput]
      rcases keys_put hput with ⟨hold, hkeys⟩ | ⟨hnew, hperm⟩
      · rw [hkeys, List.filter_cons_of_neg (by simpa using hold)]
      · have hrest : (es.map Prod.fst).filter (· ∉ keys t') =
          (es.map Prod.fst).filter (· ∉ keys t) := by
          refine List.filter_congr fun k hk => ?_
          have hne : k ≠ e.1 := fun h => hnd.1 (h ▸ hk)
          simp [mem_keys_put hput, hne]
        have hlen : (keys t').length = (keys t).length + 1 := hperm.length_eq
        rw [hrest, hlen, List.filter_cons_of_pos (by simpa using hnew), List.length_cons]
        omega

/-- The keys not written read as before. -/
theorem get_putAll_of_not_mem {es : List (K × V)} {k : K} (hk : k ∉ es.map Prod.fst) :
    ∀ {t t' : Slots K V}, putAll es t = some t' → get k t' = get k t := by
  induction es with
  | nil =>
    intro t t' h
    cases h
    rfl
  | cons e es ih =>
    intro t t' h
    rw [List.map_cons, List.mem_cons, not_or] at hk
    obtain ⟨t₁, hput, hrest⟩ := Option.bind_eq_some_iff.1 h
    rw [ih hk.2 hrest, get_put hput, if_neg hk.1]

/-- Every entry written is read back. -/
theorem get_putAll_of_mem {es : List (K × V)} (hnd : (es.map Prod.fst).Nodup) {e : K × V}
    (he : e ∈ es) :
    ∀ {t t' : Slots K V}, putAll es t = some t' → get e.1 t' = some e.2 := by
  induction es with
  | nil => cases he
  | cons e' es ih =>
    intro t t' h
    rw [List.map_cons, List.nodup_cons] at hnd
    obtain ⟨t₁, hput, hrest⟩ := Option.bind_eq_some_iff.1 h
    rcases List.mem_cons.1 he with rfl | he
    · rw [get_putAll_of_not_mem hnd.1 hrest, get_put hput, if_pos rfl]
    · exact ih hnd.2 he hrest

theorem get_eraseAll {ks : List K} {k : K} : ∀ {t : Slots K V}, Distinct t →
    get k (eraseAll ks t) = if k ∈ ks then none else get k t := by
  induction ks with
  | nil => exact fun _ => rfl
  | cons k' ks ih =>
    intro t hd
    rw [eraseAll, List.foldl_cons, ← eraseAll, ih hd.erase, get_erase hd]
    by_cases hhead : k = k'
    · simp [hhead]
    · simp [hhead]

end SlotMap
