import EspHostedOpen.Lib.Overlay

/-!
# Memory by address

`Mem` gives the byte at every address. `load` and `store` read and write a run of bytes, `loadWord`
and `storeWord` the four bytes of a pointer. A load sees what was stored in its range
(`load_store_self`), or, where the ranges are apart, what was there before (`load_store_apart`); a
store inside its range is a `poke` of it (`load_store_inside`).
-/

namespace Memory

open ByteCodec

abbrev Mem := Nat → UInt8

def load (m : Mem) (a n : Nat) : List UInt8 := (List.range n).map fun i => m (a + i)

def store (m : Mem) (a : Nat) (bs : List UInt8) : Mem :=
  fun x => if a ≤ x then bs.getD (x - a) (m x) else m x

def loadWord (m : Mem) (a : Nat) : Nat := leNat (load m a 4)

def storeWord (m : Mem) (a v : Nat) : Mem := store m a (leBytes 4 v)

variable {m m' : Mem} {a b n off : Nat} {bs : List UInt8}

@[simp] theorem length_load : (load m a n).length = n := by
  rw [load, List.length_map, List.length_range]

theorem load_congr (h : ∀ x, a ≤ x → x < a + n → m x = m' x) : load m a n = load m' a n := by
  refine List.map_congr_left fun i hi => h _ (Nat.le_add_right a i) ?_
  have := List.mem_range.1 hi
  omega

theorem store_below {x : Nat} (h : x < a) : store m a bs x = m x := if_neg (Nat.not_le.2 h)

theorem store_behind {x : Nat} (h : a + bs.length ≤ x) : store m a bs x = m x := by
  rw [store, if_pos (Nat.le_trans (Nat.le_add_right ..) h)]
  exact List.getD_eq_default _ _ (by omega)

/-- What lies before or behind is kept. -/
theorem load_store_apart (h : b + n ≤ a ∨ a + bs.length ≤ b) :
    load (store m a bs) b n = load m b n := by
  refine load_congr fun x hlow hhigh => ?_
  rcases h with h | h
  · exact store_below (by omega)
  · exact store_behind (by omega)

/-- What was stored is read back. -/
theorem load_store_self (m : Mem) (a : Nat) (bs : List UInt8) :
    load (store m a bs) a bs.length = bs := by
  refine List.ext_getElem length_load fun i hi hi' => ?_
  simp only [load, List.getElem_map, List.getElem_range, store]
  rw [if_pos (Nat.le_add_right a i), Nat.add_sub_cancel_left, List.getD_eq_getElem _ _ hi']

theorem load_add (m : Mem) (a n k : Nat) : load m a (n + k) = load m a n ++ load m (a + n) k := by
  simp only [load, List.range_add, List.map_append, List.map_map, Function.comp_def, Nat.add_assoc]

/-- A store inside the range of a load. -/
theorem load_store_inside (h : off + bs.length ≤ n) :
    poke off bs (load m a n) = some (load (store m (a + off) bs) a n) := by
  obtain ⟨k, rfl⟩ := Nat.exists_eq_add_of_le h
  have hbefore : load (store m (a + off) bs) a off = load m a off :=
    load_store_apart (.inl (Nat.le_refl _))
  have hbehind : load (store m (a + off) bs) (a + (off + bs.length)) k =
    load m (a + (off + bs.length)) k :=
    load_store_apart (.inr (by omega))
  rw [poke_inside (by rwa [length_load]), load_add m a (off + bs.length), load_add m a off,
    load_add _ a (off + bs.length), load_add _ a off, hbefore, hbehind, load_store_self,
    List.drop_left' (by rw [List.length_append, length_load, length_load]),
      List.append_assoc (load m a off),
    List.take_left' length_load]

theorem loadWord_storeWord {v : Nat} (h : v < 256 ^ 4) : loadWord (storeWord m a v) a = v := by
  have hself := load_store_self m a (leBytes 4 v)
  rw [length_leBytes] at hself
  rw [loadWord, storeWord, hself, leNat_leBytes_of_lt h]

theorem loadWord_store_apart (h : b + 4 ≤ a ∨ a + bs.length ≤ b) : loadWord
    (store m a bs) b = loadWord m b :=
  congrArg leNat (load_store_apart h)

theorem loadWord_storeWord_apart {v : Nat} (h : b + 4 ≤ a ∨ a + 4 ≤ b) :
    loadWord (storeWord m a v) b = loadWord m b :=
  loadWord_store_apart (by rwa [length_leBytes])

end Memory
