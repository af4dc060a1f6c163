import EspHostedOpen.Lib.Bytes

/-!
# Filling a buffer through a structure overlay

A C encoder allocates a block, casts it to a structure and assigns the members one after the other.
`poke` is one assignment, undefined (`none`) outside the block; `stores` is a sequence of them, and
`allocStores` puts the allocation in front, of a block whose old content is arbitrary.

`stores_sorted`: where every assignment lies in the block and behind the one before, all of them
succeed and each reads back.
-/

namespace ByteCodec

/-- `malloc`: a block of the size asked for, with whatever is in it, or no memory. -/
abbrev Malloc := (n : Nat) → Option (Vector UInt8 n)

/-- A block of zeros. -/
def Malloc.zeroed : Malloc := fun n => some (Vector.replicate n 0)

/-! ## One assignment -/

/-- Store `bs` at `off`. -/
def poke (off : Nat) (bs buf : List UInt8) : Option (List UInt8) :=
  if off + bs.length ≤
    buf.length then some (buf.take off ++ bs ++ buf.drop (off + bs.length)) else none

section Poke

variable {off off' n : Nat} {bs buf buf' : List UInt8}

theorem poke_inside (h : off + bs.length ≤ buf.length) :
    poke off bs buf = some (buf.take off ++ bs ++ buf.drop (off + bs.length)) := if_pos h

theorem poke_inv (h : poke off bs buf = some buf') :
    off + bs.length ≤ buf.length ∧ buf' = buf.take off ++ bs ++ buf.drop (off + bs.length) := by
  unfold poke at h
  split at h
  · cases h
    exact ⟨‹_›, rfl⟩
  · cases h

theorem length_poke (h : poke off bs buf = some buf') : buf'.length = buf.length := by
  obtain ⟨hin, rfl⟩ := poke_inv h
  simp only [List.length_append, List.length_take, List.length_drop]
  omega

/-- What was stored is read back. -/
theorem slice_poke_self (h : poke off bs buf = some buf') : slice off bs.length buf' = bs := by
  obtain ⟨hin, rfl⟩ := poke_inv h
  have htake : (buf.take off).length = off := by
    rw [List.length_take]
    omega
  rw [List.append_assoc, slice_append_right _ _ (Nat.le_of_eq htake), htake, Nat.sub_self,
    slice_prefix _ rfl]

/-- What lies before or behind is kept. -/
theorem slice_poke_apart (h : poke off bs buf = some buf')
    (hapart : off' + n ≤ off ∨ off + bs.length ≤ off') : slice off' n buf' = slice off' n buf := by
  obtain ⟨hin, rfl⟩ := poke_inv h
  have htake : (buf.take off).length = off := by
    rw [List.length_take]
    omega
  rcases hapart with hbefore | hbehind
  · have hleft : off' + n ≤ (buf.take off).length := by omega
    rw [List.append_assoc, slice_append_left _ hleft, ← slice_append_left (buf.drop off) hleft,
      List.take_append_drop]
  · have hhead : (buf.take off ++ bs).length = off + bs.length := by rw [List.length_append, htake]
    rw [slice_append_right _ _ (by omega), hhead, slice, slice, List.drop_drop]
    congr 2
    omega

end Poke

/-! ## A sequence of assignments -/

/-- An assignment: offset and bytes. -/
abbrev Store := Nat × List UInt8

/-- The offset behind the last byte. -/
def Store.stop (w : Store) : Nat := w.1 + w.2.length

def stores (ws : List Store) (buf : List UInt8) : Option (List UInt8) :=
  ws.foldlM (fun b w => poke w.1 w.2 b) buf

/-- Allocate `total` bytes and assign. -/
def allocStores (malloc : Malloc) (total : Nat) (ws : List Store) : Option (List UInt8) :=
  (malloc total).bind fun b => stores ws b.toList

/-- Every assignment lies behind the one before. -/
abbrev Sorted (ws : List Store) : Prop := ws.Pairwise fun v w => v.stop ≤ w.1

section Stores

variable {w : Store} {ws : List Store} {buf buf' : List UInt8}

theorem stores_cons (w : Store) (ws : List Store) (buf : List UInt8) :
    stores (w :: ws) buf = (poke w.1 w.2 buf).bind (stores ws) := by
  rw [stores, List.foldlM_cons]
  rfl

/-- Assignments inside a block succeed, and keep what lies apart from them all. -/
theorem stores_inside (hin : ∀ w ∈ ws, w.stop ≤ buf.length) :
    ∃ buf', stores ws buf = some buf' ∧ buf'.length = buf.length ∧
      ∀ off n, (∀ w ∈ ws, off + n ≤ w.1 ∨ w.stop ≤ off) → slice off n buf' = slice off n buf := by
  induction ws generalizing buf with
  | nil => exact ⟨buf, rfl, rfl, fun _ _ _ => rfl⟩
  | cons w ws ih =>
    have hpoke := poke_inside (hin w List.mem_cons_self)
    have hlen := length_poke hpoke
    obtain ⟨buf', hbuf', hlen', hkeep⟩ :=
      ih fun v hv => (hin v (List.mem_cons_of_mem w hv)).trans (Nat.le_of_eq hlen.symm)
    refine ⟨buf', ?_, hlen'.trans hlen, fun off n hapart => ?_⟩
    · rw [stores_cons, hpoke]
      exact hbuf'
    · rw [hkeep off n fun v hv => hapart v (List.mem_cons_of_mem w hv)]
      exact slice_poke_apart hpoke (hapart w List.mem_cons_self)

/-- **Read back**: in order, each assignment is still there at the end. -/
theorem stores_sorted (hin : ∀ w ∈ ws, w.stop ≤ buf.length) (hsorted : Sorted ws) :
    ∃ buf', stores ws buf = some buf' ∧ buf'.length = buf.length ∧
      ∀ w ∈ ws, slice w.1 w.2.length buf' = w.2 := by
  induction ws generalizing buf with
  | nil => exact ⟨buf, rfl, rfl, fun w hw => absurd hw List.not_mem_nil⟩
  | cons w ws ih =>
    have hpoke := poke_inside (hin w List.mem_cons_self)
    have hlen := length_poke hpoke
    have hin' : ∀ v ∈ ws, v.stop ≤ (buf.take w.1 ++ w.2 ++ buf.drop (w.1 + w.2.length)).length :=
      fun v hv => (hin v (List.mem_cons_of_mem w hv)).trans (Nat.le_of_eq hlen.symm)
    have hafter : ∀ v ∈ ws, w.stop ≤ v.1 := fun v hv => List.rel_of_pairwise_cons hsorted hv
    obtain ⟨buf', hbuf', hlen', hread⟩ := ih hin' hsorted.of_cons
    obtain ⟨buf'', hbuf'', -, hkeep⟩ := stores_inside hin'
    obtain rfl := Option.some_inj.1 (hbuf'.symm.trans hbuf'')
    refine ⟨buf', ?_, hlen'.trans hlen, fun v hv => ?_⟩
    · rw [stores_cons, hpoke]
      exact hbuf'
    · rcases List.mem_cons.1 hv with rfl | hv
      · rw [hkeep _ _ fun u hu => .inl (hafter u hu)]
        exact slice_poke_self hpoke
      · exact hread v hv

/-- With memory, a block filled in order reads back. -/
theorem allocStores_sorted {malloc : Malloc} {total : Nat} (hmalloc : (malloc total).isSome = true)
    (hin : ∀ w ∈ ws, w.stop ≤ total) (hsorted : Sorted ws) :
    ∃ buf, allocStores malloc total ws = some buf ∧ buf.length = total ∧
      ∀ w ∈ ws, slice w.1 w.2.length buf = w.2 := by
  obtain ⟨b, hb⟩ := Option.isSome_iff_exists.1 hmalloc
  have hlen : b.toList.length = total := b.length_toList
  obtain ⟨buf, hbuf, hbuflen, hread⟩ := stores_sorted (hlen ▸ hin) hsorted
  exact ⟨buf, by rw [allocStores, hb]; exact hbuf, hbuflen.trans hlen, hread⟩

/-- A block whose first `z` bytes are zeroed before it is filled: the rest of them stays zero. -/
theorem allocStores_zeroed {malloc : Malloc} {total z : Nat}
    (hmalloc : (malloc total).isSome = true)
    (hz : z ≤ total) (hin : ∀ w ∈ ws, w.stop ≤ total) (hsorted : Sorted ws) :
    ∃ buf, allocStores malloc total ((0, List.replicate z 0) :: ws) = some buf ∧
      buf.length = total ∧
      (∀ w ∈ ws, slice w.1 w.2.length buf = w.2) ∧
      ∀ off n, off + n ≤ z → (∀ w ∈ ws, off + n ≤ w.1 ∨ w.stop ≤ off) →
        slice off n buf = List.replicate n 0 := by
  obtain ⟨b, hb⟩ := Option.isSome_iff_exists.1 hmalloc
  have hlen : b.toList.length = total := b.length_toList
  have hzeros : (List.replicate z (0 : UInt8)).length = z := List.length_replicate
  have hpoke := @poke_inside 0 (List.replicate z 0) b.toList (by omega)
  have hpokelen := (length_poke hpoke).trans hlen
  obtain ⟨buf, hbuf, hbuflen, hread⟩ := stores_sorted (fun w hw => hpokelen ▸ hin w hw) hsorted
  obtain ⟨buf', hbuf', -, hkeep⟩ := stores_inside (fun w hw => hpokelen ▸ hin w hw)
  obtain rfl := Option.some_inj.1 (hbuf.symm.trans hbuf')
  refine ⟨buf, ?_, hbuflen.trans hpokelen, hread, fun off n hoff hapart => ?_⟩
  · rw [allocStores, hb, Option.bind_some, stores_cons, hpoke]
    exact hbuf
  · rw [hkeep off n hapart, List.take_zero, List.nil_append,
      slice_append_left _ (by rw [hzeros]; exact hoff), slice, List.drop_replicate,
        List.take_replicate]
    congr 1
    omega

theorem allocStores_none {malloc : Malloc} {total : Nat} (hmalloc : (malloc total).isSome = false)
    (ws : List Store) : allocStores malloc total ws = none := by
  have hnone : malloc total = none :=
    Option.isNone_iff_eq_none.1 (Option.isSome_eq_false_iff.1 hmalloc)
  rw [allocStores, hnone]
  rfl

end Stores

/-! ## Copies to the front -/

section Front

variable {n : Nat} {buf : List UInt8}

/-- Copy as much of `bs` as fits to the start of `buf`. -/
def copyFront (bs buf : List UInt8) : List UInt8 := bs.take buf.length ++ buf.drop bs.length

/-- What a sequence of copies to the front writes into a buffer of `n` bytes. -/
def written (n : Nat) (bss : List (List UInt8)) : List UInt8 :=
  bss.foldl (fun w bs => bs.take n ++ w.drop bs.length) []

@[simp] theorem length_copyFront (bs buf : List UInt8) :
    (copyFront bs buf).length = buf.length := by
  simp only [copyFront, List.length_append, List.length_take, List.length_drop]
  omega

/-- Copying over what was written and the rest of the buffer. -/
theorem copyFront_append_drop {w : List UInt8} (hlen : buf.length = n) (hw : w.length ≤ n)
    (bs : List UInt8) :
    copyFront bs (w ++ buf.drop w.length) =
      (bs.take n ++ w.drop bs.length) ++ buf.drop (bs.take n ++ w.drop bs.length).length := by
  have hfront : (w ++ buf.drop w.length).length = n := by
    rw [List.length_append, List.length_drop]
    omega
  have hback : (bs.take n ++ w.drop bs.length).length = max (min n bs.length) w.length := by
    rw [List.length_append, List.length_take, List.length_drop]
    omega
  rw [copyFront, hfront, hback, List.drop_append, List.drop_drop, List.append_assoc]
  congr 2
  by_cases hlong : bs.length ≤ n
  · congr 1
    omega
  · rw [List.drop_eq_nil_of_le (by omega), List.drop_eq_nil_of_le (by omega)]

/-- **A sequence of copies** writes the same whatever was there, and leaves the rest as it was. -/
theorem foldl_copyFront {bss : List (List UInt8)} (hlen : buf.length = n) :
    (written n bss).length ≤ n ∧
      bss.foldl (fun buf bs => copyFront bs buf) buf =
        written n bss ++ buf.drop (written n bss).length := by
  have hfold : ∀ {w : List UInt8}, w.length ≤ n →
      (bss.foldl (fun w bs => bs.take n ++ w.drop bs.length) w).length ≤ n ∧
        bss.foldl (fun buf bs => copyFront bs buf) (w ++ buf.drop w.length) =
          bss.foldl (fun w bs => bs.take n ++ w.drop bs.length) w ++
            buf.drop (bss.foldl (fun w bs => bs.take n ++ w.drop bs.length) w).length := by
    induction bss with
    | nil => exact fun hw => ⟨hw, rfl⟩
    | cons bs bss ih =>
      intro w hw
      have hnext : (bs.take n ++ w.drop bs.length).length ≤ n := by
        rw [List.length_append, List.length_take, List.length_drop]
        omega
      rw [List.foldl_cons, List.foldl_cons, copyFront_append_drop hlen hw]
      exact ih hnext
  exact hfold (w := []) (Nat.zero_le n)

/-- The first `k` bytes are written exactly where one copy is that long. -/
theorem le_length_written_iff {bss : List (List UInt8)} {k : Nat} (hpos : 0 < k) (hk : k ≤ n) :
    k ≤ (written n bss).length ↔ ∃ bs ∈ bss, k ≤ bs.length := by
  have hfold : ∀ w : List UInt8,
      k ≤ (bss.foldl (fun w bs => bs.take n ++ w.drop bs.length) w).length ↔
        k ≤ w.length ∨ ∃ bs ∈ bss, k ≤ bs.length := by
    induction bss with
    | nil => simp
    | cons bs bss ih =>
      intro w
      have hnext : k ≤ (bs.take n ++ w.drop bs.length).length ↔ k ≤ w.length ∨ k ≤ bs.length := by
        rw [List.length_append, List.length_take, List.length_drop]
        omega
      rw [List.foldl_cons, ih, hnext]
      simp only [List.mem_cons, exists_eq_or_imp, or_assoc]
  rw [written, hfold []]
  simp only [List.length_nil, Nat.le_zero_eq]
  constructor
  · rintro (h | h)
    · omega
    · exact h
  · exact Or.inr

end Front

end ByteCodec
