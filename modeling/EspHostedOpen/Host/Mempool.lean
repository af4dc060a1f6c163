import EspHostedOpen.Lib.Linked
import EspHostedOpen.Lib.Memory
import EspHostedOpen.Lib.Transition

/-!
# The memory pool (`mempool.c`, `mempool_ll.c`)

A pool is a buffer of blocks. Those that are free are chained through their own first bytes, and the
pool counts them. The pool does not check what is given back: in a run every block is free or with
one client, and a client finds in its block what it has written there, exactly as long as nobody
gives back what it does not have.
-/

namespace EspHostedOpen.Mempool

open ByteCodec Memory Transition

/-- `OS_ALIGN`. -/
def osAlign (n a : Nat) : Nat := if n &&& (a - 1) = 0 then n else n + (a - (n &&& (a - 1)))

def osAlignment : Nat := 4

inductive OsError
  | invalidParm
  | memNotAligned
  deriving DecidableEq, Repr

/-- `struct os_mempool`; a null pointer is 0. -/
structure Pool where
  blockSize : Nat
  numBlocks : UInt16
  numFree : UInt16
  minFree : UInt16
  membufAddr : Nat
  first : Nat                                   -- of the list of free blocks
  deriving DecidableEq, Repr

/-- `OS_MEMPOOL_TRUE_BLOCK_SIZE`. -/
def Pool.trueBlockSize (p : Pool) : Nat := osAlign p.blockSize osAlignment

/-- The loop of `os_mempool_init_internal`, with `n` blocks to go behind this one. -/
def chain (size : Nat) : Nat → Nat → Mem → Mem
  | 0, block, m => storeWord m block 0
  | n + 1, block, m => chain size n (block + size) (storeWord m block (block + size))

/-- `os_mempool_init`. -/
def osMempoolInit (blocks : UInt16) (blockSize : Nat) (membuf : Nat) (m : Mem) : Except OsError
    (Pool × Mem) :=
  if blockSize = 0 then .error .invalidParm
  else if membuf = 0 ∧ blocks ≠ 0 then .error .invalidParm
  else if membuf ≠ 0 ∧ membuf &&& (osAlignment - 1) ≠ 0 then .error .memNotAligned
  else
    let p : Pool := ⟨blockSize, blocks, blocks, blocks, membuf, membuf⟩
    .ok (p, if 0 < blocks then chain p.trueBlockSize (blocks.toNat - 1) membuf m else m)

/-- `os_memblock_get`. -/
def osMemblockGet (p : Pool) (m : Mem) : Nat × Pool :=
  if p.numFree ≠ 0 then
    let numFree := p.numFree - 1
    (p.first, { p with
      first := loadWord m p.first, numFree := numFree,
      minFree := if numFree < p.minFree then numFree else p.minFree })
  else (0, p)

/-- `os_memblock_put`, for a block that is not null. -/
def osMemblockPut (p : Pool) (m : Mem) (block : Nat) : Pool × Mem :=
  ({ p with first := block, numFree := p.numFree + 1 }, storeWord m block p.first)

/-- `hosted_mempool_alloc`. -/
def hostedMempoolAlloc (p : Pool) (m : Mem) (nbytes : Nat) (needMemset : Bool) : Nat × Pool × Mem :=
  if p.blockSize < nbytes then (0, p, m)
  else
    let (mem, p) := osMemblockGet p m
    (mem, p, if mem ≠ 0 ∧ needMemset then store m mem (List.replicate nbytes 0) else m)

/-- `hosted_mempool_free`. -/
def hostedMempoolFree (p : Pool) (m : Mem) (mem : Nat) : Pool × Mem :=
  if mem = 0 then (p, m) else osMemblockPut p m mem

/-! ## The pool and its clients -/

/-- Overwrite a part of a block. -/
def overwrite (off : Nat) (bs buf : List UInt8) : List UInt8 := (poke off bs buf).getD buf

/-- The pool, the memory, what each client has and has written there, and the most blocks that have
been out. -/
structure State where
  pool : Pool
  mem : Mem
  held : List (Nat × List UInt8) := []
  most : Nat := 0

def State.out (s : State) : List Nat := s.held.map Prod.fst

inductive Action
  | alloc (nbytes : Nat) (needMemset : Bool)
  | free (mem : Nat)
  | write (block : Nat) (off : Nat) (bs : List UInt8)  -- a client writes in its block
  | other (a : Nat) (bs : List UInt8)           -- somebody writes elsewhere

/-- Clients write in their blocks, and all others outside of the buffer. -/
def step (s : State) : Action → Option State
  | .alloc nbytes needMemset =>
    let (block, pool, mem) := hostedMempoolAlloc s.pool s.mem nbytes needMemset
    let held := if block = 0 then s.held else (block, load mem block pool.trueBlockSize) :: s.held
    some ⟨pool, mem, held, max s.most held.length⟩
  | .free mem =>
    let (pool, m) := hostedMempoolFree s.pool s.mem mem
    some { s with pool := pool, mem := m, held := s.held.filter fun x => x.1 ≠ mem }
  | .write block off bs =>
    if block ∈ s.out ∧ off + bs.length ≤ s.pool.trueBlockSize then
      some { s with
        mem := store s.mem (block + off) bs
        held := s.held.map fun x => if x.1 = block then (block, overwrite off bs x.2) else x }
    else none
  | .other a bs =>
    if a + bs.length ≤ s.pool.membufAddr ∨
        s.pool.membufAddr + s.pool.numBlocks.toNat * s.pool.trueBlockSize ≤ a then
      some { s with mem := store s.mem a bs }
    else none

/-! ## The property and the condition -/

/-- The blocks of the buffer. -/
def Pool.blocks (p : Pool) : List Nat :=
  (List.range p.numBlocks.toNat).map fun i => p.membufAddr + i * p.trueBlockSize

/-- Every block is in the list of free ones or with one client, the pool has counted them, and what
the clients have written is there. -/
structure Sound (s : State) : Prop where
  blocks : ∃ free, Linked (loadWord s.mem) 0 s.pool.first free ∧ s.pool.numFree.toNat =
    free.length ∧
    (free ++ s.out).Perm s.pool.blocks
  low : s.pool.minFree.toNat + s.most = s.pool.numBlocks.toNat
  peak : s.out.length ≤ s.most
  contents : ∀ x ∈ s.held, load s.mem x.1 s.pool.trueBlockSize = x.2

/-- Whoever gives a block back has it. -/
def Careful (s : State) : Action → Prop
  | .free mem => mem = 0 ∨ mem ∈ s.out
  | _ => True

/-- Where the buffer lies. -/
structure Pool.Placed (p : Pool) : Prop where
  size : 0 < p.blockSize
  buffer : p.membufAddr ≠ 0
  aligned : p.membufAddr % 4 = 0
  fits : p.membufAddr + p.numBlocks.toNat * p.trueBlockSize ≤ 2 ^ 32

theorem osAlign_eq (n : Nat) : osAlign n osAlignment = (n + 3) / 4 * 4 := by
  have hmask : n &&& (osAlignment - 1) = n % 4 := Nat.and_two_pow_sub_one_eq_mod n 2
  unfold osAlign
  rw [hmask, osAlignment]
  split <;> omega

/-! ## Blocks -/

section

variable {p : Pool} {a b : Nat}

theorem Pool.trueBlockSize_eq (p : Pool) : p.trueBlockSize = (p.blockSize + 3) / 4 * 4 :=
    osAlign_eq p.blockSize

theorem Pool.le_trueBlockSize (p : Pool) : p.blockSize ≤ p.trueBlockSize := by
  rw [p.trueBlockSize_eq]
  omega

theorem Pool.Placed.four_le (h : p.Placed) : 4 ≤ p.trueBlockSize := by
  have := h.size
  rw [p.trueBlockSize_eq]
  omega

theorem Pool.mem_blocks : a ∈ p.blocks ↔ ∃ i < p.numBlocks.toNat,
    p.membufAddr + i * p.trueBlockSize = a := by
  simp [Pool.blocks]

/-- A block lies in the buffer, at an address for a pointer. -/
theorem Pool.Placed.inside (h : p.Placed) (ha : a ∈ p.blocks) :
    p.membufAddr ≤ a ∧ a + p.trueBlockSize ≤ p.membufAddr + p.numBlocks.toNat * p.trueBlockSize ∧
      a % 4 = 0 := by
  obtain ⟨i, hi, rfl⟩ := Pool.mem_blocks.1 ha
  have hrow := Nat.mul_le_mul_right p.trueBlockSize hi
  rw [Nat.succ_mul] at hrow
  have haligned := h.aligned
  refine ⟨Nat.le_add_right .., by omega, ?_⟩
  rw [p.trueBlockSize_eq, ← Nat.mul_assoc, Nat.add_mul_mod_self_right, haligned]

theorem Pool.Placed.ne_zero (h : p.Placed) (ha : a ∈ p.blocks) : a ≠ 0 := by
  have := (h.inside ha).1
  have := h.buffer
  omega

theorem Pool.Placed.lt (h : p.Placed) (ha : a ∈ p.blocks) : a < 256 ^ 4 := by
  have := h.inside ha
  have := h.fits
  have := h.four_le
  omega

/-- Two blocks have no byte in common. -/
theorem Pool.apart (ha : a ∈ p.blocks) (hb : b ∈ p.blocks) (hne : a ≠ b) :
    a + p.trueBlockSize ≤ b ∨ b + p.trueBlockSize ≤ a := by
  obtain ⟨i, -, rfl⟩ := Pool.mem_blocks.1 ha
  obtain ⟨j, -, rfl⟩ := Pool.mem_blocks.1 hb
  rcases Nat.lt_trichotomy i j with hij | rfl | hij
  · have hrow := Nat.mul_le_mul_right p.trueBlockSize hij
    rw [Nat.succ_mul] at hrow
    exact .inl (by omega)
  · exact absurd rfl hne
  · have hrow := Nat.mul_le_mul_right p.trueBlockSize hij
    rw [Nat.succ_mul] at hrow
    exact .inr (by omega)

theorem Pool.Placed.nodup (h : p.Placed) : p.blocks.Nodup := by
  refine List.nodup_range.map fun i j hij => ?_
  have hmul : i * p.trueBlockSize = j * p.trueBlockSize := Nat.add_left_cancel hij
  exact Nat.eq_of_mul_eq_mul_right (by have := h.four_le; omega) hmul

end

/-! ## A new pool -/

theorem loadWord_chain_apart {size n : Nat} {block b : Nat} {m : Mem} (h : b + 4 ≤ block) :
    loadWord (chain size n block m) b = loadWord m b := by
  induction n generalizing block m with
  | zero => exact loadWord_storeWord_apart (.inl h)
  | succ n ih => exact (ih (by omega)).trans (loadWord_storeWord_apart (.inl h))

/-- The loop chains the blocks in their order. -/
theorem linked_chain {size : Nat} (n block : Nat) (m : Mem) (hsize : 4 ≤ size) (hne : block ≠ 0)
    (hfits : block + (n + 1) * size ≤ 2 ^ 32) :
    Linked (loadWord (chain size n block m)) 0 block
    ((List.range (n + 1)).map fun i => block + i * size) := by
  induction n generalizing block m with
  | zero =>
    have hnull : loadWord (chain size 0 block m) block = 0 := loadWord_storeWord (by decide)
    refine ⟨by simp, by simpa, ?_⟩
    show loadWord (chain size 0 block m) (block + 0 * size) = 0
    rwa [Nat.zero_mul, Nat.add_zero]
  | succ n ih =>
    rw [Nat.succ_mul] at hfits
    have hrow : size ≤ (n + 1) * size := Nat.le_mul_of_pos_left size (Nat.succ_pos n)
    have hnext : loadWord (chain size (n + 1) block m) block = block + size := by
      rw [chain, loadWord_chain_apart (by omega), loadWord_storeWord (by omega)]
    rw [List.range_succ_eq_map, List.map_cons, List.map_map]
    refine ⟨by simp, by simpa, ?_⟩
    rw [Nat.zero_mul, Nat.add_zero block, hnext]
    have htail := ih (block + size) (storeWord m block (block + size)) (by omega) (by omega)
    refine (congrArg _ (List.map_congr_left fun i _ => ?_)).mp htail
    simp only [Function.comp_apply, Nat.succ_eq_add_one, Nat.succ_mul]
    omega

/-- The state behind `os_mempool_init`. -/
def start (p : Pool) (m : Mem) : State := ⟨p, m, [], 0⟩

theorem sound_init {blocks : UInt16} {blockSize : Nat} {membuf : Nat} {m m' : Mem} {p : Pool}
    (h : osMempoolInit blocks blockSize membuf m = .ok (p, m')) (hblocks : 0 < blocks)
    (hfits : membuf + blocks.toNat * osAlign blockSize osAlignment ≤ 2 ^ 32) :
    Sound (start p m') ∧ p.Placed := by
  have hpos : 0 < blocks.toNat := UInt16.lt_iff_toNat_lt.1 hblocks
  have hnz : blocks ≠ 0 := fun he => by simp [he] at hpos
  unfold osMempoolInit at h
  split at h
  · cases h
  split at h
  · cases h
  split at h
  · cases h
  next hsize hbuf haligned =>
  obtain ⟨rfl, rfl⟩ := Prod.mk.inj (Except.ok.inj h)
  have hmask : membuf &&& (osAlignment - 1) = membuf % 4 := Nat.and_two_pow_sub_one_eq_mod membuf 2
  have hne : membuf ≠ 0 := fun he => hbuf ⟨he, hnz⟩
  have hplaced : (⟨blockSize, blocks, blocks, blocks, membuf, membuf⟩ : Pool).Placed := {
    size := Nat.pos_of_ne_zero hsize
    buffer := hne
    aligned := by
      rw [hmask] at haligned
      exact Decidable.byContradiction fun ha => haligned ⟨hne, ha⟩
    fits := hfits }
  refine ⟨?_, hplaced⟩
  have hcount : blocks.toNat - 1 + 1 = blocks.toNat := by omega
  have hchain :=
    linked_chain (blocks.toNat - 1) membuf m hplaced.four_le hne (by rw [hcount]; exact hfits)
  rw [hcount] at hchain
  exact {
    blocks := by
      refine ⟨_, hchain, ?_, ?_⟩
      · rw [List.length_map, List.length_range]
        rfl
      · rw [start, State.out, List.map_nil, List.append_nil]
        exact List.Perm.refl _
    low := rfl
    peak := Nat.le_refl 0
    contents := fun x hx => absurd hx List.not_mem_nil }

/-! ## The steps -/

section

variable {s s' : State}

theorem State.mem_out {x : Nat × List UInt8} (hx : x ∈ s.held) : x.1 ∈ s.out :=
    List.mem_map_of_mem hx

/-- A store apart from the free blocks leaves their list. -/
theorem linked_store {p : Pool} (hp : p.Placed) {m : Mem} {first : Nat} {free : List Nat}
    (hl : Linked (loadWord m) 0 first free) {a : Nat} {bs : List UInt8}
    (hapart : ∀ b ∈ free, b + p.trueBlockSize ≤ a ∨ a + bs.length ≤ b) :
    Linked (loadWord (store m a bs)) 0 first free := by
  refine hl.congr fun b hb => loadWord_store_apart ((hapart b hb).imp_left fun hle => ?_)
  have := hp.four_le
  omega

/-- The free blocks, and those that are out, are blocks, and no block is both. -/
theorem Sound.apart {free : List Nat} (hp : s.pool.Placed)
    (hperm : (free ++ s.out).Perm s.pool.blocks) :
    (∀ b ∈ free, b ∈ s.pool.blocks) ∧ (∀ b ∈ s.out, b ∈ s.pool.blocks) ∧
      (∀ b ∈ free, ∀ a ∈ s.out, b ≠ a) ∧
      s.out.Nodup ∧ free.length + s.out.length = s.pool.numBlocks.toNat := by
  have hnd := List.nodup_append.1 (hperm.nodup_iff.2 hp.nodup)
  refine ⟨fun b hb => hperm.subset (List.mem_append_left _ hb), fun b hb =>
    hperm.subset (List.mem_append_right _ hb), hnd.2.2, hnd.2.1, ?_⟩
  have hlen := hperm.length_eq
  simpa [Pool.blocks] using hlen

theorem sound_write {block off : Nat} {bs : List UInt8} (h : Sound s) (hp : s.pool.Placed)
    (hs : step s (.write block off bs) = some s') : Sound s' ∧ s'.pool = s.pool := by
  simp only [step] at hs
  split at hs
  · next hin =>
    cases hs
    obtain ⟨hout, hfit⟩ := hin
    obtain ⟨free, hl, hcount, hperm⟩ := h.blocks
    obtain ⟨hfree, hblocks, hne, -, -⟩ := Sound.apart hp hperm
    have hsame : (s.held.map fun x => if x.1 = block then (block, overwrite off bs x.2) else x).map
      Prod.fst = s.out := by
      rw [List.map_map]
      refine List.map_congr_left fun x _ => ?_
      simp only [Function.comp_apply]
      split <;> simp_all
    refine ⟨⟨⟨free, ?_, hcount, ?_⟩, h.low, ?_, ?_⟩, rfl⟩
    · refine linked_store hp hl fun b hb => ?_
      have := Pool.apart (hfree b hb) (hblocks block hout) (hne b hb block hout)
      omega
    · rw [State.out, hsame]
      exact hperm
    · rw [State.out, hsame]
      exact h.peak
    · intro x hx
      obtain ⟨y, hy, rfl⟩ := List.mem_map.1 hx
      have hold := h.contents y hy
      split
      · next heq =>
        rw [heq] at hold
        have hpoke := load_store_inside (m := s.mem) (a := block) hfit
        rw [hold] at hpoke
        simp only [overwrite, hpoke, Option.getD_some]
      · next hneq =>
        have := Pool.apart (hblocks y.1 (State.mem_out hy)) (hblocks block hout) hneq
        refine (load_store_apart ?_).trans hold
        show y.1 + s.pool.trueBlockSize ≤ _ ∨ _
        omega
  · cases hs

theorem sound_other {a : Nat} {bs : List UInt8} (h : Sound s) (hp : s.pool.Placed)
    (hs : step s (.other a bs) = some s') : Sound s' ∧ s'.pool = s.pool := by
  simp only [step] at hs
  split at hs
  · next hin =>
    cases hs
    obtain ⟨free, hl, hcount, hperm⟩ := h.blocks
    obtain ⟨hfree, hblocks, -⟩ := Sound.apart hp hperm
    refine ⟨⟨⟨free, linked_store hp hl fun b hb => ?_, hcount, hperm⟩, h.low, h.peak,
      fun x hx => ?_⟩, rfl⟩
    · have := hp.inside (hfree b hb)
      omega
    · have := hp.inside (hblocks x.1 (State.mem_out hx))
      refine (load_store_apart ?_).trans (h.contents x hx)
      show x.1 + s.pool.trueBlockSize ≤ _ ∨ _
      omega
  · cases hs

/-- What `hosted_mempool_alloc` does to a sound pool. -/
theorem alloc_cases (h : Sound s) (hp : s.pool.Placed) (nbytes : Nat) (needMemset : Bool) :
    (s.pool.blockSize < nbytes ∨ s.out.length = s.pool.numBlocks.toNat) ∧
        hostedMempoolAlloc s.pool s.mem nbytes needMemset = (0, s.pool, s.mem) ∨
    ∃ block free, Linked (loadWord s.mem) 0 s.pool.first (block :: free) ∧
      s.pool.numFree.toNat = free.length + 1 ∧ (block :: free ++ s.out).Perm s.pool.blocks ∧
      nbytes ≤ s.pool.blockSize ∧ block ∈ s.pool.blocks ∧
      hostedMempoolAlloc s.pool s.mem nbytes needMemset = (block, { s.pool with
        first := loadWord s.mem block, numFree := s.pool.numFree - 1,
        minFree :=
          if s.pool.numFree - 1 < s.pool.minFree then s.pool.numFree - 1 else s.pool.minFree },
        if needMemset then store s.mem block (List.replicate nbytes 0) else s.mem) := by
  obtain ⟨free, hl, hcount, hperm⟩ := h.blocks
  obtain ⟨hfree, -, -, -, htotal⟩ := Sound.apart hp hperm
  unfold hostedMempoolAlloc
  by_cases hbig : s.pool.blockSize < nbytes
  · exact .inl ⟨.inl hbig, if_pos hbig⟩
  rw [if_neg hbig]
  cases free with
  | nil =>
    have hnone : s.pool.numFree = 0 := UInt16.toNat_inj.1 hcount
    refine .inl ⟨.inr (by simpa using htotal), ?_⟩
    simp [osMemblockGet, hnone]
  | cons block free =>
    have hfirst := hl.1
    have hne := hl.2.1
    have hsome : s.pool.numFree ≠ 0 := fun he => by simp [he] at hcount
    refine .inr ⟨block, free, hl, hcount, hperm, Nat.le_of_not_lt hbig,
      hfree block List.mem_cons_self, ?_⟩
    simp [osMemblockGet, hsome, hfirst, hne]

/-- The geometry of the pool is that of its start. -/
theorem Pool.Placed.of_eq {p q : Pool} (hp : p.Placed) (hsize : q.blockSize = p.blockSize)
    (hbuf : q.membufAddr = p.membufAddr) (hnum : q.numBlocks = p.numBlocks) : q.Placed := by
  obtain ⟨h1, h2, h3, h4⟩ := hp
  rw [Pool.trueBlockSize, ← hsize, ← hbuf, ← hnum] at h4
  exact ⟨hsize ▸ h1, hbuf ▸ h2, hbuf ▸ h3, h4⟩

/-- The least that has been free, where one block more is out. -/
theorem low_alloc {k low : UInt16} {most out n : Nat} (hlow : low.toNat + most = n)
    (htotal : k.toNat + (out + 1) = n) :
    (if k < low then k else low).toNat + max most (out + 1) = n := by
  split
  · next hlt =>
    have hlt := UInt16.lt_iff_toNat_lt.1 hlt
    omega
  · next hge =>
    have hge := mt UInt16.lt_iff_toNat_lt.2 hge
    omega

theorem sound_alloc {nbytes : Nat} {needMemset : Bool} (h : Sound s) (hp : s.pool.Placed)
    (hs : step s (.alloc nbytes needMemset) = some s') : Sound s' ∧ s'.pool.Placed := by
  simp only [step] at hs
  rcases alloc_cases h hp nbytes needMemset with ⟨-, halloc⟩ |
    ⟨block, free, hl, hcount, hperm, hfit, hblock, halloc⟩
  · rw [halloc] at hs
    cases hs
    have hmost : max s.most s.held.length = s.most :=
      Nat.max_eq_left (by simpa [State.out] using h.peak)
    simp only [if_true, hmost]
    exact ⟨h, hp⟩
  · rw [halloc] at hs
    simp only [if_neg (hp.ne_zero hblock)] at hs
    cases hs
    obtain ⟨hfree, hblocks, hne, -, htotal⟩ := Sound.apart hp hperm
    have hnotin := (List.nodup_cons.1 hl.nodup).1
    obtain ⟨-, -, htail⟩ := hl
    -- the memory that is cleared is apart from every other block
    have hapart : ∀ {b}, b ∈ s.pool.blocks → b ≠ block → b + s.pool.trueBlockSize ≤ block ∨
        block + (List.replicate nbytes (0 : UInt8)).length ≤ b := by
      intro b hb hbne
      have := Pool.apart hb hblock hbne
      have := s.pool.le_trueBlockSize
      rw [List.length_replicate]
      omega
    have hpred : (s.pool.numFree - 1).toNat = free.length := by
      have hle : (1 : UInt16) ≤ s.pool.numFree :=
        UInt16.le_iff_toNat_le.2 (by rw [hcount]; exact Nat.le_add_left ..)
      rw [UInt16.toNat_sub_of_le _ _ hle, hcount]
      rfl
    rw [List.length_cons] at htotal
    refine ⟨⟨⟨free, ?_, hpred, ?_⟩, ?_, ?_, ?_⟩, hp.of_eq rfl rfl rfl⟩
    · cases needMemset with
      | false => exact htail
      | true =>
        exact linked_store hp htail fun b hb =>
          hapart (hfree b (List.mem_cons_of_mem _ hb)) fun he => hnotin (he ▸ hb)
    · exact List.perm_middle.trans hperm
    · rw [State.out, List.length_map] at htotal
      have hall : (s.pool.numFree - 1).toNat + (s.held.length + 1) =
        s.pool.numBlocks.toNat := by omega
      exact low_alloc h.low hall
    · show ((block :: s.held.map Prod.fst).length) ≤ max s.most (s.held.length + 1)
      simp
    · intro x hx
      rcases List.mem_cons.1 hx with rfl | hx
      · rfl
      · have hold := h.contents x hx
        have hin := State.mem_out hx
        have hneq : x.1 ≠ block := fun he => hne block List.mem_cons_self x.1 hin he.symm
        cases needMemset with
        | false => exact hold
        | true => exact (load_store_apart (hapart (hblocks x.1 hin) hneq)).trans hold

theorem filter_out (s : State) (mem : Nat) :
    (s.held.filter fun x => x.1 ≠ mem).map Prod.fst = s.out.filter fun a => a ≠ mem := by
  rw [State.out, List.filter_map]
  rfl

/-- Nothing is taken away from the clients for a block that none of them has. -/
theorem filter_held {mem : Nat} (hout : mem ∉ s.out) : (s.held.filter fun x => x.1 ≠ mem) =
    s.held := by
  refine List.filter_eq_self.2 fun x hx => ?_
  have hin := State.mem_out hx
  simpa using fun he : x.1 = mem => hout (he ▸ hin)

theorem step_free {mem : Nat} (hz : mem ≠ 0) : step s (.free mem) = some { s with
    pool := { s.pool with first := mem, numFree := s.pool.numFree + 1 }
    mem := storeWord s.mem mem s.pool.first
    held := s.held.filter fun x => x.1 ≠ mem } := by
  simp only [step, hostedMempoolFree, if_neg hz, osMemblockPut]

theorem sound_free {mem : Nat} (h : Sound s) (hp : s.pool.Placed) (hG : Careful s (.free mem))
    (hs : step s (.free mem) = some s') : Sound s' ∧ s'.pool.Placed := by
  obtain ⟨free, hl, hcount, hperm⟩ := h.blocks
  obtain ⟨hfree, hblocks, hne, hnd, htotal⟩ := Sound.apart hp hperm
  by_cases hz : mem = 0
  · have hout : mem ∉ s.out := fun hin => hp.ne_zero (hblocks mem hin) hz
    simp only [step, hostedMempoolFree, if_pos hz, filter_held hout] at hs
    cases hs
    exact ⟨h, hp⟩
  · have hout : mem ∈ s.out := hG.resolve_left hz
    have hblock := hblocks mem hout
    have hfirst : s.pool.first < 256 ^ 4 := by
      cases free with
      | nil => rw [show s.pool.first = 0 from hl]; decide
      | cons a free => rw [hl.1]; exact hp.lt (hfree a List.mem_cons_self)
    have hfour := hp.four_le
    rw [step_free hz] at hs
    cases hs
    refine ⟨⟨⟨mem :: free, ?_, ?_, ?_⟩, h.low, ?_, ?_⟩, hp.of_eq rfl rfl rfl⟩
    · refine hl.push hz (loadWord_storeWord hfirst) fun b hb => loadWord_storeWord_apart ?_
      have := Pool.apart (hfree b hb) hblock (hne b hb mem hout)
      omega
    · have hlt := s.pool.numBlocks.toNat_lt
      have hpos := List.length_pos_of_mem hout
      show (s.pool.numFree + 1).toNat = (mem :: free).length
      simp only [UInt16.toNat_add, UInt16.reduceToNat, List.length_cons]
      omega
    · show (mem :: free ++ (s.held.filter fun x => x.1 ≠ mem).map Prod.fst).Perm s.pool.blocks
      have herase : (s.out.filter fun a => a ≠ mem) = s.out.erase mem := by
        rw [hnd.erase_eq_filter]
        exact List.filter_congr fun a _ => by rw [bne, beq_eq_decide, decide_not]
      rw [filter_out, herase]
      exact (List.perm_middle.symm.trans ((List.perm_cons_erase hout).symm.append_left free)).trans
        hperm
    · show ((s.held.filter fun x => x.1 ≠ mem).map Prod.fst).length ≤ s.most
      have := h.peak
      have := List.length_filter_le (fun x : Nat × List UInt8 => decide (x.1 ≠ mem)) s.held
      simp only [State.out, List.length_map] at *
      omega
    · intro x hx
      obtain ⟨hx, hneq⟩ := List.mem_filter.1 hx
      have := Pool.apart (hblocks x.1 (State.mem_out hx)) hblock (of_decide_eq_true hneq)
      refine (load_store_apart ?_).trans (h.contents x hx)
      rw [length_leBytes]
      show x.1 + s.pool.trueBlockSize ≤ _ ∨ _
      omega

theorem needs_free {mem : Nat} (h : Sound s) (h' : Sound s')
    (hs : step s (.free mem) = some s') : Careful s (.free mem) := by
  obtain ⟨free, hl, hcount, hperm⟩ := h.blocks
  by_cases hz : mem = 0
  · exact .inl hz
  refine .inr (Decidable.byContradiction fun hout => ?_)
  -- the count goes up, and no block comes back
  rw [step_free hz, filter_held hout] at hs
  cases hs
  obtain ⟨free', -, hcount', hperm'⟩ := h'.blocks
  have htotal : (free' ++ s.out).length = (free ++ s.out).length :=
    hperm'.length_eq.trans hperm.length_eq.symm
  rw [List.length_append, List.length_append] at htotal
  have hword : (s.pool.numFree + 1).toNat = s.pool.numFree.toNat := by
    refine hcount'.trans (Eq.trans ?_ hcount.symm)
    omega
  simp only [UInt16.toNat_add, UInt16.reduceToNat] at hword
  have := s.pool.numFree.toNat_lt
  omega

theorem states_iff_steps (h : Sound s) (hp : s.pool.Placed) (as : List Action) :
    AllStates step Sound s as ↔ AllSteps step Careful s as := by
  refine allStates_iff_allSteps_of_kept (J := fun s => Sound s ∧ s.pool.Placed) And.left
    (fun {s s' a} h hG hs => ?_) (fun {s s' a} h h' hs => ?_) (fun {s a} hs => ?_) ⟨h, hp⟩
  · cases a with
    | alloc => exact sound_alloc h.1 h.2 hs
    | free => exact sound_free h.1 h.2 hG hs
    | write =>
      have hw := sound_write h.1 h.2 hs
      exact ⟨hw.1, hw.2 ▸ h.2⟩
    | other =>
      have hw := sound_other h.1 h.2 hs
      exact ⟨hw.1, hw.2 ▸ h.2⟩
  · cases a with
    | free => exact needs_free h.1 h' hs
    | alloc | write | other => trivial
  · cases a with
    | free => cases hs
    | alloc | write | other => trivial

/-- In a run of a pool that `os_mempool_init` has made, everything is sound exactly when whoever
gives a block back has it. -/
theorem mempool_sound_iff {blocks : UInt16} {blockSize membuf : Nat} {m m' : Mem} {p : Pool}
    (hinit : osMempoolInit blocks blockSize membuf m = .ok (p, m')) (hblocks : 0 < blocks)
    (hfits : membuf + blocks.toNat * osAlign blockSize osAlignment ≤ 2 ^ 32) (as : List Action) :
    AllStates step Sound (start p m') as ↔ AllSteps step Careful (start p m') as := by
  obtain ⟨hsound, hplaced⟩ := sound_init hinit hblocks hfits
  exact states_iff_steps hsound hplaced as

theorem init_two : osMempoolInit 2 6 4096 (fun _ => 0) =
    .ok (⟨6, 2, 2, 2, 4096, 4096⟩, chain 8 1 4096 fun _ => 0) := rfl

theorem mempool_sound_iff_two : AllStates step Sound
    (start ⟨6, 2, 2, 2, 4096, 4096⟩ (chain 8 1 4096 fun _ => 0)) [.alloc 6 true, .free 4096] := by
  refine (mempool_sound_iff init_two (by decide) (by decide) _).2 ⟨trivial, fun s hs => ?_⟩
  cases hs
  exact ⟨.inr List.mem_cons_self, fun _ _ => trivial⟩

/-! ## What a client gets -/

/-- What `os_mempool_init` has set for good. -/
def Pool.geometry (p : Pool) : Nat × UInt16 × Nat := (p.blockSize, p.numBlocks, p.membufAddr)

theorem geometry_alloc (p : Pool) (m : Mem) (nbytes : Nat) (needMemset : Bool) :
    (hostedMempoolAlloc p m nbytes needMemset).2.1.geometry = p.geometry := by
  unfold hostedMempoolAlloc
  split
  · rfl
  · show (osMemblockGet p m).2.geometry = p.geometry
    unfold osMemblockGet
    split <;> rfl

theorem geometry_free (p : Pool) (m : Mem) (mem : Nat) : (hostedMempoolFree p m mem).1.geometry =
    p.geometry := by
  unfold hostedMempoolFree osMemblockPut
  split <;> rfl

theorem geometry_step {a : Action} (hs : step s a = some s') :
    s'.pool.geometry = s.pool.geometry := by
  cases a with
  | alloc nbytes needMemset =>
    cases hs
    exact geometry_alloc ..
  | free mem =>
    cases hs
    exact geometry_free ..
  | write | other =>
    simp only [step] at hs
    split at hs
    · cases hs
      rfl
    · cases hs

theorem geometry_init {blocks : UInt16} {blockSize membuf : Nat} {m m' : Mem} {p : Pool}
    (h : osMempoolInit blocks blockSize membuf m = .ok (p, m')) :
    p.geometry = (blockSize, blocks, membuf) := by
  unfold osMempoolInit at h
  split at h
  · cases h
  split at h
  · cases h
  split at h
  · cases h
  · cases h
    rfl

/-- As long as whoever gives a block back has it, a client gets a block exactly when it fits and not
all are out; it is aligned, no other client has a byte of it, and it is cleared where that is asked
for. -/
theorem alloc_of_run {blocks : UInt16} {blockSize : Nat} {membuf : Nat} {m m' : Mem} {p : Pool}
    (hinit : osMempoolInit blocks blockSize membuf m = .ok (p, m')) (hblocks : 0 < blocks)
    (hfits : membuf + blocks.toNat * osAlign blockSize osAlignment ≤ 2 ^ 32) {as : List Action}
    (hrun : run step (start p m') as = some s) (hcareful : AllSteps step Careful (start p m') as)
    (nbytes : Nat) (needMemset : Bool) :
    ((hostedMempoolAlloc s.pool s.mem nbytes needMemset).1 = 0 ↔
        blockSize < nbytes ∨ s.out.length = blocks.toNat) ∧
      ((hostedMempoolAlloc s.pool s.mem nbytes needMemset).1 ≠ 0 →
        let r := hostedMempoolAlloc s.pool s.mem nbytes needMemset
        (∃ i < blocks.toNat, r.1 = membuf + i * osAlign blockSize osAlignment) ∧ r.1 % 4 = 0 ∧
          (∀ a ∈ s.out, r.1 + osAlign blockSize osAlignment ≤ a ∨
            a + osAlign blockSize osAlignment ≤ r.1) ∧
          (needMemset = true → load r.2.2 r.1 nbytes = List.replicate nbytes 0)) := by
  obtain ⟨hstart, hplaced⟩ := sound_init hinit hblocks hfits
  have hsound := ((states_iff_steps hstart hplaced as).2 hcareful).last hrun
  have hgeo : s.pool.geometry = (blockSize, blocks, membuf) :=
    (reach_of_run hrun).invariant (I := fun t => t.pool.geometry = _) (geometry_init hinit)
      fun h _ hs => (geometry_step hs).trans h
  obtain ⟨hsize, hnum, hbuf⟩ : s.pool.blockSize = blockSize ∧ s.pool.numBlocks = blocks ∧
    s.pool.membufAddr = membuf := by
    simpa [Pool.geometry] using hgeo
  have hplaced : s.pool.Placed := by
    obtain ⟨hp1, hp2, hp3⟩ : p.blockSize = blockSize ∧ p.numBlocks = blocks ∧ p.membufAddr =
      membuf := by
      simpa [Pool.geometry] using geometry_init hinit
    exact hplaced.of_eq (hsize.trans hp1.symm) (hbuf.trans hp3.symm) (hnum.trans hp2.symm)
  have htrue :
    s.pool.trueBlockSize = osAlign blockSize osAlignment := by rw [Pool.trueBlockSize, hsize]
  rw [← hsize, ← hnum, ← hbuf]
  rw [← hsize] at htrue
  rw [← htrue]
  rcases alloc_cases hsound hplaced nbytes needMemset with ⟨hno, halloc⟩ |
    ⟨block, free, hl, -, hperm, hfit, hblock, halloc⟩
  · rw [halloc]
    exact ⟨iff_of_true rfl hno, fun hne => absurd rfl hne⟩
  · obtain ⟨-, hblocks', hne, -, htotal⟩ := Sound.apart hplaced hperm
    rw [halloc]
    rw [List.length_cons] at htotal
    refine ⟨iff_of_false (hplaced.ne_zero hblock) (by omega), fun _ =>
      ⟨?_, (hplaced.inside hblock).2.2, ?_, ?_⟩⟩
    · obtain ⟨i, hi, he⟩ := Pool.mem_blocks.1 hblock
      exact ⟨i, hi, he.symm⟩
    · exact fun a ha => Pool.apart hblock (hblocks' a ha) (hne block List.mem_cons_self a ha)
    · intro hset
      have hself := load_store_self s.mem block (List.replicate nbytes 0)
      rw [List.length_replicate] at hself
      simp only [hset, if_true, hself]

/-- Both blocks are taken, one is written to and given back. -/
def reuse : List Action := [.alloc 6 true, .alloc 3 false, .write 4096 0 [1, 2, 3], .free 4096]

def reused : State :=
  (run step (start ⟨6, 2, 2, 2, 4096, 4096⟩ (chain 8 1 4096 fun _ => 0)) reuse).getD
    (start ⟨6, 2, 2, 2, 4096, 4096⟩ fun _ => 0)

/-- The test behind `Careful`. -/
def gives (s : State) : Action → Bool
  | .free mem => decide (mem = 0 ∨ mem ∈ s.out)
  | _ => true

theorem careful_of_gives (s : State) (a : Action) (h : gives s a = true) : Careful s a := by
  cases a with
  | free mem =>
    have hmem : mem = 0 ∨ mem ∈ s.out := of_decide_eq_true h
    exact hmem
  | alloc | write | other => trivial

/-- The block that was given back is the next to be taken, and it is cleared. -/
theorem alloc_of_run_two :
    let r := hostedMempoolAlloc reused.pool reused.mem 5 true
    r.1 = 4096 ∧ reused.out = [4104] ∧ (∀ a ∈ reused.out, r.1 + 8 ≤ a ∨ a + 8 ≤ r.1) ∧
      load r.2.2 r.1 5 = [0, 0, 0, 0, 0] := by
  intro r
  have hguarded : run (guarded gives step)
      (start ⟨6, 2, 2, 2, 4096, 4096⟩ (chain 8 1 4096 fun _ => 0)) reuse = some reused := rfl
  have hrun := run_of_guarded_run hguarded
  have hcareful := allSteps_of_guarded_run careful_of_gives hguarded
  have hblock : r.1 = 4096 := by decide
  obtain ⟨-, -, hapart, hzero⟩ :=
    (alloc_of_run init_two (by decide) (by decide) hrun hcareful 5 true).2 (by rw [hblock]; decide)
  exact ⟨hblock, by decide, hapart, hzero rfl⟩

end

end EspHostedOpen.Mempool
