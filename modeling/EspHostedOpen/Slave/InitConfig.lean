import EspHostedOpen.Lib.Records

/-!
# The host's configuration of the slave (`esp_hosted_coprocessor.c`)

`process_priv_pkt` passes the event data of an init event to `host_to_slave_reconfig`, which goes
through its TLVs with the count of what is left in a `uint8_t`. Neither a tag length nor the place
of a value is compared with that count, so the memory behind the event data is part of the model,
arbitrary as it is.
-/

namespace EspHostedOpen.InitConfig

open ByteCodec Records

def espPrivEventInit : UInt8 := 0x22             -- `ESP_PRIV_EVENT_INIT`

-- `SLAVE_CONFIG_PRIV_TAG_TYPE`; `HOST_CAPABILITIES` is one of the tags for which nothing is done
def rcvdEspFirmwareChipId : UInt8 := 0x45
def slvConfigTestRawTp : UInt8 := 0x46
def slvConfigThrottleHighThreshold : UInt8 := 0x47
def slvConfigThrottleLowThreshold : UInt8 := 0x48

/-- `slave_config_t`. -/
structure SlaveConfig where
  throttleHighThreshold : UInt8
  throttleLowThreshold : UInt8
  deriving DecidableEq, Repr

/-- The variables of `host_to_slave_reconfig`; `pos` is relative to `evt_buf`. `reads` is for the
statements only. -/
structure Reconfig where
  pos : Nat := 0
  lenLeft : UInt8
  cfg : SlaveConfig
  capabilities : List UInt8 := []                -- the calls of `process_test_capabilities`
  reads : List Nat := []
  deriving DecidableEq, Repr

/-- The tags whose value is read. -/
def readsValue (tag : UInt8) : Bool :=
  tag = rcvdEspFirmwareChipId || tag = slvConfigTestRawTp || tag = slvConfigThrottleHighThreshold ||
    tag = slvConfigThrottleLowThreshold

/-- One turn of the loop. `rawTp` is `TEST_RAW_TP`. -/
def turn (rawTp : Bool) (m : Nat → UInt8) (st : Reconfig) : Reconfig :=
  let tagLen := m (st.pos + 1)
  let tag := m st.pos
  let value := m (st.pos + 2)
  let next : Reconfig := { st with
    pos := st.pos + (tagLen.toNat + 2)
    lenLeft := st.lenLeft - (tagLen + 2)
    reads := st.reads ++ [st.pos + 1, st.pos] ++ if readsValue tag then [st.pos + 2] else [] }
  if tag = slvConfigTestRawTp then
    if rawTp then { next with capabilities := st.capabilities ++ [value] } else next
  else if tag = slvConfigThrottleHighThreshold then
    { next with cfg := { st.cfg with throttleHighThreshold := value } }
  else if tag = slvConfigThrottleLowThreshold then
    { next with cfg := { st.cfg with throttleLowThreshold := value } }
  else next

/-- The loop, for `fuel` turns at most. -/
def loop (rawTp : Bool) (m : Nat → UInt8) : Nat → Reconfig → Option Reconfig
  | 0, _ => none
  | fuel + 1, st => if st.lenLeft = 0 then some st else loop rawTp m fuel (turn rawTp m st)

inductive Outcome
  | aborted                                      -- `assert(len < 64)`
  | returned (st : Reconfig)
  deriving DecidableEq, Repr

def hostToSlaveReconfig (rawTp : Bool) (m : Nat → UInt8) (len : UInt8) (cfg : SlaveConfig)
    (fuel : Nat) :
    Option Outcome :=
  if len > 64 then some .aborted
  else (loop rawTp m fuel { lenLeft := len, cfg := cfg }).map .returned

/-- `process_priv_pkt`; `m` is the memory from the payload on. -/
def processPrivPkt (rawTp : Bool) (m : Nat → UInt8) (payloadLen : UInt16) (cfg : SlaveConfig)
    (fuel : Nat) :
    Option Outcome :=
  if payloadLen = 0 then some (.returned { lenLeft := 0, cfg := cfg })
  else if m 0 = espPrivEventInit then hostToSlaveReconfig rawTp (fun i => m (2 + i)) (m 1) cfg fuel
  else some (.returned { lenLeft := 0, cfg := cfg })

/-! ## What is asked of it -/

/-- A packet that carries an init event of up to 64 bytes, all of them there. -/
structure InitPacket where
  eventData : List UInt8
  fits : eventData.length ≤ 64
  tail : List UInt8
  size : 2 + eventData.length + tail.length < 65536

def InitPacket.payload (p : InitPacket) : List UInt8 :=
  espPrivEventInit :: UInt8.ofNat p.eventData.length :: (p.eventData ++ p.tail)

/-- The format: a tag, the length, the value. -/
def config : Format := ⟨2, by decide, fun header => (header.getD 1 0).toNat⟩

def tag (r : Record) : UInt8 := r.header.headD 0

/-- The value of the last TLV of the tag `t` that has one, `v` if there is none. -/
def due (t : UInt8) (rs : List Record) (v : UInt8) : UInt8 :=
  rs.foldl (fun v r => if tag r = t then r.value.headD v else v) v

/-- **Ends in its input**: the loop ends, nothing but the event data is read, and the thresholds are
those of the last complete TLVs. -/
structure Sound (rawTp : Bool) (p : InitPacket) (beyond : Nat → UInt8)
    (cfg : SlaveConfig) : Prop where
  sound : ∃ fuel st,
    processPrivPkt rawTp (byteAt p.payload beyond) p.payload.length.toUInt16 cfg fuel =
      some (.returned st) ∧ (∀ i ∈ st.reads, i < p.eventData.length) ∧
    st.cfg.throttleHighThreshold =
      due slvConfigThrottleHighThreshold (config.records p.eventData).1 cfg.throttleHighThreshold ∧
    st.cfg.throttleLowThreshold =
      due slvConfigThrottleLowThreshold (config.records p.eventData).1 cfg.throttleLowThreshold

/-- The last TLV has a value, if its value is read. -/
def EndsWithValue (rs : List Record) : Prop :=
  ∀ r, rs.getLast? = some r → readsValue (tag r) = true → r.value ≠ []

/-- The last TLV of the tag `t`, if it has no value, is in front of one whose tag happens to be what
is due. -/
def NextByte (t v : UInt8) (rs : List Record) : Prop :=
  ∀ pre r q post, rs = pre ++ r :: q :: post → tag r = t → r.value = [] →
    (∀ o ∈ q :: post, tag o ≠ t) →
    tag q = due t pre v

/-- Complete TLVs with their values. -/
structure Clean (cfg : SlaveConfig) (s : List UInt8) : Prop where
  complete : config.Complete s
  ends : EndsWithValue (config.records s).1
  high : NextByte slvConfigThrottleHighThreshold cfg.throttleHighThreshold (config.records s).1
  low : NextByte slvConfigThrottleLowThreshold cfg.throttleLowThreshold (config.records s).1

/-! ## The value that is taken -/

/-- What the loop leaves: of each TLV of the tag `t` the byte behind the header, whatever it belongs
to. -/
def taken (t : UInt8) : List Record → UInt8 → UInt8
  | [], v => v
  | r :: rs, v => taken t rs (if tag r = t then (r.value ++ rs.flatMap Record.bytes).headD v else v)

section Taken

variable {t : UInt8}

theorem due_cons (t : UInt8) (r : Record) (rs : List Record) (v : UInt8) :
    due t (r :: rs) v = due t rs (if tag r = t then r.value.headD v else v) := rfl

/-- Without a TLV of the tag nothing changes. -/
theorem taken_of_none {rs : List Record} (h : ¬∃ q ∈ rs, tag q = t) (v : UInt8) :
    taken t rs v = v := by
  induction rs with
  | nil => rfl
  | cons r rs ih =>
    have hr : tag r ≠ t := fun heq => h ⟨r, List.mem_cons_self, heq⟩
    rw [taken, if_neg hr]
    exact ih fun ⟨q, hq, heq⟩ => h ⟨q, List.mem_cons_of_mem r hq, heq⟩

theorem due_of_none {rs : List Record} (h : ¬∃ q ∈ rs, tag q = t) (v : UInt8) : due t rs v = v := by
  induction rs with
  | nil => rfl
  | cons r rs ih =>
    have hr : tag r ≠ t := fun heq => h ⟨r, List.mem_cons_self, heq⟩
    rw [due_cons, if_neg hr]
    exact ih fun ⟨q, hq, heq⟩ => h ⟨q, List.mem_cons_of_mem r hq, heq⟩

theorem EndsWithValue.tail {r : Record} {rs : List Record} (h : EndsWithValue (r :: rs)) :
    EndsWithValue rs := by
  cases rs with
  | nil => exact nofun
  | cons q rs => exact fun o ho => h o (by rwa [List.getLast?_cons_cons])

/-- The bytes behind a header whose value is read: there is one. -/
theorem EndsWithValue.ne_nil {r : Record} {rs : List Record} (h : EndsWithValue (r :: rs))
    (hread : readsValue (tag r) = true) (hheader : ∀ q ∈ rs, q.header.length = 2) :
    r.value ++ rs.flatMap Record.bytes ≠ [] := by
  cases rs with
  | nil =>
    have hvalue := h r rfl hread
    simpa using hvalue
  | cons q rs =>
    intro hnil
    have hlen := congrArg List.length hnil
    have hq := hheader q List.mem_cons_self
    simp [Record.bytes] at hlen
    rw [hlen.2.1] at hq
    cases hq

/-- What an earlier TLV has left does not matter in front of one that is read. -/
theorem taken_congr {rs : List Record} (hread : readsValue t = true) (hends : EndsWithValue rs)
    (hheader : ∀ q ∈ rs, q.header.length = 2) (h : ∃ q ∈ rs, tag q = t) (v v' : UInt8) :
    taken t rs v = taken t rs v' := by
  induction rs generalizing v v' with
  | nil =>
    obtain ⟨q, hq, -⟩ := h
    cases hq
  | cons r rs ih =>
    have hheader' : ∀ q ∈ rs, q.header.length = 2 := fun q hq =>
      hheader q (List.mem_cons_of_mem r hq)
    by_cases hrest : ∃ q ∈ rs, tag q = t
    · exact ih hends.tail hheader' hrest _ _
    · have hr : tag r = t := by
        obtain ⟨q, hq, heq⟩ := h
        rcases List.mem_cons.1 hq with rfl | hq
        · exact heq
        · exact absurd ⟨q, hq, heq⟩ hrest
      have hne := hends.ne_nil (by rwa [hr]) hheader'
      obtain ⟨b, bs, hb⟩ := List.exists_cons_of_ne_nil hne
      rw [taken, taken, if_pos hr, if_pos hr, hb]
      rfl

/-- The condition, from one TLV to the next. -/
theorem nextByte_cons (v : UInt8) (r : Record) (rs : List Record) :
    NextByte t v (r :: rs) ↔
      if ∃ q ∈ rs, tag q = t then NextByte t (if tag r = t then r.value.headD v else v) rs
      else tag r = t → r.value = [] → ∀ q ∈ rs.head?, tag q = v := by
  split
  · rename_i hrest
    constructor
    · intro h pre r' q post heq htag hnil hpost
      exact h (r :: pre) r' q post (by rw [heq]; rfl) htag hnil hpost
    · intro h pre r' q post heq htag hnil hpost
      cases pre with
      | nil =>
        -- the first one is not the last of its tag
        obtain ⟨-, rfl⟩ := List.cons.inj heq
        obtain ⟨o, ho, hto⟩ := hrest
        exact absurd hto (hpost o ho)
      | cons r'' pre =>
        obtain ⟨rfl, rfl⟩ := List.cons.inj heq
        exact h pre r' q post rfl htag hnil hpost
  · rename_i hrest
    constructor
    · intro h htag hnil q hq
      cases rs with
      | nil => cases hq
      | cons q' post =>
        cases hq
        exact h [] r q post rfl htag hnil fun o ho heq => hrest ⟨o, ho, heq⟩
    · intro h pre r' q post heq htag hnil hpost
      cases pre with
      | nil =>
        obtain ⟨rfl, rfl⟩ := List.cons.inj heq
        exact h htag hnil q rfl
      | cons r'' pre =>
        obtain ⟨rfl, rfl⟩ := List.cons.inj heq
        exact absurd ⟨r', by simp, htag⟩ hrest

/-- **What is taken is what is due** exactly where no TLV without a value comes in between. -/
theorem taken_eq_due_iff {rs : List Record} (hread : readsValue t = true) (hends : EndsWithValue rs)
    (hheader : ∀ q ∈ rs, q.header.length = 2) (v : UInt8) : taken t rs v = due t rs v ↔
      NextByte t v rs := by
  induction rs generalizing v with
  | nil =>
    refine iff_of_true rfl fun pre r q post heq => ?_
    exact absurd heq.symm (List.append_ne_nil_of_right_ne_nil _ (List.cons_ne_nil _ _))
  | cons r rs ih =>
    have hheader' : ∀ q ∈ rs, q.header.length = 2 := fun q hq =>
      hheader q (List.mem_cons_of_mem r hq)
    rw [nextByte_cons, taken, due_cons]
    by_cases hrest : ∃ q ∈ rs, tag q = t
    · rw [if_pos hrest, ← ih hends.tail hheader',
        taken_congr hread hends.tail hheader' hrest _ (if tag r = t then r.value.headD v else v)]
    · rw [if_neg hrest, taken_of_none hrest, due_of_none hrest]
      by_cases hr : tag r = t
      · rw [if_pos hr, if_pos hr]
        cases hvalue : r.value with
        | cons b bs => exact iff_of_true rfl fun _ hnil => absurd hnil (List.cons_ne_nil b bs)
        | nil =>
          cases rs with
          | nil => exact iff_of_true rfl fun _ _ => nofun
          | cons q post =>
            have hq := hheader' q List.mem_cons_self
            obtain ⟨b, bs, hb⟩ :=
              List.exists_cons_of_length_pos (by rw [hq]; decide : 0 < q.header.length)
            have htag : tag q = b := by
              rw [tag, hb]
              rfl
            simp [Record.bytes, hb, htag, hr]
      · rw [if_neg hr, if_neg hr]
        exact iff_of_true rfl fun heq => absurd heq hr

end Taken

/-! ## The loop -/

/-- The loop stands at `pos`, and its count says what is left. -/
structure At (s : List UInt8) (pos : Nat) (st : Reconfig) : Prop where
  size : s.length ≤ 64
  le : pos ≤ s.length
  stands : st.pos = pos
  left : st.lenLeft.toNat = s.length - pos

section Loop

variable {rawTp : Bool} {m : Nat → UInt8} {st st' : Reconfig}

theorem turn_pos (rawTp : Bool) (m : Nat → UInt8) (st : Reconfig) :
    (turn rawTp m st).pos = st.pos + ((m (st.pos + 1)).toNat + 2) ∧
      (turn rawTp m st).lenLeft = st.lenLeft - (m (st.pos + 1) + 2) ∧
      (turn rawTp m st).reads = st.reads ++ [st.pos + 1, st.pos] ++
        (if readsValue (m st.pos) then [st.pos + 2] else []) := by
  unfold turn
  dsimp only
  split_ifs <;> exact ⟨rfl, rfl, rfl⟩

theorem turn_cfg (rawTp : Bool) (m : Nat → UInt8) (st : Reconfig) :
    (turn rawTp m st).cfg.throttleHighThreshold =
        (if m st.pos = slvConfigThrottleHighThreshold then m
        (st.pos + 2) else st.cfg.throttleHighThreshold) ∧
      (turn rawTp m st).cfg.throttleLowThreshold =
        (if m st.pos = slvConfigThrottleLowThreshold then m
        (st.pos + 2) else st.cfg.throttleLowThreshold) := by
  have hhigh : slvConfigTestRawTp ≠ slvConfigThrottleHighThreshold := by decide
  have hlow : slvConfigTestRawTp ≠ slvConfigThrottleLowThreshold := by decide
  have hboth : slvConfigThrottleHighThreshold ≠ slvConfigThrottleLowThreshold := by decide
  unfold turn
  dsimp only
  split_ifs <;> simp_all

theorem loop_reads {fuel : Nat} (h : loop rawTp m fuel st = some st') : st.reads ⊆ st'.reads := by
  induction fuel generalizing st with
  | zero => cases h
  | succ fuel ih =>
    rw [loop] at h
    split at h
    · cases h
      exact List.Subset.refl _
    · have hturn : st.reads ⊆ (turn rawTp m st).reads := by
        rw [(turn_pos rawTp m st).2.2, List.append_assoc]
        exact List.subset_append_left _ _
      exact List.Subset.trans hturn (ih h)

/-- The result does not depend on the fuel. -/
theorem loop_unique {fuel fuel' : Nat} {st'' : Reconfig} (h : loop rawTp m fuel st = some st')
    (h' : loop rawTp m fuel' st = some st'') : st' = st'' := by
  induction fuel generalizing fuel' st with
  | zero => cases h
  | succ fuel ih =>
    cases fuel' with
    | zero => cases h'
    | succ fuel' =>
      rw [loop] at h h'
      split at h
      · rename_i hzero
        rw [if_pos hzero] at h'
        cases h
        cases h'
        rfl
      · rename_i hzero
        rw [if_neg hzero] at h'
        exact ih h h'

end Loop

section Spec

variable (rawTp : Bool) {s : List UInt8} (beyond : Nat → UInt8) {pos : Nat} {st st' : Reconfig}
  {r : Record} {rest : List UInt8}

/-- What the loop sees of a complete TLV: tag and length, and behind them what is there. -/
theorem byteAt_complete (hhead : config.head? (s.drop pos) = some (r, rest)) :
    byteAt s beyond pos = tag r ∧ (byteAt s beyond (pos + 1)).toNat = r.value.length ∧
      ∀ b bs, r.value ++ rest = b :: bs → byteAt s beyond (pos + 2) = b := by
  obtain ⟨hbytes, hheader, hvalue⟩ := Format.head?_inv hhead
  have h2 : config.header = 2 := rfl
  rw [h2] at hheader
  obtain ⟨t, l, hr⟩ := List.length_eq_two.1 hheader
  have hdrop : s.drop pos = t :: l :: (r.value ++ rest) := by
    rw [hbytes, Record.bytes, hr]
    simp
  have hread : ∀ i, i < (s.drop pos).length → byteAt s beyond (pos + i) =
    (s.drop pos)[i]?.getD 0 := by
    intro i hi
    rw [byteAt_drop s beyond pos hi, List.getElem?_eq_getElem hi]
    rfl
  have hlen : l.toNat = r.value.length := by
    rw [hvalue, hr]
    rfl
  refine ⟨?_, ?_, fun b bs hb => ?_⟩
  · have h0 := hread 0 (by rw [hdrop]; exact Nat.succ_pos _)
    rw [Nat.add_zero] at h0
    rw [h0, hdrop, tag, hr]
    rfl
  · rw [hread 1 (by rw [hdrop]; simp), hdrop, ← hlen]
    rfl
  · rw [hread 2 (by rw [hdrop, hb]; simp), hdrop, hb]
    rfl

/-- One turn over a complete TLV. -/
theorem turn_complete (hat : At s pos st) (hhead : config.head? (s.drop pos) = some (r, rest)) :
    At s (pos + (r.value.length + 2)) (turn rawTp (byteAt s beyond) st) ∧
      rest = s.drop (pos + (r.value.length + 2)) := by
  obtain ⟨-, hlen, -⟩ := byteAt_complete beyond hhead
  obtain ⟨hpos, hleft, -⟩ := turn_pos rawTp (byteAt s beyond) st
  have hsize := hat.size
  have hsum := Format.length_rest hhead
  have h2 : config.header = 2 := rfl
  rw [List.length_drop] at hsum
  rw [hat.stands] at hpos hleft
  refine ⟨⟨hsize, by omega, by rw [hpos, hlen], ?_⟩, ?_⟩
  · have htag : (byteAt s beyond (pos + 1) + 2).toNat = r.value.length + 2 := by
      rw [UInt8.toNat_add, hlen]
      have htwo : (2 : UInt8).toNat = 2 := rfl
      omega
    have hle : byteAt s beyond (pos + 1) + 2 ≤ st.lenLeft := by
      rw [UInt8.le_iff_toNat_le, htag, hat.left]
      omega
    rw [hleft, UInt8.toNat_sub_of_le _ _ hle, htag, hat.left]
    omega
  · obtain ⟨hbytes, hheader, -⟩ := Format.head?_inv hhead
    have hsplit : s.drop (pos + (r.value.length + 2)) = (s.drop pos).drop (r.value.length + 2) :=
      List.drop_drop.symm
    rw [hsplit, hbytes]
    refine (List.drop_left' ?_).symm
    rw [Record.bytes, List.length_append, hheader, h2, Nat.add_comm]

/-- Nothing outside the event data has been read. -/
def InBounds (s : List UInt8) (st : Reconfig) : Prop := ∀ i ∈ st.reads, i < s.length

/-- A turn over a complete TLV stays in the event data where the byte behind the header is there if
it is used. -/
theorem inBounds_turn (hin : InBounds s st) (hat : At s pos st)
    (hhead : config.head? (s.drop pos) = some (r, rest))
    (hvalue : readsValue (tag r) = true → ∃ b bs, r.value ++ rest = b :: bs) :
    InBounds s (turn rawTp (byteAt s beyond) st) := by
  have h2 : config.header = 2 := rfl
  have hsum := Format.length_rest hhead
  rw [List.length_drop] at hsum
  obtain ⟨htag, -, -⟩ := byteAt_complete beyond hhead
  obtain ⟨-, -, hreads⟩ := turn_pos rawTp (byteAt s beyond) st
  rw [hat.stands, htag] at hreads
  intro i hi
  rw [hreads, List.append_assoc, List.mem_append, List.mem_append] at hi
  rcases hi with hi | hi | hi
  · exact hin i hi
  · simp at hi
    omega
  · split at hi
    · rename_i hread
      obtain ⟨b, bs, hb⟩ := hvalue hread
      have hlen := congrArg List.length hb
      simp at hi hlen
      omega
    · cases hi

/-- **Forward**: over complete TLVs, the last with its value, the loop ends, reads the event data
alone, and takes the bytes behind the headers. -/
theorem loop_complete (bytes : List UInt8) : ∀ {pos st}, bytes = s.drop pos → At s pos st →
    InBounds s st → config.Complete bytes → EndsWithValue (config.records bytes).1 →
    ∃ fuel st', loop rawTp (byteAt s beyond) fuel st = some st' ∧ InBounds s st' ∧
      st'.cfg.throttleHighThreshold =
        taken slvConfigThrottleHighThreshold (config.records bytes).1 st.cfg.throttleHighThreshold ∧
      st'.cfg.throttleLowThreshold =
        taken slvConfigThrottleLowThreshold
        (config.records bytes).1 st.cfg.throttleLowThreshold := by
  induction bytes using config.records_induction with
  | stop bytes hnone =>
    intro pos st hbytes hat hin hcomplete _
    rw [Format.Complete, Format.records_none hnone] at hcomplete
    have hempty : bytes = [] := hcomplete
    have hend : s.length ≤ pos := List.drop_eq_nil_iff.1 (hbytes.symm.trans hempty)
    have hzero : st.lenLeft = 0 :=
      UInt8.toNat_inj.1 (by rw [hat.left]; exact Nat.sub_eq_zero_of_le hend)
    refine ⟨1, st, ?_, hin, ?_, ?_⟩
    · rw [loop, if_pos hzero]
    · rw [Format.records_none hnone]
      rfl
    · rw [Format.records_none hnone]
      rfl
  | step bytes r rest hhead ih =>
    intro pos st hbytes hat hin hcomplete hends
    subst hbytes
    have h2 : config.header = 2 := rfl
    have hsum := Format.length_rest hhead
    rw [List.length_drop] at hsum
    obtain ⟨htag, -, hvalue⟩ := byteAt_complete beyond hhead
    obtain ⟨hat', hrest⟩ := turn_complete rawTp beyond hat hhead
    obtain ⟨hhigh, hlow⟩ := turn_cfg rawTp (byteAt s beyond) st
    rw [hat.stands, htag] at hhigh hlow
    have hrecords := Format.records_some hhead
    rw [hrecords] at hends ⊢
    rw [Format.Complete, hrecords] at hcomplete
    have hflat := Format.Complete.eq_flatMap hcomplete
    have hheader := (config.records_split rest).2
    have hne : readsValue (tag r) = true → ∃ b bs, r.value ++ rest = b :: bs := by
      intro hread
      have hnil := hends.ne_nil hread hheader
      rw [← hflat] at hnil
      exact List.exists_cons_of_ne_nil hnil
    have hin' := inBounds_turn rawTp beyond hin hat hhead hne
    have hnonzero : st.lenLeft ≠ 0 := by
      intro hzero
      have hleft := hat.left
      rw [hzero] at hleft
      have hz : (0 : UInt8).toNat = 0 := rfl
      omega
    obtain ⟨fuel, st', hloop, hin'', hh, hl⟩ := ih hrest hat' hin' hcomplete hends.tail
    have hbyte : ∀ t v, readsValue t = true →
        (if tag r = t then byteAt s beyond (pos + 2) else v) =
          if tag r =
            t then (r.value ++ (config.records rest).1.flatMap Record.bytes).headD v else v := by
      intro t v hread
      split
      · rename_i heq
        obtain ⟨b, bs, hb⟩ := hne (heq ▸ hread)
        rw [← hflat, hvalue b bs hb, hb]
        rfl
      · rfl
    refine ⟨fuel + 1, st', ?_, hin'', ?_, ?_⟩
    · rw [loop, if_neg hnonzero]
      exact hloop
    · rw [hh, hhigh, hbyte _ _ (by decide)]
      rfl
    · rw [hl, hlow, hbyte _ _ (by decide)]
      rfl

/-- Behind a TLV that is not complete, the loop goes on outside the event data: its count does not
come to zero. -/
theorem not_inBounds_of_incomplete (hat : At s pos st) (hlen : pos + 1 < s.length)
    (hhead : config.head? (s.drop pos) = none) {fuel : Nat}
    (hloop : loop rawTp (byteAt s beyond) fuel (turn rawTp (byteAt s beyond) st) = some st') :
    ¬InBounds s st' := by
  intro hin
  have hleft := hat.left
  have hsize := hat.size
  obtain ⟨hnext, hcount, -⟩ := turn_pos rawTp (byteAt s beyond) st
  rw [hat.stands] at hnext hcount
  have h2 : config.header = 2 := rfl
  rw [Format.head?_eq_none_iff, List.length_drop] at hhead
  obtain ⟨t, l, tl, hdrop⟩ : ∃ t l tl, s.drop pos = t :: l :: tl := by
    match hmatch : s.drop pos with
    | [] | [_] =>
      have hshort := congrArg List.length hmatch
      rw [List.length_drop] at hshort
      simp at hshort
      omega
    | t :: l :: tl => exact ⟨t, l, tl, rfl⟩
  have hl : byteAt s beyond (pos + 1) = l := by
    rw [byteAt_drop s beyond pos (by rw [List.length_drop]; omega)]
    simp [hdrop]
  have hlong : config.length ((s.drop pos).take config.header) = l.toNat := by
    rw [h2, hdrop]
    rfl
  rw [hlong] at hhead
  rw [hl] at hnext hcount
  cases fuel with
  | zero => cases hloop
  | succ fuel =>
    rw [loop] at hloop
    split at hloop
    · rename_i hzero
      have htoNat := congrArg UInt8.toNat (hcount.symm.trans hzero)
      rw [UInt8.toNat_sub, UInt8.toNat_add] at htoNat
      have htwo : (2 : UInt8).toNat = 2 := rfl
      have hz : (0 : UInt8).toNat = 0 := rfl
      have hlt := l.toNat_lt
      omega
    · have hmem : (turn rawTp (byteAt s beyond) st).pos + 1 ∈
          (turn rawTp (byteAt s beyond) (turn rawTp (byteAt s beyond) st)).reads := by
        rw [(turn_pos rawTp (byteAt s beyond) _).2.2]
        simp
      have hread := hin _ (loop_reads hloop hmem)
      rw [hnext] at hread
      omega

/-- **Backward**: where the event data alone is read, it is complete TLVs, the last with its
value. -/
theorem complete_of_loop {fuel : Nat} : ∀ {pos st}, At s pos st →
    loop rawTp (byteAt s beyond) fuel st = some st' → InBounds s st' →
    config.Complete (s.drop pos) ∧ EndsWithValue (config.records (s.drop pos)).1 := by
  induction fuel with
  | zero => exact fun _ h => (by cases h)
  | succ fuel ih =>
    intro pos st hat hloop hin
    have hleft := hat.left
    have hsize := hat.size
    rw [loop] at hloop
    split at hloop
    · rename_i hzero
      rw [hzero] at hleft
      have hz : (0 : UInt8).toNat = 0 := rfl
      have hnil : s.drop pos = [] := List.drop_eq_nil_iff.2 (by omega)
      rw [Format.Complete, hnil, Format.records_nil]
      exact ⟨rfl, nofun⟩
    · rename_i hnonzero
      have hpos : st.lenLeft.toNat ≠ 0 := fun heq => hnonzero (UInt8.toNat_inj.1 heq)
      obtain ⟨hnext, hcount, hreads⟩ := turn_pos rawTp (byteAt s beyond) st
      have hsub := loop_reads hloop
      rw [hat.stands] at hreads hnext hcount
      have hlen1 : pos + 1 < s.length := hin _ (hsub (by rw [hreads]; simp))
      cases hhead : config.head? (s.drop pos) with
      | some hr =>
        obtain ⟨r, rest⟩ := hr
        obtain ⟨htag, -, -⟩ := byteAt_complete beyond hhead
        obtain ⟨hat', hrest⟩ := turn_complete rawTp beyond hat hhead
        obtain ⟨hcomplete, hends⟩ := ih hat' hloop hin
        rw [← hrest] at hcomplete hends
        have hrecords := Format.records_some hhead
        refine ⟨by rw [Format.Complete, hrecords]; exact hcomplete, ?_⟩
        rw [hrecords]
        intro o ho hread
        have hrs : (config.records rest).1 = [] → rest = [] := by
          intro hnil
          have hflat := Format.Complete.eq_flatMap hcomplete
          rwa [hnil] at hflat
        cases hcases : (config.records rest).1 with
        | cons q qs =>
          rw [hcases, List.getLast?_cons_cons, ← hcases] at ho
          exact hends o ho hread
        | nil =>
          -- the last one: the byte behind its header is in the event data
          rw [hcases] at ho
          obtain rfl : r = o := Option.some_inj.1 ho
          have hvalue : pos + 2 < s.length := by
            refine hin _ (hsub ?_)
            rw [hreads, htag, if_pos hread]
            simp
          have hsum := Format.length_rest hhead
          have h2 : config.header = 2 := rfl
          rw [List.length_drop, hrs hcases, List.length_nil] at hsum
          intro hnil
          rw [hnil, List.length_nil] at hsum
          omega
      | none =>
        exact absurd hin (not_inBounds_of_incomplete rawTp beyond hat hlen1 hhead hloop)

end Spec

/-! ## The packet -/

/-- The memory from the event data on. -/
theorem byteAt_payload (p : InitPacket) (beyond : Nat → UInt8) :
    (fun i => byteAt p.payload beyond (2 + i)) =
      byteAt p.eventData (fun i => byteAt p.payload beyond (2 + i)) := by
  funext i
  by_cases hi : i < p.eventData.length
  · have hpayload : p.payload.drop 2 = p.eventData ++ p.tail := rfl
    have hlen : i < (p.payload.drop 2).length := by
      rw [hpayload, List.length_append]
      omega
    rw [byteAt_drop p.payload beyond 2 hlen]
    simp [byteAt, hpayload, List.getElem_append_left hi, hi]
  · have hnone : p.eventData[i]? = none := List.getElem?_eq_none (Nat.not_lt.1 hi)
    rw [byteAt.eq_def p.eventData, hnone]
    rfl

/-- What `process_priv_pkt` does with an init event is the loop over its data. -/
theorem processPrivPkt_eq (rawTp : Bool) (p : InitPacket) (beyond : Nat → UInt8) (cfg : SlaveConfig)
    (fuel : Nat) :
    processPrivPkt rawTp (byteAt p.payload beyond) p.payload.length.toUInt16 cfg fuel =
      (loop rawTp (byteAt p.eventData fun i => byteAt p.payload beyond (2 + i)) fuel
        { lenLeft := UInt8.ofNat p.eventData.length, cfg := cfg }).map .returned := by
  have hfits := p.fits
  have hsize := p.size
  have hlen : p.payload.length = 2 + p.eventData.length + p.tail.length := by
    simp [InitPacket.payload]
    omega
  have hnonzero : p.payload.length.toUInt16 ≠ 0 := by
    intro hzero
    have hnat := congrArg UInt16.toNat hzero
    have hz : (0 : UInt16).toNat = 0 := rfl
    rw [UInt16.toNat_ofNat_of_lt' (hlen ▸ hsize)] at hnat
    omega
  have hshort : ¬UInt8.ofNat p.eventData.length > 64 := by
    rw [gt_iff_lt, UInt8.lt_iff_toNat_lt, UInt8.toNat_ofNat']
    have h64 : (64 : UInt8).toNat = 64 := rfl
    omega
  have htype : byteAt p.payload beyond 0 = espPrivEventInit := rfl
  have hcount : byteAt p.payload beyond 1 = UInt8.ofNat p.eventData.length := rfl
  rw [processPrivPkt, if_neg hnonzero, if_pos htype, hcount, hostToSlaveReconfig, if_neg hshort]
  exact congrArg (fun m => (loop rawTp m fuel _).map Outcome.returned) (byteAt_payload p beyond)

/-- **When the configuration is parsed inside its input**: exactly when it is clean. -/
theorem reconfig_sound_iff (rawTp : Bool) (p : InitPacket) (beyond : Nat → UInt8)
    (cfg : SlaveConfig) :
    Sound rawTp p beyond cfg ↔ Clean cfg p.eventData := by
  have hat : At p.eventData 0 { lenLeft := UInt8.ofNat p.eventData.length, cfg := cfg } := by
    have hfits := p.fits
    refine ⟨hfits, Nat.zero_le _, rfl, ?_⟩
    dsimp only
    rw [UInt8.toNat_ofNat']
    omega
  have hheader := (config.records_split p.eventData).2
  have hforward := loop_complete rawTp (fun i => byteAt p.payload beyond (2 + i)) p.eventData
    (by rw [List.drop_zero]) hat nofun
  constructor
  · rintro ⟨fuel, st, hrun, hin, hhigh, hlow⟩
    rw [processPrivPkt_eq] at hrun
    obtain ⟨st', hloop, heq⟩ := Option.map_eq_some_iff.1 hrun
    cases heq
    obtain ⟨hcomplete, hends⟩ := complete_of_loop rawTp _ hat hloop hin
    rw [List.drop_zero] at hcomplete hends
    obtain ⟨fuel', st', hloop', -, hhigh', hlow'⟩ := hforward hcomplete hends
    cases loop_unique hloop hloop'
    refine ⟨hcomplete, hends, ?_, ?_⟩
    · exact (taken_eq_due_iff (by decide) hends hheader _).1 (hhigh'.symm.trans hhigh)
    · exact (taken_eq_due_iff (by decide) hends hheader _).1 (hlow'.symm.trans hlow)
  · intro h
    obtain ⟨fuel, st, hloop, hin, hhigh, hlow⟩ := hforward h.complete h.ends
    refine ⟨fuel, st, ?_, hin, ?_, ?_⟩
    · rw [processPrivPkt_eq, hloop]
      rfl
    · exact hhigh.trans ((taken_eq_due_iff (by decide) h.ends hheader _).2 h.high)
    · exact hlow.trans ((taken_eq_due_iff (by decide) h.ends hheader _).2 h.low)

/-- One TLV of a low threshold, cut short behind its tag. -/
def cutShort : InitPacket := ⟨[0x48], by decide, [], by decide⟩

/-- The length of the TLV is read behind the event data, and so is a value that becomes the
threshold. -/
theorem reconfig_leaves_event : ¬Sound false cutShort (fun _ => 255) ⟨80, 60⟩ := by
  rintro ⟨fuel, st, hrun, hin, -, -⟩
  have hrun' :
    processPrivPkt false (byteAt cutShort.payload fun _ => 255) cutShort.payload.length.toUInt16
      ⟨80, 60⟩ 2 =
        some (.returned { pos := 257, lenLeft := 0, cfg := ⟨80, 255⟩, reads := [1, 0, 2] }) := by
    decide +kernel
  rw [processPrivPkt_eq] at hrun hrun'
  obtain ⟨st', hloop, heq⟩ := Option.map_eq_some_iff.1 hrun
  obtain ⟨st'', hloop', heq'⟩ := Option.map_eq_some_iff.1 hrun'
  cases heq
  cases heq'
  have hst := loop_unique hloop hloop'
  subst hst
  exact absurd (hin 1 (by decide)) (by decide)

end EspHostedOpen.InitConfig
