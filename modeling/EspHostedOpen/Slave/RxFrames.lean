import EspHostedOpen.Lib.Bytes
import EspHostedOpen.Slave.PrioQueues

/-!
# Received frames, and the ones that are dropped (`sdio_slave_api.c`, `spi_slave_api.c`,
`spi_hd_slave_api.c`,
`uart_slave_api.c`)

Each transport has a receive loop of its own. One turn of it looks at the flags of a frame, checks
its lengths and its checksum, each transport in its own order, and then either queues the frame or
gives its buffer back.
-/

namespace EspHostedOpen.RxFrames

open ByteCodec

/-! ## The header (`esp_hosted_header.h`, `esp_hosted_transport.h`) -/

structure Build where
  checksum : Bool                                -- `CONFIG_ESP_*_CHECKSUM` of the transport
  pktNumDebug : Bool                             -- `ESP_PKT_NUM_DEBUG`

/-- `sizeof(struct esp_payload_header)`. -/
def Build.headerSize (build : Build) : Nat := if build.pktNumDebug then 14 else 12

/-- `ESP_TRANSPORT_SPI_MAX_BUF_SIZE`, and those of SPI-HD and UART. -/
def bufferSize : Nat := 1600

def flagPowerSaveStarted : UInt8 := 4            -- `1 << 2`
def flagPowerSaveStopped : UInt8 := 8            -- `1 << 3`

/-- A buffer, and how many bytes were received into it. -/
structure Frame where
  buf : List UInt8
  received : Nat
  deriving DecidableEq, Repr

namespace Frame

def ifType (f : Frame) : UInt8 := f.buf.getD 0 0 &&& 0x0F
def flags (f : Frame) : UInt8 := f.buf.getD 1 0
def len (f : Frame) : Nat := leNat (slice 2 2 f.buf)
def offset (f : Frame) : Nat := leNat (slice 4 2 f.buf)
def checksum (f : Frame) : Nat := leNat (slice 6 2 f.buf)

/-- `header->checksum = 0`. -/
def clearChecksum (f : Frame) : Frame := { f with buf := f.buf.take 6 ++ [0, 0] ++ f.buf.drop 8 }

/-- `ESP_SERIAL_IF`, `ESP_HCI_IF` and the others. -/
def queue (f : Frame) : PrioQ := if f.ifType = 3 then .serial else if f.ifType =
    4 then .bt else .others

end Frame

/-- `compute_checksum`; its length is an `uint16_t`. -/
def computeChecksum (buf : List UInt8) (len : Nat) : UInt16 :=
  (buf.take (len % 2 ^ 16)).foldl (fun checksum b => checksum + b.toUInt16) 0

/-- The comparison of every receive loop, over `len` bytes. -/
def Frame.checksumOk (build : Build) (f : Frame) (len : Nat) : Bool :=
  !build.checksum || (computeChecksum f.clearChecksum.buf len).toNat == f.checksum

/-- What the checksum leaves of an accepted frame in its buffer. -/
def Frame.checked (build : Build) (f : Frame) : Frame :=
    if build.checksum then f.clearChecksum else f

/-! ## The checks -/

/-- What a receive loop makes of a frame. -/
inductive Verdict
  | accepted
  | noLength                                     -- nothing received, or the header says so
  | noHeader                                     -- less than a header received
  | badOffset
  | exceeds                                      -- more than was received, or than the buffer holds
  | badChecksum
  deriving DecidableEq, Repr

/-- Dropped for its lengths or for its checksum. -/
def Verdict.Rejected (v : Verdict) : Prop := v = .exceeds ∨ v = .badChecksum

instance (v : Verdict) : Decidable v.Rejected := inferInstanceAs (Decidable (_ ∨ _))

/-- `sdio_rx_task`. -/
def sdioVerdict (build : Build) (f : Frame) : Verdict :=
  let payloadLen := f.received % 2 ^ 16
  if f.len = 0 then .noLength
  else if payloadLen < f.len + f.offset then .exceeds
  else if !f.checksumOk build (f.len + f.offset) then .badChecksum
  else .accepted

/-- `process_spi_rx`. -/
def spiVerdict (build : Build) (f : Frame) : Verdict :=
  if f.len = 0 then .noLength
  else if bufferSize < f.len + f.offset then .exceeds
  else if !f.checksumOk build (f.len + f.offset) then .badChecksum
  else .accepted

/-- `spi_hd_rx_task`. -/
def spiHdVerdict (build : Build) (f : Frame) : Verdict :=
  let payloadLen := f.received % 2 ^ 16
  if f.received = 0 then .noLength
  else if payloadLen < f.len + f.offset then .exceeds
  else if !f.checksumOk build (f.len + f.offset) then .badChecksum
  else .accepted

/-- `uart_rx_task`, up to the flags: it reads the header first and then what the header says. -/
def uartRead (build : Build) (f : Frame) : Verdict :=
  if f.received < build.headerSize then .noHeader
  else if f.offset ≠ build.headerSize then .badOffset
  else if bufferSize < f.len + build.headerSize then .exceeds
  else if f.len ≠ 0 ∧ f.received - build.headerSize < f.len then .exceeds
  else .accepted

/-- `uart_rx_task`. -/
def uartVerdict (build : Build) (f : Frame) : Verdict :=
  match uartRead build f with
  | .accepted => if !f.checksumOk build (f.len + build.headerSize) then .badChecksum else .accepted
  | v => v

/-! ## One turn of each loop -/

/-- What the loop hands to `context.event_handler`. -/
inductive Event
  | powerSaveOn | powerSaveOff
  deriving DecidableEq, Repr

/-- What a receive loop acts on. `loaded` are the buffers that are received into: those with the
driver, or the scratch buffer of the UART. -/
structure Port where
  eventHandler : Bool                            -- `context.event_handler` is set
  events : List Event := []
  txReadyBufSize : Nat := 0                      -- of SPI-HD
  queue : PrioQ → List (Nat × Frame) := fun _ => []
  tokens : Nat := 0                              -- the semaphore of the queues
  loaded : List Nat := []
  freed : List Nat := []

namespace Port

def raise (e : Event) (p : Port) :
    Port := if p.eventHandler then { p with events := p.events ++ [e] } else p

/-- The flags of a frame. -/
def powerSave (f : Frame) (p : Port) : Port :=
  if f.flags &&& flagPowerSaveStarted ≠ 0 then p.raise .powerSaveOn
  else if f.flags &&& flagPowerSaveStopped ≠ 0 then p.raise .powerSaveOff
  else p

/-- The flags of a frame, on SPI-HD. -/
def powerSaveHd (f : Frame) (p : Port) : Port :=
  if f.flags &&& flagPowerSaveStarted ≠ 0 then p.raise .powerSaveOn
  else if f.flags &&& flagPowerSaveStopped ≠
    0 then { p with txReadyBufSize := 0 }.raise .powerSaveOff
  else p

/-- `xQueueSend` and `xSemaphoreGive`. -/
def send (b : Nat) (f : Frame) (p : Port) : Port :=
  { p with queue := Function.update p.queue f.queue (p.queue f.queue ++ [(b, f)]), tokens :=
    p.tokens + 1 }

/-- `sdio_read_done`, and the scratch buffer of the UART. -/
def load (b : Nat) (p : Port) : Port := { p with loaded := p.loaded ++ [b] }

/-- `spi_buffer_rx_free`. -/
def free (b : Nat) (p : Port) : Port := { p with freed := p.freed ++ [b] }

/-- `spi_hd_read_done`; `ok` is whether the driver takes the transaction. -/
def spiHdReadDone (ok : Bool) (b : Nat) (p : Port) : Port := if ok then p.load b else p.free b

end Port

/-- `sdio_rx_task`, for a frame that `sdio_slave_recv` has returned in buffer `b`. -/
def sdioRx (build : Build) (b : Nat) (f : Frame) (p : Port) : Port :=
  let p := p.powerSave f
  match sdioVerdict build f with
  | .accepted => p.send b (f.checked build)
  | _ => p.load b

/-- `spi_transaction_post_process_task` with `process_spi_rx`. -/
def spiRx (build : Build) (b : Nat) (f : Frame) (p : Port) : Port :=
  let p := p.powerSave f
  match spiVerdict build f with
  | .accepted => p.send b (f.checked build)
  | _ => p.free b

/-- `spi_hd_rx_task`. -/
def spiHdRx (build : Build) (ok : Bool) (b : Nat) (f : Frame) (p : Port) : Port :=
  match spiHdVerdict build f with
  | .noLength => p.spiHdReadDone ok b
  | .accepted => (p.powerSaveHd f).send b (f.checked build)
  | _ => (p.powerSaveHd f).spiHdReadDone ok b

/-- `uart_rx_task`: `b` is the scratch buffer, a frame that is queued is copied to `copy`. -/
def uartRx (build : Build) (b copy : Nat) (f : Frame) (p : Port) : Port :=
  match uartRead build f with
  | .accepted =>
    let p := p.powerSave f
    match uartVerdict build f with
    | .accepted => (p.send copy (f.checked build)).load b
    | _ => p.load b
  | _ => p.load b

inductive Transport
  | sdio | spi | spiHd | uart
  deriving DecidableEq, Repr

def verdict (build : Build) (f : Frame) : Transport → Verdict
  | .sdio => sdioVerdict build f
  | .spi => spiVerdict build f
  | .spiHd => spiHdVerdict build f
  | .uart => uartVerdict build f

def receive (build : Build) (ok : Bool) (b copy : Nat) (f : Frame) (p : Port) : Transport → Port
  | .sdio => sdioRx build b f p
  | .spi => spiRx build b f p
  | .spiHd => spiHdRx build ok b f p
  | .uart => uartRx build b copy f p

/-! ## A frame without effect -/

/-- Nothing is queued, and the buffer is back once. -/
structure GivenBack (b : Nat) (p p' : Port) : Prop where
  queue : p'.queue = p.queue
  tokens : p'.tokens = p.tokens
  back : (p'.loaded : Multiset Nat) + p'.freed = {b} + (p.loaded + p.freed)

/-- **No effect**: no event either. -/
structure NoEffect (b : Nat) (p p' : Port) : Prop extends GivenBack b p p' where
  events : p'.events = p.events

/-- An event is raised for the flags of a frame, where they are looked at. -/
def Raises (f : Frame) (p : Port) : Prop :=
  p.eventHandler = true ∧
    (f.flags &&& flagPowerSaveStarted ≠ 0 ∨ f.flags &&& flagPowerSaveStopped ≠ 0)

/-- The flags are looked at: always, but on the UART only if the frame was received as a whole. -/
def LooksAtFlags (build : Build) (f : Frame) (t : Transport) : Prop :=
  t = .uart → f.len + build.headerSize ≤ bufferSize ∧ f.len + build.headerSize ≤ f.received

/-- What the flags leave alone. -/
structure Quiet (p p' : Port) : Prop where
  queue : p'.queue = p.queue
  tokens : p'.tokens = p.tokens
  loaded : p'.loaded = p.loaded
  freed : p'.freed = p.freed

theorem Quiet.refl (p : Port) : Quiet p p := ⟨rfl, rfl, rfl, rfl⟩

theorem quiet_raise (e : Event) (p : Port) : Quiet p (p.raise e) := by
  unfold Port.raise
  split <;> exact ⟨rfl, rfl, rfl, rfl⟩

theorem quiet_powerSave (f : Frame) (p : Port) : Quiet p (p.powerSave f) := by
  unfold Port.powerSave
  split
  · exact quiet_raise _ p
  · split
    · exact quiet_raise _ p
    · exact .refl p

theorem quiet_powerSaveHd (f : Frame) (p : Port) : Quiet p (p.powerSaveHd f) := by
  unfold Port.powerSaveHd
  split
  · exact quiet_raise _ p
  · split
    · have h := quiet_raise .powerSaveOff { p with txReadyBufSize := 0 }
      exact ⟨h.queue, h.tokens, h.loaded, h.freed⟩
    · exact .refl p

theorem events_raise_iff (e : Event) (p : Port) : (p.raise e).events = p.events ↔
    ¬p.eventHandler = true := by
  unfold Port.raise
  split
  · rename_i hhandler
    exact iff_of_false (by simp) (not_not.2 hhandler)
  · rename_i hhandler
    exact iff_of_true rfl hhandler

theorem events_powerSave_iff (f : Frame) (p : Port) : (p.powerSave f).events = p.events ↔
    ¬Raises f p := by
  unfold Port.powerSave Raises
  split
  · rename_i hstarted
    rw [events_raise_iff]
    simp [hstarted]
  · rename_i hstarted
    split
    · rename_i hstopped
      rw [events_raise_iff]
      simp [hstopped]
    · rename_i hstopped
      simp only [not_and_or]
      refine iff_of_true trivial (.inr ?_)
      exact not_or.2 ⟨hstarted, hstopped⟩

theorem events_powerSaveHd (f : Frame) (p : Port) :
    (p.powerSaveHd f).events = (p.powerSave f).events := by
  unfold Port.powerSaveHd Port.powerSave
  split
  · rfl
  · split
    · unfold Port.raise
      split <;> rfl
    · rfl

/-- Where nothing but the flags was done before the buffer is given back. -/
theorem givenBack_of_quiet {b : Nat} {p p₁ p₂ : Port} (h : Quiet p p₁)
    (hback : p₂ = p₁.load b ∨ p₂ = p₁.free b) :
    GivenBack b p p₂ := by
  rcases hback with rfl | rfl
  · refine ⟨h.queue, h.tokens, ?_⟩
    show ((p₁.loaded ++ [b] : List Nat) : Multiset Nat) + p₁.freed = _
    rw [h.loaded, h.freed, ← Multiset.coe_add, Multiset.coe_singleton]
    abel
  · refine ⟨h.queue, h.tokens, ?_⟩
    show (p₁.loaded : Multiset Nat) + ((p₁.freed ++ [b] : List Nat) : Multiset Nat) = _
    rw [h.loaded, h.freed, ← Multiset.coe_add, Multiset.coe_singleton]
    abel

/-- There only an event can be left. -/
theorem noEffect_iff {b : Nat} {p p₁ p₂ : Port} (h : Quiet p p₁)
    (hback : p₂ = p₁.load b ∨ p₂ = p₁.free b) :
    NoEffect b p p₂ ↔ p₁.events = p.events := by
  have hsame : p₂.events = p₁.events := by
    rcases hback with rfl | rfl <;> rfl
  rw [← hsame]
  exact ⟨NoEffect.events, fun hevents => ⟨givenBack_of_quiet h hback, hevents⟩⟩

theorem spiHdReadDone_back (ok : Bool) (b : Nat) (p : Port) :
    p.spiHdReadDone ok b = p.load b ∨ p.spiHdReadDone ok b = p.free b := by
  cases ok with
  | true => exact .inl rfl
  | false => exact .inr rfl

/-- A loop that looks at the flags first. -/
theorem noEffect_powerSave_iff {build : Build} {b : Nat} {f : Frame} {p p' : Port} {t : Transport}
    (hlooks : LooksAtFlags build f t)
    (hback : p' = (p.powerSave f).load b ∨ p' = (p.powerSave f).free b) :
    NoEffect b p p' ↔ ¬(LooksAtFlags build f t ∧ Raises f p) := by
  rw [noEffect_iff (quiet_powerSave f p) hback, events_powerSave_iff]
  exact not_congr (and_iff_right hlooks).symm

theorem looksAtFlags_of_ne {build : Build} {f : Frame} {t : Transport} (h : t ≠ .uart) :
    LooksAtFlags build f t :=
  fun ht => absurd ht h

theorem looksAtFlags_of_uartRead {build : Build} {f : Frame} (h : uartRead build f = .accepted) :
    LooksAtFlags build f .uart := by
  intro _
  unfold uartRead at h
  split at h
  · cases h
  split at h
  · cases h
  split at h
  · cases h
  split at h
  · cases h
  omega

theorem not_looksAtFlags_of_uartRead {build : Build} {f : Frame} (h : uartRead build f = .exceeds) :
    ¬LooksAtFlags build f .uart := by
  intro hlooks
  have hfits := hlooks rfl
  unfold uartRead at h
  split at h
  · cases h
  split at h
  · cases h
  split at h
  · omega
  split at h
  · omega
  cases h

theorem uartRead_ne_badChecksum (build : Build) (f : Frame) : uartRead build f ≠ .badChecksum := by
  intro h
  unfold uartRead at h
  split at h
  · cases h
  split at h
  · cases h
  split at h
  · cases h
  split at h <;> cases h

/-- What a loop does that has not accepted the frame. -/
theorem receive_sdio {build : Build} {b : Nat} {f : Frame} (p : Port)
    (h : (sdioVerdict build f).Rejected) :
    sdioRx build b f p = (p.powerSave f).load b := by
  unfold sdioRx
  split
  · rename_i hv
    exact absurd (hv ▸ h) (by decide)
  · rfl

theorem receive_spi {build : Build} {b : Nat} {f : Frame} (p : Port)
    (h : (spiVerdict build f).Rejected) :
    spiRx build b f p = (p.powerSave f).free b := by
  unfold spiRx
  split
  · rename_i hv
    exact absurd (hv ▸ h) (by decide)
  · rfl

theorem receive_spiHd {build : Build} {ok : Bool} {b : Nat} {f : Frame} (p : Port)
    (h : (spiHdVerdict build f).Rejected) :
    spiHdRx build ok b f p = (p.powerSaveHd f).spiHdReadDone ok b := by
  unfold spiHdRx
  split
  · rename_i hv
    exact absurd (hv ▸ h) (by decide)
  · rename_i hv
    exact absurd (hv ▸ h) (by decide)
  · rfl

/-- The two ways in which the UART drops a frame. -/
theorem receive_uart {build : Build} {b copy : Nat} {f : Frame} (p : Port)
    (h : (uartVerdict build f).Rejected) :
    uartRead build f = .accepted ∧ uartRx build b copy f p = (p.powerSave f).load b ∨
      uartRead build f = .exceeds ∧ uartRx build b copy f p = p.load b := by
  unfold uartVerdict at h
  cases hread : uartRead build f with
  | accepted =>
    refine .inl ⟨rfl, ?_⟩
    rw [hread] at h
    unfold uartRx uartVerdict
    rw [hread]
    dsimp only at h ⊢
    split at h
    · rename_i hsum
      rw [if_pos hsum]
    · exact absurd h (by decide)
  | exceeds =>
    refine .inr ⟨rfl, ?_⟩
    unfold uartRx
    rw [hread]
  | badChecksum => exact absurd hread (uartRead_ne_badChecksum build f)
  | noLength | noHeader | badOffset =>
    rw [hread] at h
    dsimp only at h
    exact absurd h (by decide)

/-- **A rejected frame comes to nothing but an event**: it is not queued, and its buffer is back
once. -/
theorem rejected_givenBack (build : Build) (ok : Bool) (b copy : Nat) (f : Frame) (p : Port)
    (t : Transport)
    (h : (verdict build f t).Rejected) : GivenBack b p (receive build ok b copy f p t) := by
  cases t with
  | sdio => exact givenBack_of_quiet (quiet_powerSave f p) (.inl (receive_sdio p h))
  | spi => exact givenBack_of_quiet (quiet_powerSave f p) (.inr (receive_spi p h))
  | spiHd =>
    have hback := spiHdReadDone_back ok b (p.powerSaveHd f)
    rw [← receive_spiHd p h] at hback
    exact givenBack_of_quiet (quiet_powerSaveHd f p) hback
  | uart =>
    rcases receive_uart p h with ⟨-, hrx⟩ | ⟨-, hrx⟩
    · exact givenBack_of_quiet (quiet_powerSave f p) (.inl hrx)
    · exact givenBack_of_quiet (.refl p) (.inl hrx)

/-- **A rejected frame has no effect exactly where its flags raise no event**: for each transport,
every content of the buffer and every number of bytes received. -/
theorem rejected_no_effect_iff (build : Build) (ok : Bool) (b copy : Nat) (f : Frame) (p : Port)
    (t : Transport)
    (h : (verdict build f t).Rejected) :
    NoEffect b p (receive build ok b copy f p t) ↔ ¬(LooksAtFlags build f t ∧ Raises f p) := by
  cases t with
  | sdio => exact noEffect_powerSave_iff (looksAtFlags_of_ne nofun) (.inl (receive_sdio p h))
  | spi => exact noEffect_powerSave_iff (looksAtFlags_of_ne nofun) (.inr (receive_spi p h))
  | spiHd =>
    have hlooks : LooksAtFlags build f .spiHd := looksAtFlags_of_ne nofun
    have hback := spiHdReadDone_back ok b (p.powerSaveHd f)
    rw [← receive_spiHd p h] at hback
    refine (noEffect_iff (quiet_powerSaveHd f p) hback).trans ?_
    rw [events_powerSaveHd, events_powerSave_iff]
    exact not_congr (and_iff_right hlooks).symm
  | uart =>
    rcases receive_uart p h with ⟨hread, hrx⟩ | ⟨hread, hrx⟩
    · exact noEffect_powerSave_iff (looksAtFlags_of_uartRead hread) (.inl hrx)
    · refine iff_of_true ?_ fun hraises => not_looksAtFlags_of_uartRead hread hraises.1
      exact (noEffect_iff (.refl p) (.inl hrx)).2 rfl

/-- One byte for the private interface behind a checksum that does not match, with the flags
given. -/
def wrongSum (flags : UInt8) : Frame :=
    { buf := [5, flags, 1, 0, 12, 0, 2, 0, 0, 0, 0, 0, 2], received := 13 }

def withChecksum : Build := { checksum := true, pktNumDebug := false }

theorem rejected_no_effect_plain :
    (verdict withChecksum (wrongSum 0) .sdio).Rejected ∧
      NoEffect 7 { eventHandler := true }
      (receive withChecksum true 7 8 (wrongSum 0) { eventHandler := true } .sdio) := by
  refine ⟨by decide, (rejected_no_effect_iff _ _ _ _ _ _ _ (by decide)).2 ?_⟩
  rintro ⟨-, -, hflag | hflag⟩
  · exact hflag (by decide)
  · exact hflag (by decide)

/-- A wrong checksum, and the host is taken to have gone to sleep. -/
theorem rejected_raises_event :
    (verdict withChecksum (wrongSum 4) .sdio).Rejected ∧
      (receive withChecksum true 7 8 (wrongSum 4) { eventHandler := true } .sdio).events =
        [.powerSaveOn] ∧
      ¬NoEffect 7 { eventHandler := true }
        (receive withChecksum true 7 8 (wrongSum 4) { eventHandler := true } .sdio) := by
  have hevents :
    (receive withChecksum true 7 8 (wrongSum 4) { eventHandler := true } .sdio).events =
      [.powerSaveOn] := by
    decide
  refine ⟨by decide, hevents, fun h => ?_⟩
  exact absurd (hevents.symm.trans h.events) (List.cons_ne_nil _ _)

end EspHostedOpen.RxFrames
