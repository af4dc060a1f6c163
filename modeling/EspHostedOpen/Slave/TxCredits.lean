import EspHostedOpen.Slave.SdioTx
import EspHostedOpen.Slave.SpiHdTx

/-!
# Transmit credits of both transports

In every run credits and buffers that are lost are the only ones missing (`SdioTx.conserved_iff`,
`SpiHdTx.conserved_iff`), and only the steps that `Careful` excludes lose any. Each of them gives
its law away.
-/

namespace EspHostedOpen

open Transition

/-- **Transmit credits are conserved** in runs whose steps all meet `Careful`. -/
theorem tx_credits_conserved {build : SdioTx.Build} {s : SdioTx.State} {size : Nat}
    {t : SpiHdTx.State}
    (hsdio : Reach (SdioTx.step build) SdioTx.Careful (SdioTx.start build) s)
    (hspi : Reach (SpiHdTx.step size) SpiHdTx.Careful (SpiHdTx.start size) t) :
    SdioTx.Conserved build s ∧ SpiHdTx.Conserved size t :=
  ⟨SdioTx.conserved_of_careful hsdio, SpiHdTx.conserved_of_careful hspi⟩

/-! ## Runs -/

namespace SdioTx

/-- The test behind `tx_credits_conserved_cycle`. -/
def careful (s : State) : Action → Bool
  | .op i ok =>
    match s.ops[i]? with
    | some (.startupSend _) => ok && s.up
    | some .deinitKill => !s.txDone.any TxDonePc.busy
    | some .driverDeinit | some .initFail => s.owned.isEmpty
    | _ => true
  | _ => true

theorem careful_of_test (s : State) (a : Action) (h : careful s a = true) : Careful s a := by
  unfold careful at h
  unfold Careful
  cases a with
  | op i ok =>
    dsimp only at h ⊢
    split at h <;> simp_all
  | _ => trivial

instance (s : State) : Decidable s.Quiet := inferInstanceAs (Decidable (_ ∧ _))

/-- One invocation from its call to its end, alone and without a failure, in `n` steps. -/
def callRun (c : Call) (n : Nat) : List Action := .call c :: List.replicate n (.op 0 true)

/-- `sdio_tx_done_task` cleans up after one buffer. -/
def doneRun : List Action := .complete :: List.replicate 4 (.txDone true)

end SdioTx

namespace SpiHdTx

/-- The test behind `tx_credits_conserved_cycle`. -/
def careful (s : State) : Action → Bool
  | .op i ok =>
    match s.ops[i]? with
    | some .writeAlloc | some (.writeQueue _) | some (.startupQueue _) => ok
    | _ => true
  | _ => true

theorem careful_of_test (s : State) (a : Action) (h : careful s a = true) : Careful s a := by
  unfold careful at h
  unfold Careful
  cases a with
  | op i ok =>
    dsimp only at h ⊢
    split at h <;> simp_all
  | _ => trivial

instance (s : State) : Decidable s.Quiet := inferInstanceAs (Decidable (_ ∧ _))

end SpiHdTx

/-- A buffer written, sent and cleaned up after, and a deinit / init cycle on SDIO. -/
theorem tx_credits_conserved_cycle :
    ∃ s t, run (guarded SdioTx.careful (SdioTx.step ⟨2, true⟩)) (SdioTx.start ⟨2, true⟩)
          (SdioTx.callRun .write 4 ++ SdioTx.doneRun ++ SdioTx.callRun .deinit 9 ++
            SdioTx.callRun .init 5) =
        some s ∧
      run (guarded SpiHdTx.careful (SpiHdTx.step 1)) (SpiHdTx.start 1)
          (.write :: List.replicate 5 (.op 0 true) ++ .complete :: List.replicate 4
          (.txDone true)) = some t ∧
      (s.tokens, s.freed) = (2, [0]) ∧ (t.tokens, t.freed) = (1, [.buffer 0, .trans 0]) ∧
      SdioTx.Conserved ⟨2, true⟩ s ∧ SpiHdTx.Conserved 1 t := by
  have hsdio : (run (guarded SdioTx.careful (SdioTx.step ⟨2, true⟩)) (SdioTx.start ⟨2, true⟩)
      (SdioTx.callRun .write 4 ++ SdioTx.doneRun ++ SdioTx.callRun .deinit 9 ++
        SdioTx.callRun .init 5)).map
        (fun s => (s.tokens, s.freed)) = some (2, [0]) := by
    decide +kernel
  have hspi : (run (guarded SpiHdTx.careful (SpiHdTx.step 1)) (SpiHdTx.start 1)
      (.write :: List.replicate 5 (.op 0 true) ++ .complete :: List.replicate 4 (.txDone true))).map
        (fun t => (t.tokens, t.freed)) = some (1, [.buffer 0, .trans 0]) := by
    decide +kernel
  obtain ⟨s, hs, hsproj⟩ := Option.map_eq_some_iff.1 hsdio
  obtain ⟨t, ht, htproj⟩ := Option.map_eq_some_iff.1 hspi
  have hconserved := tx_credits_conserved (reach_of_guarded_run SdioTx.careful_of_test hs)
    (reach_of_guarded_run SpiHdTx.careful_of_test ht)
  exact ⟨s, t, hs, ht, hsproj, htproj, hconserved⟩

/-- Three ways to lose a credit: a start-up event that the SDIO driver does not take; four buffers
with the SDIO driver when it is shut down, of which three are fetched back; and no buffer for
`esp_spi_hd_write`. -/
theorem tx_credits_lost :
    (∃ s, run (SdioTx.step ⟨2, true⟩) (SdioTx.start ⟨2, true⟩)
          [.call .startup, .op 0 true, .op 0 true, .op 0 false, .op 0 true] = some s ∧
        s.Quiet ∧ s.tokens + s.owned.length = 1) ∧
      (∃ s, run (SdioTx.step ⟨4, true⟩) (SdioTx.start ⟨4, true⟩)
          ((List.replicate 4 (SdioTx.callRun .write 4)).flatten ++ SdioTx.callRun .deinit 15 ++
            SdioTx.callRun .init 5) = some s ∧
        s.Quiet ∧ s.tokens + s.owned.length = 3 ∧ s.freed = [0, 1, 2]) ∧
      ∃ t, run (SpiHdTx.step 1) (SpiHdTx.start 1)
      [.write, .op 0 true, .op 0 true, .op 0 false] = some t ∧
        t.Quiet ∧ t.tokens + t.owned.length = 0 := by
  refine ⟨?_, ?_, ?_⟩
  · have hrun : (run (SdioTx.step ⟨2, true⟩) (SdioTx.start ⟨2, true⟩)
        [.call .startup, .op 0 true, .op 0 true, .op 0 false, .op 0 true]).map
          (fun s => (decide s.Quiet, s.tokens + s.owned.length)) = some (true, 1) := by
      decide +kernel
    obtain ⟨s, hs, hproj⟩ := Option.map_eq_some_iff.1 hrun
    obtain ⟨hquiet, hcredits⟩ := Prod.mk.inj hproj
    exact ⟨s, hs, of_decide_eq_true hquiet, hcredits⟩
  · have hrun : (run (SdioTx.step ⟨4, true⟩) (SdioTx.start ⟨4, true⟩)
        ((List.replicate 4 (SdioTx.callRun .write 4)).flatten ++ SdioTx.callRun .deinit 15 ++
          SdioTx.callRun .init 5)).map
          (fun s => (decide s.Quiet, s.tokens + s.owned.length, s.freed)) =
            some (true, 3, [0, 1, 2]) := by
      decide +kernel
    obtain ⟨s, hs, hproj⟩ := Option.map_eq_some_iff.1 hrun
    obtain ⟨hquiet, hrest⟩ := Prod.mk.inj hproj
    obtain ⟨hcredits, hfreed⟩ := Prod.mk.inj hrest
    exact ⟨s, hs, of_decide_eq_true hquiet, hcredits, hfreed⟩
  · have hrun :
      (run (SpiHdTx.step 1) (SpiHdTx.start 1) [.write, .op 0 true, .op 0 true, .op 0 false]).map
        (fun t => (decide t.Quiet, t.tokens + t.owned.length)) = some (true, 0) := by
      decide +kernel
    obtain ⟨t, ht, hproj⟩ := Option.map_eq_some_iff.1 hrun
    obtain ⟨hquiet, hcredits⟩ := Prod.mk.inj hproj
    exact ⟨t, ht, of_decide_eq_true hquiet, hcredits⟩

end EspHostedOpen
