import EspHostedOpen.Lib.Framing
import EspHostedOpen.Link.Header

/-!
# Frames on the UART (`uart_slave_api.c`, `uart_drv.c`)

Both receive loops read a header, and then as many bytes as it says. A header with another offset,
or with a length that the scratch buffer does not hold, is taken off the stream alone: what comes
next is read as a header again.
-/

namespace EspHostedOpen.RxFrames

open ByteCodec Framing

/-- One turn of the loop, up to the payload: the frame that is in the scratch buffer of `limit`
bytes, and the stream behind it. `none` while `uart_read_bytes` waits. -/
def uartNext (build : Build) (limit : Nat) (bytes : List UInt8) : Option (Frame × List UInt8) :=
  let n := build.headerSize
  let header : Frame := ⟨bytes.take n, n⟩
  if bytes.length < n then none
  else if header.offset ≠ n ∨ limit < header.len + n then some (header, bytes.drop n)
  else if bytes.length < n + header.len then none
  else some (⟨bytes.take (n + header.len), n + header.len⟩, bytes.drop (n + header.len))

section

variable {build : Build} {limit : Nat} {bytes rest : List UInt8} {f : Frame}

theorem headerSize_ge (build : Build) : 12 ≤ build.headerSize := by
  unfold Build.headerSize
  split <;> decide

theorem slice_take {off n m : Nat} (h : off + n ≤ m) (bs : List UInt8) : slice off n
    (bs.take m) = slice off n bs := by
  rw [slice, slice, List.drop_take, List.take_take, Nat.min_eq_left (by omega)]

/-- Every field but the last stands in the first 12 bytes. -/
theorem len_take {n : Nat} (hn : 12 ≤ n) (received received' : Nat) :
    (Frame.mk (bytes.take n) received).len = (Frame.mk bytes received').len := by
  rw [Frame.len, Frame.len, slice_take (by omega)]

theorem offset_take {n : Nat} (hn : 12 ≤ n) (received received' : Nat) :
    (Frame.mk (bytes.take n) received).offset = (Frame.mk bytes received').offset := by
  rw [Frame.offset, Frame.offset, slice_take (by omega)]

/-- How long the first frame is. -/
def frameSize (build : Build) (limit : Nat) (bytes : List UInt8) : Nat :=
  let f : Frame := ⟨bytes, 0⟩
  if f.offset ≠ build.headerSize ∨ limit < f.len + build.headerSize then build.headerSize
  else build.headerSize + f.len

theorem headerSize_le_frameSize (build : Build) (limit : Nat) (bytes : List UInt8) :
    build.headerSize ≤ frameSize build limit bytes := by
  unfold frameSize
  dsimp only
  split <;> omega

/-- One turn takes the first frame off, once it is there. -/
theorem uartNext_eq (build : Build) (limit : Nat) (bytes : List UInt8) :
    uartNext build limit bytes =
      if bytes.length < frameSize build limit bytes then none
      else some (⟨bytes.take (frameSize build limit bytes), frameSize build limit bytes⟩,
        bytes.drop (frameSize build limit bytes)) := by
  have hn := headerSize_ge build
  unfold uartNext frameSize
  dsimp only
  rw [len_take hn _ 0, offset_take hn _ 0]
  by_cases hbad : (Frame.mk bytes 0).offset ≠ build.headerSize ∨
    limit < (Frame.mk bytes 0).len + build.headerSize
  · rw [if_pos hbad, if_pos hbad]
  · rw [if_neg hbad, if_neg hbad]
    by_cases hshort : bytes.length < build.headerSize
    · rw [if_pos hshort, if_pos (by omega)]
    · rw [if_neg hshort]

theorem frameSize_append {later : List UInt8} (h : 12 ≤ bytes.length) :
    frameSize build limit (bytes ++ later) = frameSize build limit bytes := by
  have hlen : (Frame.mk (bytes ++ later) 0).len = (Frame.mk bytes 0).len := by
    rw [Frame.len, Frame.len, slice_append_left later (by omega)]
  have hoffset : (Frame.mk (bytes ++ later) 0).offset = (Frame.mk bytes 0).offset := by
    rw [Frame.offset, Frame.offset, slice_append_left later (by omega)]
  unfold frameSize
  dsimp only
  rw [hlen, hoffset]

/-- The receive loop as a reader. -/
def uartReader (build : Build) (limit : Nat) : Reader UInt8 Frame where
  next := uartNext build limit
  shorter := by
    intro bs f rest h
    rw [uartNext_eq] at h
    have hpos : 0 < frameSize build limit bs :=
      Nat.lt_of_lt_of_le (by have := headerSize_ge build; omega)
        (headerSize_le_frameSize build limit bs)
    split at h
    · cases h
    · cases h
      rw [List.length_drop]
      omega
  more := by
    intro bs f rest h later
    rw [uartNext_eq] at h ⊢
    split at h
    · cases h
    · rename_i hlen
      cases h
      have hge : 12 ≤ bs.length := by
        have hn := headerSize_ge build
        have hle := headerSize_le_frameSize build limit bs
        omega
      rw [frameSize_append hge, if_neg (by rw [List.length_append]; omega),
        List.take_append_of_le_length (by omega), List.drop_append_of_le_length (by omega)]

/-- A string that is as long as its header says is one frame. -/
theorem frames_of_size (h : bytes.length = frameSize build limit bytes) :
    (uartReader build limit).Frames bytes ⟨bytes, bytes.length⟩ := by
  change uartNext build limit bytes = _
  rw [uartNext_eq, ← h, if_neg (Nat.lt_irrefl _), List.take_length, List.drop_length]

end

end EspHostedOpen.RxFrames
