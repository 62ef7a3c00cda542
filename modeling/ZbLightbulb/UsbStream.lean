/-
What becomes of the bytes of the echo when the device does not take all it is
given, and how soon the ring buffer is empty once nothing more comes in.
-/
import Mathlib.Data.List.Sublists
import ZbLightbulb.UsbLogging

namespace ZbLightbulb

universe u

/-- What has been sent is some of what was given to the device, in its order. -/
theorem Uart.fill_sublist {dev : Uart} (h : dev.transmitted.Sublist dev.given)
    (buffer : List UInt8) (sendLen : Int) :
    (dev.fill buffer sendLen).transmitted.Sublist
      (dev.fill buffer sendLen).given :=
  h.append (List.take_sublist sendLen.toNat buffer)

/-- A pass in which the device sends and nothing more comes in. -/
structure UartTurn.SendsOnly (turn : UartTurn) : Prop where
  enters : (turn.uartIrqUpdate && turn.uartIrqIsPending) = true
  rx : turn.pass.uartIrqRxReady = false
  tx : turn.pass.uartIrqTxReady = true

namespace UsbLogging

variable {R : Type u} {ringBuf : BoundedQueue.Ops R UInt8}
  {content : R → List UInt8}

/-! ### Bytes that are dropped -/

theorem run_transmitted_sublist (txIrqEnabled : Bool)
    (interrupts : List (List UartTurn)) :
    (run ringBuf txIrqEnabled interrupts).dev.transmitted.Sublist
      (run ringBuf txIrqEnabled interrupts).dev.given := by
  let Inv : UsbLogging R → Prop := fun s =>
    s.dev.transmitted.Sublist s.dev.given
  have hinv : Inv (run ringBuf txIrqEnabled interrupts) := by
    apply run_invariant
    · exact List.Sublist.refl []
    · intro turns _ turn _ s h
      constructor
      · change List.Sublist _ _
        rw [rxBranch_transmitted, rxBranch_given]
        exact h
      · simp only [txBranch]
        split
        · exact h
        · exact Uart.fill_sublist h _ _
  exact hinv

theorem content_length_le
    (hfifo : BoundedQueue.IsFifo ringBuf ringBufSize content) (r : R) :
    (content r).length ≤ 1024 := by
  have hspace := hfifo.length_add_space r
  rw [ringBufSize] at hspace
  omega

/-- Whatever the device takes of what it is given: what it has sent and, after
it, what waits are bytes that were read, in their order, none of them twice;
what is missing was given and not taken; and no more waits than the buffer
holds. -/
theorem run_loses_only_refused
    (hfifo : BoundedQueue.IsFifo ringBuf ringBufSize content)
    (txIrqEnabled : Bool) (interrupts : List (List UartTurn)) :
    let s := run ringBuf txIrqEnabled interrupts
    (s.dev.transmitted ++ content s.ringbuf).Sublist s.dev.received ∧
      s.dev.received.length - (s.dev.transmitted ++ content s.ringbuf).length =
        s.dev.given.length - s.dev.transmitted.length ∧
      (content s.ringbuf).length ≤ 1024 := by
  intro s
  have hstream : s.dev.given ++ content s.ringbuf = s.dev.received :=
    (run_echoes hfifo txIrqEnabled interrupts).stream
  have hsent : s.dev.transmitted.Sublist s.dev.given :=
    run_transmitted_sublist txIrqEnabled interrupts
  rw [← hstream]
  refine ⟨hsent.append_right _, ?_, content_length_le hfifo s.ringbuf⟩
  rw [List.length_append, List.length_append, Nat.add_sub_add_right]

/-- Three bytes are read and the device takes two of them. -/
theorem run_loses_only_refused_two_of_three :
    let pass : UartPass :=
      { uartIrqRxReady := true
        uartFifoRead := fun len => ⟨min 3 len, fun i => [97, 98, 99].getD i 0⟩
        uartIrqTxReady := true
        uartFifoFill := fun _ => 2
        recvLen_le := fun len => Int.min_le_right 3 (len : Int) }
    let s := run (BoundedQueue.Queue.ops UInt8 ringBufSize) false
      [[⟨true, true, pass⟩]]
    s.dev.transmitted = [97, 98] ∧
      (s.dev.transmitted ++ s.ringbuf.items).Sublist s.dev.received := by
  intro pass s
  refine ⟨by decide, ?_⟩
  exact (run_loses_only_refused
    (BoundedQueue.Queue.ops_isFifo UInt8 ringBufSize) false _).1

/-! ### The ring buffer drains -/

/-- A turn that sends takes 64 bytes out of the ring buffer, or finds it empty
and disables its interrupt. -/
theorem txBranch_drains
    (hfifo : BoundedQueue.IsFifo ringBuf ringBufSize content) (pass : UartPass)
    (s : UsbLogging R) :
    content (txBranch ringBuf pass s).ringbuf = (content s.ringbuf).drop 64 ∧
      (txBranch ringBuf pass s).dev.received = s.dev.received ∧
      (content s.ringbuf = [] →
        (txBranch ringBuf pass s).dev.txIrqEnabled = false) := by
  have hcontent := hfifo.content_get s.ringbuf bufferSize
  have hremoved := hfifo.get_removed s.ringbuf bufferSize
  simp only [txBranch]
  split
  · exact ⟨hcontent, rfl, fun _ => rfl⟩
  · next hsome =>
      refine ⟨hcontent, rfl, fun hempty => ?_⟩
      rw [hremoved, hempty] at hsome
      exact absurd rfl hsome

theorem loopBody_sendsOnly {turn : UartTurn} (h : turn.SendsOnly)
    (s : UsbLogging R) :
    loopBody ringBuf turn.pass s = txBranch ringBuf turn.pass s := by
  simp [loopBody, h.rx, h.tx]

theorem interruptHandler_drains
    (hfifo : BoundedQueue.IsFifo ringBuf ringBufSize content)
    {turns : List UartTurn} (hturns : ∀ turn ∈ turns, turn.SendsOnly)
    (s : UsbLogging R) :
    content (interruptHandler ringBuf s turns).ringbuf =
        (content s.ringbuf).drop (64 * turns.length) ∧
      (interruptHandler ringBuf s turns).dev.received = s.dev.received ∧
      ((content s.ringbuf).length + 64 ≤ 64 * turns.length →
        (interruptHandler ringBuf s turns).dev.txIrqEnabled = false) := by
  induction turns generalizing s with
  | nil => exact ⟨rfl, rfl, fun hshort => by simp at hshort⟩
  | cons turn turns ih =>
      obtain ⟨hfirst, hrest⟩ := List.forall_mem_cons.mp hturns
      obtain ⟨hcontent, hreceived, hdisabled⟩ :=
        txBranch_drains hfifo turn.pass s
      obtain ⟨hcontent', hreceived', hdisabled'⟩ :=
        ih hrest (txBranch ringBuf turn.pass s)
      rw [interruptHandler, if_pos hfirst.enters, loopBody_sendsOnly hfirst]
      refine ⟨?_, hreceived'.trans hreceived, ?_⟩
      · rw [hcontent', hcontent, List.drop_drop, List.length_cons, Nat.mul_succ,
          Nat.add_comm]
      · intro hlong
        rw [List.length_cons] at hlong
        cases turns with
        | nil =>
            apply hdisabled
            apply List.eq_nil_of_length_eq_zero
            simp only [List.length_nil] at hlong
            omega
        | cons next turns =>
            apply hdisabled'
            rw [hcontent, List.length_drop]
            simp only [List.length_cons] at hlong ⊢
            omega

/-- Whatever a run has left in the ring buffer, 16 passes that only send give it
all to the device, and the 17th disables the TX interrupt; if the device has
taken all it was given, it has then sent all that was read. -/
theorem run_drains
    (hfifo : BoundedQueue.IsFifo ringBuf ringBufSize content)
    (txIrqEnabled : Bool) (interrupts : List (List UartTurn))
    {turns : List UartTurn} (hturns : ∀ turn ∈ turns, turn.SendsOnly)
    (hlong : 16 ≤ turns.length) :
    let s := run ringBuf txIrqEnabled (interrupts ++ [turns])
    content s.ringbuf = [] ∧
      s.dev.given = (run ringBuf txIrqEnabled interrupts).dev.received ∧
      (16 < turns.length → s.dev.txIrqEnabled = false) ∧
      ((∀ turns' ∈ interrupts ++ [turns], ∀ turn ∈ turns', turn.pass.FillsAll) →
        s.dev.transmitted =
          (run ringBuf txIrqEnabled interrupts).dev.received) := by
  intro s
  have hfits := content_length_le hfifo
    (run ringBuf txIrqEnabled interrupts).ringbuf
  have hrun : s = interruptHandler ringBuf
      (run ringBuf txIrqEnabled interrupts) turns := List.foldl_concat ..
  obtain ⟨hcontent, hreceived, hdisabled⟩ := interruptHandler_drains hfifo
    hturns (run ringBuf txIrqEnabled interrupts)
  rw [← hrun] at hcontent hreceived hdisabled
  have hempty : content s.ringbuf = [] := by
    rw [hcontent]
    exact List.drop_eq_nil_of_le (by omega)
  have hgiven : s.dev.given =
      (run ringBuf txIrqEnabled interrupts).dev.received := by
    have hstream : s.dev.given ++ content s.ringbuf = s.dev.received :=
      (run_echoes hfifo txIrqEnabled (interrupts ++ [turns])).stream
    rw [hempty, List.append_nil] at hstream
    exact hstream.trans hreceived
  refine ⟨hempty, hgiven, ?_, ?_⟩
  · intro hmore
    exact hdisabled (by omega)
  · intro hfills
    exact (run_transmitted hfills).trans hgiven

/-- Three bytes are read, and then 17 passes send. -/
theorem run_drains_three_bytes :
    let pass (rx : Bool) : UartPass :=
      { uartIrqRxReady := rx
        uartFifoRead := fun len => ⟨min 3 len, fun i => [97, 98, 99].getD i 0⟩
        uartIrqTxReady := !rx
        uartFifoFill := fun buffer => buffer.length
        recvLen_le := fun len => Int.min_le_right 3 (len : Int) }
    (run (BoundedQueue.Queue.ops UInt8 ringBufSize) false
      ([[⟨true, true, pass true⟩]] ++
        [List.replicate 17 ⟨true, true, pass false⟩])).dev.given =
      (run (BoundedQueue.Queue.ops UInt8 ringBufSize) false
        [[⟨true, true, pass true⟩]]).dev.received := by
  intro pass
  have hturns : ∀ turn ∈ List.replicate 17
      (⟨true, true, pass false⟩ : UartTurn), turn.SendsOnly := by
    intro turn hturn
    rw [List.eq_of_mem_replicate hturn]
    exact ⟨rfl, rfl, rfl⟩
  have hlong : 16 ≤ (List.replicate 17
      (⟨true, true, pass false⟩ : UartTurn)).length := by
    rw [List.length_replicate]
    decide
  obtain ⟨-, hgiven, -, -⟩ := run_drains
    (BoundedQueue.Queue.ops_isFifo UInt8 ringBufSize) false
    [[⟨true, true, pass true⟩]] hturns hlong
  exact hgiven

end UsbLogging

end ZbLightbulb
