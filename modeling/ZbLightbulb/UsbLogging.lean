/-
The echo of `usb_logging.c`: an interrupt handler that moves the bytes it reads
from the CDC ACM UART into a ring buffer, and from there back to the UART.
-/
import ZbLightbulb.Lib.BoundedQueue

namespace ZbLightbulb

universe u

def ringBufSize : Nat := 1024

/-- `sizeof(buffer)`, in either branch. -/
def bufferSize : Nat := 64

/-- What `uart_fifo_read` returns, and what it leaves in `buffer`. -/
structure FifoRead where
  recvLen : Int
  buffer : Nat → UInt8

/-- What the driver does in one pass of the loop body.  `uart_fifo_read` returns
a negative error or at most the requested length. -/
structure UartPass where
  uartIrqRxReady : Bool
  uartFifoRead : Nat → FifoRead
  uartIrqTxReady : Bool
  uartFifoFill : List UInt8 → Int
  recvLen_le : ∀ len, (uartFifoRead len).recvLen ≤ len

/-- `uart_fifo_fill` accepts what it is given. -/
def UartPass.FillsAll (pass : UartPass) : Prop :=
  ∀ buffer, pass.uartFifoFill buffer = buffer.length

/-- One evaluation of the loop condition, with the pass that it lets in. -/
structure UartTurn where
  uartIrqUpdate : Bool
  uartIrqIsPending : Bool
  pass : UartPass

/-- The UART as the handler sees it: whether the TX interrupt is enabled, what
has been read from it, what it has been given, and what of this it has
accepted. -/
structure Uart where
  txIrqEnabled : Bool
  received : List UInt8
  given : List UInt8
  transmitted : List UInt8
deriving DecidableEq, Repr

namespace Uart

def uartIrqTxEnable (dev : Uart) : Uart :=
  { dev with txIrqEnabled := true }

def uartIrqTxDisable (dev : Uart) : Uart :=
  { dev with txIrqEnabled := false }

def read (bytes : List UInt8) (dev : Uart) : Uart :=
  { dev with received := dev.received ++ bytes }

def fill (buffer : List UInt8) (sendLen : Int) (dev : Uart) : Uart :=
  { dev with
    given := dev.given ++ buffer
    transmitted := dev.transmitted ++ buffer.take sendLen.toNat }

end Uart

/-- The ring buffer, by whatever `ring_buf` keeps for it, and its device. -/
structure UsbLogging (R : Type u) where
  ringbuf : R
  dev : Uart

namespace UsbLogging

variable {R : Type u} (ringBuf : BoundedQueue.Ops R UInt8)

/-! ### The handler -/

section Handler

variable (pass : UartPass) (s : UsbLogging R)

/-- What `uart_fifo_read` is asked for: no more than fits. -/
def readLen : Nat :=
  min (ringBuf.space s.ringbuf) bufferSize

/-- The length after the check for an error. -/
def recvLen : Int :=
  let recvLen := (pass.uartFifoRead (readLen ringBuf s)).recvLen
  if recvLen < 0 then 0 else recvLen

def recvBytes : List UInt8 :=
  (List.range (recvLen ringBuf pass s).toNat).map
    (pass.uartFifoRead (readLen ringBuf s)).buffer

/-- What `ring_buf_put` has accepted; it is asked for `recvLen` bytes. -/
def rbLen : Nat :=
  (ringBuf.put s.ringbuf (recvBytes ringBuf pass s)).2

def rxBranch : UsbLogging R :=
  let dev := s.dev.read (recvBytes ringBuf pass s)
  { ringbuf := (ringBuf.put s.ringbuf (recvBytes ringBuf pass s)).1
    dev := if rbLen ringBuf pass s ≠ 0 then dev.uartIrqTxEnable else dev }

def txBranch : UsbLogging R :=
  let (ringbuf, buffer) := ringBuf.get s.ringbuf bufferSize
  if buffer.length = 0 then
    { ringbuf := ringbuf, dev := s.dev.uartIrqTxDisable }
  else
    { ringbuf := ringbuf, dev := s.dev.fill buffer (pass.uartFifoFill buffer) }

/-- Nothing follows the TX branch, so its `continue` only leaves it. -/
def loopBody : UsbLogging R :=
  let s := if pass.uartIrqRxReady then rxBranch ringBuf pass s else s
  if pass.uartIrqTxReady then txBranch ringBuf pass s else s

end Handler

/-- One interrupt, as far as its turns go: after the last of them it may still
be in its loop. -/
def interruptHandler (s : UsbLogging R) : List UartTurn → UsbLogging R
  | [] => s
  | turn :: turns =>
      if turn.uartIrqUpdate && turn.uartIrqIsPending then
        interruptHandler (loopBody ringBuf turn.pass s) turns
      else s

/-- After `usb_logging_init`; nothing is assumed of the TX interrupt. -/
def start (txIrqEnabled : Bool) : UsbLogging R where
  ringbuf := ringBuf.empty
  dev := ⟨txIrqEnabled, [], [], []⟩

def run (txIrqEnabled : Bool) (interrupts : List (List UartTurn)) :
    UsbLogging R :=
  interrupts.foldl (interruptHandler ringBuf) (start ringBuf txIrqEnabled)

/-! ### One pass -/

section Pass

variable {ringBuf} {content : R → List UInt8} {pass : UartPass}
  {s : UsbLogging R}

theorem recvLen_nonneg : 0 ≤ recvLen ringBuf pass s := by
  simp only [recvLen]
  split <;> omega

/-- No more is read than the ring buffer has space for. -/
theorem recvLen_le_space : recvLen ringBuf pass s ≤ ringBuf.space s.ringbuf := by
  have hread := pass.recvLen_le (readLen ringBuf s)
  have hspace : readLen ringBuf s ≤ ringBuf.space s.ringbuf :=
    Nat.min_le_left _ _
  simp only [recvLen]
  split <;> omega

theorem length_recvBytes :
    (recvBytes ringBuf pass s).length = (recvLen ringBuf pass s).toNat := by
  rw [recvBytes, List.length_map, List.length_range]

theorem length_recvBytes_le :
    (recvBytes ringBuf pass s).length ≤ ringBuf.space s.ringbuf := by
  have hle : recvLen ringBuf pass s ≤ ringBuf.space s.ringbuf :=
    recvLen_le_space
  rw [length_recvBytes]
  omega

@[simp] theorem rxBranch_given :
    (rxBranch ringBuf pass s).dev.given = s.dev.given := by
  simp only [rxBranch]
  split <;> rfl

@[simp] theorem rxBranch_transmitted :
    (rxBranch ringBuf pass s).dev.transmitted = s.dev.transmitted := by
  simp only [rxBranch]
  split <;> rfl

@[simp] theorem rxBranch_received : (rxBranch ringBuf pass s).dev.received =
    s.dev.received ++ recvBytes ringBuf pass s := by
  simp only [rxBranch]
  split <;> rfl

/-- Every byte that is read goes into the ring buffer. -/
theorem rbLen_eq (hfifo : BoundedQueue.IsFifo ringBuf ringBufSize content) :
    (rbLen ringBuf pass s : Int) = recvLen ringBuf pass s := by
  have hnonneg : 0 ≤ recvLen ringBuf pass s := recvLen_nonneg
  rw [rbLen, (hfifo.put_of_le length_recvBytes_le).1, length_recvBytes]
  exact Int.toNat_of_nonneg hnonneg

theorem content_rxBranch
    (hfifo : BoundedQueue.IsFifo ringBuf ringBufSize content) :
    content (rxBranch ringBuf pass s).ringbuf =
      content s.ringbuf ++ recvBytes ringBuf pass s :=
  (hfifo.put_of_le length_recvBytes_le).2

theorem rxBranch_txIrqEnabled
    (hfifo : BoundedQueue.IsFifo ringBuf ringBufSize content) :
    (rxBranch ringBuf pass s).dev.txIrqEnabled = true ↔
      recvBytes ringBuf pass s ≠ [] ∨ s.dev.txIrqEnabled = true := by
  have hlength : rbLen ringBuf pass s = (recvBytes ringBuf pass s).length :=
    (hfifo.put_of_le length_recvBytes_le).1
  have hnil : rbLen ringBuf pass s ≠ 0 ↔ recvBytes ringBuf pass s ≠ [] := by
    rw [hlength, ne_eq, List.length_eq_zero_iff]
  rw [← hnil]
  simp only [rxBranch]
  split
  · next h => simp [Uart.uartIrqTxEnable, h]
  · next h => simp [Uart.read, h]

/-- Everything the TX branch can do: it finds the ring buffer empty and disables
its interrupt, or it gives the device what it has taken out. -/
theorem txBranch_cases
    (hfifo : BoundedQueue.IsFifo ringBuf ringBufSize content) (pass : UartPass)
    (s : UsbLogging R) :
    (content s.ringbuf = [] ∧ content (txBranch ringBuf pass s).ringbuf = [] ∧
      (txBranch ringBuf pass s).dev = s.dev.uartIrqTxDisable) ∨
    ∃ buffer, buffer ++ content (txBranch ringBuf pass s).ringbuf =
        content s.ringbuf ∧
      (txBranch ringBuf pass s).dev =
        s.dev.fill buffer (pass.uartFifoFill buffer) := by
  have hsplit := hfifo.get_append s.ringbuf bufferSize
  by_cases hnone : (ringBuf.get s.ringbuf bufferSize).2.length = 0
  · left
    have hempty := hfifo.content_eq_nil (by decide) hnone
    simp only [txBranch, if_pos hnone, and_true]
    rw [hempty, List.append_eq_nil_iff] at hsplit
    exact ⟨hempty, hsplit.2⟩
  · right
    simp only [txBranch, if_neg hnone]
    exact ⟨_, hsplit, rfl⟩

end Pass

/-! ### The invariant -/

/-- What has been read is what the device has been given and, after it, what
waits; and what waits has the TX interrupt enabled. -/
structure Echoes (content : R → List UInt8) (s : UsbLogging R) : Prop where
  stream : s.dev.given ++ content s.ringbuf = s.dev.received
  awake : content s.ringbuf ≠ [] → s.dev.txIrqEnabled = true

section Invariant

variable {ringBuf} {content : R → List UInt8} {pass : UartPass}
  {s : UsbLogging R}

theorem Echoes.rxBranch (h : s.Echoes content)
    (hfifo : BoundedQueue.IsFifo ringBuf ringBufSize content) :
    (rxBranch ringBuf pass s).Echoes content := by
  constructor
  · rw [rxBranch_given, rxBranch_received, content_rxBranch hfifo, ← h.stream,
      List.append_assoc]
  · intro hwaits
    rw [rxBranch_txIrqEnabled hfifo]
    by_cases hread : recvBytes ringBuf pass s = []
    · rw [content_rxBranch hfifo, hread, List.append_nil] at hwaits
      exact Or.inr (h.awake hwaits)
    · exact Or.inl hread

theorem Echoes.txBranch (h : s.Echoes content)
    (hfifo : BoundedQueue.IsFifo ringBuf ringBufSize content) :
    (txBranch ringBuf pass s).Echoes content := by
  rcases txBranch_cases hfifo pass s with
    ⟨hempty, hstill, hdev⟩ | ⟨buffer, hsplit, hdev⟩
  · constructor
    · rw [hdev, hstill, ← hempty]
      exact h.stream
    · exact fun hwaits => absurd hstill hwaits
  · constructor
    · rw [hdev]
      change s.dev.given ++ buffer ++ _ = s.dev.received
      rw [List.append_assoc, hsplit]
      exact h.stream
    · intro hwaits
      rw [hdev]
      apply h.awake
      rw [← hsplit]
      exact List.append_ne_nil_of_right_ne_nil buffer hwaits

/-- A device that accepts everything keeps up with what it is given. -/
theorem transmitted_txBranch (hfills : pass.FillsAll)
    (h : s.dev.transmitted = s.dev.given) :
    (UsbLogging.txBranch ringBuf pass s).dev.transmitted =
      (UsbLogging.txBranch ringBuf pass s).dev.given := by
  simp only [UsbLogging.txBranch]
  split
  · exact h
  · simp only [Uart.fill, hfills _, Int.toNat_natCast, List.take_length, h]

end Invariant

/-! ### Runs -/

section Run

variable {ringBuf} {content : R → List UInt8}

theorem loopBody_invariant {Inv : UsbLogging R → Prop} {pass : UartPass}
    (hbranch : ∀ s, Inv s →
      Inv (rxBranch ringBuf pass s) ∧ Inv (txBranch ringBuf pass s))
    {s : UsbLogging R} (h : Inv s) : Inv (loopBody ringBuf pass s) := by
  simp only [loopBody]
  split_ifs
  · exact (hbranch _ (hbranch s h).1).2
  · exact (hbranch s h).2
  · exact (hbranch s h).1
  · exact h

theorem interruptHandler_invariant {Inv : UsbLogging R → Prop}
    {turns : List UartTurn}
    (hpass : ∀ turn ∈ turns, ∀ s, Inv s → Inv (loopBody ringBuf turn.pass s))
    {s : UsbLogging R} (h : Inv s) : Inv (interruptHandler ringBuf s turns) := by
  induction turns generalizing s with
  | nil => exact h
  | cons turn turns ih =>
      rw [interruptHandler]
      split
      · apply ih
        · exact fun later hlater => hpass later (List.mem_cons_of_mem turn hlater)
        · exact hpass turn List.mem_cons_self s h
      · exact h

/-- What holds at the start and is kept by both branches holds after every pass
of every interrupt. -/
theorem run_invariant {Inv : UsbLogging R → Prop} {txIrqEnabled : Bool}
    {interrupts : List (List UartTurn)}
    (hstart : Inv (start ringBuf txIrqEnabled))
    (hbranch : ∀ turns ∈ interrupts, ∀ turn ∈ turns, ∀ s, Inv s →
      Inv (rxBranch ringBuf turn.pass s) ∧
        Inv (txBranch ringBuf turn.pass s)) :
    Inv (run ringBuf txIrqEnabled interrupts) := by
  apply List.foldlRecOn interrupts (interruptHandler ringBuf) hstart
  intro s h turns hturns
  apply interruptHandler_invariant _ h
  intro turn hturn s h
  exact loopBody_invariant (hbranch turns hturns turn hturn) h

theorem run_echoes (hfifo : BoundedQueue.IsFifo ringBuf ringBufSize content)
    (txIrqEnabled : Bool) (interrupts : List (List UartTurn)) :
    (run ringBuf txIrqEnabled interrupts).Echoes content := by
  apply run_invariant
  · constructor
    · exact hfifo.content_empty
    · exact fun hwaits => absurd hfifo.content_empty hwaits
  · intro turns _ turn _ s h
    exact ⟨h.rxBranch hfifo, h.txBranch hfifo⟩

theorem run_transmitted {txIrqEnabled : Bool}
    {interrupts : List (List UartTurn)}
    (hfills : ∀ turns ∈ interrupts, ∀ turn ∈ turns, turn.pass.FillsAll) :
    (run ringBuf txIrqEnabled interrupts).dev.transmitted =
      (run ringBuf txIrqEnabled interrupts).dev.given := by
  let Inv : UsbLogging R → Prop := fun s => s.dev.transmitted = s.dev.given
  have hinv : Inv (run ringBuf txIrqEnabled interrupts) := by
    apply run_invariant
    · rfl
    · intro turns hturns turn hturn s h
      refine ⟨?_, transmitted_txBranch (hfills turns hturns turn hturn) h⟩
      exact rxBranch_transmitted.trans (h.trans rxBranch_given.symm)
  exact hinv

end Run

/-- After a run the next pass drops no byte, whatever the driver does in it;
what waits has the TX interrupt enabled; and a device that has accepted all it
was given has transmitted what was read, but for what waits. -/
structure KeepsStream (content : R → List UInt8) (txIrqEnabled : Bool)
    (interrupts : List (List UartTurn)) : Prop where
  undropped : ∀ pass,
    (rbLen ringBuf pass (run ringBuf txIrqEnabled interrupts) : Int) =
      recvLen ringBuf pass (run ringBuf txIrqEnabled interrupts)
  awake : content (run ringBuf txIrqEnabled interrupts).ringbuf ≠ [] →
    (run ringBuf txIrqEnabled interrupts).dev.txIrqEnabled = true
  inOrder : (∀ turns ∈ interrupts, ∀ turn ∈ turns, turn.pass.FillsAll) →
    (run ringBuf txIrqEnabled interrupts).dev.transmitted ++
        content (run ringBuf txIrqEnabled interrupts).ringbuf =
      (run ringBuf txIrqEnabled interrupts).dev.received

/-- For every sequence of interrupts, with the last one after any of its passes,
the echo keeps the stream. -/
theorem run_keepsStream {content : R → List UInt8}
    (hfifo : BoundedQueue.IsFifo ringBuf ringBufSize content)
    (txIrqEnabled : Bool) (interrupts : List (List UartTurn)) :
    KeepsStream ringBuf content txIrqEnabled interrupts := by
  have hechoes := run_echoes hfifo txIrqEnabled interrupts
  constructor
  · exact fun pass => rbLen_eq hfifo
  · exact hechoes.awake
  · intro hfills
    rw [run_transmitted hfills]
    exact hechoes.stream

/-- Three bytes are read and, after a read that fails, sent; three more wait. -/
theorem run_keepsStream_two_reads :
    let reads : UartPass :=
      { uartIrqRxReady := true
        uartFifoRead := fun len => ⟨min 3 len, fun i => [97, 98, 99].getD i 0⟩
        uartIrqTxReady := false
        uartFifoFill := fun buffer => buffer.length
        recvLen_le := fun len => Int.min_le_right 3 (len : Int) }
    let sends : UartPass :=
      { uartIrqRxReady := true
        uartFifoRead := fun _ => ⟨-5, fun _ => 0⟩
        uartIrqTxReady := true
        uartFifoFill := fun buffer => buffer.length
        recvLen_le := fun len =>
          Int.le_trans (show (-5 : Int) ≤ 0 by decide) (Int.natCast_nonneg len) }
    let interrupts : List (List UartTurn) :=
      [[⟨true, true, reads⟩, ⟨true, true, sends⟩, ⟨true, false, sends⟩],
        [⟨true, true, reads⟩]]
    let ringBuf := BoundedQueue.Queue.ops UInt8 ringBufSize
    (run ringBuf false interrupts).dev.transmitted = [97, 98, 99] ∧
      KeepsStream ringBuf BoundedQueue.Queue.items false interrupts := by
  intro reads sends interrupts ringBuf
  refine ⟨by decide, ?_⟩
  exact run_keepsStream ringBuf
    (BoundedQueue.Queue.ops_isFifo UInt8 ringBufSize) false interrupts

end UsbLogging

end ZbLightbulb
