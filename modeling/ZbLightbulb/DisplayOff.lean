/-
The status display of the dongle while it is switched off: the part of `main`
that drives it, seen as a machine of its own, and the press after which
`RUN_STATUS_LED` stays lit.
-/
import ZbLightbulb.FactoryReset

namespace ZbLightbulb

/-- What the run LED depends on: the display flags, the blink counters and the
handler of the network button. -/
structure Display where
  statusOn : Bool
  tempStatusOn : Bool
  runStatusLed : Bool
  blinkStatus : Int
  loopCount : Int
  nwkRstBtnBp : ButtonPressHandler

namespace Display

/-- The LED block at the top of the loop. -/
def blink (d : Display) : Display :=
  if d.statusOn || d.tempStatusOn then
    { d with
      runStatusLed := d.blinkStatus.tmod 2 != 0
      blinkStatus := if d.loopCount.tmod blinkToggle = 0 then d.blinkStatus + 1
        else d.blinkStatus
      loopCount := d.loopCount + 1 }
  else d

/-- A press of one to eight seconds flips the display, and switching it off
clears the LED.  No other press touches it. -/
def press (duration : Int) (d : Display) : Display :=
  if 8000 < duration then d
  else if 1000 < duration then
    { d with
      statusOn := !d.statusOn
      runStatusLed := if d.statusOn then false else d.runStatusLed }
  else d

/-- A press does not look at the handler. -/
theorem press_handler (duration : Int) (d : Display) (h : ButtonPressHandler) :
    press duration { d with nwkRstBtnBp := h } =
      { press duration d with nwkRstBtnBp := h } := by
  simp only [press]
  split_ifs <;> rfl

def step (d : Display) (gpioPinGetDt : GpioDtSpec → Int) : Display :=
  let h := d.nwkRstBtnBp.poll gpioPinGetDt
  let lit := { d.blink with
    nwkRstBtnBp := h
    tempStatusOn := h.isDebounced && decide (1000 < h.pressTimerMs) }
  match d.nwkRstBtnBp.completedPress gpioPinGetDt with
  | none => lit
  | some duration => lit.press duration

end Display

namespace DongleState

def display (s : DongleState) : Display where
  statusOn := s.leds.statusOn
  tempStatusOn := s.tempStatusOn
  runStatusLed := s.leds.runStatusLed
  blinkStatus := s.blinkStatus
  loopCount := s.loopCount
  nwkRstBtnBp := s.nwkRstBtnBp

/-! ### The loop refines the display machine -/

theorem deliver_display (s : DongleState) (e : StackEvent) :
    (s.deliver e).display = s.display := by
  cases e with
  | signal sig status =>
      simp only [deliver, display, StatusLeds.zbossSignalHandler]
      split <;> rfl
  | deviceCb param => rfl

theorem statusLed_display (s : DongleState) :
    s.statusLed.display = s.display.blink := by
  by_cases hon : (s.leds.statusOn || s.tempStatusOn) = true
  · by_cases hloop : s.loopCount.tmod blinkToggle = 0 <;>
      simp only [statusLed, display, Display.blink, hon, hloop, if_true,
        if_false]
  · simp only [statusLed, display, Display.blink, hon, Bool.false_eq_true,
      if_false]

theorem nwkRstBtnAction_display (ret : ZbRet) (duration : Int)
    (s : DongleState) :
    (s.nwkRstBtnAction ret duration).1.display = s.display.press duration := by
  simp only [nwkRstBtnAction, Display.press]
  by_cases hreset : 8000 < duration
  · rw [if_pos hreset, if_pos hreset]
  · rw [if_neg hreset, if_neg hreset]
    by_cases hflip : 1000 < duration
    · rw [if_pos hflip, if_pos hflip]
      by_cases hon : s.leds.statusOn = true <;>
        simp [display, StatusLeds.statusPress, hon]
    · rw [if_neg hflip, if_neg hflip]
      rfl

theorem nwkRstBtnPoll_display (tick : Tick) (s : DongleState) :
    (s.nwkRstBtnPoll tick).1.display =
      let h := s.nwkRstBtnBp.poll tick.gpioPinGetDt
      let polled := { s.display with
        nwkRstBtnBp := h
        tempStatusOn := h.isDebounced && decide (1000 < h.pressTimerMs) }
      match s.nwkRstBtnBp.completedPress tick.gpioPinGetDt with
      | none => polled
      | some duration => polled.press duration := by
  by_cases hpress :
      (s.nwkRstBtnBp.getDebouncedPress tick.gpioPinGetDt).hasCompletedPress
  · simp only [nwkRstBtnPoll, ButtonPressHandler.poll,
      ButtonPressHandler.completedPress, hpress, if_true]
    let h := s.nwkRstBtnBp.getDebouncedPress tick.gpioPinGetDt
    let polled : DongleState := { s with
      nwkRstBtnBp := h
      tempStatusOn := h.isDebounced && decide (1000 < h.pressTimerMs) }
    have haction := nwkRstBtnAction_display
      (tick.zbBufGetOutDelayedExt .nwkRstBtn) h.completedButtonPressThresh
      polled
    change { (polled.nwkRstBtnAction _ _).1.display with
      nwkRstBtnBp := h.setButtonPressHandled } = _
    rw [haction]
    exact (Display.press_handler _ _ _).symm
  · simp only [nwkRstBtnPoll, ButtonPressHandler.poll,
      ButtonPressHandler.completedPress, hpress]
    rfl

/-- The display machine runs on its own, on the samples of the network
button. -/
theorem iteration_display (tick : Tick) (s : DongleState) :
    (s.iteration tick).1.display = s.display.step tick.gpioPinGetDt := by
  let awake := tick.duringSleep.foldl deliver
    (tick.betweenIterations.foldl deliver s).statusLed
  have hawake : awake.display = s.display.blink := by
    rw [Runs.foldl_frame display deliver_display, statusLed_display,
      Runs.foldl_frame display deliver_display]
  rcases extBtnLoop_frame tick [0, 1, 2, 3] (awake.nwkRstBtnPoll tick).1 with
    ⟨bps, hloop⟩
  have hiter : (s.iteration tick).1.display =
      (awake.nwkRstBtnPoll tick).1.display := by
    change ((awake.nwkRstBtnPoll tick).1.extBtnLoop tick [0, 1, 2, 3]).1.display
      = _
    rw [hloop]
    rfl
  have hbp : awake.nwkRstBtnBp = s.nwkRstBtnBp := by
    have hview : awake.nwkRstBtnBp = s.display.blink.nwkRstBtnBp :=
      congrArg Display.nwkRstBtnBp hawake
    rw [hview, Display.blink]
    split <;> rfl
  rw [hiter, nwkRstBtnPoll_display, hawake, hbp]
  rfl

end DongleState

namespace Display

open ButtonPressHandler BoolStream

/-- The LED is dark while neither flag asks for it. -/
def Dark (d : Display) : Prop :=
  d.statusOn = false → d.tempStatusOn = false → d.runStatusLed = false

/-- The temporary display is on while the button has been held for more than a
second. -/
def Feedback (d : Display) : Prop :=
  d.tempStatusOn =
    (d.nwkRstBtnBp.isDebounced && decide (1000 < d.nwkRstBtnBp.pressTimerMs))

/-- A press of more than eight seconds does not end, while the display is off,
in an iteration that has just lit the LED. -/
def LeavesDark (d : Display) (gpioPinGetDt : GpioDtSpec → Int) : Prop :=
  d.statusOn = false → d.nwkRstBtnBp.Completing gpioPinGetDt →
    8000 < d.nwkRstBtnBp.pressTimerMs + runLedBlinkInterval →
      d.blinkStatus.tmod 2 = 0

@[simp] theorem blink_statusOn (d : Display) :
    d.blink.statusOn = d.statusOn := by
  simp only [blink]
  split <;> rfl

theorem blink_runStatusLed (d : Display) :
    d.blink.runStatusLed =
      if d.statusOn || d.tempStatusOn then d.blinkStatus.tmod 2 != 0
      else d.runStatusLed := by
  simp only [blink]
  split <;> rfl

theorem press_nwkRstBtnBp (duration : Int) (d : Display) :
    (d.press duration).nwkRstBtnBp = d.nwkRstBtnBp := by
  simp only [press]
  split_ifs <;> rfl

theorem step_handler (d : Display) (gpioPinGetDt : GpioDtSpec → Int) :
    (d.step gpioPinGetDt).nwkRstBtnBp = d.nwkRstBtnBp.poll gpioPinGetDt := by
  simp only [step]
  split
  · rfl
  · exact press_nwkRstBtnBp _ _

theorem press_feedback {d : Display} (h : d.Feedback) (duration : Int) :
    (d.press duration).Feedback := by
  simp only [press]
  split_ifs <;> exact h

theorem step_feedback (d : Display) (gpioPinGetDt : GpioDtSpec → Int) :
    (d.step gpioPinGetDt).Feedback := by
  simp only [step]
  split
  · rfl
  · apply press_feedback
    rfl

/-- What holds of the display before every iteration. -/
structure Settled (d : Display) : Prop where
  ready : d.nwkRstBtnBp.Ready runLedBlinkInterval
  feedback : d.Feedback

theorem Settled.step {d : Display} (h : d.Settled)
    (gpioPinGetDt : GpioDtSpec → Int) : (d.step gpioPinGetDt).Settled := by
  refine ⟨?_, d.step_feedback gpioPinGetDt⟩
  rw [step_handler]
  exact h.ready.poll runLedBlinkInterval_pos gpioPinGetDt

/-- Without the end of a press an iteration keeps the LED dark. -/
theorem Settled.step_dark_of_continues {d : Display}
    {gpioPinGetDt : GpioDtSpec → Int} (h : d.Settled) (hdark : d.Dark)
    (hcont : PollContinues runLedBlinkInterval gpioPinGetDt d.nwkRstBtnBp) :
    (d.step gpioPinGetDt).Dark := by
  have hp := runLedBlinkInterval_pos
  have hfeedback := h.feedback
  rw [Feedback] at hfeedback
  simp only [Display.step, hcont.unreported, Dark, blink_statusOn]
  intro hoff htemp
  -- the temporary display only ends with the press
  have hidle : d.tempStatusOn = false := by
    by_contra hon
    rw [hfeedback, Bool.not_eq_false, Bool.and_eq_true,
      decide_eq_true_iff] at hon
    have htimer := hcont.timer_eq
    rw [if_pos hon.1] at htimer
    rw [hcont.stays hon.1, Bool.true_and, decide_eq_false_iff_not,
      htimer] at htemp
    omega
  rw [blink_runStatusLed, hoff, hidle]
  exact hdark hoff hidle

/-- At the end of a press only a reset leaves the LED as it is. -/
theorem Settled.step_dark_of_completes {d : Display}
    {gpioPinGetDt : GpioDtSpec → Int} (h : d.Settled) (hdark : d.Dark)
    (hcomp : PollCompletes runLedBlinkInterval gpioPinGetDt d.nwkRstBtnBp) :
    (d.step gpioPinGetDt).Dark ↔ d.LeavesDark gpioPinGetDt := by
  have hfeedback := h.feedback
  rw [Feedback] at hfeedback
  have hcompleting : d.nwkRstBtnBp.Completing gpioPinGetDt :=
    poll_falls_iff.mp ⟨hcomp.held, hcomp.released⟩
  simp only [Display.step, hcomp.reported, Dark, LeavesDark, hcompleting,
    forall_const]
  by_cases hreset : 8000 < d.nwkRstBtnBp.pressTimerMs + runLedBlinkInterval
  · have htemp : d.tempStatusOn = true := by
      have hlong : 1000 < d.nwkRstBtnBp.pressTimerMs := by
        rw [show runLedBlinkInterval = 25 from rfl] at hreset
        omega
      rw [hfeedback, hcomp.held, decide_eq_true hlong]
      rfl
    simp only [press, blink_statusOn, blink_runStatusLed, hcomp.released,
      Bool.false_and, forall_const, htemp, Bool.or_true, if_true,
      bne_eq_false_iff_eq, hreset]
  · simp only [press, hreset, if_false, false_implies, implies_true, iff_true]
    by_cases hflip : 1000 < d.nwkRstBtnBp.pressTimerMs + runLedBlinkInterval
    · simp only [hflip, if_true, blink_statusOn]
      intro hoff _
      rw [Bool.not_eq_false'] at hoff
      rw [if_pos hoff]
    · have hidle : d.tempStatusOn = false := by
        have hp := runLedBlinkInterval_pos
        have hshort : ¬ 1000 < d.nwkRstBtnBp.pressTimerMs := by omega
        rw [hfeedback, decide_eq_false hshort, Bool.and_false]
      simp only [hflip, if_false, blink_statusOn, blink_runStatusLed]
      intro hoff _
      rw [hoff, hidle]
      exact hdark hoff hidle

/-- An iteration keeps the LED dark exactly if no press of more than eight
seconds ends in it while the LED is lit. -/
theorem Settled.step_dark_iff {d : Display} {gpioPinGetDt : GpioDtSpec → Int}
    (h : d.Settled) (hdark : d.Dark) :
    (d.step gpioPinGetDt).Dark ↔ d.LeavesDark gpioPinGetDt := by
  have hp := runLedBlinkInterval_pos
  have hready := h.ready
  rcases (hready.poll_cases hp gpioPinGetDt).2 with hcont | hcomp
  · have hnot : ¬ d.nwkRstBtnBp.Completing gpioPinGetDt := by
      rw [← poll_falls_iff]
      exact (hready.completedPress_eq_none_iff hp).mp hcont.unreported
    have hleaves : d.LeavesDark gpioPinGetDt := fun _ h => absurd h hnot
    exact iff_of_true (h.step_dark_of_continues hdark hcont) hleaves
  · exact h.step_dark_of_completes hdark hcomp

section Run

variable {start : Display} {pins : Nat → GpioDtSpec → Int}

theorem stateAt_settled (hstart : start.Settled) (n : Nat) :
    (Runs.stateAt step start pins n).Settled :=
  Runs.stateAt_invariant Settled hstart (fun _ pins h => h.step pins) pins n

theorem stateAt_handler
    (hclean : start.nwkRstBtnBp = .clean .nwkRstBtn runLedBlinkInterval)
    (n : Nat) : (Runs.stateAt step start pins n).nwkRstBtnBp =
      handlerAt runLedBlinkInterval .nwkRstBtn pins n := by
  rw [handlerAt, ← hclean]
  exact Runs.stateAt_proj (fun h pins => h.poll pins) (fun _ => True)
    nwkRstBtnBp id trivial (fun _ _ _ => trivial)
    (fun d pins _ => d.step_handler pins) pins n

/-! Up to the end of the first press. -/

variable {rise fall : Nat}

/-- The temporary display comes on a second after the rise. -/
theorem stateAt_tempStatusOn (hstart : start.Settled)
    (hclean : start.nwkRstBtnBp = .clean .nwkRstBtn runLedBlinkInterval)
    (hpulse : Pulse (debouncedAt runLedBlinkInterval .nwkRstBtn pins) rise fall)
    (hfirst : ∀ i, i ≤ rise →
      debouncedAt runLedBlinkInterval .nwkRstBtn pins i = false)
    {n : Nat} (hn : n ≤ fall) :
    (Runs.stateAt step start pins n).tempStatusOn = decide (rise + 42 ≤ n) := by
  have hp := runLedBlinkInterval_pos
  rw [(stateAt_settled hstart n).feedback, stateAt_handler hclean]
  by_cases hrise : rise < n
  · have hheld := hpulse.high n hrise hn
    rw [debouncedAt] at hheld
    rw [hheld, Bool.true_and, handlerAt_pressTimerMs hp hpulse.low
      (fun i hi hle => hpulse.high i hi (hle.trans hn)) hrise,
      decide_eq_decide, show runLedBlinkInterval = 25 from rfl]
    omega
  · have hlow := hfirst n (Nat.le_of_not_lt hrise)
    rw [debouncedAt] at hlow
    rw [hlow, Bool.false_and, decide_eq_false (by omega)]

theorem stateAt_completedPress
    (hclean : start.nwkRstBtnBp = .clean .nwkRstBtn runLedBlinkInterval)
    (hpulse : Pulse (debouncedAt runLedBlinkInterval .nwkRstBtn pins) rise fall)
    (hfirst : ∀ i, i ≤ rise →
      debouncedAt runLedBlinkInterval .nwkRstBtn pins i = false)
    {n : Nat} (hn : n < fall) :
    (Runs.stateAt step start pins n).nwkRstBtnBp.completedPress (pins n) =
      none := by
  rw [stateAt_handler hclean]
  apply (pressAt_eq_none_iff runLedBlinkInterval_pos n).mpr
  rintro ⟨hhigh, hlow⟩
  by_cases hrise : rise ≤ n
  · have hstill := hpulse.high (n + 1) (Nat.lt_succ_of_le hrise) hn
    exact absurd (hstill.symm.trans hlow) (by decide)
  · have hbefore := hfirst n (Nat.le_of_not_le hrise)
    exact absurd (hhigh.symm.trans hbefore) (by decide)

/-- While the display is lit only temporarily, the blink counters count the
rounds it has been lit for. -/
theorem stateAt_blink (hstart : start.Settled)
    (hclean : start.nwkRstBtnBp = .clean .nwkRstBtn runLedBlinkInterval)
    (hoff : start.statusOn = false) (hblink : start.blinkStatus = 0)
    (hloop : start.loopCount = 0)
    (hpulse : Pulse (debouncedAt runLedBlinkInterval .nwkRstBtn pins) rise fall)
    (hfirst : ∀ i, i ≤ rise →
      debouncedAt runLedBlinkInterval .nwkRstBtn pins i = false)
    {n : Nat} (hn : n ≤ fall) :
    (Runs.stateAt step start pins n).statusOn = false ∧
      (Runs.stateAt step start pins n).loopCount = (n - (rise + 42) : Nat) ∧
      (Runs.stateAt step start pins n).blinkStatus =
        ((n - (rise + 42) + 39) / 40 : Nat) := by
  induction n with
  | zero => simp [hoff, hloop, hblink]
  | succ n ih =>
      have hbefore := Nat.le_of_succ_le hn
      rcases ih hbefore with ⟨hoff', hloop', hblink'⟩
      simp only [Runs.stateAt_succ, step,
        stateAt_completedPress hclean hpulse hfirst hn, blink, hoff',
        Bool.false_or, stateAt_tempStatusOn hstart hclean hpulse hfirst hbefore,
        decide_eq_true_iff]
      by_cases hlit : rise + 42 ≤ n
      · rw [if_pos hlit, hloop', hblink']
        have htoggle : ((n - (rise + 42) : Nat) : Int).tmod blinkToggle =
            ((n - (rise + 42)) % 40 : Nat) := rfl
        simp only [htoggle, true_and]
        constructor
        · rw [Nat.succ_sub hlit]
          rfl
        · split <;> omega
      · rw [if_neg hlit, hloop', hblink']
        refine ⟨hoff', ?_, ?_⟩ <;> omega

end Run

end Display

namespace StatusLeds

/-- The network LED is dark while the display is off. -/
def NetworkDark (s : StatusLeds) : Prop :=
  s.statusOn = false → s.zigbeeNetworkStateLed = false

theorem NetworkDark.zbossSignalHandler {s : StatusLeds} (h : s.NetworkDark)
    (sig : ZbZdoAppSignalType) (status : ZbRet) :
    (s.zbossSignalHandler sig status).NetworkDark := by
  simp only [StatusLeds.zbossSignalHandler]
  split
  · intro hoff
    rename_i hon
    exact absurd (hon.symm.trans hoff) (by decide)
  · exact h

theorem networkDark_statusPress (s : StatusLeds) :
    s.statusPress.NetworkDark := by
  simp only [statusPress]
  split
  · intro hoff
    rename_i hon
    exact absurd (hon.symm.trans hoff) (by decide)
  · exact fun _ => rfl

end StatusLeds

namespace DongleState

theorem deliver_networkDark {s : DongleState} (h : s.leds.NetworkDark)
    (e : StackEvent) : (s.deliver e).leds.NetworkDark := by
  cases e with
  | signal sig status => exact h.zbossSignalHandler sig status
  | deviceCb param => exact h

theorem statusLed_networkDark {s : DongleState} (h : s.leds.NetworkDark) :
    s.statusLed.leds.NetworkDark := by
  simp only [statusLed]
  split_ifs <;> exact h

theorem nwkRstBtnPoll_networkDark {s : DongleState} (h : s.leds.NetworkDark)
    (tick : Tick) : (s.nwkRstBtnPoll tick).1.leds.NetworkDark := by
  simp only [nwkRstBtnPoll, nwkRstBtnAction]
  split_ifs
  · exact h
  · exact s.leds.networkDark_statusPress
  · exact h
  · exact h

/-- The network LED needs no condition: it is written only while the display is
on, and cleared when the display is switched off. -/
theorem iteration_networkDark {s : DongleState} (h : s.leds.NetworkDark)
    (tick : Tick) : (s.iteration tick).1.leds.NetworkDark := by
  have hdelivered : ∀ {s : DongleState}, s.leds.NetworkDark → ∀ events,
      (List.foldl deliver s events).leds.NetworkDark := by
    intro s hs events
    exact List.foldlRecOn (motive := fun s => s.leds.NetworkDark) events deliver
      hs fun _ h e _ => deliver_networkDark h e
  have hawake := hdelivered
    (statusLed_networkDark (hdelivered h tick.betweenIterations))
    tick.duringSleep
  have hpolled := nwkRstBtnPoll_networkDark hawake tick
  rcases extBtnLoop_frame tick [0, 1, 2, 3] (((tick.duringSleep.foldl deliver
    (tick.betweenIterations.foldl deliver s).statusLed)).nwkRstBtnPoll tick).1
    with ⟨bps, hloop⟩
  simp only [iteration, hloop]
  exact hpolled

/-- The state with both LEDs dark and the display off. -/
def withDisplayOff (s : DongleState) : DongleState :=
  { s with
    leds := { s.leds with
      statusOn := false, runStatusLed := false, zigbeeNetworkStateLed := false }
    tempStatusOn := false }

/-- At the end of every iteration that leaves both flags off, both LEDs are
dark. -/
def DarkWhenOff (s : DongleState) (ticks : Nat → Tick) : Prop :=
  ∀ n, (s.withDisplayOff.stateAt ticks (n + 1)).leds.statusOn = false →
    (s.withDisplayOff.stateAt ticks (n + 1)).tempStatusOn = false →
      (s.withDisplayOff.stateAt ticks (n + 1)).leds.runStatusLed = false ∧
      (s.withDisplayOff.stateAt ticks (n + 1)).leds.zigbeeNetworkStateLed =
        false

/-- Along a run the display is a run of the display machine. -/
theorem stateAt_display (s : DongleState) (ticks : Nat → Tick) (n : Nat) :
    (s.stateAt ticks n).display =
      Runs.stateAt Display.step s.withCleanHandlers.display
        (fun m => (ticks m).gpioPinGetDt) n :=
  Runs.stateAt_proj Display.step (fun _ => True) display Tick.gpioPinGetDt
    trivial (fun _ _ _ => trivial) (fun s tick _ => iteration_display tick s)
    ticks n

/-- The LEDs are dark whenever the display is off exactly if no press of more
than eight seconds ends, with the display off, in an iteration that has just
lit `RUN_STATUS_LED`: only the branch for shorter presses clears it. -/
theorem darkWhenOff_iff (s : DongleState) (ticks : Nat → Tick) :
    s.DarkWhenOff ticks ↔ ∀ n,
      (s.withDisplayOff.stateAt ticks n).display.LeavesDark
        (ticks n).gpioPinGetDt := by
  have hp := runLedBlinkInterval_pos
  have hnetwork : ∀ n,
      (s.withDisplayOff.stateAt ticks n).leds.NetworkDark :=
    Runs.stateAt_invariant (fun s : DongleState => s.leds.NetworkDark)
      (fun _ => rfl) (fun _ tick h => iteration_networkDark h tick) ticks
  let start := s.withDisplayOff.withCleanHandlers.display
  have hstart : start.Settled :=
    ⟨ButtonPressHandler.clean_ready _ _, rfl⟩
  have hsettled : ∀ n, (s.withDisplayOff.stateAt ticks n).display.Settled := by
    intro n
    rw [stateAt_display]
    exact Display.stateAt_settled hstart n
  have hiff := Runs.stateAt_always_iff Display.step
    (fun d => d.Settled ∧ d.Dark) Display.LeavesDark
    (fun _ pins hinv hallowed =>
      ⟨hinv.1.step pins, (hinv.1.step_dark_iff hinv.2).mpr hallowed⟩)
    (fun _ _ hinv hnot hnext =>
      hnot ((hinv.1.step_dark_iff hinv.2).mp hnext.2))
    ⟨hstart, fun _ _ => rfl⟩ (fun m => (ticks m).gpioPinGetDt)
  simp only [start, ← stateAt_display] at hiff
  rw [← hiff]
  constructor
  · intro hdark n
    refine ⟨hsettled n, ?_⟩
    cases n with
    | zero => exact fun _ _ => rfl
    | succ n => exact fun hoff htemp => (hdark n hoff htemp).1
  · intro hinv n hoff htemp
    exact ⟨(hinv (n + 1)).2 hoff htemp, hnetwork (n + 1) hoff⟩

/-- The button is held for 319 samples from boot on.  The press ends in
iteration 323, which has lit the LED, and the LED stays lit. -/
theorem not_darkWhenOff_reset_press :
    ¬ ∀ (s : DongleState) (ticks : Nat → Tick), s.DarkWhenOff ticks := by
  intro h
  let pins : Nat → GpioDtSpec → Int := fun n _ => if n < 319 then 1 else 0
  let ticks : Nat → Tick := fun n =>
    { betweenIterations := []
      duringSleep := []
      gpioPinGetDt := pins n
      zbBufGetOutDelayedExt := fun _ => 0 }
  let s := boot (fun gpio => .clean gpio 25) { ledPulse := 0, pinPulse := 0 }
  let start := s.withDisplayOff.withCleanHandlers.display
  have hstart : start.Settled := ⟨ButtonPressHandler.clean_ready _ _, rfl⟩
  -- as a variable the round is not unfolded
  obtain ⟨fall, hfall⟩ : ∃ fall, fall = 323 := ⟨323, rfl⟩
  have hpulse : BoolStream.Pulse (ButtonPressHandler.debouncedAt
      runLedBlinkInterval .nwkRstBtn pins) 2 fall := by
    rw [hfall]
    exact pulse_of_reads (n := 319) (by decide) Int.one_ne_zero fun _ => rfl
  have hfirst : ∀ i, i ≤ 2 → ButtonPressHandler.debouncedAt
      runLedBlinkInterval .nwkRstBtn pins i = false := by
    intro i hi
    have hi : i = 0 ∨ i = 1 ∨ i = 2 := by omega
    rcases hi with rfl | rfl | rfl <;> rfl
  rcases Display.stateAt_blink hstart rfl rfl rfl rfl hpulse hfirst
    (Nat.le_refl _) with ⟨hoff, -, hblink⟩
  have hdark : (Runs.stateAt Display.step start pins fall).Dark := by
    intro _ hidle
    rw [Display.stateAt_tempStatusOn hstart rfl hpulse hfirst (Nat.le_refl _),
      hfall] at hidle
    exact absurd hidle (by decide)
  have hnext : ((Runs.stateAt Display.step start pins fall).step
      (pins fall)).Dark := by
    have hview : (s.withDisplayOff.stateAt ticks (fall + 1)).display =
        (Runs.stateAt Display.step start pins fall).step (pins fall) :=
      stateAt_display s.withDisplayOff ticks (fall + 1)
    rw [← hview]
    exact fun hoff htemp => (h s ticks fall hoff htemp).1
  have hleaves := ((Display.stateAt_settled hstart fall).step_dark_iff
    hdark).mp hnext hoff
  have hlong := ButtonPressHandler.handlerAt_pressTimerMs
    runLedBlinkInterval_pos hpulse.low hpulse.high hpulse.lt
  rw [hblink, Display.stateAt_handler rfl, hlong, hfall] at hleaves
  have heven := hleaves (by
    rw [← hfall]
    exact ButtonPressHandler.poll_falls_iff.mp
      ⟨hpulse.high_last, hpulse.falls⟩) (by decide)
  revert heven
  decide

end DongleState

end ZbLightbulb
