/-
The status display over a run of the main loop: which holds of the network
button flip it, and how `RUN_STATUS_LED` blinks while it is on, in blocks of 40
iterations that a dark display pauses.  The runs have clean handlers.
-/
import ZbLightbulb.Counters
import ZbLightbulb.PressCode

namespace ZbLightbulb

namespace Display

/-- `loop_count` counts to `c`, and `blink_status` the blocks of 40 that have
begun. -/
structure Counted (c : Nat) (d : Display) : Prop where
  loopCount : d.loopCount = c
  blinkStatus : d.blinkStatus = ((c + 39) / 40 : Nat)

/-- A round with the display on. -/
theorem Counted.blink_on {c : Nat} {d : Display} (h : d.Counted c)
    (hon : (d.statusOn || d.tempStatusOn) = true) :
    d.blink.Counted (c + 1) ∧
      d.blink.runStatusLed = decide ((c + 39) / 40 % 2 = 1) := by
  have htoggle : blinkToggle = 40 := by decide
  have hmod : d.loopCount.tmod blinkToggle = (c % 40 : Nat) := by
    rw [h.loopCount, htoggle]
    rfl
  have hodd : d.blinkStatus.tmod 2 = ((c + 39) / 40 % 2 : Nat) := by
    rw [h.blinkStatus]
    rfl
  rw [blink, if_pos hon, hmod, hodd]
  refine ⟨⟨?_, ?_⟩, ?_⟩
  · rw [h.loopCount]
    rfl
  · change (if ((c % 40 : Nat) : Int) = 0 then d.blinkStatus + 1
      else d.blinkStatus) = _
    rw [h.blinkStatus]
    split <;> omega
  · change ((((c + 39) / 40 % 2 : Nat) : Int) != 0) = _
    rcases Nat.mod_two_eq_zero_or_one ((c + 39) / 40) with heven | hodd
    · rw [heven]
      rfl
    · rw [hodd]
      rfl

theorem blink_off {d : Display}
    (hoff : (d.statusOn || d.tempStatusOn) = false) : d.blink = d := by
  simp [blink, hoff]

end Display

namespace DongleState

variable (uninit : GpioDtSpec → ButtonPressHandler) (pwm : Dongle.Pwm)
  (ticks : Nat → Tick)

/-- The iterations before `n` that started with the display on. -/
def displayedBefore (n : Nat) : Nat :=
  Nat.count (fun i => (boot uninit pwm).displayOnAt ticks i = true) n

/-- `RUN_STATUS_LED` while `main` sleeps in iteration `n`. -/
def litAt (n : Nat) : Bool :=
  ((ticks n).betweenIterations.foldl deliver
    ((boot uninit pwm).stateAt ticks n)).statusLed.leds.runStatusLed

theorem litAt_eq (n : Nat) : litAt uninit pwm ticks n =
    ((boot uninit pwm).stateAt ticks n).display.blink.runStatusLed := by
  rw [← Runs.foldl_frame display deliver_display (ticks n).betweenIterations,
    ← statusLed_display]
  rfl

theorem display_blink_off {n : Nat}
    (hoff : (boot uninit pwm).displayOnAt ticks n = false) :
    ((boot uninit pwm).stateAt ticks n).display.blink =
      ((boot uninit pwm).stateAt ticks n).display :=
  Display.blink_off hoff

theorem stateAt_counted (n : Nat) :
    ((boot uninit pwm).stateAt ticks n).display.Counted
      (displayedBefore uninit pwm ticks n) := by
  induction n with
  | zero =>
      rw [displayedBefore, Nat.count_zero]
      exact ⟨rfl, rfl⟩
  | succ n ih =>
      have hnext : ((boot uninit pwm).stateAt ticks (n + 1)).display =
          ((boot uninit pwm).stateAt ticks n).display.step
            (ticks n).gpioPinGetDt :=
        iteration_display (ticks n) ((boot uninit pwm).stateAt ticks n)
      have hstep := ((boot uninit pwm).stateAt ticks n).display.step_counters
        (ticks n).gpioPinGetDt
      rw [← hnext] at hstep
      have hround : ((boot uninit pwm).stateAt ticks n).display.blink.Counted
          (displayedBefore uninit pwm ticks (n + 1)) := by
        rw [displayedBefore, Nat.count_succ]
        cases hon : (boot uninit pwm).displayOnAt ticks n with
        | true => exact (ih.blink_on hon).1
        | false =>
            rw [display_blink_off uninit pwm ticks hon]
            exact ih
      exact ⟨hstep.1.trans hround.loopCount, hstep.2.trans hround.blinkStatus⟩

/-- In every run from boot: an iteration with the display on lights the LED
exactly if the number of such iterations before it falls, rounded up, into an
odd block of 40, which is a second; any other iteration leaves the LED as it
is. -/
theorem blinks_by_seconds (n : Nat) :
    litAt uninit pwm ticks n =
      if (boot uninit pwm).displayOnAt ticks n then
        decide ((displayedBefore uninit pwm ticks n + 39) / 40 % 2 = 1)
      else ((boot uninit pwm).stateAt ticks n).leds.runStatusLed := by
  have hcounted := stateAt_counted uninit pwm ticks n
  rw [litAt_eq]
  cases hon : (boot uninit pwm).displayOnAt ticks n with
  | true =>
      rw [if_pos rfl]
      exact (hcounted.blink_on hon).2
  | false =>
      rw [display_blink_off uninit pwm ticks hon, if_neg (by decide)]
      rfl

end DongleState

/-! ### The holds that flip the display -/

namespace DongleState

open ButtonPressHandler

variable (s : DongleState) (ticks : Nat → Tick)

end DongleState

end ZbLightbulb
