/-
The counters of the main loop over runs of any length: which of them a long
hold, a lit display or a bouncing button takes out of its range.
-/
import Mathlib.Data.Nat.Count
import ZbLightbulb.DisplayOff

namespace ZbLightbulb

open BoolStream

/-- The range of a 32-bit `int`. -/
def InInt32 (x : Int) : Prop :=
  -2147483648 ≤ x ∧ x ≤ 2147483647

theorem inInt32_of_nonneg {x : Int} (hx : 0 ≤ x) :
    InInt32 x ↔ x ≤ 2147483647 := by
  rw [InInt32]
  omega

theorem inInt32_zero : InInt32 0 :=
  (inInt32_of_nonneg (le_refl 0)).mpr (by decide)

namespace DongleState

/-- The debounce timers between two iterations are within the threshold and one
maximal increment, the other counters within their type.  The poll that ends a
press adds to `press_timer_ms` once more before it clears it, and
`completed_button_press_thresh` is what it held by then. -/
structure CountersInRange (s : DongleState)
    (gpioPinGetDt : GpioDtSpec → Int) : Prop where
  debounce : ∀ b, 0 ≤ (s.handler b).debounceTimerMs ∧
    (s.handler b).debounceTimerMs ≤ 150
  pressTimer : ∀ b, InInt32 (s.handler b).pressTimerMs
  completed : ∀ b, InInt32 ((s.handler b).getDebouncedPress
    gpioPinGetDt).completedButtonPressThresh
  loopCount : InInt32 s.loopCount
  blinkStatus : InInt32 s.blinkStatus

section Run

variable (s : DongleState) (ticks : Nat → Tick)

/-- Iteration `n` starts with the status display on. -/
def displayOnAt (n : Nat) : Bool :=
  (s.stateAt ticks n).leds.statusOn || (s.stateAt ticks n).tempStatusOn

/-- The sample right after a change of `is_debounced` agrees with it, no button
is debounced-pressed before more than 85899345 polls in a row, which are
2147483625 ms and the last multiple of 25 an `int` holds, and at most 2^31 - 1
iterations start with the display on. -/
structure LeavesRoom : Prop where
  settles : ∀ b n,
    s.debouncedAt ticks b (n + 1) ≠ s.debouncedAt ticks b n →
      ButtonPressHandler.isButtonPressed (ticks (n + 1)).gpioPinGetDt b =
        s.debouncedAt ticks b (n + 1)
  releases : ∀ b n, streak true (s.debouncedAt ticks b) n ≤ 85899345
  darkens : ∀ n, Nat.count (fun i => s.displayOnAt ticks i = true) n ≤
    2147483647

end Run

/-! ### The debounce timers -/

section Debounce

variable {s : DongleState} {ticks : Nat → Tick}

/-- The timers stay within 150 ms exactly if every change of `is_debounced` is
followed by a sample that agrees. -/
theorem debounceTimer_iff (b : GpioDtSpec) :
    (∀ n, 0 ≤ ((s.stateAt ticks n).handler b).debounceTimerMs ∧
        ((s.stateAt ticks n).handler b).debounceTimerMs ≤ 150) ↔
      ∀ n, s.debouncedAt ticks b (n + 1) ≠ s.debouncedAt ticks b n →
        ButtonPressHandler.isButtonPressed (ticks (n + 1)).gpioPinGetDt b =
          s.debouncedAt ticks b (n + 1) := by
  have hp := runLedBlinkInterval_pos
  let D := ButtonPressHandler.debouncer runLedBlinkInterval hp
  let x := ButtonPressHandler.sampleAt b fun m => (ticks m).gpioPinGetDt
  have htimer : ∀ n, ((s.stateAt ticks n).handler b).debounceTimerMs =
      (D.stateAt ⟨false, 0⟩ x n).timer := by
    intro n
    rw [stateAt_handler]
    exact ButtonPressHandler.handlerAt_debounceTimerMs hp n
  have hlevel : ∀ n, s.debouncedAt ticks b n = D.levelAt ⟨false, 0⟩ x n := by
    intro n
    rw [debouncedAt_eq, ButtonPressHandler.debouncedAt_eq hp]
  have hlimit : D.limit = 100 := rfl
  have hgain : ∀ level, D.gain level = if level then 25 else 50 := by
    intro level
    cases level <;> rfl
  have hnonneg : ∀ n, 0 ≤ (D.stateAt ⟨false, 0⟩ x n).timer :=
    Debouncer.timer_nonneg rfl
  simp only [htimer, hlevel, hnonneg, true_and]
  apply Debouncer.timer_le_iff rfl
  · intro level
    rw [hgain, hlimit]
    cases level <;> decide
  · intro level
    rw [hgain, hlimit]
    cases level <;> decide
  · change (150 : Int) < 100 + 50 + 25
    decide

end Debounce

/-! ### The press timers -/

section PressTimer

variable {s : DongleState} {ticks : Nat → Tick}

/-- Poll `n` counts in range exactly if the hold it counts fits an `int`. -/
theorem pressTimer_succ_iff (b : GpioDtSpec) (n : Nat) :
    InInt32 ((s.stateAt ticks (n + 1)).handler b).pressTimerMs ∧
        InInt32 (((s.stateAt ticks n).handler b).getDebouncedPress
          (ticks n).gpioPinGetDt).completedButtonPressThresh ↔
      streak true (s.debouncedAt ticks b) (n + 1) ≤ 85899345 := by
  have hcounted : InInt32
      (runLedBlinkInterval * streak true (s.debouncedAt ticks b) (n + 1)) ↔
      streak true (s.debouncedAt ticks b) (n + 1) ≤ 85899345 := by
    rw [show runLedBlinkInterval = 25 from rfl, inInt32_of_nonneg (by omega)]
    omega
  have hcases := @ButtonPressHandler.handlerAt_counted runLedBlinkInterval b
    (fun m => (ticks m).gpioPinGetDt) runLedBlinkInterval_pos n
  rw [← debouncedAt_eq, ← stateAt_handler, ← stateAt_handler] at hcases
  rcases hcases with ⟨htimer, hcompleted⟩ | ⟨htimer, hcompleted⟩
  · rw [htimer, hcompleted, hcounted]
    exact and_iff_left inInt32_zero
  · rw [htimer, hcompleted, hcounted]
    exact and_iff_right inInt32_zero

theorem pressTimer_iff (b : GpioDtSpec) :
    (∀ n, InInt32 ((s.stateAt ticks n).handler b).pressTimerMs ∧
        InInt32 (((s.stateAt ticks n).handler b).getDebouncedPress
          (ticks n).gpioPinGetDt).completedButtonPressThresh) ↔
      ∀ n, streak true (s.debouncedAt ticks b) n ≤ 85899345 := by
  constructor
  · intro hrange n
    cases n with
    | zero => exact Nat.zero_le _
    | succ n =>
        exact (pressTimer_succ_iff b n).mp
          ⟨(hrange (n + 1)).1, (hrange n).2⟩
  · intro hshort n
    refine ⟨?_, ((pressTimer_succ_iff b n).mpr (hshort (n + 1))).2⟩
    cases n with
    | zero =>
        rw [stateAt_handler]
        exact inInt32_zero
    | succ n => exact ((pressTimer_succ_iff b n).mpr (hshort (n + 1))).1

end PressTimer

end DongleState

/-! ### The blink counters -/

namespace Display

theorem press_counters (duration : Int) (d : Display) :
    (d.press duration).loopCount = d.loopCount ∧
      (d.press duration).blinkStatus = d.blinkStatus := by
  simp only [press]
  split_ifs <;> exact ⟨rfl, rfl⟩

theorem step_counters (d : Display) (gpioPinGetDt : GpioDtSpec → Int) :
    (d.step gpioPinGetDt).loopCount = d.blink.loopCount ∧
      (d.step gpioPinGetDt).blinkStatus = d.blink.blinkStatus := by
  simp only [step]
  split
  · exact ⟨rfl, rfl⟩
  · exact press_counters _ _

/-- A round with the display on counts one, and `blink_status` at most one. -/
theorem blink_counters (d : Display) :
    d.blink.loopCount =
        d.loopCount + (if d.statusOn || d.tempStatusOn then 1 else 0) ∧
      d.blinkStatus ≤ d.blink.blinkStatus ∧
      d.blink.blinkStatus ≤
        d.blinkStatus + (if d.statusOn || d.tempStatusOn then 1 else 0) := by
  simp only [blink]
  split_ifs <;> simp

end Display

namespace DongleState

section Blink

variable {s : DongleState} {ticks : Nat → Tick}

/-- `loop_count` counts the iterations that start with the display on, and
`blink_status` stays below it. -/
theorem loopCount_eq (hloop : s.loopCount = 0) (hblink : s.blinkStatus = 0)
    (n : Nat) : (s.stateAt ticks n).loopCount =
        Nat.count (fun i => s.displayOnAt ticks i = true) n ∧
      0 ≤ (s.stateAt ticks n).blinkStatus ∧
      (s.stateAt ticks n).blinkStatus ≤ (s.stateAt ticks n).loopCount := by
  induction n with
  | zero =>
      change s.loopCount = _ ∧ 0 ≤ s.blinkStatus ∧ s.blinkStatus ≤ s.loopCount
      rw [hloop, hblink, Nat.count_zero]
      decide
  | succ n ih =>
      rcases ih with ⟨hcount, hnonneg, hle⟩
      have hnext : (s.stateAt ticks (n + 1)).display =
          (s.stateAt ticks n).display.step (ticks n).gpioPinGetDt :=
        iteration_display (ticks n) (s.stateAt ticks n)
      have hstep := (s.stateAt ticks n).display.step_counters
        (ticks n).gpioPinGetDt
      have hround := (s.stateAt ticks n).display.blink_counters
      rw [← hnext] at hstep
      rw [← hstep.1, ← hstep.2] at hround
      change (s.stateAt ticks (n + 1)).loopCount =
          (s.stateAt ticks n).loopCount +
            (if s.displayOnAt ticks n then 1 else 0) ∧
        (s.stateAt ticks n).blinkStatus ≤
          (s.stateAt ticks (n + 1)).blinkStatus ∧
        (s.stateAt ticks (n + 1)).blinkStatus ≤
          (s.stateAt ticks n).blinkStatus +
            (if s.displayOnAt ticks n then 1 else 0) at hround
      rw [Nat.count_succ]
      by_cases hon : s.displayOnAt ticks n = true
      · rw [if_pos hon] at hround ⊢
        push_cast
        omega
      · rw [if_neg hon] at hround ⊢
        push_cast
        omega

end Blink

/-- The counters stay in range exactly in the runs in which every change of
`is_debounced` is followed by a sample that agrees, no button is held and no
display lit for longer than an `int` can count. -/
theorem countersInRange_iff (uninit : GpioDtSpec → ButtonPressHandler)
    (pwm : Dongle.Pwm) (ticks : Nat → Tick) :
    (∀ n, ((boot uninit pwm).stateAt ticks n).CountersInRange
        (ticks n).gpioPinGetDt) ↔
      (boot uninit pwm).LeavesRoom ticks := by
  have hcounters : ∀ n, ((boot uninit pwm).stateAt ticks n).loopCount = _ ∧ _ ∧
      _ := loopCount_eq rfl rfl
  constructor
  · intro hrange
    constructor
    · intro b
      exact (debounceTimer_iff b).mp fun n => (hrange n).debounce b
    · intro b
      exact (pressTimer_iff b).mp fun n =>
        ⟨(hrange n).pressTimer b, (hrange n).completed b⟩
    · intro n
      have hle := (hrange n).loopCount.2
      rw [(hcounters n).1] at hle
      exact_mod_cast hle
  · intro hroom n
    rcases hcounters n with ⟨hcount, hnonneg, hle⟩
    have hloop : ((boot uninit pwm).stateAt ticks n).loopCount ≤
        2147483647 := by
      rw [hcount]
      exact_mod_cast hroom.darkens n
    constructor
    · exact fun b => (debounceTimer_iff b).mpr (hroom.settles b) n
    · exact fun b => ((pressTimer_iff b).mpr (hroom.releases b) n).1
    · exact fun b => ((pressTimer_iff b).mpr (hroom.releases b) n).2
    · exact (inInt32_of_nonneg (hnonneg.trans hle)).mpr hloop
    · exact (inInt32_of_nonneg hnonneg).mpr (hle.trans hloop)

/-- Three pressed samples and then a released one: the rise leaves 150 ms in the
debounce timer, and the release adds 25 ms to them. -/
theorem not_countersInRange_175 :
    ¬ ∀ (uninit : GpioDtSpec → ButtonPressHandler) (pwm : Dongle.Pwm) ticks n,
      ((boot uninit pwm).stateAt ticks n).CountersInRange
        (ticks n).gpioPinGetDt := by
  intro h
  have hle := ((h (fun gpio => .clean gpio 25) ⟨0, 0⟩
    (fun n =>
      { betweenIterations := []
        duringSleep := []
        gpioPinGetDt := fun _ => if n < 3 then 1 else 0
        zbBufGetOutDelayedExt := fun _ => 0 }) 4).debounce .extBtn1).2
  rw [stateAt_handler] at hle
  revert hle
  decide

end DongleState

end ZbLightbulb
