/-
Reads of a pin that fail: `gpio_pin_get_dt` returns a negative error code, and
`is_button_pressed` takes it for a press.
-/
import ZbLightbulb.BootRun
import ZbLightbulb.FactoryReset

namespace ZbLightbulb

open BoolStream

namespace DongleState

section Reads

variable (s : DongleState) (ticks : Nat → Tick) (b : GpioDtSpec)

/-- No read of `b` returns 1: it is 0 or an error code. -/
def NeverActive : Prop :=
  ∀ n, (ticks n).gpioPinGetDt b ≤ 0

/-- The read of `b` in iteration `n` fails. -/
def ReadFails (n : Nat) : Prop :=
  (ticks n).gpioPinGetDt b < 0

/-- In iteration `n` the handler of `b` is not debounced-pressed, and `main`
neither sends a command nor steps the level nor resets the network for it. -/
structure IgnoredAt (n : Nat) : Prop where
  unpressed : s.debouncedAt ticks b n = false
  unhandled : ∀ press ∈ s.pressesAt ticks n, press.button ≠ b
  unstepped : b = .nwkRstBtn → (s.stateAt ticks (n + 1)).bulb =
    (((ticks n).betweenIterations ++ (ticks n).duringSleep).foldl deliver
      (s.stateAt ticks n)).bulb

end Reads

variable {s : DongleState} {ticks : Nat → Tick} {b : GpioDtSpec}

theorem sampleAt_eq_true_iff (hread : NeverActive ticks b) (n : Nat) :
    ButtonPressHandler.sampleAt b (fun m => (ticks m).gpioPinGetDt) n = true ↔
      ReadFails ticks b n := by
  have hle := hread n
  simp only [ButtonPressHandler.sampleAt, ButtonPressHandler.isButtonPressed,
    bne_iff_ne, ReadFails]
  omega

/-- A handler that is never debounced-pressed has nothing to act on. -/
theorem ignoredAt_of_unpressed
    (hlow : ∀ n, s.debouncedAt ticks b n = false) (n : Nat) :
    s.IgnoredAt ticks b n := by
  have hnot : ¬ ((s.stateAt ticks n).handler b).Completing
      (ticks n).gpioPinGetDt := by
    intro hending
    exact absurd (hending.1.symm.trans (hlow n)) (by decide)
  refine ⟨hlow n, ?_, ?_⟩
  · intro press hmem hbutton
    exact hnot ((s.exists_press_iff ticks).mp ⟨press, hmem, hbutton⟩)
  · intro hnwk
    subst hnwk
    apply iteration_bulb
    apply ((s.handler_ready ticks .nwkRstBtn n).completedPress_eq_none_iff
      runLedBlinkInterval_pos).mpr
    rw [ButtonPressHandler.poll_falls_iff]
    exact hnot

/-- The third of three pressed samples is the first that passes 100 ms. -/
theorem debouncedAt_low_iff :
    (∀ n, s.debouncedAt ticks b n = false) ↔ ∀ n, streak true
      (ButtonPressHandler.sampleAt b fun m => (ticks m).gpioPinGetDt) n ≤
        2 := by
  simp only [debouncedAt_eq, ButtonPressHandler.debouncedAt_eq
    runLedBlinkInterval_pos]
  rw [Debouncer.levelAt_low_iff rfl rfl]
  apply forall_congr'
  intro n
  simp only [ButtonPressHandler.debouncer,
    show runLedBlinkInterval = 25 from rfl]
  omega

/-- The error code becomes `true` on its way through `bool`.  A button whose
reads are never 1 is ignored exactly if no three reads in a row fail. -/
theorem ignored_iff (hread : NeverActive ticks b) :
    (∀ n, s.IgnoredAt ticks b n) ↔
      ∀ n, ¬ (ReadFails ticks b n ∧ ReadFails ticks b (n + 1) ∧
        ReadFails ticks b (n + 2)) := by
  have hignored : (∀ n, s.IgnoredAt ticks b n) ↔
      ∀ n, s.debouncedAt ticks b n = false :=
    ⟨fun h n => (h n).unpressed, ignoredAt_of_unpressed⟩
  rw [hignored, debouncedAt_low_iff]
  simp only [← sampleAt_eq_true_iff hread]
  rw [streak_le_iff]
  apply forall_congr'
  intro n
  apply not_congr
  constructor
  · intro hall
    exact ⟨hall 0 (by decide), hall 1 (by decide), hall 2 (by decide)⟩
  · intro hfails i hi
    rcases hfails with ⟨hzero, hone, htwo⟩
    have hi : i = 0 ∨ i = 1 ∨ i = 2 := by omega
    rcases hi with rfl | rfl | rfl
    · exact hzero
    · exact hone
    · exact htwo

/-- Every second read of external button 2 fails. -/
theorem ignored_every_second :
    let ticks : Nat → Tick := fun n =>
      { idleTick with gpioPinGetDt := fun gpio =>
          if gpio = .extBtn2 ∧ n % 2 = 0 then -5 else 0 }
    NeverActive ticks .extBtn2 ∧ ∀ n, (boot (fun gpio => .clean gpio 25)
      ⟨0, 0⟩).IgnoredAt ticks .extBtn2 n := by
  intro ticks
  have hread : NeverActive ticks .extBtn2 := by
    intro n
    simp only [ticks]
    split <;> decide
  refine ⟨hread, (ignored_iff hread).mpr ?_⟩
  intro n hfails
  simp only [ReadFails, ticks, true_and] at hfails
  split_ifs at hfails <;> omega

/-- Four reads of external button 2 fail, the next five return 0: a press of
150 ms completes and its command is sent. -/
theorem not_ignored_four_errors :
    ¬ ∀ s ticks b, NeverActive ticks b → ∀ n, IgnoredAt s ticks b n := by
  intro h
  let ticks : Nat → Tick := fun n =>
    { idleTick with gpioPinGetDt := fun gpio =>
        if gpio = .extBtn2 ∧ n < 4 then -5 else 0 }
  have hread : NeverActive ticks .extBtn2 := by
    intro n
    simp only [ticks]
    split <;> decide
  have hpulse : Pulse (ButtonPressHandler.debouncedAt runLedBlinkInterval
      .extBtn2 fun m => (ticks m).gpioPinGetDt) 2 8 := by
    apply pulse_of_reads (n := 4) (by decide) (show (-5 : Int) ≠ 0 by decide)
    intro i
    simp [ticks]
  have hpress := (ButtonPressHandler.pressAt_eq_some_iff
    runLedBlinkInterval_pos).mpr ⟨2, hpulse, rfl⟩
  let s := boot (fun gpio => .clean gpio 25) ⟨0, 0⟩
  have hmem : ⟨.extBtn2, actionOf (ticks 8) _ .extBtn2⟩ ∈ s.pressesAt ticks 8 :=
    (s.mem_pressesAt ticks).mpr ⟨_, hpress, rfl⟩
  exact (h s ticks .extBtn2 hread 8).unhandled _ hmem rfl

end DongleState

end ZbLightbulb
