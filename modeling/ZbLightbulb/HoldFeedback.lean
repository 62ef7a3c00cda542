/-
What the user is shown while the network button is held, against what `main`
does when it is let go: the feedback reads the running press timer, the action
the duration that counts the poll of the fall too.
-/
import ZbLightbulb.DisplayOff

namespace ZbLightbulb

open BoolStream

namespace DongleState

variable (s : DongleState) (ticks : Nat → Tick)

/-- `main` acts on a long press of the network button in iteration `n`: it flips
the status display or resets the network. -/
def LongPressAt (n : Nat) : Prop :=
  ∃ press ∈ s.pressesAt ticks n, press.button = .nwkRstBtn ∧
    (press.action = .statusFlip ∨ press.action = .zbBdbResetViaLocalAction)

/-- `temp_status_on` is set at the end of an iteration between two debounced
edges. -/
def ShownWithin (rise fall : Nat) : Prop :=
  ∃ n, rise ≤ n ∧ n ≤ fall ∧ (s.stateAt ticks (n + 1)).tempStatusOn = true

/-- Every press of the network button is treated as a long one exactly if the
feedback was shown while it lasted. -/
def FeedbackAgrees : Prop :=
  ∀ rise fall, Pulse (s.debouncedAt ticks .nwkRstBtn) rise fall →
    (s.LongPressAt ticks fall ↔ s.ShownWithin ticks rise fall)

variable {s ticks} {rise fall : Nat}

theorem tempStatusOn_succ (n : Nat) :
    (s.stateAt ticks (n + 1)).tempStatusOn =
      (s.debouncedAt ticks .nwkRstBtn (n + 1) &&
        decide (1000 < ((s.stateAt ticks (n + 1)).handler
          .nwkRstBtn).pressTimerMs)) := by
  have hfeedback := (s.stateAt ticks n).display.step_feedback
    (ticks n).gpioPinGetDt
  rw [← iteration_display] at hfeedback
  exact hfeedback

theorem pressTimerMs_of_pulse
    (hpulse : Pulse (s.debouncedAt ticks .nwkRstBtn) rise fall) {n : Nat}
    (hrise : rise < n) (hfall : n ≤ fall) :
    ((s.stateAt ticks n).handler .nwkRstBtn).pressTimerMs =
      25 * (n - rise - 1 : Int) := by
  rw [debouncedAt_eq] at hpulse
  rw [stateAt_handler]
  exact ButtonPressHandler.handlerAt_pressTimerMs runLedBlinkInterval_pos
    hpulse.low (fun i hi hle => hpulse.high i hi (hle.trans hfall)) hrise

/-- The action compares the time between the edges. -/
theorem longPressAt_iff
    (hpulse : Pulse (s.debouncedAt ticks .nwkRstBtn) rise fall) :
    s.LongPressAt ticks fall ↔ 1000 < 25 * (fall - rise : Int) := by
  have hpress : ButtonPressHandler.pressAt runLedBlinkInterval .nwkRstBtn
      (fun m => (ticks m).gpioPinGetDt) fall =
        some (25 * (fall - rise : Int)) := by
    rw [debouncedAt_eq] at hpulse
    exact (ButtonPressHandler.pressAt_eq_some_iff
      runLedBlinkInterval_pos).mpr ⟨rise, hpulse, rfl⟩
  constructor
  · intro hlong
    rcases hlong with ⟨press, hmem, hbutton, haction⟩
    rcases (s.mem_pressesAt ticks).mp hmem with ⟨duration, hduration, heq⟩
    rw [hbutton] at hduration heq
    rw [hpress, Option.some.injEq] at hduration
    by_contra hshort
    have hreset : ¬ 8000 < 25 * (fall - rise : Int) := by omega
    rw [heq, ← hduration] at haction
    simp [actionOf, hshort, hreset] at haction
  · intro hlong
    refine ⟨⟨.nwkRstBtn, actionOf (ticks fall) _ .nwkRstBtn⟩,
      (s.mem_pressesAt ticks).mpr ⟨_, hpress, rfl⟩, rfl, ?_⟩
    by_cases hreset : 8000 < 25 * (fall - rise : Int)
    · right
      simp only [actionOf, if_pos hreset]
    · left
      simp only [actionOf, if_neg hreset, if_pos hlong]

/-- The feedback compares the press timer, which lacks the poll of the fall. -/
theorem shownWithin_iff
    (hpulse : Pulse (s.debouncedAt ticks .nwkRstBtn) rise fall) :
    s.ShownWithin ticks rise fall ↔ 1000 < 25 * (fall - rise - 1 : Int) := by
  have hlt := hpulse.lt
  constructor
  · intro hshown
    rcases hshown with ⟨n, hrise, hfall, hon⟩
    rw [tempStatusOn_succ, Bool.and_eq_true, decide_eq_true_iff] at hon
    rcases hon with ⟨hheld, htimer⟩
    have hn : n + 1 ≤ fall := by
      by_contra hend
      rw [show n = fall by omega, hpulse.falls] at hheld
      contradiction
    rw [pressTimerMs_of_pulse hpulse (Nat.lt_succ_of_le hrise) hn] at htimer
    omega
  · intro hlong
    rcases Nat.exists_eq_add_one_of_ne_zero (Nat.ne_zero_of_lt hlt) with
      ⟨last, hlast⟩
    refine ⟨last, by omega, by omega, ?_⟩
    rw [tempStatusOn_succ, ← hlast, hpulse.high_last,
      pressTimerMs_of_pulse hpulse hlt (Nat.le_refl fall),
      decide_eq_true hlong]
    rfl

/-- The feedback agrees with the action exactly if no press of the network
button ends in an iteration that starts with the press timer at 1000 ms: this
last poll makes it a long press that was never shown. -/
theorem feedbackAgrees_iff (s : DongleState) (ticks : Nat → Tick) :
    s.FeedbackAgrees ticks ↔ ∀ n,
      ((s.stateAt ticks n).handler .nwkRstBtn).Completing
          (ticks n).gpioPinGetDt →
        ((s.stateAt ticks n).handler .nwkRstBtn).pressTimerMs ≠ 1000 := by
  constructor
  · intro hagrees n hending htimer
    have hfalls := ButtonPressHandler.poll_falls_iff.mpr hending
    rw [← (iteration_spec (ticks n) (s.stateAt ticks n)).1] at hfalls
    rcases exists_pulse (y := s.debouncedAt ticks .nwkRstBtn) rfl hfalls.1
      hfalls.2 with ⟨rise, hpulse⟩
    rw [pressTimerMs_of_pulse hpulse hpulse.lt (Nat.le_refl n)] at htimer
    have hlong := (longPressAt_iff hpulse).mpr (by omega)
    have hshown := (shownWithin_iff hpulse).mp
      ((hagrees rise n hpulse).mp hlong)
    omega
  · intro hnever rise fall hpulse
    have hending : ((s.stateAt ticks fall).handler .nwkRstBtn).Completing
        (ticks fall).gpioPinGetDt := by
      apply ButtonPressHandler.poll_falls_iff.mp
      rw [← (iteration_spec (ticks fall) (s.stateAt ticks fall)).1]
      exact ⟨hpulse.high_last, hpulse.falls⟩
    have htimer := hnever fall hending
    rw [pressTimerMs_of_pulse hpulse hpulse.lt (Nat.le_refl fall)] at htimer
    rw [longPressAt_iff hpulse, shownWithin_iff hpulse]
    omega

/-- The button is held for 39 samples: the press takes 1025 ms and flips the
display, but the press timer has not passed 1000 ms while it lasted. -/
theorem not_feedbackAgrees_1025 :
    ¬ ∀ (s : DongleState) (ticks : Nat → Tick), s.FeedbackAgrees ticks := by
  intro h
  let ticks : Nat → Tick := fun n =>
    { betweenIterations := []
      duringSleep := []
      gpioPinGetDt := fun _ => if n < 39 then 1 else 0
      zbBufGetOutDelayedExt := fun _ => 0 }
  let s := boot (fun gpio => .clean gpio 25) ⟨0, 0⟩
  have hpulse : Pulse (s.debouncedAt ticks .nwkRstBtn) 2 (39 + 4) := by
    rw [debouncedAt_eq]
    exact pulse_of_reads (by decide) Int.one_ne_zero fun _ => rfl
  have hlong := (longPressAt_iff hpulse).mpr (by decide)
  have hshown := (shownWithin_iff hpulse).mp ((h s ticks 2 43 hpulse).mp hlong)
  revert hshown
  decide

end DongleState

end ZbLightbulb
