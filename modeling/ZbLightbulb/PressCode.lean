/-
What is pressed is what is done.  A button that is held and then left alone
for six polls is back in its first state, so a whole list of holds is decoded
hold by hold, each button by itself.  The runs of `main` start with clean
handlers.
-/
import ZbLightbulb.Dispatch
import ZbLightbulb.Lib.Outputs

namespace ZbLightbulb

namespace ButtonPressHandler

/-- One poll on a sample, with the duration `main` reads, if any. -/
def pollSample (h : ButtonPressHandler) (pressed : Bool) :
    ButtonPressHandler × List Int :=
  let gpioPinGetDt := fun _ => if pressed then 1 else 0
  (h.poll gpioPinGetDt, (h.completedPress gpioPinGetDt).toList)

/-- A poll sees no more of the pins than its sample. -/
theorem pollSample_isButtonPressed (gpioPinGetDt : GpioDtSpec → Int)
    (h : ButtonPressHandler) :
    h.pollSample (isButtonPressed gpioPinGetDt h.gpio) =
      (h.poll gpioPinGetDt, (h.completedPress gpioPinGetDt).toList) := by
  have hsample : isButtonPressed (fun _ =>
      if isButtonPressed gpioPinGetDt h.gpio then 1 else 0) h.gpio =
        isButtonPressed gpioPinGetDt h.gpio := by
    cases hpressed : isButtonPressed gpioPinGetDt h.gpio <;> rfl
  simp only [pollSample, poll, completedPress, getDebouncedPress, hsample]

theorem handlerAt_gpio (p : Int) (gpio : GpioDtSpec)
    (reads : Nat → GpioDtSpec → Int) (n : Nat) :
    (handlerAt p gpio reads n).gpio = gpio :=
  Runs.stateAt_invariant (fun h => h.gpio = gpio) rfl
    (fun h pins heq => (poll_gpio pins h).trans heq) reads n

/-- A run of the handler, as a machine on its samples. -/
theorem emit_pollSample (p : Int) (gpio : GpioDtSpec)
    (reads : Nat → GpioDtSpec → Int) (n : Nat) :
    Runs.emit pollSample (clean gpio p)
        ((List.range n).map (sampleAt gpio reads)) =
      (handlerAt p gpio reads n,
        (List.range n).flatMap fun m => (pressAt p gpio reads m).toList) := by
  induction n with
  | zero => rfl
  | succ n ih =>
      have hpoll := pollSample_isButtonPressed (reads n)
        (handlerAt p gpio reads n)
      rw [handlerAt_gpio] at hpoll
      rw [List.range_succ, List.map_append, List.map_singleton,
        Runs.emit_append, ih, List.flatMap_append, List.flatMap_singleton,
        Runs.emit_cons, sampleAt, hpoll]
      simp only [Runs.emit, List.append_nil]
      rfl

/-- The presses of a handler are those of its samples. -/
theorem pressAt_congr {p : Int} {gpio : GpioDtSpec}
    {reads reads' : Nat → GpioDtSpec → Int} {n : Nat}
    (hsame : ∀ m ≤ n, sampleAt gpio reads m = sampleAt gpio reads' m) :
    pressAt p gpio reads n = pressAt p gpio reads' n := by
  have hsamples : (List.range n).map (sampleAt gpio reads) =
      (List.range n).map (sampleAt gpio reads') :=
    List.map_congr_left fun m hm =>
      hsame m (Nat.le_of_lt (List.mem_range.mp hm))
  have hrun := emit_pollSample p gpio reads n
  rw [hsamples, emit_pollSample, Prod.mk.injEq] at hrun
  have hpoll := pollSample_isButtonPressed (reads n) (handlerAt p gpio reads n)
  have hpoll' := pollSample_isButtonPressed (reads' n)
    (handlerAt p gpio reads' n)
  rw [handlerAt_gpio] at hpoll hpoll'
  have hsample := hsame n (Nat.le_refl n)
  simp only [sampleAt] at hsample
  rw [hsample, ← hrun.1, hpoll', Prod.mk.injEq] at hpoll
  have hhead := congrArg List.head? hpoll.2
  rw [Option.head?_toList, Option.head?_toList] at hhead
  rw [pressAt, ← hrun.1]
  exact hhead.symm

/-! ### The branches of a poll on a sample -/

section Branches

variable {h : ButtonPressHandler}

/-- The pins on which `poll_sample` polls. -/
theorem isButtonPressed_sample (pressed : Bool) :
    isButtonPressed (fun _ => if pressed then 1 else 0) h.gpio = pressed := by
  cases pressed <;> rfl

/-- A poll that leaves the press handled reports nothing. -/
theorem pollSample_of_handled {sample : Bool} {h' : ButtonPressHandler}
    (hpoll : h.getDebouncedPress (fun _ => if sample then 1 else 0) = h')
    (hhandled : h'.pressHandled = true) : h.pollSample sample = (h', []) := by
  simp only [pollSample, poll, completedPress, hasCompletedPress, hpoll,
    hhandled]
  rfl

/-- A poll that ends a press reports it, and `main` marks it handled. -/
theorem pollSample_of_complete (hdeb : h.isDebounced = true)
    (hlimit : 100 < h.debounceTimerMs + h.pollIntervalMs)
    (hpos : 0 < h.pressTimerMs + h.pollIntervalMs) :
    h.pollSample false =
      ({ h with
        debounceTimerMs := h.debounceTimerMs + h.pollIntervalMs
        isDebounced := false
        pressHandled := true
        completedButtonPressThresh := 0
        pressTimerMs := 0 }, [h.pressTimerMs + h.pollIntervalMs]) := by
  have hpoll : h.getDebouncedPress (fun _ => if false then 1 else 0) = _ :=
    getDebouncedPress_of_complete (isButtonPressed_sample false) hdeb hlimit
  simp only [pollSample, poll, completedPress, hasCompletedPress]
  rw [hpoll]
  simp [hpos, setButtonPressHandled]

end Branches

/-! ### One hold -/

/-- A button held for `hold` polls and then released for `release`. -/
structure Gesture where
  hold : Nat
  release : Nat
  settles : 6 ≤ release

/-- What the pin reads, poll by poll. -/
def Gesture.samples (g : Gesture) : List Bool :=
  List.replicate g.hold true ++ List.replicate g.release false

/-- The duration that is measured.  Two pressed samples are no press; three are
a press that the first released sample ends. -/
def Gesture.duration (g : Gesture) : Option Int :=
  if g.hold < 3 then none
  else if g.hold = 3 then some 25
  else some (25 * (g.hold + 2))

section Decode

variable (gpio : GpioDtSpec)

/-- Before the press is debounced, with `timer` in the debounce timer. -/
def pressing (timer : Int) : ButtonPressHandler :=
  { clean gpio 25 with debounceTimerMs := timer }

/-- While a debounced press lasts. -/
def pressed (timer held : Int) : ButtonPressHandler :=
  { clean gpio 25 with
    debounceTimerMs := timer, isDebounced := true, pressTimerMs := held }

theorem pollSample_pressing (timer : Int) (hlimit : timer + 50 ≤ 100) :
    (pressing gpio timer).pollSample true =
      (pressing gpio (timer + 50), []) := by
  apply pollSample_of_handled
  · rw [getDebouncedPress_of_press rfl rfl]
    simp [pressing, clean, Int.not_lt.mpr hlimit]
  · rfl

theorem pollSample_presses :
    (pressing gpio 100).pollSample true = (pressed gpio 150 0, []) :=
  pollSample_of_handled (getDebouncedPress_of_press rfl rfl) rfl

/-- A released sample clears the debounce timer of a button that is not down. -/
theorem pollSample_pressing_false (timer : Int) :
    (pressing gpio timer).pollSample false = (clean gpio 25, []) :=
  pollSample_of_handled (getDebouncedPress_of_agree rfl) rfl

theorem pollSample_pressed_true (timer held : Int) :
    (pressed gpio timer held).pollSample true =
      (pressed gpio 0 (held + 25), []) :=
  pollSample_of_handled (getDebouncedPress_of_agree rfl) rfl

theorem pollSample_releases (timer held : Int) (hlimit : timer + 25 ≤ 100) :
    (pressed gpio timer held).pollSample false =
      (pressed gpio (timer + 25) (held + 25), []) :=
  pollSample_of_handled (getDebouncedPress_of_release rfl rfl hlimit) rfl

theorem pollSample_ends (timer held : Int) (hlimit : 100 < timer + 25)
    (hheld : 0 ≤ held) :
    (pressed gpio timer held).pollSample false =
      (pressing gpio (timer + 25), [held + 25]) :=
  have hpos : (0 : Int) < held + 25 := by omega
  pollSample_of_complete rfl hlimit hpos

/-! Held for `n` polls, and then released for six. -/

theorem emit_pressing (n : Nat) (hshort : n < 3) :
    Runs.emit pollSample (clean gpio 25) (List.replicate n true) =
      (pressing gpio (50 * n), []) := by
  induction n with
  | zero => rfl
  | succ n ih =>
      have hlimit : (50 : Int) * n + 50 ≤ 100 := by omega
      rw [List.replicate_succ', Runs.emit_append, ih (by omega),
        Runs.emit_cons, pollSample_pressing gpio _ hlimit]
      simp only [Runs.emit, Nat.cast_add, Nat.cast_one, mul_add, mul_one,
        List.append_nil]

theorem emit_presses :
    Runs.emit pollSample (clean gpio 25) (List.replicate 3 true) =
      (pressed gpio 150 0, []) := by
  rw [List.replicate_succ', Runs.emit_append, emit_pressing gpio 2 (by decide),
    Runs.emit_cons]
  have hpress := pollSample_presses gpio
  simp only [Nat.cast_ofNat, Int.reduceMul]
  rw [hpress]
  rfl

theorem emit_pressed (n : Nat) :
    Runs.emit pollSample (clean gpio 25) (List.replicate (n + 4) true) =
      (pressed gpio 0 (25 * (n + 1)), []) := by
  induction n with
  | zero =>
      rw [List.replicate_succ', Runs.emit_append, emit_presses,
        Runs.emit_cons, pollSample_pressed_true]
      rfl
  | succ n ih =>
      have hheld : 25 * ((n : Int) + 1) + 25 = 25 * ((n + 1 : Nat) + 1) := by
        push_cast
        ring
      rw [Nat.succ_add, List.replicate_succ', Runs.emit_append, ih,
        Runs.emit_cons, pollSample_pressed_true, hheld]
      rfl

theorem emit_idle (n : Nat) :
    Runs.emit pollSample (clean gpio 25) (List.replicate n false) =
      (clean gpio 25, []) :=
  Runs.emit_replicate_silent (pollSample_pressing_false gpio 0) n

theorem emit_unpressed (timer : Int) :
    Runs.emit pollSample (pressing gpio timer) (List.replicate 6 false) =
      (clean gpio 25, []) := by
  rw [List.replicate_succ, Runs.emit_cons, pollSample_pressing_false,
    emit_idle]
  rfl

/-- The first released sample ends a press that still has its 150 ms in the
debounce timer. -/
theorem emit_ends_first :
    Runs.emit pollSample (pressed gpio 150 0) (List.replicate 6 false) =
      (clean gpio 25, [25]) := by
  rw [List.replicate_succ, Runs.emit_cons,
    pollSample_ends gpio 150 0 (by decide) (by decide), List.replicate_succ,
    Runs.emit_cons, pollSample_pressing_false, emit_idle]
  rfl

/-- The fifth released sample ends the press and the sixth clears what that left
in the timer. -/
theorem emit_released (held : Int) (hheld : 0 ≤ held) :
    Runs.emit pollSample (pressed gpio 0 held) (List.replicate 6 false) =
      (clean gpio 25, [held + 125]) := by
  have hsum : held + 25 + 25 + 25 + 25 + 25 = held + 125 := by ring
  simp only [List.replicate_succ, List.replicate_zero, Runs.emit_cons]
  rw [pollSample_releases gpio 0 held (by decide),
    pollSample_releases gpio (0 + 25) _ (by decide),
    pollSample_releases gpio (0 + 25 + 25) _ (by decide),
    pollSample_releases gpio (0 + 25 + 25 + 25) _ (by decide),
    pollSample_ends gpio (0 + 25 + 25 + 25 + 25) _ (by decide) (by omega),
    pollSample_pressing_false, hsum]
  rfl

/-- A handler at rest decodes a hold and is at rest again. -/
theorem emit_gesture (g : Gesture) :
    Runs.emit pollSample (clean gpio 25) g.samples =
      (clean gpio 25, g.duration.toList) := by
  obtain ⟨hold, release, hsettles⟩ := g
  obtain ⟨rest, rfl⟩ := Nat.exists_eq_add_of_le hsettles
  rw [Gesture.samples, List.replicate_add, Runs.emit_append, Runs.emit_append]
  rcases Nat.lt_trichotomy hold 3 with hshort | rfl | hlong
  · rw [emit_pressing gpio hold hshort, emit_unpressed, emit_idle,
      Gesture.duration, if_pos hshort]
    rfl
  · rw [emit_presses, emit_ends_first, emit_idle]
    rfl
  · obtain ⟨n, rfl⟩ := Nat.exists_eq_add_of_le' (Nat.succ_le_of_lt hlong)
    have hpress : ¬ n + 4 < 3 := by omega
    have hfour : ¬ n + 4 = 3 := by omega
    have hheld : (0 : Int) ≤ 25 * (n + 1) := by positivity
    have hduration : (25 : Int) * (n + 1) + 125 = 25 * ((n + 4 : Nat) + 2) := by
      push_cast
      ring
    rw [emit_pressed, emit_released gpio _ hheld, emit_idle, Gesture.duration,
      if_neg hpress, if_neg hfour, hduration]
    rfl

theorem emit_gestures (gestures : List Gesture) :
    Runs.emit pollSample (clean gpio 25) (gestures.flatMap Gesture.samples) =
      (clean gpio 25, gestures.filterMap Gesture.duration) := by
  induction gestures with
  | nil => rfl
  | cons g gestures ih =>
      rw [List.flatMap_cons, Runs.emit_append, emit_gesture, ih]
      cases hduration : g.duration with
      | none => rw [List.filterMap_cons_none hduration]; rfl
      | some duration => rw [List.filterMap_cons_some hduration]; rfl

/-- If the pin reads a list of holds, the reported durations are theirs. -/
theorem pressAt_gestures {reads : Nat → GpioDtSpec → Int} {n : Nat}
    {gestures : List Gesture}
    (hreads : (List.range n).map (sampleAt gpio reads) =
      gestures.flatMap Gesture.samples) :
    ((List.range n).flatMap fun m => (pressAt 25 gpio reads m).toList) =
      gestures.filterMap Gesture.duration := by
  have hrun := emit_pollSample 25 gpio reads n
  rw [hreads, emit_gestures, Prod.mk.injEq] at hrun
  exact hrun.2.symm

end Decode

/-- Every poll in which a press is debounced counts in one reported duration or
in the press timer, and no other poll counts. -/
theorem durations_accounted {p : Int} (hp : 0 < p) (gpio : GpioDtSpec)
    (reads : Nat → GpioDtSpec → Int) (n : Nat) :
    ((List.range n).flatMap fun m => (pressAt p gpio reads m).toList).sum +
        (handlerAt p gpio reads n).pressTimerMs =
      p * (List.range n).countP (debouncedAt p gpio reads) := by
  induction n with
  | zero => simp [handlerAt, clean]
  | succ n ih =>
      rw [List.range_succ, List.flatMap_append, List.flatMap_singleton,
        List.sum_append, List.countP_append, List.countP_singleton,
        handlerAt_succ]
      push_cast
      rw [mul_add, ← ih]
      rcases ((handlerAt_ready hp n).poll_cases hp (reads n)).2 with
        hcont | hcomp
      · rw [pressAt, hcont.unreported, hcont.timer_eq, debouncedAt]
        split
        · simp
          ring
        · simp
      · have htimer := ((handlerAt_ready hp n).poll hp (reads n)).timer_idle
          hcomp.released
        rw [pressAt, hcomp.reported, htimer, debouncedAt, hcomp.held]
        simp
        ring

theorem durations_accounted_taps :
    ((List.range 60).flatMap fun m => (pressAt 25 .extBtn1
          (fun n _ => if n % 12 < 5 then 1 else 0) m).toList).sum +
        (handlerAt 25 .extBtn1
          (fun n _ => if n % 12 < 5 then 1 else 0) 60).pressTimerMs =
      25 * (List.range 60).countP (debouncedAt 25 .extBtn1
        fun n _ => if n % 12 < 5 then 1 else 0) :=
  durations_accounted (by decide) .extBtn1 _ 60

end ButtonPressHandler

namespace DongleState

open ButtonPressHandler

variable (s : DongleState) (ticks : Nat → Tick)

/-- The presses of `b` that `main` has acted on before iteration `n`. -/
def pressesOf (b : GpioDtSpec) (n : Nat) : List Press :=
  (s.pressesBefore ticks n).filter fun press => decide (press.button = b)

/-- The press of `b` in iteration `m`, if any. -/
def pressOfAt (b : GpioDtSpec) (m : Nat) : Option Press :=
  (pressAt runLedBlinkInterval b (fun m => (ticks m).gpioPinGetDt) m).map
    fun duration => ⟨b, actionOf (ticks m) duration b⟩

theorem filter_pressesAt (b : GpioDtSpec) (m : Nat) :
    (s.pressesAt ticks m).filter (fun press => decide (press.button = b)) =
      (pressOfAt ticks b m).toList := by
  have hown : ∀ b', ((pressOfAt ticks b' m).filter fun press =>
      decide (press.button = b)) =
        if b' = b then pressOfAt ticks b' m else none := by
    intro b'
    rw [pressOfAt]
    cases pressAt runLedBlinkInterval b'
        (fun m => (ticks m).gpioPinGetDt) m with
    | none => simp
    | some duration => by_cases h : b' = b <;> simp [Option.filter, h]
  have hpresses : s.pressesAt ticks m =
      buttons.filterMap fun b' => pressOfAt ticks b' m :=
    s.pressesAt_eq ticks m
  rw [hpresses, List.filter_filterMap]
  simp only [hown]
  cases b <;> simp [buttons, List.filterMap_cons] <;> split <;> simp [*]

theorem pressesOf_eq (b : GpioDtSpec) (n : Nat) :
    s.pressesOf ticks b n =
      (List.range n).flatMap fun m => (pressOfAt ticks b m).toList := by
  rw [pressesOf, pressesBefore, List.filter_flatMap]
  simp only [filter_pressesAt]

/-- The duration a gesture stands for, and how `main` has acted on it. -/
def Decodes (b : GpioDtSpec) (n : Nat) (duration : Int) (press : Press) :
    Prop :=
  press.button = b ∧ ∃ m < n,
    HandledAs ((ticks m).zbBufGetOutDelayedExt b) duration b press.action

theorem pressesOf_durations (b : GpioDtSpec) (n : Nat) :
    List.Forall₂ (Decodes ticks b n)
      ((List.range n).flatMap fun m =>
        (pressAt runLedBlinkInterval b
          (fun m => (ticks m).gpioPinGetDt) m).toList)
      (s.pressesOf ticks b n) := by
  rw [pressesOf_eq]
  induction n with
  | zero => exact List.Forall₂.nil
  | succ n ih =>
      rw [List.range_succ, List.flatMap_append, List.flatMap_append,
        List.flatMap_singleton, List.flatMap_singleton, pressOfAt]
      apply List.rel_append
      · apply ih.imp
        rintro duration press ⟨hbutton, m, hm, hhandled⟩
        exact ⟨hbutton, m, Nat.lt_succ_of_lt hm, hhandled⟩
      · cases pressAt runLedBlinkInterval b
            (fun m => (ticks m).gpioPinGetDt) n with
        | none => exact List.Forall₂.nil
        | some duration =>
            apply List.Forall₂.cons _ List.Forall₂.nil
            exact ⟨rfl, n, Nat.lt_succ_self n,
              actionOf_handledAs (ticks n) duration b⟩

/-- If the pin of `b` reads a list of holds, each followed by six released
polls or more, the presses of `b` are these holds less those of under three
polls: one for one, in order, each handled by its duration, whatever the other
pins read and the stack does. -/
theorem pressesOf_gestures (b : GpioDtSpec) (gestures : List Gesture) (n : Nat)
    (hreads : (List.range n).map
        (sampleAt b fun m => (ticks m).gpioPinGetDt) =
      gestures.flatMap Gesture.samples) :
    List.Forall₂ (Decodes ticks b n) (gestures.filterMap Gesture.duration)
      (s.pressesOf ticks b n) := by
  rw [← pressAt_gestures b hreads]
  exact s.pressesOf_durations ticks b n

/-- External button 2 is tapped for 100 ms, and then held for 1125 ms while
button 1 bounces. -/
theorem pressesOf_gestures_two :
    let ticks : Nat → Tick := fun n =>
      { betweenIterations := []
        duringSleep := []
        gpioPinGetDt := fun gpio =>
          if gpio = .extBtn2 then if n < 4 ∨ 10 ≤ n ∧ n < 55 then 1 else 0
          else if gpio = .extBtn1 then n % 2 else 0
        zbBufGetOutDelayedExt := fun _ => retOk }
    List.Forall₂ (Decodes ticks .extBtn2 61) [150, 1175]
      ((boot (fun gpio => .clean gpio 25)
        { ledPulse := 0, pinPulse := 0 }).pressesOf ticks .extBtn2 61) :=
  pressesOf_gestures _ _ .extBtn2
    [⟨4, 6, Nat.le_refl 6⟩, ⟨45, 6, Nat.le_refl 6⟩] 61 (by decide)

theorem actionOf_congr {tick tick' : Tick} {b : GpioDtSpec}
    (hbuf : tick.zbBufGetOutDelayedExt b = tick'.zbBufGetOutDelayedExt b)
    (duration : Int) :
    actionOf tick duration b = actionOf tick' duration b := by
  cases b <;> simp only [actionOf, hbuf]

/-- Two runs in which the pin of `b` reads the same and the stack answers the
same to `b` have the same presses of `b`, whatever else differs, what they start
from but for the clean handlers too. -/
theorem pressesOf_congr (s' : DongleState) (ticks' : Nat → Tick)
    (b : GpioDtSpec) (n : Nat)
    (hpin : ∀ m < n, isButtonPressed (ticks m).gpioPinGetDt b =
      isButtonPressed (ticks' m).gpioPinGetDt b)
    (hbuf : ∀ m < n, (ticks m).zbBufGetOutDelayedExt b =
      (ticks' m).zbBufGetOutDelayedExt b) :
    s.pressesOf ticks b n = s'.pressesOf ticks' b n := by
  rw [pressesOf_eq, pressesOf_eq]
  apply List.flatMap_congr
  intro m hm
  have hmn := List.mem_range.mp hm
  have hpress : pressAt runLedBlinkInterval b
      (fun m => (ticks m).gpioPinGetDt) m =
        pressAt runLedBlinkInterval b (fun m => (ticks' m).gpioPinGetDt) m :=
    pressAt_congr fun i hi => hpin i (Nat.lt_of_le_of_lt hi hmn)
  rw [pressOfAt, pressOfAt, hpress]
  simp only [actionOf_congr (hbuf m hmn)]

/-- Button 1 is held in one run and left alone in the other. -/
theorem pressesOf_congr_held :
    let ticks : Int → Nat → Tick := fun extBtn1 n =>
      { betweenIterations := []
        duringSleep := []
        gpioPinGetDt := fun gpio =>
          if gpio = .extBtn2 then if n < 4 then 1 else 0
          else if gpio = .extBtn1 then extBtn1 else 0
        zbBufGetOutDelayedExt := fun _ => retOk }
    let s := boot (fun gpio => .clean gpio 25) { ledPulse := 0, pinPulse := 0 }
    s.pressesOf (ticks 1) .extBtn2 10 = s.pressesOf (ticks 0) .extBtn2 10 :=
  pressesOf_congr _ _ _ _ .extBtn2 10 (fun _ _ => rfl) fun _ _ => rfl

end DongleState

end ZbLightbulb
