/-
Runs of one handler under the polls of `main`: what is true before every poll,
which polls report a press and how long the press was, and which released
blocks end a hold.
-/
import ZbLightbulb.ButtonPressHandler

namespace ZbLightbulb

open BoolStream

namespace ButtonPressHandler

/-- A handler as a run starts with it. -/
def clean (gpio : GpioDtSpec) (pollIntervalMs : Int) : ButtonPressHandler where
  gpio := gpio
  pressTimerMs := 0
  debounceTimerMs := 0
  pollIntervalMs := pollIntervalMs
  completedButtonPressThresh := 0
  isDebounced := false
  pressHandled := true

/-- `get_button_press_handler` and the two assignments in `main` give a clean
handler if the memory they leave alone holds `false`. -/
theorem getButtonPressHandler_clean {uninit : ButtonPressHandler}
    (hdeb : uninit.isDebounced = false) (button gpio : GpioDtSpec)
    (pollIntervalMs : Int) :
    { getButtonPressHandler uninit button with
      gpio := gpio, pollIntervalMs := pollIntervalMs } =
      clean gpio pollIntervalMs := by
  simp [getButtonPressHandler, clean, hdeb]

/-- What holds of a handler between two iterations of `main`: no press waits to
be handled, and the press timer runs only while the press is on. -/
structure Ready (pollIntervalMs : Int) (h : ButtonPressHandler) : Prop where
  poll_eq : h.pollIntervalMs = pollIntervalMs
  handled : h.pressHandled = true
  completed : h.completedButtonPressThresh = 0
  timer_nonneg : 0 ≤ h.pressTimerMs
  timer_idle : h.isDebounced = false → h.pressTimerMs = 0

theorem clean_ready (gpio : GpioDtSpec) (pollIntervalMs : Int) :
    (clean gpio pollIntervalMs).Ready pollIntervalMs :=
  ⟨rfl, rfl, rfl, le_refl 0, fun _ => rfl⟩

section Step

variable {p : Int} {h : ButtonPressHandler} {gpioPinGetDt : GpioDtSpec → Int}

/-- One iteration's effect on a ready handler, when no press ends. -/
structure PollContinues (p : Int) (gpioPinGetDt : GpioDtSpec → Int)
    (h : ButtonPressHandler) : Prop where
  unreported : h.completedPress gpioPinGetDt = none
  stays : h.isDebounced = true → (h.poll gpioPinGetDt).isDebounced = true
  timer_eq : (h.poll gpioPinGetDt).pressTimerMs =
    if h.isDebounced then h.pressTimerMs + p else h.pressTimerMs

/-- One iteration's effect on a ready handler, when a press ends: `main` acts on
its duration and marks it handled. -/
structure PollCompletes (p : Int) (gpioPinGetDt : GpioDtSpec → Int)
    (h : ButtonPressHandler) : Prop where
  reported : h.completedPress gpioPinGetDt = some (h.pressTimerMs + p)
  held : h.isDebounced = true
  released : (h.poll gpioPinGetDt).isDebounced = false

/-- The `> 0` guard never swallows a press: a completed press lasted at least
one poll. -/
theorem Ready.poll_cases (hp : 0 < p) (hready : h.Ready p)
    (gpioPinGetDt : GpioDtSpec → Int) :
    (h.poll gpioPinGetDt).Ready p ∧
      (PollContinues p gpioPinGetDt h ∨ PollCompletes p gpioPinGetDt h) := by
  rcases getDebouncedPress_cases gpioPinGetDt h with hcont | hcomp
  · have hnone : (h.getDebouncedPress gpioPinGetDt).hasCompletedPress =
        false := by
      simp [hasCompletedPress, hcont.handled_eq, hready.handled]
    have hpoll : h.poll gpioPinGetDt = h.getDebouncedPress gpioPinGetDt := by
      simp [poll, hnone]
    have htimer := hcont.timer_eq
    rw [hready.poll_eq] at htimer
    refine ⟨?_, Or.inl ⟨by simp [completedPress, hnone], ?_, ?_⟩⟩
    · rw [hpoll]
      refine ⟨hcont.poll_eq.trans hready.poll_eq,
        hcont.handled_eq.trans hready.handled,
        hcont.completed_eq.trans hready.completed, ?_, ?_⟩
      · have hnonneg := hready.timer_nonneg
        rw [htimer]
        split <;> omega
      · intro hlow
        have hdeb : h.isDebounced = false := by
          cases hdeb : h.isDebounced with
          | false => rfl
          | true => rw [hcont.stays hdeb] at hlow; contradiction
        simpa [htimer, hdeb] using hready.timer_idle hdeb
    · rw [hpoll]
      exact hcont.stays
    · rw [hpoll]
      exact htimer
  · have hpos : 0 < h.pressTimerMs + h.pollIntervalMs := by
      have hnonneg := hready.timer_nonneg
      rw [hready.poll_eq]
      omega
    have hsome : (h.getDebouncedPress gpioPinGetDt).hasCompletedPress =
        true := by
      simp [hasCompletedPress, hcomp.unhandled, hcomp.completed_eq, hpos]
    have hpoll : h.poll gpioPinGetDt =
        (h.getDebouncedPress gpioPinGetDt).setButtonPressHandled := by
      simp [poll, hsome]
    refine ⟨?_, Or.inr ⟨?_, hcomp.held, ?_⟩⟩
    · rw [hpoll]
      exact ⟨hcomp.poll_eq.trans hready.poll_eq, rfl, rfl,
        (hcomp.timer_eq : _ = _).ge, fun _ => hcomp.timer_eq⟩
    · simp only [completedPress, hsome, if_true, hcomp.completed_eq,
        hready.poll_eq]
    · rw [hpoll]
      exact hcomp.released

/-- The state and the sample that end a press. -/
def Completing (gpioPinGetDt : GpioDtSpec → Int) (h : ButtonPressHandler) :
    Prop :=
  h.isDebounced = true ∧ isButtonPressed gpioPinGetDt h.gpio = false ∧
    100 < h.debounceTimerMs + h.pollIntervalMs

/-- `is_debounced` falls exactly in such a poll. -/
theorem poll_falls_iff :
    h.isDebounced = true ∧ (h.poll gpioPinGetDt).isDebounced = false ↔
      h.Completing gpioPinGetDt := by
  have hlevel : (h.poll gpioPinGetDt).isDebounced =
      (h.getDebouncedPress gpioPinGetDt).isDebounced :=
    congrArg Debouncer.State.level (poll_debounceState gpioPinGetDt h)
  rw [hlevel]
  constructor
  · rintro ⟨hheld, hfalls⟩
    have hreleased : isButtonPressed gpioPinGetDt h.gpio = false := by
      by_contra hpressed
      have hagree : isButtonPressed gpioPinGetDt h.gpio = h.isDebounced := by
        simpa [hheld] using hpressed
      rw [getDebouncedPress_of_agree hagree, hheld] at hfalls
      contradiction
    have hlimit : 100 < h.debounceTimerMs + h.pollIntervalMs := by
      by_contra hle
      rw [getDebouncedPress_of_release hreleased hheld (Int.not_lt.mp hle),
        hheld] at hfalls
      contradiction
    exact ⟨hheld, hreleased, hlimit⟩
  · rintro ⟨hheld, hreleased, hlimit⟩
    rw [getDebouncedPress_of_complete hreleased hheld hlimit]
    exact ⟨hheld, rfl⟩

/-- `main` acts on a ready handler exactly in the polls in which `is_debounced`
falls. -/
theorem Ready.completedPress_eq_none_iff (hp : 0 < p) (hready : h.Ready p) :
    h.completedPress gpioPinGetDt = none ↔
      ¬ (h.isDebounced = true ∧
        (h.poll gpioPinGetDt).isDebounced = false) := by
  rcases (hready.poll_cases hp gpioPinGetDt).2 with hcont | hcomp
  · simp only [hcont.unreported, true_iff, not_and, Bool.not_eq_false]
    exact hcont.stays
  · simp only [hcomp.reported, reduceCtorEq, false_iff, not_not]
    exact ⟨hcomp.held, hcomp.released⟩

theorem Ready.poll (hp : 0 < p) (hready : h.Ready p)
    (gpioPinGetDt : GpioDtSpec → Int) : (h.poll gpioPinGetDt).Ready p :=
  (hready.poll_cases hp gpioPinGetDt).1

@[simp] theorem poll_gpio (gpioPinGetDt : GpioDtSpec → Int)
    (h : ButtonPressHandler) : (h.poll gpioPinGetDt).gpio = h.gpio := by
  have hgpio : (h.getDebouncedPress gpioPinGetDt).gpio = h.gpio := by
    rcases getDebouncedPress_cases gpioPinGetDt h with hcont | hcomp
    · exact hcont.gpio_eq
    · exact hcomp.gpio_eq
  simp only [ButtonPressHandler.poll]
  split
  · exact hgpio
  · exact hgpio

/-- The handled check does not touch the press timer. -/
theorem poll_pressTimerMs (gpioPinGetDt : GpioDtSpec → Int)
    (h : ButtonPressHandler) :
    (h.poll gpioPinGetDt).pressTimerMs =
      (h.getDebouncedPress gpioPinGetDt).pressTimerMs := by
  simp only [ButtonPressHandler.poll]
  split <;> rfl

end Step

section Run

variable (p : Int) (gpio : GpioDtSpec) (reads : Nat → GpioDtSpec → Int)

/-- The handler before poll `n` of a run from a clean handler, where `reads m`
is what `gpio_pin_get_dt` returns in poll `m`. -/
def handlerAt (n : Nat) : ButtonPressHandler :=
  Runs.stateAt (fun h pins => h.poll pins) (clean gpio p) reads n

/-- The sample of poll `n`. -/
def sampleAt (n : Nat) : Bool :=
  isButtonPressed (reads n) gpio

def debouncedAt (n : Nat) : Bool :=
  (handlerAt p gpio reads n).isDebounced

/-- The press `main` acts on in poll `n`, if any, by its duration. -/
def pressAt (n : Nat) : Option Int :=
  (handlerAt p gpio reads n).completedPress (reads n)

theorem handlerAt_succ (n : Nat) :
    handlerAt p gpio reads (n + 1) =
      (handlerAt p gpio reads n).poll (reads n) := rfl

variable {p gpio reads}

/-- A pin that reads another value than 0 for `k` polls, and 0 from then on. -/
theorem sampleAt_of_reads {k : Nat} {value : Int} (hvalue : value ≠ 0)
    (hreads : ∀ i, reads i gpio = if i < k then value else 0) (n : Nat) :
    sampleAt gpio reads n = decide (n < k) := by
  rw [sampleAt, isButtonPressed, hreads]
  by_cases hn : n < k
  · simp [hn, hvalue]
  · simp [hn]

theorem handlerAt_ready (hp : 0 < p) (n : Nat) :
    (handlerAt p gpio reads n).Ready p :=
  Runs.stateAt_invariant (Ready p) (clean_ready gpio p)
    (fun _ pins hready => hready.poll hp pins) reads n

/-- A run of the handler is a run of its debouncer. -/
theorem handlerAt_debounceState (hp : 0 < p) (n : Nat) :
    (handlerAt p gpio reads n).debounceState =
      (debouncer p hp).stateAt ⟨false, 0⟩ (sampleAt gpio reads) n := by
  apply Runs.stateAt_proj (debouncer p hp).step
    (fun h => h.Ready p ∧ h.gpio = gpio) debounceState
    (fun pins => isButtonPressed pins gpio) ⟨clean_ready gpio p, rfl⟩
  · intro h pins hinv
    exact ⟨hinv.1.poll hp pins, (poll_gpio pins h).trans hinv.2⟩
  · rintro h pins ⟨hready, rfl⟩
    have hrefines := getDebouncedPress_debounceState pins h
      (by rw [hready.poll_eq]; exact hp)
    rw [poll_debounceState, hrefines]
    simp only [hready.poll_eq]

theorem debouncedAt_eq (hp : 0 < p) (n : Nat) :
    debouncedAt p gpio reads n =
      (debouncer p hp).levelAt ⟨false, 0⟩ (sampleAt gpio reads) n :=
  congrArg Debouncer.State.level (handlerAt_debounceState hp n)

/-- While a press is on, its timer holds the time since the poll of its rise. -/
theorem handlerAt_pressTimerMs (hp : 0 < p) {s n : Nat}
    (hlow : debouncedAt p gpio reads s = false)
    (hhigh : ∀ i, s < i → i ≤ n → debouncedAt p gpio reads i = true)
    (hsn : s < n) :
    (handlerAt p gpio reads n).pressTimerMs = p * (n - s - 1 : Int) := by
  induction n with
  | zero => omega
  | succ n ih =>
      have hnext := hhigh (n + 1) hsn (Nat.le_refl _)
      rw [debouncedAt, handlerAt_succ] at hnext
      have htimer : (handlerAt p gpio reads (n + 1)).pressTimerMs =
          if debouncedAt p gpio reads n then
            (handlerAt p gpio reads n).pressTimerMs + p
          else (handlerAt p gpio reads n).pressTimerMs := by
        rcases ((handlerAt_ready hp n).poll_cases hp (reads n)).2 with
          hcont | hcomp
        · exact hcont.timer_eq
        · rw [hcomp.released] at hnext
          contradiction
      rw [htimer]
      by_cases hs : s = n
      · subst hs
        have hidle := (handlerAt_ready hp s).timer_idle hlow
        simp [hlow, hidle]
      · rw [hhigh n (by omega) (Nat.le_succ n), if_pos rfl,
          ih (fun i hi hle => hhigh i hi (by omega)) (by omega)]
        push_cast
        ring

/-- The press timer counts the polls since the rise, and is zero without one. -/
theorem handlerAt_pressTimerMs_eq (hp : 0 < p) (n : Nat) :
    (handlerAt p gpio reads n).pressTimerMs =
      p * (streak true (debouncedAt p gpio reads) (n + 1) - 1 : Nat) := by
  cases hheld : debouncedAt p gpio reads n with
  | false =>
      rw [streak_succ_of_ne (by rw [hheld]; decide), Nat.zero_sub,
        Nat.cast_zero, mul_zero]
      exact (handlerAt_ready hp n).timer_idle hheld
  | true =>
      rcases exists_rise (y := debouncedAt p gpio reads) rfl hheld with
        ⟨s, hs, hlow, hhigh⟩
      have hblock : streak true (debouncedAt p gpio reads) (n + 1) =
          n + 1 - (s + 1) := by
        apply streak_eq_of_block (by omega)
        · intro i hi hle
          exact hhigh i hi (Nat.le_of_lt_succ hle)
        · right
          rw [Nat.add_sub_cancel, hlow]
          decide
      have hcast : ((n + 1 - (s + 1) - 1 : Nat) : Int) = n - s - 1 := by omega
      rw [handlerAt_pressTimerMs hp hlow hhigh hs, hblock, hcast]

/-- A poll brings the press timer to the time since the rise, itself included,
and keeps it or hands it over as the completed press. -/
theorem handlerAt_counted (hp : 0 < p) (n : Nat) :
    let completed := ((handlerAt p gpio reads n).getDebouncedPress
      (reads n)).completedButtonPressThresh
    let counted := p * streak true (debouncedAt p gpio reads) (n + 1)
    (handlerAt p gpio reads (n + 1)).pressTimerMs = counted ∧ completed = 0 ∨
      (handlerAt p gpio reads (n + 1)).pressTimerMs = 0 ∧
        completed = counted := by
  intro completed counted
  have hready : (handlerAt p gpio reads n).Ready p := handlerAt_ready hp n
  have hcounted : counted = if debouncedAt p gpio reads n
      then (handlerAt p gpio reads n).pressTimerMs + p
      else (handlerAt p gpio reads n).pressTimerMs := by
    rw [handlerAt_pressTimerMs_eq hp]
    cases hheld : debouncedAt p gpio reads n with
    | false =>
        have hzero : streak true (debouncedAt p gpio reads) (n + 1) = 0 :=
          streak_succ_of_ne (by rw [hheld]; decide)
        simp [counted, hzero]
    | true =>
        simp only [counted, streak_succ_of_eq hheld, Nat.add_sub_cancel,
          if_true]
        push_cast
        ring
  rw [handlerAt_succ, poll_pressTimerMs]
  rcases getDebouncedPress_cases (reads n) (handlerAt p gpio reads n) with
    hcont | hcomp
  · left
    rw [hcont.timer_eq, hready.poll_eq, hcounted]
    exact ⟨rfl, hcont.completed_eq.trans hready.completed⟩
  · right
    rw [hcounted, debouncedAt, hcomp.held, if_pos rfl]
    refine ⟨hcomp.timer_eq, hcomp.completed_eq.trans ?_⟩
    rw [hready.poll_eq]

/-- `main` acts on a press exactly in the polls in which `is_debounced` falls. -/
theorem pressAt_eq_none_iff (hp : 0 < p) (n : Nat) :
    pressAt p gpio reads n = none ↔
      ¬ (debouncedAt p gpio reads n = true ∧
        debouncedAt p gpio reads (n + 1) = false) :=
  (handlerAt_ready hp n).completedPress_eq_none_iff hp

/-- The duration `main` reads is the time between the two debounced edges of the
press. -/
theorem pressAt_eq_some_iff (hp : 0 < p) {n : Nat} {d : Int} :
    pressAt p gpio reads n = some d ↔
      ∃ s, Pulse (debouncedAt p gpio reads) s n ∧ d = p * (n - s : Int) := by
  rcases ((handlerAt_ready hp n).poll_cases hp (reads n)).2 with hcont | hcomp
  · have hnone : pressAt p gpio reads n = none := hcont.unreported
    simp only [hnone, reduceCtorEq, false_iff, not_exists, not_and]
    intro s hpulse
    have hstays := hcont.stays hpulse.high_last
    have hfalls := hpulse.falls
    rw [debouncedAt, handlerAt_succ, hstays] at hfalls
    contradiction
  · have hsome : pressAt p gpio reads n = some _ := hcomp.reported
    have hpulse : ∀ s, Pulse (debouncedAt p gpio reads) s n →
        (handlerAt p gpio reads n).pressTimerMs + p = p * (n - s : Int) := by
      intro s h
      rw [handlerAt_pressTimerMs hp h.low h.high h.lt]
      ring
    rw [hsome, Option.some.injEq]
    constructor
    · intro hd
      obtain ⟨s, h⟩ := exists_pulse (y := debouncedAt p gpio reads) rfl
        hcomp.held hcomp.released
      exact ⟨s, h, hd ▸ hpulse s h⟩
    · rintro ⟨s, h, rfl⟩
      exact hpulse s h

/-- A debounced edge is a flip of the debouncer towards the sample. -/
theorem flips_of_edge (hp : 0 < p) {n : Nat} {b : Bool}
    (hbefore : debouncedAt p gpio reads n = b)
    (hafter : debouncedAt p gpio reads (n + 1) = !b) :
    (debouncer p hp).Flips ⟨false, 0⟩ (sampleAt gpio reads) n ∧
      (debouncer p hp).levelAt ⟨false, 0⟩ (sampleAt gpio reads) n = b ∧
      sampleAt gpio reads n = !b := by
  rw [debouncedAt_eq hp] at hbefore hafter
  have hflips : (debouncer p hp).Flips ⟨false, 0⟩ (sampleAt gpio reads) n := by
    rw [Debouncer.Flips, hbefore, hafter]
    cases b <;> decide
  exact ⟨hflips, hbefore, hflips.level_succ.symm.trans hafter⟩

/-- What a hold should tolerate: `is_debounced` falls, and a press is reported,
only at the end of a block of released samples that took more than 100 ms, and
the reported duration runs from the rise to that fall. -/
structure BounceTolerant (p : Int) (gpio : GpioDtSpec)
    (reads : Nat → GpioDtSpec → Int) : Prop where
  ends : ∀ r, debouncedAt p gpio reads r = true →
    debouncedAt p gpio reads (r + 1) = false →
    100 < p * streak false (sampleAt gpio reads) (r + 1)
  reports : ∀ r d, pressAt p gpio reads r = some d →
    100 < p * streak false (sampleAt gpio reads) (r + 1) ∧
      ∃ s, Pulse (debouncedAt p gpio reads) s r ∧ d = p * (r - s : Int)

theorem handlerAt_debounceTimerMs (hp : 0 < p) (n : Nat) :
    (handlerAt p gpio reads n).debounceTimerMs =
      ((debouncer p hp).stateAt ⟨false, 0⟩ (sampleAt gpio reads) n).timer :=
  congrArg Debouncer.State.timer (handlerAt_debounceState hp n)

/-- Above 100 ms in the debounce timer one released sample ends the press. -/
theorem falls_of_released (hp : 0 < p) {n : Nat}
    (hheld : debouncedAt p gpio reads n = true)
    (hlimit : 100 < (handlerAt p gpio reads n).debounceTimerMs)
    (hreleased : sampleAt gpio reads n = false) :
    debouncedAt p gpio reads (n + 1) = false ∧
      streak false (sampleAt gpio reads) (n + 1) = 1 := by
  rw [handlerAt_debounceTimerMs hp] at hlimit
  have hcarry := (Debouncer.carrying_iff (D := debouncer p hp) rfl n).mpr hlimit
  have hlevel : (debouncer p hp).levelAt ⟨false, 0⟩ (sampleAt gpio reads) n =
      true := (debouncedAt_eq hp n).symm.trans hheld
  have hflips := hcarry.flips (by rw [hreleased, hlevel]; decide)
  have hone := hflips.streak_of_carrying hcarry
  rw [hreleased] at hone
  refine ⟨?_, hone⟩
  rw [debouncedAt_eq hp, hflips.level_succ, hreleased]

/-- Without such a sample a fall has a block of more than 100 ms behind it. -/
theorem streak_of_fall (hp : 0 < p) {r : Nat}
    (hheld : debouncedAt p gpio reads r = true)
    (hfall : debouncedAt p gpio reads (r + 1) = false)
    (hcondition : 100 < p ∨
      (100 < (handlerAt p gpio reads r).debounceTimerMs →
        sampleAt gpio reads r = true)) :
    100 < p * streak false (sampleAt gpio reads) (r + 1) := by
  obtain ⟨hflips, hlevel, hreleased⟩ := flips_of_edge hp hheld hfall
  rw [Bool.not_true] at hreleased
  by_cases hlimit : 100 < (handlerAt p gpio reads r).debounceTimerMs
  · have hlong : 100 < p := by
      apply hcondition.resolve_right
      intro hpressed
      rw [hpressed hlimit] at hreleased
      contradiction
    rw [(falls_of_released hp hheld hlimit hreleased).2]
    omega
  · have hcarry : ¬ (debouncer p hp).Carrying ⟨false, 0⟩
        (sampleAt gpio reads) r := by
      intro hcarry
      apply hlimit
      rw [handlerAt_debounceTimerMs hp]
      exact hcarry.1
    have hcount := (hflips.streak_of_not_carrying rfl hcarry).1
    rw [hlevel, hreleased] at hcount
    exact hcount

/-- The rise leaves the debounce timer above 100 ms, so a released sample in the
very next poll ends the press at once.  Without such a sample a hold tolerates
every bounce. -/
theorem bounceTolerant_iff (hp : 0 < p) (gpio : GpioDtSpec)
    (reads : Nat → GpioDtSpec → Int) :
    BounceTolerant p gpio reads ↔
      100 < p ∨ ∀ n, (handlerAt p gpio reads n).isDebounced = true →
        100 < (handlerAt p gpio reads n).debounceTimerMs →
          sampleAt gpio reads n = true := by
  constructor
  · intro htolerant
    by_contra hcontra
    simp only [not_or, not_forall, Bool.not_eq_true] at hcontra
    obtain ⟨hshort, n, hheld, hlimit, hreleased⟩ := hcontra
    obtain ⟨hfall, hone⟩ := falls_of_released hp hheld hlimit hreleased
    have hlong := htolerant.ends n hheld hfall
    rw [hone] at hlong
    omega
  · intro hcondition
    have hends : ∀ r, debouncedAt p gpio reads r = true →
        debouncedAt p gpio reads (r + 1) = false →
        100 < p * streak false (sampleAt gpio reads) (r + 1) := by
      intro r hheld hfall
      apply streak_of_fall hp hheld hfall
      exact hcondition.imp_right fun hpressed => hpressed r hheld
    refine ⟨hends, ?_⟩
    intro r d hpress
    obtain ⟨s, hpulse, hd⟩ := (pressAt_eq_some_iff hp).mp hpress
    exact ⟨hends r hpulse.high_last hpulse.falls, s, hpulse, hd⟩

/-- A hold of ten polls that bounces in its sixth and seventh, and a release. -/
def bouncedHold (n : Nat) : GpioDtSpec → Int :=
  fun _ => if n = 5 ∨ n = 6 ∨ 10 ≤ n then 0 else 1

theorem bounceTolerant_bouncedHold :
    BounceTolerant 25 .extBtn1 bouncedHold := by
  apply (bounceTolerant_iff (by decide) .extBtn1 bouncedHold).mpr
  right
  intro n hheld hlimit
  by_cases hearly : n < 15
  · have hpolls : ∀ n, n < 15 →
        (handlerAt 25 .extBtn1 bouncedHold n).isDebounced = true →
          100 < (handlerAt 25 .extBtn1 bouncedHold n).debounceTimerMs →
            sampleAt .extBtn1 bouncedHold n = true := by
      decide
    exact hpolls n hearly hheld hlimit
  · -- `is_debounced` fell in poll 14, and nothing is pressed from there on
    have hreleased : ∀ i, 15 ≤ i → i < n →
        sampleAt .extBtn1 bouncedHold i = false := by
      intro i hi _
      have hlate : 10 ≤ i := Nat.le_trans (by decide) hi
      simp [sampleAt, isButtonPressed, bouncedHold, hlate]
    have hlow : (debouncer 25 (by decide)).levelAt ⟨false, 0⟩
        (sampleAt .extBtn1 bouncedHold) n = false :=
      (Debouncer.stateAt_agreeing (Nat.not_lt.mp hearly) (by decide)
        hreleased).1
    rw [← debouncedAt_eq (by decide) n, debouncedAt, hheld] at hlow
    contradiction

/-- Three pressed samples, then a release: the press ends after one released
sample, 25 ms. -/
theorem not_bounceTolerant_bounce_after_rise :
    ¬ ∀ p : Int, 0 < p → ∀ gpio reads, BounceTolerant p gpio reads := by
  intro h
  have hlong := (h 25 (by decide) .extBtn1
    fun n _ => if n < 3 then 1 else 0).ends 3 (by decide) (by decide)
  revert hlong
  decide

end Run

end ButtonPressHandler

end ZbLightbulb
