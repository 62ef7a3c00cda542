/-
Runs of `get_debounced_press` alone, at any poll interval: how long a block of
pressed samples has to be to be recognised, and what is measured of a clean
hold.
-/
import ZbLightbulb.HandlerRun

namespace ZbLightbulb

open BoolStream

namespace ButtonPressHandler

/-- `is_debounced` clear and both timers zero. -/
structure Fresh (h : ButtonPressHandler) : Prop where
  level : h.isDebounced = false
  debounce : h.debounceTimerMs = 0
  timer : h.pressTimerMs = 0

section Calls

variable (h : ButtonPressHandler) (reads : Nat → GpioDtSpec → Int)

/-- The handler before call `n` of `get_debounced_press`. -/
def calledAt (n : Nat) : ButtonPressHandler :=
  Runs.stateAt (fun h pins => h.getDebouncedPress pins) h reads n

/-- Call `n` completes a press and reports its duration. -/
def ReportsAt (n : Nat) (duration : Int) : Prop :=
  Completes (calledAt h reads n) (calledAt h reads (n + 1)) ∧
    (calledAt h reads (n + 1)).completedButtonPressThresh = duration

/-- A press is recognised only at the end of a block of pressed samples that
takes more than 100 ms, and none is completed without such a block. -/
structure NeedsStablePress : Prop where
  rises : ∀ i, (calledAt h reads i).isDebounced = false →
    (calledAt h reads (i + 1)).isDebounced = true →
      100 < h.pollIntervalMs * streak true (sampleAt h.gpio reads) (i + 1)
  unreported : (∀ n, h.pollIntervalMs *
    streak true (sampleAt h.gpio reads) n ≤ 100) →
      ∀ i duration, ¬ ReportsAt h reads i duration

/-- `n` pressed samples, then `m` released ones. -/
structure HoldOf (gpio : GpioDtSpec) (reads : Nat → GpioDtSpec → Int)
    (n m : Nat) : Prop where
  pressed : ∀ i, i < n → sampleAt gpio reads i = true
  released : ∀ i, n ≤ i → i < n + m → sampleAt gpio reads i = false

/-- The calls of a hold report one press at most, within the debounce window of
the hold, and leave the handler as it was. -/
structure MeasuresHold (n m : Nat) : Prop where
  once : ∀ i j d d', i < n + m → j < n + m → ReportsAt h reads i d →
    ReportsAt h reads j d' → i = j
  ends : (calledAt h reads (n + m)).isDebounced = false ∧
    (calledAt h reads (n + m)).pressTimerMs = 0
  near : ∀ i d, i < n + m → ReportsAt h reads i d →
    -(100 + h.pollIntervalMs) ≤ d - n * h.pollIntervalMs ∧
      d - n * h.pollIntervalMs ≤ 100 + h.pollIntervalMs

end Calls

variable {h : ButtonPressHandler} {reads : Nat → GpioDtSpec → Int}

/-! ### Against the polls of `main` -/

/-- Marking a press handled does not touch the debouncer and the timer. -/
theorem getDebouncedPress_setHandled (pins : GpioDtSpec → Int)
    (h : ButtonPressHandler) :
    (h.setButtonPressHandled.getDebouncedPress pins).setButtonPressHandled =
      (h.getDebouncedPress pins).setButtonPressHandled := by
  by_cases hagree : isButtonPressed pins h.gpio = h.isDebounced
  · rw [getDebouncedPress_of_agree hagree,
      getDebouncedPress_of_agree (h := h.setButtonPressHandled) hagree]
    rfl
  · cases hdeb : h.isDebounced with
    | false =>
        have hpressed : isButtonPressed pins h.gpio = true := by
          simpa [hdeb] using hagree
        rw [getDebouncedPress_of_press hpressed hdeb,
          getDebouncedPress_of_press (h := h.setButtonPressHandled) hpressed
            hdeb]
        rfl
    | true =>
        have hreleased : isButtonPressed pins h.gpio = false := by
          simpa [hdeb] using hagree
        by_cases hlimit : 100 < h.debounceTimerMs + h.pollIntervalMs
        · rw [getDebouncedPress_of_complete hreleased hdeb hlimit,
            getDebouncedPress_of_complete (h := h.setButtonPressHandled)
              hreleased hdeb hlimit]
          rfl
        · have hle := Int.not_lt.mp hlimit
          rw [getDebouncedPress_of_release hreleased hdeb hle,
            getDebouncedPress_of_release (h := h.setButtonPressHandled)
              hreleased hdeb hle]
          rfl

theorem poll_setHandled (pins : GpioDtSpec → Int) (h : ButtonPressHandler) :
    (h.poll pins).setButtonPressHandled =
      (h.getDebouncedPress pins).setButtonPressHandled := by
  simp only [poll]
  split <;> rfl

theorem Fresh.setHandled (hfresh : h.Fresh) :
    h.setButtonPressHandled = clean h.gpio h.pollIntervalMs := by
  simp only [setButtonPressHandled, clean, hfresh.level, hfresh.debounce,
    hfresh.timer]

/-- But for the two fields that `main` clears, the calls are those of `main`. -/
theorem calledAt_setHandled (hp : 0 < h.pollIntervalMs) (hfresh : h.Fresh)
    (n : Nat) : (calledAt h reads n).setButtonPressHandled =
      handlerAt h.pollIntervalMs h.gpio reads n := by
  have hready : ∀ n,
      (handlerAt h.pollIntervalMs h.gpio reads n).setButtonPressHandled =
        handlerAt h.pollIntervalMs h.gpio reads n := by
    intro n
    have hr : (handlerAt h.pollIntervalMs h.gpio reads n).Ready _ :=
      handlerAt_ready hp n
    rw [setButtonPressHandled, ← hr.handled, ← hr.completed]
  induction n with
  | zero => exact hfresh.setHandled
  | succ n ih =>
      rw [← hready (n + 1), handlerAt_succ, poll_setHandled, ← ih,
        getDebouncedPress_setHandled]
      rfl

theorem calledAt_isDebounced (hp : 0 < h.pollIntervalMs) (hfresh : h.Fresh)
    (reads : Nat → GpioDtSpec → Int) (n : Nat) :
    (calledAt h reads n).isDebounced =
      debouncedAt h.pollIntervalMs h.gpio reads n := by
  rw [debouncedAt, ← calledAt_setHandled hp hfresh]
  rfl

/-- A call reports what `main` acts on. -/
theorem reportsAt_iff (hp : 0 < h.pollIntervalMs) (hfresh : h.Fresh) {n : Nat}
    {d : Int} : ReportsAt h reads n d ↔
      pressAt h.pollIntervalMs h.gpio reads n = some d := by
  have hready : (handlerAt h.pollIntervalMs h.gpio reads n).Ready
      h.pollIntervalMs := handlerAt_ready hp n
  have hbefore := calledAt_isDebounced hp hfresh reads n
  have hafter := calledAt_isDebounced hp hfresh reads (n + 1)
  rcases (hready.poll_cases hp (reads n)).2 with hcont | hcomp
  · have hnone : pressAt h.pollIntervalMs h.gpio reads n = none :=
      hcont.unreported
    simp only [hnone, reduceCtorEq, iff_false]
    intro hreport
    have hstays := hcont.stays (hbefore.symm.trans hreport.1.held)
    exact absurd (hstays.symm.trans (hafter.symm.trans hreport.1.released))
      (by decide)
  · have hcompletes : Completes (calledAt h reads n)
        (calledAt h reads (n + 1)) := by
      apply (getDebouncedPress_cases (reads n) (calledAt h reads n)).resolve_left
      intro hcont
      have hstays := hcont.stays (hbefore.trans hcomp.held)
      exact absurd (hstays.symm.trans (hafter.trans hcomp.released)) (by decide)
    have hsome : pressAt h.pollIntervalMs h.gpio reads n =
        some (calledAt h reads (n + 1)).completedButtonPressThresh := by
      have hpoll := hready.poll_eq
      have hreported := hcomp.reported
      rw [← calledAt_setHandled hp hfresh] at hpoll hreported
      rw [hcompletes.completed_eq, pressAt, ← calledAt_setHandled hp hfresh,
        hreported]
      exact congrArg (fun p => some (_ + p)) hpoll.symm
    rw [hsome, Option.some.injEq]
    exact ⟨fun hreport => hreport.2, fun hd => ⟨hcompletes, hd⟩⟩

/-! ### A stable press -/

/-- Up to a poll interval of 100 ms no rise has a block of more than 100 ms
behind it. -/
theorem streak_of_rise {p : Int} (hp : 0 < p) (hshort : p ≤ 100)
    {gpio : GpioDtSpec} {i : Nat} (hlow : debouncedAt p gpio reads i = false)
    (hhigh : debouncedAt p gpio reads (i + 1) = true) :
    p * streak true (sampleAt gpio reads) (i + 1) ≤ 100 := by
  rcases flips_of_edge hp hlow hhigh with ⟨hflips, hlevel, hpressed⟩
  rw [Bool.not_false] at hpressed
  by_cases hcarry : (debouncer p hp).Carrying ⟨false, 0⟩ (sampleAt gpio reads) i
  · have hone := hflips.streak_of_carrying hcarry
    rw [hpressed] at hone
    rw [hone]
    omega
  · have hunder := (hflips.streak_of_not_carrying rfl hcarry).2
    rw [hlevel, hpressed] at hunder
    change 2 * p * (streak true (sampleAt gpio reads) (i + 1) - 1 : Int) ≤ 100
      at hunder
    generalize (streak true (sampleAt gpio reads) (i + 1) : Int) = k at hunder ⊢
    by_contra hlong
    -- a block of one sample is within the limit
    have htwo : 2 ≤ k := by
      by_contra hone
      have hle : p * k ≤ p * 1 :=
        Int.mul_le_mul_of_nonneg_left (by omega) hp.le
      linarith
    have hle : p * 2 ≤ p * k := Int.mul_le_mul_of_nonneg_left htwo hp.le
    have hexpand : 2 * p * (k - 1) = 2 * (p * k) - 2 * p := by ring
    rw [hexpand] at hunder
    linarith

/-- Above 100 ms every block is that long. -/
theorem streak_of_rise_long {p : Int} (hp : 0 < p) (hlong : 100 < p)
    {gpio : GpioDtSpec} {i : Nat} (hlow : debouncedAt p gpio reads i = false)
    (hhigh : debouncedAt p gpio reads (i + 1) = true) :
    100 < p * streak true (sampleAt gpio reads) (i + 1) := by
  have hpressed : sampleAt gpio reads i = true :=
    (flips_of_edge hp hlow hhigh).2.2
  rw [streak_succ_of_eq hpressed]
  have hle : p * 1 ≤ p * (streak true (sampleAt gpio reads) i + 1 : Nat) :=
    Int.mul_le_mul_of_nonneg_left (by omega) hp.le
  omega

/-- Up to 100 ms presses are stable only if there are none. -/
theorem NeedsStablePress.debouncedAt_low (hp : 0 < h.pollIntervalMs)
    (hfresh : h.Fresh) (hstable : NeedsStablePress h reads)
    (hshort : h.pollIntervalMs ≤ 100) (n : Nat) :
    debouncedAt h.pollIntervalMs h.gpio reads n = false := by
  rw [← Bool.not_eq_true]
  intro hn
  rcases exists_rise (y := debouncedAt h.pollIntervalMs h.gpio reads) rfl hn
    with ⟨i, hi, hlow, hhigh⟩
  have hrise := hhigh (i + 1) (Nat.lt_succ_self i) hi
  have hlong := hstable.rises i
    ((calledAt_isDebounced hp hfresh reads i).trans hlow)
    ((calledAt_isDebounced hp hfresh reads (i + 1)).trans hrise)
  have hwithin := streak_of_rise hp hshort hlow hrise
  omega

/-- A press that is reported has risen. -/
theorem needsStablePress_of_rises (hp : 0 < h.pollIntervalMs)
    (hfresh : h.Fresh)
    (hrises : ∀ i, debouncedAt h.pollIntervalMs h.gpio reads i = false →
      debouncedAt h.pollIntervalMs h.gpio reads (i + 1) = true →
        100 < h.pollIntervalMs * streak true (sampleAt h.gpio reads) (i + 1)) :
    NeedsStablePress h reads := by
  constructor
  · intro i hlow hhigh
    rw [calledAt_isDebounced hp hfresh] at hlow hhigh
    exact hrises i hlow hhigh
  · intro hshort i duration hreport
    rcases (pressAt_eq_some_iff hp).mp ((reportsAt_iff hp hfresh).mp hreport)
      with ⟨s, hpulse, -⟩
    exact absurd (hrises s hpulse.low hpulse.rises)
      (Int.not_lt.mpr (hshort (s + 1)))

/-- A pressed sample counts twice.  Presses are stable exactly if the poll
interval alone is more than 100 ms, or no block of pressed samples takes more
than 50 ms, so that no press is recognised. -/
theorem needsStablePress_iff (hp : 0 < h.pollIntervalMs) (hfresh : h.Fresh)
    (reads : Nat → GpioDtSpec → Int) :
    NeedsStablePress h reads ↔ 100 < h.pollIntervalMs ∨
      ∀ n, 2 * h.pollIntervalMs * streak true (sampleAt h.gpio reads) n ≤
        100 := by
  have hlow_iff : (∀ n, debouncedAt h.pollIntervalMs h.gpio reads n = false) ↔
      ∀ n, 2 * h.pollIntervalMs * streak true (sampleAt h.gpio reads) n ≤
        100 := by
    simp only [debouncedAt_eq hp]
    exact Debouncer.levelAt_low_iff rfl rfl
  rw [← hlow_iff]
  constructor
  · intro hstable
    by_cases hlong : 100 < h.pollIntervalMs
    · exact Or.inl hlong
    · right
      exact hstable.debouncedAt_low hp hfresh (Int.not_lt.mp hlong)
  · intro hcondition
    apply needsStablePress_of_rises hp hfresh
    intro i hlow hhigh
    rcases hcondition with hlong | hnever
    · exact streak_of_rise_long hp hlong hlow hhigh
    · rw [hnever (i + 1)] at hhigh
      contradiction

/-- At 25 ms two pressed samples out of three are not recognised. -/
theorem needsStablePress_two_of_three :
    NeedsStablePress (clean .extBtn1 25)
      fun n _ => if n % 3 = 0 then 0 else 1 := by
  apply (needsStablePress_iff (by decide) ⟨rfl, rfl, rfl⟩ _).mpr
  right
  have hshort : ∀ n, streak true (sampleAt .extBtn1
      fun n _ => if n % 3 = 0 then 0 else 1) n ≤ 2 := by
    rw [streak_le_iff]
    intro n hall
    have hzero : n % 3 = 0 ∨ (n + 1) % 3 = 0 ∨ (n + 2) % 3 = 0 := by omega
    rcases hzero with h | h | h
    · have hpressed := hall 0 (by decide)
      simp [sampleAt, isButtonPressed, h] at hpressed
    · have hpressed := hall 1 (by decide)
      simp [sampleAt, isButtonPressed, h] at hpressed
    · have hpressed := hall 2 (by decide)
      simp [sampleAt, isButtonPressed, h] at hpressed
  intro n
  have hle := hshort n
  simp only [clean]
  omega

/-- At 25 ms three pressed samples, 75 ms, are recognised. -/
theorem not_needsStablePress_75 :
    ¬ ∀ h : ButtonPressHandler, 0 < h.pollIntervalMs → h.Fresh →
      ∀ reads, NeedsStablePress h reads := by
  intro h
  have hlong := (h (clean .extBtn1 25) (by decide) ⟨rfl, rfl, rfl⟩
    fun n _ => if n < 3 then 1 else 0).rises 2 (by decide) (by decide)
  revert hlong
  decide

/-! ### A clean hold -/

section Hold

variable {n m rise wait : Nat}

theorem wait_lt (hp : 0 < h.pollIntervalMs)
    (hcross : (debouncer h.pollIntervalMs hp).Crossings rise wait)
    (hm : 100 / h.pollIntervalMs + 1 ≤ m) : wait < m := by
  have hle : (wait : Int) ≤ 100 / h.pollIntervalMs := by
    apply Int.le_ediv_of_mul_le hp
    rw [mul_comm]
    exact hcross.wait_le
  omega

theorem HoldOf.cleanHold {gpio : GpioDtSpec} (hhold : HoldOf gpio reads n m) :
    Debouncer.CleanHold ⟨false, 0⟩ (sampleAt gpio reads) n m :=
  ⟨rfl, rfl, hhold.pressed, hhold.released⟩

/-- The press of a hold runs from its rise to its fall. -/
theorem HoldOf.reportsAt_iff (hp : 0 < h.pollIntervalMs) (hfresh : h.Fresh)
    (hcross : (debouncer h.pollIntervalMs hp).Crossings rise wait)
    (hhold : HoldOf h.gpio reads n m) (hm : wait < m) {i : Nat}
    (hi : i < n + m) {d : Int} :
    ReportsAt h reads i d ↔ rise < n ∧ i = Debouncer.fallOf rise wait n ∧
      d = h.pollIntervalMs * (Debouncer.fallOf rise wait n - rise : Int) := by
  have hclean := hhold.cleanHold
  rw [ButtonPressHandler.reportsAt_iff hp hfresh, pressAt_eq_some_iff hp,
    show debouncedAt _ _ _ = _ from funext (debouncedAt_eq hp)]
  constructor
  · intro hreport
    rcases hreport with ⟨s, hpulse, rfl⟩
    rcases hclean.pulse_unique hcross hm hi hpulse with ⟨hn, rfl, rfl⟩
    exact ⟨hn, rfl, rfl⟩
  · intro hin
    rcases hin with ⟨hn, rfl, rfl⟩
    exact ⟨rise, hclean.pulse hcross hn hm, rfl⟩

theorem HoldOf.measured (hp : 0 < h.pollIntervalMs) (hfresh : h.Fresh)
    (hcross : (debouncer h.pollIntervalMs hp).Crossings rise wait)
    (hhold : HoldOf h.gpio reads n m) (hm : wait < m) :
    MeasuresHold h reads n m := by
  constructor
  · intro i j d d' hi hj hreport hreport'
    have hfall := ((hhold.reportsAt_iff hp hfresh hcross hm hi).mp hreport).2.1
    have hfall' :=
      ((hhold.reportsAt_iff hp hfresh hcross hm hj).mp hreport').2.1
    rw [hfall, hfall']
  · have hfall := Debouncer.fallOf_le rise wait n
    have hlow : debouncedAt h.pollIntervalMs h.gpio reads (n + m) = false := by
      rw [debouncedAt_eq hp, ← Bool.not_eq_true,
        hhold.cleanHold.levelAt_iff hcross hm (Nat.le_refl _)]
      omega
    have hidle : (handlerAt h.pollIntervalMs h.gpio reads
        (n + m)).pressTimerMs = 0 := (handlerAt_ready hp (n + m)).timer_idle hlow
    rw [← calledAt_setHandled hp hfresh] at hidle
    exact ⟨(calledAt_isDebounced hp hfresh reads _).trans hlow, hidle⟩
  · intro i d hi hreport
    rcases (hhold.reportsAt_iff hp hfresh hcross hm hi).mp hreport with
      ⟨hn, -, rfl⟩
    have hrise : 2 * h.pollIntervalMs * rise ≤ 100 := hcross.rise_le
    have hwait : h.pollIntervalMs * wait ≤ 100 := hcross.wait_le
    have hrise_nonneg : 0 ≤ h.pollIntervalMs * rise :=
      mul_nonneg hp.le (Int.natCast_nonneg rise)
    have hwait_nonneg : 0 ≤ h.pollIntervalMs * wait :=
      mul_nonneg hp.le (Int.natCast_nonneg wait)
    rw [Debouncer.fallOf]
    split_ifs with hfirst
    · constructor <;> linarith
    · push_cast
      constructor <;> linarith

end Hold

/-- A hold is measured within the debounce window of its length, once at most,
and a longer hold is measured as no shorter. -/
theorem clean_holds_measured (hp : 0 < h.pollIntervalMs) (hfresh : h.Fresh) :
    (∀ reads n m, HoldOf h.gpio reads n m →
      100 / h.pollIntervalMs + 1 ≤ m → MeasuresHold h reads n m) ∧
    ∀ reads n m, HoldOf h.gpio reads n m → 100 / h.pollIntervalMs + 1 ≤ m →
      ∀ reads' n' m', HoldOf h.gpio reads' n' m' →
        100 / h.pollIntervalMs + 1 ≤ m' → n ≤ n' →
          ∀ i d, i < n + m → ReportsAt h reads i d →
            ∃ i' d', i' < n' + m' ∧ ReportsAt h reads' i' d' ∧ d ≤ d' := by
  rcases (debouncer h.pollIntervalMs hp).exists_crossings with
    ⟨rise, wait, hcross⟩
  constructor
  · intro reads n m hhold hm
    exact hhold.measured hp hfresh hcross (wait_lt hp hcross hm)
  · intro reads n m hhold hm reads' n' m' hhold' hm' hle i d hi hreport
    have hlt := wait_lt hp hcross hm
    have hlt' := wait_lt hp hcross hm'
    rcases (hhold.reportsAt_iff hp hfresh hcross hlt hi).mp hreport with
      ⟨hn, -, rfl⟩
    have hn' := hn.trans_le hle
    have hi' : Debouncer.fallOf rise wait n' < n' + m' := by
      have hfall := Debouncer.fallOf_le rise wait n'
      omega
    refine ⟨_, _, hi', (hhold'.reportsAt_iff hp hfresh hcross hlt' hi').mpr
      ⟨hn', rfl, rfl⟩, ?_⟩
    have hmono : Debouncer.fallOf rise wait n ≤ Debouncer.fallOf rise wait n' :=
      Debouncer.fallOf_mono hn hle
    apply Int.mul_le_mul_of_nonneg_left _ hp.le
    omega

/-- At 25 ms a hold of 40 samples needs five released ones. -/
theorem clean_holds_measured_1000 :
    MeasuresHold (clean .extBtn1 25) (fun n _ => if n < 40 then 1 else 0) 40
      5 := by
  have hsample : ∀ i, sampleAt .extBtn1
      (fun n _ => if n < 40 then 1 else 0) i = decide (i < 40) :=
    sampleAt_of_reads Int.one_ne_zero fun _ => rfl
  apply (clean_holds_measured (by decide) ⟨rfl, rfl, rfl⟩).1
  · constructor
    · intro i hi
      exact (hsample i).trans (decide_eq_true hi)
    · intro i hi _
      exact (hsample i).trans (decide_eq_false (Nat.not_lt.mpr hi))
  · decide

end ButtonPressHandler

end ZbLightbulb
