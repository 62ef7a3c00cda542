/-
A debouncer with one shared timer.  A sample that differs from the debounced
level adds a gain to the timer, an agreeing sample clears it, and the level
flips once the timer passes a limit.  The flip itself does not clear the timer,
so the sample after a flip meets the value the flip left behind.
-/
import Mathlib.Tactic.Linarith
import Mathlib.Tactic.Ring
import ZbLightbulb.Lib.Runs
import ZbLightbulb.Lib.BoolStream

open BoolStream

/-- What a differing sample adds while the level is low and while it is high,
and the limit the timer has to pass. -/
structure Debouncer where
  up : Int
  down : Int
  limit : Int
  up_pos : 0 < up
  down_pos : 0 < down
  limit_nonneg : 0 ≤ limit

namespace Debouncer

structure State where
  level : Bool
  timer : Int
deriving DecidableEq, Repr

variable (D : Debouncer)

def gain (level : Bool) : Int :=
  if level then D.down else D.up

theorem gain_pos (level : Bool) : 0 < D.gain level := by
  cases level with
  | false => exact D.up_pos
  | true => exact D.down_pos

def step (s : State) (sample : Bool) : State :=
  if sample = s.level then { s with timer := 0 }
  else if D.limit < s.timer + D.gain s.level then
    { level := sample, timer := s.timer + D.gain s.level }
  else { s with timer := s.timer + D.gain s.level }

theorem step_of_eq {s : State} {sample : Bool} (h : sample = s.level) :
    D.step s sample = { s with timer := 0 } := by
  rw [step, if_pos h]

theorem step_of_flip {s : State} {sample : Bool} (h : sample ≠ s.level)
    (hlimit : D.limit < s.timer + D.gain s.level) :
    D.step s sample =
      { level := sample, timer := s.timer + D.gain s.level } := by
  rw [step, if_neg h, if_pos hlimit]

theorem step_of_wait {s : State} {sample : Bool} (h : sample ≠ s.level)
    (hlimit : s.timer + D.gain s.level ≤ D.limit) :
    D.step s sample = { s with timer := s.timer + D.gain s.level } := by
  rw [step, if_neg h, if_neg (Int.not_lt.mpr hlimit)]

/-- A level changes only towards a differing sample, past the limit, and the
timer keeps the value that did it. -/
theorem step_level_ne_iff {s : State} {sample : Bool} :
    (D.step s sample).level ≠ s.level ↔
      sample ≠ s.level ∧ D.limit < s.timer + D.gain s.level := by
  by_cases heq : sample = s.level
  · rw [D.step_of_eq heq]
    simp [heq]
  · by_cases hlimit : D.limit < s.timer + D.gain s.level
    · simp [D.step_of_flip heq hlimit, heq, hlimit]
    · simp [D.step_of_wait heq (Int.not_lt.mp hlimit), hlimit]

variable (start : State) (x : Nat → Bool)

/-- The state before round `n` on the samples `x`. -/
def stateAt (n : Nat) : State :=
  Runs.stateAt D.step start x n

def levelAt (n : Nat) : Bool :=
  (D.stateAt start x n).level

theorem stateAt_succ (n : Nat) :
    D.stateAt start x (n + 1) = D.step (D.stateAt start x n) (x n) := rfl

/-- The level flips in round `n`. -/
def Flips (n : Nat) : Prop :=
  D.levelAt start x (n + 1) ≠ D.levelAt start x n

/-- The timer counts the current block of differing samples and is within the
limit. -/
def Counting (n : Nat) : Prop :=
  (D.stateAt start x n).timer =
      D.gain (D.levelAt start x n) * streak (!D.levelAt start x n) x n ∧
    (D.stateAt start x n).timer ≤ D.limit

/-- The level has just flipped and the timer still holds what the flip left in
it. -/
def Carrying (n : Nat) : Prop :=
  D.limit < (D.stateAt start x n).timer ∧
    ∃ m, n = m + 1 ∧ D.Flips start x m

variable {D start x}

theorem flips_iff {n : Nat} :
    D.Flips start x n ↔ x n ≠ D.levelAt start x n ∧
      D.limit < (D.stateAt start x n).timer + D.gain (D.levelAt start x n) :=
  D.step_level_ne_iff

/-- A flip goes to the sample of its round. -/
theorem Flips.level_succ {n : Nat} (h : D.Flips start x n) :
    D.levelAt start x (n + 1) = x n := by
  obtain ⟨hne, hlimit⟩ := flips_iff.mp h
  rw [levelAt, stateAt_succ, D.step_of_flip hne hlimit]

theorem Flips.sample_eq {n : Nat} (h : D.Flips start x n) :
    x n = !D.levelAt start x n :=
  Bool.eq_not.mpr (flips_iff.mp h).1

theorem Flips.timer_succ {n : Nat} (h : D.Flips start x n) :
    (D.stateAt start x (n + 1)).timer =
      (D.stateAt start x n).timer + D.gain (D.levelAt start x n) := by
  obtain ⟨hne, hlimit⟩ := flips_iff.mp h
  rw [stateAt_succ, D.step_of_flip hne hlimit]
  rfl

theorem Flips.carrying {n : Nat} (h : D.Flips start x n) :
    D.Carrying start x (n + 1) := by
  have hlimit := (flips_iff.mp h).2
  rw [← h.timer_succ] at hlimit
  exact ⟨hlimit, n, rfl, h⟩

/-- An agreeing sample keeps the level and clears the timer. -/
theorem stateAt_succ_of_agree {n : Nat} (h : x n = D.levelAt start x n) :
    D.levelAt start x (n + 1) = D.levelAt start x n ∧
      (D.stateAt start x (n + 1)).timer = 0 := by
  have hstep : D.stateAt start x (n + 1) =
      { D.stateAt start x n with timer := 0 } := D.step_of_eq h
  rw [levelAt, hstep]
  exact ⟨rfl, rfl⟩

/-- A differing sample within the limit keeps the level and adds its gain. -/
theorem stateAt_succ_of_wait {n : Nat} (h : x n ≠ D.levelAt start x n)
    (hlimit : (D.stateAt start x n).timer + D.gain (D.levelAt start x n) ≤
      D.limit) :
    D.levelAt start x (n + 1) = D.levelAt start x n ∧
      (D.stateAt start x (n + 1)).timer =
        (D.stateAt start x n).timer + D.gain (D.levelAt start x n) := by
  have hstep : D.stateAt start x (n + 1) =
      { D.stateAt start x n with
        timer := (D.stateAt start x n).timer + D.gain (D.levelAt start x n) } :=
    D.step_of_wait h hlimit
  rw [levelAt, hstep]
  exact ⟨rfl, rfl⟩

/-- From a clear timer, the timer before any round either counts the current
block or is what the flip of the round before left. -/
theorem counting_or_carrying (hstart : start.timer = 0) (n : Nat) :
    D.Counting start x n ∨ D.Carrying start x n := by
  induction n with
  | zero =>
      left
      constructor
      · simp [stateAt, streak, hstart]
      · change start.timer ≤ D.limit
        rw [hstart]
        exact D.limit_nonneg
  | succ n ih =>
      by_cases heq : x n = D.levelAt start x n
      · left
        rcases stateAt_succ_of_agree heq with ⟨hlevel, htimer⟩
        have hne : x n ≠ !D.levelAt start x n := Bool.not_eq_not.mpr heq
        constructor
        · rw [hlevel, htimer, streak_succ_of_ne hne, Nat.cast_zero, mul_zero]
        · rw [htimer]
          exact D.limit_nonneg
      · rcases lt_or_ge D.limit ((D.stateAt start x n).timer +
            D.gain (D.levelAt start x n)) with hlimit | hle
        · exact Or.inr (Flips.carrying (flips_iff.mpr ⟨heq, hlimit⟩))
        · left
          rcases stateAt_succ_of_wait heq hle with ⟨hlevel, htimer⟩
          have hx : x n = !D.levelAt start x n := Bool.eq_not.mpr heq
          have hgain := D.gain_pos (D.levelAt start x n)
          rcases ih with ⟨hcount, _⟩ | ⟨hcarry, _⟩
          · constructor
            · rw [hlevel, htimer, hcount, streak_succ_of_eq hx]
              push_cast
              ring
            · rw [htimer]
              exact hle
          · omega

/-- The timer is past the limit only right after a flip. -/
theorem carrying_iff (hstart : start.timer = 0) (n : Nat) :
    D.Carrying start x n ↔ D.limit < (D.stateAt start x n).timer := by
  constructor
  · exact fun hcarry => hcarry.1
  · intro hlimit
    apply (counting_or_carrying hstart n).resolve_left
    exact fun hcount => Int.not_lt.mpr hcount.2 hlimit

/-- A flip that does not follow another flip ends a block of differing samples
which is just long enough: its gains pass the limit and one sample fewer would
not have. -/
theorem Flips.streak_of_not_carrying (hstart : start.timer = 0) {n : Nat}
    (h : D.Flips start x n) (hcarry : ¬ D.Carrying start x n) :
    D.limit < D.gain (D.levelAt start x n) * streak (x n) x (n + 1) ∧
      D.gain (D.levelAt start x n) * (streak (x n) x (n + 1) - 1 : Int) ≤
        D.limit := by
  obtain ⟨hcount, hle⟩ :=
    (counting_or_carrying hstart n).resolve_right hcarry
  have hlimit := (flips_iff.mp h).2
  have hstreak : streak (x n) x (n + 1) =
      streak (!D.levelAt start x n) x n + 1 := by
    rw [streak_succ_of_eq rfl, h.sample_eq]
  rw [hstreak]
  rw [hcount] at hlimit hle
  push_cast
  constructor
  · linarith
  · linarith

/-- A flip right after a flip ends a block of one sample. -/
theorem Flips.streak_of_carrying {n : Nat} (h : D.Flips start x n)
    (hcarry : D.Carrying start x n) : streak (x n) x (n + 1) = 1 := by
  obtain ⟨_, m, rfl, hm⟩ := hcarry
  have hne : x m ≠ x (m + 1) := by
    have hlevel := hm.level_succ
    have hnext := (flips_iff.mp h).1
    rw [hlevel] at hnext
    exact Ne.symm hnext
  rw [streak_succ_of_eq rfl, streak_succ_of_ne hne]

/-- Agreeing samples keep the level and clear the timer. -/
theorem stateAt_agreeing {n last : Nat} {b : Bool} (hlast : n ≤ last)
    (hlevel : D.levelAt start x n = b)
    (h : ∀ i, n ≤ i → i < last → x i = b) :
    D.levelAt start x last = b ∧
      (n < last → (D.stateAt start x last).timer = 0) := by
  induction last, hlast using Nat.le_induction with
  | base => exact ⟨hlevel, fun hlt => absurd hlt (Nat.lt_irrefl n)⟩
  | succ last hlast ih =>
      rcases ih fun i hi hlt => h i hi (Nat.lt_succ_of_lt hlt) with ⟨hkeep, _⟩
      have hagree : x last = D.levelAt start x last :=
        (h last hlast (Nat.lt_succ_self last)).trans hkeep.symm
      rcases stateAt_succ_of_agree hagree with ⟨hnext, hclear⟩
      exact ⟨hnext.trans hkeep, fun _ => hclear⟩

/-- Differing samples that stay within the limit keep the level and add up. -/
theorem stateAt_waiting {n k : Nat} {b : Bool}
    (hlevel : D.levelAt start x n = b)
    (htimer : (D.stateAt start x n).timer = 0)
    (h : ∀ i, n ≤ i → i < n + k → x i = !b)
    (hk : D.gain b * k ≤ D.limit) :
    D.levelAt start x (n + k) = b ∧
      (D.stateAt start x (n + k)).timer = D.gain b * k := by
  induction k with
  | zero => exact ⟨hlevel, by simp [htimer]⟩
  | succ k ih =>
      have hgain := D.gain_pos b
      push_cast at hk ⊢
      rcases ih (fun i hi hlt => h i hi (by omega)) (by linarith) with
        ⟨hkeep, hsum⟩
      have hdiffer : x (n + k) ≠ D.levelAt start x (n + k) := by
        rw [hkeep]
        exact Bool.eq_not.mp (h (n + k) (by omega) (by omega))
      have hnext : (D.stateAt start x (n + k)).timer +
          D.gain (D.levelAt start x (n + k)) = D.gain b * (k + 1) := by
        rw [hsum, hkeep]
        ring
      rcases stateAt_succ_of_wait hdiffer (hnext.trans_le hk) with
        ⟨hstay, hadd⟩
      exact ⟨hstay.trans hkeep, hadd.trans hnext⟩

/-- From a clear timer, differing samples flip the level in the first round in
which their gains pass the limit. -/
theorem level_crossing {n k : Nat} {b : Bool}
    (hlevel : D.levelAt start x n = b)
    (htimer : (D.stateAt start x n).timer = 0)
    (h : ∀ i, n ≤ i → i ≤ n + k → x i = !b)
    (hunder : D.gain b * k ≤ D.limit) (hover : D.limit < D.gain b * (k + 1)) :
    (∀ i, n ≤ i → i ≤ n + k → D.levelAt start x i = b) ∧
      D.levelAt start x (n + k + 1) = !b := by
  have hwait : ∀ j, j ≤ k → D.levelAt start x (n + j) = b ∧
      (D.stateAt start x (n + j)).timer = D.gain b * j := by
    intro j hj
    apply stateAt_waiting hlevel htimer fun i hi hlt => h i hi (by omega)
    have hle : D.gain b * j ≤ D.gain b * k :=
      Int.mul_le_mul_of_nonneg_left (by exact_mod_cast hj)
        (D.gain_pos b).le
    exact hle.trans hunder
  constructor
  · intro i hi hle
    have hkeep := (hwait (i - n) (by omega)).1
    rwa [Nat.add_sub_cancel' hi] at hkeep
  · obtain ⟨hkeep, hsum⟩ := hwait k (Nat.le_refl k)
    have hflips : D.Flips start x (n + k) := by
      rw [flips_iff, hkeep, hsum]
      constructor
      · exact Bool.eq_not.mp (h (n + k) (by omega) (by omega))
      · linarith
    exact hflips.level_succ.trans (h (n + k) (by omega) (by omega))

/-- While the timer carries, one differing sample is enough to flip again. -/
theorem Carrying.flips {n : Nat} (h : D.Carrying start x n)
    (hne : x n ≠ D.levelAt start x n) : D.Flips start x n := by
  have hgain := D.gain_pos (D.levelAt start x n)
  have hlimit := h.1
  exact flips_iff.mpr ⟨hne, by omega⟩

/-- From a low level and a clear timer the level never rises exactly if no block
of high samples is long enough for its gains to pass the limit. -/
theorem levelAt_low_iff (hlevel : start.level = false)
    (htimer : start.timer = 0) :
    (∀ n, D.levelAt start x n = false) ↔
      ∀ n, D.up * streak true x n ≤ D.limit := by
  constructor
  · intro hlow n
    have hnot : ¬ D.Carrying start x n := by
      intro hcarry
      rcases hcarry with ⟨-, m, rfl, hm⟩
      apply hm
      rw [hlow, hlow]
    rcases (counting_or_carrying htimer n).resolve_right hnot with ⟨hcount, hle⟩
    rw [hcount, hlow] at hle
    exact hle
  · intro hshort n
    induction n using Nat.strong_induction_on with
    | h n ih =>
        cases n with
        | zero => exact hlevel
        | succ n =>
            have hlow := ih n (Nat.lt_succ_self n)
            by_contra hrise
            have hflips : D.Flips start x n := by
              rw [Flips, hlow]
              exact hrise
            have hnot : ¬ D.Carrying start x n := by
              intro hcarry
              rcases hcarry with ⟨-, m, rfl, hm⟩
              apply hm
              rw [hlow, ih m (by omega)]
            have hhigh : x n = true := by
              rw [hflips.sample_eq, hlow]
              rfl
            have hlong := (hflips.streak_of_not_carrying htimer hnot).1
            rw [hlow, hhigh] at hlong
            exact absurd (hshort (n + 1)) (Int.not_le.mpr hlong)

theorem timer_nonneg (htimer : start.timer = 0) (n : Nat) :
    0 ≤ (D.stateAt start x n).timer := by
  rcases counting_or_carrying htimer n with ⟨hcount, -⟩ | ⟨hlimit, -⟩
  · rw [hcount]
    exact mul_nonneg (D.gain_pos _).le (Int.natCast_nonneg _)
  · exact (lt_of_le_of_lt D.limit_nonneg hlimit).le

/-- If both gains divide the limit, a flip meets a timer that has reached it. -/
theorem Flips.limit_le (htimer : start.timer = 0)
    (hdvd : ∀ level, D.gain level ∣ D.limit) {n : Nat}
    (h : D.Flips start x n) : D.limit ≤ (D.stateAt start x n).timer := by
  rcases counting_or_carrying htimer n with ⟨hcount, -⟩ | ⟨hlimit, -⟩
  · have hover := (flips_iff.mp h).2
    rcases hdvd (D.levelAt start x n) with ⟨c, hc⟩
    rw [hcount, hc, ← mul_add_one] at hover
    have hlt := lt_of_mul_lt_mul_left hover (D.gain_pos _).le
    rw [hcount, hc]
    exact mul_le_mul_of_nonneg_left (Int.lt_add_one_iff.mp hlt)
      (D.gain_pos _).le
  · exact hlimit.le

/-- A differing sample right after a flip adds the other gain too. -/
theorem Carrying.exists_timer_succ {n : Nat} (h : D.Carrying start x n)
    (hne : x n ≠ D.levelAt start x n) : ∃ m, D.Flips start x m ∧
      (D.stateAt start x (n + 1)).timer =
        (D.stateAt start x m).timer + D.up + D.down := by
  have hflips := h.flips hne
  rcases h with ⟨-, m, rfl, hm⟩
  refine ⟨m, hm, ?_⟩
  have hlevel : D.levelAt start x (m + 1) = !D.levelAt start x m :=
    Bool.eq_not.mpr hm
  rw [hflips.timer_succ, hm.timer_succ, hlevel]
  cases D.levelAt start x m with
  | false => rfl
  | true =>
      simp only [gain, Bool.not_true, if_true, Bool.false_eq_true, if_false]
      ring

/-- While every flip is followed by an agreeing sample, the timer is at most one
gain past the limit. -/
theorem timer_le_of_agree (htimer : start.timer = 0)
    (hagree : ∀ n, D.limit < (D.stateAt start x n).timer →
      x n = D.levelAt start x n) {bound : Int}
    (hbound : ∀ level, D.limit + D.gain level ≤ bound) (n : Nat) :
    (D.stateAt start x n).timer ≤ bound := by
  have hcases : D.Counting start x n ∨ D.Carrying start x n :=
    counting_or_carrying htimer n
  rcases hcases with ⟨-, hle⟩ | ⟨-, m, rfl, hm⟩
  · have hgain := D.gain_pos false
    have hfalse := hbound false
    omega
  · have hwithin : (D.stateAt start x m).timer ≤ D.limit := by
      by_contra hover
      exact (flips_iff.mp hm).1 (hagree m (Int.not_le.mp hover))
    rw [hm.timer_succ]
    exact (Int.add_le_add_right hwithin _).trans (hbound _)

/-- If both gains divide the limit, the timer stays within a bound that leaves
room for one gain past the limit, and not for both, exactly if every flip is
followed by an agreeing sample. -/
theorem timer_le_iff (htimer : start.timer = 0)
    (hdvd : ∀ level, D.gain level ∣ D.limit) {bound : Int}
    (hbound : ∀ level, D.limit + D.gain level ≤ bound)
    (hover : bound < D.limit + D.up + D.down) :
    (∀ n, (D.stateAt start x n).timer ≤ bound) ↔
      ∀ n, D.Flips start x n → x (n + 1) = D.levelAt start x (n + 1) := by
  constructor
  · intro hrange n hflips
    by_contra hne
    rcases hflips.carrying.exists_timer_succ hne with ⟨m, hm, hsum⟩
    have hle := hrange (n + 1 + 1)
    have hlimit := hm.limit_le htimer hdvd
    omega
  · intro hsettles
    apply timer_le_of_agree htimer _ hbound
    intro n hpast
    rcases ((carrying_iff htimer n).mpr hpast).2 with ⟨m, rfl, hm⟩
    exact hsettles m hm

/-- The rounds in which high and low samples in a row first pass the limit. -/
structure Crossings (D : Debouncer) (rise wait : Nat) : Prop where
  rise_le : D.gain false * rise ≤ D.limit
  lt_rise : D.limit < D.gain false * (rise + 1)
  wait_le : D.gain true * wait ≤ D.limit
  lt_wait : D.limit < D.gain true * (wait + 1)

theorem exists_crossings (D : Debouncer) :
    ∃ rise wait, D.Crossings rise wait := by
  have hcross : ∀ b, ∃ k : Nat, D.gain b * k ≤ D.limit ∧
      D.limit < D.gain b * (k + 1) := by
    intro b
    have hgain := D.gain_pos b
    have hnonneg : 0 ≤ D.limit / D.gain b :=
      Int.ediv_nonneg D.limit_nonneg hgain.le
    refine ⟨(D.limit / D.gain b).toNat, ?_⟩
    rw [Int.toNat_of_nonneg hnonneg]
    constructor
    · exact Int.mul_ediv_self_le hgain.ne'
    · rw [mul_add_one]
      exact Int.lt_mul_ediv_self_add hgain
  rcases hcross false with ⟨rise, hrise, hrise'⟩
  rcases hcross true with ⟨wait, hwait, hwait'⟩
  exact ⟨rise, wait, hrise, hrise', hwait, hwait'⟩

/-- The round in which a hold of `n` samples ends: at once if it has only just
risen, and otherwise when the low samples pass the limit. -/
def fallOf (rise wait n : Nat) : Nat :=
  if n = rise + 1 then n else n + wait

theorem le_fallOf (rise wait n : Nat) : n ≤ fallOf rise wait n := by
  rw [fallOf]
  split <;> omega

theorem fallOf_le (rise wait n : Nat) : fallOf rise wait n ≤ n + wait := by
  rw [fallOf]
  split <;> omega

/-- A longer hold falls later. -/
theorem fallOf_mono {rise wait n n' : Nat} (hn : rise < n) (hle : n ≤ n') :
    fallOf rise wait n ≤ fallOf rise wait n' := by
  rw [fallOf, fallOf]
  split_ifs <;> omega

/-- From a low level and a clear timer, `n` high samples and then `m` low
ones. -/
structure CleanHold (start : State) (x : Nat → Bool) (n m : Nat) : Prop where
  level : start.level = false
  timer : start.timer = 0
  high : ∀ i, i < n → x i = true
  low : ∀ i, n ≤ i → i < n + m → x i = false

namespace CleanHold

variable {n m : Nat}

/-- A hold that ends before its gains pass the limit is not seen. -/
theorem levelAt_short (h : CleanHold start x n m)
    (hunder : D.gain false * n ≤ D.limit) {i : Nat} (hi : i ≤ n + m) :
    D.levelAt start x i = false := by
  have hlow : D.levelAt start x 0 = false := h.level
  have hwait : ∀ k, k ≤ n → D.levelAt start x (0 + k) = false := by
    intro k hk
    have hle : D.gain false * k ≤ D.gain false * n :=
      Int.mul_le_mul_of_nonneg_left (by exact_mod_cast hk) (D.gain_pos _).le
    exact (stateAt_waiting hlow h.timer (fun j _ hj => h.high j (by omega))
      (hle.trans hunder)).1
  rcases Nat.le_total i n with hle | hle
  · rw [← Nat.zero_add i]
    exact hwait i hle
  · have hend := hwait n (Nat.le_refl n)
    rw [Nat.zero_add] at hend
    exact (stateAt_agreeing hle hend fun j hj hlt =>
      h.low j hj (hlt.trans_le hi)).1

section Long

variable {rise wait : Nat}

/-- A longer hold rises when its gains pass the limit. -/
theorem levelAt_rise (h : CleanHold start x n m) (hcross : D.Crossings rise wait)
    (hn : rise < n) : (∀ i, i ≤ rise → D.levelAt start x i = false) ∧
      D.levelAt start x (rise + 1) = true := by
  have hlow : D.levelAt start x 0 = false := h.level
  rcases level_crossing hlow h.timer (fun j _ hle => h.high j (by omega))
    hcross.rise_le hcross.lt_rise with ⟨hbefore, hrise⟩
  rw [Nat.zero_add] at hbefore hrise
  exact ⟨fun i hi => hbefore i (Nat.zero_le i) hi, hrise⟩

/-- If the hold ends on its rise, the first low sample makes the level fall. -/
theorem levelAt_fall_first (h : CleanHold start x (rise + 1) m)
    (hcross : D.Crossings rise wait) (hm : 0 < m) :
    D.levelAt start x (rise + 1 + 1) = false := by
  rcases h.levelAt_rise hcross (Nat.lt_succ_self rise) with ⟨hbefore, hrise⟩
  have hlow := h.low (rise + 1) (Nat.le_refl _) (Nat.lt_add_of_pos_right hm)
  have hreleased : x (rise + 1) ≠ D.levelAt start x (rise + 1) := by
    rw [hrise, hlow]
    decide
  have hflips : D.Flips start x rise := by
    rw [Flips, hrise, hbefore rise (Nat.le_refl rise)]
    decide
  exact (hflips.carrying.flips hreleased).level_succ.trans hlow

/-- The level is high from the rise to the fall. -/
theorem levelAt_held (h : CleanHold start x n m) (hcross : D.Crossings rise wait)
    (hn : rise < n) (hm : wait < m) :
    (∀ i, rise < i → i ≤ fallOf rise wait n → D.levelAt start x i = true) ∧
      D.levelAt start x (fallOf rise wait n + 1) = false := by
  have hrise := (h.levelAt_rise hcross hn).2
  by_cases hfirst : n = rise + 1
  · subst hfirst
    rw [fallOf, if_pos rfl]
    refine ⟨?_, h.levelAt_fall_first hcross (by omega)⟩
    intro i hlt hle
    rw [Nat.le_antisymm hle hlt]
    exact hrise
  · rw [fallOf, if_neg hfirst]
    have hheld : ∀ i, rise < i → i ≤ n → D.levelAt start x i = true ∧
        (rise + 1 < i → (D.stateAt start x i).timer = 0) := by
      intro i hlt hle
      exact stateAt_agreeing hlt hrise fun j _ hj => h.high j (by omega)
    rcases hheld n hn (Nat.le_refl n) with ⟨hend, hclear⟩
    rcases level_crossing hend (hclear (by omega))
      (fun j hj hle => h.low j hj (by omega)) hcross.wait_le hcross.lt_wait with
      ⟨hstay, hfall⟩
    refine ⟨?_, hfall⟩
    intro i hlt hle
    by_cases hin : i ≤ n
    · exact (hheld i hlt hin).1
    · exact hstay i (by omega) hle

end Long

/-- The level over a hold. -/
theorem levelAt_iff (h : CleanHold start x n m) {rise wait : Nat}
    (hcross : D.Crossings rise wait) (hm : wait < m) {i : Nat}
    (hi : i ≤ n + m) : D.levelAt start x i = true ↔
      rise < n ∧ rise < i ∧ i ≤ fallOf rise wait n := by
  by_cases hn : rise < n
  · simp only [hn, true_and]
    rcases h.levelAt_held hcross hn hm with ⟨hheld, hend⟩
    apply high_iff (h.levelAt_rise hcross hn).1 hheld _ hi
    -- from its fall on the level agrees with the samples
    intro j hlt hj
    have hfall := le_fallOf rise wait n
    exact (stateAt_agreeing hlt hend fun k hk hklt =>
      h.low k (by omega) (by omega)).1
  · have hle : D.gain false * n ≤ D.gain false * rise :=
      Int.mul_le_mul_of_nonneg_left (by omega) (D.gain_pos _).le
    simp only [hn, false_and, iff_false, Bool.not_eq_true]
    exact h.levelAt_short (hle.trans hcross.rise_le) hi

/-- A hold that is seen is one pulse. -/
theorem pulse (h : CleanHold start x n m) {rise wait : Nat}
    (hcross : D.Crossings rise wait) (hn : rise < n) (hm : wait < m) :
    Pulse (D.levelAt start x) rise (fallOf rise wait n) := by
  have hle := le_fallOf rise wait n
  have hge := fallOf_le rise wait n
  refine ⟨by omega, ?_, ?_, ?_⟩
  · rw [← Bool.not_eq_true, h.levelAt_iff hcross hm (by omega)]
    omega
  · intro i hi hfall
    exact (h.levelAt_iff hcross hm (by omega)).mpr ⟨hn, hi, hfall⟩
  · rw [← Bool.not_eq_true, h.levelAt_iff hcross hm (by omega)]
    omega

/-- Over a hold there is no other pulse. -/
theorem pulse_unique (h : CleanHold start x n m) {rise wait : Nat}
    (hcross : D.Crossings rise wait) (hm : wait < m) {s r : Nat}
    (hr : r < n + m) (hpulse : Pulse (D.levelAt start x) s r) :
    rise < n ∧ s = rise ∧ r = fallOf rise wait n := by
  rcases (h.levelAt_iff hcross hm hr.le).mp hpulse.high_last with
    ⟨hn, hrise, hfall⟩
  have hend : ¬ (rise < n ∧ rise < r + 1 ∧ r + 1 ≤ fallOf rise wait n) := by
    rw [← h.levelAt_iff hcross hm hr, hpulse.falls]
    decide
  have hr : r = fallOf rise wait n := by omega
  subst hr
  exact ⟨hn, hpulse.start_unique (h.pulse hcross hn hm), rfl⟩

end CleanHold

end Debouncer
