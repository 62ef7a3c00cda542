/-
A timer of a kernel in discrete time.  It counts down to the tick at which it is
due, waits there until its expiry is served, and is then armed again by its
period or by whoever serves it.
-/
import Mathlib.Data.Nat.Basic
import Mathlib.Tactic.Common

/-- A running timer has `left` ticks to go; a period of zero is that of a timer
that expires once. -/
inductive KTimer where
  | stopped
  | running (left period : Nat)
deriving DecidableEq, Repr

namespace KTimer

def start (duration period : Nat) : KTimer :=
  .running duration period

def isRunning : KTimer → Bool
  | .stopped => false
  | .running _ _ => true

def isDue : KTimer → Bool
  | .running 0 _ => true
  | _ => false

def tick : KTimer → KTimer
  | .stopped => .stopped
  | .running left period => .running (left - 1) period

/-- The kernel arms a due timer for its period, or stops it, before the expiry
function runs. -/
def expire : KTimer → KTimer
  | .running 0 0 => .stopped
  | .running 0 period => .running period period
  | timer => timer

theorem isRunning_of_isDue {timer : KTimer} (h : timer.isDue = true) :
    timer.isRunning = true := by
  cases timer with
  | stopped => contradiction
  | running left period => rfl

@[simp] theorem tick_isRunning (timer : KTimer) :
    timer.tick.isRunning = timer.isRunning := by
  cases timer <;> rfl

/-- A running timer has this period. -/
def HasPeriod (period : Nat) : KTimer → Prop
  | .stopped => True
  | .running _ period' => period' = period

section Period

variable {period : Nat} {timer : KTimer}

theorem HasPeriod.tick (h : timer.HasPeriod period) :
    timer.tick.HasPeriod period := by
  cases timer with
  | stopped => trivial
  | running left period' => exact h

theorem HasPeriod.expire (h : timer.HasPeriod period) :
    timer.expire.HasPeriod period := by
  cases timer with
  | stopped => trivial
  | running left period' =>
      cases left with
      | succ left => exact h
      | zero =>
          cases period' with
          | zero => trivial
          | succ period' => exact h

/-- A due timer is armed again unless it expires once. -/
theorem HasPeriod.expire_of_isDue (h : timer.HasPeriod period)
    (hdue : timer.isDue = true) :
    timer.expire = if period = 0 then .stopped else .start period period := by
  cases timer with
  | stopped => contradiction
  | running left period' =>
      cases left with
      | succ left => contradiction
      | zero =>
          have hsame : period' = period := h
          subst hsame
          cases period' <;> rfl

end Period

/-- A timer started for `first` ticks and armed for `again` ticks each time it
was served: what has passed and been served since accounts for what is left. -/
inductive Since (first again : Nat) (ticks served : Nat) : KTimer → Prop
  | running (left period : Nat)
      (account : ticks + left = first + served * again)
      (left_le : left ≤ if served = 0 then first else again) :
      Since first again ticks served (.running left period)

/-- How often a timer has become due in this many ticks. -/
def expiries (first again ticks : Nat) : Nat :=
  if ticks < first then 0 else 1 + (ticks - first) / again

namespace Since

variable {first again ticks served : Nat} {timer : KTimer}

theorem start (first again period : Nat) :
    Since first again 0 0 (.start first period) := by
  apply Since.running
  · omega
  · simp

theorem tick (h : Since first again ticks served timer)
    (hdue : timer.isDue = false) :
    Since first again (ticks + 1) served timer.tick := by
  cases h with
  | running left period account left_le =>
      cases left with
      | zero => contradiction
      | succ left =>
          apply Since.running
          · omega
          · split at left_le <;> split <;> omega

theorem serve (h : Since first again ticks served timer)
    (hdue : timer.isDue = true) (period : Nat) :
    Since first again ticks (served + 1) (.start again period) := by
  cases h with
  | running left period' account left_le =>
      cases left with
      | succ left => contradiction
      | zero =>
          apply Since.running
          · rw [Nat.succ_mul]
            omega
          · simp

theorem isRunning (h : Since first again ticks served timer) :
    timer.isRunning = true := by
  cases h
  rfl

/-- All expiries but the one that may be due have been served. -/
theorem expiries_eq (h : Since first again ticks served timer)
    (hagain : 0 < again) :
    expiries first again ticks = served + timer.isDue.toNat := by
  cases h with
  | running left period account left_le =>
      cases served with
      | zero =>
          rw [Nat.zero_mul, Nat.add_zero] at account
          rw [if_pos rfl] at left_le
          cases left with
          | zero =>
              have hticks : ticks = first := account
              simp [expiries, hticks, isDue]
          | succ left =>
              have hlt : ticks < first := by omega
              simp [expiries, hlt, isDue]
      | succ served =>
          rw [if_neg (Nat.succ_ne_zero served)] at left_le
          rw [Nat.succ_mul] at account
          have hge : ¬ ticks < first := by omega
          rw [expiries, if_neg hge]
          cases left with
          | zero =>
              have hpassed : ticks - first = (served + 1) * again := by
                rw [Nat.succ_mul]
                omega
              rw [hpassed, Nat.mul_div_cancel _ hagain]
              exact Nat.add_comm 1 (served + 1)
          | succ left =>
              have hpassed : ticks - first =
                  served * again + (again - (left + 1)) := by
                omega
              have hrest : again - (left + 1) < again := by omega
              rw [hpassed, Nat.mul_comm, Nat.mul_add_div hagain,
                Nat.div_eq_of_lt hrest]
              exact Nat.add_comm 1 served

end Since

end KTimer
