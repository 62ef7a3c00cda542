/-
Boolean streams: the block of equal values that ends just before a round, and
the maximal intervals on which a stream is true.
-/
import Mathlib.Data.Nat.Init

namespace BoolStream

/-- How many consecutive rounds just before round `n` carry the value `b`. -/
def streak (b : Bool) (x : Nat → Bool) : Nat → Nat
  | 0 => 0
  | n + 1 => if x n = b then streak b x n + 1 else 0

theorem streak_succ_of_eq {b : Bool} {x : Nat → Bool} {n : Nat} (h : x n = b) :
    streak b x (n + 1) = streak b x n + 1 := by
  rw [streak, if_pos h]

theorem streak_succ_of_ne {b : Bool} {x : Nat → Bool} {n : Nat} (h : x n ≠ b) :
    streak b x (n + 1) = 0 := by
  rw [streak, if_neg h]

theorem streak_le (b : Bool) (x : Nat → Bool) (n : Nat) : streak b x n ≤ n := by
  induction n with
  | zero => exact Nat.le_refl 0
  | succ n ih =>
      by_cases h : x n = b
      · rw [streak_succ_of_eq h]
        omega
      · rw [streak_succ_of_ne h]
        omega

/-- The rounds of the block carry its value. -/
theorem eq_of_mem_streak {b : Bool} {x : Nat → Bool} {n i : Nat}
    (hi : n - streak b x n ≤ i) (hn : i < n) : x i = b := by
  induction n with
  | zero => omega
  | succ n ih =>
      by_cases h : x n = b
      · rw [streak_succ_of_eq h] at hi
        rcases Nat.eq_or_lt_of_le (Nat.le_of_lt_succ hn) with rfl | hlt
        · exact h
        · exact ih (by omega) hlt
      · rw [streak_succ_of_ne h] at hi
        omega

/-- The block could not have started earlier. -/
theorem ne_of_before_streak {b : Bool} {x : Nat → Bool} {n : Nat}
    (h : streak b x n < n) : x (n - streak b x n - 1) ≠ b := by
  induction n with
  | zero => omega
  | succ n ih =>
      by_cases hx : x n = b
      · rw [streak_succ_of_eq hx] at h ⊢
        rw [Nat.add_sub_add_right]
        exact ih (by omega)
      · rw [streak_succ_of_ne hx]
        exact hx

/-- The block before round `n + k` is at least `k` rounds long exactly if these
rounds carry its value. -/
theorem le_streak_iff {b : Bool} {x : Nat → Bool} {n k : Nat} :
    k ≤ streak b x (n + k) ↔ ∀ i, i < k → x (n + i) = b := by
  induction k with
  | zero => simp
  | succ k ih =>
      rw [← Nat.add_assoc]
      by_cases h : x (n + k) = b
      · rw [streak_succ_of_eq h, Nat.succ_le_succ_iff, ih]
        constructor
        · intro hbefore i hi
          rcases Nat.eq_or_lt_of_le (Nat.le_of_lt_succ hi) with rfl | hlt
          · exact h
          · exact hbefore i hlt
        · exact fun hall i hi => hall i (Nat.lt_succ_of_lt hi)
      · rw [streak_succ_of_ne h]
        constructor
        · intro hle
          omega
        · exact fun hall => absurd (hall k (Nat.lt_succ_self k)) h

/-- No block is longer than `k` exactly if every `k + 1` rounds in a row have
one without the value. -/
theorem streak_le_iff {b : Bool} {x : Nat → Bool} {k : Nat} :
    (∀ n, streak b x n ≤ k) ↔ ∀ n, ¬ ∀ i, i < k + 1 → x (n + i) = b := by
  constructor
  · intro hshort n hblock
    have hlong : k + 1 ≤ streak b x (n + (k + 1)) := le_streak_iff.mpr hblock
    exact Nat.not_lt.mpr (hshort (n + (k + 1))) hlong
  · intro hbreak n
    apply Nat.le_of_not_lt
    intro hlong
    have hn : n - (k + 1) + (k + 1) = n :=
      Nat.sub_add_cancel (Nat.le_trans hlong (streak_le b x n))
    rw [← hn] at hlong
    exact hbreak _ (le_streak_iff.mp hlong)

/-- A block that starts in round `f`, and could not have started earlier, is
the whole block. -/
theorem streak_eq_of_block {b : Bool} {x : Nat → Bool} {f n : Nat}
    (hfn : f ≤ n) (hblock : ∀ i, f ≤ i → i < n → x i = b)
    (hfirst : f = 0 ∨ x (f - 1) ≠ b) : streak b x n = n - f := by
  induction n with
  | zero => rw [streak, Nat.zero_sub]
  | succ n ih =>
      rcases Nat.eq_or_lt_of_le hfn with rfl | hlt
      · have hne : x n ≠ b := by
          rcases hfirst with hzero | hne
          · contradiction
          · simpa using hne
        rw [streak_succ_of_ne hne, Nat.sub_self]
      · have hle : f ≤ n := Nat.le_of_lt_succ hlt
        have hx : x n = b := hblock n hle (Nat.lt_succ_self n)
        rw [streak_succ_of_eq hx, Nat.succ_sub hle]
        apply congrArg Nat.succ
        exact ih hle fun i hi hin => hblock i hi (Nat.lt_succ_of_lt hin)

/-- The stream `y` rises in round `s`, stays true and falls in round `r`: the
value before round `s` is the last false one, the value before round `r` the
last true one. -/
structure Pulse (y : Nat → Bool) (s r : Nat) : Prop where
  lt : s < r
  low : y s = false
  high : ∀ i, s < i → i ≤ r → y i = true
  falls : y (r + 1) = false

theorem exists_rise {y : Nat → Bool} {n : Nat} (hzero : y 0 = false)
    (hn : y n = true) :
    ∃ s, s < n ∧ y s = false ∧ ∀ i, s < i → i ≤ n → y i = true := by
  induction n with
  | zero => rw [hzero] at hn; contradiction
  | succ n ih =>
      cases hy : y n with
      | false =>
          refine ⟨n, Nat.lt_succ_self n, hy, ?_⟩
          intro i hlow hhigh
          rw [show i = n + 1 by omega]
          exact hn
      | true =>
          rcases ih hy with ⟨s, hs, hlow, hhigh⟩
          refine ⟨s, Nat.lt_succ_of_lt hs, hlow, ?_⟩
          intro i hi hle
          rcases Nat.eq_or_lt_of_le hle with rfl | hlt
          · exact hn
          · exact hhigh i hi (Nat.le_of_lt_succ hlt)

/-- Every fall ends a pulse. -/
theorem exists_pulse {y : Nat → Bool} {r : Nat} (hzero : y 0 = false)
    (hr : y r = true) (hfall : y (r + 1) = false) : ∃ s, Pulse y s r := by
  rcases exists_rise hzero hr with ⟨s, hs, hlow, hhigh⟩
  exact ⟨s, hs, hlow, hhigh, hfall⟩

theorem Pulse.high_last {y : Nat → Bool} {s r : Nat} (h : Pulse y s r) :
    y r = true :=
  h.high r h.lt (Nat.le_refl r)

theorem Pulse.rises {y : Nat → Bool} {s r : Nat} (h : Pulse y s r) :
    y (s + 1) = true :=
  h.high (s + 1) (Nat.lt_succ_self s) h.lt

/-- A fall ends one pulse only. -/
theorem Pulse.start_unique {y : Nat → Bool} {s t r : Nat} (hs : Pulse y s r)
    (ht : Pulse y t r) : s = t := by
  rcases Nat.lt_trichotomy s t with hlt | heq | hgt
  · have hhigh := hs.high t hlt (Nat.le_of_lt ht.lt)
    rw [ht.low] at hhigh
    contradiction
  · exact heq
  · have hhigh := ht.high s hgt (Nat.le_of_lt hs.lt)
    rw [hs.low] at hhigh
    contradiction

/-- A stream that is low, then high, and low again. -/
theorem high_iff {y : Nat → Bool} {s r last i : Nat}
    (hbefore : ∀ i, i ≤ s → y i = false)
    (hhigh : ∀ i, s < i → i ≤ r → y i = true)
    (hafter : ∀ i, r < i → i ≤ last → y i = false) (hi : i ≤ last) :
    y i = true ↔ s < i ∧ i ≤ r := by
  constructor
  · intro hon
    constructor
    · apply Nat.lt_of_not_le
      intro hle
      rw [hbefore i hle] at hon
      contradiction
    · apply Nat.le_of_not_lt
      intro hgt
      rw [hafter i hgt hi] at hon
      contradiction
  · exact fun hin => hhigh i hin.1 hin.2

end BoolStream
