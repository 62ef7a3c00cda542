/-
How long the network button was really held when `main` resets the network.  The
press timer runs between the debounced edges; a rise is debounced by three
pressed samples and a fall by five released ones, so the timer is ahead of the
hold.
-/
import ZbLightbulb.Dispatch

namespace ZbLightbulb

open BoolStream

/-- A press with debounced edges `rise` and `fall` and what was sampled: `first`
is the first pressed sample of the block that made `is_debounced` rise, `last`
the last pressed sample before it fell. -/
structure Held (sample debounced : Nat → Bool) (first last rise fall : Nat) :
    Prop where
  pulse : Pulse debounced rise fall
  first_le : first ≤ rise
  block : ∀ i, first ≤ i → i ≤ rise → sample i = true
  starts : first = 0 ∨ sample (first - 1) = false
  last_lt : last < fall
  last_pressed : sample last = true
  released : ∀ i, last < i → i < fall → sample i = false

namespace Held

variable {sample debounced : Nat → Bool} {first last rise fall : Nat}

theorem first_eq (h : Held sample debounced first last rise fall) :
    streak true sample (rise + 1) = rise + 1 - first :=
  streak_eq_of_block (Nat.le_succ_of_le h.first_le)
    (fun i hi hlt => h.block i hi (Nat.le_of_lt_succ hlt))
    (h.starts.imp_right fun hs => by simp [hs])

/-- The two debounced edges determine what was sampled. -/
theorem unique (h : Held sample debounced first last rise fall)
    {first' last' rise' : Nat}
    (h' : Held sample debounced first' last' rise' fall) :
    first = first' ∧ last = last' := by
  have hrise := h.pulse.start_unique h'.pulse
  subst hrise
  constructor
  · have hfirst := h.first_eq.symm.trans h'.first_eq
    have hle := h.first_le
    have hle' := h'.first_le
    omega
  · rcases Nat.lt_trichotomy last last' with hlt | heq | hgt
    · have hreleased := h.released last' hlt h'.last_lt
      rw [h'.last_pressed] at hreleased
      contradiction
    · exact heq
    · have hreleased := h'.released last hgt h.last_lt
      rw [h.last_pressed] at hreleased
      contradiction

/-- Every pulse that rises on a pressed sample was held. -/
theorem exists_of_pulse (hpulse : Pulse debounced rise fall)
    (hpressed : sample rise = true) :
    ∃ first last, Held sample debounced first last rise fall := by
  have hlt := hpulse.lt
  have hfirst : streak true sample (rise + 1) =
      streak true sample rise + 1 := streak_succ_of_eq hpressed
  have hfirstLe := streak_le true sample (rise + 1)
  have hlastLe := streak_le false sample fall
  have hlast : rise < fall - streak false sample fall := by
    by_contra hle
    have hreleased := eq_of_mem_streak (Nat.not_lt.mp hle) hlt
    rw [hpressed] at hreleased
    contradiction
  refine ⟨rise + 1 - streak true sample (rise + 1),
    fall - streak false sample fall - 1, hpulse, by omega, ?_, ?_, by omega,
    ?_, ?_⟩
  · intro i hi hle
    exact eq_of_mem_streak hi (Nat.lt_succ_of_le hle)
  · by_cases hzero : rise + 1 - streak true sample (rise + 1) = 0
    · exact Or.inl hzero
    · right
      simpa using ne_of_before_streak (b := true) (x := sample)
        (n := rise + 1) (by omega)
  · simpa using ne_of_before_streak (b := false) (x := sample) (n := fall)
      (by omega)
  · intro i hi hlt
    exact eq_of_mem_streak (by omega) hlt

end Held

section Edges

open ButtonPressHandler

variable {gpio : GpioDtSpec} {reads : Nat → GpioDtSpec → Int}
  {first last rise fall : Nat}

/-- At 25 ms a rise takes one pressed sample right after a fall, and three
otherwise. -/
theorem Held.rise_eq
    (h : Held (sampleAt gpio reads) (debouncedAt 25 gpio reads)
      first last rise fall) : rise = first ∨ rise = first + 2 := by
  have hp : (0 : Int) < 25 := by decide
  obtain ⟨hflips, hlevel, hpressed⟩ :=
    flips_of_edge hp h.pulse.low h.pulse.rises
  rw [Bool.not_false] at hpressed
  have hstreak := h.first_eq
  have hle := h.first_le
  by_cases hcarry : (debouncer 25 hp).Carrying ⟨false, 0⟩
      (sampleAt gpio reads) rise
  · have hone := hflips.streak_of_carrying hcarry
    rw [hpressed, hstreak] at hone
    left
    omega
  · obtain ⟨hover, hunder⟩ := hflips.streak_of_not_carrying rfl hcarry
    rw [hlevel, hpressed, hstreak] at hover hunder
    simp only [debouncer, Debouncer.gain] at hover hunder
    right
    push_cast [Nat.le_succ_of_le hle] at hover hunder
    omega

/-- At 25 ms a fall takes one released sample right after the rise, and five
otherwise. -/
theorem Held.fall_eq
    (h : Held (sampleAt gpio reads) (debouncedAt 25 gpio reads)
      first last rise fall) :
    (rise = last ∧ fall = last + 1) ∨ fall = last + 5 := by
  have hp : (0 : Int) < 25 := by decide
  obtain ⟨hflips, hlevel, hreleased⟩ :=
    flips_of_edge hp h.pulse.high_last h.pulse.falls
  rw [Bool.not_true] at hreleased
  have hlt := h.last_lt
  have hstreak : streak false (sampleAt gpio reads) (fall + 1) =
      fall + 1 - (last + 1) := by
    refine streak_eq_of_block (by omega) ?_ (Or.inr ?_)
    · intro i hi hle
      by_cases heq : i = fall
      · rw [heq]
        exact hreleased
      · exact h.released i hi (by omega)
    · rw [Nat.add_sub_cancel, h.last_pressed]
      decide
  by_cases hcarry : (debouncer 25 hp).Carrying ⟨false, 0⟩
      (sampleAt gpio reads) fall
  · left
    have hone := hflips.streak_of_carrying hcarry
    rw [hreleased, hstreak] at hone
    obtain ⟨_, m, rfl, hm⟩ := hcarry
    have hlow : debouncedAt 25 gpio reads m = false := by
      rw [Debouncer.Flips, hlevel, ← debouncedAt_eq hp] at hm
      simpa using hm.symm
    have hrise : ¬ rise < m := fun hrise => by
      rw [h.pulse.high m hrise (Nat.le_succ m)] at hlow
      contradiction
    have hlt' := h.pulse.lt
    omega
  · obtain ⟨hover, hunder⟩ := hflips.streak_of_not_carrying rfl hcarry
    rw [hlevel, hreleased, hstreak] at hover hunder
    simp only [debouncer, Debouncer.gain] at hover hunder
    right
    push_cast [Nat.succ_le_succ (Nat.le_of_lt hlt)] at hover hunder
    omega

/-- A hold of at least four samples from a clean handler, released for five,
rises in poll 2 and falls in the last of these. -/
theorem pulse_of_hold {n : Nat} (hn : 4 ≤ n)
    (hpressed : ∀ i, i < n → sampleAt gpio reads i = true)
    (hreleased : ∀ i, n ≤ i → i < n + 5 → sampleAt gpio reads i = false) :
    Pulse (debouncedAt 25 gpio reads) 2 (n + 4) := by
  have hp : (0 : Int) < 25 := by decide
  have hhold : Debouncer.CleanHold ⟨false, 0⟩ (sampleAt gpio reads) n 5 :=
    ⟨rfl, rfl, hpressed, hreleased⟩
  have hcross : (debouncer 25 hp).Crossings 2 4 := by
    constructor <;> simp [debouncer, Debouncer.gain]
  have hpulse := hhold.pulse hcross (by omega) (by decide)
  rw [Debouncer.fallOf, if_neg (by omega)] at hpulse
  rw [show debouncedAt 25 gpio reads = _ from funext (debouncedAt_eq hp)]
  exact hpulse

theorem pulse_of_reads {n : Nat} (hn : 4 ≤ n) {value : Int} (hvalue : value ≠ 0)
    (hreads : ∀ i, reads i gpio = if i < n then value else 0) :
    Pulse (debouncedAt 25 gpio reads) 2 (n + 4) := by
  have hsample := sampleAt_of_reads hvalue hreads
  apply pulse_of_hold hn
  · intro i hi
    exact (hsample i).trans (decide_eq_true hi)
  · intro i hi _
    exact (hsample i).trans (decide_eq_false (Nat.not_lt.mpr hi))

end Edges

namespace DongleState

variable (s : DongleState) (ticks : Nat → Tick)

/-- The samples of the network button. -/
def nwkSampleAt (n : Nat) : Bool :=
  ButtonPressHandler.isButtonPressed (ticks n).gpioPinGetDt .nwkRstBtn

/-- `main` calls `zb_bdb_reset_via_local_action` in iteration `n`. -/
def ResetsAt (n : Nat) : Prop :=
  ⟨.nwkRstBtn, .zbBdbResetViaLocalAction⟩ ∈ s.pressesAt ticks n

/-- A press of the network button in this run. -/
def NwkHeld (first last rise fall : Nat) : Prop :=
  Held (nwkSampleAt ticks) (s.debouncedAt ticks .nwkRstBtn) first last rise fall

/-- The time from the first to the last pressed sample, both counted. -/
def heldMs (first last : Nat) : Int :=
  25 * (last + 1 - first : Int)

/-- `main` resets the network only at the end of a press that was held for more
than 8000 ms. -/
def ResetsOnlyAfterHold : Prop :=
  ∀ fall, s.ResetsAt ticks fall → ∃ first last rise,
    s.NwkHeld ticks first last rise fall ∧ 8000 < heldMs first last

/-- `main` resets at the end of a press exactly if its debounced edges are more
than 8000 ms apart. -/
theorem resetsAt_iff {n : Nat} :
    s.ResetsAt ticks n ↔ ∃ rise,
      Pulse (s.debouncedAt ticks .nwkRstBtn) rise n ∧
        8000 < 25 * (n - rise : Int) := by
  have hp := runLedBlinkInterval_pos
  rw [ResetsAt, mem_pressesAt, debouncedAt_eq]
  constructor
  · rintro ⟨duration, hpress, haction⟩
    obtain ⟨rise, hpulse, rfl⟩ :=
      (ButtonPressHandler.pressAt_eq_some_iff hp).mp hpress
    refine ⟨rise, hpulse, ?_⟩
    by_contra hshort
    have hshort' : ¬ 8000 < runLedBlinkInterval * (n - rise : Int) := hshort
    simp only [actionOf, if_neg hshort'] at haction
    split_ifs at haction
  · rintro ⟨rise, hpulse, hlong⟩
    have hlong' : 8000 < runLedBlinkInterval * (n - rise : Int) := hlong
    refine ⟨_, (ButtonPressHandler.pressAt_eq_some_iff hp).mpr
      ⟨rise, hpulse, rfl⟩, ?_⟩
    simp only [actionOf, if_pos hlong']

/-- The press timer is ahead of the hold by 50 ms, and by 100 ms when the press
rises on its first sample, right after the fall of the press before. -/
theorem NwkHeld.reset_iff {first last rise fall : Nat}
    (h : s.NwkHeld ticks first last rise fall) :
    s.ResetsAt ticks fall ↔
      (if rise = first then 7925 else 7975) ≤ heldMs first last := by
  have hreset : s.ResetsAt ticks fall ↔ 8000 < 25 * (fall - rise : Int) := by
    rw [resetsAt_iff]
    constructor
    · rintro ⟨rise', hpulse, hlong⟩
      rw [h.pulse.start_unique hpulse]
      exact hlong
    · exact fun hlong => ⟨rise, h.pulse, hlong⟩
  have hheld : Held (ButtonPressHandler.sampleAt .nwkRstBtn
        fun m => (ticks m).gpioPinGetDt)
      (ButtonPressHandler.debouncedAt 25 .nwkRstBtn
        fun m => (ticks m).gpioPinGetDt) first last rise fall := by
    have heq := s.debouncedAt_eq ticks .nwkRstBtn
    rw [NwkHeld, heq] at h
    exact h
  have hlt := h.pulse.lt
  have hfirst := h.first_le
  rw [hreset, heldMs]
  rcases hheld.rise_eq with hrise | hrise
  · rw [if_pos hrise]
    rcases hheld.fall_eq with ⟨hlast, hfall⟩ | hfall <;> omega
  · rw [if_neg (by omega)]
    rcases hheld.fall_eq with ⟨hlast, hfall⟩ | hfall <;> omega

/-- A run resets the network only after holds of more than 8000 ms exactly if no
hold in it takes 7975 or 8000 ms, or, when it rises on its first sample, 7925 to
8000 ms. -/
theorem resetsOnlyAfterHold_iff :
    s.ResetsOnlyAfterHold ticks ↔
      ∀ first last rise fall, s.NwkHeld ticks first last rise fall →
        ¬ ((if rise = first then 7925 else 7975) ≤ heldMs first last ∧
          heldMs first last ≤ 8000) := by
  constructor
  · rintro honly first last rise fall h ⟨hlong, hshort⟩
    obtain ⟨first', last', rise', h', hheld⟩ :=
      honly fall ((h.reset_iff s ticks).mpr hlong)
    obtain ⟨rfl, rfl⟩ := Held.unique h h'
    omega
  · intro hspan fall hreset
    obtain ⟨rise, hpulse, _⟩ := (s.resetsAt_iff ticks).mp hreset
    have hpressed : nwkSampleAt ticks rise = true := by
      have heq := s.debouncedAt_eq ticks .nwkRstBtn
      have hlow := hpulse.low
      have hrises := hpulse.rises
      rw [heq] at hlow hrises
      exact (ButtonPressHandler.flips_of_edge (by decide) hlow hrises).2.2
    obtain ⟨first, last, h⟩ := Held.exists_of_pulse hpulse hpressed
    refine ⟨first, last, rise, h, ?_⟩
    have hlong := (NwkHeld.reset_iff s ticks h).mp hreset
    have hnot := hspan first last rise fall h
    by_contra hshort
    exact hnot ⟨hlong, Int.not_lt.mp hshort⟩

/-- The button is held for 319 samples, 7975 ms, and the network is reset. -/
theorem not_resetsOnlyAfterHold_7975 :
    ¬ ∀ (s : DongleState) (ticks : Nat → Tick), s.ResetsOnlyAfterHold ticks := by
  intro h
  let ticks : Nat → Tick := fun n =>
    { betweenIterations := []
      duringSleep := []
      gpioPinGetDt := fun _ => if n < 319 then 1 else 0
      zbBufGetOutDelayedExt := fun _ => 0 }
  let s := boot (fun gpio => .clean gpio 25) { ledPulse := 0, pinPulse := 0 }
  have hsample : ∀ i, nwkSampleAt ticks i = decide (i < 319) :=
    ButtonPressHandler.sampleAt_of_reads Int.one_ne_zero fun _ => rfl
  have hpulse : Pulse (s.debouncedAt ticks .nwkRstBtn) 2 (319 + 4) := by
    rw [debouncedAt_eq]
    exact pulse_of_reads (by decide) Int.one_ne_zero fun _ => rfl
  have hreset : s.ResetsAt ticks 323 :=
    (s.resetsAt_iff ticks).mpr ⟨2, hpulse, by decide⟩
  obtain ⟨first, last, rise, hheld, hlong⟩ := h s ticks 323 hreset
  have hlast : last < 319 := by
    have hpressed := hheld.last_pressed
    rw [hsample] at hpressed
    exact of_decide_eq_true hpressed
  rw [heldMs] at hlong
  omega

end DongleState

end ZbLightbulb
