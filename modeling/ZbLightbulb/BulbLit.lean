/-
When the on-board LED is lit: the level is scaled to the PWM period by an
integer division, so that the shorter period of the dongle leaves the lowest
levels without a pulse.
-/
import ZbLightbulb.BulbRace

namespace ZbLightbulb

namespace Firmware

def ledPulse : (fw : Firmware) → fw.Pwm → Nat
  | .lightBulb => LightBulb.Pwm.ledPulse
  | .lightBulbDongle => Dongle.Pwm.ledPulse

def ledPwmPeriodUs : Firmware → Nat
  | .lightBulb => LightBulb.ledPwmPeriodUs
  | .lightBulbDongle => Dongle.ledPwmPeriodUs

theorem ledPulse_setBrightness (fw : Firmware) (level : UInt8) (pwm : fw.Pwm) :
    fw.ledPulse (fw.setBrightness level pwm) =
      level.toNat * fw.ledPwmPeriodUs / 255 := by
  cases fw <;> rfl

/-- A level that is not zero has a pulse. -/
def Shows (fw : Firmware) (level : UInt8) : Prop :=
  level ≠ 0 → 0 < level.toNat * fw.ledPwmPeriodUs / 255

/-- The pulse of the dongle is zero up to level 6. -/
theorem shows_iff (fw : Firmware) (level : UInt8) :
    fw.Shows level ↔ fw = .lightBulb ∨ level = 0 ∨ 7 ≤ level.toNat := by
  have hzero : level = 0 ↔ level.toNat = 0 := UInt8.toNat_inj.symm
  cases fw with
  | lightBulb =>
      simp only [true_or, iff_true]
      intro hne
      have hpos : level.toNat ≠ 0 := fun h => hne (hzero.mpr h)
      change 0 < level.toNat * 20000 / 255
      omega
  | lightBulbDongle =>
      simp only [Shows, ne_eq, hzero, reduceCtorEq, false_or]
      change (¬ level.toNat = 0 → 0 < level.toNat * 40 / 255) ↔ _
      omega

end Firmware

/-- A request of the stack, or the press of a button that only the dongle
has. -/
inductive BulbInput where
  | request (r : BulbRequest)
  | momentaryPress
deriving DecidableEq, Repr

namespace BulbInput

def event : BulbInput → BulbEvent
  | .request r => r.event
  | .momentaryPress => .momentaryPress

/-- The level a request names. -/
def level? : BulbInput → Option UInt8
  | .request (.setValue newValue) => some newValue
  | .request (.setAttrLevel data8) => some data8
  | .request (.setAttrOnOff _) => none
  | .momentaryPress => none

end BulbInput

namespace Bulb

/-- The on-board LED has a pulse exactly if the On/Off attribute is set. -/
def LitWhenOn (fw : Firmware) (b : Bulb fw.Pwm) : Prop :=
  0 < fw.ledPulse b.pwm ↔ b.onOff ≠ 0

theorem lit_litWhenOn_iff {fw : Firmware} (level : UInt8) (pwm : fw.Pwm) :
    LitWhenOn fw (lit fw.setBrightness level pwm) ↔ fw.Shows level := by
  simp only [LitWhenOn, lit, fw.ledPulse_setBrightness, Firmware.Shows]
  by_cases h : level = 0 <;> simp [h]

theorem dark_litWhenOn {fw : Firmware} (level : UInt8) (pwm : fw.Pwm) :
    LitWhenOn fw (dark fw.setBrightness level pwm) := by
  simp [LitWhenOn, dark, fw.ledPulse_setBrightness]

/-- An input lights a level, the one it names if it names one, or switches off
with the level kept. -/
theorem handle_input (fw : Firmware) (b : Bulb fw.Pwm) (i : BulbInput) :
    (∃ level, b.handle fw.setBrightness i.event =
        lit fw.setBrightness level b.pwm ∧
      (i.level? = some level ∨ i.level? = none ∧
        (level = b.currentLevel ∨ level = levelControlValue b.currentLevel))) ∨
      i.level? = none ∧ b.handle fw.setBrightness i.event =
        dark fw.setBrightness b.currentLevel b.pwm := by
  cases i with
  | request r =>
      rcases handle_request fw.setBrightness b r with ⟨hlit, -⟩ | ⟨hdark, rfl⟩
      · left
        refine ⟨_, hlit, ?_⟩
        cases r with
        | setValue newValue => exact Or.inl rfl
        | setAttrLevel data8 => exact Or.inl rfl
        | setAttrOnOff data8 => exact Or.inr ⟨rfl, Or.inl rfl⟩
      · exact Or.inr ⟨rfl, hdark⟩
  | momentaryPress =>
      left
      exact ⟨_, momentaryPress_eq fw.setBrightness b,
        Or.inr ⟨rfl, Or.inr rfl⟩⟩

/-- A momentary press never asks for one of the lowest levels. -/
theorem shows_levelControlValue (fw : Firmware) (level : UInt8) :
    fw.Shows (levelControlValue level) := by
  rw [Firmware.shows_iff]
  right
  have hexact := pressExact level
  rw [PressExact] at hexact
  have hzero : levelControlValue level = 0 ↔
      (levelControlValue level).toNat = 0 := UInt8.toNat_inj.symm
  rw [hzero, hexact]
  split <;> omega

/-- The LED tells, and goes on telling when the stored level is lit again. -/
structure Telling (fw : Firmware) (b : Bulb fw.Pwm) : Prop where
  litWhenOn : LitWhenOn fw b
  shows : fw.Shows b.currentLevel

theorem Telling.handle {fw : Firmware} {b : Bulb fw.Pwm} (h : Telling fw b)
    {i : BulbInput} (hi : ∀ level, i.level? = some level → fw.Shows level) :
    Telling fw (b.handle fw.setBrightness i.event) := by
  rcases handle_input fw b i with ⟨level, heq, hlevel⟩ | ⟨-, heq⟩
  · have hshows : fw.Shows level := by
      rcases hlevel with hnamed | ⟨-, rfl | rfl⟩
      · exact hi level hnamed
      · exact h.shows
      · exact shows_levelControlValue fw b.currentLevel
    rw [heq]
    exact ⟨(lit_litWhenOn_iff level b.pwm).mpr hshows, hshows⟩
  · rw [heq]
    exact ⟨dark_litWhenOn b.currentLevel b.pwm, h.shows⟩

/-- The bulb after start-up and the inputs. -/
def runInputs (fw : Firmware) (pwm : fw.Pwm) (inputs : List BulbInput) :
    Bulb fw.Pwm :=
  run fw.setBrightness pwm (inputs.map BulbInput.event)

theorem runInputs_append (fw : Firmware) (pwm : fw.Pwm)
    (before : List BulbInput) (i : BulbInput) :
    runInputs fw pwm (before ++ [i]) =
      (runInputs fw pwm before).handle fw.setBrightness i.event := by
  simp only [runInputs, run, List.map_append, List.map_singleton,
    List.foldl_concat]

theorem startUp_telling (fw : Firmware) (pwm : fw.Pwm) :
    Telling fw (startUp fw.setBrightness pwm) := by
  have hmax : fw.Shows 255 :=
    (fw.shows_iff 255).mpr (Or.inr (Or.inr (by decide)))
  rw [startUp_eq]
  exact ⟨(lit_litWhenOn_iff 255 pwm).mpr hmax, hmax⟩

/-- The LED is lit exactly when the bulb is on in every run of `light_bulb`, and
in the runs of the dongle in which no request names one of the levels 1 to 6. -/
theorem litWhenOn_iff (fw : Firmware) (pwm : fw.Pwm)
    (inputs : List BulbInput) :
    (∀ before, before <+: inputs →
        LitWhenOn fw (runInputs fw pwm before)) ↔
      fw = .lightBulb ∨ ∀ i ∈ inputs, ∀ level, i.level? = some level →
        level = 0 ∨ 7 ≤ level.toNat := by
  have hshows : (fw = .lightBulb ∨ ∀ i ∈ inputs, ∀ level,
        i.level? = some level → level = 0 ∨ 7 ≤ level.toNat) ↔
      ∀ i ∈ inputs, ∀ level, i.level? = some level → fw.Shows level := by
    simp only [Firmware.shows_iff]
    by_cases hfw : fw = .lightBulb <;> simp [hfw]
  rw [hshows]
  constructor
  · intro hlit i hi level hlevel
    rcases Runs.mem_iff_prefix.mp hi with ⟨before, hprefix⟩
    have hafter := hlit _ hprefix
    rw [runInputs_append] at hafter
    rcases handle_input fw (runInputs fw pwm before) i with
      ⟨level', heq, hnamed⟩ | ⟨hnone, -⟩
    · rcases hnamed with hnamed | ⟨hnone, -⟩
      · rw [hlevel, Option.some.injEq] at hnamed
        rw [hnamed]
        rw [heq] at hafter
        exact (lit_litWhenOn_iff level' _).mp hafter
      · rw [hlevel] at hnone
        contradiction
    · rw [hlevel] at hnone
      contradiction
  · intro hallowed
    have htelling : ∀ before, before <+: inputs →
        Telling fw (runInputs fw pwm before) := by
      intro before
      induction before using List.reverseRecOn with
      | nil => exact fun _ => startUp_telling fw pwm
      | append_singleton before i ih =>
          intro hprefix
          rw [runInputs_append]
          apply (ih ((List.prefix_append before [i]).trans hprefix)).handle
          exact hallowed i (Runs.mem_iff_prefix.mpr ⟨before, hprefix⟩)
    exact fun before hprefix => (htelling before hprefix).litWhenOn

/-- At level 1 the dongle is on without a pulse. -/
theorem not_litWhenOn_level_1 :
    ¬ ∀ (fw : Firmware) (pwm : fw.Pwm) (inputs : List BulbInput),
      LitWhenOn fw (runInputs fw pwm inputs) := by
  intro h
  have hlit := h .lightBulbDongle { ledPulse := 0, pinPulse := 0 }
    [.request (.setValue 1)]
  rw [LitWhenOn] at hlit
  revert hlit
  decide

end Bulb

end ZbLightbulb
