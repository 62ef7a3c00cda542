/-
Runs of the bulb from start-up under requests and momentary presses: the state
the dongle's attributes and outputs keep in step, the one kind of write that
breaks it, and when an On request turns the bulb on.
-/
import ZbLightbulb.BulbRequests

namespace ZbLightbulb

universe u

/-- What can happen to the bulb between two polls: the two requests of the stack
that `zcl_device_cb` handles itself, and the press `main` handles. -/
inductive BulbEvent where
  | setValue (newValue : UInt8)
  | setAttr (clusterId attrId values : UInt16)
  | momentaryPress
deriving DecidableEq, Repr

namespace Bulb

variable {P : Type u} (setBrightness : UInt8 → P → P)

def handle (b : Bulb P) : BulbEvent → Bulb P
  | .setValue newValue =>
      (b.zclDeviceCb setBrightness (.levelControlSetValue newValue)).1
  | .setAttr clusterId attrId values =>
      (b.zclDeviceCb setBrightness (.setAttrValue clusterId attrId values)).1
  | .momentaryPress => b.momentaryPress setBrightness

/-- The bulb after start-up and `events`; `pwm` is what the outputs held
before. -/
def run (pwm : P) (events : List BulbEvent) : Bulb P :=
  events.foldl (handle setBrightness) (startUp setBrightness pwm)

/-- The brightness the bulb should show. -/
def shown (b : Bulb P) : UInt8 :=
  if b.onOff = 1 then b.currentLevel else 0

/-- The bulb after a level `level` has been set. -/
def lit (level : UInt8) (pwm : P) : Bulb P where
  onOff := if level = 0 then 0 else 1
  currentLevel := level
  pwm := setBrightness level pwm

/-- The bulb after it has been switched off with its level kept. -/
def dark (level : UInt8) (pwm : P) : Bulb P where
  onOff := 0
  currentLevel := level
  pwm := setBrightness 0 pwm

/-- A write whose low bytes are those of CurrentLevel and whose content has a
zero low byte without being zero. -/
def WritesZeroLowByte : BulbEvent → Prop
  | .setAttr clusterId attrId values =>
      LowBytesLevel clusterId attrId ∧ ZeroLowByte values
  | _ => False

theorem levelControlSetValue_lit (b : Bulb P) {newLevel : UInt16}
    (h : ¬ ZeroLowByte newLevel) :
    b.levelControlSetValue setBrightness newLevel =
      lit setBrightness newLevel.toUInt8 b.pwm := by
  simp only [ZeroLowByte, not_and] at h
  rw [levelControlSetValue_eq, lit]
  by_cases hzero : newLevel = 0
  · simp [hzero]
  · simp [hzero, toUInt8_eq_zero_iff, h hzero]

/-- Every event sets a level, switches off with the level kept, or does
nothing, except for a write that stores a zero byte of a content that is not
zero. -/
theorem handle_cases (b : Bulb P) {e : BulbEvent}
    (h : ¬ WritesZeroLowByte e) :
    (∃ level, b.handle setBrightness e = lit setBrightness level b.pwm) ∨
      b.handle setBrightness e = dark setBrightness b.currentLevel b.pwm ∨
      b.handle setBrightness e = b := by
  cases e with
  | setValue newValue =>
      exact Or.inl ⟨newValue, handleLevel_setValue setBrightness b newValue⟩
  | momentaryPress =>
      exact Or.inl ⟨_, momentaryPress_eq setBrightness b⟩
  | setAttr clusterId attrId values =>
      by_cases hon : LowBytesOnOff clusterId attrId
      · rw [handle, zclDeviceCb_onOff _ _ _ hon]
        by_cases hzero : values.toUInt8 = 0
        · rw [hzero]
          exact Or.inr (Or.inl (onOffSetValue_off setBrightness b))
        · exact Or.inl ⟨_, onOffSetValue_on setBrightness b hzero⟩
      · by_cases hlevel : LowBytesLevel clusterId attrId
        · rw [handle, zclDeviceCb_level _ _ _ hlevel]
          have hlow : ¬ ZeroLowByte values := fun hz => h ⟨hlevel, hz⟩
          exact Or.inl ⟨_, levelControlSetValue_lit setBrightness b hlow⟩
        · rw [handle, zclDeviceCb_unhandled _ _ _ hon hlevel]
          exact Or.inr (Or.inr rfl)

/-! ### The state the dongle keeps -/

/-- The attributes agree with each other and both outputs show their
brightness. -/
structure Consistent (b : Bulb Dongle.Pwm) : Prop where
  onOff_bool : b.onOff = 0 ∨ b.onOff = 1
  level_ne_zero : b.onOff = 1 → b.currentLevel ≠ 0
  ledPulse_eq : b.pwm.ledPulse = b.shown.toNat * 40 / 255
  pinPulse_eq : b.pwm.pinPulse = (255 - b.shown.toNat) * 40 / 255

theorem lit_shown (level : UInt8) (pwm : Dongle.Pwm) :
    (lit Dongle.setBrightness level pwm).shown = level := by
  by_cases h : level = 0 <;> simp [shown, lit, h]

theorem lit_consistent (level : UInt8) (pwm : Dongle.Pwm) :
    (lit Dongle.setBrightness level pwm).Consistent := by
  have hshown := lit_shown level pwm
  refine ⟨?_, ?_, ?_, ?_⟩
  · by_cases h : level = 0 <;> simp [lit, h]
  · by_cases h : level = 0 <;> simp [lit, h]
  · rw [hshown]
    rfl
  · rw [hshown]
    rfl

theorem dark_consistent (level : UInt8) (pwm : Dongle.Pwm) :
    (dark Dongle.setBrightness level pwm).Consistent := by
  have hshown : (dark Dongle.setBrightness level pwm).shown = 0 := rfl
  refine ⟨Or.inl rfl, by simp [dark], ?_, ?_⟩
  · rw [hshown]
    rfl
  · rw [hshown]
    rfl

/-- The 8-bit arithmetic of a momentary press gives what exact integers give. -/
def PressExact (currentLevel : UInt8) : Prop :=
  (levelControlValue currentLevel).toNat =
    if currentLevel.toNat / 85 * 85 = 255 then 0
    else currentLevel.toNat / 85 * 85 + 85

theorem pressExact (currentLevel : UInt8) : PressExact currentLevel := by
  have hlt := UInt8.toNat_lt currentLevel
  have hquot : (currentLevel / levelControlInc * levelControlInc).toNat =
      currentLevel.toNat / 85 * 85 := by
    rw [UInt8.toNat_mul, UInt8.toNat_div]
    change currentLevel.toNat / 85 * 85 % 256 = _
    omega
  have hmax : currentLevel / levelControlInc * levelControlInc = 255 ↔
      currentLevel.toNat / 85 * 85 = 255 := by
    rw [← UInt8.toNat_inj, hquot]
    rfl
  simp only [PressExact, levelControlValue, hmax]
  split
  · rfl
  · rw [UInt8.toNat_add, hquot]
    change (currentLevel.toNat / 85 * 85 + 85) % 256 = _
    omega

/-- Off, then On, gives the bulb back as it was. -/
def OffOnRestores (b : Bulb Dongle.Pwm) : Prop :=
  ∀ on : UInt16, on.toUInt8 ≠ 0 →
    [BulbEvent.setAttr zbZclClusterIdOnOff zbZclAttrOnOffOnOffId 0,
      BulbEvent.setAttr zbZclClusterIdOnOff zbZclAttrOnOffOnOffId on].foldl
        (handle Dongle.setBrightness) b = b

/-- What holds of the dongle's bulb between any two events. -/
structure Kept (b : Bulb Dongle.Pwm) : Prop where
  consistent : b.Consistent
  pressExact : PressExact b.currentLevel
  restores : b.onOff = 1 → b.OffOnRestores

theorem Consistent.restores {b : Bulb Dongle.Pwm} (h : b.Consistent)
    (hon : b.onOff = 1) : b.OffOnRestores := by
  intro on hnonzero
  have hshown : b.shown = b.currentLevel := by rw [shown, if_pos hon]
  have hled := h.ledPulse_eq
  have hpin := h.pinPulse_eq
  rw [hshown] at hled hpin
  simp only [List.foldl_cons, List.foldl_nil, handle, zclDeviceCb_onOffAttr]
  rw [onOffSetValue_on _ _ hnonzero, UInt16.toUInt8_ofNat, onOffSetValue_off]
  simp only [if_neg (h.level_ne_zero hon)]
  refine Bulb.ext hon.symm rfl ?_
  cases hp : b.pwm
  simp only [hp] at hled hpin
  simp [Dongle.setBrightness, Dongle.lightBulbSetBrightness,
    Dongle.externalLightBulbSetBrightness, hled, hpin, Dongle.ledPwmPeriodUs]

theorem Consistent.kept {b : Bulb Dongle.Pwm} (h : b.Consistent) : b.Kept :=
  ⟨h, Bulb.pressExact b.currentLevel, h.restores⟩

theorem startUp_kept (pwm : Dongle.Pwm) :
    (startUp Dongle.setBrightness pwm).Kept := by
  rw [startUp_eq]
  exact (lit_consistent 255 pwm).kept

theorem Kept.handle {b : Bulb Dongle.Pwm} (h : b.Kept) {e : BulbEvent}
    (hallowed : ¬ WritesZeroLowByte e) :
    (b.handle Dongle.setBrightness e).Kept := by
  rcases handle_cases Dongle.setBrightness b hallowed with
    ⟨level, hlit⟩ | hdark | hsame
  · rw [hlit]
    exact (lit_consistent level b.pwm).kept
  · rw [hdark]
    exact (dark_consistent b.currentLevel b.pwm).kept
  · rw [hsame]
    exact h

/-- The write leaves the bulb on at level zero. -/
theorem not_kept_of_writesZeroLowByte (b : Bulb Dongle.Pwm) {e : BulbEvent}
    (h : WritesZeroLowByte e) : ¬ (b.handle Dongle.setBrightness e).Kept := by
  cases e with
  | setValue newValue => exact h.elim
  | momentaryPress => exact h.elim
  | setAttr clusterId attrId values =>
      obtain ⟨hlevel, hnonzero, hlow⟩ := h
      intro hkept
      have hne := hkept.consistent.level_ne_zero
      simp only [Bulb.handle, zclDeviceCb_level _ _ _ hlevel,
        levelControlSetValue_eq, if_neg hnonzero] at hne
      exact hne trivial ((toUInt8_eq_zero_iff values).mpr hlow)

/-- The bulb keeps its state through a run exactly if no write in it has the low
bytes of CurrentLevel and a content with a zero low byte that is not zero. -/
theorem run_kept_iff (pwm : Dongle.Pwm) (events : List BulbEvent) :
    (∀ before, before <+: events →
        (run Dongle.setBrightness pwm before).Kept) ↔
      ∀ e ∈ events, ¬ WritesZeroLowByte e := by
  have hiff := Runs.foldl_prefix_iff (handle Dongle.setBrightness) Kept
    (fun _ e => ¬ WritesZeroLowByte e)
    (fun _ _ hkept hallowed => hkept.handle hallowed)
    (fun b _ _ hbad =>
      not_kept_of_writesZeroLowByte b (Classical.not_not.mp hbad))
    events _ (startUp_kept pwm)
  simp only [run]
  rw [hiff]
  constructor
  · intro h e hmem
    obtain ⟨before, hprefix⟩ := Runs.mem_iff_prefix.mp hmem
    exact h before e hprefix
  · intro h before e hprefix
    exact h e (Runs.mem_iff_prefix.mpr ⟨before, hprefix⟩)

/-- The events the bulb should be able to take: a write to CurrentLevel itself
carries a byte. -/
def CarriesByte : BulbEvent → Prop
  | .setAttr clusterId attrId values =>
      clusterId = zbZclClusterIdLevelControl →
        attrId = zbZclAttrLevelControlCurrentLevelId → values.toNat ≤ 255
  | _ => True

/-- A write of 0x0100 to attribute 0x0000 of cluster 0x0108 leaves the bulb on
at level zero. -/
theorem not_run_kept_cluster_0108 :
    ¬ ∀ (pwm : Dongle.Pwm) (events : List BulbEvent),
      (∀ e ∈ events, CarriesByte e) →
        (run Dongle.setBrightness pwm events).Kept := by
  intro h
  have hkept := h { ledPulse := 0, pinPulse := 0 }
    [.setAttr 0x0108 0x0000 0x0100] (by simp [CarriesByte]; decide)
  have hne := hkept.consistent.level_ne_zero
  revert hne
  decide

/-! ### On requests -/

/-- An On request sets the stored level again, so it turns the bulb on exactly
if that level is not zero. -/
theorem run_on_iff (fw : Firmware) (pwm : fw.Pwm) (events : List BulbEvent)
    (on : UInt16) (hon : on.toUInt8 ≠ 0) :
    let b := run fw.setBrightness pwm events
    (b.zclDeviceCb fw.setBrightness
        (.setAttrValue zbZclClusterIdOnOff zbZclAttrOnOffOnOffId on)).1.onOff =
          1 ↔ b.currentLevel ≠ 0 := by
  intro b
  rw [zclDeviceCb_onOffAttr, onOffSetValue_on _ _ hon]
  by_cases h : b.currentLevel = 0 <;> simp [h]

theorem run_on_after_off :
    let b := run Dongle.setBrightness { ledPulse := 0, pinPulse := 0 }
      [.setAttr 0x0006 0x0000 0]
    (b.zclDeviceCb Dongle.setBrightness
        (.setAttrValue zbZclClusterIdOnOff zbZclAttrOnOffOnOffId 1)).1.onOff =
          1 :=
  (run_on_iff .lightBulbDongle { ledPulse := 0, pinPulse := 0 }
    [.setAttr 0x0006 0x0000 0] 1 (by decide)).mpr (by decide)

/-- After the level has been set to zero, On leaves the bulb off. -/
theorem not_run_on_after_level_zero :
    ¬ ∀ (fw : Firmware) (pwm : fw.Pwm) (events : List BulbEvent) (on : UInt16),
      on.toUInt8 ≠ 0 →
        ((run fw.setBrightness pwm events).zclDeviceCb fw.setBrightness
          (.setAttrValue zbZclClusterIdOnOff zbZclAttrOnOffOnOffId
            on)).1.onOff = 1 := by
  intro h
  have hon := h .lightBulbDongle { ledPulse := 0, pinPulse := 0 }
    [.setValue 0] 1 (by decide)
  revert hon
  decide

end Bulb

end ZbLightbulb
