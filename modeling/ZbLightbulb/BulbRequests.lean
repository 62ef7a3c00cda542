/-
Single requests to the bulb: which identifier pairs `zcl_device_cb` acts on, and
whether the two ways of setting the level agree.
-/
import ZbLightbulb.Bulb

namespace ZbLightbulb

universe u

namespace Bulb

variable {P : Type u} (setBrightness : UInt8 → P → P) (b : Bulb P)

/-! ### Which attribute a write reaches -/

/-- The two identifier pairs `zcl_device_cb` names. -/
def NamedPair (clusterId attrId : UInt16) : Prop :=
  (clusterId = zbZclClusterIdOnOff ∧ attrId = zbZclAttrOnOffOnOffId) ∨
    (clusterId = zbZclClusterIdLevelControl ∧
      attrId = zbZclAttrLevelControlCurrentLevelId)

/-- Identifiers whose low bytes are those of On/Off, OnOff. -/
def LowBytesOnOff (clusterId attrId : UInt16) : Prop :=
  clusterId % 256 = zbZclClusterIdOnOff ∧ attrId % 256 = zbZclAttrOnOffOnOffId

/-- Identifiers whose low bytes are those of Level Control, CurrentLevel. -/
def LowBytesLevel (clusterId attrId : UInt16) : Prop :=
  clusterId % 256 = zbZclClusterIdLevelControl ∧
    attrId % 256 = zbZclAttrLevelControlCurrentLevelId

instance (clusterId attrId : UInt16) :
    Decidable (LowBytesOnOff clusterId attrId) :=
  inferInstanceAs (Decidable (_ ∧ _))

instance (clusterId attrId : UInt16) :
    Decidable (LowBytesLevel clusterId attrId) :=
  inferInstanceAs (Decidable (_ ∧ _))

variable {clusterId attrId : UInt16} (values : UInt16)

theorem LowBytesLevel.not_onOff (h : LowBytesLevel clusterId attrId) :
    ¬ LowBytesOnOff clusterId attrId := by
  intro hon
  have hclusters := hon.1.symm.trans h.1
  revert hclusters
  decide

theorem zclDeviceCb_onOff (h : LowBytesOnOff clusterId attrId) :
    b.zclDeviceCb setBrightness (.setAttrValue clusterId attrId values) =
      (b.onOffSetValue setBrightness values.toUInt8, .retOk) := by
  simp [zclDeviceCb, h.1, h.2]

theorem zclDeviceCb_level (h : LowBytesLevel clusterId attrId) :
    b.zclDeviceCb setBrightness (.setAttrValue clusterId attrId values) =
      (b.levelControlSetValue setBrightness values, .retOk) := by
  have hne : zbZclClusterIdLevelControl ≠ zbZclClusterIdOnOff := by decide
  simp [zclDeviceCb, h.1, h.2, hne]

theorem zclDeviceCb_unhandled (hon : ¬ LowBytesOnOff clusterId attrId)
    (hlevel : ¬ LowBytesLevel clusterId attrId) :
    b.zclDeviceCb setBrightness (.setAttrValue clusterId attrId values) =
      (b, .retOk) := by
  simp only [LowBytesOnOff, not_and] at hon
  simp only [LowBytesLevel, not_and] at hlevel
  simp only [zclDeviceCb, UInt16.toUInt16_toUInt8]
  by_cases hc : clusterId % 256 = zbZclClusterIdOnOff
  · rw [if_pos hc, if_neg (hon hc)]
  · rw [if_neg hc]
    by_cases hl : clusterId % 256 = zbZclClusterIdLevelControl
    · rw [if_pos hl, if_neg (hlevel hl)]
    · rw [if_neg hl]

theorem zclDeviceCb_onOffAttr :
    b.zclDeviceCb setBrightness
        (.setAttrValue zbZclClusterIdOnOff zbZclAttrOnOffOnOffId values) =
      (b.onOffSetValue setBrightness values.toUInt8, .retOk) :=
  zclDeviceCb_onOff setBrightness b values (by decide)

theorem zclDeviceCb_levelAttr :
    b.zclDeviceCb setBrightness
        (.setAttrValue zbZclClusterIdLevelControl
          zbZclAttrLevelControlCurrentLevelId values) =
      (b.levelControlSetValue setBrightness values, .retOk) :=
  zclDeviceCb_level setBrightness b values (by decide)

/-- A write changes the bulb only if it names On/Off or CurrentLevel. -/
def DispatchExact (clusterId attrId values : UInt16) : Prop :=
  (b.zclDeviceCb setBrightness (.setAttrValue clusterId attrId values)).1 ≠ b →
    NamedPair clusterId attrId

/-- The bulb already has the attributes and the outputs that a write of
`values` to On/Off would give it. -/
def AlreadyOnOff (values : UInt16) : Prop :=
  if values.toUInt8 = 0 then
    b.onOff = 0 ∧ setBrightness 0 b.pwm = b.pwm
  else
    b.onOff = (if b.currentLevel = 0 then 0 else 1) ∧
      setBrightness b.currentLevel b.pwm = b.pwm

/-- The bulb already has the attributes and the outputs that a write of
`values` to CurrentLevel would give it. -/
def AlreadyLevel (values : UInt16) : Prop :=
  b.currentLevel = values.toUInt8 ∧ b.onOff = (if values = 0 then 0 else 1) ∧
    setBrightness values.toUInt8 b.pwm = b.pwm

theorem onOffSetValue_eq_self_iff :
    b.onOffSetValue setBrightness values.toUInt8 = b ↔
      b.AlreadyOnOff setBrightness values := by
  by_cases h : values.toUInt8 = 0
  · rw [h, onOffSetValue_off, AlreadyOnOff, if_pos h, Bulb.ext_iff]
    simp only [true_and]
    rw [eq_comm]
  · rw [onOffSetValue_on _ _ h, AlreadyOnOff, if_neg h, Bulb.ext_iff]
    simp only [true_and]
    rw [eq_comm]

theorem levelControlSetValue_eq_self_iff :
    b.levelControlSetValue setBrightness values = b ↔
      b.AlreadyLevel setBrightness values := by
  rw [levelControlSetValue_eq, AlreadyLevel, Bulb.ext_iff]
  constructor
  · rintro ⟨hon, hlevel, hpwm⟩
    exact ⟨hlevel.symm, hon.symm, hpwm⟩
  · rintro ⟨hlevel, hon, hpwm⟩
    exact ⟨hon.symm, hlevel.symm, hpwm⟩

/-- The identifiers are compared by their low bytes only: a write under another
identifier with the same low bytes is carried out, and is harmless only where
it has nothing to change. -/
theorem dispatchExact_iff (fw : Firmware) (b : Bulb fw.Pwm)
    (clusterId attrId values : UInt16) :
    b.DispatchExact fw.setBrightness clusterId attrId values ↔
      NamedPair clusterId attrId ∨
        (LowBytesOnOff clusterId attrId →
          b.AlreadyOnOff fw.setBrightness values) ∧
        (LowBytesLevel clusterId attrId →
          b.AlreadyLevel fw.setBrightness values) := by
  rw [DispatchExact]
  by_cases hon : LowBytesOnOff clusterId attrId
  · have hlevel : ¬ LowBytesLevel clusterId attrId :=
      fun h => h.not_onOff hon
    rw [zclDeviceCb_onOff _ _ _ hon, ne_eq, onOffSetValue_eq_self_iff]
    tauto
  · by_cases hlevel : LowBytesLevel clusterId attrId
    · rw [zclDeviceCb_level _ _ _ hlevel, ne_eq,
        levelControlSetValue_eq_self_iff]
      tauto
    · rw [zclDeviceCb_unhandled _ _ _ hon hlevel]
      tauto

/-- An Off write to cluster 0x0106, attribute 0x0000 turns the bulb off. -/
theorem not_dispatchExact_cluster_0106 :
    ¬ ∀ (fw : Firmware) (b : Bulb fw.Pwm) (clusterId attrId values : UInt16),
      b.DispatchExact fw.setBrightness clusterId attrId values := by
  intro h
  let b : Bulb Dongle.Pwm :=
    { onOff := 1, currentLevel := 255, pwm := { ledPulse := 40, pinPulse := 0 } }
  have hchanged : (b.zclDeviceCb Dongle.setBrightness
      (.setAttrValue 0x0106 0x0000 0)).1 ≠ b := by
    decide
  have hnamed := h .lightBulbDongle b 0x0106 0x0000 0 hchanged
  revert hnamed
  simp only [NamedPair]
  decide

/-! ### The two ways to set the level -/

/-- The two messages that carry a level. -/
inductive LevelMessage where
  | setValue (newValue : UInt8)
  | setAttr (data16 : UInt16)
deriving DecidableEq, Repr

def LevelMessage.param : LevelMessage → DeviceCallbackParam P
  | .setValue newValue => .levelControlSetValue newValue
  | .setAttr data16 =>
      .setAttrValue zbZclClusterIdLevelControl
        zbZclAttrLevelControlCurrentLevelId data16

def handleLevel (b : Bulb P) (m : LevelMessage) : Bulb P :=
  (b.zclDeviceCb setBrightness m.param).1

/-- A 16-bit content whose low byte is zero although it is not zero. -/
def ZeroLowByte (data16 : UInt16) : Prop :=
  data16 ≠ 0 ∧ data16 % 256 = 0

theorem toUInt8_eq_zero_iff (data16 : UInt16) :
    data16.toUInt8 = 0 ↔ data16 % 256 = 0 := by
  rw [← UInt16.toUInt16_toUInt8, ← UInt8.toUInt16_inj]
  rfl

theorem handleLevel_setValue (newValue : UInt8) :
    b.handleLevel setBrightness (.setValue newValue) =
      { onOff := if newValue = 0 then 0 else 1
        currentLevel := newValue
        pwm := setBrightness newValue b.pwm } :=
  levelControlSetValue_byte setBrightness b newValue

theorem handleLevel_setAttr (data16 : UInt16) :
    b.handleLevel setBrightness (.setAttr data16) =
      { onOff := if data16 = 0 then 0 else 1
        currentLevel := data16.toUInt8
        pwm := setBrightness data16.toUInt8 b.pwm } := by
  rw [handleLevel, LevelMessage.param, zclDeviceCb_levelAttr,
    levelControlSetValue_eq]

theorem handleLevel_agree_iff (data16 : UInt16) :
    b.handleLevel setBrightness (.setAttr data16) =
        b.handleLevel setBrightness (.setValue data16.toUInt8) ↔
      ¬ ZeroLowByte data16 := by
  rw [handleLevel_setAttr, handleLevel_setValue]
  simp only [Bulb.mk.injEq, and_true, ZeroLowByte, not_and,
    toUInt8_eq_zero_iff]
  by_cases hzero : data16 = 0
  · simp [hzero]
  · by_cases hlow : data16 % 256 = 0
    · simp [hzero, hlow]
    · simp [hzero, hlow]

theorem handleLevel_onOff_iff (m : LevelMessage) :
    ((b.handleLevel setBrightness m).onOff = 1 ↔
        (b.handleLevel setBrightness m).currentLevel ≠ 0) ↔
      ∀ data16, m = .setAttr data16 → ¬ ZeroLowByte data16 := by
  cases m with
  | setValue newValue =>
      rw [handleLevel_setValue]
      by_cases h : newValue = 0 <;> simp [h]
  | setAttr data16 =>
      rw [handleLevel_setAttr]
      simp only [LevelMessage.setAttr.injEq, forall_eq', ne_eq,
        toUInt8_eq_zero_iff, ZeroLowByte, not_and]
      by_cases hzero : data16 = 0
      · simp [hzero]
      · simp [hzero]

/-- The attribute write agrees with the level command exactly on the contents
whose low byte is zero only if they are zero, and after a sequence of messages
the On/Off attribute agrees with the level exactly if the last one is no write
of such a content. -/
theorem levelMessages_agree_iff (fw : Firmware) (b : Bulb fw.Pwm) :
    (∀ data16, b.handleLevel fw.setBrightness (.setAttr data16) =
        b.handleLevel fw.setBrightness (.setValue data16.toUInt8) ↔
      ¬ ZeroLowByte data16) ∧
    ∀ (messages : List LevelMessage) (last : LevelMessage),
      let final := (messages ++ [last]).foldl
        (fun b m => b.handleLevel fw.setBrightness m) b
      (final.onOff = 1 ↔ final.currentLevel ≠ 0) ↔
        ∀ data16, last = .setAttr data16 → ¬ ZeroLowByte data16 := by
  refine ⟨handleLevel_agree_iff fw.setBrightness b, ?_⟩
  intro messages last
  simp only [List.foldl_append, List.foldl_cons, List.foldl_nil]
  exact handleLevel_onOff_iff fw.setBrightness _ last

/-- `data16 = 0x0100` stores level 0 and leaves the bulb on. -/
theorem not_levelMessages_agree_0100 :
    ¬ ∀ (fw : Firmware) (b : Bulb fw.Pwm) (data16 : UInt16),
      b.handleLevel fw.setBrightness (.setAttr data16) =
        b.handleLevel fw.setBrightness (.setValue data16.toUInt8) := by
  intro h
  have hagree := h .lightBulbDongle
    { onOff := 1, currentLevel := 255,
      pwm := ({ ledPulse := 40, pinPulse := 0 } : Dongle.Pwm) } 0x0100
  have hon := congrArg Bulb.onOff hagree
  revert hon
  decide

end Bulb

end ZbLightbulb
