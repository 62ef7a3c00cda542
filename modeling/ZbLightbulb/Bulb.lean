/-
The dimmable bulb of `light_bulb` and `light_bulb_dongle`: the On/Off and Level
Control attributes, the PWM outputs, and the three ways they are written (a
request of the stack, start-up, and on the dongle a momentary button press).
Both programs have the same code up to the PWM outputs, so the code is modelled
once over the type `P` of the outputs and the function that sets them.

`pwm_pin_set_usec` is taken to succeed, and `ZB_ZCL_SET_ATTRIBUTE` to store the
first byte it is given in the 8-bit attribute.
-/
import ZbLightbulb.Lib.Runs
import ZbLightbulb.Zboss

namespace ZbLightbulb

universe u

/-- The fields of `dev_ctx` the bulb code writes, and the PWM outputs. -/
@[ext]
structure Bulb (P : Type u) where
  onOff : UInt8
  currentLevel : UInt8
  pwm : P
deriving DecidableEq, Repr

/-- The two attributes of the dimmable light endpoint that the code sets. -/
inductive BulbAttr where
  | onOff
  | currentLevel
deriving DecidableEq, Repr

/-- `zb_ret_t` as far as `zcl_device_cb` assigns it. -/
inductive DeviceCbStatus where
  | retOk
  | retError
deriving DecidableEq, Repr

namespace Bulb

variable {P : Type u}

/-- `ZB_ZCL_SET_ATTRIBUTE` on the dimmable light endpoint. -/
def zbZclSetAttribute (attr : BulbAttr) (value : UInt8) (b : Bulb P) : Bulb P :=
  match attr with
  | .onOff => { b with onOff := value }
  | .currentLevel => { b with currentLevel := value }

variable (setBrightness : UInt8 → P → P)

/-- `new_level` is 16 bits wide: the attribute and the brightness take its low
byte, the test for zero takes all of it. -/
def levelControlSetValue (newLevel : UInt16) (b : Bulb P) : Bulb P :=
  let b := b.zbZclSetAttribute .currentLevel newLevel.toUInt8
  let b := if newLevel = 0 then
      b.zbZclSetAttribute .onOff 0
    else
      b.zbZclSetAttribute .onOff 1
  { b with pwm := setBrightness newLevel.toUInt8 b.pwm }

def onOffSetValue (on : UInt8) (b : Bulb P) : Bulb P :=
  let b := b.zbZclSetAttribute .onOff on
  if on ≠ 0 then
    b.levelControlSetValue setBrightness b.currentLevel.toUInt16
  else
    { b with pwm := setBrightness 0 b.pwm }

def bulbClustersAttrInit (b : Bulb P) : Bulb P :=
  let b := { b with onOff := 1, currentLevel := zbZclLevelControlLevelMaxValue }
  let b := b.zbZclSetAttribute .onOff b.onOff
  b.zbZclSetAttribute .currentLevel b.currentLevel

/-- The two calls of `main` that bring the bulb up, on zeroed attributes and
whatever the outputs held. -/
def startUp (pwm : P) : Bulb P :=
  let b := bulbClustersAttrInit { onOff := 0, currentLevel := 0, pwm := pwm }
  b.levelControlSetValue setBrightness b.currentLevel.toUInt16

end Bulb

/-- `zb_zcl_device_callback_param_t`.  `values` is the first half-word of the
union, so that `data8` is its low byte.  An identifier left to `zcl_scenes_cb`
brings that callback along. -/
inductive DeviceCallbackParam (P : Type u) where
  | levelControlSetValue (newValue : UInt8)
  | setAttrValue (clusterId attrId values : UInt16)
  | other (zclScenesCb : Bulb P → Bulb P × Bool)

namespace Bulb

variable {P : Type u} (setBrightness : UInt8 → P → P)

def zclDeviceCb (param : DeviceCallbackParam P) (b : Bulb P) :
    Bulb P × DeviceCbStatus :=
  match param with
  | .levelControlSetValue newValue =>
      (b.levelControlSetValue setBrightness newValue.toUInt16, .retOk)
  | .setAttrValue clusterId attrId values =>
      -- both locals are declared `zb_uint8_t`
      let clusterId := clusterId.toUInt8
      let attrId := attrId.toUInt8
      if clusterId.toUInt16 = zbZclClusterIdOnOff then
        let value := values.toUInt8
        if attrId.toUInt16 = zbZclAttrOnOffOnOffId then
          (b.onOffSetValue setBrightness value, .retOk)
        else (b, .retOk)
      else if clusterId.toUInt16 = zbZclClusterIdLevelControl then
        let value := values
        if attrId.toUInt16 = zbZclAttrLevelControlCurrentLevelId then
          (b.levelControlSetValue setBrightness value, .retOk)
        else (b, .retOk)
      else (b, .retOk)
  | .other zclScenesCb =>
      let (b, handled) := zclScenesCb b
      if handled = false then (b, .retError) else (b, .retOk)

/-- `UINT8_MAX/3`. -/
def levelControlInc : UInt8 := 255 / 3

/-- The level a momentary press of the network button asks for. -/
def levelControlValue (currentLevel : UInt8) : UInt8 :=
  let value := currentLevel / levelControlInc * levelControlInc
  if value = 255 then 0 else value + levelControlInc

/-- The bulb's part of a momentary press in `main`. -/
def momentaryPress (b : Bulb P) : Bulb P :=
  b.levelControlSetValue setBrightness
    (levelControlValue b.currentLevel).toUInt16

end Bulb

/-! ### The PWM outputs of the two programs -/

namespace LightBulb

/-- `USEC_PER_SEC / 50U`. -/
def ledPwmPeriodUs : Nat := 1000000 / 50

structure Pwm where
  ledPulse : Nat
deriving DecidableEq, Repr

def lightBulbSetBrightness (brightnessLevel : UInt8) (pwm : Pwm) : Pwm :=
  { pwm with ledPulse := brightnessLevel.toNat * ledPwmPeriodUs / 255 }

end LightBulb

namespace Dongle

/-- `USEC_PER_SEC / 25000U`. -/
def ledPwmPeriodUs : Nat := 1000000 / 25000

structure Pwm where
  ledPulse : Nat
  pinPulse : Nat
deriving DecidableEq, Repr

def lightBulbSetBrightness (brightnessLevel : UInt8) (pwm : Pwm) : Pwm :=
  { pwm with ledPulse := brightnessLevel.toNat * ledPwmPeriodUs / 255 }

def externalLightBulbSetBrightness (brightnessLevel : UInt8) (pwm : Pwm) :
    Pwm :=
  { pwm with
    pinPulse := (255 - brightnessLevel.toNat) * ledPwmPeriodUs / 255 }

/-- The dongle sets its two outputs one after the other. -/
def setBrightness (brightnessLevel : UInt8) (pwm : Pwm) : Pwm :=
  externalLightBulbSetBrightness brightnessLevel
    (lightBulbSetBrightness brightnessLevel pwm)

end Dongle

/-- The two programs that contain the bulb. -/
inductive Firmware where
  | lightBulb
  | lightBulbDongle
deriving DecidableEq, Repr

namespace Firmware

def Pwm : Firmware → Type
  | .lightBulb => LightBulb.Pwm
  | .lightBulbDongle => Dongle.Pwm

def setBrightness : (fw : Firmware) → UInt8 → fw.Pwm → fw.Pwm
  | .lightBulb => LightBulb.lightBulbSetBrightness
  | .lightBulbDongle => Dongle.setBrightness

end Firmware

/-! ### What each operation does to the whole bulb -/

namespace Bulb

variable {P : Type u} (setBrightness : UInt8 → P → P) (b : Bulb P)

theorem levelControlSetValue_eq (newLevel : UInt16) :
    b.levelControlSetValue setBrightness newLevel =
      { onOff := if newLevel = 0 then 0 else 1
        currentLevel := newLevel.toUInt8
        pwm := setBrightness newLevel.toUInt8 b.pwm } := by
  by_cases h : newLevel = 0 <;> simp [levelControlSetValue, zbZclSetAttribute, h]

theorem toUInt16_eq_zero_iff (v : UInt8) : v.toUInt16 = 0 ↔ v = 0 := by
  constructor
  · intro h
    have hbyte := congrArg UInt16.toUInt8 h
    simpa using hbyte
  · rintro rfl
    rfl

/-- A level of one byte: the bulb is on unless the level is zero. -/
theorem levelControlSetValue_byte (level : UInt8) :
    b.levelControlSetValue setBrightness level.toUInt16 =
      { onOff := if level = 0 then 0 else 1
        currentLevel := level
        pwm := setBrightness level b.pwm } := by
  rw [levelControlSetValue_eq]
  simp [toUInt16_eq_zero_iff]

theorem onOffSetValue_off :
    b.onOffSetValue setBrightness 0 =
      { b with onOff := 0, pwm := setBrightness 0 b.pwm } := by
  simp [onOffSetValue, zbZclSetAttribute]

/-- An On request sets the stored level again, and with it the On/Off
attribute. -/
theorem onOffSetValue_on {on : UInt8} (hon : on ≠ 0) :
    b.onOffSetValue setBrightness on =
      { onOff := if b.currentLevel = 0 then 0 else 1
        currentLevel := b.currentLevel
        pwm := setBrightness b.currentLevel b.pwm } := by
  simp only [onOffSetValue, if_pos hon, levelControlSetValue_byte]
  rfl

theorem momentaryPress_eq :
    b.momentaryPress setBrightness =
      { onOff := if levelControlValue b.currentLevel = 0 then 0 else 1
        currentLevel := levelControlValue b.currentLevel
        pwm := setBrightness (levelControlValue b.currentLevel) b.pwm } :=
  levelControlSetValue_byte setBrightness b _

/-- `on_off` is on and the level is the maximum after start-up. -/
theorem startUp_eq (pwm : P) :
    startUp setBrightness pwm =
      { onOff := 1, currentLevel := 255, pwm := setBrightness 255 pwm } := by
  simp only [startUp, levelControlSetValue_byte]
  rfl

end Bulb

end ZbLightbulb
