/-
The momentary press of the dongle as the separate steps it takes in the main
thread, with complete requests of the Zigbee thread between any two of them: the
Zigbee thread has the higher priority, so a request runs to its end once it has
started.
-/
import ZbLightbulb.BulbRuns

namespace ZbLightbulb

universe u

/-- A level or on/off request with an 8-bit value. -/
inductive BulbRequest where
  | setValue (newValue : UInt8)
  | setAttrLevel (data8 : UInt8)
  | setAttrOnOff (data8 : UInt8)
deriving DecidableEq, Repr

namespace BulbRequest

def event : BulbRequest → BulbEvent
  | .setValue newValue => .setValue newValue
  | .setAttrLevel data8 =>
      .setAttr zbZclClusterIdLevelControl zbZclAttrLevelControlCurrentLevelId
        data8.toUInt16
  | .setAttrOnOff data8 =>
      .setAttr zbZclClusterIdOnOff zbZclAttrOnOffOnOffId data8.toUInt16

/-- The level stored after the request, from the level stored before it. -/
def level (level : UInt8) : BulbRequest → UInt8
  | .setValue newValue => newValue
  | .setAttrLevel data8 => data8
  | .setAttrOnOff _ => level

/-- The brightness the request asks for, from the level stored before it. -/
def brightness (level : UInt8) : BulbRequest → UInt8
  | .setValue newValue => newValue
  | .setAttrLevel data8 => data8
  | .setAttrOnOff data8 => if data8 = 0 then 0 else level

/-- The level stored after some requests. -/
def levelAfter (level : UInt8) (requests : List BulbRequest) : UInt8 :=
  requests.foldl BulbRequest.level level

/-- The brightness the last of some requests asks for. -/
def lastBrightness (level : UInt8) : List BulbRequest → Option UInt8
  | [] => none
  | [r] => some (r.brightness level)
  | r :: rs => lastBrightness (r.level level) rs

theorem lastBrightness_cons (level : UInt8) (r : BulbRequest)
    (rs : List BulbRequest) (hrs : rs ≠ []) :
    lastBrightness level (r :: rs) = lastBrightness (r.level level) rs := by
  cases rs with
  | nil => contradiction
  | cons _ _ => rfl

theorem lastBrightness_append (level : UInt8) (before after : List BulbRequest)
    (hafter : after ≠ []) :
    lastBrightness level (before ++ after) =
      lastBrightness (levelAfter level before) after := by
  induction before generalizing level with
  | nil => rfl
  | cons r before ih =>
      rw [List.cons_append, lastBrightness_cons level r _ (by simp [hafter]),
        ih]
      rfl

theorem lastBrightness_eq_none {level : UInt8} {rs : List BulbRequest} :
    lastBrightness level rs = none ↔ rs = [] := by
  induction rs generalizing level with
  | nil => simp [lastBrightness]
  | cons r rs ih =>
      cases rs with
      | nil => simp [lastBrightness]
      | cons _ _ =>
          rw [lastBrightness_cons level r _ (by simp), ih]
          simp

end BulbRequest

namespace Bulb

open BulbRequest

def request (b : Bulb Dongle.Pwm) (r : BulbRequest) : Bulb Dongle.Pwm :=
  b.handle Dongle.setBrightness r.event

/-- The requests that run between two steps of a momentary press. -/
structure Interleaving where
  afterRead : List BulbRequest
  afterLevel : List BulbRequest
  afterOnOff : List BulbRequest
  afterLed : List BulbRequest

/-- A momentary press, step by step: read `current_level`, store the new level,
store `on_off`, set the on-board output, set the external output. -/
def pressInterleaved (i : Interleaving) (b : Bulb Dongle.Pwm) :
    Bulb Dongle.Pwm :=
  let value := levelControlValue b.currentLevel
  let b := i.afterRead.foldl request b
  let b := b.zbZclSetAttribute .currentLevel value
  let b := i.afterLevel.foldl request b
  let b := b.zbZclSetAttribute .onOff (if value = 0 then 0 else 1)
  let b := i.afterOnOff.foldl request b
  let b := { b with pwm := Dongle.lightBulbSetBrightness value b.pwm }
  let b := i.afterLed.foldl request b
  { b with pwm := Dongle.externalLightBulbSetBrightness value b.pwm }

/-- Without requests in between the steps are the press of a sequential run. -/
theorem pressInterleaved_sequential (b : Bulb Dongle.Pwm) :
    pressInterleaved ⟨[], [], [], []⟩ b =
      b.momentaryPress Dongle.setBrightness := by
  rw [momentaryPress_eq]
  rfl

def ledPulseOf (brightness : UInt8) : Nat :=
  brightness.toNat * 40 / 255

def pinPulseOf (brightness : UInt8) : Nat :=
  (255 - brightness.toNat) * 40 / 255

/-- What a request leaves: a bulb that shows the brightness it asked for. -/
structure Shows (brightness : UInt8) (b : Bulb Dongle.Pwm) : Prop where
  consistent : b.Consistent
  shown_eq : b.shown = brightness

/-- A request lights the level it leaves stored, or it is an Off request and
switches off with the level kept. -/
theorem handle_request {P : Type u} (setBrightness : UInt8 → P → P)
    (b : Bulb P) (r : BulbRequest) :
    (b.handle setBrightness r.event =
        lit setBrightness (r.level b.currentLevel) b.pwm ∧
      r.brightness b.currentLevel = r.level b.currentLevel) ∨
    (b.handle setBrightness r.event =
        dark setBrightness b.currentLevel b.pwm ∧ r = .setAttrOnOff 0) := by
  cases r with
  | setValue newValue =>
      exact Or.inl ⟨handleLevel_setValue setBrightness b newValue, rfl⟩
  | setAttrLevel data8 =>
      left
      rw [event, handle, zclDeviceCb_levelAttr, levelControlSetValue_byte]
      exact ⟨rfl, rfl⟩
  | setAttrOnOff data8 =>
      rw [event, handle, zclDeviceCb_onOffAttr, UInt8.toUInt8_toUInt16]
      by_cases hzero : data8 = 0
      · right
        rw [hzero, onOffSetValue_off]
        exact ⟨rfl, rfl⟩
      · left
        rw [onOffSetValue_on _ _ hzero, brightness, if_neg hzero]
        exact ⟨rfl, rfl⟩

theorem request_spec (b : Bulb Dongle.Pwm) (r : BulbRequest) :
    (b.request r).currentLevel = r.level b.currentLevel ∧
      (b.request r).Shows (r.brightness b.currentLevel) := by
  rw [request]
  rcases handle_request Dongle.setBrightness b r with
    ⟨hlit, hbrightness⟩ | ⟨hdark, rfl⟩
  · rw [hlit, hbrightness]
    exact ⟨rfl, lit_consistent _ b.pwm, lit_shown _ b.pwm⟩
  · rw [hdark]
    exact ⟨rfl, dark_consistent b.currentLevel b.pwm, rfl⟩

theorem foldl_request_level (b : Bulb Dongle.Pwm) (rs : List BulbRequest) :
    (rs.foldl request b).currentLevel = levelAfter b.currentLevel rs := by
  induction rs generalizing b with
  | nil => rfl
  | cons r rs ih =>
      rw [List.foldl_cons, ih, (request_spec b r).1]
      rfl

theorem foldl_request_shows {b : Bulb Dongle.Pwm} {rs : List BulbRequest}
    {brightness : UInt8}
    (hlast : lastBrightness b.currentLevel rs = some brightness) :
    (rs.foldl request b).Shows brightness := by
  induction rs generalizing b with
  | nil => simp [lastBrightness] at hlast
  | cons r rs ih =>
      by_cases hrs : rs = []
      · subst hrs
        simp only [lastBrightness, Option.some.injEq] at hlast
        rw [← hlast]
        exact (request_spec b r).2
      · rw [lastBrightness_cons _ _ _ hrs, ← (request_spec b r).1] at hlast
        exact ih hlast

/-- Outputs of the brightness `value` on a bulb whose attributes ask for
another brightness are right exactly if the pulses are the same. -/
theorem Shows.consistent_iff {brightness : UInt8} {b : Bulb Dongle.Pwm}
    (h : b.Shows brightness) (pwm : Dongle.Pwm) :
    ({ b with pwm := pwm } : Bulb Dongle.Pwm).Consistent ↔
      pinPulseOf brightness = pwm.pinPulse ∧
        ledPulseOf brightness = pwm.ledPulse := by
  have hshown : ({ b with pwm := pwm } : Bulb Dongle.Pwm).shown =
      brightness := h.shown_eq
  constructor
  · intro hcons
    have hled := hcons.ledPulse_eq
    have hpin := hcons.pinPulse_eq
    rw [hshown] at hled hpin
    exact ⟨hpin.symm, hled.symm⟩
  · rintro ⟨hpin, hled⟩
    refine ⟨h.consistent.onOff_bool, h.consistent.level_ne_zero, ?_, ?_⟩
    · rw [hshown]
      exact hled.symm
    · rw [hshown]
      exact hpin.symm

/-- The value of a press is zero or at least 85. -/
theorem levelControlValue_eq_zero_or (level : UInt8) :
    levelControlValue level = 0 ∨ 85 ≤ (levelControlValue level).toNat := by
  have hexact := pressExact level
  rw [PressExact] at hexact
  split at hexact
  · left
    exact UInt8.toNat_inj.mp hexact
  · right
    omega

/-- Attributes with the On/Off value and the outputs of a press, but the level of
a request that ran between the two attribute stores. -/
theorem press_over_level_consistent_iff {value : UInt8} (level : UInt8)
    (hrange : value = 0 ∨ 85 ≤ value.toNat) :
    ({ onOff := if value = 0 then 0 else 1
       currentLevel := level
       pwm := { ledPulse := ledPulseOf value, pinPulse := pinPulseOf value } } :
      Bulb Dongle.Pwm).Consistent ↔
      value = 0 ∨ (ledPulseOf level = ledPulseOf value ∧
        pinPulseOf level = pinPulseOf value) := by
  rcases hrange with rfl | hlarge
  · simp only [true_or, iff_true]
    exact ⟨Or.inl rfl, by simp, rfl, rfl⟩
  · have hne : value ≠ 0 := by
      rintro rfl
      simp at hlarge
    simp only [hne, false_or]
    constructor
    · intro hcons
      exact ⟨hcons.ledPulse_eq.symm, hcons.pinPulse_eq.symm⟩
    · rintro ⟨hled, hpin⟩
      refine ⟨Or.inr rfl, fun _ => ?_, hled.symm, hpin.symm⟩
      rintro rfl
      simp only [ledPulseOf, UInt8.toNat_ofNat] at hled
      omega

/-- The requests between the steps do no harm.  If one runs after `main` has
stored `on_off`, the brightness left by the last of them has the external pulse
of the press, and its on-board pulse too unless one runs after that output has
been set.  If none does, the press switches off, or the level left between the
two attribute stores has both pulses of the press. -/
def Interleaving.Harmless (i : Interleaving) (b : Bulb Dongle.Pwm) : Prop :=
  let value := levelControlValue b.currentLevel
  let level := levelAfter value i.afterLevel
  match lastBrightness level (i.afterOnOff ++ i.afterLed) with
  | none => value = 0 ∨
      (ledPulseOf level = ledPulseOf value ∧
        pinPulseOf level = pinPulseOf value)
  | some brightness => pinPulseOf brightness = pinPulseOf value ∧
      (i.afterLed = [] → ledPulseOf brightness = ledPulseOf value)

/-- Requests that run after the on-board output has been set leave that output
right, and the external one to the press. -/
theorem pin_over_request_consistent_iff {value brightness : UInt8}
    {b : Bulb Dongle.Pwm} {rs : List BulbRequest}
    (hlast : lastBrightness b.currentLevel rs = some brightness) :
    ({ rs.foldl request b with
        pwm := Dongle.externalLightBulbSetBrightness value
          (rs.foldl request b).pwm } : Bulb Dongle.Pwm).Consistent ↔
      pinPulseOf brightness = pinPulseOf value := by
  have hshows := foldl_request_shows hlast
  have hled : ledPulseOf brightness = (rs.foldl request b).pwm.ledPulse := by
    rw [hshows.consistent.ledPulse_eq, hshows.shown_eq]
    rfl
  apply (hshows.consistent_iff _).trans
  constructor
  · exact fun hpin => hpin.1
  · exact fun hpin => ⟨hpin, hled⟩

/-- After the press has finished the bulb is consistent exactly if the requests
between its steps did no harm. -/
theorem pressInterleaved_consistent_iff (i : Interleaving)
    (b : Bulb Dongle.Pwm) :
    (pressInterleaved i b).Consistent ↔ i.Harmless b := by
  obtain ⟨afterRead, afterLevel, afterOnOff, afterLed⟩ := i
  simp only [Interleaving.Harmless]
  generalize hvalue : levelControlValue b.currentLevel = value
  have hrange := levelControlValue_eq_zero_or b.currentLevel
  rw [hvalue] at hrange
  let stored := afterLevel.foldl request
    ((afterRead.foldl request b).zbZclSetAttribute .currentLevel value)
  let switched := stored.zbZclSetAttribute .onOff (if value = 0 then 0 else 1)
  have hlevel : switched.currentLevel = levelAfter value afterLevel :=
    foldl_request_level _ afterLevel
  generalize levelAfter value afterLevel = level at hlevel
  let ledSet : Bulb Dongle.Pwm :=
    { afterOnOff.foldl request switched with
      pwm := Dongle.lightBulbSetBrightness value
        (afterOnOff.foldl request switched).pwm }
  have hfinal : pressInterleaved ⟨afterRead, afterLevel, afterOnOff, afterLed⟩ b
      = { afterLed.foldl request ledSet with
          pwm := Dongle.externalLightBulbSetBrightness value
            (afterLed.foldl request ledSet).pwm } := by
    simp only [pressInterleaved, hvalue]
    rfl
  rw [hfinal]
  by_cases hled : afterLed = []
  · subst hled
    simp only [List.append_nil, List.foldl_nil, forall_const]
    cases hlast : lastBrightness level afterOnOff with
    | none =>
        -- nothing runs after `main` has stored `on_off`
        have hnil := lastBrightness_eq_none.mp hlast
        subst hnil
        have hiff := press_over_level_consistent_iff level hrange
        rw [← hlevel] at hiff ⊢
        exact hiff
    | some brightness =>
        rw [← hlevel] at hlast
        exact (foldl_request_shows hlast).consistent_iff
          { ledPulse := ledPulseOf value, pinPulse := pinPulseOf value }
  · -- the last request runs after the on-board output has been set
    rw [lastBrightness_append level afterOnOff afterLed hled]
    have hledLevel : ledSet.currentLevel = levelAfter level afterOnOff := by
      rw [← hlevel]
      exact foldl_request_level switched afterOnOff
    cases hlast : lastBrightness (levelAfter level afterOnOff) afterLed with
    | none => exact absurd (lastBrightness_eq_none.mp hlast) hled
    | some brightness =>
        rw [← hledLevel] at hlast
        simp only [hled, false_implies, and_true]
        exact pin_over_request_consistent_iff hlast

/-- From start-up the press switches off.  A level request just before the
external output is set turns the bulb on, and that output stays dark. -/
theorem not_pressInterleaved_consistent_request_before_pin :
    ¬ ∀ (i : Interleaving) (b : Bulb Dongle.Pwm), b.Consistent →
      (pressInterleaved i b).Consistent := by
  intro h
  have hcons := h ⟨[], [], [], [.setValue 255]⟩
    (startUp Dongle.setBrightness { ledPulse := 0, pinPulse := 0 })
    (startUp_kept _).consistent
  have hpin := hcons.pinPulse_eq
  revert hpin
  decide

end Bulb

end ZbLightbulb
