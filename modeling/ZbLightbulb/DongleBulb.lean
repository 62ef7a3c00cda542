/-
The bulb inside the main loop of the dongle.  Whatever the buttons and the stack
do, it is a run of the bulb on its own; and with a stack that writes nothing the
taps of the network button alone set the level.  The runs have clean handlers.
-/
import Mathlib.Tactic.IntervalCases
import ZbLightbulb.BulbRuns
import ZbLightbulb.PressCode

namespace ZbLightbulb

/-- The request of the stack that the bulb sees. -/
def StackEvent.bulbEvent : StackEvent → Option BulbEvent
  | .signal _ _ => none
  | .deviceCb (.levelControlSetValue newValue) => some (.setValue newValue)
  | .deviceCb (.setAttrValue clusterId attrId values) =>
      some (.setAttr clusterId attrId values)
  | .deviceCb (.other _) => none

/-- The callback of the scenes is not called. -/
def StackEvent.WithoutScenes (e : StackEvent) : Prop :=
  ∀ zclScenesCb, e ≠ .deviceCb (.other zclScenesCb)

/-- The step of the level, of a momentary press. -/
def Press.bulbEvent (press : Press) : Option BulbEvent :=
  match press.action with
  | .levelStep _ => some .momentaryPress
  | .zbBdbResetViaLocalAction | .statusFlip | .onOffCmd _ => none

/-- What the Zigbee thread does in an iteration, in order. -/
def Tick.stackEvents (tick : Tick) : List StackEvent :=
  tick.betweenIterations ++ tick.duringSleep

namespace Bulb

/-- Both outputs are set from one brightness, the second from its complement. -/
structure OutputsShow (v : UInt8) (pwm : Dongle.Pwm) : Prop where
  ledPulse : pwm.ledPulse = v.toNat * 40 / 255
  pinPulse : pwm.pinPulse = (255 - v.toNat) * 40 / 255

/-- Together they are on for the whole period, or for 1 us less. -/
theorem OutputsShow.sum {v : UInt8} {pwm : Dongle.Pwm} (h : OutputsShow v pwm) :
    pwm.ledPulse + pwm.pinPulse = if v.toNat % 51 = 0 then 40 else 39 := by
  have hall : ∀ level < 256, level * 40 / 255 + (255 - level) * 40 / 255 =
      if level % 51 = 0 then 40 else 39 := by decide +kernel
  rw [h.ledPulse, h.pinPulse]
  exact hall v.toNat (UInt8.toNat_lt v)

def Complementary (b : Bulb Dongle.Pwm) : Prop :=
  ∃ v, OutputsShow v b.pwm

/-- Every event leaves the outputs alone or sets both, a write with a zero low
byte too. -/
theorem Complementary.handle {b : Bulb Dongle.Pwm} (h : b.Complementary)
    (e : BulbEvent) : (b.handle Dongle.setBrightness e).Complementary := by
  have hset : ∀ newLevel : UInt16,
      (b.levelControlSetValue Dongle.setBrightness newLevel).Complementary := by
    intro newLevel
    rw [levelControlSetValue_eq]
    exact ⟨newLevel.toUInt8, rfl, rfl⟩
  cases e with
  | setValue newValue => exact hset _
  | momentaryPress => exact hset _
  | setAttr clusterId attrId values =>
      by_cases hon : LowBytesOnOff clusterId attrId
      · rw [Bulb.handle, zclDeviceCb_onOff _ _ _ hon]
        by_cases hzero : values.toUInt8 = 0
        · rw [hzero, onOffSetValue_off]
          exact ⟨0, rfl, rfl⟩
        · rw [onOffSetValue_on _ _ hzero]
          exact ⟨b.currentLevel, rfl, rfl⟩
      · by_cases hlevel : LowBytesLevel clusterId attrId
        · rw [Bulb.handle, zclDeviceCb_level _ _ _ hlevel]
          exact hset _
        · rw [Bulb.handle, zclDeviceCb_unhandled _ _ _ hon hlevel]
          exact h

end Bulb

namespace DongleState

/-- What an iteration does to the bulb. -/
def bulbEvents (s : DongleState) (tick : Tick) : List BulbEvent :=
  tick.stackEvents.filterMap StackEvent.bulbEvent ++
    (s.iteration tick).2.filterMap Press.bulbEvent

theorem deliver_bulb (s : DongleState) {e : StackEvent}
    (h : e.WithoutScenes) :
    (s.deliver e).bulb = (e.bulbEvent.toList).foldl
      (Bulb.handle Dongle.setBrightness) s.bulb := by
  cases e with
  | signal sig status => rfl
  | deviceCb param =>
      cases param with
      | levelControlSetValue newValue => rfl
      | setAttrValue clusterId attrId values => rfl
      | other zclScenesCb => exact absurd rfl (h zclScenesCb)

theorem foldl_deliver_bulb {events : List StackEvent}
    (h : ∀ e ∈ events, e.WithoutScenes) (s : DongleState) :
    (events.foldl deliver s).bulb =
      (events.filterMap StackEvent.bulbEvent).foldl
        (Bulb.handle Dongle.setBrightness) s.bulb := by
  induction events generalizing s with
  | nil => rfl
  | cons e events ih =>
      obtain ⟨hfirst, hrest⟩ := List.forall_mem_cons.mp h
      rw [List.foldl_cons, ih hrest, deliver_bulb s hfirst]
      cases hevent : e.bulbEvent with
      | none => rw [List.filterMap_cons_none hevent]; rfl
      | some event => rw [List.filterMap_cons_some hevent]; rfl

theorem statusLed_bulb (s : DongleState) : s.statusLed.bulb = s.bulb := by
  simp only [statusLed]
  split_ifs <;> rfl

/-- A press of the network button steps the level exactly if it is momentary. -/
theorem nwkRstBtnPoll_bulb (tick : Tick) (s : DongleState) :
    (s.nwkRstBtnPoll tick).1.bulb =
      ((s.nwkRstBtnPoll tick).2.filterMap Press.bulbEvent).foldl
        (Bulb.handle Dongle.setBrightness) s.bulb := by
  simp only [nwkRstBtnPoll]
  split
  · simp only [nwkRstBtnAction]
    split_ifs <;> rfl
  · rfl

/-- The external buttons leave the bulb alone. -/
theorem extBtnLoop_bulb (tick : Tick) (rest : List (Fin 4)) (s : DongleState) :
    (s.extBtnLoop tick rest).1.bulb = s.bulb ∧
      (s.extBtnLoop tick rest).2.filterMap Press.bulbEvent = [] := by
  induction rest generalizing s with
  | nil => exact ⟨rfl, rfl⟩
  | cons first rest ih =>
      have hpoll : (s.extBtnPoll tick first).1.bulb = s.bulb ∧
          (s.extBtnPoll tick first).2.filterMap Press.bulbEvent = [] := by
        simp only [extBtnPoll]
        split <;> exact ⟨rfl, rfl⟩
      obtain ⟨hbulb, hpresses⟩ := ih (s.extBtnPoll tick first).1
      refine ⟨hbulb.trans hpoll.1, ?_⟩
      simp only [extBtnLoop, List.filterMap_append]
      rw [hpoll.2, hpresses]
      rfl

theorem iteration_bulbEvents (tick : Tick) (s : DongleState)
    (h : ∀ e ∈ tick.stackEvents, e.WithoutScenes) :
    (s.iteration tick).1.bulb =
      (s.bulbEvents tick).foldl (Bulb.handle Dongle.setBrightness) s.bulb := by
  obtain ⟨hbefore, hduring⟩ := List.forall_mem_append.mp h
  let awake := tick.duringSleep.foldl deliver
    (tick.betweenIterations.foldl deliver s).statusLed
  let polled := awake.nwkRstBtnPoll tick
  obtain ⟨hext, hnone⟩ := extBtnLoop_bulb tick [0, 1, 2, 3] polled.1
  have hawake : awake.bulb =
      (tick.stackEvents.filterMap StackEvent.bulbEvent).foldl
        (Bulb.handle Dongle.setBrightness) s.bulb := by
    rw [foldl_deliver_bulb hduring, statusLed_bulb, foldl_deliver_bulb hbefore,
      Tick.stackEvents, List.filterMap_append, List.foldl_append]
  have hpresses : (s.iteration tick).2 =
      polled.2 ++ (polled.1.extBtnLoop tick [0, 1, 2, 3]).2 := rfl
  rw [bulbEvents, hpresses, List.filterMap_append, hnone, List.append_nil,
    List.foldl_append, ← hawake, ← nwkRstBtnPoll_bulb]
  exact hext

section Run

variable (s : DongleState) (ticks : Nat → Tick)

/-- What has happened to the bulb before iteration `n`, in order. -/
def bulbEventsBefore (n : Nat) : List BulbEvent :=
  (List.range n).flatMap fun m => (s.stateAt ticks m).bulbEvents (ticks m)

/-- In every run of the main loop without scenes the bulb is where these events
take it from its first state. -/
theorem stateAt_bulb (n : Nat)
    (h : ∀ m < n, ∀ e ∈ (ticks m).stackEvents, e.WithoutScenes) :
    (s.stateAt ticks n).bulb = (s.bulbEventsBefore ticks n).foldl
      (Bulb.handle Dongle.setBrightness) s.bulb := by
  induction n with
  | zero => rfl
  | succ n ih =>
      have hbefore := ih fun m hm => h m (Nat.lt_succ_of_lt hm)
      rw [bulbEventsBefore, List.range_succ, List.flatMap_append,
        List.flatMap_singleton, List.foldl_append]
      rw [← bulbEventsBefore, ← hbefore]
      exact iteration_bulbEvents (ticks n) (s.stateAt ticks n)
        (h n (Nat.lt_succ_self n))

/-- From boot and without scenes, whatever the buttons and the stack do in
between: the bulb of the main loop is one of the bulb's own runs, under the
requests and the momentary presses in their order. -/
theorem boot_bulb_run (uninit : GpioDtSpec → ButtonPressHandler)
    (pwm : Dongle.Pwm) (n : Nat)
    (h : ∀ m < n, ∀ e ∈ (ticks m).stackEvents, e.WithoutScenes) :
    ((boot uninit pwm).stateAt ticks n).bulb =
      Bulb.run Dongle.setBrightness pwm
        ((boot uninit pwm).bulbEventsBefore ticks n) :=
  stateAt_bulb _ ticks n h

/-- A bulb is switched off while button 2 is held. -/
theorem boot_bulb_run_off :
    let ticks : Nat → Tick := fun n =>
      { betweenIterations :=
          if n = 3 then [.deviceCb (.setAttrValue 6 0 0)] else []
        duringSleep := []
        gpioPinGetDt := fun gpio => if gpio = .extBtn2 then 1 else 0
        zbBufGetOutDelayedExt := fun _ => retOk }
    let uninit := fun gpio => ButtonPressHandler.clean gpio 25
    let pwm : Dongle.Pwm := { ledPulse := 0, pinPulse := 0 }
    ((boot uninit pwm).stateAt ticks 12).bulb =
      Bulb.run Dongle.setBrightness pwm
        ((boot uninit pwm).bulbEventsBefore ticks 12) := by
  intro ticks uninit pwm
  apply boot_bulb_run
  intro m _ e he zclScenesCb heq
  subst heq
  by_cases h : m = 3 <;> simp [ticks, Tick.stackEvents, h] at he

/-- In every run from boot without scenes, whatever is pressed and requested:
the outputs of the dongle show one brightness and its complement. -/
theorem outputs_complementary (uninit : GpioDtSpec → ButtonPressHandler)
    (pwm : Dongle.Pwm) (n : Nat)
    (h : ∀ m < n, ∀ e ∈ (ticks m).stackEvents, e.WithoutScenes) :
    let outputs := ((boot uninit pwm).stateAt ticks n).bulb.pwm
    ∃ v : UInt8, Bulb.OutputsShow v outputs ∧
      outputs.ledPulse + outputs.pinPulse =
        if v.toNat % 51 = 0 then 40 else 39 := by
  intro outputs
  have hstart : (boot uninit pwm).bulb.Complementary := by
    change (Bulb.startUp Dongle.setBrightness pwm).Complementary
    rw [Bulb.startUp_eq]
    exact ⟨255, rfl, rfl⟩
  have hrun : ((boot uninit pwm).stateAt ticks n).bulb.Complementary := by
    rw [stateAt_bulb _ ticks n h]
    apply List.foldlRecOn _ _ hstart
    intro b hb e _
    exact hb.handle e
  obtain ⟨v, hv⟩ := hrun
  exact ⟨v, hv, hv.sum⟩

/-- The level 0x0100 is written, and then the network button tapped. -/
theorem outputs_complementary_write_tap :
    let ticks : Nat → Tick := fun n =>
      { betweenIterations :=
          if n = 3 then [.deviceCb (.setAttrValue 8 0 0x0100)] else []
        duringSleep := []
        gpioPinGetDt := fun gpio => if gpio = .nwkRstBtn ∧ n < 5 then 1 else 0
        zbBufGetOutDelayedExt := fun _ => retOk }
    let outputs := ((boot (fun gpio => .clean gpio 25)
      { ledPulse := 0, pinPulse := 0 }).stateAt ticks 12).bulb.pwm
    outputs = { ledPulse := 13, pinPulse := 26 } ∧
      ∃ v : UInt8, Bulb.OutputsShow v outputs ∧
        outputs.ledPulse + outputs.pinPulse =
          if v.toNat % 51 = 0 then 40 else 39 := by
  intro ticks outputs
  refine ⟨by decide +kernel, ?_⟩
  apply outputs_complementary ticks
  intro m _ e he zclScenesCb heq
  subst heq
  by_cases h : m = 3 <;> simp [ticks, Tick.stackEvents, h] at he

/-! ### The taps of the network button -/

end Run

end DongleState

namespace ButtonPressHandler

end ButtonPressHandler

namespace Bulb

/-- Three thirds of the brightness after start-up, and after `k` taps `k` more,
with off for none of them. -/
structure ShowsTaps (k : Nat) (b : Bulb Dongle.Pwm) : Prop where
  onOff : b.onOff = if (k + 3) % 4 = 0 then 0 else 1
  currentLevel : b.currentLevel = UInt8.ofNat (85 * ((k + 3) % 4))
  ledPulse : b.pwm.ledPulse = 40 * ((k + 3) % 4) / 3
  pinPulse : b.pwm.pinPulse = 40 * (3 - (k + 3) % 4) / 3

theorem ShowsTaps.press {k : Nat} {b : Bulb Dongle.Pwm} (h : b.ShowsTaps k) :
    (b.handle Dongle.setBrightness .momentaryPress).ShowsTaps (k + 1) := by
  have hpress : b.handle Dongle.setBrightness .momentaryPress = _ :=
    momentaryPress_eq Dongle.setBrightness b
  rw [hpress, h.currentLevel]
  have hmod : (k + 3) % 4 < 4 := Nat.mod_lt _ (by decide)
  have hnext : (k + 1 + 3) % 4 = ((k + 3) % 4 + 1) % 4 := by omega
  constructor
  all_goals
    rw [hnext]
    generalize (k + 3) % 4 = j at hmod
    interval_cases j <;> rfl

end Bulb

namespace DongleState

end DongleState

end ZbLightbulb
