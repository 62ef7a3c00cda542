/-
The two presses of the network button that share state with the Zigbee thread,
as the separate steps they take in `main`, and complete requests and signals of
that thread between any two of them: what of the runs that take every press as
one step is left.
-/
import ZbLightbulb.BulbRace
import ZbLightbulb.Lib.Outputs
import ZbLightbulb.StatusLed

namespace ZbLightbulb

inductive SharedPress where
  | momentary
  | status
deriving DecidableEq, Repr

/-- Where `main` stands: outside these presses, or in one, with what it has
read. -/
inductive MainStep where
  | outside
  | levelRead (value : UInt8)
  | levelStored (value : UInt8)
  | onOffStored (value : UInt8)
  | ledPulseSet (value : UInt8)
  | statusOnSet
  | sigRead (sig : ZbZdoAppSignalType)
  | statusRead (status : ZbRet)
  | bothRead (sig : ZbZdoAppSignalType) (status : ZbRet)
  | statusOnCleared
  | runStatusLedCleared
deriving DecidableEq, Repr

namespace MainStep

/-- In a momentary press. -/
def Momentary : MainStep → Prop
  | levelRead _ | levelStored _ | onOffStored _ | ledPulseSet _ => True
  | _ => False

/-- In a momentary press, of which a part has been stored. -/
def Storing : MainStep → Prop
  | levelStored _ | onOffStored _ | ledPulseSet _ => True
  | _ => False

/-- In a press that switches the display on or off. -/
def Status : MainStep → Prop
  | statusOnSet | sigRead _ | statusRead _ | bothRead _ _ => True
  | statusOnCleared | runStatusLedCleared => True
  | _ => False

/-- Between the reads of the stored signal and the LED they decide. -/
def Reading : MainStep → Prop
  | sigRead _ | statusRead _ | bothRead _ _ => True
  | _ => False

end MainStep

/-- What both threads write, and where `main` stands. -/
structure DongleThreads where
  bulb : Bulb Dongle.Pwm
  leds : StatusLeds
  main : MainStep

/-- `main` takes its next step, which outside a press is the first one of
`press`; or the Zigbee thread handles a request or a signal, which no step of
`main` interrupts. -/
inductive ThreadEvent where
  | main (press : SharedPress)
  | request (r : BulbRequest)
  | signal (sig : ZbZdoAppSignalType) (status : ZbRet)
deriving DecidableEq, Repr

namespace DongleThreads

/-- The next step of `main`.  C leaves it to the compiler which argument of
`get_zb_network_status_led_state` is read first. -/
def mainStep (sigFirst : Bool) (s : DongleThreads) (press : SharedPress) :
    DongleThreads :=
  match s.main with
  | .outside =>
      match press with
      | .momentary =>
          { s with
            main := .levelRead (Bulb.levelControlValue s.bulb.currentLevel) }
      | .status =>
          { s with
            leds := { s.leds with statusOn := !s.leds.statusOn }
            main := if s.leds.statusOn then .statusOnCleared
              else .statusOnSet }
  | .levelRead value =>
      { s with
        bulb := s.bulb.zbZclSetAttribute .currentLevel value
        main := .levelStored value }
  | .levelStored value =>
      { s with
        bulb := s.bulb.zbZclSetAttribute .onOff (if value = 0 then 0 else 1)
        main := .onOffStored value }
  | .onOffStored value =>
      { s with
        bulb := { s.bulb with
          pwm := Dongle.lightBulbSetBrightness value s.bulb.pwm }
        main := .ledPulseSet value }
  | .ledPulseSet value =>
      { s with
        bulb := { s.bulb with
          pwm := Dongle.externalLightBulbSetBrightness value s.bulb.pwm }
        main := .outside }
  | .statusOnSet =>
      { s with main := if sigFirst then .sigRead s.leds.gAppSig
          else .statusRead s.leds.gAppSigStatus }
  | .sigRead sig => { s with main := .bothRead sig s.leds.gAppSigStatus }
  | .statusRead status => { s with main := .bothRead s.leds.gAppSig status }
  | .bothRead sig status =>
      { s with
        leds := { s.leds with zigbeeNetworkStateLed :=
          getZbNetworkStatusLedState sig status != 0 }
        main := .outside }
  | .statusOnCleared =>
      { s with
        leds := { s.leds with runStatusLed := false }
        main := .runStatusLedCleared }
  | .runStatusLedCleared =>
      { s with
        leds := { s.leds with zigbeeNetworkStateLed := false }
        main := .outside }

def step (sigFirst : Bool) (s : DongleThreads) : ThreadEvent → DongleThreads
  | .main press => s.mainStep sigFirst press
  | .request r => { s with bulb := s.bulb.request r }
  | .signal sig status =>
      { s with leds := s.leds.zbossSignalHandler sig status }

def start (pwm : Dongle.Pwm) : DongleThreads where
  bulb := Bulb.startUp Dongle.setBrightness pwm
  leds := StatusLeds.start
  main := .outside

def run (sigFirst : Bool) (pwm : Dongle.Pwm) (events : List ThreadEvent) :
    DongleThreads :=
  events.foldl (step sigFirst) (start pwm)

/-! ### The bulb -/

/-- A request comes between the stores of a momentary press. -/
def SplitsPress (s : DongleThreads) : ThreadEvent → Prop
  | .request _ => s.main.Storing
  | _ => False

/-- A request comes outside the momentary presses, or one of these begins. -/
def SetsBulb (s : DongleThreads) : ThreadEvent → Prop
  | .request _ => ¬ s.main.Momentary
  | .main .momentary => s.main = .outside
  | _ => False

/-- The requests and presses as they take effect on the bulb: a press when it
begins, and a request that the press then overwrites not at all. -/
def bulbEvents (s : DongleThreads) : ThreadEvent → List BulbEvent
  | .request r =>
      match s.main with
      | .levelRead _ => []
      | _ => [r.event]
  | .main .momentary =>
      match s.main with
      | .outside => [.momentaryPress]
      | _ => []
  | .main .status | .signal _ _ => []

/-- What the rest of a press makes of the bulb, if nothing comes in between. -/
def restOfPress : MainStep → Bulb Dongle.Pwm → Bulb Dongle.Pwm
  | .levelRead value, b => Bulb.lit Dongle.setBrightness value b.pwm
  | .levelStored value, b =>
      { b with
        onOff := if value = 0 then 0 else 1
        pwm := Dongle.setBrightness value b.pwm }
  | .onOffStored value, b =>
      { b with pwm := Dongle.setBrightness value b.pwm }
  | .ledPulseSet value, b =>
      { b with pwm := Dongle.externalLightBulbSetBrightness value b.pwm }
  | _, b => b

theorem restOfPress_of_not_momentary {main : MainStep} (h : ¬ main.Momentary)
    (b : Bulb Dongle.Pwm) : restOfPress main b = b := by
  cases main with
  | levelRead | levelStored | onOffStored | ledPulseSet =>
      exact absurd trivial h
  | _ => rfl

/-- The steps of `main` lead where its press leads, which takes effect on the
bulb when it begins. -/
theorem restOfPress_mainStep (s : DongleThreads) (sigFirst : Bool)
    (press : SharedPress) :
    restOfPress (s.mainStep sigFirst press).main
        (s.mainStep sigFirst press).bulb =
      (s.bulbEvents (.main press)).foldl (Bulb.handle Dongle.setBrightness)
        (restOfPress s.main s.bulb) := by
  obtain ⟨bulb, leds, main⟩ := s
  cases main with
  | outside =>
      cases press with
      | momentary =>
          exact (Bulb.momentaryPress_eq Dongle.setBrightness bulb).symm
      | status => cases hon : leds.statusOn <;> simp [mainStep, hon] <;> rfl
  | statusOnSet => cases press <;> cases sigFirst <;> rfl
  | _ => cases press <;> rfl

/-- A step in which no request splits a press: the bulb is on its way to where
the requests and presses, each as one step, lead. -/
theorem restOfPress_step (s : DongleThreads) (sigFirst : Bool) (e : ThreadEvent)
    (hwhole : ¬ s.SplitsPress e) :
    restOfPress (s.step sigFirst e).main (s.step sigFirst e).bulb =
      (s.bulbEvents e).foldl (Bulb.handle Dongle.setBrightness)
        (restOfPress s.main s.bulb) := by
  cases e with
  | main press => exact restOfPress_mainStep s sigFirst press
  | signal sig status => rfl
  | request r =>
      obtain ⟨bulb, leds, main⟩ := s
      cases main with
      | levelStored | onOffStored | ledPulseSet => exact absurd trivial hwhole
      | _ => rfl

/-- In every run in which no request comes between the stores of a momentary
press: outside these presses the bulb is where the requests and the presses
lead if each is one step.  Only the requests between the read of a press and its
first store are lost. -/
theorem bulb_inTurn (sigFirst : Bool) (pwm : Dongle.Pwm)
    (events : List ThreadEvent)
    (hwhole : ∀ before e, before ++ [e] <+: events →
      ¬ (run sigFirst pwm before).SplitsPress e)
    (houtside : ¬ (run sigFirst pwm events).main.Momentary) :
    (run sigFirst pwm events).bulb =
      Bulb.run Dongle.setBrightness pwm
        (Runs.outputs (step sigFirst) bulbEvents (start pwm) events) := by
  let R : DongleThreads → Bulb Dongle.Pwm → Prop :=
    fun s b => restOfPress s.main s.bulb = b
  have hstart : R (start pwm) (Bulb.startUp Dongle.setBrightness pwm) := rfl
  have hstep : ∀ s b e, R s b → ¬ s.SplitsPress e → R (s.step sigFirst e)
      ((s.bulbEvents e).foldl (Bulb.handle Dongle.setBrightness) b) := by
    rintro s b e rfl hwhole
    exact restOfPress_step s sigFirst e hwhole
  exact (restOfPress_of_not_momentary houtside _).symm.trans
    (Runs.outputs_refine bulbEvents (fun s e => ¬ s.SplitsPress e) R hstep
      hstart hwhole)

/-- A request between the read of a press and its first store is lost. -/
theorem bulb_inTurn_lost_request :
    let events : List ThreadEvent :=
      [.main .momentary, .request (.setValue 7)] ++
        List.replicate 4 (.main .momentary)
    let pwm : Dongle.Pwm := { ledPulse := 0, pinPulse := 0 }
    (run true pwm events).bulb =
      Bulb.run Dongle.setBrightness pwm [.momentaryPress] := by
  refine bulb_inTurn true { ledPulse := 0, pinPulse := 0 } _ ?_ id
  iterate 6 refine Runs.allowed_cons (fun s e => ¬ SplitsPress s e) id ?_
  exact Runs.allowed_nil fun s e => ¬ SplitsPress s e

/-- The bulb is consistent, or will be after the rest of the press, unless a
request has split one since the bulb was last set as a whole. -/
def EndsConsistent (split : Prop) (s : DongleThreads) : Prop :=
  ¬ split → (restOfPress s.main s.bulb).Consistent

theorem bulbEvents_main (s : DongleThreads) (press : SharedPress) :
    (s.bulbEvents (.main press) = [] ∧ ¬ s.SetsBulb (.main press)) ∨
      (s.bulbEvents (.main press) = [.momentaryPress] ∧
        s.SetsBulb (.main press)) := by
  obtain ⟨bulb, leds, main⟩ := s
  cases press with
  | status => exact Or.inl ⟨rfl, id⟩
  | momentary =>
      cases main with
      | outside => exact Or.inr ⟨rfl, rfl⟩
      | _ => exact Or.inl ⟨rfl, by simp [SetsBulb]⟩

theorem EndsConsistent.step {split : Prop} {s : DongleThreads}
    (h : EndsConsistent split s) (sigFirst : Bool) (e : ThreadEvent) :
    EndsConsistent (s.SplitsPress e ∨ (split ∧ ¬ s.SetsBulb e))
      (s.step sigFirst e) := by
  intro hsplit
  have hkept : ¬ s.SetsBulb e → (restOfPress s.main s.bulb).Consistent :=
    fun hsets => h fun hs => hsplit (Or.inr ⟨hs, hsets⟩)
  cases e with
  | main press =>
      change (restOfPress (s.mainStep sigFirst press).main
        (s.mainStep sigFirst press).bulb).Consistent
      rw [restOfPress_mainStep]
      rcases s.bulbEvents_main press with ⟨hnone, hsets⟩ | ⟨hpress, -⟩
      · rw [hnone]
        exact hkept hsets
      · rw [hpress, List.foldl_cons, List.foldl_nil, Bulb.handle,
          Bulb.momentaryPress_eq]
        exact Bulb.lit_consistent _ _
  | signal sig status => exact hkept id
  | request r =>
      have hstoring : ¬ s.main.Storing := fun hs => hsplit (Or.inl hs)
      obtain ⟨bulb, leds, main⟩ := s
      cases main with
      | levelStored | onOffStored | ledPulseSet => exact absurd trivial hstoring
      | levelRead value => exact Bulb.lit_consistent value _
      | _ => exact (Bulb.request_spec bulb r).2.consistent

/-- In every run: at every point outside a momentary press the bulb is
consistent, unless a request has come between the stores of a press, and since
then neither a request outside these presses nor the start of another one. -/
theorem bulb_recovers (sigFirst : Bool) (pwm : Dongle.Pwm)
    (events : List ThreadEvent)
    (houtside : ¬ (run sigFirst pwm events).main.Momentary)
    (hsplit : ¬ Runs.Since
      (fun before e => (run sigFirst pwm before).SplitsPress e)
      (fun before e => (run sigFirst pwm before).SetsBulb e) events) :
    (run sigFirst pwm events).bulb.Consistent := by
  have h := Runs.since_invariant SplitsPress SetsBulb EndsConsistent
    (fun _ _ e h => h.step sigFirst e) (start pwm)
    (fun _ => (Bulb.startUp_kept pwm).consistent) events hsplit
  rw [← restOfPress_of_not_momentary houtside (run sigFirst pwm events).bulb]
  exact h

/-- A level request splits a press that switches off, and a later one sets the
bulb again. -/
theorem bulb_recovers_later_request :
    let events : List ThreadEvent :=
      List.replicate 4 (.main .momentary) ++
        [.request (.setValue 255), .main .momentary, .request (.setValue 9)]
    (run true { ledPulse := 0, pinPulse := 0 } events).bulb.Consistent := by
  refine bulb_recovers true { ledPulse := 0, pinPulse := 0 } _ id ?_
  change ¬ Runs.Since _ _ ((List.replicate 4 (ThreadEvent.main .momentary) ++
    [.request (.setValue 255), .main .momentary]) ++ [.request (.setValue 9)])
  rw [Runs.since_append]
  rintro (hsplits | ⟨-, hsets⟩)
  · exact hsplits
  · exact hsets id

/-! ### The status LEDs -/

/-- A signal comes between the reads of a press and the LED they decide. -/
def OverrunsRead (s : DongleThreads) : ThreadEvent → Prop
  | .signal _ _ => s.main.Reading
  | _ => False

/-- A signal decides the LED outside these reads, or a press begins that
switches the display. -/
def SetsLed (s : DongleThreads) : ThreadEvent → Prop
  | .signal sig _ => StatusLeds.Decisive sig ∧ ¬ s.main.Reading
  | .main .status => s.main = .outside
  | _ => False

/-- The signals and presses as they take effect on the LEDs: a press that
switches the display off when it begins, one that switches it on when it
ends. -/
def statusEvents (s : DongleThreads) : ThreadEvent → List StatusEvent
  | .signal sig status => [.signal sig status]
  | .main press =>
      match s.main, press with
      | .outside, .status => if s.leds.statusOn then [.press] else []
      | .bothRead _ _, _ => [.press]
      | _, _ => []
  | .request _ => []

/-- What the rest of a press makes of the LEDs, if nothing comes in between. -/
def restOfStatusPress : MainStep → StatusLeds → StatusLeds
  | .statusOnSet, leds =>
      { leds with zigbeeNetworkStateLed :=
          getZbNetworkStatusLedState leds.gAppSig leds.gAppSigStatus != 0 }
  | .sigRead sig, leds =>
      { leds with zigbeeNetworkStateLed :=
          getZbNetworkStatusLedState sig leds.gAppSigStatus != 0 }
  | .statusRead status, leds =>
      { leds with zigbeeNetworkStateLed :=
          getZbNetworkStatusLedState leds.gAppSig status != 0 }
  | .bothRead sig status, leds =>
      { leds with zigbeeNetworkStateLed :=
          getZbNetworkStatusLedState sig status != 0 }
  | .statusOnCleared, leds =>
      { leds with runStatusLed := false, zigbeeNetworkStateLed := false }
  | .runStatusLedCleared, leds =>
      { leds with zigbeeNetworkStateLed := false }
  | _, leds => leds

/-- The press that has begun and will take effect when it ends. -/
def pressDue : MainStep → StatusLeds → StatusLeds
  | .statusOnSet, leds | .sigRead _, leds | .statusRead _, leds
  | .bothRead _ _, leds => leds.statusPress
  | _, leds => leds

/-- Which way a press that has begun has switched the display. -/
def SwitchedAs : MainStep → StatusLeds → Prop
  | .statusOnSet, leds | .sigRead _, leds | .statusRead _, leds
  | .bothRead _ _, leds => leds.statusOn = true
  | .statusOnCleared, leds | .runStatusLedCleared, leds =>
      leds.statusOn = false
  | _, _ => True

/-- Two displays that agree, but for the LED of the network if a read has been
overrun; in a display that is off that LED is dark all the same. -/
structure SameStatus (overrun : Prop) (leds leds' : StatusLeds) : Prop where
  statusOn_eq : leds.statusOn = leds'.statusOn
  gAppSig_eq : leds.gAppSig = leds'.gAppSig
  gAppSigStatus_eq : leds.gAppSigStatus = leds'.gAppSigStatus
  runStatusLed_eq : leds.runStatusLed = leds'.runStatusLed
  dark : leds.statusOn = false →
    leds.zigbeeNetworkStateLed = false ∧ leds'.zigbeeNetworkStateLed = false
  led_eq : ¬ overrun →
    leds.zigbeeNetworkStateLed = leds'.zigbeeNetworkStateLed

theorem SameStatus.mono {overrun overrun' : Prop} {leds leds' : StatusLeds}
    (h : SameStatus overrun leds leds') (himp : overrun → overrun') :
    SameStatus overrun' leds leds' :=
  { h with led_eq := fun hnot => h.led_eq fun ho => hnot (himp ho) }

/-- The LED after a signal that decides it does not depend on what it showed
before. -/
theorem SameStatus.signal {overrun : Prop} {leds leds' : StatusLeds}
    (h : SameStatus overrun leds leds') (sig : ZbZdoAppSignalType)
    (status : ZbRet) :
    SameStatus (overrun ∧ ¬ StatusLeds.Decisive sig)
      (leds.zbossSignalHandler sig status)
      (leds'.zbossSignalHandler sig status) := by
  obtain ⟨on, gSig, gStatus, runLed, led⟩ := leds
  obtain ⟨on', gSig', gStatus', runLed', led'⟩ := leds'
  obtain ⟨rfl, rfl, rfl, rfl, hdark, hled⟩ := h
  cases on with
  | false =>
      obtain ⟨rfl, rfl⟩ := hdark rfl
      exact ⟨rfl, rfl, rfl, rfl, fun _ => ⟨rfl, rfl⟩, fun _ => rfl⟩
  | true =>
      refine ⟨rfl, rfl, rfl, rfl, nofun, ?_⟩
      intro hnot
      by_cases hdec : StatusLeds.Decisive sig
      · exact (StatusLeds.ledState_of_decisive hdec status led).symm.trans
          (StatusLeds.ledState_of_decisive hdec status led')
      · obtain rfl := hled fun ho => hnot ⟨ho, hdec⟩
        rfl

/-- A press sets both LEDs, whatever they showed before. -/
theorem SameStatus.press {overrun : Prop} {leds leds' : StatusLeds}
    (h : SameStatus overrun leds leds') :
    SameStatus False leds.statusPress leds'.statusPress := by
  obtain ⟨on, gSig, gStatus, runLed, led⟩ := leds
  obtain ⟨on', gSig', gStatus', runLed', led'⟩ := leds'
  obtain ⟨rfl, rfl, rfl, rfl, hdark, hled⟩ := h
  cases on with
  | false =>
      exact ⟨rfl, rfl, rfl, rfl, nofun, fun _ => rfl⟩
  | true => exact ⟨rfl, rfl, rfl, rfl, fun _ => ⟨rfl, rfl⟩, fun _ => rfl⟩

/-- The LEDs are on their way to where the signals and presses, each as one
step, lead. -/
structure LedsInTurn (overrun : Prop) (s : DongleThreads) (leds : StatusLeds) :
    Prop where
  switched : SwitchedAs s.main s.leds
  same : SameStatus overrun (restOfStatusPress s.main s.leds)
    (pressDue s.main leds)

theorem LedsInTurn.same_of_not_status {overrun : Prop} {s : DongleThreads}
    {leds : StatusLeds} (h : LedsInTurn overrun s leds)
    (houtside : ¬ s.main.Status) : SameStatus overrun s.leds leds := by
  obtain ⟨bulb, own, main⟩ := s
  cases main with
  | outside | levelRead | levelStored | onOffStored | ledPulseSet =>
      exact h.same
  | _ => exact absurd trivial houtside

theorem LedsInTurn.mainStep {overrun : Prop} {s : DongleThreads}
    {leds : StatusLeds} (h : LedsInTurn overrun s leds) (sigFirst : Bool)
    (press : SharedPress) :
    LedsInTurn (overrun ∧ ¬ s.SetsLed (.main press)) (s.mainStep sigFirst press)
      ((s.statusEvents (.main press)).foldl StatusLeds.handle leds) := by
  obtain ⟨bulb, own, main⟩ := s
  obtain ⟨hswitched, hsame⟩ := h
  have hkept : ¬ SetsLed ⟨bulb, own, main⟩ (.main press) →
      SameStatus (overrun ∧ ¬ SetsLed ⟨bulb, own, main⟩ (.main press))
        (restOfStatusPress main own) (pressDue main leds) :=
    fun hsets => hsame.mono fun ho => ⟨ho, hsets⟩
  cases main with
  | outside =>
      cases press with
      | momentary => exact ⟨trivial, hkept id⟩
      | status =>
          have hpress := hsame.press
          obtain ⟨on, sig, status, runLed, led⟩ := own
          cases on with
          | true => exact ⟨rfl, hpress.mono False.elim⟩
          | false => exact ⟨rfl, hpress.mono False.elim⟩
  | statusOnSet =>
      have hsets : ¬ SetsLed ⟨bulb, own, .statusOnSet⟩ (.main press) := by
        cases press <;> simp [SetsLed]
      cases press <;> cases sigFirst <;> exact ⟨hswitched, hkept hsets⟩
  | _ =>
      refine ⟨?_, ?_⟩
      · cases press <;> first | exact hswitched | exact trivial
      · have hsame' := hkept (by cases press <;> simp [SetsLed])
        cases press <;> exact hsame'

theorem LedsInTurn.signal {overrun : Prop} {s : DongleThreads}
    {leds : StatusLeds} (h : LedsInTurn overrun s leds)
    (sig : ZbZdoAppSignalType) (status : ZbRet) :
    LedsInTurn
      (s.main.Reading ∨
        (overrun ∧ ¬ (StatusLeds.Decisive sig ∧ ¬ s.main.Reading)))
      { s with leds := s.leds.zbossSignalHandler sig status }
      (leds.zbossSignalHandler sig status) := by
  obtain ⟨bulb, own, main⟩ := s
  obtain ⟨hswitched, hsame⟩ := h
  cases main with
  | outside | levelRead | levelStored | onOffStored | ledPulseSet =>
      refine ⟨trivial, (hsame.signal sig status).mono ?_⟩
      exact fun ho => Or.inr ⟨ho.1, fun hdec => ho.2 hdec.1⟩
  | statusOnCleared | runStatusLedCleared =>
      obtain ⟨on, gSig, gStatus, runLed, led⟩ := own
      obtain ⟨on', gSig', gStatus', runLed', led'⟩ := leds
      obtain rfl : on = false := hswitched
      obtain ⟨rfl, -, -, rfl, hdark, -⟩ := hsame
      obtain ⟨-, rfl⟩ := hdark rfl
      exact ⟨rfl, rfl, rfl, rfl, rfl, fun _ => ⟨rfl, rfl⟩, fun _ => rfl⟩
  | statusOnSet | sigRead | statusRead | bothRead =>
      obtain ⟨on, gSig, gStatus, runLed, led⟩ := own
      obtain ⟨on', gSig', gStatus', runLed', led'⟩ := leds
      obtain rfl : on = true := hswitched
      cases on' with
      | true => exact absurd hsame.statusOn_eq nofun
      | false =>
          refine ⟨rfl, rfl, rfl, rfl, hsame.runStatusLed_eq, nofun, ?_⟩
          -- the stored signal is read after this one, or has been read before
          first
            | exact fun _ => rfl
            | exact fun hnot => absurd (Or.inl trivial) hnot

theorem LedsInTurn.step {overrun : Prop} {s : DongleThreads} {leds : StatusLeds}
    (h : LedsInTurn overrun s leds) (sigFirst : Bool) (e : ThreadEvent) :
    LedsInTurn (s.OverrunsRead e ∨ (overrun ∧ ¬ s.SetsLed e))
      (s.step sigFirst e)
      ((s.statusEvents e).foldl StatusLeds.handle leds) := by
  cases e with
  | main press =>
      obtain ⟨hswitched, hsame⟩ := h.mainStep sigFirst press
      exact ⟨hswitched, hsame.mono Or.inr⟩
  | request r => exact ⟨h.switched, h.same.mono fun ho => Or.inr ⟨ho, id⟩⟩
  | signal sig status => exact h.signal sig status

/-- In every run: outside the presses that switch the display, the globals
behind it and its LEDs are where the signals and the presses lead if each is one
step; but for the LED of the network while the display is on, if a signal has
come between the reads of a press and the LED they decide, and since then
neither a signal that decides it nor another press. -/
theorem leds_inTurn (sigFirst : Bool) (pwm : Dongle.Pwm)
    (events : List ThreadEvent)
    (houtside : ¬ (run sigFirst pwm events).main.Status) :
    SameStatus
      (Runs.Since (fun before e => (run sigFirst pwm before).OverrunsRead e)
        (fun before e => (run sigFirst pwm before).SetsLed e) events)
      (run sigFirst pwm events).leds
      (StatusLeds.run (Runs.outputs (step sigFirst) statusEvents (start pwm)
        events)) := by
  have hstart : LedsInTurn False (start pwm) StatusLeds.start :=
    ⟨trivial, rfl, rfl, rfl, rfl, fun _ => ⟨rfl, rfl⟩, fun _ => rfl⟩
  exact (Runs.outputs_simulation statusEvents StatusLeds.handle OverrunsRead
    SetsLed LedsInTurn (fun _ _ _ e h => h.step sigFirst e) (start pwm)
    StatusLeds.start hstart events).same_of_not_status houtside

/-- A signal between the two reads of a press that switches the display on: the
LED stays off, although the dongle has joined. -/
theorem leds_inTurn_overrun :
    let events : List ThreadEvent :=
      [.main .status, .main .status, .signal .bdbSignalSteering 0,
        .main .status, .main .status]
    SameStatus
      (Runs.Since
        (fun before e =>
          (run true { ledPulse := 0, pinPulse := 0 } before).OverrunsRead e)
        (fun before e =>
          (run true { ledPulse := 0, pinPulse := 0 } before).SetsLed e) events)
      (run true { ledPulse := 0, pinPulse := 0 } events).leds
      (StatusLeds.run [.signal .bdbSignalSteering 0, .press]) :=
  leds_inTurn true { ledPulse := 0, pinPulse := 0 } _ id

example :
    (run true { ledPulse := 0, pinPulse := 0 } [.main .status, .main .status,
      .signal .bdbSignalSteering 0, .main .status, .main .status]).leds ≠
      StatusLeds.run [.signal .bdbSignalSteering 0, .press] := by
  decide

end DongleThreads

end ZbLightbulb
