/-
The status LEDs of the dongle: the signal handler that follows the network, the
press that switches the display on and off, and what the network LED shows
after it has been switched on again.
-/
import Mathlib.Data.List.Basic
import ZbLightbulb.Lib.Runs
import ZbLightbulb.Zboss

namespace ZbLightbulb

/-- The globals behind the status display and its two LEDs. -/
structure StatusLeds where
  statusOn : Bool
  gAppSig : ZbZdoAppSignalType
  gAppSigStatus : ZbRet
  runStatusLed : Bool
  zigbeeNetworkStateLed : Bool
deriving DecidableEq, Repr

def getZbNetworkStatusLedState (sig : ZbZdoAppSignalType) (status : ZbRet) :
    UInt8 :=
  match sig with
  | .bdbSignalDeviceReboot | .bdbSignalSteering =>
      if status = retOk then 1 else 0
  | .zdoSignalLeave => 0
  | _ => 0

namespace StatusLeds

/-- The globals are zeroed: no signal has this number. -/
def start : StatusLeds where
  statusOn := false
  gAppSig := .other 0
  gAppSigStatus := 0
  runStatusLed := false
  zigbeeNetworkStateLed := false

/-- What `zboss_signal_handler` does itself; the default handler and the sleep
of the stack do not touch the display. -/
def zbossSignalHandler (sig : ZbZdoAppSignalType) (status : ZbRet)
    (s : StatusLeds) : StatusLeds :=
  let s := if s.statusOn then
      { s with zigbeeNetworkStateLed :=
          zigbeeLedStatusUpdate sig status s.zigbeeNetworkStateLed }
    else s
  { s with gAppSig := sig, gAppSigStatus := status }

/-- The branch of `main` for a press of one to eight seconds. -/
def statusPress (s : StatusLeds) : StatusLeds :=
  let s := { s with statusOn := !s.statusOn }
  if s.statusOn then
    { s with zigbeeNetworkStateLed :=
        getZbNetworkStatusLedState s.gAppSig s.gAppSigStatus != 0 }
  else
    { s with runStatusLed := false, zigbeeNetworkStateLed := false }

end StatusLeds

/-- What can happen to the display. -/
inductive StatusEvent where
  | signal (sig : ZbZdoAppSignalType) (status : ZbRet)
  | press
deriving DecidableEq, Repr

namespace StatusLeds

def handle (s : StatusLeds) : StatusEvent → StatusLeds
  | .signal sig status => s.zbossSignalHandler sig status
  | .press => s.statusPress

/-- The device that never switches its display: presses pass it by. -/
def handleSignal (s : StatusLeds) : StatusEvent → StatusLeds
  | .signal sig status => s.zbossSignalHandler sig status
  | .press => s

def run (events : List StatusEvent) : StatusLeds :=
  events.foldl handle start

/-- The reference: the same signals since the beginning, with the display on
throughout. -/
def reference (events : List StatusEvent) : StatusLeds :=
  events.foldl handleSignal { start with statusOn := true }

/-- The signals that decide what the network LED shows. -/
def Decisive : ZbZdoAppSignalType → Prop
  | .bdbSignalDeviceReboot | .bdbSignalSteering | .zdoSignalLeave => True
  | _ => False

instance : DecidablePred Decisive := fun sig =>
  match sig with
  | .bdbSignalDeviceReboot => isTrue trivial
  | .bdbSignalSteering => isTrue trivial
  | .zdoSignalLeave => isTrue trivial
  | .commonSignalCanSleep => isFalse id
  | .other _ => isFalse id

/-- The stored signal restores the LED it last decided. -/
theorem ledState_of_decisive {sig : ZbZdoAppSignalType} (h : Decisive sig)
    (status : ZbRet) (led : Bool) :
    (getZbNetworkStatusLedState sig status != 0) =
      zigbeeLedStatusUpdate sig status led := by
  by_cases hok : status = retOk <;> cases sig <;>
    simp [getZbNetworkStatusLedState, zigbeeLedStatusUpdate, Decisive, hok]
      at h ⊢

theorem ledState_of_not_decisive {sig : ZbZdoAppSignalType}
    (h : ¬ Decisive sig) (status : ZbRet) :
    getZbNetworkStatusLedState sig status = 0 := by
  cases sig <;> simp [getZbNetworkStatusLedState, Decisive] at h ⊢

/-- What device and reference share at every moment. -/
structure Alongside (s ref : StatusLeds) : Prop where
  ref_on : ref.statusOn = true
  sig_eq : s.gAppSig = ref.gAppSig
  status_eq : s.gAppSigStatus = ref.gAppSigStatus
  decided : Decisive ref.gAppSig →
    (getZbNetworkStatusLedState ref.gAppSig ref.gAppSigStatus != 0) =
      ref.zigbeeNetworkStateLed

theorem start_alongside : start.Alongside { start with statusOn := true } :=
  ⟨rfl, rfl, rfl, fun h => h.elim⟩

/-- While the display is on, device and reference show the same. -/
def SameLed (s ref : StatusLeds) : Prop :=
  s.statusOn = true → s.zigbeeNetworkStateLed = ref.zigbeeNetworkStateLed

/-- Switching the display on is harmless if the stored signal decides the LED,
or if the LED is meant to be off. -/
def Restores (s ref : StatusLeds) : StatusEvent → Prop
  | .signal _ _ => True
  | .press => s.statusOn = false →
      Decisive s.gAppSig ∨ ref.zigbeeNetworkStateLed = false

theorem Alongside.handle {s ref : StatusLeds} (h : s.Alongside ref)
    (e : StatusEvent) : (s.handle e).Alongside (ref.handleSignal e) := by
  obtain ⟨hon, hsig, hstatus, hdecided⟩ := h
  cases e with
  | signal sig status =>
      refine ⟨?_, rfl, rfl, ?_⟩
      · simp [handleSignal, zbossSignalHandler, hon]
      · intro hdec
        simp only [handleSignal, zbossSignalHandler, hon, if_true] at hdec ⊢
        exact ledState_of_decisive hdec status _
  | press =>
      refine ⟨hon, ?_, ?_, hdecided⟩
      · simp only [StatusLeds.handle, statusPress]
        split <;> exact hsig
      · simp only [StatusLeds.handle, statusPress]
        split <;> exact hstatus

/-- A step keeps the LEDs equal exactly if it restores what the reference
shows. -/
theorem sameLed_handle_iff {s ref : StatusLeds} (h : s.Alongside ref)
    (hsame : s.SameLed ref) (e : StatusEvent) :
    (s.handle e).SameLed (ref.handleSignal e) ↔ s.Restores ref e := by
  obtain ⟨hon, hsig, hstatus, hdecided⟩ := h
  cases e with
  | signal sig status =>
      simp only [Restores, iff_true]
      intro hson
      by_cases hs : s.statusOn = true
      · simp only [StatusLeds.handle, handleSignal, zbossSignalHandler, hs, hon,
          if_true]
        rw [hsame hs]
      · simp [StatusLeds.handle, zbossSignalHandler, hs] at hson
  | press =>
      cases hs : s.statusOn with
      | true =>
          simp [SameLed, StatusLeds.handle, statusPress, Restores, hs]
      | false =>
          simp only [SameLed, StatusLeds.handle, handleSignal, statusPress,
            Restores, hs, Bool.not_false, if_true, forall_const]
          by_cases hdec : Decisive s.gAppSig
          · simp only [hdec, true_or, iff_true]
            rw [hsig, hstatus]
            exact hdecided (hsig ▸ hdec)
          · simp only [hdec, false_or, ledState_of_not_decisive hdec]
            exact eq_comm

/-- Through a whole run, the network LED shows what it would show had the
display never been off, exactly if every press that switches the display on
comes while the last signal decides the LED or the LED is meant to be off.
Only the last signal is stored, and any other signal replaces it. -/
theorem run_sameLed_iff (events : List StatusEvent) :
    (∀ before, before <+: events → (run before).SameLed (reference before)) ↔
      ∀ before, before ++ [.press] <+: events →
        (run before).statusOn = false →
          Decisive (run before).gAppSig ∨
            (reference before).zigbeeNetworkStateLed = false := by
  let step : StatusLeds × StatusLeds → StatusEvent → StatusLeds × StatusLeds :=
    fun pair e => (pair.1.handle e, pair.2.handleSignal e)
  let first : StatusLeds × StatusLeds := (start, { start with statusOn := true })
  have hpair : ∀ es : List StatusEvent,
      es.foldl step first = (run es, reference es) := fun es =>
    List.foldl_hom₂ es Prod.mk handle handleSignal step start _
      fun _ _ _ => rfl
  have halong : ∀ es : List StatusEvent, (run es).Alongside (reference es) := by
    intro es
    exact Runs.foldl_simulation Alongside (fun s ref e h => h.handle e) es
      start_alongside
  have hiff := Runs.foldl_prefix_iff step
    (fun pair => pair.1.Alongside pair.2 ∧ pair.1.SameLed pair.2)
    (fun pair e => pair.1.Restores pair.2 e)
    (fun _ e hinv hallowed =>
      ⟨hinv.1.handle e, (sameLed_handle_iff hinv.1 hinv.2 e).mpr hallowed⟩)
    (fun _ e hinv hbad hnext =>
      hbad ((sameLed_handle_iff hinv.1 hinv.2 e).mp hnext.2))
    events first ⟨start_alongside, fun _ => rfl⟩
  simp only [hpair] at hiff
  constructor
  · intro hsame before hprefix
    exact hiff.mp (fun es hes => ⟨halong es, hsame es hes⟩) before .press hprefix
  · intro hpress before hprefix
    refine (hiff.mpr ?_ before hprefix).2
    intro es e hes
    cases e with
    | signal sig status => exact trivial
    | press => exact hpress es hes

/-- The network is joined, the stack may sleep, the display is switched on: the
LED stays off. -/
theorem not_run_sameLed_can_sleep :
    ¬ ∀ events : List StatusEvent, (run events).SameLed (reference events) := by
  intro h
  have hsame := h [.signal .bdbSignalSteering 0,
    .signal .commonSignalCanSleep 0, .press]
  revert hsame
  simp only [SameLed]
  decide

end StatusLeds

end ZbLightbulb
