/-
What the programs use of the stack and its application library: identifiers of
the cluster library, signals, result codes, and the network LED.
-/
import Mathlib.Tactic.Common

namespace ZbLightbulb

def zbZclClusterIdBasic : UInt16 := 0x0000
def zbZclClusterIdIdentify : UInt16 := 0x0003
def zbZclClusterIdGroups : UInt16 := 0x0004
def zbZclClusterIdScenes : UInt16 := 0x0005
def zbZclClusterIdOnOff : UInt16 := 0x0006
def zbZclClusterIdOnOffSwitchConfig : UInt16 := 0x0007
def zbZclClusterIdLevelControl : UInt16 := 0x0008
def zbZclAttrOnOffOnOffId : UInt16 := 0x0000
def zbZclAttrLevelControlCurrentLevelId : UInt16 := 0x0000
def zbZclLevelControlLevelMaxValue : UInt8 := 0xFF

def zbZclCmdOnOffOffId : UInt16 := 0x00
def zbZclCmdOnOffOnId : UInt16 := 0x01
def zbZclCmdOnOffToggleId : UInt16 := 0x02

/-- `zb_zdo_app_signal_type_t`: the signals the programs look at, and any other
by its number. -/
inductive ZbZdoAppSignalType where
  | bdbSignalDeviceReboot
  | bdbSignalSteering
  | zdoSignalLeave
  | commonSignalCanSleep
  | other (id : Nat)
deriving DecidableEq, Repr

abbrev ZbRet := Int

def retOk : ZbRet := 0

/-- What `zigbee_led_status_update` of the application library is assumed to do:
a reboot or steering signal sets the LED to its outcome, a leave signal clears
it, any other leaves it alone. -/
def zigbeeLedStatusUpdate (sig : ZbZdoAppSignalType) (status : ZbRet)
    (led : Bool) : Bool :=
  match sig with
  | .bdbSignalDeviceReboot | .bdbSignalSteering => decide (status = retOk)
  | .zdoSignalLeave => false
  | _ => led

end ZbLightbulb
