import ZbLightbulb.Lib.Runs
import ZbLightbulb.Lib.BoolStream
import ZbLightbulb.Lib.Debouncer
import ZbLightbulb.Lib.WorkQueue
import ZbLightbulb.Lib.FirstPrefix
import ZbLightbulb.Lib.BoundedQueue
import ZbLightbulb.Lib.Outputs
import ZbLightbulb.Lib.KTimer
import ZbLightbulb.ButtonPressHandler
import ZbLightbulb.HandlerRun
import ZbLightbulb.Zboss
import ZbLightbulb.Bulb
import ZbLightbulb.BulbRequests
import ZbLightbulb.BulbRuns
import ZbLightbulb.BulbRace
import ZbLightbulb.StatusLed
import ZbLightbulb.DongleMain
import ZbLightbulb.Dispatch
import ZbLightbulb.FactoryReset
import ZbLightbulb.DisplayOff
import ZbLightbulb.BootRun
import ZbLightbulb.DongleEndpoints
import ZbLightbulb.LightSwitch
import ZbLightbulb.Discovery
import ZbLightbulb.SwitchCommands
import ZbLightbulb.SwitchButtons
import ZbLightbulb.ButtonHolds
import ZbLightbulb.Nus
import ZbLightbulb.ReadErrors
import ZbLightbulb.HoldFeedback
import ZbLightbulb.Identify
import ZbLightbulb.Dimming
import ZbLightbulb.HandlerCalls
import ZbLightbulb.BulbLit
import ZbLightbulb.NusMatching
import ZbLightbulb.Counters
import ZbLightbulb.UsbLogging
import ZbLightbulb.SwitchCallbacks
import ZbLightbulb.SwitchFirmware
import ZbLightbulb.TimedSwitch
import ZbLightbulb.SwitchTiming
import ZbLightbulb.MatchDesc
import ZbLightbulb.LightNetwork
import ZbLightbulb.NetworkRuns
import ZbLightbulb.NetworkProgress
import ZbLightbulb.DongleFrames
import ZbLightbulb.PressCode
import ZbLightbulb.DongleBulb
import ZbLightbulb.StatusDisplay
import ZbLightbulb.UsbStream
import ZbLightbulb.DongleThreads
import ZbLightbulb.SwitchThreads
