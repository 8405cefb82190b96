import Levaware.Bsp.Apn
import Levaware.Bsp.Led
import Levaware.Bsp.Modem
import Levaware.Cell.PdpTracking
import Levaware.Cell.RebootPolicy
import Levaware.Cell.SmsReboot
import Levaware.Cell.Statistics
import Levaware.Config.BootRecovery
import Levaware.Config.Datastore
import Levaware.Config.LoadFidelity
import Levaware.Config.Loading
import Levaware.Config.Readers
import Levaware.Config.SaveResult
import Levaware.Config.Startup
import Levaware.Connectors.AwsCallbacks
import Levaware.Connectors.LinkTracking
import Levaware.Connectors.ShadowFetch
import Levaware.Encoding.AppTypeChange
import Levaware.Encoding.Bounds
import Levaware.Encoding.CJson
import Levaware.Encoding.Device
import Levaware.Encoding.Durability
import Levaware.Encoding.EnumTypes
import Levaware.Encoding.Envelope
import Levaware.Encoding.Intervals
import Levaware.Encoding.Isolation
import Levaware.Encoding.Ledger
import Levaware.Encoding.Numbers
import Levaware.Encoding.PowerCuts
import Levaware.Encoding.Redelivery
import Levaware.Encoding.Registers
import Levaware.Encoding.Requests
import Levaware.Encoding.SameStore
import Levaware.Encoding.StringFiles
import Levaware.Encoding.Topic
import Levaware.Encoding.VersionCommit
import Levaware.Lib.Abort
import Levaware.Lib.Bytes
import Levaware.Lib.History
import Levaware.Lib.Interpolation
import Levaware.Lib.Lives
import Levaware.Lib.Mailbox
import Levaware.Lib.Redo
import Levaware.Lib.Simulation
import Levaware.Lib.WorkQueue
import Levaware.Lib.Wrap
import Levaware.Sensors.BatteryRuns
import Levaware.Sensors.Slots
import Levaware.Sensors.Stranded
import Levaware.System.Reboots
import Levaware.System.Values
import Levaware.System.Wear
