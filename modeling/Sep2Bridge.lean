import Sep2Bridge.Bridge.Channels
import Sep2Bridge.Bridge.Controls
import Sep2Bridge.Bridge.Links
import Sep2Bridge.Bridge.Machine
import Sep2Bridge.Bridge.Reports
import Sep2Bridge.Bridge.Resources
import Sep2Bridge.Bridge.Responses
import Sep2Bridge.Bridge.Standstill
import Sep2Bridge.Connection.Accepted
import Sep2Bridge.Connection.Addresses
import Sep2Bridge.Connection.Broadcasts
import Sep2Bridge.Connection.Commands
import Sep2Bridge.Connection.Endings
import Sep2Bridge.Connection.Frames
import Sep2Bridge.Connection.Messages
import Sep2Bridge.Connection.Mup
import Sep2Bridge.Connection.Pin
import Sep2Bridge.Connection.Polls
import Sep2Bridge.Connection.PostRates
import Sep2Bridge.Connection.ReadingMrids
import Sep2Bridge.Connection.ResponseQueue
import Sep2Bridge.Connection.Task
import Sep2Bridge.Connection.Turn
import Sep2Bridge.Connection.Watch
import Sep2Bridge.Cycle
import Sep2Bridge.Dispatch
import Sep2Bridge.Lib.Blocks
import Sep2Bridge.Lib.Changes
import Sep2Bridge.Lib.Checked
import Sep2Bridge.Lib.FirstError
import Sep2Bridge.Lib.HashMap
import Sep2Bridge.Lib.Interaction
import Sep2Bridge.Lib.Json
import Sep2Bridge.Lib.MapDiff
import Sep2Bridge.Lib.Naming
import Sep2Bridge.Lib.Outbox
import Sep2Bridge.Lib.Provenance
import Sep2Bridge.Lib.Ranking
import Sep2Bridge.Lib.Registers
import Sep2Bridge.Lib.Relay
import Sep2Bridge.Lib.Reporting
import Sep2Bridge.Lib.Ring
import Sep2Bridge.Lib.Rounding
import Sep2Bridge.Lib.Run
import Sep2Bridge.Lib.Timeline
import Sep2Bridge.Lib.Traverse
import Sep2Bridge.Modbus.Capabilities
import Sep2Bridge.Modbus.CurveGroup
import Sep2Bridge.Modbus.CurveModels
import Sep2Bridge.Modbus.Curves
import Sep2Bridge.Modbus.Enables
import Sep2Bridge.Modbus.Ended
import Sep2Bridge.Modbus.EnterService
import Sep2Bridge.Modbus.Measured
import Sep2Bridge.Modbus.Metering
import Sep2Bridge.Modbus.Parameters
import Sep2Bridge.Modbus.Percentages
import Sep2Bridge.Modbus.Requests
import Sep2Bridge.Modbus.Retry
import Sep2Bridge.Modbus.Send
import Sep2Bridge.Modbus.SendCurves
import Sep2Bridge.Modbus.Sentinels
import Sep2Bridge.Modbus.Status
import Sep2Bridge.Modbus.Task
import Sep2Bridge.Modbus.Translatable
import Sep2Bridge.Modbus.Translation
import Sep2Bridge.Modbus.TripSend
import Sep2Bridge.Modbus.TripSets
import Sep2Bridge.Packages
import Sep2Bridge.Rescale
import Sep2Bridge.RescaleLaws
import Sep2Bridge.ScaledValue
import Sep2Bridge.Scheduler.Active
import Sep2Bridge.Scheduler.Attributes
import Sep2Bridge.Scheduler.Changes
import Sep2Bridge.Scheduler.ControlOrder
import Sep2Bridge.Scheduler.CurveLookup
import Sep2Bridge.Scheduler.Duplicates
import Sep2Bridge.Scheduler.Event
import Sep2Bridge.Scheduler.Idempotent
import Sep2Bridge.Scheduler.InSync
import Sep2Bridge.Scheduler.LinkFeed
import Sep2Bridge.Scheduler.Merge
import Sep2Bridge.Scheduler.NextSchedule
import Sep2Bridge.Scheduler.Parameters
import Sep2Bridge.Scheduler.Persistence
import Sep2Bridge.Scheduler.Reach
import Sep2Bridge.Scheduler.Realise
import Sep2Bridge.Scheduler.RemovedDevices
import Sep2Bridge.Scheduler.Responses
import Sep2Bridge.Scheduler.Restart
import Sep2Bridge.Scheduler.Sep2Model
import Sep2Bridge.Scheduler.Serialise
import Sep2Bridge.Scheduler.Started
import Sep2Bridge.Scheduler.Task
import Sep2Bridge.Scheduler.Withdrawn
