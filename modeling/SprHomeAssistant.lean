import SprHomeAssistant.Library.Runs
import SprHomeAssistant.Library.Latest
import SprHomeAssistant.Library.Growth
import SprHomeAssistant.Library.Logs
import SprHomeAssistant.Library.Changes
import SprHomeAssistant.Go.Text
import SprHomeAssistant.Go.Values
import SprHomeAssistant.Json
import SprHomeAssistant.Python
import SprHomeAssistant.Plugin.Mac
import SprHomeAssistant.Plugin.State
import SprHomeAssistant.Plugin.Spr
import SprHomeAssistant.Plugin.Topology
import SprHomeAssistant.Plugin.Version
import SprHomeAssistant.Plugin.Refresh
import SprHomeAssistant.Plugin.Devices
import SprHomeAssistant.Plugin.Process
import SprHomeAssistant.Plugin.Sightings
import SprHomeAssistant.Plugin.Snapshots
import SprHomeAssistant.Plugin.Traffic
import SprHomeAssistant.Plugin.Config
import SprHomeAssistant.Plugin.PollLoop
import SprHomeAssistant.Plugin.SseHub
import SprHomeAssistant.Integration.Client
import SprHomeAssistant.Integration.Coordinator
import SprHomeAssistant.Integration.Polls
import SprHomeAssistant.Integration.Presence
import SprHomeAssistant.Integration.ConfigFlow
import SprHomeAssistant.Integration.FlowSteps
import SprHomeAssistant.Integration.Effects
import SprHomeAssistant.Integration.Entries
import SprHomeAssistant.Integration.Identities
import SprHomeAssistant.Integration.Credentials
import SprHomeAssistant.System.Removal
import SprHomeAssistant.Plugin.Pushes
import SprHomeAssistant.Library.Lines
import SprHomeAssistant.Library.Utf8
import SprHomeAssistant.Plugin.EventStream
import SprHomeAssistant.Integration.Stream
import SprHomeAssistant.System.Framing
import SprHomeAssistant.Integration.EventLoop
import SprHomeAssistant.Integration.Entities
import SprHomeAssistant.System.StateDocument
import SprHomeAssistant.Plugin.Rates
import SprHomeAssistant.Plugin.Merge
import SprHomeAssistant.Plugin.Uplinks
import SprHomeAssistant.Go.Decoding
import SprHomeAssistant.Plugin.Departures
import SprHomeAssistant.Plugin.DeviceTable
import SprHomeAssistant.Integration.History
import SprHomeAssistant.Integration.FailedPolls
import SprHomeAssistant.Library.Greatest
import SprHomeAssistant.Plugin.Updates
import SprHomeAssistant.Go.Ranges
import SprHomeAssistant.Plugin.Orders
import SprHomeAssistant.Integration.Backoff
import SprHomeAssistant.Integration.Contract
import SprHomeAssistant.Integration.WakeOnLan
import SprHomeAssistant.Go.Bytes
import SprHomeAssistant.Go.Net
import SprHomeAssistant.Plugin.Wake
import SprHomeAssistant.Go.Query
import SprHomeAssistant.System.WakeService
import SprHomeAssistant.Integration.Sensors
import SprHomeAssistant.Go.Numerals
import SprHomeAssistant.Library.Lexicographic
import SprHomeAssistant.Plugin.LastSeen
import SprHomeAssistant.System.BootTime
import SprHomeAssistant.Plugin.Semver
import SprHomeAssistant.Library.Refinement
import SprHomeAssistant.Plugin.Service
import SprHomeAssistant.Plugin.Settled
import SprHomeAssistant.Plugin.Subscribers
import SprHomeAssistant.Library.Spacing
import SprHomeAssistant.Plugin.EventFloor
import SprHomeAssistant.Plugin.ConfigFile
import SprHomeAssistant.System.Reading
import SprHomeAssistant.System.Evidence
import SprHomeAssistant.Library.Asking
import SprHomeAssistant.Plugin.Beacon
import SprHomeAssistant.Plugin.Documents
import SprHomeAssistant.Plugin.Refresher
import SprHomeAssistant.System.RouterIdentity
import SprHomeAssistant.Library.Disturbance
import SprHomeAssistant.Plugin.Clients
import SprHomeAssistant.System.PushChannel
import SprHomeAssistant.System.WakeButtons
import SprHomeAssistant.Integration.Displays
import SprHomeAssistant.System.Displays
