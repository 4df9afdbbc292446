import DatabusSim.Lib.Transition
import DatabusSim.Lib.Dict
import DatabusSim.Lib.ForwardPath
import DatabusSim.Lib.LowerBound
import DatabusSim.Python
import DatabusSim.Domain.Geo
import DatabusSim.Domain.Compute
import DatabusSim.Domain.StopReports
import DatabusSim.Domain.Fleet
import DatabusSim.Domain.Kinematics
import DatabusSim.Domain.KinematicsSteps
import DatabusSim.Domain.Interpolation
import DatabusSim.Domain.KinematicsMoves
import DatabusSim.Domain.Terminal
import DatabusSim.Domain.Control
import DatabusSim.Domain.ControlMoves
import DatabusSim.Domain.Progression.Geo
import DatabusSim.Domain.Progression.Shapes
import DatabusSim.Domain.Progression.StopAssignment
import DatabusSim.Domain.Progression.Polylines
import DatabusSim.Domain.Progression.AlongTrack
import DatabusSim.Domain.Progression.UsablePolyline
import DatabusSim.Domain.Progression.RealGeo
import DatabusSim.Domain.Progression.ZeroDivision
import DatabusSim.Domain.Progression.SegmentFoot
import DatabusSim.Domain.Progression.CrossTracks
import DatabusSim.Domain.Progression.RouteStops
import DatabusSim.Services.DatabusClient
import DatabusSim.Services.RunBinder
import DatabusSim.Services.RunBinderSteps
import DatabusSim.Services.RunBinderInvariant
import DatabusSim.Services.Scheduler
import DatabusSim.Services.SchedulerSteps
import DatabusSim.Services.SchedulerDispatch
import DatabusSim.Services.SchedulerCurrency
import DatabusSim.Services.SchedulerSurvival
import DatabusSim.Services.ScheduleFile
import DatabusSim.Realtime.Broadcast
import DatabusSim.Realtime.BroadcastUpdates
import DatabusSim.Runtime.TickLoop
import DatabusSim.Runtime.TickLoopSteps
import DatabusSim.Runtime
import DatabusSim.Runtime.Polls
import DatabusSim.Runtime.RunIsolation
import DatabusSim.Runtime.LostRuns
import DatabusSim.Runtime.PollSurvival
import DatabusSim.Runtime.TickSurvival
import DatabusSim.Runtime.BindingAgreement
import DatabusSim.Runtime.StateChanges
import DatabusSim.Runtime.NotificationChain
import DatabusSim.Runtime.VehicleLife
import DatabusSim.Runtime.AutoMotion
import DatabusSim.Runtime.IdleCountdown
import DatabusSim.Runtime.HeldSpeed
import DatabusSim.Runtime.DwellAgreement
import DatabusSim.Runtime.ProgressionShape
import DatabusSim.Runtime.TrackPosition
import DatabusSim.Api.Serializers
import DatabusSim.Api.ScheduleView
import DatabusSim.Realtime.Consumers
import DatabusSim.Services.NavsatClient
import DatabusSim.Static.WsClient
import DatabusSim.Runtime.CallbackChain
import DatabusSim.Domain.Faults
import DatabusSim.Runtime.FaultedPayloads
import DatabusSim.Api.RunView
import DatabusSim.Static.RecentRuns
import DatabusSim.Lib.Latest
import DatabusSim.Lib.RetainedFeed
import DatabusSim.Static.Js
import DatabusSim.Static.Store
import DatabusSim.Realtime.ScheduleStream
import DatabusSim.Static.Connection
import DatabusSim.Static.Subscriptions
import DatabusSim.Realtime.NavsatStream
import DatabusSim.Lib.Keyed
import DatabusSim.Static.NavsatSelector
import DatabusSim.Api.Resubmit
import DatabusSim.Static.ScheduleTab
import DatabusSim.Static.Controls
import DatabusSim.Api.GeometryView
import DatabusSim.Static.RunHighlight
import DatabusSim.Static.VehicleMarkers
import DatabusSim.Lib.Timers
import DatabusSim.Static.RunsTab
import DatabusSim.Static.EntryForm
import DatabusSim.Static.FleetTab
import DatabusSim.Static.RunRequest
import DatabusSim.Realtime.FleetStream
import DatabusSim.Static.FleetSnapshot
import DatabusSim.Static.FleetMap
import DatabusSim.Domain.FloatDrive
