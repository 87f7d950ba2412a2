import Solarbot.Link.FrameBounds
import Solarbot.MasterApp.Padding
import Solarbot.MasterApp.Commands
import Solarbot.Main.RxController
import Solarbot.Config.References
import Solarbot.Power.Checksum
import Solarbot.Nav.Order
import Solarbot.Nav.StartRecord
import Solarbot.Link.Acceptance
import Solarbot.CircularBuffer.Fast512Bytes
import Solarbot.Link.Resync
import Solarbot.Link.Segmentation
import Solarbot.Telemetry.Handshake
import Solarbot.Telemetry.Slot
import Solarbot.Main.WaypointIndex
import Solarbot.Main.ObstacleStop
import Solarbot.Main.Idle
import Solarbot.Main.Resume
import Solarbot.Main.RemotePriority
import Solarbot.Main.RestartSearch
import Solarbot.Main.ModeAgrees
import Solarbot.Video.Stream
import Solarbot.Head.Framed
import Solarbot.Head.Intact
import Solarbot.SharedGeoImage.Reads
import Solarbot.Telemetry.Clients
import Solarbot.MasterApp.Consumers
import Solarbot.Gps.Epochs
import Solarbot.Nav.WaypointFile
import Solarbot.Nav.Turning
import Solarbot.Nav.Misalignment
import Solarbot.Nav.LastDistance
import Solarbot.Nav.Distances
import Solarbot.Nav.OpenPath
import Solarbot.Driver.Frames
import Solarbot.Serial.Commas
import Solarbot.Gps.RoundTrip
import Solarbot.Driver.Command
import Solarbot.Detect.Nearest
import Solarbot.Cam.Selection
import Solarbot.Cam.Region
import Solarbot.MasterApp.Planner
import Solarbot.Main.SendTelemetry
import Solarbot.Head.Corruption
import Solarbot.Rtk.Corrections
import Solarbot.Rtk.Authentication
import Solarbot.Nav.Bearing
import Solarbot.Line.Port
import Solarbot.Driver.Exchange
import Solarbot.Main.SpeedLimit
import Solarbot.Main.LineMode
import Solarbot.Main.Reports
import Solarbot.MasterApp.Console
import Solarbot.Cam.Steering
import Solarbot.Lib.CyclicCodes
import Solarbot.Link.BitErrors
