import SatNet.Ptop.Forwarding
import SatNet.Ptop.Affinity
import SatNet.Ptop.EdgeMap
import SatNet.Ptop.RttEstimate
import SatNet.Track.LogUpdate
import SatNet.Track.Utilization
import SatNet.Device.Gsl
import SatNet.Device.Laser
import SatNet.Base.Node
import SatNet.Satellite.Network
import SatNet.Satellite.TopologyFiles
import SatNet.Satellite.TopologyBuild
import SatNet.Satellite.Shells
import SatNet.Satellite.SingleForward
import SatNet.Satellite.Delivery
import SatNet.Apps.TcpFlowSize
import SatNet.Apps.BurstNetwork
import SatNet.Apps.BurstStop
import SatNet.Apps.BurstWindow
import SatNet.Apps.UdpRtt
import SatNet.Apps.EndpointUse
import SatNet.Apps.FlowLogs
import SatNet.Apps.PingStagger
import SatNet.Apps.Distributed
import SatNet.Satellite.TimeScale
import SatNet.Satellite.Gregorian
import SatNet.Satellite.PositionHelper
import SatNet.Apps.CachedLogs
import SatNet.Lib.Periodic
import SatNet.Satellite.GslIfBandwidth
import SatNet.Satellite.UpdateRuns
import SatNet.Base.Python
import SatNet.Satellite.PathReplay
import SatNet.Track.Termination
import SatNet.Track.WriteResults
import SatNet.Satellite.IslUtilization
import SatNet.Lib.EventIds
import SatNet.Base.InputStream
import SatNet.Base.Split
import SatNet.Base.Literals
import SatNet.Base.ReadConfig
import SatNet.Lib.Buckets
import SatNet.Apps.RateIntervals
import SatNet.Apps.PingPlot
import SatNet.Satellite.PathTruth
import SatNet.Satellite.IslDistance
import SatNet.Lib.Relay
import SatNet.Satellite.Interfaces
import SatNet.Satellite.Routing
import SatNet.Satellite.DataPlane
import SatNet.Satellite.Journeys
import SatNet.Satellite.BurstTraffic
import SatNet.Satellite.StateBuilt
import SatNet.Apps.PingResults
import SatNet.Satellite.RunRoutes
