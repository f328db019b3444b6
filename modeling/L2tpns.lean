import L2tpns.Cluster.SplitBrain
import L2tpns.Cluster.Failover
import L2tpns.Cluster.Changes
import L2tpns.Channel.Delivery
import L2tpns.Channel.Window
import L2tpns.Server.Rebuild
import L2tpns.Server.Accounting
import L2tpns.Ppp.Bounds
import L2tpns.Server.SlotRuns
import L2tpns.Server.Lookup
import L2tpns.Server.Uptodate
import L2tpns.Cluster.Received
import L2tpns.Bgp.Convergence
import L2tpns.Bgp.Segments
import L2tpns.Server.Dump
import L2tpns.Cluster.Throttled
import L2tpns.Ppp.Gate
import L2tpns.Ppp.Credentials
import L2tpns.Ppp.Agreement
import L2tpns.Ppp.Answers
import L2tpns.Radius.Delivery
import L2tpns.Radius.FramedRoutes
import L2tpns.Traffic.Mss
import L2tpns.Encap.Multilink
import L2tpns.Encap.Reject
import L2tpns.Radius.FilterId
import L2tpns.Billing.Upstream
import L2tpns.AccessList.Saving
import L2tpns.AccessList.Standard
import L2tpns.Settings.Reload
import L2tpns.Shaping.Refill
import L2tpns.Bgp.Capabilities
import L2tpns.Bgp.Advertising
import L2tpns.Shaping.Refines
import L2tpns.Lists.LinkedList
import L2tpns.Management.Packet
import L2tpns.Traffic.FreeZones
import L2tpns.Radius.Throttling
import L2tpns.Pppoe.Bounds
import L2tpns.Multilink.Expansion
import L2tpns.Icmp.Unreachable
import L2tpns.Cluster.Loading
import L2tpns.Server.PoolBlocks
