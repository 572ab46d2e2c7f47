import StrManager.Library.Table
import StrManager.Library.TimedMap
import StrManager.Library.Index
import StrManager.Library.Machine
import StrManager.Library.Custody
import StrManager.Net.Address
import StrManager.Net.Kernel
import StrManager.Streams.Destinations
import StrManager.Streams.StreamList
import StrManager.Registry
import StrManager.Worker.Ports
import StrManager.Worker.Streams
import StrManager.Worker.Basic
import StrManager.Worker.Process
import StrManager.Worker.Rtcp
import StrManager.Worker.Events
import StrManager.Worker.Implements
import StrManager.Worker.RefCount
import StrManager.Worker.Routing
import StrManager.Worker.Delivery
import StrManager.Rtcp.Sockets
import StrManager.Rtcp.Lists
import StrManager.Rtcp.OpenPairs
import StrManager.Rtcp.Convention
import StrManager.Manager.Basic
import StrManager.Manager.Workers
import StrManager.Manager.Changes
import StrManager.Manager.WorkerIds
import StrManager.Manager.Idle
import StrManager.Manager.Lists
import StrManager.Manager.CommandLine
import StrManager.Manager.ReturnCodes
import StrManager.Manager.Interleaving
import StrManager.Worker.Conmute
import StrManager.Worker.Moves
import StrManager.Worker.Traffic
import StrManager.Worker.Retirement
import StrManager.Rtcp.Leaks
import StrManager.Rtcp.Rejected
import StrManager.Manager.Failed
import StrManager.Manager.Removal
import StrManager.Library.NamedQueue
import StrManager.Manager.MessageQueue
import StrManager.Worker.Select
import StrManager.Worker.Reflects
import StrManager.Rtcp.Released
import StrManager.Library.Account
import StrManager.Worker.Statistics
import StrManager.Worker.Accounting
import StrManager.Worker.Rates
import StrManager.Worker.TimeStamps
import StrManager.Manager.TimeStamps
import StrManager.Library.Tenancy
import StrManager.Worker.Handles
import StrManager.Rtcp.Handles
import StrManager.Manager.Hosting
import StrManager.Manager.Refinement
import StrManager.Manager.Answers
import StrManager.Manager.Isolation
import StrManager.Library.Dotted
import StrManager.FrontEnd.Command
import StrManager.Library.Blocks
import StrManager.Manager.Listing
import StrManager.FrontEnd.Session
import StrManager.Worker.SourceZero
import StrManager.Manager.Sole
import StrManager.FrontEnd.Script
import StrManager.FrontEnd.Zapping
import StrManager.FrontEnd.Broadcast
import StrManager.Manager.Threads
