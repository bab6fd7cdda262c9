import WanManager.World
import WanManager.Failover
import WanManager.FailoverPool
import WanManager.FailoverTarget
import WanManager.FailoverActivation
import WanManager.FailoverRescan
import WanManager.Concurrency.Reactive
import WanManager.InterfaceSm
import WanManager.InterfaceSmLedger
import WanManager.InterfaceSmMoves
import WanManager.InterfaceSmTeardown
import WanManager.InterfaceSmLease
import WanManager.Policy
import WanManager.PolicyAuto
import WanManager.PolicyParallelScan
import WanManager.FailoverEffects
import WanManager.System
import WanManager.PolicyEffects
import WanManager.PolicyFrame
import WanManager.PolicyThreads
import WanManager.Concurrency.Mutex
import WanManager.DataLayer
import WanManager.LockDiscipline
import WanManager.InterfaceSmThreads
import WanManager.Concurrency.History
import WanManager.FailoverRestoration
import WanManager.FailoverShutdown
import WanManager.PolicyTurns
import WanManager.ActiveExclusion
import WanManager.PolicySelection
import WanManager.ParallelShutdown
import WanManager.PolicyWindUp
import WanManager.GroupConfiguration
import WanManager.GroupMarks
import WanManager.InterfaceOwners
import WanManager.LeaseMessages
import WanManager.LeaseAccounts
import WanManager.LeaseStates
import WanManager.LeaseRuns
import WanManager.Concurrency.Detached
import WanManager.DhcpClientEvents
import WanManager.DhcpEventOrder
import WanManager.WanStatusEvents
import WanManager.ConnectivityCheck
import WanManager.InterfacePaths
import WanManager.AliasAddressing
import WanManager.Text.Dotted
import WanManager.StoredConfig
import WanManager.ConfigRestart
import WanManager.Concurrency.Labelled
import WanManager.InterfaceSmFrame
import WanManager.NetworkingMode
import WanManager.MaptFeature
import WanManager.WanRefresh
import WanManager.Concurrency.Settling
import WanManager.LinkReplies
import WanManager.MachineIdle
import WanManager.MachineLoad
import WanManager.MachineProgress
import WanManager.WebConfig
import WanManager.MaptOption
import WanManager.MaptSafety
import WanManager.MaptDecoding
import WanManager.MaptConfig
import WanManager.MaptAgreement
import WanManager.Concurrency.Mailbox
import WanManager.IpcMailbox
import WanManager.FailoverMarking
import WanManager.ScanCycle
import WanManager.ScanCycleRuns
import WanManager.ParallelChoice
import WanManager.ActiveLinkRuns
import WanManager.MachineStates
import WanManager.MachineSettles
import WanManager.MaptExtraction
import WanManager.MaptPorts
import WanManager.MaptText
import WanManager.MaptRules
import WanManager.Concurrency.Latest
import WanManager.LeaseMerging
import WanManager.MaptActivation
import WanManager.Text.ForwardSearch
import WanManager.Text.Inet
import WanManager.Text.InetPrint
import WanManager.ResolvConf
import WanManager.DnsServers
import WanManager.VlanRotation
import WanManager.GlobalAddress
import WanManager.SentOptions
import WanManager.SentOptionCalls
import WanManager.RemoteDevices
import WanManager.QueriedLeases
import WanManager.DiscoveryTimer
import WanManager.RemoteTable
import WanManager.RemoteInterfaces
import WanManager.SelectionPriority
import WanManager.Text.CString
import WanManager.PublishedStatus
import WanManager.Text.Buffer
import WanManager.Wire.Keyed
import WanManager.WebConfigDecoding
import WanManager.DecodedRequests
import WanManager.Wire.Upsert
import WanManager.MarkingMerge
import WanManager.MarkingRecords
import WanManager.MarkingInit
import WanManager.LanPrefixes
import WanManager.ProcessArgs
import WanManager.ProcessSearch
import WanManager.RecordRecovery
import WanManager.RestartInfo
import WanManager.RouteMonitor
import WanManager.Concurrency.LeadsTo
import WanManager.FailoverConvergence
import WanManager.BackupWan
import WanManager.BackupWanFrame
import WanManager.BackupWanSelection
import WanManager.BackupWanRestoration
import WanManager.BackupWanRules
import WanManager.ModePolicy
import WanManager.ModePolicyAuto
import WanManager.ModePolicyFixed
import WanManager.ModePolicyModes
import WanManager.ModePolicySelection
import WanManager.ModePolicyDetection
import WanManager.AutoWanConvergence
import WanManager.RemoteAgreement
import WanManager.SentOptionEntries
