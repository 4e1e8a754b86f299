import SoftwareContainers.Agent.Addresses
import SoftwareContainers.Agent.Agent
import SoftwareContainers.Agent.Answering
import SoftwareContainers.Agent.Children
import SoftwareContainers.Agent.Configured
import SoftwareContainers.Agent.Defaults
import SoftwareContainers.Agent.Each
import SoftwareContainers.Agent.Handover
import SoftwareContainers.Agent.Invalid
import SoftwareContainers.Agent.Isolation
import SoftwareContainers.Agent.LastElement
import SoftwareContainers.Agent.Library
import SoftwareContainers.Agent.Logged
import SoftwareContainers.Agent.Missing
import SoftwareContainers.Agent.Options
import SoftwareContainers.Agent.Parser
import SoftwareContainers.Agent.Plain
import SoftwareContainers.Agent.Pool
import SoftwareContainers.Agent.Registry
import SoftwareContainers.Agent.Remembered
import SoftwareContainers.Agent.Requested
import SoftwareContainers.Agent.Sessions
import SoftwareContainers.Agent.Sound
import SoftwareContainers.Agent.Startup
import SoftwareContainers.Agent.Stores
import SoftwareContainers.Agent.Stub
import SoftwareContainers.Agent.Transport
import SoftwareContainers.Base.Bytes
import SoftwareContainers.Base.Fault
import SoftwareContainers.Base.IntegerReaders
import SoftwareContainers.Base.Json
import SoftwareContainers.Base.Keyed
import SoftwareContainers.Base.Map
import SoftwareContainers.Base.Number
import SoftwareContainers.Base.Orders
import SoftwareContainers.Base.Path
import SoftwareContainers.Base.Processes
import SoftwareContainers.Base.Shell
import SoftwareContainers.Base.ShellScript
import SoftwareContainers.Base.Text
import SoftwareContainers.Configuration.Appending
import SoftwareContainers.Configuration.Config
import SoftwareContainers.Configuration.ConfigSources
import SoftwareContainers.Configuration.ConfigStore
import SoftwareContainers.Configuration.GatewayConfig
import SoftwareContainers.Configuration.Grammar
import SoftwareContainers.Configuration.ManifestLoader
import SoftwareContainers.Configuration.Manifests
import SoftwareContainers.Configuration.Orders
import SoftwareContainers.Configuration.Ownership
import SoftwareContainers.Configuration.Precedence
import SoftwareContainers.Configuration.Refinement
import SoftwareContainers.Configuration.Sharing
import SoftwareContainers.Container.BindMounts
import SoftwareContainers.Container.Child
import SoftwareContainers.Container.Container
import SoftwareContainers.Container.EnvironmentFile
import SoftwareContainers.Container.Handle
import SoftwareContainers.Container.Jobs
import SoftwareContainers.Container.Lifecycle
import SoftwareContainers.Container.MountRollback
import SoftwareContainers.Container.MountTable
import SoftwareContainers.Container.Reaping
import SoftwareContainers.Container.Serving
import SoftwareContainers.Container.Steady
import SoftwareContainers.Container.Sys
import SoftwareContainers.Container.Toolkit
import SoftwareContainers.Container.UndoMounts
import SoftwareContainers.Container.UndoRuns
import SoftwareContainers.Container.UndoSpares
import SoftwareContainers.Container.UndoToolkit
import SoftwareContainers.Container.Waiting
import SoftwareContainers.Effect.Act
import SoftwareContainers.Effect.Contract
import SoftwareContainers.Effect.Entry
import SoftwareContainers.Effect.Erasure
import SoftwareContainers.Effect.Heap
import SoftwareContainers.Effect.Hoare
import SoftwareContainers.Effect.Invariant
import SoftwareContainers.Effect.Protocol
import SoftwareContainers.Effect.Records
import SoftwareContainers.Effect.Rely
import SoftwareContainers.Effect.Traces
import SoftwareContainers.Effect.Triple
import SoftwareContainers.FileSystem.Copy
import SoftwareContainers.FileSystem.Disk
import SoftwareContainers.FileSystem.PlainWalk
import SoftwareContainers.FileSystem.Resolve
import SoftwareContainers.FileSystem.Tree
import SoftwareContainers.FileSystem.Walk
import SoftwareContainers.Files.Confinement
import SoftwareContainers.Files.CreateDir
import SoftwareContainers.Files.Deletion
import SoftwareContainers.Files.Overlay
import SoftwareContainers.Files.OverlaySync
import SoftwareContainers.Files.Paths
import SoftwareContainers.Files.PlainCopy
import SoftwareContainers.Files.RecursiveCopy
import SoftwareContainers.Files.RecursiveDelete
import SoftwareContainers.Filter.Chain
import SoftwareContainers.Gateway.Base
import SoftwareContainers.Gateway.Contract
import SoftwareContainers.Gateway.Hook
import SoftwareContainers.Gateway.LifeCycle
import SoftwareContainers.Gateway.Plain
import SoftwareContainers.Gateway.Repeat
import SoftwareContainers.Gateway.Trace
import SoftwareContainers.Gateways.Cgroups
import SoftwareContainers.Gateways.CgroupsContract
import SoftwareContainers.Gateways.CgroupsFailures
import SoftwareContainers.Gateways.CgroupsValues
import SoftwareContainers.Gateways.CgroupsWhitelist
import SoftwareContainers.Gateways.Contracts
import SoftwareContainers.Gateways.DBus
import SoftwareContainers.Gateways.DBusActivation
import SoftwareContainers.Gateways.DBusConfig
import SoftwareContainers.Gateways.DBusCustody
import SoftwareContainers.Gateways.DeviceModes
import SoftwareContainers.Gateways.DeviceNode
import SoftwareContainers.Gateways.DevicePermissions
import SoftwareContainers.Gateways.DeviceReports
import SoftwareContainers.Gateways.Environment
import SoftwareContainers.Gateways.FileSettings
import SoftwareContainers.Gateways.Frames
import SoftwareContainers.Gateways.Serving
import SoftwareContainers.Gateways.Simple
import SoftwareContainers.Library.Configured
import SoftwareContainers.Library.Contract
import SoftwareContainers.Library.Coupling
import SoftwareContainers.Library.Erasure
import SoftwareContainers.Library.Gateways
import SoftwareContainers.Library.Addresses
import SoftwareContainers.Library.Machine
import SoftwareContainers.Library.Noted
import SoftwareContainers.Library.Serving
import SoftwareContainers.Library.Sessions
import SoftwareContainers.Library.Shutdown
import SoftwareContainers.Library.Startup
import SoftwareContainers.Library.Suspension
import SoftwareContainers.Library.Teardown
import SoftwareContainers.Library.Tracked
import SoftwareContainers.Network.Activation
import SoftwareContainers.Network.Broadcast
import SoftwareContainers.Network.FailsClosed
import SoftwareContainers.Network.Firewall
import SoftwareContainers.Network.Gateway
import SoftwareContainers.Network.HasAddress
import SoftwareContainers.Network.IPTableEntry
import SoftwareContainers.Network.Injection
import SoftwareContainers.Network.Isolation
import SoftwareContainers.Network.Netlink
import SoftwareContainers.Network.NetlinkCache
import SoftwareContainers.Network.NetlinkDump
import SoftwareContainers.Network.NetlinkExtent
import SoftwareContainers.Network.NetlinkReply
import SoftwareContainers.Network.NetlinkRoom
import SoftwareContainers.Network.PacketMatch
import SoftwareContainers.Network.Parser
import SoftwareContainers.Network.Ports
import SoftwareContainers.Network.RuleWords
import SoftwareContainers.Network.Subnet
import SoftwareContainers.Network.Success
