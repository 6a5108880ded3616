import Imf.Lib.Run
import Imf.Lib.Swap
import Imf.Lib.Last
import Imf.Lib.Fiber
import Imf.Lib.Keyed
import Imf.Lib.Json
import Imf.Lib.JsonPrefix
import Imf.Lib.Timeline
import Imf.Json.Serializable
import Imf.Ability.Trace
import Imf.Ability.Conservation
import Imf.Ability.Completion
import Imf.Ability.Order
import Imf.Usage.Settlement
import Imf.Usage.Sessions
import Imf.Usage.Attribution
import Imf.Usage.Durations
import Imf.Usage.Interleaving
import Imf.Usage.Reporter
import Imf.Usage.Days
import Imf.Usage.Ledger
import Imf.Usage.Daily
import Imf.Usage.Retention
import Imf.Usage.Windows
import Imf.Usage.Representation
import Imf.Usage.Recovery
import Imf.Usage.FileStore
import Imf.Enabled.Invariant
import Imf.Enabled.Handover
import Imf.Enabled.Migration
import Imf.Enabled.Format
import Imf.Enabled.GlobalTable
import Imf.Enabled.Coherence
import Imf.Freeze.Reports
import Imf.Session.Binding
import Imf.Session.Restart
import Imf.Ptt.Voice
import Imf.Panel.Cache
import Imf.Session.Lifecycle
import Imf.Installed.FullImeInfoManager
import Imf.Installed.Loading
import Imf.Session.SystemIme
import Imf.Session.SwitchKey
import Imf.Usage.FoldStatus
import Imf.DataChannel.Failures
import Imf.Client.Mirror
import Imf.Client.Served
import Imf.Client.Flags
import Imf.Session.SwitchQueue
import Imf.Ipc.StatusInfo
import Imf.Panel.Geometry
import Imf.Panel.History
import Imf.Session.ProxyRegistry
import Imf.Session.ClientUpdate
import Imf.Enabled.Removal
import Imf.Enabled.Queries
import Imf.Usage.Partition
import Imf.Usage.DayBooks
import Imf.Usage.DayReport
import Imf.Usage.Rollback
import Imf.Usage.Interrupted
import Imf.Usage.NoWrap
import Imf.Ability.DepthFirst
import Imf.Session.StopWait
import Imf.Ipc.PrivateCommand
import Imf.Lib.Pairs
import Imf.Text.StringUtils
import Imf.Client.KeyEventResult
import Imf.Events.Listeners
import Imf.Events.Subscription
import Imf.Ptt.Routing
import Imf.Ptt.HeldSpace
import Imf.Session.InputTypes
import Imf.Session.TextField
import Imf.Lib.Separated
import Imf.Lib.Balance
import Imf.HiSysEvent.Faults
import Imf.HiSysEvent.Statistics
import Imf.Lib.Backed
import Imf.Session.ExamMode
import Imf.Keyboard.InputMethodAbility
import Imf.Keyboard.Told
import Imf.Keyboard.Deferred
import Imf.Session.Registrations
