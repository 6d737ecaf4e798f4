import Tiger.Library.Entries
import Tiger.Library.Loop
import Tiger.Library.Cells
import Tiger.Library.RuleTable
import Tiger.Library.PollLoop
import Tiger.Library.Overwrite
import Tiger.Library.Script
import Tiger.Library.Script.Discipline
import Tiger.Library.Script.Reach
import Tiger.Library.Script.Paths
import Tiger.Model.Text
import Tiger.Model.Talk
import Tiger.Model.Restart
import Tiger.Model.Manager
import Tiger.Model.ObjectBinding
import Tiger.Model.LteSettings
import Tiger.Model.ConnectService
import Tiger.Model.Keeplive
import Tiger.Model.Radio
import Tiger.Model.Scan
import Tiger.Model.AtScript
import Tiger.Model.AtProfile
import Tiger.Model.Modemdrv.Common
import Tiger.Model.Modemdrv.Ec200x
import Tiger.Model.Modemdrv.Em350
import Tiger.Model.Modemdrv.Fml610
import Tiger.Model.Modemdrv.Inne7b01
import Tiger.Model.Modemdrv.Mu609
import Tiger.Model.Modemdrv.Ne16u
import Tiger.Model.Modemdrv.Zte7520
import Tiger.Model.Modemdrv
import Tiger.Model.Contexts
import Tiger.Model.StoringModem
import Tiger.Analysis.IdleRestart
import Tiger.Analysis.ManagerTable
import Tiger.Analysis.ManagerAccess
import Tiger.Analysis.ManagerTeardown
import Tiger.Analysis.DeviceBinding
import Tiger.Analysis.LteStores
import Tiger.Analysis.SettingRoutes
import Tiger.Analysis.SettingRoundTrip
import Tiger.Analysis.DeviceLocks
import Tiger.Analysis.WriteEffects
import Tiger.Analysis.RetryEscalation
import Tiger.Analysis.LossDetection
import Tiger.Analysis.RadioEffects
import Tiger.Analysis.RadioTeardown
import Tiger.Analysis.RadioAddresses
import Tiger.Analysis.ScriptRules
import Tiger.Analysis.ScriptDiscipline
import Tiger.Analysis.ConnectContract
import Tiger.Analysis.ScriptSteps
import Tiger.Analysis.ConnectUndone
import Tiger.Analysis.ConnectedAnswer
import Tiger.Analysis.ContextDefinitions
import Tiger.Analysis.SettingPlans
import Tiger.Analysis.SettingSteps
import Tiger.Analysis.SettingConvergence
import Tiger.Analysis.WatchSteps
import Tiger.Analysis.WatchFreshness
import Tiger.Library.BlockText
import Tiger.Model.Station
import Tiger.Analysis.WpaFile
import Tiger.Analysis.StationStart
import Tiger.Analysis.UpTwice
import Tiger.Analysis.IdleUsers
import Tiger.Analysis.SlotSearch
import Tiger.Library.Sampling
import Tiger.Model.PointRestart
import Tiger.Analysis.PointSampling
import Tiger.Analysis.SourceMark
import Tiger.Library.Latest
import Tiger.Model.Online
import Tiger.Analysis.OnlineBalance
import Tiger.Analysis.RecordedMode
import Tiger.Model.Interface
import Tiger.Analysis.SettingRemains
import Tiger.Analysis.EscalationSafety
import Tiger.Analysis.LinkWait
import Tiger.Library.Script.Writes
import Tiger.Library.Delimited
import Tiger.Analysis.ScanRules
import Tiger.Analysis.NetworkInfo
import Tiger.Analysis.SysinfoexCopies
import Tiger.Analysis.ServingCellLines
import Tiger.Analysis.ServingCell
import Tiger.Analysis.ContextComparison
import Tiger.Analysis.ContractFields
import Tiger.Analysis.AddressAnswers
import Tiger.Model.Aplist
import Tiger.Analysis.ScanFile
import Tiger.Analysis.ScanListing
import Tiger.Analysis.ScanTree
import Tiger.Analysis.ScanChoice
import Tiger.Library.ByteMask
import Tiger.Analysis.BandMask
import Tiger.Model.Buffers
import Tiger.Analysis.SplittingLoop
import Tiger.Analysis.IccidTrim
import Tiger.Library.Pattern
import Tiger.Model.Misc
import Tiger.Analysis.Validators
import Tiger.Analysis.StructuralComparison
import Tiger.Model.Hostapd
import Tiger.Analysis.AccessLists
import Tiger.Model.PageFiles
import Tiger.Analysis.PageDirectory
import Tiger.Analysis.StatusFields
import Tiger.Library.Words
import Tiger.Model.Code
import Tiger.Model.Ntpclient
import Tiger.Analysis.CommandTransport
import Tiger.Analysis.NtpFreshness
import Tiger.Analysis.NtpClock
import Tiger.Analysis.ManagerInterleaving
import Tiger.Library.Alignment
import Tiger.Library.Sections
import Tiger.Model.HostapdRadio
import Tiger.Analysis.ChannelPlan
import Tiger.Analysis.HostapdFile
import Tiger.Library.Quoted
import Tiger.Analysis.CommandLines
import Tiger.Analysis.CommandOrigins
import Tiger.Library.LowerEnvelope
import Tiger.Model.Phaselock
import Tiger.Analysis.PhaseLock
import Tiger.Analysis.PhaseEnvelope
