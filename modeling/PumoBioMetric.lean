import PumoBioMetric.Library.TransitionRun
import PumoBioMetric.Library.Interleaving
import PumoBioMetric.Library.KeyedTable
import PumoBioMetric.Library.FirstMatch
import PumoBioMetric.Library.FreeNumber
import PumoBioMetric.Library.Cuts
import PumoBioMetric.Library.FaultyCalls
import PumoBioMetric.Library.SharedStore
import PumoBioMetric.Library.Mailboxes
import PumoBioMetric.Library.EventStream
import PumoBioMetric.Py.Text
import PumoBioMetric.Py.Dict
import PumoBioMetric.Py.Split
import PumoBioMetric.Py.DateTime
import PumoBioMetric.Py.Strptime
import PumoBioMetric.Py.Strftime
import PumoBioMetric.Py.StrptimeCuts
import PumoBioMetric.Py.IsoFormat
import PumoBioMetric.Py.IsoText
import PumoBioMetric.Py.Json
import PumoBioMetric.Py.JsonText
import PumoBioMetric.Py.JsonCut
import PumoBioMetric.Py.JsonBehind
import PumoBioMetric.Py.Utf8
import PumoBioMetric.Core.Devices
import PumoBioMetric.Core.PinSearch
import PumoBioMetric.Core.Simulator
import PumoBioMetric.Core.MoveSafety
import PumoBioMetric.Core.PinResolution
import PumoBioMetric.Core.Directory
import PumoBioMetric.Core.EmployeeService
import PumoBioMetric.Core.AccessRemoval
import PumoBioMetric.Core.EnrolCall
import PumoBioMetric.Core.HomedDirectory
import PumoBioMetric.Core.SimulatedEnrolment
import PumoBioMetric.Core.RecordedPin
import PumoBioMetric.Core.DirectoryCall
import PumoBioMetric.Core.OthersSpared
import PumoBioMetric.Core.Offboarding
import PumoBioMetric.Core.PermanentDeletion
import PumoBioMetric.Core.DirectoryRace
import PumoBioMetric.Core.DirectoryFile
import PumoBioMetric.Core.Pyzk
import PumoBioMetric.Core.HardwareMigration
import PumoBioMetric.Core.MigrationCalls
import PumoBioMetric.Core.FingerprintsMoved
import PumoBioMetric.Core.ReaderCalls
import PumoBioMetric.Core.OwedReaders
import PumoBioMetric.Core.ReadersEnabled
import PumoBioMetric.Core.SimulatorCalls
import PumoBioMetric.Core.WellFormedDevices
import PumoBioMetric.Core.UsablePin
import PumoBioMetric.Core.CalmMigration
import PumoBioMetric.Core.SlotAllocation
import PumoBioMetric.Core.NamelessHolder
import PumoBioMetric.Core.TargetPinRead
import PumoBioMetric.Core.ReaderContents
import PumoBioMetric.Core.SimulatorPredicts
import PumoBioMetric.Core.CopiedAgain
import PumoBioMetric.Core.RepeatedCopy
import PumoBioMetric.Core.DirectoryRun
import PumoBioMetric.Core.FinalDismissal
import PumoBioMetric.Core.AccessShape
import PumoBioMetric.Core.MigrationFrame
import PumoBioMetric.Core.DeviceNaming
import PumoBioMetric.Core.HardwareRun
import PumoBioMetric.Core.StableResolution
import PumoBioMetric.Core.CopyUndone
import PumoBioMetric.Core.QueuedCommands
import PumoBioMetric.Core.PlacedCalls
import PumoBioMetric.Core.CreationReplaces
import PumoBioMetric.Core.BatchCounts
import PumoBioMetric.Core.TemplateWipes
import PumoBioMetric.Core.MoveTruth
import PumoBioMetric.Core.Careers
import PumoBioMetric.Router.PunchRecord
import PumoBioMetric.Router.UserCache
import PumoBioMetric.Router.DeviceUsers
import PumoBioMetric.Router.Attlog
import PumoBioMetric.Router.AttlogPieces
import PumoBioMetric.Router.CachedNames
import PumoBioMetric.Router.BlankColumns
import PumoBioMetric.Router.Userinfo
import PumoBioMetric.Router.PunchLog
import PumoBioMetric.Router.LiveFeed
import PumoBioMetric.Router.PunchHistory
import PumoBioMetric.Router.CommandQueue
import PumoBioMetric.Router.CommandDelivery
import PumoBioMetric.Router.CdataHandler
import PumoBioMetric.Router.PushAcknowledged
import PumoBioMetric.Router.Contact
import PumoBioMetric.Sync.Punch
import PumoBioMetric.Sync.Delivery
import PumoBioMetric.Sync.RejectedRows
import PumoBioMetric.Sync.SpoolFile
import PumoBioMetric.Sync.SpoolRace
import PumoBioMetric.Sync.SpoolCrash
import PumoBioMetric.Sync.PunchJson
import PumoBioMetric.Sync.SpoolText
import PumoBioMetric.Sync.WirePunch
import PumoBioMetric.Sync.OneReading
import PumoBioMetric.Sync.WireLayouts
import PumoBioMetric.Sync.FabricatedTimes
import PumoBioMetric.Sync.Liveness
import PumoBioMetric.Sync.Throttle
import PumoBioMetric.Sync.OneReader
import PumoBioMetric.Sync.IngestExits
import PumoBioMetric.Sync.SpoolBytes
import PumoBioMetric.Sync.FlushLoop
import PumoBioMetric.Sync.TornLine
import PumoBioMetric.Sync.DeviceSync
import PumoBioMetric.Sync.SyncOffered
import PumoBioMetric.Sync.SyncTwice
import PumoBioMetric.Sync.NamesPushed
import PumoBioMetric.Sync.SavedLog
import PumoBioMetric.Sync.UsersReported
import PumoBioMetric.Router.TransferUser
import PumoBioMetric.Router.TransferredRow
import PumoBioMetric.Sync.SpooledDelivery
import PumoBioMetric.Sync.PoolDriver
import PumoBioMetric.Sync.ConnectionPool
import PumoBioMetric.Sync.ConnectionsReturned
import PumoBioMetric.Sync.Restart
import PumoBioMetric.Router.PunchesAnswer
import PumoBioMetric.Sync.PushToTable
import PumoBioMetric.Sync.ContactWrites
import PumoBioMetric.Router.IclockServer
import PumoBioMetric.Router.ReaderPolls
import PumoBioMetric.Router.ReaderContacts
