import TemperatureMonitor.Library.Runs
import TemperatureMonitor.Library.Iso
import TemperatureMonitor.Domain.Models
import TemperatureMonitor.Domain.AlarmMachine
import TemperatureMonitor.Domain.AlarmRuns
import TemperatureMonitor.Domain.Standards
import TemperatureMonitor.Domain.StandardsSound
import TemperatureMonitor.Library.Sql
import TemperatureMonitor.Service.Actions
import TemperatureMonitor.Service.Advisory
import TemperatureMonitor.Store.Readiness
import TemperatureMonitor.Service.Coherence
import TemperatureMonitor.Service.CycleIdentity
import TemperatureMonitor.Library.IsoOrder
import TemperatureMonitor.Library.Lease
import TemperatureMonitor.Library.Savepoints
import TemperatureMonitor.Service.OneRecovery
import TemperatureMonitor.Store.AtomicUnit
import TemperatureMonitor.Store.Epochs
import TemperatureMonitor.Library.Dealing
import TemperatureMonitor.Service.Attribution
import TemperatureMonitor.Service.WriteGate
import TemperatureMonitor.Store.RecordBinding
import TemperatureMonitor.Library.KeyedDelivery
import TemperatureMonitor.Library.Progress
import TemperatureMonitor.Service.Dispatch
import TemperatureMonitor.Service.Heartbeats
import TemperatureMonitor.Store.TextTimes
import TemperatureMonitor.Service.Shadow
import TemperatureMonitor.Service.OperationSync
import TemperatureMonitor.Store.RemoteDeletion
import TemperatureMonitor.Service.DeviceBackoff
import TemperatureMonitor.Service.PrewarningRetry
import TemperatureMonitor.Service.HistoryRuns
import TemperatureMonitor.Service.EventRows
import TemperatureMonitor.Domain.StandardChoice
import TemperatureMonitor.Service.DeviceEventChain
import TemperatureMonitor.Service.Hysteresis
import TemperatureMonitor.Service.PrewarningColumns
import TemperatureMonitor.Service.SchedulerRun
import TemperatureMonitor.Service.SettingsAudit
import TemperatureMonitor.Service.StandardSync
import TemperatureMonitor.Service.OverdueRun
import TemperatureMonitor.Service.SuccessMarkers
import TemperatureMonitor.Service.ProjectionDebt
import TemperatureMonitor.Service.CreateRuns
import TemperatureMonitor.Service.ProjectionRace
import TemperatureMonitor.Client.Records
import TemperatureMonitor.Client.Updates
import TemperatureMonitor.Client.Listing
import TemperatureMonitor.Collector.CollectorRun
import TemperatureMonitor.Client.Messages
