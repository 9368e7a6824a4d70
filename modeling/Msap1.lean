import Msap1.Machine
import Msap1.Loops
import Msap1.Arithmetic
import Msap1.Sqlite
import Msap1.Meter.Values
import Msap1.Meter.Records
import Msap1.Meter.HarmonicSpectrum
import Msap1.Ledger.Columns
import Msap1.Ledger.Store
import Msap1.Ledger.Operations
import Msap1.Ledger.Outcomes
import Msap1.Ledger.Persistence
import Msap1.Consumption
import Msap1.Ledger.Conservation
import Msap1.Ledger.Stamps
import Msap1.Ledger.Restart
import Msap1.Ledger.ResetAudit
import Msap1.Ledger.DemandPeaks
import Msap1.Spool.Records
import Msap1.Spool.Operations
import Msap1.Spool.Publish
import Msap1.Spool.Sessions
import Msap1.Spool.Retention
import Msap1.Spool.Durability
import Msap1.Spool.Cursors
import Msap1.Spool.Consumers
import Msap1.Trail
import Msap1.DataSender.Outbox
import Msap1.DataSender.Recovery
import Msap1.DataSender.Effects
import Msap1.DataSender.Promises
import Msap1.DataSender.Deliveries
import Msap1.DataSender.Workers
import Msap1.DataSender.Writers
import Msap1.DataSender.Scheduler
import Msap1.DataSender.Tiling
import Msap1.DataSender.Starvation
import Msap1.DataSender.LoosePayloads
import Msap1.DataSender.CrashPoints
import Msap1.DataSender.Restarts
import Msap1.Historian.Store
import Msap1.Historian.Service
import Msap1.Historian.EnergyBlocks
import Msap1.Historian.EventCatalogue
import Msap1.Historian.EventLinks
import Msap1.Historian.Redelivery
import Msap1.Historian.HarmonicStore
import Msap1.Historian.ClearFloors
import Msap1.Historian.HarmonicAssembly
import Msap1.Historian.HarmonicStaging
import Msap1.Historian.HarmonicDelivery
import Msap1.StableSort
import Msap1.Historian.RetentionLoops
import Msap1.Historian.TrackedSizes
import Msap1.Historian.TrackedRuns
import Msap1.Historian.EventQueries
import Msap1.RingBuffer
import Msap1.Waveform.Capture
import Msap1.Waveform.EventCaptures
import Msap1.Waveform.Frames
import Msap1.Waveform.Triggers
import Msap1.Acquisition.Ingestor
import Msap1.Acquisition.LiveView
import Msap1.Acquisition.Publication
import Msap1.Acquisition.EventWaveformLinker
import Msap1.Acquisition.FrequencyBoundary
import Msap1.Acquisition.MeterConfiguration
import Msap1.Acquisition.LiveSettings
import Msap1.Settings.Authority
import Msap1.Mqtt.Scheduler
import Msap1.Mqtt.Reconfiguration
import Msap1.Mqtt.Ordering
import Msap1.Ipc.Client
import Msap1.Ipc.Isolation
import Msap1.ByteCodec
import Msap1.Ipc.Codecs
import Msap1.Ipc.RoundTrip
import Msap1.BinarySearch
import Msap1.Modbus.RegisterMap
import Msap1.Modbus.RequestHandler
import Msap1.Modbus.Lookup
import Msap1.Modbus.Projection
import Msap1.Modbus.Answers
import Msap1.Crc
import Msap1.ByteLayout
import Msap1.Mncwf.Document
import Msap1.Mncwf.Container
import Msap1.Mncwf.Reader
import Msap1.ShortestPrefix
import Msap1.Truncation
import Msap1.Waveform.ArchiveRetention
import Msap1.WebBackend.ExportJobs
import Msap1.WebBackend.ExportTaskManager
import Msap1.WebBackend.ExportInvariants
import Msap1.WebBackend.ExportSteps
import Msap1.WebBackend.ExportChanges
import Msap1.WebBackend.ExportOwners
import Msap1.WebBackend.ExportDownloads
import Msap1.Meter.HarmonicFamilies
import Msap1.SignedArithmetic
import Msap1.Meter.MeasurementTimebase
import Msap1.Waveform.EventTimes
import Msap1.Rounding
import Msap1.TextLines
import Msap1.Meter.Updates
import Msap1.Meter.TenSecondFrequency
import Msap1.Meter.QuantityRecords
import Msap1.Meter.IntervalRecords
import Msap1.Meter.LaneQuality
import Msap1.Unrolled
import Msap1.Acquisition.RecordContinuity
import Msap1.Settings.WireConfiguration
import Msap1.Meter.EventLifecycle
import Msap1.Settings.WireFields
import Msap1.Settings.WireImage
import Msap1.Framing
import Msap1.Modbus.RtuFraming
import Msap1.Csv
import Msap1.Datalogger.ContentWriter
import Msap1.Decimal
import Msap1.Datalogger.DatasetRows
import Msap1.Ledger.Saturation
import Msap1.Spool.Accounting
import Msap1.Paging
import Msap1.Historian.HistoryQueries
import Msap1.Datalogger.HistorianSource
import Msap1.Mncwf.Samples
import Msap1.Mncwf.WaveformSource
import Msap1.Mncwf.OnDemand
import Msap1.Conversion.Comtrade
import Msap1.Conversion.ComtradeExact
import Msap1.Conversion.ComtradeText
import Msap1.Conversion.ComtradeConverter
import Msap1.Conversion.ComtradeHeader
import Msap1.Conversion.ComtradeExport
import Msap1.Conversion.PqdifBody
import Msap1.Conversion.PqdifFile
import Msap1.Mncwf.Damage
import Msap1.Modbus.TcpServer
import Msap1.Modbus.TcpSlots
