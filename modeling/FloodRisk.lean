import FloodRisk.Lib.Transition
import FloodRisk.Lib.Table
import FloodRisk.Values
import FloodRisk.Promotion.Latest
import FloodRisk.Promotion.Cap
import FloodRisk.Promotion.Write
import FloodRisk.Promotion.Frame
import FloodRisk.Promotion.Station
import FloodRisk.Promotion.Exclusion
import FloodRisk.Promotion.Staging
import FloodRisk.Lib.Newest
import FloodRisk.Promotion.Order
import FloodRisk.Promotion.Calls
import FloodRisk.Promotion.OrderRuns
import FloodRisk.Ingestion.RunWriter
import FloodRisk.Promotion.Warning
import FloodRisk.Promotion.Withdrawal
import FloodRisk.Lib.Tombstone
import FloodRisk.Promotion.Message
import FloodRisk.Promotion.Cancellation
import FloodRisk.Promotion.BatchAgreement
import FloodRisk.Ingestion.PipelineStatus
import FloodRisk.Ingestion.BaselineTick
import FloodRisk.Ingestion.FailedSources
import FloodRisk.Lib.IndexedTable
import FloodRisk.Queue.RuntimeJobs
import FloodRisk.Queue.ReplayAudit
import FloodRisk.Queue.ReplayTrail
import FloodRisk.Queue.Runs
import FloodRisk.Queue.Stranded
import FloodRisk.Queue.RetryBudget
import FloodRisk.Queue.Executions
import FloodRisk.Profiles.RefreshJobs
import FloodRisk.Profiles.RefreshRuns
import FloodRisk.Retention.StagingSweep
import FloodRisk.Retention.SweepRuns
import FloodRisk.Lib.Lease
import FloodRisk.Scheduler.BaselineLoop
import FloodRisk.Scheduler.SingleIngestion
import FloodRisk.Promotion.Replacement
import FloodRisk.Promotion.Reruns
import FloodRisk.Ingestion.SnapshotCycles
import FloodRisk.Ingestion.SnapshotRows
import FloodRisk.Ingestion.SnapshotStore
import FloodRisk.Ingestion.SnapshotRuns
import FloodRisk.Realtime.Coverage
import FloodRisk.Risk.Scoring
import FloodRisk.Assessment.Safety
import FloodRisk.Assessment.Service
import FloodRisk.Realtime.Jurisdiction
import FloodRisk.Assessment.Repository
import FloodRisk.Realtime.Absence
import FloodRisk.Assessment.Absence
import FloodRisk.Lib.CappedTotals
import FloodRisk.Risk.Totals
import FloodRisk.Risk.ScoreLaws
import FloodRisk.Risk.HistoricalScore
import FloodRisk.Lib.Grouping
import FloodRisk.Profiles.ProfileScore
import FloodRisk.Lib.Journal
import FloodRisk.Reports.UserReports
import FloodRisk.Reports.ReportRuns
import FloodRisk.Assessment.ObservationReads
import FloodRisk.Assessment.ScoredOnce
import FloodRisk.Assessment.CoverageMerge
import FloodRisk.Lib.FirstSeen
import FloodRisk.Lib.Outcome
import FloodRisk.Ncdr.CapXml
import FloodRisk.Ncdr.AuditRow
import FloodRisk.Ncdr.ActiveIndex
import FloodRisk.Ncdr.AlertAdapter
import FloodRisk.Ncdr.AuditRuns
import FloodRisk.Ncdr.AllClear
import FloodRisk.Ncdr.LiveWarnings
import FloodRisk.History.SnapshotRows
import FloodRisk.Lib.Overwrite
import FloodRisk.History.CoverageLedger
import FloodRisk.History.CoverageRuns
import FloodRisk.Realtime.HealthyRows
import FloodRisk.Realtime.Freshness
import FloodRisk.Promotion.Retry
import FloodRisk.Lib.LastSeen
import FloodRisk.Maintenance.Reindex
import FloodRisk.Maintenance.ReindexRuns
import FloodRisk.Lib.Calendar
import FloodRisk.Lib.IsoFormat
import FloodRisk.Lib.IsoZulu
import FloodRisk.IsoText
import FloodRisk.Staging.Metadata
import FloodRisk.Staging.Accepted
import FloodRisk.Staging.CapAgreement
import FloodRisk.Ncdr.CapOutcome
import FloodRisk.Staging.NcdrRows
import FloodRisk.Ncdr.Isolation
import FloodRisk.Ncdr.OtherDocuments
import FloodRisk.Lib.While
import FloodRisk.Lib.SlidingWindow
import FloodRisk.Reports.Abuse
import FloodRisk.Reports.AbuseRuns
import FloodRisk.Geocoding.Chain
import FloodRisk.Geocoding.ChainPrecision
import FloodRisk.Lib.Replace
import FloodRisk.Lib.Worklist
import FloodRisk.Geocoding.Normalization
import FloodRisk.Geocoding.Spellings
import FloodRisk.Geocoding.AliasSets
import FloodRisk.Geocoding.AliasAgreement
import FloodRisk.Geocoding.Substrings
import FloodRisk.Lib.DecimalText
import FloodRisk.Sensors.DepthText
import FloodRisk.Lib.Segments
import FloodRisk.WraHistorical.Rings
import FloodRisk.WraHistorical.RingTopology
import FloodRisk.Lib.RoseTree
import FloodRisk.WraHistorical.Kml
import FloodRisk.WraHistorical.Accounting
import FloodRisk.WraHistorical.AdapterRun
import FloodRisk.Lib.PythonValue
import FloodRisk.Adapters.Helpers
import FloodRisk.Adapters.StationRun
import FloodRisk.Adapters.FloodSensors
import FloodRisk.Adapters.Gauges
import FloodRisk.CivilIot.Things
import FloodRisk.Adapters.StationSources
import FloodRisk.Adapters.StagedReadings
import FloodRisk.Adapters.OwnReadings
import FloodRisk.Adapters.DryReadings
import FloodRisk.Adapters.FloodItems
import FloodRisk.Adapters.GaugeItems
import FloodRisk.Adapters.StagedNumbers
import FloodRisk.Adapters.Polls
import FloodRisk.Adapters.FloodRecords
import FloodRisk.Adapters.GaugeRecords
import FloodRisk.Adapters.ItemsApart
import FloodRisk.Adapters.RunResult
import FloodRisk.WraIncident.Incidents
import FloodRisk.WraIncident.IncidentRuns
import FloodRisk.Lib.RayParity
import FloodRisk.WraHistorical.Tolerance
import FloodRisk.WraHistorical.RingParity
import FloodRisk.Lib.UrlSplit
import FloodRisk.News.Citations
import FloodRisk.News.CitationRuns
import FloodRisk.News.CitationHosts
import FloodRisk.WraWarning.Documents
import FloodRisk.WraWarning.Walk
import FloodRisk.WraWarning.Visits
import FloodRisk.WraWarning.WalkRuns
import FloodRisk.WraWarning.Hiding
import FloodRisk.WraWarning.HidingRuns
import FloodRisk.Lib.IpAddress
import FloodRisk.Reports.ClientSignal
import FloodRisk.Lib.PercentDecode
import FloodRisk.Layers.TileUrls
import FloodRisk.Layers.Authority
import FloodRisk.Layers.PublishedHosts
import FloodRisk.CivilIot.Pages
import FloodRisk.CivilIot.PageRuns
import FloodRisk.CivilIot.Readable
import FloodRisk.CivilIot.Inventory
import FloodRisk.CivilIot.InventoryRuns
import FloodRisk.RiskDisplay.Coverage
import FloodRisk.RiskDisplay.Sensing
import FloodRisk.RiskDisplay.Agreement
