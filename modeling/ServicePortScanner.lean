import ServicePortScanner.Cli.Args
import ServicePortScanner.Cli.CommandLine
import ServicePortScanner.Cli.Main
import ServicePortScanner.Cli.MainEnds
import ServicePortScanner.Cli.MainRuns
import ServicePortScanner.Cli.PacedScan
import ServicePortScanner.Cli.PortSpec
import ServicePortScanner.Cli.ScopeGuard
import ServicePortScanner.Core.ExactFloating
import ServicePortScanner.Core.ExtendedFloating
import ServicePortScanner.Core.Result
import ServicePortScanner.Core.Scanner
import ServicePortScanner.Data.ByteReader
import ServicePortScanner.Data.Bytes
import ServicePortScanner.Data.Cidr
import ServicePortScanner.Data.Closest
import ServicePortScanner.Data.Collecting
import ServicePortScanner.Data.Coroutine
import ServicePortScanner.Data.CoroutineContract
import ServicePortScanner.Data.CoroutineEnding
import ServicePortScanner.Data.CoroutineLog
import ServicePortScanner.Data.CoroutineNotes
import ServicePortScanner.Data.CoroutineProtocol
import ServicePortScanner.Data.CoroutineRules
import ServicePortScanner.Data.CoroutineTranscript
import ServicePortScanner.Data.Csv
import ServicePortScanner.Data.Emplace
import ServicePortScanner.Data.Escaping
import ServicePortScanner.Data.FilledTemplate
import ServicePortScanner.Data.Hex
import ServicePortScanner.Data.Joined
import ServicePortScanner.Data.Json
import ServicePortScanner.Data.JsonLayout
import ServicePortScanner.Data.JsonNode
import ServicePortScanner.Data.JsonPath
import ServicePortScanner.Data.LargestProduct
import ServicePortScanner.Data.Marks
import ServicePortScanner.Data.Markup
import ServicePortScanner.Data.OutputStream
import ServicePortScanner.Data.PlaceMarkers
import ServicePortScanner.Data.Smoothing
import ServicePortScanner.Data.SortedSet
import ServicePortScanner.Data.Steps
import ServicePortScanner.Data.Strtod
import ServicePortScanner.Data.TokenBucket
import ServicePortScanner.Data.Utf16
import ServicePortScanner.Data.Utf8
import ServicePortScanner.Data.Words
import ServicePortScanner.Fp.CdnDefault
import ServicePortScanner.Fp.CdnLookup
import ServicePortScanner.Fp.CveDatabase
import ServicePortScanner.Fp.CveLookup
import ServicePortScanner.Fp.EpssDatabase
import ServicePortScanner.Fp.EpssLookup
import ServicePortScanner.Fp.EpssRange
import ServicePortScanner.Fp.FingerprintIdentity
import ServicePortScanner.Fp.Ja4Malformed
import ServicePortScanner.Fp.Ja4Safety
import ServicePortScanner.Fp.Ja4Server
import ServicePortScanner.Fp.Ja4X509
import ServicePortScanner.Fp.VersionBoundary
import ServicePortScanner.Gui.BannerPreview
import ServicePortScanner.Gui.ChartsPanel
import ServicePortScanner.Gui.DetailsPanel
import ServicePortScanner.Gui.ExportActions
import ServicePortScanner.Gui.MainWindow
import ServicePortScanner.Gui.ScanController
import ServicePortScanner.Gui.ScanDialog
import ServicePortScanner.Gui.ScanEvents
import ServicePortScanner.Gui.ScanIdle
import ServicePortScanner.Gui.ScanProtocol
import ServicePortScanner.Gui.ScanRate
import ServicePortScanner.Gui.WindowRuns
import ServicePortScanner.Gui.WindowTasks
import ServicePortScanner.Net.Acquire
import ServicePortScanner.Net.AcquireWait
import ServicePortScanner.Net.AdaptiveRate
import ServicePortScanner.Net.AsyncPool
import ServicePortScanner.Net.LossAccounting
import ServicePortScanner.Net.LossCounters
import ServicePortScanner.Net.Network
import ServicePortScanner.Net.OneThread
import ServicePortScanner.Net.RateChanges
import ServicePortScanner.Net.RateLimiter
import ServicePortScanner.Net.RttEstimate
import ServicePortScanner.Probes.BannerChunks
import ServicePortScanner.Probes.BannerIo
import ServicePortScanner.Probes.HandshakePump
import ServicePortScanner.Probes.ProbeDatabase
import ServicePortScanner.Probes.ProbeEngine
import ServicePortScanner.Probes.SendHex
import ServicePortScanner.Probes.Templates
import ServicePortScanner.Probes.TlsProbe
import ServicePortScanner.Report.Csv
import ServicePortScanner.Report.CveCell
import ServicePortScanner.Report.Html
import ServicePortScanner.Report.HtmlTemplate
import ServicePortScanner.Report.Json
import ServicePortScanner.Report.JsonDocument
import ServicePortScanner.Report.JsonExport
import ServicePortScanner.Report.JsonReadBack
import ServicePortScanner.Report.JsonTemplate
import ServicePortScanner.Report.RiskScore
import ServicePortScanner.Report.Text
import ServicePortScanner.Report.TopCve
import ServicePortScanner.Report.WriteFailure
import ServicePortScanner.Scan.CveCoverage
import ServicePortScanner.Scan.FirstMatch
import ServicePortScanner.Scan.LimiterReport
import ServicePortScanner.Scan.Pacing
import ServicePortScanner.Scan.PortHints
import ServicePortScanner.Scan.PortReport
import ServicePortScanner.Scan.ProbeAttempts
import ServicePortScanner.Scan.ProbeFailure
import ServicePortScanner.Scan.ScanPipeline
import ServicePortScanner.Scan.Session
import ServicePortScanner.Scan.Suspension
import ServicePortScanner.Scan.TaskEnds
