import ContainerKernel.ByteString
import ContainerKernel.Command
import ContainerKernel.Command.Options
import ContainerKernel.Document.Decode
import ContainerKernel.Document.Key
import ContainerKernel.Document.Mark
import ContainerKernel.Document.Node
import ContainerKernel.Document.Node.Compose
import ContainerKernel.Document.Node.Render
import ContainerKernel.Document.Page
import ContainerKernel.Document.Page.Scalar
import ContainerKernel.Document.Record
import ContainerKernel.Document.Scalar.Block
import ContainerKernel.Document.Scalar.Fold
import ContainerKernel.Document.Scalar.Meaning
import ContainerKernel.Document.Scalar.Number
import ContainerKernel.Document.Scalar.Plain
import ContainerKernel.Document.Scalar.Quoted
import ContainerKernel.Document.Scalar.TextField
import ContainerKernel.Document.Scalar.Timestamp
import ContainerKernel.Document.Scalar.Written
import ContainerKernel.Document.Source
import ContainerKernel.Document.Tag
import ContainerKernel.Document.Token
import ContainerKernel.Document.Token.Comments
import ContainerKernel.Document.Token.Name
import ContainerKernel.Document.Token.Scan
import ContainerKernel.DynamicList
import ContainerKernel.Fault
import ContainerKernel.FileTree
import ContainerKernel.Growth
import ContainerKernel.Kernel
import ContainerKernel.Log
import ContainerKernel.Log.Stamp
import ContainerKernel.Machine
import ContainerKernel.Main
import ContainerKernel.Metrics
import ContainerKernel.Metrics.Counter
import ContainerKernel.Metrics.Family
import ContainerKernel.Metrics.Summary
import ContainerKernel.Number.ByteAmount
import ContainerKernel.Number.Decimal
import ContainerKernel.Number.Double
import ContainerKernel.Number.Word
import ContainerKernel.Scenario
import ContainerKernel.Scenario.File
import ContainerKernel.Scenario.Mismatch
import ContainerKernel.Scenario.Run
import ContainerKernel.Scenario.Step
import ContainerKernel.Settings
import ContainerKernel.Settings.Document
import ContainerKernel.Settings.File
import ContainerKernel.Settings.Render
import ContainerKernel.Text.Base64
import ContainerKernel.Text.Blank
import ContainerKernel.Text.Bytes
import ContainerKernel.Text.Printable
import ContainerKernel.Text.Quoted
import ContainerKernel.Value
import ContainerKernel.Proofs.Containers
import ContainerKernel.Proofs.KernelSteps
import ContainerKernel.Proofs.ListHistory
import ContainerKernel.Proofs.StringHistory
import ContainerKernel.Proofs.NewContainers
import ContainerKernel.Proofs.MachineCalls
import ContainerKernel.Proofs.MachineTables
import ContainerKernel.Proofs.UnseenChanges
import ContainerKernel.Proofs.FailureAtomicity
import ContainerKernel.Proofs.FaultRecords
import ContainerKernel.Proofs.DisjointClients
import ContainerKernel.Proofs.HandleTable
import ContainerKernel.Proofs.VisibleContents
import ContainerKernel.Proofs.ReplaySteps
import ContainerKernel.Proofs.EarlyExit
import ContainerKernel.Proofs.ReplaysAlike
import ContainerKernel.Proofs.PolicyAgreement
import ContainerKernel.Proofs.NamedContents
import ContainerKernel.Proofs.Capacities
import ContainerKernel.Proofs.ExactCounters
import ContainerKernel.Proofs.AllocationTotals
import ContainerKernel.Proofs.OutlineCursors
import ContainerKernel.Proofs.OutlineScans
import ContainerKernel.Proofs.OutlineTokens
import ContainerKernel.Proofs.OutlineNodes
import ContainerKernel.Proofs.PlainWords
import ContainerKernel.Proofs.PlainRecords
import ContainerKernel.Proofs.SettingsRoundTrip
import ContainerKernel.Proofs.HiddenChanges
import ContainerKernel.Proofs.SharedCounters
import ContainerKernel.Proofs.GivenSettings
import ContainerKernel.Proofs.SettingsFiles
import ContainerKernel.Proofs.CommandVerdicts
import ContainerKernel.Proofs.BufferRecords
import ContainerKernel.Proofs.DraftChecks
import ContainerKernel.Proofs.SoundReplays
import ContainerKernel.Proofs.AcceptedReplays
import ContainerKernel.Proofs.CleanReadings
import ContainerKernel.Proofs.RecordLookups
import ContainerKernel.Proofs.SettingsOverlays
import ContainerKernel.Proofs.DistinctTexts
import ContainerKernel.Proofs.GrowthInWords
import ContainerKernel.Proofs.JoinGroupings
import ContainerKernel.Proofs.ValueDescriptions
import ContainerKernel.Proofs.ValueTexts
