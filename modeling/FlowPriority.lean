import FlowPriority.Main
import FlowPriority.Network
import FlowPriority.Proofs.Aggregator.Image
import FlowPriority.Proofs.Classifier.AuditTrail
import FlowPriority.Proofs.Classifier.Blindness
import FlowPriority.Proofs.Classifier.Descent
import FlowPriority.Proofs.Classifier.Extremes
import FlowPriority.Proofs.Classifier.Frame
import FlowPriority.Proofs.Classifier.ScoreBounds
import FlowPriority.Proofs.Double.Multiplication
import FlowPriority.Proofs.Flow.Histogram
import FlowPriority.Proofs.Incast.Accounts
import FlowPriority.Proofs.Ledger.Conservation
import FlowPriority.Proofs.Network.Chain
import FlowPriority.Proofs.Network.Hints
import FlowPriority.Proofs.Node.Accounts
import FlowPriority.Proofs.Node.BucketWidth
import FlowPriority.Proofs.Node.Clock
import FlowPriority.Proofs.Node.Coarsening
import FlowPriority.Proofs.Node.Delay
import FlowPriority.Proofs.Node.Diagnostics
import FlowPriority.Proofs.Node.Guards
import FlowPriority.Proofs.Node.Interleaving
import FlowPriority.Proofs.Node.Rates
import FlowPriority.Proofs.Profile.Parsing
import FlowPriority.Proofs.Report.Capacity
import FlowPriority.Proofs.Report.ReadBack
import FlowPriority.Proofs.Tag.Stream
import FlowPriority.Proofs.Threshold.Binning
import FlowPriority.Proofs.Time.Arithmetic
import FlowPriority.Report.Buffer
import FlowPriority.Tag
