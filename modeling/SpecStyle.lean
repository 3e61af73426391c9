import SpecStyle.Spec.Migrations
import SpecStyle.Lib.JsonRoundTrip
import SpecStyle.Workflow.ExportGate
import SpecStyle.Workflow.JobStoreRead
import SpecStyle.Workflow.CommitAtomicity
import SpecStyle.Workflow.JobStoreCodecRoundTrip
import SpecStyle.Workflow.JobStoreCoherence
import SpecStyle.Verification.Routing
import SpecStyle.Workflow.BatchOrder
import SpecStyle.Workflow.BatchPublication
import SpecStyle.Workflow.BatchJournalOrder
import SpecStyle.Workflow.RuntimeLifecycle
import SpecStyle.Workflow.CancelAcknowledged
import SpecStyle.Exporting.Manifest
import SpecStyle.Verification.Approval
import SpecStyle.Lib.Sha2
import SpecStyle.Calibration.SplitIsolation
import SpecStyle.Evaluation.FrozenPolicy
import SpecStyle.Repair.CompiledViews
import SpecStyle.Repair.Improvement
import SpecStyle.Workflow.BatchDominance
import SpecStyle.Calibration.ThresholdOptimal
import SpecStyle.Calibration.Splits
import SpecStyle.Spec.DiffApply
import SpecStyle.Repair.StateBox
import SpecStyle.Workflow.JobNamespace
import SpecStyle.Workflow.CommitSound
import SpecStyle.Workflow.JobStoreMeaning
import SpecStyle.Workflow.GenesisStates
import SpecStyle.Workflow.JobCreation
import SpecStyle.Generation.Preprocess
import SpecStyle.Verification.BatchConsistency
import SpecStyle.Observability.JsonLogging
import SpecStyle.Workflow.ProductionReplay
import SpecStyle.Generation.WeightManifest
import SpecStyle.Workflow.ProductionReports
import SpecStyle.Ui.SingleFlight
import SpecStyle.Spec.CompilerOrder
import SpecStyle.Verification.ProductionGate
import SpecStyle.Workflow.ListLinearizable
import SpecStyle.Workflow.CallsAlone
import SpecStyle.Workflow.StoreLinearizable
import SpecStyle.Workflow.ProductionArtifacts
import SpecStyle.Workflow.ArtifactMetadata
import SpecStyle.Workflow.ArtifactWriteOnce
import SpecStyle.Workflow.ArtifactCalls
import SpecStyle.Workflow.ArtifactAlone
import SpecStyle.Workflow.ArtifactWorld
