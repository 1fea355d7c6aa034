import StageGate.Main
import StageGate.Schema.Reading
import StageGate.Proofs.Sweep
import StageGate.Proofs.StepperHistory
import StageGate.Proofs.ReconcileExits
import StageGate.Proofs.ReconcilerHistory
import StageGate.Proofs.ReconcileOutcome
import StageGate.Proofs.StoppingPlace
import StageGate.Proofs.Cancellation
import StageGate.Proofs.ClusterContents
import StageGate.Proofs.DiscoveredFiles
import StageGate.Proofs.BuiltStages
import StageGate.Proofs.ReadinessRules
import StageGate.Proofs.ConvergenceSoundness
import StageGate.Proofs.RegistryHistory
import StageGate.Proofs.StageLoading
import StageGate.Proofs.LoadedOnce
import StageGate.Proofs.DecodeFaults
import StageGate.Proofs.ReconcileEscapes
import StageGate.Proofs.RelatedRuns
import StageGate.Proofs.SiteChecks
import StageGate.Proofs.IrrelevantObjects
import StageGate.Proofs.AddedObjects
import StageGate.Proofs.DecodedMetadata
import StageGate.Proofs.SatisfiableStages
import StageGate.Proofs.ClusterHistory
import StageGate.Proofs.ReadyChecks
import StageGate.Proofs.ReportedOutcome
import StageGate.Proofs.ConvergedPanel
import StageGate.Proofs.SchemaConformance
import StageGate.Proofs.DecodedResources
import StageGate.Proofs.ControlCalls
import StageGate.Proofs.LatestManifests
import StageGate.Proofs.LiveCounterparts
import StageGate.Proofs.BlamedManifests
import StageGate.Proofs.DirectoryTrees
import StageGate.Proofs.ExactDiscovery
import StageGate.Proofs.BuildFailures
import StageGate.Proofs.StageContents
import StageGate.Proofs.ControlVerdicts
import StageGate.Proofs.ListDumps
import StageGate.Proofs.ForeignEntries
import StageGate.Proofs.PaddedKinds
import StageGate.Proofs.FirstFlaws
import StageGate.Proofs.DeclaredTypes
import StageGate.Proofs.LayeredConfigs
import StageGate.Proofs.PlanRows
import StageGate.Proofs.EngineAlarms
import StageGate.Proofs.IdentityTexts
import StageGate.Proofs.KeptFaults
