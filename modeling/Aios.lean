import Aios.Action.Envelope
import Aios.Action.Lifecycle
import Aios.Capability.Cascade
import Aios.Distribution.ChainSoundness
import Aios.Distribution.Deplatform
import Aios.Distribution.DeplatformRuns
import Aios.Distribution.Downgrade
import Aios.Distribution.InstallPipeline
import Aios.Distribution.KeyRotation
import Aios.Distribution.Manifest
import Aios.Distribution.MirrorResolution
import Aios.Distribution.Reputation
import Aios.Distribution.TrustChain
import Aios.Distribution.Version
import Aios.Distribution.VersionCheckers
import Aios.Distribution.Vocabulary
import Aios.Evidence.BackendAgreement
import Aios.Evidence.CompactionAccounting
import Aios.Evidence.CompactionApproval
import Aios.Evidence.CrashConsistency
import Aios.Evidence.ForeverRetention
import Aios.Evidence.IndexConsistency
import Aios.Evidence.IndexKeyOrder
import Aios.Evidence.LinkCheckers
import Aios.Evidence.ReceiptChain
import Aios.Evidence.SealOrder
import Aios.Evidence.SecretKeys
import Aios.Evidence.Segment
import Aios.Evidence.Subscribe
import Aios.Evidence.SubscribeResume
import Aios.Fleet.AbortFinality
import Aios.Fleet.CanaryGate
import Aios.Fleet.ClusterOverlay
import Aios.Fleet.CoordinatorSafety
import Aios.Fleet.DagIntegrity
import Aios.Fleet.EvidenceLog
import Aios.Fleet.ForkDetection
import Aios.Fleet.IdentityResolver
import Aios.Fleet.Membership
import Aios.Fleet.MembershipAuthority
import Aios.Fleet.MerkleInclusion
import Aios.Fleet.MerklePath
import Aios.Fleet.MeshConnections
import Aios.Fleet.PhaseProgress
import Aios.Fleet.Recovery
import Aios.Fleet.Rollout
import Aios.Fleet.ZeroTrust
import Aios.Fs.LostUpdates
import Aios.Fs.QuarantinePointers
import Aios.Fs.QueryRoundTrip
import Aios.Fs.Readability
import Aios.Fs.Views
import Aios.Lib.Digraph
import Aios.Lib.Ledger
import Aios.Lib.Lexicographic
import Aios.Lib.Lines
import Aios.Lib.Meet
import Aios.Lib.Pairs
import Aios.Lib.Scanner
import Aios.Lib.SemVerGrammar
import Aios.Lib.Stateful
import Aios.Lib.Table
import Aios.Namespace.MountTable
import Aios.Policy.BundleService
import Aios.Policy.CacheRuns
import Aios.Policy.ConditionsRoundTrip
import Aios.Policy.OverrideBoundary
import Aios.Policy.PrivacyDowngrade
import Aios.Profile.AppArmor
import Aios.Profile.Composer
import Aios.Profile.MostRestrictive
import Aios.Profile.ProfileCompleteness
import Aios.Profile.ResourceEnforcer
import Aios.Profile.RuleInjection
import Aios.Runtime.Agreement
import Aios.Runtime.ApprovalDeadline
import Aios.Runtime.ApprovalGate
import Aios.Runtime.ApprovalLinks
import Aios.Runtime.ApprovalSoundness
import Aios.Runtime.ConcurrentResume
import Aios.Runtime.DispatchQueue
import Aios.Runtime.GateDecisions
import Aios.Runtime.ManifestSignature
import Aios.Runtime.QueueSlots
import Aios.Runtime.ResumeCourse
import Aios.Runtime.Runs
import Aios.Sandbox.CascadeTeardown
import Aios.Sandbox.Delegation
import Aios.Sandbox.Hierarchy
import Aios.Sandbox.Lifecycle
import Aios.Sandbox.LifecycleAgreement
import Aios.Sandbox.RestoredState
import Aios.Sandbox.RollbackEngine
import Aios.Sandbox.StateSandbox
import Aios.Sandbox.Tree
import Aios.Scheduler.Decision
import Aios.Scheduler.Integrity
import Aios.Scheduler.PartitionGuarantee
import Aios.Scheduler.PartitionScheduler
import Aios.Scheduler.PriorityInheritance
import Aios.Sgr.Convergence
import Aios.Sgr.CycleDetection
import Aios.Sgr.DependencyIndex
import Aios.Sgr.GraphCalls
import Aios.Sgr.ParallelBatches
import Aios.Sgr.Readiness
import Aios.Sgr.ServiceGraph
import Aios.Sgr.TopologicalSort
import Aios.Vault.AuthorityEvidence
import Aios.Vault.Broker
import Aios.Vault.CapabilityAuthority
import Aios.Vault.Override
import Aios.Vault.OverrideQuorum
import Aios.Vault.OverrideSingleUse
import Aios.Verification.Executor
import Aios.Verification.FailClosed
import Aios.Verification.Grammar
import Aios.Verification.LeafReports
import Aios.Verification.Outcomes
import Aios.Verification.Parser
import Aios.Verification.RoundTrip
import Aios.Verification.SwallowedErrors
import Aios.Verification.WellFormed
