import HcuAutoOpt.Foundation.KeyedTable
import HcuAutoOpt.Foundation.Runs
import HcuAutoOpt.Foundation.CommittedCalls
import HcuAutoOpt.Foundation.Json
import HcuAutoOpt.Foundation.UuidText
import HcuAutoOpt.Domain.Enums
import HcuAutoOpt.Domain.Transitions
import HcuAutoOpt.Queue.Recovery
import HcuAutoOpt.Workers.LateCleanup
import HcuAutoOpt.Rounds.Lifecycle
import HcuAutoOpt.Rounds.Budget
import HcuAutoOpt.Rounds.Replays
import HcuAutoOpt.Storage.FormalRounds
import HcuAutoOpt.Rounds.SignoffRecovery
import HcuAutoOpt.Rounds.PublishedLedgers
import HcuAutoOpt.Rounds.Projection
import HcuAutoOpt.Adapters.PatchDedup
import HcuAutoOpt.Adapters.ProposalReview
import HcuAutoOpt.Rounds.FamilyHashes
import HcuAutoOpt.Operator.StartRecovery
import HcuAutoOpt.Evaluation.SealedHoldout
import HcuAutoOpt.Evaluation.OutputVerdict
import HcuAutoOpt.Evaluation.FamilyVerdicts
import HcuAutoOpt.Measurement.PhaseSettlement
import HcuAutoOpt.Measurement.WriteOnce
import HcuAutoOpt.Deployment.RecoveryTakeover
import HcuAutoOpt.Queue.CompletionReplay
import HcuAutoOpt.Queue.JobClaims
import HcuAutoOpt.Evaluation.AbbaGrammar
import HcuAutoOpt.Adapters.PatchSemantics
import HcuAutoOpt.Agent.ClaimCompleteness
import HcuAutoOpt.Measurement.FormalIsolation
import HcuAutoOpt.Sources.SourceHash
import HcuAutoOpt.Agent.PatchCanonical
import HcuAutoOpt.Evaluation.PatchPathAgreement
import HcuAutoOpt.Evaluation.ClockCalibration
import HcuAutoOpt.Evaluation.M1Verdict
import HcuAutoOpt.Evaluation.EvidenceObjects
import HcuAutoOpt.Measurement.Stage0Discipline
import HcuAutoOpt.Evaluation.ProcStat
import HcuAutoOpt.Measurement.M1Discipline
import HcuAutoOpt.Evaluation.HotpatchVerdict
import HcuAutoOpt.Agent.RunLifecycles
import HcuAutoOpt.Agent.LedgerSafety
