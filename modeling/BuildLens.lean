import BuildLens.Gateway.CompletionEvents
import BuildLens.Gateway.SnapshotOrder
import BuildLens.Gateway.OrganizationRoles
import BuildLens.Gateway.WebhookReceipt
import BuildLens.Analytics.Redelivery
import BuildLens.Ai.Triggers
import BuildLens.Ai.PaidOnce
import BuildLens.Ai.MonthlyCap
import BuildLens.Ai.Grounding
import BuildLens.Gateway.RelayDelivery
import BuildLens.Gateway.InferredDeployments
import BuildLens.Gateway.CompletionRace
import BuildLens.Gateway.JobDeliveries
import BuildLens.Gateway.SoftReferences
import BuildLens.Gateway.Reapplication
import BuildLens.Gateway.ExclusiveDeliveries
import BuildLens.Gateway.CrashSafety
import BuildLens.Gateway.CommitDates
import BuildLens.Gateway.FirstReview
import BuildLens.Gateway.BranchListing
import BuildLens.Gateway.TrackedRepositories
import BuildLens.Gateway.OwnersKept
import BuildLens.Contracts
import BuildLens.Gateway.ReadOnlyTokens
import BuildLens.Ai.CompletedReports
import BuildLens.Ai.Consumers
import BuildLens.Ai.ScheduledReports
import BuildLens.Analytics.IncrementalDora
import BuildLens.Ai.Citations
import BuildLens.Gateway.FailureRecords
import BuildLens.Gateway.Junit
import BuildLens.Ai.FailureEvidence
import BuildLens.Gateway.RelayAttempts
import BuildLens.Ai.MissedSecrets
import BuildLens.Ai.Costs
import BuildLens.Gateway.Signatures
import BuildLens.Analytics.DoraCounts
import BuildLens.Analytics.FlakyOutcomes
import BuildLens.Gateway.DefaultFlags
import BuildLens.Analytics.ComparableAttempts
import BuildLens.Gateway.LinkAudits
import BuildLens.Gateway.TokenInvalidation
import BuildLens.Analytics.RecoveredBands
import BuildLens.Analytics.PoisonEvents
import BuildLens.Analytics.Percentiles
import BuildLens.Gateway.Slugs
import BuildLens.Gateway.LinkHeader
import BuildLens.Gateway.TestKeys
import BuildLens.Ai.LogRanges
import BuildLens.Ai.RedactedLines
import BuildLens.Analytics.StoredGrades
import BuildLens.Analytics.ScoreRanges
import BuildLens.Gateway.JunitArchives
import BuildLens.Gateway.CapturedTests
import BuildLens.Analytics.RebuiltRows
import BuildLens.Gateway.TokenLifetimes
