import DocQuery.Main
import DocQuery.Record.Recall
import DocQuery.Proofs.RowLimit
import DocQuery.Proofs.RunOutcome
import DocQuery.Proofs.Environment
import DocQuery.Proofs.NumberOrder
import DocQuery.Proofs.JoinKeys
import DocQuery.Proofs.EnvironmentRecord
import DocQuery.Proofs.EnvironmentJoins
import DocQuery.Proofs.EnvironmentAnswer
import DocQuery.Proofs.Grammar
import DocQuery.Proofs.Reading
import DocQuery.Proofs.Phrases
import DocQuery.Proofs.ConditionGrammar
import DocQuery.Proofs.ClauseGrammar
import DocQuery.Proofs.QueryGrammar
import DocQuery.Proofs.Lexing
import DocQuery.Proofs.NestingDepth
import DocQuery.Proofs.ParsedPlan
import DocQuery.Proofs.Explanation
import DocQuery.Proofs.QuotedContent
import DocQuery.Proofs.Rounding
import DocQuery.Proofs.NumberText
import DocQuery.Proofs.Printing
import DocQuery.Proofs.PlanText
import DocQuery.Proofs.Isolation
import DocQuery.Proofs.JsonScalars
import DocQuery.Proofs.JsonRoundTrip
import DocQuery.Proofs.JsonRows
import DocQuery.Proofs.CanonicalText
import DocQuery.Proofs.JoinEquality
import DocQuery.Proofs.WrittenFile
import DocQuery.Proofs.StoreText
import DocQuery.Proofs.StoreHistory
import DocQuery.Proofs.Evaluation
import DocQuery.Proofs.NestedLoop
import DocQuery.Proofs.SortPlaces
import DocQuery.Proofs.SortMerges
import DocQuery.Proofs.SortRuns
import DocQuery.Proofs.ValueOrder
import DocQuery.Proofs.SortedRecords
import DocQuery.Proofs.ConditionParts
import DocQuery.Proofs.JoinSymmetry
import DocQuery.Proofs.Wildcards
import DocQuery.Proofs.ContentEquality
import DocQuery.Proofs.ComparisonLaws
import DocQuery.Proofs.NegationNormal
import DocQuery.Proofs.Membership
import DocQuery.Proofs.PlanStrings
import DocQuery.Proofs.Terminators
import DocQuery.Proofs.KeywordCase
import DocQuery.Proofs.Placeholders
import DocQuery.Proofs.PathNodes
import DocQuery.Proofs.MemberOrder
import DocQuery.Proofs.RecordSplit
import DocQuery.Proofs.OutputColumns
import DocQuery.Proofs.LimitRange
import DocQuery.Proofs.FileRewrite
import DocQuery.Proofs.StoreReads
import DocQuery.Proofs.PathGrammar
import DocQuery.Proofs.TokenScan
import DocQuery.Proofs.RecordMerge
import DocQuery.Proofs.ScopeMemory
import DocQuery.Proofs.ClauseScopes
import DocQuery.Proofs.MappingText
