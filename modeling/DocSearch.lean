import DocSearch.Json.Parser
import DocSearch.Log.Logger
import DocSearch.Proofs.CallFacts
import DocSearch.Proofs.CompiledWhere
import DocSearch.Proofs.EngineFacts
import DocSearch.Proofs.SessionFacts
import DocSearch.Proofs.DocumentRuns
import DocSearch.Proofs.DotSegments
import DocSearch.Proofs.SpelledMembers
import DocSearch.Proofs.FilterFacts
import DocSearch.Proofs.NormalWhere
import DocSearch.Proofs.FilterForms
import DocSearch.Proofs.AcceptedWhere
import DocSearch.Proofs.BoundConnections
import DocSearch.Proofs.StepEntries
import DocSearch.Proofs.LoggedSessions
import DocSearch.Proofs.LatestEntries
import DocSearch.Proofs.NormalIndex
import DocSearch.Proofs.FlatRecords
import DocSearch.Proofs.FilterGrammar
import DocSearch.Proofs.SuccessfulAnswers
import DocSearch.Proofs.SearchAnswers
import DocSearch.Proofs.FailureSigns
import DocSearch.Proofs.SentDoubles
import DocSearch.Proofs.SearchBodies
import DocSearch.Proofs.WhereMembers
import DocSearch.Proofs.EnvironmentConfig
import DocSearch.Proofs.WrittenTokens
import DocSearch.Proofs.ReadTokens
import DocSearch.Proofs.BodyTexts
import DocSearch.Proofs.InsertionOrder
import DocSearch.Proofs.JsonLines
import DocSearch.Proofs.LineFeeds
