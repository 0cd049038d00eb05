import Thesaurus.Main
import Thesaurus.Proofs.Graph.OfEdges
import Thesaurus.Proofs.Rules.History
import Thesaurus.Proofs.RuleFile.ReadBack
import Thesaurus.ServerLog.Basic
import Thesaurus.Service.Basic
import Thesaurus.Proofs.Graph.Queries
import Thesaurus.Proofs.Rules.Outcome
import Thesaurus.Proofs.Rules.Shape
import Thesaurus.Proofs.Encoding.Utf8
import Thesaurus.Proofs.Files.Path
import Thesaurus.Proofs.Graph.EdgeOrder
import Thesaurus.Proofs.CommandLine.Runs
import Thesaurus.Proofs.RuleFile.Load
import Thesaurus.Proofs.Service.Answers
import Thesaurus.Proofs.Service.Agreement
import Thesaurus.Proofs.Rules.SelfEdges
import Thesaurus.Proofs.RuleFile.Content
import Thesaurus.Proofs.RuleFile.Encodings
import Thesaurus.Proofs.Term.Again
import Thesaurus.Proofs.Rules.Grammar
import Thesaurus.Proofs.Json.RoundTrip
import Thesaurus.Proofs.Files.Tree
import Thesaurus.Proofs.Graph.Saved
import Thesaurus.Proofs.Rules.Joined
import Thesaurus.Proofs.Rules.Repeated
import Thesaurus.Proofs.Rules.Reordered
import Thesaurus.Proofs.CommandLine.Commands
import Thesaurus.Proofs.Graph.NamedEdges
import Thesaurus.Proofs.Json.Sorted
import Thesaurus.Proofs.Service.Consistency
import Thesaurus.Proofs.CommandLine.Parts
import Thesaurus.Proofs.CommandLine.Frame
import Thesaurus.Proofs.CommandLine.Precedence
import Thesaurus.Proofs.Rules.Layout
import Thesaurus.Proofs.Unicode.Elements
import Thesaurus.Proofs.Unicode.Order
import Thesaurus.Proofs.Unicode.Form
import Thesaurus.Proofs.Unicode.Apart
import Thesaurus.Proofs.Unicode.Small
import Thesaurus.Proofs.Encoding.Damage
import Thesaurus.Proofs.RuleFile.Damage
import Thesaurus.Proofs.Settings.Hidden
import Thesaurus.Proofs.Term.Words
import Thesaurus.Proofs.Term.Wide
import Thesaurus.Proofs.Rules.Unescaped
import Thesaurus.Proofs.ServerLog
import Thesaurus.Proofs.Rules.Rejected
import Thesaurus.Proofs.CommandLine.Rejected
import Thesaurus.Proofs.Service.Rejected
