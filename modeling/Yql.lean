import Yql.Main
import Yql.Proofs.Condition.Shape
import Yql.Request.Reading
import Yql.Proofs.Condition.Unambiguous
import Yql.Proofs.Condition.Spelling
import Yql.Proofs.Text.Place
import Yql.Proofs.Condition.Contained
import Yql.Proofs.Query.Members
import Yql.Proofs.Condition.Prune
import Yql.Proofs.Query.Pruned
import Yql.Proofs.KeyMap
import Yql.Proofs.Query.History
import Yql.Proofs.Text.LiteralEnd
import Yql.Proofs.Query.Refusal
import Yql.Proofs.Json.Grammar
import Yql.Proofs.Json.Lexeme
import Yql.Proofs.Json.Reading
import Yql.Proofs.Json.Skipping
import Yql.Proofs.Json.Written
import Yql.Proofs.Request.Reading
import Yql.Proofs.Request.Tolerant
import Yql.Proofs.Request.Lossless
import Yql.Proofs.Condition.Folded
import Yql.Proofs.Condition.Context
import Yql.Proofs.Query.Context
import Yql.Proofs.Rank.Label
import Yql.Proofs.Command.Merge
import Yql.Proofs.Text.Trimmed
import Yql.Proofs.Command.Inputs
import Yql.Proofs.Condition.Nearest
import Yql.Proofs.Condition.Operands
import Yql.Proofs.Command.Filters
import Yql.Proofs.Command.Hollow
import Yql.Proofs.Command.Gaps
import Yql.Proofs.Request.Rows
import Yql.Proofs.Command.Streams
import Yql.Proofs.Config.Nearest
import Yql.Proofs.Condition.Equality
import Yql.Proofs.Condition.Listed
import Yql.Proofs.Text.Unescaped
