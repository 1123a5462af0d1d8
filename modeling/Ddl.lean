import Ddl.Api.Endpoint
import Ddl.Pattern.Ways
import Ddl.Proofs.Api.Answers
import Ddl.Proofs.Api.Single
import Ddl.Proofs.Case.Statement
import Ddl.Proofs.CommaList.Parts
import Ddl.Proofs.Comment
import Ddl.Proofs.CreationOrder.Added
import Ddl.Proofs.CreationOrder.Canonical
import Ddl.Proofs.CreationOrder.Circular
import Ddl.Proofs.CreationOrder.Rearranged
import Ddl.Proofs.CreationOrder.Rounds
import Ddl.Proofs.CreationOrder.SameReferences
import Ddl.Proofs.Json.Lossless
import Ddl.Proofs.LineEnds.Pipeline
import Ddl.Proofs.Log
import Ddl.Proofs.Normal.Again
import Ddl.Proofs.Normal.Layout
import Ddl.Proofs.Plan.Replay
import Ddl.Proofs.Plan.Reports
import Ddl.Proofs.Script.Chunks
import Ddl.Proofs.Script.File
import Ddl.Proofs.Table.Defaults
import Ddl.Proofs.Table.Outcome
import Ddl.Proofs.Written.Constraints
import Ddl.Proofs.Written.Enclosed
import Ddl.Proofs.Written.Literals
import Ddl.Proofs.Written.Statements
import Ddl.Script.File
import Ddl.Settings
