import SqlLens.Main
import SqlLens.Proofs.Analysis.ColumnLists
import SqlLens.Proofs.Analysis.Independence
import SqlLens.Proofs.Analysis.Lexical
import SqlLens.Proofs.Analysis.PathBinding
import SqlLens.Proofs.Analysis.Recasing
import SqlLens.Proofs.Analysis.SelectedNames
import SqlLens.Proofs.Analysis.SetOperations
import SqlLens.Proofs.Analysis.Typing
import SqlLens.Proofs.Function.Matching
import SqlLens.Proofs.Hover.Calls
import SqlLens.Proofs.Hover.Failures
import SqlLens.Proofs.Hover.SelectedColumns
import SqlLens.Proofs.Resolved.Locating
import SqlLens.Proofs.Schema.ReadBack
import SqlLens.Proofs.Script.ColumnNumbers
import SqlLens.Proofs.Script.Outcomes
import SqlLens.Proofs.Store.CacheHistory
import SqlLens.Proofs.Store.NullMembers
import SqlLens.Proofs.Store.TableKeys
import SqlLens.Proofs.Surface.TokenClaims
import SqlLens.Proofs.Type.Printed
import SqlLens.Proofs.Workspace.LastPublication
import SqlLens.Proofs.Workspace.Markers
import SqlLens.Resolved.Json
import SqlLens.Surface.Listing
