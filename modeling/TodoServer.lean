import TodoServer.Server.App
import TodoServer.Http.RequestFault
import TodoServer.Proofs.KeySet.Interleaving
import TodoServer.Proofs.KeySet.Rotation
import TodoServer.Proofs.KeySet.Together
import TodoServer.Proofs.Server.Ownership
import TodoServer.Proofs.Server.Untouched
import TodoServer.Proofs.Todo.Isolation
import TodoServer.Proofs.Todo.Overlap
import TodoServer.Proofs.Token.Decision
import TodoServer.Proofs.Todo.Order
import TodoServer.Proofs.Todo.Pages
import TodoServer.Proofs.Todo.Traversal
import TodoServer.Proofs.Todo.Concurrency
import TodoServer.Proofs.Todo.Deletion
import TodoServer.Proofs.Todo.Stability
import TodoServer.Proofs.Sql.Meaning
import TodoServer.Proofs.Todo.TableListing
import TodoServer.Proofs.Server.Rejection
import TodoServer.Proofs.Server.Modes
import TodoServer.Proofs.Server.Discretion
import TodoServer.Proofs.Sql.Parameters
import TodoServer.Proofs.Calendar.RoundTrip
import TodoServer.Proofs.Todo.DueDates
import TodoServer.Proofs.Json.Reading
import TodoServer.Proofs.Todo.Refusals
import TodoServer.Proofs.Todo.Effects
import TodoServer.Proofs.Todo.Rules
import TodoServer.Proofs.Server.Envelope
import TodoServer.Proofs.Server.RequestLog
import TodoServer.Proofs.Server.Bodies
import TodoServer.Proofs.Config.Environment
import TodoServer.Proofs.Server.Construction
import TodoServer.Proofs.Path.Form
import TodoServer.Proofs.KeySet.Documents
import TodoServer.Proofs.Token.Lookups
import TodoServer.Proofs.Server.Frugality
import TodoServer.Proofs.Todo.Conversations
import TodoServer.Proofs.Server.Conversations
import TodoServer.Proofs.Sql.Address
import TodoServer.Proofs.Log.Lines
import TodoServer.Proofs.Server.Limit
import TodoServer.Proofs.Calendar.Local
import TodoServer.Proofs.Todo.Calls
import TodoServer.Proofs.Todo.Invariant
import TodoServer.Proofs.Server.Showing
import TodoServer.Proofs.Server.PageSize
