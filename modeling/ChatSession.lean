import ChatSession.Decimal.Shortest
import ChatSession.Decimal.Layout
import ChatSession.Data.Calendar
import ChatSession.Data.CodePoint
import ChatSession.Data.Value
import ChatSession.Data.Blank
import ChatSession.Data.Digit
import ChatSession.Data.LowerCase
import ChatSession.Data.Encoding
import ChatSession.Data.Json
import ChatSession.Data.Printable
import ChatSession.Data.Literal
import ChatSession.Schema.Issue
import ChatSession.Schema.Check
import ChatSession.Record.Server
import ChatSession.Record.User
import ChatSession.Record.Team
import ChatSession.Record.Channel
import ChatSession.Record.ApiError
import ChatSession.Record.Post
import ChatSession.Record.PostThread
import ChatSession.Thread.Group
import ChatSession.Thread.System
import ChatSession.Session.State
import ChatSession.Config.Client
import ChatSession.Yaml.Error
import ChatSession.Yaml.Token
import ChatSession.Yaml.Token.Scan
import ChatSession.Yaml.Event
import ChatSession.Yaml.Scalar
import ChatSession.Yaml.Node
import ChatSession.Data.Yaml
import ChatSession.Config.Settings
import ChatSession.Backend.Rejection
import ChatSession.Backend.Result
import ChatSession.Session.Steps
import ChatSession.Backend.Command
import ChatSession.Backend.Replay
import ChatSession.Session.Store
import ChatSession.Session.Orchestrator
import ChatSession.Session.Script
import ChatSession.Data.UpperCase
import ChatSession.Console.Arguments
import ChatSession.Console.Overview
import ChatSession.Console.Run
import ChatSession.Main
import ChatSession.Proofs.Interleaving
import ChatSession.Proofs.Stretch
import ChatSession.Proofs.Counters
import ChatSession.Proofs.Writes
import ChatSession.Proofs.Generations
import ChatSession.Proofs.SamePoint
import ChatSession.Proofs.Alone
import ChatSession.Proofs.Ahead
import ChatSession.Proofs.Convergence
import ChatSession.Proofs.Selection
import ChatSession.Proofs.Reset
import ChatSession.Proofs.Frames
import ChatSession.Proofs.Uniqueness
import ChatSession.Proofs.StepOrder
import ChatSession.Proofs.StableSort
import ChatSession.Proofs.ThreadOrder
import ChatSession.Proofs.CheckLaws
import ChatSession.Proofs.RoundTrip
import ChatSession.Proofs.Directory
import ChatSession.Proofs.Tagging
import ChatSession.Proofs.ErrorRecovery
import ChatSession.Proofs.IdOrder
import ChatSession.Proofs.Memberships
import ChatSession.Proofs.RecordedBackend
import ChatSession.Proofs.ListedPosts
