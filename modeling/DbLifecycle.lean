import DbLifecycle.Dict
import DbLifecycle.Text.Quoted
import DbLifecycle.Text.Integer
import DbLifecycle.Binary64
import DbLifecycle.Json.Printer
import DbLifecycle.Json.Parser
import DbLifecycle.Json.Decode
import DbLifecycle.Batch
import DbLifecycle.Url.Update
import DbLifecycle.Connection.Url
import DbLifecycle.Config.Options
import DbLifecycle.Config.Convert
import DbLifecycle.Toml.Parser
import DbLifecycle.Yaml.Document
import DbLifecycle.Settings
import DbLifecycle.User.Basic
import DbLifecycle.Database.Schema
import DbLifecycle.Database.Pool
import DbLifecycle.Database.Generate
import DbLifecycle.Database.Bulk
import DbLifecycle.Lifecycle.Coordinator
import DbLifecycle.Lifecycle.Scope
import DbLifecycle.Lifecycle.Background
import DbLifecycle.Service.Routes
import DbLifecycle.Group.Gather
import DbLifecycle.Rehearsal.Perform
import DbLifecycle.Proofs.Walk
import DbLifecycle.Proofs.Json.Ordered
import DbLifecycle.Proofs.Json.RoundTrip
import DbLifecycle.Proofs.Config.Loading
import DbLifecycle.Proofs.Text.Digits
import DbLifecycle.Proofs.Url.Address
import DbLifecycle.Proofs.Url.Escape
import DbLifecycle.Proofs.Url.Written
import DbLifecycle.Proofs.Url.Parsed
import DbLifecycle.Proofs.Connection.Dispatch
import DbLifecycle.Proofs.Connection.Resolved
import DbLifecycle.Proofs.Database.Pools
import DbLifecycle.Proofs.Database.Statements
import DbLifecycle.Proofs.Lifecycle.Start
import DbLifecycle.Proofs.Lifecycle.History
import DbLifecycle.Proofs.Lifecycle.Simulation
import DbLifecycle.Proofs.Lifecycle.Scope
import DbLifecycle.Proofs.Database.Likeness
import DbLifecycle.Proofs.Lifecycle.FailedStart
import DbLifecycle.Proofs.Lifecycle.Stages
import DbLifecycle.Proofs.Lifecycle.Limits
import DbLifecycle.Proofs.Service.Visit
import DbLifecycle.Proofs.Lifecycle.Protocols
import DbLifecycle.Proofs.Lifecycle.Turns
import DbLifecycle.Proofs.Lifecycle.Hooks
import DbLifecycle.Proofs.Group.Story
import DbLifecycle.Proofs.Group.Frame
import DbLifecycle.Proofs.Group.Regular
import DbLifecycle.Proofs.Group.Turn
import DbLifecycle.Proofs.Group.Rounds
import DbLifecycle.Proofs.Group.Effort
import DbLifecycle.Proofs.Group.Parts
import DbLifecycle.Proofs.Group.Alike
import DbLifecycle.Proofs.Group.Panics
import DbLifecycle.Proofs.Group.Return
import DbLifecycle.Proofs.Group.Company
import DbLifecycle.Proofs.Group.Stamina
import DbLifecycle.Proofs.Group.Isolation
import DbLifecycle.Proofs.Group.Order
import DbLifecycle.Proofs.Group.Race
import DbLifecycle.Proofs.Group.CallOff
import DbLifecycle.Proofs.Group.Course
import DbLifecycle.Proofs.Group.Ranking
import DbLifecycle.Proofs.Group.Finish
import DbLifecycle.Proofs.Service.Demand
import DbLifecycle.Proofs.Database.Directory
import DbLifecycle.Proofs.Service.Reference
import DbLifecycle.Proofs.Service.Chronicle
import DbLifecycle.Proofs.Service.Translation
import DbLifecycle.Proofs.Service.Standing
import DbLifecycle.Proofs.Database.Contents
import DbLifecycle.Proofs.Lifecycle.Provision
import DbLifecycle.Proofs.Batches
import DbLifecycle.Proofs.Database.Bulk
import DbLifecycle.Proofs.Host.Kinds
import DbLifecycle.Proofs.Host.Handlers
import DbLifecycle.Proofs.Lifecycle.Readiness
import DbLifecycle.Proofs.Division
import DbLifecycle.Proofs.Text.Utf8
import DbLifecycle.Proofs.Url.Unescape
import DbLifecycle.Proofs.Url.PathName
import DbLifecycle.Proofs.Connection.Credentials
import DbLifecycle.Proofs.Config.Validation
import DbLifecycle.Proofs.Database.Rendering
import DbLifecycle.Proofs.Config.Written
import DbLifecycle.Proofs.Config.Layering
import DbLifecycle.Proofs.Settings.Precedence
import DbLifecycle.Proofs.Settings.OneSource
import DbLifecycle.Proofs.Database.Reopening
import DbLifecycle.Proofs.Connection.InMemory
