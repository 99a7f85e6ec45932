import Multifiling.Api
import Multifiling.Api.Query
import Multifiling.Api.Route
import Multifiling.ChildLink
import Multifiling.ContentModel
import Multifiling.Database.Dialect
import Multifiling.Database.EngineOptions
import Multifiling.Database.IniOption
import Multifiling.Database.Url
import Multifiling.Entries
import Multifiling.Failure
import Multifiling.Filing
import Multifiling.Issue
import Multifiling.Json
import Multifiling.Json.Double
import Multifiling.Json.Encoding
import Multifiling.Json.Reader
import Multifiling.Logging
import Multifiling.Main
import Multifiling.Migration
import Multifiling.Migration.Catalog
import Multifiling.Migration.Command
import Multifiling.Migration.Script
import Multifiling.Migration.Target
import Multifiling.NodeView
import Multifiling.Proofs.Api.FedBack
import Multifiling.Proofs.Api.Isolated
import Multifiling.Proofs.Api.OneOrList
import Multifiling.Proofs.Api.Page
import Multifiling.Proofs.Api.Parts
import Multifiling.Proofs.Api.Reached
import Multifiling.Proofs.Api.Served
import Multifiling.Proofs.Api.Status
import Multifiling.Proofs.Api.UnitOfWork
import Multifiling.Proofs.Api.Walk
import Multifiling.Proofs.Api.Where
import Multifiling.Proofs.ChildLink
import Multifiling.Proofs.Entries
import Multifiling.Proofs.Filing.Batch
import Multifiling.Proofs.Filing.Change
import Multifiling.Proofs.Filing.Delete
import Multifiling.Proofs.Filing.Deletion
import Multifiling.Proofs.Filing.Frame
import Multifiling.Proofs.Filing.KnownType
import Multifiling.Proofs.Filing.Link
import Multifiling.Proofs.Filing.Listing
import Multifiling.Proofs.Filing.Plain
import Multifiling.Proofs.Filing.Refusal
import Multifiling.Proofs.Filing.Respelled
import Multifiling.Proofs.Filing.Singly
import Multifiling.Proofs.Filing.Type
import Multifiling.Proofs.Filing.Undo
import Multifiling.Proofs.Json
import Multifiling.Proofs.Migration.Run
import Multifiling.Proofs.Migration.UrlOption
import Multifiling.Proofs.NodeView
import Multifiling.Proofs.Operation.Change
import Multifiling.Proofs.Operation.Counts
import Multifiling.Proofs.Operation.Insert
import Multifiling.Proofs.Operation.Outcome
import Multifiling.Proofs.Operation.Run
import Multifiling.Proofs.QName
import Multifiling.Proofs.QName.Grammar
import Multifiling.Proofs.Registry
import Multifiling.Proofs.Registry.Apart
import Multifiling.Proofs.Registry.Registered
import Multifiling.Proofs.Schema.Alike
import Multifiling.Proofs.Schema.Migrated
import Multifiling.Proofs.Schema.OfStore
import Multifiling.Proofs.Seed.Change
import Multifiling.Proofs.Seed.Move
import Multifiling.Proofs.Seed.Populate
import Multifiling.Proofs.Session.Call
import Multifiling.Proofs.Session.History
import Multifiling.Proofs.Session.Ordinary
import Multifiling.Proofs.Session.Refusal
import Multifiling.Proofs.Session.Root
import Multifiling.Proofs.Session.Run
import Multifiling.Proofs.Session.Stray
import Multifiling.Proofs.Settings
import Multifiling.Proofs.Settings.Namespaces
import Multifiling.Proofs.Store.Ascent
import Multifiling.Proofs.Store.Change
import Multifiling.Proofs.Store.Constraints
import Multifiling.Proofs.Store.Edge
import Multifiling.Proofs.Store.Forest
import Multifiling.Proofs.Store.Lookup
import Multifiling.Proofs.Text
import Multifiling.Proofs.Text.Pattern
import Multifiling.Proofs.Text.Pieces
import Multifiling.Proofs.Traverse
import Multifiling.Proofs.Uuid
import Multifiling.QName
import Multifiling.Registry
import Multifiling.Schema
import Multifiling.Schema.Repository
import Multifiling.Schema.Rows
import Multifiling.Seed
import Multifiling.Seed.CommandLine
import Multifiling.Session
import Multifiling.Settings
import Multifiling.Store
import Multifiling.Store.Operation
import Multifiling.Store.PrimaryPath
import Multifiling.Text.Blank
import Multifiling.Text.Digit
import Multifiling.Text.Numeral
import Multifiling.Text.Pieces
import Multifiling.Text.Printable
import Multifiling.Text.Quoted
import Multifiling.Text.Ranges
import Multifiling.Text.UpperCase
import Multifiling.Text.Word
import Multifiling.Uuid
