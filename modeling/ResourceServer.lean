import ResourceServer.Text
import ResourceServer.Text.Printing
import ResourceServer.Text.Utf8
import ResourceServer.Loop
import ResourceServer.Glob.Segment
import ResourceServer.Glob.Path
import ResourceServer.Glob.Specificity
import ResourceServer.Request.LookupPath
import ResourceServer.Files.Tree
import ResourceServer.Resource.PathCheck
import ResourceServer.Resource.Location
import ResourceServer.Routing.Bindings
import ResourceServer.Routing.Mapping
import ResourceServer.PublicUrl.Provider
import ResourceServer.PublicUrl.Lookup
import ResourceServer.Toml.Document
import ResourceServer.Toml.Binary64
import ResourceServer.Toml.Lexeme
import ResourceServer.Toml.Parser
import ResourceServer.Toml.Printer
import ResourceServer.Toml.Data
import ResourceServer.Toml.Decoder
import ResourceServer.Config.Settings
import ResourceServer.Config.Rules
import ResourceServer.Config.Migration
import ResourceServer.Config.Load
import ResourceServer.Server.Event
import ResourceServer.Server.State
import ResourceServer.Server.Start
import ResourceServer.Server.Reload
import ResourceServer.Server.Listen
import ResourceServer.Http.Message
import ResourceServer.Http.Json
import ResourceServer.Http.FileTypes
import ResourceServer.Http.RequestError
import ResourceServer.Http.Endpoints
import ResourceServer.Http.Layers
import ResourceServer.Http.Service
import ResourceServer.Main
import ResourceServer.Proofs.Glob.Covers
import ResourceServer.Proofs.Glob.Window
import ResourceServer.Proofs.Glob.Path
import ResourceServer.Proofs.Routing.Bindings
import ResourceServer.Proofs.Routing.Mapping
import ResourceServer.Proofs.Routing.Table
import ResourceServer.Proofs.Server.Routes
import ResourceServer.Proofs.Files.Canonical
import ResourceServer.Proofs.Glob.Literal
import ResourceServer.Proofs.Glob.Specificity
import ResourceServer.Proofs.PublicUrl.Agreement
import ResourceServer.Proofs.Server.History
import ResourceServer.Proofs.PublicUrl.RequestUrl
import ResourceServer.Proofs.PublicUrl.ContextRoot
import ResourceServer.Proofs.Toml.Fields
import ResourceServer.Proofs.Config.Settings
import ResourceServer.Proofs.Config.Migration
import ResourceServer.Proofs.Config.Rules
import ResourceServer.Proofs.Server.Accepted
import ResourceServer.Proofs.Server.Reload
import ResourceServer.Proofs.Server.Exposed
import ResourceServer.Proofs.PublicUrl.Segments
import ResourceServer.Proofs.Files.Writing
import ResourceServer.Proofs.Toml.Alike
import ResourceServer.Proofs.Toml.Parser
import ResourceServer.Proofs.Config.Completed
import ResourceServer.Proofs.Config.Load
import ResourceServer.Proofs.Config.Additions
import ResourceServer.Proofs.Glob.Spelling
import ResourceServer.Proofs.PublicUrl.LifeCycle
import ResourceServer.Proofs.Server.Detection
import ResourceServer.Proofs.Server.Announcement
import ResourceServer.Proofs.Server.Enabled
import ResourceServer.Proofs.Routing.Selection
import ResourceServer.Proofs.Routing.Prefixes
import ResourceServer.Proofs.Routing.Arrangement
import ResourceServer.Proofs.Glob.Within
import ResourceServer.Proofs.Glob.Extraction
import ResourceServer.Proofs.Glob.Closing
import ResourceServer.Proofs.PublicUrl.Parts
import ResourceServer.Proofs.Resource.Chain
import ResourceServer.Proofs.Request.Cleaning
import ResourceServer.Proofs.Routing.Registration
import ResourceServer.Proofs.Glob.Counts
import ResourceServer.Proofs.Glob.Positions
