import ClassScaffold.Anomaly
import ClassScaffold.Api
import ClassScaffold.Archive.Checksum
import ClassScaffold.Archive.Entry
import ClassScaffold.Archive.Pack
import ClassScaffold.Archive.Unpack
import ClassScaffold.Archive.Zip
import ClassScaffold.Command
import ClassScaffold.Command.Arguments
import ClassScaffold.Command.Generate
import ClassScaffold.Command.Help
import ClassScaffold.Command.Outcome
import ClassScaffold.Command.Run
import ClassScaffold.Command.Validate
import ClassScaffold.Database
import ClassScaffold.Decimal.Shortest
import ClassScaffold.Disk.Basic
import ClassScaffold.Disk.Fault
import ClassScaffold.Disk.Operation
import ClassScaffold.Entity
import ClassScaffold.Environment
import ClassScaffold.Environment.Assignments
import ClassScaffold.Failure
import ClassScaffold.Generator
import ClassScaffold.Host
import ClassScaffold.JavaType
import ClassScaffold.Json.Fault
import ClassScaffold.Json.Number
import ClassScaffold.Json.Printer
import ClassScaffold.Json.Text
import ClassScaffold.Json.Value
import ClassScaffold.Layer
import ClassScaffold.Layer.Controller
import ClassScaffold.Layer.Files
import ClassScaffold.Layer.Model
import ClassScaffold.Layer.Repository
import ClassScaffold.Layer.Service
import ClassScaffold.Layout
import ClassScaffold.Main
import ClassScaffold.Member
import ClassScaffold.Naming
import ClassScaffold.Package
import ClassScaffold.Path
import ClassScaffold.Plan
import ClassScaffold.Project
import ClassScaffold.Project.Application
import ClassScaffold.Project.Pom
import ClassScaffold.Project.Properties
import ClassScaffold.Proofs.Archive.Faithful
import ClassScaffold.Proofs.Archive.Named
import ClassScaffold.Proofs.Archive.Nodes
import ClassScaffold.Proofs.Archive.Order
import ClassScaffold.Proofs.Archive.Pack
import ClassScaffold.Proofs.Archive.Tree
import ClassScaffold.Proofs.Archive.Unpack
import ClassScaffold.Proofs.Archive.Zip
import ClassScaffold.Proofs.Command.Agree
import ClassScaffold.Proofs.Command.Copy
import ClassScaffold.Proofs.Command.Ends
import ClassScaffold.Proofs.Command.Kept
import ClassScaffold.Proofs.Command.Output
import ClassScaffold.Proofs.Command.Stopped
import ClassScaffold.Proofs.Disk.Apart
import ClassScaffold.Proofs.Disk.Confine
import ClassScaffold.Proofs.Disk.Effect
import ClassScaffold.Proofs.Disk.Fill
import ClassScaffold.Proofs.Disk.Follow
import ClassScaffold.Proofs.Disk.Lookup
import ClassScaffold.Proofs.Disk.Plain
import ClassScaffold.Proofs.Disk.Progress
import ClassScaffold.Proofs.Disk.Reach
import ClassScaffold.Proofs.Disk.Restore
import ClassScaffold.Proofs.Disk.Route
import ClassScaffold.Proofs.Disk.Tree
import ClassScaffold.Proofs.Disk.Walk
import ClassScaffold.Proofs.Generator.Cleanup
import ClassScaffold.Proofs.Generator.Contents
import ClassScaffold.Proofs.Generator.Flight
import ClassScaffold.Proofs.Generator.Foreseen
import ClassScaffold.Proofs.Generator.Named
import ClassScaffold.Proofs.Generator.Orders
import ClassScaffold.Proofs.Generator.Phase
import ClassScaffold.Proofs.Generator.Success
import ClassScaffold.Proofs.Generator.Workspace
import ClassScaffold.Proofs.Java.Declared
import ClassScaffold.Proofs.Java.Placed
import ClassScaffold.Proofs.Java.Source
import ClassScaffold.Proofs.Java.Type
import ClassScaffold.Proofs.Json.Grammar
import ClassScaffold.Proofs.Json.Skip
import ClassScaffold.Proofs.Json.Text
import ClassScaffold.Proofs.Layer.Accessors
import ClassScaffold.Proofs.Layer.Agree
import ClassScaffold.Proofs.Layer.Imports
import ClassScaffold.Proofs.Layer.Key
import ClassScaffold.Proofs.Layer.Model
import ClassScaffold.Proofs.Layer.Outline
import ClassScaffold.Proofs.Layer.Typed
import ClassScaffold.Proofs.Member.Entry
import ClassScaffold.Proofs.Member.Report
import ClassScaffold.Proofs.Member.Token
import ClassScaffold.Proofs.Naming.Agree
import ClassScaffold.Proofs.Naming.Assign
import ClassScaffold.Proofs.Naming.Files
import ClassScaffold.Proofs.Naming.Shape
import ClassScaffold.Proofs.Naming.Smallest
import ClassScaffold.Proofs.Path.Parts
import ClassScaffold.Proofs.Path.Segment
import ClassScaffold.Proofs.Plan.Apart
import ClassScaffold.Proofs.Plan.Flat
import ClassScaffold.Proofs.Plan.Names
import ClassScaffold.Proofs.Plan.Ready
import ClassScaffold.Proofs.Project.Pom
import ClassScaffold.Proofs.Project.Settings
import ClassScaffold.Proofs.Request.Alike
import ClassScaffold.Proofs.Request.Draft
import ClassScaffold.Proofs.Request.Load
import ClassScaffold.Proofs.Request.Printed
import ClassScaffold.Proofs.Request.Read
import ClassScaffold.Proofs.Request.Written
import ClassScaffold.Proofs.Scaffold.Again
import ClassScaffold.Proofs.Scaffold.Alike
import ClassScaffold.Proofs.Scaffold.Called
import ClassScaffold.Proofs.Scaffold.Collision
import ClassScaffold.Proofs.Scaffold.Confined
import ClassScaffold.Proofs.Scaffold.Planned
import ClassScaffold.Proofs.Scaffold.Refused
import ClassScaffold.Proofs.Scaffold.Settings
import ClassScaffold.Proofs.Scaffold.Success
import ClassScaffold.Proofs.Scaffold.Tree
import ClassScaffold.Proofs.Session.Effect
import ClassScaffold.Proofs.Session.Foreseen
import ClassScaffold.Proofs.Session.Run
import ClassScaffold.Proofs.Session.Trace
import ClassScaffold.Proofs.Stream.Poll
import ClassScaffold.Proofs.Stream.Run
import ClassScaffold.Proofs.Template.Cut
import ClassScaffold.Proofs.Template.Source
import ClassScaffold.Proofs.Template.Split
import ClassScaffold.Proofs.Text.Blank
import ClassScaffold.Proofs.Text.Casing
import ClassScaffold.Proofs.Text.Element
import ClassScaffold.Proofs.Text.Escaped
import ClassScaffold.Proofs.Text.Length
import ClassScaffold.Proofs.Text.Markup
import ClassScaffold.Proofs.Text.Padded
import ClassScaffold.Proofs.Text.Recase
import ClassScaffold.Proofs.Text.SafeName
import ClassScaffold.Proofs.Text.Setting
import ClassScaffold.Proofs.Text.Split
import ClassScaffold.Proofs.Text.Utf8
import ClassScaffold.Proofs.Text.Words
import ClassScaffold.Proofs.Workspace.Isolated
import ClassScaffold.Proofs.Workspace.Sound
import ClassScaffold.Proofs.Workspace.Stage
import ClassScaffold.Request
import ClassScaffold.Request.Json
import ClassScaffold.Request.Load
import ClassScaffold.Request.Printer
import ClassScaffold.Request.Text
import ClassScaffold.Request.Yaml
import ClassScaffold.Scaffold
import ClassScaffold.Session
import ClassScaffold.Stream
import ClassScaffold.Template
import ClassScaffold.Text.Blank
import ClassScaffold.Text.Casing
import ClassScaffold.Text.Cluster
import ClassScaffold.Text.Cut
import ClassScaffold.Text.Hex
import ClassScaffold.Text.Markup
import ClassScaffold.Text.Property.Alphanumeric
import ClassScaffold.Text.Property.Case
import ClassScaffold.Text.Property.Cluster
import ClassScaffold.Text.Property.Printable
import ClassScaffold.Text.Quoted
import ClassScaffold.Text.SafeName
import ClassScaffold.Text.Utf8
import ClassScaffold.Text.Words
import ClassScaffold.Uuid
import ClassScaffold.Workspace
import ClassScaffold.Yaml.Cursor
import ClassScaffold.Yaml.Node
import ClassScaffold.Yaml.Scalar
import ClassScaffold.Yaml.Token
