import TypedRpc.Client.Basic
import TypedRpc.Client.Print
import TypedRpc.Command.Arguments
import TypedRpc.Command.Basic
import TypedRpc.Command.Run
import TypedRpc.Compiler.Compile
import TypedRpc.Compiler.State
import TypedRpc.Declaration.Attribute
import TypedRpc.Declaration.Derivation
import TypedRpc.Declaration.RenameRule
import TypedRpc.Declaration.WrittenType
import TypedRpc.Descriptor.Basic
import TypedRpc.Descriptor.Inspect
import TypedRpc.Directory
import TypedRpc.Failure
import TypedRpc.Handler.Basic
import TypedRpc.Handler.Shaped
import TypedRpc.Http.Headers
import TypedRpc.Http.Message
import TypedRpc.Http.RequestId
import TypedRpc.Json.Fault
import TypedRpc.Json.Literal
import TypedRpc.Json.Printer
import TypedRpc.Json.Reader
import TypedRpc.Json.Skip
import TypedRpc.Json.Value
import TypedRpc.Logging.Directive
import TypedRpc.Logging.Event
import TypedRpc.Logging.FieldPattern
import TypedRpc.Logging.Filter
import TypedRpc.Logging.Level
import TypedRpc.Logging.Logger
import TypedRpc.Logging.Settings
import TypedRpc.Main
import TypedRpc.Number.Binary64
import TypedRpc.Number.Shortest
import TypedRpc.Number.Unsigned
import TypedRpc.Proofs.Client.Closed
import TypedRpc.Proofs.Client.Compiled
import TypedRpc.Proofs.Client.Exports
import TypedRpc.Proofs.Client.Groups
import TypedRpc.Proofs.Client.Growth
import TypedRpc.Proofs.Client.Identifiers
import TypedRpc.Proofs.Client.Methods
import TypedRpc.Proofs.Client.Order
import TypedRpc.Proofs.Client.Reading
import TypedRpc.Proofs.Client.Separate
import TypedRpc.Proofs.Client.Success
import TypedRpc.Proofs.Command.Settings
import TypedRpc.Proofs.Command.Writing
import TypedRpc.Proofs.Compiler.Attempt
import TypedRpc.Proofs.Compiler.CallDepth
import TypedRpc.Proofs.Compiler.Completeness
import TypedRpc.Proofs.Compiler.Dangling
import TypedRpc.Proofs.Compiler.Definition
import TypedRpc.Proofs.Compiler.Dependency
import TypedRpc.Proofs.Compiler.Derivation
import TypedRpc.Proofs.Compiler.Erasure
import TypedRpc.Proofs.Compiler.Failing
import TypedRpc.Proofs.Compiler.FirstMeeting
import TypedRpc.Proofs.Compiler.Growth
import TypedRpc.Proofs.Compiler.HeadStart
import TypedRpc.Proofs.Compiler.InlineLimit
import TypedRpc.Proofs.Compiler.NameSearch
import TypedRpc.Proofs.Compiler.NameTable
import TypedRpc.Proofs.Compiler.Names
import TypedRpc.Proofs.Compiler.Nesting
import TypedRpc.Proofs.Compiler.Order
import TypedRpc.Proofs.Compiler.References
import TypedRpc.Proofs.Compiler.Rendering
import TypedRpc.Proofs.Compiler.Separate
import TypedRpc.Proofs.Compiler.Session
import TypedRpc.Proofs.Compiler.Stability
import TypedRpc.Proofs.Compiler.Tokens
import TypedRpc.Proofs.Declaration.Attribute
import TypedRpc.Proofs.Declaration.Derivation
import TypedRpc.Proofs.Declaration.RenameRule
import TypedRpc.Proofs.Descriptor.Graph
import TypedRpc.Proofs.Descriptor.Size
import TypedRpc.Proofs.Descriptor.Trail
import TypedRpc.Proofs.Descriptor.Walk
import TypedRpc.Proofs.Directory
import TypedRpc.Proofs.Handler.Answer
import TypedRpc.Proofs.Http.RequestId
import TypedRpc.Proofs.Json.Canonical
import TypedRpc.Proofs.Json.StringLiteral
import TypedRpc.Proofs.KeyedList
import TypedRpc.Proofs.Number.Unsigned
import TypedRpc.Proofs.Outcome
import TypedRpc.Proofs.Route.Blanks
import TypedRpc.Proofs.Route.Identity
import TypedRpc.Proofs.Route.Resolve
import TypedRpc.Proofs.Sample.Payments
import TypedRpc.Proofs.Server.Dispatch
import TypedRpc.Proofs.Server.Identified
import TypedRpc.Proofs.Server.Reached
import TypedRpc.Proofs.Service.Mounting
import TypedRpc.Proofs.Service.Requests
import TypedRpc.Proofs.Service.Session
import TypedRpc.Proofs.Text.Ascii
import TypedRpc.Proofs.Text.Split
import TypedRpc.Proofs.Text.Utf8
import TypedRpc.Proofs.TypeScript.Membership
import TypedRpc.Proofs.TypeScript.NameSyntax
import TypedRpc.Proofs.TypeScript.PascalCase
import TypedRpc.Proofs.TypeScript.PropertyName
import TypedRpc.Proofs.TypeScript.TypeName
import TypedRpc.Proofs.TypeScript.Unambiguous
import TypedRpc.Proofs.Wire.Inhabitants
import TypedRpc.Proofs.Wire.Membership
import TypedRpc.Regex.Atom
import TypedRpc.Regex.Basic
import TypedRpc.Regex.Brackets
import TypedRpc.Regex.CharClass
import TypedRpc.Regex.Flags
import TypedRpc.Regex.Reader
import TypedRpc.Regex.Source
import TypedRpc.Registry
import TypedRpc.Route.Identity
import TypedRpc.Route.Mount
import TypedRpc.Router
import TypedRpc.Sample.Catalog
import TypedRpc.Sample.Greeter
import TypedRpc.Sample.Payments
import TypedRpc.Sample.Playlists
import TypedRpc.Sample.Setup
import TypedRpc.Server.Address
import TypedRpc.Server.HttpServer
import TypedRpc.Server.Settings
import TypedRpc.Server.SettingsFile
import TypedRpc.Service
import TypedRpc.Text.Alphanumeric
import TypedRpc.Text.Blank
import TypedRpc.Text.CharRange
import TypedRpc.Text.LetterCase
import TypedRpc.Text.Printable
import TypedRpc.Text.Quoted
import TypedRpc.Text.Split
import TypedRpc.Text.Utf8
import TypedRpc.TypeScript.PascalCase
import TypedRpc.TypeScript.PropertyName
import TypedRpc.TypeScript.TypeExpr
import TypedRpc.TypeScript.TypeName
import TypedRpc.Wire.Decode
import TypedRpc.Wire.Shape
import TypedRpc.Wire.Value
import TypedRpc.Yaml.Cursor
import TypedRpc.Yaml.Node
import TypedRpc.Yaml.Scalar
import TypedRpc.Yaml.TagUri
import TypedRpc.Yaml.Token
