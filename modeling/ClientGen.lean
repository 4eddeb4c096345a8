import ClientGen.TypeExpr.Parse
import ClientGen.Json.Parse
import ClientGen.Json.Write
import ClientGen.Data.Settle
import ClientGen.Manifest
import ClientGen.Documentation.Read
import ClientGen.Discovery.Survey
import ClientGen.Convention.Detect
import ClientGen.Route.Basic
import ClientGen.Documentation.Basic
import ClientGen.Model.Read
import ClientGen.Model.Validate
import ClientGen.Catalog.Basic
import ClientGen.TypeScript.Options
import ClientGen.TypeScript.ClientType
import ClientGen.TypeScript.Scope
import ClientGen.TypeScript.Code
import ClientGen.TypeScript.Definition
import ClientGen.TypeScript.Wrapper
import ClientGen.TypeScript.Controller
import ClientGen.TypeScript.Client
import ClientGen.Yaml.Write
import ClientGen.Yaml.Read
import ClientGen.Command.Arguments
import ClientGen.Command.Run
import ClientGen.Main
import ClientGen.Presence
import ClientGen.Proofs.Discovery.Survey
import ClientGen.Proofs.TypeScript.Client
import ClientGen.Proofs.TypeScript.Sense
import ClientGen.Proofs.TypeScript.Request
import ClientGen.Proofs.TypeScript.Modules
import ClientGen.Proofs.Catalog.Walks
import ClientGen.Proofs.Discovery.Following
import ClientGen.Proofs.Discovery.Termination
import ClientGen.Proofs.Model.Sources
import ClientGen.Proofs.Discovery.Steps
import ClientGen.Proofs.Discovery.Tidy
import ClientGen.Proofs.Discovery.Reading
import ClientGen.Proofs.Model.Writable
import ClientGen.Proofs.Discovery.Writable
import ClientGen.Proofs.Discovery.Nodes
import ClientGen.Proofs.Discovery.Clashes
import ClientGen.Proofs.Model.Services
import ClientGen.Proofs.Discovery.Controllers
import ClientGen.Proofs.Discovery.Order
import ClientGen.Proofs.Discovery.Provenance
import ClientGen.Proofs.Discovery.Payloads
import ClientGen.Proofs.TypeExpr.Printing
import ClientGen.Proofs.TypeScript.Sending
import ClientGen.Proofs.TypeScript.Linking
import ClientGen.Proofs.TypeScript.Closed
import ClientGen.Proofs.Discovery.Parameters
import ClientGen.Proofs.TypeScript.Holding
import ClientGen.Proofs.Discovery.Undocumented
import ClientGen.Proofs.Model.Dump
import ClientGen.Proofs.TypeScript.Numbering
import ClientGen.Proofs.TypeScript.Overloads
import ClientGen.Proofs.TypeExpr.Canonical
import ClientGen.Proofs.TypeExpr.Viable
import ClientGen.Proofs.Catalog.Framework
import ClientGen.Proofs.Catalog.Insertion
import ClientGen.Proofs.Convention.Controllers
import ClientGen.Proofs.Discovery.Nesting
import ClientGen.Proofs.Discovery.Absence
import ClientGen.Proofs.Discovery.Undescribed
import ClientGen.Proofs.Model.Unlocking
import ClientGen.Proofs.Discovery.Continuing
import ClientGen.Proofs.Discovery.Omission
import ClientGen.Proofs.Route.Version
import ClientGen.Proofs.Discovery.Unwrapping
import ClientGen.Proofs.Discovery.Templates
import ClientGen.Proofs.TypeScript.Rearranging
import ClientGen.Proofs.Route.Simplified
import ClientGen.Proofs.Command.Failing
import ClientGen.Proofs.Documentation.Texts
import ClientGen.Proofs.TypeScript.Comments
import ClientGen.Proofs.TypeScript.Providing
