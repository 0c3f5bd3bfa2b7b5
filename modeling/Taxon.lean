import Taxon.Config.Document
import Taxon.Host
import Taxon.Kind.Json
import Taxon.Proxy.Registry
import Taxon.Proxy.Stock
import Taxon.Value.Equality
import Taxon.Value.Pointer
import Taxon.Workspace
import Taxon.Proofs.Value.Build
import Taxon.Proofs.Vectorhood.Hop
import Taxon.Proofs.Value.Edit
import Taxon.Proofs.Workspace.View
import Taxon.Proofs.Workspace.Step
import Taxon.Proofs.Workspace.Invariant
import Taxon.Proofs.Value.Plain
import Taxon.Proofs.Workspace.Reference
import Taxon.Proofs.Workspace.Lineage
import Taxon.Proofs.Workspace.Sharing
import Taxon.Proofs.Session.Descent
import Taxon.Proofs.Session.Constants
import Taxon.Proofs.Kind.Resolution
import Taxon.Proofs.Host.Flag
import Taxon.Proofs.Text.ByteOrder
import Taxon.Proofs.Proxy.Registry
import Taxon.Proofs.Value.Elements
import Taxon.Proofs.Workspace.Access
import Taxon.Proofs.Workspace.Atomicity
import Taxon.Proofs.Config.Ceiling
import Taxon.Proofs.Proxy.Dispatch
import Taxon.Proofs.Session.Snapshot
import Taxon.Proofs.Vectorhood.Transparent
import Taxon.Proofs.Vectorhood.Records
import Taxon.Proofs.Binary64.Number
import Taxon.Proofs.Value.Likeness
import Taxon.Proofs.Workspace.Comparison
import Taxon.Proofs.Toml.Keys
import Taxon.Proofs.Config.Schema
import Taxon.Proofs.Config.Answers
import Taxon.Proofs.Text.Decimal
import Taxon.Proofs.Config.Variables
import Taxon.Proofs.Text.Numeral
import Taxon.Proofs.Toml.Line
import Taxon.Proofs.Toml.Integer
import Taxon.Proofs.Config.Numerals
import Taxon.Proofs.Text.Json
import Taxon.Proofs.Kind.Names
import Taxon.Proofs.Binary64.Rounding
import Taxon.Proofs.Binary64.Reading
import Taxon.Proofs.Binary64.Nearest
import Taxon.Proofs.Toml.Float
import Taxon.Proofs.Toml.Printed
import Taxon.Proofs.Complex.Text
import Taxon.Proofs.Value.Classed
import Taxon.Proofs.Workspace.Classes
