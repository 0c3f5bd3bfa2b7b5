import Taxon.Config.Basic
import Taxon.Text.ByteOrder
import Taxon.Text.Quoted
import Taxon.Toml.Document

/-!
Configuration from a document. A document that is not well formed is refused first. Then the keys
of the top level are visited in increasing byte order, wherever they stand in the text, and the
first faulty one is reported; the range of the depth is checked last.
-/

set_option autoImplicit false

namespace Taxon

namespace Toml.Node

/-- What a value is called when another type was expected. A number without a value has no name. -/
def description? : Node → Option String
  | .scalar (.text content) => some ("string " ++ quoted content)
  | .scalar (.integer value) =>
      if -Int.pow 2 63 ≤ value && value < Int.pow 2 64 then some s!"integer `{value}`"
      else some s!"integer `{value}` as i128"
  | .scalar (.float value) => some s!"floating point `{value.pointedText}`"
  | .scalar (.boolean value) => some s!"boolean `{value}`"
  | .scalar .moment => some "map"
  | .scalar .unreadable => none
  | .array _ => some "sequence"
  | .tables _ => some "sequence"
  | .table _ _ => some "map"

def misfit (node : Node) (expected : String) : SchemaFault :=
  match node.description? with
  | some found => .wrongType found expected
  | none => .unreadableNumber

end Toml.Node

namespace Config

def depthKey : String := "max_proxy_depth"

def debugKey : String := "debug"

/-- A depth is an integer of 64 bits without a sign. -/
def depthOfNode (node : Toml.Node) : Except SchemaFault Nat :=
  match node with
  | .scalar (.integer value) =>
      if 0 ≤ value && value < Int.pow 2 64 then .ok value.toNat
      else if -Int.pow 2 63 ≤ value && value < 0 then .error (.negative value)
      else .error (node.misfit "usize")
  | _ => .error (node.misfit "usize")

def debugOfNode (node : Toml.Node) : Except SchemaFault Bool :=
  match node with
  | .scalar (.boolean value) => .ok value
  | _ => .error (node.misfit "a boolean")

def visit (config : Config) (entry : String × Toml.Node) : Except SchemaFault Config :=
  if entry.1 = depthKey then (depthOfNode entry.2).map config.withMaxProxyDepth
  else if entry.1 = debugKey then (debugOfNode entry.2).map config.withDebug
  else .error (.unknownField entry.1)

def sorted (entries : Toml.Entries) : Toml.Entries :=
  entries.mergeSort fun a b => notAfter a.1 b.1

/-- The configuration of a document's top level, before its range is checked. -/
def ofEntries (entries : Toml.Entries) : Except SchemaFault Config :=
  (sorted entries).foldlM visit default

/-- The configuration of a text whose entries a reader gives, if it finds the text well formed. -/
def ofText (read : Toml.Reader) (text : String) : Except Fault Config :=
  match read text with
  | none => .error .configSyntax
  | some entries =>
      match ofEntries entries with
      | .error cause => .error (.configSchema cause)
      | .ok config => config.validate

def ofDocument : String → Except Fault Config := ofText Toml.document?

end Config

/-- What a path leads to. A read may also fail for a reason that only the system can tell. -/
inductive FileEntry where
  | missing
  | directory
  | unreadable (reason : String)
  | file (content : ByteArray)
deriving Inhabited

/-- A working directory with at most one entry. -/
structure WorkingDirectory where
  name : String
  entry : FileEntry
deriving Inhabited

namespace WorkingDirectory

/-- Whether a path leads to a directory by its form alone: it has only steps that stay or go up. -/
def isDotted (path : String) : Bool :=
  path ≠ "" && (path.splitOn "/").all fun step => step == "" || step == "." || step == ".."

def find (d : WorkingDirectory) (path : String) : FileEntry :=
  if path = d.name then d.entry
  else .missing

def readText (d : WorkingDirectory) (path : String) : Except ReadFault String :=
  match d.find path with
  | .missing => if isDotted path then .error .directory else .error .missing
  | .directory => .error .directory
  | .unreadable reason => .error (.system reason)
  | .file content =>
      match String.fromUTF8? content with
      | some text => .ok text
      | none => .error .notText

end WorkingDirectory

namespace Config

def loadText (read : Toml.Reader) (d : WorkingDirectory) (path : String) : Except Fault Config :=
  match d.readText path with
  | .error cause => .error (.configRead path cause)
  | .ok text => ofText read text

def load : WorkingDirectory → String → Except Fault Config := loadText Toml.document?

end Config

end Taxon
