import Taxon.Kind.Basic
import Taxon.Text.Json

/-!
Kinds in JSON. There a kind goes by the word it is declared by, in lower case. It is written as the
string of this name; it is read from such a string, however the string spells its characters, or
from an object with the name as its one key and null as the value.
-/

set_option autoImplicit false

namespace Taxon.Kind

def word : Kind → String
  | .null => "Null"
  | .logical => "Logical"
  | .integer => "Integer"
  | .double => "Double"
  | .complex => "Complex"
  | .character => "Character"
  | .raw => "Raw"
  | .list => "List"
  | .dataFrame => "DataFrame"
  | .s3 => "S3"
  | .scalar => "Scalar"

def jsonName (kind : Kind) : String := kind.word.toLower

def ofJsonName? (name : String) : Option Kind := all.find? fun kind => kind.jsonName == name

def toJson (kind : Kind) : String := "\"" ++ kind.jsonName ++ "\""

def ofForm? : Json.Form → Option Kind
  | .string content => ofJsonName? content
  | .keyed key => ofJsonName? key

def readJson (read : Json.Reader) (text : String) : Option Kind := (read text).bind ofForm?

def ofJson? : String → Option Kind := readJson Json.form?

end Taxon.Kind
