/-!
The order of texts by their UTF-8 bytes. It is the order in which class names are listed and keys
are visited; case and language play no part in it.
-/

set_option autoImplicit false

namespace Taxon

def utf8Bytes (text : String) : List UInt8 := text.toUTF8.data.toList

/-- Strictly before, byte by byte; a text stands before its extensions. -/
def precedes (s t : String) : Bool := utf8Bytes s < utf8Bytes t

def notAfter (s t : String) : Bool := !precedes t s

end Taxon
