import Taxon.Proxy.Basic
import Taxon.Text.ByteOrder
import Taxon.Text.Quoted

/-!
Registries: methods kept by class name. A value is unwrapped by the method of the leftmost name of
its class vector that has one; a value without such a name is its own proxy. The methods stand in
increasing byte order of their names, so a registry is determined by what it holds and not by its
history.
-/

set_option autoImplicit false

namespace Taxon

structure Registry where
  methods : List (String × Method)

namespace Registry

def empty : Registry := ⟨[]⟩

instance : Inhabited Registry := ⟨empty⟩

def place (cls : String) (method : Method) : List (String × Method) → List (String × Method)
  | [] => [(cls, method)]
  | (name, other) :: rest =>
      if precedes cls name then (cls, method) :: (name, other) :: rest
      else if cls = name then (cls, method) :: rest
      else (name, other) :: place cls method rest

def register (r : Registry) (cls : String) (method : Method) : Registry :=
  ⟨place cls method r.methods⟩

def unregister (r : Registry) (cls : String) : Registry :=
  ⟨r.methods.filter fun entry => entry.1 ≠ cls⟩

def method? (r : Registry) (cls : String) : Option Method :=
  (r.methods.find? fun entry => entry.1 = cls).map Prod.snd

def contains (r : Registry) (cls : String) : Bool := (r.method? cls).isSome

/-- Takes the method of a class out, and says whether there was one. -/
def withdraw (r : Registry) (cls : String) : Bool × Registry := (r.contains cls, r.unregister cls)

def size (r : Registry) : Nat := r.methods.length

def isEmpty (r : Registry) : Bool := r.methods.isEmpty

/-- The registered class names, in increasing byte order. -/
def classes (r : Registry) : List String := r.methods.map Prod.fst

def text (r : Registry) : String :=
  "ProxyRegistry \x7b classes: [" ++ ", ".intercalate (r.classes.map quoted) ++ "] \x7d"

/-- The first of the given names that has a method, with the method. -/
def firstOf? (r : Registry) (names : List String) : Option (String × Method) :=
  names.findSome? fun name => (r.method? name).map fun method => (name, method)

/-- The method that handles a value, with the class it is registered for. -/
def select? (r : Registry) (x : Value) : Option (String × Method) :=
  x.cls?.bind fun cls => r.firstOf? cls.names

instance : Proxy Registry where
  reply r x :=
    match r.select? x with
    | some (cls, method) => ⟨method x, [⟨cls, x⟩]⟩
    | none => ⟨Method.identity x, []⟩

end Registry

end Taxon
