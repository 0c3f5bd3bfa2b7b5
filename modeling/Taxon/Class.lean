/-!
Class vectors: the names a value answers to, most specific first. An empty class vector can be
built and asked, but it is never carried: `Class.carried` is the one place where it is dropped.
-/

set_option autoImplicit false

namespace Taxon

/-- An ordered list of class names; repeats are kept. -/
structure Class where
  names : List String
deriving DecidableEq, Inhabited

namespace Class

def dataFrame : String := "data.frame"

def records : List String := ["vctrs_rcrd", "POSIXlt"]

def first? (c : Class) : Option String := c.names.head?

def isEmpty (c : Class) : Bool := c.names.isEmpty

def inherits (c : Class) (name : String) : Bool := c.names.contains name

def text (c : Class) : String := "/".intercalate c.names

/-- The attribute to store for a requested class: an empty class vector is no class. -/
def carried (requested : Option Class) : Option Class := requested.filter fun c => !c.isEmpty

theorem carried_iff (requested : Option Class) (c : Class) :
    carried requested = some c ↔ requested = some c ∧ c.names ≠ [] := by
  rw [carried, Option.filter_eq_some_iff, isEmpty, Bool.not_eq_eq_eq_not, Bool.not_true,
    List.isEmpty_eq_false_iff]

theorem carried_nonempty {requested : Option Class} {c : Class}
    (stored : carried requested = some c) : c.names ≠ [] :=
  ((carried_iff requested c).mp stored).2

theorem carried_carried (requested : Option Class) :
    carried (carried requested) = carried requested := by
  rw [carried, carried, Option.filter_filter]
  simp only [Bool.and_self]

end Class

end Taxon
