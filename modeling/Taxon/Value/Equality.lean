import Taxon.Value.Basic

/-!
Equality of values: same representation, same class vector, equal elements. Doubles compare as
numbers, so a vector that holds a not-a-number differs from itself; foreign pointers compare by
identity. Neither the storage nor the mutability flag is looked at.
-/

set_option autoImplicit false

namespace Taxon

def equalElements {α : Type} (equal : α → α → Bool) : List α → List α → Bool
  | [], [] => true
  | x :: xs, y :: ys => equal x y && equalElements equal xs ys
  | _, _ => false

def Atoms.equal : Atoms → Atoms → Bool
  | .logical xs, .logical ys => xs == ys
  | .integer xs, .integer ys => xs == ys
  | .double xs, .double ys => equalElements Binary64.equal xs ys
  | .complex xs, .complex ys => equalElements Complex.equal xs ys
  | .character xs, .character ys => xs == ys
  | .raw xs, .raw ys => xs == ys
  | _, _ => false

namespace Value

mutual

def equal : Value → Value → Bool
  | .null, .null => true
  | .atoms xs g, .atoms ys h => g.cls == h.cls && xs.equal ys
  | .list xs g, .list ys h => g.cls == h.cls && equalAll xs ys
  | .function f n c, .function g m d => f == g && n == m && c == d
  | .environment e c, .environment f d => e == f && c == d
  | .symbol s, .symbol t => s == t
  | .foreign p, .foreign q => p.identity == q.identity
  | _, _ => false

def equalAll : List Value → List Value → Bool
  | [], [] => true
  | x :: xs, y :: ys => equal x y && equalAll xs ys
  | _, _ => false

end

end Value

end Taxon
