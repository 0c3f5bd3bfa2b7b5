import Mathlib.Data.List.Basic
import Mathlib.Data.List.TakeWhile
import Taxon.Toml.Document

/-!
Documents of one line: a bare key, an equals sign between blanks, and a scalar without quotes. Such
a document has one entry, and its value is what the scalar is read as on its own.
-/

set_option autoImplicit false

namespace Taxon.Toml

/-- A scalar that nothing in it ends. -/
structure Token (token : List Char) (scalar : Scalar) : Prop where
  solid : ∀ c ∈ token, isTokenChar c = true
  unquoted : ∀ c ∈ token, c ≠ '"' ∧ c ≠ '\''
  read : scalar? token = some scalar

theorem solid_of_decimal {c : Char} (decimal : Digits.isDecimal c = true) :
    isTokenChar c = true ∧ c ≠ '"' ∧ c ≠ '\'' := by
  rw [isTokenChar, Bool.not_eq_true', ← Bool.not_eq_true, List.contains_iff_mem]
  refine ⟨fun ending => ?_, ?_, ?_⟩
  · simp only [List.mem_cons, List.not_mem_nil, or_false] at ending
    rcases ending with rfl | rfl | rfl | rfl | rfl | rfl | rfl | rfl | rfl | rfl | rfl
    all_goals exact absurd decimal (by decide)
  · rintro rfl
    cases decimal
  · rintro rfl
    cases decimal

section Tokens

variable {token : List Char} {scalar : Scalar}

theorem Token.nonempty (isToken : Token token scalar) : token ≠ [] := by
  rintro rfl
  have read := isToken.read
  revert read
  exact nofun

theorem Token.split (isToken : Token token scalar) : splitToken token = (token, []) := by
  have taken : token.takeWhile isTokenChar = token := List.takeWhile_eq_self_iff.mpr isToken.solid
  have dropped : token.dropWhile isTokenChar = [] := List.dropWhile_eq_nil_iff.mpr isToken.solid
  simp only [splitToken, taken, dropped]

theorem value_of_token (isToken : Token token scalar) (fuel depth : Nat) :
    value (fuel + 1) depth token = some (.scalar scalar, []) := by
  unfold value
  split
  case h_7 =>
    simp only [isToken.split, isToken.read]
    rfl
  case h_5 => exact absurd (isToken.solid _ List.mem_cons_self) (by decide)
  case h_6 => exact absurd (isToken.solid _ List.mem_cons_self) (by decide)
  case h_1 | h_2 => exact absurd rfl (isToken.unquoted _ List.mem_cons_self).1
  case h_3 | h_4 => exact absurd rfl (isToken.unquoted _ List.mem_cons_self).2

theorem skip_blanks_of_token (isToken : Token token scalar) : skipBlanks token = token := by
  obtain ⟨c, rest, rfl⟩ := List.exists_cons_of_ne_nil isToken.nonempty
  apply List.dropWhile_cons_of_neg
  simp only [Bool.or_eq_true, beq_iff_eq]
  rintro (rfl | rfl)
  · exact absurd (isToken.solid _ List.mem_cons_self) (by decide)
  · exact absurd (isToken.solid _ List.mem_cons_self) (by decide)

end Tokens

section Lines

variable {key : List Char} (named : key ≠ []) (bare : ∀ c ∈ key, isKeyChar c = true)

include named bare

theorem head_of_bare {c : Char} {tail rest : List Char} (same : key ++ rest = c :: tail) :
    isKeyChar c = true := by
  obtain ⟨d, more, rfl⟩ := List.exists_cons_of_ne_nil named
  rw [List.cons_append, List.cons.injEq] at same
  rw [← same.1]
  exact bare d List.mem_cons_self

theorem key_part_of_bare (rest : List Char) :
    keyPart (key ++ ' ' :: rest) = some (String.ofList key, ' ' :: rest) := by
  have taken : (key ++ ' ' :: rest).takeWhile isKeyChar = key := by
    rw [List.takeWhile_append_of_pos bare, List.takeWhile_cons_of_neg (by decide), List.append_nil]
  have dropped : (key ++ ' ' :: rest).dropWhile isKeyChar = ' ' :: rest := by
    rw [List.dropWhile_append_of_pos bare, List.dropWhile_cons_of_neg (by decide)]
  unfold keyPart
  split
  · rename_i same
    exact absurd (head_of_bare named bare same) (by decide)
  · rename_i same
    exact absurd (head_of_bare named bare same) (by decide)
  · rw [taken, dropped]
    split
    · exact absurd rfl named
    · rfl

theorem key_path_of_bare (fuel : Nat) (rest : List Char) :
    keyPath (fuel + 1) (key ++ ' ' :: '=' :: rest) =
      some ([String.ofList key], ' ' :: '=' :: rest) := by
  rw [keyPath, key_part_of_bare named bare]
  rfl

theorem skip_lines_of_bare (rest : List Char) : skipLines (key ++ rest) = some (key ++ rest) := by
  unfold skipLines
  split
  case h_1 same => exact absurd (List.append_eq_nil_iff.mp same).1 named
  case h_7 => rfl
  all_goals
    rename_i same
    exact absurd (head_of_bare named bare same) (by decide)

theorem without_mark_of_bare (rest : List Char) : withoutMark (key ++ rest) = key ++ rest := by
  unfold withoutMark
  split
  · rename_i same
    exact absurd (head_of_bare named bare same) (by decide)
  · rfl

variable {token : List Char} {scalar : Scalar} (isToken : Token token scalar)

include isToken

theorem line_of_token (fuel : Nat) (r : Reading) :
    r.line (fuel + 1) (key ++ ' ' :: '=' :: ' ' :: token) =
      (r.define [String.ofList key] (.scalar scalar)).map fun r => (r, []) := by
  have start : afterEquals (fun text => some (skipBlanks text)) (' ' :: '=' :: ' ' :: token) =
      some token := by
    change some (skipBlanks token) = some token
    rw [skip_blanks_of_token isToken]
  unfold Reading.line
  split
  · rename_i same
    exact absurd (head_of_bare named bare same) (by decide)
  · rename_i same
    exact absurd (head_of_bare named bare same) (by decide)
  · simp only [key_path_of_bare named bare, start, value_of_token isToken]

theorem lines_of_token {r defined : Reading} (fuel : Nat)
    (defines : r.define [String.ofList key] (.scalar scalar) = some defined) :
    r.lines (fuel + 2) (key ++ ' ' :: '=' :: ' ' :: token) = some defined := by
  rw [Reading.lines, skip_lines_of_bare named bare]
  split
  · rename_i absent
    cases absent
  · rename_i blank
    exact absurd (List.append_eq_nil_iff.mp (Option.some.inj blank)).1 named
  · rename_i start
    obtain rfl := Option.some.inj start
    rw [line_of_token named bare isToken, defines]
    rfl

/-- A document of a key and a scalar has this one entry. -/
theorem document_of_token {text : String}
    (spelled : text.toList = key ++ ' ' :: '=' :: ' ' :: token) :
    document? text = some [(String.ofList key, .scalar scalar)] := by
  have defines : Reading.start.define [String.ofList key] (.scalar scalar) =
      some ⟨[(String.ofList key, .scalar scalar)], []⟩ := rfl
  rw [document?, spelled, without_mark_of_bare named bare]
  rw [lines_of_token named bare isToken _ defines]
  rfl

end Lines

end Taxon.Toml
