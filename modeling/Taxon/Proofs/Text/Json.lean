import Mathlib.Data.List.Basic
import Taxon.Proofs.Text.Decimal
import Taxon.Text.Json

/-!
The grammar of JSON strings. A character between the quotes is spelled by itself, by a letter behind
a backslash, or by the hexadecimal digits of its code units in UTF-16. Reading a string finds the
characters that the grammar says are spelled, and fails on everything else.
-/

set_option autoImplicit false

namespace Taxon.Json

/-- The letters behind a backslash and what they stand for. -/
def escapes : List (Char × Char) :=
  [('"', '"'), ('\\', '\\'), ('/', '/'), ('b', '\x08'), ('f', '\x0c'), ('n', '\n'), ('r', '\r'),
    ('t', '\t')]

structure CodeUnit (digits : List Char) (unit : Nat) : Prop where
  four : digits.length = 4
  hexadecimal : ∀ c ∈ digits, Digits.isHexadecimal c = true
  value : Digits.value 16 digits = unit

/-- The ways to spell one character. -/
inductive Spelling : List Char → Char → Prop where
  | plain {c : Char} (visible : 0x20 ≤ c.toNat) (unquoted : c ≠ '"') (unescaped : c ≠ '\\') :
      Spelling [c] c
  | escape {letter c : Char} (listed : (letter, c) ∈ escapes) : Spelling ['\\', letter] c
  | unit {digits : List Char} {c : Char} (unit : CodeUnit digits c.toNat) :
      Spelling ('\\' :: 'u' :: digits) c
  | pair {first second : List Char} {leading trailing : Nat} {c : Char}
      (left : CodeUnit first leading) (right : CodeUnit second trailing)
      (high : 0xD800 ≤ leading ∧ leading < 0xDC00) (low : 0xDC00 ≤ trailing ∧ trailing < 0xE000)
      (joined : c.toNat = 0x10000 + (leading - 0xD800) * 0x400 + (trailing - 0xDC00)) :
      Spelling ('\\' :: 'u' :: first ++ '\\' :: 'u' :: second) c

/-- What stands between the quotes, and the characters that it spells. -/
inductive Spells : List Char → List Char → Prop where
  | nil : Spells [] []
  | cons {spelling body : List Char} {c : Char} {content : List Char} (first : Spelling spelling c)
      (rest : Spells body content) : Spells (spelling ++ body) (c :: content)

theorem hex_digit_iff (c : Char) (digit : Nat) :
    hexDigit? c = some digit ↔ Digits.isHexadecimal c = true ∧ Digits.valueOf c = digit := by
  have char_le (a b : Char) : a ≤ b ↔ a.toNat ≤ b.toNat := UInt32.le_iff_toNat_le
  simp only [hexDigit?, Digits.isHexadecimal, Digits.valueOf, Digits.isDecimal, char_le,
    Bool.and_eq_true, Bool.or_eq_true, decide_eq_true_eq]
  have zero : '0'.toNat = 48 := rfl
  have nine : '9'.toNat = 57 := rfl
  have a : 'a'.toNat = 97 := rfl
  have f : 'f'.toNat = 102 := rfl
  have A : 'A'.toNat = 65 := rfl
  have F : 'F'.toNat = 70 := rfl
  split_ifs <;> simp only [Option.some.injEq, false_iff] <;> omega

theorem code_unit_iff (a b c d : Char) (unit : Nat) :
    codeUnit? a b c d = some unit ↔ CodeUnit [a, b, c, d] unit := by
  simp only [codeUnit?, Option.bind_eq_bind, Option.bind_eq_some_iff, Option.pure_def,
    Option.some.injEq, hex_digit_iff]
  constructor
  · rintro ⟨_, ⟨first, rfl⟩, _, ⟨second, rfl⟩, _, ⟨third, rfl⟩, _, ⟨fourth, rfl⟩, rfl⟩
    refine ⟨rfl, by simp [first, second, third, fourth], ?_⟩
    simp [Digits.value]
  · rintro ⟨_, hexadecimal, rfl⟩
    simp only [List.forall_mem_cons] at hexadecimal
    obtain ⟨first, second, third, fourth, _⟩ := hexadecimal
    refine ⟨_, ⟨first, rfl⟩, _, ⟨second, rfl⟩, _, ⟨third, rfl⟩, _, ⟨fourth, rfl⟩, ?_⟩
    simp [Digits.value]

theorem CodeUnit.code {digits : List Char} {unit : Nat} (spelled : CodeUnit digits unit) :
    ∃ a b c d, digits = [a, b, c, d] ∧ codeUnit? a b c d = some unit := by
  obtain ⟨a, b, c, d, rfl⟩ : ∃ a b c d, digits = [a, b, c, d] := by
    have four := spelled.four
    match digits, four with
    | [a, b, c, d], _ => exact ⟨a, b, c, d, rfl⟩
  exact ⟨a, b, c, d, rfl, (code_unit_iff a b c d unit).mpr spelled⟩

theorem simple_escape_iff (letter c : Char) :
    simpleEscape? letter = some c ↔ (letter, c) ∈ escapes := by
  unfold simpleEscape?
  split <;> simp_all [escapes, eq_comm]

theorem string_tail_plain {c : Char} (visible : 0x20 ≤ c.toNat) (unquoted : c ≠ '"')
    (unescaped : c ≠ '\\') (rest : List Char) :
    stringTail (c :: rest) = (stringTail rest).map fun read => (c :: read.1, read.2) := by
  rw [stringTail.eq_def]
  split
  · rename_i same
    cases same
  · rename_i same
    exact absurd (List.cons.inj same).1 unquoted
  · rename_i same
    exact absurd (List.cons.inj same).1 unescaped
  · rename_i same
    exact absurd (List.cons.inj same).1 unescaped
  · rename_i same
    obtain ⟨rfl, rfl⟩ := List.cons.inj same
    rw [if_neg (Nat.not_lt.mpr visible)]

theorem string_tail_escape {letter c : Char} (listed : (letter, c) ∈ escapes) (rest : List Char) :
    stringTail ('\\' :: letter :: rest) =
      (stringTail rest).map fun read => (c :: read.1, read.2) := by
  have read := (simple_escape_iff letter c).mpr listed
  rw [stringTail.eq_def]
  split
  · rename_i same
    cases same
  · rename_i same
    cases (List.cons.inj same).1
  · rename_i same
    obtain rfl := (List.cons.inj (List.cons.inj same).2).1
    cases read
  · rename_i same
    obtain ⟨rfl, rfl⟩ := List.cons.inj (List.cons.inj same).2
    rw [read]
  · rename_i unescaped same
    obtain ⟨rfl, rfl⟩ := List.cons.inj same
    exact (unescaped letter rest rfl rfl).elim

theorem char_bounds (c : Char) : c.toNat < 0xD800 ∨ 0xE000 ≤ c.toNat := by
  rcases c.valid with low | ⟨high, _⟩
  · exact .inl low
  · exact .inr high

theorem string_tail_unit {digits : List Char} {c : Char} (unit : CodeUnit digits c.toNat)
    (rest : List Char) :
    stringTail ('\\' :: 'u' :: (digits ++ rest)) =
      (stringTail rest).map fun read => (c :: read.1, read.2) := by
  obtain ⟨first, second, third, fourth, rfl, code⟩ := unit.code
  have bounds := char_bounds c
  have whole : isLeading c.toNat = false ∧ isTrailing c.toNat = false := by
    simp only [isLeading, isTrailing, Bool.and_eq_false_iff, decide_eq_false_iff_not]
    omega
  simp only [List.cons_append, List.nil_append]
  rw [stringTail]
  simp only [code, whole.1, whole.2, Char.ofNat_toNat]
  rfl

theorem joined_eq {leading trailing : Nat} {c : Char}
    (same : c.toNat = 0x10000 + (leading - 0xD800) * 0x400 + (trailing - 0xDC00)) :
    joined leading trailing = c := by
  rw [joined, ← same, Char.ofNat_toNat]

theorem is_leading_iff (unit : Nat) : isLeading unit = true ↔ 0xD800 ≤ unit ∧ unit < 0xDC00 := by
  rw [isLeading, Bool.and_eq_true, decide_eq_true_eq, decide_eq_true_eq]

theorem is_trailing_iff (unit : Nat) : isTrailing unit = true ↔ 0xDC00 ≤ unit ∧ unit < 0xE000 := by
  rw [isTrailing, Bool.and_eq_true, decide_eq_true_eq, decide_eq_true_eq]

theorem string_tail_pair {first second : List Char} {leading trailing : Nat} {c : Char}
    (left : CodeUnit first leading) (right : CodeUnit second trailing)
    (high : isLeading leading = true) (low : isTrailing trailing = true)
    (same : joined leading trailing = c) (rest : List Char) :
    stringTail ('\\' :: 'u' :: (first ++ '\\' :: 'u' :: (second ++ rest))) =
      (stringTail rest).map fun read => (c :: read.1, read.2) := by
  obtain ⟨a, b, x, d, rfl, code⟩ := left.code
  obtain ⟨e, f, g, h, rfl, next⟩ := right.code
  have leads : isTrailing leading = false := by
    rw [is_leading_iff] at high
    rw [← Bool.not_eq_true, is_trailing_iff]
    omega
  simp only [List.cons_append, List.nil_append]
  rw [stringTail]
  simp only [code, next, leads, high, low, same]
  rfl

/-- However a character is spelled, reading finds it in front of what is read behind. -/
theorem string_tail_spelling {spelling : List Char} {c : Char} (spelled : Spelling spelling c)
    (rest : List Char) :
    stringTail (spelling ++ rest) = (stringTail rest).map fun read => (c :: read.1, read.2) := by
  cases spelled with
  | plain visible unquoted unescaped => exact string_tail_plain visible unquoted unescaped rest
  | escape listed => exact string_tail_escape listed rest
  | unit unit => exact string_tail_unit unit rest
  | pair left right high low joined =>
      have read := string_tail_pair left right ((is_leading_iff _).mpr high)
        ((is_trailing_iff _).mpr low) (joined_eq joined) rest
      simpa only [List.append_assoc, List.cons_append] using read

theorem string_tail_of_spells {body content : List Char} (spells : Spells body content)
    (after : List Char) : stringTail (body ++ '"' :: after) = some (content, after) := by
  induction spells with
  | nil => rfl
  | cons first rest induction =>
      rw [List.append_assoc, string_tail_spelling first, induction]
      rfl

theorem hex_digit_lt {c : Char} {digit : Nat} (read : hexDigit? c = some digit) : digit < 16 := by
  have char_le (a b : Char) : a ≤ b ↔ a.toNat ≤ b.toNat := UInt32.le_iff_toNat_le
  simp only [hexDigit?, char_le, Bool.and_eq_true, decide_eq_true_eq] at read
  have nine : '9'.toNat = 57 := rfl
  have f : 'f'.toNat = 102 := rfl
  have F : 'F'.toNat = 70 := rfl
  have zero : '0'.toNat = 48 := rfl
  have a : 'a'.toNat = 97 := rfl
  have A : 'A'.toNat = 65 := rfl
  split_ifs at read <;> cases read <;> omega

theorem code_unit_lt {a b c d : Char} {unit : Nat} (read : codeUnit? a b c d = some unit) :
    unit < 0x10000 := by
  simp only [codeUnit?, Option.bind_eq_bind, Option.bind_eq_some_iff, Option.pure_def,
    Option.some.injEq] at read
  obtain ⟨_, first, _, second, _, third, _, fourth, rfl⟩ := read
  have := hex_digit_lt first
  have := hex_digit_lt second
  have := hex_digit_lt third
  have := hex_digit_lt fourth
  omega

theorem char_to_nat {n : Nat} (valid : n < 0xD800 ∨ 0xE000 ≤ n ∧ n < 0x110000) :
    (Char.ofNat n).toNat = n := by
  have scalar : n.isValidChar := valid.imp_right fun high => ⟨by omega, high.2⟩
  rw [Char.ofNat, dif_pos scalar]
  rfl

theorem joined_to_nat {leading trailing : Nat} (high : isLeading leading = true)
    (low : isTrailing trailing = true) :
    (joined leading trailing).toNat =
      0x10000 + (leading - 0xD800) * 0x400 + (trailing - 0xDC00) := by
  rw [is_leading_iff] at high
  rw [is_trailing_iff] at low
  exact char_to_nat (.inr (by omega))

theorem spells_cons {spelling rest content after : List Char} {c : Char}
    (first : Spelling spelling c)
    (induction : ∀ {content after : List Char}, stringTail rest = some (content, after) →
      ∃ body, rest = body ++ '"' :: after ∧ Spells body content)
    (read : (stringTail rest).map (fun read => (c :: read.1, read.2)) = some (content, after)) :
    ∃ body, spelling ++ rest = body ++ '"' :: after ∧ Spells body content := by
  obtain ⟨⟨tail, left⟩, behind, same⟩ := Option.map_eq_some_iff.mp read
  obtain ⟨rfl, rfl⟩ := Prod.mk.inj same
  obtain ⟨body, rfl, spells⟩ := induction behind
  exact ⟨spelling ++ body, (List.append_assoc ..).symm, .cons first spells⟩

/-- Whatever is read is spelled. The cases are those of the reading. -/
theorem spells_of_string_tail {text content after : List Char}
    (read : stringTail text = some (content, after)) :
    ∃ body, text = body ++ '"' :: after ∧ Spells body content := by
  fun_induction stringTail text generalizing content after
  case case2 rest =>
    cases read
    exact ⟨[], rfl, .nil⟩
  case case6 a b x d leading first _ high e f g h rest trailing second low induction =>
    have left := (code_unit_iff a b x d leading).mp first
    have right := (code_unit_iff e f g h trailing).mp second
    have pair := Spelling.pair left right ((is_leading_iff _).mp high) ((is_trailing_iff _).mp low)
      (joined_to_nat high low)
    exact spells_cons pair induction read
  case case9 a b x d rest unit code low high induction =>
    have whole : (Char.ofNat unit).toNat = unit := by
      have small := code_unit_lt code
      rw [is_leading_iff] at high
      rw [is_trailing_iff] at low
      exact char_to_nat (by omega)
    have spelled := (code_unit_iff a b x d unit).mp code
    exact spells_cons (.unit (whole.symm ▸ spelled)) induction read
  case case11 letter rest _ c listed induction =>
    exact spells_cons (.escape ((simple_escape_iff letter c).mp listed)) induction read
  case case13 c rest unquoted _ unescaped visible induction =>
    obtain ⟨⟨tail, left⟩, behind, _⟩ := Option.map_eq_some_iff.mp read
    have plain : c ≠ '\\' := by
      rintro rfl
      cases rest with
      | nil => cases behind
      | cons letter rest => exact unescaped letter rest rfl rfl
    exact spells_cons (.plain (Nat.not_lt.mp visible) unquoted plain) induction read
  all_goals cases read

theorem string_tail_iff (text content after : List Char) :
    stringTail text = some (content, after) ↔
      ∃ body, text = body ++ '"' :: after ∧ Spells body content := by
  constructor
  · exact spells_of_string_tail
  · rintro ⟨body, rfl, spells⟩
    exact string_tail_of_spells spells after

def Blank (text : List Char) : Prop := ∀ c ∈ text, c = ' ' ∨ c = '\t' ∨ c = '\n' ∨ c = '\r'

def Marks (mark text : List Char) : Prop := ∃ lead, Blank lead ∧ text = lead ++ mark

def Quotes (text content : List Char) : Prop :=
  ∃ body, Marks ('"' :: (body ++ ['"'])) text ∧ Spells body content

theorem is_blank_iff (c : Char) :
    isBlank c = true ↔ c = ' ' ∨ c = '\t' ∨ c = '\n' ∨ c = '\r' := by
  simp only [isBlank, Bool.or_eq_true, beq_iff_eq, or_assoc]

theorem blank_iff (text : List Char) : text.all isBlank = true ↔ Blank text := by
  simp only [List.all_eq_true, is_blank_iff, Blank]

theorem behind_iff {c : Char} (solid : isBlank c = false) (mark text rest : List Char) :
    behind? (c :: mark) text = some rest ↔
      ∃ marked, text = marked ++ rest ∧ Marks (c :: mark) marked := by
  rw [behind?, List.isPrefixOf?_eq_some_iff_append_eq]
  constructor
  · intro skipped
    refine ⟨text.takeWhile isBlank ++ c :: mark, ?_, text.takeWhile isBlank, ?_, rfl⟩
    · rw [List.append_assoc, skipped, skipBlanks, List.takeWhile_append_dropWhile]
    · intro c mem
      exact (is_blank_iff c).mp (List.mem_takeWhile_imp mem)
  · rintro ⟨_, rfl, lead, blank, rfl⟩
    have skipped : ∀ c ∈ lead, isBlank c = true := List.all_eq_true.mp ((blank_iff lead).mpr blank)
    have stays : ¬isBlank c = true := by rw [solid]; exact Bool.false_ne_true
    rw [List.append_assoc, skipBlanks, List.dropWhile_append_of_pos skipped, List.cons_append,
      List.dropWhile_cons_of_neg stays]

theorem behind_unique {c d : Char} {mark other text rest left : List Char}
    (first : behind? (c :: mark) text = some rest)
    (second : behind? (d :: other) text = some left) : c = d := by
  rw [behind?, List.isPrefixOf?_eq_some_iff_append_eq] at first second
  exact (List.cons.inj (first.trans second.symm)).1

theorem string_iff (text content after : List Char) :
    string? text = some (content, after) ↔
      ∃ quoted, text = quoted ++ after ∧ Quotes quoted content := by
  rw [string?, Option.bind_eq_some_iff]
  constructor
  · rintro ⟨rest, opened, read⟩
    obtain ⟨_, rfl, lead, blank, rfl⟩ := (behind_iff rfl [] text rest).mp opened
    obtain ⟨body, rfl, spells⟩ := (string_tail_iff rest content after).mp read
    refine ⟨lead ++ '"' :: (body ++ ['"']), ?_, body, ⟨lead, blank, rfl⟩, spells⟩
    simp only [List.append_assoc, List.cons_append, List.nil_append]
  · rintro ⟨_, rfl, body, ⟨lead, blank, rfl⟩, spells⟩
    have read := string_tail_of_spells spells after
    refine ⟨body ++ '"' :: after, (behind_iff rfl [] _ _).mpr ?_, read⟩
    refine ⟨lead ++ ['"'], ?_, lead, blank, rfl⟩
    simp only [List.append_assoc, List.cons_append, List.nil_append]

theorem unopened_of_string {text content after : List Char}
    (string : string? text = some (content, after)) : behind? ['\x7b'] text = none := by
  obtain ⟨rest, opened, _⟩ := Option.bind_eq_some_iff.mp string
  rw [Option.eq_none_iff_forall_ne_some]
  intro object other
  cases behind_unique opened other

/-- The texts of either form, blanks allowed around every part. -/
inductive Denotes : List Char → Form → Prop where
  | string {quoted trail content : List Char} (named : Quotes quoted content)
      (blank : Blank trail) : Denotes (quoted ++ trail) (.string (String.ofList content))
  | keyed {opening quoted colon null closing trail key : List Char}
      (opens : Marks ['\x7b'] opening) (named : Quotes quoted key) (colons : Marks [':'] colon)
      (nulls : Marks ['n', 'u', 'l', 'l'] null) (closes : Marks ['\x7d'] closing)
      (blank : Blank trail) :
      Denotes (opening ++ (quoted ++ (colon ++ (null ++ (closing ++ trail)))))
        (.keyed (String.ofList key))

theorem form_iff (text : String) (form : Form) :
    form? text = some form ↔ Denotes text.toList form := by
  rw [form?]
  constructor
  · intro read
    split at read
    · rename_i object opened
      simp only [Option.bind_eq_bind, Option.bind_eq_some_iff] at read
      obtain ⟨⟨key, _⟩, string, _, colon, _, null, trail, closing, read⟩ := read
      split_ifs at read with blank
      cases read
      obtain ⟨_, whole, opens⟩ := (behind_iff rfl _ _ _).mp opened
      obtain ⟨_, rfl, named⟩ := (string_iff _ _ _).mp string
      obtain ⟨_, rfl, colons⟩ := (behind_iff rfl _ _ _).mp colon
      obtain ⟨_, rfl, nulls⟩ := (behind_iff rfl _ _ _).mp null
      obtain ⟨_, rfl, closes⟩ := (behind_iff rfl _ _ _).mp closing
      rw [whole]
      exact .keyed opens named colons nulls closes ((blank_iff trail).mp blank)
    · simp only [Option.bind_eq_bind, Option.bind_eq_some_iff] at read
      obtain ⟨⟨content, trail⟩, string, read⟩ := read
      split_ifs at read with blank
      cases read
      obtain ⟨_, whole, named⟩ := (string_iff _ _ _).mp string
      rw [whole]
      exact .string named ((blank_iff trail).mp blank)
  · intro denotes
    generalize text.toList = whole at denotes
    cases denotes with
    | @string quoted trail content named blank =>
        have string := (string_iff _ content trail).mpr ⟨quoted, rfl, named⟩
        simp only [unopened_of_string string, string, Option.bind_eq_bind, Option.bind_some,
          (blank_iff _).mpr blank, if_true]
    | keyed opens named colons nulls closes blank =>
        rw [(behind_iff rfl [] _ _).mpr ⟨_, rfl, opens⟩]
        simp only [Option.bind_eq_bind, (string_iff _ _ _).mpr ⟨_, rfl, named⟩,
          (behind_iff rfl _ _ _).mpr ⟨_, rfl, colons⟩, (behind_iff rfl _ _ _).mpr ⟨_, rfl, nulls⟩,
          (behind_iff rfl _ _ _).mpr ⟨_, rfl, closes⟩, (blank_iff _).mpr blank, Option.bind_some,
          if_true]

theorem Denotes.unique {text : List Char} {form other : Form} (denotes : Denotes text form)
    (also : Denotes text other) : form = other := by
  have read {form : Form} (denotes : Denotes text form) :
      form? (String.ofList text) = some form := by
    rw [form_iff, String.toList_ofList]
    exact denotes
  exact Option.some.inj ((read denotes).symm.trans (read also))

/-- A name without quotes, backslashes and control characters spells itself. -/
theorem spells_itself {content : List Char}
    (plain : ∀ c ∈ content, 0x20 ≤ c.toNat ∧ c ≠ '"' ∧ c ≠ '\\') : Spells content content := by
  induction content with
  | nil => exact .nil
  | cons c content induction =>
      obtain ⟨⟨visible, unquoted, unescaped⟩, rest⟩ := List.forall_mem_cons.mp plain
      exact .cons (.plain visible unquoted unescaped) (induction rest)

end Taxon.Json
