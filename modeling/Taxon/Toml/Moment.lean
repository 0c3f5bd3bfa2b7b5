import Taxon.Text.Digits

/-!
Dates, times, and dates with a time, with or without a zone. Days are checked against the calendar;
a second may be the sixtieth.
-/

set_option autoImplicit false

namespace Taxon.Toml

def pair? (a b : Char) : Option Nat :=
  if Digits.isDecimal a && Digits.isDecimal b then some (Digits.value 10 [a, b]) else none

def isLeapYear (year : Nat) : Bool := year % 4 == 0 && (year % 100 != 0 || year % 400 == 0)

def daysInMonth (year month : Nat) : Nat :=
  if month = 2 then if isLeapYear year then 29 else 28
  else if [4, 6, 9, 11].contains month then 30
  else 31

def afterDate? : List Char → Option (List Char)
  | a :: b :: c :: d :: '-' :: m :: n :: '-' :: s :: t :: rest => do
      let century ← pair? a b
      let year ← pair? c d
      let month ← pair? m n
      let day ← pair? s t
      if 1 ≤ month ∧ month ≤ 12 ∧ 1 ≤ day ∧ day ≤ daysInMonth (century * 100 + year) month then
        some rest
      else none
  | _ => none

/-- Takes a time off the front; the seconds and their fraction may be left out. -/
def afterTime? : List Char → Option (List Char)
  | a :: b :: ':' :: c :: d :: rest => do
      let hour ← pair? a b
      let minute ← pair? c d
      if 23 < hour ∨ 59 < minute then none
      else
        match rest with
        | ':' :: s :: t :: rest => do
            let second ← pair? s t
            if 60 < second then none
            else
              match rest with
              | '.' :: f :: rest =>
                  if Digits.isDecimal f then some (rest.dropWhile Digits.isDecimal) else none
              | '.' :: [] => none
              | rest => some rest
        | ':' :: _ => none
        | rest => some rest
  | _ => none

def isZone : List Char → Bool
  | [] => true
  | ['Z'] => true
  | ['z'] => true
  | [sign, a, b, ':', c, d] =>
      (sign == '+' || sign == '-') && (pair? a b).any (· ≤ 23) && (pair? c d).any (· ≤ 59)
  | _ => false

def isDateSeparator (c : Char) : Bool := c == 'T' || c == 't' || c == ' '

def isMoment (token : List Char) : Bool :=
  match afterDate? token with
  | some [] => true
  | some (separator :: time) => isDateSeparator separator && (afterTime? time).any isZone
  | none => (afterTime? token).any List.isEmpty

end Taxon.Toml
