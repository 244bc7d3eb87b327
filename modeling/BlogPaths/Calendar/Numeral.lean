import BlogPaths.Calendar.Timestamp
import BlogPaths.Text.Basic
import BlogPaths.Unicode.Ranges

/-! Dates whose year, month and day are given as texts: numerals of any script, with an optional
sign, single underscores between digits, and blanks around.  A numeral has at most 4300 digits. -/
namespace BlogPaths.Calendar

open Unicode Text

inductive NumeralFault
  | malformed
  | tooLong (digits : Nat)
  deriving DecidableEq, Repr

namespace Numeral

/-- Blanks around a numeral; the ASCII separators are none. -/
def isPadding (c : Char) : Bool := isBlank c && !(0x1C ≤ c.toNat && c.toNat ≤ 0x1F)

/-- The most digits that a numeral has, whether it is read or written. -/
def maxDigits : Nat := 4300

/-- The first number with more digits. -/
@[irreducible] def limit : Nat := Nat.pow 10 maxDigits

/-- The values of the digits at the start of a text, and what follows them.  An underscore has to
stand between two digits; `fresh` says that no digit stands directly before. -/
def digitRun (fresh : Bool) : List Char → Option (List Nat × List Char)
  | [] => if fresh then none else some ([],[])
  | c :: cs =>
    if c = '_' then if fresh then none else digitRun true cs
    else match digitValue? c with
      | some d => (digitRun false cs).map fun (ds,rest) => (d :: ds,rest)
      | none => if fresh then none else some ([],c :: cs)

def ofDigits (ds : List Nat) : Nat := ds.foldl (fun n d => 10*n + d) 0

/-- The number of digits behind a sign.  That there are too many of them is found before what
follows them is looked at. -/
def readUnsigned (s : List Char) : Except NumeralFault Nat :=
  match digitRun true s with
  | none => .error .malformed
  | some (ds,rest) =>
    if maxDigits < ds.length then .error (.tooLong ds.length)
    else if rest.all isPadding then .ok (ofDigits ds)
    else .error .malformed

def read (s : List Char) : Except NumeralFault Int :=
  match s.dropWhile isPadding with
  | '+' :: cs => (readUnsigned cs).map Int.ofNat
  | '-' :: cs => (readUnsigned cs).map fun n => -(n : Int)
  | cs => (readUnsigned cs).map Int.ofNat

end Numeral

/-- Why a number does not fit the calendar's arithmetic, which is of 32 bits with a sign. -/
inductive Overflow
  | beyondWord
  | above
  | below
  deriving DecidableEq, Repr

def Overflow.message : Overflow → String
  | beyondWord => "Python int too large to convert to C long"
  | above => "signed integer is greater than maximum"
  | below => "signed integer is less than minimum"

def Numeral.limitMessage (length : String) : String :=
  s!"Exceeds the limit ({maxDigits} digits) for integer string conversion" ++ length ++
    "; use sys.set_int_max_str_digits() to increase the limit"

inductive DateFault
  | numeral (text : String) (fault : NumeralFault)
  | overflow (o : Overflow)
  | noYear (year : Int)
  | noMonth
  | noDay
  deriving DecidableEq, Repr

def DateFault.message : DateFault → String
  | numeral text .malformed =>
    "invalid literal for int() with base 10: " ++ String.ofList ((quotedChars text.toList).take 200)
  | numeral _ (.tooLong digits) =>
    Numeral.limitMessage s!": value has {digits} digits"
  | overflow o => o.message
  | noYear year => s!"year {year} is out of range"
  | noMonth => "month must be in 1..12"
  | noDay => "day is out of range for month"

def readNumeral (s : String) : Except DateFault Int := (Numeral.read s.toList).mapError (.numeral s)

/-- Refuses what 32 bits with a sign cannot hold. -/
def fitNumber (n : Int) : Except DateFault Int :=
  if n < -0x8000000000000000 ∨ 0x8000000000000000 ≤ n then .error (.overflow .beyondWord)
  else if n < -0x80000000 then .error (.overflow .below)
  else if 0x80000000 ≤ n then .error (.overflow .above)
  else .ok n

def Date.ofNumbers (year month day : Int) : Except DateFault Date :=
  if h₀ : 1 ≤ year ∧ year ≤ 9999 then
    if 1 ≤ month ∧ month ≤ 12 then
      if h : IsDay year.toNat month.toNat day.toNat then
        .ok ⟨year.toNat,month.toNat,day.toNat,by omega,by omega,h⟩
      else .error .noDay
    else .error .noMonth
  else .error (.noYear year)

/-- The day written out by three texts, of which month and day may be left out. -/
def Date.ofTexts (year : String) (month day : Option String) : Except DateFault Date := do
  let year ← readNumeral year
  let month ← readNumeral (month.getD "1")
  let day ← readNumeral (day.getD "1")
  Date.ofNumbers (← fitNumber year) (← fitNumber month) (← fitNumber day)

end BlogPaths.Calendar
