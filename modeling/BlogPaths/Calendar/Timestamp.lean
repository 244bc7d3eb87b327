/-! Calendar dates of the years 1 to 9999, and timestamps: a date and a time of day, with or without a
zone that tells how far it is from universal time. -/
namespace BlogPaths.Calendar

def isLeapYear (year : Nat) : Bool :=
  year % 4 == 0 && (year % 100 != 0 || year % 400 == 0)

/-- The number of days of a month; zero where there is no such month. -/
def daysInMonth (year month : Nat) : Nat :=
  match month with
  | 1 | 3 | 5 | 7 | 8 | 10 | 12 => 31
  | 4 | 6 | 9 | 11 => 30
  | 2 => if isLeapYear year then 29 else 28
  | _ => 0

def IsDay (year month day : Nat) : Prop := 1 ≤ day ∧ day ≤ daysInMonth year month

instance (year month day : Nat) : Decidable (IsDay year month day) :=
  inferInstanceAs (Decidable (_ ∧ _))

theorem month_of_isDay {year month day : Nat} (h : IsDay year month day) :
    1 ≤ month ∧ month ≤ 12 := by
  obtain ⟨h₁,h₂⟩ := h
  unfold daysInMonth at h₂
  split at h₂ <;> omega

structure Date where
  year : Nat
  month : Nat
  day : Nat
  one_le_year : 1 ≤ year
  year_le : year ≤ 9999
  isDay : IsDay year month day
  deriving DecidableEq, Repr

def daysBeforeYear (year : Nat) : Nat :=
  let past := year - 1
  365*past + past/4 - past/100 + past/400

def daysBeforeMonth (year : Nat) : Nat → Nat
  | 0 => 0
  | 1 => 0
  | m+2 => daysBeforeMonth year (m+1) + daysInMonth year (m+1)

/-- The number of a day, the first of January of year 1 being number 0. -/
def Date.number (d : Date) : Nat :=
  daysBeforeYear d.year + daysBeforeMonth d.year d.month + (d.day - 1)

/-- What a timestamp knows of its distance from universal time, in microseconds to the east.  A place
changes its clocks with the seasons, so the offset is the one that it has at that timestamp. -/
inductive Zone
  | fixed (offset : Int)
  | place (name : String) (offset : Int)
  | silent
  deriving DecidableEq, Repr

def Zone.offset? : Zone → Option Int
  | fixed offset => some offset
  | place _ offset => some offset
  | silent => none

structure Timestamp where
  date : Date
  hour : Nat := 0
  minute : Nat := 0
  second : Nat := 0
  micro : Nat := 0
  zone : Option Zone := none
  deriving DecidableEq, Repr

def padded (width n : Nat) : List Char := (Nat.toDigits 10 n).leftpad width '0'

namespace Timestamp

/-- Microseconds from the start of year 1 by the clock on the wall. -/
def wall (t : Timestamp) : Int :=
  (((t.date.number*24 + t.hour)*60 + t.minute)*60 + t.second)*1000000 + t.micro

/-- A timestamp without a zone is taken to be in universal time. -/
def offset? (t : Timestamp) : Option Int :=
  match t.zone with
  | none => some 0
  | some z => z.offset?

/-- Microseconds from the start of year 1 in universal time; where the zone does not tell the offset,
by the clock on the wall. -/
def instant (t : Timestamp) : Int := t.wall - t.offset?.getD 0

def samePlace (s t : Timestamp) : Bool :=
  match s.zone, t.zone with
  | some (.place p _), some (.place q _) => p == q
  | _, _ => false

/-- Timestamps of one place are compared by the clock on its wall, all others by their instants. -/
def notAfter (s t : Timestamp) : Bool :=
  if s.samePlace t then s.wall ≤ t.wall else s.instant ≤ t.instant

/-- A timestamp that does not tell its offset is compared with its like only. -/
def comparable (s t : Timestamp) : Bool := s.offset?.isSome == t.offset?.isSome

/-- Hours and minutes behind a sign, and what is smaller only where there is something. -/
def offsetChars (offset : Int) : List Char :=
  let micros := offset.natAbs % 1000000
  let seconds := offset.natAbs / 1000000
  (if offset < 0 then '-' else '+') :: (padded 2 (seconds/3600) ++
    ':' :: padded 2 (seconds/60 % 60) ++
    (if seconds % 60 = 0 ∧ micros = 0 then [] else ':' :: padded 2 (seconds % 60)) ++
    (if micros = 0 then [] else '.' :: padded 6 micros))

/-- The written form: a fraction only where there is one, an offset only where a zone tells it. -/
def chars (t : Timestamp) : List Char :=
  padded 4 t.date.year ++ '-' :: padded 2 t.date.month ++ '-' :: padded 2 t.date.day ++
  'T' :: padded 2 t.hour ++ ':' :: padded 2 t.minute ++ ':' :: padded 2 t.second ++
  (if t.micro = 0 then [] else '.' :: padded 6 t.micro) ++
  (match t.zone.bind Zone.offset? with | none => [] | some o => offsetChars o)

def written (t : Timestamp) : String := String.ofList t.chars

/-- Midnight at the start of a day. -/
def ofDate (date : Date) : Timestamp where
  date := date

end Timestamp

/-! Reading of timestamps: a date, and behind a `T` or a blank a time of day with optional seconds,
fraction and offset. -/

inductive TimestampError
  | malformed
  | yearZero
  deriving DecidableEq, Repr

def digitsValue? (s : List Char) : Option Nat :=
  if s.all Char.isDigit then
    some (s.foldl (fun n c => 10*n + (c.toNat - '0'.toNat)) 0)
  else none

/-- A number of exactly `width` digits at the start of a text, and the rest. -/
def takeNumber? (width : Nat) (s : List Char) : Option (Nat × List Char) :=
  if s.length < width then none
  else (digitsValue? (s.take width)).map (·,s.drop width)

def takeChar? (p : Char → Bool) : List Char → Option (Char × List Char)
  | [] => none
  | c :: cs => if p c then some (c,cs) else none

/-- A time of day and the offset behind it, in minutes. -/
structure Time where
  hour : Nat := 0
  minute : Nat := 0
  second : Nat := 0
  micro : Nat := 0
  offset : Option Int := none
  deriving DecidableEq, Repr

/-- A year, a month and a day, joined by hyphens. -/
def takeDate? (s : List Char) : Option ((Nat × Nat × Nat) × List Char) := do
  let (year,s) ← takeNumber? 4 s
  let (_,s) ← takeChar? (· == '-') s
  let (month,s) ← takeNumber? 2 s
  let (_,s) ← takeChar? (· == '-') s
  let (day,s) ← takeNumber? 2 s
  return ((year,month,day),s)

/-- The digits of a fraction of a second, one to six of them, as microseconds. -/
def takeFraction? (s : List Char) : Option (Nat × List Char) :=
  let ds := s.takeWhile Char.isDigit
  if ds.length = 0 ∨ 6 < ds.length then none
  else (digitsValue? ds).map fun n => (n*Nat.pow 10 (6 - ds.length),s.dropWhile Char.isDigit)

def takeSeconds? (s : List Char) : Option ((Nat × Nat) × List Char) :=
  match takeChar? (· == ':') s with
  | none => some ((0,0),s)
  | some (_,s) => do
    let (second,s) ← takeNumber? 2 s
    match takeChar? (· == '.') s with
    | none => return ((second,0),s)
    | some (_,s) =>
      let (micro,s) ← takeFraction? s
      return ((second,micro),s)

/-- The offset that ends a text: nothing, a `Z`, or a signed number of hours and minutes. -/
def readOffset? : List Char → Option (Option Int)
  | [] => some none
  | ['Z'] => some (some 0)
  | ['z'] => some (some 0)
  | sign :: s => do
    let (hours,s) ← takeNumber? 2 s
    let s := match takeChar? (· == ':') s with | some (_,r) => r | none => s
    let (minutes,s) ← takeNumber? 2 s
    if s ≠ [] ∨ 23 < hours ∨ 59 < minutes then none
    let total : Int := hours*60 + minutes
    if sign = '+' then return some total
    else if sign = '-' then return some (-total)
    else none

/-- What follows the date: nothing, or a separator and a time of day. -/
def readTime? (s : List Char) : Option Time :=
  if s = [] then some {}
  else do
    let (_,s) ← takeChar? (fun c => c == 'T' || c == 't' || c == ' ') s
    let (hour,s) ← takeNumber? 2 s
    let (_,s) ← takeChar? (· == ':') s
    let (minute,s) ← takeNumber? 2 s
    let ((second,micro),s) ← takeSeconds? s
    let offset ← readOffset? s
    if 23 < hour ∨ 59 < minute ∨ 59 < second then none
    return { hour, minute, second, micro, offset }

def readTimestamp (s : String) : Except TimestampError Timestamp :=
  match takeDate? s.toList with
  | none => .error .malformed
  | some ((year,month,day),rest) =>
    match readTime? rest with
    | none => .error .malformed
    | some t =>
      if h : IsDay year month day then
        if h₀ : 1 ≤ year then
          if h₁ : year ≤ 9999 then
            .ok { date := ⟨year,month,day,h₀,h₁,h⟩, hour := t.hour, minute := t.minute,
                  second := t.second, micro := t.micro
                  zone := t.offset.map fun minutes => .fixed (minutes*60000000) }
          else .error .malformed
        else .error .yearZero
      else .error .malformed

end BlogPaths.Calendar
