import BlogPaths.Text.Basic

/-! Decoding of bytes as UTF-8 in which nothing fails: every longest piece that cannot be completed
to a character counts as one replacement character. -/
namespace BlogPaths.Text.Utf8

def replacement : Char := '\uFFFD'

/-- A character under way: the bits read so far, how many bytes are missing, and the range in which
the next one lies. -/
structure Partial where
  bits : Nat
  missing : Nat
  low : Nat
  high : Nat
  deriving DecidableEq, Repr

/-- What a byte opens when no character is under way: a character at once, a longer one, or
nothing. -/
inductive Opening
  | char (c : Char)
  | under (p : Partial)
  | invalid
  deriving DecidableEq, Repr

/-- Lead bytes.  The narrower ranges behind four of them exclude overlong forms, surrogates and
what lies beyond the last code point. -/
def opening (b : Nat) : Opening :=
  if b < 0x80 then .char (Char.ofNat b)
  else if b < 0xC2 then .invalid
  else if b < 0xE0 then .under ⟨b - 0xC0,1,0x80,0xBF⟩
  else if b = 0xE0 then .under ⟨0,2,0xA0,0xBF⟩
  else if b = 0xED then .under ⟨0xD,2,0x80,0x9F⟩
  else if b < 0xF0 then .under ⟨b - 0xE0,2,0x80,0xBF⟩
  else if b = 0xF0 then .under ⟨0,3,0x90,0xBF⟩
  else if b < 0xF4 then .under ⟨b - 0xF0,3,0x80,0xBF⟩
  else if b = 0xF4 then .under ⟨4,3,0x80,0x8F⟩
  else .invalid

/-- The characters a byte completes, and what is under way behind it. -/
def feed : Option Partial → Nat → List Char × Option Partial
  | none, b =>
    match opening b with
    | .char c => ([c],none)
    | .under p => ([],some p)
    | .invalid => ([replacement],none)
  | some p, b =>
    if p.low ≤ b ∧ b ≤ p.high then
      let bits := p.bits*64 + (b - 0x80)
      if p.missing ≤ 1 then ([Char.ofNat bits],none)
      else ([],some ⟨bits,p.missing - 1,0x80,0xBF⟩)
    else match opening b with
      | .char c => ([replacement,c],none)
      | .under q => ([replacement],some q)
      | .invalid => ([replacement,replacement],none)

/-- What is left of a character that the end of the bytes cuts short. -/
def flush : Option Partial → List Char
  | none => []
  | some _ => [replacement]

/-- The characters of the bytes behind what is under way. -/
def decodeFrom (p : Option Partial) : List Nat → List Char
  | [] => flush p
  | b :: bs => (feed p b).1 ++ decodeFrom (feed p b).2 bs

def decode (bs : List Nat) : List Char := decodeFrom none bs

@[simp] theorem feed_none_ascii {b : Nat} (h : b < 0x80) :
    feed none b = ([Char.ofNat b],none) := by
  simp [feed,opening,h]

end BlogPaths.Text.Utf8

/-! Percent escapes.  An escape is a percent sign and two hexadecimal digits; everything else stands
for itself.  The bytes of a stretch of ASCII, escapes included, are read as UTF-8, so a character
outside ASCII ends whatever is under way. -/
namespace BlogPaths.Text.Percent

open Utf8

def hexValue? (c : Char) : Option Nat :=
  if c.isDigit then some (c.toNat - '0'.toNat)
  else if 'a' ≤ c ∧ c ≤ 'f' then some (c.toNat - 'a'.toNat + 10)
  else if 'A' ≤ c ∧ c ≤ 'F' then some (c.toNat - 'A'.toNat + 10)
  else none

def hexByte? (a b : Char) : Option Nat := do
  let x ← hexValue? a
  let y ← hexValue? b
  return 16*x + y

/-- A byte, written out or escaped, or a character outside ASCII. -/
inductive Atom
  | byte (b : Nat)
  | char (c : Char)
  deriving DecidableEq, Repr

def Atom.ofChar (c : Char) : Atom := if c.toNat < 0x80 then .byte c.toNat else .char c

def atoms : List Char → List Atom
  | [] => []
  | '%' :: a :: b :: r =>
    match hexByte? a b with
    | some n => .byte n :: atoms r
    | none => .ofChar '%' :: atoms (a :: b :: r)
  | c :: r => .ofChar c :: atoms r

/-- The characters of a list of atoms behind what is under way. -/
def decodeAtoms (p : Option Partial) : List Atom → List Char
  | [] => flush p
  | .byte b :: us => (feed p b).1 ++ decodeAtoms (feed p b).2 us
  | .char c :: us => flush p ++ c :: decodeAtoms none us

def decode (s : List Char) : List Char := decodeAtoms none (atoms s)

@[simp] theorem decode_nil : decode [] = [] := rfl

theorem decodeAtoms_map_ofChar (s : List Char) : decodeAtoms none (s.map .ofChar) = s := by
  induction s with
  | nil => rfl
  | cons c cs ih =>
    by_cases h : c.toNat < 0x80
    · simp [Atom.ofChar,h,decodeAtoms,ih]
    · simp [Atom.ofChar,h,decodeAtoms,flush,ih]

end BlogPaths.Text.Percent

namespace BlogPaths

/-- An output path as a site keeps it: without a leading slash, and with percent escapes decoded. -/
def outputPath (path : String) : String :=
  String.ofList (Text.Percent.decode (Text.dropLeadingSlash path.toList))

end BlogPaths
