import BlogPaths.Metadata.Value

/-! Fields of a resource that a host may overwrite.  An overwritten field is not checked, so it may
hold a value of another type; what such a value does is decided where the field is used. -/
namespace BlogPaths

/-- A field of type `α`, or a value that a host has put there in its place. -/
inductive Assigned (α : Type)
  | proper (a : α)
  | stray (v : Value)
  deriving Repr

namespace Assigned

variable {α : Type}

/-- What a host's value becomes in a field whose proper values `read` recognises. -/
def ofValue (read : Value → Option α) (v : Value) : Assigned α :=
  match read v with
  | some a => proper a
  | none => stray v

/-- The field as a value, its proper values being written by `write`. -/
def toValue (write : α → Value) : Assigned α → Value
  | proper a => write a
  | stray v => v

def proper? : Assigned α → Option α
  | proper a => some a
  | stray _ => none

def IsProper : Assigned α → Prop
  | proper _ => True
  | stray _ => False

@[simp] theorem isProper_proper (a : α) : (proper a).IsProper := trivial
@[simp] theorem proper?_proper (a : α) : (proper a).proper? = some a := rfl
@[simp] theorem proper?_stray (v : Value) : (stray v : Assigned α).proper? = none := rfl

theorem proper?_eq_some {x : Assigned α} {a : α} : x.proper? = some a ↔ x = proper a := by
  cases x <;> simp

end Assigned

/-- Something is asked for a part that nothing of its type has. -/
structure NoSuchPart where
  typeName : String
  part : String
  deriving DecidableEq, Repr

namespace NoSuchPart

/-- What comes of asking a stray value for a part. -/
def ofValue (v : Value) (part : String) : NoSuchPart := ⟨v.typeName,part⟩

def message (e : NoSuchPart) : String :=
  "'" ++ e.typeName ++ "' object has no attribute '" ++ e.part ++ "'"

end NoSuchPart

/-- Why a value does not do where it stands: it has not a part that is asked for, or a text is asked
for and it holds a whole number that is not written. -/
inductive ValueFault
  | noSuchPart (e : NoSuchPart)
  | unwritable
  deriving DecidableEq, Repr

def ValueFault.message : ValueFault → String
  | noSuchPart e => e.message
  | unwritable => Calendar.Numeral.limitMessage ""

end BlogPaths
