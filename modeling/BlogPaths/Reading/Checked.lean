import BlogPaths.Metadata.Value

/-! Checking of values against what a field allows.  Issues are collected, not thrown: the issues of
all fields are reported together, in the order in which the fields are read. -/
namespace BlogPaths

inductive Locus
  | key (name : String)
  | index (i : Nat)
  deriving DecidableEq, Repr

inductive IssueKind
  | missing
  | notText
  | notList
  | notObject
  | notTruthValue
  | badTruthValue
  | notTimestamp
  | malformedTimestamp
  | yearZero
  | unknownKind
  | notRecord
  | unknownOption
  | refused (message : String)
  deriving DecidableEq, Repr

namespace IssueKind

def code : IssueKind → String
  | missing => "missing"
  | notText => "string_type"
  | notList => "list_type"
  | notObject => "dict_type"
  | notTruthValue => "bool_type"
  | badTruthValue => "bool_parsing"
  | notTimestamp => "datetime_type"
  | malformedTimestamp => "datetime_from_date_parsing"
  | yearZero => "datetime_parsing"
  | unknownKind => "literal_error"
  | notRecord => "model_type"
  | unknownOption => "extra_forbidden"
  | refused _ => "value_error"

def message? : IssueKind → Option String
  | refused message => some ("Value error, " ++ message)
  | _ => none

end IssueKind

structure Issue where
  locus : List Locus
  kind : IssueKind
  deriving DecidableEq, Repr

/-- A value that has passed its checks, or the issues with it. -/
inductive Checked (α : Type)
  | ok (a : α)
  | issues (found : List Issue)
  deriving Repr

namespace Checked

variable {α β : Type}

def fail (kind : IssueKind) : Checked α := issues [⟨[],kind⟩]

protected def map (f : α → β) : Checked α → Checked β
  | ok a => ok (f a)
  | issues is => issues is

/-- Applies a function to a value, or gathers the issues with both. -/
protected def seq : Checked (α → β) → Checked α → Checked β
  | ok f, ok a => ok (f a)
  | ok _, issues is => issues is
  | issues is, ok _ => issues is
  | issues is, issues js => issues (is ++ js)

instance : Applicative Checked where
  pure := ok
  map := Checked.map
  seq f a := Checked.seq f (a ())

/-- Issues are gathered in the order of the fields, however the fields are grouped. -/
instance : LawfulApplicative Checked where
  map_const := rfl
  id_map x := by cases x <;> rfl
  map_pure g a := rfl
  seqLeft_eq x y := by cases x <;> cases y <;> rfl
  seqRight_eq x y := by cases x <;> cases y <;> rfl
  pure_seq g x := by cases x <;> rfl
  seq_pure g a := by cases g <;> rfl
  seq_assoc x g h := by
    cases x <;> cases g <;> cases h <;>
      simp [Seq.seq,Checked.seq,Functor.map,Checked.map,List.append_assoc]

theorem map_eq_ok {f : α → β} {x : Checked α} {b : β} :
    f <$> x = ok b ↔ ∃ a, x = ok a ∧ f a = b := by
  cases x <;> simp [Functor.map,Checked.map]

theorem seq_eq_ok {f : Checked (α → β)} {x : Checked α} {b : β} :
    f <*> x = ok b ↔ ∃ g a, f = ok g ∧ x = ok a ∧ g a = b := by
  cases f <;> cases x <;> simp [Seq.seq,Checked.seq]

def toOption : Checked α → Option α
  | ok a => some a
  | issues _ => none

/-- The issues seen from one level further out. -/
def within (l : Locus) : Checked α → Checked α
  | ok a => ok a
  | issues is => issues (is.map fun i => ⟨l :: i.locus,i.kind⟩)

theorem within_pure (l : Locus) (a : α) : within l (pure a) = pure a := rfl

def items (read : Value → Checked α) (i : Nat) : List Value → Checked (List α)
  | [] => pure []
  | v :: vs => List.cons <$> within (.index i) (read v) <*> items read (i + 1) vs

def entries (read : Value → Checked α) : Metadata → Checked (List (String × α))
  | [] => pure []
  | (k,v) :: es => (fun a as => (k,a) :: as) <$> within (.key k) (read v) <*> entries read es

end Checked

namespace Value

open Checked

def readString : Value → Checked String
  | str s => .ok s
  | _ => fail .notText

def readObject : Value → Checked Metadata
  | object m => .ok m
  | _ => fail .notObject

def readList {α : Type} (read : Value → Checked α) : Value → Checked (List α)
  | list vs => items read 0 vs
  | _ => fail .notList

/-- The words for the two truth values, in any case. -/
def trueWords : List String := ["1", "true", "t", "yes", "y", "on"]
def falseWords : List String := ["0", "false", "f", "no", "n", "off"]

/-- A truth value, the numbers one and zero, or a word for one of them. -/
def readBool : Value → Checked Bool
  | bool b => .ok b
  | int n => if n = 1 then .ok true else if n = 0 then .ok false else fail .badTruthValue
  | float x =>
    if sameScalar (float x) (int 1) then .ok true
    else if sameScalar (float x) (int 0) then .ok false
    else fail .notTruthValue
  | str s =>
    let word := String.ofList (s.toList.map Char.toLower)
    if word ∈ trueWords then .ok true
    else if word ∈ falseWords then .ok false
    else fail .badTruthValue
  | _ => fail .notTruthValue

def readOptional {α : Type} (read : Value → Checked α) : Value → Checked (Option α)
  | null => .ok none
  | v => some <$> read v

end Value

namespace Metadata

open Checked

def required {α : Type} (m : Metadata) (key : String) (read : Value → Checked α) : Checked α :=
  within (.key key) <| match m.get? key with
    | some v => read v
    | none => fail .missing

def optional {α : Type} (m : Metadata) (key : String) (default : α) (read : Value → Checked α) :
    Checked α :=
  match m.get? key with
  | some v => within (.key key) (read v)
  | none => .ok default

end Metadata

end BlogPaths
