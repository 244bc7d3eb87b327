import BlogPaths.Template.Segment
import BlogPaths.Text.Basic
import BlogPaths.Unicode.Ranges

/-! The fields of a source template: their names, and the texts each of them stands for. -/
namespace BlogPaths

open Unicode

inductive SourceField
  | lang | year | month | day | title
  deriving DecidableEq, Repr

namespace SourceField

def all : List SourceField := [lang,year,month,day,title]

theorem mem_all (f : SourceField) : f ∈ all := by cases f <;> decide

def name : SourceField → String
  | lang => "lang"
  | year => "year"
  | month => "month"
  | day => "day"
  | title => "title"

/-- Reads the name of a field at the start of a text. -/
def read? (s : List Char) : Option (SourceField × List Char) :=
  all.findSome? fun f => if f.name.toList <+: s then some (f,s.drop f.name.toList.length) else none

theorem read?_eq {s r : List Char} {f : SourceField} (h : read? s = some (f,r)) :
    s = f.name.toList ++ r := by
  obtain ⟨f',_,h⟩ := List.exists_of_findSome?_eq_some h
  split at h
  · rename_i hp
    obtain ⟨t,rfl⟩ := hp
    simp at h
    obtain ⟨rfl,rfl⟩ := h
    rfl
  · simp at h

def grammar : Grammar SourceField where
  name f := f.name.toList
  read? := read?
  read?_eq := read?_eq

def IsCode (s : List Char) : Prop := s.length = 2 ∧ ∀ c ∈ s, isWord c

/-- The texts a field stands for. -/
def Admits : SourceField → List Char → Prop
  | lang, s => IsCode s ∨ ∃ a b, IsCode a ∧ IsCode b ∧ s = a ++ '-' :: b
  | year, s => s.length = 4 ∧ ∀ c ∈ s, isDigit c
  | month, s => s.length = 2 ∧ ∀ c ∈ s, isDigit c
  | day, s => s.length = 2 ∧ ∀ c ∈ s, isDigit c
  | title, s => s ≠ [] ∧ '/' ∉ s

/-- The length `k`, if a text has as many characters at its start that satisfy `p`. -/
def exactly (p : Char → Bool) (k : Nat) (s : List Char) : List Nat :=
  if k ≤ s.length ∧ (s.take k).all p then [k] else []

def startsWithCode (s : List Char) : Bool := 2 ≤ s.length && (s.take 2).all isWord

/-- Five characters where a hyphen and a second code follow the first, and two. -/
def langLengths (s : List Char) : List Nat :=
  if startsWithCode s then
    if (s.drop 2).head? = some '-' ∧ startsWithCode (s.drop 3) then [5,2] else [2]
  else []

def downFrom : Nat → List Nat
  | 0 => []
  | n+1 => (n+1) :: downFrom n

/-- The lengths of the texts of a field at the start of a text, the longest first. -/
def lengths : SourceField → List Char → List Nat
  | lang, s => langLengths s
  | year, s => exactly isDigit 4 s
  | month, s => exactly isDigit 2 s
  | day, s => exactly isDigit 2 s
  | title, s => downFrom (s.takeWhile (· ≠ '/')).length

end SourceField

/-! Why a template does not compile. -/

inductive TemplateError
  | emptySource
  | repeatedField (template : String) (f : SourceField)
  | emptyPermalink (template : String)
  deriving DecidableEq, Repr

namespace TemplateError

def message : TemplateError → String
  | emptySource => "Source template is empty"
  | repeatedField template f =>
    "Placeholder :" ++ f.name ++ " appears more than once in source template " ++
      Text.quoted template
  | emptyPermalink _ => "Permalink template is empty"

/-- The template at fault, as far as it was read. -/
def template : TemplateError → String
  | emptySource => ""
  | repeatedField template _ => template
  | emptyPermalink template => template

def field? : TemplateError → Option String
  | repeatedField _ f => some f.name
  | _ => none

end TemplateError

end BlogPaths
