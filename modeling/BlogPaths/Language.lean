import BlogPaths.Assigned
import BlogPaths.Unicode.Case

/-! Language tags and the policies that bring them to one form. -/
namespace BlogPaths

open Unicode

namespace Language

/-- Underscores count as hyphens. -/
def hyphenated (tag : List Char) : List Char := tag.map fun c => if c = '_' then '-' else c

/-- The part before the first hyphen, and the part behind it. -/
def parts (tag : List Char) : List Char × List Char :=
  (tag.takeWhile (· ≠ '-'),(tag.dropWhile (· ≠ '-')).drop 1)

/-- The language in lower case and the region in upper case; a region that only repeats the language
is left out. -/
def canonicalChars (tag : List Char) : List Char :=
  let (language,region) := parts (hyphenated tag)
  let language := lower language
  if region = [] ∨ lower region = language then language
  else language ++ '-' :: upper region

def canonical (tag : String) : String := String.ofList (canonicalChars tag.toList)

end Language

/-- How a blog brings the language of an article, or of a query, to one form.  A stray value in the
place of a language is answered apart, and may be refused. -/
structure LanguagePolicy where
  apply : Option String → Option String
  applyStray : Value → Except ValueFault (Assigned (Option String)) := fun v => .ok (.stray v)

namespace LanguagePolicy

/-- The canonical form of the tag; of any other value, of its text. -/
def canonical : LanguagePolicy where
  apply := Option.map Language.canonical
  applyStray v :=
    match v.text? with
    | some s => .ok (.proper (some (Language.canonical s)))
    | none => .error .unwritable

def identity : LanguagePolicy where
  apply := id

/-- Languages in upper case, which only texts have. -/
def upperCase : LanguagePolicy where
  apply := Option.map fun tag => String.ofList (upper tag.toList)
  applyStray v := .error (.noSuchPart (.ofValue v "upper"))

def const (tag : String) : LanguagePolicy where
  apply _ := some tag
  applyStray _ := .ok (.proper (some tag))

/-- The policy on a field that may hold a stray value. -/
def applyAssigned (p : LanguagePolicy) :
    Assigned (Option String) → Except ValueFault (Assigned (Option String))
  | .proper lang => .ok (.proper (p.apply lang))
  | .stray v => p.applyStray v

@[simp] theorem applyAssigned_proper (p : LanguagePolicy) (lang : Option String) :
    p.applyAssigned (.proper lang) = .ok (.proper (p.apply lang)) := rfl

end LanguagePolicy

end BlogPaths
