import BlogPaths.Permalink.Template

/-! What a permalink template says.  Read from the left in one go, a colon and the longest name behind
it ask for a value, unless the name may ask once only and has come before; all else is text.  An
article puts its values in the places that ask for them, and nothing in a value is read again. -/
namespace BlogPaths

open Calendar

namespace Permalink

def fixedNames : List String := ["lang","year","month","day","title"]

/-- The names that ask for a value wherever they stand. -/
def repeatableNames : List String := ["lang","year","month","day"]

/-- A text starts with a name, which is taken as long as it reaches, and `rest` is behind it. -/
structure StartsWithName (s : List Char) (name : String) (rest : List Char) : Prop where
  eq_append : s = name.toList ++ rest
  ne_empty : name ≠ ""
  isAlphanum : ∀ c ∈ name.toList, c.isAlphanum = true
  longest : ∀ c, rest.head? = some c → c.isAlphanum = false

/-- A piece of a template: a character, or a place that asks for the value of a name. -/
inductive Piece
  | char (c : Char)
  | value (name : String)
  deriving DecidableEq, Repr

def segmentPieces : Segment PermalinkField → List Piece
  | .literal t => t.map .char
  | .field f => [.value f.name]

def pieces (p : Permalink) : List Piece := p.segments.flatMap segmentPieces

/-- The pieces of a template, before which the names in `seen` have come. -/
inductive Reads : List String → List Char → List Piece → Prop
  | nil {seen} : Reads seen [] []
  | char {seen c s ps} (hc : c = ':' → ∀ name rest, ¬ StartsWithName s name rest)
      (h : Reads seen s ps) : Reads seen (c :: s) (.char c :: ps)
  | value {seen s name rest ps} (hn : StartsWithName s name rest)
      (ha : name ∈ repeatableNames ∨ name ∉ seen) (h : Reads (name :: seen) rest ps) :
      Reads seen (':' :: s) (.value name :: ps)
  | again {seen s name rest ps} (hn : StartsWithName s name rest) (ha : name ∉ repeatableNames)
      (hs : name ∈ seen) (h : Reads seen rest ps) :
      Reads seen (':' :: s) ((':' :: name.toList).map .char ++ ps)

/-- The text that an article has for a name. -/
inductive Shows (a : Article) : String → List Char → Prop
  | lang {lang} (h : a.lang = some lang) (hne : lang ≠ "") : Shows a "lang" lang.toList
  | year : Shows a "year" (padded 4 a.date.date.year)
  | month : Shows a "month" (padded 2 a.date.date.month)
  | day : Shows a "day" (padded 2 a.date.date.day)
  | title : Shows a "title" a.slug.toList
  | custom {name v s} (hn : name ∉ fixedNames) (h : a.data.get? name = some v) (hv : v ≠ .null)
      (hs : v.slug? = some s) (hne : s ≠ "") : Shows a name s.toList

/-- The text of pieces: characters stand for themselves, names for the values of the article. -/
inductive Spells (a : Article) : List Piece → List Char → Prop
  | nil : Spells a [] []
  | char {c ps t} (h : Spells a ps t) : Spells a (.char c :: ps) (c :: t)
  | value {name u ps t} (hs : Shows a name u) (h : Spells a ps t) :
      Spells a (.value name :: ps) (u ++ t)

/-- The article lacks what a name asks for: it has no language, no metadata under the name, metadata
that is not written, or metadata of which no slug can be made. -/
def IsLackOf (a : Article) : PermalinkLack → Prop
  | .language => a.lang = none ∨ a.lang = some ""
  | .metadata name =>
    name ∉ fixedNames ∧ (a.data.get? name = none ∨ a.data.get? name = some .null)
  | .text name => name ∉ fixedNames ∧ ∃ v, a.data.get? name = some v ∧ v.Overlong
  | .slug name =>
    name ∉ fixedNames ∧ ∃ v, a.data.get? name = some v ∧ v ≠ .null ∧ v.slug? = some ""

def FirstLack (a : Article) (ps : List Piece) (lack : PermalinkLack) : Prop :=
  ∃ before behind, ps = before ++ .value lack.field :: behind ∧ IsLackOf a lack ∧
    ∀ name, .value name ∈ before → ∃ u, Shows a name u

end Permalink

end BlogPaths
