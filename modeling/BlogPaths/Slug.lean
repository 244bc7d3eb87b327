import BlogPaths.Metadata.Value
import BlogPaths.Unicode.AsciiFold

/-! Slugs: runs of small ASCII letters and digits, joined by single hyphens.  Every other stretch of
a text is a gap; gaps at the two ends vanish. -/
namespace BlogPaths

open Unicode

namespace Slug

/-- The characters a slug is made of, its hyphens apart. -/
def isSlugChar (c : Char) : Bool := c.isLower || c.isDigit

/-- A text of slug characters and gaps.  A gap is written only in front of a slug character, and
only if `started` says that one has come before; `gap` says that a gap is open. -/
def joinFrom (started gap : Bool) : List Char → List Char
  | [] => []
  | c :: cs =>
    if isSlugChar c then
      if started && gap then '-' :: c :: joinFrom true false cs
      else c :: joinFrom true false cs
    else joinFrom started true cs

def ofChars (s : List Char) : List Char := joinFrom false false (s.flatMap asciiFold)

def IsWord (w : List Char) : Prop := w ≠ [] ∧ ∀ c ∈ w, isSlugChar c

inductive Joined : List Char → Prop
  | word {w} : IsWord w → Joined w
  | cons {w s} : IsWord w → Joined s → Joined (w ++ '-' :: s)

/-- The grammar of slugs; the empty text is the slug of a text without any slug character. -/
def IsSlug (s : List Char) : Prop := s = [] ∨ Joined s

def ofText (s : String) : String := String.ofList (ofChars s.toList)

end Slug

/-- The slug of a metadata value that has a text; the null value has the empty slug. -/
def Value.slug? : Value → Option String
  | null => some ""
  | v => v.text?.map Slug.ofText

@[simp] theorem Value.slug?_null : Value.null.slug? = some "" := rfl
@[simp] theorem Value.slug?_str (s : String) : (Value.str s).slug? = some (Slug.ofText s) := rfl

theorem Value.slug?_of_ne_null {v : Value} (h : v ≠ .null) :
    v.slug? = v.text?.map Slug.ofText := by
  cases v with
  | null => exact absurd rfl h
  | bool | int | float | str | list | object => rfl

theorem Value.slug?_eq_none_iff (v : Value) : v.slug? = none ↔ v.Overlong := by
  by_cases h : v = .null
  · subst h
    simp only [slug?_null,reduceCtorEq,false_iff]
    intro h
    cases h
  · rw [slug?_of_ne_null h,Option.map_eq_none_iff,text?_eq_none_iff]

end BlogPaths
