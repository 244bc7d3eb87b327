import BlogPaths.Resource
import BlogPaths.Slug
import BlogPaths.Source.Field
import BlogPaths.Text.Basic

/-! Compiled permalink templates. -/
namespace BlogPaths

open Text

/-- A field of a permalink; a custom field is looked up in an article's metadata. -/
inductive PermalinkField
  | lang | year | month | day | title
  | custom (name : String)
  deriving DecidableEq, Repr

namespace PermalinkField

def ofName (name : String) : PermalinkField :=
  if name = "lang" then lang
  else if name = "year" then year
  else if name = "month" then month
  else if name = "day" then day
  else if name = "title" then title
  else custom name

def name : PermalinkField → String
  | lang => "lang"
  | year => "year"
  | month => "month"
  | day => "day"
  | title => "title"
  | custom name => name

@[simp] theorem name_ofName (name : String) : (ofName name).name = name := by
  unfold ofName
  repeat (split; · simp_all [PermalinkField.name])
  simp_all [PermalinkField.name]

/-- Whether a template may use the field any number of times. -/
def isRepeatable : PermalinkField → Bool
  | lang | year | month | day => true
  | title | custom _ => false

def custom? : PermalinkField → Option String
  | custom name => some name
  | _ => none

/-- Names are runs of ASCII letters and digits, taken as long as they reach. -/
def read? (s : List Char) : Option (PermalinkField × List Char) :=
  let name := s.takeWhile Char.isAlphanum
  if name = [] then none
  else some (ofName (String.ofList name),s.dropWhile Char.isAlphanum)

theorem read?_eq {s r : List Char} {f : PermalinkField} (h : read? s = some (f,r)) :
    s = f.name.toList ++ r := by
  unfold read? at h
  simp only at h
  split at h
  · simp at h
  · simp at h
    obtain ⟨rfl,rfl⟩ := h
    simp

def grammar : Grammar PermalinkField where
  name f := f.name.toList
  read? := read?
  read?_eq := read?_eq

end PermalinkField

structure Permalink where
  template : String
  segments : List (Segment PermalinkField)
  customComponents : List String
  deriving DecidableEq, Repr

namespace Permalink

/-- Turns every repeated use of a title or a custom field into the text it is written with. -/
def demote (seen : List PermalinkField) :
    List (Segment PermalinkField) → List (Segment PermalinkField)
  | [] => []
  | .literal t :: segs => .literal t :: demote seen segs
  | .field f :: segs =>
    if f.isRepeatable then .field f :: demote seen segs
    else if f ∈ seen then .literal (':' :: f.name.toList) :: demote seen segs
    else .field f :: demote (f :: seen) segs

/-- Compiles a template, of which only a blank one is refused. -/
def compile (template : String) : Except TemplateError Permalink :=
  if isBlankText template.toList then .error (.emptyPermalink template)
  else
    let tokens := PermalinkField.grammar.tokenize template.toList
    .ok {
      template := template
      segments := demote [] tokens
      customComponents := ((Segment.fields tokens).filterMap PermalinkField.custom?).eraseDups }

end Permalink

/-! The permalink of an article, and those of the files nested below it. -/

open Calendar

/-- What an article lacks that a permalink needs: a language, metadata, metadata that can be written
out, or metadata of which a slug can be made. -/
inductive PermalinkLack
  | language
  | metadata (name : String)
  | text (name : String)
  | slug (name : String)
  deriving DecidableEq, Repr

namespace PermalinkLack

def field : PermalinkLack → String
  | language => "lang"
  | metadata name => name
  | text name => name
  | slug name => name

/-- Whether what is lacking is reported as an error of the configuration.  That a number is not written
is reported as it is. -/
def isConfiguration : PermalinkLack → Bool
  | text _ => false
  | _ => true

def message (template : String) : PermalinkLack → String
  | language =>
    "Permalink " ++ Text.quoted template ++ " uses :lang but the article has no language"
  | metadata name =>
    "Permalink " ++ Text.quoted template ++ " uses :" ++ name ++ " but the article has no " ++
      Text.quoted name ++ " metadata"
  | text _ => ValueFault.unwritable.message
  | slug name =>
    "Permalink " ++ Text.quoted template ++ " uses :" ++ name ++ " but the article's " ++
      Text.quoted name ++ " metadata is empty once slugified"

end PermalinkLack

namespace Permalink

def customText (data : Metadata) (name : String) : Except PermalinkLack String :=
  match data.get? name with
  | none => .error (.metadata name)
  | some .null => .error (.metadata name)
  | some v =>
    match v.slug? with
    | none => .error (.text name)
    | some s => if s = "" then .error (.slug name) else .ok s

theorem customText_of_get? {data : Metadata} {name : String} {v : Value}
    (hv : data.get? name = some v) (hnull : v ≠ .null) :
    customText data name = match v.slug? with
      | none => .error (.text name)
      | some s => if s = "" then .error (.slug name) else .ok s := by
  rw [customText,hv]
  cases v with
  | null => exact absurd rfl hnull
  | bool | int | float | str | list | object => rfl

def fieldText (a : Article) : PermalinkField → Except PermalinkLack String
  | .lang =>
    match a.lang with
    | none => .error .language
    | some lang => if lang = "" then .error .language else .ok lang
  | .year => .ok (String.ofList (padded 4 a.date.date.year))
  | .month => .ok (String.ofList (padded 2 a.date.date.month))
  | .day => .ok (String.ofList (padded 2 a.date.date.day))
  | .title => .ok a.slug
  | .custom name => customText a.data name

def segmentText (a : Article) : Segment PermalinkField → Except PermalinkLack (List Char)
  | .literal t => .ok t
  | .field f => (fieldText a f).map String.toList

/-- The texts of the segments joined; the first field that lacks its value is the error. -/
def resolve (p : Permalink) (a : Article) : Except PermalinkLack String := do
  let texts ← p.segments.mapM (segmentText a)
  return String.ofList texts.flatten

/-! A file nested below an article goes where the article's permalink says, the end of which that names
a page gives way to the nested part of the file's path. -/

/-- Whether a text is at its end, a line break at the very end left aside. -/
def atEnd (s : List Char) : Bool := s = [] || s = ['\n']

/-- What follows the ending of a permalink that starts here, if one starts here: a slash and the
index file, or a dot and an extension without dots and slashes, or a slash.  An extension takes a
line break at the very end with it. -/
def endingAt? (indexFile : List Char) : List Char → Option (List Char)
  | '/' :: s =>
    if indexFile <+: s ∧ atEnd (s.drop indexFile.length) then some (s.drop indexFile.length)
    else if atEnd s then some s
    else none
  | '.' :: s =>
    if s ≠ [] ∧ s.all (fun c => c ≠ '.' && c ≠ '/') then some [] else none
  | _ => none

/-- Puts a nested path in the place of the first ending, or behind a permalink without one. -/
def replaceEnding (indexFile tail : List Char) : List Char → List Char
  | [] => tail
  | c :: s =>
    match endingAt? indexFile (c :: s) with
    | some rest => tail ++ rest
    | none => c :: replaceEnding indexFile tail s

def companion (indexFile permalink tail : String) : String :=
  String.ofList (replaceEnding indexFile.toList tail.toList permalink.toList)

end Permalink

end BlogPaths
