import BlogPaths.Calendar.Numeral
import BlogPaths.Language
import BlogPaths.Permalink.Template
import BlogPaths.Reading.Resource

/-! Classifiers, and the article that a classifier makes of a resource's front matter and of the
texts captured from its path. -/
namespace BlogPaths

open Calendar

structure Classifier where
  pattern : SourcePattern
  permalink : Permalink
  isDevelopment : Bool := true
  preserveLocale : Bool := false
  indexFile : String := "index.html"
  policy : LanguagePolicy := .canonical
  controller : Value := .null
  /-- What the paths of articles are matched against. -/
  articleSegments : List (Segment SourceField) := pattern.segments

/-- Why a pass fails.  The last four are left to values of a type that does not belong where they are,
to numbers that are too long to be written, and to dates of which some tell their offset and some do
not. -/
inductive PassError
  | noDate (path template : String)
  | badDate (path template : String) (fault : DateFault)
  | invalidArticle (found : List Issue)
  | permalink (template : String) (lack : PermalinkLack)
  | missingCapture (f : SourceField)
  | noOwner (path ownerPath : String)
  | ownerNoArticle (path ownerPath : String)
  | value (fault : ValueFault)
  | unfindablePath (typeName : String)
  | pathNoText (typeName : String)
  | datesApart
  deriving DecidableEq, Repr

def PassError.message : PassError → String
  | noDate path _ => "Article " ++ path ++ " has no date in its path or metadata"
  | badDate _ _ (.overflow o) => (DateFault.overflow o).message
  | badDate path _ fault =>
    "Article " ++ path ++ " has an invalid date in its path: " ++ fault.message
  | invalidArticle _ => "ArticleFields"
  | permalink template lack => lack.message template
  | missingCapture f => Text.quoted f.name
  | noOwner path ownerPath => "Article for " ++ path ++ " not found at " ++ ownerPath
  | ownerNoArticle path ownerPath =>
    "Owner " ++ ownerPath ++ " of " ++ path ++ " is not an article source"
  | value fault => fault.message
  | unfindablePath typeName => "unhashable type: '" ++ typeName ++ "'"
  | pathNoText typeName => "expected string or bytes-like object, got '" ++ typeName ++ "'"
  | datesApart => "can't compare offset-naive and offset-aware datetimes"

/-- A field's value, or what its own reader says of a stray one. -/
def Assigned.check {α : Type} (key : String) (readStray : Value → Checked α) :
    Assigned α → Checked α
  | proper a => .ok a
  | stray v => .within (.key key) (readStray v)

/-- What has come of promoting a resource to an article. -/
inductive Promotion
  /-- It failed before the resource was claimed. -/
  | refused (e : PassError)
  /-- It failed when the resource had been claimed. -/
  | broken (e : PassError)
  | complete (a : Article)
  deriving Repr

namespace Classifier

/-- Drafts are seen in development only. -/
def isVisible (c : Classifier) (f : FrontMatter) : Bool := c.isDevelopment || f.isPublished

/-- The language in the path, or else in the front matter. -/
def givenLanguage (f : FrontMatter) (captures : Captures) : Assigned (Option String) :=
  match captures.lookup "lang" with
  | some s => if s = "" then f.lang else .proper (some s)
  | none => f.lang

def languageOf (c : Classifier) (f : FrontMatter) (captures : Captures) :
    Except ValueFault (Assigned (Option String)) :=
  let lang := givenLanguage f captures
  if c.preserveLocale then .ok lang else c.policy.applyAssigned lang

/-- The slug of the title in the metadata; what is no metadata cannot be asked for one. -/
def metadataSlug (f : FrontMatter) : Except ValueFault String :=
  match f.data with
  | .proper data =>
    match ((data.get? "title").getD .null).slug? with
    | some s => .ok s
    | none => .error .unwritable
  | .stray v => .error (.noSuchPart (.ofValue v "get"))

/-- The title in the path, or else in the metadata. -/
def titleSlug (f : FrontMatter) (captures : Captures) : Except ValueFault String :=
  match captures.lookup "title" with
  | some s => if s = "" then metadataSlug f else .ok s
  | none => metadataSlug f

/-- The slug in the front matter, if it is given, and the title otherwise. -/
def slugOf (f : FrontMatter) (captures : Captures) : Except ValueFault (Assigned String) :=
  match f.slug with
  | .proper none => (titleSlug f captures).map .proper
  | .proper (some s) => if s = "" then (titleSlug f captures).map .proper else .ok (.proper s)
  | .stray v => if v.isGiven then .ok (.stray v) else (titleSlug f captures).map .proper

/-- The date in the front matter, or else the day in the path. -/
def dateOf (c : Classifier) (f : FrontMatter) (path : String) (captures : Captures) :
    Except PassError Timestamp :=
  match f.date with
  | some t => .ok t
  | none =>
    match captures.lookup "year" with
    | none => .error (.noDate path c.pattern.template)
    | some year =>
      match Date.ofTexts year (captures.lookup "month") (captures.lookup "day") with
      | .ok day => .ok (.ofDate day)
      | .error fault => .error (.badDate path c.pattern.template fault)

def articleOf (c : Classifier) (f : FrontMatter) (path : String) (captures : Captures)
    (lang : Assigned (Option String)) : Except PassError Article := do
  let date ← c.dateOf f path captures
  let slug ← (slugOf f captures).mapError .value
  let fields : Checked Article :=
    (fun lang slug tags data => { lang, date, slug, tags, data, captures })
      <$> lang.check "lang" (Value.readOptional Value.readString)
      <*> slug.check "slug" Value.readString
      <*> f.tags.check "tags" (Value.readList Value.readString)
      <*> f.data.check "data" Value.readObject
  match fields with
  | .ok a => return a
  | .issues found => throw (.invalidArticle found)

/-- Promotes a resource: the language comes before the claim, all else behind it. -/
def promote (c : Classifier) (f : FrontMatter) (path : String) (captures : Captures) :
    Promotion :=
  match c.languageOf f captures with
  | .error e => .refused (.value e)
  | .ok lang =>
    match c.articleOf f path captures lang with
    | .error e => .broken e
    | .ok a => .complete a

end Classifier

end BlogPaths
