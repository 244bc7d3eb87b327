import BlogPaths.Classifier.Pass
import BlogPaths.Reading.Checked
import BlogPaths.Source.Pattern
import BlogPaths.Text.Basic

/-! The options of a blog. -/
namespace BlogPaths

open Checked

structure BlogOptions where
  sources : String := ":year-:month-:day-:title.html"
  permalink : String := ":year/:month/:day/:title.html"
  preserveLocale : Bool := false
  environment : String := "development"
  indexFile : String := "index.html"
  defaultLocale : Option String := none
  deriving DecidableEq, Repr

/-- A text that is not blank. -/
def Value.readTemplate (v : Value) : Checked String :=
  match v.readString with
  | .ok s =>
    if Text.isBlankText s.toList then fail (.refused "template must not be empty") else .ok s
  | .issues found => .issues found

namespace BlogOptions

/-- Drafts are built in development only. -/
def isDevelopment (o : BlogOptions) : Bool := o.environment == "development"

def optionNames : List String :=
  ["sources", "permalink", "preserve_locale", "environment", "index_file", "default_locale"]

/-- Refuses every key that is no option. -/
def noExtras : Metadata → Checked Unit
  | [] => .ok ()
  | (k,_) :: m =>
    if k ∈ optionNames then noExtras m
    else (fun _ _ => ()) <$> (within (.key k) (fail .unknownOption) : Checked Unit) <*> noExtras m

def ofMetadata (m : Metadata) : Checked BlogOptions :=
  (fun sources permalink preserveLocale environment indexFile defaultLocale _ =>
    { sources, permalink, preserveLocale, environment, indexFile, defaultLocale })
    <$> m.optional "sources" ":year-:month-:day-:title.html" Value.readTemplate
    <*> m.optional "permalink" ":year/:month/:day/:title.html" Value.readTemplate
    <*> m.optional "preserve_locale" false Value.readBool
    <*> m.optional "environment" "development" Value.readString
    <*> m.optional "index_file" "index.html" Value.readString
    <*> m.optional "default_locale" none (Value.readOptional Value.readString)
    <*> noExtras m

def ofValue : Value → Checked BlogOptions
  | .object m => ofMetadata m
  | _ => fail .notRecord

end BlogOptions

/-! Blogs: a classifier made from options, and queries in a language. -/

namespace SourcePattern

def log (p : SourcePattern) : List LogEvent :=
  if p.stem?.isSome then [] else [.noCompanions p.template]

end SourcePattern

inductive QueryError
  | noLanguage
  | value (fault : ValueFault)
  deriving DecidableEq, Repr

def QueryError.message : QueryError → String
  | noLanguage => "No language given and no default_locale configured"
  | value fault => fault.message

structure Blog where
  options : BlogOptions
  classifier : Classifier

namespace Blog

/-- The blog with the given options; both templates have to compile, the source template first. -/
def ofOptions (o : BlogOptions) (controller : Value) (policy : LanguagePolicy) :
    Except TemplateError Blog := do
  let pattern ← SourcePattern.compile o.sources
  let permalink ← Permalink.compile o.permalink
  return {
    options := o
    classifier := {
      pattern, permalink, policy, controller
      isDevelopment := o.isDevelopment
      preserveLocale := o.preserveLocale
      indexFile := o.indexFile } }

/-- What making a blog writes to the log, as far as it gets. -/
def creationLog (o : BlogOptions) : List LogEvent :=
  match SourcePattern.compile o.sources with
  | .error _ => []
  | .ok p => p.log ++
    match Permalink.compile o.permalink with
    | .error _ => []
    | .ok _ => [.compiled o.sources p.articleExpression]

/-- The language that a query asks for: its own if it is given, or else the default. -/
def askedLanguage? (b : Blog) (lang : Assigned (Option String)) :
    Option (Assigned (Option String)) :=
  let default := b.options.defaultLocale.map fun s => .proper (some s)
  match lang with
  | .proper none => default
  | .proper (some s) => if s = "" then default else some lang
  | .stray v => if v.isGiven then some lang else default

/-- The language that a query looks for: what it asks for, under the policy. -/
def queryLanguage (b : Blog) (lang : Assigned (Option String)) :
    Except QueryError (Assigned (Option String)) :=
  match b.askedLanguage? lang with
  | none => .error .noLanguage
  | some lang =>
    if b.options.preserveLocale then .ok lang
    else (b.classifier.policy.applyAssigned lang).mapError .value

variable {n : Nat}

def articlesIn (b : Blog) (x : Index n) (pool : Pool n) (lang : Assigned (Option String)) :
    Except QueryError (List (Fin n)) := do
  let lang ← b.queryLanguage lang
  (x.inLanguage pool lang).mapError fun e => .value (.noSuchPart e)

def description? (x : Index n) (pool : Pool n) : Option String :=
  (Value.list (x.paths pool)).text?.map fun paths => "<BlogData: " ++ paths ++ ">"

end Blog

end BlogPaths
