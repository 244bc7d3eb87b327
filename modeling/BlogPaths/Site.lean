import BlogPaths.Blog
import BlogPaths.Reading.Resource

/-! Assignments of a host to the fields of a resource.  Only dates are read; any other value is
taken as it is. -/
namespace BlogPaths

open Checked

inductive Assignment
  | path (path : Assigned String)
  | destinationPath (path : Assigned (Option String))
  | date (date : Option Calendar.Timestamp)
  | lang (lang : Assigned (Option String))
  | slug (slug : Assigned (Option String))
  | tags (tags : Assigned (List String))
  | published (published : Assigned Bool)
  | data (data : Assigned Metadata)
  | kind (kind : Assigned Kind)
  | article (article : Assigned (Option Article))
  | ownerPath (path : Assigned (Option String))
  | controller (controller : Value)
  /-- A name with a leading underscore is free for any use, and nothing reads it. -/
  | hidden
  deriving Repr

inductive AssignmentError
  | invalidDate (found : List Issue)
  | computedField (name : String)
  | noField (name : String)
  deriving DecidableEq, Repr

def AssignmentError.message : AssignmentError → String
  | invalidDate _ => "Resource"
  | computedField name => "property '" ++ name ++ "' of 'Resource' object has no setter"
  | noField name => "\"Resource\" object has no field \"" ++ name ++ "\""

namespace Assignment

def apply (r : Resource) : Assignment → Resource
  | path p => { r with path := p }
  | destinationPath p => { r with destinationPath := p }
  | date t => { r with date := t }
  | lang l => { r with lang := l }
  | slug s => { r with slug := s }
  | tags ts => { r with tags := ts }
  | published b => { r with published := b }
  | data m => { r with data := m }
  | kind k => { r with kind := k }
  | article a => { r with article := a }
  | ownerPath p => { r with ownerPath := p }
  | controller v => { r with controller := v }
  | hidden => r

def text? : Value → Option String
  | .str s => some s
  | _ => none

def textOrNull? : Value → Option (Option String)
  | .null => some none
  | v => (text? v).map some

def texts? : Value → Option (List String)
  | .list vs => vs.mapM text?
  | _ => none

def bool? : Value → Option Bool
  | .bool b => some b
  | _ => none

def metadata? : Value → Option Metadata
  | .object m => some m
  | _ => none

def kind? (v : Value) : Option Kind := (text? v).bind Kind.ofName?

/-- Articles are made by blogs alone, so that null is the one proper value a host has for them. -/
def noArticle? : Value → Option (Option Article)
  | .null => some none
  | _ => none

def ofValue (field : String) (v : Value) : Except AssignmentError Assignment :=
  match field with
  | "path" => .ok (path (.ofValue text? v))
  | "destination_path" => .ok (destinationPath (.ofValue textOrNull? v))
  | "date" =>
    match within (.key "date") (Value.readOptional Value.readTimestamp v) with
    | .ok t => .ok (date t)
    | .issues found => .error (.invalidDate found)
  | "lang" => .ok (lang (.ofValue textOrNull? v))
  | "slug" => .ok (slug (.ofValue textOrNull? v))
  | "tags" => .ok (tags (.ofValue texts? v))
  | "published" => .ok (published (.ofValue bool? v))
  | "data" => .ok (data (.ofValue metadata? v))
  | "kind" => .ok (kind (.ofValue kind? v))
  | "article" => .ok (article (.ofValue noArticle? v))
  | "owner_path" => .ok (ownerPath (.ofValue textOrNull? v))
  | "controller" => .ok (controller v)
  | "is_article" => .error (.computedField field)
  | name => if name.toList.head? = some '_' then .ok hidden else .error (.noField name)

end Assignment

/-! Sites: a pool of resources that any number of blogs classify.  Resources are added and assigned
to at any time; every blog keeps the index of its last pass that succeeded. -/

/-- A classifier at work on a pool, with the index of its last pass that succeeded. -/
structure Member (n : Nat) where
  classifier : Classifier
  options : Option BlogOptions := none
  index : Index n := {}

namespace Member

variable {n : Nat}

def ofBlog (b : Blog) : Member n := { classifier := b.classifier, options := some b.options }

def blog? (m : Member n) : Option Blog := m.options.map fun options => ⟨options,m.classifier⟩

def description? (m : Member n) (pool : Pool n) : Option String :=
  if m.options.isSome then Blog.description? m.index pool else m.index.description? pool

def blogFor (m : Member n) (part : String) : Except QueryError Blog :=
  match m.blog? with
  | some b => .ok b
  | none => .error (.value (.noSuchPart ⟨"ResourceClassifier",part⟩))

/-- The articles in one language, newest first, which only blogs know. -/
def articlesIn (m : Member n) (pool : Pool n) (lang : Assigned (Option String)) :
    Except QueryError (List (Fin n)) := do
  let b ← m.blogFor "local_articles"
  b.articlesIn m.index pool lang

/-- The article that came with a path, which only blogs look up. -/
def articleAt (m : Member n) (path : String) : Except QueryError (Option (Fin n)) := do
  let _ ← m.blogFor "article"
  return m.index.byPath? path

/-- The member after a pass; one that has failed leaves the index as it was. -/
def afterPass (m : Member n) (p : Pass n) : Member n :=
  match p.result with
  | .ok found => { m with index := found.index }
  | .error _ => m

def grow (m : Member n) : Member (n + 1) := { m with index := m.index.grow }

end Member

structure Site where
  size : Nat
  pool : Pool size
  members : List (Member size) := []

namespace Site

def ofResources (rs : List Resource) : Site where
  size := rs.length
  pool := ⟨rs.toArray,by simp⟩

def enter (s : Site) (m : Member s.size) : Site := { s with members := s.members ++ [m] }

def assign (s : Site) (h : Fin s.size) (a : Assignment) : Site :=
  { s with pool := s.pool.set h (a.apply s.pool[h]) }

def add (s : Site) (r : Resource) : Site where
  size := s.size + 1
  pool := s.pool.push r
  members := s.members.map Member.grow

def passOf (s : Site) (m : Member s.size) (hs : List (Fin s.size)) : Pass s.size :=
  m.classifier.pass s.pool hs

def runPass (s : Site) (i : Nat) (hs : List (Fin s.size)) : Site :=
  match s.members[i]? with
  | none => s
  | some m =>
    let p := s.passOf m hs
    { s with pool := p.pool, members := s.members.set i (m.afterPass p) }

end Site

end BlogPaths
