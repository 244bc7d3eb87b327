import BlogPaths.Resource

/-! The articles of a blog, newest first.  An index keeps the order and the paths it was built with;
languages and tags are read from the articles as they are.  Sorting is stable and goes by a comparison
that contradicts itself where a place has set back its clock; only what follows from comparisons that
agree is relied on. -/
namespace BlogPaths

/-- An article as an index takes it in: its handle, its path if that is a text, and its date. -/
structure IndexEntry (n : Nat) where
  handle : Fin n
  path : Option String
  date : Calendar.Timestamp
  deriving DecidableEq, Repr

/-- The entries in the order in which they came. -/
structure Index (n : Nat) where
  entries : List (IndexEntry n) := []
  deriving Repr

inductive IndexError
  | noSuchPart (e : NoSuchPart)
  | datesApart
  deriving DecidableEq, Repr

namespace Index

variable {n : Nat}

def entryOf (pool : Pool n) (h : Fin n) (a : Article) : IndexEntry n :=
  ⟨h,(pool.front h).path.proper?,a.date⟩

/-- Sorting compares any two dates, directly or by way of others. -/
def isSortable (x : Index n) : Bool :=
  x.entries.all fun a => x.entries.all fun b => a.date.comparable b.date

theorem isSortable_iff {x : Index n} : x.isSortable = true ↔
    ∀ a ∈ x.entries, ∀ b ∈ x.entries, a.date.comparable b.date = true := by
  simp [isSortable]

/-- An index of resources of a pool, all of which have to be articles. -/
def ofHandles (pool : Pool n) (hs : List (Fin n)) : Except IndexError (Index n) :=
  match hs.mapM fun h => ((pool.standing h).payload "date").map (entryOf pool h) with
  | .error e => .error (.noSuchPart e)
  | .ok es => if (⟨es⟩ : Index n).isSortable then .ok ⟨es⟩ else .error .datesApart

def size (x : Index n) : Nat := x.entries.length

/-- The articles, newest first; of equal dates, in the order in which they came. -/
def articles (x : Index n) : List (Fin n) :=
  (x.entries.mergeSort fun a b => b.date.notAfter a.date).map (·.handle)

instance {m : Type → Type} [Monad m] : ForIn m (Index n) (Fin n) where
  forIn x b f := forIn x.articles b f

/-- The last article that came with a path. -/
def byPath? (x : Index n) (path : String) : Option (Fin n) :=
  (x.entries.reverse.find? (·.path == some path)).map (·.handle)

def contains (x : Index n) (path : String) : Bool := x.entries.any (·.path == some path)

/-- The articles, newest first, with what is known of them, of which a query wants the named
part. -/
def payloads (x : Index n) (pool : Pool n) (part : String) :
    Except NoSuchPart (List (Fin n × Article)) :=
  x.articles.mapM fun h => ((pool.standing h).payload part).map fun a => (h,a)

/-- The articles in a language, newest first.  No article has a stray value for its language. -/
def inLanguage (x : Index n) (pool : Pool n) (lang : Assigned (Option String)) :
    Except NoSuchPart (List (Fin n)) :=
  (x.payloads pool "lang").map fun found =>
    (found.filter fun (_,a) => lang.proper? == some a.lang).map (·.1)

/-- Adds an article to the group of a tag, which is opened at the end if there is none. -/
def addToGroup (h : Fin n) (tag : String) :
    List (String × List (Fin n)) → List (String × List (Fin n))
  | [] => [(tag,[h])]
  | (t,hs) :: groups =>
    if t = tag then (t,hs ++ [h]) :: groups else (t,hs) :: addToGroup h tag groups

def addToGroups (groups : List (String × List (Fin n))) (found : Fin n × Article) :
    List (String × List (Fin n)) :=
  found.2.tags.foldl (fun groups tag => addToGroup found.1 tag groups) groups

/-- The tags in the order of their first appearance, each with its articles, newest first. -/
def tags (x : Index n) (pool : Pool n) : Except NoSuchPart (List (String × List (Fin n))) :=
  (x.payloads pool "tags").map fun found => found.foldl addToGroups []

def paths (x : Index n) (pool : Pool n) : List Value :=
  x.articles.map fun h => (pool.front h).path.toValue .str

def description? (x : Index n) (pool : Pool n) : Option String :=
  (Value.list (x.paths pool)).text?.map fun paths => "ArticleIndex(" ++ paths ++ ")"

/-- The index under the handles of a pool with one more resource. -/
def grow (x : Index n) : Index (n + 1) :=
  ⟨x.entries.map fun e => ⟨e.handle.castSucc,e.path,e.date⟩⟩

end Index

end BlogPaths
