import BlogPaths.Assigned
import BlogPaths.Calendar.Timestamp
import BlogPaths.Source.Pattern

/-! Resources of a site.  A resource consists of what the host has loaded, which no pass of a blog
changes, and of the standing that passes have given it, the payload of an article included. -/
namespace BlogPaths

/-- What is known of an article: the fields its permalink is made from, and the texts captured from
its path. -/
structure Article where
  lang : Option String := none
  date : Calendar.Timestamp
  slug : String
  tags : List String := []
  data : Metadata := []
  captures : Captures := []
  deriving Repr

inductive Kind
  | plain | article | companion
  deriving DecidableEq, Repr

namespace Kind

def name : Kind → String
  | plain => "plain"
  | article => "article"
  | companion => "companion"

def ofName? : String → Option Kind
  | "plain" => some plain
  | "article" => some article
  | "companion" => some companion
  | _ => none

@[simp] theorem ofName?_name (k : Kind) : ofName? k.name = some k := by cases k <;> rfl

end Kind

/-- A source path and the front matter found there. -/
structure FrontMatter where
  path : Assigned String
  date : Option Calendar.Timestamp := none
  lang : Assigned (Option String) := .proper none
  slug : Assigned (Option String) := .proper none
  tags : Assigned (List String) := .proper []
  published : Assigned Bool := .proper true
  data : Assigned Metadata := .proper []
  deriving Repr

namespace FrontMatter

def isPublished (f : FrontMatter) : Bool :=
  match f.published with
  | .proper b => b
  | .stray v => v.isGiven

def IsProper (f : FrontMatter) : Prop :=
  f.path.IsProper ∧ f.lang.IsProper ∧ f.slug.IsProper ∧ f.tags.IsProper ∧ f.published.IsProper ∧
    f.data.IsProper

end FrontMatter

/-- What classification has made of a resource.  An article has a payload, a companion the path of its
owning article, and both have the controller of the blog that has claimed them. -/
structure Standing where
  kind : Assigned Kind := .proper .plain
  article : Assigned (Option Article) := .proper none
  destinationPath : Assigned (Option String) := .proper none
  ownerPath : Assigned (Option String) := .proper none
  controller : Value := .null
  deriving Repr

namespace Standing

/-- The article payload, of which a query wants the named part. -/
def payload (s : Standing) (part : String) : Except NoSuchPart Article :=
  match s.article with
  | .proper (some a) => .ok a
  | .proper none => .error (.ofValue .null part)
  | .stray v => .error (.ofValue v part)

end Standing

structure Resource extends FrontMatter, Standing
  deriving Repr

namespace Resource

def isArticle (r : Resource) : Bool := r.kind.proper? == some .article

def description? (r : Resource) : Option String := do
  let path ← (r.path.toValue .str).nested?
  let kind ← (r.kind.toValue fun k => .str k.name).nested?
  return "Resource(" ++ path ++ ", kind=" ++ kind ++ ")"

end Resource

/-! The resources of a site.  Blogs share them, so a pool is addressed by handles, and what one blog
does to a resource every blog sees. -/

/-- The resources that a site has, by their handles. -/
abbrev Pool (n : Nat) := Vector Resource n

namespace Pool

variable {n : Nat}

/-- What the host has loaded, of which a pass changes nothing. -/
def front (pool : Pool n) (h : Fin n) : FrontMatter := pool[h].toFrontMatter

def standing (pool : Pool n) (h : Fin n) : Standing := pool[h].toStanding

def setStanding (pool : Pool n) (h : Fin n) (s : Standing) : Pool n :=
  pool.set h { pool[h] with toStanding := s }

@[simp] theorem front_setStanding (pool : Pool n) (h : Fin n) (s : Standing) :
    (pool.setStanding h s).front = pool.front := by
  funext k
  by_cases hk : h = k
  · subst hk; simp [front,setStanding]
  · have : (h : Nat) ≠ k := fun e => hk (Fin.ext e)
    simp [front,setStanding,Vector.getElem_set_ne _ _ this]

theorem standing_setStanding (pool : Pool n) (h k : Fin n) (s : Standing) :
    (pool.setStanding h s).standing k = if h = k then s else pool.standing k := by
  by_cases hk : h = k
  · subst hk; simp [standing,setStanding]
  · have : (h : Nat) ≠ k := fun e => hk (Fin.ext e)
    simp [standing,setStanding,hk,Vector.getElem_set_ne _ _ this]

theorem ext_iff {p q : Pool n} : p = q ↔ p.front = q.front ∧ p.standing = q.standing := by
  constructor
  · rintro rfl; exact ⟨rfl,rfl⟩
  · rintro ⟨hf,hs⟩
    apply Vector.ext
    intro i hi
    have h₁ := congrFun hf ⟨i,hi⟩
    have h₂ := congrFun hs ⟨i,hi⟩
    simp only [front,standing] at h₁ h₂
    exact Resource.casesOn (motive := fun r => ∀ r' : Resource, r.toFrontMatter = r'.toFrontMatter →
      r.toStanding = r'.toStanding → r = r') p[i] (by rintro f s ⟨f',s'⟩ rfl rfl; rfl) q[i] h₁ h₂

end Pool

end BlogPaths
