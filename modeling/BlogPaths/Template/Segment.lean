/-! Templates as lists of literal texts and fields.  A field is written as a colon and its name. -/
namespace BlogPaths

inductive Segment (φ : Type)
  | literal (text : List Char)
  | field (f : φ)
  deriving DecidableEq, Repr

namespace Segment

variable {φ ψ χ : Type}

def field? : Segment φ → Option φ
  | literal _ => none
  | field f => some f

/-- The template text of a segment, given the names of the fields. -/
def written (name : φ → List Char) : Segment φ → List Char
  | literal t => t
  | field f => ':' :: name f

def fields (segs : List (Segment φ)) : List φ := segs.filterMap field?

@[simp] theorem fields_nil : fields ([] : List (Segment φ)) = [] := rfl
@[simp] theorem fields_literal (t : List Char) (segs : List (Segment φ)) :
    fields (literal t :: segs) = fields segs := rfl
@[simp] theorem fields_field (f : φ) (segs : List (Segment φ)) :
    fields (field f :: segs) = f :: fields segs := rfl

def writtenAll (name : φ → List Char) (segs : List (Segment φ)) : List Char :=
  segs.flatMap (written name)

@[simp] theorem writtenAll_nil (name : φ → List Char) : writtenAll name [] = [] := rfl
@[simp] theorem writtenAll_cons (name : φ → List Char) (s : Segment φ) (segs : List (Segment φ)) :
    writtenAll name (s :: segs) = s.written name ++ writtenAll name segs := rfl

/-- Puts a character in front of segments, inside the literal they start with if they do. -/
def consChar (c : Char) : List (Segment φ) → List (Segment φ)
  | literal t :: segs => literal (c :: t) :: segs
  | segs => literal [c] :: segs

@[simp] theorem writtenAll_consChar (name : φ → List Char) (c : Char) (segs : List (Segment φ)) :
    writtenAll name (consChar c segs) = c :: writtenAll name segs := by
  unfold consChar
  split <;> simp [written]

@[simp] theorem fields_consChar (c : Char) (segs : List (Segment φ)) :
    fields (consChar c segs) = fields segs := by
  unfold consChar
  split <;> simp

def map (g : φ → ψ) : Segment φ → Segment ψ
  | literal t => literal t
  | field f => field (g f)

theorem map_map (g : φ → ψ) (k : ψ → χ) (s : Segment φ) : (s.map g).map k = s.map (k ∘ g) := by
  cases s <;> rfl

theorem map_eq_self {g : φ → φ} {s : Segment φ} (h : ∀ f, s.field? = some f → g f = f) :
    s.map g = s := by
  cases s with
  | literal t => rfl
  | field f => exact congrArg field (h f rfl)

theorem fields_map (g : φ → ψ) (segs : List (Segment φ)) :
    fields (segs.map (map g)) = (fields segs).map g := by
  induction segs with
  | nil => rfl
  | cons s segs ih =>
    cases s with
    | literal t => exact ih
    | field f => exact congrArg (g f :: ·) ih

end Segment

/-! Splitting a template at its fields. -/

/-- The fields a template may have: the names, and how a name is read behind a colon. -/
structure Grammar (φ : Type) where
  name : φ → List Char
  /-- The field whose name starts a text, and the text behind it. -/
  read? : List Char → Option (φ × List Char)
  read?_eq : ∀ {s f r}, read? s = some (f,r) → s = name f ++ r

namespace Grammar

variable {φ : Type} (g : Grammar φ)

theorem length_le_of_read? {s r : List Char} {f : φ} (h : g.read? s = some (f,r)) :
    r.length ≤ s.length := by
  simp [g.read?_eq h]

/-- The segments of a template.  A colon without a field's name behind it is text. -/
def tokenize : List Char → List (Segment φ)
  | [] => []
  | c :: cs =>
    if c = ':' then
      match _h : g.read? cs with
      | some (f,r) => .field f :: tokenize r
      | none => Segment.consChar c (tokenize cs)
    else Segment.consChar c (tokenize cs)
termination_by s => s.length
decreasing_by
  · have := g.length_le_of_read? _h; simp; omega
  · simp
  · simp

@[simp] theorem tokenize_nil : g.tokenize [] = [] := by simp [tokenize]

/-- Written out again, the segments give the template back. -/
theorem writtenAll_tokenize (s : List Char) : Segment.writtenAll g.name (g.tokenize s) = s := by
  fun_induction tokenize g s with
  | case1 => rfl
  | case2 cs f r h ih => simp [Segment.written,ih,g.read?_eq h]
  | case3 cs h ih => simp [ih]
  | case4 c cs h ih => simp [ih]

end Grammar

end BlogPaths
