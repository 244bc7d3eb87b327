import BlogPaths.Classifier.Turn

/-! A pass over resources: the turns in order, up to the first that fails.  What the turns before a
failure and the failing turn itself have edited stays edited; the index is built only if no turn
fails and the dates of the articles can be compared. -/
namespace BlogPaths

namespace Turn

variable {n : Nat}

/-- The turns up to the first that fails. -/
def performed : List (Turn n) → List (Turn n)
  | [] => []
  | t :: ts => if t.verdict.error?.isSome then [t] else t :: performed ts

def failure? (ts : List (Turn n)) : Option PassError := ts.findSome? (·.verdict.error?)

end Turn

namespace Pool

variable {n : Nat}

def edit (pool : Pool n) (e : Fin n × Edit) : Pool n :=
  pool.setStanding e.1 (e.2.apply (pool.standing e.1))

def editAll (pool : Pool n) (es : List (Fin n × Edit)) : Pool n := es.foldl edit pool

@[simp] theorem front_edit (pool : Pool n) (e : Fin n × Edit) :
    (pool.edit e).front = pool.front := by
  simp [edit]

@[simp] theorem front_editAll (pool : Pool n) (es : List (Fin n × Edit)) :
    (pool.editAll es).front = pool.front := by
  induction es generalizing pool with
  | nil => rfl
  | cons e es ih => simpa [editAll] using ih (pool.edit e)

end Pool

/-- What a pass returns that succeeds: the resources to build, in their order, and the index. -/
structure Classified (n : Nat) where
  kept : List (Fin n)
  index : Index n

structure Pass (n : Nat) where
  pool : Pool n
  log : List LogEvent
  result : Except PassError (Classified n)

namespace Classifier

variable {n : Nat}

def turns (c : Classifier) (front : Fin n → FrontMatter) (hs : List (Fin n)) : List (Turn n) :=
  hs.map (c.turn front hs)

/-- What the turns amount to if none of them fails. -/
def outcome (ts : List (Turn n)) : Classified n where
  kept := (ts.filter (·.verdict.isKept)).map (·.handle)
  index := ⟨ts.filterMap (·.verdict.entry?)⟩

def classified (ts : List (Turn n)) : Except PassError (Classified n) :=
  match Turn.failure? ts with
  | some e => .error e
  | none => if (outcome ts).index.isSortable then .ok (outcome ts) else .error .datesApart

/-- The type of the first path among those of `hs` by which no resource can be found. -/
def unfindable? (front : Fin n → FrontMatter) (hs : List (Fin n)) : Option String :=
  hs.findSome? fun h =>
    match (front h).path with
    | .proper _ => none
    | .stray v => if v.isContainer then some v.typeName else none

def runTurns (c : Classifier) (pool : Pool n) (hs : List (Fin n)) : Pass n :=
  let ts := c.turns pool.front hs
  let done := Turn.performed ts
  { pool := pool.editAll (done.flatMap (·.edits))
    log := done.flatMap (·.log) ++
      match classified ts with
      | .error _ => []
      | .ok found => [.classified hs.length found.index.size (ts.countP (·.verdict.isDropped))]
    result := classified ts }

/-- Runs a pass over the resources `hs` of a pool, unless it finds before the first turn that they
cannot be told by their paths. -/
def pass (c : Classifier) (pool : Pool n) (hs : List (Fin n)) : Pass n :=
  match unfindable? pool.front hs with
  | some typeName => { pool, log := [], result := .error (.unfindablePath typeName) }
  | none => c.runTurns pool hs

theorem unfindable?_eq_none {front : Fin n → FrontMatter} {hs : List (Fin n)}
    (h : ∀ k ∈ hs, (front k).path.IsProper) : unfindable? front hs = none := by
  simp only [unfindable?,List.findSome?_eq_none_iff]
  intro k hk
  have := h k hk
  cases hp : (front k).path with
  | proper p => rfl
  | stray v => simp [hp,Assigned.IsProper] at this

theorem pass_eq_runTurns (c : Classifier) {pool : Pool n} {hs : List (Fin n)}
    (h : ∀ k ∈ hs, (pool.front k).path.IsProper) : c.pass pool hs = c.runTurns pool hs := by
  simp [pass,unfindable?_eq_none h]

@[simp] theorem front_pass (c : Classifier) (pool : Pool n) (hs : List (Fin n)) :
    (c.pass pool hs).pool.front = pool.front := by
  unfold pass
  split <;> simp [runTurns]

end Classifier

end BlogPaths
