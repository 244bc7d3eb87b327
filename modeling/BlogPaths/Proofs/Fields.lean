import BlogPaths.Classifier.Pass

/-! What lists of edits do to the standing of one resource.  A turn that does not fail edits its own
resource and possibly the owner of it; of all the turns of a pass, a resource's own turn says how the
resource ends. -/
namespace BlogPaths

variable {n : Nat}

namespace Edit

def applyAll (s : Standing) (es : List Edit) : Standing := es.foldl apply s

@[simp] theorem applyAll_nil (s : Standing) : applyAll s [] = s := rfl
@[simp] theorem applyAll_cons (s : Standing) (e : Edit) (es : List Edit) :
    applyAll s (e :: es) = applyAll (e.apply s) es := rfl
@[simp] theorem applyAll_append (s : Standing) (es fs : List Edit) :
    applyAll s (es ++ fs) = applyAll (applyAll s es) fs := by
  simp [applyAll]

def editsOn (k : Fin n) (es : List (Fin n × Edit)) : List Edit :=
  es.filterMap fun e => if e.1 = k then some e.2 else none

@[simp] theorem editsOn_nil (k : Fin n) : editsOn k [] = [] := rfl
@[simp] theorem editsOn_cons (k h : Fin n) (e : Edit) (es : List (Fin n × Edit)) :
    editsOn k ((h,e) :: es) = if h = k then e :: editsOn k es else editsOn k es := by
  by_cases hk : h = k <;> simp [editsOn,hk]
@[simp] theorem editsOn_append (k : Fin n) (es fs : List (Fin n × Edit)) :
    editsOn k (es ++ fs) = editsOn k es ++ editsOn k fs := by
  simp [editsOn]

theorem editsOn_flatMap (k : Fin n) {α : Type} (f : α → List (Fin n × Edit)) (xs : List α) :
    editsOn k (xs.flatMap f) = (xs.map fun x => editsOn k (f x)).flatten := by
  induction xs with
  | nil => rfl
  | cons x xs ih => simp [ih]

/-- Edits of which `own` undoes and misses nothing: neither those before it nor those behind it are
seen in the standing that `own` leaves. -/
def Absorbs (own other : List Edit) : Prop :=
  ∀ s, applyAll (applyAll s other) own = applyAll s own ∧
    applyAll (applyAll s own) other = applyAll s own

theorem absorbs_nil (own : List Edit) : Absorbs own [] := fun _ => ⟨rfl,rfl⟩

theorem applyAll_flatten_behind {own : List Edit} {blocks : List (List Edit)}
    (h : ∀ b ∈ blocks, Absorbs own b) (s : Standing) :
    applyAll (applyAll s own) blocks.flatten = applyAll s own := by
  induction blocks with
  | nil => rfl
  | cons b bs ih =>
    rw [List.flatten_cons,applyAll_append,(h b List.mem_cons_self s).2]
    exact ih fun b' hb => h b' (List.mem_cons_of_mem _ hb)

/-- A list of blocks that `own` absorbs, itself among them, amounts to `own`. -/
theorem applyAll_flatten_of_absorbs {own : List Edit} {blocks : List (List Edit)}
    (h : ∀ b ∈ blocks, Absorbs own b) (hm : own ∈ blocks) (s : Standing) :
    applyAll s blocks.flatten = applyAll s own := by
  induction blocks generalizing s with
  | nil => simp at hm
  | cons b bs ih =>
    have hbs : ∀ b' ∈ bs, Absorbs own b' := fun b' hb => h b' (List.mem_cons_of_mem _ hb)
    rw [List.flatten_cons,applyAll_append]
    by_cases hin : own ∈ bs
    · rw [ih hbs hin]
      exact (h b List.mem_cons_self s).1
    · have hb : own = b := (List.mem_cons.mp hm).resolve_right hin
      rw [← hb]
      exact applyAll_flatten_behind hbs s

end Edit

namespace Pool

open Edit

theorem standing_edit (pool : Pool n) (h k : Fin n) (e : Edit) :
    (pool.edit (h,e)).standing k = if h = k then e.apply (pool.standing k) else pool.standing k := by
  by_cases hk : h = k
  · subst hk; simp [edit,standing_setStanding]
  · simp [edit,standing_setStanding,hk]

theorem standing_editAll (pool : Pool n) (es : List (Fin n × Edit)) (k : Fin n) :
    (pool.editAll es).standing k = applyAll (pool.standing k) (editsOn k es) := by
  induction es generalizing pool with
  | nil => rfl
  | cons e es ih =>
    obtain ⟨h,e⟩ := e
    have := ih (pool.edit (h,e))
    rw [standing_edit] at this
    by_cases hk : h = k
    · simpa [editAll,hk] using this
    · simpa [editAll,hk] using this

end Pool

/-! The fields of a standing.  Every edit either writes a field or leaves it as it is, so that the
last edit that writes a field says what it holds. -/

open Edit

/-- A field of a standing, and what an edit writes to it. -/
structure StandingField (β : Type) where
  get : Standing → β
  written? : Edit → Option β
  get_apply : ∀ s e, get (e.apply s) = (written? e).getD (get s)

namespace StandingField

def kind : StandingField (Assigned Kind) where
  get := Standing.kind
  written?
    | .enroll _ => some (.proper .article)
    | .attach _ _ => some (.proper .companion)
    | _ => none
  get_apply s e := by cases e <;> rfl

def article : StandingField (Assigned (Option Article)) where
  get := Standing.article
  written?
    | .describe a => some (.proper (some a))
    | _ => none
  get_apply s e := by cases e <;> rfl

def destinationPath : StandingField (Assigned (Option String)) where
  get := Standing.destinationPath
  written?
    | .publish destination => some (.proper (some destination))
    | _ => none
  get_apply s e := by cases e <;> rfl

def ownerPath : StandingField (Assigned (Option String)) where
  get := Standing.ownerPath
  written?
    | .attach path _ => some (.proper (some path))
    | _ => none
  get_apply s e := by cases e <;> rfl

def controller : StandingField Value where
  get := Standing.controller
  written?
    | .enroll v => some v
    | .attach _ v => some v
    | _ => none
  get_apply s e := by cases e <;> rfl

theorem isSome_written?_article {e : Edit} :
    (article.written? e).isSome ↔ ∃ a, e = .describe a := by
  cases e <;> simp [article]

theorem isSome_written?_ownerPath {e : Edit} :
    (ownerPath.written? e).isSome ↔ ∃ path v, e = .attach path v := by
  cases e <;> simp [ownerPath]

/-- No edit empties a field that another may fill. -/
theorem eq_some_of_written?_article {e : Edit} {b : Assigned (Option Article)}
    (h : article.written? e = some b) : ∃ a, b = .proper (some a) := by
  cases e with
  | describe a => exact ⟨a,(Option.some.inj h).symm⟩
  | _ => cases h

theorem eq_some_of_written?_ownerPath {e : Edit} {b : Assigned (Option String)}
    (h : ownerPath.written? e = some b) : ∃ path, b = .proper (some path) := by
  cases e with
  | attach path v => exact ⟨path,(Option.some.inj h).symm⟩
  | _ => cases h

variable {β : Type}

def last? (f : StandingField β) (es : List Edit) : Option β := (es.filterMap f.written?).getLast?

theorem last?_cons (f : StandingField β) (e : Edit) (es : List Edit) :
    f.last? (e :: es) = (f.last? es).or (f.written? e) := by
  unfold last?
  cases h : f.written? e with
  | none => simp [h]
  | some b =>
    rw [List.filterMap_cons_some h,List.getLast?_cons]
    cases (es.filterMap f.written?).getLast? <;> rfl

/-- A field holds what was written to it last. -/
theorem get_applyAll (f : StandingField β) (s : Standing) (es : List Edit) :
    f.get (applyAll s es) = (f.last? es).getD (f.get s) := by
  induction es generalizing s with
  | nil => rfl
  | cons e es ih =>
    rw [applyAll_cons,ih,f.get_apply,last?_cons]
    cases f.last? es <;> rfl

theorem last?_eq_none_iff {f : StandingField β} {es : List Edit} :
    f.last? es = none ↔ ∀ e ∈ es, f.written? e = none := by
  simp [last?]

theorem mem_of_last? {f : StandingField β} {es : List Edit} {b : β} (h : f.last? es = some b) :
    ∃ e ∈ es, f.written? e = some b :=
  List.mem_filterMap.mp (List.mem_of_getLast? h)

theorem get_applyAll_of_unwritten {f : StandingField β} {s : Standing} {es : List Edit}
    (h : ∀ e ∈ es, f.written? e = none) : f.get (applyAll s es) = f.get s := by
  rw [get_applyAll,last?_eq_none_iff.mpr h]
  rfl

theorem get_applyAll_congr {f : StandingField β} {e : Edit} {es : List Edit} (he : e ∈ es)
    (hw : (f.written? e).isSome) (s s' : Standing) :
    f.get (applyAll s es) = f.get (applyAll s' es) := by
  cases hl : f.last? es with
  | none => simp [last?_eq_none_iff.mp hl e he] at hw
  | some b => rw [get_applyAll,get_applyAll,hl]; rfl

theorem exists_get_applyAll_iff {γ : Type} {f : StandingField (Assigned (Option γ))}
    (hf : ∀ {e b}, f.written? e = some b → ∃ c, b = .proper (some c)) {s : Standing}
    (hs : f.get s = .proper none) {es : List Edit} :
    (∃ c, f.get (applyAll s es) = .proper (some c)) ↔ ∃ e ∈ es, (f.written? e).isSome := by
  rw [get_applyAll,hs]
  cases hl : f.last? es with
  | none =>
    have hnone := last?_eq_none_iff.mp hl
    constructor
    · rintro ⟨c,hc⟩
      cases hc
    · rintro ⟨e,he,hw⟩
      simp [hnone e he] at hw
  | some b =>
    obtain ⟨e,he,hw⟩ := mem_of_last? hl
    exact ⟨fun _ => ⟨e,he,by simp [hw]⟩,fun _ => hf hw⟩

end StandingField

end BlogPaths
