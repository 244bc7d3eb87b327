import BlogPaths.Proofs.Turns

/-! What a pass that succeeds makes of every resource: a resource ends as its own turn leaves it, no
matter how often and from where its owner's edits were made before or behind. -/
namespace BlogPaths

open Edit

variable {n : Nat}

namespace Classifier

/-- The edits of a resource's own turn on the resource itself. -/
def ownEdits (c : Classifier) (front : Fin n → FrontMatter) (hs : List (Fin n)) (h : Fin n) :
    List Edit :=
  editsOn h (c.turn front hs h).edits

section

variable {c : Classifier} {front : Fin n → FrontMatter} {hs : List (Fin n)} {h k : Fin n}

theorem IsNested.not_isArticle {path path' ownerPath tail : String} {m : PathMatch} {a : Article}
    (hn : c.IsNested front h path ownerPath tail) : ¬ c.IsArticle front h path' m a :=
  fun ha => ha.article?_ne_none hn.path_eq hn.no_match

theorem IsNested.ne_owner {path ownerPath tail : String} {o : Fin n} {m : PathMatch} {a : Article}
    (hn : c.IsNested front h path ownerPath tail) (ha : c.IsArticle front o ownerPath m a) :
    o ≠ h := by
  rintro rfl
  exact hn.not_isArticle ha

theorem ownEdits_of_isArticle {path : String} {m : PathMatch} {a : Article}
    (ha : c.IsArticle front h path m a) (he : (c.turn front hs h).verdict.error? = none) :
    c.ownEdits front hs h = [.enroll c.controller,.describe a] ∨
      ∃ d, c.ownEdits front hs h = [.enroll c.controller,.describe a,.publish d] := by
  unfold ownEdits
  have ht := settles_turn he
  generalize c.turn front hs h = t at ht ⊢
  cases ht with
  | draft ha' _ =>
    obtain ⟨rfl,rfl,rfl⟩ := ha.unique ha'
    exact .inl (by simp)
  | @article _ _ _ permalink ha' _ _ =>
    obtain ⟨rfl,rfl,rfl⟩ := ha.unique ha'
    exact .inr ⟨outputPath permalink,by simp⟩
  | belowDraft hn _ _ _ => exact absurd ha hn.not_isArticle
  | companion hn _ _ _ _ => exact absurd ha hn.not_isArticle
  | plain hp hm _ => exact absurd hm (ha.article?_ne_none hp)

/-- The promotion of an article by another's turn shows nowhere beside the article's own turn. -/
theorem absorbs_promotion {path : String} {m : PathMatch} {a : Article}
    (ha : c.IsArticle front h path m a) (he : (c.turn front hs h).verdict.error? = none) :
    Absorbs (c.ownEdits front hs h) [.enroll c.controller,.describe a] := by
  intro s
  rcases ownEdits_of_isArticle ha he with ho | ⟨d,ho⟩
  · rw [ho]; exact ⟨rfl,rfl⟩
  · rw [ho]; exact ⟨rfl,rfl⟩

theorem absorbs_ownEdits (he : (c.turn front hs h).verdict.error? = none) :
    Absorbs (c.ownEdits front hs h) (c.ownEdits front hs h) := by
  unfold ownEdits
  have ht := settles_turn he
  generalize c.turn front hs h = t at ht ⊢
  intro s
  cases ht with
  | draft => simp [Edit.apply]
  | article => simp [Edit.apply]
  | belowDraft hn _ ha => simp [hn.ne_owner ha]
  | companion hn _ ha => simp [hn.ne_owner ha,Edit.apply]
  | plain => simp

/-- What any turn of a pass does to a resource shows nowhere beside the resource's own turn. -/
theorem absorbs_turn (hk : (c.turn front hs k).verdict.error? = none)
    (hh : (c.turn front hs h).verdict.error? = none) :
    Absorbs (c.ownEdits front hs k) (editsOn k (c.turn front hs h).edits) := by
  by_cases hkh : h = k
  · subst hkh
    exact absorbs_ownEdits hh
  · have ht := settles_turn hh
    generalize c.turn front hs h = t at ht ⊢
    cases ht with
    | draft => simpa [hkh] using absorbs_nil _
    | article => simpa [hkh] using absorbs_nil _
    | @belowDraft _ _ _ o _ _ _ _ ha _ =>
      by_cases hok : o = k
      · subst hok
        simpa using absorbs_promotion ha hk
      · simpa [hok] using absorbs_nil _
    | @companion _ _ _ o _ _ _ _ _ ha _ _ =>
      by_cases hok : o = k
      · subst hok
        simpa [hkh] using absorbs_promotion ha hk
      · simpa [hok,hkh] using absorbs_nil _
    | plain => simpa using absorbs_nil _

theorem editsOn_eq_nil (hh : (c.turn front hs h).verdict.error? = none) (hm : h ∈ hs) (hk : k ∉ hs) :
    editsOn k (c.turn front hs h).edits = [] := by
  have hkh : h ≠ k := fun he => hk (he ▸ hm)
  have ht := settles_turn hh
  generalize c.turn front hs h = t at ht ⊢
  cases ht with
  | draft => simp [hkh]
  | article => simp [hkh]
  | belowDraft _ ho _ _ =>
    have hok := ne_of_mem_of_not_mem (mem_of_ownerAt? ho).1 hk
    simp [hok]
  | companion _ ho _ _ _ =>
    have hok := ne_of_mem_of_not_mem (mem_of_ownerAt? ho).1 hk
    simp [hok,hkh]
  | plain => simp

end

def Succeeds (c : Classifier) (front : Fin n → FrontMatter) (hs : List (Fin n)) : Prop :=
  ∀ h ∈ hs, (c.turn front hs h).verdict.error? = none

/-- Whether the dates of the articles among the resources `hs` can be compared. -/
def Sorts (c : Classifier) (front : Fin n → FrontMatter) (hs : List (Fin n)) : Prop :=
  (outcome (c.turns front hs)).index.isSortable = true

end Classifier

namespace Turn

theorem failure?_eq_none {ts : List (Turn n)} :
    failure? ts = none ↔ ∀ t ∈ ts, t.verdict.error? = none := by
  simp [failure?,List.findSome?_eq_none_iff]

theorem performed_eq_self {ts : List (Turn n)} (h : ∀ t ∈ ts, t.verdict.error? = none) :
    performed ts = ts := by
  induction ts with
  | nil => rfl
  | cons t ts ih =>
    have ht := h t List.mem_cons_self
    simp [performed,ht,ih fun t' ht' => h t' (List.mem_cons_of_mem _ ht')]

end Turn

namespace Classifier

variable {c : Classifier} {pool : Pool n} {hs : List (Fin n)}

theorem isProper_of_error? {front : Fin n → FrontMatter} {h : Fin n}
    (he : (c.turn front hs h).verdict.error? = none) : (front h).path.IsProper := by
  cases hp : (front h).path with
  | proper path => trivial
  | stray v => simp [turn,hp,Verdict.error?] at he

theorem failure?_turns {front : Fin n → FrontMatter} :
    Turn.failure? (c.turns front hs) = none ↔ c.Succeeds front hs := by
  simp [Turn.failure?_eq_none,turns,Succeeds]

theorem classified_of_failure? {front : Fin n → FrontMatter} {e : PassError}
    (h : Turn.failure? (c.turns front hs) = some e) :
    classified (c.turns front hs) = .error e := by
  simp [classified,h]

theorem classified_of_sorts {front : Fin n → FrontMatter} (h : c.Succeeds front hs)
    (hsort : c.Sorts front hs) :
    classified (c.turns front hs) = .ok (outcome (c.turns front hs)) := by
  rw [Sorts] at hsort
  simp [classified,failure?_turns.mpr h,hsort]

theorem classified_of_not_sorts {front : Fin n → FrontMatter} (h : c.Succeeds front hs)
    (hsort : ¬ c.Sorts front hs) : classified (c.turns front hs) = .error .datesApart := by
  rw [Sorts] at hsort
  simp [classified,failure?_turns.mpr h,hsort]

/-- A pass succeeds if and only if no turn fails and the dates can be compared, and its outcome is then
that of its turns. -/
theorem pass_eq_ok_iff {found : Classified n} :
    (c.pass pool hs).result = .ok found ↔ c.Succeeds pool.front hs ∧ c.Sorts pool.front hs ∧
      found = outcome (c.turns pool.front hs) := by
  constructor
  · intro h
    unfold pass at h
    split at h
    · cases h
    · rw [runTurns] at h
      cases hf : Turn.failure? (c.turns pool.front hs) with
      | some e =>
        rw [classified_of_failure? hf] at h
        cases h
      | none =>
        have hs' := failure?_turns.mp hf
        by_cases hsort : c.Sorts pool.front hs
        · rw [classified_of_sorts hs' hsort] at h
          exact ⟨hs',hsort,(Except.ok.inj h).symm⟩
        · rw [classified_of_not_sorts hs' hsort] at h
          cases h
  · rintro ⟨hs',hsort,rfl⟩
    have hp : ∀ h ∈ hs, (pool.front h).path.IsProper := fun h hh => isProper_of_error? (hs' h hh)
    rw [pass_eq_runTurns c hp]
    exact classified_of_sorts hs' hsort

theorem pool_pass (h : c.Succeeds pool.front hs) :
    (c.pass pool hs).pool = pool.editAll ((c.turns pool.front hs).flatMap (·.edits)) := by
  have hp : ∀ k ∈ hs, (pool.front k).path.IsProper := fun k hk => isProper_of_error? (h k hk)
  have ht := Turn.performed_eq_self (Turn.failure?_eq_none.mp (failure?_turns.mpr h))
  rw [pass_eq_runTurns c hp]
  simp [runTurns,ht]

/-- A resource of the pass ends as its own turn leaves it. -/
theorem standing_pass (h : c.Succeeds pool.front hs) {k : Fin n} (hk : k ∈ hs) :
    (c.pass pool hs).pool.standing k =
      applyAll (pool.standing k) (c.ownEdits pool.front hs k) := by
  rw [pool_pass h,Pool.standing_editAll,turns,List.flatMap_map,editsOn_flatMap]
  apply applyAll_flatten_of_absorbs
  · intro b hb
    obtain ⟨t,ht,rfl⟩ := List.mem_map.mp hb
    exact absorbs_turn (h k hk) (h t ht)
  · exact List.mem_map.mpr ⟨k,hk,rfl⟩

theorem standing_pass_of_notMem (h : c.Succeeds pool.front hs) {k : Fin n} (hk : k ∉ hs) :
    (c.pass pool hs).pool.standing k = pool.standing k := by
  rw [pool_pass h,Pool.standing_editAll,turns,List.flatMap_map,editsOn_flatMap]
  have hnil : (hs.map fun t => editsOn k (c.turn pool.front hs t).edits).flatten = [] := by
    rw [List.flatten_eq_nil_iff]
    intro b hb
    obtain ⟨t,ht,rfl⟩ := List.mem_map.mp hb
    exact editsOn_eq_nil (h t ht) ht hk
  rw [hnil,applyAll_nil]

def keptOf (c : Classifier) (front : Fin n → FrontMatter) (hs : List (Fin n)) : List (Fin n) :=
  hs.filter fun k => (c.turn front hs k).verdict.isKept

theorem kept_outcome_turns {front : Fin n → FrontMatter} (h : c.Succeeds front hs) :
    (outcome (c.turns front hs)).kept = c.keptOf front hs := by
  have hid : ∀ k ∈ hs.filter (fun k => (c.turn front hs k).verdict.isKept),
      (c.turn front hs k).handle = k := fun k hk =>
    (settles_turn (h k (List.mem_filter.mp hk).1)).handle_eq
  calc (outcome (c.turns front hs)).kept
      = (hs.filter fun k => (c.turn front hs k).verdict.isKept).map
          fun k => (c.turn front hs k).handle := by
        simp [outcome,turns,List.filter_map,Function.comp_def]
    _ = c.keptOf front hs := by rw [List.map_congr_left hid,List.map_id',keptOf]

theorem entries_outcome_turns {front : Fin n → FrontMatter} :
    (outcome (c.turns front hs)).index.entries =
      hs.filterMap fun k => (c.turn front hs k).verdict.entry? := by
  rw [outcome,turns,List.filterMap_map]
  rfl

/-- The entries of the index are those of the articles that are seen. -/
theorem mem_entries_iff {front : Fin n → FrontMatter} (h : c.Succeeds front hs)
    {e : IndexEntry n} : e ∈ (outcome (c.turns front hs)).index.entries ↔
      ∃ k ∈ hs, ∃ path m a, c.IsArticle front k path m a ∧ c.isVisible (front k) = true ∧
        e = ⟨k,some path,a.date⟩ := by
  rw [entries_outcome_turns,List.mem_filterMap]
  constructor
  · rintro ⟨k,hk,he⟩
    have ht := settles_turn (h k hk)
    generalize c.turn front hs k = t at ht he
    cases ht with
    | article ha hv hr =>
      cases he
      exact ⟨k,hk,_,_,_,ha,hv,rfl⟩
    | draft | belowDraft | companion | plain => cases he
  · rintro ⟨k,hk,path,m,a,ha,hv,rfl⟩
    refine ⟨k,hk,?_⟩
    have ht := settles_turn (h k hk)
    generalize c.turn front hs k = t at ht
    cases ht with
    | draft _ hv' => simp [hv] at hv'
    | article ha' =>
      obtain ⟨rfl,rfl,rfl⟩ := ha.unique ha'
      rfl
    | belowDraft hn => exact absurd ha hn.not_isArticle
    | companion hn => exact absurd ha hn.not_isArticle
    | plain hp hm => exact absurd hm (ha.article?_ne_none hp)

end Classifier

end BlogPaths
