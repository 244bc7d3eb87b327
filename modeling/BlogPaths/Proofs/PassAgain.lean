import BlogPaths.Proofs.PassOrder

/-! A second pass changes nothing, over the same resources or over those that the first has kept.
Drafts and their companions fall away together: whoever is kept finds his owner among the kept, and
the last resource of a path stays the last one. -/
namespace BlogPaths

open Edit

variable {n : Nat}

namespace Classifier

section

variable {c : Classifier} {front : Fin n → FrontMatter} {hs : List (Fin n)}

/-- An owner that is left in a list is still the last one with its path. -/
theorem ownerAt?_filter {q : Fin n → Bool} {path : String} {o : Fin n}
    (ho : ownerAt? front hs path = some o) (hq : q o = true) :
    ownerAt? front (hs.filter q) path = some o := by
  unfold ownerAt? at ho ⊢
  obtain ⟨hp,before,behind,hs',hb⟩ := List.find?_eq_some_iff_append.mp ho
  rw [← List.filter_reverse,List.find?_filter,List.find?_eq_some_iff_append]
  refine ⟨by simp [hq,hp],before,behind,hs',fun a ha => ?_⟩
  have := hb a ha
  simp only [Bool.not_eq_true'] at this
  simp [this]

theorem isKept_of_isVisible {path : String} {m : PathMatch} {a : Article} {o : Fin n}
    (ha : c.IsArticle front o path m a) (he : (c.turn front hs o).verdict.error? = none)
    (hv : c.isVisible (front o) = true) : (c.turn front hs o).verdict.isKept = true := by
  have ht := settles_turn he
  generalize c.turn front hs o = t at ht ⊢
  cases ht with
  | draft _ hv' => simp [hv] at hv'
  | article => rfl
  | belowDraft hn => exact absurd ha hn.not_isArticle
  | companion => rfl
  | plain => rfl

theorem ownerAt?_keptOf (h : c.Succeeds front hs) {path : String} {m : PathMatch} {a : Article}
    {o : Fin n} (ho : ownerAt? front hs path = some o) (ha : c.IsArticle front o path m a)
    (hv : c.isVisible (front o) = true) : ownerAt? front (c.keptOf front hs) path = some o :=
  ownerAt?_filter ho (isKept_of_isVisible ha (h o (mem_of_ownerAt? ho).1) hv)

/-- A kept resource has the same turn among the kept. -/
theorem turn_keptOf (h : c.Succeeds front hs) {k : Fin n} (hk : k ∈ c.keptOf front hs) :
    c.turn front (c.keptOf front hs) k = c.turn front hs k := by
  obtain ⟨hk,hkept⟩ := List.mem_filter.mp hk
  have ht := settles_turn (h k hk)
  generalize c.turn front hs k = t at ht hkept ⊢
  cases ht with
  | draft => simp [Verdict.isKept] at hkept
  | article ha hv hr => exact (Settles.article ha hv hr).turn_eq
  | belowDraft => simp [Verdict.isKept] at hkept
  | companion hn ho ha hv hr =>
    exact (Settles.companion hn (ownerAt?_keptOf h ho ha hv) ha hv hr).turn_eq
  | plain hp hm hn => exact (Settles.plain hp hm hn).turn_eq

theorem succeeds_keptOf (h : c.Succeeds front hs) : c.Succeeds front (c.keptOf front hs) := by
  intro k hk
  rw [turn_keptOf h hk]
  exact h k (List.mem_filter.mp hk).1

theorem exists_owner_keptOf (h : c.Succeeds front hs) {k : Fin n} (hk : k ∈ c.keptOf front hs)
    {path ownerPath tail : String} (hn : c.IsNested front k path ownerPath tail) :
    ∃ o ∈ c.keptOf front hs, ownerAt? front hs ownerPath = some o ∧
      ownerAt? front (c.keptOf front hs) ownerPath = some o := by
  obtain ⟨hk,hkept⟩ := List.mem_filter.mp hk
  have ht := settles_turn (h k hk)
  generalize c.turn front hs k = t at ht hkept
  cases ht with
  | draft ha _ => exact absurd ha hn.not_isArticle
  | article ha _ _ => exact absurd ha hn.not_isArticle
  | belowDraft => simp [Verdict.isKept] at hkept
  | @companion _ _ _ o _ _ _ hn' ho ha hv _ =>
    obtain ⟨-,rfl,-⟩ := hn.unique hn'
    have ho' := ownerAt?_keptOf h ho ha hv
    exact ⟨o,(mem_of_ownerAt? ho').1,ho,ho'⟩
  | plain hp _ hnone => exact absurd hnone (hn.nested?_ne_none hp)

theorem isKept_of_entry {v : Verdict n} {e : IndexEntry n} (h : v.entry? = some e) :
    v.isKept = true := by
  cases v with
  | kept => rfl
  | dropped => simp [Verdict.entry?] at h
  | failed => simp [Verdict.entry?] at h

theorem outcome_keptOf (h : c.Succeeds front hs) :
    outcome (c.turns front (c.keptOf front hs)) = outcome (c.turns front hs) := by
  have hturn : ∀ k ∈ c.keptOf front hs,
      (c.turn front (c.keptOf front hs) k).verdict = (c.turn front hs k).verdict := by
    intro k hk
    rw [turn_keptOf h hk]
  have hkept : (outcome (c.turns front (c.keptOf front hs))).kept =
      (outcome (c.turns front hs)).kept := by
    rw [kept_outcome_turns h,kept_outcome_turns (succeeds_keptOf h)]
    apply List.filter_eq_self.mpr
    intro k hk
    rw [hturn k hk]
    exact (List.mem_filter.mp hk).2
  have hentries : (outcome (c.turns front (c.keptOf front hs))).index.entries =
      (outcome (c.turns front hs)).index.entries := by
    rw [entries_outcome_turns,entries_outcome_turns,List.filterMap_congr (fun k hk => by
      rw [hturn k hk]),keptOf,List.filterMap_filter]
    congr 1
    funext k
    split
    · rfl
    · rename_i hnot
      cases he : (c.turn front hs k).verdict.entry? with
      | none => rfl
      | some e => exact absurd (isKept_of_entry he) hnot
  simp only [outcome] at hkept hentries ⊢
  rw [hkept,hentries]

end

variable {c : Classifier} {pool : Pool n} {xs : List (Fin n)}

/-- Where a turn has been made before, making it again changes nothing. -/
theorem pool_pass_again (h : c.Succeeds pool.front xs) {ys : List (Fin n)} (hsub : ys ⊆ xs)
    (hy : c.Succeeds pool.front ys)
    (hturn : ∀ k ∈ ys, c.turn pool.front ys k = c.turn pool.front xs k) :
    (c.pass (c.pass pool xs).pool ys).pool = (c.pass pool xs).pool := by
  have hy' : c.Succeeds (c.pass pool xs).pool.front ys := by rwa [front_pass]
  rw [Pool.ext_iff]
  refine ⟨by simp,?_⟩
  funext k
  by_cases hk : k ∈ ys
  · have hown : c.ownEdits pool.front ys k = c.ownEdits pool.front xs k := by
      rw [ownEdits,ownEdits,hturn k hk]
    rw [standing_pass hy' hk,front_pass,hown,standing_pass h (hsub hk)]
    exact (absorbs_ownEdits (h k (hsub hk)) _).1
  · exact standing_pass_of_notMem hy' hk

/-- After a pass that succeeds, a pass over the same resources or over the kept ones keeps and
indexes the same in the same order and leaves every resource as it is.  A kept companion has its
owner among the kept, and it is the one that it has among all. -/
theorem pass_again {found : Classified n} (h : (c.pass pool xs).result = .ok found) :
    (∀ again, again = xs ∨ again = found.kept →
      (c.pass (c.pass pool xs).pool again).result = .ok found ∧
      (c.pass (c.pass pool xs).pool again).pool = (c.pass pool xs).pool) ∧
    ∀ k ∈ found.kept, ∀ path ownerPath tail, c.IsNested pool.front k path ownerPath tail →
      ∃ o ∈ found.kept, ownerAt? pool.front xs ownerPath = some o ∧
        ownerAt? pool.front found.kept ownerPath = some o := by
  obtain ⟨hs,hsort,rfl⟩ := pass_eq_ok_iff.mp h
  rw [kept_outcome_turns hs]
  refine ⟨?_,fun k hk path ownerPath tail hn => exists_owner_keptOf hs hk hn⟩
  rintro again (rfl | rfl)
  · exact ⟨pass_eq_ok_iff.mpr (by simpa using ⟨hs,hsort⟩),
      pool_pass_again hs (List.Subset.refl _) hs fun _ _ => rfl⟩
  · have hk := succeeds_keptOf hs
    refine ⟨pass_eq_ok_iff.mpr ?_,
      pool_pass_again hs List.filter_sublist.subset hk fun k hk => turn_keptOf hs hk⟩
    rw [front_pass]
    exact ⟨hk,by rwa [Sorts,outcome_keptOf hs],(outcome_keptOf hs).symm⟩

theorem pass_again_sample :
    ∃ found, (Sample.classifier.pass Sample.pool [0,1,2,3,4,1]).result = .ok found ∧
      found.kept = [0,1,3,4,1] ∧
      (Sample.classifier.pass (Sample.classifier.pass Sample.pool [0,1,2,3,4,1]).pool
        found.kept).result = .ok found ∧
      (Sample.classifier.pass (Sample.classifier.pass Sample.pool [0,1,2,3,4,1]).pool
        found.kept).pool = (Sample.classifier.pass Sample.pool [0,1,2,3,4,1]).pool := by
  obtain ⟨found,hf⟩ :
      ∃ found, (Sample.classifier.pass Sample.pool [0,1,2,3,4,1]).result = .ok found := ⟨_,rfl⟩
  have hkept : found.kept = [0,1,3,4,1] := by
    obtain ⟨-,-,rfl⟩ := pass_eq_ok_iff.mp hf
    decide
  have h := (pass_again hf).1 found.kept (.inr rfl)
  exact ⟨found,hf,hkept,h⟩

end Classifier

end BlogPaths
