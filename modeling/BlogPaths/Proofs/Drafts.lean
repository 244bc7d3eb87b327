import BlogPaths.Proofs.PassAgain
import BlogPaths.Proofs.Writes

/-! Which resources a pass returns.  A resource stands or falls with an article: an article with
itself, a nested file with its owner, and any other file with none.  Outside development a pass
leaves out what falls with a draft, and nothing else. -/
namespace BlogPaths

variable {n : Nat}

namespace Index

theorem map_handle_filterMap {e : Fin n → Option (IndexEntry n)} {ks : List (Fin n)}
    (he : ∀ k ∈ ks, ∀ x, e k = some x → x.handle = k) :
    (ks.filterMap e).map (·.handle) = ks.filter fun k => (e k).isSome := by
  induction ks with
  | nil => rfl
  | cons k ks ih =>
    have ih' := ih fun k' hk' => he k' (List.mem_cons_of_mem _ hk')
    cases hk : e k with
    | none => simpa [hk] using ih'
    | some x =>
      have hx := he k List.mem_cons_self x hk
      simpa [hk,hx] using ih'

theorem find?_filterMap_path {e : Fin n → Option (IndexEntry n)} {front : Fin n → FrontMatter}
    {ks : List (Fin n)} {path : String}
    (he : ∀ k ∈ ks, ∀ x, e k = some x → x.handle = k ∧ x.path = (front k).path.proper?) :
    ((ks.filterMap e).find? (·.path == some path)).map (·.handle) =
      (ks.filter fun k => (e k).isSome).find? fun k => (front k).path.proper? == some path := by
  induction ks with
  | nil => rfl
  | cons k ks ih =>
    have ih' := ih fun k' hk' => he k' (List.mem_cons_of_mem _ hk')
    cases hk : e k with
    | none => simpa [hk] using ih'
    | some x =>
      have hx := he k List.mem_cons_self x hk
      by_cases hp : (front k).path.proper? = some path
      · simp [hk,hx,hp]
      · simpa [hk,hx,hp] using ih'

theorem byPath?_filterMap {e : Fin n → Option (IndexEntry n)} {front : Fin n → FrontMatter}
    {ks : List (Fin n)} (path : String)
    (he : ∀ k ∈ ks, ∀ x, e k = some x → x.handle = k ∧ x.path = (front k).path.proper?) :
    (⟨ks.filterMap e⟩ : Index n).byPath? path =
      Classifier.ownerAt? front (ks.filter fun k => (e k).isSome) path := by
  have he' : ∀ k ∈ ks.reverse, ∀ x, e k = some x →
      x.handle = k ∧ x.path = (front k).path.proper? := fun k hk => he k (List.mem_reverse.mp hk)
  rw [byPath?,Classifier.ownerAt?,← List.filterMap_reverse,← List.filter_reverse]
  exact find?_filterMap_path he'

end Index

namespace Classifier

/-- The path of the article below which a path lies, if it is matched as that of a nested file. -/
def ownerPath? (c : Classifier) (f : FrontMatter) : Option String :=
  (f.path.proper?.bind c.pattern.nested?).bind fun m =>
    (c.pattern.sourcePath (c.pattern.captures m)).toOption

/-- The article that a resource stands or falls with. -/
def articleFor? (c : Classifier) (front : Fin n → FrontMatter) (hs : List (Fin n)) (h : Fin n) :
    Option (Fin n) :=
  if c.isArticlePath (front h) then some h else (c.ownerPath? (front h)).bind (ownerAt? front hs)

/-- Whether a resource falls with a draft, which in development none does. -/
def isOmitted (c : Classifier) (front : Fin n → FrontMatter) (hs : List (Fin n)) (h : Fin n) :
    Bool :=
  !c.isDevelopment && (c.articleFor? front hs h).any fun o => !(front o).isPublished

section

variable {c : Classifier} {front : Fin n → FrontMatter} {hs : List (Fin n)} {h : Fin n}

theorem articleFor?_of_isArticle {path : String} {m : PathMatch} {a : Article}
    (ha : c.IsArticle front h path m a) : c.articleFor? front hs h = some h := by
  simp [articleFor?,ha.isArticlePath]

theorem articleFor?_of_isNested {path ownerPath tail : String}
    (hn : c.IsNested front h path ownerPath tail) :
    c.articleFor? front hs h = ownerAt? front hs ownerPath := by
  obtain ⟨m,hm,hs',_⟩ := hn.match_eq
  simp [articleFor?,hn.isArticlePath,ownerPath?,hn.path_eq,hm,hs',Except.toOption]

theorem isOmitted_of_articleFor? {o : Fin n} (ho : c.articleFor? front hs h = some o) :
    c.isOmitted front hs h = !c.isVisible (front o) := by
  simp [isOmitted,ho,isVisible]

/-- A turn that does not fail keeps its resource if and only if it does not fall with a draft. -/
theorem isKept_eq_not_isOmitted (he : (c.turn front hs h).verdict.error? = none) :
    (c.turn front hs h).verdict.isKept = !c.isOmitted front hs h := by
  have ht := settles_turn he
  generalize c.turn front hs h = t at ht
  cases ht with
  | draft ha hv =>
    rw [isOmitted_of_articleFor? (articleFor?_of_isArticle ha),hv]
    rfl
  | article ha hv hr =>
    rw [isOmitted_of_articleFor? (articleFor?_of_isArticle ha),hv]
    rfl
  | belowDraft hn ho ha hv =>
    rw [isOmitted_of_articleFor? ((articleFor?_of_isNested hn).trans ho),hv]
    rfl
  | companion hn ho ha hv hr =>
    rw [isOmitted_of_articleFor? ((articleFor?_of_isNested hn).trans ho),hv]
    rfl
  | plain hp hm hn => simp [isOmitted,articleFor?,isArticlePath,ownerPath?,hp,hm,hn,Verdict.isKept]

theorem isSome_entry?_eq (he : (c.turn front hs h).verdict.error? = none) :
    (c.turn front hs h).verdict.entry?.isSome =
      ((c.turn front hs h).verdict.isKept && c.isArticlePath (front h)) := by
  have ht := settles_turn he
  generalize c.turn front hs h = t at ht
  cases ht with
  | draft => rfl
  | article ha => simp [Verdict.entry?,Verdict.isKept,ha.isArticlePath]
  | belowDraft => rfl
  | companion hn => simp [Verdict.entry?,hn.isArticlePath]
  | plain hp hm => simp [Verdict.entry?,isArticlePath,hp,hm]

theorem entry?_eq_some (he : (c.turn front hs h).verdict.error? = none) {x : IndexEntry n}
    (hx : (c.turn front hs h).verdict.entry? = some x) :
    x.handle = h ∧ x.path = (front h).path.proper? := by
  have ht := settles_turn he
  generalize c.turn front hs h = t at ht hx
  cases ht with
  | article ha =>
    have hx' : x = _ := (Option.some.inj hx).symm
    simp [hx',ha.path_eq]
  | _ => simp [Verdict.entry?] at hx

theorem kept_eq_filter (hs' : c.Succeeds front hs) :
    (outcome (c.turns front hs)).kept = hs.filter fun k => !c.isOmitted front hs k := by
  rw [kept_outcome_turns hs',keptOf]
  exact List.filter_congr fun k hk => isKept_eq_not_isOmitted (hs' k hk)

theorem handles_eq_filter (hs' : c.Succeeds front hs) :
    (outcome (c.turns front hs)).index.entries.map (·.handle) =
      (outcome (c.turns front hs)).kept.filter fun k => c.isArticlePath (front k) := by
  rw [entries_outcome_turns,kept_outcome_turns hs',keptOf,List.filter_filter,
    Index.map_handle_filterMap fun k hk x hx => (entry?_eq_some (hs' k hk) hx).1]
  refine List.filter_congr fun k hk => ?_
  rw [isSome_entry?_eq (hs' k hk),Bool.and_comm]

/-- A visible owner is the one article that the index has for its path. -/
theorem byPath?_of_ownerAt? (hs' : c.Succeeds front hs) {path : String} {o : Fin n} {m : PathMatch}
    {a : Article} (ho : ownerAt? front hs path = some o) (ha : c.IsArticle front o path m a)
    (hv : c.isVisible (front o) = true) :
    (outcome (c.turns front hs)).index.byPath? path = some o := by
  have hindex : (outcome (c.turns front hs)).index =
      ⟨hs.filterMap fun k => (c.turn front hs k).verdict.entry?⟩ :=
    congrArg Index.mk entries_outcome_turns
  have he := hs' o (mem_of_ownerAt? ho).1
  have hentry : (c.turn front hs o).verdict.entry?.isSome = true := by
    rw [isSome_entry?_eq he,isKept_of_isVisible ha he hv,ha.isArticlePath]
    rfl
  rw [hindex,Index.byPath?_filterMap path fun k hk x hx => entry?_eq_some (hs' k hk) hx]
  exact ownerAt?_filter ho hentry

end

variable {c : Classifier} {pool : Pool n} {hs : List (Fin n)}

/-- A companion that a pass has returned, and its owner. -/
structure IsCompanionOf (c : Classifier) (pool : Pool n) (hs : List (Fin n)) (found : Classified n)
    (k o : Fin n) : Prop where
  isNestedPath : c.isNestedPath (pool.front k) = true
  owner : c.articleFor? pool.front hs k = some o
  kind_eq : ((c.pass pool hs).pool.standing k).kind = .proper .companion
  ownerPath_eq : ∃ path, (pool.front o).path = .proper path ∧
    ((c.pass pool hs).pool.standing k).ownerPath = .proper (some path) ∧
    found.index.byPath? path = some o
  owner_mem : o ∈ found.kept
  owner_isArticlePath : c.isArticlePath (pool.front o) = true
  owner_kind_eq : ((c.pass pool hs).pool.standing o).kind = .proper .article

theorem kind_of_isArticle (hs' : c.Succeeds pool.front hs) {k : Fin n} (hk : k ∈ hs) {path : String}
    {m : PathMatch} {a : Article} (ha : c.IsArticle pool.front k path m a) :
    ((c.pass pool hs).pool.standing k).kind = .proper .article := by
  rw [standing_pass hs' hk]
  rcases ownEdits_of_isArticle ha (hs' k hk) with ho | ⟨d,ho⟩
  · rw [ho]; rfl
  · rw [ho]; rfl

theorem standing_of_visible (hs' : c.Succeeds pool.front hs) {k : Fin n} (hk : k ∈ hs)
    {path permalink : String} {m : PathMatch} {a : Article}
    (ha : c.IsArticle pool.front k path m a) (hv : c.isVisible (pool.front k) = true)
    (hr : c.permalink.resolve a = .ok permalink) :
    (c.pass pool hs).pool.standing k = Edit.applyAll (pool.standing k)
      [.enroll c.controller,.describe a,.publish (outputPath permalink)] := by
  have hturn := (Settles.article ha hv hr : Settles c pool.front hs k _).turn_eq
  rw [standing_pass hs' hk,ownEdits,hturn]
  simp

theorem standing_of_companion (hs' : c.Succeeds pool.front hs) {k o : Fin n} (hk : k ∈ hs)
    {path ownerPath tail permalink : String} {m : PathMatch} {a : Article}
    (hn : c.IsNested pool.front k path ownerPath tail)
    (ho : ownerAt? pool.front hs ownerPath = some o) (ha : c.IsArticle pool.front o ownerPath m a)
    (hv : c.isVisible (pool.front o) = true) (hr : c.permalink.resolve a = .ok permalink) :
    (c.pass pool hs).pool.standing k = Edit.applyAll (pool.standing k)
      [.attach ownerPath c.controller,
        .publish (outputPath (Permalink.companion c.indexFile permalink tail))] := by
  have hturn := (Settles.companion hn ho ha hv hr).turn_eq
  rw [standing_pass hs' hk,ownEdits,hturn]
  simp [hn.ne_owner ha]

theorem isCompanionOf_of_settles (hs' : c.Succeeds pool.front hs) {k o : Fin n} (hk : k ∈ hs)
    {path ownerPath tail permalink : String} {m : PathMatch} {a : Article}
    (hn : c.IsNested pool.front k path ownerPath tail)
    (ho : ownerAt? pool.front hs ownerPath = some o) (ha : c.IsArticle pool.front o ownerPath m a)
    (hv : c.isVisible (pool.front o) = true) (hr : c.permalink.resolve a = .ok permalink) :
    IsCompanionOf c pool hs (outcome (c.turns pool.front hs)) k o := by
  have hstanding := standing_of_companion hs' hk hn ho ha hv hr
  have hmem := (mem_of_ownerAt? ho).1
  refine ⟨hn.isNestedPath,(articleFor?_of_isNested hn).trans ho,?_,⟨ownerPath,ha.path_eq,?_,?_⟩,?_,
    ha.isArticlePath,kind_of_isArticle hs' hmem ha⟩
  · rw [hstanding]; rfl
  · rw [hstanding]; rfl
  · exact byPath?_of_ownerAt? hs' ho ha hv
  · rw [kept_outcome_turns hs']
    exact List.mem_filter.mpr ⟨hmem,isKept_of_isVisible ha (hs' o hmem) hv⟩

/-- A pass that succeeds returns the resources in their order, less those that fall with a draft.
Its index holds the returned articles in their order.  Whatever is returned is an article, or a
companion whose owner is returned and found in the index, or no concern of the pass, which then
leaves it as it was. -/
theorem pass_leaves_out_drafts {found : Classified n} (h : (c.pass pool hs).result = .ok found) :
    found.kept = hs.filter (fun k => !c.isOmitted pool.front hs k) ∧
    found.index.entries.map (·.handle) =
      found.kept.filter (fun k => c.isArticlePath (pool.front k)) ∧
    ∀ k ∈ found.kept,
      (c.isArticlePath (pool.front k) = true ∧
        ((c.pass pool hs).pool.standing k).kind = .proper .article) ∨
      (∃ o, c.IsCompanionOf pool hs found k o) ∨
      (c.isArticlePath (pool.front k) = false ∧ c.isNestedPath (pool.front k) = false ∧
        (c.pass pool hs).pool.standing k = pool.standing k) := by
  obtain ⟨hs',-,rfl⟩ := pass_eq_ok_iff.mp h
  refine ⟨kept_eq_filter hs',handles_eq_filter hs',fun k hk => ?_⟩
  rw [kept_outcome_turns hs'] at hk
  obtain ⟨hk,hkept⟩ := List.mem_filter.mp hk
  have hstanding := standing_pass hs' hk
  have ht := settles_turn (hs' k hk)
  unfold ownEdits at hstanding
  generalize c.turn pool.front hs k = t at ht hkept hstanding
  cases ht with
  | draft => simp [Verdict.isKept] at hkept
  | article ha => exact .inl ⟨ha.isArticlePath,kind_of_isArticle hs' hk ha⟩
  | belowDraft => simp [Verdict.isKept] at hkept
  | companion hn ho ha hv hr =>
    exact .inr (.inl ⟨_,isCompanionOf_of_settles hs' hk hn ho ha hv hr⟩)
  | plain hp hm hn =>
    exact .inr (.inr ⟨by simp [isArticlePath,hp,hm],by simp [isNestedPath,hp,hn],hstanding⟩)

theorem pass_leaves_out_drafts_sample :
    ∃ found, (Sample.classifier.pass Sample.pool [0,1,2,3,4,1]).result = .ok found ∧
      found.kept = [0,1,3,4,1] ∧ found.index.entries.map (·.handle) = [1,3,1] ∧
      Sample.classifier.IsCompanionOf Sample.pool [0,1,2,3,4,1] found 0 1 := by
  obtain ⟨found,hf⟩ :
      ∃ found, (Sample.classifier.pass Sample.pool [0,1,2,3,4,1]).result = .ok found := ⟨_,rfl⟩
  obtain ⟨hkept,hindex,hreturned⟩ := pass_leaves_out_drafts hf
  have hkept' : found.kept = [0,1,3,4,1] := hkept.trans (by decide)
  have howner : Sample.classifier.articleFor? Sample.pool.front [0,1,2,3,4,1] 0 = some 1 := by decide
  refine ⟨found,hf,hkept',?_,?_⟩
  · rw [hindex,hkept']
    decide
  · rcases hreturned 0 (by simp [hkept']) with h | ⟨o,h⟩ | h
    · exact absurd h.1 (by decide)
    · have ho : o = 1 := Option.some.inj (h.owner.symm.trans howner)
      exact ho ▸ h
    · exact absurd h.2.1 (by decide)

end Classifier

end BlogPaths
