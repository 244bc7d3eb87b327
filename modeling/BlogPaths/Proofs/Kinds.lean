import BlogPaths.Proofs.Independence

/-! Whether the kind of a resource agrees with what it carries.  Over a run of passes a resource may
be made an article or a companion any number of times, but no payload and no owner is ever taken
back.  So a resource that is claimed under both roles carries both, and one whose promotion broke
off may be an article without a payload; all others agree. -/
namespace BlogPaths

open Edit

variable {n : Nat}

namespace Standing

structure IsUnclaimed (s : Standing) : Prop where
  kind_eq : s.kind = .proper .plain
  article_eq : s.article = .proper none
  ownerPath_eq : s.ownerPath = .proper none

def HasArticle (s : Standing) : Prop := ∃ a, s.article = .proper (some a)

def HasOwner (s : Standing) : Prop := ∃ path, s.ownerPath = .proper (some path)

/-- Articles have a payload and companions an owner, and nothing else has either. -/
def IsInStep (s : Standing) : Prop :=
  (s.HasArticle ↔ s.kind = .proper .article) ∧ (s.HasOwner ↔ s.kind = .proper .companion)

end Standing

def Pool.afterPasses (pool : Pool n) (ps : List (Classifier × List (Fin n))) : Pool n :=
  ps.foldl (fun pool p => (p.1.pass pool p.2).pool) pool

def runEdits (front : Fin n → FrontMatter) (ps : List (Classifier × List (Fin n))) :
    List (Fin n × Edit) :=
  ps.flatMap fun p => p.1.passEdits front p.2

def IsPromoted (front : Fin n → FrontMatter) (ps : List (Classifier × List (Fin n))) (k : Fin n) :
    Prop :=
  ∃ p ∈ ps, p.1.Promotes front p.2 k

def IsAttached (front : Fin n → FrontMatter) (ps : List (Classifier × List (Fin n))) (k : Fin n) :
    Prop :=
  ∃ p ∈ ps, p.1.Attaches front p.2 k

def lastKind (front : Fin n → FrontMatter) (ps : List (Classifier × List (Fin n))) (k : Fin n) :
    Assigned Kind :=
  (StandingField.kind.last? (editsOn k (runEdits front ps))).getD (.proper .plain)

section

variable {front : Fin n → FrontMatter} {ps : List (Classifier × List (Fin n))} {k : Fin n}

theorem mem_editsOn_runEdits {e : Edit} :
    e ∈ editsOn k (runEdits front ps) ↔ ∃ p ∈ ps, (k,e) ∈ p.1.passEdits front p.2 := by
  rw [Edit.mem_editsOn,runEdits,List.mem_flatMap]

theorem isPromoted_iff :
    IsPromoted front ps k ↔
      ∃ e ∈ editsOn k (runEdits front ps), (StandingField.article.written? e).isSome := by
  constructor
  · rintro ⟨p,hp,a,he⟩
    exact ⟨_,mem_editsOn_runEdits.mpr ⟨p,hp,he⟩,rfl⟩
  · rintro ⟨e,he,hw⟩
    obtain ⟨a,rfl⟩ := StandingField.isSome_written?_article.mp hw
    obtain ⟨p,hp,he⟩ := mem_editsOn_runEdits.mp he
    exact ⟨p,hp,a,he⟩

theorem isAttached_iff :
    IsAttached front ps k ↔
      ∃ e ∈ editsOn k (runEdits front ps), (StandingField.ownerPath.written? e).isSome := by
  constructor
  · rintro ⟨p,hp,path,v,he⟩
    exact ⟨_,mem_editsOn_runEdits.mpr ⟨p,hp,he⟩,rfl⟩
  · rintro ⟨e,he,hw⟩
    obtain ⟨path,v,rfl⟩ := StandingField.isSome_written?_ownerPath.mp hw
    obtain ⟨p,hp,he⟩ := mem_editsOn_runEdits.mp he
    exact ⟨p,hp,path,v,he⟩

theorem lastKind_of_written {e : Edit} (he : e ∈ editsOn k (runEdits front ps))
    (hw : (StandingField.kind.written? e).isSome) :
    lastKind front ps k = .proper .article ∨ lastKind front ps k = .proper .companion := by
  unfold lastKind
  cases hl : StandingField.kind.last? (editsOn k (runEdits front ps)) with
  | none => simp [StandingField.last?_eq_none_iff.mp hl e he] at hw
  | some b =>
    obtain ⟨e',_,hb⟩ := StandingField.mem_of_last? hl
    cases e' with
    | enroll v => exact .inl (Option.some.inj hb).symm
    | attach path v => exact .inr (Option.some.inj hb).symm
    | _ => cases hb

theorem written_of_lastKind {x : Kind} (h : lastKind front ps k = .proper x) (hx : x ≠ .plain) :
    ∃ e ∈ editsOn k (runEdits front ps), StandingField.kind.written? e = some (.proper x) := by
  unfold lastKind at h
  cases hl : StandingField.kind.last? (editsOn k (runEdits front ps)) with
  | none =>
    rw [hl] at h
    cases h
    exact absurd rfl hx
  | some b =>
    have hb : b = .proper x := by simpa [hl] using h
    exact StandingField.mem_of_last? (hb ▸ hl)

theorem lastKind_of_isPromoted (h : IsPromoted front ps k) :
    lastKind front ps k = .proper .article ∨ lastKind front ps k = .proper .companion := by
  obtain ⟨p,hp,a,he⟩ := h
  have henroll := (Classifier.isArticle_of_describe he).1
  exact lastKind_of_written (mem_editsOn_runEdits.mpr ⟨p,hp,henroll⟩) rfl

theorem lastKind_of_isAttached (h : IsAttached front ps k) :
    lastKind front ps k = .proper .article ∨ lastKind front ps k = .proper .companion := by
  obtain ⟨p,hp,path,v,he⟩ := h
  exact lastKind_of_written (mem_editsOn_runEdits.mpr ⟨p,hp,he⟩) rfl

theorem isAttached_of_lastKind (h : lastKind front ps k = .proper .companion) :
    IsAttached front ps k := by
  obtain ⟨e,he,hw⟩ := written_of_lastKind h (by decide)
  cases e with
  | attach path v => exact isAttached_iff.mpr ⟨_,he,rfl⟩
  | _ => cases hw

/-- It takes a pass that fails to make an article without promoting it. -/
theorem isPromoted_of_lastKind (hs : ∀ p ∈ ps, p.1.Succeeds front p.2)
    (h : lastKind front ps k = .proper .article) : IsPromoted front ps k := by
  obtain ⟨e,he,hw⟩ := written_of_lastKind h (by decide)
  cases e with
  | enroll v =>
    obtain ⟨p,hp,he⟩ := mem_editsOn_runEdits.mp he
    exact ⟨p,hp,Classifier.promotes_of_succeeds (hs p hp) (Classifier.mem_of_mem_passEdits he)
      (Classifier.isArticlePath_of_enroll he)⟩
  | _ => cases hw

end

section

variable {pool : Pool n} {ps : List (Classifier × List (Fin n))} {k : Fin n}

theorem standing_afterPasses (pool : Pool n) (ps : List (Classifier × List (Fin n))) (k : Fin n) :
    (pool.afterPasses ps).standing k =
      applyAll (pool.standing k) (editsOn k (runEdits pool.front ps)) := by
  induction ps generalizing pool with
  | nil => rfl
  | cons p ps ih =>
    have hrest := ih (p.1.pass pool p.2).pool
    rw [Classifier.front_pass,Classifier.standing_pass_eq] at hrest
    calc (pool.afterPasses (p :: ps)).standing k
        = ((p.1.pass pool p.2).pool.afterPasses ps).standing k := rfl
      _ = applyAll (pool.standing k) (editsOn k (runEdits pool.front (p :: ps))) := by
        rw [hrest,← applyAll_append,← editsOn_append]
        rfl

theorem kind_afterPasses (hk : (pool.standing k).IsUnclaimed) :
    ((pool.afterPasses ps).standing k).kind = lastKind pool.front ps k := by
  rw [standing_afterPasses,lastKind,← hk.kind_eq]
  exact StandingField.kind.get_applyAll _ _

theorem hasArticle_afterPasses (hk : (pool.standing k).IsUnclaimed) :
    ((pool.afterPasses ps).standing k).HasArticle ↔ IsPromoted pool.front ps k := by
  rw [standing_afterPasses,isPromoted_iff]
  exact StandingField.exists_get_applyAll_iff StandingField.eq_some_of_written?_article
    hk.article_eq

theorem hasOwner_afterPasses (hk : (pool.standing k).IsUnclaimed) :
    ((pool.afterPasses ps).standing k).HasOwner ↔ IsAttached pool.front ps k := by
  rw [standing_afterPasses,isAttached_iff]
  exact StandingField.exists_get_applyAll_iff StandingField.eq_some_of_written?_ownerPath
    hk.ownerPath_eq

/-- What a resource carries agrees with its kind unless it has been promoted and attached, or is an
article that never was promoted. -/
theorem isInStep_iff (hk : (pool.standing k).IsUnclaimed) :
    ((pool.afterPasses ps).standing k).IsInStep ↔
      (lastKind pool.front ps k = .proper .article → IsPromoted pool.front ps k) ∧
      ¬ (IsPromoted pool.front ps k ∧ IsAttached pool.front ps k) := by
  rw [Standing.IsInStep,hasArticle_afterPasses hk,hasOwner_afterPasses hk,kind_afterPasses hk]
  constructor
  · rintro ⟨harticle,howner⟩
    refine ⟨harticle.mpr,fun ⟨hp,ha⟩ => ?_⟩
    have hboth := (harticle.mp hp).symm.trans (howner.mp ha)
    cases hboth
  · rintro ⟨harticle,hboth⟩
    have hp : IsPromoted pool.front ps k → lastKind pool.front ps k = .proper .article := fun hp =>
      (lastKind_of_isPromoted hp).resolve_right fun hc => hboth ⟨hp,isAttached_of_lastKind hc⟩
    have ha : IsAttached pool.front ps k → lastKind pool.front ps k = .proper .companion := fun ha =>
      (lastKind_of_isAttached ha).resolve_left fun hc => hboth ⟨harticle hc,ha⟩
    exact ⟨⟨hp,harticle⟩,⟨ha,isAttached_of_lastKind⟩⟩

/-- Two classifiers match a path under different roles if it is promoted and attached. -/
theorem roles_of_isPromoted_of_isAttached (hp : IsPromoted pool.front ps k)
    (ha : IsAttached pool.front ps k) : ∃ p ∈ ps, ∃ q ∈ ps,
      p.1.isArticlePath (pool.front k) = true ∧ q.1.isNestedPath (pool.front k) = true := by
  obtain ⟨p,hp,a,hdescribe⟩ := hp
  obtain ⟨q,hq,path,v,hattach⟩ := ha
  have henroll := (Classifier.isArticle_of_describe hdescribe).1
  exact ⟨p,hp,q,hq,Classifier.isArticlePath_of_enroll henroll,Classifier.isNestedPath_of_attach hattach⟩

/-- After any passes, a resource that was unclaimed has the kind that it was given last, a payload if
a pass has promoted it, and an owner if a pass has attached it; so what it carries agrees with its
kind unless it has been promoted and attached, or is an article that never was promoted.  Where no
pass fails it is the former only, and then two classifiers match the path under different roles.  At
all events a companion has an owner, and a plain resource has nothing. -/
theorem isInStep_afterPasses_iff (ps : List (Classifier × List (Fin n)))
    (hk : (pool.standing k).IsUnclaimed) :
    let s := (pool.afterPasses ps).standing k
    (s.kind = lastKind pool.front ps k ∧ (s.HasArticle ↔ IsPromoted pool.front ps k) ∧
      (s.HasOwner ↔ IsAttached pool.front ps k)) ∧
    (s.IsInStep ↔ (lastKind pool.front ps k = .proper .article → IsPromoted pool.front ps k) ∧
      ¬ (IsPromoted pool.front ps k ∧ IsAttached pool.front ps k)) ∧
    ((∀ p ∈ ps, p.1.Succeeds pool.front p.2) →
      (s.IsInStep ↔ ¬ (IsPromoted pool.front ps k ∧ IsAttached pool.front ps k)) ∧
      (¬ s.IsInStep → ∃ p ∈ ps, ∃ q ∈ ps, p.1.isArticlePath (pool.front k) = true ∧
        q.1.isNestedPath (pool.front k) = true)) ∧
    (s.kind = .proper .companion → s.HasOwner) ∧
    (s.kind = .proper .plain → ¬ s.HasArticle ∧ ¬ s.HasOwner) := by
  intro s
  have hkind : s.kind = lastKind pool.front ps k := kind_afterPasses hk
  have harticle : s.HasArticle ↔ IsPromoted pool.front ps k := hasArticle_afterPasses hk
  have howner : s.HasOwner ↔ IsAttached pool.front ps k := hasOwner_afterPasses hk
  have hinstep : s.IsInStep ↔ _ := isInStep_iff hk
  refine ⟨⟨hkind,harticle,howner⟩,hinstep,fun hs => ?_,fun hc => ?_,fun hplain => ⟨?_,?_⟩⟩
  · have hiff : s.IsInStep ↔ ¬ (IsPromoted pool.front ps k ∧ IsAttached pool.front ps k) :=
      hinstep.trans (and_iff_right (isPromoted_of_lastKind hs))
    refine ⟨hiff,fun hout => ?_⟩
    have hboth := not_not.mp (mt hiff.mpr hout)
    exact roles_of_isPromoted_of_isAttached hboth.1 hboth.2
  · exact howner.mpr (isAttached_of_lastKind (hkind.symm.trans hc))
  · intro ha
    rcases lastKind_of_isPromoted (harticle.mp ha) with h | h <;> simp [← hkind,hplain] at h
  · intro ho
    rcases lastKind_of_isAttached (howner.mp ho) with h | h <;> simp [← hkind,hplain] at h

end

/-! A blog that takes the pictures below articles for articles, and one whose articles have to be
dated by their front matter. -/
namespace Sample

def covers : Classifier where
  pattern := ⟨":year-a/cover.jpg",[.field .year,.literal "-a/cover.jpg".toList]⟩
  permalink := ⟨":year/",[.field .year,.literal ['/']],[]⟩
  controller := .str "covers"

def undated : Classifier where
  pattern := ⟨"notes/:title.txt",[.literal ['n','o','t','e','s','/'],.field .title,
    .literal ['.','t','x','t']]⟩
  permalink := ⟨":title/",[.field .title,.literal ['/']],[]⟩

def bothBlogs : List (Classifier × List (Fin 3)) := [(classifier,[0,1]),(notes,[0,1,2])]

end Sample

theorem isInStep_afterPasses_iff_sample :
    let s := (Sample.sharedPool.afterPasses Sample.bothBlogs).standing 0
    (Sample.sharedPool.standing 0).IsUnclaimed ∧ s.kind = .proper .companion ∧ s.HasOwner ∧
      s.IsInStep := by
  intro s
  have hunclaimed : (Sample.sharedPool.standing 0).IsUnclaimed := ⟨rfl,rfl,rfl⟩
  have h := isInStep_afterPasses_iff Sample.bothBlogs hunclaimed
  have hs : ∀ p ∈ Sample.bothBlogs, p.1.Succeeds Sample.sharedPool.front p.2 := by
    unfold Classifier.Succeeds
    decide
  have hroles : ¬ ∃ p ∈ Sample.bothBlogs, ∃ q ∈ Sample.bothBlogs,
      p.1.isArticlePath (Sample.sharedPool.front 0) = true ∧
        q.1.isNestedPath (Sample.sharedPool.front 0) = true := by decide
  have hcompanion : s.kind = .proper .companion := rfl
  exact ⟨hunclaimed,hcompanion,h.2.2.2.1 hcompanion,not_not.mp (mt (h.2.2.1 hs).2 hroles)⟩

/-- A resource left behind by a promotion that broke off, and one claimed under both roles. -/
theorem not_isInStep_afterPasses :
    (∀ k, (Sample.sharedPool.standing k).IsUnclaimed) ∧
    ¬ ((Sample.sharedPool.afterPasses [(Sample.undated,[2])]).standing 2).IsInStep ∧
    ¬ ((Sample.sharedPool.afterPasses [(Sample.classifier,[0,1]),(Sample.covers,[0])]).standing
      0).IsInStep := by
  refine ⟨fun k => ?_,fun h => ?_,fun h => ?_⟩
  · match k with
    | 0 => exact ⟨rfl,rfl,rfl⟩
    | 1 => exact ⟨rfl,rfl,rfl⟩
    | 2 => exact ⟨rfl,rfl,rfl⟩
  · obtain ⟨a,ha⟩ := h.1.mpr rfl
    cases ha
  · have hcompanion := h.2.mp ⟨"2014-a.html",rfl⟩
    cases hcompanion

end BlogPaths
