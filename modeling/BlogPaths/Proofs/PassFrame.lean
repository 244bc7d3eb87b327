import BlogPaths.Proofs.Answers
import BlogPaths.Proofs.Failures

/-! What a pass leaves alone, whether it succeeds or fails.  A turn promotes the article that its
resource stands or falls with; anything else it does to its own resource only, and only if that
article is seen.  So a draft keeps its place and its owner, and a pass that fails has changed nothing
but what its turns have come to and the articles that these were promoting. -/
namespace BlogPaths

open Edit

variable {n : Nat}

namespace Edit

def isPromotion : Edit → Bool
  | enroll _ | describe _ => true
  | publish _ | attach _ _ => false

end Edit

theorem Promotion.isPromotion_of_mem {v : Value} {p : Promotion} {e : Edit} (h : e ∈ p.edits v) :
    e.isPromotion = true := by
  cases p with
  | refused => simp [edits] at h
  | broken =>
    obtain rfl : e = .enroll v := by simpa [edits] using h
    rfl
  | complete a =>
    obtain rfl | rfl : e = .enroll v ∨ e = .describe a := by simpa [edits] using h
    · rfl
    · rfl

namespace Standing

/-- The same output path and the same owner; kind, article and controller may differ. -/
structure SamePlace (s s' : Standing) : Prop where
  destinationPath_eq : s'.destinationPath = s.destinationPath
  ownerPath_eq : s'.ownerPath = s.ownerPath

theorem samePlace_applyAll {s : Standing} {es : List Edit} (h : ∀ e ∈ es, e.isPromotion = true) :
    s.SamePlace (applyAll s es) := by
  constructor
  · refine StandingField.destinationPath.get_applyAll_of_unwritten fun e he => ?_
    have := h e he
    cases e <;> simp_all [isPromotion,StandingField.destinationPath]
  · refine StandingField.ownerPath.get_applyAll_of_unwritten fun e he => ?_
    have := h e he
    cases e <;> simp_all [isPromotion,StandingField.ownerPath]

end Standing

theorem Turn.performed_append_cons {ts ts' : List (Turn n)} {t : Turn n}
    (h : ∀ t' ∈ ts, t'.verdict.error? = none) (ht : t.verdict.error?.isSome) :
    performed (ts ++ t :: ts') = ts ++ [t] := by
  induction ts with
  | nil => simp [performed,ht]
  | cons t' ts ih =>
    have ht' := h t' List.mem_cons_self
    simp [performed,ht',ih fun x hx => h x (List.mem_cons_of_mem _ hx)]

namespace Classifier

section

variable {c : Classifier} {front : Fin n → FrontMatter} {hs : List (Fin n)} {h k : Fin n}

/-- Each edit of a turn promotes the article that the resource stands or falls with, or it is an edit
of the resource itself, and that article is seen. -/
theorem of_mem_edits {e : Edit} (he : (k,e) ∈ (c.turn front hs h).edits) :
    (c.articleFor? front hs h = some k ∧ c.isArticlePath (front k) = true ∧ e.isPromotion = true) ∨
    (k = h ∧ ∃ o, c.articleFor? front hs h = some o ∧ c.isVisible (front o) = true) := by
  have hw := writes_turn c front hs h
  generalize (c.turn front hs h).edits = es at hw he
  have hown : ∀ own : List Edit, (k,e) ∈ own.map (fun x => (h,x)) → own ≠ [] ∧ k = h := by
    intro own hmem
    obtain ⟨x,hx,heq⟩ := List.mem_map.mp hmem
    exact ⟨List.ne_nil_of_mem hx,(Prod.mk.inj heq).1.symm⟩
  cases hw with
  | nothing => simp at he
  | article hp hm ho =>
    have hpath : c.isArticlePath (front h) = true := by simp [isArticlePath,hp,hm]
    have hfor : c.articleFor? front hs h = some h := by simp [articleFor?,hpath]
    rcases List.mem_append.mp he with he | he
    · obtain ⟨rfl,he⟩ := mem_promotionEdits.mp he
      exact .inl ⟨hfor,hpath,Promotion.isPromotion_of_mem he⟩
    · obtain ⟨hne,rfl⟩ := hown _ he
      exact .inr ⟨rfl,k,hfor,(ho.resolve_left hne).1⟩
  | @nested path ownerPath _ o m _ hn ho hm hown' =>
    have hfor : c.articleFor? front hs h = some o := (articleFor?_of_isNested hn).trans ho
    rcases List.mem_append.mp he with he | he
    · obtain ⟨rfl,he⟩ := mem_promotionEdits.mp he
      have hpath : c.isArticlePath (front k) = true := by
        simp [isArticlePath,(mem_of_ownerAt? ho).2,hm]
      exact .inl ⟨hfor,hpath,Promotion.isPromotion_of_mem he⟩
    · obtain ⟨hne,rfl⟩ := hown _ he
      exact .inr ⟨rfl,o,hfor,(hown'.resolve_left hne).1⟩

theorem isNestedPath_of_articleFor? (hp : c.isArticlePath (front h) = false)
    (ha : c.articleFor? front hs h = some k) : c.isNestedPath (front h) = true := by
  simp only [articleFor?,hp,Bool.false_eq_true,if_false] at ha
  obtain ⟨path,hpath,_⟩ := Option.bind_eq_some_iff.mp ha
  obtain ⟨m,hm,_⟩ := Option.bind_eq_some_iff.mp hpath
  simp [isNestedPath,hp,hm]

theorem of_mem_edits_of_ne {e : Edit} (he : (k,e) ∈ (c.turn front hs h).edits) (hk : k ≠ h) :
    c.isNestedPath (front h) = true ∧ c.articleFor? front hs h = some k ∧ e.isPromotion = true := by
  rcases of_mem_edits he with ⟨hfor,_,hpromotion⟩ | ⟨rfl,_⟩
  · cases hp : c.isArticlePath (front h) with
    | true => simp [articleFor?,hp,hk.symm] at hfor
    | false => exact ⟨isNestedPath_of_articleFor? hp hfor,hfor,hpromotion⟩
  · exact absurd rfl hk

theorem notMem_passEdits_of_unmatched (ha : c.isArticlePath (front k) = false)
    (hn : c.isNestedPath (front k) = false) (e : Edit) : (k,e) ∉ c.passEdits front hs := by
  intro he
  obtain ⟨h,_,he,_⟩ := exists_turn_of_mem he
  rcases of_mem_edits he with ⟨_,hp,_⟩ | ⟨rfl,o,ho,_⟩
  · simp [ha] at hp
  · simp [isNestedPath_of_articleFor? ha ho] at hn

theorem notMem_passEdits_below_draft {o : Fin n} (hn : c.isNestedPath (front k) = true)
    (ho : c.articleFor? front hs k = some o) (hv : c.isVisible (front o) = false) (e : Edit) :
    (k,e) ∉ c.passEdits front hs := by
  intro he
  obtain ⟨h,_,he,_⟩ := exists_turn_of_mem he
  rcases of_mem_edits he with ⟨_,hp,_⟩ | ⟨rfl,o',ho',hv'⟩
  · simp [isNestedPath,hp] at hn
  · obtain rfl : o' = o := Option.some.inj (ho'.symm.trans ho)
    simp [hv] at hv'

theorem isPromotion_of_draft (hp : c.isArticlePath (front k) = true)
    (hv : c.isVisible (front k) = false) {e : Edit} (he : (k,e) ∈ c.passEdits front hs) :
    e.isPromotion = true := by
  obtain ⟨h,_,he,_⟩ := exists_turn_of_mem he
  rcases of_mem_edits he with ⟨_,_,hpromotion⟩ | ⟨rfl,o,ho,hv'⟩
  · exact hpromotion
  · obtain rfl : k = o := by simpa [articleFor?,hp] using ho
    simp [hv] at hv'

/-- The edits of a pass that fails are those of its turns up to the first that fails. -/
theorem exists_turn_of_mem_of_fails {before behind : List (Fin n)} {error : PassError}
    (hsplit : hs = before ++ h :: behind) (hbefore : ∀ j ∈ before, c.error? front hs j = none)
    (herror : c.error? front hs h = some error) {e : Edit} (he : (k,e) ∈ c.passEdits front hs) :
    ∃ j ∈ before ++ [h], (k,e) ∈ (c.turn front hs j).edits := by
  have hturns := congrArg (List.map (c.turn front hs)) hsplit
  rw [List.map_append,List.map_cons] at hturns
  have hperformed : Turn.performed (c.turns front hs) = (before ++ [h]).map (c.turn front hs) := by
    rw [turns,hturns,Turn.performed_append_cons,List.map_append]
    · rfl
    · intro t ht
      obtain ⟨j,hj,rfl⟩ := List.mem_map.mp ht
      exact hbefore j hj
    · exact Option.isSome_of_eq_some herror
  unfold passEdits at he
  split at he
  · simp at he
  · rw [hperformed] at he
    obtain ⟨t,ht,he⟩ := List.mem_flatMap.mp he
    obtain ⟨j,hj,rfl⟩ := List.mem_map.mp ht
    exact ⟨j,hj,he⟩

end

section

variable {c : Classifier} {pool : Pool n} {hs : List (Fin n)} {k : Fin n}

theorem standing_pass_of_unedited (h : ∀ e, (k,e) ∉ c.passEdits pool.front hs) :
    (c.pass pool hs).pool.standing k = pool.standing k := by
  have hnone : editsOn k (c.passEdits pool.front hs) = [] :=
    List.eq_nil_iff_forall_not_mem.mpr fun e he => h e (Edit.mem_editsOn.mp he)
  rw [standing_pass_eq,hnone,applyAll_nil]

theorem samePlace_pass (h : ∀ e, (k,e) ∈ c.passEdits pool.front hs → e.isPromotion = true) :
    (pool.standing k).SamePlace ((c.pass pool hs).pool.standing k) := by
  rw [standing_pass_eq]
  exact Standing.samePlace_applyAll fun e he => h e (Edit.mem_editsOn.mp he)

end

end Classifier

/-- What a pass leaves as it was, whether it succeeds or fails: all front matter; resources that
neither matcher matches, and files below a draft; place and owner of a draft.  If it fails, the index
stays.  It fails in the turn of a resource `h`, and then of the resources that had no turn up to it
only the owners of nested files among those that had one are not as before, and these keep their
place and their owner; or it fails behind all turns, since the dates cannot be sorted. -/
theorem Member.pass_frame (m : Member n) {pool : Pool n} {hs : List (Fin n)}
    (hf : ∀ h ∈ hs, (pool.front h).IsProper) :
    let c := m.classifier
    let p := c.pass pool hs
    p.pool.front = pool.front ∧
    (∀ k, c.isArticlePath (pool.front k) = false → c.isNestedPath (pool.front k) = false →
      p.pool.standing k = pool.standing k) ∧
    (∀ k o, c.isNestedPath (pool.front k) = true → c.articleFor? pool.front hs k = some o →
      c.isVisible (pool.front o) = false → p.pool.standing k = pool.standing k) ∧
    (∀ k, c.isArticlePath (pool.front k) = true → c.isVisible (pool.front k) = false →
      (pool.standing k).SamePlace (p.pool.standing k)) ∧
    ∀ e, p.result = .error e →
      (m.afterPass p).index = m.index ∧
      ((∃ before h behind, hs = before ++ h :: behind ∧
        (∀ k ∈ before, c.error? pool.front hs k = none) ∧ c.error? pool.front hs h = some e ∧
        ∀ k, k ∉ before ++ [h] →
          (pool.standing k).SamePlace (p.pool.standing k) ∧
          ((∀ j ∈ before ++ [h], c.isNestedPath (pool.front j) = true →
            c.articleFor? pool.front hs j ≠ some k) → p.pool.standing k = pool.standing k)) ∨
      e = .datesApart ∧ (∀ k ∈ hs, c.error? pool.front hs k = none) ∧
        ∀ k, k ∉ hs → p.pool.standing k = pool.standing k) := by
  intro c p
  refine ⟨Classifier.front_pass c pool hs,fun k ha hn => ?_,fun k o hn ho hv => ?_,
    fun k ha hv => ?_,fun e he => ?_⟩
  · exact Classifier.standing_pass_of_unedited (Classifier.notMem_passEdits_of_unmatched ha hn)
  · exact Classifier.standing_pass_of_unedited (Classifier.notMem_passEdits_below_draft hn ho hv)
  · exact Classifier.samePlace_pass fun _ => Classifier.isPromotion_of_draft ha hv
  · refine ⟨congrArg Member.index (afterPass_of_error he),?_⟩
    rcases Classifier.pass_error_cases hf he with
      ⟨before,h,behind,hsplit,herror,hbefore⟩ | ⟨rfl,hs',-⟩
    case inr =>
      exact .inr ⟨rfl,hs',fun k hk => Classifier.standing_pass_of_notMem hs' hk⟩
    refine .inl ⟨before,h,behind,hsplit,hbefore,herror,fun k hk => ?_⟩
    have hedit : ∀ x, (k,x) ∈ c.passEdits pool.front hs → ∃ j ∈ before ++ [h],
        c.isNestedPath (pool.front j) = true ∧ c.articleFor? pool.front hs j = some k ∧
          x.isPromotion = true := by
      intro x hx
      obtain ⟨j,hj,hx⟩ := Classifier.exists_turn_of_mem_of_fails hsplit hbefore herror hx
      exact ⟨j,hj,Classifier.of_mem_edits_of_ne hx fun heq => hk (heq ▸ hj)⟩
    refine ⟨Classifier.samePlace_pass fun x hx => ?_,fun howner => ?_⟩
    · obtain ⟨_,_,_,_,hpromotion⟩ := hedit x hx
      exact hpromotion
    · refine Classifier.standing_pass_of_unedited fun x hx => ?_
      obtain ⟨j,hj,hn,hfor,_⟩ := hedit x hx
      exact howner j hj hn hfor

/-! A pass that breaks off at a picture without an article, when a picture before it has had its own
article promoted, which comes later. -/
namespace Sample

def brokenOff : Pool 4 := #v[
  { path := .proper "2014-a/cover.jpg" },
  { path := .proper "2015-b/cover.jpg" },
  { path := .proper "2014-a.html" },
  { path := .proper "2016-c.html" }]

def reader : Member 4 where
  classifier := classifier
  index := ⟨[⟨3,some "2016-c.html",.ofDate .first⟩]⟩

end Sample

theorem Member.pass_frame_sample :
    let p := Sample.reader.classifier.pass Sample.brokenOff [0,1,2,3]
    (∀ h ∈ ([0,1,2,3] : List (Fin 4)), (Sample.brokenOff.front h).IsProper) ∧
    p.result = .error (.noOwner "2015-b/cover.jpg" "2015-b.html") ∧
    (Sample.reader.afterPass p).index.articles = [3] ∧
    (p.pool.standing 2).kind = .proper .article ∧
    (Sample.brokenOff.standing 2).SamePlace (p.pool.standing 2) ∧
    p.pool.standing 3 = Sample.brokenOff.standing 3 := by
  intro p
  have hf : ∀ h ∈ ([0,1,2,3] : List (Fin 4)), (Sample.brokenOff.front h).IsProper := by
    intro h hh
    simp only [List.mem_cons,List.not_mem_nil,or_false] at hh
    rcases hh with rfl | rfl | rfl | rfl <;>
      exact ⟨trivial,trivial,trivial,trivial,trivial,trivial⟩
  have he : p.result = .error (.noOwner "2015-b/cover.jpg" "2015-b.html") := rfl
  obtain ⟨_,_,_,_,hfails⟩ := Member.pass_frame Sample.reader hf
  obtain ⟨hindex,⟨before,h,behind,hsplit,hbefore,herror,hrest⟩ | ⟨hkind,-⟩⟩ := hfails _ he
  case inr => cases hkind
  have hposition : before = [0] ∧ h = 1 := by
    cases before with
    | nil =>
      obtain ⟨rfl,_⟩ := List.cons.inj hsplit
      cases herror
    | cons a rest =>
      obtain ⟨rfl,htail⟩ := List.cons.inj hsplit
      cases rest with
      | nil => exact ⟨rfl,(List.cons.inj htail).1.symm⟩
      | cons b rest =>
        obtain ⟨rfl,_⟩ := List.cons.inj htail
        cases hbefore 1 (by simp)
  obtain ⟨rfl,rfl⟩ := hposition
  refine ⟨hf,he,?_,rfl,(hrest 2 (by decide)).1,(hrest 3 (by decide)).2 (by decide)⟩
  rw [hindex]
  simp [Sample.reader,Index.articles]

end BlogPaths
