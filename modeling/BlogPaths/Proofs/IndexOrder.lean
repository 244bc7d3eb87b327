import BlogPaths.Proofs.Answers
import BlogPaths.Proofs.Clock

/-! What an index answers, whatever articles it is built of.  It lists them newest first and finds by a
path the last that came with it. -/
namespace BlogPaths

open Calendar

variable {n : Nat}

namespace Index

/-- Going through an index visits its articles in their order. -/
theorem forIn_collect (x : Index n) :
    (Id.run do
      let mut visited : List (Fin n) := []
      for k in x do visited := visited ++ [k]
      return visited) = x.articles := by
  have hloop : ∀ ks visited : List (Fin n),
      ks.foldl (fun visited k => visited ++ [k]) visited = visited ++ ks := by
    intro ks
    induction ks with
    | nil => simp
    | cons k ks ih => simp [ih]
  have hfold := List.forIn_pure_yield_eq_foldl (m := Id) (l := x.articles)
    (fun k visited => visited ++ [k]) []
  exact hfold.trans (hloop x.articles [])

variable {pool : Pool n} {hs : List (Fin n)} {path : Fin n → String} {article : Fin n → Article}

/-- One of the dates of the resources `hs` tells its offset, and another one does not. -/
def TellApart (hs : List (Fin n)) (date : Fin n → Timestamp) : Prop :=
  ∃ j ∈ hs, ∃ k ∈ hs, (date j).offset?.isSome = true ∧ (date k).offset? = none

instance (hs : List (Fin n)) (date : Fin n → Timestamp) : Decidable (TellApart hs date) :=
  inferInstanceAs (Decidable (∃ j ∈ hs, ∃ k ∈ hs, _))

theorem isSortable_map_iff {e : Fin n → IndexEntry n} :
    (⟨hs.map e⟩ : Index n).isSortable = true ↔ ¬ TellApart hs fun k => (e k).date := by
  simp only [isSortable_iff,List.forall_mem_map,Timestamp.comparable_iff,TellApart]
  constructor
  · rintro hsame ⟨j,hj,k,hk,hsome,hnone⟩
    have := hsame j hj k hk
    simp [hsome,hnone] at this
  · intro hno j hj k hk
    cases hoj : (e j).date.offset? with
    | none =>
      cases hok : (e k).date.offset? with
      | none => rfl
      | some o => exact absurd ⟨k,hk,j,hj,by simp [hok],hoj⟩ hno
    | some o =>
      cases hok : (e k).date.offset? with
      | none => exact absurd ⟨j,hj,k,hk,by simp [hoj],hok⟩ hno
      | some o' => rfl

theorem ofHandles_eq (hp : ∀ k ∈ hs, (pool.front k).path = .proper (path k))
    (ha : ∀ k ∈ hs, (pool.standing k).article = .proper (some (article k))) :
    ofHandles pool hs =
      if (⟨hs.map fun k => ⟨k,some (path k),(article k).date⟩⟩ : Index n).isSortable then
        .ok ⟨hs.map fun k => ⟨k,some (path k),(article k).date⟩⟩
      else .error .datesApart := by
  have hentries : (hs.mapM fun k => ((pool.standing k).payload "date").map (entryOf pool k)) =
      .ok (hs.map fun k => ⟨k,some (path k),(article k).date⟩) := by
    refine mapM_of_ok fun k hk => ?_
    rw [Standing.payload,ha k hk]
    simp [Except.map,entryOf,hp k hk]
  rw [ofHandles,hentries]

theorem articles_map {e : Fin n → IndexEntry n} (he : ∀ k, (e k).handle = k) :
    (⟨hs.map e⟩ : Index n).articles =
      hs.mergeSort fun a b => (e b).date.notAfter (e a).date := by
  have hsort : (hs.mergeSort fun a b => (e b).date.notAfter (e a).date).map e =
      (hs.map e).mergeSort fun a b => b.date.notAfter a.date :=
    List.map_mergeSort fun _ _ _ _ => rfl
  rw [articles,← hsort,List.map_map]
  simp [Function.comp_def,he]

theorem byPath?_map {e : Fin n → IndexEntry n} (he : ∀ k, (e k).handle = k) (p : String) :
    (⟨hs.map e⟩ : Index n).byPath? p = hs.reverse.find? fun k => (e k).path == some p := by
  rw [byPath?,← List.map_reverse,List.find?_map,Option.map_map]
  simp [Function.comp_def,he]

theorem find?_reverse_eq_some_iff {α : Type} {p : α → Bool} {xs : List α} {a : α} :
    xs.reverse.find? p = some a ↔
      ∃ before behind, xs = before ++ a :: behind ∧ p a = true ∧ ∀ b ∈ behind, p b = false := by
  rw [List.find?_eq_some_iff_append]
  constructor
  · rintro ⟨hp,as,bs,he,hnone⟩
    refine ⟨bs.reverse,as.reverse,?_,hp,fun b hb => ?_⟩
    · rw [← List.reverse_reverse xs,he]
      simp
    · simpa using hnone b (List.mem_reverse.mp hb)
  · rintro ⟨before,behind,rfl,hp,hnone⟩
    refine ⟨hp,behind.reverse,before.reverse,by simp,fun b hb => ?_⟩
    simpa using hnone b (List.mem_reverse.mp hb)

/-- An index is built of any resources that are articles, unless some of their dates tell their offset
and some do not.  It lists each as often as it came, and is gone through in this order; where dates of
one place agree with the clock, this is the one order that has the later first, by the clock, and those
of the same instant as they came.  In a language the index lists those that are written in it, and at a
path it finds the last that came with it, if it contains the path. -/
theorem ofHandles_newestFirst {clock : Timestamp → Int} (hc : IsClock clock)
    (hp : ∀ k ∈ hs, (pool.front k).path = .proper (path k))
    (ha : ∀ k ∈ hs, (pool.standing k).article = .proper (some (article k))) :
    (TellApart hs (fun k => (article k).date) → ofHandles pool hs = .error .datesApart) ∧
    (¬ TellApart hs (fun k => (article k).date) → ∃ x, ofHandles pool hs = .ok x ∧
      x.articles.Perm hs ∧
      ((∀ j ∈ hs, ∀ k ∈ hs, (article j).date.Agrees (article k).date) →
        ∀ ks, IsNewestFirst (fun k => clock (article k).date) hs ks ↔ ks = x.articles) ∧
      (Id.run do
        let mut visited : List (Fin n) := []
        for k in x do visited := visited ++ [k]
        return visited) = x.articles ∧
      x.size = hs.length ∧
      (∀ lang, x.inLanguage pool (.proper lang) =
        .ok (x.articles.filter fun k => (article k).lang = lang)) ∧
      ∀ p, (∀ k, x.byPath? p = some k ↔
          ∃ before behind, hs = before ++ k :: behind ∧ path k = p ∧ ∀ j ∈ behind, path j ≠ p) ∧
        (x.byPath? p = none ↔ x.contains p = false) ∧
        (x.contains p = true ↔ ∃ k ∈ hs, path k = p)) := by
  obtain rfl := hc.eq_instant
  let e : Fin n → IndexEntry n := fun k => ⟨k,some (path k),(article k).date⟩
  have hsortable : (⟨hs.map e⟩ : Index n).isSortable = true ↔
      ¬ TellApart hs fun k => (article k).date := isSortable_map_iff
  rw [ofHandles_eq hp ha]
  refine ⟨fun hapart => if_neg fun hsort => hsortable.mp hsort hapart,fun happart =>
    ⟨⟨hs.map e⟩,if_pos (hsortable.mpr happart),?_⟩⟩
  have harticles : (⟨hs.map e⟩ : Index n).articles =
      hs.mergeSort fun a b => (article b).date.notAfter (article a).date :=
    articles_map fun _ => rfl
  have hperm : (⟨hs.map e⟩ : Index n).articles.Perm hs := by
    rw [harticles]
    exact List.mergeSort_perm _ _
  have hcontains : ∀ p, (⟨hs.map e⟩ : Index n).contains p = true ↔ ∃ k ∈ hs, path k = p := by
    intro p
    simp [contains,e]
  refine ⟨hperm,fun hagrees ks => ?_,forIn_collect _,by simp [size],
    fun lang => inLanguage_of_reading (fun k hk => ?_) lang,fun p => ⟨fun k => ?_,?_,hcontains p⟩⟩
  · have hnewest := isNewestFirst_mergeSort (fun k => (article k).date.instant) hs
    have hsort : (⟨hs.map e⟩ : Index n).articles =
        hs.mergeSort fun a b => (article b).date.instant ≤ (article a).date.instant := by
      rw [harticles]
      exact mergeSort_congr fun a ha b hb => (hagrees b hb a ha).notAfter_eq
    rw [hsort]
    exact ⟨fun h => h.unique hnewest,fun h => h ▸ hnewest⟩
  · exact ⟨(article k).tags,Standing.reading_of_article (ha k (hperm.mem_iff.mp hk))⟩
  · rw [byPath?_map fun _ => rfl,find?_reverse_eq_some_iff]
    simp [e]
  · rw [byPath?_map (fun _ => rfl),List.find?_eq_none,← Bool.not_eq_true,hcontains]
    simp [e]

end Index

/-! Three articles at the beginning of the calendar.  The first two have one path and are of the same
instant, which by universal time is before the first year. -/
namespace Sample

def published {n : Nat} (path : Fin n → String) (article : Fin n → Article) : Pool n :=
  Vector.ofFn fun k => { path := .proper (path k), article := .proper (some (article k)) }

@[simp] theorem path_published {path : Fin n → String} {article : Fin n → Article} {k : Fin n} :
    ((published path article).front k).path = .proper (path k) := by
  simp [published,Pool.front]

@[simp] theorem article_published {path : Fin n → String} {article : Fin n → Article} {k : Fin n} :
    ((published path article).standing k).article = .proper (some (article k)) := by
  simp [published,Pool.standing]

def earlyArticle : Fin 3 → Article
  | 0 => { date := { date := .first, minute := 30, zone := some (.fixed 3600000000) }, slug := "a" }
  | 1 => { date := { date := .first, hour := 1, minute := 30, zone := some (.fixed 7200000000) }
           slug := "b", lang := some "en" }
  | 2 => { date := .ofDate .first, slug := "c" }

def earlyPath : Fin 3 → String
  | 0 => "x.html"
  | 1 => "x.html"
  | 2 => "z.html"

end Sample

theorem Index.ofHandles_newestFirst_sample :
    IsClock Timestamp.instant ∧
    ∃ x, ofHandles (Sample.published Sample.earlyPath Sample.earlyArticle) [1,0,2,1] = .ok x ∧
      x.articles = [2,1,0,1] ∧ x.size = 4 ∧
      x.inLanguage (Sample.published Sample.earlyPath Sample.earlyArticle) (.proper (some "en")) =
        .ok [1,1] ∧
      x.byPath? "x.html" = some 1 ∧ x.contains "y.html" = false := by
  have hinstant : ∀ k : Fin 3, (Sample.earlyArticle k).date.instant =
      if k = 2 then 0 else -1800000000 := by decide
  have happart : ¬ TellApart [1,0,2,1] fun k => (Sample.earlyArticle k).date := by decide
  have hagrees : ∀ j ∈ ([1,0,2,1] : List (Fin 3)), ∀ k ∈ ([1,0,2,1] : List (Fin 3)),
      (Sample.earlyArticle j).date.Agrees (Sample.earlyArticle k).date := by decide
  obtain ⟨x,hx,-,hnewest,-,hsize,hlang,hpath⟩ := (ofHandles_newestFirst isClock_instant
    (fun _ _ => Sample.path_published) fun _ _ => Sample.article_published).2 happart
  have harticles : [2,1,0,1] = x.articles := by
    refine (hnewest hagrees _).mp ⟨by decide,?_,fun t => ?_⟩
    · simp only [hinstant]
      decide
    · simp only [hinstant]
      by_cases hfirst : (0 : Int) = t <;> by_cases hbefore : (-1800000000 : Int) = t <;>
        simp [hfirst,hbefore]
      all_goals omega
  refine ⟨isClock_instant,x,hx,harticles.symm,hsize,?_,?_,?_⟩
  · rw [hlang,← harticles]
    decide
  · exact ((hpath "x.html").1 1).mpr ⟨[1,0,2],[],by decide,by decide,by simp⟩
  · have hnone : ¬ ∃ k ∈ ([1,0,2,1] : List (Fin 3)), Sample.earlyPath k = "y.html" := by decide
    exact Bool.eq_false_iff.mpr fun h => hnone ((hpath "y.html").2.2.mp h)

/-! Two articles of the hour that the clocks of Berlin show twice: the second is written later, but the
clock shows less.  And the articles of above, one of which has been given another date. -/
namespace Sample

def autumnArticle : Fin 2 → Article
  | 0 => { date := autumnNight 30 7200000000, slug := "a" }
  | 1 => { date := autumnNight 15 3600000000, slug := "b" }

def autumnPath : Fin 2 → String
  | 0 => "a.html"
  | 1 => "b.html"

def redatedArticle : Fin 3 → Article
  | 1 => { date := { date := .first, hour := 1 }, slug := "b" }
  | k => earlyArticle k

end Sample

theorem Index.exists_articles_eq_pair {path : Fin n → String} {article : Fin n → Article} {j k : Fin n}
    (happart : ¬ TellApart [j,k] fun i => (article i).date)
    (hle : (article k).date.notAfter (article j).date = true) :
    ∃ x, ofHandles (Sample.published path article) [j,k] = .ok x ∧ x.articles = [j,k] := by
  refine ⟨_,(ofHandles_eq (fun _ _ => Sample.path_published) fun _ _ =>
    Sample.article_published).trans (if_pos (isSortable_map_iff.mpr happart)),?_⟩
  rw [articles_map fun _ => rfl]
  exact List.mergeSort_of_pairwise (by simpa using hle)

theorem Index.articles_not_newestFirst :
    (∃ x, ofHandles (Sample.published Sample.autumnPath Sample.autumnArticle) [0,1] = .ok x ∧
      ¬ IsNewestFirst (fun k => (Sample.autumnArticle k).date.instant) [0,1] x.articles) ∧
    ∃ x, ofHandles (Sample.published Sample.earlyPath Sample.earlyArticle) [2,1] = .ok x ∧
      ¬ IsNewestFirst (fun k => (Sample.redatedArticle k).date.instant) [2,1] x.articles := by
  obtain ⟨x,hx,hxs⟩ : ∃ x, ofHandles (Sample.published Sample.autumnPath Sample.autumnArticle)
      [0,1] = .ok x ∧ x.articles = [0,1] := exists_articles_eq_pair (by decide) (by decide)
  obtain ⟨y,hy,hys⟩ : ∃ y, ofHandles (Sample.published Sample.earlyPath Sample.earlyArticle)
      [2,1] = .ok y ∧ y.articles = [2,1] := exists_articles_eq_pair (by decide) (by decide)
  refine ⟨⟨x,hx,fun h => ?_⟩,y,hy,fun h => ?_⟩
  · have hdescending := h.descending
    rw [hxs] at hdescending
    revert hdescending
    decide
  · have hdescending := h.descending
    rw [hys] at hdescending
    revert hdescending
    decide

theorem Index.ofHandles_map_handle {pool : Pool n} {es : List (IndexEntry n)}
    (h : ∀ e ∈ es, ∃ a, (pool.standing e.handle).article = .proper (some a) ∧
      entryOf pool e.handle a = e) (hsort : (⟨es⟩ : Index n).isSortable = true) :
    ofHandles pool (es.map (·.handle)) = .ok ⟨es⟩ := by
  have hentries : (es.map (·.handle)).mapM
      (fun k => ((pool.standing k).payload "date").map (entryOf pool k)) = .ok es := by
    rw [List.mapM_map]
    refine (mapM_of_ok (g := id) fun e he => ?_).trans (by rw [List.map_id])
    obtain ⟨a,ha,hentry⟩ := h e he
    simp [Standing.payload,ha,Except.map,hentry]
  rw [ofHandles,hentries]
  exact if_pos hsort

/-- A pass that succeeds builds the index of the articles among the resources that it returns. -/
theorem Classifier.ofHandles_pass {c : Classifier} {pool : Pool n} {hs : List (Fin n)}
    {found : Classified n} (h : (c.pass pool hs).result = .ok found) :
    Index.ofHandles (c.pass pool hs).pool
      (found.kept.filter fun k => c.isArticlePath (pool.front k)) = .ok found.index := by
  obtain ⟨hs',hsort,rfl⟩ := pass_eq_ok_iff.mp h
  rw [← handles_eq_filter hs']
  refine Index.ofHandles_map_handle (fun e he => ?_) hsort
  rw [entries_outcome_turns] at he
  obtain ⟨k,hk,he⟩ := List.mem_filterMap.mp he
  have ht := settles_turn (hs' k hk)
  generalize c.turn pool.front hs k = t at ht he
  cases ht with
  | article ha hv hr =>
    cases he
    rw [standing_of_visible hs' hk ha hv hr]
    exact ⟨_,rfl,by simp [Index.entryOf,ha.path_eq]⟩
  | _ => cases he

end BlogPaths
