import BlogPaths.Proofs.Drafts
import BlogPaths.Site
import Mathlib.Tactic.Choose

/-! What the queries of a blog read.  The order of an index and its paths are settled when it is
built; languages and tags are read from the articles themselves, where every pass writes them anew.
So a pass that fails may change what the queries answer, but not where the articles are up to date
with the front matter. -/
namespace BlogPaths

open Edit

variable {n : Nat}

namespace Standing

/-- What queries read of an article: its language and its tags, or the type of what stands in its
place. -/
def reading (s : Standing) : Except String (Option String × List String) :=
  match s.article with
  | .proper (some a) => .ok (a.lang,a.tags)
  | .proper none => .error Value.null.typeName
  | .stray v => .error v.typeName

theorem reading_of_article {s : Standing} {a : Article} (h : s.article = .proper (some a)) :
    s.reading = .ok (a.lang,a.tags) := by
  simp [reading,h]

theorem reading_congr {s s' : Standing} (h : s.article = s'.article) : s.reading = s'.reading := by
  simp [reading,h]

theorem map_payload (s : Standing) (part : String) :
    (s.payload part).map (fun a => (a.lang,a.tags)) = s.reading.mapError fun t => ⟨t,part⟩ := by
  unfold payload reading
  cases s.article with
  | proper a => cases a <;> rfl
  | stray v => rfl

end Standing

namespace Index

theorem map_mapM {α β γ ε : Type} {f : α → Except ε β} {g : α → Except ε γ} {r : β → γ}
    {xs : List α} (h : ∀ a ∈ xs, (f a).map r = g a) :
    (xs.mapM f).map (List.map r) = xs.mapM g := by
  induction xs with
  | nil => rfl
  | cons a xs ih =>
    have hxs := ih fun b hb => h b (List.mem_cons_of_mem _ hb)
    rw [List.mapM_cons,List.mapM_cons,← hxs,← h a List.mem_cons_self]
    cases f a with
    | error e => rfl
    | ok b => cases xs.mapM f <;> rfl

theorem mapM_of_ok {α β ε : Type} {f : α → Except ε β} {g : α → β} {xs : List α}
    (h : ∀ a ∈ xs, f a = .ok (g a)) : xs.mapM f = .ok (xs.map g) := by
  induction xs with
  | nil => rfl
  | cons a xs ih =>
    rw [List.mapM_cons,h a List.mem_cons_self,ih fun b hb => h b (List.mem_cons_of_mem _ hb)]
    rfl

def readings (x : Index n) (pool : Pool n) (part : String) :
    Except NoSuchPart (List (Fin n × Option String × List String)) :=
  x.articles.mapM fun k =>
    ((pool.standing k).reading.mapError fun t => ⟨t,part⟩).map fun r => (k,r)

variable {x : Index n} {pool pool' : Pool n}

theorem map_map_payload (s : Standing) (part : String) (k : Fin n) :
    ((s.payload part).map fun a => (k,a)).map (fun f => (f.1,f.2.lang,f.2.tags)) =
      (s.reading.mapError fun t => (⟨t,part⟩ : NoSuchPart)).map fun r => (k,r) := by
  rw [← s.map_payload part]
  cases s.payload part <;> rfl

theorem map_payloads (x : Index n) (pool : Pool n) (part : String) :
    (x.payloads pool part).map (List.map fun f => (f.1,f.2.lang,f.2.tags)) =
      x.readings pool part :=
  map_mapM fun k _ => map_map_payload _ part k

theorem readings_congr
    (h : ∀ k ∈ x.articles, (pool.standing k).reading = (pool'.standing k).reading) (part : String) :
    x.readings pool part = x.readings pool' part := by
  rw [← map_payloads]
  refine map_mapM fun k hk => ?_
  rw [map_map_payload,h k hk]

theorem inLanguage_eq (x : Index n) (pool : Pool n) (lang : Assigned (Option String)) :
    x.inLanguage pool lang = (x.readings pool "lang").map fun found =>
      (found.filter fun r => lang.proper? == some r.2.1).map (·.1) := by
  rw [← map_payloads,inLanguage]
  cases x.payloads pool "lang" with
  | error e => rfl
  | ok found => simp [Except.map,List.filter_map,Function.comp_def]

theorem inLanguage_of_reading {language : Fin n → Option String}
    (h : ∀ k ∈ x.articles, ∃ tags, (pool.standing k).reading = .ok (language k,tags))
    (lang : Option String) :
    x.inLanguage pool (.proper lang) = .ok (x.articles.filter fun k => language k = lang) := by
  choose! tags htags using h
  have hreadings : x.readings pool "lang" = .ok (x.articles.map fun k => (k,language k,tags k)) :=
    mapM_of_ok fun k hk => by rw [htags k hk]; rfl
  have hfilter : ∀ k, (lang == language k) = decide (language k = lang) := by
    intro k
    rw [Bool.eq_iff_iff,beq_iff_eq,decide_eq_true_iff]
    exact eq_comm
  rw [inLanguage_eq,hreadings]
  simp [Except.map,List.filter_map,Function.comp_def,hfilter]

theorem tags_eq (x : Index n) (pool : Pool n) :
    x.tags pool = (x.readings pool "tags").map fun found =>
      found.foldl (fun groups r =>
        r.2.2.foldl (fun groups tag => addToGroup r.1 tag groups) groups) [] := by
  rw [← map_payloads,tags]
  cases x.payloads pool "tags" with
  | error e => rfl
  | ok found =>
    simp only [Except.map,List.foldl_map]
    rfl

theorem mem_articles {k : Fin n} : k ∈ x.articles ↔ ∃ e ∈ x.entries, e.handle = k := by
  simp [articles]

theorem tags_of_single {e : IndexEntry n} (h : x.entries = [e]) {lang : Option String}
    {tags : List String} (hr : (pool.standing e.handle).reading = .ok (lang,tags))
    {groups : List (String × List (Fin n))}
    (hg : tags.foldl (fun groups tag => addToGroup e.handle tag groups) [] = groups) :
    x.tags pool = .ok groups := by
  have harticles : x.articles = [e.handle] := by simp [articles,h]
  rw [tags_eq,readings,harticles,List.mapM_cons,hr,← hg]
  rfl

/-- Every query has the same answer in two states of an index and a pool. -/
structure SameAnswers (x : Index n) (pool : Pool n) (x' : Index n) (pool' : Pool n) : Prop where
  articles_eq : x.articles = x'.articles
  inLanguage_eq : ∀ lang, x.inLanguage pool lang = x'.inLanguage pool' lang
  tags_eq : x.tags pool = x'.tags pool'
  byPath?_eq : ∀ path, x.byPath? path = x'.byPath? path

/-- An index has the same answers for pools in which its articles read the same. -/
theorem sameAnswers_of_reading
    (h : ∀ e ∈ x.entries, (pool.standing e.handle).reading = (pool'.standing e.handle).reading) :
    SameAnswers x pool x pool' := by
  have hread : ∀ part, x.readings pool part = x.readings pool' part := by
    refine fun part => readings_congr (fun k hk => ?_) part
    obtain ⟨e,he,rfl⟩ := mem_articles.mp hk
    exact h e he
  refine ⟨rfl,fun lang => ?_,?_,fun _ => rfl⟩
  · rw [inLanguage_eq,inLanguage_eq,hread]
  · rw [tags_eq,tags_eq,hread]

end Index

namespace Classifier

/-- What queries are to read of a resource if the classifier takes it for an article. -/
def reading? (c : Classifier) (f : FrontMatter) : Option (Option String × List String) := do
  let path ← f.path.proper?
  let m ← PathMatch.article? c.articleSegments path
  let lang ← (c.languageOf f (c.pattern.captures m)).toOption
  let lang ← (lang.check "lang" (Value.readOptional Value.readString)).toOption
  let tags ← (f.tags.check "tags" (Value.readList Value.readString)).toOption
  return (lang,tags)

theorem reading?_congr (c : Classifier) {f f' : FrontMatter} (hp : f.path = f'.path)
    (hl : f.lang = f'.lang) (ht : f.tags = f'.tags) : c.reading? f = c.reading? f' := by
  have hlang : ∀ captures, c.languageOf f captures = c.languageOf f' captures := by
    intro captures
    simp only [languageOf,givenLanguage,hl]
  simp only [reading?,hp,hlang,ht]

theorem articleOf_eq_ok {c : Classifier} {f : FrontMatter} {path : String} {captures : Captures}
    {lang : Assigned (Option String)} {a : Article}
    (h : c.articleOf f path captures lang = .ok a) :
    lang.check "lang" (Value.readOptional Value.readString) = .ok a.lang ∧
      f.tags.check "tags" (Value.readList Value.readString) = .ok a.tags := by
  unfold articleOf at h
  cases hd : c.dateOf f path captures with
  | error e => simp [hd,bind,Except.bind] at h
  | ok date =>
    cases hs : slugOf f captures with
    | error e => simp [hd,hs,bind,Except.bind,Except.mapError] at h
    | ok slug =>
      simp only [hd,hs,bind,Except.bind,Except.mapError] at h
      split at h
      · rename_i hfields
        cases h
        simp only [Checked.seq_eq_ok,Checked.map_eq_ok] at hfields
        obtain ⟨_,_,⟨_,_,⟨_,_,⟨_,hlang,rfl⟩,_,rfl⟩,htags,rfl⟩,_,rfl⟩ := hfields
        exact ⟨hlang,htags⟩
      · cases h

section

variable {c d : Classifier} {front : Fin n → FrontMatter} {pool : Pool n} {hs : List (Fin n)}
  {k : Fin n}

theorem IsArticle.reading?_eq {path : String} {m : PathMatch} {a : Article}
    (ha : c.IsArticle front k path m a) : c.reading? (front k) = some (a.lang,a.tags) := by
  have hpromote := ha.promote_eq
  unfold promote at hpromote
  cases hl : c.languageOf (front k) (c.pattern.captures m) with
  | error e => simp [hl] at hpromote
  | ok lang =>
    cases hq : c.articleOf (front k) path (c.pattern.captures m) lang with
    | error e => simp [hl,hq] at hpromote
    | ok a' =>
      have haa : a' = a := by simpa [hl,hq] using hpromote
      obtain ⟨hlang,htags⟩ := articleOf_eq_ok hq
      simp [reading?,ha.path_eq,ha.match_eq,hl,hlang,htags,Except.toOption,Checked.toOption,haa]

/-- A pass promotes a resource and describes it anew, or leaves its article as it was. -/
theorem article_pass (c : Classifier) (pool : Pool n) (hs : List (Fin n)) (k : Fin n) :
    (¬ c.Promotes pool.front hs k ∧
      ((c.pass pool hs).pool.standing k).article = (pool.standing k).article) ∨
    (c.Promotes pool.front hs k ∧ ∃ path m a, c.IsArticle pool.front k path m a ∧
      ((c.pass pool hs).pool.standing k).article = .proper (some a)) := by
  have hget := StandingField.article.get_applyAll (pool.standing k)
    (editsOn k (c.passEdits pool.front hs))
  rw [← standing_pass_eq] at hget
  cases hl : StandingField.article.last? (editsOn k (c.passEdits pool.front hs)) with
  | none =>
    rw [hl] at hget
    refine .inl ⟨fun ⟨a,he⟩ => ?_,hget⟩
    cases StandingField.last?_eq_none_iff.mp hl _ (Edit.mem_editsOn.mpr he)
  | some b =>
    obtain ⟨e,he,hw⟩ := StandingField.mem_of_last? hl
    obtain ⟨a,rfl⟩ := StandingField.isSome_written?_article.mp (Option.isSome_of_eq_some hw)
    have hdescribe := Edit.mem_editsOn.mp he
    obtain ⟨_,path,m,ha⟩ := isArticle_of_describe hdescribe
    rw [hl,← hw] at hget
    exact .inr ⟨⟨a,hdescribe⟩,path,m,a,ha,hget⟩

theorem mem_of_entry (hs' : c.Succeeds front hs) {e : IndexEntry n}
    (he : e ∈ (outcome (c.turns front hs)).index.entries) :
    e.handle ∈ hs ∧ c.isArticlePath (front e.handle) = true := by
  have hhandle := List.mem_map_of_mem (f := fun x => x.handle) he
  rw [handles_eq_filter hs',kept_eq_filter hs'] at hhandle
  obtain ⟨hkept,hpath⟩ := List.mem_filter.mp hhandle
  exact ⟨(List.mem_filter.mp hkept).1,hpath⟩

/-- What queries read of a resource is what the front matter gives now. -/
def IsCurrent (c : Classifier) (f : FrontMatter) (s : Standing) : Prop :=
  ∃ r, c.reading? f = some r ∧ s.reading = .ok r

theorem isCurrent_of_promotes (h : c.Promotes pool.front hs k) :
    c.IsCurrent (pool.front k) ((c.pass pool hs).pool.standing k) := by
  rcases c.article_pass pool hs k with ⟨hno,_⟩ | ⟨_,path,m,a,ha,heq⟩
  · exact absurd h hno
  · exact ⟨_,ha.reading?_eq,Standing.reading_of_article heq⟩

/-- A pass leaves what queries read of a resource as it was, if what it promotes is up to date and
it reads the same of it. -/
theorem reading_pass
    (hk : d.Promotes pool.front hs k → c.IsCurrent (pool.front k) (pool.standing k))
    (hd : ∀ r, d.reading? (pool.front k) = some r → c.reading? (pool.front k) = some r) :
    ((d.pass pool hs).pool.standing k).reading = (pool.standing k).reading := by
  rcases d.article_pass pool hs k with ⟨_,heq⟩ | ⟨hpromotes,path,m,a,ha,heq⟩
  · exact Standing.reading_congr heq
  · obtain ⟨r,hr,hread⟩ := hk hpromotes
    have hsame := (hd _ ha.reading?_eq).symm.trans hr
    rw [Standing.reading_of_article heq,hread,Option.some.inj hsame]

theorem reading_pass_iff :
    ((c.pass pool hs).pool.standing k).reading = (pool.standing k).reading ↔
      (c.Promotes pool.front hs k → c.IsCurrent (pool.front k) (pool.standing k)) := by
  constructor
  · intro heq hpromotes
    obtain ⟨r,hr,hread⟩ := isCurrent_of_promotes hpromotes
    exact ⟨r,hr,heq.symm.trans hread⟩
  · exact fun hk => reading_pass hk fun _ hr => hr

end

end Classifier

namespace Member

/-- The articles of a member say of language and tags what their front matter gives now. -/
def IsCurrent (m : Member n) (pool : Pool n) : Prop :=
  ∀ e ∈ m.index.entries, m.classifier.IsCurrent (pool.front e.handle) (pool.standing e.handle)

variable {m : Member n} {pool : Pool n} {hs : List (Fin n)}

theorem afterPass_of_error {p : Pass n} {e : PassError} (h : p.result = .error e) :
    m.afterPass p = m := by
  simp [afterPass,h]

theorem isCurrent_of_ok {found : Classified n}
    (h : (m.classifier.pass pool hs).result = .ok found) :
    (m.afterPass (m.classifier.pass pool hs)).IsCurrent (m.classifier.pass pool hs).pool := by
  obtain ⟨hs',-,rfl⟩ := Classifier.pass_eq_ok_iff.mp h
  have hmember : m.afterPass (m.classifier.pass pool hs) =
      { m with index := (Classifier.outcome (m.classifier.turns pool.front hs)).index } := by
    simp [afterPass,h]
  rw [hmember]
  intro e he
  obtain ⟨hmem,hpath⟩ := Classifier.mem_of_entry hs' he
  rw [Classifier.front_pass]
  exact Classifier.isCurrent_of_promotes (Classifier.promotes_of_succeeds hs' hmem hpath)

theorem IsCurrent.pass {d : Classifier} (hm : m.IsCurrent pool)
    (hd : ∀ e ∈ m.index.entries, ∀ r, d.reading? (pool.front e.handle) = some r →
      m.classifier.reading? (pool.front e.handle) = some r) :
    m.IsCurrent (d.pass pool hs).pool := by
  intro e he
  obtain ⟨r,hr,hread⟩ := hm e he
  rw [Classifier.front_pass]
  exact ⟨r,hr,(Classifier.reading_pass (fun _ => hm e he) (hd e he)).trans hread⟩

theorem IsCurrent.afterPass (hm : m.IsCurrent pool) (hs : List (Fin n)) :
    (m.afterPass (m.classifier.pass pool hs)).IsCurrent (m.classifier.pass pool hs).pool := by
  cases h : (m.classifier.pass pool hs).result with
  | ok found => exact isCurrent_of_ok h
  | error e =>
    rw [afterPass_of_error h]
    exact hm.pass fun _ _ _ hr => hr

/-- A pass that fails leaves the answers as they were if the articles that it promoted are up to
date. -/
theorem sameAnswers_of_error {e : PassError}
    (h : (m.classifier.pass pool hs).result = .error e)
    (hm : ∀ x ∈ m.index.entries, m.classifier.Promotes pool.front hs x.handle →
      m.classifier.IsCurrent (pool.front x.handle) (pool.standing x.handle)) :
    Index.SameAnswers (m.afterPass (m.classifier.pass pool hs)).index
      (m.classifier.pass pool hs).pool m.index pool := by
  rw [afterPass_of_error h]
  exact Index.sameAnswers_of_reading fun x hx => Classifier.reading_pass_iff.mpr (hm x hx)

end Member

end BlogPaths
