import BlogPaths.Proofs.Answers
import BlogPaths.Proofs.Lacks

/-! Queries in a language.  The language of an article and the language of a query are brought to one
form by the same policy, or are both kept as they are. -/
namespace BlogPaths

variable {n : Nat}

/-- The language in which a resource is written: the one in its path where the template asks for it,
and the one in the front matter otherwise. -/
def SourcePattern.writtenLanguage (p : SourcePattern) (f : FrontMatter) : Option String :=
  if .lang ∈ Segment.fields p.segments then do
    let path ← f.path.proper?
    let m ← PathMatch.article? p.segments path
    (p.captures m).lookup "lang"
  else f.lang.proper?.join

namespace Classifier

variable {c : Classifier} {f : FrontMatter} {path : String} {m : PathMatch}

theorem givenLanguage_eq (hf : f.IsProper) (hn : (Segment.fields c.pattern.segments).Nodup)
    (hp : f.path = .proper path) (hm : PathMatch.article? c.pattern.segments path = some m) :
    givenLanguage f (c.pattern.captures m) = .proper (c.pattern.writtenLanguage f) := by
  obtain ⟨as,s,hd,hcap⟩ := SourcePattern.captures_of_article? hm
  by_cases hl : .lang ∈ Segment.fields c.pattern.segments
  · obtain ⟨a,hfa,hadm⟩ := exists_captured hd hl
    have hlookup : (c.pattern.captures m).lookup "lang" = some (String.ofList a) := by
      rw [hcap]
      exact lookup_captured hn hfa
    have hne := SourceField.ofList_ne_empty hadm
    simp [givenLanguage,SourcePattern.writtenLanguage,hl,hp,hm,hlookup,hne]
  · have hlookup : (c.pattern.captures m).lookup "lang" = none := by
      rw [hcap]
      exact lookup_captured_eq_none (f := .lang) hl
    obtain ⟨lang,hlang⟩ := hf.2.1.exists_eq
    simp [givenLanguage,SourcePattern.writtenLanguage,hl,hlookup,hlang]

theorem language_of_reading? (hf : f.IsProper) (hn : (Segment.fields c.pattern.segments).Nodup)
    (hseg : c.articleSegments = c.pattern.segments) {lang : Option String} {tags : List String}
    (h : c.reading? f = some (lang,tags)) :
    lang = c.languageForm (c.pattern.writtenLanguage f) := by
  simp only [reading?,Option.bind_eq_bind,Option.bind_eq_some_iff] at h
  obtain ⟨path,hp,m,hm,given,hgiven,lang',hlang,tags',_,he⟩ := h
  rw [languageOf_of_given
    (givenLanguage_eq hf hn (Assigned.proper?_eq_some.mp hp) (hseg ▸ hm))] at hgiven
  cases hgiven
  cases hlang
  cases he
  rfl

theorem reading_of_articles {pool : Pool n} {hs : List (Fin n)} {found : Classified n}
    (hn : (Segment.fields c.pattern.segments).Nodup) (hseg : c.articleSegments = c.pattern.segments)
    (hf : ∀ k ∈ hs, (pool.front k).IsProper) (h : (c.pass pool hs).result = .ok found) {k : Fin n}
    (hk : k ∈ found.index.articles) :
    ∃ tags, ((c.pass pool hs).pool.standing k).reading =
      .ok (c.languageForm (c.pattern.writtenLanguage (pool.front k)),tags) := by
  obtain ⟨hs',-,rfl⟩ := pass_eq_ok_iff.mp h
  obtain ⟨e,he,rfl⟩ := Index.mem_articles.mp hk
  obtain ⟨hmem,hpath⟩ := mem_of_entry hs' he
  obtain ⟨⟨lang,tags⟩,hr,hread⟩ := isCurrent_of_promotes (promotes_of_succeeds hs' hmem hpath)
  exact ⟨tags,by rw [hread,language_of_reading? (hf _ hmem) hn hseg hr]⟩

end Classifier

namespace Blog

variable {o : BlogOptions} {controller : Value} {policy : LanguagePolicy} {b : Blog}

/-- A blog is made of its options and its policy, and its classifier looks for the articles of its
template. -/
structure IsMadeOf (b : Blog) (o : BlogOptions) (policy : LanguagePolicy) : Prop where
  compile_eq : SourcePattern.compile o.sources = .ok b.classifier.pattern
  articleSegments_eq : b.classifier.articleSegments = b.classifier.pattern.segments
  options_eq : b.options = o
  preserveLocale_eq : b.classifier.preserveLocale = o.preserveLocale
  policy_eq : b.classifier.policy = policy

theorem isMadeOf_of_ofOptions (h : ofOptions o controller policy = .ok b) :
    b.IsMadeOf o policy := by
  unfold ofOptions at h
  cases hs : SourcePattern.compile o.sources with
  | error e => simp [hs,bind,Except.bind] at h
  | ok pattern =>
    cases hp : Permalink.compile o.permalink with
    | error e => simp [hs,hp,bind,Except.bind] at h
    | ok permalink =>
      simp only [hs,hp,bind,Except.bind,pure,Except.pure,Except.ok.injEq] at h
      subst h
      exact ⟨hs,rfl,rfl,rfl,rfl⟩

theorem IsMadeOf.languageForm_eq (hb : b.IsMadeOf o policy) :
    b.classifier.languageForm = if o.preserveLocale then id else policy.apply := by
  rw [Classifier.languageForm,hb.preserveLocale_eq,hb.policy_eq]

theorem askedLanguage?_proper (b : Blog) (q : Option String) :
    b.askedLanguage? (.proper q) =
      ((q.filter (· ≠ "")).or b.options.defaultLocale).map fun s => .proper (some s) := by
  cases q with
  | none => rfl
  | some s => by_cases hs : s = "" <;> simp [askedLanguage?,hs,Option.filter]

theorem queryLanguage_proper (hb : b.IsMadeOf o policy) (q : Option String) :
    b.queryLanguage (.proper q) =
      match (q.filter (· ≠ "")).or o.defaultLocale with
      | none => .error .noLanguage
      | some lang => .ok (.proper (b.classifier.languageForm (some lang))) := by
  unfold queryLanguage
  rw [askedLanguage?_proper,hb.languageForm_eq,hb.options_eq,hb.policy_eq]
  cases (q.filter (· ≠ "")).or o.defaultLocale with
  | none => rfl
  | some lang => cases o.preserveLocale <;> rfl

theorem articlesIn_of_none (hb : b.IsMadeOf o policy) (x : Index n) (pool : Pool n)
    {q : Option String} (h : (q.filter (· ≠ "")).or o.defaultLocale = none) :
    b.articlesIn x pool (.proper q) = .error .noLanguage := by
  rw [articlesIn,queryLanguage_proper hb,h]
  rfl

theorem articlesIn_of_some (hb : b.IsMadeOf o policy) (x : Index n) (pool : Pool n)
    {q : Option String} {lang : String}
    (h : (q.filter (· ≠ "")).or o.defaultLocale = some lang) :
    b.articlesIn x pool (.proper q) =
      (x.inLanguage pool (.proper (b.classifier.languageForm (some lang)))).mapError
        fun e => .value (.noSuchPart e) := by
  rw [articlesIn,queryLanguage_proper hb,h]
  rfl

/-- After a pass that succeeds, a query in a language finds no language if neither it nor the blog
has one.  Otherwise it finds all articles, newest first, whose language and the one that is asked for
are the same under the policy of the blog, or as they are if the blog keeps languages. -/
theorem articlesIn_afterPass (hb : ofOptions o controller policy = .ok b) {pool : Pool n}
    {hs : List (Fin n)} {found : Classified n} (hf : ∀ k ∈ hs, (pool.front k).IsProper)
    (h : (b.classifier.pass pool hs).result = .ok found) (q : Option String) :
    let p := b.classifier.pass pool hs
    let m := (Member.ofBlog b).afterPass p
    let asked := (q.filter (· ≠ "")).or o.defaultLocale
    let normal := if o.preserveLocale then id else policy.apply
    (m.articlesIn p.pool (.proper q) = .error .noLanguage ↔ asked = none) ∧
    ∀ lang, asked = some lang →
      m.articlesIn p.pool (.proper q) = .ok (m.index.articles.filter fun k =>
        normal (b.classifier.pattern.writtenLanguage (pool.front k)) = normal (some lang)) := by
  intro p m asked normal
  have hmade := isMadeOf_of_ofOptions hb
  have hindex : m.index = found.index := by simp only [m,p,Member.afterPass,h]
  have hquery : m.articlesIn p.pool (.proper q) = b.articlesIn found.index p.pool (.proper q) := by
    simp only [m,p,Member.afterPass,h]
    rfl
  have hread : ∀ k ∈ found.index.articles, ∃ tags, (p.pool.standing k).reading =
      .ok (normal (b.classifier.pattern.writtenLanguage (pool.front k)),tags) := by
    intro k hk
    have hr := Classifier.reading_of_articles (SourcePattern.nodup_of_compile hmade.compile_eq)
      hmade.articleSegments_eq hf h hk
    rwa [hmade.languageForm_eq] at hr
  have hsome : ∀ lang, asked = some lang →
      m.articlesIn p.pool (.proper q) = .ok (m.index.articles.filter fun k =>
        normal (b.classifier.pattern.writtenLanguage (pool.front k)) = normal (some lang)) := by
    intro lang hlang
    rw [hquery,articlesIn_of_some hmade _ _ hlang,Index.inLanguage_of_reading hread,hindex,
      hmade.languageForm_eq]
    rfl
  refine ⟨⟨fun herror => ?_,fun hnone => ?_⟩,hsome⟩
  · cases hasked : asked with
    | none => rfl
    | some lang => rw [hsome lang hasked] at herror; cases herror
  · rw [hquery,articlesIn_of_none hmade _ _ hnone]

end Blog

/-! A blog with a default language, and articles whose paths write the same language in two ways. -/
namespace Sample

def bilingual : BlogOptions where
  sources := ":lang/:year-:title.html"
  defaultLocale := some "de_de"

def bilingualBlog : Blog where
  options := bilingual
  classifier := {
    pattern := ⟨":lang/:year-:title.html",
      [.field .lang,.literal ['/'],.field .year,.literal ['-'],.field .title,.literal ".html".toList]⟩
    permalink := ⟨":year/:month/:day/:title.html",[.field .year,.literal ['/'],.field .month,
      .literal ['/'],.field .day,.literal ['/'],.field .title,.literal ".html".toList],[]⟩ }

def letters : Pool 3 := #v[
  { path := .proper "EN/2014-a.html" },
  { path := .proper "de/2015-b.html", lang := .proper (some "en") },
  { path := .proper "en-en/2016-c.html" }]

end Sample

theorem Blog.articlesIn_afterPass_sample :
    let p := Sample.bilingualBlog.classifier.pass Sample.letters [2,1,0]
    let m := (Member.ofBlog Sample.bilingualBlog).afterPass p
    ofOptions Sample.bilingual .null .canonical = .ok Sample.bilingualBlog ∧
    (∀ k ∈ ([2,1,0] : List (Fin 3)), (Sample.letters.front k).IsProper) ∧
    (∃ found, p.result = .ok found) ∧
    m.articlesIn p.pool (.proper (some "EN-en")) = .ok [2,0] ∧
    m.articlesIn p.pool (.proper (some "")) = .ok [1] := by
  intro p m
  have hpattern : SourcePattern.compile Sample.bilingual.sources =
      .ok Sample.bilingualBlog.classifier.pattern := by decide +kernel
  have hpermalink : Permalink.compile Sample.bilingual.permalink =
      .ok Sample.bilingualBlog.classifier.permalink := by decide +kernel
  have hb : ofOptions Sample.bilingual .null .canonical = .ok Sample.bilingualBlog := by
    rw [ofOptions,hpattern,hpermalink]
    rfl
  have hf : ∀ k ∈ ([2,1,0] : List (Fin 3)), (Sample.letters.front k).IsProper := by
    intro k _
    match k with
    | 0 => exact ⟨trivial,trivial,trivial,trivial,trivial,trivial⟩
    | 1 => exact ⟨trivial,trivial,trivial,trivial,trivial,trivial⟩
    | 2 => exact ⟨trivial,trivial,trivial,trivial,trivial,trivial⟩
  obtain ⟨found,hfound⟩ : ∃ found, p.result = .ok found := ⟨_,rfl⟩
  have harticles : m.index.articles = [2,1,0] := by
    rw [Index.articles,List.mergeSort_of_pairwise (by decide +kernel)]
    rfl
  have hanswer := fun q => (articlesIn_afterPass hb hf hfound q).2
  refine ⟨hb,hf,⟨found,hfound⟩,?_,?_⟩
  · rw [hanswer (some "EN-en") "EN-en" rfl,harticles]
    decide +kernel
  · rw [hanswer (some "") "de_de" rfl,harticles]
    decide +kernel

end BlogPaths
