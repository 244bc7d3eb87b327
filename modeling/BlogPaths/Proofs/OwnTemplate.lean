import BlogPaths.Proofs.Companions
import BlogPaths.Proofs.Expansions
import BlogPaths.Proofs.Failures
import BlogPaths.Proofs.RoundTrips

/-! Blogs whose permalinks have the form of their source paths.  What is captured from the path of an
article is what the article puts in again, so that it is published where its source lies. -/
namespace BlogPaths

open Calendar

def SourceField.inPermalink (f : SourceField) : PermalinkField := .ofName f.name

/-- As a source path and as a permalink, a template is split into the same texts and names. -/
def SplitsAlike (template : String) : Prop :=
  (SourceField.grammar.tokenize template.toList).map (Segment.map SourceField.name) =
    (PermalinkField.grammar.tokenize template.toList).map (Segment.map PermalinkField.name)

instance (template : String) : Decidable (SplitsAlike template) :=
  inferInstanceAs (Decidable (_ = _))

theorem SplitsAlike.tokenize_eq {template : String} (h : SplitsAlike template) :
    PermalinkField.grammar.tokenize template.toList =
      (SourceField.grammar.tokenize template.toList).map (Segment.map SourceField.inPermalink) := by
  have hnamed := Permalink.isNamed_tokenize template.toList
  have hself : ∀ s ∈ PermalinkField.grammar.tokenize template.toList,
      (s.map PermalinkField.name).map PermalinkField.ofName = s := by
    intro s hs
    rw [Segment.map_map]
    exact Segment.map_eq_self fun f hf => hnamed f (List.mem_filterMap.mpr ⟨s,hs,hf⟩)
  have hnames := congrArg (List.map (Segment.map PermalinkField.ofName)) h
  simp only [List.map_map,Function.comp_def] at hnames
  rw [List.map_congr_left hself,List.map_id'] at hnames
  simp only [← hnames,Segment.map_map]
  rfl

theorem SourceField.inPermalink_injective {f g : SourceField}
    (h : f.inPermalink = g.inPermalink) : f = g :=
  name_injective (PermalinkField.ofName_injective h)

namespace Permalink

theorem demote_eq_self {seen : List PermalinkField} {segs : List (Segment PermalinkField)}
    (hn : (Segment.fields segs).Nodup) (hs : ∀ f ∈ Segment.fields segs, f ∉ seen) :
    demote seen segs = segs := by
  fun_induction demote seen segs with
  | case1 => rfl
  | case2 seen t segs ih => rw [ih hn hs]
  | case3 seen f segs hr ih =>
    rw [ih (List.nodup_cons.mp hn).2 fun g hg => hs g (List.mem_cons_of_mem _ hg)]
  | case4 seen f segs hr hmem ih => exact absurd hmem (hs f List.mem_cons_self)
  | case5 seen f segs hr hmem ih =>
    have hf := List.nodup_cons.mp hn
    have hseen : ∀ g ∈ Segment.fields segs, g ∉ f :: seen := by
      intro g hg hcons
      rcases List.mem_cons.mp hcons with rfl | hcons
      · exact hf.1 hg
      · exact hs g (List.mem_cons_of_mem _ hg) hcons
    rw [ih hf.2 hseen]

theorem isBlankText_of_field {s : List Char} {f : SourceField}
    (hf : f ∈ Segment.fields (SourceField.grammar.tokenize s)) : Text.isBlankText s = false := by
  have hcolon : ':' ∈ s := by
    obtain ⟨seg,hseg,hfield⟩ := List.mem_filterMap.mp hf
    rw [← SourceField.grammar.writtenAll_tokenize s]
    refine List.mem_flatMap.mpr ⟨seg,hseg,?_⟩
    cases seg with
    | literal t => cases hfield
    | field g => exact List.mem_cons_self
  rw [Text.isBlankText,← Bool.not_eq_true,List.all_eq_true]
  intro hall
  exact absurd (hall ':' hcolon) (by decide)

end Permalink

/-- A template of source paths that is split alike is a template of permalinks, with the same texts
and fields. -/
theorem SplitsAlike.exists_permalink {template : String} {p : SourcePattern}
    (h : SplitsAlike template) (hslash : template.toList.head? ≠ some '/')
    (hc : SourcePattern.compile template = .ok p) {f : SourceField}
    (hf : f ∈ Segment.fields p.segments) :
    ∃ q, Permalink.compile template = .ok q ∧
      q.segments = p.segments.map (Segment.map SourceField.inPermalink) := by
  obtain ⟨hsegs,hn⟩ := SourcePattern.segments_of_compile hc
  rw [Text.dropLeadingSlash_eq_self hslash] at hsegs
  have hblank : Text.isBlankText template.toList = false :=
    Permalink.isBlankText_of_field (hsegs ▸ hf)
  have hcompile := Permalink.compile.eq_def template
  rw [hblank,if_neg Bool.false_ne_true] at hcompile
  refine ⟨_,hcompile,?_⟩
  rw [(Permalink.segments_of_compile hcompile).1,h.tokenize_eq,← hsegs]
  refine Permalink.demote_eq_self ?_ fun f _ => List.not_mem_nil
  rw [Segment.fields_map]
  exact hn.map fun _ _ => SourceField.inPermalink_injective

theorem Permalink.joined_of_describes {segs : List (Segment SourceField)} {as : List (List Char)}
    {s : List Char} (hd : Describes segs as s) {a : Article}
    (h : ∀ f x, (f,x) ∈ (Segment.fields segs).zip as → f.Admits x → Shows a f.name x) :
    joined a (segs.map (Segment.map SourceField.inPermalink)) = .ok s := by
  induction hd with
  | nil => rfl
  | literal _ ih =>
    rw [List.map_cons,Segment.map,joined_literal,ih h]
    rfl
  | @field f x _ _ _ hx _ ih =>
    have hf := shows_iff.mp (h f x (by simp) hx)
    have hrest := ih fun g y hy => h g y (List.mem_cons_of_mem _ hy)
    rw [List.map_cons,Segment.map,joined_field,SourceField.inPermalink,hf,hrest]
    simp [Except.bind,Except.map]

namespace Classifier

variable {c : Classifier} {f : FrontMatter} {path : String} {cs : Captures} {m : PathMatch}

theorem languageOf_of_captured (hp : c.preserveLocale = true) {lang : String}
    (hl : cs.lookup "lang" = some lang) (hne : lang ≠ "") :
    c.languageOf f cs = .ok (.proper (some lang)) := by
  have hgiven : givenLanguage f cs = .proper (some lang) := by simp [givenLanguage,hl,hne]
  rw [languageOf_of_given hgiven,languageForm,if_pos hp,id_eq]

theorem slugOf_of_captured (hs : f.slug = .proper none ∨ f.slug = .proper (some ""))
    {title : String} (ht : cs.lookup "title" = some title) (hne : title ≠ "") :
    slugOf f cs = .ok (.proper title) := by
  have htitle : titleSlug f cs = .ok title := by simp [titleSlug,ht,hne]
  rcases hs with hs | hs <;> simp [slugOf,hs,htitle,Except.map]

/-- A resource whose path is an article's and says when it was written: the front matter has neither a
date nor a slug of its own, and the captured digits are ASCII ones. -/
structure IsNamedByPath (p : SourcePattern) (f : FrontMatter) (path : String) (m : PathMatch) :
    Prop where
  isProper : f.IsProper
  path_eq : f.path = .proper path
  match_eq : PathMatch.article? p.segments path = some m
  no_date : f.date = none
  no_slug : f.slug = .proper none ∨ f.slug = .proper (some "")
  isAscii : ∀ g ∈ [SourceField.year,.month,.day], ∀ t, (p.captures m).lookup g.name = some t →
    ∀ c ∈ t.toList, c.isDigit
  namesDay : (p.captures m).NamesDay

/-- Such a resource becomes an article that shows all that is captured from its path, unless it takes
its slug from a title in the metadata that is not written. -/
theorem IsNamedByPath.promote_eq (h : IsNamedByPath c.pattern f path m)
    (hn : (Segment.fields c.pattern.segments).Nodup) (hp : c.preserveLocale = true)
    (htitle : ¬ TitleUnwritten f (c.pattern.captures m)) :
    ∃ a, c.promote f path (c.pattern.captures m) = .complete a ∧
      ∀ (g : SourceField) x, (c.pattern.captures m).lookup g.name = some (String.ofList x) →
        g.Admits x → Permalink.Shows a g.name x := by
  obtain ⟨year,hy,hday⟩ := h.namesDay
  have hnumeric := SourcePattern.isNumeric_captures hn h.match_eq
  have hdate : c.dateOf f path (c.pattern.captures m) =
      .ok (.ofDate ⟨_,_,_,hday.1,hday.2.1,hday.2.2⟩) := by
    simp only [dateOf,h.no_date,hy,hnumeric.ofTexts_eq hy,ofNumbers_of_isDate hday]
  obtain ⟨slug,hslug⟩ : ∃ slug, slugOf f (c.pattern.captures m) = .ok (.proper slug) := by
    rcases slugOf_cases (c.pattern.captures m) h.isProper with ⟨hlong,-⟩ | ⟨-,hok⟩
    · exact absurd hlong htitle
    · exact hok
  obtain ⟨a,ha,hlang,ht,rfl,-⟩ := promote_of_slugOf_ok h.isProper hdate hslug
  refine ⟨a,ha,fun g x hx hadm => ?_⟩
  have hne := SourceField.ofList_ne_empty hadm
  -- A number is padded to as many digits as it was read from.
  have hpadded : g ∈ [SourceField.year,.month,.day] → ∀ w, w ≠ 0 → x.length = w →
      padded w (numberOf (String.ofList x)) = x :=
    fun hg w hw hl => padded_numberOf hw hl (by simpa using h.isAscii g hg _ hx)
  cases g with
  | lang =>
    rw [languageOf_of_captured hp hx hne] at hlang
    have hlang : a.lang = some (String.ofList x) := by simpa using hlang.symm
    have hshows := Permalink.Shows.lang hlang hne
    rwa [String.toList_ofList] at hshows
  | year =>
    have hyear : a.date.date.year = numberOf (String.ofList x) := by
      rw [ht,← Option.some.inj (hy.symm.trans hx)]
      rfl
    rw [← hpadded (by simp) 4 (by decide) hadm.1,← hyear]
    exact .year
  | month =>
    have hmonth : a.date.date.month = numberOf (String.ofList x) := by
      rw [ht]
      exact congrArg numberOrOne hx
    rw [← hpadded (by simp) 2 (by decide) hadm.1,← hmonth]
    exact .month
  | day =>
    have hday : a.date.date.day = numberOf (String.ofList x) := by
      rw [ht]
      exact congrArg numberOrOne hx
    rw [← hpadded (by simp) 2 (by decide) hadm.1,← hday]
    exact .day
  | title =>
    rw [slugOf_of_captured h.no_slug hx hne] at hslug
    have hslug : a.slug = String.ofList x := by simpa using hslug.symm
    have hshows : Permalink.Shows a "title" a.slug.toList := .title
    rwa [hslug,String.toList_ofList] at hshows

/-- The classifier has one template for source paths and for permalinks, and keeps languages as they
are. -/
structure PublishesInPlace (c : Classifier) : Prop where
  nodup : (Segment.fields c.pattern.segments).Nodup
  article_eq : c.articleSegments = c.pattern.segments
  permalink_eq : c.permalink.segments = c.pattern.segments.map (Segment.map SourceField.inPermalink)
  preserveLocale : c.preserveLocale = true

namespace PublishesInPlace

variable {n : Nat} {front : Fin n → FrontMatter} {k : Fin n}

/-- The permalink of an article named by its path is what is matched of the path. -/
theorem exists_resolve_eq (h : PublishesInPlace c) (hnamed : IsNamedByPath c.pattern (front k) path m)
    (htitle : ¬ TitleUnwritten (front k) (c.pattern.captures m)) :
    ∃ a, c.IsArticle front k path m a ∧ c.permalink.resolve a = .ok m.matched := by
  obtain ⟨a,hpromote,hshows⟩ := hnamed.promote_eq h.nodup h.preserveLocale htitle
  refine ⟨a,⟨hnamed.path_eq,h.article_eq ▸ hnamed.match_eq,hpromote⟩,?_⟩
  obtain ⟨as,s,_,hd,_,rfl,_⟩ := PathMatch.article?_eq_some hnamed.match_eq
  have hjoined : Permalink.joined a c.permalink.segments = .ok s := by
    rw [h.permalink_eq]
    refine Permalink.joined_of_describes hd fun g x hx => hshows g x ?_
    rw [SourcePattern.captures_article (length_of_describes hd),lookup_captured h.nodup hx]
  rw [Permalink.resolve_eq,hjoined]
  rfl

theorem error?_eq_none_iff (h : PublishesInPlace c)
    (hnamed : IsNamedByPath c.pattern (front k) path m) (hv : c.isVisible (front k) = true)
    (hs : List (Fin n)) :
    c.error? front hs k = none ↔ ¬ TitleUnwritten (front k) (c.pattern.captures m) := by
  constructor
  · intro he htitle
    have hfails := (articleTurn_fails_iff hnamed.isProper h.nodup hnamed.match_eq).mpr
      (.inr (.inl htitle))
    have hturn : c.turn front hs k = c.articleTurn front k path m :=
      turn_of_match hnamed.path_eq (h.article_eq ▸ hnamed.match_eq)
    rw [← hturn] at hfails
    rw [error?] at he
    simp [he] at hfails
  · intro htitle
    obtain ⟨a,ha,hresolve⟩ := h.exists_resolve_eq hnamed htitle
    rw [error?,(Settles.article ha hv hresolve : Settles c front hs k _).turn_eq]
    rfl

end PublishesInPlace

/-- A blog whose permalinks have the form of its source paths publishes an article where its source
lies.  A template of source paths that asks for the year and is split alike is a template of
permalinks; and if a blog has it for both and keeps languages as they are, then an article that is
seen and is named by its path alone makes no pass fail but by a title that is not written, and a pass
that succeeds leads it to what is matched of its path. -/
theorem destination_of_ownTemplate {template : String} {p : SourcePattern}
    (hc : SourcePattern.compile template = .ok p) (hslash : template.toList.head? ≠ some '/')
    (hy : .year ∈ Segment.fields p.segments) (hsplit : SplitsAlike template) :
    ∃ q, Permalink.compile template = .ok q ∧
      ∀ c : Classifier, c.pattern = p → c.articleSegments = p.segments → c.permalink = q →
        c.preserveLocale = true →
        ∀ {n} (pool : Pool n) hs k path m, k ∈ hs → c.isVisible (pool.front k) = true →
          IsNamedByPath p (pool.front k) path m →
          (c.error? pool.front hs k = none ↔
            ¬ TitleUnwritten (pool.front k) (p.captures m)) ∧
          ∀ found, (c.pass pool hs).result = .ok found →
            ((c.pass pool hs).pool.standing k).destinationPath =
              .proper (some (outputPath m.matched)) := by
  obtain ⟨q,hq,hsegs⟩ := hsplit.exists_permalink hslash hc hy
  refine ⟨q,hq,?_⟩
  rintro c rfl harticle rfl hp n pool hs k path m hk hv hnamed
  have hplace : PublishesInPlace c := ⟨SourcePattern.nodup_of_compile hc,harticle,hsegs,hp⟩
  have hnone := hplace.error?_eq_none_iff hnamed hv hs
  refine ⟨hnone,fun found h => ?_⟩
  obtain ⟨hs',-,-⟩ := pass_eq_ok_iff.mp h
  obtain ⟨a,ha,hresolve⟩ := hplace.exists_resolve_eq hnamed (hnone.mp (hs' k hk))
  rw [standing_of_visible hs' hk ha hv hresolve]
  rfl

end Classifier

/-! A blog with one template for both, and an article of the tenth century whose title reads like a
field. -/
namespace Sample

def inPlace : Classifier where
  pattern := ⟨":lang/:year-:month/:title.html",[.field .lang,.literal ['/'],.field .year,
    .literal ['-'],.field .month,.literal ['/'],.field .title,.literal ".html".toList]⟩
  permalink := ⟨":lang/:year-:month/:title.html",[.field .lang,.literal ['/'],.field .year,
    .literal ['-'],.field .month,.literal ['/'],.field .title,.literal ".html".toList],[]⟩
  preserveLocale := true

def chronicle : Pool 1 := #v[{
  path := .proper "de-AT/0987-06/:year.html~"
  slug := .proper (some "")
  published := .proper false }]

end Sample

theorem Classifier.destination_of_ownTemplate_sample :
    let p := Sample.inPlace.pass Sample.chronicle [0]
    SourcePattern.compile ":lang/:year-:month/:title.html" = .ok Sample.inPlace.pattern ∧
    SplitsAlike ":lang/:year-:month/:title.html" ∧
    IsNamedByPath Sample.inPlace.pattern (Sample.chronicle.front 0) "de-AT/0987-06/:year.html~"
      ⟨["de-AT","0987","06",":year"],"de-AT/0987-06/:year.html"⟩ ∧
    (∃ found, p.result = .ok found) ∧
    (p.pool.standing 0).destinationPath = .proper (some "de-AT/0987-06/:year.html") := by
  intro p
  have hc : SourcePattern.compile ":lang/:year-:month/:title.html" =
      .ok Sample.inPlace.pattern := by decide +kernel
  have hq : Permalink.compile ":lang/:year-:month/:title.html" =
      .ok Sample.inPlace.permalink := by decide +kernel
  have hsplit : SplitsAlike ":lang/:year-:month/:title.html" := by decide +kernel
  have hdigits : ∀ t ∈ ["0987","06"], t.toList.all Char.isDigit := by decide
  have hnamed : IsNamedByPath Sample.inPlace.pattern (Sample.chronicle.front 0)
      "de-AT/0987-06/:year.html~"
      ⟨["de-AT","0987","06",":year"],"de-AT/0987-06/:year.html"⟩ := by
    refine ⟨⟨trivial,trivial,trivial,trivial,trivial,trivial⟩,rfl,by decide +kernel,rfl,.inr rfl,?_,
      "0987",rfl,by decide +kernel⟩
    intro g hg t ht
    refine List.all_eq_true.mp (hdigits t ?_)
    simp only [List.mem_cons,List.not_mem_nil,or_false] at hg
    rcases hg with rfl | rfl | rfl
    · exact Option.some.inj ht ▸ by simp
    · exact Option.some.inj ht ▸ by simp
    · cases ht
  obtain ⟨q,hq',hlies⟩ := destination_of_ownTemplate hc (by decide) (by decide) hsplit
  obtain rfl := Except.ok.inj (hq.symm.trans hq')
  obtain ⟨hnone,hdestination⟩ :=
    hlies Sample.inPlace rfl rfl rfl rfl Sample.chronicle [0] 0 _ _ (by simp) rfl hnamed
  have htitle : ¬ CapturesNoTitle (Sample.inPlace.pattern.captures
      ⟨["de-AT","0987","06",":year"],"de-AT/0987-06/:year.html"⟩) := by
    unfold CapturesNoTitle
    decide +kernel
  have hs : Sample.inPlace.Succeeds Sample.chronicle.front [0] := by
    intro k hk
    obtain rfl := List.mem_singleton.mp hk
    exact hnone.mpr fun hlong => htitle hlong.no_title
  have hfound : ∃ found, p.result = .ok found := ⟨_,pass_eq_ok_iff.mpr ⟨hs,rfl,rfl⟩⟩
  obtain ⟨found,hfound'⟩ := hfound
  refine ⟨hc,hsplit,hnamed,⟨found,hfound'⟩,?_⟩
  rw [hdestination found hfound']
  rfl

end BlogPaths
