import BlogPaths.Proofs.Answers
import BlogPaths.Proofs.Expansions
import BlogPaths.Proofs.Failures

/-! What stands in the places of a published permalink.  A language and a custom value are refused
when they are empty, and the parts of a date are digits; only a title is taken as it comes, so an
article that nothing gives a title is published with nothing in its place. -/
namespace BlogPaths

open Calendar

variable {n : Nat}

namespace Permalink

theorem padded_ne_nil (w k : Nat) : padded w k ≠ [] :=
  List.append_ne_nil_of_right_ne_nil _ Nat.toDigits_ne_nil

/-- Of the values of an article only its title may be empty. -/
theorem Shows.eq_nil_iff {a : Article} {name : String} {u : List Char} (h : Shows a name u) :
    u = [] ↔ name = "title" ∧ a.slug = "" := by
  cases h with
  | lang _ hne => simp [hne]
  | year => simp [padded_ne_nil]
  | month => simp [padded_ne_nil]
  | day => simp [padded_ne_nil]
  | title => simp
  | custom hn _ _ _ hne =>
    have htitle : name ≠ "title" := by
      rintro rfl
      simp [fixedNames] at hn
    simp [hne,htitle]

theorem Shows.unique {a : Article} {name : String} {u v : List Char} (hu : Shows a name u)
    (hv : Shows a name v) : u = v := by
  have heq := (shows_iff.mp hu).symm.trans (shows_iff.mp hv)
  exact String.ofList_injective (Except.ok.inj heq)

theorem Spells.exists_shows {a : Article} {ps : List Piece} {t : List Char} (h : Spells a ps t)
    {name : String} (hname : .value name ∈ ps) : ∃ u, Shows a name u := by
  induction h with
  | nil => simp at hname
  | char _ ih => exact ih (by simpa using hname)
  | value hs _ ih =>
    obtain heq | htail := List.mem_cons.mp hname
    · cases heq
      exact ⟨_,hs⟩
    · exact ih htail

end Permalink

theorem SourcePattern.lookup_title_iff {p : SourcePattern} {path : String} {m : PathMatch}
    (hn : (Segment.fields p.segments).Nodup) (h : PathMatch.article? p.segments path = some m) :
    Classifier.CapturesNoTitle (p.captures m) ↔ .title ∉ Segment.fields p.segments := by
  unfold Classifier.CapturesNoTitle
  obtain ⟨as,s,hd,hcap⟩ := captures_of_article? h
  rw [hcap]
  by_cases hmem : .title ∈ Segment.fields p.segments
  · obtain ⟨t,hft,ht⟩ := exists_captured hd hmem
    have hlookup : (captured (Segment.fields p.segments) as).lookup "title" =
        some (String.ofList t) := lookup_captured hn hft
    simp [hlookup,hmem,SourceField.ofList_ne_empty ht]
  · have hlookup : (captured (Segment.fields p.segments) as).lookup "title" = none :=
      lookup_captured_eq_none hmem
    simp [hlookup,hmem]

namespace Classifier

section

variable {c : Classifier} {f : FrontMatter} {cs : Captures}

/-- Nothing gives an article a title: its path has none, the front matter has no slug, and no slug
can be made of what the metadata have as the title. -/
structure LacksTitle (c : Classifier) (f : FrontMatter) : Prop where
  no_field : .title ∉ Segment.fields c.pattern.segments
  no_slug : GivesNoSlug f
  no_metadata : metadataSlug f = .ok ""

theorem titleSlug_eq_empty_iff :
    titleSlug f cs = .ok "" ↔ CapturesNoTitle cs ∧ metadataSlug f = .ok "" := by
  by_cases h : CapturesNoTitle cs
  · rw [titleSlug_eq_metadataSlug h]
    exact (and_iff_right h).symm
  · obtain ⟨s,-,hs,ht⟩ := titleSlug_eq_ok (f := f) h
    simp [ht,hs,h]

theorem slugOf_eq_empty_iff (hf : f.slug.IsProper) :
    slugOf f cs = .ok (.proper "") ↔ GivesNoSlug f ∧ titleSlug f cs = .ok "" := by
  by_cases h : GivesNoSlug f
  · rw [slugOf_eq_titleSlug h,and_iff_right h]
    cases titleSlug f cs <;> simp [Except.map]
  · obtain ⟨s,-,hs,ht⟩ := slugOf_eq_slug cs hf h
    simp [ht,hs,h]

end

variable {c : Classifier} {pool : Pool n} {hs : List (Fin n)} {k : Fin n}

theorem IsArticle.slug_eq_empty_iff {front : Fin n → FrontMatter} {path : String} {m : PathMatch}
    {a : Article} (ha : c.IsArticle front k path m a)
    (hn : (Segment.fields c.pattern.segments).Nodup)
    (hseg : c.articleSegments = c.pattern.segments) (hf : (front k).IsProper) :
    a.slug = "" ↔ c.LacksTitle (front k) := by
  have hslug := (of_promote_eq_complete hf ha.promote_eq).2.1
  have hempty : a.slug = "" ↔ slugOf (front k) (c.pattern.captures m) = .ok (.proper "") := by
    simp [hslug]
  rw [hempty,slugOf_eq_empty_iff hf.2.2.1,titleSlug_eq_empty_iff,
    SourcePattern.lookup_title_iff hn (hseg ▸ ha.match_eq)]
  exact ⟨fun ⟨hs,ht,hm⟩ => ⟨ht,hs,hm⟩,fun h => ⟨h.no_slug,h.no_field,h.no_metadata⟩⟩

theorem exists_permalink_of_mem (hs' : c.Succeeds pool.front hs)
    (hk : k ∈ (outcome (c.turns pool.front hs)).index.articles) :
    k ∈ hs ∧ c.isVisible (pool.front k) = true ∧ ∃ path m a permalink,
      c.IsArticle pool.front k path m a ∧ c.permalink.resolve a = .ok permalink := by
  obtain ⟨e,he,rfl⟩ := Index.mem_articles.mp hk
  rw [entries_outcome_turns] at he
  obtain ⟨j,hj,hentry⟩ := List.mem_filterMap.mp he
  rw [(entry?_eq_some (hs' j hj) hentry).1]
  have ht := settles_turn (hs' j hj)
  generalize c.turn pool.front hs j = t at ht hentry
  cases ht with
  | article ha hv hr => exact ⟨hj,hv,_,_,_,_,ha,hr⟩
  | _ => simp [Verdict.entry?] at hentry

/-- What a pass publishes, and when it fails instead.  The permalink of an article of the index has a
value in each of its places; the value is empty in the place of a title that nothing gives, and
nowhere else.  An article that is seen and lacks any other value makes the pass fail, if no turn before
fails by an error of configuration, or for metadata that are not written. -/
theorem places_of_published {sources template : String}
    (hc : SourcePattern.compile sources = .ok c.pattern)
    (hseg : c.articleSegments = c.pattern.segments)
    (ht : Permalink.compile template = .ok c.permalink)
    (hf : ∀ h ∈ hs, (pool.front h).IsProper) :
    (∀ found, (c.pass pool hs).result = .ok found → ∀ k ∈ found.index.articles,
      ∃ a text, ((c.pass pool hs).pool.standing k).article = .proper (some a) ∧
        ((c.pass pool hs).pool.standing k).destinationPath = .proper (some (outputPath text)) ∧
        Permalink.Spells a c.permalink.pieces text.toList ∧
        ∀ name, .value name ∈ c.permalink.pieces → ∃ u, Permalink.Shows a name u ∧
          (∀ v, Permalink.Shows a name v → v = u) ∧
          (u = [] ↔ name = "title" ∧ c.LacksTitle (pool.front k))) ∧
    ∀ before k behind path m, hs = before ++ k :: behind → (pool.front k).path = .proper path →
      PathMatch.article? c.articleSegments path = some m →
      c.isVisible (pool.front k) = true → c.LacksText (pool.front k) (c.pattern.captures m) →
      (∃ e, (c.pass pool hs).result = .error e) ∧
      ∃ e, c.error? pool.front hs k = some e ∧
        (e.IsConfiguration ∨ e.IsUnwritten ∧ c.HoldsUnwritten (pool.front k)) ∧
        ((∀ j ∈ before, c.error? pool.front hs j = none) → (c.pass pool hs).result = .error e) := by
  have hn := SourcePattern.nodup_of_compile hc
  refine ⟨fun found hfound k hk => ?_,fun before k behind path m hsplit hp hm hv hlacks => ?_⟩
  · obtain ⟨hs',-,rfl⟩ := pass_eq_ok_iff.mp hfound
    obtain ⟨hmem,hv,path,m,a,text,ha,hr⟩ := exists_permalink_of_mem hs' hk
    have hspells := (Permalink.resolve_eq_ok_iff ht).mp hr
    have hstanding := standing_of_visible hs' hmem ha hv hr
    refine ⟨a,text,by rw [hstanding]; rfl,by rw [hstanding]; rfl,hspells,fun name hname => ?_⟩
    obtain ⟨u,hu⟩ := hspells.exists_shows hname
    refine ⟨u,hu,fun v hshows => hshows.unique hu,?_⟩
    rw [hu.eq_nil_iff,ha.slug_eq_empty_iff hn hseg (hf k hmem)]
  · have hk : k ∈ hs := by simp [hsplit]
    have hturn : c.turn pool.front hs k = c.articleTurn pool.front k path m := turn_of_match hp hm
    have hfails :=
      (articleTurn_fails_iff (hf k hk) hn (hseg ▸ hm)).mpr (.inr (.inr ⟨hv,hlacks⟩))
    obtain ⟨e,he⟩ := Option.isSome_iff_exists.mp hfails
    have hconf := isConfiguration_of_articleTurn (hf k hk) hn (hseg ▸ hm) he
    have herror : c.error? pool.front hs k = some e := by rw [error?,hturn,he]
    exact ⟨pass_fails_of_turn hf hk (Option.isSome_of_eq_some herror),e,herror,hconf,
      pass_eq_error_of_turn hf hsplit herror⟩

end Classifier

/-! A blog with an article for every year, of which one has a title. -/
namespace Sample

def yearly : Classifier where
  pattern := ⟨":year.html",[.field .year,.literal ".html".toList]⟩
  permalink := ⟨":year/:title/",[.field .year,.literal ['/'],.field .title,.literal ['/']],[]⟩

def yearbook : Pool 2 := #v[
  { path := .proper "2014.html" },
  { path := .proper "2015.html", data := .proper [("title",.str "Summer")] }]

end Sample

namespace Classifier

theorem places_of_published_sample :
    SourcePattern.compile ":year.html" = .ok Sample.yearly.pattern ∧
    Permalink.compile ":year/:title/" = .ok Sample.yearly.permalink ∧
    (∀ h ∈ ([1] : List (Fin 2)), (Sample.yearbook.front h).IsProper) ∧
    ∃ found, (Sample.yearly.pass Sample.yearbook [1]).result = .ok found ∧
      ∃ a, ((Sample.yearly.pass Sample.yearbook [1]).pool.standing 1).article =
          .proper (some a) ∧ ∃ u, Permalink.Shows a "title" u ∧ u ≠ [] := by
  have hc : SourcePattern.compile ":year.html" = .ok Sample.yearly.pattern := by decide +kernel
  have ht : Permalink.compile ":year/:title/" = .ok Sample.yearly.permalink := by decide +kernel
  have hf : ∀ h ∈ ([1] : List (Fin 2)), (Sample.yearbook.front h).IsProper := by
    intro h hh
    obtain rfl := List.mem_singleton.mp hh
    exact ⟨trivial,trivial,trivial,trivial,trivial,trivial⟩
  obtain ⟨found,hfound⟩ :
      ∃ found, (Sample.yearly.pass Sample.yearbook [1]).result = .ok found := ⟨_,rfl⟩
  have hmem : (1 : Fin 2) ∈ found.index.articles := by
    obtain ⟨-,-,rfl⟩ := pass_eq_ok_iff.mp hfound
    exact Index.mem_articles.mpr ⟨_,List.mem_singleton_self _,rfl⟩
  obtain ⟨a,-,harticle,-,-,hplaces⟩ := (places_of_published hc rfl ht hf).1 found hfound 1 hmem
  obtain ⟨u,hu,-,hempty⟩ := hplaces "title" (by decide)
  have htitle : metadataSlug (Sample.yearbook.front 1) ≠ .ok "" := by decide +kernel
  exact ⟨hc,ht,hf,found,hfound,a,harticle,u,hu,fun hnil => htitle (hempty.mp hnil).2.no_metadata⟩

/-- The first article of the yearbook has no title, and nothing in its place. -/
theorem place_of_title_empty :
    (∃ found, (Sample.yearly.pass Sample.yearbook [0]).result = .ok found ∧
      0 ∈ found.index.articles) ∧
    .value "title" ∈ Sample.yearly.permalink.pieces ∧
    ∃ a, ((Sample.yearly.pass Sample.yearbook [0]).pool.standing 0).article = .proper (some a) ∧
      Permalink.Shows a "title" [] ∧
      ((Sample.yearly.pass Sample.yearbook [0]).pool.standing 0).destinationPath =
        .proper (some "2014//") := by
  refine ⟨⟨_,rfl,Index.mem_articles.mpr ⟨_,List.mem_singleton_self _,rfl⟩⟩,by decide,_,rfl,
    Permalink.Shows.title,rfl⟩

end Classifier

end BlogPaths
