import BlogPaths.Proofs.Lacks
import BlogPaths.Proofs.Owners
import BlogPaths.Proofs.PassOrder

/-! When a pass fails, and by which error.  It fails with the first turn that fails; a turn fails
because an article lacks a day, a slug or a text of its permalink, or because there is no such article.
If no turn fails, a pass fails where dates that tell their offset meet dates that do not. -/
namespace BlogPaths

variable {n : Nat}

/-- The date of a resource tells its offset; the day in a path is one of universal time. -/
def FrontMatter.TellsOffset (f : FrontMatter) : Prop :=
  ∀ t, f.date = some t → t.offset?.isSome = true

namespace Classifier

def error? (c : Classifier) (front : Fin n → FrontMatter) (hs : List (Fin n)) (h : Fin n) :
    Option PassError :=
  (c.turn front hs h).verdict.error?

/-- Neither the front matter of an article nor its path gives it a day. -/
def LacksDay (c : Classifier) (f : FrontMatter) (cs : Captures) : Prop :=
  f.date = none ∧ (.year ∉ Segment.fields c.pattern.segments ∨ ¬ cs.NamesDay)

/-- An article has no text for a field of its permalink. -/
def LacksText (c : Classifier) (f : FrontMatter) (cs : Captures) : Prop :=
  ∃ lang data, c.languageOf f cs = .ok (.proper lang) ∧ f.data = .proper data ∧
    ∃ field ∈ Segment.fields c.permalink.segments, Permalink.LacksField lang data field

/-- Metadata that the title or a custom field of the permalink is made of are not written. -/
def HoldsUnwritten (c : Classifier) (f : FrontMatter) : Prop :=
  ∃ data name v, f.data = .proper data ∧ data.get? name = some v ∧ v.Overlong ∧
    (name = "title" ∨ .custom name ∈ Segment.fields c.permalink.segments)

def IsListed (c : Classifier) (f : FrontMatter) : Prop :=
  (∃ path m, f.path = .proper path ∧ PathMatch.article? c.articleSegments path = some m) ∧
    c.isVisible f = true

/-- Of two articles to be listed one has a date that tells its offset and the other one that does
not. -/
def DatesApart (c : Classifier) (front : Fin n → FrontMatter) (hs : List (Fin n)) : Prop :=
  ∃ j ∈ hs, ∃ k ∈ hs, c.IsListed (front j) ∧ c.IsListed (front k) ∧
    (front j).TellsOffset ∧ ¬ (front k).TellsOffset

section

variable {c : Classifier} {front : Fin n → FrontMatter} {hs : List (Fin n)} {h : Fin n}

theorem lacksText_iff {f : FrontMatter} {cs : Captures} {a : Article}
    (hl : c.languageOf f cs = .ok (.proper a.lang)) (hd : f.data = .proper a.data) :
    c.LacksText f cs ↔ ∃ lack, c.permalink.resolve a = .error lack := by
  rw [Permalink.resolve_eq_error_iff]
  constructor
  · rintro ⟨lang,data,hl',hd',hlacks⟩
    have hlang : a.lang = lang := by simpa [hl] using hl'
    have hdata : a.data = data := by simpa [hd] using hd'
    rw [hlang,hdata]
    exact hlacks
  · exact fun hlacks => ⟨a.lang,a.data,hl,hd,hlacks⟩

theorem lacksDay_iff {f : FrontMatter} {path : String} {m : PathMatch}
    (hm : PathMatch.article? c.pattern.segments path = some m) :
    c.LacksDay f (c.pattern.captures m) ↔
      f.date = none ∧ ¬ (c.pattern.captures m).NamesDay := by
  have hyear : .year ∉ Segment.fields c.pattern.segments →
      ¬ (c.pattern.captures m).NamesDay := by
    rintro hy ⟨year,hlookup,_⟩
    rw [SourcePattern.lookup_year_eq_none hm hy] at hlookup
    simp at hlookup
  exact and_congr_right fun _ => ⟨fun hor => hor.elim hyear id,.inr⟩

theorem error?_articleTurn_of_broken {path : String} {m : PathMatch} {e : PassError}
    (hp : c.promote (front h) path (c.pattern.captures m) = .broken e) :
    (c.articleTurn front h path m).verdict.error? = some e := by
  simp [articleTurn,hp,Verdict.error?]

theorem error?_articleTurn_of_complete {path : String} {m : PathMatch} {a : Article} {e : PassError}
    (hp : c.promote (front h) path (c.pattern.captures m) = .complete a) :
    (c.articleTurn front h path m).verdict.error? = some e ↔
      c.isVisible (front h) = true ∧ ∃ lack, c.permalink.resolve a = .error lack ∧
        e = .permalink c.permalink.template lack := by
  cases hv : c.isVisible (front h) with
  | false => simp [articleTurn,hp,hv,Verdict.error?]
  | true =>
    cases hr : c.permalink.resolve a with
    | error lack => simp [articleTurn,hp,hv,hr,Verdict.error?,eq_comm]
    | ok permalink => simp [articleTurn,hp,hv,hr,Verdict.error?]

/-- The turn of an article fails for want of a day or a slug, or of a text if the article is seen. -/
theorem articleTurn_fails_iff {path : String} {m : PathMatch} (hf : (front h).IsProper)
    (hn : (Segment.fields c.pattern.segments).Nodup)
    (hm : PathMatch.article? c.pattern.segments path = some m) :
    (c.articleTurn front h path m).verdict.error?.isSome ↔
      c.LacksDay (front h) (c.pattern.captures m) ∨
        TitleUnwritten (front h) (c.pattern.captures m) ∨
        (c.isVisible (front h) = true ∧ c.LacksText (front h) (c.pattern.captures m)) := by
  rw [lacksDay_iff hm]
  rcases c.promote_cases path hf (SourcePattern.isNumeric_captures hn hm) with
    ⟨hd,hno,e,hp,_⟩ | ⟨_,htitle,hp⟩ | ⟨hday,htitle,a,hp,hl,hdata⟩
  · rw [error?_articleTurn_of_broken hp]
    simp [hd,hno]
  · rw [error?_articleTurn_of_broken hp]
    simp [htitle]
  · have hlacks : ¬ ((front h).date = none ∧ ¬ (c.pattern.captures m).NamesDay) :=
      fun hlack => hlack.2 (hday hlack.1)
    rw [lacksText_iff hl hdata,or_iff_right hlacks,or_iff_right htitle,Option.isSome_iff_exists]
    simp only [error?_articleTurn_of_complete hp]
    constructor
    · rintro ⟨_,hv,lack,hr,_⟩
      exact ⟨hv,lack,hr⟩
    · rintro ⟨hv,lack,hr⟩
      exact ⟨_,hv,lack,hr,rfl⟩

theorem TitleUnwritten.holdsUnwritten {f : FrontMatter} {cs : Captures} (c : Classifier)
    (h : TitleUnwritten f cs) : c.HoldsUnwritten f := by
  obtain ⟨data,v,hd,hv,hlong⟩ := h.overlong
  exact ⟨data,"title",v,hd,hv,hlong,.inl rfl⟩

theorem isConfiguration_of_resolve {f : FrontMatter} {a : Article} {lack : PermalinkLack}
    (hd : f.data = .proper a.data) (hr : c.permalink.resolve a = .error lack) :
    (PassError.permalink c.permalink.template lack).IsConfiguration ∨
      (PassError.permalink c.permalink.template lack).IsUnwritten ∧ c.HoldsUnwritten f := by
  cases lack with
  | language | metadata | slug => exact .inl rfl
  | text name =>
    obtain ⟨v,hfield,hv,hlong⟩ := Permalink.overlong_of_resolve hr
    exact .inr ⟨trivial,a.data,name,v,hd,hv,hlong,.inr hfield⟩

theorem isConfiguration_of_articleTurn {path : String} {m : PathMatch} {e : PassError}
    (hf : (front h).IsProper) (hn : (Segment.fields c.pattern.segments).Nodup)
    (hm : PathMatch.article? c.pattern.segments path = some m)
    (he : (c.articleTurn front h path m).verdict.error? = some e) :
    e.IsConfiguration ∨ e.IsUnwritten ∧ c.HoldsUnwritten (front h) := by
  rcases c.promote_cases path hf (SourcePattern.isNumeric_captures hn hm) with
    ⟨_,_,e',hp,hconf⟩ | ⟨_,htitle,hp⟩ | ⟨_,_,a,hp,_,hdata⟩
  · rw [error?_articleTurn_of_broken hp,Option.some.injEq] at he
    exact .inl (he ▸ hconf)
  · rw [error?_articleTurn_of_broken hp,Option.some.injEq] at he
    exact .inr ⟨he ▸ trivial,htitle.holdsUnwritten c⟩
  · obtain ⟨_,lack,hr,rfl⟩ := (error?_articleTurn_of_complete hp).mp he
    exact isConfiguration_of_resolve hdata hr

theorem error?_ownedTurn {o : Fin n} {path ownerPath tail : String} {m : PathMatch} :
    (c.ownedTurn front h o path ownerPath tail m).verdict.error? =
      (c.articleTurn front o ownerPath m).verdict.error? := by
  unfold ownedTurn articleTurn
  cases c.promote (front o) ownerPath (c.pattern.captures m) with
  | refused e => rfl
  | broken e => rfl
  | complete a =>
    cases c.isVisible (front o) with
    | false => rfl
    | true => cases hr : c.permalink.resolve a <;> simp [hr,Verdict.error?]

theorem ownerAt?_eq_none_iff {path : String} :
    ownerAt? front hs path = none ↔ ∀ k ∈ hs, (front k).path ≠ .proper path := by
  simp [ownerAt?,List.find?_eq_none,Assigned.proper?_eq_some]

/-- The turn of a nested file fails if there is no owner, and as the owner's turn does otherwise. -/
theorem error?_of_nested (hs : List (Fin n)) {path ownerPath : String} {m m' : PathMatch}
    (hseg : c.articleSegments = c.pattern.segments) (hp : (front h).path = .proper path)
    (hm : PathMatch.article? c.articleSegments path = none) (hn : c.pattern.nested? path = some m)
    (hsource : c.pattern.sourcePath (c.pattern.captures m) = .ok ownerPath)
    (harticle : PathMatch.article? c.pattern.segments ownerPath = some m') :
    (ownerAt? front hs ownerPath = none → c.error? front hs h = some (.noOwner path ownerPath)) ∧
    ∀ o, ownerAt? front hs ownerPath = some o → c.error? front hs h = c.error? front hs o := by
  have hturn : c.turn front hs h = c.nestedTurn front hs h path m := turn_of_nested hp hm hn
  constructor
  · intro ho
    rw [error?,hturn]
    simp [nestedTurn,hsource,ho,Verdict.error?]
  · intro o ho
    have harticle' : PathMatch.article? c.articleSegments ownerPath = some m' := hseg ▸ harticle
    have howner : c.turn front hs o = c.articleTurn front o ownerPath m' :=
      turn_of_match (mem_of_ownerAt? ho).2 harticle'
    rw [error?,error?,hturn,howner]
    simp only [nestedTurn,hsource,ho,harticle']
    exact error?_ownedTurn

/-- A turn fails by how articles are set up, because an owner is not there, or because of metadata that
are not written. -/
theorem isConfiguration_or_noOwner {template : String} {e : PassError}
    (hc : SourcePattern.compile template = .ok c.pattern)
    (hseg : c.articleSegments = c.pattern.segments) (hf : ∀ k ∈ hs, (front k).IsProper) (hh : h ∈ hs)
    (he : c.error? front hs h = some e) :
    e.IsConfiguration ∨ (∃ path ownerPath, e = .noOwner path ownerPath) ∨
      e.IsUnwritten ∧ ∃ k ∈ hs, c.HoldsUnwritten (front k) := by
  have hn := SourcePattern.nodup_of_compile hc
  have harticle : ∀ k ∈ hs, ∀ path m, (front k).path = .proper path →
      PathMatch.article? c.articleSegments path = some m → c.error? front hs k = some e →
        e.IsConfiguration ∨ (∃ path ownerPath, e = .noOwner path ownerPath) ∨
          e.IsUnwritten ∧ ∃ k ∈ hs, c.HoldsUnwritten (front k) := by
    intro k hk path m hp hm hk'
    rw [error?,turn_of_match hp hm] at hk'
    rcases isConfiguration_of_articleTurn (hf k hk) hn (hseg ▸ hm) hk' with hconf | ⟨hlong,hholds⟩
    · exact .inl hconf
    · exact .inr (.inr ⟨hlong,k,hk,hholds⟩)
  obtain ⟨path,hp⟩ := (hf h hh).1.exists_eq
  cases hm : PathMatch.article? c.articleSegments path with
  | some m => exact harticle h hh path m hp hm he
  | none =>
    cases hm' : c.pattern.nested? path with
    | none =>
      rw [error?,turn_of_unmatched hp hm hm'] at he
      simp [Verdict.error?] at he
    | some m =>
      obtain ⟨ownerPath,m',hsource,howner⟩ := SourcePattern.exists_owner_of_nested? hn hm'
      have hnested := error?_of_nested hs hseg hp hm hm' hsource howner
      cases ho : ownerAt? front hs ownerPath with
      | none =>
        rw [hnested.1 ho,Option.some.injEq] at he
        exact .inr (.inl ⟨path,ownerPath,he.symm⟩)
      | some o =>
        rw [hnested.2 o ho] at he
        obtain ⟨hmem,hpo⟩ := mem_of_ownerAt? ho
        exact harticle o hmem ownerPath m' hpo (hseg ▸ howner) he

theorem isSome_offset?_of_dateOf {f : FrontMatter} {path : String} {cs : Captures}
    {t : Calendar.Timestamp} (h : c.dateOf f path cs = .ok t) :
    t.offset?.isSome = true ↔ f.TellsOffset := by
  unfold dateOf at h
  unfold FrontMatter.TellsOffset
  cases hd : f.date with
  | some t' =>
    rw [hd] at h
    cases h
    simp
  | none =>
    rw [hd] at h
    simp only at h
    split at h
    · cases h
    · split at h
      · cases h
        simp [Calendar.Timestamp.offset?,Calendar.Timestamp.ofDate]
      · cases h

/-- Where no turn fails, the index can be sorted unless the dates are apart. -/
theorem sorts_iff (hf : ∀ k ∈ hs, (front k).IsProper) (hs' : c.Succeeds front hs) :
    c.Sorts front hs ↔ ¬ c.DatesApart front hs := by
  have htells : ∀ k ∈ hs, ∀ path m a, c.IsArticle front k path m a →
      (a.date.offset?.isSome = true ↔ (front k).TellsOffset) := fun k hk path m a ha =>
    isSome_offset?_of_dateOf (of_promote_eq_complete (hf k hk) ha.promote_eq).1
  have hlisted : ∀ k ∈ hs, c.IsListed (front k) → ∃ path m a, c.IsArticle front k path m a := by
    rintro k hk ⟨⟨path,m,hp,hm⟩,-⟩
    exact exists_isArticle hp hm (hs' k hk)
  rw [Sorts,Index.isSortable_iff]
  simp only [mem_entries_iff hs',Calendar.Timestamp.comparable_iff]
  constructor
  · rintro h ⟨j,hj,k,hk,hlj,hlk,htj,htk⟩
    obtain ⟨path,m,a,ha⟩ := hlisted j hj hlj
    obtain ⟨path',m',a',ha'⟩ := hlisted k hk hlk
    have heq := h _ ⟨j,hj,path,m,a,ha,hlj.2,rfl⟩ _ ⟨k,hk,path',m',a',ha',hlk.2,rfl⟩
    rw [← htells j hj _ _ _ ha] at htj
    rw [← htells k hk _ _ _ ha'] at htk
    exact htk (heq ▸ htj)
  · rintro h _ ⟨j,hj,path,m,a,ha,hvj,rfl⟩ _ ⟨k,hk,path',m',a',ha',hvk,rfl⟩
    have hlj : c.IsListed (front j) := ⟨⟨path,m,ha.path_eq,ha.match_eq⟩,hvj⟩
    have hlk : c.IsListed (front k) := ⟨⟨path',m',ha'.path_eq,ha'.match_eq⟩,hvk⟩
    rw [Bool.eq_iff_iff,htells j hj _ _ _ ha,htells k hk _ _ _ ha']
    by_contra hne
    rcases Classical.em (front j).TellsOffset with htj | htj
    · exact h ⟨j,hj,k,hk,hlj,hlk,htj,fun htk => hne (iff_of_true htj htk)⟩
    · refine h ⟨k,hk,j,hj,hlk,hlj,?_,htj⟩
      by_contra htk
      exact hne (iff_of_false htj htk)

end

section

variable {c : Classifier} {pool : Pool n} {hs : List (Fin n)}

theorem failure?_turns_eq_error? {front : Fin n → FrontMatter} :
    Turn.failure? (c.turns front hs) = hs.findSome? (c.error? front hs) := by
  rw [Turn.failure?,turns,List.findSome?_map]
  rfl

theorem pass_eq_error_iff {e : PassError} (hf : ∀ h ∈ hs, (pool.front h).IsProper) :
    (c.pass pool hs).result = .error e ↔ hs.findSome? (c.error? pool.front hs) = some e ∨
      (e = .datesApart ∧ c.Succeeds pool.front hs ∧ ¬ c.Sorts pool.front hs) := by
  rw [pass_eq_runTurns c fun h hh => (hf h hh).1,runTurns,← failure?_turns_eq_error?]
  cases hfail : Turn.failure? (c.turns pool.front hs) with
  | some e' =>
    have hs' : ¬ c.Succeeds pool.front hs := fun hs' => by simp [failure?_turns.mpr hs'] at hfail
    rw [classified_of_failure? hfail]
    simp [hs']
  | none =>
    have hs' := failure?_turns.mp hfail
    by_cases hsort : c.Sorts pool.front hs
    · rw [classified_of_sorts hs' hsort]
      simp [hsort]
    · rw [classified_of_not_sorts hs' hsort]
      simp [hs',hsort,eq_comm]

theorem succeeds_iff_error? {front : Fin n → FrontMatter} :
    c.Succeeds front hs ↔ ∀ h ∈ hs, c.error? front hs h = none := Iff.rfl

theorem pass_eq_error_of_turn {e : PassError} (hf : ∀ h ∈ hs, (pool.front h).IsProper)
    {before behind : List (Fin n)} {h : Fin n} (hsplit : hs = before ++ h :: behind)
    (he : c.error? pool.front hs h = some e)
    (hbefore : ∀ k ∈ before, c.error? pool.front hs k = none) :
    (c.pass pool hs).result = .error e :=
  (pass_eq_error_iff hf).mpr
    (.inl (List.findSome?_eq_some_iff.mpr ⟨before,h,behind,hsplit,he,hbefore⟩))

theorem pass_fails_of_turn (hf : ∀ h ∈ hs, (pool.front h).IsProper) {h : Fin n} (hh : h ∈ hs)
    (he : (c.error? pool.front hs h).isSome) : ∃ e, (c.pass pool hs).result = .error e := by
  have hsome : (hs.findSome? (c.error? pool.front hs)).isSome :=
    List.findSome?_isSome_iff.mpr ⟨h,hh,he⟩
  obtain ⟨e,he⟩ := Option.isSome_iff_exists.mp hsome
  exact ⟨e,(pass_eq_error_iff hf).mpr (.inl he)⟩

theorem pass_fails_of_datesApart (hf : ∀ h ∈ hs, (pool.front h).IsProper)
    (hapart : c.DatesApart pool.front hs) : ∃ e, (c.pass pool hs).result = .error e := by
  by_cases hs' : c.Succeeds pool.front hs
  · have hsort : ¬ c.Sorts pool.front hs := fun hsort => (sorts_iff hf hs').mp hsort hapart
    exact ⟨_,(pass_eq_error_iff hf).mpr (.inr ⟨rfl,hs',hsort⟩)⟩
  · rw [succeeds_iff_error?] at hs'
    simp only [not_forall] at hs'
    obtain ⟨h,hh,he⟩ := hs'
    exact pass_fails_of_turn hf hh (Option.isSome_iff_ne_none.mpr he)

/-- The error of a pass is that of the first turn that fails, or no turn fails and the dates are
apart. -/
theorem pass_error_cases {e : PassError} (hf : ∀ h ∈ hs, (pool.front h).IsProper)
    (he : (c.pass pool hs).result = .error e) :
    (∃ before h behind, hs = before ++ h :: behind ∧ c.error? pool.front hs h = some e ∧
      ∀ k ∈ before, c.error? pool.front hs k = none) ∨
    e = .datesApart ∧ (∀ h ∈ hs, c.error? pool.front hs h = none) ∧
      c.DatesApart pool.front hs := by
  rcases (pass_eq_error_iff hf).mp he with hfirst | ⟨rfl,hs',hsort⟩
  · exact .inl (List.findSome?_eq_some_iff.mp hfirst)
  · exact .inr ⟨rfl,hs',Classical.not_not.mp (mt (sorts_iff hf hs').mpr hsort)⟩

/-- A pass fails if and only if a turn fails or the dates are apart, and by the first error among the
turns.  An article's turn fails for want of a day or a slug, or of a text of its permalink if it is
seen; a nested file's turn fails if there is no owner, and as the owner's does otherwise; no other
turn fails. -/
theorem pass_fails_iff {template : String} (hc : SourcePattern.compile template = .ok c.pattern)
    (hseg : c.articleSegments = c.pattern.segments) (hf : ∀ h ∈ hs, (pool.front h).IsProper) :
    ((∃ e, (c.pass pool hs).result = .error e) ↔
      (∃ h ∈ hs, (c.error? pool.front hs h).isSome) ∨ c.DatesApart pool.front hs) ∧
    (∀ e, (c.pass pool hs).result = .error e →
      (∃ before h behind, hs = before ++ h :: behind ∧ c.error? pool.front hs h = some e ∧
        (∀ k ∈ before, c.error? pool.front hs k = none) ∧
        (e.IsConfiguration ∨ (∃ path ownerPath, e = .noOwner path ownerPath) ∨
          e.IsUnwritten ∧ ∃ k ∈ hs, c.HoldsUnwritten (pool.front k))) ∨
      e = .datesApart ∧ (∀ h ∈ hs, c.error? pool.front hs h = none) ∧
        c.DatesApart pool.front hs) ∧
    ∀ h ∈ hs, ∃ path, (pool.front h).path = .proper path ∧
      (∀ m, PathMatch.article? c.articleSegments path = some m →
        ((c.error? pool.front hs h).isSome ↔
          c.LacksDay (pool.front h) (c.pattern.captures m) ∨
            TitleUnwritten (pool.front h) (c.pattern.captures m) ∨
            (c.isVisible (pool.front h) = true ∧
              c.LacksText (pool.front h) (c.pattern.captures m)))) ∧
      (PathMatch.article? c.articleSegments path = none →
        (∀ m, c.pattern.nested? path = some m →
          ∃ ownerPath, c.pattern.sourcePath (c.pattern.captures m) = .ok ownerPath ∧
            ((c.error? pool.front hs h).isSome ↔
              (∀ k ∈ hs, (pool.front k).path ≠ .proper ownerPath) ∨
                ∃ o, ownerAt? pool.front hs ownerPath = some o ∧
                  (c.error? pool.front hs o).isSome) ∧
            ((∀ k ∈ hs, (pool.front k).path ≠ .proper ownerPath) →
              c.error? pool.front hs h = some (.noOwner path ownerPath)) ∧
            ∀ o, ownerAt? pool.front hs ownerPath = some o →
              c.error? pool.front hs h = c.error? pool.front hs o) ∧
        (c.pattern.nested? path = none → c.error? pool.front hs h = none)) := by
  have hn := SourcePattern.nodup_of_compile hc
  refine ⟨⟨?_,?_⟩,fun e he => ?_,fun h hh => ?_⟩
  · rintro ⟨e,he⟩
    rcases pass_error_cases hf he with ⟨before,h,behind,hsplit,herror,-⟩ | ⟨-,-,hapart⟩
    · exact .inl ⟨h,by simp [hsplit],by rw [herror]; rfl⟩
    · exact .inr hapart
  · rintro (⟨h,hh,he⟩ | hapart)
    · exact pass_fails_of_turn hf hh he
    · exact pass_fails_of_datesApart hf hapart
  · rcases pass_error_cases hf he with ⟨before,h,behind,hsplit,herror,hbefore⟩ | hapart
    · have hh : h ∈ hs := by simp [hsplit]
      exact .inl ⟨before,h,behind,hsplit,herror,hbefore,
        isConfiguration_or_noOwner hc hseg hf hh herror⟩
    · exact .inr hapart
  · obtain ⟨path,hp⟩ := (hf h hh).1.exists_eq
    refine ⟨path,hp,fun m hm => ?_,fun hm => ⟨fun m hm' => ?_,fun hm' => ?_⟩⟩
    · rw [error?,turn_of_match hp hm]
      exact articleTurn_fails_iff (hf h hh) hn (hseg ▸ hm)
    · obtain ⟨ownerPath,m',hsource,howner⟩ := SourcePattern.exists_owner_of_nested? hn hm'
      obtain ⟨hnone,hsome⟩ := error?_of_nested hs hseg hp hm hm' hsource howner
      refine ⟨ownerPath,hsource,?_,fun hno => hnone (ownerAt?_eq_none_iff.mpr hno),hsome⟩
      rw [← ownerAt?_eq_none_iff]
      cases ho : ownerAt? pool.front hs ownerPath with
      | none => simp [hnone ho]
      | some o => simp [hsome o ho]
    · rw [error?,turn_of_unmatched hp hm hm']
      rfl

theorem pass_fails_iff_sample :
    SourcePattern.compile ":year-:title.html" = .ok Sample.classifier.pattern ∧
    (∀ h ∈ ([4,0,2,3] : List (Fin 5)), (Sample.pool.front h).IsProper) ∧
    (Sample.classifier.error? Sample.pool.front [4,0,2,3] 0).isSome ∧
    ∃ e, (Sample.classifier.pass Sample.pool [4,0,2,3]).result = .error e ∧ e ≠ .datesApart := by
  have hc : SourcePattern.compile ":year-:title.html" = .ok Sample.classifier.pattern := by
    decide +kernel
  have hf : ∀ h ∈ ([4,0,2,3] : List (Fin 5)), (Sample.pool.front h).IsProper := by
    intro h hh
    simp only [List.mem_cons,List.not_mem_nil,or_false] at hh
    rcases hh with rfl | rfl | rfl | rfl <;>
      exact ⟨trivial,trivial,trivial,trivial,trivial,trivial⟩
  have he : (Sample.classifier.error? Sample.pool.front [4,0,2,3] 0).isSome := rfl
  have h := pass_fails_iff hc rfl hf
  obtain ⟨e,hfail⟩ := h.1.mpr (.inl ⟨0,by simp,he⟩)
  refine ⟨hc,hf,he,e,hfail,?_⟩
  rintro rfl
  rcases h.2.1 _ hfail with ⟨_,_,_,_,_,_,hkind⟩ | ⟨-,hnone,-⟩
  · rcases hkind with hconf | ⟨_,_,heq⟩ | ⟨hlong,_⟩
    · exact hconf
    · cases heq
    · exact hlong
  · simp [hnone 0 (by simp)] at he

end

end Classifier

/-! Two files that are named by their year: one has a category with one digit too many, the other a
language of which the policy would leave nothing. -/
namespace Sample

def categorized : Classifier where
  pattern := ⟨":year.html",[.field .year,.literal ['.','h','t','m','l']]⟩
  permalink := ⟨":category/",[.field (.custom "category"),.literal ['/']],["category"]⟩

def countlessFile : Pool 1 := #v[{
  path := .proper "2014.html"
  data := .proper [("category",.int Calendar.Numeral.limit)] }]

def byLanguage : Classifier where
  pattern := ⟨":year.html",[.field .year,.literal ['.','h','t','m','l']]⟩
  permalink := ⟨":lang/",[.field .lang,.literal ['/']],[]⟩
  preserveLocale := true

def dashedFile : Pool 1 := #v[{ path := .proper "2014.html", lang := .proper (some "-") }]

end Sample

/-- A pass may fail by an error that is none of the configuration and does not tell of a missing owner;
and where languages are kept, it does not fail for want of one though the policy would leave none. -/
theorem Classifier.pass_fails_unwritten :
    (∃ e, (Sample.categorized.pass Sample.countlessFile [0]).result = .error e ∧
      ¬ e.IsConfiguration ∧ ∀ path ownerPath, e ≠ .noOwner path ownerPath) ∧
    (∃ found, (Sample.byLanguage.pass Sample.dashedFile [0]).result = .ok found) ∧
      Sample.byLanguage.policy.apply (some "-") = some "" := by
  have hf : ∀ h ∈ ([0] : List (Fin 1)), (Sample.countlessFile.front h).IsProper := by
    intro h hh
    obtain rfl := List.mem_singleton.mp hh
    exact ⟨trivial,trivial,trivial,trivial,trivial,trivial⟩
  have he : Sample.categorized.error? Sample.countlessFile.front [0] 0 =
      some (.permalink ":category/" (.text "category")) := by decide +kernel
  have hfirst : ([0] : List (Fin 1)) = [] ++ 0 :: [] := rfl
  have hfails := pass_eq_error_of_turn hf hfirst he (by simp)
  refine ⟨⟨_,hfails,by simp [PassError.IsConfiguration,PermalinkLack.isConfiguration],by simp⟩,
    ⟨_,rfl⟩,by decide +kernel⟩

end BlogPaths
