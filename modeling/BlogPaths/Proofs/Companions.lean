import BlogPaths.Proofs.Drafts
import BlogPaths.Proofs.Joins
import BlogPaths.Proofs.Owners

/-! Where the companions of an article go.  The end of the article's permalink that names a page gives
way to the nested part of the companion's path, and what stands before that end leads to both. -/
namespace BlogPaths

open Text

namespace Permalink

/-- What names a page at the end of a permalink: an index file, an extension, or a slash. -/
def IsEnding (indexFile s : List Char) : Prop :=
  s = '/' :: indexFile ∨ (∃ e, s = '.' :: e ∧ e ≠ [] ∧ '.' ∉ e ∧ '/' ∉ e) ∨ s = ['/']

/-- A permalink, what stands before its end, and the end.  An index file goes before an extension,
and an extension before a slash. -/
inductive Ends (indexFile : List Char) : List Char → List Char → List Char → Prop
  | index {base} : Ends indexFile (base ++ '/' :: indexFile) base ('/' :: indexFile)
  | extension {base e} (hi : ¬ '/' :: indexFile <:+ base ++ '.' :: e) (hne : e ≠ [])
      (hdot : '.' ∉ e) (hslash : '/' ∉ e) : Ends indexFile (base ++ '.' :: e) base ('.' :: e)
  | slash {base} (hi : ¬ '/' :: indexFile <:+ base ++ ['/']) :
      Ends indexFile (base ++ ['/']) base ['/']
  | none {p} (hi : ¬ '/' :: indexFile <:+ p)
      (he : ∀ e, e ≠ [] → '.' ∉ e → '/' ∉ e → ¬ '.' :: e <:+ p) (hs : ¬ ['/'] <:+ p) :
      Ends indexFile p p []

section

variable {indexFile tail p base ending s : List Char}

theorem Ends.append_eq (h : Ends indexFile p base ending) : base ++ ending = p := by
  cases h with
  | index => rfl
  | extension => rfl
  | slash => rfl
  | none => exact List.append_nil _

theorem exists_ends (indexFile p : List Char) : ∃ base ending, Ends indexFile p base ending := by
  by_cases hi : '/' :: indexFile <:+ p
  · obtain ⟨base,rfl⟩ := hi
    exact ⟨base,_,.index⟩
  by_cases he : ∃ e, e ≠ [] ∧ '.' ∉ e ∧ '/' ∉ e ∧ '.' :: e <:+ p
  · obtain ⟨e,hne,hdot,hslash,base,rfl⟩ := he
    exact ⟨base,_,.extension hi hne hdot hslash⟩
  by_cases hs : ['/'] <:+ p
  · obtain ⟨base,rfl⟩ := hs
    exact ⟨base,_,.slash hi⟩
  · exact ⟨p,[],.none hi (fun e hne hdot hslash h => he ⟨e,hne,hdot,hslash,h⟩) hs⟩

theorem Ends.isEnding (h : Ends indexFile p base ending) :
    ending = [] ∨ IsEnding indexFile ending := by
  cases h with
  | index => exact .inr (.inl rfl)
  | extension _ hne hdot hslash => exact .inr (.inr (.inl ⟨_,rfl,hne,hdot,hslash⟩))
  | slash => exact .inr (.inr (.inr rfl))
  | none => exact .inl rfl

/-- No ending starts further left. -/
theorem Ends.not_isEnding (h : Ends indexFile p base ending) {y : List Char} (hy : y ≠ [])
    (hb : y <:+ base) : ¬ IsEnding indexFile (y ++ ending) := by
  obtain ⟨c,y,rfl⟩ := List.exists_cons_of_ne_nil hy
  have hp : c :: y ++ ending <:+ p := by
    obtain ⟨x,rfl⟩ := hb
    exact ⟨x,by rw [← h.append_eq,List.append_assoc]⟩
  rintro (he | ⟨e,he,hne,hdot,hslash⟩ | he)
  · cases h with
    | index =>
      have hlength := congrArg List.length he
      simp at hlength
      omega
    | extension hi => exact hi (he ▸ hp)
    | slash hi => exact hi (he ▸ hp)
    | none hi => exact hi (he ▸ hp)
  · obtain ⟨rfl,rfl⟩ := List.cons.inj he
    cases h with
    | index => simp at hslash
    | extension => simp at hdot
    | slash => simp at hslash
    | none _ he' => exact he' _ hne hdot hslash (by simpa using hp)
  · cases h with
    | index => simpa using congrArg List.length he
    | extension => simpa using congrArg List.length he
    | slash => simpa using congrArg List.length he
    | none _ _ hs => exact hs (he ▸ hp)

theorem endingAt?_of_isEnding (h : IsEnding indexFile s) : endingAt? indexFile s = some [] := by
  rcases h with rfl | ⟨e,rfl,hne,hdot,hslash⟩ | rfl
  · simp [endingAt?,atEnd]
  · have hall : e.all (fun c => c ≠ '.' && c ≠ '/') = true := by
      rw [List.all_eq_true]
      intro c hc
      have h₁ : c ≠ '.' := fun h => hdot (h ▸ hc)
      have h₂ : c ≠ '/' := fun h => hslash (h ▸ hc)
      simp [h₁,h₂]
    simp only [endingAt?,if_pos (And.intro hne hall)]
  · simp [endingAt?,atEnd]

theorem eq_nil_of_atEnd (h : atEnd s = true) (hs : s.getLast? ≠ some '\n') : s = [] := by
  simp only [atEnd,Bool.or_eq_true,decide_eq_true_eq] at h
  rcases h with rfl | rfl
  · rfl
  · exact absurd rfl hs

/-- Where no line break is at the very end, nothing but an ending is taken for one. -/
theorem isEnding_of_endingAt? {rest : List Char} (h : endingAt? indexFile s = some rest)
    (hs : s.getLast? ≠ some '\n') : IsEnding indexFile s := by
  have hlast : ∀ {x r : List Char}, s = x ++ r → r.getLast? ≠ some '\n' := by
    rintro x r rfl hr
    exact hs (by rw [List.getLast?_append,hr,Option.some_or])
  unfold endingAt? at h
  split at h
  · rename_i r
    split at h
    · rename_i hi
      obtain ⟨⟨u,rfl⟩,hend⟩ := hi
      rw [List.drop_left] at hend
      have hu : u = [] := eq_nil_of_atEnd hend (hlast (x := '/' :: indexFile) rfl)
      exact .inl (by rw [hu,List.append_nil])
    · split at h
      · rename_i hend
        have hr : r = [] := eq_nil_of_atEnd hend (hlast (x := ['/']) rfl)
        exact .inr (.inr (by rw [hr]))
      · cases h
  · rename_i e
    split at h
    · rename_i he
      obtain ⟨hne,hall⟩ := he
      have hmem : ∀ c ∈ e, c ≠ '.' ∧ c ≠ '/' := by simpa using hall
      exact .inr (.inl ⟨e,rfl,hne,fun hc => (hmem _ hc).1 rfl,fun hc => (hmem _ hc).2 rfl⟩)
    · cases h
  · cases h

theorem replaceEnding_append (hend : ending = [] ∨ IsEnding indexFile ending)
    (hno : ∀ y, y ≠ [] → y <:+ base → ¬ IsEnding indexFile (y ++ ending))
    (hlast : (base ++ ending).getLast? ≠ some '\n') :
    replaceEnding indexFile tail (base ++ ending) = base ++ tail := by
  induction base with
  | nil =>
    rcases hend with rfl | hend
    · rfl
    · cases ending with
      | nil => rfl
      | cons c s =>
        simp only [List.nil_append,replaceEnding,endingAt?_of_isEnding hend,List.append_nil]
  | cons c base ih =>
    -- An ending that starts here would be a longer one than `ending`.
    have hnone : endingAt? indexFile (c :: (base ++ ending)) = none := by
      cases hx : endingAt? indexFile (c :: (base ++ ending)) with
      | none => rfl
      | some rest =>
        exact absurd (isEnding_of_endingAt? hx hlast)
          (hno (c :: base) (List.cons_ne_nil _ _) (List.suffix_refl _))
    have hlast' : (base ++ ending).getLast? ≠ some '\n' := by
      intro he
      exact hlast (by rw [List.cons_append,List.getLast?_cons,he,Option.getD_some])
    have ih := ih (fun y hy hb => hno y hy (hb.trans (List.suffix_cons c base))) hlast'
    simp only [List.cons_append,replaceEnding,hnone,ih]

theorem replaceEnding_of_ends (h : Ends indexFile p base ending) (hp : p.getLast? ≠ some '\n')
    (tail : List Char) : replaceEnding indexFile tail p = base ++ tail := by
  rw [← h.append_eq] at hp ⊢
  exact replaceEnding_append h.isEnding (fun y hy hb => h.not_isEnding hy hb) hp

end

end Permalink

/-- Behind `base`, a nested part and an ending are decoded apart from it. -/
theorem Permalink.Ends.outputPath_eq {indexFile p base ending : List Char}
    (h : Permalink.Ends indexFile p base ending) (hb : base ≠ []) :
    outputPath (String.ofList p) =
      outputPath (String.ofList base) ++ String.ofList (Percent.decode ending) := by
  rw [← h.append_eq]
  cases h with
  | index => exact outputPath_append Percent.isBreak_slash hb _
  | extension => exact outputPath_append Percent.isBreak_dot hb _
  | slash => exact outputPath_append Percent.isBreak_slash hb _
  | none => simp

variable {n : Nat}

namespace Classifier

variable {c : Classifier} {pool : Pool n} {hs : List (Fin n)}

theorem IsNested.head?_tail {front : Fin n → FrontMatter} {k : Fin n}
    {path ownerPath tail : String} (hn : c.IsNested front k path ownerPath tail) :
    tail.toList.head? = some '/' := by
  obtain ⟨m,hm,_,rfl⟩ := hn.match_eq
  obtain ⟨stem,hstem,hm⟩ := Option.bind_eq_some_iff.mp hm
  obtain ⟨before,u,suffix,_,hp,rfl⟩ := SourcePattern.stemOf_eq_some hstem
  obtain ⟨as,s,t,hat,hd,hgroups,_⟩ := SourcePattern.nestedAt_of_nested? hp hm
  have hfull : Describes c.pattern.segments as (s ++ suffix) := by
    rw [hp]
    exact SourcePattern.describes_extension_iff.mpr hd
  rw [SourcePattern.lookup_path_of_groups (length_of_describes hfull) hgroups,Option.getD_some,
    String.toList_ofList]
  exact hat.slash

theorem exists_owner_of_kept (hs' : c.Succeeds pool.front hs) {k : Fin n}
    (hk : k ∈ (outcome (c.turns pool.front hs)).kept)
    (hn : c.isNestedPath (pool.front k) = true) :
    ∃ path ownerPath tail o m a permalink, c.IsNested pool.front k path ownerPath tail ∧
      ownerAt? pool.front hs ownerPath = some o ∧ c.IsArticle pool.front o ownerPath m a ∧
      c.isVisible (pool.front o) = true ∧ c.permalink.resolve a = .ok permalink := by
  rw [kept_outcome_turns hs'] at hk
  obtain ⟨hk,hkept⟩ := List.mem_filter.mp hk
  have ht := settles_turn (hs' k hk)
  generalize c.turn pool.front hs k = t at ht hkept
  cases ht with
  | draft => simp [Verdict.isKept] at hkept
  | article ha => simp [isNestedPath,ha.isArticlePath] at hn
  | belowDraft => simp [Verdict.isKept] at hkept
  | companion hn' ho ha hv hr => exact ⟨_,_,_,_,_,_,_,hn',ho,ha,hv,hr⟩
  | plain hp _ hnone => simp [isNestedPath,hp,hnone] at hn

/-- A companion follows its article.  Unless the article's permalink has a line break at its end, the
companion goes where the permalink leads without its ending, and from there along the nested part of
its path; what stands before the ending leads to both. -/
theorem pass_companion_follows {found : Classified n} (h : (c.pass pool hs).result = .ok found)
    {k : Fin n} (hk : k ∈ found.kept) (hn : c.isNestedPath (pool.front k) = true) :
    ∃ path ownerPath tail o a permalink, c.IsNested pool.front k path ownerPath tail ∧
      tail.toList.head? = some '/' ∧ c.IsCompanionOf pool hs found k o ∧
      ((c.pass pool hs).pool.standing o).article = .proper (some a) ∧
      c.permalink.resolve a = .ok permalink ∧
      (permalink.toList.getLast? ≠ some '\n' →
        (∃ base ending, Permalink.Ends c.indexFile.toList permalink.toList base ending) ∧
        ∀ base ending, Permalink.Ends c.indexFile.toList permalink.toList base ending →
          ((c.pass pool hs).pool.standing k).destinationPath =
            .proper (some (outputPath (String.ofList (base ++ tail.toList)))) ∧
          (base ≠ [] →
            outputPath (String.ofList (base ++ tail.toList)) =
              outputPath (String.ofList base) ++ String.ofList (Percent.decode tail.toList) ∧
            ((c.pass pool hs).pool.standing o).destinationPath = .proper (some
              (outputPath (String.ofList base) ++ String.ofList (Percent.decode ending))))) := by
  obtain ⟨hs',-,rfl⟩ := pass_eq_ok_iff.mp h
  obtain ⟨path,ownerPath,tail,o,m,a,permalink,hn',ho,ha,hv,hr⟩ := exists_owner_of_kept hs' hk hn
  have hmem : k ∈ hs := by
    rw [kept_outcome_turns hs'] at hk
    exact (List.mem_filter.mp hk).1
  have hfollower := standing_of_companion hs' hmem hn' ho ha hv hr
  have howner := standing_of_visible hs' (mem_of_ownerAt? ho).1 ha hv hr
  refine ⟨path,ownerPath,tail,o,a,permalink,hn',hn'.head?_tail,
    isCompanionOf_of_settles hs' hmem hn' ho ha hv hr,by rw [howner]; rfl,hr,fun hlast =>
    ⟨Permalink.exists_ends _ _,fun base ending hends => ?_⟩⟩
  have hcompanion : Permalink.companion c.indexFile permalink tail =
      String.ofList (base ++ tail.toList) := by
    rw [Permalink.companion,Permalink.replaceEnding_of_ends hends hlast]
  refine ⟨by rw [hfollower,hcompanion]; rfl,fun hb => ⟨?_,?_⟩⟩
  · obtain ⟨t,ht⟩ : ∃ t, tail.toList = '/' :: t := List.head?_eq_some_iff.mp hn'.head?_tail
    rw [ht]
    exact outputPath_append Percent.isBreak_slash hb t
  · rw [howner,← hends.outputPath_eq hb,String.ofList_toList]
    rfl

end Classifier

/-! A picture beside an article whose permalink ends in half of a character, the other half of which
the picture's name starts with. -/
namespace Sample

def halved : Classifier where
  pattern := classifier.pattern
  permalink := ⟨"/:title%C3.html",[.literal ['/'],.field .title,.literal "%C3.html".toList],[]⟩

def halves : Pool 2 := #v[{ path := .proper "2014-a/%A9.jpg" },{ path := .proper "2014-a.html" }]

end Sample

theorem Classifier.pass_companion_follows_sample :
    let p := Sample.halved.pass Sample.halves [0,1]
    ∃ found, p.result = .ok found ∧ 0 ∈ found.kept ∧
      Sample.halved.isNestedPath (Sample.halves.front 0) = true ∧
      (p.pool.standing 0).destinationPath = .proper (some "a\uFFFD/\uFFFD.jpg") ∧
      (p.pool.standing 1).destinationPath = .proper (some "a\uFFFD.html") := by
  intro p
  obtain ⟨found,hf⟩ : ∃ found, p.result = .ok found := ⟨_,rfl⟩
  obtain ⟨_,-,rfl⟩ := Classifier.pass_eq_ok_iff.mp hf
  have hkept : (Classifier.outcome (Sample.halved.turns Sample.halves.front [0,1])).kept =
      [0,1] := rfl
  have hk : 0 ∈ (Classifier.outcome (Sample.halved.turns Sample.halves.front [0,1])).kept := by
    simp [hkept]
  have hn : Sample.halved.isNestedPath (Sample.halves.front 0) = true := by decide
  have hplace : Sample.halved.IsNested Sample.halves.front 0 "2014-a/%A9.jpg" "2014-a.html"
      "/%A9.jpg" :=
    ⟨rfl,by decide,⟨["2014","a","/%A9.jpg"],"2014-a/%A9.jpg"⟩,by decide,rfl,rfl⟩
  obtain ⟨a,harticle,hresolve⟩ : ∃ a, (p.pool.standing 1).article = .proper (some a) ∧
      Sample.halved.permalink.resolve a = .ok "/a%C3.html" := ⟨_,rfl,rfl⟩
  obtain ⟨_,_,tail,o,a',permalink,hnested,_,hof,ha,hr,hfollows⟩ :=
    Classifier.pass_companion_follows hf hk hn
  obtain ⟨_,_,rfl⟩ := hplace.unique hnested
  have howner : Sample.halved.articleFor? Sample.halves.front [0,1] 0 = some 1 := by decide
  obtain rfl : o = 1 := Option.some.inj (hof.owner.symm.trans howner)
  obtain rfl : a = a' := Option.some.inj (Assigned.proper.inj (harticle.symm.trans ha))
  obtain rfl : "/a%C3.html" = permalink := Except.ok.inj (hresolve.symm.trans hr)
  have hends : Permalink.Ends Sample.halved.indexFile.toList
      ("/a%C3".toList ++ '.' :: "html".toList) "/a%C3".toList ('.' :: "html".toList) :=
    .extension (by decide) (by decide) (by decide) (by decide)
  obtain ⟨hdestination,hjoin⟩ := (hfollows (by decide)).2 _ _ hends
  obtain ⟨hdecode,howner⟩ := hjoin (by decide)
  refine ⟨_,hf,hk,hn,?_,?_⟩
  · rw [hdestination,hdecode]
    rfl
  · rw [howner]
    rfl

end BlogPaths
