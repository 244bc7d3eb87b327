import BlogPaths.Proofs.Fields

/-! The turns that do not fail, case by case, and what each of them leaves of the resources it
edits. -/
namespace BlogPaths

variable {n : Nat}

namespace Classifier

/-- A resource that the classifier promotes to the article `a`. -/
structure IsArticle (c : Classifier) (front : Fin n → FrontMatter) (h : Fin n) (path : String)
    (m : PathMatch) (a : Article) : Prop where
  path_eq : (front h).path = .proper path
  match_eq : PathMatch.article? c.articleSegments path = some m
  promote_eq : c.promote (front h) path (c.pattern.captures m) = .complete a

/-- A resource that is no article and lies in the place `tail` below the one at `ownerPath`. -/
structure IsNested (c : Classifier) (front : Fin n → FrontMatter) (h : Fin n)
    (path ownerPath tail : String) : Prop where
  path_eq : (front h).path = .proper path
  no_match : PathMatch.article? c.articleSegments path = none
  match_eq : ∃ m, c.pattern.nested? path = some m ∧
    c.pattern.sourcePath (c.pattern.captures m) = .ok ownerPath ∧
      tail = ((c.pattern.captures m).lookup "path").getD ""

theorem IsArticle.unique {c : Classifier} {front : Fin n → FrontMatter} {h : Fin n}
    {path path' : String} {m m' : PathMatch} {a a' : Article} (ha : c.IsArticle front h path m a)
    (ha' : c.IsArticle front h path' m' a') : path = path' ∧ m = m' ∧ a = a' := by
  have hp : path = path' := by simpa [ha.path_eq] using ha'.path_eq
  subst hp
  have hm : m = m' := by simpa [ha.match_eq] using ha'.match_eq
  subst hm
  exact ⟨rfl,rfl,by simpa [ha.promote_eq] using ha'.promote_eq⟩

theorem IsArticle.article?_ne_none {c : Classifier} {front : Fin n → FrontMatter} {h : Fin n}
    {path path' : String} {m : PathMatch} {a : Article} (ha : c.IsArticle front h path m a)
    (hp : (front h).path = .proper path') : PathMatch.article? c.articleSegments path' ≠ none := by
  have he : path = path' := by simpa [ha.path_eq] using hp
  rw [← he,ha.match_eq]
  exact Option.some_ne_none m

theorem IsNested.nested?_ne_none {c : Classifier} {front : Fin n → FrontMatter} {h : Fin n}
    {path path' ownerPath tail : String} (hn : c.IsNested front h path ownerPath tail)
    (hp : (front h).path = .proper path') : c.pattern.nested? path' ≠ none := by
  have he : path = path' := by simpa [hn.path_eq] using hp
  obtain ⟨m,hm,_⟩ := hn.match_eq
  rw [← he,hm]
  exact Option.some_ne_none m

theorem IsNested.unique {c : Classifier} {front : Fin n → FrontMatter} {h : Fin n}
    {path path' ownerPath ownerPath' tail tail' : String}
    (hn : c.IsNested front h path ownerPath tail)
    (hn' : c.IsNested front h path' ownerPath' tail') :
    path = path' ∧ ownerPath = ownerPath' ∧ tail = tail' := by
  have hp : path = path' := by simpa [hn.path_eq] using hn'.path_eq
  subst hp
  obtain ⟨m,hm,ho,rfl⟩ := hn.match_eq
  obtain ⟨m',hm',ho',rfl⟩ := hn'.match_eq
  have he : m = m' := by simpa [hm] using hm'
  subst he
  exact ⟨rfl,by simpa [ho] using ho',rfl⟩

/-- The turns that do not fail. -/
inductive Settles (c : Classifier) (front : Fin n → FrontMatter) (hs : List (Fin n)) (h : Fin n) :
    Turn n → Prop
  | draft {path m a} (ha : c.IsArticle front h path m a) (hv : c.isVisible (front h) = false) :
      Settles c front hs h
        { handle := h
          edits := [(h,.enroll c.controller),(h,.describe a)]
          log := [.skippedArticle path]
          verdict := .dropped }
  | article {path m a permalink} (ha : c.IsArticle front h path m a)
      (hv : c.isVisible (front h) = true) (hr : c.permalink.resolve a = .ok permalink) :
      Settles c front hs h
        { handle := h
          edits := [(h,.enroll c.controller),(h,.describe a),(h,.publish (outputPath permalink))]
          verdict := .kept (some ⟨h,some path,a.date⟩) }
  | belowDraft {path ownerPath tail o m a} (hn : c.IsNested front h path ownerPath tail)
      (ho : ownerAt? front hs ownerPath = some o) (ha : c.IsArticle front o ownerPath m a)
      (hv : c.isVisible (front o) = false) :
      Settles c front hs h
        { handle := h
          edits := [(o,.enroll c.controller),(o,.describe a)]
          log := [.skippedCompanion path ownerPath]
          verdict := .dropped }
  | companion {path ownerPath tail o m a permalink} (hn : c.IsNested front h path ownerPath tail)
      (ho : ownerAt? front hs ownerPath = some o) (ha : c.IsArticle front o ownerPath m a)
      (hv : c.isVisible (front o) = true) (hr : c.permalink.resolve a = .ok permalink) :
      Settles c front hs h
        { handle := h
          edits := [(o,.enroll c.controller),(o,.describe a),(h,.attach ownerPath c.controller),
            (h,.publish (outputPath (Permalink.companion c.indexFile permalink tail)))]
          log := [.companion path ownerPath
            (outputPath (Permalink.companion c.indexFile permalink tail))]
          verdict := .kept none }
  | plain {path} (hp : (front h).path = .proper path)
      (hm : PathMatch.article? c.articleSegments path = none)
      (hn : c.pattern.nested? path = none) :
      Settles c front hs h { handle := h, verdict := .kept none }

section

variable {c : Classifier} {front : Fin n → FrontMatter} {hs : List (Fin n)} {h : Fin n}

theorem turn_of_path {path : String} (hp : (front h).path = .proper path) :
    c.turn front hs h = c.pathTurn front hs h path := by
  simp [turn,hp]

theorem turn_of_match {path : String} {m : PathMatch} (hp : (front h).path = .proper path)
    (hm : PathMatch.article? c.articleSegments path = some m) :
    c.turn front hs h = c.articleTurn front h path m := by
  simp [turn_of_path hp,pathTurn,hm]

theorem turn_of_nested {path : String} {m : PathMatch} (hp : (front h).path = .proper path)
    (hm : PathMatch.article? c.articleSegments path = none) (hn : c.pattern.nested? path = some m) :
    c.turn front hs h = c.nestedTurn front hs h path m := by
  simp [turn_of_path hp,pathTurn,hm,hn]

theorem turn_of_unmatched {path : String} (hp : (front h).path = .proper path)
    (hm : PathMatch.article? c.articleSegments path = none) (hn : c.pattern.nested? path = none) :
    c.turn front hs h = { handle := h, verdict := .kept none } := by
  simp [turn_of_path hp,pathTurn,hm,hn]

theorem mem_of_ownerAt? {path : String} {o : Fin n} (ho : ownerAt? front hs path = some o) :
    o ∈ hs ∧ (front o).path = .proper path := by
  refine ⟨by simpa using List.mem_of_find?_eq_some ho,?_⟩
  have := List.find?_some ho
  simpa [Assigned.proper?_eq_some] using this

theorem exists_isArticle {path : String} {m : PathMatch} (hp : (front h).path = .proper path)
    (hm : PathMatch.article? c.articleSegments path = some m)
    (he : (c.turn front hs h).verdict.error? = none) :
    ∃ path m a, c.IsArticle front h path m a := by
  rw [turn_of_match hp hm,articleTurn] at he
  cases hq : c.promote (front h) path (c.pattern.captures m) with
  | refused e => simp [hq,Verdict.error?] at he
  | broken e => simp [hq,Verdict.error?] at he
  | complete a => exact ⟨path,m,a,hp,hm,hq⟩

theorem settles_articleTurn {path : String} {m : PathMatch} (hp : (front h).path = .proper path)
    (hm : PathMatch.article? c.articleSegments path = some m)
    (he : (c.articleTurn front h path m).verdict.error? = none) :
    Settles c front hs h (c.articleTurn front h path m) := by
  unfold articleTurn at he ⊢
  cases hq : c.promote (front h) path (c.pattern.captures m) with
  | refused e => simp [hq,Verdict.error?] at he
  | broken e => simp [hq,Verdict.error?] at he
  | complete a =>
    have ha : c.IsArticle front h path m a := ⟨hp,hm,hq⟩
    cases hv : c.isVisible (front h) with
    | false => exact .draft ha hv
    | true =>
      cases hr : c.permalink.resolve a with
      | error lack => simp [hq,hv,hr,Verdict.error?] at he
      | ok permalink =>
        simpa [hr,promotionEdits,Promotion.edits] using Settles.article ha hv hr

theorem settles_ownedTurn {path ownerPath tail : String} {o : Fin n} {m : PathMatch}
    (hn : c.IsNested front h path ownerPath tail) (ho : ownerAt? front hs ownerPath = some o)
    (hm : PathMatch.article? c.articleSegments ownerPath = some m)
    (he : (c.ownedTurn front h o path ownerPath tail m).verdict.error? = none) :
    Settles c front hs h (c.ownedTurn front h o path ownerPath tail m) := by
  unfold ownedTurn at he ⊢
  cases hq : c.promote (front o) ownerPath (c.pattern.captures m) with
  | refused e => simp [hq,Verdict.error?] at he
  | broken e => simp [hq,Verdict.error?] at he
  | complete a =>
    have ha : c.IsArticle front o ownerPath m a := ⟨(mem_of_ownerAt? ho).2,hm,hq⟩
    cases hv : c.isVisible (front o) with
    | false => exact .belowDraft hn ho ha hv
    | true =>
      cases hr : c.permalink.resolve a with
      | error lack => simp [hq,hv,hr,Verdict.error?] at he
      | ok permalink =>
        simpa [hr,promotionEdits,Promotion.edits] using Settles.companion hn ho ha hv hr

/-- A turn that does not fail is one of the five. -/
theorem settles_turn (he : (c.turn front hs h).verdict.error? = none) :
    Settles c front hs h (c.turn front hs h) := by
  cases hp : (front h).path with
  | stray v => simp [turn,hp,Verdict.error?] at he
  | proper path =>
    cases hm : PathMatch.article? c.articleSegments path with
    | some m =>
      rw [turn_of_match hp hm] at he ⊢
      exact settles_articleTurn hp hm he
    | none =>
      cases hn : c.pattern.nested? path with
      | none =>
        rw [turn_of_unmatched hp hm hn]
        exact .plain hp hm hn
      | some m =>
        rw [turn_of_nested hp hm hn] at he ⊢
        unfold nestedTurn at he ⊢
        cases hs' : c.pattern.sourcePath (c.pattern.captures m) with
        | error f => simp [hs',Verdict.error?] at he
        | ok ownerPath =>
          cases ho : ownerAt? front hs ownerPath with
          | none => simp [hs',ho,Verdict.error?] at he
          | some o =>
            cases hm' : PathMatch.article? c.articleSegments ownerPath with
            | none => simp [hs',ho,hm',Verdict.error?] at he
            | some m' =>
              simp only [hs',ho,hm'] at he ⊢
              exact settles_ownedTurn ⟨hp,hm,m,hn,hs',rfl⟩ ho hm' he

/-- Each of the five is the turn of its resource. -/
theorem Settles.turn_eq {t : Turn n} (ht : Settles c front hs h t) : c.turn front hs h = t := by
  cases ht with
  | draft ha hv =>
    rw [turn_of_match ha.path_eq ha.match_eq]
    simp [articleTurn,ha.promote_eq,hv,promotionEdits,Promotion.edits]
  | article ha hv hr =>
    rw [turn_of_match ha.path_eq ha.match_eq]
    simp [articleTurn,ha.promote_eq,hv,hr,promotionEdits,Promotion.edits]
  | belowDraft hn ho ha hv =>
    obtain ⟨m,hm,hs',rfl⟩ := hn.match_eq
    rw [turn_of_nested hn.path_eq hn.no_match hm]
    simp [nestedTurn,ownedTurn,hs',ho,ha.match_eq,ha.promote_eq,hv,promotionEdits,Promotion.edits]
  | companion hn ho ha hv hr =>
    obtain ⟨m,hm,hs',rfl⟩ := hn.match_eq
    rw [turn_of_nested hn.path_eq hn.no_match hm]
    simp [nestedTurn,ownedTurn,hs',ho,ha.match_eq,ha.promote_eq,hv,hr,promotionEdits,
      Promotion.edits]
  | plain hp hm hn => exact turn_of_unmatched hp hm hn

theorem Settles.handle_eq {t : Turn n} (ht : Settles c front hs h t) : t.handle = h := by
  cases ht <;> rfl

end

end Classifier

end BlogPaths
