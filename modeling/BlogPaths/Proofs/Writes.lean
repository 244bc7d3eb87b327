import BlogPaths.Proofs.Fields
import BlogPaths.Proofs.Standings

/-! What a pass writes, whether it succeeds or fails.  The edits of a pass are known from front
matter alone, and each of them either belongs to the promotion of an article or falls to a resource
in its own turn. -/
namespace BlogPaths

open Edit

variable {n : Nat}

theorem Edit.mem_editsOn {k : Fin n} {e : Edit} {es : List (Fin n × Edit)} :
    e ∈ editsOn k es ↔ (k,e) ∈ es := by
  induction es with
  | nil => simp
  | cons x xs ih =>
    have hx : x = (x.1,x.2) := rfl
    by_cases hk : x.1 = k
    · rw [hx,editsOn_cons,if_pos hk,List.mem_cons,List.mem_cons,ih,hk]
      simp
    · have hne : (k,e) ≠ (x.1,x.2) := fun h => hk (Prod.mk.inj h).1.symm
      rw [hx,editsOn_cons,if_neg hk,List.mem_cons,ih]
      exact (or_iff_right hne).symm

theorem Promotion.describe_mem_edits {v : Value} {p : Promotion} {a : Article} :
    .describe a ∈ p.edits v ↔ p = .complete a := by
  cases p <;> simp [edits,eq_comm]

theorem Promotion.enroll_mem_edits {v : Value} {p : Promotion} {a : Article}
    (hp : p = .complete a) : .enroll v ∈ p.edits v := by
  simp [hp,edits]

namespace Classifier

variable {c : Classifier} {front : Fin n → FrontMatter} {hs : List (Fin n)} {h k : Fin n}

def isArticlePath (c : Classifier) (f : FrontMatter) : Bool :=
  (f.path.proper?.bind (PathMatch.article? c.articleSegments)).isSome

/-- Whether the path of a resource is matched as a nested file's only. -/
def isNestedPath (c : Classifier) (f : FrontMatter) : Bool :=
  !c.isArticlePath f && (f.path.proper?.bind c.pattern.nested?).isSome

theorem IsArticle.isArticlePath {path : String} {m : PathMatch} {a : Article}
    (ha : c.IsArticle front h path m a) : c.isArticlePath (front h) = true := by
  simp [Classifier.isArticlePath,ha.path_eq,ha.match_eq]

theorem IsNested.isArticlePath {path ownerPath tail : String}
    (hn : c.IsNested front h path ownerPath tail) : c.isArticlePath (front h) = false := by
  simp [Classifier.isArticlePath,hn.path_eq,hn.no_match]

theorem IsNested.isNestedPath {path ownerPath tail : String}
    (hn : c.IsNested front h path ownerPath tail) : c.isNestedPath (front h) = true := by
  obtain ⟨m,hm,_⟩ := hn.match_eq
  simp [Classifier.isNestedPath,hn.isArticlePath,hn.path_eq,hm]

/-- What a turn of the resource `h` may write: a promotion, as far as it gets, and then what falls to
`h` itself if the article is seen. -/
inductive Writes (c : Classifier) (front : Fin n → FrontMatter) (hs : List (Fin n)) (h : Fin n) :
    List (Fin n × Edit) → Prop
  | nothing : Writes c front hs h []
  | article {path m} {own : List Edit} (hp : (front h).path = .proper path)
      (hm : PathMatch.article? c.articleSegments path = some m)
      (ho : own = [] ∨
        c.isVisible (front h) = true ∧ ∃ destination, own = [.publish destination]) :
      Writes c front hs h (c.promotionEdits h (c.promote (front h) path (c.pattern.captures m)) ++
        own.map fun e => (h,e))
  | nested {path ownerPath tail o m} {own : List Edit} (hn : c.IsNested front h path ownerPath tail)
      (hw : ownerAt? front hs ownerPath = some o)
      (hm : PathMatch.article? c.articleSegments ownerPath = some m)
      (ho : own = [] ∨ c.isVisible (front o) = true ∧ (own = [.attach ownerPath c.controller] ∨
        ∃ destination, own = [.attach ownerPath c.controller,.publish destination])) :
      Writes c front hs h (c.promotionEdits o (c.promote (front o) ownerPath (c.pattern.captures m)) ++
        own.map fun e => (h,e))

theorem writes_articleTurn {path : String} {m : PathMatch} (hp : (front h).path = .proper path)
    (hm : PathMatch.article? c.articleSegments path = some m) :
    Writes c front hs h (c.articleTurn front h path m).edits := by
  have hnone : Writes c front hs h
      (c.promotionEdits h (c.promote (front h) path (c.pattern.captures m)) ++
        ([] : List Edit).map fun e => (h,e)) := .article hp hm (.inl rfl)
  rw [List.map_nil,List.append_nil] at hnone
  unfold articleTurn
  cases hq : c.promote (front h) path (c.pattern.captures m) with
  | refused e => simpa only [hq] using hnone
  | broken e => simpa only [hq] using hnone
  | complete a =>
    rw [hq] at hnone
    cases hv : c.isVisible (front h) with
    | false => exact hnone
    | true =>
      cases hr : c.permalink.resolve a with
      | error lack => simpa [hr] using hnone
      | ok permalink =>
        have hpublish : Writes c front hs h _ :=
          .article hp hm (.inr ⟨hv,outputPath permalink,rfl⟩)
        simpa [hq,hr] using hpublish

theorem writes_ownedTurn {path ownerPath tail : String} {o : Fin n} {m : PathMatch}
    (hn : c.IsNested front h path ownerPath tail) (hw : ownerAt? front hs ownerPath = some o)
    (hm : PathMatch.article? c.articleSegments ownerPath = some m) :
    Writes c front hs h (c.ownedTurn front h o path ownerPath tail m).edits := by
  have hnone := Writes.nested hn hw hm (.inl rfl)
  rw [List.map_nil,List.append_nil] at hnone
  unfold ownedTurn
  cases hq : c.promote (front o) ownerPath (c.pattern.captures m) with
  | refused e => simpa only [hq] using hnone
  | broken e => simpa only [hq] using hnone
  | complete a =>
    rw [hq] at hnone
    cases hv : c.isVisible (front o) with
    | false => exact hnone
    | true =>
      cases hr : c.permalink.resolve a with
      | error lack =>
        have hattach := Writes.nested hn hw hm (.inr ⟨hv,.inl rfl⟩)
        simpa [hq,hr] using hattach
      | ok permalink =>
        have hpublish := Writes.nested hn hw hm (.inr ⟨hv,.inr
          ⟨outputPath (Permalink.companion c.indexFile permalink tail),rfl⟩⟩)
        simpa [hq,hr] using hpublish

/-- All that a turn writes, whether it fails or not. -/
theorem writes_turn (c : Classifier) (front : Fin n → FrontMatter) (hs : List (Fin n)) (h : Fin n) :
    Writes c front hs h (c.turn front hs h).edits := by
  cases hp : (front h).path with
  | stray v =>
    simp only [turn,hp]
    exact .nothing
  | proper path =>
    cases hm : PathMatch.article? c.articleSegments path with
    | some m =>
      rw [turn_of_match hp hm]
      exact writes_articleTurn hp hm
    | none =>
      cases hn : c.pattern.nested? path with
      | none =>
        rw [turn_of_unmatched hp hm hn]
        exact .nothing
      | some m =>
        rw [turn_of_nested hp hm hn]
        unfold nestedTurn
        cases hs' : c.pattern.sourcePath (c.pattern.captures m) with
        | error f => simpa [hs'] using Writes.nothing
        | ok ownerPath =>
          cases ho : ownerAt? front hs ownerPath with
          | none => simpa [hs',ho] using Writes.nothing
          | some o =>
            cases hm' : PathMatch.article? c.articleSegments ownerPath with
            | none => simpa [hs',ho,hm'] using Writes.nothing
            | some m' =>
              simp only [hs',ho,hm']
              exact writes_ownedTurn ⟨hp,hm,m,hn,hs',rfl⟩ ho hm'

theorem mem_promotionEdits {p : Promotion} {e : Edit} :
    (k,e) ∈ c.promotionEdits h p ↔ k = h ∧ e ∈ p.edits c.controller := by
  simp only [promotionEdits,List.mem_map,Prod.mk.injEq]
  constructor
  · rintro ⟨e',he,rfl,rfl⟩
    exact ⟨rfl,he⟩
  · rintro ⟨rfl,he⟩
    exact ⟨e,he,rfl,rfl⟩

/-- Each edit of a turn is part of a whole promotion, or attaches the turn's own resource to its
owner, or publishes it. -/
theorem Writes.of_mem {es : List (Fin n × Edit)} {e : Edit} (hw : Writes c front hs h es)
    (he : (k,e) ∈ es) :
    (∃ path m, (front k).path = .proper path ∧ PathMatch.article? c.articleSegments path = some m ∧
      e ∈ (c.promote (front k) path (c.pattern.captures m)).edits c.controller ∧
      ∀ e' ∈ (c.promote (front k) path (c.pattern.captures m)).edits c.controller, (k,e') ∈ es) ∨
    (∃ path ownerPath tail, c.IsNested front k path ownerPath tail ∧
      e = .attach ownerPath c.controller) ∨
    ∃ destination, e = .publish destination := by
  cases hw with
  | nothing => simp at he
  | @article path m own hp hm ho =>
    rcases List.mem_append.mp he with he | he
    · obtain ⟨rfl,he⟩ := mem_promotionEdits.mp he
      exact .inl ⟨path,m,hp,hm,he,fun e' he' =>
        List.mem_append_left _ (mem_promotionEdits.mpr ⟨rfl,he'⟩)⟩
    · rcases ho with rfl | ⟨_,destination,rfl⟩
      · simp at he
      · simp only [List.map_cons,List.map_nil,List.mem_singleton,Prod.mk.injEq] at he
        exact .inr (.inr ⟨destination,he.2⟩)
  | @nested path ownerPath tail o m own hn hw hm ho =>
    rcases List.mem_append.mp he with he | he
    · obtain ⟨rfl,he⟩ := mem_promotionEdits.mp he
      exact .inl ⟨ownerPath,m,(mem_of_ownerAt? hw).2,hm,he,fun e' he' =>
        List.mem_append_left _ (mem_promotionEdits.mpr ⟨rfl,he'⟩)⟩
    · obtain ⟨e',he',hk⟩ := List.mem_map.mp he
      obtain ⟨rfl,rfl⟩ := Prod.mk.inj hk
      rcases ho with rfl | ⟨_,rfl | ⟨destination,rfl⟩⟩
      · simp at he'
      · exact .inr (.inl ⟨path,ownerPath,tail,hn,List.mem_singleton.mp he'⟩)
      · rcases List.mem_cons.mp he' with rfl | he'
        · exact .inr (.inl ⟨path,ownerPath,tail,hn,rfl⟩)
        · exact .inr (.inr ⟨destination,List.mem_singleton.mp he'⟩)

theorem Writes.mem_of_mem {es : List (Fin n × Edit)} {e : Edit} (hw : Writes c front hs h es)
    (hh : h ∈ hs) (he : (k,e) ∈ es) : k ∈ hs := by
  have hown : ∀ own : List Edit, (k,e) ∈ own.map (fun e => (h,e)) → k ∈ hs := by
    intro own he
    obtain ⟨_,_,hk⟩ := List.mem_map.mp he
    exact (Prod.mk.inj hk).1 ▸ hh
  cases hw with
  | nothing => simp at he
  | article =>
    rcases List.mem_append.mp he with he | he
    · exact (mem_promotionEdits.mp he).1 ▸ hh
    · exact hown _ he
  | nested _ ho =>
    rcases List.mem_append.mp he with he | he
    · exact (mem_promotionEdits.mp he).1 ▸ (mem_of_ownerAt? ho).1
    · exact hown _ he

/-- The edits of a pass: those of its turns up to the first that fails. -/
def passEdits (c : Classifier) (front : Fin n → FrontMatter) (hs : List (Fin n)) :
    List (Fin n × Edit) :=
  match unfindable? front hs with
  | some _ => []
  | none => (Turn.performed (c.turns front hs)).flatMap (·.edits)

theorem pool_pass_eq_editAll (c : Classifier) (pool : Pool n) (hs : List (Fin n)) :
    (c.pass pool hs).pool = pool.editAll (c.passEdits pool.front hs) := by
  unfold pass passEdits
  cases unfindable? pool.front hs <;> rfl

theorem standing_pass_eq (c : Classifier) (pool : Pool n) (hs : List (Fin n)) (k : Fin n) :
    (c.pass pool hs).pool.standing k =
      applyAll (pool.standing k) (editsOn k (c.passEdits pool.front hs)) := by
  rw [pool_pass_eq_editAll,Pool.standing_editAll]

end Classifier

theorem Turn.mem_of_mem_performed {t : Turn n} {ts : List (Turn n)} (h : t ∈ performed ts) :
    t ∈ ts := by
  induction ts with
  | nil => exact h
  | cons t' ts ih =>
    unfold performed at h
    split at h
    · exact List.mem_cons.mpr (.inl (List.mem_singleton.mp h))
    · rcases List.mem_cons.mp h with rfl | h
      · exact List.mem_cons_self
      · exact List.mem_cons_of_mem _ (ih h)

namespace Classifier

variable {c : Classifier} {front : Fin n → FrontMatter} {hs : List (Fin n)} {h k : Fin n}

/-- An edit of a pass belongs to one of its turns, all of whose edits it makes. -/
theorem exists_turn_of_mem {e : Edit} (he : (k,e) ∈ c.passEdits front hs) :
    ∃ h ∈ hs, (k,e) ∈ (c.turn front hs h).edits ∧
      ∀ x ∈ (c.turn front hs h).edits, x ∈ c.passEdits front hs := by
  unfold passEdits at he ⊢
  split at he
  · simp at he
  · obtain ⟨t,ht,he⟩ := List.mem_flatMap.mp he
    obtain ⟨h,hh,rfl⟩ := List.mem_map.mp (Turn.mem_of_mem_performed ht)
    exact ⟨h,hh,he,fun x hx => List.mem_flatMap.mpr ⟨_,ht,hx⟩⟩

theorem exists_writes_of_mem {e : Edit} (he : (k,e) ∈ c.passEdits front hs) :
    ∃ h ∈ hs, ∃ es, Writes c front hs h es ∧ (k,e) ∈ es ∧ ∀ x ∈ es, x ∈ c.passEdits front hs := by
  obtain ⟨h,hh,hmem,hsub⟩ := exists_turn_of_mem he
  exact ⟨h,hh,_,writes_turn c front hs h,hmem,hsub⟩

theorem mem_of_mem_passEdits {e : Edit} (he : (k,e) ∈ c.passEdits front hs) : k ∈ hs := by
  obtain ⟨h,hh,es,hw,hmem,_⟩ := exists_writes_of_mem he
  exact hw.mem_of_mem hh hmem

theorem isArticle_of_describe {a : Article} (he : (k,.describe a) ∈ c.passEdits front hs) :
    (k,.enroll c.controller) ∈ c.passEdits front hs ∧ ∃ path m, c.IsArticle front k path m a := by
  obtain ⟨h,_,es,hw,hmem,hsub⟩ := exists_writes_of_mem he
  rcases hw.of_mem hmem with ⟨path,m,hp,hm,hpart,hall⟩ | ⟨_,_,_,_,heq⟩ | ⟨_,heq⟩
  · have hpromote := Promotion.describe_mem_edits.mp hpart
    exact ⟨hsub _ (hall _ (Promotion.enroll_mem_edits hpromote)),path,m,hp,hm,hpromote⟩
  · simp at heq
  · simp at heq

theorem isArticlePath_of_enroll {v : Value} (he : (k,.enroll v) ∈ c.passEdits front hs) :
    c.isArticlePath (front k) = true := by
  obtain ⟨h,_,es,hw,hmem,_⟩ := exists_writes_of_mem he
  rcases hw.of_mem hmem with ⟨path,m,hp,hm,_,_⟩ | ⟨_,_,_,_,heq⟩ | ⟨_,heq⟩
  · simp [isArticlePath,hp,hm]
  · simp at heq
  · simp at heq

theorem isNestedPath_of_attach {ownerPath : String} {v : Value}
    (he : (k,.attach ownerPath v) ∈ c.passEdits front hs) : c.isNestedPath (front k) = true := by
  obtain ⟨h,_,es,hw,hmem,_⟩ := exists_writes_of_mem he
  rcases hw.of_mem hmem with ⟨path,m,_,_,hpart,_⟩ | ⟨_,_,_,hn,_⟩ | ⟨_,heq⟩
  · cases hq : c.promote (front k) path (c.pattern.captures m) <;> simp [hq,Promotion.edits] at hpart
  · exact hn.isNestedPath
  · simp at heq

/-- The pass makes a resource an article, with all that is known of it. -/
def Promotes (c : Classifier) (front : Fin n → FrontMatter) (hs : List (Fin n)) (k : Fin n) : Prop :=
  ∃ a, (k,Edit.describe a) ∈ c.passEdits front hs

/-- The pass gives a resource the place that it is built at. -/
def Publishes (c : Classifier) (front : Fin n → FrontMatter) (hs : List (Fin n)) (k : Fin n) : Prop :=
  ∃ destination, (k,Edit.publish destination) ∈ c.passEdits front hs

/-- The pass makes a resource a companion. -/
def Attaches (c : Classifier) (front : Fin n → FrontMatter) (hs : List (Fin n)) (k : Fin n) : Prop :=
  ∃ ownerPath v, (k,Edit.attach ownerPath v) ∈ c.passEdits front hs

theorem mem_passEdits_of_succeeds (h' : c.Succeeds front hs) (hh : h ∈ hs) {e : Edit}
    (he : (k,e) ∈ (c.turn front hs h).edits) : (k,e) ∈ c.passEdits front hs := by
  have hp : ∀ k ∈ hs, (front k).path.IsProper := fun k hk => isProper_of_error? (h' k hk)
  have hperformed := Turn.performed_eq_self (Turn.failure?_eq_none.mp (failure?_turns.mpr h'))
  rw [passEdits,unfindable?_eq_none hp,hperformed]
  exact List.mem_flatMap.mpr ⟨_,List.mem_map.mpr ⟨h,hh,rfl⟩,he⟩

theorem promotes_of_succeeds (h' : c.Succeeds front hs) (hk : k ∈ hs)
    (hp : c.isArticlePath (front k) = true) : c.Promotes front hs k := by
  have hall : ∀ a, (k,.describe a) ∈ (c.turn front hs k).edits → c.Promotes front hs k :=
    fun a he => ⟨a,mem_passEdits_of_succeeds h' hk he⟩
  have ht := settles_turn (h' k hk)
  generalize c.turn front hs k = t at ht hall
  cases ht with
  | @draft _ _ a => exact hall a (by simp)
  | @article _ _ a => exact hall a (by simp)
  | belowDraft hn => simp [hn.isArticlePath] at hp
  | companion hn => simp [hn.isArticlePath] at hp
  | plain hp' hm => simp [isArticlePath,hp',hm] at hp

/-- It publishes all that it keeps of its own, and attaches the companions among them. -/
theorem publishes_of_isKept (h' : c.Succeeds front hs) (hk : k ∈ hs)
    (hkept : (c.turn front hs k).verdict.isKept = true) :
    (c.isArticlePath (front k) = true → c.Publishes front hs k) ∧
    (c.isNestedPath (front k) = true → c.Attaches front hs k ∧ c.Publishes front hs k) := by
  have hall : ∀ e, (k,e) ∈ (c.turn front hs k).edits → (k,e) ∈ c.passEdits front hs :=
    fun e he => mem_passEdits_of_succeeds h' hk he
  have ht := settles_turn (h' k hk)
  generalize c.turn front hs k = t at ht hkept hall
  cases ht with
  | draft => simp [Verdict.isKept] at hkept
  | @article _ _ _ permalink ha =>
    refine ⟨fun _ => ⟨outputPath permalink,hall _ (by simp)⟩,fun hn => ?_⟩
    simp [isNestedPath,ha.isArticlePath] at hn
  | belowDraft => simp [Verdict.isKept] at hkept
  | @companion _ ownerPath tail _ _ _ permalink hn =>
    refine ⟨fun hp => ?_,fun _ => ⟨⟨ownerPath,c.controller,hall _ (by simp)⟩,
      ⟨outputPath (Permalink.companion c.indexFile permalink tail),hall _ (by simp)⟩⟩⟩
    simp [hn.isArticlePath] at hp
  | plain hp hm hn => simp [isArticlePath,isNestedPath,hp,hm,hn]

end Classifier

end BlogPaths
