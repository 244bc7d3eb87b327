import BlogPaths.Proofs.Drafts

/-! A pass sees front matter only.  Whatever standings earlier passes have left, it comes to the same
result and writes the same; so blogs that claim different files may make their passes in either
order. -/
namespace BlogPaths

open Edit

variable {n : Nat}

namespace Classifier

def claims (c : Classifier) (f : FrontMatter) : Bool := c.isArticlePath f || c.isNestedPath f

section

variable {c : Classifier} {pool pool' : Pool n}

theorem result_pass_congr (hf : pool.front = pool'.front) (hs : List (Fin n)) :
    (c.pass pool hs).result = (c.pass pool' hs).result := by
  unfold pass
  rw [hf]
  cases unfindable? pool'.front hs with
  | some typeName => rfl
  | none => simp only [runTurns,hf]

/-- What a pass writes to a field does not depend on what the field held. -/
theorem get_pass_congr {β : Type} (f : StandingField β) (hf : pool.front = pool'.front)
    {hs : List (Fin n)} {k : Fin n} {e : Edit} (he : (k,e) ∈ c.passEdits pool.front hs)
    (hw : (f.written? e).isSome) :
    f.get ((c.pass pool hs).pool.standing k) = f.get ((c.pass pool' hs).pool.standing k) := by
  rw [standing_pass_eq,standing_pass_eq,← hf]
  exact StandingField.get_applyAll_congr (Edit.mem_editsOn.mpr he) hw _ _

end

section

variable {c d : Classifier} {front : Fin n → FrontMatter} {pool : Pool n} {hs : List (Fin n)}
  {k : Fin n}

theorem ownEdits_eq_nil (he : (c.turn front hs k).verdict.error? = none)
    (hc : c.claims (front k) = false) : c.ownEdits front hs k = [] := by
  unfold ownEdits
  have ht := settles_turn he
  generalize c.turn front hs k = t at ht ⊢
  cases ht with
  | draft ha => simp [claims,ha.isArticlePath] at hc
  | article ha => simp [claims,ha.isArticlePath] at hc
  | belowDraft hn => simp [claims,hn.isNestedPath] at hc
  | companion hn => simp [claims,hn.isNestedPath] at hc
  | plain => rfl

theorem standing_pass_pass (hc : c.Succeeds pool.front hs) (hd : d.Succeeds pool.front hs)
    (hk : k ∈ hs) :
    (d.pass (c.pass pool hs).pool hs).pool.standing k =
      applyAll (applyAll (pool.standing k) (c.ownEdits pool.front hs k))
        (d.ownEdits pool.front hs k) := by
  have hd' : d.Succeeds (c.pass pool hs).pool.front hs := by rwa [front_pass]
  rw [standing_pass hd' hk,front_pass,standing_pass hc hk]

/-- Classifiers that claim different files may go in either order. -/
theorem pool_pass_comm (hc : c.Succeeds pool.front hs) (hd : d.Succeeds pool.front hs)
    (hdis : ∀ k ∈ hs, ¬ (c.claims (pool.front k) = true ∧ d.claims (pool.front k) = true)) :
    (d.pass (c.pass pool hs).pool hs).pool = (c.pass (d.pass pool hs).pool hs).pool := by
  rw [Pool.ext_iff]
  refine ⟨by simp,?_⟩
  funext k
  by_cases hk : k ∈ hs
  · rw [standing_pass_pass hc hd hk,standing_pass_pass hd hc hk]
    cases hclaim : c.claims (pool.front k) with
    | false => rw [ownEdits_eq_nil (hc k hk) hclaim,applyAll_nil,applyAll_nil]
    | true =>
      have hfree : d.claims (pool.front k) = false := by
        cases h : d.claims (pool.front k) with
        | false => rfl
        | true => exact absurd ⟨hclaim,h⟩ (hdis k hk)
      rw [ownEdits_eq_nil (hd k hk) hfree,applyAll_nil,applyAll_nil]
  · have hc' : c.Succeeds (d.pass pool hs).pool.front hs := by rwa [front_pass]
    have hd' : d.Succeeds (c.pass pool hs).pool.front hs := by rwa [front_pass]
    rw [standing_pass_of_notMem hd' hk,standing_pass_of_notMem hc hk,
      standing_pass_of_notMem hc' hk,standing_pass_of_notMem hd hk]

end

/-- Where two pools agree in front matter, a pass over either comes to the same result; it gives the
same payload, kind and controller to what it promotes, the same place to what it publishes, and the
same kind, controller and owner to what it attaches.  If it succeeds, it promotes every article,
publishes those that are seen, and attaches and publishes every companion that it keeps.  And
classifiers that claim different files come to the same in either order. -/
theorem pass_congr_front (c : Classifier) {pool pool' : Pool n} (hf : pool.front = pool'.front)
    (hs : List (Fin n)) :
    (c.pass pool hs).result = (c.pass pool' hs).result ∧
    (∀ k,
      let s := (c.pass pool hs).pool.standing k
      let s' := (c.pass pool' hs).pool.standing k
      (c.Promotes pool.front hs k →
        s.article = s'.article ∧ s.kind = s'.kind ∧ s.controller = s'.controller) ∧
      (c.Publishes pool.front hs k → s.destinationPath = s'.destinationPath) ∧
      (c.Attaches pool.front hs k →
        s.kind = s'.kind ∧ s.controller = s'.controller ∧ s.ownerPath = s'.ownerPath)) ∧
    (∀ found, (c.pass pool hs).result = .ok found → ∀ k ∈ hs,
      (c.isArticlePath (pool.front k) = true → c.Promotes pool.front hs k) ∧
      (k ∈ found.kept → c.isArticlePath (pool.front k) = true → c.Publishes pool.front hs k) ∧
      (k ∈ found.kept → c.isNestedPath (pool.front k) = true →
        c.Attaches pool.front hs k ∧ c.Publishes pool.front hs k)) ∧
    ∀ (d : Classifier) (found found' : Classified n),
      (∀ k ∈ hs, ¬ (c.claims (pool.front k) = true ∧ d.claims (pool.front k) = true)) →
      (c.pass pool hs).result = .ok found → (d.pass pool hs).result = .ok found' →
        (d.pass (c.pass pool hs).pool hs).result = .ok found' ∧
        (c.pass (d.pass pool hs).pool hs).result = .ok found ∧
        (d.pass (c.pass pool hs).pool hs).pool = (c.pass (d.pass pool hs).pool hs).pool := by
  refine ⟨result_pass_congr hf hs,fun k => ⟨?_,?_,?_⟩,?_,?_⟩
  · rintro ⟨a,he⟩
    have henroll := (isArticle_of_describe he).1
    exact ⟨get_pass_congr .article hf he rfl,get_pass_congr .kind hf henroll rfl,
      get_pass_congr .controller hf henroll rfl⟩
  · rintro ⟨destination,he⟩
    exact get_pass_congr .destinationPath hf he rfl
  · rintro ⟨ownerPath,v,he⟩
    exact ⟨get_pass_congr .kind hf he rfl,get_pass_congr .controller hf he rfl,
      get_pass_congr .ownerPath hf he rfl⟩
  · intro found hfound k hk
    obtain ⟨hs',-,rfl⟩ := pass_eq_ok_iff.mp hfound
    have hkept : k ∈ (outcome (c.turns pool.front hs)).kept →
        (c.turn pool.front hs k).verdict.isKept = true := by
      rw [kept_outcome_turns hs']
      exact fun hmem => (List.mem_filter.mp hmem).2
    exact ⟨promotes_of_succeeds hs' hk,fun hmem => (publishes_of_isKept hs' hk (hkept hmem)).1,
      fun hmem => (publishes_of_isKept hs' hk (hkept hmem)).2⟩
  · intro d found found' hdis hfound hfound'
    have hc := (pass_eq_ok_iff.mp hfound).1
    have hd := (pass_eq_ok_iff.mp hfound').1
    refine ⟨?_,?_,pool_pass_comm hc hd hdis⟩
    · rw [← hfound']
      exact result_pass_congr (front_pass c pool hs) hs
    · rw [← hfound]
      exact result_pass_congr (front_pass d pool hs) hs

end Classifier

/-! Two blogs with one pool: articles with pictures, and notes by the year. -/
namespace Sample

def notes : Classifier where
  pattern := ⟨"notes/:year.txt",[.literal ['n','o','t','e','s','/'],.field .year,
    .literal ['.','t','x','t']]⟩
  permalink := ⟨":year/",[.field .year,.literal ['/']],[]⟩
  controller := .str "notes"

def sharedPool : Pool 3 := #v[
  { path := .proper "2014-a/cover.jpg" },
  { path := .proper "2014-a.html" },
  { path := .proper "notes/2015.txt" }]

end Sample

theorem Classifier.pass_congr_front_sample :
    let mixed := (Sample.notes.pass Sample.sharedPool [2]).pool
    Sample.sharedPool.front = mixed.front ∧
    ((Sample.sharedPool.standing 2).kind = .proper .plain ∧
      (mixed.standing 2).kind = .proper .article) ∧
    (Sample.classifier.pass Sample.sharedPool [0,1,2]).result =
      (Sample.classifier.pass mixed [0,1,2]).result ∧
    (Sample.notes.pass (Sample.classifier.pass Sample.sharedPool [0,1,2]).pool [0,1,2]).pool =
      (Sample.classifier.pass (Sample.notes.pass Sample.sharedPool [0,1,2]).pool [0,1,2]).pool := by
  have hfront : Sample.sharedPool.front = (Sample.notes.pass Sample.sharedPool [2]).pool.front :=
    (Classifier.front_pass _ _ _).symm
  have h := Classifier.pass_congr_front Sample.classifier hfront [0,1,2]
  have hdis : ∀ k ∈ ([0,1,2] : List (Fin 3)),
      ¬ (Sample.classifier.claims (Sample.sharedPool.front k) = true ∧
        Sample.notes.claims (Sample.sharedPool.front k) = true) := by decide
  exact ⟨hfront,⟨rfl,rfl⟩,h.1,(h.2.2.2 Sample.notes _ _ hdis rfl rfl).2.2⟩

end BlogPaths
