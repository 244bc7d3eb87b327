import BlogPaths.Proofs.Answers

/-! Runs of a site.  Members come in, make their passes, and resources are assigned to and added, in
any order.  From a pass of a member that succeeds on, its articles stay up to date as long as nobody
touches what their languages and tags are read from. -/
namespace BlogPaths

namespace Assignment

/-- Whether an assignment concerns what queries read of an article, or what it is made from. -/
def isRead : Assignment → Bool
  | path _ | lang _ | tags _ | article _ => true
  | _ => false

theorem reading?_apply (c : Classifier) (r : Resource) {a : Assignment} (h : a.isRead = false) :
    c.reading? (a.apply r).toFrontMatter = c.reading? r.toFrontMatter := by
  refine c.reading?_congr ?_ ?_ ?_ <;> cases a <;> simp_all [isRead,apply]

theorem reading_apply (r : Resource) {a : Assignment} (h : a.isRead = false) :
    (a.apply r).toStanding.reading = r.toStanding.reading := by
  refine Standing.reading_congr ?_
  cases a <;> simp_all [isRead,apply]

end Assignment

namespace Site

inductive Event (n : Nat)
  | enter (c : Classifier) (options : Option BlogOptions)
  | pass (i : Nat) (hs : List (Fin n))
  | assign (h : Fin n) (a : Assignment)
  | add (r : Resource)

def after (s : Site) : Event s.size → Site
  | .enter c options => s.enter { classifier := c, options }
  | .pass i hs => s.runPass i hs
  | .assign h a => s.assign h a
  | .add r => s.add r

/-- The sites that come of a site by events of some sort. -/
inductive Reaches (sort : (s : Site) → Event s.size → Prop) (s : Site) : Site → Prop
  | refl : Reaches sort s s
  | step {t : Site} (h : Reaches sort s t) (e : Event t.size) (he : sort t e) :
      Reaches sort s (t.after e)

/-- The events that do not concern what the queries of the member at `i` read of its articles. -/
def IsQuiet (i : Nat) (s : Site) : Event s.size → Prop
  | .enter _ _ => True
  | .pass j _ => j ≠ i → ∀ m d, s.members[i]? = some m → s.members[j]? = some d →
      ∀ e ∈ m.index.entries, ∀ r, d.classifier.reading? (s.pool.front e.handle) = some r →
        m.classifier.reading? (s.pool.front e.handle) = some r
  | .assign h a => a.isRead = true → ∀ m, s.members[i]? = some m →
      ∀ e ∈ m.index.entries, e.handle ≠ h
  | .add _ => True

def IsCurrent (s : Site) (i : Nat) : Prop :=
  ∀ m, s.members[i]? = some m → m.IsCurrent s.pool

variable {s : Site} {i : Nat}

theorem IsCurrent.enter (h : s.IsCurrent i) (c : Classifier) (options : Option BlogOptions) :
    (s.enter { classifier := c, options }).IsCurrent i := by
  have hall : ∀ m, (s.members ++ [{ classifier := c, options }])[i]? = some m →
      m.IsCurrent s.pool := by
    intro m hm
    rw [List.getElem?_append] at hm
    split at hm
    · exact h m hm
    · have hnew := List.mem_singleton.mp (List.mem_of_getElem? hm)
      subst hnew
      intro e he
      cases he
  exact hall

theorem runPass_of_none {hs : List (Fin s.size)} (h : s.members[i]? = none) :
    s.runPass i hs = s := by
  simp only [runPass,h]

theorem runPass_of_some {m : Member s.size} {hs : List (Fin s.size)}
    (h : s.members[i]? = some m) :
    s.runPass i hs = { s with
      pool := (s.passOf m hs).pool
      members := s.members.set i (m.afterPass (s.passOf m hs)) } := by
  simp only [runPass,h]

theorem isCurrent_runPass {m : Member s.size} {hs : List (Fin s.size)}
    (hm : s.members[i]? = some m)
    (h : (m.afterPass (s.passOf m hs)).IsCurrent (s.passOf m hs).pool) :
    (s.runPass i hs).IsCurrent i := by
  rw [runPass_of_some hm]
  have hall : ∀ m', (s.members.set i (m.afterPass (s.passOf m hs)))[i]? = some m' →
      m'.IsCurrent (s.passOf m hs).pool := by
    intro m' hm'
    rw [List.getElem?_set_self (List.getElem?_eq_some_iff.mp hm).1,Option.some.injEq] at hm'
    exact hm' ▸ h
  exact hall

theorem IsCurrent.runPass {j : Nat} {hs : List (Fin s.size)} (h : s.IsCurrent i)
    (hq : IsQuiet i s (.pass j hs)) : (s.runPass j hs).IsCurrent i := by
  cases hj : s.members[j]? with
  | none => rwa [runPass_of_none hj]
  | some d =>
    by_cases hji : j = i
    · subst hji
      exact isCurrent_runPass hj ((h d hj).afterPass hs)
    · rw [runPass_of_some hj]
      have hall : ∀ m, (s.members.set j (d.afterPass (s.passOf d hs)))[i]? = some m →
          m.IsCurrent (s.passOf d hs).pool := by
        intro m hm
        rw [List.getElem?_set_ne hji] at hm
        exact (h m hm).pass (hq hji m d hm hj)
      exact hall

theorem IsCurrent.assign {k : Fin s.size} {a : Assignment} (h : s.IsCurrent i)
    (hq : IsQuiet i s (.assign k a)) : (s.assign k a).IsCurrent i := by
  have hall : ∀ m, s.members[i]? = some m → m.IsCurrent (s.pool.set k (a.apply s.pool[k])) := by
    intro m hm e he
    have hcurrent := h m hm e he
    unfold Pool.front Pool.standing Classifier.IsCurrent at hcurrent ⊢
    by_cases hk : k = e.handle
    · cases ha : a.isRead with
      | true => exact absurd hk.symm (hq ha m hm e he)
      | false =>
        have hset : (s.pool.set k (a.apply s.pool[k]))[e.handle] = a.apply s.pool[e.handle] := by
          simp [hk]
        rwa [hset,Assignment.reading?_apply _ _ ha,Assignment.reading_apply _ ha]
    · have hne : (k : Nat) ≠ e.handle := fun heq => hk (Fin.ext heq)
      have hset : (s.pool.set k (a.apply s.pool[k]))[e.handle] = s.pool[e.handle] :=
        Vector.getElem_set_ne _ _ hne
      rwa [hset]
  exact hall

theorem IsCurrent.add (h : s.IsCurrent i) (r : Resource) : (s.add r).IsCurrent i := by
  have hall : ∀ m, (s.members.map Member.grow)[i]? = some m → m.IsCurrent (s.pool.push r) := by
    intro m' hm' e' he'
    rw [List.getElem?_map,Option.map_eq_some_iff] at hm'
    obtain ⟨m,hm,rfl⟩ := hm'
    obtain ⟨e,he,rfl⟩ := List.mem_map.mp he'
    have hpush : (s.pool.push r)[e.handle.castSucc] = s.pool[e.handle] :=
      Vector.getElem_push_lt e.handle.isLt
    have hcurrent := h m hm e he
    unfold Pool.front Pool.standing at hcurrent ⊢
    rwa [hpush]
  exact hall

/-- No quiet event puts the articles of a member out of date. -/
theorem IsCurrent.after (h : s.IsCurrent i) {e : Event s.size} (he : IsQuiet i s e) :
    (s.after e).IsCurrent i := by
  cases e with
  | enter c options => exact h.enter c options
  | pass j hs => exact h.runPass he
  | assign k a => exact h.assign he
  | add r => exact h.add r

theorem IsCurrent.of_reaches {t : Site} (h : s.IsCurrent i) (ht : Reaches (IsQuiet i) s t) :
    t.IsCurrent i := by
  induction ht with
  | refl => exact h
  | step _ e he ih => exact ih.after he

/-- A pass that fails leaves the order and the paths of its member's articles as they were.  It
leaves all that queries read of them as it was if and only if those that it promoted were up to
date; and then every query has the same answer as before.  They are up to date if nothing but quiet
events has happened since a pass of the member that succeeded. -/
theorem answers_after_failed_pass {m : Member s.size} {hs : List (Fin s.size)} {error : PassError}
    (hm : s.members[i]? = some m) (herror : (s.passOf m hs).result = .error error) :
    let p := s.passOf m hs
    let x := (m.afterPass p).index
    let upToDate := ∀ e ∈ m.index.entries, m.classifier.Promotes s.pool.front hs e.handle →
      m.classifier.IsCurrent (s.pool.front e.handle) (s.pool.standing e.handle)
    (x.articles = m.index.articles ∧ ∀ path, x.byPath? path = m.index.byPath? path) ∧
    ((∀ e ∈ m.index.entries,
      (p.pool.standing e.handle).reading = (s.pool.standing e.handle).reading) ↔ upToDate) ∧
    (upToDate → Index.SameAnswers x p.pool m.index s.pool) ∧
    ∀ (s₀ : Site) (m₀ : Member s₀.size) (hs₀ : List (Fin s₀.size)) (found : Classified s₀.size),
      s₀.members[i]? = some m₀ → (s₀.passOf m₀ hs₀).result = .ok found →
        Reaches (IsQuiet i) (s₀.runPass i hs₀) s → Index.SameAnswers x p.pool m.index s.pool := by
  intro p x upToDate
  have hx : x = m.index := congrArg Member.index (Member.afterPass_of_error herror)
  have hsame : upToDate → Index.SameAnswers x p.pool m.index s.pool :=
    Member.sameAnswers_of_error herror
  refine ⟨⟨by rw [hx],fun _ => by rw [hx]⟩,?_,hsame,fun s₀ m₀ hs₀ found hm₀ hfound hr => ?_⟩
  · exact forall₂_congr fun _ _ => Classifier.reading_pass_iff
  · have hbase : (s₀.runPass i hs₀).IsCurrent i :=
      isCurrent_runPass hm₀ (Member.isCurrent_of_ok hfound)
    have hcurrent : m.IsCurrent s.pool := hbase.of_reaches hr m hm
    exact hsame fun e he _ => hcurrent e he

end Site

/-! A blog with an article, and a file whose day is in no calendar. -/
namespace Sample

def files : List Resource := [
  { path := .proper "2014-a.html", tags := .proper ["x"] },
  { path := .proper "0000-b.html" }]

def blogSite : Site := (Site.ofResources files).enter { classifier := classifier }

def passedSite : Site := blogSite.runPass 0 [⟨0,by decide⟩]

def retaggedSite : Site := passedSite.assign ⟨0,by decide⟩ (.tags (.proper ["y"]))

end Sample

namespace Site

theorem answers_after_failed_pass_sample :
    ∃ (m : Member Sample.passedSite.size) (e : PassError),
      let p := Sample.passedSite.passOf m [⟨0,by decide⟩,⟨1,by decide⟩]
      Sample.passedSite.members[0]? = some m ∧ p.result = .error e ∧
        m.index.tags Sample.passedSite.pool = .ok [("x",[⟨0,by decide⟩])] ∧
        Index.SameAnswers (m.afterPass p).index p.pool m.index Sample.passedSite.pool := by
  obtain ⟨found,hfound⟩ : ∃ found, (Sample.blogSite.passOf { classifier := Sample.classifier }
      [⟨0,by decide⟩]).result = .ok found := ⟨_,rfl⟩
  refine ⟨_,_,rfl,rfl,Index.tags_of_single rfl rfl rfl,?_⟩
  exact (answers_after_failed_pass (i := 0) rfl rfl).2.2.2 Sample.blogSite _ _ found rfl hfound
    .refl

/-- A pass that fails brings to light the tags that have been assigned since the pass before. -/
theorem tags_after_failed_pass_ne :
    ∃ (m : Member Sample.retaggedSite.size) (e : PassError),
      let p := Sample.retaggedSite.passOf m [⟨0,by decide⟩,⟨1,by decide⟩]
      Reaches (fun _ _ => True) (ofResources Sample.files) Sample.retaggedSite ∧
        Sample.retaggedSite.members[0]? = some m ∧ p.result = .error e ∧
        m.index.tags Sample.retaggedSite.pool = .ok [("x",[⟨0,by decide⟩])] ∧
        (m.afterPass p).index.tags p.pool = .ok [("y",[⟨0,by decide⟩])] := by
  refine ⟨_,_,?_,rfl,rfl,Index.tags_of_single rfl rfl rfl,Index.tags_of_single rfl rfl rfl⟩
  have hentered : Reaches (fun _ _ => True) (ofResources Sample.files) Sample.blogSite :=
    Reaches.refl.step (.enter Sample.classifier none) trivial
  have hpassed : Reaches (fun _ _ => True) (ofResources Sample.files) Sample.passedSite :=
    hentered.step (.pass 0 [⟨0,by decide⟩]) trivial
  exact hpassed.step (.assign ⟨0,by decide⟩ (.tags (.proper ["y"]))) trivial

end Site

end BlogPaths
