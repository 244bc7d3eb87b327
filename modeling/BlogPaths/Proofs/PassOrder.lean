import BlogPaths.Proofs.Clock
import BlogPaths.Proofs.Standings
import Mathlib.Data.List.Nodup

/-! The order in which a pass comes to the resources does not matter as long as no two of them share
their path: owners are looked up among all resources, and a resource ends as its own turn leaves
it. -/
namespace BlogPaths

variable {n : Nat}

def IndexEntry.instant (e : IndexEntry n) : Int := e.date.instant

namespace Index

/-- The dates of an index are in the same order by the clock on the wall as in universal time, as far as
they are of one place. -/
def Agrees (x : Index n) : Prop :=
  ∀ a ∈ x.entries, ∀ b ∈ x.entries, a.date.Agrees b.date

instance (x : Index n) : Decidable x.Agrees :=
  inferInstanceAs (Decidable (∀ a ∈ x.entries, ∀ b ∈ x.entries, a.date.Agrees b.date))

theorem articles_of_agrees {x : Index n} (h : x.Agrees) : x.articles =
    (x.entries.mergeSort fun a b => b.instant ≤ a.instant).map (·.handle) := by
  rw [articles,mergeSort_congr fun a ha b hb => (h b hb a ha).notAfter_eq]
  rfl

theorem articles_eq_of_perm {x y : Index n} (h : x.entries.Perm y.entries) (ha : x.Agrees)
    (hd : (x.entries.map (·.instant)).Nodup) : x.articles = y.articles := by
  have ha' : y.Agrees := fun a hm b hm' => ha a (h.mem_iff.mpr hm) b (h.mem_iff.mpr hm')
  have hx := List.mergeSort_perm x.entries fun a b => b.instant ≤ a.instant
  have hy := List.mergeSort_perm y.entries fun a b => b.instant ≤ a.instant
  have heq : (x.entries.mergeSort fun a b => b.instant ≤ a.instant) =
      y.entries.mergeSort fun a b => b.instant ≤ a.instant := by
    refine List.Perm.eq_of_pairwise ?_ (isNewestFirst_mergeSort IndexEntry.instant _).descending
      (isNewestFirst_mergeSort IndexEntry.instant _).descending (hx.trans (h.trans hy.symm))
    intro a b ha hb hab hba
    have hb' : b ∈ x.entries := h.mem_iff.mpr (hy.mem_iff.mp hb)
    exact List.inj_on_of_nodup_map hd (hx.mem_iff.mp ha) hb' (by omega)
  rw [articles_of_agrees ha,articles_of_agrees ha',heq]

end Index

/-! A small site outside development: two articles, a picture of the first, a draft and a file that
is not the blog's. -/
namespace Sample

def classifier : Classifier where
  pattern := ⟨":year-:title.html",[.field .year,.literal ['-'],.field .title,
    .literal ['.','h','t','m','l']]⟩
  permalink := ⟨":title/",[.field .title,.literal ['/']],[]⟩
  isDevelopment := false

def pool : Pool 5 := #v[
  { path := .proper "2014-a/cover.jpg" },
  { path := .proper "2014-a.html" },
  { path := .proper "2015-b.html", published := .proper false },
  { path := .proper "2016-c.html" },
  { path := .proper "about.txt" }]

end Sample

namespace Classifier

variable {c : Classifier} {front : Fin n → FrontMatter} {xs ys : List (Fin n)}

/-- Where paths differ, the owner at a path is the one resource that has it. -/
theorem ownerAt?_eq_some_iff (hd : (xs.map fun h => (front h).path).Nodup) {path : String}
    {o : Fin n} : ownerAt? front xs path = some o ↔ o ∈ xs ∧ (front o).path = .proper path := by
  constructor
  · exact mem_of_ownerAt?
  · rintro ⟨ho,hp⟩
    have hsome : (ownerAt? front xs path).isSome := by
      rw [ownerAt?,List.find?_isSome]
      exact ⟨o,by simpa using ho,by simp [hp]⟩
    obtain ⟨o',ho'⟩ := Option.isSome_iff_exists.mp hsome
    have hm := mem_of_ownerAt? ho'
    rw [ho',List.inj_on_of_nodup_map hd hm.1 ho (hm.2.trans hp.symm)]

theorem ownerAt?_perm (hp : xs.Perm ys) (hd : (xs.map fun h => (front h).path).Nodup)
    (path : String) : ownerAt? front xs path = ownerAt? front ys path := by
  have hd' := (hp.map fun h => (front h).path).nodup_iff.mp hd
  ext o
  rw [ownerAt?_eq_some_iff hd,ownerAt?_eq_some_iff hd',hp.mem_iff]

/-- Of the other resources, a turn sees only which of them owns a path. -/
theorem turn_congr (h : ∀ path, ownerAt? front xs path = ownerAt? front ys path) (k : Fin n) :
    c.turn front xs k = c.turn front ys k := by
  simp only [turn,pathTurn,nestedTurn,h]

theorem turn_perm (hp : xs.Perm ys) (hd : (xs.map fun h => (front h).path).Nodup) (k : Fin n) :
    c.turn front xs k = c.turn front ys k :=
  turn_congr (ownerAt?_perm hp hd) k

theorem succeeds_perm (hp : xs.Perm ys) (hd : (xs.map fun h => (front h).path).Nodup) :
    c.Succeeds front xs ↔ c.Succeeds front ys := by
  simp only [Succeeds,turn_perm hp hd,hp.mem_iff]

theorem pool_pass_perm {pool : Pool n} (hp : xs.Perm ys)
    (hd : (xs.map fun h => (pool.front h).path).Nodup) (hs : c.Succeeds pool.front xs) :
    (c.pass pool xs).pool = (c.pass pool ys).pool := by
  have hs' := (succeeds_perm hp hd).mp hs
  rw [Pool.ext_iff,front_pass,front_pass]
  refine ⟨rfl,?_⟩
  funext k
  by_cases hk : k ∈ xs
  · rw [standing_pass hs hk,standing_pass hs' (hp.mem_iff.mp hk),ownEdits,ownEdits,turn_perm hp hd]
  · have hk' : k ∉ ys := fun h => hk (hp.mem_iff.mpr h)
    rw [standing_pass_of_notMem hs hk,standing_pass_of_notMem hs' hk']

theorem entries_perm (hp : xs.Perm ys) (hd : (xs.map fun h => (front h).path).Nodup) :
    (outcome (c.turns front xs)).index.entries.Perm
      (outcome (c.turns front ys)).index.entries := by
  simp only [entries_outcome_turns,turn_perm hp hd]
  exact hp.filterMap _

theorem sorts_perm (hp : xs.Perm ys) (hd : (xs.map fun h => (front h).path).Nodup) :
    c.Sorts front xs ↔ c.Sorts front ys := by
  simp only [Sorts,Index.isSortable_iff,(entries_perm hp hd).mem_iff]

/-- A pass over resources of different paths does the same in every order: it succeeds or fails,
leaves every resource as it does, keeps the same resources and indexes the same articles.  If their
instants differ, and clocks on the wall agree with them, it lists them in the same order too. -/
theorem pass_perm {pool : Pool n} (hp : xs.Perm ys)
    (hd : (xs.map fun h => (pool.front h).path).Nodup) :
    ((∃ found, (c.pass pool xs).result = .ok found) ↔
      ∃ found, (c.pass pool ys).result = .ok found) ∧
    ∀ found found', (c.pass pool xs).result = .ok found → (c.pass pool ys).result = .ok found' →
      (c.pass pool xs).pool = (c.pass pool ys).pool ∧
      found.kept.Perm found'.kept ∧ found.kept.Sublist xs ∧ found'.kept.Sublist ys ∧
      found.index.entries.Perm found'.index.entries ∧
      ((found.index.entries.map (·.instant)).Nodup → found.index.Agrees →
        found.index.articles = found'.index.articles) := by
  constructor
  · simp only [pass_eq_ok_iff,succeeds_perm hp hd,sorts_perm hp hd,exists_and_left,exists_eq,
      and_true]
  · intro found found' hf hf'
    obtain ⟨hs,-,rfl⟩ := pass_eq_ok_iff.mp hf
    obtain ⟨hs',-,rfl⟩ := pass_eq_ok_iff.mp hf'
    have hkept : (outcome (c.turns pool.front xs)).kept.Perm
        (outcome (c.turns pool.front ys)).kept := by
      simp only [kept_outcome_turns hs,kept_outcome_turns hs',keptOf,turn_perm hp hd]
      exact hp.filter _
    have hentries := entries_perm (c := c) hp hd
    refine ⟨pool_pass_perm hp hd hs,hkept,?_,?_,hentries,fun hinstants hagrees =>
      Index.articles_eq_of_perm hentries hagrees hinstants⟩
    · rw [kept_outcome_turns hs]
      exact List.filter_sublist
    · rw [kept_outcome_turns hs']
      exact List.filter_sublist

theorem pass_perm_sample :
    [0,1,2,3,4].Perm ([4,2,3,0,1] : List (Fin 5)) ∧
    (([0,1,2,3,4] : List (Fin 5)).map fun h => (Sample.pool.front h).path).Nodup ∧
    ∃ found found', (Sample.classifier.pass Sample.pool [0,1,2,3,4]).result = .ok found ∧
      (Sample.classifier.pass Sample.pool [4,2,3,0,1]).result = .ok found' ∧
      (Sample.classifier.pass Sample.pool [0,1,2,3,4]).pool =
        (Sample.classifier.pass Sample.pool [4,2,3,0,1]).pool ∧
      found.kept.Perm found'.kept ∧ found.index.articles = found'.index.articles := by
  have hd : (([0,1,2,3,4] : List (Fin 5)).map fun h => (Sample.pool.front h).path).Nodup :=
    List.Nodup.of_map Assigned.proper? (by decide)
  have hp : [0,1,2,3,4].Perm ([4,2,3,0,1] : List (Fin 5)) := by decide
  have h := pass_perm (c := Sample.classifier) hp hd
  obtain ⟨hpool,hkept,_,_,_,hlist⟩ := h.2 _ _ rfl rfl
  exact ⟨hp,hd,_,_,rfl,rfl,hpool,hkept,hlist (by decide) (by decide)⟩

end Classifier

/-! Two articles of the hour that the clocks of Berlin show twice, and two of a midnight in universal
time, of which one leaves it open that it is one. -/
namespace Sample

open Calendar

def titled : Classifier where
  pattern := ⟨":title.html",[.field .title,.literal ['.','h','t','m','l']]⟩
  permalink := ⟨":title/",[.field .title,.literal ['/']],[]⟩

def datedPair (s t : Timestamp) : Pool 2 := #v[
  { path := .proper "a.html", date := some s },
  { path := .proper "b.html", date := some t }]

def midnight (zone : Option Zone) : Timestamp where
  date := ⟨2014,1,1,by decide,by decide,by decide⟩
  zone

def midnights : Pool 2 := datedPair (midnight none) (midnight (some (.fixed 0)))

def autumnNight (minute : Nat) (offset : Int) : Timestamp where
  date := ⟨2014,10,26,by decide,by decide,by decide⟩
  hour := 2
  minute
  zone := some (.place "Europe/Berlin" offset)

def autumnNights : Pool 2 :=
  datedPair (autumnNight 30 7200000000) (autumnNight 30 3600000000)

end Sample

namespace Classifier

/-- Articles stay in the order in which they come if none of them is before one that comes later. -/
theorem articles_of_pairwise {c : Classifier} {pool : Pool n} {hs : List (Fin n)}
    (hs' : c.Succeeds pool.front hs) {es : List (IndexEntry n)}
    (hes : (outcome (c.turns pool.front hs)).index.entries = es)
    (hcomparable : ∀ a ∈ es, ∀ b ∈ es, a.date.comparable b.date = true)
    (hnewest : es.Pairwise fun a b => b.date.notAfter a.date = true) :
    ∃ found, (c.pass pool hs).result = .ok found ∧ found.index.entries = es ∧
      found.index.articles = es.map (·.handle) := by
  have hsort : c.Sorts pool.front hs := by
    rw [Sorts,Index.isSortable_iff,hes]
    exact hcomparable
  refine ⟨_,pass_eq_ok_iff.mpr ⟨hs',hsort,rfl⟩,hes,?_⟩
  rw [Index.articles,hes,List.mergeSort_of_pairwise hnewest]

theorem articles_datedPair {s t : Calendar.Timestamp}
    (hcomparable : ∀ a ∈ [s,t], ∀ b ∈ [s,t], a.comparable b = true)
    (hst : s.notAfter t = true) (hts : t.notAfter s = true) :
    ∃ found found', (Sample.titled.pass (Sample.datedPair s t) [0,1]).result = .ok found ∧
      (Sample.titled.pass (Sample.datedPair s t) [1,0]).result = .ok found' ∧
      found.index.entries.map (·.date) = [s,t] ∧
      found.index.articles = [0,1] ∧ found'.index.articles = [1,0] := by
  have hs : ∀ hs : List (Fin 2), Sample.titled.Succeeds (Sample.datedPair s t).front hs := by
    intro hs k _
    match k with
    | 0 => rfl
    | 1 => rfl
  simp only [List.mem_cons,List.not_mem_nil,or_false,forall_eq_or_imp,forall_eq] at hcomparable
  have hes : (outcome (Sample.titled.turns (Sample.datedPair s t).front [0,1])).index.entries =
      [⟨0,some "a.html",s⟩,⟨1,some "b.html",t⟩] := rfl
  have hes' : (outcome (Sample.titled.turns (Sample.datedPair s t).front [1,0])).index.entries =
      [⟨1,some "b.html",t⟩,⟨0,some "a.html",s⟩] := rfl
  obtain ⟨found,hfound,hentries,harticles⟩ :=
    articles_of_pairwise (hs [0,1]) hes (by simp [hcomparable]) (by simp [hts])
  obtain ⟨found',hfound',-,harticles'⟩ :=
    articles_of_pairwise (hs [1,0]) hes' (by simp [hcomparable]) (by simp [hst])
  exact ⟨found,found',hfound,hfound',by simp [hentries],harticles,harticles'⟩

/-- Articles of different instants are listed as they come if one clock shows the same for both, and so
are articles of different dates if both are of one instant. -/
theorem articles_pass_ne :
    (∃ found found', (Sample.titled.pass Sample.autumnNights [0,1]).result = .ok found ∧
      (Sample.titled.pass Sample.autumnNights [1,0]).result = .ok found' ∧
      (found.index.entries.map (·.instant)).Nodup ∧
      found.index.articles ≠ found'.index.articles) ∧
    ∃ found found', (Sample.titled.pass Sample.midnights [0,1]).result = .ok found ∧
      (Sample.titled.pass Sample.midnights [1,0]).result = .ok found' ∧
      (found.index.entries.map (·.date)).Nodup ∧
      found.index.articles ≠ found'.index.articles := by
  constructor
  · obtain ⟨found,found',hfound,hfound',hdates,hx,hy⟩ := articles_datedPair
      (s := Sample.autumnNight 30 7200000000) (t := Sample.autumnNight 30 3600000000)
      (by decide) (by decide) (by decide)
    refine ⟨found,found',hfound,hfound',?_,by simp [hx,hy]⟩
    have hinstants : found.index.entries.map (·.instant) =
        (found.index.entries.map (·.date)).map (·.instant) := by
      rw [List.map_map]
      rfl
    rw [hinstants,hdates]
    decide
  · obtain ⟨found,found',hfound,hfound',hdates,hx,hy⟩ := articles_datedPair
      (s := Sample.midnight none) (t := Sample.midnight (some (.fixed 0)))
      (by decide) (by decide) (by decide)
    exact ⟨found,found',hfound,hfound',by rw [hdates]; decide,by simp [hx,hy]⟩

end Classifier

end BlogPaths
