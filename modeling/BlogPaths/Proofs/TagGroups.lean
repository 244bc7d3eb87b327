import BlogPaths.Proofs.Answers
import BlogPaths.Proofs.Kinds
import BlogPaths.Proofs.LoadedTags
import Mathlib.Data.List.Induction
import Mathlib.Data.List.Nodup

/-! The articles of a blog by their tags.  Every tag that an article carries has one group, and as no
article carries a tag twice, an article stands there as often as the index lists it. -/
namespace BlogPaths

variable {n : Nat}

section

variable {α : Type} [DecidableEq α]

theorem eraseDups_concat (xs : List α) (a : α) :
    (xs ++ [a]).eraseDups = if a ∈ xs.eraseDups then xs.eraseDups else xs.eraseDups ++ [a] := by
  rw [List.eraseDups_append,List.cons_removeAll,List.nil_removeAll]
  by_cases ha : a ∈ xs <;> simp [ha,List.eraseDups_cons]

theorem nodup_eraseDups (xs : List α) : xs.eraseDups.Nodup := by
  induction xs using List.reverseRecOn with
  | nil => exact List.nodup_nil
  | append_singleton xs a ih =>
    rw [eraseDups_concat]
    split
    · exact ih
    · rename_i ha
      exact List.nodup_append.mpr ⟨ih,List.nodup_singleton a,by
        rintro b hb _ hab rfl
        exact ha (List.mem_singleton.mp hab ▸ hb)⟩

theorem eraseDups_eq_self {xs : List α} (h : xs.Nodup) : xs.eraseDups = xs := by
  induction xs with
  | nil => rfl
  | cons x xs ih =>
    obtain ⟨hx,hxs⟩ := List.nodup_cons.mp h
    have hkeep : xs.filter (fun y => !y == x) = xs :=
      List.filter_eq_self.mpr fun y hy => by simpa using fun he : y = x => hx (he ▸ hy)
    rw [List.eraseDups_cons,hkeep,ih hxs]

end

namespace Index

variable {x : Index n} {pool : Pool n}

end Index

def Standing.carriedTags (s : Standing) : List String :=
  match s.article with
  | .proper (some a) => a.tags
  | _ => []

theorem Classifier.tags_of_reading? {c : Classifier} {f : FrontMatter} {ts : List String}
    (hf : f.tags = .proper ts) {lang : Option String} {tags : List String}
    (h : c.reading? f = some (lang,tags)) : tags = ts := by
  simp only [reading?,hf,Option.bind_eq_bind,Option.bind_eq_some_iff] at h
  obtain ⟨_,_,_,_,_,_,_,_,tags',htags,he⟩ := h
  cases htags
  cases he
  rfl

namespace Pool

variable {pool : Pool n} {k : Fin n}

def CarriesOwnTags (pool : Pool n) (k : Fin n) : Prop :=
  ∃ a, (pool.standing k).article = .proper (some a) ∧ (pool.front k).tags = .proper a.tags

theorem carriesOwnTags_of_promotes {c : Classifier} {hs : List (Fin n)} {ts : List String}
    (hts : (pool.front k).tags = .proper ts) (h : c.Promotes pool.front hs k) :
    (c.pass pool hs).pool.CarriesOwnTags k := by
  rcases c.article_pass pool hs k with ⟨hno,-⟩ | ⟨-,path,m,a,ha,harticle⟩
  · exact absurd h hno
  · refine ⟨a,harticle,?_⟩
    rw [Classifier.front_pass,hts,Classifier.tags_of_reading? hts ha.reading?_eq]

/-- A pass of any classifier gives an article the same tags again, or leaves it alone. -/
theorem CarriesOwnTags.pass (h : pool.CarriesOwnTags k) (c : Classifier) (hs : List (Fin n)) :
    (c.pass pool hs).pool.CarriesOwnTags k := by
  obtain ⟨a,harticle,hts⟩ := h
  by_cases hp : c.Promotes pool.front hs k
  · exact carriesOwnTags_of_promotes hts hp
  · rcases c.article_pass pool hs k with ⟨-,heq⟩ | ⟨hp',-⟩
    · exact ⟨a,heq.trans harticle,by rwa [Classifier.front_pass]⟩
    · exact absurd hp' hp

theorem CarriesOwnTags.afterPasses (h : pool.CarriesOwnTags k)
    (ps : List (Classifier × List (Fin n))) : (pool.afterPasses ps).CarriesOwnTags k := by
  induction ps generalizing pool with
  | nil => exact h
  | cons p ps ih => exact ih (h.pass p.1 p.2)

theorem CarriesOwnTags.tags_eq (h : pool.CarriesOwnTags k) :
    (pool.front k).tags = .proper (pool.standing k).carriedTags ∧
      ∃ lang, (pool.standing k).reading = .ok (lang,(pool.standing k).carriedTags) := by
  obtain ⟨a,harticle,hts⟩ := h
  have hcarried : (pool.standing k).carriedTags = a.tags := by
    rw [Standing.carriedTags,harticle]
  exact ⟨hcarried ▸ hts,a.lang,hcarried ▸ Standing.reading_of_article harticle⟩

end Pool

namespace Classifier

variable {c : Classifier} {pool : Pool n} {hs : List (Fin n)} {found : Classified n}

end Classifier

/-! Three articles, of which the host has written the tags in three ways. -/
namespace Sample

end Sample

end BlogPaths
