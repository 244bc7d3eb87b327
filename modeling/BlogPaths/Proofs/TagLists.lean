import BlogPaths.Proofs.Pieces
import BlogPaths.Proofs.TagGroups
import Mathlib.Control.Basic
import Mathlib.Data.List.Forall2

/-! Tags that a host writes as one text or as a list of texts.  Either way a resource gets a list
that reads as itself, and every way to write tags between commas is read as their list again. -/
namespace BlogPaths

open Checked Text

namespace Checked

theorem items_texts (i : Nat) (ts : List String) :
    items Value.readString i (ts.map .str) = pure ts := by
  induction ts generalizing i with
  | nil => rfl
  | cons t ts ih =>
    rw [List.map_cons,items,ih (i + 1)]
    rfl

end Checked

namespace Metadata

def without (m : Metadata) (name : String) : Metadata := m.filter (·.1 ≠ name)

theorem without_cons (k : String) (v : Value) (m : Metadata) (name : String) :
    without ((k,v) :: m) name = if k = name then m.without name else (k,v) :: m.without name := by
  by_cases hk : k = name <;> simp [without,hk]

theorem get?_cons (k : String) (v : Value) (m : Metadata) (key : String) :
    get? ((k,v) :: m) key = if key = k then some v else m.get? key := by
  rw [get?,List.lookup_cons,get?]
  by_cases hk : key = k
  · simp [hk]
  · have hother : (key == k) = false := by simpa using hk
    rw [hother,if_neg hk]

theorem get?_without {key name : String} (h : key ≠ name) (m : Metadata) :
    (m.without name).get? key = m.get? key := by
  induction m with
  | nil => rfl
  | cons e m ih =>
    obtain ⟨k,v⟩ := e
    rw [without_cons,get?_cons]
    by_cases hk : k = name
    · have hne : key ≠ k := hk ▸ h
      rw [if_pos hk,if_neg hne,ih]
    · rw [if_neg hk,get?_cons,ih]

theorem get?_without_self (m : Metadata) (name : String) : (m.without name).get? name = none := by
  rw [get?,List.lookup_eq_none_iff]
  intro e he
  have hne : e.1 ≠ name := by simpa using (List.mem_filter.mp he).2
  simpa using hne.symm

variable {α : Type} {key name : String} (read : Value → Checked α)

theorem required_without (h : key ≠ name) (m : Metadata) :
    (m.without name).required key read = m.required key read := by
  rw [required,required,get?_without h]

theorem optional_without (h : key ≠ name) (m : Metadata) (default : α) :
    (m.without name).optional key default read = m.optional key default read := by
  rw [optional,optional,get?_without h]

end Metadata

namespace Resource

/-- No other field of a resource looks at its tags. -/
theorem ofMetadata_texts (m : Metadata) (ts : List String) :
    ofMetadata m (ts.map .str) =
      (fun r : Resource => { r with tags := .proper ts }) <$> ofMetadata (m.without "tags") [] := by
  have hnone : items Value.readString 0 [] = pure [] := rfl
  simp (disch := decide) only [ofMetadata,Metadata.required_without,Metadata.optional_without,
    items_texts,hnone,within_pure,seq_pure,map_seq,Functor.map_map]
  rfl

end Resource

namespace Tags

variable {v : Value} {s t : String} {ts us : List String}

/-- The texts of a list that are not empty, each where it stands first. -/
def firsts (ts : List String) : List String :=
  (ts.zipIdx.filter fun p => p.1 ≠ "" ∧ p.1 ∉ ts.take p.2).map (·.1)

theorem firsts_concat (ts : List String) (t : String) :
    firsts (ts ++ [t]) = firsts ts ++ if t ≠ "" ∧ t ∉ ts then [t] else [] := by
  have hbefore : ∀ p ∈ ts.zipIdx, (ts ++ [t]).take p.2 = ts.take p.2 := by
    intro p hp
    have hlt := List.snd_lt_of_mem_zipIdx hp
    exact List.take_append_of_le_length (by omega)
  have hkept : ts.zipIdx.filter (fun p => p.1 ≠ "" ∧ p.1 ∉ (ts ++ [t]).take p.2) =
      ts.zipIdx.filter fun p => p.1 ≠ "" ∧ p.1 ∉ ts.take p.2 :=
    List.filter_congr fun p hp => by rw [hbefore p hp]
  rw [firsts,List.zipIdx_append,List.filter_append,List.map_append,hkept,← firsts]
  by_cases ht : t ≠ "" ∧ t ∉ ts <;> simp [ht]

/-- What stands first is what remains once duplicates are dropped. -/
theorem firsts_eq (ts : List String) : firsts ts = (ts.filter (· ≠ "")).eraseDups := by
  induction ts using List.reverseRecOn with
  | nil => rfl
  | append_singleton ts t ih =>
    rw [firsts_concat,ih,List.filter_append]
    by_cases ht : t = ""
    · simp [ht]
    · rw [List.filter_cons_of_pos (by simpa using ht),List.filter_nil,eraseDups_concat]
      by_cases hmem : t ∈ ts <;> simp [List.mem_eraseDups,ht,hmem]

theorem mem_firsts : t ∈ firsts ts ↔ t ∈ ts ∧ t ≠ "" := by
  simp [firsts_eq,List.mem_eraseDups]

theorem nodup_firsts (ts : List String) : (firsts ts).Nodup := firsts_eq ts ▸ nodup_eraseDups _

theorem firsts_eq_self (hn : ts.Nodup) (hne : ∀ t ∈ ts, t ≠ "") : firsts ts = ts := by
  rw [firsts_eq,List.filter_eq_self.mpr (by simpa using hne),eraseDups_eq_self hn]

theorem firsts_firsts (ts : List String) : firsts (firsts ts) = firsts ts :=
  firsts_eq_self (nodup_firsts ts) fun _ ht => (mem_firsts.mp ht).2

theorem any_sameScalar (t : String) (seen : List String) :
    (seen.map Value.str).any (Value.sameScalar (.str t)) = decide (t ∈ seen) := by
  induction seen with
  | nil => rfl
  | cons u seen ih =>
    rw [List.map_cons,List.any_cons,ih]
    by_cases hu : t = u <;> simp [Value.sameScalar,hu]

theorem distinct_str (seen : List String) (t : String) (vs : List Value) :
    distinct (seen.map .str) (.str t :: vs) =
      if t = "" ∨ t ∈ seen then distinct (seen.map .str) vs
      else (distinct ((t :: seen).map .str) vs).map (.str t :: ·) := by
  rw [distinct,any_sameScalar]
  · by_cases ht : t = "" <;> by_cases hs : t ∈ seen <;> simp [Value.isGiven,ht,hs]
  · simp
  · simp

theorem distinct_texts (seen ts : List String) :
    distinct (seen.map .str) (ts.map .str) =
      .ok ((ts.filter fun t => !decide (t = "" ∨ t ∈ seen)).eraseDups.map .str) := by
  induction ts generalizing seen with
  | nil => rfl
  | cons t ts ih =>
    rw [List.map_cons,distinct_str]
    by_cases ht : t = "" ∨ t ∈ seen
    · rw [if_pos ht,List.filter_cons_of_neg (by rw [decide_eq_true ht]; decide),ih]
    · -- From here on `t` counts as seen, so that what equals it is filtered out of the rest.
      have hseen : ∀ u, (!decide (u = "" ∨ u ∈ t :: seen)) =
          (!(u == t) && !decide (u = "" ∨ u ∈ seen)) := by
        intro u
        by_cases hu : u = t <;> simp [hu]
      rw [if_neg ht,List.filter_cons_of_pos (by rw [decide_eq_false ht]; rfl),List.eraseDups_cons,
        List.filter_filter,ih,Except.map]
      simp only [hseen,List.map_cons]

theorem members_texts (ts : List String) :
    members (.list (ts.map .str)) = .ok ((firsts ts).map .str) := by
  simpa [members,firsts_eq] using distinct_texts [] ts

theorem members_text (s : String) : members (.str s) = .ok ((firsts (ofText s)).map .str) := by
  simpa [members,firsts_eq] using distinct_texts [] (ofText s)

theorem ofText_eq (s : String) :
    ofText s = (s.toList.splitOn ',').map fun u => String.ofList (trim u) := by
  rw [ofText,cut_eq_splitOn]

/-- A text that can stand between commas, and is left as it is there. -/
structure IsTag (t : String) : Prop where
  ne_empty : t ≠ ""
  comma_notMem : ',' ∉ t.toList
  isTrimmed : IsTrimmed t.toList

/-- Distinct tags, each of them as a text between commas gives it. -/
structure IsTagList (ts : List String) : Prop where
  nodup : ts.Nodup
  isTag : ∀ t ∈ ts, IsTag t

theorem isTag_of_mem_ofText (h : t ∈ ofText s) (hne : t ≠ "") : IsTag t := by
  obtain ⟨u,hu,rfl⟩ := List.mem_map.mp h
  have htrim := isTrimOf_trim u
  refine ⟨hne,?_,by simpa using htrim.isTrimmed⟩
  rw [String.toList_ofList,← htrim.mem_iff (by decide)]
  exact notMem_of_mem_cut hu

theorem isTagList_text (s : String) : IsTagList (firsts (ofText s)) :=
  ⟨nodup_firsts _,fun _ ht => isTag_of_mem_ofText (mem_firsts.mp ht).1 (mem_firsts.mp ht).2⟩

theorem IsTagList.firsts_eq (h : IsTagList ts) : firsts ts = ts :=
  firsts_eq_self h.nodup fun t ht => (h.isTag t ht).ne_empty

/-- The text `u` is the tag `t` with blanks around it. -/
def Pads (u t : String) : Prop := IsTrimOf t.toList u.toList

theorem pads_iff {u : String} : Pads u t ↔ String.ofList (trim u.toList) = t := by
  rw [Pads,← trim_eq_iff,← String.toList_inj,String.toList_ofList]

theorem forall₂_pads_iff :
    List.Forall₂ Pads us ts ↔ us.map (fun u => String.ofList (trim u.toList)) = ts := by
  rw [← List.forall₂_eq_eq_eq,List.forall₂_map_left_iff]
  simp only [← pads_iff]

/-- What has been joined with commas is found between them, without the blanks. -/
theorem ofText_intercalate (hne : us ≠ []) (hts : ∀ t ∈ ts, IsTag t)
    (h : List.Forall₂ Pads us ts) : ofText (",".intercalate us) = ts := by
  obtain rfl := forall₂_pads_iff.mp h
  have hcomma : ∀ p ∈ us.map String.toList, ',' ∉ p := by
    intro p hp
    obtain ⟨u,hu,rfl⟩ := List.mem_map.mp hp
    rw [(isTrimOf_trim u.toList).mem_iff (by decide)]
    simpa using (hts _ (List.mem_map_of_mem hu)).comma_notMem
  have hcut : cut ',' (",".intercalate us).toList = us.map String.toList := by
    rw [String.toList_intercalate]
    exact cut_intercalate hcomma (by simpa using hne)
  rw [ofText,hcut,List.map_map]
  rfl

theorem IsTagList.firsts_intercalate (hts : IsTagList ts) (h : List.Forall₂ Pads us ts) :
    firsts (ofText (",".intercalate us)) = ts := by
  cases h with
  | nil =>
    -- No tags are written as the empty text, which has a piece all the same, an empty one.
    rfl
  | cons hu h =>
    rw [ofText_intercalate (List.cons_ne_nil _ _) hts.isTag (.cons hu h),hts.firsts_eq]

/-- A resource whose tags are given as `v` is loaded with the tags `ts`, and in all else as it is
loaded where no tags are given. -/
structure LoadAs (v : Value) (ts : List String) : Prop where
  alone : ∀ path : String, Resource.ofValue (.object [("path",.str path),("tags",v)]) =
    .ok { path := .proper path, tags := .proper ts }
  among : ∀ m : Metadata, m.get? "tags" = some v → Resource.ofValue (.object m) =
    (Resource.ofValue (.object (m.without "tags"))).map fun r => { r with tags := .proper ts }

/-- Tags that can be gone through as texts are those that the resource is loaded with. -/
theorem loadAs_of_members (h : members v = .ok (ts.map .str)) : LoadAs v ts := by
  have hamong : ∀ m : Metadata, m.get? "tags" = some v → Resource.ofValue (.object m) =
      (Resource.ofValue (.object (m.without "tags"))).map
        fun r => { r with tags := .proper ts } := by
    intro m hm
    rw [Resource.ofValue,Resource.ofValue,hm,Metadata.get?_without_self]
    simp only [h,Except.mapError,bind,Except.bind,Resource.ofMetadata_texts]
    cases Resource.ofMetadata (m.without "tags") [] with
    | ok r => rfl
    | issues found => rfl
  exact ⟨fun path => (hamong _ rfl).trans rfl,hamong⟩

theorem loadAs_text (s : String) : LoadAs (.str s) (firsts (ofText s)) :=
  loadAs_of_members (members_text s)

theorem loadAs_texts (ts : List String) : LoadAs (.list (ts.map .str)) (firsts ts) :=
  loadAs_of_members (members_texts ts)

theorem loadAs_firsts (ts : List String) : LoadAs (.list ((firsts ts).map .str)) (firsts ts) := by
  simpa only [firsts_firsts] using loadAs_texts (firsts ts)

/-- Tags that are given as a text are what stands between its commas, without the blanks around it:
of equal pieces the first, and of empty ones none.  They are distinct, and given again by their own
list and by every text in which they stand between commas, with any blanks around them.  Of tags
that are given as a list each is kept where it stands first, unless it is empty, and what is kept is
given again by its own list. -/
theorem loadAs_canonical :
    (∀ u t, trim u = t ↔ IsTrimOf t u) ∧
    (∀ s : String,
      let ts := firsts ((s.toList.splitOn ',').map fun u => String.ofList (trim u))
      LoadAs (.str s) ts ∧ IsTagList ts ∧ LoadAs (.list (ts.map .str)) ts ∧
        ∀ us : List String, List.Forall₂ Pads us ts → LoadAs (.str (",".intercalate us)) ts) ∧
    ∀ ts : List String, LoadAs (.list (ts.map .str)) (firsts ts) ∧
      LoadAs (.list ((firsts ts).map .str)) (firsts ts) := by
  refine ⟨fun u t => trim_eq_iff,fun s => ?_,fun ts => ⟨loadAs_texts ts,loadAs_firsts ts⟩⟩
  rw [← ofText_eq]
  have htags : IsTagList (firsts (ofText s)) := isTagList_text s
  refine ⟨loadAs_text s,htags,loadAs_firsts (ofText s),fun us h => ?_⟩
  have hjoined := loadAs_text (",".intercalate us)
  rwa [htags.firsts_intercalate h] at hjoined

theorem loadAs_canonical_sample :
    LoadAs (.str "news, intro ,news,, a b") ["news","intro","a b"] ∧
    List.Forall₂ Pads [" news\t","intro","\u3000a b\n"] ["news","intro","a b"] ∧
    LoadAs (.str " news\t,intro,\u3000a b\n") ["news","intro","a b"] ∧
    LoadAs (.list [.str " a",.str "",.str "a",.str " a"]) [" a","a"] ∧
    Resource.ofValue (.object [("published",.bool false),("path",.str "a.html"),
        ("tags",.str " news\t,intro,\u3000a b\n")]) =
      .ok { path := .proper "a.html", published := .proper false
            tags := .proper ["news","intro","a b"] } := by
  obtain ⟨-,htext,hlist⟩ := loadAs_canonical
  have hpads : List.Forall₂ Pads [" news\t","intro","\u3000a b\n"] ["news","intro","a b"] :=
    forall₂_pads_iff.mpr (by decide +kernel)
  have hfirsts : firsts (("news, intro ,news,, a b".toList.splitOn ',').map fun u =>
      String.ofList (trim u)) = ["news","intro","a b"] := by
    decide +kernel
  obtain ⟨hload,-,-,hjoined⟩ := htext "news, intro ,news,, a b"
  rw [hfirsts] at hload hjoined
  have hpadded := hjoined _ hpads
  exact ⟨hload,hpads,hpadded,(hlist [" a","","a"," a"]).1,(hpadded.among _ rfl).trans rfl⟩

end Tags

end BlogPaths
