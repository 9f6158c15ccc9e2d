import Mathlib.Data.List.Induction
import Transit.Directory
import Transit.Handle
import Transit.Proofs.Lists
import Transit.Roster

/-!
# Rosters, directories and number tables

* `Roster.firsts` lists the elements of a list at their first occurrences.
* `Directory.get?_eq_some_iff`: looking a key up finds its entry and nothing else.
* `Directory.Numbers`: a directory that gives every id of a list the handle of its position, and
  the ids of such a list are distinct.
-/

namespace Transit

attribute [ext] Roster Directory

namespace Roster

variable {α : Type} [DecidableEq α]

theorem members_insert_of_not_mem {r : Roster α} {a : α} (h : a ∉ r) :
    (r.insert a).members = r.members ++ [a] := by
  rw [members_insert, if_neg h]

theorem insert_insert (r : Roster α) (a : α) : (r.insert a).insert a = r.insert a :=
  insert_of_mem (mem_insert.2 (Or.inr rfl))

@[simp] theorem ofList_nil : ofList ([] : List α) = ∅ := rfl

theorem ofList_concat (as : List α) (a : α) : ofList (as ++ [a]) = (ofList as).insert a := by
  simp [ofList, List.foldl_append]

@[simp] theorem mem_ofList {as : List α} {a : α} : a ∈ ofList as ↔ a ∈ as := by
  induction as using List.reverseRecOn with
  | nil => simp [mem_def]
  | append_singleton as b ih => rw [ofList_concat, mem_insert, ih]; simp

/-- The elements of a list, each at its first occurrence. -/
def firsts (as : List α) : List α := (ofList as).members

@[simp] theorem firsts_nil : firsts ([] : List α) = [] := rfl

@[simp] theorem mem_firsts {as : List α} {a : α} : a ∈ firsts as ↔ a ∈ as := mem_ofList

theorem nodup_firsts (as : List α) : (firsts as).Nodup := (ofList as).nodup

theorem firsts_concat (as : List α) (a : α) :
    firsts (as ++ [a]) = if a ∈ as then firsts as else firsts as ++ [a] := by
  simp only [firsts, ofList_concat, members_insert, mem_ofList]

theorem firsts_of_nodup {as : List α} (h : as.Nodup) : firsts as = as := by
  induction as using List.reverseRecOn with
  | nil => rfl
  | append_singleton as a ih =>
    rw [List.nodup_append] at h
    have ha : a ∉ as := fun hm => h.2.2 a hm a (by simp) rfl
    rw [firsts_concat, if_neg ha, ih h.1]

/-- The first occurrences in two lists are those in the one, and then those in the other of what is
new. -/
theorem firsts_append (as bs : List α) :
    firsts (as ++ bs) = firsts as ++ (firsts bs).filter (· ∉ as) := by
  induction bs using List.reverseRecOn with
  | nil => simp
  | append_singleton bs b ih =>
    rw [← List.append_assoc, firsts_concat, firsts_concat, ih]
    by_cases hbs : b ∈ bs
    · rw [if_pos (List.mem_append_right _ hbs), if_pos hbs]
    · by_cases has : b ∈ as
      · rw [if_pos (List.mem_append_left _ has), if_neg hbs]
        simp [has]
      · rw [if_neg (by simp [has, hbs]), if_neg hbs]
        simp [has]

/-- Elements that are known already may be reduced to their first occurrences. -/
theorem firsts_firsts_append (as bs : List α) : firsts (firsts as ++ bs) = firsts (as ++ bs) := by
  rw [firsts_append, firsts_append, firsts_of_nodup (nodup_firsts as)]
  simp only [mem_firsts]

/-- Elements that come again add nothing. -/
theorem firsts_append_of_subset {as bs : List α} (h : bs ⊆ as) :
    firsts (as ++ bs) = firsts as := by
  have hnone : (firsts bs).filter (· ∉ as) = [] :=
    List.filter_eq_nil_iff.2 fun b hb => by simpa using h (mem_firsts.1 hb)
  rw [firsts_append, hnone, List.append_nil]

/-- Lists that have the same first occurrences part by part have the same ones as a whole. -/
theorem firsts_flatMap_congr {β : Type} {f g : β → List α} {bs : List β}
    (h : ∀ b ∈ bs, firsts (f b) = firsts (g b)) :
    firsts (bs.flatMap f) = firsts (bs.flatMap g) := by
  induction bs with
  | nil => rfl
  | cons b bs ih =>
    have hmem : ∀ a, a ∈ f b ↔ a ∈ g b := fun a => by
      rw [← mem_firsts, h b List.mem_cons_self, mem_firsts]
    rw [List.flatMap_cons, List.flatMap_cons, firsts_append, firsts_append,
      h b List.mem_cons_self, ih fun c hc => h c (List.mem_cons_of_mem _ hc)]
    simp only [hmem]

theorem firsts_eq_eraseDups (as : List α) : firsts as = as.eraseDups := by
  induction as using List.reverseRecOn with
  | nil => rfl
  | append_singleton as a ih =>
    rw [firsts_concat, ih, List.eraseDups_append, List.removeAll]
    by_cases ha : a ∈ as <;> simp [ha, List.eraseDups_cons]

/-- First occurrences stay first under new names, where different elements get different ones. -/
theorem firsts_filterMap {β : Type} [DecidableEq β] {f : α → Option β} {as : List α}
    (hf : ∀ a ∈ as, ∀ a' ∈ as, ∀ b, f a = some b → f a' = some b → a = a') :
    firsts (as.filterMap f) = (firsts as).filterMap f := by
  induction as using List.reverseRecOn with
  | nil => rfl
  | append_singleton as a ih =>
    have ih := ih fun x hx y hy =>
      hf x (List.mem_append_left _ hx) y (List.mem_append_left _ hy)
    rw [List.filterMap_append, firsts_concat]
    cases ha : f a with
    | none =>
      rw [List.filterMap_cons_none ha, List.filterMap_nil, List.append_nil, ih]
      by_cases hm : a ∈ as
      · rw [if_pos hm]
      · rw [if_neg hm, List.filterMap_append, List.filterMap_cons_none ha, List.filterMap_nil,
          List.append_nil]
    | some b =>
      have hmem : b ∈ as.filterMap f ↔ a ∈ as := by
        rw [List.mem_filterMap]
        constructor
        · rintro ⟨a', ha', hb⟩
          rwa [hf a (by simp) a' (List.mem_append_left _ ha') b ha hb]
        · intro hm
          exact ⟨a, hm, ha⟩
      rw [List.filterMap_cons_some ha, List.filterMap_nil, firsts_concat, ih]
      by_cases hm : a ∈ as
      · rw [if_pos (hmem.2 hm), if_pos hm]
      · rw [if_neg (fun h => hm (hmem.1 h)), if_neg hm, List.filterMap_append,
          List.filterMap_cons_some ha, List.filterMap_nil]

/-- Leaving elements out leaves the others in their order of arrival. -/
theorem firsts_filter (p : α → Bool) (as : List α) :
    firsts (as.filter p) = (firsts as).filter p := by
  rw [← List.filterMap_eq_filter]
  refine firsts_filterMap fun a _ a' _ b hb hb' => ?_
  rw [Option.guard_eq_some_iff] at hb hb'
  exact hb.1.trans hb'.1.symm

theorem firsts_map {β : Type} [DecidableEq β] {f : α → β} {as : List α}
    (hf : ∀ a ∈ as, ∀ a' ∈ as, f a = f a' → a = a') : firsts (as.map f) = (firsts as).map f := by
  have h : firsts (as.filterMap fun a => some (f a)) = (firsts as).filterMap fun a => some (f a) :=
    firsts_filterMap fun a ha a' ha' b hb hb' =>
      hf a ha a' ha' (by rw [← Option.some.injEq, hb, hb'])
  simpa only [List.filterMap_eq_map'] using h

/-- The order of a list decides the order of first occurrences, and nothing else. -/
theorem firsts_perm {as bs : List α} (h : as.Perm bs) : (firsts as).Perm (firsts bs) :=
  (List.perm_ext_iff_of_nodup (nodup_firsts as) (nodup_firsts bs)).2 fun a => by
    rw [mem_firsts, mem_firsts, h.mem_iff]

end Roster

namespace Directory

variable {κ α : Type} [DecidableEq κ]

theorem find?_eq_some_iff {es : List (κ × α)} (h : (es.map Prod.fst).Nodup) {k : κ} {a : α} :
    find? k es = some a ↔ (k, a) ∈ es := by
  induction es with
  | nil => simp [find?]
  | cons e es ih =>
    obtain ⟨k', a'⟩ := e
    rw [List.map_cons, List.nodup_cons] at h
    by_cases hk : k' = k
    · subst hk
      have hne : (k', a) ∉ es := fun hm => h.1 (List.mem_map.2 ⟨_, hm, rfl⟩)
      simp [find?, hne, eq_comm]
    · have hne : ¬ k = k' := fun e => hk e.symm
      simp [find?, hk, hne, ih h.2]

/-- Looking a key up finds its entry and nothing else. -/
theorem get?_eq_some_iff {d : Directory κ α} {k : κ} {a : α} :
    d.get? k = some a ↔ (k, a) ∈ d.entries :=
  find?_eq_some_iff d.nodup

theorem put_of_not_mem {k : κ} {a : α} {es : List (κ × α)} (h : k ∉ es.map Prod.fst) :
    put k a es = es ++ [(k, a)] := by
  induction es with
  | nil => rfl
  | cons e es ih =>
    obtain ⟨k', a'⟩ := e
    simp only [List.map_cons, List.mem_cons, not_or] at h
    have hne : ¬ k' = k := fun e => h.1 e.symm
    simp [put, hne, ih h.2]

/-- A new key comes last. -/
theorem entries_insert_of_none {d : Directory κ α} {k : κ} {a : α} (h : d.get? k = none) :
    (d.insert k a).entries = d.entries ++ [(k, a)] := by
  refine put_of_not_mem fun hk => ?_
  obtain ⟨⟨k', a'⟩, hm, rfl⟩ := List.mem_map.1 hk
  rw [get?_eq_some_iff.2 hm] at h
  cases h

/-! ### Number tables -/

variable {kind : Kind}

/-- Where entries are positions in a list, a key without an entry is an element the list lacks. -/
theorem get?_eq_none_iff_of_positions {β : Type} {d : Directory κ (Handle kind)} {k : κ}
    {bs : List β} {b : β} (h : ∀ e : Handle kind, d.get? k = some e ↔ bs[e.index]? = some b) :
    d.get? k = none ↔ b ∉ bs := by
  rw [Option.eq_none_iff_forall_ne_some, List.mem_iff_getElem?, not_exists]
  constructor
  · intro hk i hi
    exact hk ⟨i⟩ ((h ⟨i⟩).2 hi)
  · intro hb e he
    exact hb e.index ((h e).1 he)

/-- Every id of a list with the handle of its position. -/
def numbered (ids : List String) : List (String × Handle kind) :=
  ids.zipIdx.map fun (id, i) => (id, ⟨i⟩)

theorem numbered_concat (ids : List String) (id : String) :
    (numbered (ids ++ [id]) : List (String × Handle kind)) =
      numbered ids ++ [(id, ⟨ids.length⟩)] := by
  simp [numbered, List.zipIdx_append]

theorem mem_numbered {ids : List String} {id : String} {h : Handle kind} :
    (id, h) ∈ numbered ids ↔ ids[h.index]? = some id := by
  unfold numbered
  rw [List.mem_map]
  constructor
  · rintro ⟨⟨id', i⟩, hm, he⟩
    cases he
    exact List.mem_zipIdx_iff_getElem?.1 hm
  · intro hi
    exact ⟨(id, h.index), List.mem_zipIdx_iff_getElem?.2 hi, rfl⟩

/-- The directory gives every id of the list the handle of its position. -/
def Numbers (d : Directory String (Handle kind)) (ids : List String) : Prop :=
  d.entries = numbered ids

namespace Numbers

variable {d : Directory String (Handle kind)} {ids : List String}

theorem empty : Numbers (∅ : Directory String (Handle kind)) [] := rfl

theorem get?_iff (hd : d.Numbers ids) {id : String} {h : Handle kind} :
    d.get? id = some h ↔ ids[h.index]? = some id := by
  rw [get?_eq_some_iff, hd, mem_numbered]

theorem get?_eq_none_iff (hd : d.Numbers ids) {id : String} : d.get? id = none ↔ id ∉ ids :=
  get?_eq_none_iff_of_positions fun _ => hd.get?_iff

theorem contains_iff (hd : d.Numbers ids) {id : String} : d.contains id = true ↔ id ∈ ids := by
  rw [← not_iff_not, ← hd.get?_eq_none_iff, contains]
  cases d.get? id <;> simp

/-- A table with one handle for every id numbers distinct ids. -/
theorem nodup (hd : d.Numbers ids) : ids.Nodup := by
  have h := d.nodup
  rw [hd, numbered, List.map_map] at h
  simpa [Function.comp_def, List.zipIdx_map_fst] using h

/-- What stands at the position of an id is what has the id. -/
theorem getElem?_get? {α : Type} {xs : List α} {key : α → String} (hd : d.Numbers (xs.map key))
    (id : String) : ((d.get? id).bind fun e => xs[e.index]?) = xs.find? fun x => key x = id := by
  ext x
  rw [find?_eq_some_iff_of_nodup hd.nodup, Option.bind_eq_some_iff]
  constructor
  · rintro ⟨e, he, hx⟩
    have hid := hd.get?_iff.1 he
    rw [List.getElem?_map, hx, Option.map_some, Option.some.injEq] at hid
    exact ⟨List.mem_of_getElem? hx, hid⟩
  · rintro ⟨hx, rfl⟩
    obtain ⟨i, hi⟩ := List.mem_iff_getElem?.1 hx
    exact ⟨⟨i⟩, hd.get?_iff.2 (by rw [List.getElem?_map, hi, Option.map_some]), hi⟩

/-- The ids and their order leave no choice. -/
theorem unique {d' : Directory String (Handle kind)} (hd : d.Numbers ids) (hd' : d'.Numbers ids) :
    d = d' :=
  Directory.ext (hd.trans hd'.symm)

theorem insert (hd : d.Numbers ids) {id : String} (h : id ∉ ids) :
    (d.insert id ⟨ids.length⟩).Numbers (ids ++ [id]) := by
  unfold Numbers
  rw [entries_insert_of_none (hd.get?_eq_none_iff.2 h), hd, numbered_concat]

end Numbers

end Directory

end Transit
