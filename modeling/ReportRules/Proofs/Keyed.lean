import Mathlib.Data.List.Induction
import Mathlib.Data.List.Sort
import Mathlib.Data.String.Basic
import ReportRules.Keyed

/-!
# ReportRules.Proofs.Keyed -- a map is what it finds

The entries of a `Keyed` map are the pairs that `find?` answers with, and every operation is
described by the answers after it: `insert` overwrites, `insertNew` gives way to what is there.
None of the lookup lemmas needs the order of the entries. It is needed only to know that an entry
is not hidden behind another one of the same key.

A map that is filled by going through a list (`gather`) holds, under each key, the value of the last
item that has one for it.
-/

namespace ReportRules.Keyed

variable {α : Type}

/-! ## Lookup after an operation -/

theorem lookup_cons_eq_ite (key k : String) (v : α) (rest : List (String × α)) :
    ((k, v) :: rest).lookup key = if key = k then some v else rest.lookup key := by
  by_cases h : key = k
  · subst h
    simp
  · have test : (key == k) = false := beq_eq_false_iff_ne.mpr h
    simp only [List.lookup_cons, test, if_neg h]

theorem lookup_insertEntry (key : String) (value : α) (k : String) (entries : List (String × α)) :
    (insertEntry key value entries).lookup k =
      if k = key then some value else entries.lookup k := by
  induction entries with
  | nil => exact lookup_cons_eq_ite k key value []
  | cons head rest ih =>
    obtain ⟨l, v⟩ := head
    simp only [insertEntry]
    split
    · rename_i same
      subst same
      simp only [lookup_cons_eq_ite]
      split <;> rfl
    · rename_i different
      split
      · simp only [lookup_cons_eq_ite]
      · rw [lookup_cons_eq_ite, lookup_cons_eq_ite, ih]
        by_cases hl : k = l
        · have hk : k ≠ key := fun h => different (h.symm.trans hl)
          rw [if_pos hl, if_pos hl, if_neg hk]
        · rw [if_neg hl, if_neg hl]

@[simp]
theorem find?_empty (key : String) : (empty : Keyed α).find? key = none := rfl

@[simp]
theorem find?_insert (m : Keyed α) (key : String) (value : α) (k : String) :
    (m.insert key value).find? k = if k = key then some value else m.find? k :=
  lookup_insertEntry key value k m.entries

theorem find?_insert_self (m : Keyed α) (key : String) (value : α) :
    (m.insert key value).find? key = some value := by
  rw [find?_insert, if_pos rfl]

/-- Putting something under a key that has nothing adds it to what is found. -/
theorem find?_insert_eq_some_iff {m : Keyed α} {key : String} (absent : m.contains key = false)
    (value : α) {k : String} {v : α} :
    (m.insert key value).find? k = some v ↔ m.find? k = some v ∨ k = key ∧ value = v := by
  rw [find?_insert]
  by_cases hk : k = key
  · subst hk
    have nothing : m.find? k = none := by simpa [contains] using absent
    simp [nothing]
  · simp [hk]

theorem contains_insert {m : Keyed α} {key : String} {value : α} {k : String} :
    (m.insert key value).contains k = true ↔ k = key ∨ m.contains k = true := by
  unfold contains
  rw [find?_insert]
  by_cases hk : k = key <;> simp [hk]

/-- What is there goes before what is put under a key that has none yet. -/
theorem find?_insertNew (m : Keyed α) (key : String) (value : α) (k : String) :
    (m.insertNew key value).find? k =
      (m.find? k).or (if k = key then some value else none) := by
  unfold insertNew contains
  by_cases hk : k = key
  · subst hk
    cases hfind : m.find? k <;> simp [hfind]
  · cases m.find? key <;> simp [hk]

/-! ## Entries -/

theorem lookup_eq_some_iff_mem {entries : List (String × α)}
    (h : entries.Pairwise (fun a b => a.1 < b.1)) {key : String} {value : α} :
    entries.lookup key = some value ↔ (key, value) ∈ entries := by
  induction entries with
  | nil => simp
  | cons head rest ih =>
    obtain ⟨k, v⟩ := head
    obtain ⟨hhead, hrest⟩ := List.pairwise_cons.mp h
    rw [lookup_cons_eq_ite]
    by_cases hk : key = k
    · subst hk
      have absent : (key, value) ∉ rest := fun hmem => lt_irrefl key (hhead _ hmem)
      simp [absent, eq_comm]
    · simp [hk, ih hrest]

/-- The entries of a map are what it finds. -/
theorem mem_entries_iff (m : Keyed α) {key : String} {value : α} :
    (key, value) ∈ m.entries ↔ m.find? key = some value :=
  (lookup_eq_some_iff_mem m.ascending).symm

theorem mem_keys_iff (m : Keyed α) {key : String} :
    key ∈ m.keys ↔ (m.find? key).isSome = true := by
  unfold keys
  rw [List.mem_map, Option.isSome_iff_exists]
  constructor
  · rintro ⟨⟨k, v⟩, hmem, rfl⟩
    exact ⟨v, m.mem_entries_iff.mp hmem⟩
  · rintro ⟨v, hfind⟩
    exact ⟨(key, v), m.mem_entries_iff.mpr hfind, rfl⟩

/-- The entries under some of the keys are what is found under them. -/
theorem filter_entries_congr {m n : Keyed α} {p : String → Bool}
    (same : ∀ key, p key = true → m.find? key = n.find? key) :
    (m.entries.filter fun entry => p entry.1) = n.entries.filter fun entry => p entry.1 := by
  -- both lists ascend strictly, so it is enough that they have the same members
  have : Std.Irrefl fun x y : String × α => x.1 < y.1 := ⟨fun x => lt_irrefl x.1⟩
  have : Std.Antisymm fun x y : String × α => x.1 < y.1 :=
    ⟨fun x y hxy hyx => absurd hyx (lt_asymm hxy)⟩
  refine List.Pairwise.eq_of_mem_iff (m.ascending.sublist List.filter_sublist)
    (n.ascending.sublist List.filter_sublist) ?_
  rintro ⟨key, value⟩
  rw [List.mem_filter, List.mem_filter, mem_entries_iff, mem_entries_iff]
  constructor
  · rintro ⟨found, hp⟩
    exact ⟨same key hp ▸ found, hp⟩
  · rintro ⟨found, hp⟩
    exact ⟨(same key hp).symm ▸ found, hp⟩

/-- A map is what it finds. -/
theorem ext_find? {m n : Keyed α} (same : ∀ key, m.find? key = n.find? key) : m = n := by
  have filtered := filter_entries_congr (p := fun _ => true) fun key _ => same key
  rw [List.filter_true, List.filter_true] at filtered
  exact ext filtered

theorem ofList_append_singleton (entries : List (String × α)) (key : String) (value : α) :
    ofList (entries ++ [(key, value)]) = (ofList entries).insert key value := by
  simp only [ofList, List.foldl_append, List.foldl_cons, List.foldl_nil]

/-- Of entries with distinct keys none replaces another. -/
theorem find?_ofList_eq_some_iff {entries : List (String × α)}
    (distinct : (entries.map Prod.fst).Nodup) {key : String} {value : α} :
    (ofList entries).find? key = some value ↔ (key, value) ∈ entries := by
  induction entries using List.reverseRecOn generalizing key value with
  | nil => simp [ofList]
  | append_singleton rest last ih =>
    obtain ⟨k, v⟩ := last
    rw [List.map_append, List.nodup_append] at distinct
    obtain ⟨ofRest, -, apart⟩ := distinct
    have absent : (ofList rest).contains k = false := by
      rw [contains, Option.isSome_eq_false_iff, Option.isNone_iff_eq_none,
        Option.eq_none_iff_forall_ne_some]
      intro w found
      exact apart k (List.mem_map_of_mem ((ih ofRest).mp found)) k (by simp) rfl
    rw [ofList_append_singleton, find?_insert_eq_some_iff absent, List.mem_append,
      List.mem_singleton, Prod.mk.injEq]
    exact or_congr (ih ofRest) (and_congr_right fun _ => eq_comm)

/-! ## Of several values for a key the last one counts -/

section

variable {β : Type} (keyOf : β → String) (valueOf? : β → Option α)

/-- The values that items give, each under the key of its item. -/
def gather (items : List β) : Keyed α :=
  ofList (items.filterMap fun x => (valueOf? x).map fun value => (keyOf x, value))

/-- One item more overwrites what is under its key, provided that it gives a value. -/
theorem find?_gather_append_singleton (items : List β) (last : β) (key : String) :
    (gather keyOf valueOf? (items ++ [last])).find? key =
      (if keyOf last = key then valueOf? last else none).or
        ((gather keyOf valueOf? items).find? key) := by
  unfold gather
  rw [List.filterMap_append]
  cases hvalue : valueOf? last with
  | none => simp [hvalue]
  | some value =>
    rw [List.filterMap_cons_some (by rw [hvalue]; rfl), List.filterMap_nil,
      ofList_append_singleton, find?_insert]
    by_cases same : key = keyOf last
    · simp [same]
    · rw [if_neg same, if_neg (Ne.symm same), Option.none_or]

theorem find?_gather (items : List β) (key : String) :
    (gather keyOf valueOf? items).find? key =
      items.reverse.findSome? fun x => if keyOf x = key then valueOf? x else none := by
  -- from the end: of the reversed list the last item is looked at first
  induction items using List.reverseRecOn with
  | nil => rfl
  | append_singleton items last ih =>
    rw [find?_gather_append_singleton, ih, List.reverse_append, List.reverse_singleton,
      List.singleton_append, List.findSome?_cons]
    cases (if keyOf last = key then valueOf? last else none) <;> rfl

variable {keyOf valueOf?}

theorem find?_gather_eq_some_iff {items : List β} {key : String} {value : α} :
    (gather keyOf valueOf? items).find? key = some value ↔
      ∃ before x after, items = before ++ x :: after ∧ keyOf x = key ∧ valueOf? x = some value ∧
        ∀ y ∈ after, keyOf y = key → valueOf? y = none := by
  rw [find?_gather, List.findSome?_eq_some_iff]
  simp only [Option.ite_none_right_eq_some, ite_eq_right_iff]
  constructor
  · rintro ⟨after, x, before, hitems, ⟨hkey, hvalue⟩, noneAfter⟩
    refine ⟨before.reverse, x, after.reverse, ?_, hkey, hvalue, fun y hy => ?_⟩
    · simpa using congrArg List.reverse hitems
    · exact noneAfter y (List.mem_reverse.mp hy)
  · rintro ⟨before, x, after, hitems, hkey, hvalue, noneAfter⟩
    refine ⟨after.reverse, x, before.reverse, ?_, ⟨hkey, hvalue⟩, fun y hy => ?_⟩
    · simp [hitems]
    · exact noneAfter y (List.mem_reverse.mp hy)

theorem find?_gather_eq_none_iff {items : List β} {key : String} :
    (gather keyOf valueOf? items).find? key = none ↔
      ∀ x ∈ items, keyOf x = key → valueOf? x = none := by
  simp only [find?_gather, List.findSome?_eq_none_iff, List.mem_reverse, ite_eq_right_iff]

/-- What is found under a key depends only on the items with that key. -/
theorem find?_gather_filter (items : List β) (key : String) :
    (gather keyOf valueOf? (items.filter fun x => keyOf x = key)).find? key =
      (gather keyOf valueOf? items).find? key := by
  induction items using List.reverseRecOn with
  | nil => rfl
  | append_singleton items last ih =>
    rw [find?_gather_append_singleton, List.filter_append]
    by_cases same : keyOf last = key
    · rw [List.filter_cons_of_pos (by simpa using same), List.filter_nil,
        find?_gather_append_singleton, ih]
    · rw [List.filter_cons_of_neg (by simpa using same), List.filter_nil, List.append_nil, ih,
        if_neg same, Option.none_or]

/-- Items may be moved past items with other keys. -/
theorem gather_congr {items items' : List β}
    (same : ∀ key, (items.filter fun x => keyOf x = key) = items'.filter fun x => keyOf x = key) :
    gather keyOf valueOf? items = gather keyOf valueOf? items' := by
  refine ext_find? fun key => ?_
  rw [← find?_gather_filter, same, find?_gather_filter]

/-- An item that gives no value might as well not be there. -/
theorem gather_dropped {x : β} (nothing : valueOf? x = none) (before after : List β) :
    gather keyOf valueOf? (before ++ x :: after) = gather keyOf valueOf? (before ++ after) := by
  simp [gather, nothing]

end

end ReportRules.Keyed
