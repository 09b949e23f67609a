import Mathlib.Data.List.Perm.Basic
import ReportRules.Json.Codec
import ReportRules.Proofs.Json.Trimmed
import ReportRules.Proofs.Keyed
import ReportRules.Proofs.Outcome

/-!
# ReportRules.Proofs.Json.Tidy -- values as they are read

Reading puts the members of every object into ascending order and keeps one of each key, so every
value that is read is `Tidy`. A tidy value is kept as it is, in whatever order its members are
written (`keep_of_trimmed`), and so is a form record, which is the top level of one
(`record_decode`).
-/

namespace ReportRules.Json

open Outcome (bind_eq_ok_iff)

mutual
/-- Whether the members of all objects are in strictly ascending order. -/
def Tidy : Json → Prop
  | .arr items => TidyItems items
  | .obj members => members.Pairwise (fun a b => a.1 < b.1) ∧ TidyMembers members
  | .null | .bool _ | .num _ | .str _ => True

/-- The same for the elements of an array. -/
def TidyItems : List Json → Prop
  | [] => True
  | x :: rest => Tidy x ∧ TidyItems rest

/-- The same for the values of members. -/
def TidyMembers : List (String × Json) → Prop
  | [] => True
  | (_, x) :: rest => Tidy x ∧ TidyMembers rest
end

theorem tidy_null : Tidy null :=
  trivial

theorem tidyMembers_iff {members : List (String × Json)} :
    TidyMembers members ↔ ∀ m ∈ members, m.2.Tidy := by
  induction members with
  | nil => exact ⟨fun _ _ h => (List.not_mem_nil h).elim, fun _ => trivial⟩
  | cons m rest ih => rw [List.forall_mem_cons, ← ih]; rfl

theorem nodup_of_ascending {entries : List (String × Json)}
    (h : entries.Pairwise (fun a b => a.1 < b.1)) : (entries.map Prod.fst).Nodup :=
  List.pairwise_map.mpr (h.imp fun before => ne_of_lt before)

mutual
theorem Tidy.distinct : ∀ {j : Json}, j.Tidy → j.Distinct
  | .null, _ | .bool _, _ | .num _, _ | .str _, _ => trivial
  | .arr _, h => TidyItems.distinct h
  | .obj _, h => ⟨nodup_of_ascending h.1, TidyMembers.distinct h.2⟩

theorem TidyItems.distinct : ∀ {items : List Json}, TidyItems items → DistinctItems items
  | [], _ => trivial
  | _ :: _, h => ⟨Tidy.distinct h.1, TidyItems.distinct h.2⟩

theorem TidyMembers.distinct :
    ∀ {members : List (String × Json)}, TidyMembers members → DistinctMembers members
  | [], _ => trivial
  | _ :: _, h => ⟨Tidy.distinct h.1, TidyMembers.distinct h.2⟩
end

/-! ## What is read is tidy -/

/-- Tidy members stay so when one more is put in. -/
theorem tidy_insertEntry {key : String} {x : Json} {entries : List (String × Json)}
    (hx : x.Tidy) (h : (Json.obj entries).Tidy) :
    (Json.obj (Keyed.insertEntry key x entries)).Tidy := by
  refine ⟨Keyed.pairwise_insertEntry key x h.1, tidyMembers_iff.mpr fun m hm => ?_⟩
  rcases Keyed.mem_insertEntry hm with rfl | hm
  · exact hx
  · exact tidyMembers_iff.mp h.2 m hm

namespace Document

/-- A list that ends with its bracket gives what its elements give, and any other gives nothing. -/
theorem eq_of_closing {α ε : Type} {value result : α} {refusal : Fault → ε} {ending : Ending}
    (h : (match ending with
      | .closed => Except.ok value
      | .broken wanted _ | .afterComma wanted _ => Except.error (refusal wanted)) =
        Except.ok result) :
    value = result := by
  cases ending with
  | closed => exact Except.ok.inj h
  | broken _ _ | afterComma _ _ => cases h

mutual
theorem tidy_of_keep : ∀ {d : Document} {j : Json}, keep d = .ok j → j.Tidy
  | .null, _, h | .bool _, _, h | .num _, _, h | .str _, _, h => by
    cases h
    trivial
  | .broken _ _ _, _, h | .lax _ _, _, h => nomatch h
  | .arr items ending, j, h => by
    unfold keep at h
    obtain ⟨values, kept, closing⟩ := bind_eq_ok_iff.mp h
    obtain rfl := eq_of_closing closing
    exact tidy_of_keepItems kept
  | .obj members ending, j, h => by
    unfold keep at h
    obtain ⟨entries, kept, closing⟩ := bind_eq_ok_iff.mp h
    obtain rfl := eq_of_closing closing
    exact tidy_of_keepMembers ⟨.nil, trivial⟩ kept

theorem tidy_of_keepItems :
    ∀ {items : List Document} {values : List Json}, keepItems items = .ok values → TidyItems values
  | [], _, h => by
    cases h
    trivial
  | d :: rest, _, h => by
    unfold keepItems at h
    obtain ⟨value, first, h⟩ := bind_eq_ok_iff.mp h
    obtain ⟨values, others, h⟩ := bind_eq_ok_iff.mp h
    cases h
    exact ⟨tidy_of_keep first, tidy_of_keepItems others⟩

theorem tidy_of_keepMembers :
    ∀ {members : List (Key × Document)} {entries entries' : List (String × Json)},
      (Json.obj entries).Tidy → keepMembers members entries = .ok entries' →
        (Json.obj entries').Tidy
  | [], _, _, tidy, h => by
    cases h
    exact tidy
  | (.spoilt _, _) :: _, _, _, _, h => nomatch h
  | (.text key, d) :: rest, entries, _, tidy, h => by
    unfold keepMembers at h
    obtain ⟨value, first, h⟩ := bind_eq_ok_iff.mp h
    exact tidy_of_keepMembers (tidy_insertEntry (tidy_of_keep first) tidy) h
end

end Document

/-! ## What is tidy is kept -/

/-- A member that is kept as the member `m` where it is written as `n`. -/
def KeptAs (m n : String × Json) : Prop :=
  n.1 = m.1 ∧ (Document.ofJson n.2).keep = .ok m.2

theorem keepMembers_of_keptAs {ms ns : List (String × Json)} (h : List.Forall₂ KeptAs ms ns)
    (entries : List (String × Json)) :
    Document.keepMembers (Document.ofMembers ns) entries =
      .ok (ms.foldl (fun entries m => Keyed.insertEntry m.1 m.2 entries) entries) := by
  induction h generalizing entries with
  | nil => rfl
  | @cons m n ms ns first _ ih =>
    obtain ⟨key, x⟩ := m
    obtain ⟨key', y⟩ := n
    obtain ⟨rfl, kept⟩ := first
    simp only [Document.ofMembers, Document.keepMembers, kept, List.foldl_cons]
    exact ih _

theorem entries_ofList (entries : List (String × Json)) :
    (Keyed.ofList entries).entries =
      entries.foldl (fun entries m => Keyed.insertEntry m.1 m.2 entries) [] := by
  have step : ∀ (entries : List (String × Json)) (m : Keyed Json),
      (entries.foldl (fun m entry => m.insert entry.1 entry.2) m).entries =
        entries.foldl (fun entries m => Keyed.insertEntry m.1 m.2 entries) m.entries := by
    intro entries
    induction entries with
    | nil => exact fun _ => rfl
    | cons entry rest ih => exact fun m => ih _
  exact step entries .empty

/-- A map is put together from its entries in any order. -/
theorem ofList_of_perm {m : Keyed Json} {entries : List (String × Json)}
    (order : m.entries.Perm entries) : Keyed.ofList entries = m := by
  have distinct : (entries.map Prod.fst).Nodup :=
    (order.map Prod.fst).nodup (nodup_of_ascending m.ascending)
  refine Keyed.ext_find? fun key => Option.ext fun value => ?_
  rw [Keyed.find?_ofList_eq_some_iff distinct, ← order.mem_iff, Keyed.mem_entries_iff]

theorem forall₂_perm {R : String × Json → String × Json → Prop} {ms ns ns' : List (String × Json)}
    (h : List.Forall₂ R ms ns) (order : ns.Perm ns') :
    ∃ ms', ms.Perm ms' ∧ List.Forall₂ R ms' ns' := by
  have both : Relation.Comp (List.Forall₂ R) List.Perm ms ns' := ⟨ns, h, order⟩
  rwa [List.forall₂_comp_perm_eq_perm_comp_forall₂] at both

mutual
/-- A tidy value is kept as it is, in whatever order its members are written. -/
theorem keep_of_trimmed : ∀ {j j' : Json}, j.Tidy → Trimmed .plain j j' →
    (Document.ofJson j').keep = .ok j
  | .null, _, _, .null | .bool _, _, _, .bool _ | .num _, _, _, .num _ | .str _, _, _, .str _ => rfl
  | .arr xs, _, tidy, .arr items => by
    unfold Document.ofJson Document.keep
    rw [keepItems_of_trimmed tidy items]
    rfl
  | .obj ms, _, tidy, .obj members order => by
    -- the order of the written members reaches the kept ones, where putting them in forgets it
    obtain ⟨ms', order', kept⟩ := forall₂_perm (keptAs_of_trimmed tidy.2 members) order
    have put : Keyed.ofList ms' = ⟨ms, tidy.1⟩ := ofList_of_perm order'
    have entries : ms'.foldl (fun entries m => Keyed.insertEntry m.1 m.2 entries) [] = ms := by
      rw [← entries_ofList, put]
    unfold Document.ofJson Document.keep
    rw [keepMembers_of_keptAs kept, entries]
    rfl

theorem keepItems_of_trimmed : ∀ {xs ys : List Json}, TidyItems xs → TrimmedItems .plain xs ys →
    Document.keepItems (Document.ofItems ys) = .ok xs
  | [], _, _, .nil => rfl
  | x :: xs, _, tidy, .cons first rest => by
    unfold Document.ofItems Document.keepItems
    rw [keep_of_trimmed tidy.1 first, keepItems_of_trimmed tidy.2 rest]
    rfl

theorem keptAs_of_trimmed : ∀ {ms ns : List (String × Json)}, TidyMembers ms →
    TrimmedMembers .plain ms ns → List.Forall₂ KeptAs ms ns
  | [], _, _, .nil => .nil
  | (_, _) :: _, _, tidy, .keep first rest =>
    .cons ⟨rfl, keep_of_trimmed tidy.1 first⟩ (keptAs_of_trimmed tidy.2 rest)
  | (_, _) :: _, _, _, .drop default _ => nomatch default
end

/-! ## Every value is kept as something -/

mutual
theorem exists_keep_ofJson : ∀ j : Json, ∃ value, (Document.ofJson j).keep = .ok value
  | .null | .bool _ | .num _ | .str _ => ⟨_, rfl⟩
  | .arr items => by
    obtain ⟨values, kept⟩ := exists_keepItems_ofItems items
    exact ⟨.arr values, bind_eq_ok_iff.mpr ⟨values, kept, rfl⟩⟩
  | .obj members => by
    obtain ⟨entries, kept⟩ := exists_keepMembers_ofMembers members []
    exact ⟨.obj entries, bind_eq_ok_iff.mpr ⟨entries, kept, rfl⟩⟩

theorem exists_keepItems_ofItems :
    ∀ items : List Json, ∃ values, Document.keepItems (Document.ofItems items) = .ok values
  | [] => ⟨[], rfl⟩
  | x :: rest => by
    obtain ⟨value, kept⟩ := exists_keep_ofJson x
    obtain ⟨values, others⟩ := exists_keepItems_ofItems rest
    exact ⟨value :: values,
      bind_eq_ok_iff.mpr ⟨value, kept, bind_eq_ok_iff.mpr ⟨values, others, rfl⟩⟩⟩

theorem exists_keepMembers_ofMembers :
    ∀ (members entries : List (String × Json)),
      ∃ entries', Document.keepMembers (Document.ofMembers members) entries = .ok entries'
  | [], entries => ⟨entries, rfl⟩
  | (key, x) :: rest, entries => by
    obtain ⟨value, kept⟩ := exists_keep_ofJson x
    obtain ⟨entries', others⟩ :=
      exists_keepMembers_ofMembers rest (Keyed.insertEntry key value entries)
    exact ⟨entries', bind_eq_ok_iff.mpr ⟨value, kept, others⟩⟩
end

end ReportRules.Json
