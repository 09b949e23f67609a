import ReportRules.Proofs.Json.Numbers
import ReportRules.Proofs.Json.Tidy

/-!
# ReportRules.Proofs.Json.Survival -- what survives its JSON form

A value *survives* with a codec when it is read back from what was written for it, also after
members that hold their default were left out, and in whatever order the members stand. Not every
value of a type does: a double has to be finite, a count has to fit into its bits, and arbitrary
JSON has to be tidy. `Codec.Yields` says that a decoder gives nothing but such values, so that what
was read once survives ever after.

Both are proved codec by codec. What they say about structures with named fields is put together in
`ReportRules.Proofs.Json.Fields`.
-/

namespace ReportRules.Json

open Outcome (bind_eq_ok_iff map_eq_ok_iff mapM_eq_ok_iff exists_of_mem_mapM)

variable {α β : Type}

namespace Codec

/-- A value is read back from what is written for it, trimmed as an object of part `p` may be. -/
structure Survives (c : Codec α) (p : Part) (x : α) : Prop where
  distinct : (c.encode x).Distinct
  reads : ∀ {j : Json}, Trimmed p (c.encode x) j → c.decode (.ofJson j) = .ok x

/-- What is read off a document with fitting numbers has a property. -/
def Yields (c : Codec α) (P : α → Prop) : Prop :=
  ∀ {d : Document} {x : α}, d.NumbersFit → c.decode d = .ok x → P x

theorem Survives.keeps {c : Codec α} {p : Part} {x : α} (h : c.Survives p x) : c.Keeps x :=
  h.reads (Trimmed.refl p _)

theorem Survives.ordered {c : Codec α} {p : Part} {x : α} (h : c.Survives p x) :
    c.decode (.ofJson (c.encode x).ordered) = .ok x :=
  h.reads (trimmed_ordered p h.distinct)

/-- A value that is written as a scalar survives if it is kept. -/
theorem Keeps.survives {c : Codec α} {x : α} (h : c.Keeps x)
    (scalar : (c.encode x).isScalar = true) (p : Part) : c.Survives p x := by
  refine ⟨distinct_of_isScalar scalar, fun trimmed => ?_⟩
  rw [trimmed.eq_of_isScalar scalar]
  exact h

/-- Where nothing may be left out there is less to survive. -/
theorem Survives.plain {c : Codec α} {p : Part} {x : α} (h : c.Survives p x) :
    c.Survives .plain x :=
  ⟨h.distinct, fun trimmed => h.reads trimmed.of_plain⟩

theorem yields_any (c : Codec α) : c.Yields fun _ => True :=
  fun _ _ => trivial

/-! ## Texts, truth values and numbers -/

theorem survives_text (p : Part) (s : String) : text.Survives p s :=
  Keeps.survives (show text.Keeps s from rfl) rfl p

theorem survives_bool (p : Part) (b : Bool) : bool.Survives p b :=
  Keeps.survives (show bool.Keeps b from rfl) rfl p

theorem survives_double {x : Float} (finite : x.isFinite = true) (p : Part) :
    double.Survives p x := by
  have written : double.encode x = .num (.float x) := if_pos finite
  refine Keeps.survives ?_ ?_ p
  · show Decoder.double (.ofJson (double.encode x)) = .ok x
    rw [written]
    rfl
  · rw [written]
    rfl

theorem yields_double : double.Yields fun x => x.isFinite = true := by
  intro d x fit decoded
  cases d with
  | num n =>
    cases decoded
    exact Number.Fits.isFinite_toFloat fit
  | null | bool _ | str _ | arr _ _ | obj _ _ | broken _ _ _ | lax _ _ => cases decoded

theorem integer_num {kind : String} {low high n : Int} (inside : low ≤ n ∧ n ≤ high) :
    Decoder.integer kind low high (.num (.int n)) = .ok n :=
  if_pos inside

theorem natural_num {kind : String} {bound n : Nat} (small : n < bound) :
    Decoder.natural kind bound (.num (.int n)) = .ok n := by
  unfold Decoder.natural
  rw [integer_num ⟨by omega, by omega⟩]
  rfl

theorem integer_eq_ok {kind : String} {low high n : Int} {d : Document}
    (h : Decoder.integer kind low high d = .ok n) : low ≤ n ∧ n ≤ high := by
  cases d with
  | num m =>
    cases m with
    | int m =>
      by_cases inside : low ≤ m ∧ m ≤ high
      · rw [integer_num inside] at h
        cases h
        exact inside
      · have refused : Decoder.integer kind low high (.num (.int m)) =
            mismatched (.invalidValue (.num (.int m)) kind) := if_neg inside
        rw [refused] at h
        cases h
    | float x => cases h
  | null | bool _ | str _ | arr _ _ | obj _ _ | broken _ _ _ | lax _ _ => cases h

theorem natural_eq_ok {kind : String} {bound n : Nat} {d : Document}
    (h : Decoder.natural kind bound d = .ok n) : n < bound := by
  obtain ⟨m, inside, rfl⟩ := map_eq_ok_iff.mp h
  have := integer_eq_ok inside
  omega

theorem survives_word32 {n : Nat} (small : n < 2 ^ 32) (p : Part) : word32.Survives p n :=
  Keeps.survives (show word32.Keeps n from natural_num small) rfl p

theorem yields_word32 : word32.Yields fun n => n < 2 ^ 32 :=
  fun _ decoded => natural_eq_ok decoded

theorem survives_position {n : Nat} (small : n < 2 ^ 64) (p : Part) : position.Survives p n :=
  Keeps.survives (show position.Keeps n from natural_num small) rfl p

theorem survives_signed64 {n : Int} (inside : -2 ^ 63 ≤ n ∧ n ≤ 2 ^ 63 - 1) (p : Part) :
    signed64.Survives p n :=
  Keeps.survives (show signed64.Keeps n from integer_num inside) rfl p

theorem yields_signed64 : signed64.Yields fun n => -2 ^ 63 ≤ n ∧ n ≤ 2 ^ 63 - 1 :=
  fun _ decoded => integer_eq_ok decoded

/-! ## Names -/

theorem survives_choice {all : List α} {name : α → String} {x : α}
    (known : (all.map fun x => (name x, x)).lookup (name x) = some x) (p : Part) :
    (choice all name).Survives p x := by
  refine Keeps.survives ?_ rfl p
  show Decoder.named _ none (name x) = .ok x
  unfold Decoder.named
  rw [known]

/-- A value survives if its name is known to stand for it, and the value that takes the names that
are not known survives under a name that is not known itself. -/
theorem survives_openChoice {known : List (String × α)} {fallback : α} {name : α → String} {x : α}
    (stands : (known.lookup (name x)).getD fallback = x) (p : Part) :
    (openChoice known fallback name).Survives p x := by
  refine Keeps.survives ?_ rfl p
  show Decoder.named known (some fallback) (name x) = .ok x
  unfold Decoder.named
  cases found : known.lookup (name x) with
  | none | some _ =>
    rw [found] at stands
    exact congrArg Except.ok stands

/-! ## Arbitrary JSON -/

theorem survives_json {j : Json} (tidy : j.Tidy) : json.Survives .plain j := by
  refine ⟨tidy.distinct, fun trimmed => ?_⟩
  show Decoder.json _ = .ok j
  unfold Decoder.json
  rw [keep_of_trimmed tidy trimmed]

theorem json_eq_ok {d : Document} {j : Json} (h : Decoder.json d = .ok j) : d.keep = .ok j := by
  unfold Decoder.json at h
  split at h
  · rename_i kept
    cases h
    exact kept
  · cases h

theorem yields_json : json.Yields Tidy :=
  fun _ decoded => Document.tidy_of_keep (json_eq_ok decoded)

/-! ## Form records -/

theorem ofMembers_eq_map (members : List (String × Json)) :
    Document.ofMembers members = members.map fun m => (.text m.1, .ofJson m.2) := by
  induction members with
  | nil => rfl
  | cons m rest ih => rw [List.map_cons, ← ih]; rfl

theorem survives_record {r : Keyed Json} (tidy : ∀ entry ∈ r.entries, entry.2.Tidy) :
    record.Survives .plain r := by
  have tidy : (Json.obj r.entries).Tidy := ⟨r.ascending, tidyMembers_iff.mpr tidy⟩
  refine ⟨tidy.distinct, fun trimmed => ?_⟩
  cases trimmed with
  | obj members order =>
    obtain ⟨entries, order', kept⟩ := forall₂_perm (keptAs_of_trimmed tidy.2 members) order
    show Decoder.record (.obj (Document.ofMembers _) .closed) = .ok r
    unfold Decoder.record
    refine bind_eq_ok_iff.mpr ⟨entries, ?_, congrArg Except.ok (ofList_of_perm order')⟩
    rw [ofMembers_eq_map, List.mapM_map, mapM_eq_ok_iff]
    refine kept.flip.imp ?_
    rintro ⟨key, y⟩ ⟨key', x⟩ ⟨rfl, kept⟩
    have decoded : Decoder.json (.ofJson y) = .ok x := by
      unfold Decoder.json
      rw [kept]
    exact map_eq_ok_iff.mpr ⟨x, decoded, rfl⟩

theorem mem_of_mem_ofList {entries : List (String × Json)} {entry : String × Json}
    (h : entry ∈ (Keyed.ofList entries).entries) : entry ∈ entries := by
  rw [entries_ofList] at h
  -- from the end, because every entry is put into the map of those before it
  induction entries using List.reverseRecOn with
  | nil => exact h
  | append_singleton rest last ih =>
    rw [List.foldl_append] at h
    rcases Keyed.mem_insertEntry h with rfl | h
    · exact List.mem_append_right rest List.mem_cons_self
    · exact List.mem_append_left [last] (ih h)

theorem yields_record : record.Yields fun r => ∀ entry ∈ r.entries, entry.2.Tidy := by
  intro d r _ decoded
  cases d with
  | obj members ending =>
    obtain ⟨entries, read, closing⟩ := bind_eq_ok_iff.mp decoded
    obtain rfl := Document.eq_of_closing closing
    intro entry present
    obtain ⟨⟨key, d⟩, -, h⟩ := exists_of_mem_mapM read (mem_of_mem_ofList present)
    cases key with
    | spoilt fault => cases h
    | text k =>
      obtain ⟨j, decoded, rfl⟩ := map_eq_ok_iff.mp h
      exact Document.tidy_of_keep (json_eq_ok decoded)
  | null | bool _ | num _ | str _ | arr _ _ | broken _ _ _ | lax _ _ => cases decoded

/-! ## Lists and values that may be absent -/

theorem trimmedItems_map {c : Codec α} {p : Part} {xs : List α} {ys : List Json}
    (h : TrimmedItems p (xs.map c.encode) ys) (all : ∀ x ∈ xs, c.Survives p x) :
    (Document.ofItems ys).mapM c.decode = .ok xs := by
  induction xs generalizing ys with
  | nil =>
    cases h
    rfl
  | cons x xs ih =>
    cases h with
    | cons first rest =>
      rw [List.forall_mem_cons] at all
      rw [Document.ofItems, List.mapM_cons, all.1.reads first, ih rest all.2]
      rfl

theorem survives_list {c : Codec α} {p : Part} {xs : List α} (all : ∀ x ∈ xs, c.Survives p x) :
    c.list.Survives p xs := by
  constructor
  · refine distinctItems_iff.mpr ?_
    rw [List.forall_mem_map]
    exact fun x hx => (all x hx).distinct
  · intro j trimmed
    cases trimmed with
    | arr items =>
      exact bind_eq_ok_iff.mpr ⟨xs, trimmedItems_map items all, rfl⟩

theorem eq_nil_of_encode {c : Codec α} {xs : List α} (h : .arr [] = c.list.encode xs) :
    [] = xs := by
  cases xs with
  | nil => rfl
  | cons x xs => cases h

theorem Yields.list {c : Codec α} {P : α → Prop} (h : c.Yields P) :
    c.list.Yields fun xs => ∀ x ∈ xs, P x := by
  intro d xs fit decoded
  cases d with
  | arr items ending =>
    obtain ⟨values, read, closing⟩ := bind_eq_ok_iff.mp decoded
    obtain rfl := Document.eq_of_closing closing
    intro x present
    obtain ⟨item, among, decoded⟩ := exists_of_mem_mapM read present
    exact h (Document.itemsFit_iff.mp fit item among) decoded
  | null | bool _ | num _ | str _ | obj _ _ | broken _ _ _ | lax _ _ => cases decoded

theorem survives_none (c : Codec α) (p : Part) : c.optional.Survives p none :=
  Keeps.survives (show c.optional.Keeps none from rfl) rfl p

theorem survives_some {c : Codec α} {p : Part} {x : α} (h : c.Survives p x)
    (present : (c.encode x).isNull = false) : c.optional.Survives p (some x) := by
  refine ⟨h.distinct, fun {j} trimmed => ?_⟩
  have decoded := h.reads trimmed
  -- trimming never makes `null` of anything else, so the inner decoder is asked
  have other : c.decode.optional (.ofJson j) = (c.decode (.ofJson j)).map some := by
    change Trimmed p (c.encode x) j at trimmed
    cases written : c.encode x with
    | null => rw [written] at present; cases present
    | bool _ | num _ | str _ | arr _ | obj _ =>
      rw [written] at trimmed
      cases trimmed
      rfl
  show c.decode.optional (.ofJson j) = .ok (some x)
  rw [other, decoded]
  rfl

/-- What is not absent was read off a document other than `null`. -/
theorem of_optional_eq_some {c : Codec α} {d : Document} {x : α}
    (h : c.optional.decode d = .ok (some x)) : d ≠ .null ∧ c.decode d = .ok x := by
  change c.decode.optional d = .ok (some x) at h
  unfold Decoder.optional at h
  split at h
  · cases h
  · cases h
  · rename_i notNull _
    obtain ⟨y, decoded, same⟩ := map_eq_ok_iff.mp h
    cases same
    exact ⟨notNull, decoded⟩

theorem Yields.optional {c : Codec α} {P : α → Prop} (h : c.Yields P) :
    c.optional.Yields fun o => ∀ x, o = some x → P x := by
  rintro d _ fit decoded x rfl
  exact h fit (of_optional_eq_some decoded).2

theorem eq_null_of_keep {d : Document} (h : d.keep = .ok .null) : d = .null := by
  cases d with
  | null => rfl
  | arr items ending | obj members ending =>
    unfold Document.keep at h
    obtain ⟨values, -, closing⟩ := bind_eq_ok_iff.mp h
    cases Document.eq_of_closing closing
  | bool _ | num _ | str _ | broken _ _ _ | lax _ _ => cases h

/-- Arbitrary JSON that may be absent is not `null` where it is there. -/
theorem yields_optional_json :
    json.optional.Yields fun o => ∀ j, o = some j → j.Tidy ∧ j.isNull = false := by
  rintro d _ fit decoded j rfl
  obtain ⟨notNull, decoded⟩ := of_optional_eq_some decoded
  have kept := json_eq_ok decoded
  refine ⟨Document.tidy_of_keep kept, ?_⟩
  cases j with
  | null => exact absurd (eq_null_of_keep kept) notNull
  | bool _ | num _ | str _ | arr _ | obj _ => rfl

end Codec

end ReportRules.Json
