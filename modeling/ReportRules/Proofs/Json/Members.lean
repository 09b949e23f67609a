import Mathlib.Data.List.Perm.Basic
import ReportRules.Json.Shape
import ReportRules.Proofs.Outcome

/-!
# ReportRules.Proofs.Json.Members -- members in any order

Reading an object visits its members in the order of the text. Fields of different names can be read
in either order (`Shape.Orderly`), so members with distinct keys can (`members_perm`). Two shapes
with different names do not get in each other's way: what each of them reads by itself they read
side by side (`members_and_left`, `members_and_right`), and the other way round (`members_of_and`).
-/

namespace ReportRules.Json

open Outcome (bind_eq_ok_iff map_eq_ok_iff)

variable {α β : Type}

namespace Document

mutual
/-- A value can always be passed over. -/
theorem pass_ofJson : ∀ j : Json, (ofJson j).pass = .ok ()
  | .null | .bool _ | .num _ | .str _ => rfl
  | .arr items => by
    unfold ofJson pass
    rw [passItems_ofItems items]
    rfl
  | .obj members => by
    unfold ofJson pass
    rw [passMembers_ofMembers members]
    rfl

theorem passItems_ofItems : ∀ items : List Json, passItems (ofItems items) = .ok ()
  | [] => rfl
  | x :: rest => by
    unfold ofItems passItems
    rw [pass_ofJson x]
    exact passItems_ofItems rest

theorem passMembers_ofMembers :
    ∀ members : List (String × Json), passMembers (ofMembers members) = .ok ()
  | [] => rfl
  | (_, x) :: rest => by
    unfold ofMembers passMembers
    rw [pass_ofJson x]
    exact passMembers_ofMembers rest
end

end Document

namespace Shape

open Document (ofMembers)

/-- Whether a field has that name. -/
def knows (a : Shape α) (key : String) : Bool :=
  (a.accept? key .null a.start).isSome

/-- A member is read into its slot. -/
def Accepts (a : Shape α) (key : String) (d : Document) (slots slots' : a.Slots) : Prop :=
  a.accept? key d slots = some (.ok slots')

/-- A shape whose fields do not depend on each other: which names it has does not change while it is
read, and members with different names may change places. -/
class Orderly (a : Shape α) : Prop where
  isSome_accept? : ∀ (key : String) (d : Document) (slots : a.Slots),
    (a.accept? key d slots).isSome = a.knows key
  swap : ∀ {key key' : String} {d d' : Document} {slots slots₁ slots₂ : a.Slots}, key ≠ key' →
    a.Accepts key d slots slots₁ → a.Accepts key' d' slots₁ slots₂ →
      ∃ slots₁', a.Accepts key' d' slots slots₁' ∧ a.Accepts key d slots₁' slots₂

theorem accept?_eq_none {a : Shape α} [a.Orderly] {key : String} (unknown : a.knows key = false)
    (d : Document) (slots : a.Slots) : a.accept? key d slots = none := by
  rw [← Option.isNone_iff_eq_none, ← Option.isSome_eq_false_iff, Orderly.isSome_accept?, unknown]

theorem Accepts.knows {a : Shape α} [a.Orderly] {key : String} {d : Document}
    {slots slots' : a.Slots} (h : a.Accepts key d slots slots') : a.knows key = true := by
  rw [← Orderly.isSome_accept? key d slots, h]
  rfl

/-! ## Fields -/

theorem knows_field {name key : String} {c : Codec α} {missing short : Option α}
    {shown : α → Bool} : (field name c missing short shown).knows key = decide (key = name) := by
  unfold Shape.knows field
  by_cases h : key = name <;> simp [h]

theorem accepts_field_iff {name key : String} {c : Codec α} {missing short : Option α}
    {shown : α → Bool} {d : Document} {slot slot' : Option α} :
    (field name c missing short shown).Accepts key d slot slot' ↔
      key = name ∧ slot = none ∧ ∃ x, c.decode d = .ok x ∧ slot' = some x := by
  unfold Accepts field
  by_cases same : key = name
  · cases slot with
    | some x => simp [same, mismatched]
    | none =>
      simp only [same, if_true, Option.some.injEq, true_and]
      rw [map_eq_ok_iff]
      simp only [eq_comm]
  · simp [same]

instance orderly_field (name : String) (c : Codec α) (missing short : Option α)
    (shown : α → Bool) : (field name c missing short shown).Orderly where
  isSome_accept? key d slots := by
    rw [knows_field]
    unfold field
    by_cases h : key = name <;> simp [h]
  swap different first second :=
    absurd ((accepts_field_iff.mp first).1.trans (accepts_field_iff.mp second).1.symm) different

instance orderly_required (name : String) (c : Codec α) : (required name c).Orderly :=
  orderly_field ..

instance orderly_defaulted (name : String) (c : Codec α) (value : α) :
    (defaulted name c value).Orderly :=
  orderly_field ..

instance orderly_optional (name : String) (c : Codec α) : (optional name c).Orderly :=
  orderly_field ..

instance orderly_placed (name : String) (c : Codec α) : (placed name c).Orderly :=
  orderly_field ..

/-! ## Fields side by side -/

section And

variable {a : Shape α} {b : Shape β} {key : String} {d : Document} {s s' : a.Slots}
  {t t' : b.Slots}

theorem accept?_and_of_some {result : Except DecodeError a.Slots}
    (h : a.accept? key d s = some result) :
    (a.and b).accept? key d (s, t) = some (result.map fun first => (first, t)) := by
  simp only [Shape.and, h]

theorem accept?_and_of_none (h : a.accept? key d s = none) :
    (a.and b).accept? key d (s, t) =
      (b.accept? key d t).map fun result => result.map fun second => (s, second) := by
  simp only [Shape.and, h]

variable [a.Orderly]

theorem isSome_accept?_and :
    ((a.and b).accept? key d (s, t)).isSome = (a.knows key || (b.accept? key d t).isSome) := by
  rw [← Orderly.isSome_accept? key d s]
  cases h : a.accept? key d s with
  | some result => rw [accept?_and_of_some h]; rfl
  | none => rw [accept?_and_of_none h]; exact Option.isSome_map

theorem knows_and (key : String) : (a.and b).knows key = (a.knows key || b.knows key) :=
  isSome_accept?_and

/-- A member goes to the first shape that knows it and leaves the slots of the other alone. -/
theorem accepts_and_iff :
    (a.and b).Accepts key d (s, t) (s', t') ↔
      a.Accepts key d s s' ∧ t' = t ∨ a.knows key = false ∧ b.Accepts key d t t' ∧ s' = s := by
  rw [← Orderly.isSome_accept? key d s]
  unfold Accepts
  cases h : a.accept? key d s with
  | some result =>
    constructor
    · intro accepted
      obtain ⟨first, rfl, same⟩ :=
        map_eq_ok_iff.mp (Option.some.inj ((accept?_and_of_some h).symm.trans accepted))
      cases same
      exact .inl ⟨rfl, rfl⟩
    · rintro (⟨accepted, rfl⟩ | ⟨unknown, -⟩)
      · cases accepted
        exact accept?_and_of_some h
      · cases unknown
  | none =>
    constructor
    · intro accepted
      obtain ⟨result, found, same⟩ :=
        Option.map_eq_some_iff.mp ((accept?_and_of_none h).symm.trans accepted)
      obtain ⟨second, rfl, same⟩ := map_eq_ok_iff.mp same
      cases same
      exact .inr ⟨rfl, found, rfl⟩
    · rintro (⟨known, -⟩ | ⟨-, found, rfl⟩)
      · cases known
      · rw [accept?_and_of_none h, found]
        rfl

end And

instance orderly_and (a : Shape α) (b : Shape β) [a.Orderly] [b.Orderly] : (a.and b).Orderly where
  isSome_accept? key d slots := by
    obtain ⟨s, t⟩ := slots
    refine isSome_accept?_and.trans (Eq.trans ?_ isSome_accept?_and.symm)
    rw [Orderly.isSome_accept?]
    rfl
  swap := by
    rintro key key' d d' ⟨s, t⟩ ⟨s₁, t₁⟩ ⟨s₂, t₂⟩ different first second
    -- each of the members belongs to one of the shapes; where it is the same one for both, that
    -- shape lets them change places, and elsewhere they do not meet
    rcases accepts_and_iff.mp first with ⟨ha, rfl⟩ | ⟨unknown, hb, rfl⟩ <;>
      rcases accepts_and_iff.mp second with ⟨ha', rfl⟩ | ⟨unknown', hb', rfl⟩
    · obtain ⟨s₁', ha', ha⟩ := Orderly.swap different ha ha'
      exact ⟨(s₁', _), accepts_and_iff.mpr (.inl ⟨ha', rfl⟩), accepts_and_iff.mpr (.inl ⟨ha, rfl⟩)⟩
    · exact ⟨(s, t₂), accepts_and_iff.mpr (.inr ⟨unknown', hb', rfl⟩),
        accepts_and_iff.mpr (.inl ⟨ha, rfl⟩)⟩
    · exact ⟨(s₂, t), accepts_and_iff.mpr (.inl ⟨ha', rfl⟩),
        accepts_and_iff.mpr (.inr ⟨unknown, hb, rfl⟩)⟩
    · obtain ⟨t₁', hb', hb⟩ := Orderly.swap different hb hb'
      exact ⟨(_, t₁'), accepts_and_iff.mpr (.inr ⟨unknown', hb', rfl⟩),
        accepts_and_iff.mpr (.inr ⟨unknown, hb, rfl⟩)⟩

instance orderly_iso (a : Shape α) (build : α → β) (parts : β → α) [a.Orderly] :
    (a.iso build parts).Orderly where
  isSome_accept? := Orderly.isSome_accept? (a := a)
  swap := Orderly.swap (a := a)

/-! ## Members -/

/-- A member is read: into its slot if a field has its name, and otherwise it is passed over. -/
def Reads (a : Shape α) (m : String × Json) (slots slots' : a.Slots) : Prop :=
  a.Accepts m.1 (.ofJson m.2) slots slots' ∨ a.knows m.1 = false ∧ slots' = slots

section One

variable {a : Shape α} {b : Shape β} [a.Orderly] {m m' : String × Json}

theorem members_cons_eq_ok_iff {ns : List (String × Json)} {slots slots' : a.Slots} :
    a.members (ofMembers (m :: ns)) slots = .ok slots' ↔
      ∃ slots₁, a.Reads m slots slots₁ ∧ a.members (ofMembers ns) slots₁ = .ok slots' := by
  obtain ⟨key, x⟩ := m
  rw [ofMembers, members]
  unfold Reads Accepts
  cases accepted : a.accept? key (.ofJson x) slots with
  | some result =>
    have known : a.knows key = true := by
      rw [← Orderly.isSome_accept? key (.ofJson x) slots, accepted]
      rfl
    simp only [known, Bool.true_eq_false, false_and, or_false, Option.some.injEq]
    exact bind_eq_ok_iff
  | none =>
    have unknown : a.knows key = false := by
      rw [← Orderly.isSome_accept? key (.ofJson x) slots, accepted]
      rfl
    simp only [unknown, Document.pass_ofJson, true_and, reduceCtorEq, false_or, exists_eq_left]

theorem Reads.swap {slots slots₁ slots₂ : a.Slots} (different : m.1 ≠ m'.1)
    (first : a.Reads m slots slots₁) (second : a.Reads m' slots₁ slots₂) :
    ∃ slots₁', a.Reads m' slots slots₁' ∧ a.Reads m slots₁' slots₂ := by
  rcases first with accepted | ⟨unknown, rfl⟩
  · rcases second with accepted' | ⟨unknown', rfl⟩
    · obtain ⟨slots₁', accepted', accepted⟩ := Orderly.swap different accepted accepted'
      exact ⟨slots₁', .inl accepted', .inl accepted⟩
    · exact ⟨slots, .inr ⟨unknown', rfl⟩, .inl accepted⟩
  · exact ⟨slots₂, second, .inr ⟨unknown, rfl⟩⟩

theorem Reads.left {s s' : a.Slots} (h : a.Reads m s s') (known : a.knows m.1 = true)
    (t : b.Slots) : (a.and b).Reads m (s, t) (s', t) := by
  rcases h with accepted | ⟨unknown, -⟩
  · exact .inl (accepts_and_iff.mpr (.inl ⟨accepted, rfl⟩))
  · rw [known] at unknown
    cases unknown

theorem Reads.right [b.Orderly] {t t' : b.Slots} (h : b.Reads m t t')
    (unknown : a.knows m.1 = false) (s : a.Slots) : (a.and b).Reads m (s, t) (s, t') := by
  rcases h with accepted | ⟨unknown', rfl⟩
  · exact .inl (accepts_and_iff.mpr (.inr ⟨unknown, accepted, rfl⟩))
  · refine .inr ⟨isSome_accept?_and.trans ?_, rfl⟩
    rw [unknown, Orderly.isSome_accept?, unknown']
    rfl

end One

section Many

variable {a : Shape α} {b : Shape β} [a.Orderly] {ns : List (String × Json)}

theorem members_append {front back : List (String × Json)} {slots slots₁ slots' : a.Slots}
    (first : a.members (ofMembers front) slots = .ok slots₁)
    (second : a.members (ofMembers back) slots₁ = .ok slots') :
    a.members (ofMembers (front ++ back)) slots = .ok slots' := by
  induction front generalizing slots with
  | nil =>
    cases first
    exact second
  | cons m front ih =>
    obtain ⟨between, read, first⟩ := members_cons_eq_ok_iff.mp first
    exact members_cons_eq_ok_iff.mpr ⟨between, read, ih first⟩

/-- Members with distinct keys may be read in any order. -/
theorem members_perm {ns' : List (String × Json)} (order : ns.Perm ns')
    (distinct : (ns.map Prod.fst).Nodup) {slots slots' : a.Slots}
    (read : a.members (ofMembers ns) slots = .ok slots') :
    a.members (ofMembers ns') slots = .ok slots' := by
  induction order generalizing slots with
  | nil => exact read
  | cons m _ ih =>
    obtain ⟨between, first, read⟩ := members_cons_eq_ok_iff.mp read
    exact members_cons_eq_ok_iff.mpr
      ⟨between, first, ih (List.nodup_cons.mp distinct).2 read⟩
  | swap m m' rest =>
    -- the two neighbours have different keys, so neither of them reads what the other one wrote
    obtain ⟨slots₁, first, read⟩ := members_cons_eq_ok_iff.mp read
    obtain ⟨slots₂, second, read⟩ := members_cons_eq_ok_iff.mp read
    have different : m'.1 ≠ m.1 := by
      intro same
      exact (List.nodup_cons.mp distinct).1 (same ▸ List.mem_cons_self)
    obtain ⟨between, second, first⟩ := first.swap different second
    exact members_cons_eq_ok_iff.mpr
      ⟨between, second, members_cons_eq_ok_iff.mpr ⟨slots₂, first, read⟩⟩
  | trans order _ ih ih' => exact ih' ((order.map Prod.fst).nodup distinct) (ih distinct read)

theorem members_and_left [b.Orderly] {s s' : a.Slots} (known : ∀ m ∈ ns, a.knows m.1 = true)
    (read : a.members (ofMembers ns) s = .ok s') (t : b.Slots) :
    (a.and b).members (ofMembers ns) (s, t) = .ok (s', t) := by
  induction ns generalizing s with
  | nil =>
    cases read
    rfl
  | cons m ns ih =>
    rw [List.forall_mem_cons] at known
    obtain ⟨s₁, first, read⟩ := members_cons_eq_ok_iff.mp read
    exact members_cons_eq_ok_iff.mpr ⟨(s₁, t), first.left known.1 t, ih known.2 read⟩

theorem members_and_right [b.Orderly] {t t' : b.Slots} (unknown : ∀ m ∈ ns, a.knows m.1 = false)
    (read : b.members (ofMembers ns) t = .ok t') (s : a.Slots) :
    (a.and b).members (ofMembers ns) (s, t) = .ok (s, t') := by
  induction ns generalizing t with
  | nil =>
    cases read
    rfl
  | cons m ns ih =>
    rw [List.forall_mem_cons] at unknown
    obtain ⟨t₁, first, read⟩ := members_cons_eq_ok_iff.mp read
    exact members_cons_eq_ok_iff.mpr ⟨(s, t₁), first.right unknown.1 s, ih unknown.2 read⟩

/-- What two shapes without a common name read side by side, each of them reads by itself. -/
theorem members_of_and [b.Orderly] (apart : ∀ key, a.knows key = true → b.knows key = false)
    {s s' : a.Slots} {t t' : b.Slots}
    (read : (a.and b).members (ofMembers ns) (s, t) = .ok (s', t')) :
    a.members (ofMembers ns) s = .ok s' ∧ b.members (ofMembers ns) t = .ok t' := by
  induction ns generalizing s t with
  | nil =>
    cases read
    exact ⟨rfl, rfl⟩
  | cons m ns ih =>
    obtain ⟨⟨s₁, t₁⟩, first, read⟩ := members_cons_eq_ok_iff.mp read
    obtain ⟨readA, readB⟩ := ih read
    have one : a.Reads m s s₁ ∧ b.Reads m t t₁ := by
      rcases first with accepted | ⟨unknown, same⟩
      · rcases accepts_and_iff.mp accepted with ⟨first, rfl⟩ | ⟨unknown, second, rfl⟩
        · exact ⟨.inl first, .inr ⟨apart _ first.knows, rfl⟩⟩
        · exact ⟨.inr ⟨unknown, rfl⟩, .inl second⟩
      · rw [knows_and, Bool.or_eq_false_iff] at unknown
        cases same
        exact ⟨.inr ⟨unknown.1, rfl⟩, .inr ⟨unknown.2, rfl⟩⟩
    exact ⟨members_cons_eq_ok_iff.mpr ⟨s₁, one.1, readA⟩,
      members_cons_eq_ok_iff.mpr ⟨t₁, one.2, readB⟩⟩

/-- Members with names that are not known can be left out. -/
theorem members_filter (wanted : String → Bool)
    (enough : ∀ key, wanted key = false → a.knows key = false) {slots slots' : a.Slots}
    (read : a.members (ofMembers ns) slots = .ok slots') :
    a.members (ofMembers (ns.filter fun m => wanted m.1)) slots = .ok slots' := by
  induction ns generalizing slots with
  | nil => exact read
  | cons m ns ih =>
    obtain ⟨slots₁, first, others⟩ := members_cons_eq_ok_iff.mp read
    rw [List.filter_cons]
    split
    · exact members_cons_eq_ok_iff.mpr ⟨slots₁, first, ih others⟩
    · rename_i unwanted
      rcases first with accepted | ⟨-, rfl⟩
      · have unknown := enough m.1 (Bool.eq_false_iff.mpr unwanted)
        rw [accepted.knows] at unknown
        cases unknown
      · exact ih others

end Many

end Shape

end ReportRules.Json
