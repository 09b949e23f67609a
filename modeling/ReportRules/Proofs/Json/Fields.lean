import ReportRules.Proofs.Json.Members
import ReportRules.Proofs.Json.Survival

/-!
# ReportRules.Proofs.Json.Fields -- structures whose fields survive

A structure survives its JSON form when its fields do. Since members may be read in any order and
fields do not get in each other's way (`ReportRules.Proofs.Json.Members`), what is left is a matter
of one field. It is read back from its member, or it is missing, and then its default has to be the
value that was not written.

In the other direction, what is read into the fields of a structure has the properties that their
codecs guarantee (`Shape.Yields`), from an object as well as from an array.
-/

namespace ReportRules.Json

open Outcome (bind_eq_ok_iff map_eq_ok_iff)

variable {α β : Type}

namespace Shape

open Document (ofMembers)

/-! ## What survives -/

/-- The structure is read back from the members that are written for it, trimmed as an object of
part `p` may be. The members are still in the order in which they are written. -/
structure Survives (a : Shape α) (p : Part) (x : α) : Prop where
  known : ∀ m ∈ a.write x, a.knows m.1 = true
  distinct : (Json.obj (a.write x)).Distinct
  reads : ∀ {ns : List (String × Json)}, TrimmedMembers p (a.write x) ns →
    ∃ slots, a.members (ofMembers ns) a.start = .ok slots ∧ a.close slots = .ok x

variable {p : Part}

theorem knows_of_trimmed {a : Shape α} {x : α} (h : a.Survives p x) {ns : List (String × Json)}
    (trimmed : TrimmedMembers p (a.write x) ns) : ∀ m ∈ ns, a.knows m.1 = true := by
  intro m hm
  obtain ⟨m', hm', same⟩ :=
    List.mem_map.mp (trimmed.keys_sublist.subset (List.mem_map_of_mem hm))
  rw [← same]
  exact h.known m' hm'

/-- A structure with a name survives if its fields do. -/
theorem Survives.codec {a : Shape α} [a.Orderly] {x : α} (h : a.Survives p x) (name : String) :
    (a.codec name).Survives p x := by
  refine ⟨h.distinct, fun trimmed => ?_⟩
  cases trimmed with
  | obj members order =>
    obtain ⟨slots, read, closed⟩ := h.reads members
    have distinct := members.keys_sublist.nodup h.distinct.1
    exact bind_eq_ok_iff.mpr ⟨slots, members_perm order distinct read, closed⟩

theorem members_iso {a : Shape α} [a.Orderly] {build : α → β} {parts : β → α}
    {ns : List (String × Json)} {slots slots' : a.Slots}
    (read : a.members (ofMembers ns) slots = .ok slots') :
    (a.iso build parts).members (ofMembers ns) slots = .ok slots' := by
  induction ns generalizing slots with
  | nil => exact read
  | cons m ns ih =>
    obtain ⟨slots₁, first, read⟩ := members_cons_eq_ok_iff.mp read
    have first' : (a.iso build parts).Reads m slots slots₁ := first
    exact members_cons_eq_ok_iff.mpr ⟨slots₁, first', ih read⟩

theorem Survives.iso {a : Shape α} [a.Orderly] {build : α → β} {parts : β → α} {y : β}
    (h : a.Survives p (parts y)) (rebuilt : build (parts y) = y) :
    (a.iso build parts).Survives p y := by
  refine ⟨h.known, h.distinct, fun trimmed => ?_⟩
  obtain ⟨slots, read, closed⟩ := h.reads trimmed
  exact ⟨slots, members_iso read, map_eq_ok_iff.mpr ⟨parts y, closed, rebuilt⟩⟩

/-- Two shapes without a common name survive side by side. -/
theorem Survives.and {a : Shape α} {b : Shape β} [a.Orderly] [b.Orderly] {x : α} {y : β}
    (ha : a.Survives p x) (hb : b.Survives p y)
    (apart : ∀ key, b.knows key = true → a.knows key = false) : (a.and b).Survives p (x, y) := by
  constructor
  · intro m hm
    rw [knows_and, Bool.or_eq_true]
    exact (List.mem_append.mp hm).imp (ha.known m) (hb.known m)
  · refine ⟨?_, distinctMembers_iff.mpr fun m hm => ?_⟩
    · show ((a.write x ++ b.write y).map Prod.fst).Nodup
      rw [List.map_append, List.nodup_append]
      refine ⟨ha.distinct.1, hb.distinct.1, ?_⟩
      rintro key hkey _ hkey' rfl
      obtain ⟨m, hm, rfl⟩ := List.mem_map.mp hkey
      obtain ⟨m', hm', same⟩ := List.mem_map.mp hkey'
      have unknown := apart m'.1 (hb.known m' hm')
      rw [same, ha.known m hm] at unknown
      cases unknown
    · rcases List.mem_append.mp hm with hm | hm
      · exact distinctMembers_iff.mp ha.distinct.2 m hm
      · exact distinctMembers_iff.mp hb.distinct.2 m hm
  · intro ns trimmed
    obtain ⟨front, back, rfl, hfront, hback⟩ := TrimmedMembers.of_append trimmed
    obtain ⟨s, readFront, closeFront⟩ := ha.reads hfront
    obtain ⟨t, readBack, closeBack⟩ := hb.reads hback
    have first := members_and_left (knows_of_trimmed ha hfront) readFront b.start
    have second := members_and_right (a := a)
      (fun m hm => apart m.1 (knows_of_trimmed hb hback m hm)) readBack s
    refine ⟨(s, t), members_append first second, ?_⟩
    exact bind_eq_ok_iff.mpr ⟨x, closeFront, bind_eq_ok_iff.mpr ⟨y, closeBack, rfl⟩⟩

/-! ## Single fields -/

section Field

variable {name : String} {c : Codec α} {missing short : Option α} {shown : α → Bool} {x : α}
  {q : Part}

theorem survives_field (written : shown x = true → c.Survives (p.within name) x)
    (absent : shown x = false ∨ p.default? name = some (c.encode x) → missing = some x) :
    (field name c missing short shown).Survives p x := by
  have closed : missing = some x → (field name c missing short shown).close none = .ok x := by
    rintro rfl
    rfl
  -- the field is read from its member, if that was written and not left out; else it is missing
  cases visible : shown x with
  | false =>
    have nothing : (field name c missing short shown).write x = [] :=
      if_neg (Bool.eq_false_iff.mp visible)
    refine ⟨?_, ?_, ?_⟩ <;> rw [nothing]
    · exact fun _ h => (List.not_mem_nil h).elim
    · exact ⟨List.nodup_nil, trivial⟩
    · rintro ns ⟨⟩
      exact ⟨none, rfl, closed (absent (.inl visible))⟩
  | true =>
    have one : (field name c missing short shown).write x = [(name, c.encode x)] := if_pos visible
    have survives := written visible
    have known : (field name c missing short shown).knows name = true := by
      rw [knows_field]
      exact decide_eq_true rfl
    refine ⟨?_, ?_, ?_⟩ <;> rw [one]
    · intro m hm
      rw [List.mem_singleton.mp hm]
      exact known
    · exact ⟨List.nodup_singleton _, survives.distinct, trivial⟩
    · intro ns trimmed
      cases trimmed with
      | keep first rest =>
        cases rest
        refine ⟨some x, members_cons_eq_ok_iff.mpr ⟨some x, .inl ?_, rfl⟩, rfl⟩
        exact accepts_field_iff.mpr ⟨rfl, rfl, x, survives.reads first, rfl⟩
      | drop default rest =>
        cases rest
        exact ⟨none, rfl, closed (absent (.inr default))⟩

/-- A field that has to be there survives if nothing lets it be left out. -/
theorem survives_required (h : c.Survives q x) (within : p.within name = q)
    (needed : p.default? name = none) : (required name c).Survives p x := by
  refine survives_field (fun _ => within ▸ h) ?_
  rintro (hidden | default)
  · cases hidden
  · rw [needed] at default
    cases default

/-- A field with a default survives if the member that may be left out holds that default. -/
theorem survives_defaulted {value : α} (h : c.Survives q x) (within : p.within name = q)
    (default : p.default? name = some (c.encode x) → value = x) :
    (defaulted name c value).Survives p x := by
  refine survives_field (fun _ => within ▸ h) ?_
  rintro (hidden | same)
  · cases hidden
  · exact congrArg some (default same)

/-- A field that may be absent survives if what is there is not `null`. -/
theorem survives_optional {o : Option α} (h : ∀ x, o = some x → c.Survives q x)
    (present : ∀ x, o = some x → (c.encode x).isNull = false) (within : p.within name = q)
    (needed : p.default? name = none) : (optional name c).Survives p o := by
  refine survives_field ?_ ?_
  · intro shown
    cases o with
    | none => cases shown
    | some x => exact within ▸ Codec.survives_some (h x rfl) (present x rfl)
  · rintro (hidden | default)
    · cases o with
      | none => rfl
      | some x => cases hidden
    · rw [needed] at default
      cases default

theorem survives_placed {o : Option α} (h : ∀ x, o = some x → c.Survives q x)
    (present : ∀ x, o = some x → (c.encode x).isNull = false) (within : p.within name = q)
    (needed : p.default? name = none) : (placed name c).Survives p o := by
  refine survives_field (fun _ => ?_) ?_
  · cases o with
    | none => exact Codec.survives_none c _
    | some x => exact within ▸ Codec.survives_some (h x rfl) (present x rfl)
  · rintro (hidden | default)
    · cases hidden
    · rw [needed] at default
      cases default

theorem survives_required_text {s : String} (within : p.within name = .plain)
    (needed : p.default? name = none) : (required name .text).Survives p s :=
  survives_required (Codec.survives_text .plain s) within needed

theorem survives_optional_text {o : Option String} (within : p.within name = .plain)
    (needed : p.default? name = none) : (optional name .text).Survives p o :=
  survives_optional (fun s _ => Codec.survives_text .plain s) (fun _ _ => rfl) within needed

/-- A flag survives if the member that may be left out holds what its absence stands for. -/
theorem survives_flag {b value : Bool} (within : p.within name = .plain)
    (default : p.default? name = some (.bool value)) :
    (defaulted name .bool value).Survives p b := by
  refine survives_defaulted (Codec.survives_bool .plain b) within fun same => ?_
  exact Json.bool.inj (Option.some.inj (default.symm.trans same))

/-- A list survives if the member that may be left out is empty. -/
theorem survives_listing {xs : List α} (all : ∀ x ∈ xs, c.Survives q x)
    (within : p.within name = q) (default : p.default? name = some (.arr [])) :
    (defaulted name c.list []).Survives p xs := by
  refine survives_defaulted (Codec.survives_list all) within fun same => ?_
  exact Codec.eq_nil_of_encode (Option.some.inj (default.symm.trans same))

/-- One more field in front of others, whose name is none of theirs. -/
theorem Survives.cons {b : Shape β} [b.Orderly] {y : β}
    (first : (field name c missing short shown).Survives p x) (others : b.Survives p y)
    (fresh : b.knows name = false) :
    ((field name c missing short shown).and b).Survives p (x, y) := by
  refine first.and others fun key known => ?_
  rw [knows_field, decide_eq_false_iff_not]
  rintro rfl
  rw [fresh] at known
  cases known

end Field

/-! ## What is read -/

/-- What is read into the fields of a structure has a property, from an object and from an array.
Over the members of an object an invariant of the slots carries it. -/
structure Yields (a : Shape α) (P : α → Prop) : Prop where
  object : ∃ Holds : a.Slots → Prop, Holds a.start ∧
    (∀ {key : String} {d : Document} {slots slots' : a.Slots}, d.NumbersFit → Holds slots →
      a.Accepts key d slots slots' → Holds slots') ∧
    ∀ {slots : a.Slots} {x : α}, Holds slots → a.close slots = .ok x → P x
  array : ∀ {owner : String} {fields : Nat} {feed rest : Feed} {x : α},
    Document.ItemsFit feed.items → a.take owner fields feed = .ok (x, rest) →
      P x ∧ Document.ItemsFit rest.items

variable {P : α → Prop} {Q : β → Prop}

theorem holds_members {a : Shape α} {Holds : a.Slots → Prop}
    (step : ∀ {key : String} {d : Document} {slots slots' : a.Slots}, d.NumbersFit → Holds slots →
      a.Accepts key d slots slots' → Holds slots') {entries : List (Key × Document)}
    (fit : Document.MembersFit entries) {slots slots' : a.Slots} (before : Holds slots)
    (read : a.members entries slots = .ok slots') : Holds slots' := by
  induction entries generalizing slots with
  | nil =>
    cases read
    exact before
  | cons entry rest ih =>
    obtain ⟨key | fault, d⟩ := entry
    · unfold members at read
      split at read
      · rename_i result accepted
        obtain ⟨slots₁, rfl, read⟩ := bind_eq_ok_iff.mp read
        exact ih fit.2 (step fit.1 before accepted) read
      · split at read
        · cases read
        · exact ih fit.2 before read
    · cases read

theorem Yields.codec {a : Shape α} (h : a.Yields P) (name : String) :
    (a.codec name).Yields P := by
  obtain ⟨Holds, start, step, close⟩ := h.object
  intro d x fit decoded
  cases d with
  | obj entries ending =>
    obtain ⟨slots, read, closing⟩ := bind_eq_ok_iff.mp decoded
    have holds := holds_members step fit start read
    cases ending with
    | closed => exact close holds closing
    | broken _ _ | afterComma _ _ => cases closing
  | arr items ending =>
    obtain ⟨⟨value, feed⟩, taken, finished⟩ := bind_eq_ok_iff.mp decoded
    obtain ⟨-, -, same⟩ := bind_eq_ok_iff.mp finished
    cases same
    have fit : Document.ItemsFit items := fit
    exact (h.array fit taken).1
  | null | bool _ | num _ | str _ | broken _ _ _ | lax _ _ => cases decoded

theorem Yields.iso {a : Shape α} (h : a.Yields P) {build : α → β} (parts : β → α)
    (built : ∀ x, P x → Q (build x)) : (a.iso build parts).Yields Q := by
  obtain ⟨Holds, start, step, close⟩ := h.object
  refine ⟨⟨Holds, start, step, ?_⟩, ?_⟩
  · intro slots y holds closed
    obtain ⟨x, inner, rfl⟩ := map_eq_ok_iff.mp closed
    exact built x (close holds inner)
  · intro owner fields feed rest y fit taken
    obtain ⟨⟨x, rest'⟩, taken, same⟩ := map_eq_ok_iff.mp taken
    cases same
    exact (h.array fit taken).imp_left (built x)

theorem Yields.and {a : Shape α} {b : Shape β} [a.Orderly] (ha : a.Yields P) (hb : b.Yields Q) :
    (a.and b).Yields fun z => P z.1 ∧ Q z.2 := by
  obtain ⟨HoldsA, startA, stepA, closeA⟩ := ha.object
  obtain ⟨HoldsB, startB, stepB, closeB⟩ := hb.object
  refine ⟨⟨fun slots => HoldsA slots.1 ∧ HoldsB slots.2, ⟨startA, startB⟩, ?_, ?_⟩, ?_⟩
  · rintro key d ⟨s, t⟩ ⟨s', t'⟩ fit ⟨holdsA, holdsB⟩ accepted
    rcases accepts_and_iff.mp accepted with ⟨first, rfl⟩ | ⟨-, second, rfl⟩
    · exact ⟨stepA fit holdsA first, holdsB⟩
    · exact ⟨holdsA, stepB fit holdsB second⟩
  · rintro slots z ⟨holdsA, holdsB⟩ closed
    obtain ⟨x, closedA, closed⟩ := bind_eq_ok_iff.mp closed
    obtain ⟨y, closedB, closed⟩ := bind_eq_ok_iff.mp closed
    cases closed
    exact ⟨closeA holdsA closedA, closeB holdsB closedB⟩
  · intro owner fields feed rest z fit taken
    -- the second shape takes what the first one leaves of the array
    obtain ⟨⟨x, between⟩, takenA, taken⟩ := bind_eq_ok_iff.mp taken
    obtain ⟨⟨y, rest'⟩, takenB, taken⟩ := bind_eq_ok_iff.mp taken
    cases taken
    obtain ⟨holdsA, fit⟩ := ha.array fit takenA
    obtain ⟨holdsB, fit⟩ := hb.array fit takenB
    exact ⟨⟨holdsA, holdsB⟩, fit⟩

section Field

variable {name : String} {c : Codec α}

theorem yields_field {missing short : Option α} {shown : α → Bool} (h : c.Yields P)
    (missed : ∀ x, missing = some x → P x) (cut : ∀ x, short = some x → P x) :
    (field name c missing short shown).Yields P := by
  refine ⟨⟨fun slot => ∀ x, slot = some x → P x, ?_, ?_, ?_⟩, ?_⟩
  · rintro x ⟨⟩
  · rintro key d slot slot' fit - accepted x rfl
    obtain ⟨-, -, y, decoded, same⟩ := accepts_field_iff.mp accepted
    cases same
    exact h fit decoded
  · intro slot x holds closed
    cases slot with
    | some y =>
      cases closed
      exact holds x rfl
    | none =>
      cases missing with
      | none => cases closed
      | some y =>
        cases closed
        exact missed x rfl
  · intro owner fields feed rest x fit taken
    obtain ⟨⟨item, feed'⟩, next, taken⟩ := bind_eq_ok_iff.mp taken
    obtain ⟨items, ending, count⟩ := feed
    cases items with
    | cons d items =>
      cases next
      obtain ⟨y, decoded, same⟩ := map_eq_ok_iff.mp taken
      cases same
      exact ⟨h fit.1 decoded, fit.2⟩
    | nil =>
      -- an array that has ended leaves the field what it is in arrays that are too short
      cases ending with
      | closed =>
        cases next
        cases short with
        | none => cases taken
        | some y =>
          cases taken
          exact ⟨cut x rfl, trivial⟩
      | broken _ _ | afterComma _ _ => cases next

theorem yields_any {missing short : Option α} {shown : α → Bool} :
    (field name c missing short shown).Yields fun _ => True :=
  yields_field (Codec.yields_any c) (fun _ _ => trivial) fun _ _ => trivial

theorem yields_required (h : c.Yields P) : (required name c).Yields P := by
  refine yields_field h ?_ ?_ <;>
  · rintro _ ⟨⟩

theorem yields_defaulted {value : α} (h : c.Yields P) (default : P value) :
    (defaulted name c value).Yields P := by
  refine yields_field h ?_ ?_ <;>
  · rintro _ ⟨⟩
    exact default

theorem yields_optional {P : Option α → Prop} (h : c.optional.Yields P) (none : P none) :
    (optional name c).Yields P := by
  refine yields_field h ?_ ?_ <;>
  · rintro _ ⟨⟩
    exact none

theorem yields_nullable {P : Option α → Prop} (h : c.optional.Yields P) (none : P none) :
    (nullable name c).Yields P :=
  yields_defaulted h none

end Field

end Shape

end ReportRules.Json
