import ReportRules.Proofs.Decimal.Characters
import ReportRules.Proofs.Fee.Precedence

/-!
# ReportRules.Proofs.Fee.Position -- fees for units without an id

A unit without an id is known by its position behind a number sign. Positions are different texts,
and no number is written with a number sign, so the one way for another unit to be taken for it is
to carry that very text as its id. Ids are free text, so this can happen, and then only one of the
two units is charged: `named_unit_shadows_position`. As long as it does not happen, every rule that
lets a fee repeat has its fee proposed for every unit on which its conditions hold.
-/

namespace ReportRules

open Record (unitIdField)

/-! ## Positions as keys -/

/-- What a unit without an id is known by. -/
def positionKey (index : Nat) : String :=
  "#" ++ Text.natText index

theorem positionKey_injective : Function.Injective positionKey := by
  intro m n h
  have texts : Text.natText m = Text.natText n := (String.append_right_inj "#").mp h
  exact Text.figures_injective (String.ofList_injective texts)

/-- No number is written like a position. -/
theorem not_isNumberText_positionKey (index : Nat) : ¬ IsNumberText (positionKey index) := by
  intro h
  have member : '#' ∈ (positionKey index).toList := by
    rw [positionKey, String.toList_append]
    exact List.mem_append_left _ (List.mem_singleton_self _)
  exact absurd (h '#' member) (by decide)

/-- A unit whose id is a position has it as a text. -/
theorem find?_of_unitId?_eq_positionKey {unit : Record} {index : Nat}
    (h : unit.unitId? = some (positionKey index)) :
    unit.find? unitIdField = some (.str (positionKey index)) := by
  rcases Record.unitId?_eq_some_iff.mp h with ⟨found, -⟩ | ⟨n, -, written⟩
  · exact found
  · have number := n.isNumberText_text
    rw [written] at number
    exact absurd number (not_isNumberText_positionKey index)

/-! ## The proposal for a unit -/

/-- For every key that is proposed, something is kept. -/
theorem exists_mem_kept {ps : List Proposal} {p : Proposal} {k : FeeKey} (hp : p ∈ ps)
    (hkey : p.key = some k) : ∃ q ∈ kept ps, q.key = some k := by
  have first : ((kept ps).filter fun q => q.key = some k) ≠ [] := by
    rw [filter_kept_some]
    intro h
    rcases List.take_eq_nil_iff.mp h with h | h
    · exact absurd h Nat.one_ne_zero
    · exact List.filter_eq_nil_iff.mp h p hp (by simpa using hkey)
  obtain ⟨q, hq⟩ := List.exists_mem_of_ne_nil _ first
  obtain ⟨hmem, hqkey⟩ := List.mem_filter.mp hq
  exact ⟨q, hmem, by simpa using hqkey⟩

theorem mem_enumerate_iff {units : List Record} {u : UnitAt} :
    u ∈ UnitAt.enumerate units ↔ units[u.index]? = some u.record := by
  unfold UnitAt.enumerate
  rw [List.mem_map]
  constructor
  · rintro ⟨⟨record, index⟩, hmem, rfl⟩
    exact List.mk_mem_zipIdx_iff_getElem?.mp hmem
  · intro h
    exact ⟨(u.record, u.index), List.mk_mem_zipIdx_iff_getElem?.mpr h, rfl⟩

/-- What is proposed: by active rules whose conditions hold, for the form by a rule for the job and
for a unit of the list by a rule for units. -/
theorem mem_proposals_iff {rules : List FeeRule} {form : Record} {units : Option (List Record)}
    {p : Proposal} :
    p ∈ proposals rules form units ↔
      p.rule ∈ rules ∧ p.rule.active = true ∧
        p.rule.conditions.holds (p.subject form) = true ∧
        (p.rule.scope = .perJob ∧ p.unit = none ∨
          p.rule.scope = .perUnit ∧
            ∃ u, p.unit = some u ∧ (units.getD [])[u.index]? = some u.record) := by
  constructor
  · intro hp
    obtain ⟨rule, hrule, hmem⟩ := List.mem_flatMap.mp hp
    obtain ⟨among, active⟩ := List.mem_filter.mp hrule
    unfold FeeRule.proposals at hmem
    cases scope : rule.scope with
    | perJob =>
      simp only [scope] at hmem
      split at hmem
      · rename_i holds
        obtain rfl := List.mem_singleton.mp hmem
        exact ⟨among, active, holds, Or.inl ⟨scope, rfl⟩⟩
      · cases hmem
    | perUnit =>
      simp only [scope] at hmem
      obtain ⟨u, hu, rfl⟩ := List.mem_map.mp hmem
      obtain ⟨listed, holds⟩ := List.mem_filter.mp hu
      exact ⟨among, active, holds, Or.inr ⟨scope, u, rfl, mem_enumerate_iff.mp listed⟩⟩
  · obtain ⟨rule, unit⟩ := p
    rintro ⟨among, active, holds, ⟨scope, hunit⟩ | ⟨scope, u, hunit, listed⟩⟩
    all_goals
      obtain rfl := hunit
      refine List.mem_flatMap.mpr ⟨rule, List.mem_filter.mpr ⟨among, active⟩, ?_⟩
      dsimp only at scope
      simp only [FeeRule.proposals, scope]
    · have onForm : rule.conditions.holds form = true := holds
      rw [if_pos onForm]
      exact List.mem_singleton_self _
    · exact List.mem_map.mpr ⟨u, List.mem_filter.mpr ⟨mem_enumerate_iff.mpr listed, holds⟩, rfl⟩

/-- A proposal for a unit is for a unit of the list. -/
theorem getElem?_of_mem_proposals {rules : List FeeRule} {form : Record} {units : List Record}
    {p : Proposal} (hp : p ∈ proposals rules form (some units)) {u : UnitAt}
    (hu : p.unit = some u) : units[u.index]? = some u.record := by
  obtain ⟨-, -, -, ⟨-, whole⟩ | ⟨-, v, hv, listed⟩⟩ := mem_proposals_iff.mp hp
  · rw [whole] at hu
    cases hu
  · obtain rfl : v = u := Option.some_inj.mp (hv.symm.trans hu)
    exact listed

section

variable {rules : List FeeRule} {rule : FeeRule} {form unit : Record} {units : List Record}
  {i : Nat}

theorem mem_proposals (hrule : rule ∈ rules) (active : rule.active = true)
    (scope : rule.scope = .perUnit) (hunit : units[i]? = some unit)
    (holds : rule.conditions.holds unit = true) :
    (⟨rule, some ⟨unit, i⟩⟩ : Proposal) ∈ proposals rules form (some units) :=
  mem_proposals_iff.mpr ⟨hrule, active, holds, Or.inr ⟨scope, ⟨unit, i⟩, rfl, hunit⟩⟩

/-- A key for one unit belongs to a rule that lets its fee repeat, and tells its fee and unit. -/
theorem Proposal.eq_of_key_eq_unitFee {p : Proposal} {feeId name : String}
    (h : p.key = some (.unitFee feeId name)) :
    p.rule.feeId = feeId ∧ ∃ u, p.unit = some u ∧
      u.record.unitId?.getD (positionKey u.index) = name := by
  unfold key at h
  split at h
  · cases h
  · obtain ⟨u, hu, hkey⟩ := Option.map_eq_some_iff.mp h
    obtain ⟨hfee, hname⟩ := FeeKey.unitFee.inj hkey
    exact ⟨hfee, u, hu, hname⟩

/-- **A unit without an id is charged unless its position is another unit's id.** Where the
conditions of an active rule for units hold on a unit without an id, and the rule lets its fee
repeat, the fee is proposed for that unit, or for another one whose id is the text of that unit's
position. -/
theorem fee_for_unnamed_unit (hrule : rule ∈ rules) (active : rule.active = true)
    (scope : rule.scope = .perUnit) (repeats : rule.preventDuplicates = false)
    (hunit : units[i]? = some unit) (unnamed : unit.unitId? = none)
    (holds : rule.conditions.holds unit = true) :
    ∃ r ∈ resolveFees rules form (some units), r.feeId = rule.feeId ∧
      (r.unitIndex = some i ∨
        ∃ j other, j ≠ i ∧ units[j]? = some other ∧
          other.find? unitIdField = some (.str ("#" ++ Text.natText i)) ∧
            r.unitIndex = some j) := by
  have key : (⟨rule, some ⟨unit, i⟩⟩ : Proposal).key =
      some (.unitFee rule.feeId (positionKey i)) := by
    simp [Proposal.key, repeats, unnamed, positionKey]
  have proposed : ⟨rule, some ⟨unit, i⟩⟩ ∈ proposals rules form (some units) :=
    mem_proposals hrule active scope hunit holds
  -- what stands under this key is the first proposal with it, which may be for another unit
  obtain ⟨p, hp, hkey⟩ := exists_mem_kept proposed key
  obtain ⟨hfee, u, hu, hname⟩ := Proposal.eq_of_key_eq_unitFee hkey
  have index : (p.recommendation form).unitIndex = some u.index := by
    simp [Proposal.recommendation, hu]
  refine ⟨p.recommendation form, ?_, hfee, ?_⟩
  · rw [resolveFees_eq_map_kept]
    exact List.mem_map_of_mem hp
  · have hother := getElem?_of_mem_proposals ((kept_sublist _).subset hp) hu
    cases id : u.record.unitId? with
    | none =>
      rw [id, Option.getD_none] at hname
      rw [index, positionKey_injective hname]
      exact Or.inl rfl
    | some text =>
      rw [id, Option.getD_some] at hname
      refine Or.inr ⟨u.index, u.record, ?_, hother,
        find?_of_unitId?_eq_positionKey (id.trans (congrArg some hname)), index⟩
      intro same
      rw [same, hunit] at hother
      rw [← Option.some_inj.mp hother, unnamed] at id
      cases id

end

/-- A fee for every damaged unit. -/
def damageFee : FeeRule :=
  { id := "damage-fee", feeId := "damage", feeName := "Damaged Unit Fee", feeAmount := 75,
    conditions := [{ field := "damaged", operator := .equals, value := .bool true }],
    scope := .perUnit }

/-- A damaged unit, with the value of its id. -/
def damagedUnitWith (id : Json) : Record :=
  .ofList [("damaged", .bool true), (unitIdField, id)]

/-- A unit with the number one as its id, and a unit without an id behind it: both are charged. -/
theorem unnamed_unit_charged_beside_number :
    let unnamed := damagedUnitWith .null
    let units := [damagedUnitWith (.int 1), unnamed]
    damageFee ∈ [damageFee] ∧ damageFee.active = true ∧ damageFee.scope = .perUnit ∧
      damageFee.preventDuplicates = false ∧ units[1]? = some unnamed ∧
      unnamed.unitId? = none ∧ damageFee.conditions.holds unnamed = true ∧
      ∃ r ∈ resolveFees [damageFee] Keyed.empty (some units),
        r.feeId = "damage" ∧ r.unitIndex = some 1 := by
  intro unnamed units
  refine ⟨List.mem_singleton_self _, rfl, rfl, rfl, rfl, by decide, by decide, ?_⟩
  obtain ⟨r, hr, hfee, hindex | ⟨j, other, hj, hother, hid, -⟩⟩ :=
    @fee_for_unnamed_unit [damageFee] damageFee Keyed.empty unnamed units 1
      (List.mem_singleton_self damageFee) rfl rfl rfl rfl (by decide) (by decide)
  · exact ⟨r, hr, hfee, hindex⟩
  · -- the only other unit has a number as its id
    obtain rfl : j = 0 := by
      have bound := (List.getElem?_eq_some_iff.mp hother).1
      simp only [units, List.length_cons, List.length_nil] at bound
      omega
    obtain rfl : damagedUnitWith (.int 1) = other := Option.some_inj.mp hother
    cases hid

/-- A unit whose id is the text `#1`, and a unit without an id at position one: only the first is
charged. -/
theorem named_unit_shadows_position :
    let unnamed := damagedUnitWith .null
    let units := [damagedUnitWith (.str "#1"), unnamed]
    units[1]? = some unnamed ∧ unnamed.unitId? = none ∧
      damageFee.conditions.holds unnamed = true ∧
      (resolveFees [damageFee] Keyed.empty (some units)).map
        (fun r => (r.feeId, r.unitIndex)) = [("damage", some 0)] := by
  intro unnamed units
  exact ⟨rfl, by decide, by decide, by decide⟩

end ReportRules
