import Mathlib.Data.List.Induction
import ReportRules.Fee
import ReportRules.Validation

/-!
# ReportRules.Proofs.Fee.Precedence -- which proposal of a fee stands

`resolveFees` carries a list of the keys that are taken through all rules and units. Here a proposal
is a rule together with the unit it is for, and one that has a key joins the proposals kept so far
unless one of them has the same key. The two agree because the keys taken are at every moment the
keys of the proposals kept: nothing is put down for a proposal that gives way, and nothing for a
proposal without a key.

What is kept is then read off without going through the list: it is in the order of the proposals,
it has every proposal without a key, and of the proposals with one key it has the first and no
other.
-/

namespace ReportRules

/-- The id of a unit is the text of its id field, unless that is empty, or the number there as a
text. -/
theorem Record.unitId?_eq_some_iff {unit : Record} {id : String} :
    unit.unitId? = some id ↔
      unit.find? unitIdField = some (.str id) ∧ id ≠ "" ∨
        ∃ n, unit.find? unitIdField = some (.num n) ∧ n.text = id := by
  unfold unitId?
  split
  · rename_i s found
    rw [found]
    split
    · rename_i empty
      obtain rfl := String.isEmpty_iff.mp empty
      simp [eq_comm]
    · rename_i given
      rw [String.isEmpty_iff] at given
      simp only [Option.some.injEq, Json.str.injEq, reduceCtorEq, false_and, exists_false, or_false]
      exact ⟨fun h => ⟨h, h ▸ given⟩, And.left⟩
  · rename_i n found
    simp [found]
  · rename_i neither number
    simp only [reduceCtorEq, false_iff, not_or, not_and, not_exists]
    exact ⟨fun found => absurd found (neither id), fun n found => absurd found (number n)⟩

/-! ## Proposals -/

/-- A rule's proposal of its fee, for the job or for a unit. -/
structure Proposal where
  rule : FeeRule
  unit : Option UnitAt

namespace Proposal

/-- The record that the rule looked at. -/
def subject (form : Record) (p : Proposal) : Record :=
  (p.unit.map UnitAt.record).getD form

/-- What a proposal is for. All rules that prevent duplicates share the keys without a unit. -/
def key (p : Proposal) : Option FeeKey :=
  if p.rule.preventDuplicates then some (.fee p.rule.feeId)
  else p.unit.map fun u =>
    .unitFee p.rule.feeId (u.record.unitId?.getD ("#" ++ Text.natText u.index))

/-- The proposal as it is reported. -/
def recommendation (form : Record) (p : Proposal) : Recommendation :=
  { feeId := p.rule.feeId, feeName := p.rule.feeName, feeAmount := p.rule.feeAmount,
    reason := p.rule.reason (p.subject form),
    unitId := p.unit.bind fun u => u.record.unitId?, unitIndex := p.unit.map UnitAt.index,
    autoAdded := p.rule.autoAdd, ruleId := p.rule.id }

/-- The proposal with its key, as `firstOfEach` takes it. -/
def candidate (form : Record) (p : Proposal) : Candidate :=
  ⟨p.key, p.recommendation form⟩

end Proposal

/-- What a rule proposes by itself: once where its conditions hold on the form, or for each unit on
which they hold, in the order of the units. -/
def FeeRule.proposals (rule : FeeRule) (form : Record) (units : Option (List Record)) :
    List Proposal :=
  match rule.scope with
  | .perJob => if rule.conditions.holds form then [⟨rule, none⟩] else []
  | .perUnit =>
    ((UnitAt.enumerate (units.getD [])).filter fun u => rule.conditions.holds u.record).map
      fun u => ⟨rule, some u⟩

/-- What the active rules propose, in their order. -/
def proposals (rules : List FeeRule) (form : Record) (units : Option (List Record)) :
    List Proposal :=
  (rules.filter FeeRule.active).flatMap fun rule => rule.proposals form units

theorem FeeRule.candidates_eq_map_proposals (rule : FeeRule) (form : Record)
    (units : Option (List Record)) (active : rule.active = true) :
    rule.candidates form units = (rule.proposals form units).map (Proposal.candidate form) := by
  unfold FeeRule.candidates FeeRule.proposals
  rw [if_neg (by simp [active])]
  cases rule.scope with
  | perJob =>
    dsimp only
    split
    · simp only [List.map_cons, List.map_nil, Proposal.candidate, Proposal.key, FeeRule.jobKey]
      rfl
    · rfl
  | perUnit =>
    -- a unit's key asks for the id of the unit in one place and has a default for it in the other
    have unitKey : ∀ u : UnitAt,
        FeeRule.unitKey u.record u.index =
          u.record.unitId?.getD ("#" ++ Text.natText u.index) := by
      intro u
      unfold FeeRule.unitKey
      cases u.record.unitId? <;> rfl
    have one : ∀ u : UnitAt,
        (⟨rule.keyForUnit u.record u.index,
            rule.recommend u.record u.record.unitId? (some u.index)⟩ : Candidate) =
          Proposal.candidate form ⟨rule, some u⟩ := by
      intro u
      simp only [FeeRule.keyForUnit, unitKey]
      rfl
    simp only [UnitAt.enumerate, List.filter_map, List.map_map]
    exact List.map_congr_left fun entry _ => one ⟨entry.1, entry.2⟩

/-- The candidates of all rules are the proposals of the active ones. -/
theorem flatMap_candidates (rules : List FeeRule) (form : Record) (units : Option (List Record)) :
    (rules.flatMap fun rule => rule.candidates form units) =
      (proposals rules form units).map (Proposal.candidate form) := by
  unfold proposals
  induction rules with
  | nil => rfl
  | cons rule rest ih =>
    rw [List.flatMap_cons, ih]
    cases active : rule.active with
    | true =>
      rw [rule.candidates_eq_map_proposals form units active, List.filter_cons_of_pos active,
        List.flatMap_cons, List.map_append]
    | false =>
      have nothing : rule.candidates form units = [] := by simp [FeeRule.candidates, active]
      rw [nothing, List.filter_cons_of_neg (by simp [active]), List.nil_append]

/-! ## Going through the proposals -/

/-- Whether a proposal joins the ones kept so far: it has no key, or a key of its own. -/
def Joins (kept : List Proposal) (p : Proposal) : Prop :=
  p.key = none ∨ ∀ q ∈ kept, q.key ≠ p.key

instance (kept : List Proposal) (p : Proposal) : Decidable (Joins kept p) :=
  inferInstanceAs (Decidable (_ ∨ _))

/-- Keep a proposal if it joins. -/
def keep (kept : List Proposal) (p : Proposal) : List Proposal :=
  if Joins kept p then kept ++ [p] else kept

/-- The proposals that stand. -/
def kept (ps : List Proposal) : List Proposal :=
  ps.foldl keep []

theorem kept_concat (ps : List Proposal) (p : Proposal) : kept (ps ++ [p]) = keep (kept ps) p := by
  simp [kept]

/-- The keys that are taken are those of the proposals kept. -/
def TakenBy (kept : List Proposal) (taken : List FeeKey) : Prop :=
  ∀ key, key ∈ taken ↔ ∃ q ∈ kept, q.key = some key

theorem TakenBy.concat_of_none {kept : List Proposal} {taken : List FeeKey} {p : Proposal}
    (h : TakenBy kept taken) (hkey : p.key = none) : TakenBy (kept ++ [p]) taken := by
  intro key
  simp [h key, or_and_right, exists_or, hkey]

theorem TakenBy.concat_of_some {kept : List Proposal} {taken : List FeeKey} {p : Proposal}
    {k : FeeKey} (h : TakenBy kept taken) (hkey : p.key = some k) :
    TakenBy (kept ++ [p]) (k :: taken) := by
  intro key
  simp [h key, or_and_right, exists_or, hkey, or_comm, eq_comm]

theorem TakenBy.joins_iff {kept : List Proposal} {taken : List FeeKey} {p : Proposal} {k : FeeKey}
    (h : TakenBy kept taken) (hkey : p.key = some k) : Joins kept p ↔ k ∉ taken := by
  simp [Joins, h k, hkey]

/-- From proposals kept and their keys, the walk over the rest keeps what `keep` keeps. -/
theorem map_append_firstOfEach (form : Record) (ps kept : List Proposal) (taken : List FeeKey)
    (h : TakenBy kept taken) :
    kept.map (Proposal.recommendation form) ++
        firstOfEach taken (ps.map (Proposal.candidate form)) =
      (ps.foldl keep kept).map (Proposal.recommendation form) := by
  induction ps generalizing kept taken with
  | nil => simp [firstOfEach]
  | cons p rest ih =>
    rw [List.map_cons, List.foldl_cons, keep]
    cases hkey : p.key with
    | none =>
      have joins : Joins kept p := Or.inl hkey
      rw [if_pos joins, ← ih _ _ (h.concat_of_none hkey)]
      simp [firstOfEach, Proposal.candidate, hkey]
    | some k =>
      have joins := h.joins_iff hkey
      by_cases htaken : k ∈ taken
      · -- the proposal gives way, and neither list changes
        rw [if_neg (fun hjoins => joins.mp hjoins htaken), ← ih _ _ h]
        simp [firstOfEach, Proposal.candidate, hkey, htaken]
      · rw [if_pos (joins.mpr htaken), ← ih _ _ (h.concat_of_some hkey)]
        simp [firstOfEach, Proposal.candidate, hkey, htaken]

/-! ## What stands -/

theorem kept_sublist (ps : List Proposal) : (kept ps).Sublist ps := by
  induction ps using List.reverseRecOn with
  | nil => exact List.Sublist.refl _
  | append_singleton rest p ih =>
    rw [kept_concat, keep]
    split
    · exact ih.append (List.Sublist.refl [p])
    · exact ih.trans (List.sublist_append_left rest [p])

/-- A proposal without a key always stands. -/
theorem filter_kept_none (ps : List Proposal) :
    (kept ps).filter (fun p => p.key = none) = ps.filter fun p => p.key = none := by
  induction ps using List.reverseRecOn with
  | nil => rfl
  | append_singleton rest p ih =>
    rw [kept_concat, keep, List.filter_append, ← ih]
    split
    · rw [List.filter_append]
    · rename_i givesWay
      have hkey : p.key ≠ none := fun h => givesWay (Or.inl h)
      simp [hkey]

/-- Of the proposals with one key the first stands. -/
theorem filter_kept_some (ps : List Proposal) (k : FeeKey) :
    (kept ps).filter (fun p => p.key = some k) = (ps.filter fun p => p.key = some k).take 1 := by
  induction ps using List.reverseRecOn with
  | nil => rfl
  | append_singleton rest p ih =>
    rw [kept_concat, List.filter_append, keep]
    by_cases hkey : p.key = some k
    · -- `p` joins exactly when no proposal before it has its key
      have joins : Joins (kept rest) p ↔ (rest.filter fun p => p.key = some k) = [] := by
        have first_nil : (rest.filter fun p => p.key = some k) = [] ↔
            (kept rest).filter (fun p => p.key = some k) = [] := by
          rw [ih, List.take_eq_nil_iff]
          simp
        rw [first_nil, List.filter_eq_nil_iff]
        simp [Joins, hkey]
      by_cases hrest : (rest.filter fun p => p.key = some k) = []
      · rw [if_pos (joins.mpr hrest), List.filter_append, ih, hrest]
        simp [hkey]
      · -- the first of them is there already, and one more behind it changes nothing
        obtain ⟨q, others, hcons⟩ := List.exists_cons_of_ne_nil hrest
        rw [if_neg (fun h => hrest (joins.mp h)), ih, hcons]
        simp
    · have unaffected : (keep (kept rest) p).filter (fun p => p.key = some k) =
          (kept rest).filter fun p => p.key = some k := by
        unfold keep
        split
        · simp [hkey]
        · rfl
      rw [← keep, unaffected, ih]
      simp [hkey]

/-- Proposals that all give way change nothing. -/
theorem foldl_keep_of_not_joins {kept ps : List Proposal} (h : ∀ p ∈ ps, ¬ Joins kept p) :
    ps.foldl keep kept = kept := by
  induction ps with
  | nil => rfl
  | cons p rest ih =>
    rw [List.foldl_cons, keep, if_neg (h p List.mem_cons_self)]
    exact ih fun q hq => h q (List.mem_cons_of_mem p hq)

/-- Of proposals with one key, behind others that have not got it, the first joins. -/
theorem kept_append_of_key {ps qs : List Proposal} {k : FeeKey} (other : ∀ p ∈ ps, p.key ≠ some k)
    (same : ∀ q ∈ qs, q.key = some k) : kept (ps ++ qs) = kept ps ++ qs.take 1 := by
  cases qs with
  | nil => simp
  | cons first rest =>
    have hfirst : first.key = some k := same first List.mem_cons_self
    have joins : Joins (kept ps) first := .inr fun q hq => by
      rw [hfirst]
      exact other q ((kept_sublist ps).subset hq)
    have giveWay : ∀ q ∈ rest, ¬ Joins (kept ps ++ [first]) q := by
      intro q hq
      have hq : q.key = some k := same q (List.mem_cons_of_mem first hq)
      rintro (none | different)
      · exact absurd (hq.symm.trans none) nofun
      · exact different first (by simp) (hfirst.trans hq.symm)
    rw [kept, List.foldl_append, List.foldl_cons, ← kept, keep, if_pos joins,
      foldl_keep_of_not_joins giveWay, List.take_one, List.head?_cons, Option.toList_some]

/-- The fees that are proposed are the proposals kept. -/
theorem resolveFees_eq_map_kept (rules : List FeeRule) (form : Record)
    (units : Option (List Record)) :
    resolveFees rules form units =
      (kept (proposals rules form units)).map (Proposal.recommendation form) := by
  have empty : TakenBy [] [] := fun key => by simp
  unfold resolveFees
  rw [flatMap_candidates]
  exact map_append_firstOfEach form _ [] [] empty

/-- **Which fees are proposed.** They are the proposals kept of all that the active rules propose,
each with the values of its own rule and unit. No order is changed, no proposal without a key is
lost, and of the proposals with one key the first is there, once. -/
theorem resolveFees_eq_kept (rules : List FeeRule) (form : Record)
    (units : Option (List Record)) :
    resolveFees rules form units =
        (kept (proposals rules form units)).map (Proposal.recommendation form) ∧
      (kept (proposals rules form units)).Sublist (proposals rules form units) ∧
      (kept (proposals rules form units)).filter (fun p => p.key = none) =
        (proposals rules form units).filter (fun p => p.key = none) ∧
      ∀ k : FeeKey,
        (kept (proposals rules form units)).filter (fun p => p.key = some k) =
          ((proposals rules form units).filter fun p => p.key = some k).take 1 := by
  exact ⟨resolveFees_eq_map_kept rules form units, kept_sublist _, filter_kept_none _,
    filter_kept_some _⟩

end ReportRules
