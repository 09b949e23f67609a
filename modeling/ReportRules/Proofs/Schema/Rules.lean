import ReportRules.Proofs.Json.Fields
import ReportRules.Schema.Rules

/-!
# ReportRules.Proofs.Schema.Rules -- stored rule books survive

A rule book that was read once is read back from what is written for it, however often that is done,
and also where members were left out that hold their default. What a value has to fulfil for that is
its `Storable`: the constant of a condition is tidy, the amount of a fee is finite, a number of
photos and a number of days fit into their bits, and a fixed value is not `null`. Each kind of rule
has one lemma that it survives if it is storable and one that whatever is read is storable.

Operators and combinations that are not known are read as a value that is written under a name of
its own, so they are stable too.
-/

namespace ReportRules

open Json (Codec Document Part Shape)

/-! ## Names -/

theorem Operator.survives (op : Operator) (p : Part) : Operator.codec.Survives p op :=
  Codec.survives_openChoice (by cases op <;> rfl) p

theorem Logic.survives (logic : Logic) (p : Part) : Logic.codec.Survives p logic :=
  Codec.survives_openChoice (by cases logic <;> rfl) p

theorem FeeScope.survives (scope : FeeScope) (p : Part) : FeeScope.codec.Survives p scope :=
  Codec.survives_choice (by cases scope <;> rfl) p

theorem DefaultSource.survives (source : DefaultSource) (p : Part) :
    DefaultSource.codec.Survives p source :=
  Codec.survives_choice (by cases source <;> rfl) p

theorem FeeScope.eq_perJob_of_name {scope : FeeScope} (h : "per_job" = scope.name) :
    .perJob = scope := by
  cases scope with
  | perJob => rfl
  | perUnit => exact absurd h (by decide)

/-! ## Conditions -/

/-- The constant of the condition is as reading leaves it. -/
def Condition.Storable (c : Condition) : Prop :=
  c.value.Tidy

theorem Condition.Storable.survives {c : Condition} (h : c.Storable) :
    Condition.codec.Survives .condition c := by
  refine Shape.Survives.codec (Shape.Survives.iso ?_ rfl) "RuleCondition"
  refine .cons (Shape.survives_required_text rfl rfl) ?_ rfl
  refine .cons (Shape.survives_required (c.operator.survives .plain) rfl rfl) ?_ rfl
  refine .cons (Shape.survives_defaulted (Codec.survives_json h) rfl Option.some.inj) ?_ rfl
  exact Shape.survives_optional (fun logic _ => logic.survives .plain) (fun _ _ => rfl) rfl rfl

theorem Condition.yields_storable : Condition.codec.Yields Condition.Storable := by
  refine Shape.Yields.codec (.iso (.and Shape.yields_any <| .and Shape.yields_any <|
    .and (Shape.yields_defaulted Codec.yields_json Json.tidy_null) Shape.yields_any) _ ?_)
    "RuleCondition"
  exact fun _ h => h.2.2.1

theorem ConditionSet.survives {cs : ConditionSet} (h : ∀ c ∈ cs, c.Storable) :
    ConditionSet.codec.Survives .condition cs :=
  Codec.survives_list fun c hc => (h c hc).survives

theorem ConditionSet.yields_storable :
    ConditionSet.codec.Yields fun cs => ∀ c ∈ cs, c.Storable :=
  Condition.yields_storable.list

/-! ## Requirement rules -/

/-- The number of photos has 32 bits. -/
def EvidenceMinimum.Storable (e : EvidenceMinimum) : Prop :=
  ∀ n, e.photos = some n → n < 2 ^ 32

theorem EvidenceMinimum.Storable.survives {e : EvidenceMinimum} (h : e.Storable) :
    EvidenceMinimum.codec.Survives .evidence e := by
  refine Shape.Survives.codec (.iso ?_ rfl) "EvidenceRequirements"
  refine .cons (Shape.survives_optional (fun n hn => Codec.survives_word32 (h n hn) .plain)
    (fun _ _ => rfl) rfl rfl) ?_ rfl
  refine .cons (Shape.survives_flag rfl rfl) ?_ rfl
  exact Shape.survives_flag rfl rfl

theorem EvidenceMinimum.yields_storable :
    EvidenceMinimum.codec.Yields EvidenceMinimum.Storable := by
  refine Shape.Yields.codec (.iso (.and (Shape.yields_optional Codec.yields_word32.optional
    (fun _ absurdity => nomatch absurdity)) <| .and Shape.yields_any Shape.yields_any) _ ?_)
    "EvidenceRequirements"
  exact fun _ h => h.1

/-- The conditions and the evidence of the rule are storable. -/
structure RequirementRule.Storable (r : RequirementRule) : Prop where
  conditions : ∀ c ∈ r.conditions, c.Storable
  evidence : ∀ e, r.evidence = some e → e.Storable

theorem RequirementRule.Storable.survives {r : RequirementRule} (h : r.Storable) :
    RequirementRule.codec.Survives .requirement r := by
  refine Shape.Survives.codec (.iso ?_ rfl) "AutoRequirementRule"
  refine .cons (Shape.survives_required_text rfl rfl) ?_ rfl
  refine .cons (Shape.survives_required_text rfl rfl) ?_ rfl
  refine .cons (Shape.survives_flag rfl rfl) ?_ rfl
  refine .cons (Shape.survives_listing (fun c hc => (h.conditions c hc).survives) rfl rfl) ?_ rfl
  refine .cons (Shape.survives_listing
    (fun field _ => Codec.survives_text .plain field) rfl rfl) ?_ rfl
  exact Shape.survives_optional (fun e he => (h.evidence e he).survives) (fun _ _ => rfl) rfl rfl

theorem RequirementRule.yields_storable :
    RequirementRule.codec.Yields RequirementRule.Storable := by
  refine Shape.Yields.codec (.iso (.and Shape.yields_any <| .and Shape.yields_any <|
    .and Shape.yields_any <| .and (Shape.yields_defaulted ConditionSet.yields_storable ?_) <|
    .and Shape.yields_any <|
    Shape.yields_optional EvidenceMinimum.yields_storable.optional ?_) _ ?_) "AutoRequirementRule"
  · exact fun _ h => (List.not_mem_nil h).elim
  · exact fun _ absurdity => nomatch absurdity
  · exact fun _ h => ⟨h.2.2.2.1, h.2.2.2.2.2⟩

/-! ## Fee rules -/

/-- The amount of the rule is a number, and its conditions are storable. -/
structure FeeRule.Storable (r : FeeRule) : Prop where
  amount : r.feeAmount.isFinite = true
  conditions : ∀ c ∈ r.conditions, c.Storable

theorem FeeRule.Storable.survives {r : FeeRule} (h : r.Storable) :
    FeeRule.codec.Survives .feeRule r := by
  refine Shape.Survives.codec (.iso ?_ rfl) "FeeSuggestionRule"
  refine .cons (Shape.survives_required_text rfl rfl) ?_ rfl
  refine .cons (Shape.survives_required_text rfl rfl) ?_ rfl
  refine .cons (Shape.survives_required_text rfl rfl) ?_ rfl
  refine .cons (Shape.survives_required (Codec.survives_double h.amount .plain) rfl rfl) ?_ rfl
  refine .cons (Shape.survives_listing (fun c hc => (h.conditions c hc).survives) rfl rfl) ?_ rfl
  refine .cons (Shape.survives_defaulted (r.scope.survives .plain) rfl ?_) ?_ rfl
  · exact fun same => FeeScope.eq_perJob_of_name (Json.str.inj (Option.some.inj same))
  refine .cons (Shape.survives_flag rfl rfl) ?_ rfl
  refine .cons (Shape.survives_flag rfl rfl) ?_ rfl
  exact Shape.survives_flag rfl rfl

theorem FeeRule.yields_storable : FeeRule.codec.Yields FeeRule.Storable := by
  refine Shape.Yields.codec (.iso (.and Shape.yields_any <| .and Shape.yields_any <|
    .and Shape.yields_any <| .and (Shape.yields_required Codec.yields_double) <|
    .and (Shape.yields_defaulted ConditionSet.yields_storable ?_) <|
    .and Shape.yields_any <| .and Shape.yields_any <| .and Shape.yields_any Shape.yields_any) _ ?_)
    "FeeSuggestionRule"
  · exact fun _ h => (List.not_mem_nil h).elim
  · exact fun _ h => ⟨h.2.2.2.1, h.2.2.2.2.1⟩

/-! ## Default rules -/

/-- The fixed value of the rule is tidy and not `null`, its days are a number of 64 bits, and its
conditions are storable. -/
structure DefaultRule.Storable (r : DefaultRule) : Prop where
  fixedValue : ∀ j, r.fixedValue = some j → j.Tidy ∧ j.isNull = false
  daysThreshold : ∀ n, r.daysThreshold = some n → -2 ^ 63 ≤ n ∧ n ≤ 2 ^ 63 - 1
  conditions : ∀ cs, r.conditions = some cs → ∀ c ∈ cs, c.Storable

theorem DefaultRule.Storable.survives {r : DefaultRule} (h : r.Storable) :
    DefaultRule.codec.Survives .defaultRule r := by
  refine Shape.Survives.codec (.iso ?_ rfl) "DefaultValueRule"
  refine .cons (Shape.survives_required_text rfl rfl) ?_ rfl
  refine .cons (Shape.survives_required (r.source.survives .plain) rfl rfl) ?_ rfl
  refine .cons (Shape.survives_optional_text rfl rfl) ?_ rfl
  refine .cons (Shape.survives_optional (fun j hj => Codec.survives_json (h.fixedValue j hj).1)
    (fun j hj => (h.fixedValue j hj).2) rfl rfl) ?_ rfl
  refine .cons (Shape.survives_optional
    (fun n hn => Codec.survives_signed64 (h.daysThreshold n hn) .plain)
    (fun _ _ => rfl) rfl rfl) ?_ rfl
  refine .cons (Shape.survives_optional_text rfl rfl) ?_ rfl
  exact Shape.survives_optional (fun cs hcs => ConditionSet.survives (h.conditions cs hcs))
    (fun _ _ => rfl) rfl rfl

theorem DefaultRule.yields_storable : DefaultRule.codec.Yields DefaultRule.Storable := by
  refine Shape.Yields.codec (.iso (.and Shape.yields_any <| .and Shape.yields_any <|
    .and Shape.yields_any <| .and (Shape.yields_optional Codec.yields_optional_json ?_) <|
    .and (Shape.yields_optional Codec.yields_signed64.optional ?_) <| .and Shape.yields_any <|
    Shape.yields_optional ConditionSet.yields_storable.optional ?_) _ ?_) "DefaultValueRule"
  · exact fun _ absurdity => nomatch absurdity
  · exact fun _ absurdity => nomatch absurdity
  · exact fun _ absurdity => nomatch absurdity
  · exact fun _ h => ⟨h.2.2.2.1, h.2.2.2.2.1, h.2.2.2.2.2.2⟩

/-! ## Rule books -/

/-- All rules of the book are storable. -/
structure RuleBook.Storable (b : RuleBook) : Prop where
  requirements : ∀ r ∈ b.requirements, r.Storable
  fees : ∀ r ∈ b.fees, r.Storable
  defaults : ∀ r ∈ b.defaults, r.Storable

theorem RuleBook.Storable.survives {b : RuleBook} (h : b.Storable) :
    RuleBook.codec.Survives .book b := by
  refine Shape.Survives.codec (.iso ?_ rfl) "RuleBook"
  refine .cons (Shape.survives_listing (fun r hr => (h.requirements r hr).survives) rfl rfl) ?_ rfl
  refine .cons (Shape.survives_listing (fun r hr => (h.fees r hr).survives) rfl rfl) ?_ rfl
  exact Shape.survives_listing (fun r hr => (h.defaults r hr).survives) rfl rfl

theorem RuleBook.yields_storable : RuleBook.codec.Yields RuleBook.Storable := by
  refine Shape.Yields.codec (.iso (.and
    (Shape.yields_defaulted RequirementRule.yields_storable.list ?_) <|
    .and (Shape.yields_defaulted FeeRule.yields_storable.list ?_) <|
    Shape.yields_defaulted DefaultRule.yields_storable.list ?_) _ ?_) "RuleBook"
  · exact fun _ h => (List.not_mem_nil h).elim
  · exact fun _ h => (List.not_mem_nil h).elim
  · exact fun _ h => (List.not_mem_nil h).elim
  · exact fun _ h => ⟨h.1, h.2.1, h.2.2⟩

/-- **A rule book that was read is stable.** What is written for it is read as the same book, and so
is what is left of that without members that hold their default, at any places and in any order. -/
theorem decoded_book_is_stable {d : Document} (json : d.IsJson) {b : RuleBook}
    (decoded : RuleBook.codec.decode d = .ok b) :
    RuleBook.codec.Keeps b ∧
      ∀ j, Json.Trimmed .book (RuleBook.codec.encode b) j →
        RuleBook.codec.decode (.ofJson j) = .ok b := by
  have survives := (RuleBook.yields_storable json.numbersFit decoded).survives
  exact ⟨survives.keeps, fun _ trimmed => survives.reads trimmed⟩

/-- A rule with an operator and a combination that are not known, and with a condition that has no
value, is read. Written again it names its fallbacks and spells its defaults out, and it is read as
the same rule when they are left out of that. -/
theorem unknown_operator_is_stable :
    let condition (operator logic : String) : Json :=
      .obj [("field", .str "volume"), ("operator", .str operator), ("logic", .str logic)]
    let book (condition : Json) : Json :=
      .obj [("auto_requirements", .arr [.obj [("id", .str "r1"), ("name", .str "Overflow"),
        ("conditions", .arr [condition])]])]
    let conditions : ConditionSet :=
      [{ field := "volume", operator := .unknown, value := .null, logic := some .and }]
    let b : RuleBook := { requirements := [{ id := "r1", name := "Overflow", conditions }] }
    RuleBook.codec.decode (.ofJson (book (condition "matches_regex" "XOR"))) = .ok b ∧
      Json.Trimmed .book (RuleBook.codec.encode b) (book (condition "unknown" "AND")) ∧
      RuleBook.codec.decode (.ofJson (book (condition "unknown" "AND"))) = .ok b := by
  intro condition book conditions b
  have read : RuleBook.codec.decode (.ofJson (book (condition "matches_regex" "XOR"))) = .ok b :=
    rfl
  have trimmed :
      Json.Trimmed .book (RuleBook.codec.encode b) (book (condition "unknown" "AND")) := by
    -- left out are the value of the condition, the flag and the fields of the rule, and two lists
    have one : Json.Trimmed .condition (Condition.codec.encode
        { field := "volume", operator := .unknown, value := .null, logic := some .and })
          (condition "unknown" "AND") :=
      .obj (.keep (.str _) (.keep (.str _) (.drop rfl (.keep (.str _) .nil)))) (.refl _)
    refine .obj (.keep (.arr (.cons ?_ .nil)) (.drop rfl (.drop rfl .nil))) (.refl _)
    exact .obj (.keep (.str _) (.keep (.str _) (.drop rfl
      (.keep (.arr (.cons one .nil)) (.drop rfl .nil))))) (.refl _)
  have fit : (book (condition "matches_regex" "XOR")).NumbersFit := by decide
  exact ⟨read, trimmed, (decoded_book_is_stable (.value _ fit) read).2 _ trimmed⟩

end ReportRules
