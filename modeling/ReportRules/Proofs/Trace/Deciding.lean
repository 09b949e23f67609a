import Mathlib.Data.List.Pairwise
import Mathlib.Data.Prod.Lex
import Mathlib.Data.String.Basic
import ReportRules.Trace.Filter

/-!
# ReportRules.Proofs.Trace.Deciding -- the directive that decides about an event

`Filter.deciding?` goes through the directives that cover an event and remembers the closest so far.
How close a directive is makes a linear order, so it ends at one that none is closer than
(`Filter.Decides`). Two directives that cover the same event and are equally close are about the
same subject, and a filter that was read has one directive for each subject: so only one of its
directives decides.

A directive that is put in force decides about the events that it covers, unless the one that
decided before is closer.
-/

namespace ReportRules.Trace

/-! ## How close a directive is -/

namespace Directive

/-- How closely a directive speaks about events: the longer path counts more, then the field. -/
def closeness (d : Directive) : ℕ ×ₗ String :=
  toLex (d.weight, d.fieldName)

theorem isCloserThan_iff {d other : Directive} :
    d.isCloserThan other = true ↔ other.closeness < d.closeness := by
  simp only [isCloserThan, closeness, Prod.Lex.toLex_lt_toLex, Bool.or_eq_true, Bool.and_eq_true,
    decide_eq_true_eq, beq_iff_eq]
  exact or_congr_right (and_congr_left fun _ => eq_comm)

theorem closeness_of_sameSubject {d other : Directive} (same : d.sameSubject other = true) :
    d.closeness = other.closeness := by
  simp only [sameSubject, Bool.and_eq_true, beq_iff_eq] at same
  obtain ⟨⟨target, -⟩, field⟩ := same
  simp only [closeness, weight, fieldName, target, field]

theorem sameSubject_comm (d other : Directive) : d.sameSubject other = other.sameSubject d := by
  simp only [sameSubject, BEq.comm]

/-- The closer one of two directives, the first one if neither is closer. -/
def closerOf (d other : Directive) : Directive :=
  if d.closeness < other.closeness then other else d

theorem le_closerOf (d other : Directive) : d.closeness ≤ (d.closerOf other).closeness := by
  unfold closerOf
  split
  · rename_i closer
    exact closer.le
  · exact le_rfl

theorem le_closerOf_right (d other : Directive) :
    other.closeness ≤ (d.closerOf other).closeness := by
  unfold closerOf
  split
  · exact le_rfl
  · rename_i noCloser
    exact not_lt.mp noCloser

theorem closerOf_of_le {d other : Directive} (h : other.closeness ≤ d.closeness) :
    d.closerOf other = d :=
  if_neg (not_lt.mpr h)

instance : Std.Associative closerOf where
  assoc a b c := by
    by_cases hab : a.closeness < b.closeness
    · by_cases hbc : b.closeness < c.closeness
      · simp [closerOf, hab, hbc, hab.trans hbc]
      · simp [closerOf, hab, hbc]
    · by_cases hbc : b.closeness < c.closeness
      · simp [closerOf, hab, hbc]
      · have hac : ¬ a.closeness < c.closeness :=
          not_lt.mpr ((not_lt.mp hbc).trans (not_lt.mp hab))
        simp [closerOf, hab, hbc, hac]

end Directive

namespace Filter

open Directive (closeness closerOf)

theorem closer_some (b d : Directive) : closer (some b) d = some (b.closerOf d) := by
  simp only [closer, closerOf, Directive.isCloserThan_iff]
  split <;> rfl

theorem foldl_closer_some (ds : List Directive) (b : Directive) :
    ds.foldl closer (some b) = some (ds.foldl closerOf b) := by
  induction ds generalizing b with
  | nil => rfl
  | cons d rest ih => rw [List.foldl_cons, List.foldl_cons, closer_some, ih]

/-- Directives about the same as `d` are as close as `d` is, so behind one that is at least as close
they might as well be missing. -/
theorem foldl_closerOf_filter (d : Directive) (ds : List Directive) {b : Directive}
    (h : d.closeness ≤ b.closeness) :
    (ds.filter fun other => !d.sameSubject other).foldl closerOf b = ds.foldl closerOf b := by
  induction ds generalizing b with
  | nil => rfl
  | cons other rest ih =>
    by_cases same : d.sameSubject other = true
    · have level : other.closeness ≤ b.closeness :=
        (Directive.closeness_of_sameSubject same).ge.trans h
      rw [List.filter_cons_of_neg (by simp [same]), List.foldl_cons,
        Directive.closerOf_of_le level, ih h]
    · rw [List.filter_cons_of_pos (by simp [same]), List.foldl_cons, List.foldl_cons,
        ih (h.trans (b.le_closerOf other))]

/-- A directive put in force decides about the events that it covers, unless the one that decided
before is closer. -/
theorem deciding?_add (f : Filter) {d : Directive} {e : Event} (covers : d.covers e = true) :
    (f.add d).deciding? e = some ((f.deciding? e).elim d d.closerOf) := by
  have inForce : ((f.add d).directives.filter fun other => other.covers e) =
      d :: (f.directives.filter fun other => other.covers e).filter
        fun other => !d.sameSubject other := by
    simp only [add, List.filter_cons, covers, if_true, List.filter_filter, Bool.and_comm]
  have first : ∀ other, closer none other = some other := fun _ => rfl
  unfold deciding?
  rw [inForce, List.foldl_cons, first, foldl_closer_some, foldl_closerOf_filter d _ le_rfl]
  cases f.directives.filter fun other => other.covers e with
  | nil => rfl
  | cons own rest =>
    rw [List.foldl_cons, List.foldl_cons, first, foldl_closer_some, Option.elim_some,
      List.foldl_assoc]

/-- A directive decides about an event: it covers the event, and of those that do none is closer. -/
structure Decides (f : Filter) (e : Event) (d : Directive) : Prop where
  mem : d ∈ f.directives
  covers : d.covers e = true
  closest : ∀ other ∈ f.directives, other.covers e = true → other.isCloserThan d = false

/-- Going through directives from `b` on ends at one of them that none is closer than. -/
theorem foldl_closerOf_spec (ds : List Directive) (b : Directive) :
    ds.foldl closerOf b ∈ b :: ds ∧
      ∀ other ∈ b :: ds, other.closeness ≤ (ds.foldl closerOf b).closeness := by
  induction ds generalizing b with
  | nil => simp
  | cons d rest ih =>
    obtain ⟨mem, closest⟩ := ih (b.closerOf d)
    rw [List.foldl_cons]
    constructor
    · rcases List.mem_cons.mp mem with same | later
      · rw [same]
        unfold closerOf
        split <;> simp
      · exact List.mem_cons_of_mem _ (List.mem_cons_of_mem _ later)
    · have turn := closest _ List.mem_cons_self
      intro other hother
      rcases List.mem_cons.mp hother with rfl | hother
      · exact (other.le_closerOf d).trans turn
      · rcases List.mem_cons.mp hother with rfl | later
        · exact (b.le_closerOf_right other).trans turn
        · exact closest other (List.mem_cons_of_mem _ later)

theorem decides_or_uncovered (f : Filter) (e : Event) :
    (∃ d, f.deciding? e = some d ∧ f.Decides e d) ∨
      f.deciding? e = none ∧ ∀ d ∈ f.directives, d.covers e = false := by
  unfold deciding?
  cases covering : f.directives.filter fun other => other.covers e with
  | nil =>
    refine Or.inr ⟨rfl, fun d hd => ?_⟩
    simpa using List.filter_eq_nil_iff.mp covering d hd
  | cons first rest =>
    have begun : closer none first = some first := rfl
    obtain ⟨mem, closest⟩ := foldl_closerOf_spec rest first
    rw [← covering] at mem closest
    obtain ⟨among, covers⟩ := List.mem_filter.mp mem
    refine Or.inl ⟨_, by rw [List.foldl_cons, begun, foldl_closer_some], among, covers, ?_⟩
    intro other hother hcovers
    rw [← Bool.not_eq_true, Directive.isCloserThan_iff, not_lt]
    exact closest other (List.mem_filter.mpr ⟨hother, hcovers⟩)

/-! ## One directive for each subject -/

/-- No two directives in force are about the same. -/
def Distinct (f : Filter) : Prop :=
  f.directives.Pairwise fun d other => d.sameSubject other = false

theorem Distinct.add {f : Filter} (h : f.Distinct) (d : Directive) : (f.add d).Distinct := by
  refine List.pairwise_cons.mpr ⟨fun other hother => ?_, h.filter _⟩
  simpa using (List.mem_filter.mp hother).2

theorem Distinct.foldl_add {f : Filter} (h : f.Distinct) (ds : List Directive) :
    (ds.foldl Filter.add f).Distinct := by
  induction ds generalizing f with
  | nil => exact h
  | cons d rest ih => exact ih (h.add d)

theorem distinct_of_read? {text : String} {f : Filter} (h : read? text = some f) : f.Distinct := by
  unfold read? at h
  obtain ⟨ds, -, h⟩ := Option.bind_eq_some_iff.mp h
  obtain rfl := Option.some_inj.mp h
  split
  · exact List.pairwise_singleton _ _
  · exact Distinct.foldl_add List.Pairwise.nil ds

end Filter

namespace Directive

theorem covers_iff {d : Directive} {e : Event} :
    d.covers e = true ↔
      (∀ path, d.target = some path → path.toList <+: e.target.toList) ∧ d.span = none ∧
        ∀ test, d.field = some test → test.value = none ∧ test.name ∈ e.fieldNames := by
  obtain ⟨target, span, field, limit⟩ := d
  cases target <;> cases field <;>
    simp [covers, List.isPrefixOf_iff_prefix, and_assoc]

/-- Two beginnings of one text that are equally long are the same. -/
theorem path_eq_of_length_eq {path other : String} {cs : List Char} (h : path.toList <+: cs)
    (hother : other.toList <+: cs) (length : path.length = other.length) : path = other := by
  rw [← String.length_toList, ← String.length_toList] at length
  exact String.toList_inj.mp
    ((List.prefix_of_prefix_length_le h hother length.le).eq_of_length length)

/-- A path counts twice what a field does, so a weight tells the length of the path and whether
there is a field. -/
theorem weight_eq_iff {d other : Directive} :
    d.weight = other.weight ↔
      d.target.map String.length = other.target.map String.length ∧
        d.field.isSome = other.field.isSome := by
  obtain ⟨target, span, field, limit⟩ := d
  obtain ⟨target', span', field', limit'⟩ := other
  cases target <;> cases target' <;> cases field <;> cases field' <;> simp [weight] <;> omega

/-- Two directives that cover an event and are equally close are about the same. -/
theorem sameSubject_of_closeness_eq {d other : Directive} {e : Event}
    (hd : d.covers e = true) (hother : other.covers e = true)
    (level : d.closeness = other.closeness) : d.sameSubject other = true := by
  obtain ⟨path, noSpan, test⟩ := covers_iff.mp hd
  obtain ⟨path', noSpan', test'⟩ := covers_iff.mp hother
  obtain ⟨weights, names⟩ := Prod.mk.inj (toLex.injective level)
  obtain ⟨lengths, asks⟩ := weight_eq_iff.mp weights
  have targets : d.target = other.target := by
    cases target : d.target with
    | none =>
      rw [target, Option.map_none, eq_comm, Option.map_eq_none_iff] at lengths
      exact lengths.symm
    | some p =>
      rw [target, Option.map_some, eq_comm] at lengths
      obtain ⟨p', target', length⟩ := Option.map_eq_some_iff.mp lengths
      rw [target', path_eq_of_length_eq (path p target) (path' p' target') length.symm]
  have fields : d.field = other.field := by
    cases field : d.field with
    | none =>
      rw [field, Option.isSome_none, eq_comm, Option.isSome_eq_false_iff,
        Option.isNone_iff_eq_none] at asks
      exact asks.symm
    | some t =>
      rw [field, Option.isSome_some, eq_comm] at asks
      obtain ⟨t', field'⟩ := Option.isSome_iff_exists.mp asks
      obtain ⟨name, value⟩ := t
      obtain ⟨name', value'⟩ := t'
      obtain rfl : value = none := (test _ field).1
      obtain rfl : value' = none := (test' _ field').1
      obtain rfl : name = name' := by simpa [fieldName, field, field'] using names
      exact field'.symm
  simp [sameSubject, fields, targets, noSpan, noSpan']

end Directive

/-- Of the directives of a text that cover an event a single one decides. -/
theorem Filter.Distinct.deciding?_eq_some_iff {f : Filter} (h : f.Distinct) {e : Event}
    {d : Directive} : f.deciding? e = some d ↔ f.Decides e d := by
  rcases f.decides_or_uncovered e with ⟨own, hown, deciding⟩ | ⟨hnone, uncovered⟩
  · rw [hown, Option.some_inj]
    refine ⟨fun same => same ▸ deciding, fun decides => ?_⟩
    have level : own.closeness = d.closeness := by
      have behind := deciding.closest d decides.mem decides.covers
      have ahead := decides.closest own deciding.mem deciding.covers
      rw [← Bool.not_eq_true, Directive.isCloserThan_iff, not_lt] at behind ahead
      exact le_antisymm ahead behind
    have same := Directive.sameSubject_of_closeness_eq deciding.covers decides.covers level
    have : Std.Symm fun d other : Directive => d.sameSubject other = false :=
      ⟨fun d other apart => other.sameSubject_comm d ▸ apart⟩
    by_contra differ
    rw [h.forall deciding.mem decides.mem differ] at same
    cases same
  · rw [hnone]
    refine ⟨nofun, fun decides => ?_⟩
    have covers := decides.covers
    rw [uncovered d decides.mem] at covers
    cases covers

end ReportRules.Trace
