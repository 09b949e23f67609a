import Mathlib.Data.List.Basic
import ReportRules.Text.Words

/-!
# ReportRules.Proofs.Text.Uppercase -- what the upper-case tables keep apart

Upper-casing the first character of an upper-case form changes nothing any more
(`exists_upperChar_eq`), and upper-casing makes no separator of another character
(`isSeparator_of_mem_upperChar`). Both are properties of the two tables: no form starts with a
character that a table maps, and no form holds a separator.
-/

namespace ReportRules.Text

/-! ## Sets of numbers as bits -/

/-- The numbers of a list as the bits of one number. -/
def bits (ns : List Nat) : Nat :=
  ns.foldr (fun n set => 1 <<< n ||| set) 0

/-- The numbers of several lists as the bits of one number. -/
def marks (groups : List (List Nat)) : Nat :=
  groups.foldr (fun ns set => bits ns ||| set) 0

theorem testBit_bits (ns : List Nat) (n : Nat) : (bits ns).testBit n = true ↔ n ∈ ns := by
  induction ns with
  | nil => simp [bits]
  | cons m ns ih =>
    have step : bits (m :: ns) = 1 <<< m ||| bits ns := rfl
    have bit : (1 <<< m).testBit n = true ↔ n = m := by
      rw [Nat.one_shiftLeft, Nat.testBit_two_pow, decide_eq_true_eq, eq_comm]
    rw [step, Nat.testBit_or, Bool.or_eq_true, bit, ih, List.mem_cons]

theorem testBit_marks (groups : List (List Nat)) (n : Nat) :
    (marks groups).testBit n = true ↔ ∃ ns ∈ groups, n ∈ ns := by
  induction groups with
  | nil => simp [marks]
  | cons ns groups ih =>
    have step : marks (ns :: groups) = bits ns ||| marks groups := rfl
    rw [step, Nat.testBit_or, Bool.or_eq_true, testBit_bits, ih, List.exists_mem_cons_iff]

/-- Groups whose marks have no bit in common have no number in common. -/
theorem not_mem_of_marks {left right : List (List Nat)} (apart : marks left &&& marks right = 0)
    {n : Nat} (h : ∃ ns ∈ left, n ∈ ns) : ¬∃ ns ∈ right, n ∈ ns := by
  intro h'
  have both : (marks left &&& marks right).testBit n = true := by
    rw [Nat.testBit_and, (testBit_marks left n).mpr h, (testBit_marks right n).mpr h']
    rfl
  rw [apart, Nat.zero_testBit] at both
  cases both

/-! ## The tables -/

namespace Uppercase

/-- The code points of a run. -/
def Run.members (r : Run) : List Nat :=
  List.range' r.first ((r.last - r.first) / r.step + 1) r.step

theorem Run.mem_members {r : Run} {n : Nat} (h : r.holds n = true) : n ∈ r.members := by
  simp only [holds, Bool.and_eq_true, decide_eq_true_eq, beq_iff_eq] at h
  obtain ⟨⟨low, high⟩, onStep⟩ := h
  have distance : r.step * ((n - r.first) / r.step) = n - r.first := by
    have parts := Nat.div_add_mod (n - r.first) r.step
    omega
  refine List.mem_range'.mpr ⟨(n - r.first) / r.step, ?_, by omega⟩
  exact Nat.lt_succ_of_le (Nat.div_le_div_right (by omega))

/-- Each code point of a run with its upper-case form. -/
def Run.mappings (r : Run) : List (Nat × List Char) :=
  r.members.map fun (n : Nat) => (n, [Char.ofNat ((n : Int) + r.shift).toNat])

/-- Both tables row by row, each code point with its upper-case form. -/
def rows : List (List (Nat × List Char)) :=
  expansions.map (fun (n, form) => [(n, form.map Char.ofNat)]) ++ simpleRuns.map Run.mappings

/-- A form has characters, and none of them is a separator. -/
def isSolid (form : List Char) : Bool :=
  !form.isEmpty && form.all (!isSeparator ·)

theorem rows_solid : (rows.all fun row => row.all fun m => isSolid m.2) = true := by
  decide +kernel

theorem isSolid_of_mem {row : List (Nat × List Char)} (hrow : row ∈ rows) {n : Nat}
    {form : List Char} (h : (n, form) ∈ row) :
    form ≠ [] ∧ ∀ c ∈ form, isSeparator c = false := by
  have solid := List.all_eq_true.mp (List.all_eq_true.mp rows_solid row hrow) _ h
  simpa [isSolid] using solid

/-- The code points that have an upper-case form. -/
def mapped : List (List Nat) :=
  rows.map fun row => row.map (·.1)

/-- The code points that upper-case forms start with. -/
def heads : List (List Nat) :=
  rows.map fun row => row.filterMap fun m => m.2.head?.map Char.toNat

/-- No upper-case form starts with a character that has one. -/
theorem heads_apart : marks heads &&& marks mapped = 0 := by
  -- the marks compare all heads with all mapped code points at once, where look-ups take minutes
  decide +kernel

theorem mem_heads {row : List (Nat × List Char)} (hrow : row ∈ rows) {n : Nat} {first : Char}
    {more : List Char} (h : (n, first :: more) ∈ row) : ∃ ns ∈ heads, first.toNat ∈ ns :=
  ⟨_, List.mem_map_of_mem hrow, List.mem_filterMap.mpr ⟨_, h, rfl⟩⟩

theorem mem_mapped {row : List (Nat × List Char)} (hrow : row ∈ rows) {n : Nat} {form : List Char}
    (h : (n, form) ∈ row) : ∃ ns ∈ mapped, n ∈ ns :=
  ⟨_, List.mem_map_of_mem hrow, List.mem_map.mpr ⟨_, h, rfl⟩⟩

theorem exists_row_of_expansion {n : Nat} {form : List Nat} (h : (n, form) ∈ expansions) :
    ∃ row ∈ rows, (n, form.map Char.ofNat) ∈ row :=
  ⟨_, List.mem_append_left _ (List.mem_map_of_mem h), List.mem_cons_self⟩

theorem exists_row_of_run {r : Run} (h : r ∈ simpleRuns) {n : Nat} (holds : r.holds n = true) :
    ∃ row ∈ rows, (n, [Char.ofNat ((n : Int) + r.shift).toNat]) ∈ row :=
  ⟨_, List.mem_append_right _ (List.mem_map_of_mem h),
    List.mem_map.mpr ⟨n, Run.mem_members holds, rfl⟩⟩

end Uppercase

/-! ## The upper-case form of a character -/

open Uppercase

/-- A character either has the upper-case form of a row, or it is its own. -/
theorem upperChar_cases (c : Char) :
    (∃ row ∈ rows, (c.toNat, upperChar c) ∈ row) ∨ upperChar c = [c] := by
  unfold upperChar
  dsimp only
  split
  case h_1 n form found =>
    obtain rfl : n = c.toNat := by simpa using List.find?_some found
    exact .inl (exists_row_of_expansion (List.mem_of_find?_eq_some found))
  case h_2 =>
    split
    case h_1 r found =>
      have holds : r.holds c.toNat = true := by simpa using List.find?_some found
      exact .inl (exists_row_of_run (List.mem_of_find?_eq_some found) holds)
    case h_2 => exact .inr rfl

theorem upperChar_of_not_mapped {c : Char} (h : ¬∃ ns ∈ mapped, c.toNat ∈ ns) :
    upperChar c = [c] := by
  rcases upperChar_cases c with ⟨row, hrow, entry⟩ | own
  · exact absurd (mem_mapped hrow entry) h
  · exact own

/-- An upper-case form starts with a character that is its own upper-case form. -/
theorem exists_upperChar_eq (c : Char) :
    ∃ first more, upperChar c = first :: more ∧ upperChar first = [first] := by
  rcases upperChar_cases c with ⟨row, hrow, entry⟩ | own
  · cases form : upperChar c with
    | nil => exact absurd form (isSolid_of_mem hrow entry).1
    | cons first more =>
      rw [form] at entry
      refine ⟨first, more, rfl, upperChar_of_not_mapped ?_⟩
      exact not_mem_of_marks heads_apart (mem_heads hrow entry)
  · exact ⟨c, [], own, own⟩

theorem upperChar_ne_nil (c : Char) : upperChar c ≠ [] := by
  obtain ⟨first, more, form, _⟩ := exists_upperChar_eq c
  rw [form]
  exact List.cons_ne_nil first more

theorem isSeparator_of_mem_upperChar {c d : Char} (hc : isSeparator c = false)
    (hd : d ∈ upperChar c) : isSeparator d = false := by
  rcases upperChar_cases c with ⟨row, hrow, entry⟩ | own
  · exact (isSolid_of_mem hrow entry).2 d hd
  · rw [own, List.mem_singleton] at hd
    rw [hd]
    exact hc

end ReportRules.Text
