import Mathlib.Data.List.TakeWhile
import ReportRules.Http.Route
import ReportRules.Proofs.Text.Figures
import ReportRules.Proofs.Text.Octets
import ReportRules.Proofs.Text.Runs
import ReportRules.Service

/-!
# ReportRules.Proofs.Http.Path -- the path of a report

A report is asked for by writing its id behind a fixed path. Ids are free of all that a path cuts at
or rewrites, so an id is written there as it is: the path leads to the report, and decoding gives
the id back.
-/

namespace ReportRules

namespace Http

/-! ## Texts without percent signs -/

/-- Reading bytes from a position on: what was read, and the bytes from there. -/
theorem toList_loop (bytes : ByteArray) (i : Nat) (read : List UInt8) :
    ByteArray.toList.loop bytes i read = read.reverse ++ bytes.data.toList.drop i := by
  fun_induction ByteArray.toList.loop bytes i read with
  | case1 i read inside ih =>
    have position : i < bytes.data.toList.length := inside
    have next : bytes.get! i = bytes.data.toList[i] := by
      simp [ByteArray.get!, inside]
    rw [ih, List.drop_eq_getElem_cons position, next, List.reverse_cons, List.append_assoc]
    rfl
  | case2 i read outside =>
    have position : bytes.data.toList.length ≤ i := Nat.le_of_not_lt outside
    rw [List.drop_eq_nil_of_le position, List.append_nil]

theorem toList_toUTF8 (s : String) : s.toUTF8.toList = Text.octets s :=
  toList_loop s.toUTF8 0 []

theorem percentBytes_of_plain {cs : List Char} (plain : '%' ∉ cs) :
    percentBytes cs = Text.octets (String.ofList cs) := by
  fun_induction percentBytes cs with
  | case1 => rfl
  | case2 => exact absurd List.mem_cons_self plain
  | case3 => exact absurd List.mem_cons_self plain
  | case4 c rest _ ih =>
    rw [ih fun h => plain (List.mem_cons_of_mem _ h), toList_toUTF8, Text.octets_eq_flatMap,
      Text.octets_eq_flatMap, Text.octets_eq_flatMap]
    simp only [String.toList_ofList, List.flatMap_cons, List.flatMap_nil, List.append_nil]

/-- A text without a percent sign stands for itself. -/
theorem percentDecode?_of_plain {cs : List Char} (plain : '%' ∉ cs) :
    percentDecode? cs = some (String.ofList cs) := by
  have bytes : (⟨(percentBytes cs).toArray⟩ : ByteArray) = (String.ofList cs).toByteArray := by
    rw [percentBytes_of_plain plain]
    rfl
  unfold percentDecode? String.fromUTF8?
  rw [bytes, dif_pos (String.ofList cs).isValidUTF8]
  rfl

/-! ## Paths of reports -/

/-- The path of submissions. -/
def submissionsPath : String :=
  "/api/v1/service-reports/submissions"

/-- The path of the report with an id. -/
def reportPath (id : String) : String :=
  submissionsPath ++ "/" ++ id

/-- The characters that a path gives a meaning of their own. -/
def reserved : List Char :=
  ['/', '?', '#', ':', '%']

/-- A target without an origin, a query and a fragment is a path. -/
theorem pathOf_of_plain {target : String} (plain : ∀ c ∈ target.toList, c ∉ ['?', '#', ':']) :
    pathOf target = target.toList := by
  have whole : (target.toList.takeWhile fun c => c != '?' && c != '#') = target.toList := by
    rw [List.takeWhile_eq_self_iff]
    intro c hc
    have := plain c hc
    simp_all
  have noColon : (target.toList.dropWhile fun c => c != ':') = [] := by
    rw [List.dropWhile_eq_nil_iff]
    intro c hc
    have := plain c hc
    simp_all
  unfold pathOf withoutOrigin
  rw [whole, noColon]

/-- An id in which nothing is reserved is written in a path as it is. -/
theorem ofTarget?_reportPath {id : String} (plain : ∀ c ∈ id.toList, c ∉ reserved)
    (given : id ≠ "") : Route.ofTarget? (reportPath id) = some (.report id.toList) := by
  have written : (reportPath id).toList = submissionsPath.toList ++ '/' :: id.toList := by
    rw [reportPath, String.toList_append, String.toList_append, List.append_assoc]
    rfl
  have path : pathOf (reportPath id) = submissionsPath.toList ++ '/' :: id.toList := by
    have fixed : submissionsPath.toList.all (· ∉ ['?', '#', ':']) = true := by decide +kernel
    rw [pathOf_of_plain, written]
    intro c hc
    rw [written, List.mem_append, List.mem_cons] at hc
    rcases hc with hc | rfl | hc
    · exact of_decide_eq_true (List.all_eq_true.mp fixed c hc)
    · decide
    · have := plain c hc
      simp_all [reserved]
  have uncut : Text.pieces (· == '/') id.toList = [id.toList] := by
    refine Text.pieces_of_none fun c hc => ?_
    have := plain c hc
    simp_all [reserved]
  have fixed : (Text.pieces (· == '/') submissionsPath.toList).map String.ofList =
      ["", "api", "v1", "service-reports", "submissions"] := by
    decide +kernel
  have pieces : (Text.pieces (· == '/') (pathOf (reportPath id))).map String.ofList =
      ["", "api", "v1", "service-reports", "submissions", id] := by
    rw [path, Text.pieces_append _ (by decide), uncut, List.map_append, List.map_singleton,
      String.ofList_toList, fixed]
    rfl
  unfold Route.ofTarget?
  rw [pieces]
  have : id.isEmpty = false := by simpa using given
  simp [this]

/-- An id is a fixed text and figures, and nothing in it is reserved. -/
theorem not_reserved_of_mem_reportId {number : UInt64} {c : Char}
    (hc : c ∈ (reportId number).toList) : c ∉ reserved := by
  have letters : "sr-".toList.all (· ∉ reserved) = true := by decide +kernel
  have figures : reserved.any Text.isFigure = false := by decide
  rw [reportId, String.toList_append, List.mem_append] at hc
  rcases hc with hc | hc
  · exact of_decide_eq_true (List.all_eq_true.mp letters c hc)
  · rw [String.toList_ofList] at hc
    intro h
    exact List.any_eq_false.mp figures c h (Text.isFigure_of_mem_paddedFigures hc)

theorem reportId_ne_empty (number : UInt64) : reportId number ≠ "" := by
  rw [reportId, Ne, String.append_eq_empty_iff]
  exact fun h => absurd h.1 (by decide)

/-- A report's id leads to the report and is read back. -/
theorem ofTarget?_reportId (number : UInt64) :
    Route.ofTarget? (reportPath (reportId number)) = some (.report (reportId number).toList) :=
  ofTarget?_reportPath (fun _ hc => not_reserved_of_mem_reportId hc) (reportId_ne_empty number)

theorem percentDecode?_reportId (number : UInt64) :
    percentDecode? (reportId number).toList = some (reportId number) := by
  have plain : '%' ∉ (reportId number).toList :=
    fun h => not_reserved_of_mem_reportId h (by decide)
  rw [percentDecode?_of_plain plain, String.ofList_toList]

end Http

end ReportRules
