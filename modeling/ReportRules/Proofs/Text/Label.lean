import Mathlib.Data.List.Chain
import Mathlib.Data.List.TakeWhile
import ReportRules.Proofs.Text.Runs
import ReportRules.Proofs.Text.Uppercase

/-!
# ReportRules.Proofs.Text.Label -- labels are in normal form

The words of a field id are its maximal runs without separators (`SplitsInto`), and an id splits
into words in one way only. Its label shows these words, each with an upper-case first character and
a single space before the next one. So the label splits into as many words (`splitsInto_joined`).
An upper-case form starts with a character that is its own upper-case form, and labelling a label
changes nothing.
-/

namespace ReportRules.Text

/-! ## Words -/

/-- A word: a first character and the rest, none of them a separator. -/
@[ext]
structure Word where
  first : Char
  tail : List Char
  solid : ∀ c ∈ first :: tail, isSeparator c = false

namespace Word

/-- The characters of a word. -/
def chars (w : Word) : List Char :=
  w.first :: w.tail

theorem chars_ne_nil (w : Word) : w.chars ≠ [] :=
  List.cons_ne_nil _ _

theorem chars_injective : Function.Injective chars := by
  intro v w h
  obtain ⟨first, tail⟩ := List.cons.inj h
  exact Word.ext first tail

end Word

/-- The words of a text in order. Separators stand before and behind words; a word goes on until the
next separator or the end of the text. -/
inductive SplitsInto : List Char → List Word → Prop
  | nil : SplitsInto [] []
  | separator {c : Char} {cs : List Char} {ws : List Word} (hc : isSeparator c = true)
      (later : SplitsInto cs ws) : SplitsInto (c :: cs) ws
  | word {w : Word} {rest : List Char} {ws : List Word} (ends : Ends (!isSeparator ·) rest)
      (later : SplitsInto rest ws) : SplitsInto (w.chars ++ rest) (w :: ws)

theorem words_cons_separator {c : Char} (hc : isSeparator c = true) (cs : List Char) :
    words (c :: cs) = words cs := by
  unfold words
  rw [pieces_cons_separator hc]
  rfl

theorem words_chars (w : Word) : words w.chars = [w.chars] := by
  have whole : pieces isSeparator w.chars = [w.chars] := pieces_of_none w.solid
  unfold words
  rw [whole]
  rfl

theorem words_append (w : Word) {rest : List Char} (ends : Ends (!isSeparator ·) rest) :
    words (w.chars ++ rest) = w.chars :: words rest := by
  cases rest with
  | nil =>
    rw [List.append_nil, words_chars]
    rfl
  | cons c more =>
    -- the separator behind the word cuts the text in two
    have separator : isSeparator c = true := by simpa using ends c more rfl
    have both : words (w.chars ++ c :: more) = words w.chars ++ words more := by
      unfold words
      rw [pieces_append w.chars separator more, List.filter_append]
    rw [both, words_chars, words_cons_separator separator]
    rfl

namespace SplitsInto

variable {cs : List Char} {vs ws : List Word}

theorem words_eq (h : SplitsInto cs ws) : words cs = ws.map Word.chars := by
  induction h with
  | nil => rfl
  | separator hc _ ih => rw [words_cons_separator hc, ih]
  | word ends _ ih => rw [words_append _ ends, ih, List.map_cons]

theorem unique (h : SplitsInto cs vs) (h' : SplitsInto cs ws) : vs = ws :=
  List.map_injective_iff.mpr Word.chars_injective (h.words_eq.symm.trans h'.words_eq)

theorem eq_nil_iff (h : SplitsInto cs ws) : ws = [] ↔ ∀ c ∈ cs, isSeparator c = true := by
  induction h with
  | nil => exact iff_of_true rfl (List.forall_mem_nil _)
  | separator hc _ ih => rw [ih, List.forall_mem_cons, and_iff_right hc]
  | @word w rest ws _ _ _ =>
    refine iff_of_false (List.cons_ne_nil _ _) fun separators => ?_
    have visible : isSeparator w.first = false := w.solid w.first List.mem_cons_self
    rw [separators w.first List.mem_cons_self] at visible
    cases visible

end SplitsInto

/-- Every text splits into words. -/
theorem exists_splitsInto : (cs : List Char) → ∃ ws, SplitsInto cs ws
  | [] => ⟨[], .nil⟩
  | c :: cs => by
    cases hc : isSeparator c with
    | true =>
      obtain ⟨ws, later⟩ := exists_splitsInto cs
      exact ⟨ws, .separator hc later⟩
    | false =>
      -- a word begins: it takes what comes before the next separator, and the words of the
      -- remaining text follow it
      have solid : ∀ d ∈ c :: cs.takeWhile (!isSeparator ·), isSeparator d = false :=
        List.forall_mem_cons.mpr ⟨hc, fun d hd => by simpa using List.mem_takeWhile_imp hd⟩
      have shorter : (cs.dropWhile (!isSeparator ·)).length ≤ cs.length :=
        List.length_dropWhile_le _ cs
      obtain ⟨ws, later⟩ := exists_splitsInto (cs.dropWhile (!isSeparator ·))
      have split := SplitsInto.word (w := ⟨c, _, solid⟩) (ends_dropWhile _ cs) later
      rw [Word.chars, List.cons_append, List.takeWhile_append_dropWhile] at split
      exact ⟨_, split⟩
termination_by cs => cs.length

/-! ## Words with single spaces between them -/

/-- Separators stand in a text only as single spaces between other characters. -/
structure SinglySpaced (cs : List Char) : Prop where
  spaces : ∀ c ∈ cs, isSeparator c = true → c = ' '
  single : cs.IsChain fun c d => isSeparator c = false ∨ isSeparator d = false
  start : ∀ c ∈ cs.head?, isSeparator c = false
  stop : ∀ c ∈ cs.getLast?, isSeparator c = false

theorem singlySpaced_of_solid {cs : List Char} (solid : ∀ c ∈ cs, isSeparator c = false) :
    SinglySpaced cs where
  spaces c hc separator := by
    rw [solid c hc] at separator
    cases separator
  single := by
    refine List.Pairwise.isChain (List.pairwise_of_forall_mem_list ?_)
    intro c hc d _
    exact .inl (solid c hc)
  start c hc := solid c (List.mem_of_mem_head? hc)
  stop c hc := solid c (List.mem_of_mem_getLast? hc)

theorem SinglySpaced.append {cs ds : List Char} (left : SinglySpaced cs) (right : SinglySpaced ds)
    (hcs : cs ≠ []) (hds : ds ≠ []) : SinglySpaced (cs ++ ' ' :: ds) where
  spaces := by
    have later : ∀ c ∈ ' ' :: ds, isSeparator c = true → c = ' ' :=
      List.forall_mem_cons.mpr ⟨fun _ => rfl, right.spaces⟩
    exact List.forall_mem_append.mpr ⟨left.spaces, later⟩
  single := by
    have later : (' ' :: ds).IsChain fun c d => isSeparator c = false ∨ isSeparator d = false :=
      List.isChain_cons.mpr ⟨fun d hd => .inr (right.start d hd), right.single⟩
    exact List.isChain_append.mpr ⟨left.single, later, fun c hc _ _ => .inl (left.stop c hc)⟩
  start := by
    rw [List.head?_append_of_ne_nil _ hcs]
    exact left.start
  stop := by
    rw [List.getLast?_append_cons, List.getLast?_cons_of_ne_nil hds]
    exact right.stop

/-- Words in order, with a space between any two of them. -/
def joined (ws : List Word) : List Char :=
  [' '].intercalate (ws.map Word.chars)

theorem joined_singleton (w : Word) : joined [w] = w.chars :=
  List.intercalate_singleton

theorem joined_cons_cons (w v : Word) (ws : List Word) :
    joined (w :: v :: ws) = w.chars ++ ' ' :: joined (v :: ws) := by
  unfold joined
  rw [List.map_cons, List.map_cons, List.intercalate_cons_cons, List.append_assoc]
  rfl

theorem joined_cons_ne_nil (w : Word) (ws : List Word) : joined (w :: ws) ≠ [] := by
  cases ws with
  | nil =>
    rw [joined_singleton]
    exact w.chars_ne_nil
  | cons v ws =>
    rw [joined_cons_cons]
    exact List.append_ne_nil_of_left_ne_nil w.chars_ne_nil _

theorem joined_eq_nil_iff {ws : List Word} : joined ws = [] ↔ ws = [] := by
  cases ws with
  | nil => exact iff_of_true rfl rfl
  | cons w ws => exact iff_of_false (joined_cons_ne_nil w ws) (List.cons_ne_nil w ws)

theorem singlySpaced_joined : (ws : List Word) → SinglySpaced (joined ws)
  | [] => singlySpaced_of_solid (List.forall_mem_nil _)
  | [w] => by
    rw [joined_singleton]
    exact singlySpaced_of_solid w.solid
  | w :: v :: ws => by
    rw [joined_cons_cons]
    exact (singlySpaced_of_solid w.solid).append (singlySpaced_joined (v :: ws)) w.chars_ne_nil
      (joined_cons_ne_nil v ws)

/-- Joined words split into themselves. -/
theorem splitsInto_joined : (ws : List Word) → SplitsInto (joined ws) ws
  | [] => .nil
  | [w] => by
    rw [joined_singleton, ← List.append_nil w.chars]
    exact .word (ends_nil _) .nil
  | w :: v :: ws => by
    rw [joined_cons_cons]
    exact .word (ends_cons rfl _) (.separator rfl (splitsInto_joined (v :: ws)))

/-! ## Capitalized words -/

namespace Word

/-- A word with an upper-case first character. -/
def capital (w : Word) : Word where
  first := (upperChar w.first).head (upperChar_ne_nil w.first)
  tail := (upperChar w.first).tail ++ w.tail
  solid := by
    rw [← List.cons_append, List.cons_head_tail]
    have visible := List.forall_mem_cons.mp w.solid
    exact List.forall_mem_append.mpr
      ⟨fun c hc => isSeparator_of_mem_upperChar visible.1 hc, visible.2⟩

theorem chars_capital (w : Word) : w.capital.chars = upperChar w.first ++ w.tail := by
  change (upperChar w.first).head _ :: ((upperChar w.first).tail ++ w.tail) = _
  rw [← List.cons_append, List.cons_head_tail]

theorem capital_capital (w : Word) : w.capital.capital = w.capital := by
  -- the form may be longer than one character; only its first one is upper-cased again
  obtain ⟨first, more, form, own⟩ := exists_upperChar_eq w.first
  have start : w.capital.first = first := by
    simp only [capital, form, List.head_cons]
  apply chars_injective
  rw [chars_capital, start, own, ← start]
  rfl

end Word

/-- The label of an id shows its words, capitalized. -/
theorem toList_label {id : String} {ws : List Word} (h : SplitsInto id.toList ws) :
    (label id).toList = joined (ws.map Word.capital) := by
  unfold label joined
  rw [String.toList_ofList, h.words_eq, List.map_map, List.map_map]
  refine congrArg [' '].intercalate (List.map_congr_left fun w _ => ?_)
  exact w.chars_capital.symm

/-- **Labels.** An id splits into words in exactly one way, and its label is these words in order
with single spaces between them, each with the upper-case form of its first character and the rest
as it is. So the separators of a label are single spaces inside it, only an id without words has an
empty label, and a label is its own label. -/
theorem label_joins_capitalized_words (id : String) :
    (∃ ws, (∀ vs, SplitsInto id.toList vs ↔ vs = ws) ∧
      (label id).toList = [' '].intercalate (ws.map fun w => upperChar w.first ++ w.tail)) ∧
    SinglySpaced (label id).toList ∧
    (label id = "" ↔ ∀ c ∈ id.toList, isSeparator c = true) ∧
    label (label id) = label id := by
  obtain ⟨ws, split⟩ := exists_splitsInto id.toList
  have shown : (label id).toList = joined (ws.map Word.capital) := toList_label split
  refine ⟨⟨ws, fun vs => ?_, ?_⟩, ?_, ?_, ?_⟩
  · constructor
    · intro other
      exact other.unique split
    · rintro rfl
      exact split
  · rw [shown, joined, List.map_map]
    exact congrArg [' '].intercalate (List.map_congr_left fun w _ => w.chars_capital)
  · rw [shown]
    exact singlySpaced_joined _
  · rw [← String.toList_eq_nil_iff, shown, joined_eq_nil_iff, List.map_eq_nil_iff]
    exact split.eq_nil_iff
  · -- the label splits into the capitalized words, which capitalizing leaves as they are
    have again : SplitsInto (label id).toList (ws.map Word.capital) := by
      rw [shown]
      exact splitsInto_joined _
    have same : (ws.map Word.capital).map Word.capital = ws.map Word.capital := by
      rw [List.map_map]
      exact List.map_congr_left fun w _ => w.capital_capital
    apply String.toList_inj.mp
    rw [toList_label again, same, shown]

example : label "_ﬁeld \u2003-ßize" = "FIeld SSize" := by
  decide +kernel

end ReportRules.Text
