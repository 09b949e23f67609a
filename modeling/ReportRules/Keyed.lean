/-!
# ReportRules.Keyed -- finite maps from texts, in ascending key order

Everything that is looked up by a text and listed in order is a `Keyed` map: form records, the
rules that require a field, the evidence asked for by each rule. The entries are kept in strictly
ascending order of their keys, code point by code point, so two maps with the same content are
equal and every listing is sorted.
-/

namespace ReportRules

variable {α : Type}

/-- A map from texts to `α`, as a list of entries with strictly ascending keys. -/
structure Keyed (α : Type) where
  /-- The entries in ascending order of their keys. -/
  entries : List (String × α)
  /-- No key is repeated and none is out of order. -/
  ascending : entries.Pairwise (fun a b => a.1 < b.1)

namespace Keyed

/-- Put an entry into an ascending list, replacing the entry of the same key. -/
def insertEntry (key : String) (value : α) : List (String × α) → List (String × α)
  | [] => [(key, value)]
  | (k, v) :: rest =>
    if key = k then (key, value) :: rest
    else if key < k then (key, value) :: (k, v) :: rest
    else (k, v) :: insertEntry key value rest

/-- The keys after an insertion are the new key and keys that were there. -/
theorem mem_insertEntry {key : String} {value : α} {entry : String × α}
    {entries : List (String × α)} (h : entry ∈ insertEntry key value entries) :
    entry = (key, value) ∨ entry ∈ entries := by
  induction entries with
  | nil => simpa [insertEntry] using h
  | cons head rest ih =>
    obtain ⟨k, v⟩ := head
    simp only [insertEntry] at h
    split at h
    · rcases List.mem_cons.mp h with h | h
      · exact Or.inl h
      · exact Or.inr (List.mem_cons_of_mem _ h)
    · split at h
      · exact List.mem_cons.mp h
      · rcases List.mem_cons.mp h with h | h
        · exact Or.inr (h ▸ List.mem_cons_self)
        · rcases ih h with h | h
          · exact Or.inl h
          · exact Or.inr (List.mem_cons_of_mem _ h)

/-- Insertion keeps the keys strictly ascending. -/
theorem pairwise_insertEntry (key : String) (value : α) {entries : List (String × α)}
    (h : entries.Pairwise (fun a b => a.1 < b.1)) :
    (insertEntry key value entries).Pairwise (fun a b => a.1 < b.1) := by
  induction entries with
  | nil => simp [insertEntry]
  | cons head rest ih =>
    obtain ⟨k, v⟩ := head
    obtain ⟨hhead, hrest⟩ := List.pairwise_cons.mp h
    simp only [insertEntry]
    split
    · rename_i same
      subst same
      exact List.pairwise_cons.mpr ⟨hhead, hrest⟩
    · rename_i different
      split
      · rename_i before
        refine List.pairwise_cons.mpr ⟨fun entry hentry => ?_, h⟩
        rcases List.mem_cons.mp hentry with rfl | hentry
        · exact before
        · exact String.lt_trans before (hhead entry hentry)
      · rename_i notBefore
        refine List.pairwise_cons.mpr ⟨fun entry hentry => ?_, ih hrest⟩
        rcases mem_insertEntry hentry with rfl | hentry
        · rcases String.le_total key k with hle | hle
          · exact absurd (String.le_antisymm hle (String.not_lt.mp notBefore)) different
          · exact String.not_le.mp fun hback => different (String.le_antisymm hback hle)
        · exact hhead entry hentry

/-- The map without entries. -/
def empty : Keyed α :=
  ⟨[], .nil⟩

instance : Inhabited (Keyed α) :=
  ⟨empty⟩

/-- The value under a key. -/
def find? (m : Keyed α) (key : String) : Option α :=
  m.entries.lookup key

/-- Whether a key is present. -/
def contains (m : Keyed α) (key : String) : Bool :=
  (m.find? key).isSome

/-- Put a value under a key; a value that was there before is replaced. -/
def insert (m : Keyed α) (key : String) (value : α) : Keyed α :=
  ⟨insertEntry key value m.entries, pairwise_insertEntry key value m.ascending⟩

/-- Put a value under a key that has none yet. -/
def insertNew (m : Keyed α) (key : String) (value : α) : Keyed α :=
  if m.contains key then m else m.insert key value

/-- The map of a list of entries; of two entries with the same key the later one counts. -/
def ofList (entries : List (String × α)) : Keyed α :=
  entries.foldl (fun m entry => m.insert entry.1 entry.2) empty

/-- The keys in ascending order. -/
def keys (m : Keyed α) : List String :=
  m.entries.map Prod.fst

/-- The number of entries. -/
def size (m : Keyed α) : Nat :=
  m.entries.length

/-- Whether there is no entry. -/
def isEmpty (m : Keyed α) : Bool :=
  m.entries.isEmpty

/-- Two maps with the same entries are equal. -/
theorem ext {m n : Keyed α} (h : m.entries = n.entries) : m = n := by
  obtain ⟨_, _⟩ := m
  obtain ⟨_, _⟩ := n
  cases h
  rfl

instance [DecidableEq α] : DecidableEq (Keyed α) := fun m n =>
  if h : m.entries = n.entries then isTrue (ext h) else isFalse fun e => h (e ▸ rfl)

end Keyed

end ReportRules
