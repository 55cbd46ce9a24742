import Mathlib.Data.List.Nodup
import Mathlib.Data.List.Perm.Basic

/-!
Go's built-in `map`, as the registry and the broadcaster use it: a finite table with distinct
keys, read with `m[k]`, written with `m[k] = v` and `delete(m, k)`, and walked with `range`.
Go fixes no iteration order, and the runtime picks a new one for every `range`, so each
function that ranges over a map takes the order it ranges in as an argument, an `Order`
of that map: any listing of its entries.
-/

namespace Wc3ts

/-- A Go `map[κ]α`: its entries, keys distinct. The list order means nothing. -/
structure GoMap (κ α : Type) where
  entries : List (κ × α)
  nodup : (entries.map Prod.fst).Nodup

namespace GoMap

variable {κ α : Type}

/-- `make(map[κ]α)`. -/
def empty : GoMap κ α := ⟨[], List.nodup_nil⟩

@[simp] theorem entries_empty : (empty : GoMap κ α).entries = [] := rfl

/-- One order in which a `range` over `m` may visit its entries. -/
def Order (m : GoMap κ α) := {order : List (κ × α) // order.Perm m.entries}

/-- The order the entries happen to be stored in; any other is as good. -/
def Order.stored (m : GoMap κ α) : m.Order := ⟨m.entries, List.Perm.refl _⟩

theorem Order.mem_iff {m : GoMap κ α} (order : m.Order) {entry : κ × α} :
    entry ∈ order.val ↔ entry ∈ m.entries :=
  order.property.mem_iff

/-- Distinct keys: two entries under one key are the same entry. -/
theorem eq_of_mem {m : GoMap κ α} {key : κ} {first second : α}
    (firstMem : (key, first) ∈ m.entries) (secondMem : (key, second) ∈ m.entries) :
    first = second := by
  have := List.inj_on_of_nodup_map m.nodup firstMem secondMem rfl
  simpa using this

variable [DecidableEq κ]

/-- `m[key]`, with the comma-ok result as an `Option`. -/
def lookup (m : GoMap κ α) (key : κ) : Option α :=
  (m.entries.find? (·.1 = key)).map Prod.snd

/-- `delete(m, key)`. -/
def delete (m : GoMap κ α) (key : κ) : GoMap κ α :=
  ⟨m.entries.filter (·.1 ≠ key), (List.filter_sublist _).map _ |>.nodup m.nodup⟩

/-- `m[key] = value`: the new entry replaces any entry under the key. -/
def insert (m : GoMap κ α) (key : κ) (value : α) : GoMap κ α :=
  ⟨(key, value) :: (m.delete key).entries, by
    refine List.nodup_cons.mpr ⟨?_, (m.delete key).nodup⟩
    simp [delete]⟩

/-! ### Entries and lookups -/

@[simp] theorem lookup_empty (key : κ) : (empty : GoMap κ α).lookup key = none := rfl

theorem lookup_eq_some_iff {m : GoMap κ α} {key : κ} {value : α} :
    m.lookup key = some value ↔ (key, value) ∈ m.entries := by
  constructor
  · intro found
    obtain ⟨entry, entryFound, rfl⟩ := Option.map_eq_some'.mp found
    have sameKey : entry.1 = key := by simpa using List.find?_some entryFound
    rw [← sameKey]
    exact List.mem_of_find?_eq_some entryFound
  · intro member
    obtain ⟨entry, entryFound⟩ : ∃ entry, m.entries.find? (·.1 = key) = some entry :=
      Option.isSome_iff_exists.mp (List.find?_isSome.mpr ⟨_, member, by simp⟩)
    have sameKey : entry.1 = key := by simpa using List.find?_some entryFound
    have entryMem := List.mem_of_find?_eq_some entryFound
    obtain ⟨key', value'⟩ := entry
    cases sameKey
    simp only [lookup, entryFound, Option.map_some', Option.some.injEq]
    exact eq_of_mem entryMem member

theorem lookup_eq_none_iff {m : GoMap κ α} {key : κ} :
    m.lookup key = none ↔ ∀ value, (key, value) ∉ m.entries := by
  constructor
  · intro missing value member
    rw [lookup_eq_some_iff.mpr member] at missing
    cases missing
  · intro absent
    cases found : m.lookup key with
    | none => rfl
    | some value => exact absurd (lookup_eq_some_iff.mp found) (absent value)

@[simp] theorem mem_delete {m : GoMap κ α} {key : κ} {entry : κ × α} :
    entry ∈ (m.delete key).entries ↔ entry ∈ m.entries ∧ entry.1 ≠ key := by
  simp [delete]

@[simp] theorem mem_insert {m : GoMap κ α} {key : κ} {value : α} {entry : κ × α} :
    entry ∈ (m.insert key value).entries ↔
      entry = (key, value) ∨ entry ∈ m.entries ∧ entry.1 ≠ key := by
  simp [insert]

theorem lookup_insert (m : GoMap κ α) (key other : κ) (value : α) :
    (m.insert key value).lookup other = if other = key then some value else m.lookup other := by
  cases found : (m.insert key value).lookup other with
  | none =>
    have absent := lookup_eq_none_iff.mp found
    split
    · subst other
      exact absurd (mem_insert.mpr (.inl rfl)) (absent value)
    · rename_i different
      symm
      exact lookup_eq_none_iff.mpr fun value member =>
        absent value (mem_insert.mpr (.inr ⟨member, different⟩))
  | some stored =>
    have member := mem_insert.mp (lookup_eq_some_iff.mp found)
    split
    · rename_i same
      rcases member with equal | ⟨_, different⟩
      · cases equal; rfl
      · exact absurd same different
    · rename_i different
      rcases member with equal | ⟨member, _⟩
      · cases equal; exact absurd rfl different
      · exact (lookup_eq_some_iff.mpr member).symm

theorem lookup_delete (m : GoMap κ α) (key other : κ) :
    (m.delete key).lookup other = if other = key then none else m.lookup other := by
  split
  · subst other
    exact lookup_eq_none_iff.mpr fun value member => (mem_delete.mp member).2 rfl
  · rename_i different
    cases found : m.lookup other with
    | none => exact lookup_eq_none_iff.mpr fun value member =>
        lookup_eq_none_iff.mp found value (mem_delete.mp member).1
    | some value =>
      exact lookup_eq_some_iff.mpr (mem_delete.mpr ⟨lookup_eq_some_iff.mp found, different⟩)

/-- Two maps that answer every lookup alike list the same entries. -/
theorem perm_of_lookup_eq {m m' : GoMap κ α} (same : ∀ key, m.lookup key = m'.lookup key) :
    m.entries.Perm m'.entries := by
  refine (List.perm_ext_iff_of_nodup (List.Nodup.of_map _ m.nodup)
    (List.Nodup.of_map _ m'.nodup)).mpr fun ⟨key, value⟩ => ?_
  rw [← lookup_eq_some_iff, ← lookup_eq_some_iff, same]

end GoMap

end Wc3ts
