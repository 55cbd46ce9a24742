import Wc3ts.Tailscale.Discovery

/-!
`tui/model.go`'s `sortPeersByOS`, and the stores Go's `sort.Slice` makes while it sorts.

`Update` sorts the peer slice of a `PeersMsg` in place: by OS priority, Windows first, then
macOS, then the rest, and by name within a priority. `sort.Slice` sorts a slice of at most 12
elements by insertion sort (`insertionSort_func`), and swaps with `reflectlite.Swapper`: three
stores through a scratch value, `tmp = s[i]`, `s[i] = s[j]`, `s[j] = tmp`. Between the second
store and the third the slice holds `s[j]` twice and the old `s[i]` only in the scratch value.

`onPeersChanged` hands the probe engine the same slice, so every store is a state of the probe
engine's peer list (`peerSortStores`), and the copy `probeAllPeers` takes may see any of them
(`peerSliceAfter`). Every store holds only peers of the slice the sort started from
(`subset_of_mem_peerSortStores`); a slice the sort has to reorder passes through one that
lacks a peer (`mem_insertionSortStores`, `ne_of_mem_set`).
-/

namespace Wc3ts

/-! ### The order -/

/-- `osPriority`: Windows first, then macOS, then the rest. -/
def osPriority (os : String) : Nat :=
  match stringsToLower os with
  | "windows" => 0
  | "macos" => 1
  | "darwin" => 1
  | _ => 2

/-- The `less` function `sort.Slice` is given in `sortPeersByOS`: by OS priority, then by
name, in code point order, which is Go's byte order on UTF-8 strings. -/
def osBefore (first second : Peer) : Bool :=
  Nat.blt (osPriority first.os) (osPriority second.os) ||
    (Nat.beq (osPriority first.os) (osPriority second.os) &&
      @decide _ (String.decLt first.name second.name))

/-- `sortPeersByOS`, by the slice it leaves. -/
def sortPeersByOS (peers : List Peer) : List Peer :=
  peers.mergeSort osBefore

/-! ### `sort.Slice` as stores -/

section Stores

variable {α : Type}

/-- The inner loop of `insertionSort_func` from index `j`: while `j > 0` and `less(s[j], s[j-1])`,
`Swap(j, j-1)` and step down. The slice after each store of the swaps, in order. -/
def insertStores (less : α → α → Bool) : List α → Nat → List (List α)
  | _, 0 => []
  | s, j + 1 =>
    match s[j + 1]?, s[j]? with
    | some x, some y =>
      if less x y then
        let moved := s.set (j + 1) y
        let swapped := moved.set j x
        moved :: swapped :: insertStores less swapped j
      else []
    | _, _ => []

/-- The outer loop of `insertionSort_func`, `count` rounds from index `i`; each round starts
from the slice the last store left. -/
def insertionSortStores (less : α → α → Bool) : Nat → List α → Nat → List (List α)
  | 0, _, _ => []
  | count + 1, s, i =>
    let stores := insertStores less s i
    stores ++ insertionSortStores less count (stores.getLast?.getD s) (i + 1)

/-- The slices a concurrent reader can see while `sort.Slice` sorts: on at most 12 elements,
those of `insertionSort_func` over the whole slice. Longer slices go through `pdqsort_func`'s
partitioning, which is not modelled. -/
def sortSliceStores (less : α → α → Bool) (s : List α) : Option (List (List α)) :=
  if s.length ≤ 12 then some (insertionSortStores less (s.length - 1) s 1) else none

/-- An inner loop whose first comparison fails stores nothing. -/
theorem insertStores_of_not_less (less : α → α → Bool) {s : List α} {j : Nat} {x y : α}
    (behind : s[j + 1]? = some x) (ahead : s[j]? = some y) (inOrder : less x y = false) :
    insertStores less s (j + 1) = [] := by
  simp only [insertStores, behind, ahead, inOrder, Bool.false_eq_true, if_false]

/-- An inner loop whose first comparison holds first stores `s[j]` over `s[j+1]`. -/
theorem mem_insertStores_of_less (less : α → α → Bool) {s : List α} {j : Nat} {x y : α}
    (behind : s[j + 1]? = some x) (ahead : s[j]? = some y) (outOfOrder : less x y = true) :
    s.set (j + 1) y ∈ insertStores less s (j + 1) := by
  simp only [insertStores, behind, ahead, outOfOrder, if_true]
  exact List.mem_cons_self _ _

/-- The outer loop meets the first pair out of order before it stores anything: if the pair
at `k`, `k + 1` is out of order and none before it, the slice with `s[k]` stored over
`s[k+1]` is among the stores of every run of enough rounds that starts at or before it. -/
theorem mem_insertionSortStores (less : α → α → Bool) {s : List α} {k : Nat} {x y : α}
    (behind : s[k + 1]? = some x) (ahead : s[k]? = some y) (outOfOrder : less x y = true)
    (before : ∀ n < k, ∀ a b, s[n + 1]? = some a → s[n]? = some b → less a b = false) :
    ∀ count i, 0 < i → i ≤ k + 1 → k + 1 < count + i →
      s.set (k + 1) y ∈ insertionSortStores less count s i := by
  intro count
  induction count with
  | zero => intro i _ _ _; omega
  | succ count inductionHypothesis =>
    intro i positive atOrBefore enough
    obtain ⟨n, rfl⟩ : ∃ n, i = n + 1 := ⟨i - 1, by omega⟩
    simp only [insertionSortStores, List.mem_append]
    rcases Nat.lt_or_ge n k with earlier | reached
    · have long : k + 1 < s.length := (List.getElem?_eq_some_iff.mp behind).1
      have stays : insertStores less s (n + 1) = [] :=
        insertStores_of_not_less less (List.getElem?_eq_getElem (by omega))
          (List.getElem?_eq_getElem (by omega))
          (before n earlier _ _ (List.getElem?_eq_getElem _) (List.getElem?_eq_getElem _))
      simp only [stays, List.getLast?_nil, Option.getD_none]
      exact .inr (inductionHypothesis (n + 2) (by omega) (by omega) (by omega))
    · obtain rfl : n = k := by omega
      exact .inl (mem_insertStores_of_less less behind ahead outOfOrder)

/-- A slice with a pair out of order has a first one. -/
theorem exists_first_descent (less : α → α → Bool) {s : List α} {i : Nat} {x y : α}
    (behind : s[i + 1]? = some x) (ahead : s[i]? = some y) (outOfOrder : less x y = true) :
    ∃ k x' y', s[k + 1]? = some x' ∧ s[k]? = some y' ∧ less x' y' = true ∧
      ∀ n < k, ∀ a b, s[n + 1]? = some a → s[n]? = some b → less a b = false := by
  induction i using Nat.strong_induction_on generalizing x y with
  | _ i inductionHypothesis =>
    by_cases earlier : ∃ n < i, ∃ a b, s[n + 1]? = some a ∧ s[n]? = some b ∧ less a b = true
    · obtain ⟨n, lower, a, b, behind', ahead', outOfOrder'⟩ := earlier
      exact inductionHypothesis n lower behind' ahead' outOfOrder'
    · refine ⟨i, x, y, behind, ahead, outOfOrder, fun n lower a b behind' ahead' => ?_⟩
      cases inOrder : less a b
      · rfl
      · exact absurd ⟨n, lower, a, b, behind', ahead', inOrder⟩ earlier

/-- Two indices holding elements of the same image, in a list of distinct images, are one. -/
theorem index_eq_of_nodup_map {β : Type} {f : α → β} {s : List α} (distinct : (s.map f).Nodup)
    {a b : Nat} {u v : α} (atA : s[a]? = some u) (atB : s[b]? = some v) (same : f u = f v) :
    a = b :=
  List.getElem?_inj (by simpa using (List.getElem?_eq_some_iff.mp atA).1) distinct
    (by simp only [List.getElem?_map, atA, atB, Option.map_some', same])

/-- With `s[k]` stored over `s[k + 1]`, no element has the image of the old `s[k + 1]`. -/
theorem ne_of_mem_set {β : Type} {f : α → β} {s : List α} (distinct : (s.map f).Nodup)
    {k : Nat} {x y : α} (behind : s[k + 1]? = some x) (ahead : s[k]? = some y) :
    ∀ z ∈ s.set (k + 1) y, f z ≠ f x := by
  intro z member same
  obtain ⟨n, stored⟩ := List.mem_iff_getElem?.mp member
  rw [List.getElem?_set] at stored
  split at stored
  · split at stored
    · cases stored
      exact absurd (index_eq_of_nodup_map distinct ahead behind same) (by omega)
    · cases stored
  · rename_i elsewhere
    exact elsewhere (index_eq_of_nodup_map distinct behind stored same.symm)

end Stores

section Contents

variable {α : Type} (less : α → α → Bool)

/-- A store of an element of a slice keeps a list within the slice's elements. -/
theorem set_subset {l s : List α} (within : l ⊆ s) {x : α} (member : x ∈ s) (n : Nat) :
    l.set n x ⊆ s :=
  fun _ stored => (List.mem_or_eq_of_mem_set stored).elim (fun kept => within kept)
    fun same => same ▸ member

theorem subset_of_mem_insertStores :
    ∀ (j : Nat) (s : List α), ∀ store ∈ insertStores less s j, store ⊆ s
  | 0, _, _, stored => by cases stored
  | j + 1, s, store, stored => by
    unfold insertStores at stored
    split at stored
    · rename_i x y behind ahead
      split at stored
      · have moved := set_subset (List.Subset.refl s) (List.getElem?_mem ahead) (j + 1)
        have swapped := set_subset moved (List.getElem?_mem behind) j
        rcases List.mem_cons.mp stored with rfl | stored
        · exact moved
        rcases List.mem_cons.mp stored with rfl | later
        · exact swapped
        · exact (subset_of_mem_insertStores j _ store later).trans swapped
      · cases stored
    · cases stored

theorem subset_of_mem_insertionSortStores :
    ∀ (count : Nat) (s : List α) (i : Nat), ∀ store ∈ insertionSortStores less count s i,
      store ⊆ s
  | 0, _, _, _, stored => by cases stored
  | count + 1, s, i, store, stored => by
    rw [insertionSortStores, List.mem_append] at stored
    have last : (insertStores less s i).getLast?.getD s ⊆ s := by
      cases found : (insertStores less s i).getLast? with
      | none => exact List.Subset.refl s
      | some final =>
        exact subset_of_mem_insertStores less i s final (List.mem_of_getLast?_eq_some found)
    rcases stored with now | later
    · exact subset_of_mem_insertStores less i s store now
    · exact (subset_of_mem_insertionSortStores count _ (i + 1) store later).trans last

end Contents

/-! ### The stores in the slice the probe engine holds -/

/-- The slices `sortPeersByOS` leaves in the peer slice, store by store: `sort.Slice`'s stores
for at most 12 peers. A longer slice is sorted by `pdqsort_func`, whose stores are not
modelled; it is one store, of the sorted slice. -/
def peerSortStores (peers : List Peer) : List (List Peer) :=
  (sortSliceStores osBefore peers).getD [sortPeersByOS peers]

/-- The slice as the sort has left it after its first `stores` stores: what a copy of the shared
slice taken then holds. -/
def peerSliceAfter (peers : List Peer) (stores : Nat) : List Peer :=
  (((peerSortStores peers).take stores).getLast?).getD peers

/-- Every store of the sort holds only peers of the slice it sorts. -/
theorem subset_of_mem_peerSortStores {peers store : List Peer}
    (stored : store ∈ peerSortStores peers) : store ⊆ peers := by
  unfold peerSortStores sortSliceStores at stored
  split at stored
  · exact subset_of_mem_insertionSortStores osBefore _ peers 1 store stored
  · rw [Option.getD_none, List.mem_singleton] at stored
    subst stored
    exact fun _ sorted => List.mem_mergeSort.mp sorted

theorem peerSliceAfter_subset (peers : List Peer) (stores : Nat) :
    peerSliceAfter peers stores ⊆ peers := by
  unfold peerSliceAfter
  cases found : ((peerSortStores peers).take stores).getLast? with
  | none => exact List.Subset.refl peers
  | some store =>
    exact subset_of_mem_peerSortStores (List.mem_of_mem_take (List.mem_of_getLast?_eq_some found))

end Wc3ts
