import Wc3ts.Game.Refinement

/-!
The registry's notifications, seen from a consumer. `runExec` hands every snapshot the
registry passes to `onChange` to the broadcaster (`OnGamesChanged` replaces its cache) and to
the terminal UI (`GamesMsg` replaces its list). The callback runs under the registry's lock,
so consumers see the snapshots in the order the registry applied the calls. Here a consumer
whose cache starts empty watches a registry through any sequence of mutating calls, and its
cache stays a permutation of the registry's entries. The calls that skip the notification
are exactly those that leave the map as it was.
-/

namespace Wc3ts

/-- The calls that write the map. -/
inductive Mutation where
  | add (game : Game) (now : Time)
  | remove (key : String)
  | expire (timeout : Duration) (now : Time)

/-- One mutating call, ranging over the map in the given order where it ranges: the
registry after it, and whether it called `onChange`. -/
def Registry.apply (r : Registry) (order : r.games.Order) : Mutation → Registry × Bool
  | .add game now => ((r.add game now).registry, (r.add game now).notified)
  | .remove key => ((r.remove key).registry, (r.remove key).notified)
  | .expire timeout now =>
    ((r.expire timeout now order).registry, (r.expire timeout now order).notified)

/-- A registry and the cache of one consumer of its notifications. -/
structure Watched where
  registry : Registry
  cache : List Game

/-- `NewRegistry(onChange)` with a consumer whose cache starts empty. -/
def Watched.initial : Watched := ⟨newRegistry, []⟩

/-- One call: the registry applies it, and if it notifies, the consumer's cache becomes the
snapshot, taken in the second order the runtime picks. -/
def Watched.step (w : Watched) (rangeOrder : w.registry.games.Order) (mutation : Mutation)
    (snapshotOrder : (w.registry.apply rangeOrder mutation).1.games.Order) : Watched :=
  ⟨(w.registry.apply rangeOrder mutation).1,
    if (w.registry.apply rangeOrder mutation).2 then
      (w.registry.apply rangeOrder mutation).1.snapshot snapshotOrder
    else w.cache⟩

/-- A sequence of calls; the `n`th call ranges in the order `schedule (2 * n)` and its
snapshot is taken in the order `schedule (2 * n + 1)`. -/
def Watched.run (schedule : Schedule) : Nat → Watched → List Mutation → Watched
  | _, w, [] => w
  | n, w, mutation :: rest =>
    Watched.run schedule (n + 1)
      (w.step (schedule (2 * n) w.registry) mutation (schedule (2 * n + 1) _)) rest

/-- The consumer's cache lists the registry's entries, each once. -/
def Watched.InSync (w : Watched) : Prop :=
  w.cache.Perm (w.registry.games.entries.map Prod.snd)

/-! ### When the notification is skipped -/

theorem Registry.apply_notified_eq_false_iff (r : Registry) (order : r.games.Order)
    (mutation : Mutation) :
    (r.apply order mutation).2 = false ↔
      (∃ key, mutation = .remove key ∧ r.games.lookup key = none) ∨
      (∃ timeout now, mutation = .expire timeout now ∧
        ∀ entry ∈ r.games.entries, entry.2.isStale timeout now = false) := by
  cases mutation with
  | add game now => simp [apply]
  | remove key => simp [apply]
  | expire timeout now =>
    simp only [apply, expire_notified, expire_result, decide_eq_false_iff_not, gt_iff_lt,
      Nat.pos_iff_ne_zero, not_not, List.countP_eq_zero, Bool.not_eq_true]
    simp only [Mutation.expire.injEq, reduceCtorEq, false_and, exists_false, false_or]
    constructor
    · exact fun fresh => ⟨timeout, now, ⟨rfl, rfl⟩, fresh⟩
    · rintro ⟨_, _, ⟨rfl, rfl⟩, fresh⟩
      exact fresh

/-- A skipped notification leaves the map as it was. -/
theorem Registry.apply_view_of_not_notified (r : Registry) (order : r.games.Order)
    (mutation : Mutation) (skipped : (r.apply order mutation).2 = false) :
    (r.apply order mutation).1.view = r.view := by
  rcases (r.apply_notified_eq_false_iff order mutation).mp skipped with
    ⟨key, rfl, absent⟩ | ⟨timeout, now, rfl, fresh⟩
  · funext other
    simp only [apply, view, lookup_remove]
    split
    · subst other; exact absent.symm
    · rfl
  · funext key
    simp only [apply, view, lookup_expire]
    cases found : r.games.lookup key with
    | none => rfl
    | some game => simp [Option.filter, fresh _ (GoMap.lookup_eq_some_iff.mp found)]

/-- A `Remove` or an `Expire` that leaves the map as it was skips the notification. -/
theorem Registry.not_notified_of_view (r : Registry) (order : r.games.Order)
    (mutation : Mutation) (notAdd : ∀ game now, mutation ≠ .add game now)
    (unchanged : (r.apply order mutation).1.view = r.view) :
    (r.apply order mutation).2 = false := by
  cases mutation with
  | add game now => exact absurd rfl (notAdd game now)
  | remove key =>
    have same := congrFun unchanged key
    simp only [apply, view, lookup_remove, if_pos rfl] at same
    simp [apply, ← same]
  | expire timeout now =>
    refine (r.apply_notified_eq_false_iff order _).mpr (.inr ⟨timeout, now, rfl, ?_⟩)
    rintro ⟨key, game⟩ member
    have same := congrFun unchanged key
    simp only [apply, view, lookup_expire, GoMap.lookup_eq_some_iff.mpr member] at same
    by_contra stale
    simp [Option.filter, stale] at same

/-! ### The cache never diverges -/

theorem Watched.initial_inSync : Watched.initial.InSync := by
  simp [InSync, initial, newRegistry]

/-- One call keeps the consumer in sync, whatever orders the runtime picks. -/
theorem Watched.step_inSync (w : Watched) (synced : w.InSync) (rangeOrder : w.registry.games.Order)
    (mutation : Mutation) (snapshotOrder : (w.registry.apply rangeOrder mutation).1.games.Order) :
    (w.step rangeOrder mutation snapshotOrder).InSync := by
  unfold InSync step
  dsimp only
  cases notified : (w.registry.apply rangeOrder mutation).2
  · have unchanged := w.registry.apply_view_of_not_notified rangeOrder mutation notified
    rw [if_neg (by simp)]
    exact synced.trans ((GoMap.perm_of_lookup_eq fun key => (congrFun unchanged key).symm).map _)
  · rw [if_pos rfl]
    exact snapshotOrder.property.map _

theorem Watched.run_inSync (schedule : Schedule) (n : Nat) (w : Watched) (synced : w.InSync)
    (mutations : List Mutation) : (Watched.run schedule n w mutations).InSync := by
  induction mutations generalizing n w with
  | nil => exact synced
  | cons mutation rest inductionHypothesis =>
    exact inductionHypothesis _ _ (w.step_inSync synced _ mutation _)

/-- From `NewRegistry`, after any sequence of `Add`, `Remove` and `Expire` calls in any
iteration orders, the consumer's cache is a permutation of the registry's entries. A call
skips the notification exactly when it is a `Remove` of an absent key or an `Expire` with
nothing stale, and such a call leaves the map as it was; a `Remove` or `Expire` that leaves
the map as it was skips it. -/
theorem consumer_never_diverges (schedule : Schedule) (mutations : List Mutation) :
    (Watched.run schedule 0 Watched.initial mutations).InSync ∧
    ∀ (r : Registry) (order : r.games.Order) (mutation : Mutation),
      ((r.apply order mutation).2 = false ↔
        (∃ key, mutation = .remove key ∧ r.games.lookup key = none) ∨
        (∃ timeout now, mutation = .expire timeout now ∧
          ∀ entry ∈ r.games.entries, entry.2.isStale timeout now = false)) ∧
      ((r.apply order mutation).2 = false → (r.apply order mutation).1.view = r.view) ∧
      ((∀ game now, mutation ≠ .add game now) → (r.apply order mutation).1.view = r.view →
        (r.apply order mutation).2 = false) :=
  ⟨Watched.run_inSync schedule 0 _ Watched.initial_inSync mutations,
    fun r order mutation => ⟨r.apply_notified_eq_false_iff order mutation,
      r.apply_view_of_not_notified order mutation, r.not_notified_of_view order mutation⟩⟩

end Wc3ts
