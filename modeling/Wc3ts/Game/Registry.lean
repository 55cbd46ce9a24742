import Wc3ts.Game.Game
import Wc3ts.Game.GoMap

/-!
`game/registry.go`: the table of discovered games, keyed by `Game.Key`. Every method takes
the registry's lock, so a call is one atomic step here. The mutators call `onChange` with a
snapshot before they release the lock; a mutator's `Outcome` records whether it did.
`runExec` always installs a callback, so the model keeps no `nil` case. Every method that
ranges over the map takes the order it ranges in.

Each definition is followed by the one lemma that says what it does to the map; the
refinement and the notification results in the modules after this one use only those. The
last section says which entries `Add` can overwrite: only the one of the same source, name
and, for a Remote game, peer.
-/

namespace Wc3ts

/-- `game.Registry`: the map under the lock. Every game sits under its own key, because
`Add` is the only writer and files a game under `game.Key()`. -/
structure Registry where
  games : GoMap String Game
  keyed : ∀ key game, (key, game) ∈ games.entries → game.key = key

/-- `NewRegistry`. -/
def newRegistry : Registry := ⟨GoMap.empty, by simp⟩

/-- What one call of a mutator did: the registry after it, the value it returns, and whether
it called `onChange` with a snapshot before releasing the lock. -/
structure Outcome (β : Type) where
  registry : Registry
  result : β
  notified : Bool

namespace Registry

/-- `delete(r.games, key)`. -/
def deleteKey (r : Registry) (key : String) : Registry :=
  ⟨r.games.delete key, fun _ _ member => r.keyed _ _ (GoMap.mem_delete.mp member).1⟩

/-- `Add`: file the game under its key, stamping `FirstSeen` only when the key is new and
`LastSeen` always, then notify. Returns whether the key was new. -/
def add (r : Registry) (game : Game) (now : Time) : Outcome Bool :=
  let key := game.key
  let present := (r.games.lookup key).isSome
  let stored := { game with firstSeen := if present then game.firstSeen else now, lastSeen := now }
  ⟨⟨r.games.insert key stored, fun _ _ member => by
      rcases GoMap.mem_insert.mp member with equal | ⟨old, _⟩
      · cases equal; rfl
      · exact r.keyed _ _ old⟩, !present, true⟩

/-- `Remove`: delete the key if present, and notify only then. -/
def remove (r : Registry) (key : String) : Outcome Bool :=
  if (r.games.lookup key).isSome then ⟨r.deleteKey key, true, true⟩ else ⟨r, false, false⟩

/-- The `range` loop of `Expire`: visit the entries in the given order, deleting the stale
ones and counting them. -/
def expireLoop (timeout : Duration) (now : Time) :
    List (String × Game) → Registry → Nat → Registry × Nat
  | [], r, removed => (r, removed)
  | (key, game) :: rest, r, removed =>
    if game.isStale timeout now then expireLoop timeout now rest (r.deleteKey key) (removed + 1)
    else expireLoop timeout now rest r removed

/-- `Expire`: the loop, then a notification if anything was removed. -/
def expire (r : Registry) (timeout : Duration) (now : Time) (order : r.games.Order) :
    Outcome Nat :=
  let swept := expireLoop timeout now order.val r 0
  ⟨swept.1, swept.2, decide (swept.2 > 0)⟩

/-- `snapshot`, and `Games`, which returns it: every entry, in the range order. -/
def snapshot (r : Registry) (order : r.games.Order) : List Game :=
  order.val.map Prod.snd

/-- `LocalGames`. -/
def localGames (r : Registry) (order : r.games.Order) : List Game :=
  (order.val.filter fun entry => entry.2.source = .sourceLocal).map Prod.snd

/-- `RemoteGames`. -/
def remoteGames (r : Registry) (order : r.games.Order) : List Game :=
  (order.val.filter fun entry => entry.2.source = .sourceRemote).map Prod.snd

/-- `FindByHostCounter`: the first remote game in the range order with that host counter. -/
def findByHostCounter (r : Registry) (hostCounter : UInt32) (order : r.games.Order) :
    Option Game :=
  (order.val.find? fun entry =>
    entry.2.source = .sourceRemote ∧ entry.2.info.hostCounter = hostCounter).map Prod.snd

/-! ### What each call does to the map -/

/-- The entry `Add` files: the caller's game with `LastSeen` the call's time, and
`FirstSeen` the call's time for a new key and the caller's `FirstSeen` for a known one. -/
def stamped (r : Registry) (game : Game) (now : Time) : Game :=
  { game with firstSeen := if (r.games.lookup game.key).isSome then game.firstSeen else now,
              lastSeen := now }

@[simp] theorem stamped_info (r : Registry) (game : Game) (now : Time) :
    (r.stamped game now).info = game.info := rfl

@[simp] theorem stamped_rawData (r : Registry) (game : Game) (now : Time) :
    (r.stamped game now).rawData = game.rawData := rfl

@[simp] theorem stamped_source (r : Registry) (game : Game) (now : Time) :
    (r.stamped game now).source = game.source := rfl

@[simp] theorem stamped_peerIP (r : Registry) (game : Game) (now : Time) :
    (r.stamped game now).peerIP = game.peerIP := rfl

theorem lookup_add (r : Registry) (game : Game) (now : Time) (key : String) :
    (r.add game now).registry.games.lookup key =
      if key = game.key then some (r.stamped game now) else r.games.lookup key :=
  GoMap.lookup_insert _ _ _ _

@[simp] theorem add_result (r : Registry) (game : Game) (now : Time) :
    (r.add game now).result = (r.games.lookup game.key).isNone := by
  simp [add, Option.isNone_iff_eq_none, Option.isSome_iff_ne_none]

@[simp] theorem add_notified (r : Registry) (game : Game) (now : Time) :
    (r.add game now).notified = true := rfl

theorem lookup_deleteKey (r : Registry) (key other : String) :
    (r.deleteKey key).games.lookup other = if other = key then none else r.games.lookup other :=
  GoMap.lookup_delete _ _ _

theorem lookup_remove (r : Registry) (key other : String) :
    (r.remove key).registry.games.lookup other =
      if other = key then none else r.games.lookup other := by
  unfold remove
  split
  · exact lookup_deleteKey r key other
  · rename_i absent
    split
    · subst other
      simpa using absent
    · rfl

@[simp] theorem remove_result (r : Registry) (key : String) :
    (r.remove key).result = (r.games.lookup key).isSome := by
  unfold remove
  split <;> simp_all

@[simp] theorem remove_notified (r : Registry) (key : String) :
    (r.remove key).notified = (r.games.lookup key).isSome := by
  unfold remove
  split <;> simp_all

/-- The loop deletes exactly the keys of the stale entries it visits, and counts them. -/
theorem expireLoop_spec (timeout : Duration) (now : Time) (visits : List (String × Game))
    (r : Registry) (removed : Nat) :
    (∀ key, (expireLoop timeout now visits r removed).1.games.lookup key =
      if visits.any (fun entry => entry.1 = key && entry.2.isStale timeout now) then none
      else r.games.lookup key) ∧
    (expireLoop timeout now visits r removed).2 =
      removed + visits.countP fun entry => entry.2.isStale timeout now := by
  induction visits generalizing r removed with
  | nil => simp [expireLoop]
  | cons entry rest inductionHypothesis =>
    obtain ⟨key', game'⟩ := entry
    by_cases stale : game'.isStale timeout now
    · obtain ⟨lookups, count⟩ := inductionHypothesis (r.deleteKey key') (removed + 1)
      simp only [expireLoop, stale, if_true, List.countP_cons, List.any_cons, lookups, count,
        lookup_deleteKey]
      refine ⟨fun key => ?_, by omega⟩
      by_cases same : key' = key
      · simp [same]
      · simp only [same, Ne.symm same, decide_False, Bool.false_and, Bool.false_or, if_false]
    · obtain ⟨lookups, count⟩ := inductionHypothesis r removed
      simp only [Bool.not_eq_true] at stale
      simp only [expireLoop, stale, Bool.false_eq_true, if_false, List.countP_cons, List.any_cons,
        Bool.and_false, Bool.false_or, lookups, count]
      exact ⟨fun _ => trivial, by simp⟩

/-- `Expire` keeps exactly the entries that are not stale at the call's time. -/
theorem lookup_expire (r : Registry) (timeout : Duration) (now : Time) (order : r.games.Order)
    (key : String) :
    (r.expire timeout now order).registry.games.lookup key =
      (r.games.lookup key).filter fun game => !game.isStale timeout now := by
  simp only [expire, (expireLoop_spec timeout now order.val r 0).1]
  cases found : r.games.lookup key with
  | none =>
    have absent := GoMap.lookup_eq_none_iff.mp found
    have unvisited : (order.val.any fun entry => entry.1 = key && entry.2.isStale timeout now) =
        false := by
      simp only [List.any_eq_false, Bool.and_eq_true, decide_eq_true_eq, not_and]
      rintro ⟨key', game⟩ member rfl
      exact absurd (order.mem_iff.mp member) (absent game)
    simp [unvisited]
  | some game =>
    have member := GoMap.lookup_eq_some_iff.mp found
    have visited : (order.val.any fun entry => entry.1 = key && entry.2.isStale timeout now) =
        game.isStale timeout now := by
      apply Bool.eq_iff_iff.mpr
      simp only [List.any_eq_true, Bool.and_eq_true, decide_eq_true_eq]
      constructor
      · rintro ⟨⟨key', other⟩, otherMem, rfl, otherStale⟩
        rwa [GoMap.eq_of_mem member (order.mem_iff.mp otherMem)]
      · exact fun stale => ⟨(key, game), order.mem_iff.mpr member, rfl, stale⟩
    by_cases stale : game.isStale timeout now <;> simp [visited, stale, Option.filter]

/-- `Expire` returns the number of stale entries, whatever order it ranged in. -/
theorem expire_result (r : Registry) (timeout : Duration) (now : Time) (order : r.games.Order) :
    (r.expire timeout now order).result =
      r.games.entries.countP fun entry => entry.2.isStale timeout now := by
  simp only [expire, (expireLoop_spec timeout now order.val r 0).2, Nat.zero_add]
  exact order.property.countP_eq _

@[simp] theorem expire_notified (r : Registry) (timeout : Duration) (now : Time)
    (order : r.games.Order) :
    (r.expire timeout now order).notified = decide ((r.expire timeout now order).result > 0) :=
  rfl

/-! ### What the readers return -/

/-- A game is in the map when it sits under its own key. -/
theorem mem_entries_iff (r : Registry) (game : Game) :
    (∃ key, (key, game) ∈ r.games.entries) ↔ r.games.lookup game.key = some game := by
  constructor
  · rintro ⟨key, member⟩
    rw [r.keyed _ _ member]
    exact GoMap.lookup_eq_some_iff.mpr member
  · exact fun found => ⟨_, GoMap.lookup_eq_some_iff.mp found⟩

theorem mem_snapshot (r : Registry) (order : r.games.Order) (game : Game) :
    game ∈ r.snapshot order ↔ r.games.lookup game.key = some game := by
  simp only [snapshot, List.mem_map, Prod.exists, order.mem_iff, exists_eq_right,
    ← mem_entries_iff]

theorem mem_localGames (r : Registry) (order : r.games.Order) (game : Game) :
    game ∈ r.localGames order ↔
      r.games.lookup game.key = some game ∧ game.source = .sourceLocal := by
  simp only [localGames, List.mem_map, List.mem_filter, Prod.exists, order.mem_iff, exists_eq_right,
    ← mem_entries_iff, decide_eq_true_eq, exists_and_right]

theorem mem_remoteGames (r : Registry) (order : r.games.Order) (game : Game) :
    game ∈ r.remoteGames order ↔
      r.games.lookup game.key = some game ∧ game.source = .sourceRemote := by
  simp only [remoteGames, List.mem_map, List.mem_filter, Prod.exists, order.mem_iff, exists_eq_right,
    ← mem_entries_iff, decide_eq_true_eq, exists_and_right]

/-- Every reader lists each game at most once: the range visits each key once, and each
game sits under its own key. -/
theorem nodup_map_snd (r : Registry) (order : r.games.Order) (keep : String × Game → Bool) :
    ((order.val.filter keep).map Prod.snd).Nodup := by
  have keys : ((order.val.filter keep).map Prod.fst).Nodup :=
    ((List.filter_sublist _).map _).nodup (order.property.map Prod.fst |>.nodup_iff.mpr r.games.nodup)
  refine List.Nodup.map_on (fun first firstMem second secondMem same => ?_)
    (List.Nodup.of_map Prod.fst keys)
  have firstKey := r.keyed _ _ (order.mem_iff.mp (List.mem_of_mem_filter firstMem))
  have secondKey := r.keyed _ _ (order.mem_iff.mp (List.mem_of_mem_filter secondMem))
  exact Prod.ext (by rw [← firstKey, ← secondKey, same]) same

theorem findByHostCounter_eq_none_iff (r : Registry) (hostCounter : UInt32)
    (order : r.games.Order) :
    r.findByHostCounter hostCounter order = none ↔
      ∀ game, r.games.lookup game.key = some game → game.source = .sourceRemote →
        game.info.hostCounter ≠ hostCounter := by
  simp only [findByHostCounter, Option.map_eq_none', List.find?_eq_none, order.mem_iff]
  constructor
  · intro absent game found remote equal
    exact absent _ (GoMap.lookup_eq_some_iff.mp found) (by simp [remote, equal])
  · rintro absent ⟨key, game⟩ member matching
    simp only [decide_eq_true_eq] at matching
    exact absent game ((mem_entries_iff r game).mp ⟨key, member⟩) matching.1 matching.2

theorem findByHostCounter_some (r : Registry) (hostCounter : UInt32) (order : r.games.Order)
    {game : Game} (found : r.findByHostCounter hostCounter order = some game) :
    r.games.lookup game.key = some game ∧ game.source = .sourceRemote ∧
      game.info.hostCounter = hostCounter := by
  obtain ⟨⟨key, game'⟩, entryFound, rfl⟩ := Option.map_eq_some'.mp found
  have matching := List.find?_some entryFound
  simp only [decide_eq_true_eq] at matching
  exact ⟨(mem_entries_iff r _).mp ⟨key, order.mem_iff.mp (List.mem_of_find?_eq_some entryFound)⟩,
    matching⟩

end Registry

/-! ### Which games `Add` overwrites -/

/-- Registry keys identify games: two games share a key exactly when they have the same source
and name and, when Remote, the same peer address. So `Add` leaves the entry under the key of
every game of another source, name or peer as it was. -/
theorem key_identifies_game (g g' : Game) :
    (g.key = g'.key ↔ g.source = g'.source ∧ g.info.gameName = g'.info.gameName ∧
      (g.source = .sourceRemote → g.peerIP = g'.peerIP)) ∧
    ∀ (r : Registry) (now : Time), ¬ (g.source = g'.source ∧
      g.info.gameName = g'.info.gameName ∧ (g.source = .sourceRemote → g.peerIP = g'.peerIP)) →
      (r.add g' now).registry.games.lookup g.key = r.games.lookup g.key :=
  ⟨g.key_eq_iff g', fun r now other => by
    rw [Registry.lookup_add, if_neg fun same => other ((g.key_eq_iff g').mp same)]⟩

/-- A game named `g` hosted by peer `100.64.0.2`, and a game of the same name hosted here. -/
def remoteSample : Game :=
  ⟨⟨⟨productTFT, 26⟩, 1, 0, "g", [], 12, 0, 1, 11, 0, 6112⟩, [], .sourceRemote,
    ⟨100, 64, 0, 2⟩, "b", 0, 0⟩

def localSample : Game :=
  { remoteSample with source := .sourceLocal, peerIP := Addr.loopback, peerName := "local" }

/-- Filing the local game leaves the peer's game of the same name where it was. -/
theorem local_game_keeps_remote_entry :
    ¬ (remoteSample.source = localSample.source ∧
      remoteSample.info.gameName = localSample.info.gameName ∧
      (remoteSample.source = .sourceRemote → remoteSample.peerIP = localSample.peerIP)) ∧
    ((newRegistry.add remoteSample 0).registry.add localSample 1).registry.games.lookup
        remoteSample.key =
      (newRegistry.add remoteSample 0).registry.games.lookup remoteSample.key :=
  ⟨by decide, (key_identifies_game remoteSample localSample).2 _ _ (by decide)⟩

end Wc3ts
