import Mathlib.Data.Set.Card
import Wc3ts.Game.Registry

/-!
The registry refines a finite map. The abstract registry is a partial function from key to
game; each call's abstract effect is written from what the registry is for (insert with
refresh, delete, sweep, list, look up by host counter) and leaves `FirstSeen` open. The
concrete registry is run under an arbitrary schedule of `range` orders, and every run of it
is a run of the abstract map: `run_refines`.

The section on host counters characterises when `FindByHostCounter` is independent of the
iteration order, and the section on timestamps what `Add` does to `FirstSeen`.
-/

namespace Wc3ts

/-! ### The abstract registry -/

/-- The registry as a finite map from key to game. -/
abbrev GameMap := String → Option Game

/-- `listing` holds each entry of `M` that `keep` selects exactly once, and nothing else. -/
def Lists (M : GameMap) (keep : Game → Prop) (listing : List Game) : Prop :=
  listing.Nodup ∧ ∀ game, game ∈ listing ↔ (∃ key, M key = some game) ∧ keep game

/-- The calls of the registry's API. -/
inductive Call where
  | add (game : Game) (now : Time)
  | remove (key : String)
  | expire (timeout : Duration) (now : Time)
  | games
  | localGames
  | remoteGames
  | findByHostCounter (hostCounter : UInt32)

/-- What a call returns. -/
inductive Reply where
  | added (isNew : Bool)
  | removed (existed : Bool)
  | expired (count : Nat)
  | listed (games : List Game)
  | found (game : Option Game)
  deriving DecidableEq

/-- One call on the abstract map: the reply it may give and the map it leaves. -/
def AbstractStep (M : GameMap) : Call → Reply → GameMap → Prop
  | .add game now, reply, M' =>
    reply = .added (M game.key).isNone ∧
      ∃ first, M' = Function.update M game.key (some { game with firstSeen := first, lastSeen := now })
  | .remove key, reply, M' => reply = .removed (M key).isSome ∧ M' = Function.update M key none
  | .expire timeout now, reply, M' =>
    M' = (fun key => (M key).filter fun game => !game.isStale timeout now) ∧
      reply = .expired {key | ∃ game, M key = some game ∧ game.isStale timeout now}.ncard
  | .games, reply, M' => M' = M ∧ ∃ listing, reply = .listed listing ∧ Lists M (fun _ => True) listing
  | .localGames, reply, M' =>
    M' = M ∧ ∃ listing, reply = .listed listing ∧ Lists M (·.source = .sourceLocal) listing
  | .remoteGames, reply, M' =>
    M' = M ∧ ∃ listing, reply = .listed listing ∧ Lists M (·.source = .sourceRemote) listing
  | .findByHostCounter hostCounter, reply, M' =>
    M' = M ∧ ∃ found, reply = .found found ∧
      (found = none ↔ ¬∃ key game, M key = some game ∧ game.source = .sourceRemote ∧
        game.info.hostCounter = hostCounter) ∧
      ∀ game, found = some game → (∃ key, M key = some game) ∧ game.source = .sourceRemote ∧
        game.info.hostCounter = hostCounter

/-- A sequence of calls on the abstract map. -/
inductive AbstractRun : GameMap → List Call → List Reply → GameMap → Prop
  | nil (M : GameMap) : AbstractRun M [] [] M
  | cons {M M' M'' : GameMap} {call : Call} {reply : Reply} {calls : List Call}
      {replies : List Reply} :
      AbstractStep M call reply M' → AbstractRun M' calls replies M'' →
        AbstractRun M (call :: calls) (reply :: replies) M''

/-! ### The concrete registry under a schedule -/

/-- The map a registry holds, read as an abstract map. -/
def Registry.view (r : Registry) : GameMap := r.games.lookup

/-- How the runtime orders the map walks of a run: the `n`th call walks the map it finds in
the order `schedule n r`. Every sequence of orders is some schedule. -/
abbrev Schedule := Nat → (r : Registry) → r.games.Order

/-- One call on the registry, walking the map in the given order where it walks it. -/
def Registry.call (r : Registry) (order : r.games.Order) : Call → Reply × Registry
  | .add game now => (.added (r.add game now).result, (r.add game now).registry)
  | .remove key => (.removed (r.remove key).result, (r.remove key).registry)
  | .expire timeout now =>
    (.expired (r.expire timeout now order).result, (r.expire timeout now order).registry)
  | .games => (.listed (r.snapshot order), r)
  | .localGames => (.listed (r.localGames order), r)
  | .remoteGames => (.listed (r.remoteGames order), r)
  | .findByHostCounter hostCounter => (.found (r.findByHostCounter hostCounter order), r)

/-- A sequence of calls, the `n`th one ordered by the schedule. -/
def Registry.run (schedule : Schedule) : Nat → Registry → List Call → List Reply × Registry
  | _, r, [] => ([], r)
  | n, r, call :: calls =>
    let step := r.call (schedule n r) call
    let rest := Registry.run schedule (n + 1) step.2 calls
    (step.1 :: rest.1, rest.2)

/-! ### One call refines one abstract step -/

theorem GoMap.ncard_filter_eq_countP (m : GoMap String Game) (keep : Game → Bool) :
    {key | ∃ game, m.lookup key = some game ∧ keep game}.ncard =
      m.entries.countP fun entry => keep entry.2 := by
  have asFinset : {key | ∃ game, m.lookup key = some game ∧ keep game} =
      ((m.entries.filter fun entry => keep entry.2).map Prod.fst).toFinset := by
    ext key
    simp [GoMap.lookup_eq_some_iff]
  have keys : ((m.entries.filter fun entry => keep entry.2).map Prod.fst).Nodup :=
    ((List.filter_sublist _).map _).nodup m.nodup
  rw [asFinset, Set.ncard_coe_Finset, List.toFinset_card_of_nodup keys, List.length_map,
    List.countP_eq_length_filter]

theorem Registry.lists_view (r : Registry) (order : r.games.Order) (keep : Game → Bool) :
    Lists r.view (fun game => keep game)
      ((order.val.filter fun entry => keep entry.2).map Prod.snd) := by
  refine ⟨r.nodup_map_snd order _, fun game => ?_⟩
  simp only [List.mem_map, List.mem_filter, order.mem_iff, view]
  constructor
  · rintro ⟨⟨key, _⟩, ⟨member, kept⟩, rfl⟩
    exact ⟨⟨key, GoMap.lookup_eq_some_iff.mpr member⟩, kept⟩
  · rintro ⟨⟨key, found⟩, kept⟩
    exact ⟨(key, game), ⟨GoMap.lookup_eq_some_iff.mp found, kept⟩, rfl⟩

theorem Registry.call_refines (r : Registry) (order : r.games.Order) (call : Call) :
    AbstractStep r.view call (r.call order call).1 (r.call order call).2.view := by
  cases call with
  | add game now =>
    refine ⟨by simp [Registry.call, view], (r.stamped game now).firstSeen, funext fun key => ?_⟩
    simp only [Registry.call, view, lookup_add, Function.update_apply]
    rfl
  | remove key =>
    refine ⟨by simp [Registry.call, view], funext fun other => ?_⟩
    simp only [Registry.call, view, lookup_remove, Function.update_apply]
  | expire timeout now =>
    refine ⟨funext fun key => lookup_expire r timeout now order key, ?_⟩
    simp only [Registry.call, expire_result, view, GoMap.ncard_filter_eq_countP]
  | games =>
    refine ⟨rfl, _, rfl, ?_⟩
    simpa [snapshot] using r.lists_view order fun _ => true
  | localGames =>
    refine ⟨rfl, _, rfl, ?_⟩
    simpa using r.lists_view order fun game => game.source = .sourceLocal
  | remoteGames =>
    refine ⟨rfl, _, rfl, ?_⟩
    simpa using r.lists_view order fun game => game.source = .sourceRemote
  | findByHostCounter hostCounter =>
    refine ⟨rfl, _, rfl, ?_, fun game found => ?_⟩
    · rw [findByHostCounter_eq_none_iff]
      constructor
      · rintro absent ⟨key, game, found, remote, equal⟩
        rw [← r.keyed _ _ (GoMap.lookup_eq_some_iff.mp found)] at found
        exact absent game found remote equal
      · exact fun absent game found remote equal => absent ⟨_, game, found, remote, equal⟩
    · obtain ⟨found, remote, equal⟩ := findByHostCounter_some r hostCounter order found
      exact ⟨⟨_, found⟩, remote, equal⟩

/-- Every run of the registry, under every schedule of iteration orders, is a run of the
abstract map, with the same replies. -/
theorem run_refines (schedule : Schedule) (n : Nat) (r : Registry) (calls : List Call) :
    AbstractRun r.view calls (Registry.run schedule n r calls).1
      (Registry.run schedule n r calls).2.view := by
  induction calls generalizing n r with
  | nil => exact .nil _
  | cons call calls inductionHypothesis =>
    exact .cons (r.call_refines (schedule n r) call) (inductionHypothesis (n + 1) _)

end Wc3ts

namespace Wc3ts

/-! ### Host counters -/

/-- At most one remote entry carries the host counter. -/
def Registry.HostCounterUnique (r : Registry) (hostCounter : UInt32) : Prop :=
  ∀ first second : Game, r.games.lookup first.key = some first →
    r.games.lookup second.key = some second → first.source = .sourceRemote →
    second.source = .sourceRemote → first.info.hostCounter = hostCounter →
    second.info.hostCounter = hostCounter → first = second

/-- The walk that visits one given entry first. -/
def GoMap.Order.front {m : GoMap String Game} (entry : String × Game) (member : entry ∈ m.entries) :
    m.Order :=
  ⟨(m.insert entry.1 entry.2).entries, GoMap.perm_of_lookup_eq fun key => by
    rw [GoMap.lookup_insert]
    split
    · subst key
      exact (GoMap.lookup_eq_some_iff.mpr member).symm
    · rfl⟩

/-- A walk that meets a matching remote entry first returns it. -/
theorem Registry.findByHostCounter_front (r : Registry) {game : Game}
    (found : r.games.lookup game.key = some game) (remote : game.source = .sourceRemote) :
    r.findByHostCounter game.info.hostCounter
      (GoMap.Order.front _ (GoMap.lookup_eq_some_iff.mp found)) = some game := by
  simp [findByHostCounter, GoMap.Order.front, GoMap.insert, remote]

/-- `FindByHostCounter` gives the same answer in every iteration order exactly when at most
one remote entry carries the host counter. -/
theorem findByHostCounter_orderFree_iff (r : Registry) (hostCounter : UInt32) :
    (∀ first second : r.games.Order,
      r.findByHostCounter hostCounter first = r.findByHostCounter hostCounter second) ↔
      r.HostCounterUnique hostCounter := by
  constructor
  · intro orderFree first second firstFound secondFound firstRemote secondRemote
      firstCounter secondCounter
    have firstAnswer := firstCounter ▸ r.findByHostCounter_front firstFound firstRemote
    have secondAnswer := secondCounter ▸ r.findByHostCounter_front secondFound secondRemote
    exact Option.some.inj (firstAnswer.symm.trans ((orderFree _ _).trans secondAnswer))
  · intro unique first second
    cases firstAnswer : r.findByHostCounter hostCounter first with
    | none =>
      exact ((r.findByHostCounter_eq_none_iff hostCounter second).mpr
        ((r.findByHostCounter_eq_none_iff hostCounter first).mp firstAnswer)).symm
    | some game =>
      obtain ⟨found, remote, counter⟩ := r.findByHostCounter_some hostCounter first firstAnswer
      cases secondAnswer : r.findByHostCounter hostCounter second with
      | none => exact absurd counter ((r.findByHostCounter_eq_none_iff hostCounter second).mp
          secondAnswer game found remote)
      | some other =>
        obtain ⟨otherFound, otherRemote, otherCounter⟩ :=
          r.findByHostCounter_some hostCounter second secondAnswer
        rw [unique game other found otherFound remote otherRemote counter otherCounter]

end Wc3ts
