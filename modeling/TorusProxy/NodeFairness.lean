import TorusProxy.Lib.Cyclic
import TorusProxy.NodePool

/-! How a pool of the Node server shares out its requests while the same servers are
healthy. -/
namespace TorusProxy.Node

open Cyclic (Rounds)

section
variable {Server : Type}

/-! ## One request -/

theorem RoundRobinStrategy.getNextLoop_picks {isHealthy : Server → Bool} {servers : List Server}
    (healthy : ∀ server ∈ servers, isHealthy server = true) (rounds : Nat)
    {strategy : RoundRobinStrategy} (inside : strategy.currentIndex < servers.length) :
    getNextLoop isHealthy servers (rounds + 1) strategy =
      (servers[strategy.currentIndex]?,
        { strategy with currentIndex := (strategy.currentIndex + 1) % servers.length }) := by
  have on : isHealthy servers[strategy.currentIndex] = true :=
    healthy _ (List.getElem_mem inside)
  simp only [getNextLoop, List.getElem?_eq_getElem inside, on, if_true]

namespace BackendPool

/-- The pool with its index at a place. -/
def turnedTo (pool : BackendPool Server) (index : Nat) : BackendPool Server :=
  { pool with strategy := { currentIndex := index } }

theorem healthyServers_healthy (pool : BackendPool Server) :
    ∀ server ∈ pool.healthyServers, pool.isHealthy server = true :=
  fun _ mem => (List.mem_filter.mp mem).2

section
variable {pool : BackendPool Server} {ring : List Server}

/-- An index inside picks the server there and moves on. -/
theorem getServerForRequest_inside (same : pool.healthyServers = ring)
    (inside : pool.strategy.currentIndex < ring.length) :
    pool.getServerForRequest =
      (ring[pool.strategy.currentIndex]?,
        pool.turnedTo ((pool.strategy.currentIndex + 1) % ring.length)) := by
  subst same
  obtain ⟨rounds, length⟩ : ∃ rounds, pool.healthyServers.length = rounds + 1 :=
    Nat.exists_eq_succ_of_ne_zero (by omega)
  have picked := RoundRobinStrategy.getNextLoop_picks pool.healthyServers_healthy rounds inside
  rw [← length] at picked
  have some_ : pool.healthyServers.length ≠ 0 := by omega
  simp only [getServerForRequest, RoundRobinStrategy.getNext, if_neg some_, picked]
  rfl

/-- An index outside is brought back first, for which there is a round to spare. -/
theorem getServerForRequest_outside (same : pool.healthyServers = ring) (two : 2 ≤ ring.length)
    (outside : ring.length ≤ pool.strategy.currentIndex) :
    pool.getServerForRequest =
      (pool.turnedTo ((pool.strategy.currentIndex + 1) % ring.length)).getServerForRequest := by
  let back := pool.turnedTo ((pool.strategy.currentIndex + 1) % ring.length)
  have inside : back.strategy.currentIndex < ring.length := Nat.mod_lt _ (by omega)
  have later : back.getServerForRequest = _ := getServerForRequest_inside same inside
  rw [later]
  subst same
  obtain ⟨rounds, length⟩ : ∃ rounds, pool.healthyServers.length = rounds + 1 + 1 :=
    Nat.exists_eq_add_of_le' two
  have turned : RoundRobinStrategy.getNextLoop pool.isHealthy pool.healthyServers
      (rounds + 1 + 1) pool.strategy = _ :=
    RoundRobinStrategy.getNextLoop_outside (rounds + 1) outside
  have picked := RoundRobinStrategy.getNextLoop_picks pool.healthyServers_healthy rounds inside
  rw [← length] at turned
  have some_ : pool.healthyServers.length ≠ 0 := by omega
  simp only [getServerForRequest, RoundRobinStrategy.getNext, if_neg some_, turned]
  exact congrArg (fun found => (found.1, { pool with strategy := found.2 })) picked

end

/-! ## A run -/

section
variable [DecidableEq Server]

/-- The answers to the requests of a run, in order. -/
def answers : BackendPool Server → List (PoolOp Server) → List (Option Server)
  | _, [] => []
  | pool, .getServerForRequest :: ops =>
    pool.getServerForRequest.1 :: answers pool.getServerForRequest.2 ops
  | pool, .addServer server :: ops => answers (pool.addServer server) ops
  | pool, .markDead server :: ops => answers (pool.markDead server) ops
  | pool, .markAlive server :: ops => answers (pool.markAlive server) ops

/-- The same servers are healthy all along, whatever is marked. -/
def Steady (ring : List Server) (pool : BackendPool Server) (ops : List (PoolOp Server)) : Prop :=
  ∀ before, before <+: ops → (pool.run before).healthyServers = ring

theorem Steady.start {ring : List Server} {pool : BackendPool Server} {ops : List (PoolOp Server)}
    (h : Steady ring pool ops) : pool.healthyServers = ring := h [] List.nil_prefix

theorem Steady.tail {ring : List Server} {pool : BackendPool Server} {op : PoolOp Server}
    {ops : List (PoolOp Server)} (h : Steady ring pool (op :: ops)) :
    Steady ring (pool.apply op) ops :=
  fun before within => h (op :: before) (List.prefix_cons_inj op |>.mpr within)

theorem answers_rounds {ring : List Server} {pool : BackendPool Server}
    {ops : List (PoolOp Server)} (steady : Steady ring pool ops)
    (inside : pool.strategy.currentIndex < ring.length) :
    ∃ xs, pool.answers ops = xs.map some ∧ Rounds ring pool.strategy.currentIndex xs := by
  induction ops generalizing pool with
  | nil => exact ⟨[], rfl, fun k short => absurd short (Nat.not_lt_zero k)⟩
  | cons op ops ih =>
    have later := steady.tail
    cases op with
    | addServer | markDead | markAlive => exact ih later inside
    | getServerForRequest =>
      have answer := getServerForRequest_inside steady.start inside
      have next : pool.getServerForRequest.2.strategy.currentIndex =
          (pool.strategy.currentIndex + 1) % ring.length := by rw [answer]; rfl
      have still : pool.getServerForRequest.2.strategy.currentIndex < ring.length := by
        rw [next]
        exact Nat.mod_lt _ (by omega)
      obtain ⟨xs, found, rounds⟩ := ih later still
      refine ⟨ring[pool.strategy.currentIndex] :: xs, ?_, ?_⟩
      · have first : pool.getServerForRequest.1 = some ring[pool.strategy.currentIndex] := by
          rw [answer, List.getElem?_eq_getElem inside]
        have rest : answers pool.getServerForRequest.2 ops = xs.map some := found
        rw [answers, first, rest, List.map_cons]
      · intro k short
        cases k with
        | zero => simp [Nat.mod_eq_of_lt inside]
        | succ k =>
          have at_k := rounds k (by simpa using short)
          have here : (pool.apply .getServerForRequest).strategy.currentIndex =
              (pool.strategy.currentIndex + 1) % ring.length := next
          rw [List.getElem?_cons_succ, at_k, here, Nat.mod_add_mod]
          congr 2
          omega

/-- A request to a pool whose index is outside, and whatever comes after it. -/
theorem answers_outside {ring : List Server} {pool : BackendPool Server}
    {ops : List (PoolOp Server)} (steady : Steady ring pool (.getServerForRequest :: ops))
    (some_ : ring ≠ []) (outside : ring.length ≤ pool.strategy.currentIndex) :
    ∃ missed xs s, pool.answers (.getServerForRequest :: ops) = missed ++ xs.map some ∧
      (missed = [] ∨ missed = [none] ∧ pool.Stranded) ∧ Rounds ring s xs := by
  have pos : 0 < ring.length := List.length_pos_iff.mpr some_
  have start := steady.start
  by_cases one : ring.length = 1
  · have stranded : pool.Stranded := by
      rw [Stranded, start]
      exact ⟨one, by omega⟩
    have refused : pool.getServerForRequest.1 = none :=
      (getServerForRequest_none_iff pool).mpr (.inr stranded)
    have inside : (pool.apply .getServerForRequest).strategy.currentIndex < ring.length := by
      show pool.getServerForRequest.2.strategy.currentIndex < ring.length
      rw [refusal_ends_stranding stranded]
      exact pos
    obtain ⟨xs, found, rounds⟩ := answers_rounds steady.tail inside
    refine ⟨[none], xs, _, ?_, .inr ⟨rfl, stranded⟩, rounds⟩
    have rest : answers pool.getServerForRequest.2 ops = xs.map some := found
    rw [answers, refused, rest, List.singleton_append]
  · let back := pool.turnedTo ((pool.strategy.currentIndex + 1) % ring.length)
    have turned : pool.getServerForRequest = back.getServerForRequest :=
      getServerForRequest_outside start (by omega) outside
    have still : Steady ring back (.getServerForRequest :: ops) := by
      intro before within
      cases before with
      | nil => exact start
      | cons op before =>
        obtain rfl : op = .getServerForRequest := (List.cons_prefix_cons.mp within).1
        have same := steady _ within
        simp only [run, List.foldl_cons, apply] at same ⊢
        rw [← turned]
        exact same
    obtain ⟨xs, found, rounds⟩ := answers_rounds still (Nat.mod_lt _ pos)
    refine ⟨[], xs, _, ?_, .inl rfl, rounds⟩
    rw [List.nil_append, ← found, answers, answers, turned]

/-- **Fairness.** While the same servers are healthy the answers go round them, in the
order of the pool, and no two of them differ by more than one in the requests they get.
One request at most is refused, where the pool was left with one server and the index
past it. -/
theorem answers_fair {ring : List Server} {pool : BackendPool Server}
    {ops : List (PoolOp Server)} (steady : Steady ring pool ops) (some_ : ring ≠ []) :
    ∃ missed xs s, pool.answers ops = missed ++ xs.map some ∧
      (missed = [] ∨ missed = [none] ∧ pool.Stranded) ∧ Rounds ring s xs ∧
      (ring.Nodup → ∀ a ∈ ring, ∀ b ∈ ring, xs.count a ≤ xs.count b + 1) := by
  have shared {xs : List Server} {s : Nat} (rounds : Rounds ring s xs) (distinct : ring.Nodup) :
      ∀ a ∈ ring, ∀ b ∈ ring, xs.count a ≤ xs.count b + 1 := by
    intro a mem b mem'
    have most := (rounds.count distinct mem).2
    have least := (rounds.count distinct mem').1
    omega
  by_cases inside : pool.strategy.currentIndex < ring.length
  · obtain ⟨xs, found, rounds⟩ := answers_rounds steady inside
    exact ⟨[], xs, _, found, .inl rfl, rounds, shared rounds⟩
  · have outside := Nat.not_lt.mp inside
    suffices h : ∃ missed xs s, pool.answers ops = missed ++ xs.map some ∧
        (missed = [] ∨ missed = [none] ∧ pool.Stranded) ∧ Rounds ring s xs by
      obtain ⟨missed, xs, s, found, refused, rounds⟩ := h
      exact ⟨missed, xs, s, found, refused, rounds, shared rounds⟩
    clear inside
    induction ops generalizing pool with
    | nil => exact ⟨[], [], 0, rfl, .inl rfl, fun k short => absurd short (Nat.not_lt_zero k)⟩
    | cons op ops ih =>
      cases op with
      | getServerForRequest => exact answers_outside steady some_ outside
      | addServer | markDead | markAlive =>
        obtain ⟨missed, xs, s, found, refused, rounds⟩ := ih steady.tail outside
        refine ⟨missed, xs, s, found, ?_, rounds⟩
        rcases refused with none_ | ⟨one, stranded⟩
        · exact .inl none_
        · refine .inr ⟨one, ?_, stranded.2⟩
          rw [steady.start, ← steady.tail.start]
          exact stranded.1

end

/-- Three servers with a dead one, and a health check that goes on between the requests. -/
theorem answers_fair_one_dead :
    let pool : BackendPool Nat :=
      new.run [.addServer 0, .addServer 1, .addServer 2, .markDead 1]
    let ops : List (PoolOp Nat) :=
      [.getServerForRequest, .markAlive 0, .markDead 1, .getServerForRequest, .markAlive 2,
        .getServerForRequest]
    pool.answers ops = [some 0, some 2, some 0] ∧
      ∃ missed xs s, pool.answers ops = missed ++ xs.map some ∧
        (missed = [] ∨ missed = [none] ∧ pool.Stranded) ∧ Rounds [0, 2] s xs ∧
        xs.count 0 ≤ xs.count 2 + 1 := by
  intro pool ops
  have steady : Steady [0, 2] pool ops := by
    have all : ∀ before ∈ ops.inits, (pool.run before).healthyServers = [0, 2] := by decide
    exact fun before within => all before ((List.mem_inits before ops).mpr within)
  obtain ⟨missed, xs, s, found, refused, rounds, fair⟩ := answers_fair steady (by decide)
  exact ⟨by decide, missed, xs, s, found, refused, rounds,
    fair (by decide) 0 (by decide) 2 (by decide)⟩

end BackendPool
end
end TorusProxy.Node
