import Mathlib.Data.List.Basic

/-! The data plane of the Node server: `BackendPool` keeps the healthy servers and
`RoundRobinStrategy` picks one of these, by an index it keeps from call to call. -/
namespace TorusProxy.Node

/-! ## The strategy -/

structure RoundRobinStrategy where
  currentIndex : Nat
  deriving DecidableEq, Repr

section
variable {Server : Type}

namespace RoundRobinStrategy

/-- The loop of `getNext` with so many rounds to go. The index may lie past the
end of the list; the server read there is undefined. -/
def getNextLoop (isHealthy : Server → Bool) (servers : List Server) :
    Nat → RoundRobinStrategy → Option Server × RoundRobinStrategy
  | 0, strategy => (none, strategy)
  | rounds + 1, strategy =>
    let moved := { strategy with currentIndex := (strategy.currentIndex + 1) % servers.length }
    match servers[strategy.currentIndex]? with
    | some server =>
      if isHealthy server then (some server, moved)
      else getNextLoop isHealthy servers rounds moved
    | none => getNextLoop isHealthy servers rounds moved

def getNext (isHealthy : Server → Bool) (servers : List Server) (strategy : RoundRobinStrategy) :
    Option Server × RoundRobinStrategy :=
  if servers.length = 0 then (none, strategy)
  else getNextLoop isHealthy servers servers.length strategy

theorem getNextLoop_healthy {isHealthy : Server → Bool} {servers : List Server} {rounds : Nat}
    {strategy : RoundRobinStrategy} {server : Server}
    (found : (getNextLoop isHealthy servers rounds strategy).1 = some server) :
    server ∈ servers ∧ isHealthy server = true := by
  induction rounds generalizing strategy with
  | zero => cases found
  | succ rounds ih =>
    simp only [getNextLoop] at found
    split at found
    · rename_i read at_
      split at found
      · rename_i healthy
        cases found
        exact ⟨List.mem_of_getElem? at_, healthy⟩
      · exact ih found
    · exact ih found

/-- Whatever the strategy picks is one of the servers it was given, and healthy. -/
theorem getNext_healthy {isHealthy : Server → Bool} {servers : List Server}
    {strategy : RoundRobinStrategy} {server : Server}
    (found : (getNext isHealthy servers strategy).1 = some server) :
    server ∈ servers ∧ isHealthy server = true := by
  unfold getNext at found
  split at found
  · cases found
  · exact getNextLoop_healthy found

/-- A round whose index lies inside a list of healthy servers is the last. -/
theorem getNextLoop_inside {isHealthy : Server → Bool} {servers : List Server}
    (healthy : ∀ server ∈ servers, isHealthy server = true) (rounds : Nat)
    {strategy : RoundRobinStrategy} (inside : strategy.currentIndex < servers.length) :
    (getNextLoop isHealthy servers (rounds + 1) strategy).1 =
      some servers[strategy.currentIndex] := by
  have on : isHealthy servers[strategy.currentIndex] = true :=
    healthy _ (List.getElem_mem inside)
  simp only [getNextLoop, List.getElem?_eq_getElem inside, on, if_true]

/-- A round whose index lies past the end only brings the index back. -/
theorem getNextLoop_outside {isHealthy : Server → Bool} {servers : List Server} (rounds : Nat)
    {strategy : RoundRobinStrategy} (outside : servers.length ≤ strategy.currentIndex) :
    getNextLoop isHealthy servers (rounds + 1) strategy =
      getNextLoop isHealthy servers rounds
        { strategy with currentIndex := (strategy.currentIndex + 1) % servers.length } := by
  simp only [getNextLoop, List.getElem?_eq_none outside]

/-- Of healthy servers one is picked, unless there is only one and the index has
run past it: the single round of the loop goes into bringing the index back. -/
theorem getNext_none_iff {isHealthy : Server → Bool} {servers : List Server}
    (healthy : ∀ server ∈ servers, isHealthy server = true) (strategy : RoundRobinStrategy) :
    (getNext isHealthy servers strategy).1 = none ↔
      servers = [] ∨ servers.length = 1 ∧ strategy.currentIndex ≠ 0 := by
  unfold getNext
  split
  · rename_i zero
    simp [List.length_eq_zero_iff.mp zero]
  · rename_i some
    have nonempty : servers ≠ [] := fun nil => some (by rw [nil]; rfl)
    obtain ⟨rounds, length⟩ := Nat.exists_eq_succ_of_ne_zero some
    by_cases inside : strategy.currentIndex < servers.length
    · have found := getNextLoop_inside healthy rounds inside
      rw [length, found]
      simp only [reduceCtorEq, nonempty, false_or, false_iff]
      omega
    · rw [length, getNextLoop_outside rounds (by omega)]
      cases rounds with
      | zero =>
        simp only [getNextLoop, true_and, true_iff]
        right
        omega
      | succ rounds =>
        have back : (strategy.currentIndex + 1) % servers.length < servers.length :=
          Nat.mod_lt _ (by omega)
        rw [getNextLoop_inside healthy rounds back]
        simp only [reduceCtorEq, nonempty, false_or, false_iff]
        omega

end RoundRobinStrategy

/-! ## The pool -/

/-- A `BackendPool` with its strategy, and the health its servers have now. -/
structure BackendPool (Server : Type) where
  servers : List Server
  strategy : RoundRobinStrategy
  isHealthy : Server → Bool

/-- The operations of a run. Health is marked on a server, in the pool or not. -/
inductive PoolOp (Server : Type)
  | addServer (server : Server)
  | markDead (server : Server)
  | markAlive (server : Server)
  | getServerForRequest
  deriving DecidableEq, Repr

namespace BackendPool

def addServer (pool : BackendPool Server) (server : Server) : BackendPool Server :=
  { pool with servers := pool.servers ++ [server] }

def healthyServers (pool : BackendPool Server) : List Server :=
  pool.servers.filter pool.isHealthy

def getServerForRequest (pool : BackendPool Server) : Option Server × BackendPool Server :=
  if pool.healthyServers.length = 0 then (none, pool)
  else
    let (server, strategy) := pool.strategy.getNext pool.isHealthy pool.healthyServers
    (server, { pool with strategy := strategy })

section
variable [DecidableEq Server]

def markDead (pool : BackendPool Server) (server : Server) : BackendPool Server :=
  { pool with isHealthy := Function.update pool.isHealthy server false }

def markAlive (pool : BackendPool Server) (server : Server) : BackendPool Server :=
  { pool with isHealthy := Function.update pool.isHealthy server true }

def apply (pool : BackendPool Server) : PoolOp Server → BackendPool Server
  | .addServer server => pool.addServer server
  | .markDead server => pool.markDead server
  | .markAlive server => pool.markAlive server
  | .getServerForRequest => pool.getServerForRequest.2

def run (pool : BackendPool Server) (ops : List (PoolOp Server)) : BackendPool Server :=
  ops.foldl apply pool

/-- What a `BackendPool` starts from: no servers, index 0, and servers that are
healthy until they are marked. -/
def new : BackendPool Server where
  servers := []
  strategy := { currentIndex := 0 }
  isHealthy := fun _ => true

/-- Holds of the pool whenever the run asks it for a server. -/
def AtEachCall (P : BackendPool Server → Prop) (pool : BackendPool Server)
    (ops : List (PoolOp Server)) : Prop :=
  ∀ before after, ops = before ++ .getServerForRequest :: after → P (pool.run before)

end

/-- The pool answers null only when none of its servers is healthy, and otherwise
with a healthy one. -/
def Answers (pool : BackendPool Server) : Prop :=
  (pool.getServerForRequest.1 = none ↔ ∀ server ∈ pool.servers, pool.isHealthy server = false) ∧
  ∀ server, pool.getServerForRequest.1 = some server →
    server ∈ pool.servers ∧ pool.isHealthy server = true

/-- One healthy server is left, and the index points past it. -/
def Stranded (pool : BackendPool Server) : Prop :=
  pool.healthyServers.length = 1 ∧ pool.strategy.currentIndex ≠ 0

theorem healthyServers_eq_nil (pool : BackendPool Server) :
    pool.healthyServers = [] ↔ ∀ server ∈ pool.servers, pool.isHealthy server = false := by
  simp [healthyServers, List.filter_eq_nil_iff]

theorem getServerForRequest_none_iff (pool : BackendPool Server) :
    pool.getServerForRequest.1 = none ↔ pool.healthyServers = [] ∨ pool.Stranded := by
  have healthy : ∀ server ∈ pool.healthyServers, pool.isHealthy server = true :=
    fun _ mem => (List.mem_filter.mp mem).2
  unfold getServerForRequest
  split
  · rename_i zero
    simp [List.length_eq_zero_iff.mp zero]
  · exact RoundRobinStrategy.getNext_none_iff healthy pool.strategy

theorem getServerForRequest_healthy {pool : BackendPool Server} {server : Server}
    (found : pool.getServerForRequest.1 = some server) :
    server ∈ pool.servers ∧ pool.isHealthy server = true := by
  unfold getServerForRequest at found
  split at found
  · cases found
  · exact List.mem_filter.mp (RoundRobinStrategy.getNext_healthy found).1

theorem answers_iff_not_stranded (pool : BackendPool Server) : pool.Answers ↔ ¬ pool.Stranded := by
  have unstranded : pool.healthyServers = [] → ¬ pool.Stranded :=
    fun nil stranded => by simp [Stranded, nil] at stranded
  constructor
  · rintro ⟨null, _⟩ stranded
    have nil := (healthyServers_eq_nil pool).mpr
      (null.mp ((getServerForRequest_none_iff pool).mpr (.inr stranded)))
    exact unstranded nil stranded
  · intro calm
    refine ⟨?_, fun _ => getServerForRequest_healthy⟩
    rw [getServerForRequest_none_iff, ← healthyServers_eq_nil]
    exact or_iff_left calm

/-- A refused survivor is refused once: the refusal brings the index back to it. -/
theorem refusal_ends_stranding {pool : BackendPool Server} (stranded : pool.Stranded) :
    pool.getServerForRequest.2.strategy.currentIndex = 0 := by
  obtain ⟨alone, past⟩ := stranded
  have outside : pool.healthyServers.length ≤ pool.strategy.currentIndex := by omega
  have some : ¬ pool.healthyServers.length = 0 := by omega
  simp only [getServerForRequest, RoundRobinStrategy.getNext, if_neg some]
  rw [alone, RoundRobinStrategy.getNextLoop_outside 0 outside]
  simp only [RoundRobinStrategy.getNextLoop, alone, Nat.mod_one]

/-- Every call of a run is answered rightly just when none of them meets the pool
with a single healthy server and the index past it. -/
theorem calls_answered_iff [DecidableEq Server] (pool : BackendPool Server)
    (ops : List (PoolOp Server)) :
    pool.AtEachCall Answers ops ↔ pool.AtEachCall (fun now => ¬ now.Stranded) ops := by
  constructor
  · intro answered before after split
    exact (answers_iff_not_stranded _).mp (answered before after split)
  · intro calm before after split
    exact (answers_iff_not_stranded _).mpr (calm before after split)

/-- Two servers, one request, and the first server dies: the index stands at the
second place and the second server is alone, so the next request is refused. -/
theorem survivor_refused :
    ¬ (new : BackendPool Nat).AtEachCall Answers
      [.addServer 0, .addServer 1, .getServerForRequest, .markDead 0, .getServerForRequest] := by
  intro answered
  have answers := answered [.addServer 0, .addServer 1, .getServerForRequest, .markDead 0] [] rfl
  have dead := (answers.1.mp (by decide)) 1 (by decide)
  exact absurd dead (by decide)

end BackendPool
end
end TorusProxy.Node
