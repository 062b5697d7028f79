import Mathlib.Data.List.Dedup
import TorusProxy.NodeRequests

/-! The health checker of a worker across hot reloads: one interval is live, it
pings the servers requests can be routed to, and no ping of an earlier one
reaches these. -/
namespace TorusProxy.Node

section
variable {parse : JSString → Except JSString (Option ConfigStructure)} {filePath : JSString}
  {next : Nat} {file : ConfigFile} {p : ParsedConfig}

/-- The servers of a built configuration: each in one pool, and numbered on. -/
structure ParsedConfig.Owns (next : Nat) (p : ParsedConfig) : Prop where
  collected : (p.pools.map (·.servers)).flatten = p.servers
  distinct : p.servers.Nodup
  fresh : ∀ server ∈ p.servers, next ≤ server.id
  numbered : ∀ server ∈ p.servers, server.id < p.next
  grows : next ≤ p.next

theorem build_owns (built : buildRouterFromConfig parse filePath next file = .ok p) :
    p.Owns next := by
  obtain ⟨upstreams, routes, b, -, made, -, servers, pools, count⟩ := build_made built
  have ids {server : BackendServer} (mem : server ∈ b.allServers) :
      next ≤ server.id ∧ server.id < b.next := by
    have id : server.id ∈ List.range' next b.allServers.length :=
      made.numbered ▸ List.mem_map_of_mem mem
    rw [List.mem_range'_1] at id
    have count := made.count
    omega
  constructor
  · rw [pools, servers, ← made.collected, List.flatMap_def]
  · apply List.Nodup.of_map BackendServer.id
    rw [servers, made.numbered]
    exact List.nodup_range'
  · rw [servers]
    exact fun server mem => (ids mem).1
  · rw [servers, count]
    exact fun server mem => (ids mem).2
  · rw [count, made.count]
    exact Nat.le_add_right _ _

end

/-! ## What most steps leave alone -/

/-- Health, metrics and the places of the strategies apart, the same memory. A
teardown that has begun is over with the step. -/
structure Memory.Quiet (m m' : Memory) : Prop where
  config : m.config.Same m'.config
  healthChecker : m'.healthChecker = m.healthChecker
  intervals : m'.intervals = m.intervals
  nextTimer : m'.nextTimer = m.nextTimer
  pings : ∀ ping ∈ m'.pings, ping ∈ m.pings
  drained : m'.lifecycle.isShuttingDown = true →
    m.lifecycle.isShuttingDown = true ∨ m'.exitCode ≠ none

section
variable {env : Setting}

theorem Conn.step_quiet {m m' : Memory} {conn conn' : Conn} {e : ConnEvent} {new : List Conn}
    (h : conn.step env m e = some (m', conn', new)) : m.Quiet m' := by
  have routed {url : JSString} {server : Option BackendServer} {moved : ParsedConfig}
      (h : m.config.routeRequest url = (server, moved)) : m.Quiet { m with config := moved } := by
    have same := m.config.routeRequest_same url
    rw [h] at same
    exact ⟨same, rfl, rfl, rfl, fun _ mem => mem, .inl⟩
  have still {m' : Memory} (same : m'.config = m.config ∧ m'.healthChecker = m.healthChecker ∧
      m'.intervals = m.intervals ∧ m'.nextTimer = m.nextTimer ∧ m'.pings = m.pings ∧
      m'.lifecycle = m.lifecycle) : m.Quiet m' := by
    obtain ⟨config, healthChecker, intervals, nextTimer, pings, lifecycle⟩ := same
    exact ⟨config ▸ .refl _, healthChecker, intervals, nextTimer, by simp [pings],
      lifecycle ▸ .inl⟩
  obtain ⟨-, -, ⟨req, pc, pc', rfl, rfl, step⟩ | ⟨req, pc, pc', rfl, rfl, step⟩⟩ := step_moved h
  · cases step with
    | unrouted dateNow passes moved found | forward dateNow passes server moved found =>
      exact routed found
    | _ => exact still ⟨rfl, rfl, rfl, rfl, rfl, rfl⟩
  · cases step with
    | unrouted dateNow passes moved found | connect dateNow passes server moved found =>
      exact routed found
    | _ => exact still ⟨rfl, rfl, rfl, rfl, rfl, rfl⟩

theorem Memory.executeTeardown_quiet (m : Memory) : m.Quiet m.executeTeardown := by
  refine ⟨.refl _, rfl, rfl, rfl, fun _ mem => mem, fun _ => ?_⟩
  by_cases already : m.lifecycle.isShuttingDown = true
  · exact .inl already
  · right
    simp [executeTeardown, Lifecycle.executeTeardown, already]

/-- Everything that can happen to a process beside its connections. -/
inductive OutsideStep (env : Setting) (m : Memory) : Outside → Memory → Prop
  | tick (i : Interval) (live : i ∈ m.intervals) :
      OutsideStep env m (.tick i.timer)
        { m with pings := m.pings ++ i.servers.map (⟨i.timer, ·⟩) }
  | quiet {x : Outside} {m' : Memory} (quiet : m.Quiet m') (other : x ≠ .teardown) :
      OutsideStep env m x m'
  | reload (file : ConfigFile) (newConfig : ParsedConfig)
      (built : buildRouterFromConfig env.parse env.filePath m.config.next file = .ok newConfig) :
      OutsideStep env m (.reload file)
        { { m.stopChecker with healthChecker := .new newConfig.servers }.startChecker with
          config := newConfig }
  | refuse (file : ConfigFile) (err : JSString)
      (failed : buildRouterFromConfig env.parse env.filePath m.config.next file = .error err) :
      OutsideStep env m (.reload file) m
  | teardown : OutsideStep env m .teardown m.executeTeardown

theorem Memory.outside_step {m m' : Memory} {x : Outside} (h : m.outside env x = some m') :
    m.exitCode = none ∧ OutsideStep env m x m' := by
  unfold outside at h
  split at h
  · rename_i alive
    refine ⟨alive, ?_⟩
    cases x with
    | tick timer =>
      obtain ⟨i, found, rfl⟩ := Option.map_eq_some_iff.mp h
      obtain rfl : i.timer = timer := by simpa using List.find?_some found
      exact .tick i (List.mem_of_find?_eq_some found)
    | pinged ping e =>
      simp only [pinged] at h
      split at h <;> cases h
      refine .quiet ⟨?_, rfl, rfl, rfl, fun _ mem => List.mem_of_mem_erase mem, .inl⟩
        (by simp)
      cases e with
      | connect => exact m.config.mapPools_same fun _ => rfl
      | timeout | error => exact m.config.mapPools_same fun _ => rfl
    | reload file =>
      cases h
      unfold reloadConfig
      split
      · rename_i err failed
        exact .refuse file err failed
      · rename_i newConfig built
        exact .reload file newConfig built
    | teardown => cases h; exact .teardown
  · cases h

/-! ## The invariant -/

/-- One interval is live, the checker's own; it goes through the servers of the
upstreams' pools, each of which is in one pool; a ping on its way to one of these was
started by this interval. -/
structure Memory.Monitored (m : Memory) : Prop where
  owns : m.config.Owns 0
  watched : m.healthChecker.servers = m.config.servers
  alone : ∃ timer, m.healthChecker.timerId = some timer ∧ timer < m.nextTimer ∧
    m.intervals = [⟨timer, m.config.servers⟩]
  known : ∀ ping ∈ m.pings, ping.server.id < m.config.next
  own : ∀ ping ∈ m.pings, ping.server ∈ m.config.servers →
    m.healthChecker.timerId = some ping.timer

theorem Memory.Monitored.quiet {m m' : Memory} (h : m.Monitored) (quiet : m.Quiet m') :
    m'.Monitored := by
  obtain ⟨⟨router, servers, next, pools⟩, checker, intervals, nextTimer, pings, -⟩ := quiet
  obtain ⟨owns, watched, alone, known, own⟩ := h
  constructor
  · exact ⟨pools ▸ servers ▸ owns.collected, servers ▸ owns.distinct, servers ▸ owns.fresh,
      servers ▸ next ▸ owns.numbered, Nat.zero_le _⟩
  · rw [checker, servers, watched]
  · rw [checker, intervals, nextTimer, servers]
    exact alone
  · rw [next]
    exact fun ping mem => known ping (pings ping mem)
  · rw [servers, checker]
    exact fun ping mem => own ping (pings ping mem)

theorem Memory.Monitored.reloaded {m : Memory} (h : m.Monitored) {newConfig : ParsedConfig}
    (owns : newConfig.Owns m.config.next) :
    Monitored { { m.stopChecker with healthChecker := .new newConfig.servers }.startChecker with
      config := newConfig } := by
  obtain ⟨timer, current, _, live⟩ := h.alone
  have stopped : m.stopChecker = { m with intervals := [] } := by
    simp [stopChecker, current, live]
  rw [stopped]
  constructor
  · exact { owns with fresh := fun _ _ => Nat.zero_le _, grows := Nat.zero_le _ }
  · exact List.Nodup.dedup owns.distinct
  · exact ⟨m.nextTimer, rfl, Nat.lt_succ_self _, by
      simp [startChecker, HealthChecker.new, List.Nodup.dedup owns.distinct]⟩
  · intro ping mem
    exact Nat.lt_of_lt_of_le (h.known ping mem) owns.grows
  · -- the new servers are numbered past those of every ping on its way
    intro ping mem server
    exact absurd (owns.fresh _ server) (Nat.not_le.mpr (h.known ping mem))

theorem Memory.boot_monitored {config : ParsedConfig} (owns : config.Owns 0) :
    (boot config).Monitored := by
  constructor
  · exact owns
  · exact List.Nodup.dedup owns.distinct
  · exact ⟨0, rfl, Nat.zero_lt_one, by
      simp [boot, startChecker, HealthChecker.new, (List.Nodup.dedup owns.distinct)]⟩
  · intro ping mem
    cases mem
  · intro ping mem
    cases mem

theorem OutsideStep.monitored {m m' : Memory} {x : Outside} (h : OutsideStep env m x m')
    (inv : m.Monitored) : m'.Monitored := by
  cases h with
  | tick i live =>
    obtain ⟨timer, current, below, alone⟩ := inv.alone
    rw [alone, List.mem_singleton] at live
    subst live
    refine ⟨inv.owns, inv.watched, ⟨timer, current, below, alone⟩, ?_, ?_⟩
    · intro ping mem
      rcases List.mem_append.mp mem with mem | mem
      · exact inv.known ping mem
      · obtain ⟨server, at_, rfl⟩ := List.mem_map.mp mem
        exact inv.owns.numbered server at_
    · intro ping mem server
      rcases List.mem_append.mp mem with mem | mem
      · exact inv.own ping mem server
      · obtain ⟨_, _, rfl⟩ := List.mem_map.mp mem
        exact current
  | quiet quiet => exact inv.quiet quiet
  | reload file newConfig built => exact inv.reloaded (build_owns built)
  | refuse => exact inv
  | teardown => exact inv.quiet m.executeTeardown_quiet

theorem monitored_step {w w' : Worker} {a : WorkerAction} (h : Worker.step env w a = some w')
    (inv : w.shared.Monitored) : w'.shared.Monitored := by
  cases Threads.Machine.next_moved h with
  | step at_ fires => exact inv.quiet (Conn.step_quiet fires)
  | enter entered =>
    obtain ⟨rfl, -⟩ := accept_same entered
    exact inv
  | change changed => exact (Memory.outside_step changed).2.monitored inv

theorem Worker.Booted.monitored {file : ConfigFile} {w : Worker} (h : Worker.Booted env file w) :
    w.shared.Monitored := by
  obtain ⟨config, built⟩ := h
  exact Memory.boot_monitored (build_owns built)

/-- **Monitoring.** However reloads, ticks, answers of pings and requests follow
one another, one interval of a worker is live; it goes through the servers of the
pools of every upstream and no others, each of which is in one pool; and whatever marks
one of these was started by this interval, not by one of an earlier configuration. -/
theorem worker_monitors_routed {file : ConfigFile} {start w : Worker}
    (booted : Worker.Booted env file start) (run : Worker.Run env start w) :
    ∃ timer, w.shared.intervals = [⟨timer, w.shared.config.servers⟩] ∧
      (w.shared.config.pools.map (·.servers)).flatten = w.shared.config.servers ∧
      w.shared.config.servers.Nodup ∧
      ∀ ping ∈ w.shared.pings, ping.server ∈ w.shared.config.servers → ping.timer = timer := by
  have inv := run.invariant (·.shared.Monitored) booted.monitored
    fun _ _ _ _ kept _ step => monitored_step step kept
  obtain ⟨timer, current, -, alone⟩ := inv.alone
  refine ⟨timer, alone, inv.owns.collected, inv.owns.distinct, fun ping mem server => ?_⟩
  exact Option.some.inj ((inv.own ping mem server).symm.trans current)

/-- A reload while the first pings are on their way. -/
theorem worker_monitors_reloaded :
    ∃ w : Worker, w.shared.pings.length = 3 ∧ ∃ timer, ∀ ping ∈ w.shared.pings,
      ping.server ∈ w.shared.config.servers → ping.timer = timer := by
  obtain ⟨w, run, three⟩ := Exec.exists_run_of_execWhile (Worker.step sampleSetting)
    (fun _ _ => True) sampleWorker [.env (.tick 0), .env (.reload (.content []))]
    (fun w => w.shared.pings.length = 3) rfl
  obtain ⟨timer, -, -, -, own⟩ := worker_monitors_routed sampleWorker_booted run
  exact ⟨w, three, timer, own⟩

end

end TorusProxy.Node
