import TorusProxy.NodeTeardown

/-! Hot reload across the cluster: once the changes of the file have been told and
the messages handled, every live worker routes and probes as the file says. -/
namespace TorusProxy.Node

section
variable {env : Setting}

/-- The routing state is what a build of this file gives, health and the places of
the strategies apart. -/
def Memory.ServesFile (env : Setting) (file : ConfigFile) (m : Memory) : Prop :=
  ∃ next p, buildRouterFromConfig env.parse env.filePath next file = .ok p ∧ p.Same m.config

theorem ParsedConfig.Same.trans {a b c : ParsedConfig} (h : a.Same b) (h' : b.Same c) :
    a.Same c :=
  ⟨h'.router.trans h.router, h'.servers.trans h.servers, h'.next.trans h.next,
    h'.pools.trans h.pools⟩

/-- A worker's own steps and its teardown leave its routing state. -/
theorem Worker.step_same {w w' : Worker} {a : WorkerAction} (h : Worker.step env w a = some w')
    (other : ∀ file, a ≠ .env (.reload file)) : w.shared.config.Same w'.shared.config := by
  cases Threads.Machine.next_moved h with
  | step at_ fires => exact (Conn.step_quiet fires).config
  | enter entered =>
    obtain ⟨rfl, -⟩ := accept_same entered
    exact .refl _
  | change changed =>
    cases (Memory.outside_step changed).2 with
    | tick | refuse => exact .refl _
    | quiet quiet => exact quiet.config
    | reload file => exact absurd rfl (other file)
    | teardown => exact w.shared.executeTeardown_quiet.config

theorem Worker.step_reload {w w' : Worker} {file : ConfigFile}
    (h : Worker.step env w (.env (.reload file)) = some w')
    (accepted : ∃ p, buildRouterFromConfig env.parse env.filePath 0 file = .ok p) :
    w'.shared.ServesFile env file := by
  obtain ⟨p, built⟩ := accepted
  obtain ⟨p', built'⟩ := build_again built w.shared.config.next
  have alive := step_alive h
  cases Threads.Machine.next_moved h with
  | change changed =>
    simp only [Memory.outside, alive, if_true, Memory.reloadConfig, built'] at changed
    cases changed
    exact ⟨_, p', built', .refl _⟩

/-- The worker has a reload before it, or routes as the file says. -/
def WorkerProcess.Current (env : Setting) (file : ConfigFile) (p : WorkerProcess) : Prop :=
  ∀ w, p.state = .running w → w.shared.exitCode = none →
    .reloadConfig ∈ p.inbox ∨ w.shared.ServesFile env file

theorem WorkerMove.current {file : ConfigFile} {p p' : WorkerProcess} (h : WorkerMove env file p p')
    (accepted : ∃ p, buildRouterFromConfig env.parse env.filePath 0 file = .ok p)
    (inv : p.Current env file) : p'.Current env file := by
  intro w running alive
  cases h with
  | boot inbox config built =>
    cases running
    exact .inr ⟨0, config, built, .refl _⟩
  | inside w₁ w₂ inbox a here step =>
    cases running
    refine (inv w₁ rfl (Worker.step_alive step)).imp_right ?_
    rintro ⟨next, p, built, same⟩
    refine ⟨next, p, built, same.trans (Worker.step_same step ?_)⟩
    rintro file rfl
    cases here
  | receive w₁ w₂ m inbox step =>
    cases running
    cases m with
    | reloadConfig => exact .inr (Worker.step_reload step accepted)
    | shutdown =>
      rcases inv w₁ rfl (Worker.step_alive step) with mem | ⟨next, p, built, same⟩
      · exact .inl (by simpa using mem)
      · exact .inr ⟨next, p, built, same.trans (Worker.step_same step (by rintro file ⟨⟩))⟩
  | die => cases running

/-- A file that a build accepts is on its way to the workers, or has reached them. -/
def Cluster.Converging (env : Setting) (s : Cluster) : Prop :=
  s.exitCode = none → (∃ p, buildRouterFromConfig env.parse env.filePath 0 s.file = .ok p) →
    0 < s.changes ∨ s.debounceTimer = true ∨ ∀ p ∈ s.workers, p.Current env s.file

/-- A write of the file is told as a change. -/
def ClusterAction.watched : ClusterAction → Bool
  | .write _ e => e = .change
  | _ => true

def Watched (_ : Cluster) (a : ClusterAction) : Prop := a.watched = true

instance (s : Cluster) (a : ClusterAction) : Decidable (Watched s a) :=
  inferInstanceAs (Decidable (a.watched = true))

theorem Cluster.broadcast_current {s : Cluster} {file : ConfigFile} (m : Message)
    (inv : ∀ p ∈ s.workers, p.Current env file) :
    ∀ p ∈ (s.broadcast m).workers, p.Current env file := by
  intro p mem w running alive
  obtain ⟨i, lt, rfl⟩ := List.mem_mapIdx.mp mem
  have before := inv _ (List.getElem_mem lt) w
  split at running <;> rename_i here
  · rw [if_pos here]
    exact (before running alive).imp_left (List.mem_append_left _)
  · rw [if_neg here]
    exact before running alive

/-- The broadcast reaches every live worker. -/
theorem Cluster.broadcast_reload {s : Cluster} {file : ConfigFile} (logged : s.Logged) :
    ∀ p ∈ (s.broadcast .reloadConfig).workers, p.Current env file := by
  intro p mem w running alive
  obtain ⟨i, at_⟩ := List.mem_iff_getElem?.mp mem
  rw [broadcast_getElem?] at at_
  obtain ⟨q, at_q, rfl⟩ := Option.map_eq_some_iff.mp at_
  have live : q.state.alive = true := by
    have state : q.state = .running w := by
      revert running
      split <;> exact id
    simp [state, WorkerState.alive, alive]
  rw [if_pos (logged.listed_of_alive at_q live)]
  exact .inl (List.mem_append_right _ (List.mem_singleton_self _))

theorem ClusterMove.converging {s s' : Cluster} {a : ClusterAction} (h : ClusterMove env s a s')
    (watched : Watched s a) (logged : s.Logged) (inv : s.Converging env) : s'.Converging env := by
  cases h with
  | signal up =>
    unfold Cluster.initiateClusterTeardown
    split
    · exact inv
    · intro up' accepted
      refine (inv up accepted).imp_right (Or.imp_right fun current => ?_)
      exact Cluster.broadcast_current (s := { s with isShuttingDown := true }) .shutdown current
  | worker i p p' at_ alive move =>
    intro up accepted
    refine (inv up accepted).imp_right (Or.imp_right fun current q mem => ?_)
    rcases List.mem_or_eq_of_mem_set mem with mem | rfl
    · exact current q mem
    · exact move.current accepted (current p (List.mem_of_getElem? at_))
  | report i e p up =>
    cases e with
    | disconnect => exact inv
    | exit =>
      simp only [Cluster.onWorkerEvent]
      split
      · split
        · intro up'
          cases up'
        · exact inv
      · intro up' accepted
        refine (inv up accepted).imp_right (Or.imp_right fun current q mem => ?_)
        rcases List.mem_append.mp mem with mem | mem
        · exact current q mem
        · rw [List.mem_singleton.mp mem]
          intro w running
          cases running
  | write file e =>
    obtain rfl : e = .change := by simpa [Watched, ClusterAction.watched] using watched
    exact fun _ _ => .inl (Nat.succ_pos _)
  | watch => exact fun _ _ => .inr (.inl rfl)
  | fire up =>
    unfold Cluster.reload
    split
    · rename_i err failed
      rintro - ⟨p, built⟩
      cases failed.symm.trans built
    · intro up' accepted
      exact .inr (.inr (Cluster.broadcast_reload (s := { s with debounceTimer := false })
        ⟨logged.gone, logged.once⟩))
  | crash =>
    intro up
    cases up

/-- **Convergence.** When every change of a file that a build accepts has been told
and the timer has fired, each live worker that has handled its reloads routes as
the file says, and its one health check goes through the servers the file names,
whatever crashed, was forked or was reloaded on the way. -/
theorem cluster_converges {file : ConfigFile} {numCPUs : Nat} {s : Cluster}
    (run : Cluster.Run env Watched (.start file numCPUs) s) (up : s.exitCode = none)
    (told : s.changes = 0) (fired : s.debounceTimer = false)
    (accepted : ∃ p, buildRouterFromConfig env.parse env.filePath 0 s.file = .ok p) :
    ∀ p ∈ s.workers, ∀ w, p.state = .running w → w.shared.exitCode = none →
      .reloadConfig ∉ p.inbox →
      w.shared.ServesFile env s.file ∧
        w.shared.intervals.map Interval.servers = [w.shared.config.servers] := by
  have converging : s.Converging env := by
    refine run.invariant (Cluster.Converging env) ?_ ?_
    · intro _ _
      refine .inr (.inr fun p mem w running => ?_)
      rw [List.eq_of_mem_replicate mem] at running
      cases running
    · intro a u v reached inv watched step
      exact (Cluster.step_move step).converging watched (Cluster.kept reached).logged inv
  have monitored := Cluster.each (·.shared.Monitored) run
    (fun p mem => by rw [List.eq_of_mem_replicate mem])
    (fun _ _ built => Memory.boot_monitored (build_owns built)) fun _ _ _ => monitored_step
  intro p mem w running alive handled
  refine ⟨?_, ?_⟩
  · rcases converging up accepted with pending | armed | current
    · omega
    · cases armed.symm.trans fired
    · exact (current p mem w running alive).resolve_left handled
  · obtain ⟨timer, -, -, alone⟩ := (monitored p mem w running).alone
    rw [alone]
    rfl

/-- One worker is up when the file changes, and one is forked on the way. -/
theorem cluster_converges_crash :
    ∃ s : Cluster, s.workers.length = 3 ∧ s.file = .content [1] ∧
      ∀ p ∈ s.workers, ∀ w, p.state = .running w → w.shared.exitCode = none →
        .reloadConfig ∉ p.inbox → w.shared.ServesFile sampleSetting s.file := by
  obtain ⟨s, run, three, up, told, fired, file⟩ := Exec.exists_run_of_execWhile
    (Cluster.step sampleSetting) Watched (.start (.content []) 2)
    [.boot 0 true, .die 1, .write (.content [1]) .change, .report 1 .exit, .watch, .fire,
      .boot 2 true, .receive 0]
    (fun s => s.workers.length = 3 ∧ s.exitCode = none ∧ s.changes = 0 ∧
      s.debounceTimer = false ∧ s.file = .content [1]) rfl
  refine ⟨s, three, file, fun p mem w running alive handled => ?_⟩
  have accepted :
      ∃ p, buildRouterFromConfig sampleSetting.parse sampleSetting.filePath 0 s.file = .ok p := by
    rw [file]
    exact ⟨_, rfl⟩
  exact (cluster_converges run up told fired accepted p mem w running alive handled).1

end

end TorusProxy.Node
