import TorusProxy.NodeMonitoring

/-! The cluster of the Node server: the master with its timer and its watch on the
configuration file, the worker processes it forks, the messages on their way to
these and the events that tell of their end. -/
namespace TorusProxy.Node

/-- What the master sends over IPC. -/
inductive Message
  | shutdown
  | reloadConfig
  deriving DecidableEq, Repr

/-- What `cluster` emits for a worker that is gone, in either order. -/
inductive WorkerEvent
  | exit
  | disconnect
  deriving DecidableEq, Repr

/-- The type of an event of `fs.watch`. -/
inductive FileEvent
  | change
  | rename
  deriving DecidableEq, Repr

inductive WorkerState
  | booting
  | running (w : Worker)
  | gone

def WorkerState.alive : WorkerState → Bool
  | .booting => true
  | .running w => w.shared.exitCode.isNone
  | .gone => false

/-- A forked process, with the messages it has not handled. They wait until its
listeners are in place. -/
structure WorkerProcess where
  state : WorkerState
  inbox : List Message

structure Cluster where
  file : ConfigFile
  /-- The changes of the file that `fs.watch` has yet to tell. -/
  changes : Nat
  debounceTimer : Bool
  isShuttingDown : Bool
  /-- The exit code of the master, once it is gone. -/
  exitCode : Option Nat
  /-- Every worker ever forked, in order. -/
  workers : List WorkerProcess
  /-- The events the master has had of its workers, the last one first. -/
  log : List (Nat × WorkerEvent)

inductive ClusterAction
  /-- `SIGTERM`, `SIGINT` or `TEST_SHUTDOWN` at the master. -/
  | signal
  | boot (i : Nat) (hasCerts : Bool)
  | inside (i : Nat) (a : WorkerAction)
  | receive (i : Nat)
  /-- A worker crashes or is killed. -/
  | die (i : Nat)
  | report (i : Nat) (e : WorkerEvent)
  | write (file : ConfigFile) (e : FileEvent)
  | watch
  | fire
  /-- The master is killed, or an error that nothing catches ends it. -/
  | crash

namespace Cluster

/-- The primary process when its loop has forked a worker for every core. -/
def start (file : ConfigFile) (numCPUs : Nat) : Cluster where
  file := file
  changes := 0
  debounceTimer := false
  isShuttingDown := false
  exitCode := none
  workers := List.replicate numCPUs ⟨.booting, []⟩
  log := []

def reported (s : Cluster) (i : Nat) (e : WorkerEvent) : Bool := decide ((i, e) ∈ s.log)

/-- The worker is in `cluster.workers`: it leaves before the second of its events. -/
def listed (s : Cluster) (i : Nat) : Bool :=
  decide (i < s.workers.length) && !(s.reported i .exit && s.reported i .disconnect)

/-- `Object.keys(cluster.workers)`. -/
def keys (s : Cluster) : List Nat := (List.range s.workers.length).filter s.listed

def fork (s : Cluster) : Cluster := { s with workers := s.workers ++ [⟨.booting, []⟩] }

/-- A message to every worker in `cluster.workers`. -/
def broadcast (s : Cluster) (m : Message) : Cluster :=
  { s with
    workers := s.workers.mapIdx fun i w =>
      if s.listed i then { w with inbox := w.inbox ++ [m] } else w }

def initiateClusterTeardown (s : Cluster) : Cluster :=
  if s.isShuttingDown then s else broadcast { s with isShuttingDown := true } .shutdown

/-- The master has an event of a worker; it listens for `exit`. -/
def onWorkerEvent (s : Cluster) (i : Nat) (e : WorkerEvent) : Cluster :=
  let told := { s with log := (i, e) :: s.log }
  match e with
  | .disconnect => told
  | .exit =>
    if told.isShuttingDown then
      if told.keys.length = 0 then { told with exitCode := some 0 } else told
    else told.fork

/-- The callback of the debounce timer: a dry run, then the broadcast. -/
def reload (env : Setting) (s : Cluster) : Cluster :=
  match buildRouterFromConfig env.parse env.filePath 0 s.file with
  | .error _ => s
  | .ok _ => s.broadcast .reloadConfig

end Cluster

/-- A worker after it has run its module: it listens, or has exited with code 1. -/
def bootWorker (env : Setting) (file : ConfigFile) (hasCerts : Bool) : WorkerState :=
  match buildRouterFromConfig env.parse env.filePath 0 file with
  | .error _ => .gone
  -- without a secret the constructor of `JwtAuthenticator` throws
  | .ok config => if hasCerts ∧ env.secret ≠ [] then .running ⟨.boot config, []⟩ else .gone

/-- What a message makes a worker do. A reload reads the file anew. -/
def Message.outside (file : ConfigFile) : Message → Outside
  | .shutdown => .teardown
  | .reloadConfig => .reload file

/-- What happens in a worker without a message: `SIGTERM` and `SIGINT` are of these. -/
def inner : WorkerAction → Bool
  | .env (.reload _) => false
  | _ => true

/-- One step of a worker's own. -/
def WorkerProcess.step (env : Setting) (file : ConfigFile) (p : WorkerProcess) :
    ClusterAction → Option WorkerProcess
  | .boot _ hasCerts =>
    match p.state with
    | .booting => some { p with state := bootWorker env file hasCerts }
    | _ => none
  | .inside _ a =>
    match p.state with
    | .running w =>
      if inner a then (Worker.step env w a).map fun w' => { p with state := .running w' } else none
    | _ => none
  | .receive _ =>
    match p.state, p.inbox with
    | .running w, m :: inbox =>
      (Worker.step env w (.env (m.outside file))).map fun w' => ⟨.running w', inbox⟩
    | _, _ => none
  | .die _ => if p.state.alive then some { p with state := .gone } else none
  | _ => none

def Cluster.step (env : Setting) (s : Cluster) (a : ClusterAction) : Option Cluster :=
  match a with
  | .signal => if s.exitCode = none then some s.initiateClusterTeardown else none
  | .boot i _ | .inside i _ | .receive i | .die i =>
    s.workers[i]?.bind fun p =>
      (p.step env s.file a).map fun p' => { s with workers := s.workers.set i p' }
  | .report i e =>
    if s.exitCode = none ∧ s.reported i e = false then
      s.workers[i]?.bind fun p => if p.state.alive then none else some (s.onWorkerEvent i e)
    else none
  | .write file e =>
    some { s with file := file, changes := if e = .change then s.changes + 1 else s.changes }
  | .watch =>
    if s.exitCode = none ∧ 0 < s.changes then
      some { s with changes := s.changes - 1, debounceTimer := true }
    else none
  | .fire =>
    if s.exitCode = none ∧ s.debounceTimer = true then
      some (Cluster.reload env { s with debounceTimer := false })
    else none
  | .crash => if s.exitCode = none then some { s with exitCode := some 1 } else none

/-- Runs whose every step meets the guard. -/
abbrev Cluster.Run (env : Setting) (ok : Cluster → ClusterAction → Prop) :
    Cluster → Cluster → Prop :=
  Exec.Run (Cluster.step env) ok

/-! ## One step -/

/-- Everything a step of a worker's own can be. -/
inductive WorkerMove (env : Setting) (file : ConfigFile) : WorkerProcess → WorkerProcess → Prop
  | boot (inbox : List Message) (config : ParsedConfig)
      (built : buildRouterFromConfig env.parse env.filePath 0 file = .ok config) :
      WorkerMove env file ⟨.booting, inbox⟩ ⟨.running ⟨.boot config, []⟩, inbox⟩
  | inside (w w' : Worker) (inbox : List Message) (a : WorkerAction) (here : inner a = true)
      (step : Worker.step env w a = some w') :
      WorkerMove env file ⟨.running w, inbox⟩ ⟨.running w', inbox⟩
  | receive (w w' : Worker) (m : Message) (inbox : List Message)
      (step : Worker.step env w (.env (m.outside file)) = some w') :
      WorkerMove env file ⟨.running w, m :: inbox⟩ ⟨.running w', inbox⟩
  | die (p : WorkerProcess) : WorkerMove env file p ⟨.gone, p.inbox⟩

/-- Everything a step of the cluster can be. -/
inductive ClusterMove (env : Setting) (s : Cluster) : ClusterAction → Cluster → Prop
  | signal (up : s.exitCode = none) : ClusterMove env s .signal s.initiateClusterTeardown
  | worker {a : ClusterAction} (i : Nat) (p p' : WorkerProcess) (at_ : s.workers[i]? = some p)
      (alive : p.state.alive = true) (move : WorkerMove env s.file p p') :
      ClusterMove env s a { s with workers := s.workers.set i p' }
  | report (i : Nat) (e : WorkerEvent) (p : WorkerProcess) (up : s.exitCode = none)
      (new : (i, e) ∉ s.log) (at_ : s.workers[i]? = some p) (dead : p.state.alive = false) :
      ClusterMove env s (.report i e) (s.onWorkerEvent i e)
  | write (file : ConfigFile) (e : FileEvent) :
      ClusterMove env s (.write file e)
        { s with file := file, changes := if e = .change then s.changes + 1 else s.changes }
  | watch (up : s.exitCode = none) (pending : 0 < s.changes) :
      ClusterMove env s .watch { s with changes := s.changes - 1, debounceTimer := true }
  | fire (up : s.exitCode = none) (armed : s.debounceTimer = true) :
      ClusterMove env s .fire (Cluster.reload env { s with debounceTimer := false })
  | crash (up : s.exitCode = none) : ClusterMove env s .crash { s with exitCode := some 1 }

section
variable {env : Setting}

theorem Worker.step_alive {w w' : Worker} {a : WorkerAction} (h : Worker.step env w a = some w') :
    w.shared.exitCode = none := by
  cases Threads.Machine.next_moved h with
  | step _ fires => exact (Conn.step_moved fires).1
  | enter entered =>
    simp only [accept] at entered
    split at entered
    · assumption
    · cases entered
  | change changed => exact (Memory.outside_step changed).1

theorem WorkerProcess.step_move {file : ConfigFile} {p p' : WorkerProcess} {a : ClusterAction}
    (h : p.step env file a = some p') : p.state.alive = true ∧ WorkerMove env file p p' := by
  obtain ⟨state, inbox⟩ := p
  have running {w w' : Worker} {a : WorkerAction} (h : Worker.step env w a = some w') :
      (WorkerState.running w).alive = true := by
    simp [WorkerState.alive, Worker.step_alive h]
  cases a with
  | boot i hasCerts =>
    cases state with
    | booting =>
      simp only [step, bootWorker] at h
      refine ⟨rfl, ?_⟩
      split at h
      · cases h
        exact .die ⟨.booting, inbox⟩
      · rename_i config built
        split at h <;> cases h
        · exact .boot inbox config built
        · exact .die ⟨.booting, inbox⟩
    | running | gone => cases h
  | inside i a =>
    cases state with
    | running w =>
      simp only [step] at h
      split at h
      · rename_i here
        obtain ⟨w', fires, rfl⟩ := Option.map_eq_some_iff.mp h
        exact ⟨running fires, .inside w w' inbox a here fires⟩
      · cases h
    | booting | gone => cases h
  | receive i =>
    cases state with
    | running w =>
      cases inbox with
      | nil => cases h
      | cons m inbox =>
        obtain ⟨w', fires, rfl⟩ := Option.map_eq_some_iff.mp h
        exact ⟨running fires, .receive w w' m inbox fires⟩
    | booting | gone => cases h
  | die i =>
    simp only [step] at h
    split at h <;> cases h
    rename_i alive
    exact ⟨alive, .die ⟨state, inbox⟩⟩
  | signal | report | write | watch | fire | crash => cases h

theorem Cluster.step_move {s s' : Cluster} {a : ClusterAction} (h : s.step env a = some s') :
    ClusterMove env s a s' := by
  have own {i : Nat} {a : ClusterAction}
      (h : (s.workers[i]?.bind fun p =>
        (p.step env s.file a).map fun p' => { s with workers := s.workers.set i p' }) = some s') :
      ClusterMove env s a s' := by
    obtain ⟨p, at_, h⟩ := Option.bind_eq_some_iff.mp h
    obtain ⟨p', fires, rfl⟩ := Option.map_eq_some_iff.mp h
    obtain ⟨alive, move⟩ := WorkerProcess.step_move fires
    exact .worker i p p' at_ alive move
  cases a with
  | signal =>
    simp only [step] at h
    split at h <;> cases h
    rename_i up
    exact .signal up
  | boot i hasCerts => exact own h
  | inside i a => exact own h
  | receive i => exact own h
  | die i => exact own h
  | report i e =>
    simp only [step] at h
    split at h
    · rename_i ready
      obtain ⟨p, at_, h⟩ := Option.bind_eq_some_iff.mp h
      split at h <;> cases h
      rename_i dead
      have new : (i, e) ∉ s.log := by simpa [reported] using ready.2
      exact .report i e p ready.1 new at_ (by simpa using dead)
    · cases h
  | write file e => cases h; exact .write file e
  | watch =>
    simp only [step] at h
    split at h <;> cases h
    rename_i ready
    exact .watch ready.1 ready.2
  | fire =>
    simp only [step] at h
    split at h <;> cases h
    rename_i ready
    exact .fire ready.1 ready.2
  | crash =>
    simp only [step] at h
    split at h <;> cases h
    rename_i up
    exact .crash up

end

end TorusProxy.Node
