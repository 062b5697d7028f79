import TorusProxy.Debounce
import TorusProxy.AllOrNothing

/-! `main`: the server, the reload manager and the configuration watcher in one
process, with files that others write. A run begins when `BuildInitialRuntime`
has read them; the watcher is the only caller of `Manager.Reload`. -/
namespace TorusProxy

open Threads

structure System where
  world : World
  watcher : Watcher
  /-- The place of the call of `Reload` the watcher made last. -/
  reloading : Option Nat
  /-- Events of writes that `fsnotify` has yet to deliver. -/
  owed : List Event
  /-- The file at the boot, at the last call of `Reload` or at the last write that
  yields an event. History. No step reads it. -/
  noticed : Except String Bytes
  /-- The key pair files have changed since the boot or the last call of `Reload`.
  History as well. -/
  rekeyed : Bool

inductive SystemAction
  | server (a : Action)
  | watcher (a : WatcherAction)
  /-- Someone writes the file; the event is what `fsnotify` makes of it. -/
  | write (content : Bytes) (e : Event)
  /-- Someone writes key pair files, which are not watched. -/
  | rekey (keyPair : String → String → Except String Certificate)
  | deliver

/-- Requests and shutdowns come from outside, reloads from the watcher. -/
def ofServer : Action → Bool
  | .run _ _ | .call (.request _) | .call .shutdown => true
  | .call .manager | .call (.reload _) | .env _ => false

/-- The directory watch is in place: `Add` has succeeded and the loop runs. -/
def WatcherPC.added : WatcherPC → Bool
  | .select | .event _ | .received _ | .reload | .recordFailure => true
  | .newWatcher | .abs | .add | .returned _ => false

def Error.message : Error → String
  | .serverNotRunning => "server is not running"
  | .text message => message

/-- What the call of `Reload` gives back to the loop. -/
def Outcome.answer (out : Outcome) : WatcherChoice :=
  match out.err with
  | none => .ok
  | some err => .fail err.message

namespace System

/-- The outcome of the reload the loop waits for, once it has returned. -/
def answered (s : System) : Option Outcome :=
  match s.reloading.bind (s.world.threads[·]?) with
  | some (.manager (.returned out)) => some out
  | _ => none

/-- The loop is at its call of `Reload`: a call enters the manager. -/
def callReload (s : System) (v : Watcher) : System :=
  { s with
    world := ⟨s.world.shared, s.world.threads ++ [.manager .begin]⟩
    watcher := v
    reloading := some s.world.threads.length
    noticed := s.world.shared.disk.config
    rekeyed := false }

/-- A step of the loop. Inside `Reload` it waits for the manager. -/
def watch (wd : Except String Bytes) (s : System) (c : WatcherChoice) : Option System :=
  if s.watcher.pc = .reload then
    s.answered.bind fun out =>
      (s.watcher.start wd out.answer).map fun v => { s with watcher := v }
  else
    (s.watcher.start wd c).map fun v =>
      if v.pc = .reload then s.callReload v else { s with watcher := v }

def setDisk (s : System) (disk : Disk) : System :=
  { s with world := ⟨{ s.world.shared with disk := disk }, s.world.threads⟩ }

def setFile (s : System) (content : Bytes) : System :=
  s.setDisk { s.world.shared.disk with config := .ok content }

def step (env : Env) (wd : Except String Bytes) (s : System) : SystemAction → Option System
  | .server a =>
    if ofServer a then (World.step env s.world a).map fun w => { s with world := w } else none
  | .watcher (.run c) => s.watch wd c
  | .watcher a => (s.watcher.next wd a).map fun v => { s with watcher := v }
  | .write content e =>
    -- a write before the watch is in place yields no event
    if s.watcher.pc.added then
      if relevant wd s.watcher.configPath e then
        some { s.setFile content with owed := s.owed ++ [e], noticed := .ok content }
      else none
    else some (s.setFile content)
  | .rekey keyPair =>
    some { s.setDisk { s.world.shared.disk with keyPair := keyPair } with rekeyed := true }
  | .deliver =>
    match s.owed with
    | [] => none
    | e :: rest => (s.watcher.next wd (.deliver e)).map fun v => { s with watcher := v, owed := rest }

/-- Runs whose every step meets the guard. -/
abbrev Run (env : Env) (wd : Except String Bytes) (ok : System → SystemAction → Prop) :
    System → System → Prop :=
  Exec.Run (System.step env wd) ok

end System

/-- `BuildInitialRuntime` has read the files and built runtime 0 of them; the
server and the watcher are about to start. -/
structure Boot (env : Env) (s : System) : Prop where
  starting : Starting s.world
  hasServer : s.world.shared.hasServer = true
  built : ∃ cfg, loadConfig env s.world.shared.disk.config = .ok cfg ∧
    BuiltFrom s.world.shared.disk cfg (s.world.shared.heap 0)
  watcher : ∃ path, s.watcher = .new path
  idle : s.reloading = none ∧ s.owed = []
  noticed : s.noticed = s.world.shared.disk.config
  rekeyed : s.rekeyed = false

/-- Everything one step of the process can do. -/
inductive SystemMove (env : Env) (wd : Except String Bytes) (s : System) :
    SystemAction → System → Prop
  | server (a : Action) (w : World) (outside : ofServer a = true)
      (step : World.step env s.world a = some w) :
      SystemMove env wd s (.server a) { s with world := w }
  /-- The loop outside `Reload`, its channels, its context and its timers. -/
  | watcher {a : SystemAction} (b : WatcherAction) (v : Watcher) (owed : List Event)
      (step : s.watcher.next wd b = some v) (same : v.pc = .reload ↔ s.watcher.pc = .reload)
      (kept : ∀ e ∈ s.owed, e ∈ owed ∨ b = .deliver e) :
      SystemMove env wd s a { s with watcher := v, owed := owed }
  | call {a : SystemAction} (b : WatcherAction) (t : Nat) (site : s.watcher.pc = .received t)
      (step : s.watcher.next wd b = some (s.watcher.callReload t)) :
      SystemMove env wd s a (s.callReload (s.watcher.callReload t))
  | done {a : SystemAction} (out : Outcome) (v : Watcher) (site : s.watcher.pc = .reload)
      (answered : s.answered = some out) (step : s.watcher.next wd (.run out.answer) = some v) :
      SystemMove env wd s a { s with watcher := v }
  | write (content : Bytes) (e : Event) (added : s.watcher.pc.added = true)
      (hit : relevant wd s.watcher.configPath e = true) :
      SystemMove env wd s (.write content e)
        { s.setFile content with owed := s.owed ++ [e], noticed := .ok content }
  /-- Before the watch is in place, or after the loop has returned. -/
  | unnoticed (content : Bytes) (e : Event) (out : s.watcher.pc.added = false) :
      SystemMove env wd s (.write content e) (s.setFile content)
  | rekey (keyPair : String → String → Except String Certificate) :
      SystemMove env wd s (.rekey keyPair)
        { s.setDisk { s.world.shared.disk with keyPair := keyPair } with rekeyed := true }

theorem Watcher.next_pc {wd : Except String Bytes} {w w' : Watcher} {a : WatcherAction}
    (h : w.next wd a = some w') (outside : ∀ c, a ≠ .run c) : w'.pc = w.pc := by
  cases a with
  | run c => exact absurd rfl (outside c)
  | cancel | closeEvents | closeErrors => cases h; rfl
  | deliver | report | fire =>
    simp only [Watcher.next] at h
    split at h <;> cases h
    rfl

/-- The loop leaves `Reload` when that has returned. -/
theorem Watcher.start_leaves {wd : Except String Bytes} {v v' : Watcher} {c : WatcherChoice}
    (h : v.next wd (.run c) = some v') (site : v.pc = .reload) : v'.pc ≠ .reload := by
  simp only [Watcher.next, Watcher.start, site] at h
  split at h <;> cases h <;> rintro ⟨⟩

section
variable {env : Env} {wd : Except String Bytes} {s s' : System}

theorem System.watch_move {c : WatcherChoice} {a : SystemAction} (h : s.watch wd c = some s') :
    SystemMove env wd s a s' := by
  unfold System.watch at h
  split at h
  · rename_i site
    obtain ⟨out, answered, h⟩ := Option.bind_eq_some_iff.mp h
    obtain ⟨v, step, rfl⟩ := Option.map_eq_some_iff.mp h
    exact .done out v site answered step
  · rename_i outside
    obtain ⟨v, step, rfl⟩ := Option.map_eq_some_iff.mp h
    split
    · rename_i here
      cases Watcher.start_move step with
      | quiet quiet _ =>
        have busy := quiet.busy
        simp [here, outside] at busy
      | skip | arm | receive => cases here
      | call c t site => exact .call (.run c) t site step
      | done _ _ site => exact absurd site outside
    · rename_i there
      exact .watcher (.run c) v s.owed step (by simp [there, outside]) fun e he => .inl he

theorem System.step_move {a : SystemAction} (h : s.step env wd a = some s') :
    SystemMove env wd s a s' := by
  have around {b : WatcherAction} (outside : ∀ c, b ≠ .run c) (owed : List Event)
      (kept : ∀ e ∈ s.owed, e ∈ owed ∨ b = .deliver e) {v : Watcher}
      (step : s.watcher.next wd b = some v) :
      SystemMove env wd s a { s with watcher := v, owed := owed } :=
    .watcher b v owed step (by rw [Watcher.next_pc step outside]) kept
  cases a with
  | server a =>
    simp only [System.step] at h
    split at h
    · rename_i outside
      obtain ⟨w, step, rfl⟩ := Option.map_eq_some_iff.mp h
      exact .server a w outside step
    · cases h
  | watcher b =>
    cases b with
    | run c => exact System.watch_move h
    | cancel | deliver | closeEvents | report | closeErrors | fire =>
      simp only [System.step] at h
      obtain ⟨v, step, rfl⟩ := Option.map_eq_some_iff.mp h
      exact around (by rintro c ⟨⟩) s.owed (fun e he => .inl he) step
  | write content e =>
    simp only [System.step] at h
    split at h
    · rename_i added
      split at h <;> cases h
      rename_i hit
      exact .write content e added hit
    · rename_i out
      cases h
      exact .unnoticed content e (by simpa using out)
  | rekey keyPair =>
    cases h
    exact .rekey keyPair
  | deliver =>
    simp only [System.step] at h
    split at h
    · cases h
    · rename_i e rest owed
      obtain ⟨v, step, rfl⟩ := Option.map_eq_some_iff.mp h
      refine around (by rintro c ⟨⟩) rest ?_ step
      intro e' he
      rw [owed] at he
      rcases List.mem_cons.mp he with rfl | he
      · exact .inr rfl
      · exact .inl he

end

end TorusProxy
