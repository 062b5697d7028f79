import TorusProxy.System

/-! `main` around the server and the watcher: the goroutine that calls `Start`, the
one that waits for a signal and calls `Shutdown`, and the exit of the process. -/
namespace TorusProxy

open Threads

/-- The goroutine of `main` itself, from its wait on. -/
inductive MainPC
  /-- `<-signalCtx.Done()`. -/
  | wait
  | cancel
  | shutdown
  /-- Inside `server.Shutdown`. -/
  | await
  | exit (code : Nat)
  deriving DecidableEq, Repr

/-- The goroutine around `server.Start`. -/
inductive StarterPC
  | start
  | cancel
  | exit
  | done
  deriving DecidableEq, Repr

structure Process where
  system : System
  main : MainPC
  starter : StarterPC
  /-- `SIGINT` or `SIGTERM` has come. -/
  signalled : Bool
  /-- The place of the call of `Shutdown`. -/
  shutdown : Option Nat
  exitCode : Option Nat

inductive ProcessAction
  | system (a : SystemAction)
  | signal
  | main
  | starter
  /-- A goroutine that has panicked takes the process down. -/
  | crash

/-- What `main` does not do itself. -/
def SystemAction.ofOthers : SystemAction → Bool
  | .server (.call .shutdown) | .watcher .cancel => false
  | _ => true

/-- What a call of `Shutdown` has returned. -/
def ShutdownPC.answer : ShutdownPC → Option (Option Error)
  | .completed _ err | .returned err => some err
  | _ => none

/-- What the call of `Start` has returned. -/
def StartPC.answer : StartPC → Option (Option Error)
  | .returned err => some err
  | .retired _ err => some (some err)
  | _ => none

def Thread.startAnswer : Thread → Option (Option Error)
  | .start pc => pc.answer
  | _ => none

def Thread.panicked : Thread → Bool
  | .shutdown (.panicked _) => true
  | _ => false

/-- `rootCtx` is the watcher's context. -/
def System.cancel (s : System) : System :=
  { s with watcher := { s.watcher with cancelled := true } }

namespace Process

/-- `signalCtx` is done: the signal, or the end of the context it comes from. -/
def done (p : Process) : Bool := p.signalled || p.system.watcher.cancelled

def answer (p : Process) : Option (Option Error) :=
  match p.shutdown.bind (p.system.world.threads[·]?) with
  | some (.shutdown pc) => pc.answer
  | _ => none

def runMain (env : Env) (wd : Except String Bytes) (p : Process) : Option Process :=
  match p.main with
  | .wait => if p.done then some { p with main := .cancel } else none
  | .cancel => some { p with system := p.system.cancel, main := .shutdown }
  | .shutdown =>
    (p.system.step env wd (.server (.call .shutdown))).map fun s =>
      { p with system := s, shutdown := some p.system.world.threads.length, main := .await }
  | .await => p.answer.map fun err => { p with main := .exit (if err = none then 0 else 1) }
  | .exit code => some { p with exitCode := some code }

def runStarter (p : Process) : Option Process :=
  match p.starter with
  | .start =>
    (p.system.world.threads.findSome? Thread.startAnswer).map fun err =>
      { p with starter := if err = none then .done else .cancel }
  | .cancel => some { p with system := p.system.cancel, starter := .exit }
  | .exit => some { p with exitCode := some 1 }
  | .done => none

def step (env : Env) (wd : Except String Bytes) (p : Process) (a : ProcessAction) :
    Option Process :=
  if p.exitCode = none then
    match a with
    | .system a =>
      if a.ofOthers then (p.system.step env wd a).map fun s => { p with system := s } else none
    | .signal => some { p with signalled := true }
    | .main => p.runMain env wd
    | .starter => p.runStarter
    | .crash =>
      if p.system.world.threads.any Thread.panicked then some { p with exitCode := some 2 }
      else none
  else none

/-- Runs whose every step meets the guard. -/
abbrev Run (env : Env) (wd : Except String Bytes) (ok : Process → ProcessAction → Prop) :
    Process → Process → Prop :=
  Exec.Run (Process.step env wd) ok

/-- `BuildInitialRuntime` has succeeded: where it fails `main` exits with 1 before all
this. The server and the watcher are about to start, and no signal has come. -/
structure Boot (env : Env) (p : Process) : Prop where
  system : TorusProxy.Boot env p.system
  main : p.main = .wait
  starter : p.starter = .start
  signalled : p.signalled = false
  shutdown : p.shutdown = none
  exitCode : p.exitCode = none

end Process

/-- Everything one step of the process can do while it lives. -/
inductive ProcessMove (env : Env) (wd : Except String Bytes) (p : Process) :
    ProcessAction → Process → Prop
  | system (a : SystemAction) (s : System) (others : a.ofOthers = true)
      (step : p.system.step env wd a = some s) :
      ProcessMove env wd p (.system a) { p with system := s }
  | signal : ProcessMove env wd p .signal { p with signalled := true }
  | wake (site : p.main = .wait) (done : p.done = true) :
      ProcessMove env wd p .main { p with main := .cancel }
  | cancel (site : p.main = .cancel) :
      ProcessMove env wd p .main { p with system := p.system.cancel, main := .shutdown }
  | shutdown (w : World) (site : p.main = .shutdown)
      (step : World.step env p.system.world (.call .shutdown) = some w) :
      ProcessMove env wd p .main
        { p with
          system := { p.system with world := w }
          shutdown := some p.system.world.threads.length
          main := .await }
  | answered (t : Nat) (pc : ShutdownPC) (err : Option Error) (site : p.main = .await)
      (call : p.shutdown = some t) (at_ : p.system.world.threads[t]? = some (.shutdown pc))
      (answer : pc.answer = some err) :
      ProcessMove env wd p .main { p with main := .exit (if err = none then 0 else 1) }
  | exit (code : Nat) (site : p.main = .exit code) :
      ProcessMove env wd p .main { p with exitCode := some code }
  | closed (site : p.starter = .start) : ProcessMove env wd p .starter { p with starter := .done }
  | failed (pc : StartPC) (err : Error) (mem : .start pc ∈ p.system.world.threads)
      (answer : pc.answer = some (some err)) (site : p.starter = .start) :
      ProcessMove env wd p .starter { p with starter := .cancel }
  | starterCancel (site : p.starter = .cancel) :
      ProcessMove env wd p .starter { p with system := p.system.cancel, starter := .exit }
  | starterExit (site : p.starter = .exit) :
      ProcessMove env wd p .starter { p with exitCode := some 1 }
  | crash (rt : Rid) (mem : .shutdown (.panicked rt) ∈ p.system.world.threads) :
      ProcessMove env wd p .crash { p with exitCode := some 2 }

section
variable {env : Env} {wd : Except String Bytes}

theorem System.step_cancelled {s s' : System} {a : SystemAction} (h : s.step env wd a = some s')
    (others : a.ofOthers = true) : s'.watcher.cancelled = s.watcher.cancelled := by
  cases a with
  | server a =>
    simp only [System.step] at h
    split at h
    · obtain ⟨w, -, rfl⟩ := Option.map_eq_some_iff.mp h
      rfl
    · cases h
  | watcher b =>
    cases b with
    | run c =>
      simp only [System.step, System.watch] at h
      split at h
      · obtain ⟨out, -, h⟩ := Option.bind_eq_some_iff.mp h
        obtain ⟨v, step, rfl⟩ := Option.map_eq_some_iff.mp h
        exact Watcher.start_cancelled step
      · obtain ⟨v, step, rfl⟩ := Option.map_eq_some_iff.mp h
        have same := Watcher.start_cancelled step
        split <;> exact same
    | cancel => cases others
    | deliver | closeEvents | report | closeErrors | fire =>
      simp only [System.step] at h
      obtain ⟨v, step, rfl⟩ := Option.map_eq_some_iff.mp h
      exact Watcher.next_same_cancelled step (by simp)
  | write content e =>
    simp only [System.step] at h
    split at h
    · split at h <;> cases h
      rfl
    · cases h
      rfl
  | rekey keyPair =>
    cases h
    rfl
  | deliver =>
    simp only [System.step] at h
    split at h
    · cases h
    · obtain ⟨v, step, rfl⟩ := Option.map_eq_some_iff.mp h
      exact Watcher.next_same_cancelled step (by simp)

/-- In the server's machine, what the others do is a step that calls no shutdown,
or none. -/
theorem System.others_world {s s' : System} {a : SystemAction} (h : s.step env wd a = some s')
    (others : a.ofOthers = true) :
    s'.world = s.world ∨
      ∃ b, b ≠ .call .shutdown ∧ World.step env s.world b = some s'.world := by
  cases System.step_move h with
  | server b w outside step =>
    refine .inr ⟨b, ?_, step⟩
    rintro rfl
    cases others
  | watcher | done => exact .inl rfl
  | call => exact .inr ⟨.call .manager, by simp, rfl⟩
  | write content | unnoticed content =>
    exact .inr ⟨.env { s.world.shared.disk with config := .ok content }, by simp, rfl⟩
  | rekey keyPair =>
    exact .inr ⟨.env { s.world.shared.disk with keyPair := keyPair }, by simp, rfl⟩

end

namespace Process

variable {env : Env} {wd : Except String Bytes} {p p' : Process}

theorem answer_eq_some {err : Option Error} (h : p.answer = some err) :
    ∃ t pc, p.shutdown = some t ∧ p.system.world.threads[t]? = some (.shutdown pc) ∧
      pc.answer = some err := by
  unfold answer at h
  split at h
  · rename_i pc found
    obtain ⟨t, call, at_⟩ := Option.bind_eq_some_iff.mp found
    exact ⟨t, pc, call, at_, h⟩
  · cases h

theorem runMain_move (h : p.runMain env wd = some p') : ProcessMove env wd p .main p' := by
  unfold runMain at h
  split at h
  · rename_i site
    split at h <;> cases h
    rename_i done
    exact .wake site done
  · rename_i site
    cases h
    exact .cancel site
  · rename_i site
    obtain ⟨s, step, rfl⟩ := Option.map_eq_some_iff.mp h
    cases step
    exact .shutdown _ site rfl
  · rename_i site
    obtain ⟨err, answered, rfl⟩ := Option.map_eq_some_iff.mp h
    obtain ⟨t, pc, call, at_, answer⟩ := answer_eq_some answered
    exact .answered t pc err site call at_ answer
  · rename_i code site
    cases h
    exact .exit code site

theorem runStarter_move (h : p.runStarter = some p') : ProcessMove env wd p .starter p' := by
  unfold runStarter at h
  split at h
  · rename_i site
    obtain ⟨err, found, rfl⟩ := Option.map_eq_some_iff.mp h
    obtain ⟨t, mem, answer⟩ := List.exists_of_findSome?_eq_some found
    cases err with
    | none => exact .closed site
    | some err =>
      cases t with
      | start pc => exact .failed pc err mem answer site
      | request | reload | manager | shutdown | prober => cases answer
  · rename_i site
    cases h
    exact .starterCancel site
  · rename_i site
    cases h
    exact .starterExit site
  · cases h

theorem step_move {a : ProcessAction} (h : p.step env wd a = some p') :
    p.exitCode = none ∧ ProcessMove env wd p a p' := by
  unfold step at h
  split at h
  · rename_i alive
    refine ⟨alive, ?_⟩
    cases a with
    | system a =>
      simp only at h
      split at h
      · rename_i others
        obtain ⟨s, step, rfl⟩ := Option.map_eq_some_iff.mp h
        exact .system a s others step
      · cases h
    | signal => cases h; exact .signal
    | main => exact runMain_move h
    | starter => exact runStarter_move h
    | crash =>
      simp only at h
      split at h
      · rename_i panicked
        cases h
        obtain ⟨t, mem, panicked⟩ := List.any_eq_true.mp panicked
        cases t with
        | shutdown pc =>
          cases pc with
          | panicked rt => exact .crash rt mem
          | _ => cases panicked
        | request | reload | manager | start | prober => cases panicked
      · cases h
  · cases h

end Process

end TorusProxy
