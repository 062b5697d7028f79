import TorusProxy.Convergence
import TorusProxy.Metrics

/-! `torus_runtime_reloads_total`. The manager, the server and the watcher each
count some outcomes of a reload; here they are one process. -/
namespace TorusProxy

open Threads

/-! ## What a goroutine adds -/

namespace Thread

/-- The server has counted the reload as a success. -/
def succeeded : Thread → Nat
  | .reload _ pc | .manager (.serverReload _ _ pc) => pc.stopping.isSome.toNat
  | .manager (.recordFailure out) | .manager (.returned out) => out.err.isNone.toNat
  | _ => 0

/-- An attempt that returned nil. -/
def returnedNil : Thread → Nat
  | .manager (.returned out) => out.err.isNone.toNat
  | _ => 0

/-- An attempt that returned an error. -/
def returnedErr : Thread → Nat
  | .manager (.returned out) => out.err.isSome.toNat
  | _ => 0

/-- About to find that the manager has no server. -/
def unserved (sh : Shared) : Thread → Nat
  | .manager .begin => (!sh.hasServer).toNat
  | _ => 0

end Thread

section
variable {env : Env} {sh sh' : Shared} {t t' : Thread} {c : Choice} {new : List Thread}

theorem ReloadMove.success {rt : Rid} {pc pc' : ReloadPC} (h : ReloadMove rt sh pc sh' pc') :
    sh'.metrics.reloadsSuccess + pc.stopping.isSome.toNat =
      sh.metrics.reloadsSuccess + pc'.stopping.isSome.toNat := by
  cases h with
  | lock hm | locking hm =>
    rw [Shared.tryMu_same (·.metrics) (fun _ => rfl) hm]
    rfl
  | stop old move => rw [move.metrics]; rfl
  | recordReload old => rfl
  | accept | refuse | reject | swap | unlock | setGeneration | stopped => rfl

theorem setBackendHealth_reloads (b : Backend) (m : Metrics) :
    (setBackendHealth b m).reloadsSuccess = m.reloadsSuccess ∧
      (setBackendHealth b m).reloadsFailure = m.reloadsFailure := by
  unfold setBackendHealth
  split <;> exact ⟨rfl, rfl⟩

theorem ManagerMove.success {pc pc' : ManagerPC} {q : Option Prober}
    (h : ManagerMove env sh pc sh' pc' q) :
    sh'.metrics.reloadsSuccess + (Thread.manager pc).succeeded =
      sh.metrics.reloadsSuccess + (Thread.manager pc').succeeded := by
  cases h with
  | reload cfg rt move => exact move.success
  | stop cfg rt move => rw [move.metrics]; rfl
  | backend cfg rt => exact (setBackendHealth_reloads _ _).1
  | recordFailure out => rfl
  | _ => rfl

theorem ManagerMove.failure {pc pc' : ManagerPC} {q : Option Prober}
    (h : ManagerMove env sh pc sh' pc' q)
    (fails : ∀ out, pc = .recordFailure out → out.err.isSome = true) :
    sh'.metrics.reloadsFailure + (Thread.manager pc).unserved sh + (Thread.manager pc).returnedErr =
      sh.metrics.reloadsFailure + (Thread.manager pc').returnedErr := by
  cases h with
  | noServer none => simp [Thread.unserved, Thread.returnedErr, none, Outcome.err]
  | begin some => simp [Thread.unserved, Thread.returnedErr, some]
  | reload cfg rt move =>
    have same := move.metrics_same (·.reloadsFailure) (fun _ _ => rfl) (fun _ _ => rfl)
    simp only [same]
    rfl
  | stop cfg rt move => rw [move.metrics]; rfl
  | backend cfg rt => exact (setBackendHealth_reloads _ _).2
  | recordFailure out =>
    have err := fails out rfl
    simp [Thread.unserved, Thread.returnedErr, err, Shared.setMetrics]
  | _ => rfl

/-- The two counters move as the attempts do. Requests, probes and shutdowns
leave them alone. -/
theorem Thread.step_reloads (h : t.step env sh c = some (sh', t', new))
    (fails : ∀ out, t = .manager (.recordFailure out) → out.err.isSome = true) :
    sh'.metrics.reloadsSuccess + t.succeeded = sh.metrics.reloadsSuccess + t'.succeeded ∧
    sh'.metrics.reloadsFailure + t.unserved sh + t.returnedErr =
      sh.metrics.reloadsFailure + t'.returnedErr := by
  -- both counters, which nothing but reloads and managers moves
  let π (m : Metrics) := (m.reloadsSuccess, m.reloadsFailure)
  have health (b : Backend) (m : Metrics) : π (setBackendHealth b m) = π m := by
    unfold setBackendHealth
    split <;> rfl
  have idle {m m' : Metrics} (same : π m' = π m) : m'.reloadsSuccess + 0 = m.reloadsSuccess + 0 ∧
      m'.reloadsFailure + 0 + 0 = m.reloadsFailure + 0 :=
    ⟨congrArg Prod.fst same, congrArg Prod.snd same⟩
  cases Thread.step_runs h with
  | request runs =>
    exact idle (httpHandler_metrics_same π (fun _ _ => rfl) (fun _ _ => rfl) runs)
  | reload runs =>
    have move := reload_move runs
    exact ⟨move.success, move.metrics_same (·.reloadsFailure) (fun _ _ => rfl) (fun _ _ => rfl)⟩
  | manager runs =>
    have move := managerReload_move runs
    exact ⟨move.success, move.failure fun out here => fails out (by rw [here])⟩
  | shutdown runs => exact idle (congrArg π (shutdown_move runs).metrics)
  | start runs => exact idle (congrArg π (start_move runs).metrics)
  | prober runs => exact idle (prober_metrics_same π health runs)

end

/-! ## What an attempt adds -/

/-- `RecordRuntimeReload(false)` of the manager is for failures. -/
def Fails (w : World) : Prop := ∀ out, .manager (.recordFailure out) ∈ w.threads → out.err.isSome = true

/-- One when the action makes an attempt find that there is no server. -/
def World.unserved (w : World) : Action → Nat
  | .run i _ => (w.threads[i]?.map (·.unserved w.shared)).getD 0
  | _ => 0

section
variable {env : Env} {w w' : World} {a : Action}

theorem ManagerMove.fails {sh sh' : Shared} {pc : ManagerPC} {out : Outcome} {q : Option Prober}
    (h : ManagerMove env sh pc sh' (.recordFailure out) q) : out.err.isSome = true := by
  cases h <;> rfl

theorem Fails.step (h : Fails w) (m : Moved (machine env) w a w') : Fails w' := by
  have fails := World.assertion m
    (fun _ t => ∀ out, t = .manager (.recordFailure out) → out.err.isSome = true)
    (by rintro t ht out rfl; exact h out ht) ?_ ?_ ?_ ?_ ?_
  · exact fun out ht => fails _ ht out rfl
  · rintro i t k sh' _ new _ hi inv fires out rfl
    cases Thread.step_move fires with
    | manager move => exact move.fails
  · intro i j t u k sh' t' new _ _ _ _ _ inv
    exact inv
  · rintro sh' p out ⟨⟩
  · intro x sh' t fires
    cases enter_move fires <;> exact ⟨by rintro _ ⟨⟩, fun _ _ inv => inv⟩
  · intro disk u inv
    exact inv

theorem success_step (fails : Fails w) (m : Moved (machine env) w a w') :
    w'.shared.metrics.reloadsSuccess + total (·.succeeded) w.threads =
      w.shared.metrics.reloadsSuccess + total (·.succeeded) w'.threads := by
  cases m with
  | @step i c t sh' t' new hi fires =>
    have ht := List.mem_of_getElem? hi
    have one := (Thread.step_reloads fires (by rintro out rfl; exact fails out ht)).1
    have started := Consistent.started_zero (Thread.step_move fires) (·.succeeded) (fun _ => rfl)
    have moved := total_set (·.succeeded) t' hi
    simp only [total_append, started]
    omega
  | enter fires => cases enter_move fires <;> simp only [total_append, total_cons, total_nil] <;> rfl
  | change fires => cases fires; rfl

theorem failure_step (fails : Fails w) (m : Moved (machine env) w a w') :
    w'.shared.metrics.reloadsFailure + w.unserved a + total (·.returnedErr) w.threads =
      w.shared.metrics.reloadsFailure + total (·.returnedErr) w'.threads := by
  cases m with
  | @step i c t sh' t' new hi fires =>
    have ht := List.mem_of_getElem? hi
    have one := (Thread.step_reloads fires (by rintro out rfl; exact fails out ht)).2
    have started := Consistent.started_zero (Thread.step_move fires) (·.returnedErr) (fun _ => rfl)
    have moved := total_set (·.returnedErr) t' hi
    simp only [World.unserved, hi, Option.map_some, Option.getD_some, total_append, started]
    omega
  | enter fires => cases enter_move fires <;> simp only [total_append, total_cons, total_nil] <;> rfl
  | change fires => cases fires; rfl

end

/-! ## What the loop adds -/

/-- The failures the loop has seen; the last one may not be counted yet. -/
def Watcher.seen (v : Watcher) : Nat := v.recorded + if v.pc = .recordFailure then 1 else 0

section
variable {wd : Except String Bytes} {v v' : Watcher}

theorem Watcher.select_seen {c : WatcherChoice} (h : v.select c = some v') (site : v.pc = .select) :
    v'.seen = v.seen := by
  cases c with
  | ctxDone =>
    simp only [Watcher.select] at h
    split at h <;> cases h
    simp [Watcher.seen, site, Watcher.returnWith, Watcher.stopDebounce]
  | events =>
    simp only [Watcher.select] at h
    split at h
    · cases h
      simp [Watcher.seen, site]
    · split at h <;> cases h
      simp [Watcher.seen, site, Watcher.returnWith]
  | debounceC =>
    simp only [Watcher.select] at h
    split at h
    · split at h <;> cases h
      simp [Watcher.seen, site, Watcher.receive]
    · cases h
  | errors =>
    simp only [Watcher.select] at h
    split at h
    · cases h
      rfl
    · split at h <;> cases h
      simp [Watcher.seen, site, Watcher.returnWith]
  | go | ok | fail => cases h

theorem Watcher.handle_seen (e : Event) (site : v.pc = .event e) :
    (v.handle wd e).seen = v.seen := by
  have skip : (v.skip e).seen = v.seen := by simp [Watcher.seen, site, Watcher.skip]
  unfold Watcher.handle
  split
  · exact skip
  · split
    · exact skip
    · split
      · exact skip
      · simp [Watcher.seen, site, Watcher.arm, Watcher.stopDebounce]

/-- Outside `Reload` the loop sees no failure, and counts the one it has seen. -/
theorem Watcher.start_seen {c : WatcherChoice} (h : v.start wd c = some v')
    (outside : v.pc ≠ .reload) : v'.seen = v.seen := by
  unfold Watcher.start at h
  split at h
  · rename_i site
    split at h <;> cases h <;> simp [Watcher.seen, site, Watcher.returnWith]
  · rename_i site
    split at h <;> cases h <;> simp [Watcher.seen, site, Watcher.returnWith]
  · rename_i site
    split at h <;> cases h <;> simp [Watcher.seen, site, Watcher.returnWith]
  · rename_i site
    exact Watcher.select_seen h site
  · rename_i e site
    cases h
    exact Watcher.handle_seen e site
  · rename_i t site
    cases h
    simp [Watcher.seen, site, Watcher.callReload]
  · rename_i site
    exact absurd site outside
  · rename_i site
    cases h
    simp [Watcher.seen, site]
  · cases h

theorem Watcher.next_seen {b : WatcherAction} (h : v.next wd b = some v')
    (outside : v.pc = .reload → ∀ c, b ≠ .run c) : v'.seen = v.seen := by
  cases b with
  | run c => exact Watcher.start_seen h fun busy => outside busy c rfl
  | cancel | closeEvents | closeErrors => cases h; rfl
  | deliver | report | fire =>
    simp only [Watcher.next] at h
    split at h <;> cases h
    rfl

/-- The return of `Reload` shows the loop a failure or none. -/
theorem Watcher.answer_seen {out : Outcome} (site : v.pc = .reload)
    (h : v.next wd (.run out.answer) = some v') :
    v'.seen = v.seen + out.err.isSome.toNat := by
  cases answer : out.err with
  | none =>
    simp only [Watcher.next, Watcher.start, site, Outcome.answer, answer] at h
    cases h
    simp [Watcher.seen, site]
  | some err =>
    simp only [Watcher.next, Watcher.start, site, Outcome.answer, answer] at h
    cases h
    simp [Watcher.seen, site]

end

/-! ## The process -/

namespace System

def setServer (s : System) : System :=
  { s with world := ⟨{ s.world.shared with hasServer := true }, s.world.threads⟩ }

def unserved (s : System) : SystemAction → Nat
  | .server a => s.world.unserved a
  | _ => 0

/-- `torus_runtime_reloads_total` with the result "success". -/
def successes (s : System) : Nat := s.world.shared.metrics.reloadsSuccess

/-- The same collector with "failure": what the manager and the loop count. -/
def failures (s : System) : Nat := s.world.shared.metrics.reloadsFailure + s.watcher.recorded

/-- The failed attempt at this place, if there is one. -/
def errAt (ts : List Thread) (i : Nat) : Nat := (ts[i]?.map (·.returnedErr)).getD 0

/-- A failure that the loop is about to see. -/
def unseen (s : System) : Nat :=
  if s.watcher.pc = .reload then (s.reloading.map (errAt s.world.threads)).getD 0 else 0

/-- No attempt is under way, and the last one is counted. -/
def AtRest (s : System) : Prop := s.watcher.pc ≠ .reload ∧ s.watcher.pc ≠ .recordFailure

end System

/-- The process from before `SetServer`, which may come at any time. `unserved`
is history: the attempts that found no server. -/
structure Attempts where
  system : System
  unserved : Nat

inductive AttemptsAction
  | system (a : SystemAction)
  | setServer

namespace Attempts

def step (env : Env) (wd : Except String Bytes) (x : Attempts) : AttemptsAction → Option Attempts
  | .system a => (x.system.step env wd a).map fun s => ⟨s, x.unserved + x.system.unserved a⟩
  | .setServer => some { x with system := x.system.setServer }

abbrev Run (env : Env) (wd : Except String Bytes) (ok : Attempts → AttemptsAction → Prop) :
    Attempts → Attempts → Prop :=
  Exec.Run (Attempts.step env wd) ok

end Attempts

/-- Nothing was attempted yet. There may be a server or none. -/
structure Unattempted (x : Attempts) : Prop where
  fresh : ∃ pc, Fresh pc x.system.world
  watcher : ∃ path, x.system.watcher = .new path
  unserved : x.unserved = 0

structure Counted (base x : Attempts) : Prop where
  fails : Fails x.system.world
  noDirect : NoDirect x.system.world
  single : ∀ (i : Nat) (pc : ManagerPC), x.system.world.threads[i]? = some (Thread.manager pc) →
    (∃ out, pc = .returned out) ∨ x.system.watcher.pc = .reload ∧ x.system.reloading = some i
  success : x.system.successes =
    base.system.successes + total (·.succeeded) x.system.world.threads
  failure : x.system.world.shared.metrics.reloadsFailure + x.unserved =
    base.system.world.shared.metrics.reloadsFailure + total (·.returnedErr) x.system.world.threads
  seen : base.system.watcher.recorded + total (·.returnedErr) x.system.world.threads =
    x.system.watcher.seen + x.system.unseen

section
variable {env : Env} {wd : Except String Bytes} {s s' : System} {a : SystemAction}

/-- As `SystemMove.world`, with what an attempt finds. -/
theorem System.step_world (h : s.step env wd a = some s') :
    (s'.world = s.world ∧ s.unserved a = 0) ∨
      ∃ b, Managed s.world b ∧ World.step env s.world b = some s'.world ∧
        s.world.unserved b = s.unserved a ∧ (a = .server b ∨ ∀ i c, b ≠ .run i c) := by
  cases a with
  | server b =>
    simp only [System.step] at h
    split at h
    · rename_i outside
      obtain ⟨w, step, rfl⟩ := Option.map_eq_some_iff.mp h
      refine .inr ⟨b, ?_, step, rfl, .inl rfl⟩
      rintro rt rfl
      cases outside
    · cases h
  | watcher | deliver =>
    cases System.step_move h with
    | watcher | done => exact .inl ⟨rfl, rfl⟩
    | call => exact .inr ⟨.call .manager, by rintro rt ⟨⟩, rfl, rfl, .inr (by rintro i c ⟨⟩)⟩
  | write | rekey =>
    cases System.step_move h with
    | watcher | done => exact .inl ⟨rfl, rfl⟩
    | call => exact .inr ⟨.call .manager, by rintro rt ⟨⟩, rfl, rfl, .inr (by rintro i c ⟨⟩)⟩
    | _ =>
      exact .inr ⟨.env _, by rintro rt ⟨⟩, rfl, rfl, .inr (by rintro i c ⟨⟩)⟩

theorem System.errAt_append {ts new : List Thread} (none : ∀ n ∈ new, n.returnedErr = 0) (i : Nat) :
    System.errAt (ts ++ new) i = System.errAt ts i := by
  unfold System.errAt
  by_cases lt : i < ts.length
  · rw [List.getElem?_append_left lt]
  · have le := Nat.not_lt.mp lt
    rw [List.getElem?_append_right le, List.getElem?_eq_none le]
    cases hn : new[i - ts.length]? with
    | none => rfl
    | some n => exact none n (List.mem_of_getElem? hn)

/-- While the server works, only the attempt the loop waits for comes to fail. -/
theorem System.unseen_server {b : Action} {w : World} (outside : ofServer b = true)
    (single : ∀ (i : Nat) (pc : ManagerPC), s.world.threads[i]? = some (Thread.manager pc) →
      (∃ out, pc = .returned out) ∨ s.watcher.pc = .reload ∧ s.reloading = some i)
    (m : Moved (machine env) s.world b w) :
    total (·.returnedErr) w.threads + s.unseen =
      total (·.returnedErr) s.world.threads + System.unseen { s with world := w } := by
  cases m with
  | @step i c t sh' t' new hi fires =>
    have move : ThreadMove env s.world.shared t sh' t' new := Thread.step_move fires
    have none (n : Thread) (hn : n ∈ new) : n.returnedErr = 0 := by
      obtain ⟨p, rfl⟩ := move.starts n hn
      rfl
    have started := Consistent.started_zero move (·.returnedErr) (fun _ => rfl)
    have moved := total_set (·.returnedErr) t' hi
    have lt := (List.getElem?_eq_some_iff.mp hi).1
    simp only [total_append, started]
    by_cases mine : s.watcher.pc = .reload ∧ s.reloading = some i
    · have before : s.unseen = t.returnedErr := by
        simp [System.unseen, mine.1, mine.2, System.errAt, hi]
      have after : System.unseen { s with world := ⟨sh', s.world.threads.set i t' ++ new⟩ } =
          t'.returnedErr := by
        simp only [System.unseen, mine.1, mine.2, if_true, Option.map_some, Option.getD_some,
          System.errAt_append none]
        simp [System.errAt, lt]
      rw [before, after]
      omega
    · have idle : t'.returnedErr = t.returnedErr := by
        cases move with
        | @manager _ pc _ _ move =>
          rcases single i pc hi with ⟨out, rfl⟩ | here
          · cases move
          · exact absurd here mine
        | request | reload | shutdown | start | prober => rfl
      have same : System.unseen { s with world := ⟨sh', s.world.threads.set i t' ++ new⟩ } =
          s.unseen := by
        unfold System.unseen
        split
        · rename_i busy
          cases hr : s.reloading with
          | none => rfl
          | some k =>
            have ne : i ≠ k := by
              rintro rfl
              exact mine ⟨busy, hr⟩
            simp only [Option.map_some, Option.getD_some, System.errAt_append none]
            simp [System.errAt, List.getElem?_set_ne ne]
        · rfl
      rw [same]
      omega
  | @enter x sh' t fires =>
    have zero : t.returnedErr = 0 := by
      cases enter_move fires with
      | request | shutdown => rfl
      | reload | manager => cases outside
    have same : System.unseen { s with world := ⟨sh', s.world.threads ++ [t]⟩ } = s.unseen := by
      unfold System.unseen
      have last : ∀ n ∈ [t], n.returnedErr = 0 := by simpa using zero
      have kept : System.errAt (s.world.threads ++ [t]) = System.errAt s.world.threads :=
        funext (System.errAt_append last)
      simp only [kept]
    rw [same, total_append, total_cons, zero, total_nil]
    omega
  | change fires => cases outside

theorem System.unseen_idle (h : s.watcher.pc ≠ .reload) : s.unseen = 0 := if_neg h

/-- The loop has seen every failure but the one it waits for. -/
theorem System.seen_step {base : Nat} (h : s.step env wd a = some s')
    (single : ∀ (i : Nat) (pc : ManagerPC), s.world.threads[i]? = some (Thread.manager pc) →
      (∃ out, pc = .returned out) ∨ s.watcher.pc = .reload ∧ s.reloading = some i)
    (seen : base + total (·.returnedErr) s.world.threads = s.watcher.seen + s.unseen) :
    base + total (·.returnedErr) s'.world.threads = s'.watcher.seen + s'.unseen := by
  cases System.step_move h with
  | server b w outside step =>
    have moved := System.unseen_server outside single (Machine.next_moved step)
    simp only at seen moved ⊢
    omega
  | watcher b v owed step same kept =>
    have seen' : v.seen = s.watcher.seen := by
      refine Watcher.next_seen step ?_
      rintro busy c rfl
      exact Watcher.start_leaves step busy (same.mpr busy)
    have unseen' : System.unseen { s with watcher := v, owed := owed } = s.unseen := by
      simp only [System.unseen, same]
    rw [unseen']
    simp only [seen']
    exact seen
  | call b t site step =>
    have seen' : (s.watcher.callReload t).seen = s.watcher.seen := by
      simp [Watcher.seen, Watcher.callReload, site]
    have none : s.unseen = 0 := System.unseen_idle (by rw [site]; rintro ⟨⟩)
    have none' : (s.callReload (s.watcher.callReload t)).unseen = 0 := by
      simp [System.unseen, System.callReload, System.errAt, Thread.returnedErr]
    have began : (Thread.manager .begin).returnedErr = 0 := rfl
    rw [none']
    simp only [System.callReload, total_append, total_cons, total_nil, seen', began]
    omega
  | done out v site answered step =>
    have seen' := Watcher.answer_seen site step
    have none : System.unseen { s with watcher := v } = 0 :=
      System.unseen_idle (Watcher.start_leaves step site)
    have last : s.unseen = out.err.isSome.toNat := by
      unfold System.answered at answered
      split at answered
      · rename_i found
        cases answered
        obtain ⟨i, hr, hi⟩ := Option.bind_eq_some_iff.mp found
        simp [System.unseen, site, hr, System.errAt, hi, Thread.returnedErr]
      · cases answered
    rw [none]
    simp only [seen']
    omega
  | write | unnoticed | rekey => exact seen

end

/-! ## Attempts that do not fail once they have a server -/

/-- The step does not take a failure branch of `Manager.Reload` behind its
check for a server. -/
def Thread.fares (env : Env) (sh : Shared) : Thread → Bool
  | .manager .load => (loadConfig env sh.disk.config).toOption.isSome
  | .manager (.tls cfg) => (loadTlsConfig sh.disk cfg.tls).toOption.isSome
  | .manager (.build _ _ (.upstream _ url :: _) _) => (env.parse url).toOption.isSome
  | .manager (.serverReload _ _ .check) => decide (sh.server.state = .running)
  | _ => true

/-- What an attempt that has a server reads loads and builds, and it finds the
server running. -/
def Fares (env : Env) (x : Attempts) : AttemptsAction → Prop
  | .system (.server (.run i _)) =>
    ∀ t ∈ x.system.world.threads[i]?, t.fares env x.system.world.shared = true
  | _ => True

/-- On its way to an error of the manager's own. -/
def ManagerPC.failing : ManagerPC → Bool
  | .serverReload _ _ .reject | .serverReload _ _ .rejected | .stop _ _ _ | .recordFailure _ => true
  | _ => false

def Unfailing (w : World) : Prop := ∀ pc, .manager pc ∈ w.threads → pc.failing = false

theorem ManagerMove.unfailing {env : Env} {sh sh' : Shared} {pc pc' : ManagerPC}
    {q : Option Prober} (h : ManagerMove env sh pc sh' pc' q) (before : pc.failing = false)
    (fares : (Thread.manager pc).fares env sh = true) : pc'.failing = false := by
  cases h with
  | loadFailed err failed => simp [Thread.fares, failed, Except.toOption] at fares
  | tlsFailed cfg err failed => simp [Thread.fares, failed, Except.toOption] at fares
  | backendFailed cfg rt service url err todo vars failed =>
    simp [Thread.fares, failed, Except.toOption] at fares
  | reload cfg rt move =>
    cases move with
    | refuse idle => exact absurd (of_decide_eq_true fares) idle
    | reject => cases before
    | _ => rfl
  | refused | stop | stopped | recordFailure => cases before
  | _ => rfl

theorem ManagerMove.uncounted {env : Env} {sh sh' : Shared} {pc pc' : ManagerPC}
    {q : Option Prober} (h : ManagerMove env sh pc sh' pc' q) (before : pc.failing = false) :
    sh'.metrics.reloadsFailure = sh.metrics.reloadsFailure := by
  cases h with
  | reload cfg rt move =>
    exact move.metrics_same (·.reloadsFailure) (fun _ _ => rfl) (fun _ _ => rfl)
  | backend cfg rt => exact (setBackendHealth_reloads _ _).2
  | stop | recordFailure => cases before
  | _ => rfl

section
variable {env : Env} {w w' : World} {a : Action}

theorem Unfailing.step (h : Unfailing w)
    (fares : ∀ i c, a = .run i c → ∀ t ∈ w.threads[i]?, t.fares env w.shared = true)
    (m : Moved (machine env) w a w') : Unfailing w' := by
  have unfailing := World.each m (fun t => ∀ pc, t = .manager pc → pc.failing = false)
    (by rintro t ht pc rfl; exact h pc ht) ?_ ?_ ?_
  · exact fun pc ht => unfailing _ ht pc rfl
  · rintro i t k sh' _ new rfl hi inv fires pc rfl
    cases Thread.step_move fires with
    | manager move => exact move.unfailing (inv _ rfl) (fares i k rfl _ hi)
  · rintro p pc ⟨⟩
  · rintro x sh' t fires pc rfl
    cases enter_move fires
    rfl

theorem Unfailing.uncounted (h : Unfailing w) (m : Moved (machine env) w a w') :
    w'.shared.metrics.reloadsFailure = w.shared.metrics.reloadsFailure := by
  cases m with
  | @step i c t sh' t' new hi fires =>
    have ht := List.mem_of_getElem? hi
    have move : ThreadMove env w.shared t sh' t' new := Thread.step_move fires
    have one := (Thread.step_reloads fires (by rintro out rfl; cases h _ ht)).2
    cases move with
    | manager move => exact move.uncounted (h _ ht)
    | request | reload | shutdown | start | prober => exact one
  | enter fires => cases enter_move fires <;> rfl
  | change fires => cases fires; rfl

end

/-! ## The counts of a run -/

section
variable {env : Env} {wd : Except String Bytes} {base x x' : Attempts} {b : AttemptsAction}

theorem Counted.step_system {a : SystemAction} {s' : System} (h : Counted base x)
    (hs : x.system.step env wd a = some s') :
    Counted base ⟨s', x.unserved + x.system.unserved a⟩ := by
  have single := (System.step_move hs).single h.single
  have seen := System.seen_step hs h.single h.seen
  have failure := h.failure
  have success := h.success
  rcases System.step_world hs with ⟨world, none⟩ | ⟨c, managed, step, unserved, -⟩
  · rw [none, Nat.add_zero]
    refine ⟨?_, ?_, single, ?_, ?_, seen⟩
    · simpa only [world] using h.fails
    · simpa only [world] using h.noDirect
    · simpa only [world, System.successes] using success
    · simpa only [world] using failure
  · have m := Machine.next_moved step
    refine ⟨h.fails.step m, h.noDirect.step managed step, single, ?_, ?_, seen⟩
    · have moved := success_step h.fails m
      simp only [System.successes] at success ⊢
      omega
    · have moved := failure_step h.fails m
      rw [unserved] at moved
      simp only
      omega

theorem Counted.step (h : Counted base x) (hs : x.step env wd b = some x') : Counted base x' := by
  cases b with
  | system a =>
    simp only [Attempts.step, Option.map_eq_some_iff] at hs
    obtain ⟨s', step, rfl⟩ := hs
    exact h.step_system step
  | setServer =>
    cases hs
    exact ⟨h.fails, h.noDirect, h.single, h.success, h.failure, h.seen⟩

theorem Unattempted.counted (h : Unattempted x) : Counted x x := by
  obtain ⟨pc, fresh⟩ := h.fresh
  obtain ⟨path, watcher⟩ := h.watcher
  have none (q : ManagerPC) : .manager q ∉ x.system.world.threads := by
    intro ht
    rcases fresh.threads _ ht with ⟨p, q, hp, -⟩ | hp <;> cases hp
  refine ⟨fun out ht => absurd ht (none _), fresh.noDirect, ?_, ?_, ?_, ?_⟩
  · intro i q hi
    exact absurd (List.mem_of_getElem? hi) (none q)
  · rw [fresh.idle _ (fun _ _ _ => rfl) rfl, Nat.add_zero]
  · rw [fresh.idle _ (fun _ _ _ => rfl) rfl, h.unserved]
  · rw [fresh.idle _ (fun _ _ _ => rfl) rfl]
    simp [watcher, Watcher.seen, Watcher.new, System.unseen]

/-- Once nothing is under way, the successes are those that returned nil. -/
theorem Counted.returned (h : Counted base x) (idle : x.system.watcher.pc ≠ .reload) :
    total (·.succeeded) x.system.world.threads = total (·.returnedNil) x.system.world.threads := by
  apply total_congr
  intro t ht
  cases t with
  | manager pc =>
    obtain ⟨i, hi⟩ := List.mem_iff_getElem?.mp ht
    rcases h.single i pc hi with ⟨out, rfl⟩ | ⟨busy, -⟩
    · rfl
    · exact absurd busy idle
  | reload rt pc => exact absurd rfl (h.noDirect _ ht rt pc)
  | request | shutdown | start | prober => rfl

theorem fares_run {ok : Attempts → AttemptsAction → Prop} (init : Unattempted base)
    (r : Attempts.Run env wd ok base x) (fares : ∀ y c, ok y c → Fares env y c) :
    x.system.world.shared.metrics.reloadsFailure =
      base.system.world.shared.metrics.reloadsFailure := by
  obtain ⟨pc, fresh⟩ := init.fresh
  have none : Unfailing base.system.world := by
    intro q ht
    rcases fresh.threads _ ht with ⟨p, q, hp, -⟩ | hp <;> cases hp
  refine (r.invariant (fun y => Unfailing y.system.world ∧
    y.system.world.shared.metrics.reloadsFailure =
      base.system.world.shared.metrics.reloadsFailure) ⟨none, rfl⟩ ?_).2
  rintro c y z _ ⟨unfailing, same⟩ hok hs
  cases c with
  | system a =>
    simp only [Attempts.step, Option.map_eq_some_iff] at hs
    obtain ⟨s', step, rfl⟩ := hs
    rcases System.step_world step with ⟨world, -⟩ | ⟨b, -, moves, -, site⟩
    · simpa only [world] using And.intro unfailing same
    · have m := Machine.next_moved moves
      refine ⟨unfailing.step ?_ m, (unfailing.uncounted m).trans same⟩
      rintro i c rfl
      rcases site with rfl | other
      · exact fares y _ hok
      · exact absurd rfl (other i c)
  | setServer =>
    cases hs
    exact ⟨unfailing, same⟩

/-- What the collector shows after any attempts. A failed attempt is counted by
the manager and by the loop, unless it found no server. -/
theorem reloads_counted {ok : Attempts → AttemptsAction → Prop} {x₀ : Attempts}
    (init : Unattempted x₀) (r : Attempts.Run env wd ok x₀ x) (rest : x.system.AtRest) :
    x.system.successes = x₀.system.successes + total (·.returnedNil) x.system.world.threads ∧
    (x.system.failures = x₀.system.failures + total (·.returnedErr) x.system.world.threads ↔
      x.unserved = total (·.returnedErr) x.system.world.threads) ∧
    ((∀ y c, ok y c → Fares env y c) →
      x.system.failures = x₀.system.failures + total (·.returnedErr) x.system.world.threads) := by
  have counted := r.invariant (Counted x₀) init.counted fun _ _ _ _ inv _ hs => inv.step hs
  have seen := counted.seen
  rw [System.unseen_idle rest.1, Watcher.seen, if_neg rest.2] at seen
  have failure := counted.failure
  refine ⟨?_, ?_, fun fares => ?_⟩
  · rw [counted.success, counted.returned rest.1]
  · simp only [System.failures]
    omega
  · have same := fares_run init r fares
    simp only [System.failures]
    omega

end

instance (env : Env) : ∀ x b, Decidable (Fares env x b)
  | x, .system (.server (.run i _)) => inferInstanceAs
      (Decidable (∀ t ∈ x.system.world.threads[i]?, t.fares env x.system.world.shared = true))
  | _, .system (.server (.call _)) | _, .system (.server (.env _)) | _, .system (.watcher _)
  | _, .system (.write _ _) | _, .system (.rekey _) | _, .system .deliver | _, .setServer => .isTrue trivial

instance : DecidablePred System.AtRest := fun s =>
  inferInstanceAs (Decidable (s.watcher.pc ≠ .reload ∧ s.watcher.pc ≠ .recordFailure))

/-- The sample before `SetServer`. -/
def sampleAttempts : Attempts where
  system := { sampleSystem with
    world := ⟨{ sampleStart.shared with hasServer := false }, sampleStart.threads⟩ }
  unserved := 0

theorem sampleAttempts_unattempted : Unattempted sampleAttempts := by
  have fresh := sampleStart_starting.toFresh
  exact ⟨⟨_, fresh.runtimeMu, fresh.handlers, fresh.shutdownDone, fresh.shutdownErr, fresh.runtime,
    fresh.allocated, fresh.installed, fresh.live, fresh.requests, fresh.workers, fresh.threads⟩,
    ⟨_, rfl⟩, rfl⟩

/-- One attempt finds no server, the next one is accepted. -/
def unservedThenAccepted : List AttemptsAction :=
  (started ++ watched ++ rewritten movedFile 0 ++ serves (goes 2 1) ++
    watches [.go, .go]).map .system ++ [.setServer] ++
  (rewritten movedFile 1 ++ serves (goes 3 18 ++ proberExits 1 ++ goes 3 3) ++
    watches [.go]).map .system

theorem reloads_counted_unserved :
    ∃ x, Attempts.Run fileEnv (.error "getwd") (Fares fileEnv) sampleAttempts x ∧
      total (·.returnedNil) x.system.world.threads = 1 ∧
      total (·.returnedErr) x.system.world.threads = 1 ∧
      x.system.successes = 1 ∧ x.system.failures = 1 := by
  obtain ⟨x, r, rest, nil, err⟩ := Exec.exists_run_of_execWhile
    (Attempts.step fileEnv (.error "getwd")) (Fares fileEnv) sampleAttempts unservedThenAccepted
    (fun x => x.system.AtRest ∧ total (·.returnedNil) x.system.world.threads = 1 ∧
      total (·.returnedErr) x.system.world.threads = 1) (by decide +kernel)
  have counted := reloads_counted sampleAttempts_unattempted r rest
  refine ⟨x, r, nil, err, ?_, ?_⟩
  · rw [counted.1, nil]
    rfl
  · rw [counted.2.2 fun _ _ fares => fares, err]
    rfl

/-- A file that does not parse: the manager counts the failure and the loop
counts it again. -/
theorem reloads_counted_twice :
    ¬ ∀ (env : Env) (wd : Except String Bytes) (x₀ x : Attempts), Unattempted x₀ →
      Attempts.Run env wd (fun _ _ => True) x₀ x → x.system.AtRest →
      x.system.successes = x₀.system.successes + total (·.returnedNil) x.system.world.threads ∧
      x.system.failures = x₀.system.failures + total (·.returnedErr) x.system.world.threads := by
  intro all
  obtain ⟨x, r, rest, err, twice⟩ := Exec.exists_run_of_execWhile
    (Attempts.step fileEnv (.error "getwd")) (fun _ _ => True) sampleAttempts
    ([.setServer] ++ (started ++ watched ++ rewritten (bytes "services: [") 0 ++
      serves (goes 2 3) ++ watches [.go, .go]).map .system)
    (fun x => x.system.AtRest ∧ total (·.returnedErr) x.system.world.threads = 1 ∧
      x.system.failures = 2) (by decide)
  have once := (all _ _ _ x sampleAttempts_unattempted r rest).2
  rw [err, twice] at once
  cases once

end TorusProxy
