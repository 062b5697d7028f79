import TorusProxy.Convergence
import TorusProxy.Drain
import TorusProxy.Process

/-! What the exit status of the process says. A signal that comes once the server
has left its first state finds a server in service, or a start that has failed. -/
namespace TorusProxy

open Threads

/-! ## Before the service -/

/-- On its way out with an error. -/
def StartPC.failing : StartPC → Bool
  | .listenReady _ _ | .listenState _ _ | .listenCancel _ _ | .listenStop _ _ _ | .failLock _
  | .failLocking _ | .failCheck _ | .failReady _ | .failState _ | .failLoad _ | .failUnlock _ _
  | .failCancel _ _ | .failStop _ _ _ | .failSkip _ | .retired _ _ | .returned (some _) => true
  | _ => false

def Thread.failing : Thread → Bool
  | .start pc => pc.failing
  | _ => false

/-- `Start` has met an error. -/
def StartFailed (w : World) : Prop := ∃ t ∈ w.threads, t.failing = true

namespace Thread

/-- What runs before the server is in service: no shutdown, and the start has not
stored the state. -/
def early : Thread → Bool
  | .shutdown _ => false
  | .start pc =>
    match pc with
    | .load | .assignSrv _ | .listen _ | .storeReady _ | .storeState _ => true
    | _ => false
  | t => !t.sawRunning

/-- The start has assigned `s.srv`. -/
def assigned : Thread → Bool
  | .start (.listen _) | .start (.storeReady _) | .start (.storeState _) => true
  | _ => false

end Thread

structure Preparing (w : World) : Prop where
  consistent : Consistent w
  state : w.shared.server.state = .starting
  once : total Thread.starts w.threads ≤ 1
  early : ∀ t ∈ w.threads, t.early = true
  undrained : w.shared.server.srv.drained = false
  open_ : w.shared.server.shutdownDone = false
  assigned : ∀ t ∈ w.threads, t.assigned = true → w.shared.server.srv.assigned = true
  stops : ∀ t ∈ w.threads, ∀ r p, t.stopping = some (r, p) → StopFacts w.shared r p

/-- A thread that is neither the start nor a shutdown has no part in the end of
the service. -/
structure Thread.Outside (t : Thread) : Prop where
  booting : t.booting = false
  closed : t.closed = 0
  captured : t.captured = none
  failStopping : t.failStopping = none
  closes : t.closes = 0
  leaves : t.leaves = none
  publishes : t.publishes = none
  answering : t.answering = false
  result : t.result = none
  waiting : t.waiting = false
  shutdown : ∀ pc, t ≠ .shutdown pc

section
variable {env : Env} {sh sh' : Shared} {t t' : Thread} {new : List Thread}

theorem Thread.outside (early : t.early = true) (other : t.starts = 0) : t.Outside := by
  cases t with
  | shutdown => cases early
  | start => cases other
  | request | reload | manager | prober => exact ⟨rfl, rfl, rfl, rfl, rfl, rfl, rfl, rfl, rfl, rfl,
      by rintro pc ⟨⟩⟩

theorem Thread.failing_of_closed_start {pc : StartPC} (h : (Thread.start pc).closed = 1) :
    (Thread.start pc).failing = true := by
  cases pc <;> first | rfl | cases h

theorem StartMove.failing {pc pc' : StartPC} (h : StartMove sh pc sh' pc')
    (failing : pc.failing = true) : pc'.failing = true := by
  cases h with
  | closed _ site => obtain rfl | rfl := site <;> cases failing
  | _ => first | rfl | cases failing

/-- The start goes on, serves, or fails; a reload that finds the server starting
is refused. -/
theorem ThreadMove.early (h : ThreadMove env sh t sh' t' new)
    (state : sh.server.state = .starting) (early : t.early = true) :
    t'.early = true ∨ t'.failing = true ∨
      ∃ rt, t = .start (.storeState rt) ∧ t' = .start .serve := by
  cases h with
  | request | prober => exact .inl rfl
  | reload new move =>
    cases move with
    | accept running => simp [state] at running
    | _ => exact .inl rfl
  | manager move =>
    cases move with
    | reload cfg rt move =>
      cases move with
      | accept running => simp [state] at running
      | _ => exact .inl rfl
    | _ => exact .inl rfl
  | shutdown => cases early
  | start move =>
    cases move with
    | load | assignSrv | listened | storeReady => exact .inl rfl
    | listenFailed => exact .inr (.inl rfl)
    | storeState rt => exact .inr (.inr ⟨rt, rfl, rfl⟩)
    | closed _ site => obtain rfl | rfl := site <;> cases early
    | _ => cases early

/-- While they run, nobody else stores the state, drains or closes. -/
theorem ThreadMove.preparing (h : ThreadMove env sh t sh' t' new)
    (early : t.early = true) (still : t'.early = true) :
    sh'.server.state = sh.server.state ∧ sh'.server.srv.drained = sh.server.srv.drained ∧
      sh'.server.shutdownDone = sh.server.shutdownDone := by
  refine ⟨?_, ?_, ?_⟩
  · have move := h.state
    generalize sh.server.state = st at move
    cases move with
    | same => rfl
    | shuttingDown _ at_ | completed _ _ at_ | failed _ _ at_ | listenFailed _ _ _ at_ =>
      subst at_
      cases early
    | running _ _ _ to_ =>
      subst to_
      cases still
  · cases h with
    | request req move =>
      exact move.server_same (·.srv.drained) (fun _ _ => rfl) (fun _ _ => rfl)
    | reload new move =>
      exact move.server_same (·.srv.drained) (fun _ _ => rfl) (fun _ _ => rfl)
    | manager move =>
      exact move.server_same (·.srv.drained) (fun _ _ => rfl) (fun _ _ => rfl)
    | shutdown => cases early
    | start move =>
      cases move with
      | failLock | failLocking | listenStop | failStop => cases early
      | _ => rfl
    | prober p move => rw [move.server]
  · cases h.publication with
    | same same => exact same.done
    | err _ _ at_ | close _ _ at_ | twice _ _ at_ =>
      subst at_
      cases early

end

section
variable {env : Env} {w w' : World} {a : Action}

theorem StartFailed.step (h : StartFailed w) (m : Moved (machine env) w a w') : StartFailed w' := by
  obtain ⟨t, mem, failing⟩ := h
  obtain ⟨i, at_⟩ := List.mem_iff_getElem?.mp mem
  rcases m.thread at_ with stays | ⟨c, sh', t', new, -, fires, -, moved⟩
  · exact ⟨t, List.mem_of_getElem? stays, failing⟩
  · refine ⟨t', List.mem_of_getElem? moved, ?_⟩
    cases Thread.step_move fires with
    | start move => exact move.failing failing
    | request | reload | manager | shutdown | prober => cases failing

/-- Every other thread is one that was there. -/
theorem Preparing.others (h : Preparing w) {i : Nat} {pc : StartPC}
    (at_ : w.threads[i]? = some (.start pc)) {j : Nat} {u : Thread} (ne : j ≠ i)
    (other : w.threads[j]? = some u) : u.Outside := by
  refine Thread.outside (h.early u (List.mem_of_getElem? other)) ?_
  by_contra starts
  exact ne (unique_of_total_le_one h.once other at_ (Nat.pos_of_ne_zero starts) Nat.one_pos)

/-- The start puts the server in service. -/
theorem Preparing.owned (h : Preparing w) {i : Nat} {rt : Rid}
    (at_ : w.threads[i]? = some (.start (.storeState rt))) (consistent : Consistent w')
    (shared : w'.shared = w.shared.setServer ({ · with state := .running }))
    (threads : w'.threads = w.threads.set i (.start .serve)) : Owned w' := by
  have fate : ∀ t ∈ w'.threads, t = .start .serve ∨ t ∈ w.threads ∧ t.Outside := by
    intro t mem
    rw [threads, ← List.append_nil (w.threads.set i _)] at mem
    rcases mem_moved mem with rfl | started | ⟨j, ne, hj⟩
    · exact .inl rfl
    · cases started
    · exact .inr ⟨List.mem_of_getElem? hj, h.others at_ ne hj⟩
  have outside {P : Thread → Prop} (serve : P (.start .serve))
      (rest : ∀ t, t.Outside → P t) : ∀ t ∈ w'.threads, P t := by
    intro t mem
    rcases fate t mem with rfl | ⟨-, out⟩
    · exact serve
    · exact rest t out
  have running : w'.shared.server.state = .running := by rw [shared]; rfl
  have serving : Serving w' := by
    refine ⟨consistent, by simp [running], ?_, ?_, ?_, ?_, ?_, ?_, ?_, ?_, ?_⟩
    · rw [shared]
      exact h.assigned _ (List.mem_of_getElem? at_) rfl
    · intro drained
      rw [shared] at drained
      exact absurd drained (by simp [Shared.setServer, h.undrained])
    · exact outside rfl fun t out => out.booting
    · exact fun _ _ _ => running
    · rw [closing, if_pos running]
      exact (total_eq_zero.mpr (outside rfl fun t out => out.closed)).symm
    · exact outside (by rintro rt ⟨⟩) fun t out rt captured => by simp [out.captured] at captured
    · exact outside (by rintro pc ⟨⟩) fun t out pc same => absurd same (out.shutdown pc)
    · intro t mem r p stopping
      rcases fate t mem with rfl | ⟨before, -⟩
      · cases stopping
      · rw [shared]
        exact h.stops t before r p stopping
    · exact outside (by rintro r p ⟨⟩) fun t out r p stop => by simp [out.failStopping] at stop
  refine ⟨serving, ?_, ?_, ?_, ?_, ?_, ?_, ?_, ?_⟩
  · rw [total_eq_zero.mpr (outside rfl fun t out => out.closes), shared]
    simp [Shared.setServer, h.open_]
  · exact outside (by rintro st ⟨⟩) fun t out st leaves => by simp [out.leaves] at leaves
  · exact outside (by rintro e ⟨⟩) fun t out e publishes => by simp [out.publishes] at publishes
  · exact outside (by rintro ⟨⟩) fun t out answers => by simp [out.answering] at answers
  · exact outside (by rintro e ⟨⟩) fun t out e result => by simp [out.result] at result
  · exact outside (by rintro r ⟨⟩) fun t out r => out.shutdown _
  · exact outside (by rintro ⟨⟩) fun t out waits => by simp [out.waiting] at waits
  · exact outside (by rintro e ⟨⟩) fun t out e result => by simp [out.result] at result

theorem Preparing.retiring (h : Preparing w) {t : Thread} (mem : t ∈ w.threads) {r : Rid}
    {p : StopPC} (stopping : t.stopping = some (r, p)) : Serving.Retiring w r := by
  rcases Thread.stopping_owned stopping with ⟨role, owned, past⟩ | ⟨pc, rfl, -, -⟩
  · exact Serving.retiring_of_owned h.consistent mem owned past
  · cases h.early _ mem

theorem Preparing.step_stops (h : Preparing w) (m : Moved (machine env) w a w') :
    ∀ t ∈ w'.threads, ∀ r p, t.stopping = some (r, p) → StopFacts w'.shared r p := by
  refine World.assertion m (fun sh t => ∀ r p, t.stopping = some (r, p) → StopFacts sh r p)
    h.stops ?_ ?_ ?_ ?_ ?_
  · intro i t c sh' t' new _ hi inv fires r p hs
    rcases (Thread.step_move fires).stopping hs with rfl | before | ⟨q, before, stop⟩
    · trivial
    · exact Serving.stopFacts_stay h.consistent (.step hi fires)
        (h.retiring (List.mem_of_getElem? hi) before) (inv r p before)
    · exact stop.facts (inv r q before)
  · intro i j t u c sh' t' new _ _ hi hj fires inv r p hs
    exact Serving.stopFacts_stay h.consistent (.step hi fires)
      (h.retiring (List.mem_of_getElem? hj) hs) (inv r p hs)
  · intro sh' q r p hs
    cases hs
  · intro x sh' t fires
    refine ⟨?_, ?_⟩
    · intro r p hs
      cases enter_move fires <;> cases hs
    · intro u hu inv r p hs
      have entered : Moved (machine env) w (.call x) _ := .enter fires
      exact Serving.stopFacts_stay h.consistent entered (h.retiring hu hs) (inv r p hs)
  · intro disk u inv
    exact inv

theorem Preparing.step_assigned (h : Preparing w) (m : Moved (machine env) w a w') :
    ∀ t ∈ w'.threads, t.assigned = true → w'.shared.server.srv.assigned = true := by
  refine World.assertion m (fun sh t => t.assigned = true → sh.server.srv.assigned = true)
    h.assigned ?_ ?_ ?_ ?_ ?_
  · intro i t c sh' t' new _ hi inv fires hs
    have srv := (Thread.step_move fires).srv
    cases Thread.step_move fires with
    | start move =>
      cases move with
      | assignSrv => rfl
      | listened | storeReady => exact inv rfl
      | _ => cases hs
    | request | reload | manager | shutdown | prober => cases hs
  · intro i j t u c sh' t' new _ _ _ _ fires inv hs
    exact (Thread.step_move fires).srv.assigned (inv hs)
  · intro sh' p hs
    cases hs
  · intro x sh' t fires
    cases enter_move fires <;> exact ⟨by rintro ⟨⟩, fun _ _ inv => inv⟩
  · intro disk u inv
    exact inv

theorem Preparing.step (h : Preparing w) (hs : World.step env w a = some w')
    (calm : a ≠ .call .shutdown) : Preparing w' ∨ Owned w' ∨ StartFailed w' := by
  have m := Machine.next_moved hs
  have consistent := h.consistent.step hs
  have once := Ordered.step_once h.once m
  have assigned := h.step_assigned m
  have stops := h.step_stops m
  cases m with
  | @step i c t sh' t' new at_ fires =>
    have move := Thread.step_move fires
    have early := h.early t (List.mem_of_getElem? at_)
    rcases move.early h.state early with still | failing | ⟨rt, rfl, rfl⟩
    · obtain ⟨state, drained, done⟩ := move.preparing early still
      refine .inl ⟨consistent, state.trans h.state, once, ?_, drained.trans h.undrained,
        done.trans h.open_, assigned, stops⟩
      intro u mem
      rcases mem_moved mem with rfl | started | ⟨j, -, hj⟩
      · exact still
      · obtain ⟨p, rfl⟩ := move.starts u started
        rfl
      · exact h.early u (List.mem_of_getElem? hj)
    · exact .inr (.inr ⟨t', List.mem_of_getElem? (getElem?_moved t' at_), failing⟩)
    · cases fires
      exact .inr (.inl (h.owned at_ consistent rfl (List.append_nil _)))
  | enter fires =>
    have early := h.early
    refine .inl ?_
    cases enter_move fires with
    | shutdown => exact absurd rfl calm
    | request | reload | manager =>
      refine ⟨consistent, h.state, once, ?_, h.undrained, h.open_, assigned, stops⟩
      intro u mem
      rcases List.mem_append.mp mem with mem | mem
      · exact early u mem
      · rw [List.mem_singleton.mp mem]
        rfl
  | change fires =>
    cases fires
    exact .inl ⟨consistent, h.state, once, h.early, h.undrained, h.open_, assigned, stops⟩

end

theorem Starting.preparing {w : World} (h : Starting w) : Preparing w := by
  refine ⟨h.toFresh.consistent rfl, h.state, h.once, ?_, by rw [h.srv], h.shutdownDone, ?_, ?_⟩
  · intro t mem
    rcases h.threads t mem with ⟨p, q, rfl, -⟩ | rfl <;> rfl
  · intro t mem assigned
    rcases h.threads t mem with ⟨p, q, rfl, -⟩ | rfl <;> cases assigned
  · intro t mem r p stopping
    rcases h.threads t mem with ⟨p, q, rfl, -⟩ | rfl <;> cases stopping

/-! ## At the exit -/

/-- The service has ended in order. A runtime that a reload has displaced may still
be in that reload's hands. -/
structure Graceful (w : World) : Prop where
  state : w.shared.server.state = .stopped
  requests : ∀ t ∈ w.threads, t.inFlight = 0
  active : Drained w w.shared.server.runtime
  runtimes : ∀ q ∈ w.shared.installed, Drained w q ∨
    ∃ t ∈ w.threads, t.owned = some (q, .displaced) ∧ t.stopping ≠ some (q, .done)

section
variable {w : World}

theorem Owned.graceful (h : Owned w) (history : History w) {rt : Rid}
    (mem : .shutdown (.completed rt none) ∈ w.threads) : Graceful w := by
  have serving := h.serving
  have active : Drained w w.shared.server.runtime := by
    obtain rfl := serving.captured _ mem rt rfl
    exact .of_stopFacts serving.consistent (serving.stops _ mem _ .done rfl)
  refine ⟨h.leaves _ mem .stopped rfl, ?_, active, ?_⟩
  · apply serving.not_inFlight
    exact serving.emptied _ mem _ rfl (by simp [ShutdownPC.stopping])
  · intro q installed
    by_cases here : q = w.shared.server.runtime
    · exact .inl (here ▸ active)
    · obtain ⟨t, ht, displaced⟩ := history.displacer serving.consistent installed here
      by_cases done : t.stopping = some (q, .done)
      · exact .inl (.of_stopFacts serving.consistent (serving.stops t ht q .done done))
      · exact .inr ⟨t, ht, displaced, done⟩

/-- The only call of `Shutdown` owns it, unless a failing start came first. -/
theorem Owned.completed_of_answer (h : Owned w) {i : Nat} {pc : ShutdownPC} {err : Option Error}
    (at_ : w.threads[i]? = some (.shutdown pc)) (answer : pc.answer = some err)
    (alone : ∀ (j : Nat) (qc : ShutdownPC), w.threads[j]? = some (.shutdown qc) → j = i) :
    (∃ rt, pc = .completed rt err) ∨ StartFailed w := by
  cases pc with
  | completed rt e => cases answer; exact .inl ⟨rt, rfl⟩
  | returned e =>
    have finished := h.answers _ (List.mem_of_getElem? at_) rfl
    have ended := h.not_running_of_finished finished
    obtain ⟨u, hu, closed⟩ := h.serving.exists_closed ended
    cases u with
    | start sc => exact .inr ⟨_, hu, Thread.failing_of_closed_start closed⟩
    | shutdown qc =>
      obtain ⟨j, hj⟩ := List.mem_iff_getElem?.mp hu
      obtain rfl := alone j qc hj
      obtain rfl : qc = .returned e := by simpa using hj.symm.trans at_
      cases closed
    | request | reload | manager | prober => cases closed
  | _ => cases answer

end

/-- Where the signal, the contexts and the exit come from. -/
structure Process.Accounted (p : Process) : Prop where
  consistent : Consistent p.system.world
  history : History p.system.world
  phase : Preparing p.system.world ∧ p.signalled = false ∨ Owned p.system.world ∨
    StartFailed p.system.world
  starter : p.starter = .cancel ∨ p.starter = .exit → StartFailed p.system.world
  cancelled : p.system.watcher.cancelled = true → p.main ≠ .wait ∨ StartFailed p.system.world
  woken : p.main ≠ .wait → p.signalled = true ∨ StartFailed p.system.world
  alone : ∀ (i : Nat) (pc : ShutdownPC), p.system.world.threads[i]? = some (.shutdown pc) →
    p.shutdown = some i
  called : p.shutdown ≠ none → p.main = .await ∨ ∃ code, p.main = .exit code
  code : ∀ code, p.main = .exit code → ∃ i pc err, p.shutdown = some i ∧
    p.system.world.threads[i]? = some (.shutdown pc) ∧ pc.answer = some err ∧
      code = if err = none then 0 else 1
  exited : ∀ code, p.exitCode = some code → p.main = .exit code ∨ StartFailed p.system.world ∨
    ∃ rt, .shutdown (.panicked rt) ∈ p.system.world.threads

section
variable {env : Env} {wd : Except String Bytes} {w w' : World} {b : Action}

/-- A shutdown stays where it was called. -/
theorem shutdown_origin (m : Moved (machine env) w b w') (calm : b ≠ .call .shutdown) {i : Nat}
    {pc : ShutdownPC} (at_ : w'.threads[i]? = some (.shutdown pc)) :
    ∃ qc, w.threads[i]? = some (.shutdown qc) := by
  cases m with
  | @enter x sh' t fires =>
    by_cases lt : i < w.threads.length
    · rw [List.getElem?_append_left lt] at at_
      exact ⟨pc, at_⟩
    · rw [List.getElem?_append_right (Nat.not_lt.mp lt)] at at_
      obtain rfl := List.mem_singleton.mp (List.mem_of_getElem? at_)
      cases enter_move fires
      exact absurd rfl calm
  | @step j c t sh' t' new here fires =>
    have move : ThreadMove env w.shared t sh' t' new := Thread.step_move fires
    by_cases lt : i < w.threads.length
    · rw [List.getElem?_append_left (by simpa using lt)] at at_
      by_cases same : j = i
      · subst same
        simp only [List.getElem?_set_self', here, Option.map_eq_map, Option.map_some,
          Option.some.injEq] at at_
        subst at_
        cases move with
        | shutdown => exact ⟨_, here⟩
      · rw [List.getElem?_set_ne same] at at_
        exact ⟨pc, at_⟩
    · rw [List.getElem?_append_right (by simpa using Nat.not_lt.mp lt)] at at_
      obtain ⟨p, hp⟩ := move.starts _ (List.mem_of_getElem? at_)
      cases hp
  | change => exact ⟨pc, at_⟩

/-- A call of `Shutdown` that has returned is as it was. -/
theorem answer_stays (m : Moved (machine env) w b w') {i : Nat} {pc : ShutdownPC}
    {err : Option Error} (at_ : w.threads[i]? = some (.shutdown pc))
    (answer : pc.answer = some err) : w'.threads[i]? = some (.shutdown pc) := by
  rcases m.thread at_ with stays | ⟨c, sh', t', new, -, fires, -, -⟩
  · exact stays
  · have runs : ThreadStep env w.shared c sh' (.shutdown pc) t' new := Thread.step_runs fires
    cases runs with
    | shutdown runs =>
      cases pc with
      | completed | returned => cases runs
      | _ => cases answer

/-- A signal comes once the server has left its first state. -/
def Prompt (p : Process) : ProcessAction → Prop
  | .signal => p.system.world.shared.server.state ≠ .starting
  | _ => True

namespace Process.Accounted

variable {p p' : Process} {a : ProcessAction}

theorem step_system (h : p.Accounted) (alive : p.exitCode = none) {a : SystemAction} {s : System}
    (others : a.ofOthers = true) (step : p.system.step env wd a = some s) :
    ({ p with system := s } : Process).Accounted := by
  have cancelled := System.step_cancelled step others
  rcases System.others_world step others with same | ⟨b, calm, moves⟩
  · obtain ⟨consistent, history, phase, starter, context, woken, alone, called, code, exited⟩ := h
    rw [← same] at consistent history phase starter context woken alone code exited
    rw [← cancelled] at context
    exact ⟨consistent, history, phase, starter, context, woken, alone, called, code, exited⟩
  · have m := Machine.next_moved moves
    have failed (before : StartFailed p.system.world) : StartFailed s.world := before.step m
    refine ⟨h.consistent.step moves, h.history.step h.consistent moves, ?_,
      fun site => failed (h.starter site), ?_, fun site => (h.woken site).imp_right failed, ?_,
      h.called, ?_, ?_⟩
    · rcases h.phase with ⟨preparing, quiet⟩ | owned | before
      · rcases preparing.step moves calm with still | owned | now
        · exact .inl ⟨still, quiet⟩
        · exact .inr (.inl owned)
        · exact .inr (.inr now)
      · exact .inr (.inl (owned.step moves))
      · exact .inr (.inr (failed before))
    · intro ended
      exact (h.cancelled (cancelled.symm.trans ended)).imp_right failed
    · intro i pc at_
      obtain ⟨qc, before⟩ := shutdown_origin m calm at_
      exact h.alone i qc before
    · intro code site
      obtain ⟨i, pc, err, call, at_, answer, is⟩ := h.code code site
      exact ⟨i, pc, err, call, answer_stays m at_ answer, answer, is⟩
    · intro code exited
      cases alive.symm.trans exited

theorem step (h : p.Accounted) (prompt : Prompt p a) (hs : p.step env wd a = some p') :
    p'.Accounted := by
  obtain ⟨alive, move⟩ := step_move hs
  have running (code : Nat) (exited : p.exitCode = some code) {P : Prop} : P := by
    cases alive.symm.trans exited
  cases move with
  | system a s others step => exact h.step_system alive others step
  | signal =>
    obtain ⟨consistent, history, phase, starter, cancelled, woken, alone, called, code, exited⟩ := h
    refine ⟨consistent, history, ?_, starter, cancelled, fun _ => .inl rfl, alone, called, code,
      exited⟩
    rcases phase with ⟨preparing, -⟩ | later
    · exact absurd preparing.state prompt
    · exact .inr later
  | wake site done =>
    refine ⟨h.consistent, h.history, h.phase, h.starter, fun _ => .inl (by simp), fun _ => ?_,
      h.alone, ?_, by rintro code ⟨⟩, fun code exited => running code exited⟩
    · rcases Bool.or_eq_true_iff.mp done with signalled | ended
      · exact .inl signalled
      · exact (h.cancelled ended).elim (absurd site) .inr
    · intro called
      rcases h.called called with here | ⟨code, here⟩ <;> cases site.symm.trans here
  | cancel site =>
    refine ⟨h.consistent, h.history, h.phase, h.starter, fun _ => .inl (by simp),
      fun _ => h.woken (by simp [site]), h.alone, ?_, by rintro code ⟨⟩,
      fun code exited => running code exited⟩
    intro called
    rcases h.called called with here | ⟨code, here⟩ <;> cases site.symm.trans here
  | shutdown w site step =>
    have m := Machine.next_moved step
    have woken := h.woken (by simp [site])
    have uncalled : p.shutdown = none := by
      by_contra called
      rcases h.called called with here | ⟨code, here⟩ <;> cases site.symm.trans here
    refine ⟨h.consistent.step step, h.history.step h.consistent step, .inr ?_,
      fun at_ => (h.starter at_).step m, fun _ => .inl (by simp),
      fun _ => woken.imp_right fun failed => failed.step m, ?_, fun _ => .inl rfl,
      by rintro code ⟨⟩, fun code exited => running code exited⟩
    · rcases h.phase with ⟨-, quiet⟩ | owned | failed
      · rcases woken with signalled | failed
        · cases quiet.symm.trans signalled
        · exact .inr (failed.step m)
      · exact .inl (owned.step step)
      · exact .inr (failed.step m)
    · intro i pc at_
      cases step
      by_cases lt : i < p.system.world.threads.length
      · rw [List.getElem?_append_left lt] at at_
        cases uncalled.symm.trans (h.alone i pc at_)
      · have last := (List.getElem?_eq_some_iff.mp at_).1
        rw [List.length_append, List.length_singleton] at last
        exact congrArg some (by omega)
  | answered t pc err site call at_ answer =>
    refine ⟨h.consistent, h.history, h.phase, h.starter, fun _ => .inl (by simp),
      fun _ => h.woken (by simp [site]), h.alone, fun _ => .inr ⟨_, rfl⟩, ?_,
      fun code exited => running code exited⟩
    rintro code ⟨⟩
    exact ⟨t, pc, err, call, at_, answer, rfl⟩
  | exit code site =>
    refine ⟨h.consistent, h.history, h.phase, h.starter, h.cancelled, h.woken, h.alone, h.called,
      h.code, ?_⟩
    rintro _ ⟨⟩
    exact .inl site
  | closed site =>
    exact ⟨h.consistent, h.history, h.phase, by simp, h.cancelled, h.woken, h.alone, h.called,
      h.code, h.exited⟩
  | failed pc err mem answer site =>
    have failed : StartFailed p.system.world := by
      refine ⟨_, mem, ?_⟩
      cases pc with
      | returned e => cases answer; rfl
      | retired => rfl
      | _ => cases answer
    exact ⟨h.consistent, h.history, h.phase, fun _ => failed, h.cancelled, h.woken, h.alone,
      h.called, h.code, h.exited⟩
  | starterCancel site =>
    have failed := h.starter (.inl site)
    exact ⟨h.consistent, h.history, h.phase, fun _ => failed, fun _ => .inr failed, h.woken,
      h.alone, h.called, h.code, h.exited⟩
  | starterExit site =>
    refine ⟨h.consistent, h.history, h.phase, h.starter, h.cancelled, h.woken, h.alone, h.called,
      h.code, ?_⟩
    rintro _ ⟨⟩
    exact .inr (.inl (h.starter (.inr site)))
  | crash rt mem =>
    refine ⟨h.consistent, h.history, h.phase, h.starter, h.cancelled, h.woken, h.alone, h.called,
      h.code, ?_⟩
    rintro _ ⟨⟩
    exact .inr (.inr ⟨rt, mem⟩)

end Process.Accounted

theorem Process.Boot.accounted {p : Process} (h : p.Boot env) : p.Accounted := by
  have starting := h.system.starting
  have none (t : Thread) (mem : t ∈ p.system.world.threads) (pc : ShutdownPC) :
      t ≠ .shutdown pc := by
    rcases starting.threads t mem with ⟨q, qc, rfl, -⟩ | rfl <;> simp
  refine ⟨starting.toFresh.consistent rfl, starting.toFresh.history,
    .inl ⟨starting.preparing, h.signalled⟩, by simp [h.starter], ?_, by simp [h.main], ?_,
    by simp [h.shutdown], by simp [h.main], by simp [h.exitCode]⟩
  · intro cancelled
    obtain ⟨path, new⟩ := h.system.watcher
    rw [new] at cancelled
    cases cancelled
  · intro i pc at_
    exact absurd rfl (none _ (List.mem_of_getElem? at_) pc)

/-- **The exit status.** Where the signal does not come before the server has left
its first state, a process that exits exits with 0 and its service is over in order,
or with 1 and the forced shutdown failed, or its start had failed. -/
theorem exit_status {p₀ p : Process} (boot : p₀.Boot env) (run : Process.Run env wd Prompt p₀ p)
    {code : Nat} (exited : p.exitCode = some code) :
    StartFailed p.system.world ∨ (code = 0 ∧ Graceful p.system.world) ∨
      (code = 1 ∧ ∃ rt err, .shutdown (.completed rt (some err)) ∈ p.system.world.threads) := by
  have h := run.invariant Process.Accounted boot.accounted fun a u v _ inv prompt hs =>
    inv.step prompt hs
  have unstarted (preparing : Preparing p.system.world) {pc : ShutdownPC}
      (mem : .shutdown pc ∈ p.system.world.threads) : False := by
    cases preparing.early _ mem
  rcases h.exited code exited with site | failed | ⟨rt, panicked⟩
  · obtain ⟨i, pc, err, call, at_, answer, rfl⟩ := h.code code site
    have mem := List.mem_of_getElem? at_
    rcases h.phase with ⟨preparing, -⟩ | owned | failed
    · exact (unstarted preparing mem).elim
    · have alone (j : Nat) (qc : ShutdownPC)
          (here : p.system.world.threads[j]? = some (.shutdown qc)) : j = i :=
        Option.some.inj ((h.alone j qc here).symm.trans call)
      rcases owned.completed_of_answer at_ answer alone with ⟨rt, rfl⟩ | failed
      · cases err with
        | none => exact .inr (.inl ⟨rfl, owned.graceful h.history mem⟩)
        | some err => exact .inr (.inr ⟨rfl, rt, err, mem⟩)
      · exact .inl failed
    · exact .inl failed
  · exact .inl failed
  · rcases h.phase with ⟨preparing, -⟩ | owned | failed
    · exact (unstarted preparing panicked).elim
    · exact absurd rfl (owned.unbroken _ panicked rt)
    · exact .inl failed

end

/-! ## Two exits -/

def sampleProcess : Process := ⟨sampleSystem, .wait, .start, false, none, none⟩

theorem sampleProcess_boot : sampleProcess.Boot fileEnv :=
  ⟨sampleSystem_boot, rfl, rfl, rfl, rfl, rfl⟩

instance (p : Process) (a : ProcessAction) : Decidable (Prompt p a) := by
  unfold Prompt
  split <;> infer_instance

/-- The server is in service, a signal comes, and the shutdown is graceful. -/
theorem exit_status_signal :
    ∃ p, Process.Run fileEnv (.error "getwd") Prompt sampleProcess p ∧ p.exitCode = some 0 ∧
      Graceful p.system.world := by
  obtain ⟨p, run, exited, serving⟩ := Exec.exists_run_of_execWhile
    (Process.step fileEnv (.error "getwd")) Prompt sampleProcess
    (started.map .system ++ [.signal, .main, .main, .main] ++
      (serves (goes 2 9 ++ [.run 2 .ok] ++ goes 2 2 ++ proberExits 1 ++ goes 2 8)).map .system ++
      [.main, .main])
    (fun p => p.exitCode = some 0 ∧ ∀ t ∈ p.system.world.threads, t.failing = false)
    (by decide)
  refine ⟨p, run, exited, ?_⟩
  rcases exit_status sampleProcess_boot run exited with ⟨t, mem, failing⟩ | ⟨-, graceful⟩ | ⟨one, -⟩
  · cases (serving t mem).symm.trans failing
  · exact graceful
  · cases one

-- The address is taken. `Start` returns its error, and its goroutine ends the root
-- context: `main` finds the server stopped, and exits with 0 before that does with 1.
example :
    ((Exec.execWhile (Process.step fileEnv (.error "getwd")) Prompt sampleProcess
      ((serves (goes 0 2 ++ [.run 0 (.fail "bind: address already in use")] ++ goes 0 5 ++
        proberExits 1 ++ goes 0 2)).map .system ++ [.starter, .starter, .main, .main, .main] ++
        (serves (goes 2 5)).map .system ++ [.main, .main])).any
      fun p => p.exitCode = some 0 ∧
        .start (.returned (some (.text "bind: address already in use"))) ∈
          p.system.world.threads) = true := by
  decide

end TorusProxy
