import TorusProxy.Consistent

/-! A server that has been started: what holds from the moment it runs, in any
order of requests, reloads, shutdowns, probes and a failing `Serve`. -/
namespace TorusProxy

open Threads

/-- Every store to `state`, with the place it is made at. -/
inductive StateMove (t : Thread) (sh' : Shared) (t' : Thread) : ServerState → Prop
  | same : StateMove t sh' t' sh'.server.state
  | shuttingDown (old : ServerState) (at_ : t = .shutdown .storeState)
      (to_ : t' = .shutdown .storeReady) (new : sh'.server.state = .shuttingDown) :
      StateMove t sh' t' old
  | completed (old : ServerState) (rt : Rid) (at_ : t = .shutdown (.completeState rt none))
      (to_ : t' = .shutdown (.completeClose rt none)) (new : sh'.server.state = .stopped) :
      StateMove t sh' t' old
  | failed (old : ServerState) (err : Error) (at_ : t = .start (.failState err))
      (to_ : t' = .start (.failLoad err)) (new : sh'.server.state = .stopped) :
      StateMove t sh' t' old
  | listenFailed (old : ServerState) (rt : Rid) (err : Error)
      (at_ : t = .start (.listenState rt err)) (to_ : t' = .start (.listenCancel rt err))
      (new : sh'.server.state = .stopped) : StateMove t sh' t' old
  | running (old : ServerState) (rt : Rid) (at_ : t = .start (.storeState rt))
      (to_ : t' = .start .serve) (new : sh'.server.state = .running) : StateMove t sh' t' old

section
variable {sh sh' : Shared}

theorem StateMove.of_eq {t t' : Thread} {old : ServerState} (h : sh'.server.state = old) :
    StateMove t sh' t' old :=
  h ▸ .same

theorem ThreadMove.state {env : Env} {t t' : Thread} {new : List Thread}
    (h : ThreadMove env sh t sh' t' new) : StateMove t sh' t' sh.server.state := by
  cases h with
  | request req move =>
    exact .of_eq (move.server_same Server.state (fun _ _ => rfl) (fun _ _ => rfl))
  | reload new move =>
    exact .of_eq (move.server_same Server.state (fun _ _ => rfl) (fun _ _ => rfl))
  | manager move =>
    exact .of_eq (move.server_same Server.state (fun _ _ => rfl) (fun _ _ => rfl))
  | shutdown move =>
    cases move with
    | announce h | take h => exact .of_eq (Shared.tryMu_same (·.server.state) (fun _ => rfl) h)
    | stop rt move => exact .of_eq (by rw [move.server])
    | storeState => exact .shuttingDown _ rfl rfl rfl
    | completeStopped rt => exact .completed _ rt rfl rfl rfl
    | _ => exact .of_eq rfl
  | start move =>
    cases move with
    | failLock err h | failLocking err h => exact .of_eq (Shared.tryMu_same (·.server.state) (fun _ => rfl) h)
    | listenStop rt err move | failStop rt err move => exact .of_eq (by rw [move.server])
    | listenState rt err => exact .listenFailed _ rt err rfl rfl rfl
    | storeState rt => exact .running _ rt rfl rfl rfl
    | failState err => exact .failed _ err rfl rfl rfl
    | _ => exact .of_eq rfl
  | prober p move => exact .of_eq (by rw [move.server])

end

namespace Thread

/-- A start that has not called `Serve` yet. -/
def booting : Thread → Bool
  | .start pc => pc.booting
  | _ => false

/-- Inside the section in which it saw `serverRunning`. -/
def sawRunning : Thread → Bool
  | .reload _ .swap | .manager (.serverReload _ _ .swap) | .shutdown .storeState
  | .start (.failReady _) | .start (.failState _) => true
  | _ => false

/-- Has ended the running state: the owner of the shutdown, or the start after
its failure. -/
def closed : Thread → Nat
  | .shutdown pc =>
    match pc with
    | .storeReady | .capture => 1
    | pc => if pc.captured.isSome then 1 else 0
  | .start pc =>
    match pc with
    | .failLoad _ | .failUnlock _ _ | .failCancel _ _ | .failStop _ _ _ | .retired _ _ => 1
    | _ => 0
  | _ => 0

/-- The runtime that was active when this thread ended the running state. -/
def captured : Thread → Option Rid
  | .shutdown pc => pc.captured
  | .start (.failUnlock rt _) | .start (.failCancel rt _) | .start (.failStop rt _ _)
  | .start (.retired rt _) => some rt
  | _ => none

/-- The runtime a reload or the owner of the shutdown stops. -/
def stopping : Thread → Option (Rid × StopPC)
  | .reload _ pc => pc.stopping
  | .manager pc => pc.stopping
  | .shutdown pc => pc.stopping
  | _ => none

/-- The runtime the failing start stops. -/
def failStopping : Thread → Option (Rid × StopPC)
  | .start (.failStop rt _ pc) => some (rt, pc)
  | .start (.retired rt _) => some (rt, .done)
  | _ => none

end Thread

/-- What a stop has established at each of its places. -/
def StopFacts (sh : Shared) (r : Rid) : StopPC → Prop
  | .cancel => True
  | .waitRequests => (sh.heap r).cancelled = true
  | .waitWorkers => (sh.heap r).cancelled = true ∧ (sh.heap r).requestWG = 0
  | .done => (sh.heap r).cancelled = true ∧ (sh.heap r).requestWG = 0 ∧ (sh.heap r).workerWG = 0

/-- As `StopFacts` where requests may still acquire the runtime. -/
def FailFacts (sh : Shared) (r : Rid) : StopPC → Prop
  | .cancel => True
  | .waitRequests | .waitWorkers => (sh.heap r).cancelled = true
  | .done => (sh.heap r).cancelled = true ∧ (sh.heap r).workerWG = 0

theorem StopMove.facts {sh sh' : Shared} {r : Rid} {p p' : StopPC} (h : StopMove sh r p sh' p')
    (facts : StopFacts sh r p) : StopFacts sh' r p' := by
  cases h with
  | cancel => simp [StopFacts]
  | waitRequests zero => exact ⟨facts, zero⟩
  | waitWorkers zero => exact ⟨facts.1, facts.2, zero⟩

theorem StopMove.failFacts {sh sh' : Shared} {r : Rid} {p p' : StopPC}
    (h : StopMove sh r p sh' p') (facts : FailFacts sh r p) : FailFacts sh' r p' := by
  cases h with
  | cancel => simp [FailFacts]
  | waitRequests => exact facts
  | waitWorkers zero => exact ⟨facts, zero⟩

/-- A stop begins with its cancellation, and each thread's place in it moves by
its steps only. -/
theorem ReloadMove.stopping {new : Rid} {sh sh' : Shared} {pc pc' : ReloadPC}
    (h : ReloadMove new sh pc sh' pc') {r : Rid} {p : StopPC}
    (hs : pc'.stopping = some (r, p)) :
    p = .cancel ∨ pc.stopping = some (r, p) ∨
      ∃ q, pc.stopping = some (r, q) ∧ StopMove sh r q sh' p := by
  cases h with
  | recordReload old => cases hs; exact .inl rfl
  | stop old move => cases hs; exact .inr (.inr ⟨_, rfl, move⟩)
  | stopped old => cases hs; exact .inr (.inl rfl)
  | _ => cases hs

theorem ThreadMove.stopping {env : Env} {sh sh' : Shared} {t t' : Thread} {new : List Thread}
    (h : ThreadMove env sh t sh' t' new) {r : Rid} {p : StopPC}
    (hs : t'.stopping = some (r, p)) :
    p = .cancel ∨ t.stopping = some (r, p) ∨
      ∃ q, t.stopping = some (r, q) ∧ StopMove sh r q sh' p := by
  cases h with
  | reload new move => exact move.stopping hs
  | manager move =>
    cases move with
    | reload cfg rt move => exact move.stopping hs
    | accepted cfg rt old => cases hs; exact .inr (.inl rfl)
    | refused cfg rt => cases hs; exact .inl rfl
    | stop cfg rt move => cases hs; exact .inr (.inr ⟨_, rfl, move⟩)
    | stopped cfg rt => cases hs; exact .inr (.inl rfl)
    | recordFailure out =>
      cases out with
      | accepted cfg rt old => cases hs; exact .inr (.inl rfl)
      | rejected cfg rt => cases hs; exact .inr (.inl rfl)
      | abandoned | failed => cases hs
    | _ => cases hs
  | shutdown move =>
    cases move with
    | announce _ site =>
      obtain ⟨rfl, rfl⟩ | ⟨rfl, rfl⟩ | ⟨rt, err, rfl, rfl⟩ := site
      · cases hs
      · cases hs
      · cases err <;> cases hs
        exact .inr (.inl rfl)
    | take _ site =>
      obtain ⟨rfl, rfl⟩ | ⟨rfl, rfl⟩ | ⟨rt, err, rfl, rfl⟩ := site
      · cases hs
      · cases hs
      · cases err <;> cases hs
        exact .inr (.inl rfl)
    | noSrv rt => cases hs; exact .inl rfl
    | callShutdown rt site => obtain ⟨rfl, rfl⟩ | ⟨rfl, rfl⟩ := site <;> cases hs
    | drained rt zero site => cases hs; exact .inl rfl
    | stop rt move => cases hs; exact .inr (.inr ⟨_, rfl, move⟩)
    | stopped rt | completeStopped rt => cases hs; exact .inr (.inl rfl)
    | completeErr rt err | close rt err | completeUnlock rt err =>
      cases err <;> cases hs
      exact .inr (.inl rfl)
    | _ => cases hs
  | request | start | prober => cases hs

theorem ThreadMove.failStopping {env : Env} {sh sh' : Shared} {t t' : Thread} {new : List Thread}
    (h : ThreadMove env sh t sh' t' new) {r : Rid} {p : StopPC}
    (hs : t'.failStopping = some (r, p)) :
    p = .cancel ∨ t.failStopping = some (r, p) ∨
      ∃ q, t.failStopping = some (r, q) ∧ StopMove sh r q sh' p := by
  cases h with
  | start move =>
    cases move with
    | failCancel rt err => cases hs; exact .inl rfl
    | failStop rt err move => cases hs; exact .inr (.inr ⟨_, rfl, move⟩)
    | failStopped rt err => cases hs; exact .inr (.inl rfl)
    | _ => cases hs
  | request | reload | manager | shutdown | prober => cases hs

/-- One while the server has left the running state. -/
def closing (sh : Shared) : Nat := if sh.server.state = .running then 0 else 1

structure Serving (w : World) : Prop where
  consistent : Consistent w
  started : w.shared.server.state ≠ .starting
  assigned : w.shared.server.srv.assigned = true
  drained : w.shared.server.srv.drained = true → w.shared.server.srv.handlers = 0
  booted : ∀ t ∈ w.threads, t.booting = false
  sawRunning : ∀ t ∈ w.threads, t.sawRunning = true → w.shared.server.state = .running
  closers : closing w.shared = total Thread.closed w.threads
  captured : ∀ t ∈ w.threads, ∀ rt, t.captured = some rt → rt = w.shared.server.runtime
  emptied : ∀ t ∈ w.threads, ∀ pc, t = .shutdown pc → pc.stopping ≠ none →
    w.shared.server.srv.drained = true
  stops : ∀ t ∈ w.threads, ∀ r p, t.stopping = some (r, p) → StopFacts w.shared r p
  failStops : ∀ t ∈ w.threads, ∀ r p, t.failStopping = some (r, p) → FailFacts w.shared r p

/-- What the fields of the HTTP server can do in one step. -/
structure SrvMove (a b : HttpServer) : Prop where
  assigned : a.assigned = true → b.assigned = true
  stays : a.drained = true → b.drained = true
  drains : b.drained = true → a.drained = true ∨ b.handlers = 0
  handlers : b.handlers ≤ a.handlers

theorem SrvMove.of_eq {a b : HttpServer} (h : b = a) : SrvMove a b :=
  h ▸ ⟨id, id, .inl, Nat.le_refl _⟩

theorem ThreadMove.srv {env : Env} {sh sh' : Shared} {t t' : Thread} {new : List Thread}
    (h : ThreadMove env sh t sh' t' new) : SrvMove sh.server.srv sh'.server.srv := by
  cases h with
  | request req move =>
    cases move with
    | rLock h => exact .of_eq (Shared.tryMu_same (·.server.srv) (fun _ => rfl) h)
    | inner _ _ _ _ _ still => exact .of_eq (by rw [still.server])
    | exit rt => exact ⟨id, id, .inl, Nat.sub_le _ _⟩
    | _ => exact .of_eq rfl
  | reload new move => exact .of_eq (move.server_same Server.srv (fun _ _ => rfl) (fun _ _ => rfl))
  | manager move => exact .of_eq (move.server_same Server.srv (fun _ _ => rfl) (fun _ _ => rfl))
  | shutdown move =>
    cases move with
    | announce h | take h => exact .of_eq (Shared.tryMu_same (·.server.srv) (fun _ => rfl) h)
    | stop rt move => exact .of_eq (by rw [move.server])
    | callShutdown rt site => exact ⟨id, id, .inl, Nat.le_refl _⟩
    | drained rt zero site => exact ⟨id, fun _ => rfl, fun _ => .inr zero, Nat.le_refl _⟩
    | _ => exact .of_eq rfl
  | start move =>
    cases move with
    | failLock err h | failLocking err h => exact .of_eq (Shared.tryMu_same (·.server.srv) (fun _ => rfl) h)
    | listenStop rt err move | failStop rt err move => exact .of_eq (by rw [move.server])
    | assignSrv rt => exact ⟨fun _ => rfl, id, .inl, Nat.le_refl _⟩
    | serve => exact ⟨id, id, .inl, Nat.le_refl _⟩
    | _ => exact .of_eq rfl
  | prober p move => exact .of_eq (by rw [move.server])

/-- The two stores that end the running state. -/
theorem ThreadMove.closed {env : Env} {sh sh' : Shared} {t t' : Thread} {new : List Thread}
    (h : ThreadMove env sh t sh' t' new) :
    t'.closed = t.closed ∨ (t = .shutdown .storeState ∧ t' = .shutdown .storeReady) ∨
      ∃ err, t = .start (.failState err) ∧ t' = .start (.failLoad err) := by
  cases h with
  | shutdown move =>
    cases move with
    | announce _ site =>
      obtain ⟨rfl, rfl⟩ | ⟨rfl, rfl⟩ | ⟨rt, err, rfl, rfl⟩ := site <;> exact .inl rfl
    | take _ site =>
      obtain ⟨rfl, rfl⟩ | ⟨rfl, rfl⟩ | ⟨rt, err, rfl, rfl⟩ := site <;> exact .inl rfl
    | callShutdown rt site => obtain ⟨rfl, rfl⟩ | ⟨rfl, rfl⟩ := site <;> exact .inl rfl
    | drained rt _ site => obtain rfl | rfl := site <;> exact .inl rfl
    | storeState => exact .inr (.inl ⟨rfl, rfl⟩)
    | _ => exact .inl rfl
  | start move =>
    cases move with
    | failState err => exact .inr (.inr ⟨err, rfl, rfl⟩)
    | closed _ site => obtain rfl | rfl := site <;> exact .inl rfl
    | _ => exact .inl rfl
  | request | reload | manager | prober => exact .inl rfl

/-- A thread captures a runtime when it ends the running state, and keeps it. -/
theorem ThreadMove.captured {env : Env} {sh sh' : Shared} {t t' : Thread} {new : List Thread}
    (h : ThreadMove env sh t sh' t' new) {rt : Rid} (hrt : t'.captured = some rt) :
    (t.captured = some rt ∧ sh'.server.runtime = sh.server.runtime) ∨
      (rt = sh'.server.runtime ∧ t.hold = .writer) := by
  cases h with
  | shutdown move =>
    have same := move.fixed.runtime
    cases move with
    | announce _ site =>
      obtain ⟨rfl, rfl⟩ | ⟨rfl, rfl⟩ | ⟨q, err, rfl, rfl⟩ := site <;> exact .inl ⟨hrt, same⟩
    | take _ site =>
      obtain ⟨rfl, rfl⟩ | ⟨rfl, rfl⟩ | ⟨q, err, rfl, rfl⟩ := site <;> exact .inl ⟨hrt, same⟩
    | capture => cases hrt; exact .inr ⟨rfl, rfl⟩
    | callShutdown q site => obtain ⟨rfl, rfl⟩ | ⟨rfl, rfl⟩ := site <;> exact .inl ⟨hrt, same⟩
    | drained q _ site => obtain rfl | rfl := site <;> exact .inl ⟨hrt, same⟩
    | _ => exact .inl ⟨hrt, same⟩
  | start move =>
    have same := move.fixed.runtime
    cases move with
    | failLoad err => cases hrt; exact .inr ⟨rfl, rfl⟩
    | closed _ site => obtain rfl | rfl := site <;> exact .inl ⟨hrt, same⟩
    | _ => exact .inl ⟨hrt, same⟩
  | request | reload | manager | prober => cases hrt

namespace Thread

theorem captured_closed {t : Thread} {rt : Rid} (h : t.captured = some rt) : t.closed = 1 := by
  cases t with
  | shutdown pc =>
    have some : pc.captured.isSome = true := by
      simp only [captured] at h
      simp [h]
    cases pc <;> first | rfl | cases some
  | start pc => cases pc <;> first | rfl | cases h
  | request | reload | manager | prober => cases h

/-- What is being stopped is answered for, or is the runtime the shutdown captured. -/
theorem stopping_owned {t : Thread} {r : Rid} {p : StopPC} (h : t.stopping = some (r, p)) :
    (∃ role, t.owned = some (r, role) ∧ role ≠ .building) ∨
      ∃ pc, t = .shutdown pc ∧ pc.captured = some r ∧ pc.stopping ≠ none := by
  have reloads {new : Rid} {pc : ReloadPC} (h : pc.stopping = some (r, p)) :
      pc.owned new = (r, .displaced) := by
    cases pc <;> cases h <;> rfl
  cases t with
  | reload new pc => exact .inl ⟨.displaced, congrArg some (reloads h), by simp⟩
  | manager pc =>
    cases pc with
    | serverReload cfg rt pc => exact .inl ⟨.displaced, congrArg some (reloads h), by simp⟩
    | stop cfg rt pc => cases h; exact .inl ⟨.rejected, rfl, by simp⟩
    | recordFailure out | returned out =>
      cases out with
      | accepted cfg rt old => cases h; exact .inl ⟨.displaced, rfl, by simp⟩
      | rejected cfg rt => cases h; exact .inl ⟨.rejected, rfl, by simp⟩
      | abandoned | failed => cases h
    | _ => cases h
  | shutdown pc =>
    refine .inr ⟨pc, rfl, ?_, ?_⟩
    · simp only [stopping] at h
      unfold ShutdownPC.stopping at h
      split at h <;> cases h <;> rfl
    · simp only [stopping] at h
      simp [h]
  | request | start | prober => cases h

theorem failStopping_captured {t : Thread} {r : Rid} {p : StopPC}
    (h : t.failStopping = some (r, p)) : t.captured = some r := by
  unfold failStopping at h
  split at h <;> cases h <;> rfl

theorem swapping_sawRunning {t : Thread} {new : Rid} (h : t.swapping = some new) :
    t.sawRunning = true := by
  unfold swapping at h
  split at h <;> cases h <;> rfl

end Thread

namespace Serving

variable {env : Env} {w w' : World} {a : Action}

theorem step_started (h : Serving w) (m : Moved (machine env) w a w') :
    w'.shared.server.state ≠ .starting := by
  have started := h.started
  cases m with
  | step at_ fires =>
    have move := (Thread.step_move fires).state
    generalize hs : w.shared.server.state = st at move
    cases move with
    | same => simpa [hs] using started
    | shuttingDown _ _ _ hn | completed _ _ _ _ hn | failed _ _ _ _ hn
    | listenFailed _ _ _ _ _ hn | running _ _ _ _ hn => simp [hn]
  | enter fires => cases enter_move fires <;> exact started
  | change fires => cases fires; exact started

theorem step_assigned (h : Serving w) (m : Moved (machine env) w a w') :
    w'.shared.server.srv.assigned = true := by
  cases m with
  | step at_ fires => exact (Thread.step_move fires).srv.assigned h.assigned
  | enter fires => cases enter_move fires <;> exact h.assigned
  | change fires => cases fires; exact h.assigned

theorem step_drained (h : Serving w) (m : Moved (machine env) w a w') :
    w'.shared.server.srv.drained = true → w'.shared.server.srv.handlers = 0 := by
  cases m with
  | step at_ fires =>
    intro hd
    have move := (Thread.step_move fires).srv
    rcases move.drains hd with before | zero
    · exact Nat.le_zero.mp (h.drained before ▸ move.handlers)
    · exact zero
  | enter fires =>
    cases enter_move fires with
    | request req serving live => intro hd; simp [live] at hd
    | reload | manager | shutdown => exact h.drained
  | change fires => cases fires; exact h.drained

theorem step_booted (h : Serving w) (m : Moved (machine env) w a w') :
    ∀ t ∈ w'.threads, t.booting = false := by
  refine World.each m (fun t => t.booting = false) h.booted ?_ ?_ ?_
  · intro i t c sh' t' new _ _ inv fires
    have move := Thread.step_move fires
    cases move with
    | start move =>
      cases move with
      | closed _ site => rfl
      | _ => first | rfl | cases inv
    | _ => rfl
  · intro p
    rfl
  · intro x sh' t fires
    cases enter_move fires <;> rfl

theorem sawRunning_writes {t : Thread} (h : t.sawRunning = true) : t.hold = .writer := by
  unfold Thread.sawRunning at h
  split at h
  · rfl
  · rfl
  · rfl
  · rfl
  · rfl
  · cases h

/-- A step that moves the state is one inside the lock, once the start is over. -/
theorem state_moves (h : Serving w) {t t' : Thread} {c : Choice} {sh' : Shared}
    {new : List Thread} (ht : t ∈ w.threads)
    (fires : t.step env w.shared c = some (sh', t', new)) :
    sh'.server.state = w.shared.server.state ∨ t.hold = .writer := by
  have move := (Thread.step_move fires).state
  generalize hs : w.shared.server.state = st at move
  cases move with
  | same => exact .inl rfl
  | shuttingDown _ at_ | completed _ _ at_ | failed _ _ at_ => subst at_; exact .inr rfl
  | listenFailed _ _ _ at_ | running _ _ at_ =>
    subst at_
    cases h.booted _ ht

/-- While some thread is about to swap, no thread has ended the running state. -/
theorem closed_of_swapping (h : Serving w) {t : Thread} (ht : t ∈ w.threads) {new : Rid}
    (swapping : t.swapping = some new) : ∀ u ∈ w.threads, u.closed = 0 := by
  have running := h.sawRunning t ht (Thread.swapping_sawRunning swapping)
  have closers := h.closers
  simp only [closing, running, if_true] at closers
  exact total_eq_zero.mp closers.symm

theorem step_sawRunning (h : Serving w) (m : Moved (machine env) w a w') :
    ∀ t ∈ w'.threads, t.sawRunning = true → w'.shared.server.state = .running := by
  refine World.assertion m (fun sh t => t.sawRunning = true → sh.server.state = .running)
    h.sawRunning ?_ ?_ ?_ ?_ ?_
  · intro i t c sh' t' new _ hi inv fires
    have move := Thread.step_move fires
    intro saw
    cases move with
    | request req move => cases saw
    | reload new move =>
      cases move with
      | accept running => exact running
      | stop old move => cases saw
      | _ => cases saw
    | manager move =>
      cases move with
      | reload cfg rt move =>
        cases move with
        | accept running => exact running
        | stop old move => cases saw
        | _ => cases saw
      | _ => cases saw
    | shutdown move =>
      cases move with
      | announce _ site =>
        obtain ⟨rfl, rfl⟩ | ⟨rfl, rfl⟩ | ⟨rt, err, rfl, rfl⟩ := site <;> cases saw
      | take _ site =>
        obtain ⟨rfl, rfl⟩ | ⟨rfl, rfl⟩ | ⟨rt, err, rfl, rfl⟩ := site <;> cases saw
      | becomeOwner hs => exact hs.resolve_left h.started
      | callShutdown rt site =>
        obtain ⟨rfl, rfl⟩ | ⟨rfl, rfl⟩ := site <;> cases saw
      | _ => cases saw
    | start move =>
      cases move with
      | failOwn err running => exact running
      | failReady err => exact inv rfl
      | _ => cases saw
    | prober p move => cases saw
  · intro i j t u c sh' t' new _ hij hi hj fires inv saw
    rcases h.state_moves (List.mem_of_getElem? hi) fires with same | writes
    · rw [same]; exact inv saw
    · exact absurd (h.consistent.writer_unique hi hj writes (sawRunning_writes saw)) hij
  · intro sh' p saw
    cases saw
  · intro x sh' t fires
    cases enter_move fires <;> exact ⟨by rintro ⟨⟩, fun _ _ inv => inv⟩
  · intro disk u inv
    exact inv

theorem step_closers (h : Serving w) (m : Moved (machine env) w a w') :
    closing w'.shared = total Thread.closed w'.threads := by
  refine m.counter Thread.closed closing h.closers ?_ ?_ ?_
  · intro t c sh' t' new ht own fires
    have move := Thread.step_move fires
    rw [Consistent.started_zero move Thread.closed (fun _ => rfl)]
    rcases move.closed with same | ⟨rfl, rfl⟩ | ⟨err, rfl, rfl⟩
    · have moved := move.state
      generalize hs : w.shared.server.state = st at moved
      cases moved with
      | same => simp only [closing, hs, same]; omega
      | shuttingDown _ at_ to_ => subst at_ to_; cases same
      | completed _ rt at_ to_ stopped =>
        subst at_ to_
        have one : closing w.shared = 1 := by
          have le : closing w.shared ≤ 1 := by unfold closing; split <;> omega
          exact Nat.le_antisymm le own
        have one' : closing sh' = 1 := by simp [closing, stopped]
        rw [one, one', same, Nat.add_zero]
      | failed _ err at_ to_ => subst at_ to_; cases same
      | listenFailed _ _ _ at_ | running _ _ at_ => subst at_; cases h.booted _ ht
    · have running := h.sawRunning _ ht rfl
      cases move with
      | shutdown move =>
        cases move with
        | storeState => simp [closing, running, Thread.closed, ShutdownPC.captured]
        | announce _ site => simp at site
        | take _ site => simp at site
        | callShutdown _ site => simp at site
    · have running := h.sawRunning _ ht rfl
      cases move with
      | start move =>
        cases move with
        | failState => simp [closing, running, Thread.closed]
  · intro x sh' t fires
    cases enter_move fires <;> rfl
  · intro disk sh' fires
    cases fires
    rfl

theorem step_captured (h : Serving w) (m : Moved (machine env) w a w') :
    ∀ t ∈ w'.threads, ∀ rt, t.captured = some rt → rt = w'.shared.server.runtime := by
  refine World.assertion m (fun sh t => ∀ rt, t.captured = some rt → rt = sh.server.runtime)
    h.captured ?_ ?_ ?_ ?_ ?_
  · intro i t c sh' t' new _ hi inv fires
    have move := Thread.step_move fires
    intro rt hrt
    rcases move.captured hrt with before | ⟨here, -⟩
    · exact (inv rt before.1).trans before.2.symm
    · exact here
  · intro i j t u c sh' t' new _ _ hi hj fires inv rt hrt
    rcases (Thread.step_move fires).ownership with ⟨fixed, -⟩ | ⟨new, swapping, -⟩ |
      ⟨-, -, runtime, -⟩
    · exact (inv rt hrt).trans fixed.runtime.symm
    · have none := h.closed_of_swapping (List.mem_of_getElem? hi) swapping u
        (List.mem_of_getElem? hj)
      rw [Thread.captured_closed hrt] at none
      cases none
    · exact (inv rt hrt).trans runtime.symm
  · intro sh' p rt hrt
    cases hrt
  · intro x sh' t fires
    cases enter_move fires <;> exact ⟨by rintro _ ⟨⟩, fun _ _ inv => inv⟩
  · intro disk u inv
    exact inv

theorem step_emptied (h : Serving w) (m : Moved (machine env) w a w') :
    ∀ t ∈ w'.threads, ∀ pc, t = .shutdown pc → pc.stopping ≠ none →
      w'.shared.server.srv.drained = true := by
  refine World.assertion m (fun sh t => ∀ pc, t = .shutdown pc → pc.stopping ≠ none →
    sh.server.srv.drained = true) h.emptied ?_ ?_ ?_ ?_ ?_
  · intro i t c sh' t' new _ hi inv fires
    have move := Thread.step_move fires
    rintro pc' rfl hs
    have srv := move.srv
    cases move with
    | @shutdown _ pc _ sub =>
      have keep (before : pc.stopping ≠ none) : sh'.server.srv.drained = true :=
        srv.stays (inv _ rfl before)
      cases sub with
      | announce _ site =>
        obtain ⟨rfl, rfl⟩ | ⟨rfl, rfl⟩ | ⟨rt, err, rfl, rfl⟩ := site
        · exact absurd rfl hs
        · exact absurd rfl hs
        · cases err with
          | none => exact keep (by simp [ShutdownPC.stopping])
          | some err => exact absurd rfl hs
      | take _ site =>
        obtain ⟨rfl, rfl⟩ | ⟨rfl, rfl⟩ | ⟨rt, err, rfl, rfl⟩ := site
        · exact absurd rfl hs
        · exact absurd rfl hs
        · cases err with
          | none => exact keep (by simp [ShutdownPC.stopping])
          | some err => exact absurd rfl hs
      | noSrv rt unassigned => simp [h.assigned] at unassigned
      | callShutdown rt site => obtain ⟨rfl, rfl⟩ | ⟨rfl, rfl⟩ := site <;> exact absurd rfl hs
      | drained rt zero site => rfl
      | stop rt move => exact keep (by simp [ShutdownPC.stopping])
      | stopped rt => exact keep (by simp [ShutdownPC.stopping])
      | completeErr rt err | close rt err | completeUnlock rt err =>
        cases err with
        | none => exact keep (by simp [ShutdownPC.stopping])
        | some err => exact absurd rfl hs
      | completeStopped rt => exact keep (by simp [ShutdownPC.stopping])
      | _ => exact absurd rfl hs
  · intro i j t u c sh' t' new _ _ _ _ fires inv pc hu hs
    exact (Thread.step_move fires).srv.stays (inv pc hu hs)
  · rintro sh' p pc ⟨⟩
  · intro x sh' t fires
    cases enter_move fires with
    | request | reload | manager => exact ⟨by rintro _ ⟨⟩, fun _ _ inv => inv⟩
    | shutdown =>
      refine ⟨?_, fun _ _ inv => inv⟩
      rintro pc ⟨⟩ hs
      exact absurd rfl hs
  · intro disk u inv
    exact inv

/-! ## Stopping -/

/-- Nothing can join the requests or the workers of this runtime any more. -/
structure Retiring (w : World) (r : Rid) : Prop where
  allocated : r < w.shared.allocated
  closed : ∀ t ∈ w.threads, ∀ req, t ≠ .request req (.acquire r)
  built : ∀ t ∈ w.threads, t.owned ≠ some (r, .building)

theorem retiring_of_owned (h : Consistent w) {t : Thread} (ht : t ∈ w.threads) {r : Rid}
    {role : Role} (owned : t.owned = some (r, role)) (past : role ≠ .building) :
    Retiring w r := by
  obtain ⟨lt, ne⟩ := h.owned_ne ht owned
  refine ⟨lt, ?_, ?_⟩
  · rintro u hu req rfl
    exact ne (h.acquiring _ hu req r rfl)
  · intro u hu building
    obtain ⟨i, hi⟩ := List.mem_iff_getElem?.mp ht
    obtain ⟨j, hj⟩ := List.mem_iff_getElem?.mp hu
    obtain rfl := h.owner_unique hi hj owned building
    obtain rfl : t = u := Option.some.inj (hi.symm.trans hj)
    rw [owned] at building
    cases building
    exact past rfl

theorem not_inFlight (h : Serving w) (drained : w.shared.server.srv.drained = true) :
    ∀ t ∈ w.threads, t.inFlight = 0 := by
  have zero := h.drained drained
  rw [h.consistent.handlers] at zero
  exact total_eq_zero.mp zero

theorem active_not_building (h : Consistent w) :
    ∀ t ∈ w.threads, t.owned ≠ some (w.shared.server.runtime, .building) :=
  fun _ ht building => (h.owned_ne ht building).2 rfl

theorem retiring_of_stopping (h : Serving w) {t : Thread} (ht : t ∈ w.threads) {r : Rid}
    {p : StopPC} (hs : t.stopping = some (r, p)) : Retiring w r := by
  rcases Thread.stopping_owned hs with ⟨role, owned, past⟩ | ⟨pc, rfl, captured, stopping⟩
  · exact retiring_of_owned h.consistent ht owned past
  · obtain rfl := h.captured _ ht r captured
    refine ⟨h.consistent.active, ?_, active_not_building h.consistent⟩
    rintro u hu req rfl
    cases h.not_inFlight (h.emptied _ ht pc rfl stopping) _ hu

/-- What a stop has established is not undone. -/
theorem stopFacts_stay (h : Consistent w) (m : Moved (machine env) w a w') {r : Rid}
    (retiring : Retiring w r) {p : StopPC} (facts : StopFacts w.shared r p) :
    StopFacts w'.shared r p := by
  have cancelled := Consistent.cancelled_stays m retiring.allocated
  have requests (zero) := h.requests_stay m zero retiring.closed
  have workers (zero) := h.workers_stay m zero retiring.built
  cases p with
  | cancel => trivial
  | waitRequests => exact cancelled facts
  | waitWorkers => exact ⟨cancelled facts.1, requests facts.2⟩
  | done => exact ⟨cancelled facts.1, requests facts.2.1, workers facts.2.2⟩

theorem step_stops (h : Serving w) (m : Moved (machine env) w a w') :
    ∀ t ∈ w'.threads, ∀ r p, t.stopping = some (r, p) → StopFacts w'.shared r p := by
  refine World.assertion m (fun sh t => ∀ r p, t.stopping = some (r, p) → StopFacts sh r p)
    h.stops ?_ ?_ ?_ ?_ ?_
  · intro i t c sh' t' new _ hi inv fires
    have move := Thread.step_move fires
    have ht := List.mem_of_getElem? hi
    intro r p hs
    rcases move.stopping hs with rfl | before | ⟨q, before, stop⟩
    · trivial
    · exact stopFacts_stay h.consistent (.step hi fires) (h.retiring_of_stopping ht before)
        (inv r p before)
    · exact stop.facts (inv r q before)
  · intro i j t u c sh' t' new _ _ hi hj fires inv r p hs
    have hu := List.mem_of_getElem? hj
    exact stopFacts_stay h.consistent (.step hi fires) (h.retiring_of_stopping hu hs) (inv r p hs)
  · intro sh' q r p hs
    cases hs
  · intro x sh' t fires
    refine ⟨?_, ?_⟩
    · intro r p hs
      cases enter_move fires <;> cases hs
    · intro u hu inv r p hs
      have entered : Moved (machine env) w (.call x) _ := .enter fires
      exact stopFacts_stay h.consistent entered (h.retiring_of_stopping hu hs) (inv r p hs)
  · intro disk u inv
    exact inv

/-- As `stopFacts_stay`, without the requests. -/
theorem failFacts_stay (h : Consistent w) (m : Moved (machine env) w a w') {p : StopPC}
    (facts : FailFacts w.shared w.shared.server.runtime p) :
    FailFacts w'.shared w.shared.server.runtime p := by
  have cancelled := Consistent.cancelled_stays m h.active
  have workers (zero) := h.workers_stay m zero (active_not_building h)
  cases p with
  | cancel => trivial
  | waitRequests | waitWorkers => exact cancelled facts
  | done => exact ⟨cancelled facts.1, workers facts.2⟩

theorem step_failStops (h : Serving w) (m : Moved (machine env) w a w') :
    ∀ t ∈ w'.threads, ∀ r p, t.failStopping = some (r, p) → FailFacts w'.shared r p := by
  have stay {t : Thread} (ht : t ∈ w.threads) {r : Rid} {p : StopPC}
      (hs : t.failStopping = some (r, p)) {v : World} {b : Action}
      (mv : Moved (machine env) w b v) (facts : FailFacts w.shared r p) : FailFacts v.shared r p := by
    obtain rfl := h.captured t ht r (Thread.failStopping_captured hs)
    exact failFacts_stay h.consistent mv facts
  refine World.assertion m (fun sh t => ∀ r p, t.failStopping = some (r, p) → FailFacts sh r p)
    h.failStops ?_ ?_ ?_ ?_ ?_
  · intro i t c sh' t' new _ hi inv fires
    have move := Thread.step_move fires
    have ht := List.mem_of_getElem? hi
    intro r p hs
    rcases move.failStopping hs with rfl | before | ⟨q, before, stop⟩
    · trivial
    · exact stay ht before (.step hi fires) (inv r p before)
    · exact stop.failFacts (inv r q before)
  · intro i j t u c sh' t' new _ _ hi hj fires inv r p hs
    exact stay (List.mem_of_getElem? hj) hs (.step hi fires) (inv r p hs)
  · intro sh' q r p hs
    cases hs
  · intro x sh' t fires
    refine ⟨?_, ?_⟩
    · intro r p hs
      cases enter_move fires <;> cases hs
    · intro u hu inv r p hs
      exact stay hu hs (.enter fires) (inv r p hs)
  · intro disk u inv
    exact inv

theorem step (h : Serving w) (hs : World.step env w a = some w') : Serving w' :=
  have m := Machine.next_moved hs
  ⟨h.consistent.step hs, step_started h m, step_assigned h m, step_drained h m, step_booted h m,
    step_sawRunning h m, step_closers h m, step_captured h m, step_emptied h m, step_stops h m,
    step_failStops h m⟩

theorem run {ok : World → Action → Prop} (h : Serving w) (r : Run env ok w w') : Serving w' :=
  r.invariant Serving h fun _ _ _ _ inv _ hs => inv.step hs

end Serving
end TorusProxy
