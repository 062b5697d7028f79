import TorusProxy.Serving

/-! The result of a shutdown. The owner publishes it in three places (the
state, `shutdownErr` and the closed `shutdownDone`); the other calls read them
in an order that depends on what they saw first. -/
namespace TorusProxy

open Threads

namespace ShutdownPC

/-- The state the owner has left the server in. -/
def leaves : ShutdownPC → Option ServerState
  | .storeReady | .capture => some .shuttingDown
  | .completeClose _ none | .completeUnlock _ none | .completed _ none => some .stopped
  | .panicked _ => none
  | pc => if pc.captured.isSome then some .shuttingDown else none

/-- The error the owner has stored. -/
def publishes : ShutdownPC → Option (Option Error)
  | .completeState _ err | .completeClose _ err | .completeUnlock _ err | .completed _ err =>
    some err
  | _ => none

/-- Has executed `close(s.shutdownDone)`. -/
def closes : ShutdownPC → Nat
  | .completeUnlock _ _ | .completed _ _ | .panicked _ => 1
  | _ => 0

/-- Has seen that another call is over, and is to return its result. -/
def answering : ShutdownPC → Bool
  | .readStopped | .unlockStopped _ | .relock | .relocking | .reread | .unlockReread _
  | .returned _ => true
  | _ => false

/-- The result read by a call that is not the owner. -/
def result : ShutdownPC → Option (Option Error)
  | .unlockStopped err | .unlockReread err | .returned err => some err
  | _ => none

/-- Has seen the shutdown of another call in progress. -/
def waiting : ShutdownPC → Bool
  | .unlockWait | .await => true
  | _ => false

end ShutdownPC

namespace Thread

def leaves : Thread → Option ServerState
  | .shutdown pc => pc.leaves
  | .start (.failLoad _) | .start (.failUnlock _ _) | .start (.failCancel _ _)
  | .start (.failStop _ _ _) | .start (.retired _ _) => some .stopped
  | _ => none

def publishes : Thread → Option (Option Error)
  | .shutdown pc => pc.publishes
  | _ => none

def closes : Thread → Nat
  | .shutdown pc => pc.closes
  | _ => 0

def answering : Thread → Bool
  | .shutdown pc => pc.answering
  | _ => false

def result : Thread → Option (Option Error)
  | .shutdown pc => pc.result
  | _ => none

def waiting : Thread → Bool
  | .shutdown pc => pc.waiting
  | _ => false

/-- Nothing is left to publish: the owner has returned, or it is the start
that ended the running state. -/
def final : Thread → Bool
  | .shutdown (.completed _ _) => true
  | .start _ => true
  | _ => false

theorem leaves_closed {t : Thread} {st : ServerState} (h : t.leaves = some st) :
    t.closed = 1 := by
  cases t with
  | shutdown pc => cases pc <;> first | rfl | cases h
  | start pc => cases pc <;> first | rfl | cases h
  | request | reload | manager | prober => cases h

theorem publishes_closed {t : Thread} {err : Option Error} (h : t.publishes = some err) :
    t.closed = 1 := by
  cases t with
  | shutdown pc => cases pc <;> first | rfl | cases h
  | request | reload | manager | start | prober => cases h

theorem result_answering {t : Thread} {err : Option Error} (h : t.result = some err) :
    t.answering = true := by
  cases t with
  | shutdown pc => cases pc <;> first | rfl | cases h
  | request | reload | manager | start | prober => cases h

end Thread

/-- The shutdown is over: closed, or recorded as stopped. -/
def Shared.finished (sh : Shared) : Prop :=
  sh.server.shutdownDone = true ∨ sh.server.state = .stopped

structure Owned (w : World) : Prop where
  serving : Serving w
  done : w.shared.server.shutdownDone.toNat = total Thread.closes w.threads
  leaves : ∀ t ∈ w.threads, ∀ st, t.leaves = some st → w.shared.server.state = st
  publishes : ∀ t ∈ w.threads, ∀ err, t.publishes = some err → w.shared.server.shutdownErr = err
  answers : ∀ t ∈ w.threads, t.answering = true → w.shared.finished
  results : ∀ t ∈ w.threads, ∀ err, t.result = some err → w.shared.server.shutdownErr = err
  unbroken : ∀ t ∈ w.threads, ∀ rt, t ≠ .shutdown (.panicked rt)
  ended : ∀ t ∈ w.threads, t.waiting = true → w.shared.server.state ≠ .running
  final : ∀ t ∈ w.threads, ∀ err, t.result = some err →
    ∀ u ∈ w.threads, u.closed = 1 → u.final = true

/-! ## The stores of `complete` -/

section
variable {env : Env} {sh sh' : Shared} {t t' : Thread} {new : List Thread}

/-- What `complete` and nothing else writes. -/
structure Shared.Unpublished (sh sh' : Shared) : Prop where
  done : sh'.server.shutdownDone = sh.server.shutdownDone
  err : sh'.server.shutdownErr = sh.server.shutdownErr

theorem Shared.Unpublished.of_server (h : sh'.server = sh.server) : Shared.Unpublished sh sh' :=
  ⟨by rw [h], by rw [h]⟩

theorem Shared.tryMu_unpublished {op : RWMutex → Option RWMutex} (h : sh.tryMu op = some sh') :
    Shared.Unpublished sh sh' := by
  obtain ⟨m, -, rfl⟩ := Shared.tryMu_eq_some.mp h
  exact ⟨rfl, rfl⟩

/-- Every store to `shutdownErr` and `shutdownDone`. -/
inductive Publication (sh : Shared) (t : Thread) (sh' : Shared) (t' : Thread) : Prop
  | same (same : Shared.Unpublished sh sh')
      (quiet : ∀ rt err, t ≠ .shutdown (.completeErr rt err) ∧ t ≠ .shutdown (.completeClose rt err))
  | err (rt : Rid) (err : Option Error) (at_ : t = .shutdown (.completeErr rt err))
      (to_ : t' = .shutdown (.completeState rt err)) (stored : sh'.server.shutdownErr = err)
      (done : sh'.server.shutdownDone = sh.server.shutdownDone)
  | close (rt : Rid) (err : Option Error) (at_ : t = .shutdown (.completeClose rt err))
      (to_ : t' = .shutdown (.completeUnlock rt err)) (once : sh.server.shutdownDone = false)
      (done : sh'.server.shutdownDone = true)
      (stored : sh'.server.shutdownErr = sh.server.shutdownErr)
  | twice (rt : Rid) (err : Option Error) (at_ : t = .shutdown (.completeClose rt err))
      (to_ : t' = .shutdown (.panicked rt)) (twice : sh.server.shutdownDone = true)

theorem ThreadMove.publication (h : ThreadMove env sh t sh' t' new) : Publication sh t sh' t' := by
  cases h with
  | request req move =>
    refine .same ⟨?_, ?_⟩ (by simp)
    · exact move.server_same Server.shutdownDone (fun _ _ => rfl) (fun _ _ => rfl)
    · exact move.server_same Server.shutdownErr (fun _ _ => rfl) (fun _ _ => rfl)
  | reload new move =>
    refine .same ⟨?_, ?_⟩ (by simp)
    · exact move.server_same Server.shutdownDone (fun _ _ => rfl) (fun _ _ => rfl)
    · exact move.server_same Server.shutdownErr (fun _ _ => rfl) (fun _ _ => rfl)
  | manager move =>
    refine .same ⟨?_, ?_⟩ (by simp)
    · exact move.server_same Server.shutdownDone (fun _ _ => rfl) (fun _ _ => rfl)
    · exact move.server_same Server.shutdownErr (fun _ _ => rfl) (fun _ _ => rfl)
  | shutdown move =>
    cases move with
    | announce h site =>
      obtain ⟨rfl, rfl⟩ | ⟨rfl, rfl⟩ | ⟨rt, err, rfl, rfl⟩ := site <;>
        exact .same (Shared.tryMu_unpublished h) (by simp)
    | take h site =>
      obtain ⟨rfl, rfl⟩ | ⟨rfl, rfl⟩ | ⟨rt, err, rfl, rfl⟩ := site <;>
        exact .same (Shared.tryMu_unpublished h) (by simp)
    | callShutdown rt site =>
      obtain ⟨rfl, rfl⟩ | ⟨rfl, rfl⟩ := site <;> exact .same ⟨rfl, rfl⟩ (by simp)
    | drained rt _ site => obtain rfl | rfl := site <;> exact .same ⟨rfl, rfl⟩ (by simp)
    | stop rt move => exact .same (.of_server move.server) (by simp)
    | completeErr rt err => exact .err rt err rfl rfl rfl rfl
    | close rt err once => exact .close rt err rfl rfl once rfl rfl
    | closeTwice rt err twice => exact .twice rt err rfl rfl twice
    | _ => exact .same ⟨rfl, rfl⟩ (by simp)
  | start move =>
    refine .same ?_ (by simp)
    cases move with
    | failLock err h | failLocking err h => exact Shared.tryMu_unpublished h
    | listenStop rt err move | failStop rt err move => exact .of_server move.server
    | _ => exact ⟨rfl, rfl⟩
  | prober p move => exact .same (.of_server move.server) (by simp)

/-- A thread closes `shutdownDone` at one place. -/
theorem ThreadMove.closes (h : ThreadMove env sh t sh' t' new) :
    t'.closes = t.closes ∨ ∃ rt err, t = .shutdown (.completeClose rt err) := by
  cases h with
  | shutdown move =>
    cases move with
    | announce _ site =>
      obtain ⟨rfl, rfl⟩ | ⟨rfl, rfl⟩ | ⟨rt, err, rfl, rfl⟩ := site <;> exact .inl rfl
    | take _ site =>
      obtain ⟨rfl, rfl⟩ | ⟨rfl, rfl⟩ | ⟨rt, err, rfl, rfl⟩ := site <;> exact .inl rfl
    | callShutdown rt site => obtain ⟨rfl, rfl⟩ | ⟨rfl, rfl⟩ := site <;> exact .inl rfl
    | drained rt _ site => obtain rfl | rfl := site <;> exact .inl rfl
    | close rt err | closeTwice rt err => exact .inr ⟨rt, err, rfl⟩
    | _ => exact .inl rfl
  | request | reload | manager | start | prober => exact .inl rfl

/-- The owner's view of the state is set with the state. -/
theorem ThreadMove.leaves (h : ThreadMove env sh t sh' t' new) {st : ServerState}
    (hs : t'.leaves = some st) :
    (t.leaves = some st ∧ sh'.server.state = sh.server.state) ∨ sh'.server.state = st := by
  cases h with
  | shutdown move =>
    cases move with
    | announce hm site =>
      obtain ⟨rfl, rfl⟩ | ⟨rfl, rfl⟩ | ⟨rt, err, rfl, rfl⟩ := site <;>
        exact .inl ⟨hs, Shared.tryMu_same (·.server.state) (fun _ => rfl) hm⟩
    | take hm site =>
      obtain ⟨rfl, rfl⟩ | ⟨rfl, rfl⟩ | ⟨rt, err, rfl, rfl⟩ := site <;>
        exact .inl ⟨hs, Shared.tryMu_same (·.server.state) (fun _ => rfl) hm⟩
    | callShutdown rt site => obtain ⟨rfl, rfl⟩ | ⟨rfl, rfl⟩ := site <;> exact .inl ⟨hs, rfl⟩
    | drained rt _ site => obtain rfl | rfl := site <;> exact .inl ⟨hs, rfl⟩
    | stop rt move => exact .inl ⟨hs, by rw [move.server]⟩
    | storeState => cases hs; exact .inr rfl
    | completeStopped rt => cases hs; exact .inr rfl
    | close rt err | completeUnlock rt err => cases err <;> exact .inl ⟨hs, rfl⟩
    | closeTwice => cases hs
    | _ => exact .inl ⟨hs, rfl⟩
  | start move =>
    cases move with
    | failState err => cases hs; exact .inr rfl
    | failLoad err | failUnlock rt err | failCancel rt err | failStopped rt err =>
      exact .inl ⟨hs, rfl⟩
    | failStop rt err move => exact .inl ⟨hs, by rw [move.server]⟩
    | _ => cases hs
  | request | reload | manager | prober => cases hs

/-- A published error was stored by this thread. -/
theorem ThreadMove.publishes (h : ThreadMove env sh t sh' t' new) {err : Option Error}
    (hs : t'.publishes = some err) :
    (t.publishes = some err ∧ sh'.server.shutdownErr = sh.server.shutdownErr) ∨
      sh'.server.shutdownErr = err := by
  cases h with
  | shutdown move =>
    cases move with
    | announce _ site =>
      obtain ⟨rfl, rfl⟩ | ⟨rfl, rfl⟩ | ⟨rt, err, rfl, rfl⟩ := site <;> cases hs
    | take _ site =>
      obtain ⟨rfl, rfl⟩ | ⟨rfl, rfl⟩ | ⟨rt, err, rfl, rfl⟩ := site <;> cases hs
    | callShutdown rt site => obtain ⟨rfl, rfl⟩ | ⟨rfl, rfl⟩ := site <;> cases hs
    | completeErr rt err => cases hs; exact .inr rfl
    | completeStopped rt | completeFailed rt err | close rt err | completeUnlock rt err =>
      exact .inl ⟨hs, rfl⟩
    | _ => cases hs
  | request | reload | manager | start | prober => cases hs

/-- A call answers once it has seen the closed channel or the stopped state. -/
theorem ThreadMove.answering (h : ThreadMove env sh t sh' t' new) (hs : t'.answering = true) :
    t.answering = true ∨ sh'.finished := by
  cases h with
  | shutdown move =>
    cases move with
    | announce hm site =>
      obtain ⟨rfl, rfl⟩ | ⟨rfl, rfl⟩ | ⟨rt, err, rfl, rfl⟩ := site
      · cases hs
      · exact .inl rfl
      · cases hs
    | take hm site =>
      obtain ⟨rfl, rfl⟩ | ⟨rfl, rfl⟩ | ⟨rt, err, rfl, rfl⟩ := site
      · cases hs
      · exact .inl rfl
      · cases hs
    | sawStopped h => exact .inr (.inr h)
    | await closed => exact .inr (.inl closed)
    | readStopped | unlockStopped | reread | unlockReread => exact .inl rfl
    | callShutdown rt site => obtain ⟨rfl, rfl⟩ | ⟨rfl, rfl⟩ := site <;> cases hs
    | _ => cases hs
  | request | reload | manager | start | prober => cases hs

/-- A result is read from `shutdownErr`, inside the lock. -/
theorem ThreadMove.result (h : ThreadMove env sh t sh' t' new) {err : Option Error}
    (hs : t'.result = some err) :
    sh'.server.shutdownErr = sh.server.shutdownErr ∧
      (t.result = some err ∨
        sh.server.shutdownErr = err ∧ t.answering = true ∧ t.hold = .writer ∧ t.closed = 0) := by
  cases h with
  | shutdown move =>
    cases move with
    | announce _ site =>
      obtain ⟨rfl, rfl⟩ | ⟨rfl, rfl⟩ | ⟨rt, err, rfl, rfl⟩ := site <;> cases hs
    | take _ site =>
      obtain ⟨rfl, rfl⟩ | ⟨rfl, rfl⟩ | ⟨rt, err, rfl, rfl⟩ := site <;> cases hs
    | readStopped | reread => cases hs; exact ⟨rfl, .inr ⟨rfl, rfl, rfl, rfl⟩⟩
    | unlockStopped err | unlockReread err => exact ⟨rfl, .inl hs⟩
    | callShutdown rt site => obtain ⟨rfl, rfl⟩ | ⟨rfl, rfl⟩ := site <;> cases hs
    | _ => cases hs
  | request | reload | manager | start | prober => cases hs

theorem ThreadMove.waiting (h : ThreadMove env sh t sh' t' new) (hs : t'.waiting = true) :
    t.waiting = true ∨ sh'.server.state = .shuttingDown := by
  cases h with
  | shutdown move =>
    cases move with
    | announce _ site =>
      obtain ⟨rfl, rfl⟩ | ⟨rfl, rfl⟩ | ⟨rt, err, rfl, rfl⟩ := site <;> cases hs
    | take _ site =>
      obtain ⟨rfl, rfl⟩ | ⟨rfl, rfl⟩ | ⟨rt, err, rfl, rfl⟩ := site <;> cases hs
    | sawShuttingDown h => exact .inr h
    | unlockWait => exact .inl rfl
    | callShutdown rt site => obtain ⟨rfl, rfl⟩ | ⟨rfl, rfl⟩ := site <;> cases hs
    | _ => cases hs
  | request | reload | manager | start | prober => cases hs

theorem ThreadMove.final (h : ThreadMove env sh t sh' t' new) (hf : t.final = true) :
    t'.final = true := by
  cases h with
  | shutdown move =>
    cases move with
    | announce _ site =>
      obtain ⟨rfl, rfl⟩ | ⟨rfl, rfl⟩ | ⟨rt, err, rfl, rfl⟩ := site <;> cases hf
    | take _ site =>
      obtain ⟨rfl, rfl⟩ | ⟨rfl, rfl⟩ | ⟨rt, err, rfl, rfl⟩ := site <;> cases hf
    | callShutdown rt site => obtain ⟨rfl, rfl⟩ | ⟨rfl, rfl⟩ := site <;> cases hf
    | drained rt _ site => obtain rfl | rfl := site <;> cases hf
    | _ => cases hf
  | start => rfl
  | request | reload | manager | prober => cases hf

end

theorem Serving.ended_stays {env : Env} {w w' : World} {a : Action} (h : Serving w)
    (m : Moved (machine env) w a w') (ended : w.shared.server.state ≠ .running) :
    w'.shared.server.state ≠ .running := by
  cases m with
  | step at_ fires =>
    have move := (Thread.step_move fires).state
    generalize hs : w.shared.server.state = st at move
    cases move with
    | same => simpa [hs] using ended
    | shuttingDown _ _ _ hn | completed _ _ _ _ hn | failed _ _ _ _ hn
    | listenFailed _ _ _ _ _ hn => simp [hn]
    | running _ _ at_ =>
      subst at_
      cases h.booted _ (List.mem_of_getElem? (by assumption))
  | enter fires => cases enter_move fires <;> exact ended
  | change fires => cases fires; exact ended

theorem Serving.closed_unique {w : World} (h : Serving w) {i j : Nat} {t u : Thread}
    (hi : w.threads[i]? = some t) (hj : w.threads[j]? = some u) (ht : t.closed = 1)
    (hu : u.closed = 1) : i = j := by
  have le : total Thread.closed w.threads ≤ 1 := by
    rw [← h.closers]
    unfold closing
    split <;> omega
  exact unique_of_total_le_one le hi hj (by omega) (by omega)

theorem Serving.exists_closed {w : World} (h : Serving w)
    (ended : w.shared.server.state ≠ .running) : ∃ t ∈ w.threads, t.closed = 1 := by
  have one : total Thread.closed w.threads = 1 := by
    rw [← h.closers, closing, if_neg ended]
  obtain ⟨t, ht, pos⟩ := exists_of_total_pos (one ▸ Nat.one_pos)
  have le := le_total Thread.closed ht
  exact ⟨t, ht, by omega⟩

namespace Owned

variable {env : Env} {w w' : World} {a : Action}

/-! ## In one state -/

/-- A closed channel was closed by the owner. -/
theorem closer (h : Owned w) (done : w.shared.server.shutdownDone = true) :
    ∃ rt err, .shutdown (.completeUnlock rt err) ∈ w.threads ∨
      .shutdown (.completed rt err) ∈ w.threads := by
  have pos : 0 < total Thread.closes w.threads := by
    rw [← h.done, done]
    exact Nat.one_pos
  obtain ⟨t, ht, hc⟩ := exists_of_total_pos pos
  cases t with
  | shutdown pc =>
    cases pc with
    | completeUnlock rt err => exact ⟨rt, err, .inl ht⟩
    | completed rt err => exact ⟨rt, err, .inr ht⟩
    | panicked rt => exact absurd rfl (h.unbroken _ ht rt)
    | _ => cases hc
  | request | reload | manager | start | prober => cases hc

/-- Before its own close, the owner's shutdown is not over. -/
theorem not_done (h : Owned w) {t : Thread} (ht : t ∈ w.threads) (closed : t.closed = 1)
    (open_ : t.closes = 0) : w.shared.server.shutdownDone = false := by
  cases hd : w.shared.server.shutdownDone with
  | false => rfl
  | true =>
    exfalso
    have same {u : Thread} (hu : u ∈ w.threads) (cu : u.closed = 1) : u = t := by
      obtain ⟨i, hi⟩ := List.mem_iff_getElem?.mp ht
      obtain ⟨j, hj⟩ := List.mem_iff_getElem?.mp hu
      obtain rfl := h.serving.closed_unique hi hj closed cu
      exact Option.some.inj (hj.symm.trans hi)
    obtain ⟨rt, err, hu | hu⟩ := h.closer hd
    · rw [← same hu rfl] at open_; cases open_
    · rw [← same hu rfl] at open_; cases open_

/-- The state is not moved by another thread once this one has ended the
running state. -/
theorem state_stays (h : Serving w) {i j : Nat} {t u t' : Thread} {c : Choice} {sh' : Shared}
    {new : List Thread} (hij : i ≠ j) (hi : w.threads[i]? = some t) (hj : w.threads[j]? = some u)
    (fires : t.step env w.shared c = some (sh', t', new)) (closed : u.closed = 1) :
    sh'.server.state = w.shared.server.state := by
  have ht := List.mem_of_getElem? hi
  have hu := List.mem_of_getElem? hj
  have ended : w.shared.server.state ≠ .running := by
    intro running
    have closers := h.closers
    simp only [closing, running, if_true] at closers
    have zero := total_eq_zero.mp closers.symm u hu
    omega
  have move := (Thread.step_move fires).state
  generalize hs : w.shared.server.state = st at move
  cases move with
  | same => rfl
  | shuttingDown _ at_ | failed _ _ at_ =>
    subst at_
    exact absurd (h.sawRunning _ ht rfl) ended
  | completed _ rt at_ =>
    subst at_
    exact absurd (h.closed_unique hi hj rfl closed) hij
  | listenFailed _ _ _ at_ | running _ _ at_ =>
    subst at_
    cases h.booted _ ht

theorem not_finished_of_open (h : Owned w) {rt : Rid} {err : Option Error}
    (ht : .shutdown (.completeErr rt err) ∈ w.threads) : ¬ w.shared.finished := by
  rintro (done | stopped)
  · rw [h.not_done ht rfl rfl] at done
    cases done
  · rw [h.leaves _ ht .shuttingDown rfl] at stopped
    cases stopped

/-- Once it is over, no step changes the error or reopens it. -/
theorem finished_stays (h : Owned w) (m : Moved (machine env) w a w')
    (finished : w.shared.finished) :
    w'.shared.finished ∧ w'.shared.server.shutdownErr = w.shared.server.shutdownErr := by
  cases m with
  | @step tid c t sh' t' new at_ fires =>
    have move := Thread.step_move fires
    have ht := List.mem_of_getElem? at_
    have stays (stopped : w.shared.server.state = .stopped) : sh'.server.state = .stopped := by
      have moved := move.state
      generalize hs : w.shared.server.state = st at moved
      cases moved with
      | same => exact hs.symm.trans stopped
      | shuttingDown _ at_ =>
        subst at_
        rw [h.serving.sawRunning _ ht rfl] at stopped
        cases stopped
      | completed _ _ _ _ stored | failed _ _ _ _ stored => exact stored
      | listenFailed _ _ _ at_ | running _ _ at_ =>
        subst at_
        cases h.serving.booted _ ht
    cases move.publication with
    | same same =>
      refine ⟨?_, same.err⟩
      rcases finished with done | stopped
      · exact .inl (same.done.trans done)
      · exact .inr (stays stopped)
    | err rt err at_ =>
      subst at_
      exact absurd finished (h.not_finished_of_open ht)
    | close rt err at_ to_ once done stored => exact ⟨.inl done, stored⟩
    | twice rt err at_ to_ twice =>
      subst at_
      rw [h.not_done ht rfl rfl] at twice
      cases twice
  | enter fires => cases enter_move fires <;> exact ⟨finished, rfl⟩
  | change fires => cases fires; exact ⟨finished, rfl⟩

/-! ## Preservation -/

theorem step_done (h : Owned w) (m : Moved (machine env) w a w') :
    w'.shared.server.shutdownDone.toNat = total Thread.closes w'.threads := by
  refine m.counter Thread.closes (·.server.shutdownDone.toNat) h.done ?_ ?_ ?_
  · intro t c sh' t' new ht own fires
    have move := Thread.step_move fires
    rw [Consistent.started_zero move Thread.closes (fun _ => rfl)]
    cases move.publication with
    | same same quiet =>
      rcases move.closes with closes | ⟨rt, err, at_⟩
      · rw [same.done, closes, Nat.add_zero]
      · exact absurd at_ (quiet rt err).2
    | err rt err at_ to_ _ done => subst at_ to_; rw [done]; rfl
    | close rt err at_ to_ once done => subst at_ to_; rw [once, done]; rfl
    | twice rt err at_ _ twice =>
      subst at_
      rw [h.not_done ht rfl rfl] at twice
      cases twice
  · intro x sh' t fires
    cases enter_move fires <;> rfl
  · intro disk sh' fires
    cases fires
    rfl

theorem step_leaves (h : Owned w) (m : Moved (machine env) w a w') :
    ∀ t ∈ w'.threads, ∀ st, t.leaves = some st → w'.shared.server.state = st := by
  refine World.assertion m (fun sh t => ∀ st, t.leaves = some st → sh.server.state = st)
    h.leaves ?_ ?_ ?_ ?_ ?_
  · intro i t c sh' t' new _ hi inv fires
    have move := Thread.step_move fires
    intro st hs
    rcases move.leaves hs with ⟨before, same⟩ | now
    · exact same.trans (inv st before)
    · exact now
  · intro i j t u c sh' t' new _ hij hi hj fires inv st hs
    exact (state_stays h.serving hij hi hj fires (Thread.leaves_closed hs)).trans (inv st hs)
  · intro sh' p st hs
    cases hs
  · intro x sh' t fires
    cases enter_move fires <;> exact ⟨by rintro _ ⟨⟩, fun _ _ inv => inv⟩
  · intro disk u inv
    exact inv

theorem step_publishes (h : Owned w) (m : Moved (machine env) w a w') :
    ∀ t ∈ w'.threads, ∀ err, t.publishes = some err → w'.shared.server.shutdownErr = err := by
  refine World.assertion m (fun sh t => ∀ err, t.publishes = some err → sh.server.shutdownErr = err)
    h.publishes ?_ ?_ ?_ ?_ ?_
  · intro i t c sh' t' new _ hi inv fires
    have move := Thread.step_move fires
    intro err hs
    rcases move.publishes hs with ⟨before, same⟩ | now
    · exact same.trans (inv err before)
    · exact now
  · intro i j t u c sh' t' new _ hij hi hj fires inv err hs
    cases (Thread.step_move fires).publication with
    | same same => exact same.err.trans (inv err hs)
    | err rt e at_ =>
      subst at_
      exact absurd (h.serving.closed_unique hi hj rfl (Thread.publishes_closed hs)) hij
    | close rt e at_ to_ once done stored => exact stored.trans (inv err hs)
    | twice rt e at_ =>
      subst at_
      exact absurd (h.serving.closed_unique hi hj rfl (Thread.publishes_closed hs)) hij
  · intro sh' p err hs
    cases hs
  · intro x sh' t fires
    cases enter_move fires <;> exact ⟨by rintro _ ⟨⟩, fun _ _ inv => inv⟩
  · intro disk u inv
    exact inv

theorem step_answers (h : Owned w) (m : Moved (machine env) w a w') :
    ∀ t ∈ w'.threads, t.answering = true → w'.shared.finished := by
  refine World.assertion m (fun sh t => t.answering = true → sh.finished) h.answers ?_ ?_ ?_ ?_ ?_
  · intro i t c sh' t' new _ hi inv fires
    have move := Thread.step_move fires
    intro hs
    rcases move.answering hs with before | now
    · exact (h.finished_stays (.step hi fires) (inv before)).1
    · exact now
  · intro i j t u c sh' t' new _ hij hi hj fires inv hs
    exact (h.finished_stays (.step hi fires) (inv hs)).1
  · intro sh' p hs
    cases hs
  · intro x sh' t fires
    cases enter_move fires <;> exact ⟨by rintro ⟨⟩, fun _ _ inv => inv⟩
  · intro disk u inv
    exact inv

theorem step_results (h : Owned w) (m : Moved (machine env) w a w') :
    ∀ t ∈ w'.threads, ∀ err, t.result = some err → w'.shared.server.shutdownErr = err := by
  refine World.assertion m (fun sh t => ∀ err, t.result = some err → sh.server.shutdownErr = err)
    h.results ?_ ?_ ?_ ?_ ?_
  · intro i t c sh' t' new _ hi inv fires
    have move := Thread.step_move fires
    intro err hs
    obtain ⟨same, before | ⟨read, -⟩⟩ := move.result hs
    · exact same.trans (inv err before)
    · exact same.trans read
  · intro i j t u c sh' t' new _ hij hi hj fires inv err hs
    have finished := h.answers u (List.mem_of_getElem? hj) (Thread.result_answering hs)
    exact (h.finished_stays (.step hi fires) finished).2.trans (inv err hs)
  · intro sh' p err hs
    cases hs
  · intro x sh' t fires
    cases enter_move fires <;> exact ⟨by rintro _ ⟨⟩, fun _ _ inv => inv⟩
  · intro disk u inv
    exact inv

theorem step_unbroken (h : Owned w) (m : Moved (machine env) w a w') :
    ∀ t ∈ w'.threads, ∀ rt, t ≠ .shutdown (.panicked rt) := by
  refine World.each m (fun t => ∀ rt, t ≠ .shutdown (.panicked rt)) h.unbroken ?_ ?_ ?_
  · intro i t c sh' t' new _ hi inv fires
    have move := Thread.step_move fires
    rintro rt rfl
    cases move with
    | shutdown move =>
      cases move with
      | announce _ site => simp at site
      | take _ site => simp at site
      | callShutdown _ site => simp at site
      | closeTwice rt err twice =>
        rw [h.not_done (List.mem_of_getElem? hi) rfl rfl] at twice
        cases twice
  · rintro p rt ⟨⟩
  · intro x sh' t fires
    cases enter_move fires <;> rintro _ ⟨⟩

theorem step_ended (h : Owned w) (m : Moved (machine env) w a w') :
    ∀ t ∈ w'.threads, t.waiting = true → w'.shared.server.state ≠ .running := by
  refine World.assertion m (fun sh t => t.waiting = true → sh.server.state ≠ .running)
    h.ended ?_ ?_ ?_ ?_ ?_
  · intro i t c sh' t' new _ hi inv fires hs
    rcases (Thread.step_move fires).waiting hs with before | now
    · exact h.serving.ended_stays (.step hi fires) (inv before)
    · simp [now]
  · intro i j t u c sh' t' new _ _ hi _ fires inv hs
    exact h.serving.ended_stays (.step hi fires) (inv hs)
  · intro sh' p hs
    cases hs
  · intro x sh' t fires
    cases enter_move fires <;> exact ⟨by rintro ⟨⟩, fun _ _ inv => inv⟩
  · intro disk u inv
    exact inv

theorem not_running_of_finished (h : Owned w) (finished : w.shared.finished) :
    w.shared.server.state ≠ .running := by
  intro running
  have closers := h.serving.closers
  simp only [closing, running, if_true] at closers
  rcases finished with done | stopped
  · obtain ⟨rt, err, ht | ht⟩ := h.closer done
    · cases total_eq_zero.mp closers.symm _ ht
    · cases total_eq_zero.mp closers.symm _ ht
  · rw [running] at stopped
    cases stopped

/-- A call that reads the result inside the lock finds the owner finished. -/
theorem final_of_reading (h : Owned w) {t : Thread} (ht : t ∈ w.threads)
    (answering : t.answering = true) (writes : t.hold = .writer) (closed : t.closed = 0) :
    ∀ u ∈ w.threads, u.closed = 1 → u.final = true := by
  intro u hu cu
  have quiet : u.hold ≠ .writer := by
    intro wu
    obtain ⟨i, hi⟩ := List.mem_iff_getElem?.mp ht
    obtain ⟨j, hj⟩ := List.mem_iff_getElem?.mp hu
    obtain rfl := h.serving.consistent.writer_unique hi hj writes wu
    obtain rfl : t = u := Option.some.inj (hi.symm.trans hj)
    omega
  have same {v : Thread} (hv : v ∈ w.threads) (cv : v.closed = 1) : v = u := by
    obtain ⟨i, hi⟩ := List.mem_iff_getElem?.mp hu
    obtain ⟨j, hj⟩ := List.mem_iff_getElem?.mp hv
    obtain rfl := h.serving.closed_unique hi hj cu cv
    exact Option.some.inj (hj.symm.trans hi)
  rcases h.answers t ht answering with done | stopped
  · obtain ⟨rt, err, hv | hv⟩ := h.closer done
    · obtain rfl := same hv rfl
      exact absurd rfl quiet
    · obtain rfl := same hv rfl
      rfl
  · -- the owner of a stopped server is past its store of the state
    cases u with
    | start pc => rfl
    | shutdown pc =>
      cases pc with
      | completed rt err => rfl
      | panicked rt => exact absurd rfl (h.unbroken _ hu rt)
      | completeErr | completeState | completeClose | completeUnlock | storeReady | capture
      | unlock => exact absurd rfl quiet
      | lock | locking | switch | readStopped | unlockStopped | unlockWait | await | relock
      | relocking | reread | unlockReread | storeState | returned => cases cu
      | checkSrv | graceful | gracefulWait | forceCancel | forced | forcedWait | stop
      | completeLock | completeLocking =>
        rw [h.leaves _ hu .shuttingDown rfl] at stopped
        cases stopped
    | request | reload | manager | prober => cases cu

theorem step_final (h : Owned w) (m : Moved (machine env) w a w') :
    ∀ t ∈ w'.threads, ∀ err, t.result = some err →
      ∀ u ∈ w'.threads, u.closed = 1 → u.final = true := by
  intro x hx err hr u hu cu
  cases m with
  | @step tid c t sh' t' new at_ fires =>
    have move := Thread.step_move fires
    have ht := List.mem_of_getElem? at_
    have before : (∀ v ∈ w.threads, v.closed = 1 → v.final = true) ∧ w.shared.finished := by
      rcases mem_moved hx with rfl | hn | ⟨j, -, hj⟩
      · obtain ⟨-, before | ⟨-, answering, writes, closed⟩⟩ := move.result hr
        · exact ⟨h.final t ht err before, h.answers t ht (Thread.result_answering before)⟩
        · exact ⟨h.final_of_reading ht answering writes closed, h.answers t ht answering⟩
      · obtain ⟨p, rfl⟩ := move.starts x hn
        cases hr
      · have hj := List.mem_of_getElem? hj
        exact ⟨h.final x hj err hr, h.answers x hj (Thread.result_answering hr)⟩
    rcases mem_moved hu with rfl | hn | ⟨j, -, hj⟩
    · rcases move.closed with same | ⟨rfl, rfl⟩ | ⟨e, rfl, rfl⟩
      · exact move.final (before.1 t ht (same ▸ cu))
      · exact absurd (h.serving.sawRunning _ ht rfl) (h.not_running_of_finished before.2)
      · rfl
    · obtain ⟨p, rfl⟩ := move.starts u hn
      cases cu
    · exact before.1 u (List.mem_of_getElem? hj) cu
  | enter fires =>
    rcases List.mem_append.mp hx with hx | hx
    · rcases List.mem_append.mp hu with hu | hu
      · exact h.final x hx err hr u hu cu
      · obtain rfl := List.mem_singleton.mp hu
        cases enter_move fires <;> cases cu
    · obtain rfl := List.mem_singleton.mp hx
      cases enter_move fires <;> cases hr
  | change fires => exact h.final x hx err hr u hu cu

theorem step (h : Owned w) (hs : World.step env w a = some w') : Owned w' :=
  have m := Machine.next_moved hs
  ⟨h.serving.step hs, step_done h m, step_leaves h m, step_publishes h m, step_answers h m,
    step_results h m, step_unbroken h m, step_ended h m, step_final h m⟩

theorem run {ok : World → Action → Prop} (h : Owned w) (r : Run env ok w w') : Owned w' :=
  r.invariant Owned h fun _ _ _ _ inv _ hs => inv.step hs

end Owned

end TorusProxy
