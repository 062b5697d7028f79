import TorusProxy.History

/-! The lifecycle of the server from its first state on. `Start` stores `ready`
and `state` without the lock and without looking, so the order of the states
is kept exactly by the runs in which those stores come in time. -/
namespace TorusProxy

open Threads

def Thread.starts : Thread → Nat
  | .start _ => 1
  | _ => 0

/-- `Start` is called once and has not begun. -/
structure Starting (w : World) : Prop extends Fresh .load w where
  state : w.shared.server.state = .starting
  ready : w.shared.server.ready = false
  srv : w.shared.server.srv = ⟨false, false, false, false, 0⟩
  once : total Thread.starts w.threads ≤ 1

/-- What a goroutine about to store must find as the state. -/
def Thread.inOrder (state : ServerState) : Thread → Bool
  | .start (.storeReady _) | .start (.storeState _) => state = .starting
  | .shutdown .storeState => state ≠ .stopped
  | _ => true

/-- The stores of a successful start find the server starting, and no shutdown
stores its state over the one a failed `Listen` has stored since it looked. -/
def InOrder (w : World) : Action → Prop
  | .run i _ => ∀ t ∈ w.threads[i]?, t.inOrder w.shared.server.state = true
  | _ => True

/-- Has executed the transition block: `serverShuttingDown`, then not ready. -/
def ShutdownPC.transitioned : ShutdownPC → Bool
  | .capture => true
  | pc => pc.captured.isSome

structure Ordered (w : World) : Prop where
  consistent : Consistent w
  once : total Thread.starts w.threads ≤ 1
  booting : ∀ t ∈ w.threads, t.booting = true → w.shared.server.state ≠ .running
  swapping : ∀ t ∈ w.threads, ∀ r, t.swapping = some r → w.shared.server.state = .running
  closed : ∀ t ∈ w.threads, t.closed = 1 → 2 ≤ w.shared.server.state.rank
  unready : ∀ t ∈ w.threads, ∀ pc, t = .shutdown pc → pc.transitioned = true →
    w.shared.server.ready = false

section
variable {env : Env} {sh sh' : Shared} {t t' : Thread} {new : List Thread}

/-- Only the start makes the server ready. -/
theorem ThreadMove.ready (h : ThreadMove env sh t sh' t' new) :
    sh'.server.ready = sh.server.ready ∨ sh'.server.ready = false ∨
      ∃ rt, t = .start (.storeReady rt) := by
  have locks {op : RWMutex → Option RWMutex} (hm : sh.tryMu op = some sh') :
      sh'.server.ready = sh.server.ready := Shared.tryMu_same (·.server.ready) (fun _ => rfl) hm
  cases h with
  | request req move =>
    exact .inl (move.server_same Server.ready (fun _ _ => rfl) (fun _ _ => rfl))
  | reload rt move =>
    exact .inl (move.server_same Server.ready (fun _ _ => rfl) (fun _ _ => rfl))
  | manager move =>
    exact .inl (move.server_same Server.ready (fun _ _ => rfl) (fun _ _ => rfl))
  | shutdown move =>
    cases move with
    | announce hm | take hm => exact .inl (locks hm)
    | stop rt move => exact .inl (by rw [move.server])
    | storeReady => exact .inr (.inl rfl)
    | _ => exact .inl rfl
  | start move =>
    cases move with
    | failLock err hm | failLocking err hm => exact .inl (locks hm)
    | listenStop rt err move | failStop rt err move => exact .inl (by rw [move.server])
    | listenReady | failReady => exact .inr (.inl rfl)
    | storeReady rt => exact .inr (.inr ⟨rt, rfl⟩)
    | _ => exact .inl rfl
  | prober p move => exact .inl (by rw [move.server])

theorem ThreadMove.start_iff (h : ThreadMove env sh t sh' t' new) : t'.starts = t.starts := by
  cases h <;> rfl

/-- A start that is still booting was booting before, and has not stored
`serverRunning`. -/
theorem ThreadMove.booting (h : ThreadMove env sh t sh' t' new) (hb : t'.booting = true) :
    t.booting = true ∧
      (sh'.server.state = sh.server.state ∨ sh'.server.state = .stopped) := by
  cases h with
  | start move =>
    cases move with
    | listenState rt err => exact ⟨rfl, .inr rfl⟩
    | listenStop rt err move => exact ⟨rfl, .inl (by rw [move.server])⟩
    | load | assignSrv | listened | listenFailed | listenReady | listenCancel | storeReady =>
      exact ⟨rfl, .inl rfl⟩
    | _ => cases hb
  | request | reload | manager | shutdown | prober => cases hb

/-- A reload comes to its swap by seeing `serverRunning`. -/
theorem ThreadMove.swapping (h : ThreadMove env sh t sh' t' new) {r : Rid}
    (hs : t'.swapping = some r) : sh'.server.state = .running := by
  have reloads {rt : Rid} {pc pc' : ReloadPC} (move : ReloadMove rt sh pc sh' pc')
      (here : pc' = .swap) : sh'.server.state = .running := by
    cases move with
    | accept running => exact running
    | _ => cases here
  cases h with
  | @reload _ pc pc' rt move =>
    cases pc' with
    | swap => exact reloads move rfl
    | _ => cases hs
  | @manager _ _ pc' _ move =>
    cases pc' with
    | serverReload cfg rt pc =>
      cases pc with
      | swap =>
        cases move with
        | reload _ _ move => exact reloads move rfl
      | _ => cases hs
    | _ => cases hs
  | request | shutdown | start | prober => cases hs

theorem ShutdownMove.transitioned {pc pc' : ShutdownPC} (h : ShutdownMove sh pc sh' pc')
    (hs : pc'.transitioned = true) :
    pc.transitioned = true ∨ sh'.server.ready = false := by
  cases h with
  | announce _ site =>
    obtain ⟨rfl, rfl⟩ | ⟨rfl, rfl⟩ | ⟨rt, err, rfl, rfl⟩ := site
    · cases hs
    · cases hs
    · exact .inl rfl
  | take _ site =>
    obtain ⟨rfl, rfl⟩ | ⟨rfl, rfl⟩ | ⟨rt, err, rfl, rfl⟩ := site
    · cases hs
    · cases hs
    · exact .inl rfl
  | storeReady => exact .inr rfl
  | callShutdown rt site => obtain ⟨rfl, rfl⟩ | ⟨rfl, rfl⟩ := site <;> exact .inl rfl
  | drained rt _ site => obtain rfl | rfl := site <;> exact .inl rfl
  | sawStopped | sawShuttingDown | becomeOwner | readStopped | unlockStopped | unlockWait | await
  | reread | unlockReread | storeState => cases hs
  | _ => exact .inl rfl

theorem ShutdownPC.transitioned_closed {pc : ShutdownPC} (h : pc.transitioned = true) :
    (Thread.shutdown pc).closed = 1 := by
  cases pc <;> first | rfl | cases h

end

namespace Ordered

variable {env : Env} {w w' : World} {a : Action}

/-- The state of a running order only moves forward. -/
theorem rank_step (ok : InOrder w a) (m : Moved (machine env) w a w') :
    w.shared.server.state.rank ≤ w'.shared.server.state.rank := by
  have top (st : ServerState) : st.rank ≤ 3 := by cases st <;> decide
  cases m with
  | step at_ fires =>
    have move := (Thread.step_move fires).state
    have ordered := ok _ at_
    generalize hs : w.shared.server.state = st at move ordered
    cases move with
    | same => exact Nat.le_refl _
    | shuttingDown _ here _ stored =>
      subst here
      rw [stored]
      cases st with
      | stopped => cases ordered
      | starting | running | shuttingDown => decide
    | completed _ _ _ _ stored | failed _ _ _ _ stored | listenFailed _ _ _ _ _ stored =>
      rw [stored]
      exact top st
    | running _ rt here _ stored =>
      subst here
      obtain rfl : st = .starting := of_decide_eq_true ordered
      rw [stored]
      decide
  | enter fires => cases enter_move fires <;> exact Nat.le_refl _
  | change fires => cases fires; exact Nat.le_refl _

/-- Once the state has passed running, the server stays unready. -/
theorem ready_step (ok : InOrder w a) (m : Moved (machine env) w a w')
    (past : 2 ≤ w.shared.server.state.rank) (unready : w.shared.server.ready = false) :
    w'.shared.server.ready = false := by
  cases m with
  | step at_ fires =>
    rcases (Thread.step_move fires).ready with same | off | ⟨rt, rfl⟩
    · exact same.trans unready
    · exact off
    · rw [of_decide_eq_true (ok _ at_)] at past
      cases past
  | enter fires => cases enter_move fires <;> exact unready
  | change fires => cases fires; exact unready

theorem step_once (once : total Thread.starts w.threads ≤ 1) (m : Moved (machine env) w a w') :
    total Thread.starts w'.threads ≤ 1 := by
  cases m with
  | @step tid c t sh' t' new at_ fires =>
    have move := Thread.step_move fires
    have set := total_set Thread.starts t' at_
    rw [move.start_iff] at set
    rw [total_append, Consistent.started_zero move Thread.starts (fun _ => rfl)]
    omega
  | enter fires =>
    rw [total_append]
    cases enter_move fires <;> simpa [Thread.starts] using once
  | change fires => exact once

theorem step_booting (once : total Thread.starts w.threads ≤ 1)
    (booting : ∀ t ∈ w.threads, t.booting = true → w.shared.server.state ≠ .running)
    (m : Moved (machine env) w a w') :
    ∀ t ∈ w'.threads, t.booting = true → w'.shared.server.state ≠ .running := by
  refine World.assertion m (fun sh t => t.booting = true → sh.server.state ≠ .running)
    booting ?_ ?_ ?_ ?_ ?_
  · intro i t c sh' t' new _ hi inv fires hb
    obtain ⟨before, same | stopped⟩ := (Thread.step_move fires).booting hb
    · rw [same]
      exact inv before
    · simp [stopped]
  · intro i j t u c sh' t' new _ hij hi hj fires inv hb
    have move := (Thread.step_move fires).state
    generalize hs : w.shared.server.state = st at move
    cases move with
    | same => simpa [hs] using inv hb
    | shuttingDown _ _ _ stored | completed _ _ _ _ stored | failed _ _ _ _ stored
    | listenFailed _ _ _ _ _ stored => simp [stored]
    | running _ rt here =>
      -- a second start would have to store it
      subst here
      have one : u.starts = 1 := by
        cases u with
        | start pc => rfl
        | request | reload | manager | shutdown | prober => cases hb
      have two := add_le_total Thread.starts hij hi hj
      rw [one] at two
      have lt := Nat.le_trans two once
      cases lt with
      | step lt => cases lt
  · intro sh' p hb
    cases hb
  · intro x sh' t fires
    cases enter_move fires <;> exact ⟨by rintro ⟨⟩, fun _ _ inv => inv⟩
  · intro disk u inv
    exact inv

theorem step_swapping (c : Consistent w)
    (booting : ∀ t ∈ w.threads, t.booting = true → w.shared.server.state ≠ .running)
    (swapping : ∀ t ∈ w.threads, ∀ r, t.swapping = some r → w.shared.server.state = .running)
    (m : Moved (machine env) w a w') :
    ∀ t ∈ w'.threads, ∀ r, t.swapping = some r → w'.shared.server.state = .running := by
  refine World.assertion m (fun sh t => ∀ r, t.swapping = some r → sh.server.state = .running)
    swapping ?_ ?_ ?_ ?_ ?_
  · intro i t c sh' t' new _ hi inv fires r hs
    exact (Thread.step_move fires).swapping hs
  · rintro i j t u k sh' t' new rfl hij hi hj fires inv r hs
    have running := inv r hs
    have writes := (Thread.swapping_owned hs).2
    have apart : t.hold ≠ .writer := fun wt => hij (c.writer_unique hi hj wt writes)
    have move := (Thread.step_move fires).state
    generalize hst : w.shared.server.state = st at move
    cases move with
    | same => exact hst ▸ running
    | shuttingDown _ here | completed _ _ here | failed _ _ here =>
      subst here
      exact absurd rfl apart
    | listenFailed _ _ _ here =>
      subst here
      exact absurd running (booting _ (List.mem_of_getElem? hi) rfl)
    | running _ rt here _ stored => exact stored
  · intro sh' p r hs
    cases hs
  · intro x sh' t fires
    cases enter_move fires <;> exact ⟨by rintro _ ⟨⟩, fun _ _ inv => inv⟩
  · intro disk u inv
    exact inv

theorem step_closed (h : Ordered w) (ok : InOrder w a) (m : Moved (machine env) w a w') :
    ∀ t ∈ w'.threads, t.closed = 1 → 2 ≤ w'.shared.server.state.rank := by
  have mono := rank_step ok m
  intro u hu closed
  cases World.origin m hu with
  | stayed mem => exact Nat.le_trans (h.closed u mem closed) mono
  | moved t c ht fires shared =>
    have move := Thread.step_move fires
    rcases move.closed with same | ⟨rfl, rfl⟩ | ⟨err, rfl, rfl⟩
    · exact Nat.le_trans (h.closed t ht (same ▸ closed)) mono
    · rw [shared]
      cases move with
      | shutdown move =>
        cases move with
        | storeState => exact Nat.le_refl _
        | announce _ site => simp at site
        | take _ site => simp at site
        | callShutdown _ site => simp at site
    · rw [shared]
      cases move with
      | start move =>
        cases move with
        | failState => exact Nat.le_succ 2
  | started p => cases closed
  | entered x fires => cases enter_move fires <;> cases closed

theorem step_unready (h : Ordered w) (ok : InOrder w a) (m : Moved (machine env) w a w') :
    ∀ t ∈ w'.threads, ∀ pc, t = .shutdown pc → pc.transitioned = true →
      w'.shared.server.ready = false := by
  have stays {t : Thread} (ht : t ∈ w.threads) {pc : ShutdownPC} (here : t = .shutdown pc)
      (hs : pc.transitioned = true) : w'.shared.server.ready = false := by
    have past := h.closed t ht (here ▸ ShutdownPC.transitioned_closed hs)
    exact ready_step ok m past (h.unready t ht pc here hs)
  rintro u hu pc rfl hs
  cases World.origin m hu with
  | stayed mem => exact stays mem rfl hs
  | moved t c ht fires shared =>
    cases Thread.step_move fires with
    | shutdown move =>
      rcases move.transitioned hs with before | off
      · exact stays ht rfl before
      · rw [shared]
        exact off
  | entered x fires =>
    cases enter_move fires
    cases hs

theorem step (h : Ordered w) (ok : InOrder w a) (hs : World.step env w a = some w') :
    Ordered w' :=
  have m := Machine.next_moved hs
  ⟨h.consistent.step hs, step_once h.once m, step_booting h.once h.booting m,
    step_swapping h.consistent h.booting h.swapping m, step_closed h ok m, step_unready h ok m⟩

theorem run (h : Ordered w) (r : Run env InOrder w w') : Ordered w' :=
  r.invariant Ordered h fun _ _ _ _ inv ok hs => inv.step ok hs

end Ordered

theorem Starting.ordered {w : World} (h : Starting w) : Ordered w := by
  refine ⟨h.toFresh.consistent rfl, ?_, ?_, ?_, ?_, ?_⟩
  · exact h.once
  · intro t ht hb
    simp [h.state]
  · intro t ht r hs
    rcases h.threads t ht with ⟨p, pc, rfl, -⟩ | rfl <;> cases hs
  · intro t ht closed
    rcases h.threads t ht with ⟨p, pc, rfl, -⟩ | rfl <;> cases closed
  · rintro t ht pc rfl
    rcases h.threads _ ht with ⟨p, q, hp, -⟩ | hp <;> cases hp

/-- What a run keeps once the state has passed running. -/
structure Ordered.Past (installed : List Rid) (w : World) : Prop where
  ordered : Ordered w
  past : 2 ≤ w.shared.server.state.rank
  unready : w.shared.server.ready = false
  installed : w.shared.installed = installed

theorem Ordered.Past.not_running {installed : List Rid} {w : World} (h : Ordered.Past installed w) :
    w.shared.server.state ≠ .running := by
  intro running
  have past := h.past
  rw [running] at past
  simp [ServerState.rank] at past

theorem Ordered.Past.step {env : Env} {installed : List Rid} {w w' : World} {a : Action}
    (h : Ordered.Past installed w) (ok : InOrder w a) (hs : World.step env w a = some w') :
    Ordered.Past installed w' := by
  have m := Machine.next_moved hs
  refine ⟨h.ordered.step ok hs, Nat.le_trans h.past (rank_step ok m),
    ready_step ok m h.past h.unready, ?_⟩
  rcases History.grows m with ⟨same, -⟩ | ⟨t, ht, q, swapping, -⟩
  · exact same.trans h.installed
  · exact absurd (h.ordered.swapping t ht q swapping) h.not_running

/-- In every run that stores in time, the state only moves forward; and once a
shutdown has executed its transition block the server is never ready again,
never running again, and no runtime is installed any more. -/
theorem lifecycle_forward {env : Env} {w₀ w w' : World} (init : Starting w₀)
    (r : Run env InOrder w₀ w) (later : Run env InOrder w w') :
    w.shared.server.state.rank ≤ w'.shared.server.state.rank ∧
    ∀ pc, .shutdown pc ∈ w.threads → pc.transitioned = true →
      w'.shared.server.ready = false ∧ w'.shared.server.state ≠ .running ∧
      w'.shared.installed = w.shared.installed := by
  have ordered := init.ordered.run r
  refine ⟨?_, ?_⟩
  · refine later.invariant (fun v => w.shared.server.state.rank ≤ v.shared.server.state.rank)
      (Nat.le_refl _) ?_
    intro a u v _ le ok hs
    exact Nat.le_trans le (Ordered.rank_step ok (Machine.next_moved hs))
  · intro pc ht transitioned
    have past := ordered.closed _ ht (ShutdownPC.transitioned_closed transitioned)
    have unready := ordered.unready _ ht pc rfl transitioned
    have after : Ordered.Past w.shared.installed w' :=
      later.invariant (Ordered.Past w.shared.installed) ⟨ordered, past, unready, rfl⟩
        fun a u v _ inv ok hs => inv.step ok hs
    exact ⟨after.unready, after.not_running, after.installed⟩

/-! ## A start that stores late -/

instance (w : World) : DecidablePred (InOrder w)
  | .run i _ => inferInstanceAs
      (Decidable (∀ t ∈ w.threads[i]?, t.inOrder w.shared.server.state = true))
  | .call _ | .env _ => .isTrue trivial

/-- The sample before `Start`. -/
def sampleStart : World :=
  .fresh ⟨false, false, false, false, 0⟩ false .starting none .load sampleRuntime sampleDisk
    [⟨0, 0, 1000000000⟩]

theorem sampleStart_starting : Starting sampleStart :=
  ⟨World.fresh_fresh _ _ _ _ _ _ _ rfl (by simp), rfl, rfl, rfl, by decide⟩

/-- In time: the server runs, then a shutdown executes its transition block. -/
theorem lifecycle_forward_sample :
    ∃ w, Run sampleEnv InOrder sampleStart w ∧ .shutdown (.unlock 0) ∈ w.threads ∧
      w.shared.server.ready = false ∧ w.shared.server.state ≠ .running := by
  obtain ⟨w, r, ht⟩ := Exec.exists_run_of_execWhile (World.step sampleEnv) InOrder sampleStart
    (goes 0 2 ++ [.run 0 .ok] ++ goes 0 3 ++ [.call .shutdown] ++ goes 2 6)
    (fun w => .shutdown (.unlock 0) ∈ w.threads) (by decide)
  obtain ⟨unready, ended, -⟩ := (lifecycle_forward sampleStart_starting r .refl).2 _ ht rfl
  exact ⟨w, r, ht, unready, ended⟩

/-- `Start` listens; a shutdown executes its transition block; `Start` stores
ready and running. -/
theorem lifecycle_moves_backwards :
    ¬ ∀ (env : Env) (w₀ w w' : World), Starting w₀ → Run env (fun _ _ => True) w₀ w →
      Run env (fun _ _ => True) w w' →
      w.shared.server.state.rank ≤ w'.shared.server.state.rank ∧
      ∀ pc, .shutdown pc ∈ w.threads → pc.transitioned = true →
        w'.shared.server.ready = false ∧ w'.shared.server.state ≠ .running ∧
        w'.shared.installed = w.shared.installed := by
  intro claim
  obtain ⟨w, w', r, later, ht, -, running, -⟩ := Exec.exists_runs_of_execWhile
    (World.step sampleEnv) (fun _ _ => True) (fun _ _ => True) sampleStart
    (goes 0 2 ++ [.run 0 .ok, .call .shutdown] ++ goes 2 7) (goes 0 2)
    (fun w w' => .shutdown (.checkSrv 0) ∈ w.threads ∧ w'.shared.server.ready = true ∧
      w'.shared.server.state = .running ∧ w.shared.server.state = .shuttingDown)
    (by decide)
  have forward := claim sampleEnv sampleStart w w' sampleStart_starting r later
  exact (forward.2 _ ht rfl).2.1 running

end TorusProxy
