import TorusProxy.Availability
import TorusProxy.Roles

/-! The worker group of a runtime. A prober that panics stays registered until
its replacement is, so `Stop` cannot slip through between the two. -/
namespace TorusProxy

open Threads

/-! ## The probers of one backend -/

/-- Inside the loop of `StartProber`. -/
def ProberPC.looping : ProberPC → Bool
  | .select | .check | .setHealthy _ | .setGauge _ | .log => true
  | _ => false

/-- Between a panic and the replacement, or the decision against one. -/
def ProberPC.recovering : ProberPC → Bool
  | .recovered | .backoff | .restart | .register => true
  | _ => false

namespace Thread

/-- A registered goroutine of the prober of this backend. -/
def registered (r : Rid) (b : Nat) : Thread → Nat
  | .prober p pc => if p.rt = r ∧ p.backend = b then pc.alive else 0
  | _ => 0

/-- One of them that is in the loop. -/
def looping (r : Rid) (b : Nat) : Thread → Nat
  | .prober p pc => if p.rt = r ∧ p.backend = b ∧ pc.looping = true then 1 else 0
  | _ => 0

theorem looping_le_probes (r : Rid) (b : Nat) (t : Thread) : t.looping r b ≤ t.probes r b := by
  cases t with
  | prober p pc =>
    simp only [looping, probes]
    split
    · rename_i on
      obtain ⟨here, there, loops⟩ := on
      have active : pc.active = true := by cases pc <;> first | rfl | cases loops
      rw [if_pos ⟨here, there, active⟩]
    · exact Nat.zero_le _
  | request | reload | manager | shutdown | start => exact Nat.zero_le _

end Thread

/-! ## Every call of `Runtime.Stop` -/

/-- The runtime a goroutine stops, and how far it is. -/
def Thread.stops : Thread → Option (Rid × StopPC)
  | .reload _ (.stop old pc) | .manager (.serverReload _ _ (.stop old pc)) => some (old, pc)
  | .manager (.stop _ rt pc) => some (rt, pc)
  | .shutdown (.stop rt pc) => some (rt, pc)
  | .start (.failStop rt _ pc) | .start (.listenStop rt _ pc) => some (rt, pc)
  | _ => none

/-- The active runtime as a start or a shutdown has loaded it. -/
def Thread.loaded : Thread → Option Rid
  | .shutdown pc => pc.captured
  | .start (.assignSrv rt) | .start (.listen rt) | .start (.listenReady rt _)
  | .start (.listenState rt _) | .start (.listenCancel rt _) | .start (.listenStop rt _ _)
  | .start (.storeReady rt) | .start (.storeState rt) | .start (.failUnlock rt _)
  | .start (.failCancel rt _) | .start (.failStop rt _ _) | .start (.retired rt _) => some rt
  | _ => none

/-- Nothing registers with the runtime any more. -/
structure Unstaffed (w : World) (r : Rid) : Prop where
  workers : (w.shared.heap r).workerWG = 0
  allocated : r < w.shared.allocated
  built : ∀ t ∈ w.threads, t.owned ≠ some (r, .building)

section
variable {env : Env} {sh sh' : Shared} {t t' : Thread} {new : List Thread}

theorem ThreadMove.loaded (h : ThreadMove env sh t sh' t' new) {r : Rid}
    (hr : t'.loaded = some r) : t.loaded = some r ∨ r = sh.server.runtime := by
  cases h with
  | shutdown move =>
    cases move with
    | capture => cases hr; exact .inr rfl
    | announce _ site | take _ site =>
      obtain ⟨rfl, rfl⟩ | ⟨rfl, rfl⟩ | ⟨rt, err, rfl, rfl⟩ := site <;> exact .inl hr
    | callShutdown rt site => obtain ⟨rfl, rfl⟩ | ⟨rfl, rfl⟩ := site <;> exact .inl hr
    | drained rt zero site => obtain rfl | rfl := site <;> exact .inl hr
    | _ => exact .inl hr
  | start move =>
    cases move with
    | load | failLoad => cases hr; exact .inr rfl
    | closed _ site => cases hr
    | _ => first | exact .inl hr | cases hr
  | request | reload | manager | prober => cases hr

/-- A stop begins with its cancellation, of a runtime the goroutine answers for
or has loaded. -/
theorem ThreadMove.stops (h : ThreadMove env sh t sh' t' new) {r : Rid} {p : StopPC}
    (hs : t'.stops = some (r, p)) :
    p = .cancel ∨ ∃ q, t.stops = some (r, q) ∧ StopMove sh r q sh' p := by
  cases h with
  | reload rt move =>
    cases move with
    | recordReload old => cases hs; exact .inl rfl
    | stop old move => cases hs; exact .inr ⟨_, rfl, move⟩
    | _ => cases hs
  | manager move =>
    cases move with
    | reload cfg rt move =>
      cases move with
      | recordReload old => cases hs; exact .inl rfl
      | stop old move => cases hs; exact .inr ⟨_, rfl, move⟩
      | _ => cases hs
    | refused cfg rt => cases hs; exact .inl rfl
    | stop cfg rt move => cases hs; exact .inr ⟨_, rfl, move⟩
    | _ => cases hs
  | shutdown move =>
    cases move with
    | noSrv rt => cases hs; exact .inl rfl
    | drained rt zero site => cases hs; exact .inl rfl
    | stop rt move => cases hs; exact .inr ⟨_, rfl, move⟩
    | announce _ site | take _ site =>
      obtain ⟨rfl, rfl⟩ | ⟨rfl, rfl⟩ | ⟨rt, err, rfl, rfl⟩ := site <;> cases hs
    | callShutdown rt site => obtain ⟨rfl, rfl⟩ | ⟨rfl, rfl⟩ := site <;> cases hs
    | _ => cases hs
  | start move =>
    cases move with
    | failCancel rt err | listenCancel rt err => cases hs; exact .inl rfl
    | failStop rt err move | listenStop rt err move => cases hs; exact .inr ⟨_, rfl, move⟩
    | _ => cases hs
  | request | prober => cases hs

/-- Who stops a runtime answers for it, or has loaded it as the active one. -/
theorem Thread.stops_owned {r : Rid} {p : StopPC} (h : t.stops = some (r, p)) :
    (∃ role, t.owned = some (r, role) ∧ role ≠ .building) ∨ t.loaded = some r := by
  unfold Thread.stops at h
  split at h <;> cases h
  · exact .inl ⟨_, rfl, by rintro ⟨⟩⟩
  · exact .inl ⟨_, rfl, by rintro ⟨⟩⟩
  · exact .inl ⟨_, rfl, by rintro ⟨⟩⟩
  · exact .inr rfl
  · exact .inr rfl
  · exact .inr rfl

/-- A runtime is built by the goroutine that has allocated it. -/
theorem ThreadMove.building (h : ThreadMove env sh t sh' t' new) {r : Rid}
    (hr : t'.owned = some (r, .building)) :
    t.owned = some (r, .building) ∨ r = sh.allocated := by
  rcases h.role_back hr with ⟨role, before, next⟩ | displaced | ⟨allocated, -⟩
  · cases next
    exact .inl before
  · cases displaced
  · exact .inr allocated

end

/-! ## Along a run -/

section
variable {env : Env} {w w' : World} {a : Action} {r : Rid}

theorem Unstaffed.step (h : Unstaffed w r) (c : Consistent w) (m : Moved (machine env) w a w') :
    Unstaffed w' r := by
  refine ⟨c.workers_stay m h.workers h.built,
    Nat.lt_of_lt_of_le h.allocated (History.allocated_mono m), ?_⟩
  intro t' ht' building
  cases World.origin m ht' with
  | stayed mem => exact h.built _ mem building
  | moved t k ht fires =>
    rcases (Thread.step_move fires).building building with before | rfl
    · exact h.built _ ht before
    · exact Nat.lt_irrefl _ h.allocated
  | started p => cases building
  | entered x fires => cases enter_move fires <;> cases building

theorem Unstaffed.run {ok : World → Action → Prop} (h : Unstaffed w r) (c : Consistent w)
    (later : Run env ok w w') : Unstaffed w' r :=
  (later.invariant (fun v => Unstaffed v r ∧ Consistent v) ⟨h, c⟩
    fun _ _ _ _ inv _ hs => ⟨inv.1.step inv.2 (Machine.next_moved hs), inv.2.step hs⟩).1

/-- No prober of the runtime is left. -/
theorem Consistent.exited (c : Consistent w) (zero : (w.shared.heap r).workerWG = 0) {p : Prober}
    {pc : ProberPC} (ht : .prober p pc ∈ w.threads) (hp : p.rt = r) : pc = .exited := by
  by_cases exited : pc = .exited
  · exact exited
  · have works : (Thread.prober p pc).works = some r := by
      rw [← hp]
      exact if_neg exited
    have pos := c.works_le ht works
    rw [zero] at pos
    cases pos

/-- What the goroutines that stop runtimes know. -/
structure Stopping (w : World) : Prop where
  consistent : Consistent w
  history : History w
  loaded : ∀ t ∈ w.threads, ∀ r, t.loaded = some r → r ∈ w.shared.installed
  waited : ∀ t ∈ w.threads, ∀ r, t.stops = some (r, .done) → (w.shared.heap r).workerWG = 0

namespace Stopping

/-- What is being stopped is not being built. -/
theorem unstaffed (h : Stopping w) {t : Thread} (ht : t ∈ w.threads) {p : StopPC}
    (stops : t.stops = some (r, p)) (zero : (w.shared.heap r).workerWG = 0) : Unstaffed w r := by
  rcases Thread.stops_owned stops with ⟨role, owned, past⟩ | loaded
  · have retiring := Serving.retiring_of_owned h.consistent ht owned past
    exact ⟨zero, retiring.allocated, retiring.built⟩
  · have mem := h.loaded t ht r loaded
    refine ⟨zero, h.history.allocated r mem, ?_⟩
    intro u hu building
    have displaced := (h.history.roles u hu r .building building).mp mem
    cases displaced

theorem step_loaded (h : Stopping w) (m : Moved (machine env) w a w') :
    ∀ t ∈ w'.threads, ∀ r, t.loaded = some r → r ∈ w'.shared.installed := by
  intro t ht r loaded
  cases World.origin m ht with
  | stayed mem => exact History.installed_stays m (h.loaded t mem r loaded)
  | moved u k hu fires =>
    rcases (Thread.step_move fires).loaded loaded with before | rfl
    · exact History.installed_stays m (h.loaded u hu r before)
    · exact History.installed_stays m h.history.active_mem
  | started p => cases loaded
  | entered x fires => cases enter_move fires <;> cases loaded

theorem step_waited (h : Stopping w) (m : Moved (machine env) w a w') :
    ∀ t ∈ w'.threads, ∀ r, t.stops = some (r, .done) → (w'.shared.heap r).workerWG = 0 := by
  intro t ht r stops
  cases World.origin m ht with
  | stayed mem =>
    exact ((h.unstaffed mem stops (h.waited t mem r stops)).step h.consistent m).workers
  | moved u k hu fires shared =>
    rcases (Thread.step_move fires).stops stops with cancel | ⟨q, before, move⟩
    · cases cancel
    · -- `Wait` has returned in this very step
      cases move with
      | waitWorkers zero => rw [shared]; exact zero
  | started p => cases stops
  | entered x fires => cases enter_move fires <;> cases stops

theorem step (h : Stopping w) (hs : World.step env w a = some w') : Stopping w' :=
  have m := Machine.next_moved hs
  ⟨h.consistent.step hs, h.history.step h.consistent hs, h.step_loaded m, h.step_waited m⟩

theorem run {ok : World → Action → Prop} (h : Stopping w) (later : Run env ok w w') :
    Stopping w' :=
  later.invariant Stopping h fun _ _ _ _ inv _ hs => inv.step hs

end Stopping

theorem Fresh.stopping {pc : StartPC} (h : Fresh pc w) (begun : pc = .load ∨ pc = .serving) :
    Stopping w := by
  have free : pc.hold = .none := by
    rcases begun with rfl | rfl <;> rfl
  refine ⟨h.consistent free, h.history, ?_, ?_⟩
  · intro t ht r loaded
    rcases h.threads t ht with ⟨p, q, rfl, -⟩ | rfl
    · cases loaded
    · rcases begun with rfl | rfl <;> cases loaded
  · intro t ht r stops
    rcases h.threads t ht with ⟨p, q, rfl, -⟩ | rfl
    · cases stops
    · rcases begun with rfl | rfl <;> cases stops

/-- The books of the worker groups in one state. -/
structure Staffed (env : Env) (w : World) : Prop where
  counted : ∀ r, (w.shared.heap r).workerWG = total (fun t => names r t.works) w.threads
  /-- `DoneWorker` finds something to take away. -/
  positive : ∀ p, .prober p .doneWorker ∈ w.threads → 0 < (w.shared.heap p.rt).workerWG
  /-- After a panic the backend keeps a registered goroutine, -/
  covered : ∀ p pc, .prober p pc ∈ w.threads → pc.recovering = true →
    0 < total (Thread.registered p.rt p.backend) w.threads
  /-- and the replacement joins it before it leaves. -/
  replaced : ∀ i p c w', w.threads[i]? = some (.prober p .register) → c ≠ .panic →
    World.step env w (.run i c) = some w' →
      w'.threads[i]? = some (.prober p .doneWorker) ∧ .prober p .newTicker ∈ w'.threads ∧
      2 ≤ total (Thread.registered p.rt p.backend) w'.threads
  single : ∀ r b, total (Thread.looping r b) w.threads ≤ 1

theorem registered_alive {p : Prober} {pc : ProberPC} (alive : pc.alive = 1) :
    (Thread.prober p pc).registered p.rt p.backend = 1 := by
  simp [Thread.registered, alive]

theorem register_replaces {i : Nat} {p : Prober} {c : Choice}
    (hi : w.threads[i]? = some (.prober p .register)) (calm : c ≠ .panic)
    (hs : World.step env w (.run i c) = some w') :
    w'.threads[i]? = some (.prober p .doneWorker) ∧ .prober p .newTicker ∈ w'.threads ∧
      2 ≤ total (Thread.registered p.rt p.backend) w'.threads := by
  have lt : i < w.threads.length := (List.getElem?_eq_some_iff.mp hi).1
  have register : Thread.step env w.shared (.prober p .register) c =
      some (startProber w.shared p.rt, .prober p .doneWorker, [.prober p .newTicker]) := by
    cases c <;> first | rfl | exact absurd rfl calm
  simp only [World.step, Machine.next, hi, register, Option.some.injEq] at hs
  subst hs
  have stays : (w.threads.set i (.prober p .doneWorker) ++ [.prober p .newTicker])[i]? =
      some (.prober p .doneWorker) := getElem?_moved _ hi
  refine ⟨stays, List.mem_append_right _ (List.mem_singleton_self _), ?_⟩
  have old := le_total (Thread.registered p.rt p.backend) (List.mem_of_getElem?
    (List.getElem?_set_self (a := Thread.prober p .doneWorker) lt))
  rw [registered_alive rfl] at old
  simp only [total_append, total_cons, total_nil]
  rw [registered_alive rfl]
  omega

theorem Staffed.of (h : Posted w) : Staffed env w := by
  refine ⟨h.consistent.workers, ?_, ?_, ?_, ?_⟩
  · intro p ht
    exact h.consistent.works_le ht rfl
  · intro p pc ht recovering
    have alive : pc.alive = 1 := by
      cases pc <;> first | rfl | cases recovering
    have le := le_total (Thread.registered p.rt p.backend) ht
    rw [registered_alive alive] at le
    exact le
  · intro i p c w' hi calm hs
    exact register_replaces hi calm hs
  · intro r b
    have place_le : place r b w.shared ≤ 1 := by
      unfold place
      split <;> omega
    calc total (Thread.looping r b) w.threads
        ≤ total (Thread.probes r b) w.threads := total_mono (Thread.looping_le_probes r b)
      _ ≤ place r b w.shared := h.one r b
      _ ≤ 1 := place_le

/-- Through every order of ticks, panics, restarts and cancellations the worker
group counts the probers that are registered, no backend is probed twice at a
time, and once a `Stop` has waited no prober of the runtime runs again. -/
theorem prober_accounting {ok : World → Action → Prop} {pc : StartPC} {w₀ : World}
    (init : Fresh pc w₀) (begun : pc = .load ∨ pc = .serving)
    (one : ∀ r b, total (Thread.probes r b) w₀.threads ≤ place r b w₀.shared)
    (run : Run env ok w₀ w) (later : Run env ok w w') :
    Staffed env w ∧
    ∀ t ∈ w.threads, ∀ r, t.stops = some (r, .done) →
      (w'.shared.heap r).workerWG = 0 ∧
      ∀ p q, .prober p q ∈ w'.threads → p.rt = r → q = .exited := by
  have stopping := (init.stopping begun).run run
  have posted : Posted w₀ := ⟨(init.stopping begun).consistent, one⟩
  refine ⟨.of (posted.run run), ?_⟩
  intro t ht r stops
  have unstaffed := stopping.unstaffed ht stops (stopping.waited t ht r stops)
  have after := unstaffed.run stopping.consistent later
  refine ⟨after.workers, ?_⟩
  intro p q hp hr
  exact (stopping.consistent.run later).exited after.workers hp hr

end
/-- The prober panics in `Check` and is replaced; a reload then retires its
runtime, which waits for the replacement. -/
def panicAndRetirement : List Action :=
  goes 1 1 ++ [.run 1 .tick, .run 1 .panic] ++ goes 1 1 ++ [.run 1 .elapsed] ++ goes 1 3 ++
    [.call (.reload { sampleRuntime with generation := 2 })] ++ goes 3 9 ++ proberExits 2 ++ goes 3 1

theorem prober_accounting_restarted :
    ∃ w, Run sampleEnv (fun _ _ => True) sampleWorld w ∧
      .prober ⟨0, 0, 1000000000⟩ .exited ∈ w.threads ∧
      .reload 1 (.stop 0 .done) ∈ w.threads ∧ Staffed sampleEnv w ∧
      (w.shared.heap 0).workerWG = 0 := by
  obtain ⟨w, r, exited, stopped⟩ := Exec.exists_run_of_execWhile (World.step sampleEnv)
    (fun _ _ => True) sampleWorld panicAndRetirement
    (fun w => .prober ⟨0, 0, 1000000000⟩ .exited ∈ w.threads ∧
      .reload 1 (.stop 0 .done) ∈ w.threads)
    (by decide)
  have accounts := prober_accounting sampleWorld_running.toFresh (.inr rfl)
    sampleWorld_probing.one r .refl
  exact ⟨w, r, exited, stopped, accounts.1, (accounts.2 _ stopped 0 rfl).1⟩

end TorusProxy
