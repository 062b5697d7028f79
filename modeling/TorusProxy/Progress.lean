import TorusProxy.References
import TorusProxy.Workers

/-! Nothing waits for itself. Whoever holds `runtimeMu` can go on; what `Stop`
and the second `Shutdown` wait for is done by others, without the lock. -/
namespace TorusProxy

open Threads

/-! ## What a goroutine can wait for -/

namespace Thread

/-- A request, a reload or a shutdown that has not returned. -/
def unfinished : Thread → Bool
  | .request _ (.returned _) | .reload _ (.accepted _) | .reload _ .rejected
  | .manager (.returned _) | .shutdown (.completed _ _) | .shutdown (.returned _)
  | .start _ | .prober _ _ => false
  | _ => true

/-- Is to ask for the lock next. -/
def wants : Thread → Bool
  | .request _ .rLock | .reload _ .lock | .manager (.serverReload _ _ .lock)
  | .shutdown .lock | .shutdown .relock | .shutdown (.completeLock _ _) => true
  | _ => false

/-- The environment has an answer with which this goroutine moves. -/
def Enabled (env : Env) (sh : Shared) (t : Thread) : Prop := ∃ c x, t.step env sh c = some x

/-- Every reason there is for an unfinished call not to move. -/
inductive Blocked (sh : Shared) (t : Thread) : Prop
  | closed (wants : t.wants = true) (shut : sh.server.runtimeMu.open? = false)
  | announced (hold : t.hold = .announced)
      (busy : ¬ (sh.server.runtimeMu.pending = true ∧ sh.server.runtimeMu.readers = 0))
  | requests (r : Rid) (stops : t.stops = some (r, .waitRequests))
      (busy : (sh.heap r).requestWG ≠ 0)
  | workers (r : Rid) (stops : t.stops = some (r, .waitWorkers)) (busy : (sh.heap r).workerWG ≠ 0)
  | await (at_ : t = .shutdown .await) (notYet : sh.server.shutdownDone = false)
  | panicked (rt : Rid) (at_ : t = .shutdown (.panicked rt))

/-- Waits for a wait group or for the end of another shutdown. -/
def waits (t : Thread) : Bool :=
  t = .shutdown .await ||
    t.stops.any fun x => x.2 = .waitRequests || x.2 = .waitWorkers

end Thread

section
variable {env : Env} {sh : Shared}

theorem Shared.tryMu_announce (sh : Shared) :
    (∃ sh', sh.tryMu RWMutex.announce = some sh') ∨ sh.server.runtimeMu.open? = false := by
  cases h : sh.server.runtimeMu.open? with
  | true => exact .inl ⟨_, Shared.tryMu_eq_some.mpr ⟨_, dif_pos h, rfl⟩⟩
  | false => exact .inr rfl

theorem Shared.tryMu_rLock (sh : Shared) :
    (∃ sh', sh.tryMu RWMutex.rLock = some sh') ∨ sh.server.runtimeMu.open? = false := by
  cases h : sh.server.runtimeMu.open? with
  | true => exact .inl ⟨_, Shared.tryMu_eq_some.mpr ⟨_, dif_pos h, rfl⟩⟩
  | false => exact .inr rfl

theorem Shared.tryMu_lock (sh : Shared) :
    (∃ sh', sh.tryMu RWMutex.lock = some sh') ∨
      ¬ (sh.server.runtimeMu.pending = true ∧ sh.server.runtimeMu.readers = 0) := by
  by_cases h : sh.server.runtimeMu.pending = true ∧ sh.server.runtimeMu.readers = 0
  · exact .inl ⟨_, Shared.tryMu_eq_some.mpr ⟨_, dif_pos h, rfl⟩⟩
  · exact .inr h

theorem stop_moves (sh : Shared) (r : Rid) {p : StopPC} (going : p ≠ .done) :
    (∃ x, stop sh r p = some x) ∨ p = .waitRequests ∧ (sh.heap r).requestWG ≠ 0 ∨
      p = .waitWorkers ∧ (sh.heap r).workerWG ≠ 0 := by
  cases p with
  | cancel => exact .inl ⟨_, rfl⟩
  | waitRequests =>
    by_cases zero : (sh.heap r).requestWG = 0
    · exact .inl ⟨_, if_pos zero⟩
    · exact .inr (.inl ⟨rfl, zero⟩)
  | waitWorkers =>
    by_cases zero : (sh.heap r).workerWG = 0
    · exact .inl ⟨_, if_pos zero⟩
    · exact .inr (.inr ⟨rfl, zero⟩)
  | done => exact absurd rfl going

theorem reload_stop (new : Rid) (sh : Shared) (old : Rid) {p : StopPC} (going : p ≠ .done) :
    reload new sh (.stop old p) = (stop sh old p).map fun (sh', p') => (sh', .stop old p') := by
  cases p with
  | done => exact absurd rfl going
  | cancel | waitRequests | waitWorkers => rfl

theorem shutdown_stop (sh : Shared) (c : Choice) (rt : Rid) {p : StopPC} (going : p ≠ .done) :
    shutdown sh c (.stop rt p) = (stop sh rt p).map fun (sh', p') => (sh', .stop rt p') := by
  cases p with
  | done => exact absurd rfl going
  | cancel | waitRequests | waitWorkers => rfl

theorem managerReload_stop (env : Env) (sh : Shared) (cfg : Config) (rt : Rid) {p : StopPC}
    (going : p ≠ .done) :
    managerReload env sh (.stop cfg rt p) =
      (stop sh rt p).map fun (sh', p') => (sh', .stop cfg rt p', none) := by
  cases p with
  | done => exact absurd rfl going
  | cancel | waitRequests | waitWorkers => rfl

theorem managerReload_reload (env : Env) (sh : Shared) (cfg : Config) (rt : Rid) {pc : ReloadPC}
    (going : (Thread.reload rt pc).unfinished = true) :
    managerReload env sh (.serverReload cfg rt pc) =
      (reload rt sh pc).map fun (sh', pc') => (sh', .serverReload cfg rt pc', none) := by
  cases pc with
  | accepted | rejected => cases going
  | _ => rfl

theorem reload_moves (new : Rid) (sh : Shared) {pc : ReloadPC}
    (going : (Thread.reload new pc).unfinished = true) :
    (∃ x, reload new sh pc = some x) ∨ Thread.Blocked sh (.reload new pc) := by
  cases pc with
  | lock =>
    rcases sh.tryMu_announce with ⟨sh', h⟩ | shut
    · exact .inl ⟨_, Option.map_eq_some_iff.mpr ⟨sh', h, rfl⟩⟩
    · exact .inr (.closed rfl shut)
  | locking =>
    rcases sh.tryMu_lock with ⟨sh', h⟩ | busy
    · exact .inl ⟨_, Option.map_eq_some_iff.mpr ⟨sh', h, rfl⟩⟩
    · exact .inr (.announced rfl busy)
  | stop old p =>
    by_cases done : p = .done
    · subst done
      exact .inl ⟨_, rfl⟩
    · rcases stop_moves sh old done with ⟨⟨sh', p'⟩, h⟩ | ⟨rfl, busy⟩ | ⟨rfl, busy⟩
      · exact .inl ⟨(sh', .stop old p'), by rw [reload_stop new sh old done, h]; rfl⟩
      · exact .inr (.requests old rfl busy)
      · exact .inr (.workers old rfl busy)
  | accepted | rejected => cases going
  | check | reject | swap | unlock | setGeneration | recordReload => exact .inl ⟨_, rfl⟩

theorem shutdown_moves (sh : Shared) {pc : ShutdownPC}
    (going : (Thread.shutdown pc).unfinished = true) :
    (∃ c x, shutdown sh c pc = some x) ∨ Thread.Blocked sh (.shutdown pc) := by
  cases pc with
  | lock | relock | completeLock =>
    rcases sh.tryMu_announce with ⟨sh', h⟩ | shut
    · exact .inl ⟨.go, _, Option.map_eq_some_iff.mpr ⟨sh', h, rfl⟩⟩
    · exact .inr (.closed rfl shut)
  | locking | relocking | completeLocking =>
    rcases sh.tryMu_lock with ⟨sh', h⟩ | busy
    · exact .inl ⟨.go, _, Option.map_eq_some_iff.mpr ⟨sh', h, rfl⟩⟩
    · exact .inr (.announced rfl busy)
  | switch =>
    refine .inl ⟨.go, ?_⟩
    simp only [shutdown]
    split <;> exact ⟨_, rfl⟩
  | await =>
    cases done : sh.server.shutdownDone with
    | true => exact .inl ⟨.go, _, if_pos done⟩
    | false => exact .inr (.await rfl done)
  | gracefulWait rt | forcedWait rt => exact .inl ⟨.fail "context deadline exceeded", _, rfl⟩
  | stop rt p =>
    by_cases done : p = .done
    · subst done
      exact .inl ⟨.go, _, rfl⟩
    · rcases stop_moves sh rt done with ⟨⟨sh', p'⟩, h⟩ | ⟨rfl, busy⟩ | ⟨rfl, busy⟩
      · exact .inl ⟨.go, (sh', .stop rt p'), by rw [shutdown_stop sh .go rt done, h]; rfl⟩
      · exact .inr (.requests rt rfl busy)
      · exact .inr (.workers rt rfl busy)
  | completeState rt err => cases err <;> exact .inl ⟨.go, _, rfl⟩
  | completeClose rt err =>
    refine .inl ⟨.go, ?_⟩
    simp only [shutdown]
    split <;> exact ⟨_, rfl⟩
  | completed | returned => cases going
  | panicked rt => exact .inr (.panicked rt rfl)
  | readStopped | unlockStopped | unlockWait | reread | unlockReread | storeState | storeReady
  | capture | unlock | checkSrv | graceful | forceCancel | forced | completeErr | completeUnlock =>
    exact .inl ⟨.go, _, rfl⟩

/-- A managed call waits where its `Server.Reload` does. -/
theorem Thread.Blocked.managed {new : Rid} {pc : ReloadPC} (cfg : Config)
    (h : Thread.Blocked sh (.reload new pc)) : Thread.Blocked sh (.manager (.serverReload cfg new pc)) := by
  cases h with
  | closed wants shut => exact .closed (by cases pc <;> first | rfl | cases wants) shut
  | announced hold busy => exact .announced hold busy
  | requests r stops busy => exact .requests r (by cases pc <;> exact stops) busy
  | workers r stops busy => exact .workers r (by cases pc <;> exact stops) busy
  | await at_ | panicked rt at_ => cases at_

theorem managerReload_moves (env : Env) (sh : Shared) {pc : ManagerPC}
    (going : (Thread.manager pc).unfinished = true) :
    (∃ x, managerReload env sh pc = some x) ∨ Thread.Blocked sh (.manager pc) := by
  cases pc with
  | load =>
    left
    simp only [managerReload]
    split <;> exact ⟨_, rfl⟩
  | tls cfg =>
    left
    simp only [managerReload]
    split <;> exact ⟨_, rfl⟩
  | build cfg rt todo vars =>
    left
    cases todo with
    | nil => exact ⟨_, rfl⟩
    | cons item todo =>
      cases item with
      | upstream service url =>
        simp only [managerReload]
        split <;> exact ⟨_, rfl⟩
      | service | route => exact ⟨_, rfl⟩
  | serverReload cfg rt pc =>
    by_cases going' : (Thread.reload rt pc).unfinished = true
    · rcases reload_moves rt sh going' with ⟨⟨sh', pc'⟩, h⟩ | blocked
      · refine .inl ⟨(sh', .serverReload cfg rt pc', none), ?_⟩
        rw [managerReload_reload env sh cfg rt going', h]
        rfl
      · exact .inr (blocked.managed cfg)
    · cases pc <;> first | exact .inl ⟨_, rfl⟩ | exact absurd rfl going'
  | stop cfg rt p =>
    by_cases done : p = .done
    · subst done
      exact .inl ⟨_, rfl⟩
    · rcases stop_moves sh rt done with ⟨⟨sh', p'⟩, h⟩ | ⟨rfl, busy⟩ | ⟨rfl, busy⟩
      · refine .inl ⟨(sh', .stop cfg rt p', none), ?_⟩
        rw [managerReload_stop env sh cfg rt done, h]
        rfl
      · exact .inr (.requests rt rfl busy)
      · exact .inr (.workers rt rfl busy)
  | returned => cases going
  | begin | generation | startProber | recordFailure => exact .inl ⟨_, rfl⟩

theorem httpHandler_moves {req : Request} {pc : HandlerPC} (leads : pc.Leads sh)
    (sound : ∀ r, pc.holds = some r → (sh.heap r).Sound)
    (going : (Thread.request req pc).unfinished = true) :
    (∃ c x, httpHandler req sh c pc = some x) ∨ Thread.Blocked sh (.request req pc) := by
  cases pc with
  | rLock =>
    rcases sh.tryMu_rLock with ⟨sh', h⟩ | shut
    · exact .inl ⟨.go, _, Option.map_eq_some_iff.mpr ⟨sh', h, rfl⟩⟩
    · exact .inr (.closed rfl shut)
  | track | untrack | record =>
    refine .inl ⟨.go, ?_⟩
    simp only [httpHandler]
    split <;> exact ⟨_, rfl⟩
  | route rt =>
    refine .inl ⟨.go, ?_⟩
    simp only [httpHandler]
    split <;> exact ⟨_, rfl⟩
  | next rt key svc i =>
    refine .inl ⟨.go, ?_⟩
    have lt : svc < (sh.heap rt).services.length := leads
    simp only [httpHandler, List.getElem?_eq_getElem lt]
    split
    · rename_i more
      have drawn : ((sh.heap rt).services[svc].index + 1) % 2 ^ 64 %
          (sh.heap rt).services[svc].backends.length <
            (sh.heap rt).services[svc].backends.length := Nat.mod_lt _ (by omega)
      simp only [List.getElem?_eq_getElem drawn]
      exact ⟨_, rfl⟩
    · exact ⟨_, rfl⟩
  | isHealthy rt key svc i b =>
    refine .inl ⟨.go, ?_⟩
    simp only [httpHandler, List.getElem?_eq_getElem leads.2]
    exact ⟨_, rfl⟩
  | forward => exact .inl ⟨.status 200, _, rfl⟩
  | returned => cases going
  | load | acquire | rUnlock | notFound | unavailable | release | exit => exact .inl ⟨.go, _, rfl⟩

/-- Where every pointer leads somewhere, an unfinished call moves or waits. -/
theorem Wired.moves {w : World} (h : Wired w) {t : Thread} (ht : t ∈ w.threads)
    (going : t.unfinished = true) : t.Enabled env w.shared ∨ t.Blocked w.shared := by
  cases t with
  | request req pc =>
    have sound : ∀ r, pc.holds = some r → (w.shared.heap r).Sound := fun r holds =>
      h.installed r (h.held req pc r ht (HandlerPC.acquired_of_holds holds))
    rcases httpHandler_moves (h.leads req pc ht) sound going with ⟨c, x, hs⟩ | blocked
    · exact .inl ⟨c, _, Option.map_eq_some_iff.mpr ⟨x, hs, rfl⟩⟩
    · exact .inr blocked
  | reload new pc =>
    rcases reload_moves new w.shared going with ⟨x, hs⟩ | blocked
    · exact .inl ⟨.go, _, Option.map_eq_some_iff.mpr ⟨x, hs, rfl⟩⟩
    · exact .inr blocked
  | manager pc =>
    rcases managerReload_moves env w.shared going with ⟨x, hs⟩ | blocked
    · exact .inl ⟨.go, _, Option.map_eq_some_iff.mpr ⟨x, hs, rfl⟩⟩
    · exact .inr blocked
  | shutdown pc =>
    rcases shutdown_moves w.shared going with ⟨c, x, hs⟩ | blocked
    · exact .inl ⟨c, _, Option.map_eq_some_iff.mpr ⟨x, hs, rfl⟩⟩
    · exact .inr blocked
  | start | prober => cases going

end

/-! ## Probers leave a cancelled runtime -/

/-- How far a prober of a cancelled runtime is from its exit, on the way that
every answer of the environment but a panic leaves open. -/
def ProberPC.distance : ProberPC → Nat
  | .exited => 0
  | .doneWorker => 1
  | .select | .backoff | .restart => 2
  | .log | .recovered => 3
  | .setGauge _ | .newTicker => 4
  | .setHealthy _ => 5
  | .check | .register => 6

def Thread.distance (r : Rid) : Thread → Nat
  | .prober p pc => if p.rt = r then pc.distance else 0
  | _ => 0

/-- A prober of a cancelled runtime takes a step. -/
def Exits (w : World) : Action → Prop
  | .run i _ => ∃ p pc, w.threads[i]? = some (.prober p pc) ∧
    (w.shared.heap p.rt).cancelled = true
  | _ => False

section
variable {env : Env}

theorem prober_exits {p : Prober} {sh : Shared} {pc : ProberPC} (live : pc ≠ .exited)
    (cancelled : (sh.heap p.rt).cancelled = true)
    (placed : ∀ v, pc = .setGauge v → p.backend < (sh.heap p.rt).backends.length) :
    ∃ c sh' pc' new, prober p sh c pc = some (sh', pc', new) ∧
      pc'.distance + (if new then ProberPC.newTicker.distance else 0) < pc.distance := by
  cases pc with
  | newTicker =>
    refine ⟨.go, _, _, _, rfl, ?_⟩
    split <;> decide
  | select | backoff => exact ⟨.ctxDone, _, _, _, if_pos cancelled, by decide⟩
  | check => exact ⟨.interrupted, _, _, _, if_pos cancelled, by simp [ProberPC.distance]⟩
  | setHealthy v => exact ⟨.go, _, _, _, rfl, by simp [ProberPC.distance]⟩
  | setGauge v =>
    have there := List.getElem?_eq_getElem (placed v rfl)
    refine ⟨.go, ?_⟩
    simp only [prober, there]
    exact ⟨_, .log, false, rfl, by simp [ProberPC.distance]⟩
  | restart =>
    refine ⟨.go, _, _, _, rfl, ?_⟩
    rw [if_pos cancelled]
    decide
  | log | recovered | register | doneWorker => exact ⟨.go, _, _, _, rfl, by decide⟩
  | exited => exact absurd rfl live

/-- One step towards the exit of a prober that is still registered. -/
theorem Posted.exit_step {w : World} (h : Posted w) {r : Rid}
    (cancelled : (w.shared.heap r).cancelled = true) (busy : (w.shared.heap r).workerWG ≠ 0) :
    ∃ i c w', Exits w (.run i c) ∧ World.step env w (.run i c) = some w' ∧
      total (Thread.distance r) w'.threads < total (Thread.distance r) w.threads ∧
      ∀ (j : Nat) (t : Thread), (∀ p pc, t ≠ .prober p pc) → w.threads[j]? = some t →
        w'.threads[j]? = some t := by
  rw [h.consistent.workers r] at busy
  obtain ⟨t, ht, pos⟩ := exists_of_total_pos (Nat.pos_of_ne_zero busy)
  have works := names_pos pos
  cases t with
  | prober p pc =>
    obtain ⟨live, rfl⟩ : pc ≠ .exited ∧ p.rt = r := by
      simp only [Thread.works] at works
      split at works
      · cases works
      · exact ⟨by assumption, Option.some.inj works⟩
    obtain ⟨c, sh', pc', new, moves, closer⟩ := prober_exits live cancelled (by
      rintro v rfl
      exact (h.placed ht (by simp [Thread.probes, ProberPC.active])).2)
    obtain ⟨i, hi⟩ := List.mem_iff_getElem?.mp ht
    have fires : Thread.step env w.shared (.prober p pc) c =
        some (sh', .prober p pc', if new then [.prober p .newTicker] else []) :=
      Option.map_eq_some_iff.mpr ⟨_, moves, rfl⟩
    refine ⟨i, c, ⟨sh', w.threads.set i (.prober p pc') ++
      if new then [.prober p .newTicker] else []⟩, ⟨p, pc, hi, cancelled⟩, ?_, ?_, ?_⟩
    · simp only [World.step, Machine.next, hi, fires]
    · have moved := total_set (Thread.distance p.rt) (.prober p pc') hi
      have started : total (Thread.distance p.rt) (if new then [.prober p .newTicker] else []) =
          if new then ProberPC.newTicker.distance else 0 := by
        split <;> simp [Thread.distance]
      simp only [total_append, started]
      simp only [Thread.distance, if_true] at moved
      omega
    · intro j u other hj
      have ne : i ≠ j := by
        rintro rfl
        exact other p pc (Option.some.inj (hj.symm.trans hi))
      exact getElem?_unmoved _ ne hj
  | request | reload | manager | shutdown | start => cases works

/-- The probers of a cancelled runtime can all exit by themselves. -/
theorem Posted.workers_exit (env : Env) {w : World} (h : Posted w) {r : Rid} (lt : r < w.shared.allocated)
    (cancelled : (w.shared.heap r).cancelled = true) :
    ∃ w', Run env Exits w w' ∧ (w'.shared.heap r).workerWG = 0 ∧
      ∀ (j : Nat) (t : Thread), (∀ p pc, t ≠ .prober p pc) → w.threads[j]? = some t →
        w'.threads[j]? = some t := by
  induction hn : total (Thread.distance r) w.threads using Nat.strong_induction_on generalizing w with
  | _ n ih =>
    by_cases zero : (w.shared.heap r).workerWG = 0
    · exact ⟨w, .refl, zero, fun _ _ _ hj => hj⟩
    · obtain ⟨i, c, v, exits, hs, closer, kept⟩ := h.exit_step cancelled zero
      have m := Machine.next_moved hs
      obtain ⟨w', rest, zero', kept'⟩ := ih _ (hn ▸ closer) (h.step hs)
        (Nat.lt_of_lt_of_le lt (History.allocated_mono m))
        (Consistent.cancelled_stays m lt cancelled) rfl
      refine ⟨w', .head ⟨_, exits, hs⟩ rest, zero', ?_⟩
      intro j t other hj
      exact kept' j t other (kept j t other hj)

end

/-! ## Somebody can always move -/

/-- An unfinished call has a step. -/
def CanMove (env : Env) (w : World) : Prop :=
  ∃ (i : Nat) (t : Thread) (c : Choice) (w' : World), w.threads[i]? = some t ∧
    t.unfinished = true ∧ World.step env w (.run i c) = some w'

/-- An unfinished call waits for the probers of a cancelled runtime, and can move
once they have exited, which they do by themselves. -/
def AwaitsProbers (env : Env) (w : World) : Prop :=
  ∃ t ∈ w.threads, ∃ r, t.unfinished = true ∧ t.stops = some (r, .waitWorkers) ∧
    (w.shared.heap r).cancelled = true ∧
    ∃ v, Run env Exits w v ∧ t ∈ v.threads ∧ t.Enabled env v.shared

/-- All that is known of the states of a run. -/
structure Live (w : World) : Prop where
  wired : Wired w
  posted : Posted w
  owned : Owned w
  undisturbed : Undisturbed w

section
variable {env : Env} {w w' : World} {a : Action}

theorem Thread.Enabled.canMove {t : Thread} (h : t.Enabled env w.shared) (ht : t ∈ w.threads)
    (going : t.unfinished = true) : CanMove env w := by
  obtain ⟨c, ⟨sh', t', new⟩, fires⟩ := h
  obtain ⟨i, hi⟩ := List.mem_iff_getElem?.mp ht
  refine ⟨i, t, c, ⟨sh', w.threads.set i t' ++ new⟩, hi, going, ?_⟩
  simp only [World.step, Machine.next, hi, fires]

theorem Thread.stops_hold {t : Thread} {r : Rid} {p : StopPC} (h : t.stops = some (r, p)) :
    t.hold = .none := by
  unfold Thread.stops at h
  split at h <;> first | rfl | cases h

theorem Thread.wants_hold {t : Thread} (h : t.wants = true) : t.hold = .none := by
  unfold Thread.wants at h
  split at h <;> first | rfl | cases h

/-- Nobody waits for a wait group or for a shutdown with the lock in hand. -/
theorem Thread.waits_hold {t : Thread} (h : t.waits = true) : t.hold = .none := by
  simp only [Thread.waits, Bool.or_eq_true, decide_eq_true_eq, Option.any_eq_true] at h
  rcases h with rfl | ⟨⟨r, p⟩, stops, -⟩
  · rfl
  · exact Thread.stops_hold stops

theorem Thread.Blocked.hold {sh : Shared} {t : Thread} (h : t.Blocked sh)
    (unbroken : ∀ rt, t ≠ .shutdown (.panicked rt)) :
    t.hold = .none ∨ t.hold = .announced ∧
      ¬ (sh.server.runtimeMu.pending = true ∧ sh.server.runtimeMu.readers = 0) := by
  cases h with
  | closed wants => exact .inl (Thread.wants_hold wants)
  | announced hold busy => exact .inr ⟨hold, busy⟩
  | requests r stops | workers r stops => exact .inl (Thread.stops_hold stops)
  | await at_ => subst at_; exact .inl rfl
  | panicked rt at_ => exact absurd at_ (unbroken rt)

theorem Thread.stops_stopping {t : Thread} {r : Rid} {p : StopPC} (h : t.stops = some (r, p))
    (going : t.unfinished = true) : t.stopping = some (r, p) := by
  unfold Thread.stops at h
  split at h <;> first | exact h | cases going | cases h

namespace Live

theorem step (h : Live w) (calm : Calm w a) (whole : SoundCalls w a)
    (hs : World.step env w a = some w') : Live w' :=
  ⟨h.wired.step whole hs, h.posted.step hs, h.owned.step hs, h.undisturbed.step calm hs⟩

/-- Whoever has a part in the lock is an unfinished call. -/
theorem unfinished_of_hold (h : Live w) {t : Thread} (ht : t ∈ w.threads)
    (hold : t.hold ≠ .none) : t.unfinished = true := by
  cases t with
  | request req pc => cases pc <;> first | rfl | exact absurd rfl hold
  | reload new pc => cases pc <;> first | rfl | exact absurd rfl hold
  | manager pc => cases pc <;> first | rfl | exact absurd rfl hold
  | shutdown pc => cases pc <;> first | rfl | exact absurd rfl hold
  | start pc => rcases h.undisturbed _ ht pc rfl with rfl | rfl <;> exact absurd rfl hold
  | prober p pc => exact absurd rfl hold

/-- While somebody has a part in the lock, its holder can move. -/
theorem canMove_of_shut (h : Live w) (shut : w.shared.server.runtimeMu.open? = false) :
    CanMove env w := by
  have c := h.wired.consistent
  have moves {t : Thread} (ht : t ∈ w.threads) (hold : t.hold ≠ .none)
      (free : t.hold = .announced →
        w.shared.server.runtimeMu.pending = true ∧ w.shared.server.runtimeMu.readers = 0) :
      CanMove env w := by
    have going := h.unfinished_of_hold ht hold
    rcases (h.wired.moves ht going : t.Enabled env w.shared ∨ _) with enabled | blocked
    · exact enabled.canMove ht going
    · rcases blocked.hold (h.owned.unbroken t ht) with none | ⟨announced, busy⟩
      · exact absurd none hold
      · exact absurd (free announced) busy
  cases hw : w.shared.server.runtimeMu.writer with
  | true =>
    have writing : 0 < total (·.hold.writes) w.threads := by
      rw [← c.writer, hw]
      exact Nat.one_pos
    obtain ⟨t, ht, pos⟩ := exists_of_total_pos writing
    cases hold : t.hold with
    | writer => exact moves ht (by simp [hold]) (by simp [hold])
    | none | reader | announced => simp [hold, RWMutex.Hold.writes] at pos
  | false =>
    have pending : w.shared.server.runtimeMu.pending = true := by
      simpa [RWMutex.open?, hw] using shut
    by_cases empty : w.shared.server.runtimeMu.readers = 0
    · have announced : 0 < total (·.hold.announces) w.threads := by
        rw [← c.announced, pending]
        exact Nat.one_pos
      obtain ⟨t, ht, pos⟩ := exists_of_total_pos announced
      cases hold : t.hold with
      | announced => exact moves ht (by simp [hold]) (fun _ => ⟨pending, empty⟩)
      | none | reader | writer => simp [hold, RWMutex.Hold.announces] at pos
    · rw [c.readers] at empty
      obtain ⟨t, ht, pos⟩ := exists_of_total_pos (Nat.pos_of_ne_zero empty)
      cases hold : t.hold with
      | reader => exact moves ht (by simp [hold]) (by simp [hold])
      | none | announced | writer => simp [hold, RWMutex.Hold.reads] at pos

/-- With the lock free, only the wait groups and `shutdownDone` are left. -/
theorem blocked_of_open (h : Live w) (free : w.shared.server.runtimeMu.open? = true) {t : Thread}
    (ht : t ∈ w.threads) (blocked : t.Blocked w.shared) :
    (∃ r, t.stops = some (r, .waitRequests) ∧ (w.shared.heap r).requestWG ≠ 0) ∨
    (∃ r, t.stops = some (r, .waitWorkers) ∧ (w.shared.heap r).workerWG ≠ 0) ∨
    t = .shutdown .await ∧ w.shared.server.shutdownDone = false := by
  cases blocked with
  | closed wants shut =>
    rw [free] at shut
    cases shut
  | announced hold busy =>
    have one := le_total (·.hold.announces) ht
    rw [← h.wired.consistent.announced, (RWMutex.open_iff.mp free).1] at one
    simp [hold, RWMutex.Hold.announces] at one
  | requests r stops busy => exact .inl ⟨r, stops, busy⟩
  | workers r stops busy => exact .inr (.inl ⟨r, stops, busy⟩)
  | await at_ notYet => exact .inr (.inr ⟨at_, notYet⟩)
  | panicked rt at_ => exact absurd at_ (h.owned.unbroken t ht rt)

/-- What a `Stop` waits for in its runtime can move. -/
theorem canMove_of_requests (h : Live w) (free : w.shared.server.runtimeMu.open? = true) {r : Rid}
    (busy : (w.shared.heap r).requestWG ≠ 0) : CanMove env w := by
  rw [h.wired.consistent.requests r] at busy
  obtain ⟨t, ht, pos⟩ := exists_of_total_pos (Nat.pos_of_ne_zero busy)
  have holds := names_pos pos
  cases t with
  | request req pc =>
    have going : (Thread.request req pc).unfinished = true := by
      cases pc <;> first | rfl | cases holds
    rcases (h.wired.moves ht going : Thread.Enabled env w.shared (.request req pc) ∨ _) with
      enabled | blocked
    · exact enabled.canMove ht going
    · rcases h.blocked_of_open free ht blocked with ⟨r, stops, -⟩ | ⟨r, stops, -⟩ | ⟨at_, -⟩
      · cases stops
      · cases stops
      · cases at_
  | reload | manager | shutdown | start | prober => cases holds

theorem awaitsProbers (h : Live w) {t : Thread} (ht : t ∈ w.threads)
    (going : t.unfinished = true) {r : Rid} (stops : t.stops = some (r, .waitWorkers)) :
    AwaitsProbers env w := by
  have stopping := Thread.stops_stopping stops going
  have lt := (h.owned.serving.retiring_of_stopping ht stopping).allocated
  have cancelled := (h.owned.serving.stops t ht r _ stopping).1
  obtain ⟨v, exits, zero, kept⟩ := h.posted.workers_exit env lt cancelled
  have wired : Wired v := h.wired.run (by
    rintro u b exit
    cases b with
    | run | env => trivial
    | call => exact exit.elim) exits
  obtain ⟨j, hj⟩ := List.mem_iff_getElem?.mp ht
  have there := List.mem_of_getElem? (kept j t (by rintro p pc rfl; cases going) hj)
  refine ⟨t, ht, r, going, stops, cancelled, v, exits, there, ?_⟩
  rcases (wired.moves there going : t.Enabled env v.shared ∨ _) with enabled | blocked
  · exact enabled
  · exfalso
    cases blocked with
    | closed wants =>
      unfold Thread.wants at wants
      split at wants <;> first | cases stops | cases wants
    | announced hold =>
      rw [Thread.stops_hold stops] at hold
      cases hold
    | requests q stops' =>
      rw [stops] at stops'
      cases stops'
    | workers q stops' busy =>
      rw [stops] at stops'
      cases stops'
      exact busy zero
    | await at_ | panicked rt at_ =>
      subst at_
      cases stops

theorem canMove_of_open (h : Live w) (free : w.shared.server.runtimeMu.open? = true) {t : Thread}
    (ht : t ∈ w.threads) (going : t.unfinished = true) (other : t ≠ .shutdown .await) :
    CanMove env w ∨ AwaitsProbers env w := by
  rcases (h.wired.moves ht going : t.Enabled env w.shared ∨ _) with enabled | blocked
  · exact .inl (enabled.canMove ht going)
  · rcases h.blocked_of_open free ht blocked with ⟨r, -, busy⟩ | ⟨r, stops, -⟩ | ⟨at_, -⟩
    · exact .inl (h.canMove_of_requests free busy)
    · exact .inr (h.awaitsProbers ht going stops)
    · exact absurd at_ other

/-- Who waits for `shutdownDone` waits for an owner that has not returned. -/
theorem exists_owner (h : Live w) (ht : .shutdown .await ∈ w.threads)
    (notYet : w.shared.server.shutdownDone = false) :
    ∃ t ∈ w.threads, t.unfinished = true ∧ t ≠ .shutdown .await := by
  obtain ⟨t, hm, closed⟩ := h.owned.serving.exists_closed (h.owned.ended _ ht rfl)
  have none : t.closes = 0 := by
    have done := h.owned.done
    rw [notYet] at done
    exact total_eq_zero.mp done.symm t hm
  refine ⟨t, hm, ?_, ?_⟩
  · cases t with
    | shutdown pc =>
      cases pc with
      | completed => cases none
      | returned => cases closed
      | _ => rfl
    | start pc => rcases h.undisturbed _ hm pc rfl with rfl | rfl <;> cases closed
    | request | reload | manager | prober => cases closed
  · rintro rfl
    cases closed

theorem canMove (h : Live w) {t : Thread} (ht : t ∈ w.threads) (going : t.unfinished = true) :
    CanMove env w ∨ AwaitsProbers env w := by
  cases free : w.shared.server.runtimeMu.open? with
  | false => exact .inl (h.canMove_of_shut free)
  | true =>
    by_cases await : t = .shutdown .await
    · subst await
      rcases (h.wired.moves ht going : Thread.Enabled env w.shared (.shutdown .await) ∨ _) with
        enabled | blocked
      · exact .inl (enabled.canMove ht going)
      · rcases h.blocked_of_open free ht blocked with ⟨r, stops, -⟩ | ⟨r, stops, -⟩ | ⟨-, notYet⟩
        · cases stops
        · cases stops
        · obtain ⟨u, hu, going', other⟩ := h.exists_owner ht notYet
          exact h.canMove_of_open free hu going' other
    · exact h.canMove_of_open free ht going await

end Live

/-- From a running server, in every order of requests, reloads and shutdowns:
as long as a call has not returned, one that has not returned can move, or
waits for probers that are exiting; and nobody waits with the lock in hand. -/
theorem no_deadlock {w₀ : World} (init : Running w₀) (sound : (w₀.shared.heap 0).Sound)
    (one : ∀ r b, total (Thread.probes r b) w₀.threads ≤ place r b w₀.shared)
    (r : Run env (fun v b => Calm v b ∧ SoundCalls v b) w₀ w) :
    (∀ t ∈ w.threads, t.unfinished = true → CanMove env w ∨ AwaitsProbers env w) ∧
    ∀ t ∈ w.threads, t.waits = true → t.hold = .none := by
  have begins : Live w₀ :=
    ⟨init.toFresh.wired rfl sound, ⟨init.consistent, one⟩, init.owned, init.undisturbed⟩
  have live : Live w := r.invariant Live begins fun _ _ _ _ inv ok hs => inv.step ok.1 ok.2 hs
  refine ⟨?_, ?_⟩
  · intro t ht going
    exact live.canMove ht going
  · intro t _ waits
    exact Thread.waits_hold waits

end

theorem sampleRuntime_sound : sampleRuntime.Sound := by
  refine ⟨?_, by decide⟩
  intro key svc mem
  have routes : sampleRuntime.router.routes = [(bytes "/api", some 0)] := by decide
  rw [routes] at mem
  cases List.mem_singleton.mp mem
  decide

/-- A reload waits for a request, a shutdown for its handler to return, and
another shutdown for the first. -/
def everyoneWaits : List Action :=
  [.call (.request ⟨"GET", bytes "/api"⟩)] ++ goes 2 8 ++ [.call .manager] ++ goes 3 17 ++
    [.call .shutdown] ++ goes 5 9 ++ [.call .shutdown] ++ goes 6 4

theorem no_deadlock_waiting :
    ∃ w, Run sampleEnv (fun v b => Calm v b ∧ SoundCalls v b) sampleWorld w ∧
      .manager (.serverReload sampleConfig 1 (.stop 0 .waitRequests)) ∈ w.threads ∧
      .shutdown (.gracefulWait 1) ∈ w.threads ∧ .shutdown .await ∈ w.threads ∧
      (CanMove sampleEnv w ∨ AwaitsProbers sampleEnv w) := by
  obtain ⟨w, r, reload, owner, caller⟩ := Exec.exists_run_of_execWhile (World.step sampleEnv)
    (fun v b => Calm v b ∧ Managed v b) sampleWorld everyoneWaits
    (fun w => .manager (.serverReload sampleConfig 1 (.stop 0 .waitRequests)) ∈ w.threads ∧
      .shutdown (.gracefulWait 1) ∈ w.threads ∧ .shutdown .await ∈ w.threads)
    (by decide +kernel)
  have whole : ∀ v b, Calm v b ∧ Managed v b → Calm v b ∧ SoundCalls v b := by
    rintro v b ⟨calm, managed⟩
    refine ⟨calm, ?_⟩
    cases b with
    | call x =>
      cases x with
      | reload rt => exact absurd rfl (managed rt)
      | request | manager | shutdown => trivial
    | run | env => trivial
  have run := Exec.Run.mono r whole
  have sound : (sampleWorld.shared.heap 0).Sound := sampleRuntime_sound.of_blueprint rfl
  have free := (no_deadlock sampleWorld_running sound sampleWorld_probing.one run).1 _ caller rfl
  exact ⟨w, run, reload, owner, caller, free⟩

end TorusProxy
