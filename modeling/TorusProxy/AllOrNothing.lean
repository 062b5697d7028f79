import TorusProxy.Blueprint
import TorusProxy.Roles
import TorusProxy.Lifecycle

/-! One call of `Manager.Reload`, with requests, probes and file changes around
it: it installs what it built and retires what it displaced, or it leaves the
server as it was. -/
namespace TorusProxy

open Threads

/-! ## Generations -/

/-- The counter counts the allocations, and every runtime has the count of its
own. -/
structure Numbered (w : World) : Prop where
  next : w.shared.nextGeneration = w.shared.allocated % 2 ^ 64
  generation : ∀ r, r < w.shared.allocated → (w.shared.heap r).generation = (r + 1) % 2 ^ 64

/-- The generation of every runtime, and the counter, are untouched. -/
structure Shared.Counted (sh sh' : Shared) : Prop where
  next : sh'.nextGeneration = sh.nextGeneration
  allocated : sh'.allocated = sh.allocated
  generation : ∀ r, (sh'.heap r).generation = (sh.heap r).generation

section
variable {env : Env} {sh sh' : Shared} {t t' : Thread} {new : List Thread}

theorem Shared.Still.counted (h : Shared.Still sh sh') : Shared.Counted sh sh' := by
  refine ⟨h.nextGeneration, h.allocated, fun r => ?_⟩
  have same := congrArg Runtime.generation (h.heap r)
  exact same

theorem Shared.tryMu_counted {op : RWMutex → Option RWMutex} (h : sh.tryMu op = some sh') :
    Shared.Counted sh sh' := by
  obtain ⟨m, -, rfl⟩ := Shared.tryMu_eq_some.mp h
  exact ⟨rfl, rfl, fun _ => rfl⟩

theorem Shared.setRuntime_counted {r : Rid} {f : Runtime → Runtime}
    (keep : (f (sh.heap r)).generation = (sh.heap r).generation) :
    Shared.Counted sh (sh.setRuntime r f) :=
  ⟨rfl, rfl, fun _ => Shared.setRuntime_same _ Runtime.generation keep⟩

theorem StopMove.counted {r : Rid} {p p' : StopPC} (h : StopMove sh r p sh' p') :
    Shared.Counted sh sh' := by
  cases h with
  | cancel => exact Shared.setRuntime_counted rfl
  | waitRequests | waitWorkers => exact ⟨rfl, rfl, fun _ => rfl⟩

theorem ReloadMove.counted {rt : Rid} {pc pc' : ReloadPC} (h : ReloadMove rt sh pc sh' pc') :
    Shared.Counted sh sh' := by
  cases h with
  | lock hm | locking hm => exact Shared.tryMu_counted hm
  | stop old move => exact move.counted
  | _ => exact ⟨rfl, rfl, fun _ => rfl⟩

theorem HandlerMove.counted {pc pc' : HandlerPC} (h : HandlerMove sh pc sh' pc') :
    Shared.Counted sh sh' := by
  cases h with
  | rLock hm => exact Shared.tryMu_counted hm
  | acquire | release => exact Shared.setRuntime_counted rfl
  | inner _ _ _ _ _ still => exact still.counted
  | _ => exact ⟨rfl, rfl, fun _ => rfl⟩

theorem ProberMove.counted {p : Prober} {pc pc' : ProberPC} {new : Bool}
    (h : ProberMove p sh pc sh' pc' new) : Shared.Counted sh sh' := by
  cases h with
  | inner _ _ still => exact still.counted
  | restart | exit => exact Shared.setRuntime_counted rfl

theorem ManagerMove.counted {pc pc' : ManagerPC} {q : Option Prober}
    (h : ManagerMove env sh pc sh' pc' q) :
    Shared.Counted sh sh' ∨ ∃ cfg tls, sh' = TorusProxy.allocate cfg tls sh := by
  cases h with
  | allocate cfg tls => exact .inr ⟨cfg, tls, rfl⟩
  | backend => exact .inl ⟨rfl, rfl, fun _ => Shared.setRuntime_same _ Runtime.generation rfl⟩
  | backendFailed | service | route | startProber => exact .inl (Shared.setRuntime_counted rfl)
  | reload cfg rt move => exact .inl move.counted
  | stop cfg rt move => exact .inl move.counted
  | _ => exact .inl ⟨rfl, rfl, fun _ => rfl⟩

/-- A step allocates the next generation or touches none. -/
theorem ThreadMove.counted (h : ThreadMove env sh t sh' t' new) :
    Shared.Counted sh sh' ∨ ∃ cfg tls, sh' = allocate cfg tls sh := by
  cases h with
  | request req move => exact .inl move.counted
  | reload rt move => exact .inl move.counted
  | manager move => exact move.counted
  | prober p move => exact .inl move.counted
  | shutdown move =>
    cases move with
    | announce hm | take hm => exact .inl (Shared.tryMu_counted hm)
    | stop rt move => exact .inl move.counted
    | _ => exact .inl ⟨rfl, rfl, fun _ => rfl⟩
  | start move =>
    cases move with
    | failLock err hm | failLocking err hm => exact .inl (Shared.tryMu_counted hm)
    | listenStop rt err move | failStop rt err move => exact .inl move.counted
    | _ => exact .inl ⟨rfl, rfl, fun _ => rfl⟩

end

section
variable {env : Env} {w w' : World} {a : Action}

theorem Numbered.of_counted (h : Numbered w) (same : Shared.Counted w.shared w'.shared) :
    Numbered w' := by
  refine ⟨by rw [same.next, same.allocated, h.next], fun r lt => ?_⟩
  rw [same.generation]
  exact h.generation r (same.allocated ▸ lt)

theorem Numbered.step (h : Numbered w) (managed : Managed w a)
    (hs : World.step env w a = some w') : Numbered w' := by
  cases Machine.next_moved hs with
  | step at_ fires =>
    rcases (Thread.step_move fires).counted with same | ⟨cfg, tls, rfl⟩
    · exact h.of_counted same
    · have next : (w.shared.nextGeneration + 1) % 2 ^ 64 = (w.shared.allocated + 1) % 2 ^ 64 := by
        rw [h.next, Nat.mod_add_mod]
      refine ⟨next, fun r lt => ?_⟩
      by_cases hr : r = w.shared.allocated
      · subst hr
        simpa [allocate, newRuntime] using next
      · simpa [allocate, hr] using h.generation r ((lt_succ_of_ne hr).mp lt)
  | enter fires =>
    cases enter_move fires with
    | reload rt => exact absurd rfl (managed rt)
    | request | manager | shutdown => exact h.of_counted ⟨rfl, rfl, fun _ => rfl⟩
  | change fires =>
    cases fires
    exact h.of_counted ⟨rfl, rfl, fun _ => rfl⟩

theorem Numbered.run (h : Numbered w) (r : Run env Managed w w') : Numbered w' :=
  r.invariant Numbered h fun _ _ _ _ inv managed hs => inv.step managed hs

/-- Fewer than 2^64 builds: the generations are the places. -/
theorem Numbered.eq (h : Numbered w) (few : w.shared.allocated < 2 ^ 64) {r : Rid}
    (lt : r < w.shared.allocated) : (w.shared.heap r).generation = r + 1 := by
  rw [h.generation r lt, Nat.mod_eq_of_lt]
  exact Nat.lt_of_le_of_lt lt few

end

/-! ## One call -/

/-- Serves a request or probes a backend. -/
def Thread.serves : Thread → Bool
  | .request _ _ | .prober _ _ => true
  | _ => false

/-- The call at place `n` runs; beside it only requests, probes and changes on
disk. -/
def Alone (n : Nat) (w : World) : Action → Prop
  | .run i _ => ∀ t ∈ w.threads[i]?, i = n ∨ t.serves = true
  | .call (.request _) | .env _ => True
  | .call _ => False

/-- What a failed reload must not touch. -/
structure Shared.Kept (sh sh' : Shared) : Prop where
  runtime : sh'.server.runtime = sh.server.runtime
  state : sh'.server.state = sh.server.state
  ready : sh'.server.ready = sh.server.ready
  generation : sh'.metrics.generation = sh.metrics.generation

/-- `rt` has taken the place of `old`. -/
structure Shared.Swapped (rt old : Rid) (sh sh' : Shared) : Prop where
  runtime : sh'.server.runtime = rt
  displaced : old = sh.server.runtime
  state : sh'.server.state = sh.server.state
  ready : sh'.server.ready = sh.server.ready

/-- What a call that began in `before` has done to the server so far. -/
def ManagerPC.Effect (before sh : Shared) : ManagerPC → Prop
  | .serverReload _ rt (.unlock old) | .serverReload _ rt (.setGeneration old) =>
    Shared.Swapped rt old before sh
  | .serverReload _ rt (.recordReload old) | .serverReload _ rt (.stop old _)
  | .serverReload _ rt (.accepted old) | .recordFailure (.accepted _ rt old)
  | .returned (.accepted _ rt old) =>
    Shared.Swapped rt old before sh ∧ sh.metrics.generation = float64 (sh.heap rt).generation
  | _ => Shared.Kept before sh

section
variable {env : Env} {before sh sh' : Shared}

theorem Shared.Kept.refl (sh : Shared) : Shared.Kept sh sh := ⟨rfl, rfl, rfl, rfl⟩

theorem Shared.Kept.trans {sh'' : Shared} (h : Shared.Kept sh sh') (h' : Shared.Kept sh' sh'') :
    Shared.Kept sh sh'' :=
  ⟨h'.runtime.trans h.runtime, h'.state.trans h.state, h'.ready.trans h.ready,
    h'.generation.trans h.generation⟩

theorem Shared.Swapped.trans {rt old : Rid} (h : Shared.Swapped rt old before sh)
    (same : Shared.Kept sh sh') : Shared.Swapped rt old before sh' :=
  ⟨same.runtime.trans h.runtime, h.displaced, same.state.trans h.state, same.ready.trans h.ready⟩

theorem Shared.Still.kept (h : Shared.Still sh sh') : Shared.Kept sh sh' :=
  ⟨by rw [h.server], by rw [h.server], by rw [h.server], h.generation⟩

theorem Shared.tryMu_kept {op : RWMutex → Option RWMutex} (h : sh.tryMu op = some sh') :
    Shared.Kept sh sh' := by
  obtain ⟨m, -, rfl⟩ := Shared.tryMu_eq_some.mp h
  exact ⟨rfl, rfl, rfl, rfl⟩

theorem StopMove.kept {r : Rid} {p p' : StopPC} (h : StopMove sh r p sh' p') :
    Shared.Kept sh sh' := by
  cases h <;> exact ⟨rfl, rfl, rfl, rfl⟩

theorem HandlerMove.kept {pc pc' : HandlerPC} (h : HandlerMove sh pc sh' pc') :
    Shared.Kept sh sh' := by
  cases h with
  | rLock hm => exact Shared.tryMu_kept hm
  | inner _ _ _ _ _ still => exact still.kept
  | _ => exact ⟨rfl, rfl, rfl, rfl⟩

theorem ProberMove.kept {p : Prober} {pc pc' : ProberPC} {new : Bool}
    (h : ProberMove p sh pc sh' pc' new) : Shared.Kept sh sh' := by
  cases h with
  | inner _ _ still => exact still.kept
  | restart | exit => exact ⟨rfl, rfl, rfl, rfl⟩

/-- Steps that touch neither the server nor a generation keep the effect. -/
theorem ManagerPC.Effect.of_kept {pc : ManagerPC} (h : pc.Effect before sh)
    (same : Shared.Kept sh sh') (counted : Shared.Counted sh sh') : pc.Effect before sh' := by
  have both {rt old : Rid} (done : Shared.Swapped rt old before sh ∧
      sh.metrics.generation = float64 (sh.heap rt).generation) :
      Shared.Swapped rt old before sh' ∧
        sh'.metrics.generation = float64 (sh'.heap rt).generation := by
    refine ⟨done.1.trans same, ?_⟩
    rw [same.generation, counted.generation]
    exact done.2
  cases pc with
  | serverReload cfg rt pc =>
    cases pc with
    | unlock old | setGeneration old => exact Shared.Swapped.trans h same
    | recordReload old | stop old p | accepted old => exact both h
    | _ => exact Shared.Kept.trans h same
  | recordFailure out | returned out =>
    cases out with
    | accepted cfg rt old => exact both h
    | _ => exact Shared.Kept.trans h same
  | _ => exact Shared.Kept.trans h same

theorem ReloadMove.effect {cfg : Config} {rt : Rid} {pc pc' : ReloadPC}
    (h : ReloadMove rt sh pc sh' pc') (done : (ManagerPC.serverReload cfg rt pc).Effect before sh) :
    (ManagerPC.serverReload cfg rt pc').Effect before sh' := by
  cases h with
  | lock hm | locking hm => exact Shared.Kept.trans done (Shared.tryMu_kept hm)
  | accept | refuse => exact done
  | reject => exact Shared.Kept.trans done ⟨rfl, rfl, rfl, rfl⟩
  | swap => exact ⟨rfl, done.runtime, done.state, done.ready⟩
  | unlock old => exact Shared.Swapped.trans done ⟨rfl, rfl, rfl, rfl⟩
  | setGeneration old => exact ⟨⟨done.runtime, done.displaced, done.state, done.ready⟩, rfl⟩
  | recordReload old => exact ⟨Shared.Swapped.trans done.1 ⟨rfl, rfl, rfl, rfl⟩, done.2⟩
  | stop old move =>
    refine ⟨Shared.Swapped.trans done.1 move.kept, ?_⟩
    rw [move.kept.generation, move.counted.generation]
    exact done.2
  | stopped old => exact done

theorem ManagerMove.effect {pc pc' : ManagerPC} {q : Option Prober}
    (h : ManagerMove env sh pc sh' pc' q) (done : pc.Effect before sh) :
    pc'.Effect before sh' := by
  cases h with
  | reload cfg rt move => exact move.effect done
  | stop cfg rt move => exact Shared.Kept.trans done move.kept
  | backend =>
    exact Shared.Kept.trans done ⟨rfl, rfl, rfl, setBackendHealth_generation _ _⟩
  | recordFailure out =>
    cases out with
    | accepted cfg rt old => exact ⟨Shared.Swapped.trans done.1 ⟨rfl, rfl, rfl, rfl⟩, done.2⟩
    | _ => exact Shared.Kept.trans done ⟨rfl, rfl, rfl, rfl⟩
  | accepted | refused | stopped | noServer | begin | loadFailed | loaded | tlsFailed | tlsLoaded
  | offer => exact done
  | _ => exact Shared.Kept.trans done ⟨rfl, rfl, rfl, rfl⟩

end

/-- The configuration the call has read. -/
def ManagerPC.config : ManagerPC → Option Config
  | .tls cfg | .generation cfg _ | .build cfg _ _ _ | .startProber cfg _ _ _ _
  | .serverReload cfg _ _ | .stop cfg _ _ | .recordFailure (.accepted cfg _ _)
  | .recordFailure (.rejected cfg _) | .returned (.accepted cfg _ _)
  | .returned (.rejected cfg _) => some cfg
  | _ => none

theorem ManagerMove.config {env : Env} {sh sh' : Shared} {pc pc' : ManagerPC} {q : Option Prober}
    (h : ManagerMove env sh pc sh' pc' q) {cfg : Config} (read : pc'.config = some cfg) :
    pc.config = some cfg ∨ pc = .load ∧ loadConfig env sh.disk.config = .ok cfg := by
  cases h with
  | loaded cfg h => cases read; exact .inr ⟨rfl, h⟩
  | recordFailure out => cases out <;> exact .inl read
  | noServer | begin | loadFailed | tlsFailed | backendFailed => cases read
  | _ => exact .inl read

section
variable {env : Env} {n : Nat} {w v v' : World} {a : Action} {pc : ManagerPC}

/-- An action around the call is its own step or leaves the server alone. -/
theorem Alone.moves (ok : Alone n v a) (m : Moved (machine env) v a v')
    (hn : v.threads[n]? = some (.manager pc)) :
    (∃ pc' q, v'.threads[n]? = some (.manager pc') ∧
      ManagerMove env v.shared pc v'.shared pc' q) ∨
    (v'.threads[n]? = some (.manager pc) ∧ Shared.Kept v.shared v'.shared ∧
      Shared.Counted v.shared v'.shared ∧ ∀ k, a ≠ .run n k) := by
  have lt : n < v.threads.length := (List.getElem?_eq_some_iff.mp hn).1
  cases m with
  | @step i c t sh' t' new at_ fires =>
    have step : ThreadMove env v.shared t sh' t' new := Thread.step_move fires
    have set : n < (v.threads.set i t').length := by simpa using lt
    simp only [List.getElem?_append_left set]
    by_cases hi : i = n
    · subst hi
      rw [hn] at at_
      cases at_
      cases step with
      | manager move => exact .inl ⟨_, _, by simp [lt], move⟩
    · have other : (v.threads.set i t')[n]? = some (.manager pc) := by
        rw [List.getElem?_set_ne hi]
        exact hn
      have elsewhere (k : Choice) : (.run i c : Action) ≠ .run n k := by
        rintro ⟨⟩
        exact hi rfl
      refine .inr ⟨other, ?_⟩
      have serves := (ok _ at_).resolve_left hi
      cases step with
      | request _ move => exact ⟨move.kept, move.counted, elsewhere⟩
      | prober _ move => exact ⟨move.kept, move.counted, elsewhere⟩
      | reload | manager | shutdown | start => cases serves
  | enter fires =>
    cases enter_move fires with
    | request req =>
      refine .inr ⟨?_, ⟨rfl, rfl, rfl, rfl⟩, ⟨rfl, rfl, fun _ => rfl⟩, by rintro k ⟨⟩⟩
      rw [List.getElem?_append_left lt]
      exact hn
    | reload | manager | shutdown => exact absurd ok id
  | change fires =>
    cases fires
    exact .inr ⟨hn, ⟨rfl, rfl, rfl, rfl⟩, ⟨rfl, rfl, fun _ => rfl⟩, by rintro k ⟨⟩⟩

/-- What is known of a call that began in `w`. -/
structure Calling (env : Env) (n : Nat) (w v : World) (pc : ManagerPC) : Prop where
  here : v.threads[n]? = some (.manager pc)
  effect : pc.Effect w.shared v.shared
  stops : ∀ r p, pc.stopping = some (r, p) → StopFacts v.shared r p
  read : ∀ cfg, pc.config = some cfg → ∃ u, Run env (Alone n) w u ∧ Run env (Alone n) u v ∧
    u.threads[n]? = some (.manager .load) ∧ loadConfig env u.shared.disk.config = .ok cfg
  loaded : ∀ cfg tls, pc.carries v.shared = some (cfg, tls) →
    ∃ u, Run env (Alone n) w u ∧ Run env (Alone n) u v ∧
      u.threads[n]? = some (.manager (.tls cfg)) ∧ loadTlsConfig u.shared.disk cfg.tls = .ok tls

theorem Calling.step (h : Calling env n w v pc) (c : Consistent v) (history : History v)
    (r : Run env (Alone n) w v) (ok : Alone n v a) (hs : World.step env v a = some v') :
    ∃ pc', Calling env n w v' pc' := by
  have m := Machine.next_moved hs
  have ht := List.mem_of_getElem? h.here
  have stays {q : Rid} {p : StopPC} (stopping : pc.stopping = some (q, p)) :
      StopFacts v'.shared q p := by
    have past : Serving.Retiring v q := by
      have stopping : (Thread.manager pc).stopping = some (q, p) := stopping
      rcases Thread.stopping_owned stopping with ⟨role, owned, past⟩ | ⟨pc, other, -⟩
      · exact Serving.retiring_of_owned c ht owned past
      · cases other
    exact Serving.stopFacts_stay c m past (h.stops q p stopping)
  have later {P : World → Prop} (h : ∃ u, Run env (Alone n) w u ∧ Run env (Alone n) u v ∧ P u) :
      ∃ u, Run env (Alone n) w u ∧ Run env (Alone n) u v' ∧ P u := by
    obtain ⟨u, before, after, there⟩ := h
    exact ⟨u, before, after.snoc ok hs, there⟩
  rcases ok.moves m h.here with ⟨pc', q, here, move⟩ | ⟨here, kept, counted, other⟩
  · refine ⟨pc', here, move.effect h.effect, ?_, ?_, ?_⟩
    · intro q p stopping
      have step : ThreadMove env v.shared (.manager pc) v'.shared (.manager pc') _ := .manager move
      rcases step.stopping stopping with rfl | before | ⟨p', before, stop⟩
      · trivial
      · exact stays before
      · exact stop.facts (h.stops q p' before)
    · intro cfg read
      rcases move.config read with before | ⟨rfl, loaded⟩
      · exact later (h.read cfg before)
      · exact ⟨v, r, .single ⟨a, ok, hs⟩, h.here, loaded⟩
    · intro cfg tls carries
      rcases move.carries carries with before | ⟨rfl, loaded⟩
      · exact later (h.loaded cfg tls before)
      · exact ⟨v, r, .single ⟨a, ok, hs⟩, h.here, loaded⟩
  · refine ⟨pc, here, h.effect.of_kept kept counted, fun q p => stays,
      fun cfg read => later (h.read cfg read), ?_⟩
    intro cfg tls carries
    have same := ManagerPC.carries_same fun r hr => Building.blueprint c history m h.here other hr
    exact later (h.loaded cfg tls (same ▸ carries))

theorem Calling.run (c : Consistent w) (history : History w)
    (begun : w.threads[n]? = some (.manager .begin)) (call : Run env (Alone n) w v) :
    ∃ pc, Calling env n w v pc := by
  have start : Calling env n w w .begin :=
    ⟨begun, Shared.Kept.refl _, by rintro _ _ ⟨⟩, by rintro _ ⟨⟩, by rintro _ _ ⟨⟩⟩
  refine (call.invariant (fun u => Consistent u ∧ History u ∧ ∃ pc, Calling env n w u pc)
    ⟨c, history, _, start⟩ ?_).2.2
  rintro a u u' reached ⟨hc, hh, pc, h⟩ ok hs
  exact ⟨hc.step hs, hh.step hc hs, h.step hc hh reached ok hs⟩

end

/-- Before `Start`, with the first runtime of the process. -/
structure Booted (w : World) : Prop extends Starting w where
  first : (w.shared.heap 0).generation = 1
  counter : w.shared.nextGeneration = 1

theorem Booted.numbered {w : World} (h : Booted w) : Numbered w := by
  constructor
  · rw [h.counter, h.allocated]
    rfl
  · intro r lt
    rw [h.allocated] at lt
    obtain rfl : r = 0 := Nat.lt_one_iff.mp lt
    exact h.first

/-- A call of `Manager.Reload` at place `n` that began in `w` and returned `out`
in `v`. -/
structure AllOrNothing (env : Env) (n : Nat) (w v : World) (out : Outcome) : Prop where
  nothing : ∀ err, out.err = some err → Shared.Kept w.shared v.shared
  all : out.err = none → ∃ cfg rt old, out = .accepted cfg rt old ∧
    (∃ u, Run env (Alone n) w u ∧ Run env (Alone n) u v ∧
      u.threads[n]? = some (.manager .load) ∧ loadConfig env u.shared.disk.config = .ok cfg) ∧
    (∃ u, Run env (Alone n) w u ∧ Run env (Alone n) u v ∧
      u.threads[n]? = some (.manager (.tls cfg)) ∧
      BuiltFrom u.shared.disk cfg (v.shared.heap rt)) ∧
    v.shared.server.runtime = rt ∧
    old = w.shared.server.runtime ∧ StopFacts v.shared old .done ∧
    (v.shared.allocated < 2 ^ 53 →
      v.shared.metrics.generation = (v.shared.heap rt).generation ∧
      ∀ r, r < rt → (v.shared.heap r).generation < (v.shared.heap rt).generation)
  distinct : v.shared.allocated < 2 ^ 64 → ∀ r s, r < v.shared.allocated →
    s < v.shared.allocated → r ≠ s → (v.shared.heap r).generation ≠ (v.shared.heap s).generation

/-- In any lifecycle state and after any history of managed reloads, a call of
`Manager.Reload` that no other operation on the server accompanies fails and
leaves the server as it was, or installs what it read and retires the rest. -/
theorem reload_all_or_nothing {env : Env} {w₀ w v : World} {n : Nat} {out : Outcome}
    (init : Booted w₀) (r : Run env Managed w₀ w)
    (begun : w.threads[n]? = some (.manager .begin)) (call : Run env (Alone n) w v)
    (returned : v.threads[n]? = some (.manager (.returned out))) :
    AllOrNothing env n w v out := by
  have consistent := (init.toFresh.consistent rfl).run r
  have history := init.history.run (init.toFresh.consistent rfl) r
  have building := init.building.run (init.toFresh.consistent rfl) init.history r
  have alone : ∀ u a, Alone n u a → Managed u a := by
    rintro u a ok rt rfl
    exact ok
  have numbered := (init.numbered.run r).run (call.mono alone)
  have built := building.run consistent history call
  have active := (consistent.run call).active
  obtain ⟨pc, calling⟩ := Calling.run consistent history begun call
  obtain rfl : pc = .returned out := by
    have same := calling.here.symm.trans returned
    cases same
    rfl
  refine ⟨?_, ?_, ?_⟩
  · intro err failed
    cases out with
    | accepted => cases failed
    | rejected | abandoned | failed => exact calling.effect
  · intro ok
    cases out with
    | accepted cfg rt old =>
      obtain ⟨swapped, gauge⟩ := calling.effect
      obtain ⟨disk, built⟩ := built _ (List.mem_of_getElem? returned)
      obtain ⟨u, before, after, here, loaded⟩ := calling.loaded cfg _ rfl
      refine ⟨cfg, rt, old, rfl, calling.read cfg rfl, ⟨u, before, after, here, built.on loaded⟩,
        swapped.runtime, swapped.displaced, calling.stops old .done rfl, ?_⟩
      intro few
      have lt : rt < v.shared.allocated := swapped.runtime ▸ active
      have enough : v.shared.allocated < 2 ^ 64 := Nat.lt_trans few (by decide)
      have generation := numbered.eq enough lt
      refine ⟨?_, fun q hq => ?_⟩
      · rw [gauge, float64_exact]
        rw [generation]
        exact Nat.lt_of_le_of_lt lt few
      · rw [generation, numbered.eq enough (Nat.lt_trans hq lt)]
        exact Nat.succ_lt_succ hq
    | rejected | abandoned | failed => cases ok
  · intro few q s hq hs ne same
    rw [numbered.eq few hq, numbered.eq few hs] at same
    exact ne (Nat.succ.inj same)

instance (n : Nat) (w : World) : DecidablePred (Alone n w)
  | .run i _ => inferInstanceAs (Decidable (∀ t ∈ w.threads[i]?, i = n ∨ t.serves = true))
  | .call (.request _) | .env _ => .isTrue trivial
  | .call (.reload _) | .call .manager | .call .shutdown => .isFalse id

theorem sampleStart_booted : Booted sampleStart := ⟨sampleStart_starting, rfl, rfl⟩

/-- The sample in service, and the file broken: the first reload fails. With the
file as it was the second one is accepted. -/
theorem reload_all_or_nothing_sample :
    ∃ w v, Run sampleEnv Managed sampleStart w ∧ Run sampleEnv (Alone 3) w v ∧
      .manager (.returned (.failed (.text "yaml: line 1: could not find expected ':'"))) ∈
        w.threads ∧
      v.shared.server.runtime = 1 ∧ v.shared.metrics.generation = 2 ∧
      AllOrNothing sampleEnv 3 w v (.accepted sampleConfig 1 0) := by
  obtain ⟨w, v, r, call, failed, begun, returned, gauge⟩ := Exec.exists_runs_of_execWhile
    (World.step sampleEnv) Managed (Alone 3) sampleStart
    (goes 0 2 ++ [.run 0 .ok] ++ goes 0 3 ++
      [.env { sampleDisk with config := .ok [] }, .call .manager] ++ goes 2 3 ++
      [.env sampleDisk, .call .manager])
    (goes 3 18 ++ proberExits 1 ++ goes 3 3)
    (fun w v =>
      .manager (.returned (.failed (.text "yaml: line 1: could not find expected ':'"))) ∈
        w.threads ∧
      w.threads[3]? = some (.manager .begin) ∧
      v.threads[3]? = some (.manager (.returned (.accepted sampleConfig 1 0))) ∧
      v.shared.metrics.generation = 2)
    (by decide +kernel)
  have both := reload_all_or_nothing sampleStart_booted r begun call returned
  obtain ⟨cfg, rt, old, same, -, -, runtime, -⟩ := both.all rfl
  cases same
  exact ⟨w, v, r, call, failed, runtime, gauge, both⟩

end TorusProxy
