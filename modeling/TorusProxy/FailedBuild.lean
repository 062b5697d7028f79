import TorusProxy.TwoParsers
import TorusProxy.Workers

/-! A build that fails at an upstream. `BuildRuntime` cancels the context of the
runtime it drops and does not wait for the probers it has started. -/
namespace TorusProxy

open Threads

/-- `NewBackend` fails on upstream `j` of service `i`, and on none before it. -/
structure FirstFailure (env : Env) (cfg : Config) (i j : Nat) (svc : ServiceConfig)
    (url : String) : Prop where
  /-- The TLS section, which comes first, can be loaded. -/
  reached : ∃ disk tls, loadTlsConfig disk cfg.tls = .ok tls
  service : cfg.services[i]? = some svc
  upstream : svc.upstreams[j]? = some url
  fails : ∃ err, env.parse url = .error err
  earlier : ∀ s ∈ cfg.services.take i, ∀ u ∈ s.upstreams, ∃ x, env.parse u = .ok x
  before : ∀ u ∈ svc.upstreams.take j, ∃ x, env.parse u = .ok x

/-- At some moment of a run `BuildRuntime` is called with this configuration, as
goroutine `n`. -/
structure BuildCalled (env : Env) (cfg : Config) (n : Nat) (w : World) : Prop where
  reached : ∃ pc w₀ v, Fresh pc w₀ ∧ (pc = .load ∨ pc = .serving) ∧
    Run env (fun _ _ => True) w₀ v ∧ n = v.threads.length ∧
    w = ⟨v.shared, v.threads ++ [.manager (.tls cfg)]⟩

/-- Wherever the call has returned its error, no prober of the runtime it has
dropped is alive. -/
def LeavesNothing (env : Env) (cfg : Config) : Prop :=
  ∀ n w w' t rt, BuildCalled env cfg n w → Run env (fun _ _ => True) w w' →
    w'.threads[n]? = some t → t.owned = some (rt, .abandoned) →
    ∀ p q, .prober p q ∈ w'.threads → p.rt = rt → q = .exited

/-! ## The loop bodies before the failure -/

/-- The loop bodies of these services, and of these upstreams of the next. -/
def buildUntil (services : List ServiceConfig) (name : String) (urls : List String) :
    List BuildItem :=
  services.flatMap (fun s => s.upstreams.map (.upstream s.name) ++ [.service s.name]) ++
    urls.map (.upstream name)

theorem upstream_mem_buildUntil {services : List ServiceConfig} {name s u : String}
    {urls : List String} : .upstream s u ∈ buildUntil services name urls ↔
      (∃ svc ∈ services, svc.name = s ∧ u ∈ svc.upstreams) ∨ (name = s ∧ u ∈ urls) := by
  simp only [buildUntil, List.mem_append, List.mem_flatMap, List.mem_map, List.mem_singleton,
    BuildItem.upstream.injEq, reduceCtorEq, or_false]
  constructor
  · rintro (⟨svc, hs, x, hx, rfl, rfl⟩ | ⟨x, hx, rfl, rfl⟩)
    · exact .inl ⟨svc, hs, rfl, hx⟩
    · exact .inr ⟨rfl, hx⟩
  · rintro (⟨svc, hs, rfl, hx⟩ | ⟨rfl, hx⟩)
    · exact .inl ⟨svc, hs, u, hx, rfl, rfl⟩
    · exact .inr ⟨u, hx, rfl, rfl⟩

/-- A list around one of its elements. -/
theorem eq_take_cons_drop {α : Type} {xs : List α} {i : Nat} {x : α} (h : xs[i]? = some x) :
    xs = xs.take i ++ x :: xs.drop (i + 1) := by
  obtain ⟨lt, rfl⟩ := List.getElem?_eq_some_iff.mp h
  rw [← List.drop_eq_getElem_cons lt, List.take_append_drop]

section
variable {env : Env} {cfg : Config} {i j : Nat} {svc : ServiceConfig} {url : String}

theorem FirstFailure.plan (h : FirstFailure env cfg i j svc url) :
    ∃ todo, buildPlan cfg = buildUntil (cfg.services.take i) svc.name (svc.upstreams.take j) ++
      .upstream svc.name url :: todo := by
  let items (s : ServiceConfig) := s.upstreams.map (BuildItem.upstream s.name) ++ [.service s.name]
  have services := congrArg (List.flatMap items) (eq_take_cons_drop h.service)
  have upstreams := congrArg (List.map (BuildItem.upstream svc.name)) (eq_take_cons_drop h.upstream)
  refine ⟨(svc.upstreams.drop (j + 1)).map (.upstream svc.name) ++ .service svc.name ::
    ((cfg.services.drop (i + 1)).flatMap items ++
      cfg.routes.map (fun r => .route r.path r.service)), ?_⟩
  have here : items svc = svc.upstreams.map (.upstream svc.name) ++ [.service svc.name] := rfl
  rw [buildPlan, services, List.flatMap_append, List.flatMap_cons, here, upstreams, buildUntil]
  simp only [items, List.map_append, List.map_cons, List.append_assoc, List.cons_append,
    List.nil_append]

theorem FirstFailure.parses (h : FirstFailure env cfg i j svc url) (s u : String)
    (mem : .upstream s u ∈ buildUntil (cfg.services.take i) svc.name (svc.upstreams.take j)) :
    ∃ x, env.parse u = .ok x := by
  rcases upstream_mem_buildUntil.mp mem with ⟨q, hq, -, hu⟩ | ⟨-, hu⟩
  · exact h.earlier q hq u hu
  · exact h.before u hu

/-- Where the failing upstream is the first of all, nothing was started for it. -/
theorem FirstFailure.first_iff (h : FirstFailure env cfg i j svc url) :
    (j = 0 ∧ ∀ s ∈ cfg.services.take i, s.upstreams = []) ↔
      ∀ s u, .upstream s u ∉ buildUntil (cfg.services.take i) svc.name (svc.upstreams.take j) := by
  constructor
  · rintro ⟨rfl, empty⟩ s u mem
    rcases upstream_mem_buildUntil.mp mem with ⟨q, hq, -, hu⟩ | ⟨-, hu⟩
    · rw [empty q hq] at hu
      cases hu
    · cases hu
  · intro none
    constructor
    · cases j with
      | zero => rfl
      | succ j =>
        have lt := (List.getElem?_eq_some_iff.mp h.upstream).1
        have here : svc.upstreams[0] ∈ svc.upstreams.take (j + 1) :=
          List.mem_take_iff_getElem.mpr ⟨0, by omega, rfl⟩
        exact absurd (upstream_mem_buildUntil.mpr (.inr ⟨rfl, here⟩)) (none _ _)
    · intro s hs
      apply List.eq_nil_iff_forall_not_mem.mpr
      intro u hu
      exact none _ _ (upstream_mem_buildUntil.mpr (.inl ⟨s, hs, rfl, hu⟩))

end

/-! ## When the first upstream fails -/

/-- The next upstream of the loops fails. -/
def Stuck (env : Env) (todo : List BuildItem) : Prop :=
  ∃ left service url rest err, todo = left ++ .upstream service url :: rest ∧
    (∀ s u, .upstream s u ∉ left) ∧ env.parse url = .error err

/-- The call has started no prober and will not start one. -/
def ManagerPC.Barren (env : Env) (cfg : Config) (sh : Shared) : ManagerPC → Prop
  | .tls c | .generation c _ => c = cfg
  | .build _ rt todo _ => Stuck env todo ∧ (sh.heap rt).workerWG = 0
  | .recordFailure (.abandoned rt _) | .returned (.abandoned rt _) => (sh.heap rt).workerWG = 0
  | .recordFailure (.failed _) | .returned (.failed _) => True
  | _ => False

section
variable {env : Env} {cfg : Config} {sh sh' : Shared} {pc pc' : ManagerPC} {new : Option Prober}

theorem Stuck.tail {item : BuildItem} {todo : List BuildItem} (h : Stuck env (item :: todo))
    (other : ∀ s u, item ≠ .upstream s u) : Stuck env todo := by
  obtain ⟨left, service, url, rest, err, eq, none, fails⟩ := h
  cases left with
  | nil =>
    cases eq
    exact absurd rfl (other _ _)
  | cons x left =>
    cases eq
    exact ⟨left, service, url, rest, err, rfl, fun s u mem => none s u (.tail _ mem), fails⟩

theorem Stuck.fails {service url : String} {todo : List BuildItem}
    (h : Stuck env (.upstream service url :: todo)) : ∃ err, env.parse url = .error err := by
  obtain ⟨left, _, _, rest, err, eq, none, fails⟩ := h
  cases left with
  | nil =>
    cases eq
    exact ⟨err, fails⟩
  | cons x left =>
    cases eq
    exact absurd (.head _) (none service url)

/-- Its own step, -/
theorem ManagerMove.barren (h : ManagerMove env sh pc sh' pc' new)
    (stuck : Stuck env (buildPlan cfg)) (inv : pc.Barren env cfg sh) :
    pc'.Barren env cfg sh' := by
  cases h with
  | tlsFailed => trivial
  | tlsLoaded => exact inv
  | allocate c tls =>
    cases inv
    exact ⟨stuck, by simp [TorusProxy.allocate, newRuntime]⟩
  | backendFailed c rt =>
    exact (Shared.setRuntime_same rt Runtime.workerWG rfl).trans inv.2
  | backend c rt service url todo vars u parses =>
    obtain ⟨err, fails⟩ := inv.1.fails
    rw [parses] at fails
    cases fails
  | service c rt name todo vars =>
    refine ⟨inv.1.tail (by rintro _ _ ⟨⟩), ?_⟩
    exact (Shared.setRuntime_same rt Runtime.workerWG rfl).trans inv.2
  | route c rt path service todo vars =>
    refine ⟨inv.1.tail (by rintro _ _ ⟨⟩), ?_⟩
    exact (Shared.setRuntime_same rt Runtime.workerWG rfl).trans inv.2
  | offer c rt vars =>
    obtain ⟨left, _, _, rest, err, eq, -⟩ := inv.1
    simp at eq
  | recordFailure out =>
    cases out with
    | accepted | rejected => cases inv
    | abandoned rt err => exact inv
    | failed err => trivial
  | _ => cases inv

/-- and a step of another that keeps its runtime's worker group empty. -/
theorem ManagerPC.Barren.keep (inv : pc.Barren env cfg sh)
    (zero : ∀ rt role, pc.owned = some (rt, role) → (sh.heap rt).workerWG = 0 →
      (sh'.heap rt).workerWG = 0) : pc.Barren env cfg sh' := by
  cases pc with
  | tls | generation => exact inv
  | build c rt todo vars => exact ⟨inv.1, zero rt _ rfl inv.2⟩
  | recordFailure out | returned out =>
    cases out with
    | accepted | rejected => cases inv
    | abandoned rt err => exact zero rt _ rfl inv
    | failed err => trivial
  | begin | load | startProber | serverReload | stop => cases inv

end

section
variable {env : Env} {cfg : Config} {n : Nat} {w w' : World} {a : Action}

/-- A call of `BuildRuntime` begins with nothing in its hands. -/
theorem Consistent.buildCalled (h : Consistent w) (cfg : Config) :
    Consistent ⟨w.shared, w.threads ++ [.manager (.tls cfg)]⟩ := by
  have idle (g : Thread → Nat) (zero : g (.manager (.tls cfg)) = 0) :
      total g (w.threads ++ [.manager (.tls cfg)]) = total g w.threads := by
    simp [zero]
  have mem {t : Thread} (ht : t ∈ w.threads ++ [.manager (.tls cfg)]) :
      t ∈ w.threads ∨ t = .manager (.tls cfg) := by
    simpa using ht
  constructor
  · exact h.readers.trans (idle _ rfl).symm
  · exact h.announced.trans (idle _ rfl).symm
  · exact h.writer.trans (idle _ rfl).symm
  · exact h.active
  · intro r
    exact (h.owners r).trans (idle _ rfl).symm
  · rintro t ht req rt rfl
    rcases mem ht with ht | ht
    · exact h.acquiring _ ht req rt rfl
    · cases ht
  · intro r
    exact (h.requests r).trans (idle _ rfl).symm
  · intro r
    exact (h.workers r).trans (idle _ rfl).symm
  · exact h.handlers.trans (idle _ rfl).symm
  · intro t ht r refers
    rcases mem ht with ht | rfl
    · exact h.refers t ht r refers
    · rcases refers with refers | refers <;> cases refers

/-- Goroutine `n` is such a call. -/
structure BarrenAt (env : Env) (cfg : Config) (n : Nat) (w : World) : Prop where
  consistent : Consistent w
  barren : ∃ pc, w.threads[n]? = some (.manager pc) ∧ pc.Barren env cfg w.shared

theorem BuildCalled.barrenAt (h : BuildCalled env cfg n w) : BarrenAt env cfg n w := by
  obtain ⟨pc, w₀, v, init, begun, run, rfl, rfl⟩ := h.reached
  have consistent := (init.stopping begun).consistent.run run
  exact ⟨consistent.buildCalled cfg, .tls cfg, by simp, rfl⟩

theorem BarrenAt.step (h : BarrenAt env cfg n w) (stuck : Stuck env (buildPlan cfg))
    (hs : World.step env w a = some w') : BarrenAt env cfg n w' := by
  have m := Machine.next_moved hs
  obtain ⟨pc, here, barren⟩ := h.barren
  refine ⟨h.consistent.step hs, ?_⟩
  rcases m.fate here with ⟨other, stays⟩ | ⟨c, sh', t', new, -, fires, rfl, after⟩
  · refine ⟨pc, stays, barren.keep ?_⟩
    intro rt role owned zero
    apply h.consistent.workers_idle m zero
    rintro i c t rfl hi building
    obtain rfl := h.consistent.owner_unique hi here building owned
    exact other c rfl
  · have steps : Thread.step env w.shared (.manager pc) c = some (w'.shared, t', new) := fires
    cases Thread.step_move steps with
    | manager move => exact ⟨_, after, move.barren stuck barren⟩

theorem BarrenAt.run {ok : World → Action → Prop} (h : BarrenAt env cfg n w)
    (stuck : Stuck env (buildPlan cfg)) (later : Run env ok w w') : BarrenAt env cfg n w' :=
  later.invariant (BarrenAt env cfg n) h fun _ _ _ _ inv _ hs => inv.step stuck hs

/-- What the call has dropped has no prober. -/
theorem BarrenAt.exited (h : BarrenAt env cfg n w) {t : Thread} {rt : Rid}
    (ht : w.threads[n]? = some t) (dropped : t.owned = some (rt, .abandoned)) {p : Prober}
    {q : ProberPC} (hp : .prober p q ∈ w.threads) (own : p.rt = rt) : q = .exited := by
  obtain ⟨pc, here, barren⟩ := h.barren
  obtain rfl : t = .manager pc := Option.some.inj (ht.symm.trans here)
  have zero : (w.shared.heap rt).workerWG = 0 := by
    cases pc with
    | recordFailure out | returned out =>
      cases out with
      | abandoned r err => cases dropped; exact barren
      | accepted | rejected | failed => cases dropped
    | begin | load | tls | generation | build | startProber | stop => cases dropped
    | serverReload cfg r pc => cases barren
  exact h.consistent.exited zero hp own

end

/-! ## When a prober was started before -/

section
variable {env : Env} {cfg : Config} {n : Nat} {w : World}

/-- A managed reload takes its next step. -/
theorem managerReload_runs {pc pc' : ManagerPC} {sh' : Shared} {new : Option Prober}
    (here : w.threads[n]? = some (.manager pc))
    (goes : managerReload env w.shared pc = some (sh', pc', new)) :
    ∃ w', World.step env w (.run n .go) = some w' ∧ w'.shared = sh' ∧
      w'.threads[n]? = some (.manager pc') ∧
      (∀ p ∈ new, .prober p .newTicker ∈ w'.threads) ∧
      ∀ p q, .prober p q ∈ w.threads → .prober p q ∈ w'.threads := by
  have fires : Thread.step env w.shared (.manager pc) .go =
      some (sh', .manager pc', new.toList.map (.prober · .newTicker)) := by
    simp only [Thread.step, goes, Option.map_some]
  refine ⟨⟨sh', w.threads.set n (.manager pc') ++ new.toList.map (.prober · .newTicker)⟩,
    by simp only [World.step, Machine.next, here, fires], rfl, getElem?_moved _ here, ?_, ?_⟩
  · intro p hp
    apply List.mem_append_right
    exact List.mem_map.mpr ⟨p, by simpa using hp, rfl⟩
  · intro p q hp
    obtain ⟨k, hk⟩ := List.mem_iff_getElem?.mp hp
    have other : n ≠ k := by
      rintro rfl
      cases here.symm.trans hk
    exact List.mem_of_getElem? (getElem?_unmoved _ other hk)

theorem managerReload_upstream (sh : Shared) (cfg : Config) (rt : Rid) (service : String)
    (todo : List BuildItem) (vars : BuildVars) {url : String} (ok : ∃ x, env.parse url = .ok x) :
    ∃ sh' b vars', managerReload env sh (.build cfg rt (.upstream service url :: todo) vars) =
      some (sh', .startProber cfg rt b todo vars', none) := by
  obtain ⟨x, parses⟩ := ok
  simp only [managerReload, parses]
  exact ⟨_, _, _, rfl⟩

/-- The loops run through upstreams that parse and leave a prober for each. -/
theorem build_passes {rt : Rid} {items rest : List BuildItem} {vars : BuildVars}
    (here : w.threads[n]? = some (.manager (.build cfg rt (items ++ rest) vars)))
    (parses : ∀ s u, .upstream s u ∈ items → ∃ x, env.parse u = .ok x) :
    ∃ w' vars', Run env (fun _ _ => True) w w' ∧
      w'.threads[n]? = some (.manager (.build cfg rt rest vars')) ∧
      (∀ p q, .prober p q ∈ w.threads → .prober p q ∈ w'.threads) ∧
      ∀ s u, .upstream s u ∈ items → ∃ p, p.rt = rt ∧ .prober p .newTicker ∈ w'.threads := by
  induction items generalizing w vars with
  | nil => exact ⟨w, vars, .refl, here, fun _ _ hp => hp, by rintro s u ⟨⟩⟩
  | cons item items ih =>
    have later (s u : String) (mem : .upstream s u ∈ items) : ∃ x, env.parse u = .ok x :=
      parses s u (.tail _ mem)
    cases item with
    | upstream service url =>
      have ok := parses service url (.head _)
      obtain ⟨sh', b, vars', adds⟩ :=
        managerReload_upstream w.shared cfg rt service (items ++ rest) vars ok
      obtain ⟨w₁, step₁, -, here₁, -, stay₁⟩ := managerReload_runs here adds
      obtain ⟨w₂, step₂, -, here₂, started, stay₂⟩ := managerReload_runs here₁ rfl
      obtain ⟨w₃, vars₃, run, here₃, stay₃, others⟩ := ih here₂ later
      refine ⟨w₃, vars₃, .head ⟨_, trivial, step₁⟩ (.head ⟨_, trivial, step₂⟩ run), here₃,
        fun p q hp => stay₃ p q (stay₂ p q (stay₁ p q hp)), ?_⟩
      intro s u mem
      exact ⟨_, rfl, stay₃ _ _ (started _ rfl)⟩
    | service name | route path name =>
      obtain ⟨w₁, step₁, -, here₁, -, stay₁⟩ := managerReload_runs here rfl
      obtain ⟨w₂, vars₂, run, here₂, stay₂, others⟩ := ih here₁ later
      refine ⟨w₂, vars₂, .head ⟨_, trivial, step₁⟩ run, here₂,
        fun p q hp => stay₂ p q (stay₁ p q hp), ?_⟩
      intro s u mem
      rcases List.mem_cons.mp mem with mem | mem
      · cases mem
      · exact others s u mem

/-- On a server just put into service a call can get to its loops. -/
theorem build_begins (env : Env) {disk : Disk} {tls : Option TLSSettings}
    (loads : loadTlsConfig disk cfg.tls = .ok tls) :
    ∃ n w₀ w rt, BuildCalled env cfg n w₀ ∧ Run env (fun _ _ => True) w₀ w ∧
      w.threads[n]? = some (.manager (.build cfg rt (buildPlan cfg) .empty)) := by
  let v := World.serving (newRuntime 0 "" none false) disk []
  let w₀ : World := ⟨v.shared, v.threads ++ [.manager (.tls cfg)]⟩
  have running : Running v := World.serving_running _ disk (by simp)
  have called : BuildCalled env cfg 1 w₀ :=
    ⟨.serving, v, v, running.toFresh, .inr rfl, .refl, rfl, rfl⟩
  have loaded : managerReload env w₀.shared (.tls cfg) =
      some (w₀.shared, .generation cfg tls, none) := by
    have disk : w₀.shared.disk = disk := rfl
    simp only [managerReload, disk, loads]
  have here : w₀.threads[1]? = some (.manager (.tls cfg)) := rfl
  obtain ⟨w₁, step₁, -, here₁, -⟩ := managerReload_runs here loaded
  obtain ⟨w₂, step₂, -, here₂, -⟩ := managerReload_runs here₁ rfl
  exact ⟨1, w₀, w₂, _, called, .head ⟨_, trivial, step₁⟩ (.single ⟨_, trivial, step₂⟩), here₂⟩

/-- A prober started before the failure is still about to run when the call has
returned. -/
theorem FirstFailure.leaves {i j : Nat} {svc : ServiceConfig} {url s u : String}
    (h : FirstFailure env cfg i j svc url)
    (mem : .upstream s u ∈ buildUntil (cfg.services.take i) svc.name (svc.upstreams.take j)) :
    ¬ LeavesNothing env cfg := by
  intro nothing
  obtain ⟨disk, tls, loads⟩ := h.reached
  obtain ⟨err, fails⟩ := h.fails
  obtain ⟨todo, plan⟩ := h.plan
  obtain ⟨n, w₀, w, rt, called, run, here⟩ := build_begins env loads
  rw [plan] at here
  obtain ⟨w₁, vars, run₁, here₁, -, started⟩ := build_passes here h.parses
  have failure : managerReload env w₁.shared
      (.build cfg rt (.upstream svc.name url :: todo) vars) =
        some (w₁.shared.setRuntime rt ({ · with cancelled := true }),
          .recordFailure (.abandoned rt (backendError env svc.name url err)), none) := by
    simp only [managerReload, fails]
  obtain ⟨w₂, step₂, -, here₂, -, stay⟩ := managerReload_runs here₁ failure
  obtain ⟨p, own, there⟩ := started s u mem
  have whole := (run.trans run₁).tail ⟨_, trivial, step₂⟩
  cases nothing n w₀ w₂ _ rt called whole here₂ rfl p .newTicker (stay _ _ there) own

/-- A build that fails leaves nothing running exactly when the upstream that
fails is the first of the whole configuration. -/
theorem failed_build_leaves_nothing_iff {i j : Nat} {svc : ServiceConfig} {url : String}
    (h : FirstFailure env cfg i j svc url) :
    LeavesNothing env cfg ↔ j = 0 ∧ ∀ s ∈ cfg.services.take i, s.upstreams = [] := by
  rw [h.first_iff]
  constructor
  · intro nothing s u mem
    exact h.leaves mem nothing
  · intro none n w w' t rt called run ht dropped p q hp own
    obtain ⟨todo, plan⟩ := h.plan
    obtain ⟨err, fails⟩ := h.fails
    have stuck : Stuck env (buildPlan cfg) := ⟨_, _, _, todo, err, plan, none, fails⟩
    exact (called.barrenAt.run stuck run).exited ht dropped hp own

end

/-! ## On an upstream that only the validator parses -/

def upstreamsConfig (urls : List String) : Config :=
  { sampleConfig with services := [⟨"api", urls⟩] }

theorem firstFailure_upstreams (urls : List String) (j : Nat)
    (here : urls[j]? = some brokenFragment)
    (before : ∀ u ∈ urls.take j, u = "http://10.0.0.1:9000") :
    FirstFailure standardEnv (upstreamsConfig urls) 0 j ⟨"api", urls⟩ brokenFragment := by
  refine ⟨⟨sampleDisk, none, rfl⟩, rfl, here, brokenFragment_refused, (by rintro s ⟨⟩), ?_⟩
  intro u hu
  rw [before u hu]
  exact ⟨_, standardEnv_parse_sample⟩

/-- The broken upstream first: the build fails before it has started anything. -/
theorem failed_build_leaves_nothing_first :
    LeavesNothing standardEnv (upstreamsConfig [brokenFragment, "http://10.0.0.1:9000"]) := by
  have first := firstFailure_upstreams [brokenFragment, "http://10.0.0.1:9000"] 0 rfl
    (by rintro u ⟨⟩)
  exact (failed_build_leaves_nothing_iff first).mpr ⟨rfl, by rintro s ⟨⟩⟩

/-- The broken upstream second: the configuration is accepted, the build fails,
and the prober of the first is still there. -/
theorem failed_build_leaves_prober :
    (upstreamsConfig ["http://10.0.0.1:9000", brokenFragment]).validate standardEnv = .ok () ∧
    FirstFailure standardEnv (upstreamsConfig ["http://10.0.0.1:9000", brokenFragment]) 0 1
      ⟨"api", ["http://10.0.0.1:9000", brokenFragment]⟩ brokenFragment ∧
    ¬ LeavesNothing standardEnv (upstreamsConfig ["http://10.0.0.1:9000", brokenFragment]) := by
  have second := firstFailure_upstreams ["http://10.0.0.1:9000", brokenFragment] 1 rfl (by simp)
  refine ⟨eq_ok_of_toOption (by decide +kernel), second, ?_⟩
  exact second.leaves (upstream_mem_buildUntil.mpr (.inr ⟨rfl, .head _⟩))

end TorusProxy
