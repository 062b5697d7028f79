import Mathlib.Data.List.Induction
import TorusProxy.Blueprint
import TorusProxy.Lifecycle
import TorusProxy.Retention
import TorusProxy.Roles

/-! A reloaded server beside one that is started anew. The mux and the listener
are the work of `Start` and stay; what requests are routed by is the runtime's. -/
namespace TorusProxy

open Threads

/-! ## The mux -/

section
variable {q : ServeMux.Request} {path : Bytes}

theorem newMux_find (observed : Bool) (path : Bytes) :
    (newMux observed).find path =
      if observed = true ∧ ServeMux.names path (bytes "/metrics") = true then some .metrics
      else if ServeMux.names path (bytes "/readyz") = true then some .readyz
      else if path = [] then none else some .proxy := by
  have root : ServeMux.names path [47] = false := rfl
  have slash : bytes "/" = [47] := by decide
  cases observed <;> cases hm : ServeMux.names path (bytes "/metrics") <;>
    cases hr : ServeMux.names path (bytes "/readyz") <;>
    simp [newMux, ServeMux.find, ServeMux.handle, ServeMux.new, slash, root, hm, hr]

/-- Only a request for `/metrics` tells the muxes apart. -/
theorem newMux_find_same (observed observed' : Bool)
    (other : (newMux true).find path ≠ some .metrics) :
    (newMux observed).find path = (newMux observed').find path := by
  have plain : ServeMux.names path (bytes "/metrics") = false := by
    by_contra named
    exact other (by simp [newMux_find, named])
  simp [newMux_find, plain]

theorem newMux_find_metrics (observed : Bool) (scrape : (newMux true).find path = some .metrics) :
    (newMux observed).find path = some (if observed then .metrics else .proxy) := by
  cases observed with
  | true => exact scrape
  | false =>
    have named : ServeMux.names path (bytes "/metrics") = true := by
      by_contra plain
      rw [newMux_find, if_neg (fun both => plain both.2)] at scrape
      split at scrape
      · cases scrape
      · split at scrape <;> cases scrape
    have other : ServeMux.names path (bytes "/readyz") = false := by
      by_contra both
      simp only [ServeMux.names, Bool.not_eq_false, Bool.and_eq_true, decide_eq_true_eq] at named both
      have same := named.2.symm.trans both.2
      revert same
      decide
    have nonempty : path ≠ [] := by
      rintro rfl
      revert named
      decide
    simp [newMux_find, other, nonempty]

theorem Found.of_metrics {o : Option Endpoint} :
    ServeMux.Found.of o = .handler .metrics ↔ o = some .metrics := by
  cases o with
  | none => simp [ServeMux.Found.of]
  | some h => simp [ServeMux.Found.of]

theorem newMux_same (observed observed' : Bool)
    (other : (newMux true).findHandler q ≠ .handler .metrics) :
    (newMux observed).findHandler q = (newMux observed').findHandler q := by
  have same (plain : ServeMux.Found.of ((newMux true).find q.escapedPath) ≠ .handler .metrics) :
      (newMux observed).find q.escapedPath = (newMux observed').find q.escapedPath :=
    newMux_find_same observed observed' fun scrape => plain (Found.of_metrics.mpr scrape)
  unfold ServeMux.findHandler at other ⊢
  split
  · rename_i connect
    rw [if_pos connect] at other
    rw [same other]
  · rename_i plain
    rw [if_neg plain] at other
    split
    · rename_i clean
      rw [if_pos clean] at other
      rw [same other]
    · rfl

theorem newMux_metrics (observed : Bool)
    (scrape : (newMux true).findHandler q = .handler .metrics) :
    (newMux observed).findHandler q = .handler (if observed then .metrics else .proxy) := by
  have found (here : ServeMux.Found.of ((newMux true).find q.escapedPath) = .handler .metrics) :
      ServeMux.Found.of ((newMux observed).find q.escapedPath) =
        .handler (if observed then .metrics else .proxy) := by
    rw [newMux_find_metrics observed (Found.of_metrics.mp here)]
    rfl
  unfold ServeMux.findHandler at scrape ⊢
  split
  · rename_i connect
    rw [if_pos connect] at scrape
    exact found scrape
  · rename_i plain
    rw [if_neg plain] at scrape
    split
    · rename_i clean
      rw [if_pos clean] at scrape
      exact found scrape
    · rename_i dirty
      rw [if_neg dirty] at scrape
      cases scrape

end

/-! ## Two runtimes of one configuration -/

/-- Where a runtime sends a path: the route, the service by its place in the
configuration, and the upstreams of the service. -/
def Runtime.serves (rt : Runtime) (path : Bytes) : Bytes × Option (Nat × List (Option String)) :=
  let found := rt.router.route path
  (found.1, found.2.map fun svc => (svc, (rt.services[svc]?.elim [] Service.backends).map fun b =>
    rt.backends[b]?.map Backend.url))

theorem Runtime.blueprint_serves (rt : Runtime) : rt.blueprint.serves = rt.serves := by
  funext path
  have services (svc : Nat) : rt.blueprint.services[svc]?.elim [] Service.backends =
      rt.services[svc]?.elim [] Service.backends := by
    simp only [Runtime.blueprint, Runtime.still, List.getElem?_map]
    cases rt.services[svc]? <;> rfl
  have backends (b : Nat) : rt.blueprint.backends[b]?.map Backend.url =
      rt.backends[b]?.map Backend.url := by
    simp only [Runtime.blueprint, Runtime.still, List.getElem?_map]
    cases rt.backends[b]? <;> rfl
  simp only [Runtime.serves, services, backends]
  rfl

/-- As if it had been built with these. -/
def Runtime.stamped (generation : Nat) (tls : Option TLSSettings) (rt : Runtime) : Runtime :=
  { rt with generation := generation, tlsConfig := tls }

theorem assemble_stamped (generation generation' : Nat) (cfg : Config)
    (tls tls' : Option TLSSettings) (items : List BuildItem) :
    assemble generation' cfg tls' items =
      ((assemble generation cfg tls items).1.stamped generation' tls',
        (assemble generation cfg tls items).2) := by
  induction items using List.reverseRecOn with
  | nil => rfl
  | append_singleton items item ih =>
    rw [assemble_snoc, assemble_snoc, ih]
    cases item <;> rfl

theorem assemble_observed (generation : Nat) (cfg : Config) (tls : Option TLSSettings)
    (items : List BuildItem) :
    (assemble generation cfg tls items).1.observabilityEnabled = cfg.observability.enabledValue := by
  induction items using List.reverseRecOn with
  | nil => rfl
  | append_singleton items item ih =>
    rw [assemble_snoc]
    cases item <;> exact ih

theorem BuiltFrom.observed {disk : Disk} {cfg : Config} {rt : Runtime} (h : BuiltFrom disk cfg rt) :
    rt.observabilityEnabled = cfg.observability.enabledValue := by
  obtain ⟨generation, tls, -, built⟩ := h
  have same := congrArg Runtime.observabilityEnabled built
  exact same.trans (assemble_observed generation cfg tls (buildPlan cfg))

/-- The generation and the TLS settings do not change where requests go. -/
theorem BuiltFrom.serves {disk disk' : Disk} {cfg : Config} {rt rt' : Runtime}
    (h : BuiltFrom disk cfg rt) (h' : BuiltFrom disk' cfg rt') : rt.serves = rt'.serves := by
  obtain ⟨generation, tls, -, built⟩ := h
  obtain ⟨generation', tls', -, built'⟩ := h'
  rw [← Runtime.blueprint_serves rt, ← Runtime.blueprint_serves rt', built, built', buildRuntime,
    buildRuntime, assemble_stamped generation generation' cfg tls tls']
  rfl

/-! ## What `Start` fixes -/

/-- The runtime a start has loaded and still reads. -/
def StartPC.reads : StartPC → Option Rid
  | .assignSrv rt | .listen rt => some rt
  | _ => none

/-- The mux is in place. -/
def StartPC.routed : StartPC → Bool
  | .listen _ | .storeReady _ | .storeState _ | .serve | .serving => true
  | _ => false

/-- The listener is in place. -/
def StartPC.listens : StartPC → Bool
  | .storeReady _ | .storeState _ | .serve | .serving => true
  | _ => false

/-- What a start that reads `first` makes of the server. -/
structure StartPC.Fixes (first : Runtime) (sh : Shared) (pc : StartPC) : Prop where
  reads : ∀ r, pc.reads = some r → r = 0
  mux : pc.routed = true → sh.server.mux = newMux first.observabilityEnabled
  listener : pc.listens = true → sh.server.listener = some first.tlsConfig

structure Launched (first : Runtime) (w : World) : Prop where
  consistent : Consistent w
  history : History w
  once : total Thread.starts w.threads ≤ 1
  booting : ∀ t ∈ w.threads, t.booting = true → w.shared.server.state ≠ .running
  swapping : ∀ t ∈ w.threads, ∀ r, t.swapping = some r → w.shared.server.state = .running
  /-- Nothing is swapped in before the server is running. -/
  alone : ∀ t ∈ w.threads, t.booting = true → w.shared.installed = [0]
  zero : 0 ∈ w.shared.installed
  kept : (w.shared.heap 0).blueprint = first.blueprint
  fixes : ∀ pc, .start pc ∈ w.threads → pc.Fixes first w.shared

section
variable {env : Env} {sh sh' : Shared} {t t' : Thread} {new : List Thread}

/-- Only `Start` touches the mux and the listener. -/
theorem ThreadMove.front (h : ThreadMove env sh t sh' t' new) (other : ∀ pc, t ≠ .start pc) :
    sh'.server.mux = sh.server.mux ∧ sh'.server.listener = sh.server.listener := by
  have locks {op : RWMutex → Option RWMutex} (hm : sh.tryMu op = some sh') :
      sh'.server.mux = sh.server.mux ∧ sh'.server.listener = sh.server.listener := by
    obtain ⟨m, -, rfl⟩ := Shared.tryMu_eq_some.mp hm
    exact ⟨rfl, rfl⟩
  cases h with
  | request req move =>
    exact ⟨move.server_same Server.mux (fun _ _ => rfl) (fun _ _ => rfl),
      move.server_same Server.listener (fun _ _ => rfl) (fun _ _ => rfl)⟩
  | reload rt move =>
    exact ⟨move.server_same Server.mux (fun _ _ => rfl) (fun _ _ => rfl),
      move.server_same Server.listener (fun _ _ => rfl) (fun _ _ => rfl)⟩
  | manager move =>
    exact ⟨move.server_same Server.mux (fun _ _ => rfl) (fun _ _ => rfl),
      move.server_same Server.listener (fun _ _ => rfl) (fun _ _ => rfl)⟩
  | shutdown move =>
    cases move with
    | announce hm | take hm => exact locks hm
    | stop rt move => simp only [move.server, and_self]
    | _ => exact ⟨rfl, rfl⟩
  | start move => exact absurd rfl (other _)
  | prober p move => simp only [move.server, and_self]

/-- One step of the start itself. -/
theorem StartMove.fixes {first : Runtime} {pc pc' : StartPC} (h : StartMove sh pc sh' pc')
    (before : pc.Fixes first sh) (active : pc = .load → sh.server.runtime = 0)
    (same : (sh.heap 0).blueprint = first.blueprint) : pc'.Fixes first sh' := by
  have observed : (sh.heap 0).observabilityEnabled = first.observabilityEnabled := by
    have fields := congrArg Runtime.observabilityEnabled same
    exact fields
  have secured : (sh.heap 0).tlsConfig = first.tlsConfig := by
    have fields := congrArg Runtime.tlsConfig same
    exact fields
  cases h with
  | load => exact ⟨by rintro r ⟨⟩; exact active rfl, by rintro ⟨⟩, by rintro ⟨⟩⟩
  | assignSrv rt =>
    obtain rfl := before.reads rt rfl
    exact ⟨by rintro r ⟨⟩; rfl, fun _ => congrArg newMux observed, by rintro ⟨⟩⟩
  | listened rt =>
    obtain rfl := before.reads rt rfl
    exact ⟨by rintro r ⟨⟩, fun _ => before.mux rfl, fun _ => congrArg some secured⟩
  | storeReady | storeState | serve =>
    exact ⟨by rintro r ⟨⟩, fun _ => before.mux rfl, fun _ => before.listener rfl⟩
  | _ => exact ⟨by rintro r ⟨⟩, by rintro ⟨⟩, by rintro ⟨⟩⟩

end

namespace Launched

variable {env : Env} {first : Runtime} {w w' : World} {a : Action}

theorem step_alone (h : Launched first w) (m : Moved (machine env) w a w') :
    ∀ t ∈ w'.threads, t.booting = true → w'.shared.installed = [0] := by
  intro t' ht' booting
  have before : ∃ t ∈ w.threads, t.booting = true := by
    cases World.origin m ht' with
    | stayed mem => exact ⟨t', mem, booting⟩
    | moved t c ht fires => exact ⟨t, ht, ((Thread.step_move fires).booting booting).1⟩
    | started p => cases booting
    | entered x fires => cases enter_move fires <;> cases booting
  obtain ⟨t, ht, was⟩ := before
  rcases History.grows m with ⟨installed, -⟩ | ⟨u, hu, r, swapping, -⟩
  · rw [installed]
    exact h.alone t ht was
  · exact absurd (h.swapping u hu r swapping) (h.booting t ht was)

theorem step_fixes (h : Launched first w) (m : Moved (machine env) w a w') :
    ∀ pc, .start pc ∈ w'.threads → pc.Fixes first w'.shared := by
  have kept := World.assertion m (fun sh t => ∀ pc, t = .start pc → pc.Fixes first sh)
    (by rintro t ht pc rfl; exact h.fixes pc ht) ?_ ?_ ?_ ?_ ?_
  · exact fun pc ht => kept _ ht pc rfl
  · rintro i t c sh' _ new _ hi inv fires pc rfl
    have ht := List.mem_of_getElem? hi
    cases Thread.step_move fires with
    | start move =>
      refine move.fixes (inv _ rfl) ?_ h.kept
      rintro rfl
      have active := h.history.active
      rw [h.alone _ ht rfl] at active
      exact (Option.some.inj active).symm
  · rintro i j t u c sh' t' new _ hij hi hj fires inv pc rfl
    have apart : ∀ q, t ≠ .start q := by
      rintro q rfl
      have two := Nat.le_trans (add_le_total Thread.starts hij hi hj) h.once
      cases two with
      | step two => cases two
    obtain ⟨mux, listener⟩ := (Thread.step_move fires).front apart
    have before := inv pc rfl
    exact ⟨before.reads, fun on => mux.trans (before.mux on),
      fun on => listener.trans (before.listener on)⟩
  · rintro sh' p pc ⟨⟩
  · intro x sh' t fires
    refine ⟨?_, ?_⟩
    · rintro pc rfl
      cases enter_move fires
    · rintro u - inv pc rfl
      have before := inv pc rfl
      cases enter_move fires <;> exact ⟨before.reads, before.mux, before.listener⟩
  · rintro disk u inv pc rfl
    have before := inv pc rfl
    exact ⟨before.reads, before.mux, before.listener⟩

theorem step (h : Launched first w) (hs : World.step env w a = some w') : Launched first w' := by
  have m := Machine.next_moved hs
  refine ⟨h.consistent.step hs, h.history.step h.consistent hs, Ordered.step_once h.once m,
    Ordered.step_booting h.once h.booting m,
    Ordered.step_swapping h.consistent h.booting h.swapping m, h.step_alone m,
    History.installed_stays m h.zero, ?_, h.step_fixes m⟩
  rw [h.history.blueprint m h.zero]
  exact h.kept

theorem run {ok : World → Action → Prop} (h : Launched first w) (r : Run env ok w w') :
    Launched first w' :=
  r.invariant (Launched first) h fun _ _ _ _ inv _ hs => inv.step hs

end Launched

theorem Starting.launched {w : World} (h : Starting w) : Launched (w.shared.heap 0) w := by
  refine ⟨h.toFresh.consistent rfl, h.toFresh.history, h.once, ?_, ?_, ?_, ?_, rfl, ?_⟩
  · intro t ht booting
    simp [h.state]
  · intro t ht r swapping
    rcases h.threads t ht with ⟨p, q, rfl, -⟩ | rfl <;> cases swapping
  · intro t ht booting
    exact h.installed
  · simp [h.installed]
  · intro pc ht
    rcases h.threads _ ht with ⟨p, q, hp, -⟩ | hp
    · cases hp
    · cases hp
      exact ⟨by rintro r ⟨⟩, by rintro ⟨⟩, by rintro ⟨⟩⟩

/-! ## The two servers -/

/-- What came at or after the active runtime is the active runtime. -/
theorem InstalledSince.eq_last {new r : Rid} {l : List Rid} (h : InstalledSince new r l)
    (nodup : l.Nodup) (last : l.getLast? = some new) : r = new := by
  obtain ⟨earlier, later, rfl, rfl | mem⟩ := h
  · rfl
  · exfalso
    have again : new ∈ later := by
      cases hl : later.getLast? with
      | none =>
        rw [List.getLast?_eq_none_iff.mp hl] at mem
        cases mem
      | some x =>
        have same : x = new := by simpa [List.getLast?_cons, hl] using last
        exact same ▸ List.mem_of_getLast? hl
    have once := (List.nodup_append.mp nodup).2.1
    exact (List.nodup_cons.mp once).1 again

/-- Connections and requests that come next get the same listener, the same endpoint
and the same upstreams from both servers. -/
structure Alike (w v : World) : Prop where
  security : w.shared.server.listener = v.shared.server.listener
  choice : ∀ q, w.shared.server.mux.findHandler q = v.shared.server.mux.findHandler q
  route : ∀ path, (w.shared.heap w.shared.server.runtime).serves path =
    (v.shared.heap v.shared.server.runtime).serves path

section
variable {env env' : Env} {ok ok' : World → Action → Prop} {w₀ w w' v₀ v : World}
  {disk₁ disk₂ : Disk} {c₁ c₂ : Config} {rt old : Rid}

/-- A server started with `c₁` and reloaded to `c₂`, beside one started with
`c₂`: requests that begin after the reload go where the new server sends them.
`/metrics` stays registered as `c₁` had it, and nothing else is chosen
otherwise; where both starts have read the same TLS settings, the listeners
are the same. -/
theorem reload_like_restart (init : Starting w₀) (built : BuiltFrom disk₁ c₁ (w₀.shared.heap 0))
    (run : Run env ok w₀ w) (reloaded : .manager (.returned (.accepted c₂ rt old)) ∈ w.threads)
    (later : Run env ok w w') (active : w'.shared.server.runtime = rt)
    (serving : .start .serving ∈ w'.threads)
    (init' : Starting v₀) (built' : BuiltFrom disk₂ c₂ (v₀.shared.heap 0))
    (run' : Run env' ok' v₀ v)
    (active' : v.shared.server.runtime = 0) (serving' : .start .serving ∈ v.threads) :
    ((w₀.shared.heap 0).tlsConfig = (v₀.shared.heap 0).tlsConfig →
      w'.shared.server.listener = v.shared.server.listener) ∧
    (∀ q, (newMux true).findHandler q ≠ .handler .metrics →
      w'.shared.server.mux.findHandler q = v.shared.server.mux.findHandler q) ∧
    (∀ q, (newMux true).findHandler q = .handler .metrics →
      w'.shared.server.mux.findHandler q =
        .handler (if c₁.observability.enabledValue then .metrics else .proxy)) ∧
    (∀ path, (w'.shared.heap rt).serves path = (v.shared.heap 0).serves path) ∧
    (∀ i req pc r, w.threads.length ≤ i → w'.threads[i]? = some (.request req pc) →
      pc.acquired = some r → r = rt) ∧
    ∀ (i : Nat) req pc r, v.threads[i]? = some (.request req pc) → pc.acquired = some r → r = 0 := by
  have launched := init.launched.run run
  have launched' := launched.run later
  have fresh := init'.launched.run run'
  have fixed := launched'.fixes _ serving
  have fixed' := fresh.fixes _ serving'
  have building : Building w := init.toFresh.building.run init.launched.consistent
    init.launched.history run
  have mem := launched.history.swapped _ reloaded rt rfl
  refine ⟨?_, ?_, ?_, ?_, ?_, ?_⟩
  · intro same
    rw [fixed.listener rfl, fixed'.listener rfl, same]
  · intro q other
    rw [fixed.mux rfl, fixed'.mux rfl]
    exact newMux_same _ _ other
  · intro q scrape
    rw [fixed.mux rfl, ← built.observed]
    exact newMux_metrics _ scrape
  · intro path
    obtain ⟨disk, before⟩ : ∃ disk, BuiltFrom disk c₂ (w.shared.heap rt) := building _ reloaded
    have now := before.of_blueprint
      (launched.history.blueprint_run launched.consistent mem later)
    exact congrFun (now.serves (built'.of_blueprint fresh.kept)) path
  · intro i req pc r late here acquired
    have since := since_run launched.consistent later
      (installedSince_last mem launched.history.active)
      (by
        intro j req' pc' r' hk hj
        have lt := (List.getElem?_eq_some_iff.mp hj).1
        omega) i req pc r late here acquired
    refine since.eq_last launched'.history.nodup ?_
    rw [launched'.history.active, active]
  · intro i req pc r here acquired
    have none : ∀ (j : Nat) req' pc' r', 0 ≤ j → v₀.threads[j]? = some (.request req' pc') →
        pc'.acquired = some r' → InstalledSince 0 r' v₀.shared.installed := by
      intro j req' pc' r' _ hj
      rcases init'.threads _ (List.mem_of_getElem? hj) with ⟨p, q, hp, -⟩ | hp <;> cases hp
    have since := since_run init'.launched.consistent run'
      (installedSince_last init'.launched.zero init'.launched.history.active) none
      i req pc r (Nat.zero_le i) here acquired
    refine since.eq_last fresh.history.nodup ?_
    rw [fresh.history.active, active']

end
/-! ## A configuration that turns observability off -/

def quietConfig : Config := { sampleConfig with observability := ⟨some false⟩ }

def quietFile : Bytes := sampleFile ++ ["observability:\n", "  enabled: false\n"].flatMap bytes

def quietEnv : Env :=
  { sampleEnv with
    unmarshal := fun content =>
      if content = quietFile then .ok quietConfig else sampleEnv.unmarshal content }

def quietDisk : Disk := { sampleDisk with config := .ok quietFile }

/-- Started anew with it. -/
def quietStart : World :=
  .fresh ⟨false, false, false, false, 0⟩ false .starting none .load (buildRuntime 1 quietConfig none)
    quietDisk [⟨0, 0, 1000000000⟩]

theorem quietStart_starting : Starting quietStart :=
  ⟨World.fresh_fresh _ _ _ _ _ _ _ rfl (by simp), rfl, rfl, rfl, by decide⟩

/-- `Start` listens and serves. -/
def serveStart : List Action := goes 0 2 ++ [.run 0 .ok] ++ goes 0 3

/-- The sample in service is reloaded. -/
def quietReload : List Action :=
  serveStart ++ [.env quietDisk, .call .manager] ++ goes 2 18 ++ proberExits 1 ++ goes 2 3

theorem reload_unlike_restart :
    ¬ ∀ (env : Env) (w₀ w v₀ v : World) (disk₁ disk₂ : Disk) (c₁ c₂ : Config) (rt old : Rid),
      (∃ file, loadConfig env file = .ok c₁) → (∃ file, loadConfig env file = .ok c₂) →
      c₁.server.addr = c₂.server.addr →
      Starting w₀ → BuiltFrom disk₁ c₁ (w₀.shared.heap 0) → Run env (fun _ _ => True) w₀ w →
      .manager (.returned (.accepted c₂ rt old)) ∈ w.threads → w.shared.server.runtime = rt →
      .start .serving ∈ w.threads →
      Starting v₀ → BuiltFrom disk₂ c₂ (v₀.shared.heap 0) → Run env (fun _ _ => True) v₀ v →
      v.shared.server.runtime = 0 → .start .serving ∈ v.threads → Alike w v := by
  intro claim
  obtain ⟨w, r, reloaded, active, serving, scrape⟩ := Exec.exists_run_of_execWhile
    (World.step quietEnv) (fun _ _ => True) sampleStart quietReload
    (fun w => .manager (.returned (.accepted quietConfig 1 0)) ∈ w.threads ∧
      w.shared.server.runtime = 1 ∧ .start .serving ∈ w.threads ∧
      w.shared.server.mux.findHandler ⟨"GET", bytes "/metrics"⟩ = .handler .metrics)
    (by decide +kernel)
  obtain ⟨v, r', active', serving', proxied⟩ := Exec.exists_run_of_execWhile
    (World.step quietEnv) (fun _ _ => True) quietStart serveStart
    (fun v => v.shared.server.runtime = 0 ∧ .start .serving ∈ v.threads ∧
      v.shared.server.mux.findHandler ⟨"GET", bytes "/metrics"⟩ = .handler .proxy)
    (by decide +kernel)
  have loaded : ∃ file, loadConfig quietEnv file = .ok sampleConfig :=
    ⟨.ok sampleFile, eq_ok_of_toOption (by decide +kernel)⟩
  have loaded' : ∃ file, loadConfig quietEnv file = .ok quietConfig :=
    ⟨.ok quietFile, eq_ok_of_toOption (by decide +kernel)⟩
  have alike := claim quietEnv sampleStart w quietStart v sampleDisk quietDisk sampleConfig quietConfig
    1 0 loaded loaded' rfl sampleStart_starting ⟨1, none, rfl, rfl⟩ r reloaded active serving
    quietStart_starting ⟨1, none, rfl, rfl⟩ r' active' serving'
  have same := alike.choice ⟨"GET", bytes "/metrics"⟩
  rw [scrape, proxied] at same
  cases same

/-- The same two servers, by what does hold of them. -/
theorem reload_like_restart_quiet :
    ∃ w v, Run quietEnv (fun _ _ => True) sampleStart w ∧
      Run quietEnv (fun _ _ => True) quietStart v ∧
      w.shared.server.listener = v.shared.server.listener ∧
      w.shared.server.mux.findHandler ⟨"GET", bytes "/metrics"⟩ = .handler .metrics ∧
      ∀ path, (w.shared.heap 1).serves path = (v.shared.heap 0).serves path := by
  obtain ⟨w, r, reloaded, active, serving⟩ := Exec.exists_run_of_execWhile
    (World.step quietEnv) (fun _ _ => True) sampleStart quietReload
    (fun w => .manager (.returned (.accepted quietConfig 1 0)) ∈ w.threads ∧
      w.shared.server.runtime = 1 ∧ .start .serving ∈ w.threads)
    (by decide +kernel)
  obtain ⟨v, r', active', serving'⟩ := Exec.exists_run_of_execWhile
    (World.step quietEnv) (fun _ _ => True) quietStart serveStart
    (fun v => v.shared.server.runtime = 0 ∧ .start .serving ∈ v.threads)
    (by decide +kernel)
  have built : BuiltFrom sampleDisk sampleConfig (sampleStart.shared.heap 0) :=
    ⟨1, none, rfl, rfl⟩
  have built' : BuiltFrom quietDisk quietConfig (quietStart.shared.heap 0) := ⟨1, none, rfl, rfl⟩
  obtain ⟨security, -, metrics, route, -⟩ := reload_like_restart sampleStart_starting built r reloaded
    .refl active serving quietStart_starting built' r' active' serving'
  exact ⟨w, v, r, r', security rfl, metrics _ (by decide +kernel), route⟩

end TorusProxy
