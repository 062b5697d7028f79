import Mathlib.Data.List.Induction
import TorusProxy.History

/-! What `BuildRuntime` makes of a configuration, and that nobody but the
reload that builds a runtime changes it. -/
namespace TorusProxy

open Threads

/-- A runtime without what changes once it is built. -/
def Runtime.blueprint (rt : Runtime) : Runtime :=
  { rt.still with cancelled := false, requestWG := 0, workerWG := 0 }

theorem Runtime.still_blueprint (rt : Runtime) : rt.still.blueprint = rt.blueprint := by
  simp [Runtime.blueprint, Runtime.still, Function.comp_def]

section
variable {env : Env} {sh sh' : Shared} {t t' : Thread} {new : List Thread}

theorem Shared.Still.blueprint (h : Shared.Still sh sh') (r : Rid) :
    (sh'.heap r).blueprint = (sh.heap r).blueprint := by
  have same := congrArg Runtime.blueprint (h.heap r)
  rwa [Runtime.still_blueprint, Runtime.still_blueprint] at same

/-- Only the reload that builds a runtime changes its blueprint. -/
theorem ThreadMove.blueprint (h : ThreadMove env sh t sh' t' new) {r : Rid}
    (ne : r ≠ sh.allocated) (built : t.owned ≠ some (r, .building)) :
    (sh'.heap r).blueprint = (sh.heap r).blueprint := by
  cases h with
  | request req move =>
    cases move with
    | rLock hm => exact Shared.tryMu_same (fun x => (x.heap r).blueprint) (fun _ => rfl) hm
    | acquire | release => exact Shared.setRuntime_same r Runtime.blueprint rfl
    | inner _ _ _ _ _ still => exact still.blueprint r
    | load | rUnlock | exit => rfl
  | reload rt move => exact move.heap_same r Runtime.blueprint (fun _ => rfl)
  | manager move =>
    have other {rt : Rid} (owned : some (rt, Role.building) ≠ some (r, .building)) : r ≠ rt := by
      rintro rfl
      exact owned rfl
    cases move with
    | allocate cfg tls => simp [TorusProxy.allocate, ne]
    | backend cfg rt => simp [other built]
    | service cfg rt => simp [other built]
    | route cfg rt => simp [other built]
    | backendFailed | startProber => exact Shared.setRuntime_same r Runtime.blueprint rfl
    | reload cfg rt move => exact move.heap_same r Runtime.blueprint (fun _ => rfl)
    | stop cfg rt move => exact move.heap_same r Runtime.blueprint (fun _ => rfl)
    | _ => rfl
  | shutdown move => exact move.heap_same r Runtime.blueprint (fun _ => rfl)
  | start move => exact move.heap_same r Runtime.blueprint (fun _ => rfl)
  | prober p move =>
    cases move with
    | inner _ _ still => exact still.blueprint r
    | restart | exit => exact Shared.setRuntime_same r Runtime.blueprint rfl

end

section
variable {env : Env} {w w' : World} {a : Action}

theorem blueprint_stays (m : Moved (machine env) w a w') {r : Rid} (lt : r < w.shared.allocated)
    (built : ∀ i c t, a = .run i c → w.threads[i]? = some t → t.owned ≠ some (r, .building)) :
    (w'.shared.heap r).blueprint = (w.shared.heap r).blueprint := by
  have ne : r ≠ w.shared.allocated := Nat.ne_of_lt lt
  cases m with
  | step at_ fires => exact (Thread.step_move fires).blueprint ne (built _ _ _ rfl at_)
  | enter fires =>
    cases enter_move fires with
    | reload rt => simp [ne]
    | request | manager | shutdown => rfl
  | change fires => cases fires; rfl

/-- A runtime that was installed is built. -/
theorem History.blueprint (h : History w) (m : Moved (machine env) w a w') {r : Rid}
    (hr : r ∈ w.shared.installed) : (w'.shared.heap r).blueprint = (w.shared.heap r).blueprint := by
  refine blueprint_stays m (h.allocated r hr) ?_
  intro i c t _ hi building
  cases (h.roles t (List.mem_of_getElem? hi) r .building building).mp hr

theorem History.blueprint_run {ok : World → Action → Prop} (h : History w) (c : Consistent w)
    {r : Rid} (hr : r ∈ w.shared.installed) (later : Run env ok w w') :
    (w'.shared.heap r).blueprint = (w.shared.heap r).blueprint := by
  refine (later.invariant (fun v => (History v ∧ Consistent v ∧ r ∈ v.shared.installed) ∧
    (v.shared.heap r).blueprint = (w.shared.heap r).blueprint) ⟨⟨h, c, hr⟩, rfl⟩ ?_).2
  rintro b u v _ ⟨⟨hu, cu, mem⟩, same⟩ _ hs
  have m := Machine.next_moved hs
  exact ⟨⟨hu.step cu hs, cu.step hs, History.installed_stays m mem⟩, (hu.blueprint m mem).trans same⟩

/-- Installing a runtime does not change it either. -/
theorem History.blueprint_installed (h : History w) (c : Consistent w)
    (m : Moved (machine env) w a w') {r : Rid} (hr : r ∈ w'.shared.installed) :
    (w'.shared.heap r).blueprint = (w.shared.heap r).blueprint := by
  rcases History.grows m with ⟨installed, -⟩ | ⟨t, ht, new, swapping, installed, -⟩
  · exact h.blueprint m (installed ▸ hr)
  · rw [installed] at hr
    rcases List.mem_append.mp hr with hr | hr
    · exact h.blueprint m hr
    · obtain rfl := List.mem_singleton.mp hr
      have owned := (Thread.swapping_owned swapping).1
      refine blueprint_stays m (c.owned_ne ht owned).1 ?_
      intro i k u _ hi building
      obtain ⟨j, hj⟩ := List.mem_iff_getElem?.mp ht
      obtain rfl := c.owner_unique hi hj building owned
      cases hi.symm.trans hj
      rw [owned] at building
      cases building

end

/-! ## The builder as a function -/

/-- One loop body on the runtime and the local variables. -/
def BuildItem.apply : Runtime × BuildVars → BuildItem → Runtime × BuildVars
  | (rt, vars), .upstream _ url =>
    (rt.addBackend url, { vars with backends := vars.backends ++ [rt.backends.length] })
  | (rt, vars), .service name =>
    (rt.addService vars.backends, ⟨[], (name, rt.services.length) :: vars.services⟩)
  | (rt, vars), .route path name => (rt.addRoute (bytes path) (vars.lookup name), vars)

def assemble (generation : Nat) (cfg : Config) (tls : Option TLSSettings)
    (items : List BuildItem) : Runtime × BuildVars :=
  items.foldl BuildItem.apply
    (newRuntime generation cfg.server.addr tls cfg.observability.enabledValue, .empty)

theorem assemble_snoc (generation : Nat) (cfg : Config) (tls : Option TLSSettings)
    (items : List BuildItem) (item : BuildItem) :
    assemble generation cfg tls (items ++ [item]) =
      BuildItem.apply (assemble generation cfg tls items) item := by
  rw [assemble, List.foldl_append]
  rfl

/-- The runtime `BuildRuntime` returns where every upstream URL parses. -/
def buildRuntime (generation : Nat) (cfg : Config) (tls : Option TLSSettings) : Runtime :=
  (assemble generation cfg tls (buildPlan cfg)).1

/-- The loops of `BuildRuntime` for this configuration have made this of the
runtime and the local variables. -/
def Assembled (cfg : Config) (items : List BuildItem) (rt : Runtime) (vars : BuildVars) : Prop :=
  ∃ disk generation tls, loadTlsConfig disk cfg.tls = .ok tls ∧
    assemble generation cfg tls items = (rt.blueprint, vars)

/-- The runtime is one that `BuildRuntime` returned for this configuration, with the
key pair that is on this disk. -/
def BuiltFrom (disk : Disk) (cfg : Config) (rt : Runtime) : Prop :=
  ∃ generation tls, loadTlsConfig disk cfg.tls = .ok tls ∧
    rt.blueprint = buildRuntime generation cfg tls

theorem Assembled.snoc {cfg : Config} {items : List BuildItem} {rt rt' : Runtime}
    {vars vars' : BuildVars} (h : Assembled cfg items rt vars) (item : BuildItem)
    (next : BuildItem.apply (rt.blueprint, vars) item = (rt'.blueprint, vars')) :
    Assembled cfg (items ++ [item]) rt' vars' := by
  obtain ⟨disk, generation, tls, loaded, built⟩ := h
  refine ⟨disk, generation, tls, loaded, ?_⟩
  rw [assemble_snoc, built]
  exact next

theorem Assembled.of_blueprint {cfg : Config} {items : List BuildItem} {rt rt' : Runtime}
    {vars : BuildVars} (h : Assembled cfg items rt vars) (same : rt'.blueprint = rt.blueprint) :
    Assembled cfg items rt' vars := by
  obtain ⟨disk, generation, tls, loaded, built⟩ := h
  exact ⟨disk, generation, tls, loaded, built.trans (by rw [same])⟩

theorem assemble_tlsConfig (generation : Nat) (cfg : Config) (tls : Option TLSSettings)
    (items : List BuildItem) : (assemble generation cfg tls items).1.tlsConfig = tls := by
  induction items using List.reverseRecOn with
  | nil => rfl
  | append_singleton items item ih =>
    rw [assemble_snoc]
    cases item <;> exact ih

section
variable {disk disk' : Disk} {cfg : Config} {rt rt' : Runtime}

theorem BuiltFrom.of_blueprint (h : BuiltFrom disk cfg rt)
    (same : rt'.blueprint = rt.blueprint) : BuiltFrom disk cfg rt' := by
  obtain ⟨generation, tls, loaded, built⟩ := h
  exact ⟨generation, tls, loaded, same.trans built⟩

theorem BuiltFrom.tlsConfig (h : BuiltFrom disk cfg rt) :
    loadTlsConfig disk cfg.tls = .ok rt.tlsConfig := by
  obtain ⟨generation, tls, loaded, built⟩ := h
  have same : rt.blueprint.tlsConfig = (buildRuntime generation cfg tls).tlsConfig := by rw [built]
  have kept : rt.tlsConfig = rt.blueprint.tlsConfig := rfl
  rw [loaded, kept, same.trans (assemble_tlsConfig generation cfg tls _)]

/-- Any disk that has the key pair the runtime carries will do. -/
theorem BuiltFrom.on (h : BuiltFrom disk cfg rt)
    (loaded : loadTlsConfig disk' cfg.tls = .ok rt.tlsConfig) : BuiltFrom disk' cfg rt := by
  have before := h.tlsConfig
  obtain ⟨generation, tls, there, built⟩ := h
  cases there.symm.trans before
  exact ⟨generation, _, loaded, built⟩

end

theorem Assembled.builtFrom {cfg : Config} {rt : Runtime} {vars : BuildVars}
    (h : Assembled cfg (buildPlan cfg) rt vars) : ∃ disk, BuiltFrom disk cfg rt := by
  obtain ⟨disk, generation, tls, loaded, built⟩ := h
  exact ⟨disk, generation, tls, loaded, (congrArg Prod.fst built).symm⟩

theorem Runtime.blueprint_backends (rt : Runtime) :
    rt.blueprint.backends.length = rt.backends.length := by
  simp [Runtime.blueprint, Runtime.still]

theorem Runtime.blueprint_services (rt : Runtime) :
    rt.blueprint.services.length = rt.services.length := by
  simp [Runtime.blueprint, Runtime.still]

theorem Runtime.blueprint_addBackend (rt : Runtime) (url : String) :
    (rt.addBackend url).blueprint = rt.blueprint.addBackend url := by
  simp [Runtime.blueprint, Runtime.still, Runtime.addBackend]

theorem Runtime.blueprint_addService (rt : Runtime) (bs : List Nat) :
    (rt.addService bs).blueprint = rt.blueprint.addService bs := by
  simp [Runtime.blueprint, Runtime.still, Runtime.addService]

/-- How far the call has come with the runtime it builds. -/
def ManagerPC.Built (sh : Shared) : ManagerPC → Prop
  | .generation cfg loaded => ∃ disk, loadTlsConfig disk cfg.tls = .ok loaded
  | .build cfg rt todo vars | .startProber cfg rt _ todo vars =>
    ∃ items, buildPlan cfg = items ++ todo ∧ Assembled cfg items (sh.heap rt) vars
  | .serverReload cfg rt _ | .stop cfg rt _ | .recordFailure (.accepted cfg rt _)
  | .recordFailure (.rejected cfg rt) | .returned (.accepted cfg rt _)
  | .returned (.rejected cfg rt) => ∃ disk, BuiltFrom disk cfg (sh.heap rt)
  | _ => True

/-- The runtime that `Built` speaks of. -/
def ManagerPC.builds : ManagerPC → Option Rid
  | .build _ rt _ _ | .startProber _ rt _ _ _ | .serverReload _ rt _ | .stop _ rt _
  | .recordFailure (.accepted _ rt _) | .recordFailure (.rejected _ rt)
  | .returned (.accepted _ rt _) | .returned (.rejected _ rt) => some rt
  | _ => none

theorem ManagerPC.Built.of_blueprint {sh sh' : Shared} {pc : ManagerPC} (h : pc.Built sh)
    (same : ∀ r, pc.builds = some r → (sh'.heap r).blueprint = (sh.heap r).blueprint) :
    pc.Built sh' := by
  cases pc with
  | build cfg rt todo vars | startProber cfg rt b todo vars =>
    obtain ⟨items, plan, built⟩ := h
    exact ⟨items, plan, built.of_blueprint (same rt rfl)⟩
  | serverReload cfg rt pc | stop cfg rt pc => exact h.imp fun _ b => b.of_blueprint (same rt rfl)
  | recordFailure out | returned out =>
    cases out with
    | accepted cfg rt old => exact h.imp fun _ b => b.of_blueprint (same rt rfl)
    | rejected cfg rt => exact h.imp fun _ b => b.of_blueprint (same rt rfl)
    | abandoned | failed => trivial
  | _ => exact h

/-- The TLS settings the call has loaded, for the configuration it has read. -/
def ManagerPC.carries (sh : Shared) : ManagerPC → Option (Config × Option TLSSettings)
  | .generation cfg loaded => some (cfg, loaded)
  | .build cfg rt _ _ | .startProber cfg rt _ _ _ | .serverReload cfg rt _ | .stop cfg rt _
  | .recordFailure (.accepted cfg rt _) | .recordFailure (.rejected cfg rt)
  | .returned (.accepted cfg rt _) | .returned (.rejected cfg rt) =>
    some (cfg, (sh.heap rt).tlsConfig)
  | _ => none

theorem ManagerPC.carries_same {sh sh' : Shared} {pc : ManagerPC}
    (same : ∀ r, pc.builds = some r → (sh'.heap r).blueprint = (sh.heap r).blueprint) :
    pc.carries sh' = pc.carries sh := by
  have kept {rt : Rid} (hr : pc.builds = some rt) :
      (sh'.heap rt).tlsConfig = (sh.heap rt).tlsConfig := by
    have tls := congrArg Runtime.tlsConfig (same rt hr)
    exact tls
  cases pc with
  | build | startProber | serverReload | stop => simp only [carries, kept rfl]
  | recordFailure out | returned out =>
    cases out with
    | accepted | rejected => simp only [carries, kept rfl]
    | abandoned | failed => rfl
  | _ => rfl

/-- What a call carries it has loaded in its `tls` step. -/
theorem ManagerMove.carries {env : Env} {sh sh' : Shared} {pc pc' : ManagerPC}
    {new : Option Prober} (h : ManagerMove env sh pc sh' pc' new) {cfg : Config}
    {tls : Option TLSSettings} (carried : pc'.carries sh' = some (cfg, tls)) :
    pc.carries sh = some (cfg, tls) ∨ pc = .tls cfg ∧ loadTlsConfig sh.disk cfg.tls = .ok tls := by
  have kept {rt : Rid} {f : Runtime → Runtime}
      (same : (f (sh.heap rt)).tlsConfig = (sh.heap rt).tlsConfig) :
      ((sh.setRuntime rt f).heap rt).tlsConfig = (sh.heap rt).tlsConfig :=
    Shared.setRuntime_same rt Runtime.tlsConfig same
  have own {rt : Rid} {cfg' : Config} {sh' : Shared}
      (same : (sh'.heap rt).tlsConfig = (sh.heap rt).tlsConfig)
      (carried : some (cfg', (sh'.heap rt).tlsConfig) = some (cfg, tls)) :
      some (cfg', (sh.heap rt).tlsConfig) = some (cfg, tls) := same ▸ carried
  cases h with
  | tlsLoaded cfg tls h => cases carried; exact .inr ⟨rfl, h⟩
  | allocate cfg' tls' =>
    left
    simpa [ManagerPC.carries, TorusProxy.allocate, newRuntime] using carried
  | backend | service | route | startProber => exact .inl (own (kept rfl) carried)
  | reload cfg' rt move | stop cfg' rt move =>
    exact .inl (own (move.heap_same rt Runtime.tlsConfig fun _ => rfl) carried)
  | offer | accepted | refused | stopped => exact .inl carried
  | recordFailure out => cases out <;> exact .inl carried
  | noServer | begin | loadFailed | loaded | tlsFailed | backendFailed => cases carried

/-- What a call builds is its own to answer for, or was installed by it. -/
theorem ManagerPC.builds_owned {pc : ManagerPC} {r : Rid} (h : pc.builds = some r) :
    (∃ role, pc.owned = some (r, role)) ∨ (Thread.manager pc).swapped = some r := by
  cases pc with
  | build | startProber | stop => cases h; exact .inl ⟨_, rfl⟩
  | serverReload cfg rt pc => cases h; cases pc <;> first | exact .inl ⟨_, rfl⟩ | exact .inr rfl
  | recordFailure out | returned out =>
    cases out with
    | accepted => cases h; exact .inr rfl
    | rejected => cases h; exact .inl ⟨_, rfl⟩
    | abandoned | failed => cases h
  | _ => cases h

theorem ManagerMove.built {env : Env} {sh sh' : Shared} {pc pc' : ManagerPC}
    {new : Option Prober} (h : ManagerMove env sh pc sh' pc' new) (built : pc.Built sh) :
    pc'.Built sh' := by
  have snoc {cfg : Config} {rt : Rid} {item : BuildItem} {todo : List BuildItem}
      {vars vars' : BuildVars} {f : Runtime → Runtime}
      (before : ∃ items, buildPlan cfg = items ++ item :: todo ∧
        Assembled cfg items (sh.heap rt) vars)
      (next : BuildItem.apply ((sh.heap rt).blueprint, vars) item =
        ((f (sh.heap rt)).blueprint, vars')) :
      ∃ items, buildPlan cfg = items ++ todo ∧
        Assembled cfg items ((sh.setRuntime rt f).heap rt) vars' := by
    obtain ⟨items, plan, assembled⟩ := before
    refine ⟨items ++ [item], by simp [plan], assembled.snoc item ?_⟩
    simpa using next
  cases h with
  | tlsLoaded cfg tls h => exact ⟨_, h⟩
  | allocate cfg tls =>
    obtain ⟨disk, loaded⟩ := built
    refine ⟨[], rfl, disk, (sh.nextGeneration + 1) % 2 ^ 64, tls, loaded, ?_⟩
    simp [TorusProxy.allocate, assemble, newRuntime, Runtime.blueprint, Runtime.still]
  | backend cfg rt service url todo vars u h =>
    refine snoc built ?_
    rw [BuildItem.apply, Runtime.blueprint_addBackend, Runtime.blueprint_backends]
  | service cfg rt name todo vars =>
    refine snoc built ?_
    rw [BuildItem.apply, Runtime.blueprint_addService, Runtime.blueprint_services]
  | route cfg rt path service todo vars => exact snoc built rfl
  | startProber cfg rt b todo vars =>
    obtain ⟨items, plan, assembled⟩ := built
    exact ⟨items, plan, assembled.of_blueprint (Shared.setRuntime_same rt Runtime.blueprint rfl)⟩
  | offer cfg rt vars =>
    obtain ⟨items, plan, assembled⟩ := built
    rw [List.append_nil] at plan
    exact (plan ▸ assembled : Assembled cfg (buildPlan cfg) _ vars).builtFrom
  | reload cfg rt move =>
    exact built.imp fun _ b => b.of_blueprint (move.heap_same rt Runtime.blueprint fun _ => rfl)
  | stop cfg rt move =>
    exact built.imp fun _ b => b.of_blueprint (move.heap_same rt Runtime.blueprint fun _ => rfl)
  | accepted | refused | stopped => exact built
  | recordFailure out => cases out <;> exact built
  | noServer | begin | loadFailed | loaded | tlsFailed | backendFailed => trivial

/-! ## Every managed reload builds what it says -/

/-- Each call of `Manager.Reload` is as far as its place says. -/
def Building (w : World) : Prop := ∀ pc, .manager pc ∈ w.threads → pc.Built w.shared

section
variable {env : Env} {w w' : World} {a : Action}

/-- What a call has built stays as it is in the steps of the others. -/
theorem Building.blueprint (c : Consistent w) (history : History w)
    (m : Moved (machine env) w a w') {j : Nat} {pc : ManagerPC}
    (hj : w.threads[j]? = some (.manager pc)) (other : ∀ k, a ≠ .run j k) {r : Rid}
    (hr : pc.builds = some r) : (w'.shared.heap r).blueprint = (w.shared.heap r).blueprint := by
  have ht := List.mem_of_getElem? hj
  rcases ManagerPC.builds_owned hr with ⟨role, owned⟩ | swapped
  · refine blueprint_stays m (c.owned_ne ht owned).1 ?_
    rintro i k t rfl hi building
    obtain rfl := c.owner_unique hi hj building owned
    exact other k rfl
  · exact history.blueprint m (history.swapped _ ht r swapped)

theorem Building.step (h : Building w) (c : Consistent w) (history : History w)
    (hs : World.step env w a = some w') : Building w' := by
  have m := Machine.next_moved hs
  have built := World.assertion m (fun sh t => ∀ pc, t = .manager pc → pc.Built sh)
    (by rintro t ht pc rfl; exact h pc ht) ?_ ?_ ?_ ?_ ?_
  · exact fun pc ht => built _ ht pc rfl
  · rintro i t k sh' _ new _ hi inv fires pc rfl
    cases Thread.step_move fires with
    | manager move => exact move.built (inv _ rfl)
  · rintro i j t u k sh' t' new rfl hij hi hj fires inv pc rfl
    have others : Moved (machine env) w (.run i k) _ := .step hi fires
    refine (inv pc rfl).of_blueprint fun r hr => Building.blueprint c history others hj ?_ hr
    rintro k' ⟨⟩
    exact hij rfl
  · rintro sh' p pc ⟨⟩
  · intro x sh' t fires
    refine ⟨?_, ?_⟩
    · rintro pc rfl
      cases enter_move fires
      trivial
    · rintro u hu inv pc rfl
      obtain ⟨j, hj⟩ := List.mem_iff_getElem?.mp hu
      have entered : Moved (machine env) w (.call x) _ := .enter fires
      exact (inv pc rfl).of_blueprint fun r hr =>
        Building.blueprint c history entered hj (by rintro k ⟨⟩) hr
  · rintro disk u inv pc rfl
    exact (inv pc rfl).of_blueprint fun _ _ => rfl

theorem Building.run {ok : World → Action → Prop} (h : Building w) (c : Consistent w)
    (history : History w) (r : Run env ok w w') : Building w' := by
  refine (r.invariant (fun v => Building v ∧ Consistent v ∧ History v) ⟨h, c, history⟩ ?_).1
  rintro b u v _ ⟨hb, hc, hh⟩ _ hs
  exact ⟨hb.step hc hh hs, hc.step hs, hh.step hc hs⟩

theorem Fresh.building {pc : StartPC} (h : Fresh pc w) : Building w := by
  intro q ht
  rcases h.threads _ ht with ⟨p, q, hp, -⟩ | hp <;> cases hp

end

end TorusProxy
