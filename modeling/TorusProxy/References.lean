import TorusProxy.Blueprint
import TorusProxy.Routing

/-! The pointers of a runtime: a route to its service, a service to its
backends. None that a request follows leads nowhere. -/
namespace TorusProxy

open Threads

structure Runtime.Sound (rt : Runtime) : Prop where
  routes : ∀ key svc, (key, some svc) ∈ rt.router.routes → svc < rt.services.length
  services : ∀ s ∈ rt.services, ∀ b ∈ s.backends, b < rt.backends.length

theorem Runtime.blueprint_sound {rt : Runtime} : rt.blueprint.Sound ↔ rt.Sound := by
  have services : (∀ s ∈ rt.blueprint.services, ∀ b ∈ s.backends, b < rt.blueprint.backends.length) ↔
      ∀ s ∈ rt.services, ∀ b ∈ s.backends, b < rt.backends.length := by
    rw [Runtime.blueprint_backends]
    simp [Runtime.blueprint, Runtime.still]
  constructor
  · intro h
    refine ⟨?_, services.mp h.services⟩
    intro key svc mem
    rw [← Runtime.blueprint_services]
    exact h.routes key svc mem
  · intro h
    refine ⟨?_, services.mpr h.services⟩
    intro key svc mem
    rw [Runtime.blueprint_services]
    exact h.routes key svc mem

theorem Runtime.Sound.of_blueprint {rt rt' : Runtime} (h : rt.Sound)
    (same : rt'.blueprint = rt.blueprint) : rt'.Sound := by
  rw [← Runtime.blueprint_sound, same]
  exact Runtime.blueprint_sound.mpr h

/-- A service that routing finds is one of the runtime's. -/
theorem Runtime.Sound.route {rt : Runtime} (h : rt.Sound) {path key : Bytes} {svc : Nat}
    (found : rt.router.route path = (key, some svc)) : svc < rt.services.length := by
  have best := Router.foldl_best path rt.router.routes ([], none)
  rw [← Router.route, found] at best
  rcases best.origin with start | ⟨mem, -⟩
  · cases start
  · exact h.routes key svc mem

/-! ## What the builder makes -/

/-- The runtime and the local variables of the loops lead somewhere. -/
structure Sketched (x : Runtime × BuildVars) : Prop where
  sound : x.1.Sound
  backends : ∀ b ∈ x.2.backends, b < x.1.backends.length
  services : ∀ name svc, (name, svc) ∈ x.2.services → svc < x.1.services.length

theorem BuildVars.lookup_mem {vars : BuildVars} {name : String} {svc : Nat}
    (h : vars.lookup name = some svc) : ∃ key, (key, svc) ∈ vars.services := by
  obtain ⟨⟨key, found⟩, hf, rfl⟩ := Option.map_eq_some_iff.mp h
  exact ⟨key, List.mem_of_find?_eq_some hf⟩

theorem Sketched.apply {x : Runtime × BuildVars} (h : Sketched x) (item : BuildItem) :
    Sketched (BuildItem.apply x item) := by
  obtain ⟨rt, vars⟩ := x
  cases item with
  | upstream service url =>
    have longer : (rt.addBackend url).backends.length = rt.backends.length + 1 := by
      simp [Runtime.addBackend]
    refine ⟨⟨h.sound.routes, ?_⟩, ?_, h.services⟩
    · intro s hs b hb
      have lt : b < rt.backends.length := h.sound.services s hs b hb
      simp only [BuildItem.apply, longer]
      omega
    · intro b hb
      simp only [BuildItem.apply, longer]
      rcases List.mem_append.mp hb with hb | hb
      · have lt : b < rt.backends.length := h.backends b hb
        omega
      · rw [List.mem_singleton.mp hb]
        exact Nat.lt_succ_self _
  | service name =>
    have longer : (rt.addService vars.backends).services.length = rt.services.length + 1 := by
      simp [Runtime.addService]
    refine ⟨⟨?_, ?_⟩, by simp [BuildItem.apply], ?_⟩
    · intro key svc mem
      have lt : svc < rt.services.length := h.sound.routes key svc mem
      simp only [BuildItem.apply, longer]
      omega
    · intro s hs b hb
      rcases List.mem_append.mp hs with hs | hs
      · exact h.sound.services s hs b hb
      · rw [List.mem_singleton.mp hs] at hb
        exact h.backends b hb
    · intro key svc mem
      simp only [BuildItem.apply, longer]
      rcases List.mem_cons.mp mem with here | mem
      · cases here
        exact Nat.lt_succ_self _
      · have lt : svc < rt.services.length := h.services key svc mem
        omega
  | route path name =>
    refine ⟨⟨?_, h.sound.services⟩, h.backends, h.services⟩
    intro key svc mem
    rcases Router.mem_addRoute.mp mem with ⟨-, found⟩ | ⟨-, mem⟩
    · obtain ⟨name', mem⟩ := BuildVars.lookup_mem found.symm
      exact h.services name' svc mem
    · exact h.sound.routes key svc mem

theorem Sketched.assemble (generation : Nat) (cfg : Config) (tls : Option TLSSettings)
    (items : List BuildItem) : Sketched (assemble generation cfg tls items) := by
  induction items using List.reverseRecOn with
  | nil => exact ⟨⟨by rintro key svc ⟨⟩, by rintro s ⟨⟩⟩, by rintro b ⟨⟩, by rintro name svc ⟨⟩⟩
  | append_singleton items item ih =>
    rw [assemble_snoc]
    exact ih.apply item

theorem BuiltFrom.sound {disk : Disk} {cfg : Config} {rt : Runtime} (h : BuiltFrom disk cfg rt) :
    rt.Sound := by
  obtain ⟨generation, tls, -, built⟩ := h
  rw [← Runtime.blueprint_sound, built]
  exact (Sketched.assemble generation cfg tls (buildPlan cfg)).sound

/-! ## Along a run -/

/-- A runtime that is handed to `Server.Reload` is whole. -/
def SoundCalls (_ : World) : Action → Prop
  | .call (.reload rt) => rt.Sound
  | _ => True

/-- What a request has looked up is there. -/
def HandlerPC.Leads (sh : Shared) : HandlerPC → Prop
  | .next rt _ svc _ => svc < (sh.heap rt).services.length
  | .isHealthy rt _ svc _ b =>
    svc < (sh.heap rt).services.length ∧ b < (sh.heap rt).backends.length
  | _ => True

structure Wired (w : World) : Prop where
  consistent : Consistent w
  history : History w
  building : Building w
  held : Held w
  installed : ∀ r ∈ w.shared.installed, (w.shared.heap r).Sound
  offered : ∀ new pc, .reload new pc ∈ w.threads → (w.shared.heap new).Sound
  leads : ∀ req pc, .request req pc ∈ w.threads → pc.Leads w.shared

theorem HandlerPC.Leads.of_blueprint {sh sh' : Shared} {pc : HandlerPC} (h : pc.Leads sh)
    (same : ∀ r, pc.acquired = some r → (sh'.heap r).blueprint = (sh.heap r).blueprint) :
    pc.Leads sh' := by
  have services {r : Rid} (hr : pc.acquired = some r) :
      (sh'.heap r).services.length = (sh.heap r).services.length := by
    rw [← Runtime.blueprint_services, same r hr, Runtime.blueprint_services]
  have backends {r : Rid} (hr : pc.acquired = some r) :
      (sh'.heap r).backends.length = (sh.heap r).backends.length := by
    rw [← Runtime.blueprint_backends, same r hr, Runtime.blueprint_backends]
  cases pc with
  | next rt => exact Nat.lt_of_lt_of_eq h (services rfl).symm
  | isHealthy rt =>
    exact ⟨Nat.lt_of_lt_of_eq h.1 (services rfl).symm, Nat.lt_of_lt_of_eq h.2 (backends rfl).symm⟩
  | _ => trivial

/-- A request looks up what a sound runtime has, in the state it reads. -/
theorem httpHandler_leads {req : Request} {sh sh' : Shared} {pc pc' : HandlerPC} {c : Choice}
    (h : httpHandler req sh c pc = some (sh', pc')) (leads : pc.Leads sh)
    (sound : ∀ r, pc.holds = some r → (sh.heap r).Sound) : pc'.Leads sh := by
  cases httpHandler_step h with
  | found rt key svc found => exact (sound rt rfl).route found
  | draw rt key svc i s b at_ _ drawn =>
    exact ⟨leads, (sound rt rfl).services s (List.mem_of_getElem? at_) b
      (List.mem_of_getElem? drawn)⟩
  | unhealthy => exact leads.1
  | _ => trivial

namespace Wired

variable {env : Env} {w w' : World} {a : Action}

/-- Who is about to install a runtime has a sound one. -/
theorem swapping (h : Wired w) {t : Thread} (ht : t ∈ w.threads) {r : Rid}
    (swapping : t.swapping = some r) : (w.shared.heap r).Sound := by
  unfold Thread.swapping at swapping
  split at swapping <;> cases swapping
  · exact h.offered r _ ht
  · obtain ⟨disk, built⟩ := h.building _ ht
    exact built.sound

theorem step_installed (h : Wired w) (m : Moved (machine env) w a w') :
    ∀ r ∈ w'.shared.installed, (w'.shared.heap r).Sound := by
  intro r hr
  have same := h.history.blueprint_installed h.consistent m hr
  rcases History.grows m with ⟨installed, -⟩ | ⟨t, ht, new, swapping, installed, -⟩
  · exact (h.installed r (installed ▸ hr)).of_blueprint same
  · rw [installed] at hr
    rcases List.mem_append.mp hr with hr | hr
    · exact (h.installed r hr).of_blueprint same
    · obtain rfl := List.mem_singleton.mp hr
      exact (h.swapping ht swapping).of_blueprint same

/-- The runtime of a call of `Server.Reload` stays as it was handed over. -/
theorem offer_stays (h : Wired w) (m : Moved (machine env) w a w') {new : Rid} {pc : ReloadPC}
    (ht : .reload new pc ∈ w.threads) :
    (w'.shared.heap new).blueprint = (w.shared.heap new).blueprint := by
  by_cases mem : new ∈ w.shared.installed
  · exact h.history.blueprint m mem
  · have kept : pc.displaced = none := by
      by_contra swapped
      exact mem (h.history.swapped _ ht new (if_pos (Option.isSome_iff_ne_none.mpr swapped)))
    have owned : ∃ role, (Thread.reload new pc).owned = some (new, role) ∧ role ≠ .building := by
      cases pc <;> first | exact ⟨_, rfl, by rintro ⟨⟩⟩ | cases kept
    obtain ⟨role, owned, past⟩ := owned
    have retiring := Serving.retiring_of_owned h.consistent ht owned past
    refine blueprint_stays m retiring.allocated ?_
    intro i c t _ hi
    exact retiring.built t (List.mem_of_getElem? hi)

theorem step_offered (h : Wired w) (whole : SoundCalls w a) (m : Moved (machine env) w a w') :
    ∀ new pc, .reload new pc ∈ w'.threads → (w'.shared.heap new).Sound := by
  have stays {new : Rid} {pc : ReloadPC} {b : Action} {v : World}
      (ht : .reload new pc ∈ w.threads) (mv : Moved (machine env) w b v) :
      (v.shared.heap new).Sound := (h.offered new pc ht).of_blueprint (h.offer_stays mv ht)
  have kept := m.assertion (fun sh t => ∀ new pc, t = .reload new pc → (sh.heap new).Sound)
    (by rintro t ht new pc rfl; exact h.offered new pc ht) ?_ ?_ ?_ ?_
  · exact fun new pc ht => kept _ ht new pc rfl
  · intro i t c sh' t' started _ hi _ fires
    have ht := List.mem_of_getElem? hi
    have moved : Moved (machine env) w (.run i c) _ := .step hi fires
    have move := Thread.step_move fires
    refine ⟨?_, ?_⟩
    · rintro new pc rfl
      cases move with
      | reload _ move => exact stays ht moved
    · rintro n hn new pc rfl
      obtain ⟨p, hp⟩ := move.starts _ hn
      cases hp
  · rintro i j t u c sh' t' started _ _ hi hj fires _ new pc rfl
    have moved : Moved (machine env) w (.run i c) _ := .step hi fires
    exact stays (List.mem_of_getElem? hj) moved
  · intro x sh' t ha fires
    have moved : Moved (machine env) w (.call x) _ := .enter fires
    refine ⟨?_, ?_⟩
    · rintro new pc rfl
      cases enter_move fires with
      | reload rt =>
        subst ha
        have sound : rt.Sound := whole
        refine sound.of_blueprint ?_
        simp only [Function.update_self]
        rfl
    · rintro u hu _ new pc rfl
      exact stays hu moved
  · rintro disk sh' fires u hu before new pc rfl
    cases fires
    exact before new pc rfl

theorem step_leads (h : Wired w) (m : Moved (machine env) w a w') :
    ∀ req pc, .request req pc ∈ w'.threads → pc.Leads w'.shared := by
  have held := h.held.step h.history h.consistent m
  intro req pc ht
  have before : pc.Leads w.shared := by
    cases World.origin m ht with
    | stayed mem => exact h.leads req pc mem
    | moved u c hu fires =>
      cases Thread.step_runs fires with
      | @request _ pc₀ _ runs =>
        refine httpHandler_leads runs (h.leads _ pc₀ hu) ?_
        intro r holds
        exact h.installed r (h.held _ pc₀ r hu (HandlerPC.acquired_of_holds holds))
    | entered x fires =>
      cases enter_move fires
      trivial
  refine before.of_blueprint ?_
  intro r acquired
  exact h.history.blueprint_installed h.consistent m (held req pc r ht acquired)

theorem step (h : Wired w) (whole : SoundCalls w a) (hs : World.step env w a = some w') :
    Wired w' :=
  have m := Machine.next_moved hs
  ⟨h.consistent.step hs, h.history.step h.consistent hs,
    h.building.step h.consistent h.history hs, h.held.step h.history h.consistent m,
    h.step_installed m, h.step_offered whole m, h.step_leads m⟩

theorem run {ok : World → Action → Prop} (imp : ∀ v b, ok v b → SoundCalls v b) (h : Wired w)
    (r : Run env ok w w') : Wired w' :=
  r.invariant Wired h fun _ _ _ _ inv hok hs => inv.step (imp _ _ hok) hs

end Wired

theorem Fresh.wired {pc : StartPC} {w : World} (h : Fresh pc w) (free : pc.hold = .none)
    (sound : (w.shared.heap 0).Sound) : Wired w := by
  refine ⟨h.consistent free, h.history, h.building, h.held, ?_, ?_, ?_⟩
  · intro r hr
    rw [h.installed] at hr
    rw [List.mem_singleton.mp hr]
    exact sound
  · intro new pc ht
    rcases h.threads _ ht with ⟨p, q, hp, -⟩ | hp <;> cases hp
  · intro req pc ht
    rcases h.threads _ ht with ⟨p, q, hp, -⟩ | hp <;> cases hp

end TorusProxy
