import Mathlib.Data.List.Forall2
import Mathlib.Data.List.Nodup
import TorusProxy.Config

/-! `Config.Validate` decides a schema that does not speak of order. -/
namespace TorusProxy

/-! ## Checks in sequence -/

section
variable {α β : Type} {e : String} {x : Except String α} {b : β}

theorem throw_bind {f : α → Except String β} : (throw e >>= f) = .error e := rfl

theorem bind_ok {f : α → Except String β} : (x >>= f) = .ok b ↔ ∃ a, x = .ok a ∧ f a = .ok b := by
  cases x with
  | error e => simp [bind, Except.bind]
  | ok a => simp [bind, Except.bind]

theorem then_ok {x : Except String Unit} {y : Except String β} :
    (x >>= fun _ => y) = .ok b ↔ x = .ok () ∧ y = .ok b := by
  rw [bind_ok]
  constructor
  · rintro ⟨⟨⟩, first, later⟩
    exact ⟨first, later⟩
  · rintro ⟨first, later⟩
    exact ⟨(), first, later⟩

theorem guard_ok {p : Prop} [Decidable p] {y : Except String β} :
    (if p then .error e else y) = .ok b ↔ ¬ p ∧ y = .ok b := by
  by_cases h : p <;> simp [h]

end

/-! ## The schema -/

variable (env : Env)

/-- The URL test of one upstream, whose parser is the environment's. -/
structure Reaches (u : URL) : Prop where
  scheme : u.scheme = "http" ∨ u.scheme = "https"
  host : u.hostname ≠ ""
  port : ∃ n, atoi u.port = some n ∧ 1 ≤ n ∧ n ≤ 65535

def UpstreamURL (upstream : String) : Prop :=
  trimSpace upstream ≠ "" ∧ ∃ u, env.parseRequestURI upstream = .ok u ∧ Reaches u

structure ServiceConfig.Schema (svc : ServiceConfig) : Prop where
  name : trimSpace svc.name ≠ ""
  nonempty : svc.upstreams ≠ []
  urls : ∀ upstream ∈ svc.upstreams, UpstreamURL env upstream

structure TlsConfig.Schema (t : TlsConfig) : Prop where
  cert : trimSpace t.certFile ≠ ""
  key : trimSpace t.keyFile ≠ ""
  version : t.minVersion = "" ∨ t.minVersion = "1.2" ∨ t.minVersion = "1.3"

def Config.serviceNames (c : Config) : List String := c.services.map (trimSpace ·.name)

def Config.routePaths (c : Config) : List String := c.routes.map (·.path)

/-- What a document must say. -/
structure Config.Schema (c : Config) : Prop where
  addr : trimSpace c.server.addr ≠ ""
  timing : 0 < c.healthCheck.timeoutMs ∧ c.healthCheck.timeoutMs ≤ c.healthCheck.intervalMs
  path : trimSpace c.healthCheck.path ≠ "" ∧ hasPrefix c.healthCheck.path "/"
  nonempty : c.services ≠ [] ∧ c.routes ≠ []
  services : ∀ svc ∈ c.services, svc.Schema env
  names : c.serviceNames.Nodup
  routes : ∀ route ∈ c.routes, trimSpace route.path ≠ "" ∧ trimSpace route.service ∈ c.serviceNames
  paths : c.routePaths.Nodup
  tls : ∀ t, c.tls = some t → t.Schema

/-! ## The loops -/

theorem atoi_empty : atoi "" = none := by decide

theorem validateUpstream_ok {at_ upstream : String} :
    validateUpstream env at_ upstream = .ok () ↔ UpstreamURL env upstream := by
  unfold validateUpstream UpstreamURL
  rw [guard_ok]
  refine and_congr_right fun _ => ?_
  cases env.parseRequestURI upstream with
  | error err => simp
  | ok u =>
    simp only [guard_ok, Except.ok.injEq, exists_eq_left', not_and_or, not_not]
    constructor
    · rintro ⟨scheme, host, -, valid⟩
      refine ⟨scheme, host, ?_⟩
      split at valid
      · cases valid
      · rename_i n read
        rw [guard_ok] at valid
        exact ⟨n, read, by omega⟩
    · rintro ⟨scheme, host, n, read, low, high⟩
      refine ⟨scheme, host, ?_, ?_⟩
      · intro missing
        rw [missing, atoi_empty] at read
        cases read
      · rw [read]
        exact guard_ok.mpr ⟨by omega, rfl⟩

theorem validateUpstreams_ok {i j : Nat} {upstreams : List String} :
    validateUpstreams env i j upstreams = .ok () ↔
      ∀ upstream ∈ upstreams, UpstreamURL env upstream := by
  induction upstreams generalizing j with
  | nil => simp [validateUpstreams]
  | cons upstream rest ih =>
    rw [validateUpstreams, then_ok, validateUpstream_ok, ih, List.forall_mem_cons]

/-- The names seen are those before this place, then those of the services
from here on. -/
theorem validateServices_ok {i : Nat} {seen names : List String} {services : List ServiceConfig} :
    validateServices env i seen services = .ok names ↔
      names = (services.map (trimSpace ·.name)).reverse ++ seen ∧
      (∀ svc ∈ services, svc.Schema env) ∧ (services.map (trimSpace ·.name)).Nodup ∧
      ∀ svc ∈ services, trimSpace svc.name ∉ seen := by
  induction services generalizing i seen with
  | nil => simp [validateServices, eq_comm]
  | cons svc rest ih =>
    simp only [validateServices, throw_bind, guard_ok, then_ok, validateUpstreams_ok, ih,
      List.isEmpty_iff, forall_eq_or_imp, List.map_cons, List.reverse_cons, List.nodup_cons,
      List.append_assoc, List.singleton_append, List.mem_cons, not_or, List.mem_map, not_exists,
      not_and]
    constructor
    · rintro ⟨named, new, nonempty, urls, now, schema, distinct, apart⟩
      refine ⟨now, ⟨⟨named, nonempty, urls⟩, schema⟩, ⟨?_, distinct⟩, new, fun x hx => (apart x hx).2⟩
      intro x hx same
      exact (apart x hx).1 same
    · rintro ⟨now, ⟨head, schema⟩, ⟨apart, distinct⟩, new, later⟩
      refine ⟨head.name, new, head.nonempty, head.urls, now, schema, distinct, ?_⟩
      intro x hx
      exact ⟨apart x hx, later x hx⟩

theorem validateRoutes_ok {i : Nat} {names seen : List String} {routes : List RouteConfig}
    (named : "" ∉ names) :
    validateRoutes env names i seen routes = .ok () ↔
      (∀ route ∈ routes, trimSpace route.path ≠ "" ∧ trimSpace route.service ∈ names) ∧
      (routes.map (·.path)).Nodup ∧ ∀ route ∈ routes, route.path ∉ seen := by
  induction routes generalizing i seen with
  | nil => simp [validateRoutes]
  | cons route rest ih =>
    simp only [validateRoutes, throw_bind, guard_ok, ih, forall_eq_or_imp, List.map_cons,
      List.nodup_cons, List.mem_cons, not_or, List.mem_map, not_exists, not_and, not_not]
    constructor
    · rintro ⟨path, new, -, known, later, distinct, apart⟩
      refine ⟨⟨⟨path, known⟩, later⟩, ⟨?_, distinct⟩, new, fun x hx => (apart x hx).2⟩
      intro x hx same
      exact (apart x hx).1 same
    · rintro ⟨⟨⟨path, known⟩, later⟩, ⟨apart, distinct⟩, new, old⟩
      refine ⟨path, new, ?_, known, later, distinct, fun x hx => ⟨apart x hx, old x hx⟩⟩
      intro blank
      exact named (blank ▸ known)

theorem validateTls_ok {tls : Option TlsConfig} :
    validateTls tls = .ok () ↔ ∀ t, tls = some t → t.Schema := by
  cases tls with
  | none => simp [validateTls]
  | some t =>
    simp only [validateTls, guard_ok, Option.some.injEq, forall_eq']
    constructor
    · rintro ⟨cert, key, version⟩
      refine ⟨cert, key, ?_⟩
      split at version
      · assumption
      · cases version
    · rintro ⟨cert, key, version⟩
      exact ⟨cert, key, if_pos version⟩

theorem Config.validate_ok (c : Config) : c.validate env = .ok () ↔ c.Schema env := by
  simp only [Config.validate, throw_bind, guard_ok, bind_ok, validateServices_ok,
    List.append_nil, List.isEmpty_iff, Bool.not_eq_true', Bool.not_eq_false, validateTls_ok,
    Int.not_le, Int.not_lt]
  constructor
  · rintro ⟨addr, -, positive, ordered, blank, slash, services, names,
      ⟨rfl, schema, distinct, -⟩, routes, ⟨⟩, valid, tls⟩
    have named : "" ∉ (c.services.map (trimSpace ·.name)).reverse := by
      simp only [List.mem_reverse, List.mem_map, not_exists, not_and]
      exact fun svc hsvc => (schema svc hsvc).name
    obtain ⟨each, paths, -⟩ := (validateRoutes_ok env named).mp valid
    simp only [List.mem_reverse] at each
    exact ⟨addr, ⟨positive, ordered⟩, ⟨blank, slash⟩, ⟨services, routes⟩, schema, distinct, each,
      paths, tls⟩
  · intro h
    have named : "" ∉ (c.services.map (trimSpace ·.name)).reverse := by
      simp only [List.mem_reverse, List.mem_map, not_exists, not_and]
      exact fun svc hsvc => (h.services svc hsvc).name
    refine ⟨h.addr, Int.lt_of_lt_of_le h.timing.1 h.timing.2, h.timing.1, h.timing.2, h.path.1,
      h.path.2, h.nonempty.1, _, ⟨rfl, h.services, h.names, by simp⟩, h.nonempty.2, (), ?_, h.tls⟩
    rw [validateRoutes_ok env named]
    simp only [List.mem_reverse]
    exact ⟨h.routes, h.paths, by simp⟩

/-! ## Order -/

/-- The same service with its upstreams in another order. -/
structure ServiceConfig.Reordered (svc svc' : ServiceConfig) : Prop where
  name : svc'.name = svc.name
  upstreams : svc'.upstreams.Perm svc.upstreams

theorem ServiceConfig.Reordered.schema {svc svc' : ServiceConfig} (h : svc.Reordered svc') :
    svc'.Schema env ↔ svc.Schema env := by
  constructor
  · rintro ⟨name, nonempty, urls⟩
    refine ⟨h.name ▸ name, ?_, fun u hu => urls u (h.upstreams.mem_iff.mpr hu)⟩
    intro none
    exact nonempty (List.Perm.eq_nil (none ▸ h.upstreams))
  · rintro ⟨name, nonempty, urls⟩
    refine ⟨h.name ▸ name, ?_, fun u hu => urls u (h.upstreams.mem_iff.mp hu)⟩
    intro none
    exact nonempty (List.Perm.eq_nil (none ▸ h.upstreams.symm))

theorem ServiceConfig.reordered_names {services services' : List ServiceConfig}
    (each : List.Forall₂ ServiceConfig.Reordered services services') :
    services'.map (trimSpace ·.name) = services.map (trimSpace ·.name) := by
  induction each with
  | nil => rfl
  | cons first _ ih => rw [List.map_cons, List.map_cons, ih, first.name]

theorem ServiceConfig.reordered_schemas {services services' : List ServiceConfig}
    (each : List.Forall₂ ServiceConfig.Reordered services services') :
    (∀ svc ∈ services', svc.Schema env) ↔ ∀ svc ∈ services, svc.Schema env := by
  induction each with
  | nil => rfl
  | cons first _ ih => rw [List.forall_mem_cons, List.forall_mem_cons, ih, first.schema]

/-- The services, the upstreams of each and the routes are those of the
document in another order. -/
structure Config.Reordered (c : Config) (services : List ServiceConfig)
    (routes : List RouteConfig) : Prop where
  services : ∃ moved : List ServiceConfig, moved.Perm c.services ∧
    List.Forall₂ ServiceConfig.Reordered moved services
  routes : routes.Perm c.routes

section
variable {env} {c : Config} {services : List ServiceConfig} {routes : List RouteConfig}

theorem Config.Reordered.names (h : c.Reordered services routes) :
    (services.map (trimSpace ·.name)).Perm c.serviceNames := by
  obtain ⟨moved, perm, each⟩ := h.services
  rw [ServiceConfig.reordered_names each]
  exact perm.map _

theorem Config.Reordered.schemas (h : c.Reordered services routes) :
    (∀ svc ∈ services, svc.Schema env) ↔ ∀ svc ∈ c.services, svc.Schema env := by
  obtain ⟨moved, perm, each⟩ := h.services
  rw [ServiceConfig.reordered_schemas env each]
  exact forall_congr' fun svc => by rw [perm.mem_iff]

theorem Config.Reordered.services_nil (h : c.Reordered services routes) :
    services = [] ↔ c.services = [] := by
  have same := h.names.length_eq
  simp only [Config.serviceNames, List.length_map] at same
  rw [← List.length_eq_zero_iff, ← List.length_eq_zero_iff, same]

theorem Config.Reordered.schema (h : c.Reordered services routes) :
    { c with services, routes }.Schema env ↔ c.Schema env := by
  have resolved (route : RouteConfig) :
      trimSpace route.service ∈ services.map (trimSpace ·.name) ↔
        trimSpace route.service ∈ c.serviceNames := h.names.mem_iff
  have paths := h.routes.map (·.path)
  constructor
  · intro s
    refine ⟨s.addr, s.timing, s.path, ⟨mt h.services_nil.mpr s.nonempty.1, ?_⟩,
      h.schemas.mp s.services, h.names.nodup_iff.mp s.names, ?_, paths.nodup_iff.mp s.paths, s.tls⟩
    · intro none
      exact s.nonempty.2 (List.Perm.eq_nil (none ▸ h.routes))
    · intro route hroute
      have kept := s.routes route (h.routes.mem_iff.mpr hroute)
      exact ⟨kept.1, (resolved route).mp kept.2⟩
  · intro s
    refine ⟨s.addr, s.timing, s.path, ⟨mt h.services_nil.mp s.nonempty.1, ?_⟩,
      h.schemas.mpr s.services, h.names.nodup_iff.mpr s.names, ?_, paths.nodup_iff.mpr s.paths,
      s.tls⟩
    · intro none
      change routes = [] at none
      exact s.nonempty.2 (List.Perm.eq_nil (none ▸ h.routes.symm))
    · intro route hroute
      have kept := s.routes route (h.routes.mem_iff.mp hroute)
      exact ⟨kept.1, (resolved route).mpr kept.2⟩

end

/-- `Validate` returns nil exactly for the documents of the schema, and no
order of their entries matters. -/
theorem validate_iff_schema (c : Config) :
    (c.validate env = .ok () ↔ c.Schema env) ∧
      ∀ services routes, c.Reordered services routes →
        ({ c with services, routes }.validate env = .ok () ↔ c.validate env = .ok ()) := by
  refine ⟨c.validate_ok env, ?_⟩
  intro services routes h
  rw [Config.validate_ok, Config.validate_ok, h.schema]

/-- Two services of two upstreams each, turned round throughout. -/
theorem validate_iff_schema_turned :
    ∃ (e : Env) (c : Config) (services : List ServiceConfig) (routes : List RouteConfig),
      c.Schema e ∧ c.Reordered services routes ∧ services ≠ c.services ∧
        { c with services, routes }.validate e = .ok () := by
  let e : Env :=
    { unmarshal := fun _ => .error "EOF"
      parseRequestURI := fun s =>
        if s = "http://10.0.0.1:9000" then .ok ⟨"http", "10.0.0.1:9000"⟩
        else if s = "https://[::1]:443" then .ok ⟨"https", "[::1]:443"⟩
        else .error "invalid URI for request"
      parse := fun _ => .error "unused"
      isPrint := fun _ => true }
  let c : Config :=
    { apiVersion := "v2", server := ⟨":8080"⟩, healthCheck := ⟨1000, 500, "/health"⟩
      services := [⟨"api", ["http://10.0.0.1:9000", "https://[::1]:443"]⟩,
        ⟨" web ", ["http://10.0.0.1:9000"]⟩]
      routes := [⟨"/api", "api"⟩, ⟨"/", "web"⟩]
      tls := some ⟨"cert.pem", "key.pem", "1.3"⟩, observability := ⟨none⟩ }
  have valid : c.validate e = .ok () := eq_ok_of_toOption (by decide)
  have turned : c.Reordered [⟨" web ", ["http://10.0.0.1:9000"]⟩,
      ⟨"api", ["https://[::1]:443", "http://10.0.0.1:9000"]⟩] c.routes.reverse := by
    refine ⟨⟨c.services.reverse, List.reverse_perm _, ?_⟩, List.reverse_perm _⟩
    exact .cons ⟨rfl, List.Perm.refl _⟩ (.cons ⟨rfl, List.Perm.swap _ _ _⟩ .nil)
  have spec := validate_iff_schema e c
  exact ⟨e, c, _, _, spec.1.mp valid, turned, by decide, (spec.2 _ _ turned).mpr valid⟩

end TorusProxy
