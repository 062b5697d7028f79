import Mathlib.Data.List.Induction
import TorusProxy.Handler

/-! `routing.Router`: of the keys that lead the path by whole segments the
longest wins, whatever the order in which the map is iterated. -/
namespace TorusProxy

/-- The path is the key, or goes on after it with a new segment. -/
def Leads (key path : Bytes) : Prop := path = key ∨ ∃ rest, path = key ++ 47 :: rest

/-- The test in the loop of `Route`. -/
theorem leads_iff {key path : Bytes} :
    (key.isPrefixOf path = true ∧ (path.length = key.length ∨ path[key.length]? = some 47)) ↔
      Leads key path := by
  rw [List.isPrefixOf_iff_prefix]
  constructor
  · rintro ⟨⟨rest, rfl⟩, boundary⟩
    cases rest with
    | nil => exact .inl (List.append_nil key)
    | cons b rest =>
      rcases boundary with same | slash
      · simp at same
      · simp only [List.getElem?_append_right (Nat.le_refl _), Nat.sub_self,
          List.getElem?_cons_zero, Option.some.injEq] at slash
        exact .inr ⟨rest, by rw [slash]⟩
  · rintro (rfl | ⟨rest, rfl⟩)
    · exact ⟨List.prefix_rfl, .inl rfl⟩
    · exact ⟨List.prefix_append _ _, .inr (by simp)⟩

/-- Two keys that lead the same path and are equally long are the same key. -/
theorem Leads.unique {key key' path : Bytes} (h : Leads key path) (h' : Leads key' path)
    (same : key.length = key'.length) : key = key' := by
  have before := List.isPrefixOf_iff_prefix.mp (leads_iff.mpr h).1
  have before' := List.isPrefixOf_iff_prefix.mp (leads_iff.mpr h').1
  exact (List.prefix_of_prefix_length_le before before' (Nat.le_of_eq same)).eq_of_length same

/-! ## The loop -/

/-- What the loop has found after the keys of `seen`, from `start` on. -/
structure Best (path : Bytes) (start : Bytes × Option Nat) (seen : List (Bytes × Option Nat))
    (best : Bytes × Option Nat) : Prop where
  origin : best = start ∨ best ∈ seen ∧ Leads best.1 path ∧ start.1.length < best.1.length
  above : start.1.length ≤ best.1.length
  longest : ∀ kv ∈ seen, Leads kv.1 path → kv.1.length ≤ best.1.length

theorem Router.better_cases (path : Bytes) (best kv : Bytes × Option Nat) :
    (Leads kv.1 path ∧ best.1.length < kv.1.length ∧ Router.better path best kv = kv) ∨
    ((Leads kv.1 path → kv.1.length ≤ best.1.length) ∧ Router.better path best kv = best) := by
  unfold Router.better
  split
  · rename_i hit
    exact .inl ⟨leads_iff.mp ⟨hit.1, hit.2.1⟩, hit.2.2, rfl⟩
  · rename_i miss
    refine .inr ⟨?_, rfl⟩
    intro leads
    obtain ⟨before, boundary⟩ := leads_iff.mpr leads
    exact Nat.not_lt.mp fun longer => miss ⟨before, boundary, longer⟩

theorem Router.foldl_best (path : Bytes) (routes : List (Bytes × Option Nat))
    (start : Bytes × Option Nat) :
    Best path start routes (routes.foldl (Router.better path) start) := by
  induction routes generalizing start with
  | nil => exact ⟨.inl rfl, Nat.le_refl _, by simp⟩
  | cons kv routes ih =>
    have rest := ih (Router.better path start kv)
    rw [List.foldl_cons]
    generalize List.foldl (Router.better path) (Router.better path start kv) routes = best at rest
    rcases Router.better_cases path start kv with ⟨leads, longer, now⟩ | ⟨short, now⟩
    · rw [now] at rest
      refine ⟨.inr ?_, Nat.le_trans (Nat.le_of_lt longer) rest.above, ?_⟩
      · rcases rest.origin with rfl | ⟨mem, leads', longer'⟩
        · exact ⟨List.mem_cons_self, leads, longer⟩
        · exact ⟨List.mem_cons_of_mem _ mem, leads', Nat.lt_trans longer longer'⟩
      · intro q hq leads'
        rcases List.mem_cons.mp hq with rfl | hq
        · exact rest.above
        · exact rest.longest q hq leads'
    · rw [now] at rest
      refine ⟨?_, rest.above, ?_⟩
      · rcases rest.origin with same | ⟨mem, leads', longer'⟩
        · exact .inl same
        · exact .inr ⟨List.mem_cons_of_mem _ mem, leads', longer'⟩
      · intro q hq leads'
        rcases List.mem_cons.mp hq with rfl | hq
        · exact Nat.le_trans (short leads') rest.above
        · exact rest.longest q hq leads'

/-! ## The map -/

/-- The router after a sequence of `AddRoute` calls. -/
def Router.addRoutes (adds : List (Bytes × Option Nat)) : Router :=
  adds.foldl (fun r kv => r.addRoute kv.1 kv.2) ⟨[]⟩

/-- The service registered last for this key. -/
def registered (adds : List (Bytes × Option Nat)) (key : Bytes) : Option (Option Nat) :=
  (adds.reverse.find? (·.1 == key)).map (·.2)

theorem registered_snoc (adds : List (Bytes × Option Nat)) (kv : Bytes × Option Nat)
    (key : Bytes) :
    registered (adds ++ [kv]) key = if kv.1 = key then some kv.2 else registered adds key := by
  simp only [registered, List.reverse_append, List.reverse_singleton, List.singleton_append,
    List.find?_cons]
  by_cases h : kv.1 = key
  · simp [h]
  · simp [beq_eq_false_iff_ne.mpr h, h]

theorem Router.mem_addRoute {r : Router} {path key : Bytes} {svc s : Option Nat} :
    (key, s) ∈ (r.addRoute path svc).routes ↔
      key = path ∧ s = svc ∨ key ≠ path ∧ (key, s) ∈ r.routes := by
  unfold Router.addRoute
  split
  · rename_i known
    obtain ⟨⟨path', old⟩, mem, same⟩ := List.any_eq_true.mp known
    obtain rfl : path' = path := by simpa using same
    simp only [List.mem_map]
    constructor
    · rintro ⟨⟨k, v⟩, hk, now⟩
      split at now
      · cases now
        exact .inl ⟨rfl, rfl⟩
      · rename_i other
        cases now
        exact .inr ⟨other, hk⟩
    · rintro (⟨rfl, rfl⟩ | ⟨other, hk⟩)
      · exact ⟨(key, old), mem, by simp⟩
      · exact ⟨(key, s), hk, by simp [other]⟩
  · rename_i unknown
    simp only [List.mem_append, List.mem_singleton, Prod.mk.injEq]
    constructor
    · rintro (hk | here)
      · refine .inr ⟨?_, hk⟩
        rintro rfl
        exact unknown (List.any_eq_true.mpr ⟨_, hk, by simp⟩)
      · exact .inl here
    · rintro (here | ⟨-, hk⟩)
      · exact .inr here
      · exact .inl hk

/-- The map holds each key with the service registered last for it. -/
theorem Router.mem_addRoutes {adds : List (Bytes × Option Nat)} {key : Bytes} {s : Option Nat} :
    (key, s) ∈ (Router.addRoutes adds).routes ↔ registered adds key = some s := by
  induction adds using List.reverseRecOn with
  | nil => simp [Router.addRoutes, registered]
  | append_singleton adds kv ih =>
    rw [Router.addRoutes, List.foldl_append, ← Router.addRoutes, List.foldl_cons, List.foldl_nil,
      Router.mem_addRoute, ih, registered_snoc]
    by_cases h : kv.1 = key
    · simp [h, eq_comm]
    · simp [h, Ne.symm h]

/-! ## Longest prefix -/

/-- What `Route` is for, over the services registered by key. -/
structure LongestPrefix (services : Bytes → Option (Option Nat)) (path : Bytes)
    (found : Bytes × Option Nat) : Prop where
  none : (∀ key s, services key = some s → key ≠ [] → ¬ Leads key path) → found = ([], none)
  longest : (∃ key s, services key = some s ∧ key ≠ [] ∧ Leads key path) →
    services found.1 = some found.2 ∧ found.1 ≠ [] ∧ Leads found.1 path ∧
      ∀ key s, services key = some s → key ≠ [] → Leads key path → key ≠ found.1 →
        key.length < found.1.length

/-- The keys and services of the map, in any order. -/
theorem Router.route_spec {services : Bytes → Option (Option Nat)}
    {order : List (Bytes × Option Nat)} (path : Bytes)
    (mem : ∀ key s, (key, s) ∈ order ↔ services key = some s) :
    LongestPrefix services path (Router.route ⟨order⟩ path) := by
  have best : Best path ([], none) order (Router.route ⟨order⟩ path) :=
    Router.foldl_best path order _
  generalize Router.route ⟨order⟩ path = found at best
  constructor
  · intro silent
    rcases best.origin with same | ⟨hit, leads, longer⟩
    · exact same
    · exact absurd leads (silent _ _ ((mem _ _).mp hit) (List.ne_nil_of_length_pos longer))
  · rintro ⟨key, s, known, nonempty, leads⟩
    have above := best.longest _ ((mem key s).mpr known) leads
    have pos : 0 < found.1.length :=
      Nat.lt_of_lt_of_le (List.length_pos_iff.mpr nonempty) above
    rcases best.origin with rfl | ⟨hit, leads', -⟩
    · cases pos
    · refine ⟨(mem _ _).mp hit, List.ne_nil_of_length_pos pos, leads', ?_⟩
      intro other s' known' _ leads'' ne
      have le := best.longest _ ((mem other s').mpr known') leads''
      have apart : other.length ≠ found.1.length := fun same => ne (leads''.unique leads' same)
      exact Nat.lt_of_le_of_ne le apart

/-- After any calls of `AddRoute`, in any order of iteration. -/
theorem route_longest_prefix (adds order : List (Bytes × Option Nat)) (path : Bytes)
    (iterated : order.Perm (Router.addRoutes adds).routes) :
    LongestPrefix (registered adds) path (Router.route ⟨order⟩ path) := by
  apply Router.route_spec
  intro key s
  rw [iterated.mem_iff, Router.mem_addRoutes]

/-- Nested keys, one registered twice, iterated backwards. -/
theorem route_longest_prefix_nested :
    LongestPrefix
      (registered [(bytes "/api", some 0), (bytes "/api/v1", some 1), (bytes "/api", some 2)])
      (bytes "/api/v1/users") (bytes "/api/v1", some 1) := by
  have spec := route_longest_prefix
    [(bytes "/api", some 0), (bytes "/api/v1", some 1), (bytes "/api", some 2)]
    [(bytes "/api/v1", some 1), (bytes "/api", some 2)] (bytes "/api/v1/users") (by decide)
  have found : Router.route ⟨[(bytes "/api/v1", some 1), (bytes "/api", some 2)]⟩
      (bytes "/api/v1/users") = (bytes "/api/v1", some 1) := by decide
  rwa [found] at spec

/-! ## The root route -/

/-- Some route applies to this path. -/
def Routed (services : Bytes → Option (Option Nat)) (path : Bytes) : Prop :=
  ∃ key s, services key = some s ∧ key ≠ [] ∧ Leads key path

theorem LongestPrefix.not_routed {services : Bytes → Option (Option Nat)} {path : Bytes}
    {found : Bytes × Option Nat} (h : LongestPrefix services path found)
    (silent : ¬ Routed services path) : found = ([], Option.none) :=
  h.none fun key s known nonempty leads => silent ⟨key, s, known, nonempty, leads⟩

theorem LongestPrefix.routed_iff {services : Bytes → Option (Option Nat)} {path : Bytes}
    {found : Bytes × Option Nat} (h : LongestPrefix services path found) :
    Routed services path ↔ found.1 ≠ [] := by
  constructor
  · intro routed
    exact (h.longest routed).2.1
  · intro hit
    by_contra silent
    exact hit (congrArg Prod.fst (h.not_routed silent))

/-- What a route for `/` is there for. -/
structure CatchAll (before after : Bytes × Option Nat) (s : Nat) : Prop where
  kept : before.1 ≠ [] → after = before
  caught : before.1 = [] → after = ([47], some s)

section
variable {services services' : Bytes → Option (Option Nat)} {path : Bytes}
  {before after : Bytes × Option Nat} {s : Nat}

/-- Every other key that leads the path is longer than the root. -/
theorem CatchAll.of_routed (hb : LongestPrefix services path before)
    (ha : LongestPrefix services' path after) (new : services [47] = none)
    (others : ∀ key, key ≠ [47] → services' key = services key)
    (routed : Routed services path) : after = before := by
  obtain ⟨known, nonempty, leads, longest⟩ := hb.longest routed
  have other : before.1 ≠ [47] := by
    intro same
    rw [same, new] at known
    cases known
  have known' : services' before.1 = some before.2 := (others _ other).trans known
  obtain ⟨here, nonempty', leads', longest'⟩ := ha.longest ⟨_, _, known', nonempty, leads⟩
  have same : after.1 = before.1 := by
    by_contra ne
    have shorter := longest' _ _ known' nonempty leads (Ne.symm ne)
    by_cases slash : after.1 = [47]
    · rw [slash, List.length_singleton, Nat.lt_one_iff, List.length_eq_zero_iff] at shorter
      exact nonempty shorter
    · have longer := longest _ _ ((others _ slash).symm.trans here) nonempty' leads' ne
      omega
  refine Prod.ext same ?_
  rw [same, known'] at here
  exact (Option.some.inj here).symm

theorem CatchAll.of_root (ha : LongestPrefix services' path after)
    (root : services' [47] = some (some s)) (others : ∀ key, key ≠ [47] → services' key = services key)
    (silent : ¬ Routed services path) (leads : Leads [47] path) : after = ([47], some s) := by
  obtain ⟨here, nonempty, leads', -⟩ := ha.longest ⟨_, _, root, by simp, leads⟩
  have same : after.1 = [47] := by
    by_contra ne
    exact silent ⟨_, _, (others _ ne).symm.trans here, nonempty, leads'⟩
  refine Prod.ext same ?_
  rw [same, root] at here
  exact (Option.some.inj here).symm

theorem CatchAll.missed (ha : LongestPrefix services' path after)
    (others : ∀ key, key ≠ [47] → services' key = services key)
    (silent : ¬ Routed services path) (boundary : ¬ Leads [47] path) : after = ([], none) := by
  apply ha.not_routed
  rintro ⟨key, t, known, nonempty, leads⟩
  by_cases slash : key = [47]
  · exact boundary (slash ▸ leads)
  · exact silent ⟨key, t, (others key slash).symm.trans known, nonempty, leads⟩

/-- The whole case distinction. -/
theorem CatchAll.cases (hb : LongestPrefix services path before)
    (ha : LongestPrefix services' path after) (new : services [47] = none)
    (root : services' [47] = some (some s))
    (others : ∀ key, key ≠ [47] → services' key = services key) :
    (CatchAll before after s ∧ after.1 ≠ [] ∧ (Routed services path ∨ Leads [47] path)) ∨
    (¬ CatchAll before after s ∧ after = ([], none) ∧
      ¬ (Routed services path ∨ Leads [47] path)) := by
  by_cases routed : Routed services path
  · have kept := CatchAll.of_routed hb ha new others routed
    have hit := hb.routed_iff.mp routed
    exact .inl ⟨⟨fun _ => kept, fun miss => absurd miss hit⟩, kept ▸ hit, .inl routed⟩
  · have missed := hb.not_routed routed
    by_cases leads : Leads [47] path
    · have caught := CatchAll.of_root ha root others routed leads
      refine .inl ⟨⟨fun hit => absurd (congrArg Prod.fst missed) hit, fun _ => caught⟩, ?_, .inr leads⟩
      simp [caught]
    · have still := CatchAll.missed ha others routed leads
      refine .inr ⟨?_, still, not_or.mpr ⟨routed, leads⟩⟩
      intro h
      have caught := h.caught (congrArg Prod.fst missed)
      rw [still] at caught
      cases caught

end

/-- The root key ends in the separator that the boundary rule looks for after
it, so it takes `/` and the paths that go on with a second one. Every other
path that no route applies to is still answered 404. -/
theorem root_route_catches_iff (adds order order' : List (Bytes × Option Nat)) (s : Nat)
    (path : Bytes) (new : registered adds [47] = none)
    (iterated : order.Perm (Router.addRoutes adds).routes)
    (iterated' : order'.Perm ((Router.addRoutes adds).addRoute [47] (some s)).routes) :
    (CatchAll (Router.route ⟨order⟩ path) (Router.route ⟨order'⟩ path) s ↔
      Routed (registered adds) path ∨ path = [47] ∨ ∃ rest, path = 47 :: 47 :: rest) ∧
    ∀ (req : Request) (sh : Shared) (c : Choice) (rt : Rid), req.path = path →
      (sh.heap rt).router = ⟨order'⟩ →
      (httpHandler req sh c (.route rt) = some (sh, .notFound rt []) ↔
        ¬ (Routed (registered adds) path ∨ path = [47] ∨ ∃ rest, path = 47 :: 47 :: rest)) := by
  have added : (Router.addRoutes adds).addRoute [47] (some s) =
      Router.addRoutes (adds ++ [([47], some s)]) := by simp [Router.addRoutes]
  have hb : LongestPrefix (registered adds) path (Router.route ⟨order⟩ path) := by
    apply Router.route_spec
    intro key t
    rw [iterated.mem_iff, Router.mem_addRoutes]
  have ha : LongestPrefix (registered (adds ++ [([47], some s)])) path
      (Router.route ⟨order'⟩ path) := by
    apply Router.route_spec
    intro key t
    rw [iterated'.mem_iff, added, Router.mem_addRoutes]
  have root : registered (adds ++ [([47], some s)]) [47] = some (some s) := by
    rw [registered_snoc, if_pos rfl]
  have others (key : Bytes) (ne : key ≠ [47]) :
      registered (adds ++ [([47], some s)]) key = registered adds key := by
    rw [registered_snoc, if_neg (Ne.symm ne)]
  have leads : Leads [47] path ↔ path = [47] ∨ ∃ rest, path = 47 :: 47 :: rest := Iff.rfl
  rw [← leads]
  rcases CatchAll.cases hb ha new root others with ⟨holds, hit, cond⟩ | ⟨fails, miss, cond⟩
  · refine ⟨iff_of_true holds cond, ?_⟩
    intro req sh c rt hpath router
    refine iff_of_false ?_ (not_not.mpr cond)
    simp only [httpHandler, router, hpath]
    split
    · rename_i key found
      rw [found] at hit
      simpa using hit
    · simp
  · refine ⟨iff_of_false fails cond, ?_⟩
    intro req sh c rt hpath router
    refine iff_of_true ?_ cond
    simp only [httpHandler, router, hpath, miss]

/-- A path below a configured route keeps it. -/
theorem root_route_catches_api :
    CatchAll (bytes "/api", some 0)
      (Router.route ⟨[([47], some 1), (bytes "/api", some 0)]⟩ (bytes "/api/users")) 1 := by
  have spec := root_route_catches_iff [(bytes "/api", some 0)] [(bytes "/api", some 0)]
    [([47], some 1), (bytes "/api", some 0)] 1 (bytes "/api/users") (by decide)
    (by decide) (by decide)
  have found : Router.route ⟨[(bytes "/api", some 0)]⟩ (bytes "/api/users") =
      (bytes "/api", some 0) := by decide
  rw [found] at spec
  exact spec.1.mpr (.inl ⟨bytes "/api", some 0, by decide, by decide,
    .inr ⟨bytes "users", by decide⟩⟩)

/-- The path `/about`, with nothing but the root configured. -/
theorem root_route_misses_about :
    ¬ ∀ (adds order order' : List (Bytes × Option Nat)) (s : Nat) (path : Bytes),
      path.head? = some 47 → registered adds [47] = none →
      order.Perm (Router.addRoutes adds).routes →
      order'.Perm ((Router.addRoutes adds).addRoute [47] (some s)).routes →
      CatchAll (Router.route ⟨order⟩ path) (Router.route ⟨order'⟩ path) s := by
  intro always
  have caught := (always [] [] [([47], some 0)] 0 (bytes "/about") (by decide)
    (by decide) (by decide) (by decide)).caught (by decide)
  revert caught
  decide

end TorusProxy
