import TorusProxy.History

/-! Who answers for a runtime. It is active, or exactly one managed reload has
it, as pending, displaced or rejected; the answer passes on only by a swap. -/
namespace TorusProxy

open Threads

/-- How the role of a runtime changes while the same call answers for it. -/
inductive Role.Next : Role → Role → Prop
  | stays (role : Role) : Role.Next role role
  | offered : Role.Next .building .pending
  | abandoned : Role.Next .building .abandoned
  | refused : Role.Next .pending .rejected

section
variable {env : Env} {sh sh' : Shared} {t t' : Thread} {new : List Thread}

theorem ReloadMove.role {rt : Rid} {pc pc' : ReloadPC} (h : ReloadMove rt sh pc sh' pc') :
    (∃ role, pc'.owned rt = ((pc.owned rt).1, role) ∧ Role.Next (pc.owned rt).2 role) ∨
    (pc.owned rt = (rt, .pending) ∧ sh'.server.runtime = rt ∧
      pc'.owned rt = (sh.server.runtime, .displaced)) := by
  cases h with
  | reject => exact .inl ⟨.rejected, rfl, .refused⟩
  | swap => exact .inr ⟨rfl, rfl, rfl⟩
  | _ => exact .inl ⟨_, rfl, .stays _⟩

/-- The answer for a runtime stays with its thread until that thread installs it. -/
theorem ThreadMove.role (h : ThreadMove env sh t sh' t' new) {r : Rid} {role : Role}
    (owned : t.owned = some (r, role)) :
    (∃ role', t'.owned = some (r, role') ∧ Role.Next role role') ∨
    (role = .pending ∧ sh'.server.runtime = r ∧
      t'.owned = some (sh.server.runtime, .displaced)) := by
  cases h with
  | @reload _ pc pc' rt move =>
    cases hp : pc.owned rt with
    | mk q old =>
      obtain ⟨rfl, rfl⟩ : q = r ∧ old = role := by simpa [Thread.owned, hp] using owned
      rcases move.role with ⟨role', same, next⟩ | ⟨pending, runtime, displaced⟩
      · rw [hp] at same next
        exact .inl ⟨role', congrArg some same, next⟩
      · rw [hp] at pending
        cases pending
        exact .inr ⟨rfl, runtime, congrArg some displaced⟩
  | manager move =>
    cases move with
    | @reload _ pc pc' cfg rt move =>
      cases hp : pc.owned rt with
      | mk q old =>
        obtain ⟨rfl, rfl⟩ : q = r ∧ old = role := by
          simpa [Thread.owned, ManagerPC.owned, hp] using owned
        rcases move.role with ⟨role', same, next⟩ | ⟨pending, runtime, displaced⟩
        · rw [hp] at same next
          exact .inl ⟨role', congrArg some same, next⟩
        · rw [hp] at pending
          cases pending
          exact .inr ⟨rfl, runtime, congrArg some displaced⟩
    | backendFailed cfg rt => cases owned; exact .inl ⟨_, rfl, .abandoned⟩
    | backend cfg rt | service cfg rt | route cfg rt | startProber cfg rt =>
      cases owned; exact .inl ⟨_, rfl, .stays _⟩
    | offer cfg rt => cases owned; exact .inl ⟨_, rfl, .offered⟩
    | accepted cfg rt old => cases owned; exact .inl ⟨_, rfl, .stays _⟩
    | refused cfg rt => cases owned; exact .inl ⟨_, rfl, .stays _⟩
    | stop cfg rt => cases owned; exact .inl ⟨_, rfl, .stays _⟩
    | stopped cfg rt => cases owned; exact .inl ⟨_, rfl, .stays _⟩
    | recordFailure out => exact .inl ⟨role, owned, .stays _⟩
    | _ => cases owned
  | request | shutdown | start | prober => cases owned

/-- What a thread answers for it answered for before, unless it has displaced
it or allocated it just now. -/
theorem ThreadMove.role_back (h : ThreadMove env sh t sh' t' new) {r : Rid} {role' : Role}
    (after : t'.owned = some (r, role')) :
    (∃ role, t.owned = some (r, role) ∧ Role.Next role role') ∨ role' = .displaced ∨
      (r = sh.allocated ∧ role' = .building) := by
  rcases h.ownership with ⟨-, owned, -⟩ | ⟨_, _, _, _, _, owned, _⟩ | ⟨-, owned, -⟩
  · rw [after, Option.map_some] at owned
    obtain ⟨⟨q, role⟩, before, rfl⟩ := Option.map_eq_some_iff.mp owned.symm
    rcases h.role before with ⟨next, owned', step⟩ | ⟨-, -, owned'⟩
    · rw [after] at owned'
      cases owned'
      exact .inl ⟨role, before, step⟩
    · rw [after] at owned'
      cases owned'
      exact .inr (.inl rfl)
  · rw [after] at owned
    cases owned
    exact .inr (.inl rfl)
  · rw [after] at owned
    cases owned
    exact .inr (.inr ⟨rfl, rfl⟩)

end

/-- `Server.Reload` is called by managed reloads only. -/
def Managed (_ : World) (a : Action) : Prop := ∀ rt, a ≠ .call (.reload rt)

/-- No call of `Server.Reload` from elsewhere. -/
def NoDirect (w : World) : Prop := ∀ t ∈ w.threads, ∀ new pc, t ≠ .reload new pc

section
variable {env : Env} {w w' : World} {a : Action}

theorem NoDirect.step (h : NoDirect w) (managed : Managed w a)
    (hs : World.step env w a = some w') : NoDirect w' := by
  refine (Machine.next_moved hs).each (fun t => ∀ new pc, t ≠ .reload new pc) h ?_ ?_
  · intro i t c sh' t' new _ _ inv fires
    have move := Thread.step_move fires
    refine ⟨?_, ?_⟩
    · rintro rt pc rfl
      cases move with
      | reload _ _ => exact inv _ _ rfl
    · rintro n hn rt pc rfl
      obtain ⟨p, hp⟩ := move.starts _ hn
      cases hp
  · intro x sh' t ha fires
    cases enter_move fires with
    | reload rt => exact absurd ha (managed rt)
    | request | manager | shutdown => rintro _ _ ⟨⟩

theorem NoDirect.run (h : NoDirect w) (r : Run env Managed w w') : NoDirect w' :=
  r.invariant NoDirect h fun _ _ _ _ inv managed hs => inv.step managed hs

theorem Fresh.noDirect {pc : StartPC} (h : Fresh pc w) : NoDirect w := by
  rintro t ht new pc rfl
  rcases h.threads _ ht with ⟨p, q, hp, -⟩ | hp <;> cases hp

end

/-- Every runtime is active or answered for by exactly one managed reload. -/
structure Accounted (w : World) : Prop where
  active : ∀ t ∈ w.threads, ∀ role, t.owned ≠ some (w.shared.server.runtime, role)
  owner : ∀ r, r < w.shared.allocated → r ≠ w.shared.server.runtime →
    ∃! i : Nat, ∃ (pc : ManagerPC) (role : Role),
      w.threads[i]? = some (Thread.manager pc) ∧ pc.owned = some (r, role)
  /-- Displaced are those that have been active, so a rejected one never was. -/
  displaced : ∀ t ∈ w.threads, ∀ r role, t.owned = some (r, role) →
    (r ∈ w.shared.installed ↔ role = .displaced)
  /-- The active one is the last that was swapped in, or the first of all. -/
  last : w.shared.installed.getLast? = some w.shared.server.runtime
  /-- Once every managed reload has returned, what is not active is stopped. -/
  settled : (∀ pc, .manager pc ∈ w.threads → ∃ out, pc = .returned out) →
    ∀ r, r < w.shared.allocated → r ≠ w.shared.server.runtime →
      StopFacts w.shared r .done ∨ ∃ err, .manager (.returned (.abandoned r err)) ∈ w.threads

/-- How one action passes the answer on. -/
structure HandsOver (w w' : World) : Prop where
  keeps : ∀ (i : Nat) (t : Thread) (r : Rid) (role : Role), w.threads[i]? = some t →
    t.owned = some (r, role) → ∃ t', w'.threads[i]? = some t' ∧
      ((∃ role', t'.owned = some (r, role') ∧ Role.Next role role') ∨
        role = .pending ∧ w'.shared.server.runtime = r ∧
          t'.owned = some (w.shared.server.runtime, .displaced))
  installed : w'.shared.installed = w.shared.installed ∧
      w'.shared.server.runtime = w.shared.server.runtime ∨
    ∃ t ∈ w.threads, t.owned = some (w'.shared.server.runtime, .pending) ∧
      w'.shared.installed = w.shared.installed ++ [w'.shared.server.runtime]

section
variable {env : Env} {w w' : World} {a : Action}

theorem Consistent.manager_owner (h : Consistent w) (noDirect : NoDirect w) {r : Rid}
    (lt : r < w.shared.allocated) (ne : r ≠ w.shared.server.runtime) :
    ∃ (i : Nat) (pc : ManagerPC) (role : Role),
      w.threads[i]? = some (Thread.manager pc) ∧ pc.owned = some (r, role) := by
  obtain ⟨t, ht, role, owned⟩ := h.exists_owner lt ne
  obtain ⟨i, hi⟩ := List.mem_iff_getElem?.mp ht
  cases t with
  | manager pc => exact ⟨i, pc, role, hi, owned⟩
  | reload new pc => exact absurd rfl (noDirect _ ht new pc)
  | request | shutdown | start | prober => cases owned

theorem Accounted.of (h : Serving w) (history : History w) (noDirect : NoDirect w) :
    Accounted w := by
  refine ⟨?_, ?_, history.roles, history.active, ?_⟩
  · intro t ht role owned
    exact (h.consistent.owned_ne ht owned).2 rfl
  · intro r lt ne
    obtain ⟨i, pc, role, hi, owned⟩ := h.consistent.manager_owner noDirect lt ne
    refine ⟨i, ⟨pc, role, hi, owned⟩, ?_⟩
    rintro j ⟨qc, role', hj, owned'⟩
    exact h.consistent.owner_unique hj hi owned' owned
  · intro returned r lt ne
    obtain ⟨i, pc, role, hi, owned⟩ := h.consistent.manager_owner noDirect lt ne
    have ht := List.mem_of_getElem? hi
    obtain ⟨out, rfl⟩ := returned pc ht
    cases out with
    | accepted cfg rt old => cases owned; exact .inl (h.stops _ ht _ .done rfl)
    | rejected cfg rt => cases owned; exact .inl (h.stops _ ht _ .done rfl)
    | abandoned rt err => cases owned; exact .inr ⟨err, ht⟩
    | failed err => cases owned

theorem HandsOver.of (m : Moved (machine env) w a w') : HandsOver w w' := by
  constructor
  · intro i t r role hi owned
    rcases m.thread hi with same | ⟨c, sh', t', new, -, fires, shared, after⟩
    · exact ⟨t, same, .inl ⟨role, owned, .stays role⟩⟩
    · refine ⟨t', after, ?_⟩
      rw [shared]
      exact (Thread.step_move fires).role owned
  · rcases History.grows m with same | ⟨t, ht, new, swapping, installed, runtime⟩
    · exact .inl same
    · refine .inr ⟨t, ht, ?_, ?_⟩
      · rw [runtime]
        exact (Thread.swapping_owned swapping).1
      · rw [runtime]
        exact installed

/-- Once the running state has ended, nothing is swapped in. -/
theorem Serving.no_swap {ok : World → Action → Prop} (h : Serving w)
    (ended : w.shared.server.state ≠ .running) (r : Run env ok w w') :
    w'.shared.installed = w.shared.installed ∧
      w'.shared.server.runtime = w.shared.server.runtime := by
  refine (r.invariant (fun v => (Serving v ∧ v.shared.server.state ≠ .running) ∧
    v.shared.installed = w.shared.installed ∧
    v.shared.server.runtime = w.shared.server.runtime) ⟨⟨h, ended⟩, rfl, rfl⟩ ?_).2
  rintro a u v _ ⟨⟨hu, ended⟩, installed, runtime⟩ _ hs
  have m := Machine.next_moved hs
  refine ⟨⟨hu.step hs, hu.ended_stays m ended⟩, ?_⟩
  rcases History.grows m with ⟨installed', runtime'⟩ | ⟨t, ht, new, swapping, -⟩
  · exact ⟨installed'.trans installed, runtime'.trans runtime⟩
  · exact absurd (hu.sawRunning t ht (Thread.swapping_sawRunning swapping)) ended

/-- In every order of managed reloads and shutdowns no runtime is leaked or
answered for twice, and none is swapped in once a shutdown has begun. -/
theorem runtime_accounted {w₀ : World} (init : Running w₀) (r : Run env Managed w₀ w)
    (later : Run env Managed w w') :
    Accounted w ∧ (∀ a w₁, World.step env w a = some w₁ → HandsOver w w₁) ∧
    ∀ pc, .shutdown pc ∈ w.threads → (Thread.shutdown pc).closed = 1 →
      w'.shared.installed = w.shared.installed ∧
      w'.shared.server.runtime = w.shared.server.runtime ∧
      ∀ rt, pc.captured = some rt → w'.shared.server.runtime = rt := by
  have serving := init.serving.run r
  refine ⟨.of serving (init.history.run init.consistent r) (init.noDirect.run r), ?_, ?_⟩
  · intro a w₁ hs
    exact .of (Machine.next_moved hs)
  · intro pc ht closed
    have ended : w.shared.server.state ≠ .running := by
      intro running
      have closers := serving.closers
      rw [closing, if_pos running] at closers
      rw [total_eq_zero.mp closers.symm _ ht] at closed
      cases closed
    obtain ⟨installed, runtime⟩ := serving.no_swap ended later
    refine ⟨installed, runtime, ?_⟩
    intro rt captured
    rw [serving.captured _ ht rt captured]
    exact runtime

end

instance (w : World) : DecidablePred (Managed w)
  | .call (.reload rt) => .isFalse fun h => h rt rfl
  | .call (.request _) | .call .manager | .call .shutdown | .run _ _ | .env _ =>
    .isTrue (by rintro rt ⟨⟩)

/-- The prober at `tid` notices that its runtime is cancelled. -/
def proberExits (tid : Nat) : List Action := goes tid 1 ++ [.run tid .ctxDone] ++ goes tid 1

/-- One managed reload is accepted; a shutdown begins; another one is refused. -/
def reloadAndRefusal : List Action :=
  [.call .manager] ++ goes 2 18 ++ proberExits 1 ++ goes 2 3 ++ [.call .shutdown] ++ goes 4 7 ++
    [.call .manager] ++ goes 5 16 ++ proberExits 6 ++ goes 5 3

theorem runtime_accounted_refusal :
    ∃ w, Run sampleEnv Managed sampleWorld w ∧
      .manager (.returned (.accepted sampleConfig 1 0)) ∈ w.threads ∧
      .manager (.returned (.rejected sampleConfig 2)) ∈ w.threads ∧
      Accounted w ∧ w.shared.installed = [0, 1] := by
  obtain ⟨w, r, accepted, rejected, installed⟩ := Exec.exists_run_of_execWhile
    (World.step sampleEnv) Managed sampleWorld reloadAndRefusal
    (fun w => .manager (.returned (.accepted sampleConfig 1 0)) ∈ w.threads ∧
      .manager (.returned (.rejected sampleConfig 2)) ∈ w.threads ∧ w.shared.installed = [0, 1])
    (by decide +kernel)
  exact ⟨w, r, accepted, rejected, (runtime_accounted sampleWorld_running r .refl).1, installed⟩

end TorusProxy
