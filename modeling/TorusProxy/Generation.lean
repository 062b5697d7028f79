import TorusProxy.Blueprint
import TorusProxy.Metrics
import TorusProxy.Roles

/-! `torus_runtime_generation`. A reload exports its generation after it has
given up the lock, so another swap and its export can come between. -/
namespace TorusProxy

open Threads

/-- After the swap and before `SetRuntimeGeneration` has run. -/
def ReloadPC.exports : ReloadPC → Bool
  | .unlock _ | .setGeneration _ => true
  | _ => false

namespace Thread

/-- The runtime a call has installed and whose generation it has yet to export. -/
def exports : Thread → Option Rid
  | .reload new pc => if pc.exports then some new else none
  | .manager (.serverReload _ new pc) => if pc.exports then some new else none
  | _ => none

/-- About to call `SetRuntimeGeneration` for the runtime. -/
def exporting : Thread → Option Rid
  | .reload new (.setGeneration _) => some new
  | .manager (.serverReload _ new (.setGeneration _)) => some new
  | _ => none

/-- A call of `Server.Reload` that has swapped and not returned. -/
def retiring : Thread → Bool
  | .reload _ (.accepted _) => false
  | .manager (.serverReload _ _ (.accepted _)) => false
  | .reload _ pc => pc.displaced.isSome
  | .manager (.serverReload _ _ pc) => pc.displaced.isSome
  | _ => false

end Thread

/-- What one step of a reload does to the gauge and to its own export. -/
theorem ReloadMove.generation {new : Rid} {sh sh' : Shared} {pc pc' : ReloadPC}
    (h : ReloadMove new sh pc sh' pc') :
    (sh'.metrics.generation = sh.metrics.generation ∧
      (pc.exports = true → pc'.exports = true)) ∨
    ∃ old, pc = .setGeneration old ∧
      sh'.metrics.generation = float64 (sh.heap new).generation := by
  cases h with
  | setGeneration old => exact .inr ⟨old, rfl, rfl⟩
  | unlock old => exact .inl ⟨rfl, fun _ => rfl⟩
  | lock hm | locking hm =>
    exact .inl ⟨Shared.tryMu_same (·.metrics.generation) (fun _ => rfl) hm, by rintro ⟨⟩⟩
  | stop old move =>
    refine .inl ⟨?_, by rintro ⟨⟩⟩
    cases move <;> rfl
  | accept | refuse | reject | swap | recordReload | stopped => exact .inl ⟨rfl, by rintro ⟨⟩⟩

section
variable {env : Env} {sh sh' : Shared} {t t' : Thread} {new : List Thread}

theorem HandlerMove.generation {pc pc' : HandlerPC} (h : HandlerMove sh pc sh' pc') :
    sh'.metrics.generation = sh.metrics.generation := by
  cases h with
  | rLock hm => exact Shared.tryMu_same (·.metrics.generation) (fun _ => rfl) hm
  | inner _ _ _ _ _ still => exact still.generation
  | load | acquire | rUnlock | release | exit => rfl

/-- Only `SetRuntimeGeneration` moves the gauge, and it ends the call's export. -/
theorem ThreadMove.generation (h : ThreadMove env sh t sh' t' new) :
    (sh'.metrics.generation = sh.metrics.generation ∧
      ∀ r, t.exports = some r → t'.exports = some r) ∨
    ∃ r, t.exporting = some r ∧ sh'.metrics.generation = float64 (sh.heap r).generation := by
  have lift {rt r : Rid} {pc pc' : ReloadPC} (stays : pc.exports = true → pc'.exports = true)
      (hr : (if pc.exports then some rt else none) = some r) :
      (if pc'.exports then some rt else none) = some r := by
    split at hr
    · rename_i on
      rw [if_pos (stays on)]
      exact hr
    · cases hr
  cases h with
  | request req move => exact .inl ⟨move.generation, by rintro r ⟨⟩⟩
  | reload rt move =>
    rcases move.generation with ⟨same, stays⟩ | ⟨old, rfl, gauge⟩
    · exact .inl ⟨same, fun r hr => lift stays hr⟩
    · exact .inr ⟨rt, rfl, gauge⟩
  | manager move =>
    cases move with
    | reload cfg rt move =>
      rcases move.generation with ⟨same, stays⟩ | ⟨old, rfl, gauge⟩
      · exact .inl ⟨same, fun r hr => lift stays hr⟩
      · exact .inr ⟨rt, rfl, gauge⟩
    | stop cfg rt move => exact .inl ⟨congrArg Metrics.generation move.metrics, by rintro r ⟨⟩⟩
    | backend cfg rt => exact .inl ⟨setBackendHealth_generation _ _, by rintro r ⟨⟩⟩
    | _ => exact .inl ⟨rfl, by rintro r ⟨⟩⟩
  | shutdown move => exact .inl ⟨congrArg Metrics.generation move.metrics, by rintro r ⟨⟩⟩
  | start move => exact .inl ⟨congrArg Metrics.generation move.metrics, by rintro r ⟨⟩⟩
  | prober p move =>
    refine .inl ⟨?_, by rintro r ⟨⟩⟩
    cases move with
    | inner _ _ still => exact still.generation
    | restart | exit => rfl

/-- The call that swaps has the export before it. -/
theorem ThreadMove.swap_exports (h : ThreadMove env sh t sh' t' new) {r : Rid}
    (swapping : t.swapping = some r) : t'.exports = some r := by
  unfold Thread.swapping at swapping
  split at swapping <;> cases swapping
  · cases h with
    | reload rt move => cases move; rfl
  · cases h with
    | manager move =>
      cases move with
      | reload cfg rt move => cases move; rfl

end

theorem Thread.exporting_exports {t : Thread} {r : Rid} (h : t.exporting = some r) :
    t.exports = some r := by
  unfold Thread.exporting at h
  split at h <;> cases h <;> rfl

theorem Thread.exporting_swapped {t : Thread} {r : Rid} (h : t.exporting = some r) :
    t.swapped = some r := by
  unfold Thread.exporting at h
  split at h <;> cases h <;> rfl

theorem Thread.exports_retiring {t : Thread} {r : Rid} (h : t.exports = some r) :
    t.retiring = true := by
  unfold Thread.exports at h
  split at h
  · rename_i new pc
    cases pc <;> first | rfl | cases h
  · rename_i cfg new pc
    cases pc <;> first | rfl | cases h
  · cases h

/-- `SetRuntimeGeneration` is called for the active runtime, or before the call
for the active runtime. -/
def ExportsInOrder (w : World) : Action → Prop
  | .run i _ => ∀ t ∈ w.threads[i]?, ∀ r ∈ t.exporting,
    r = w.shared.server.runtime ∨ ∃ u ∈ w.threads, u.exports = some w.shared.server.runtime
  | _ => True

/-- The gauge is right, or the call that will set it right is under way. -/
def Exported (w : World) : Prop :=
  w.shared.metrics.generation = float64 (w.shared.heap w.shared.server.runtime).generation ∨
    ∃ t ∈ w.threads, t.exports = some w.shared.server.runtime

section
variable {env : Env} {w w' : World} {a : Action}

theorem History.generation (h : History w) (m : Moved (machine env) w a w') {r : Rid}
    (hr : r ∈ w.shared.installed) :
    (w'.shared.heap r).generation = (w.shared.heap r).generation := by
  have same := congrArg Runtime.generation (h.blueprint m hr)
  exact same

/-- The gauge stays, or one call exports its generation. -/
theorem gauge_moves (m : Moved (machine env) w a w') :
    w'.shared.metrics.generation = w.shared.metrics.generation ∨
    ∃ i c t r, a = .run i c ∧ w.threads[i]? = some t ∧ t.exporting = some r ∧
      w'.shared.metrics.generation = float64 (w.shared.heap r).generation := by
  cases m with
  | step hi fires =>
    rcases (Thread.step_move fires).generation with ⟨same, -⟩ | ⟨r, exporting, gauge⟩
    · exact .inl same
    · exact .inr ⟨_, _, _, r, rfl, hi, exporting, gauge⟩
  | enter fires => cases enter_move fires <;> exact .inl rfl
  | change fires => cases fires; exact .inl rfl

/-- An export stays ahead of its call until it is made. -/
theorem export_stays (m : Moved (machine env) w a w') {r : Rid}
    (ahead : ∃ t ∈ w.threads, t.exports = some r) :
    (∃ t ∈ w'.threads, t.exports = some r) ∨
      w'.shared.metrics.generation = float64 (w.shared.heap r).generation := by
  obtain ⟨t, ht, hr⟩ := ahead
  obtain ⟨i, hi⟩ := List.mem_iff_getElem?.mp ht
  rcases m.thread hi with same | ⟨c, sh', t', new, -, fires, rfl, after⟩
  · exact .inl ⟨t, List.mem_of_getElem? same, hr⟩
  · rcases (Thread.step_move fires).generation with ⟨-, stays⟩ | ⟨q, exporting, gauge⟩
    · exact .inl ⟨t', List.mem_of_getElem? after, stays r hr⟩
    · obtain rfl : r = q := Option.some.inj (hr.symm.trans (Thread.exporting_exports exporting))
      exact .inr gauge

/-- Who installs a runtime has its export ahead. -/
theorem swap_exports (m : Moved (machine env) w a w') :
    w'.shared.server.runtime = w.shared.server.runtime ∨
      ∃ t ∈ w'.threads, t.exports = some w'.shared.server.runtime := by
  cases m with
  | @step i c t sh' t' new hi fires =>
    have move := Thread.step_move fires
    rcases move.ownership with ⟨fixed, -⟩ | ⟨r, swapping, runtime, -⟩ | ⟨-, -, runtime, -⟩
    · exact .inl fixed.runtime
    · refine .inr ⟨t', ?_, runtime ▸ move.swap_exports swapping⟩
      exact List.mem_append_left _ (List.mem_set (List.getElem?_eq_some_iff.mp hi).1 _)
    · exact .inl runtime
  | enter fires => cases enter_move fires <;> exact .inl rfl
  | change fires => cases fires; exact .inl rfl

theorem not_exportsInOrder (h : ¬ ExportsInOrder w a) :
    ∃ i c t r, a = .run i c ∧ w.threads[i]? = some t ∧ t.exporting = some r ∧
      r ≠ w.shared.server.runtime := by
  cases a with
  | run i c =>
    simp only [ExportsInOrder, not_forall, not_or] at h
    obtain ⟨t, hi, r, exporting, ne, -⟩ := h
    exact ⟨i, c, t, r, rfl, hi, exporting, ne⟩
  | call x => exact absurd trivial h
  | env disk => exact absurd trivial h

theorem export_step {i : Nat} {c : Choice} {t : Thread} {r : Rid} (hi : w.threads[i]? = some t)
    (exporting : t.exporting = some r) (hs : World.step env w (.run i c) = some w') :
    w'.shared.metrics.generation = float64 (w.shared.heap r).generation ∧
      w'.shared.server.runtime = w.shared.server.runtime := by
  have m : Moved (machine env) w (.run i c) w' := Machine.next_moved hs
  cases m with
  | step at_ fires =>
    cases hi.symm.trans at_
    have move := Thread.step_move fires
    unfold Thread.exporting at exporting
    split at exporting <;> cases exporting
    · cases move with
      | reload rt move => cases move; exact ⟨rfl, rfl⟩
    · cases move with
      | manager move =>
        cases move with
        | reload cfg rt move => cases move; exact ⟨rfl, rfl⟩

theorem Exported.step (h : Exported w) (history : History w) (inOrder : ExportsInOrder w a)
    (hs : World.step env w a = some w') : Exported w' := by
  have m := Machine.next_moved hs
  have same := history.generation m history.active_mem
  rcases swap_exports m with runtime | ahead
  · -- the active runtime stays: its export is still ahead, was just made, or
    -- was made before and no other comes after it
    have stays (ahead : ∃ t ∈ w.threads, t.exports = some w.shared.server.runtime) :
        Exported w' := by
      rw [Exported, runtime, same]
      exact (export_stays m ahead).symm
    rcases h with gauge | ahead
    · rcases gauge_moves m with kept | ⟨i, c, t, r, rfl, hi, exporting, gauge'⟩
      · left
        rw [kept, runtime, same]
        exact gauge
      · rcases inOrder t hi r exporting with rfl | ahead
        · left
          rw [gauge', runtime, same]
        · exact stays ahead
    · exact stays ahead
  · exact .inr ahead

theorem Exported.run (h : Exported w) (history : History w) (c : Consistent w)
    (r : Run env ExportsInOrder w w') : Exported w' := by
  refine (r.invariant (fun v => Exported v ∧ History v ∧ Consistent v) ⟨h, history, c⟩ ?_).1
  rintro a u v _ ⟨he, hh, hc⟩ inOrder hs
  exact ⟨he.step hh inOrder hs, hh.step hc hs, hc.step hs⟩

/-- While every export comes in the order of the swaps the gauge names the
active runtime whenever no reload is between its swap and its return. An export
that comes too late leaves the generation of another runtime. -/
theorem generation_gauge_active {w₀ : World} (init : Running w₀)
    (gauge : w₀.shared.metrics.generation =
      float64 (w₀.shared.heap w₀.shared.server.runtime).generation)
    (r : Run env ExportsInOrder w₀ w) :
    ((∀ t ∈ w.threads, t.retiring = false) →
      w.shared.metrics.generation =
          float64 (w.shared.heap w.shared.server.runtime).generation ∧
        ((w.shared.heap w.shared.server.runtime).generation < 2 ^ 53 →
          w.shared.metrics.generation = (w.shared.heap w.shared.server.runtime).generation)) ∧
    ∀ a w', World.step env w a = some w' → ¬ ExportsInOrder w a →
      ∃ q ∈ w.shared.installed, q ≠ w'.shared.server.runtime ∧
        w'.shared.metrics.generation = float64 (w'.shared.heap q).generation := by
  have history := init.history.run init.consistent r
  have exported := Exported.run (.inl gauge) init.history init.consistent r
  constructor
  · intro returned
    have named : w.shared.metrics.generation =
        float64 (w.shared.heap w.shared.server.runtime).generation := by
      rcases exported with gauge | ⟨t, ht, ahead⟩
      · exact gauge
      · have under := Thread.exports_retiring ahead
        rw [returned t ht] at under
        cases under
    exact ⟨named, fun small => by rw [named, float64_exact small]⟩
  · intro a w' hs late
    obtain ⟨i, c, t, q, rfl, hi, exporting, ne⟩ := not_exportsInOrder late
    have mem := history.swapped t (List.mem_of_getElem? hi) q (Thread.exporting_swapped exporting)
    obtain ⟨gauge', runtime⟩ := export_step hi exporting hs
    refine ⟨q, mem, runtime ▸ ne, ?_⟩
    rw [gauge', history.generation (Machine.next_moved hs) mem]

end

instance : ∀ w a, Decidable (ExportsInOrder w a)
  | w, .run i _ => inferInstanceAs (Decidable (∀ t ∈ w.threads[i]?, ∀ r ∈ t.exporting,
      r = w.shared.server.runtime ∨ ∃ u ∈ w.threads, u.exports = some w.shared.server.runtime))
  | _, .call _ => .isTrue trivial
  | _, .env _ => .isTrue trivial

/-- Two calls of `Server.Reload` with the generations 2 and 3 that swap one
after the other; `exports` is the order of what follows. -/
def twoReloads (exports : List Action) : List Action :=
  [.call (.reload (newRuntime 2 ":8080" none true)),
    .call (.reload (newRuntime 3 ":8080" none true))] ++ goes 2 5 ++ goes 3 5 ++ exports

theorem generation_gauge_active_two :
    ∃ w, Run sampleEnv ExportsInOrder sampleWorld w ∧ w.shared.installed = [0, 1, 2] ∧
      w.shared.metrics.generation = 3 := by
  obtain ⟨w, r, returned, installed, generation⟩ := Exec.exists_run_of_execWhile
    (World.step sampleEnv) ExportsInOrder sampleWorld
    (twoReloads (goes 2 4 ++ goes 3 6 ++ proberExits 1 ++ goes 2 2))
    (fun w => (∀ t ∈ w.threads, t.retiring = false) ∧ w.shared.installed = [0, 1, 2] ∧
      (w.shared.heap w.shared.server.runtime).generation = 3)
    (by decide)
  have named := (generation_gauge_active sampleWorld_running rfl r).1 returned
  exact ⟨w, r, installed, (named.2 (by rw [generation]; decide)).trans generation⟩

/-- The first call exports its generation after the second has. -/
theorem generation_gauge_stale :
    ¬ ∀ (env : Env) (w₀ w : World), Running w₀ →
      w₀.shared.metrics.generation =
        float64 (w₀.shared.heap w₀.shared.server.runtime).generation →
      Run env (fun _ _ => True) w₀ w →
      (w.shared.installed.map fun r => (w.shared.heap r).generation).Nodup →
      (∀ t ∈ w.threads, t.retiring = false) →
      w.shared.metrics.generation =
        float64 (w.shared.heap w.shared.server.runtime).generation := by
  intro all
  obtain ⟨w, r, distinct, returned, stale⟩ := Exec.exists_run_of_execWhile
    (World.step sampleEnv) (fun _ _ => True) sampleWorld
    (twoReloads (goes 3 6 ++ goes 2 4 ++ proberExits 1 ++ goes 2 2))
    (fun w => (w.shared.installed.map fun r => (w.shared.heap r).generation).Nodup ∧
      (∀ t ∈ w.threads, t.retiring = false) ∧
      w.shared.metrics.generation ≠
        float64 (w.shared.heap w.shared.server.runtime).generation)
    (by decide)
  exact stale (all sampleEnv sampleWorld w sampleWorld_running rfl r distinct returned)

end TorusProxy
