import Mathlib.Data.List.Induction
import Mathlib.Data.List.Nodup

/-! Maps that are gone through in the order in which their keys were first set.
Setting a key again changes its value and leaves it where it is. -/

structure OrderedMap (κ ν : Type) where
  entries : List (κ × ν)
  distinct : (entries.map Prod.fst).Nodup

namespace OrderedMap

section
variable {κ ν : Type}

theorem eq_of_key {es : List (κ × ν)} (distinct : (es.map Prod.fst).Nodup) {k : κ} {v w : ν}
    (hv : (k, v) ∈ es) (hw : (k, w) ∈ es) : v = w := by
  have same := List.inj_on_of_nodup_map distinct hv hw rfl
  exact congrArg Prod.snd same

/-- The pair stands in the list, and no later one has its key. -/
def Last (kvs : List (κ × ν)) (k : κ) (v : ν) : Prop :=
  ∃ before after, kvs = before ++ (k, v) :: after ∧ ∀ e ∈ after, e.1 ≠ k

theorem last_snoc {kvs : List (κ × ν)} {k l : κ} {v w : ν} :
    Last (kvs ++ [(k, v)]) l w ↔ l = k ∧ w = v ∨ l ≠ k ∧ Last kvs l w := by
  constructor
  · rintro ⟨before, after, split, unset⟩
    rcases List.eq_nil_or_concat after with rfl | ⟨after, e, rfl⟩
    · have same := List.append_inj_right' split rfl
      simp only [List.cons.injEq, Prod.mk.injEq, and_true] at same
      exact .inl ⟨same.1.symm, same.2.symm⟩
    · rw [List.concat_eq_append, ← List.cons_append, ← List.append_assoc] at split
      have last := List.append_inj_right' split rfl
      simp only [List.cons.injEq, and_true] at last
      refine .inr ⟨?_, before, after, List.append_inj_left' split rfl, ?_⟩
      · rintro rfl
        exact unset e (by simp) (by rw [← last])
      · intro e' he'
        exact unset e' (by simp [he'])
  · rintro (⟨rfl, rfl⟩ | ⟨other, before, after, rfl, unset⟩)
    · exact ⟨kvs, [], rfl, by simp⟩
    · refine ⟨before, after ++ [(k, v)], by simp, ?_⟩
      intro e he
      rcases List.mem_append.mp he with he | he
      · exact unset e he
      · rw [List.mem_singleton.mp he]
        exact Ne.symm other

/-- The last pair of a key stays the last when the values are mapped. -/
theorem last_map {μ : Type} (f : ν → μ) {kvs : List (κ × ν)} {k : κ} {w : μ} :
    Last (kvs.map fun e => (e.1, f e.2)) k w ↔ ∃ v, Last kvs k v ∧ f v = w := by
  constructor
  · rintro ⟨before, after, split, unset⟩
    obtain ⟨before', rest, rfl, rfl, tail⟩ := List.map_eq_append_iff.mp split
    obtain ⟨⟨k', v⟩, after', rfl, now, rfl⟩ := List.map_eq_cons_iff.mp tail
    cases now
    refine ⟨v, ⟨before', after', rfl, ?_⟩, rfl⟩
    intro e he
    exact unset _ (List.mem_map_of_mem he)
  · rintro ⟨v, ⟨before, after, rfl, unset⟩, rfl⟩
    refine ⟨before.map fun e => (e.1, f e.2), after.map fun e => (e.1, f e.2), by simp, ?_⟩
    intro e he
    obtain ⟨e', he', rfl⟩ := List.mem_map.mp he
    exact unset e' he'

theorem Last.mem {kvs : List (κ × ν)} {k : κ} {v : ν} (h : Last kvs k v) : (k, v) ∈ kvs := by
  obtain ⟨before, after, rfl, -⟩ := h
  simp

end

variable {κ ν : Type} [DecidableEq κ]

def empty : OrderedMap κ ν := ⟨[], List.nodup_nil⟩

/-- The entry of the key with its new value, another as it is. -/
def replace (k : κ) (v : ν) (e : κ × ν) : κ × ν := if e.1 = k then (k, v) else e

theorem replace_fst (k : κ) (v : ν) (e : κ × ν) : (replace k v e).1 = e.1 := by
  unfold replace
  split
  · rename_i here
    exact here.symm
  · rfl

def set (m : OrderedMap κ ν) (k : κ) (v : ν) : OrderedMap κ ν :=
  if h : k ∈ m.entries.map Prod.fst then
    { entries := m.entries.map (replace k v)
      distinct := by
        have same : Prod.fst ∘ replace k v = Prod.fst := funext (replace_fst k v)
        rw [List.map_map, same]
        exact m.distinct }
  else
    { entries := m.entries ++ [(k, v)]
      distinct := by
        rw [List.map_append, List.map_singleton, List.nodup_append]
        refine ⟨m.distinct, List.nodup_singleton _, ?_⟩
        intro a ha b hb same
        rw [same, List.mem_singleton.mp hb] at ha
        exact h ha }

def get (m : OrderedMap κ ν) (k : κ) : Option ν := (m.entries.find? (·.1 = k)).map Prod.snd

/-- The map after setting these in order. -/
def setAll (m : OrderedMap κ ν) (kvs : List (κ × ν)) : OrderedMap κ ν :=
  kvs.foldl (fun m e => m.set e.1 e.2) m

theorem get_eq_some (m : OrderedMap κ ν) {k : κ} {v : ν} :
    m.get k = some v ↔ (k, v) ∈ m.entries := by
  rw [get, Option.map_eq_some_iff]
  constructor
  · rintro ⟨⟨k', v'⟩, found, rfl⟩
    have here := List.find?_some found
    obtain rfl : k' = k := by simpa using here
    exact List.mem_of_find?_eq_some found
  · intro mem
    cases found : m.entries.find? (·.1 = k) with
    | none =>
      have missing := List.find?_eq_none.mp found (k, v) mem
      simp at missing
    | some e =>
      have here := List.find?_some found
      obtain ⟨k', v'⟩ := e
      obtain rfl : k' = k := by simpa using here
      exact ⟨_, rfl, eq_of_key m.distinct (List.mem_of_find?_eq_some found) mem⟩

@[simp] theorem get_empty (k : κ) : (empty : OrderedMap κ ν).get k = none := rfl

theorem mem_set (m : OrderedMap κ ν) {k l : κ} {v w : ν} :
    (l, w) ∈ (m.set k v).entries ↔ l = k ∧ w = v ∨ l ≠ k ∧ (l, w) ∈ m.entries := by
  unfold set
  split
  · rename_i known
    obtain ⟨⟨k', old⟩, mem, rfl⟩ := List.mem_map.mp known
    simp only [List.mem_map, replace]
    constructor
    · rintro ⟨⟨k'', u⟩, hu, now⟩
      split at now
      · cases now
        exact .inl ⟨rfl, rfl⟩
      · rename_i other
        cases now
        exact .inr ⟨other, hu⟩
    · rintro (⟨rfl, rfl⟩ | ⟨other, hl⟩)
      · exact ⟨_, mem, by simp⟩
      · exact ⟨_, hl, by simp [other]⟩
  · rename_i unknown
    simp only [List.mem_append, List.mem_singleton, Prod.mk.injEq]
    constructor
    · rintro (hl | here)
      · refine .inr ⟨?_, hl⟩
        rintro rfl
        exact unknown (List.mem_map_of_mem hl)
      · exact .inl here
    · rintro (here | ⟨-, hl⟩)
      · exact .inr here
      · exact .inl hl

/-- Of all the values set for a key, the last is kept. -/
theorem get_setAll {kvs : List (κ × ν)} {k : κ} {v : ν} :
    (empty.setAll kvs).get k = some v ↔ Last kvs k v := by
  rw [get_eq_some]
  induction kvs using List.reverseRecOn generalizing k v with
  | nil =>
    constructor
    · intro none
      cases none
    · rintro ⟨before, after, split, -⟩
      simp at split
  | append_singleton kvs e ih =>
    rw [setAll, List.foldl_append, List.foldl_cons, List.foldl_nil, mem_set, last_snoc]
    exact or_congr_right (and_congr_right fun _ => ih)

/-- A key that stands in the list has a last pair. -/
theorem exists_last {kvs : List (κ × ν)} {k : κ} {v : ν} (h : (k, v) ∈ kvs) :
    ∃ w, Last kvs k w := by
  induction kvs using List.reverseRecOn with
  | nil => cases h
  | append_singleton kvs e ih =>
    obtain ⟨l, u⟩ := e
    by_cases here : k = l
    · exact ⟨u, last_snoc.mpr (.inl ⟨here, rfl⟩)⟩
    · rcases List.mem_append.mp h with h | h
      · obtain ⟨w, last⟩ := ih h
        exact ⟨w, last_snoc.mpr (.inr ⟨here, last⟩)⟩
      · cases List.mem_singleton.mp h
        exact absurd rfl here

end OrderedMap
