import Mathlib.Algebra.Order.Field.Rat
import Mathlib.Order.WithBot
import TorusProxy.NodeConfig

/-! `JwtAuthenticator` of the Node server: which `Authorization` headers `verify`
accepts, and how that changes with time. -/
namespace TorusProxy.Node

/-! ## The values of a payload -/

/-- A number that is not `NaN`; the least and the greatest are the infinities. -/
abbrev JSNumber := WithBot (WithTop ℚ)

/-- What `JSON.parse` can return. -/
inductive JSValue
  | null
  | bool (b : Bool)
  | number (n : JSNumber)
  | string (s : JSString)
  | array (items : List JSValue)
  | object (fields : List (JSString × JSValue))

namespace JSValue

/-- The property `exp`: a `TypeError` on null, and undefined on what is not an object. -/
def exp : JSValue → Except Unit (Option JSValue)
  | .null => .error ()
  | .object fields => .ok ((fields.find? (·.1 = js "exp")).map Prod.snd)
  | .bool _ | .number _ | .string _ | .array _ => .ok none

def truthy : JSValue → Bool
  | .null => false
  | .bool b => b
  | .number n => n ≠ 0
  | .string s => s ≠ []
  | .array _ | .object _ => true

end JSValue

/-- The libraries `verify` calls: the digest of `createHmac`, the parsed text of a
payload unless decoding throws, and the conversion to a number of a value that is
none, which gives nothing for `NaN` and may throw. -/
structure Platform where
  hmac : (secret body : JSString) → JSString
  decode : (payload : JSString) → Option JSValue
  toNumber : JSValue → Except Unit (Option JSNumber)

/-! ## `verify` -/

section
variable (platform : Platform)

/-- `now > exp`. -/
def isAfter (now : JSNumber) : JSValue → Except Unit Bool
  | .number n => .ok (decide (n < now))
  | value => (platform.toNumber value).map fun
    | some n => decide (n < now)
    | none => false

/-- `Math.floor(Date.now() / 1000)`. -/
def seconds (dateNow : Nat) : JSNumber := WithBot.some (WithTop.some ((dateNow / 1000 : Nat) : ℚ))

/-- The second part of `verify`; what throws in it is caught. -/
def unexpired (dateNow : Nat) (payload : JSString) : Bool :=
  match platform.decode payload with
  | none => false
  | some decodedPayload =>
    match decodedPayload.exp with
    | .error _ => false
    | .ok none => true
    | .ok (some exp) =>
      if exp.truthy then
        match isAfter platform (seconds dateNow) exp with
        | .error _ => false
        | .ok expired => !expired
      else true

def verify (secret : JSString) (dateNow : Nat) (authHeader : Option JSString) : Bool :=
  match authHeader with
  | none => false
  | some authHeader =>
    if authHeader = [] ∨ ¬ (js "Bearer ").isPrefixOf authHeader then false
    else
      match (authHeader.splitOn 32)[1]? with
      | none => false
      | some token =>
        if token = [] then false
        else
          match token.splitOn 46 with
          | [header, payload, signature] =>
            if header = [] ∨ payload = [] ∨ signature = [] then false
            else if signature ≠ platform.hmac secret (header ++ js "." ++ payload) then false
            else unexpired platform dateNow payload
          | _ => false

end

/-! ## What is accepted -/

/-- The first piece of a split list, and the rest of it. -/
theorem splitOn_eq_cons {α : Type} [BEq α] [LawfulBEq α] {a : α} {t x : List α}
    {rest : List (List α)} :
    t.splitOn a = x :: rest ↔ a ∉ x ∧
      (rest = [] ∧ t = x ∨ ∃ more, t = x ++ a :: more ∧ more.splitOn a = rest) := by
  constructor
  · intro split
    by_cases mem : a ∈ t
    · obtain ⟨y, more, rfl, unmet⟩ := List.eq_append_cons_of_mem mem
      rw [List.splitOn_append_cons_self_of_not_mem unmet] at split
      cases split
      exact ⟨unmet, .inr ⟨more, rfl, rfl⟩⟩
    · rw [List.splitOn_eq_singleton mem] at split
      cases split
      exact ⟨mem, .inl ⟨rfl, rfl⟩⟩
  · rintro ⟨unmet, ⟨rfl, rfl⟩ | ⟨more, rfl, rfl⟩⟩
    · exact List.splitOn_eq_singleton unmet
    · exact List.splitOn_append_cons_self_of_not_mem unmet more

/-- A part of a token: not empty, and with neither a dot nor a blank in it. -/
structure Segment (s : JSString) : Prop where
  some : s ≠ []
  dotless : (46 : UInt16) ∉ s
  blankless : (32 : UInt16) ∉ s

/-- The header carries a token of these parts, signed with the secret. After a
blank anything may follow. -/
structure Carries (platform : Platform) (secret authHeader header payload rest : JSString) :
    Prop where
  named : Segment header
  claims : Segment payload
  signed : Segment (platform.hmac secret (header ++ js "." ++ payload))
  text : authHeader = js "Bearer " ++ header ++ js "." ++ payload ++ js "." ++
    platform.hmac secret (header ++ js "." ++ payload) ++ rest
  ends : rest = [] ∨ ∃ more, rest = 32 :: more

/-- The number a value is compared as, or `NaN`. The conversion may throw. -/
def JSValue.asNumber (platform : Platform) : JSValue → Except Unit (Option JSNumber)
  | .number n => .ok (some n)
  | value => platform.toNumber value

theorem splitOn_three {token x y z : JSString} :
    token.splitOn 46 = [x, y, z] ↔ (46 : UInt16) ∉ x ∧ (46 : UInt16) ∉ y ∧ (46 : UInt16) ∉ z ∧
      token = x ++ 46 :: (y ++ 46 :: z) := by
  constructor
  · intro split
    obtain ⟨hx, ⟨none, -⟩ | ⟨second, rfl, split'⟩⟩ := splitOn_eq_cons.mp split
    · cases none
    obtain ⟨hy, ⟨none, -⟩ | ⟨third, rfl, split''⟩⟩ := splitOn_eq_cons.mp split'
    · cases none
    obtain ⟨hz, ⟨-, rfl⟩ | ⟨more, -, none⟩⟩ := splitOn_eq_cons.mp split''
    · exact ⟨hx, hy, hz, rfl⟩
    · exact absurd none (List.splitOn_ne_nil _ _)
  · rintro ⟨hx, hy, hz, rfl⟩
    rw [List.splitOn_append_cons_self_of_not_mem hx, List.splitOn_append_cons_self_of_not_mem hy,
      List.splitOn_eq_singleton hz]

/-- What stands after `Bearer` up to the next blank. -/
theorem splitOn_bearer {text token : JSString} :
    ((js "Bearer " ++ text).splitOn 32)[1]? = some token ↔
      (32 : UInt16) ∉ token ∧ (text = token ∨ ∃ more, text = token ++ 32 :: more) := by
  have bearer : js "Bearer " ++ text = js "Bearer" ++ 32 :: text := rfl
  rw [bearer, List.splitOn_append_cons_self_of_not_mem (by decide), List.getElem?_cons_succ]
  cases split : text.splitOn 32 with
  | nil => exact absurd split (List.splitOn_ne_nil _ _)
  | cons first rest =>
    rw [List.getElem?_cons_zero, Option.some.injEq]
    constructor
    · rintro rfl
      obtain ⟨blankless, ⟨-, here⟩ | ⟨more, here, -⟩⟩ := splitOn_eq_cons.mp split
      · exact ⟨blankless, .inl here⟩
      · exact ⟨blankless, .inr ⟨more, here⟩⟩
    · rintro ⟨blankless, rfl | ⟨more, rfl⟩⟩
      · rw [List.splitOn_eq_singleton blankless] at split
        exact (List.cons.inj split).1.symm
      · rw [List.splitOn_append_cons_self_of_not_mem blankless] at split
        exact (List.cons.inj split).1.symm

section
variable {platform : Platform} {secret authHeader : JSString}

/-- All that `verify` looks at, in its order. -/
theorem verify_eq_true {dateNow : Nat} :
    verify platform secret dateNow (some authHeader) = true ↔
      ∃ text token header payload,
        authHeader = js "Bearer " ++ text ∧
        ((js "Bearer " ++ text).splitOn 32)[1]? = some token ∧
        token.splitOn 46 =
          [header, payload, platform.hmac secret (header ++ js "." ++ payload)] ∧
        header ≠ [] ∧ payload ≠ [] ∧ platform.hmac secret (header ++ js "." ++ payload) ≠ [] ∧
        unexpired platform dateNow payload = true := by
  constructor
  · intro accepted
    simp only [verify] at accepted
    split at accepted
    · cases accepted
    rename_i bearer
    obtain ⟨-, bearer⟩ := not_or.mp bearer
    obtain ⟨text, rfl⟩ := List.isPrefixOf_iff_prefix.mp (not_not.mp bearer)
    split at accepted
    · cases accepted
    rename_i token at_
    split at accepted
    · cases accepted
    split at accepted
    · rename_i header payload signature parts
      split at accepted
      · cases accepted
      rename_i some
      obtain ⟨hasHeader, hasPayload, hasSignature⟩ :
          header ≠ [] ∧ payload ≠ [] ∧ signature ≠ [] := by
        simpa [not_or] using some
      split at accepted
      · cases accepted
      rename_i same
      obtain rfl := not_not.mp same
      exact ⟨text, token, header, payload, rfl, at_, parts, hasHeader, hasPayload, hasSignature,
        accepted⟩
    · cases accepted
  · rintro ⟨text, token, header, payload, rfl, at_, parts, hasHeader, hasPayload, hasSignature,
      alive⟩
    have bearer : (js "Bearer ").isPrefixOf (js "Bearer " ++ text) = true :=
      List.isPrefixOf_iff_prefix.mpr (List.prefix_append _ _)
    have token_some : token ≠ [] := by
      rintro rfl
      simp at parts
    have text_some : js "Bearer " ++ text ≠ [] := by simp [js]
    simp only [verify, at_, parts, text_some, bearer, token_some, hasHeader, hasPayload,
      hasSignature, alive, not_true_eq_false, or_self, if_false, ne_eq]

theorem isAfter_eq (platform : Platform) (now : JSNumber) (exp : JSValue) :
    isAfter platform now exp = (exp.asNumber platform).map (·.any (· < now)) := by
  cases exp with
  | number n => rfl
  | null | bool | string | array | object =>
    simp only [isAfter, JSValue.asNumber]
    congr 1
    funext number
    cases number <;> rfl

theorem unexpired_iff {dateNow : Nat} {payload : JSString} :
    unexpired platform dateNow payload = true ↔
      ∃ claims exp, platform.decode payload = some claims ∧ claims.exp = .ok exp ∧
        ∀ e ∈ exp, e.truthy = true → ∃ number, e.asNumber platform = .ok number ∧
          ∀ n ∈ number, seconds dateNow ≤ n := by
  unfold unexpired
  cases platform.decode payload with
  | none => simp
  | some claims =>
    cases claimed : claims.exp with
    | error => simp [claimed]
    | ok exp =>
      cases exp with
      | none => simp [claimed]
      | some e =>
        by_cases truthy : e.truthy = true
        · cases number : e.asNumber platform with
          | error => simp [claimed, truthy, isAfter_eq, number, Except.map]
          | ok n => cases n <;> simp [claimed, truthy, isAfter_eq, number, Except.map]
        · simp [claimed, truthy]

theorem verify_carried {dateNow : Nat} :
    verify platform secret dateNow (some authHeader) = true ↔
      ∃ header payload rest, Carries platform secret authHeader header payload rest ∧
        unexpired platform dateNow payload = true := by
  rw [verify_eq_true]
  constructor
  · rintro ⟨text, token, header, payload, rfl, at_, parts, hasHeader, hasPayload, hasSignature,
      alive⟩
    obtain ⟨hx, hy, hz, rfl⟩ := splitOn_three.mp parts
    obtain ⟨blankless, ends⟩ := splitOn_bearer.mp at_
    simp only [List.mem_append, List.mem_cons, not_or] at blankless
    obtain ⟨bx, -, by', -, bz⟩ := blankless
    refine ⟨header, payload, text.drop (header ++ 46 :: (payload ++ 46 ::
      platform.hmac secret (header ++ js "." ++ payload))).length,
      ⟨⟨hasHeader, hx, bx⟩, ⟨hasPayload, hy, by'⟩, ⟨hasSignature, hz, bz⟩, ?_, ?_⟩, alive⟩
    · rcases ends with rfl | ⟨more, rfl⟩
      · simp [js]
      · rw [List.drop_left]
        simp [js]
    · rcases ends with rfl | ⟨more, rfl⟩
      · exact .inl (List.drop_length)
      · exact .inr ⟨more, List.drop_left⟩
  · rintro ⟨header, payload, rest, ⟨named, claims, signed, text, ends⟩, alive⟩
    refine ⟨header ++ 46 :: (payload ++ 46 ::
      platform.hmac secret (header ++ js "." ++ payload)) ++ rest, _, header, payload, ?_,
      splitOn_bearer.mpr ⟨?_, ?_⟩, splitOn_three.mpr ⟨named.dotless, claims.dotless,
      signed.dotless, rfl⟩, named.some, claims.some, signed.some, alive⟩
    · rw [text]
      simp [js]
    · simp only [List.mem_append, List.mem_cons, not_or]
      exact ⟨named.blankless, by decide, claims.blankless, by decide, signed.blankless⟩
    · rcases ends with rfl | ⟨more, rfl⟩
      · exact .inl (List.append_nil _)
      · exact .inr ⟨more, rfl⟩

/-- What is accepted, and nothing else: a token in three parts whose last is the
digest of the others under the secret, and whose payload decodes to claims without an
expiry, or with one that is falsy, is compared as `NaN`, or is not before the current
second. -/
theorem verify_iff_carries (dateNow : Nat) :
    verify platform secret dateNow (some authHeader) = true ↔
      ∃ header payload rest claims exp,
        Carries platform secret authHeader header payload rest ∧
        platform.decode payload = some claims ∧ claims.exp = .ok exp ∧
        ∀ e ∈ exp, e.truthy = true → ∃ number, e.asNumber platform = .ok number ∧
          ∀ n ∈ number, seconds dateNow ≤ n := by
  simp only [verify_carried, unexpired_iff]
  constructor
  · rintro ⟨header, payload, rest, carries, claims, exp, alive⟩
    exact ⟨header, payload, rest, claims, exp, carries, alive⟩
  · rintro ⟨header, payload, rest, claims, exp, carries, alive⟩
    exact ⟨header, payload, rest, carries, claims, exp, alive⟩

/-! ## How long it is accepted -/

/-- The time enters only where the payload is looked at. -/
theorem verify_static (platform : Platform) (secret : JSString) (authHeader : Option JSString) :
    (∀ dateNow, verify platform secret dateNow authHeader = false) ∨
    ∃ payload, ∀ dateNow,
      verify platform secret dateNow authHeader = unexpired platform dateNow payload := by
  cases authHeader with
  | none => exact .inl fun _ => rfl
  | some authHeader =>
    by_cases accepted : ∃ dateNow, verify platform secret dateNow (some authHeader) = true
    · obtain ⟨_, accepted⟩ := accepted
      obtain ⟨text, token, header, payload, rfl, at_, parts, hasHeader, hasPayload, hasSignature,
        -⟩ := verify_eq_true.mp accepted
      refine .inr ⟨payload, fun now => ?_⟩
      rw [Bool.eq_iff_iff]
      constructor
      · intro again
        obtain ⟨text', token', header', payload', same, at_', parts', -, -, -, alive⟩ :=
          verify_eq_true.mp again
        -- a header has one token, and a token one payload
        obtain rfl := List.append_cancel_left same
        obtain rfl := Option.some.inj (at_.symm.trans at_')
        have twice := parts.symm.trans parts'
        simp only [List.cons.injEq] at twice
        rw [twice.2.1]
        exact alive
      · intro alive
        exact verify_eq_true.mpr ⟨text, token, header, payload, rfl, at_, parts, hasHeader,
          hasPayload, hasSignature, alive⟩
    · exact .inl fun now => Bool.eq_false_iff.mpr fun h => accepted ⟨now, h⟩

/-- What the clock can do to an answer. -/
inductive Lifetime (accepted : Nat → Bool) : Prop
  | never (refused : ∀ dateNow, accepted dateNow = false)
  | always (taken : ∀ dateNow, accepted dateNow = true)
  | until (deadline : JSNumber)
      (taken : ∀ dateNow, accepted dateNow = true ↔ seconds dateNow ≤ deadline)

/-- A comparison with the time throws, is false for good, or is one with a number. -/
theorem isAfter_cases (platform : Platform) (exp : JSValue) :
    (∀ now, isAfter platform now exp = .error ()) ∨ (∀ now, isAfter platform now exp = .ok false) ∨
    ∃ n, ∀ now, isAfter platform now exp = .ok (decide (n < now)) := by
  simp only [isAfter_eq]
  cases exp.asNumber platform with
  | error => exact .inl fun _ => rfl
  | ok n =>
    cases n with
    | none => exact .inr (.inl fun _ => rfl)
    | some n => exact .inr (.inr ⟨n, fun _ => rfl⟩)

theorem unexpired_lifetime (platform : Platform) (payload : JSString) :
    Lifetime fun dateNow => unexpired platform dateNow payload := by
  unfold unexpired
  cases platform.decode payload with
  | none => exact .never fun _ => rfl
  | some decodedPayload =>
    simp only
    cases decodedPayload.exp with
    | error => exact .never fun _ => rfl
    | ok exp =>
      cases exp with
      | none => exact .always fun _ => rfl
      | some exp =>
        by_cases truthy : exp.truthy = true
        · rcases isAfter_cases platform exp with throws | past | ⟨n, number⟩
          · exact .never fun _ => by simp [truthy, throws]
          · exact .always fun _ => by simp [truthy, past]
          · exact .until n fun _ => by simp [truthy, number]
        · exact .always fun _ => by simp [truthy]

/-- **Lifetime.** Whatever the header, it is refused for good, accepted for good,
or accepted up to a second and refused from the next one on. -/
theorem verify_lifetime (platform : Platform) (secret : JSString) (authHeader : Option JSString) :
    Lifetime fun dateNow => verify platform secret dateNow authHeader := by
  rcases verify_static platform secret authHeader with refused | ⟨payload, same⟩
  · exact .never refused
  · simp only [same]
    exact unexpired_lifetime platform payload

end

end TorusProxy.Node
