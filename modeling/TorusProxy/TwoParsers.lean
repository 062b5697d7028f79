import TorusProxy.NetURL
import TorusProxy.Rewrite
import TorusProxy.Running
import TorusProxy.Validation

/-! The URL of an upstream is parsed twice: `Validate` calls
`url.ParseRequestURI`, `NewBackend` calls `url.Parse`. -/
namespace TorusProxy

open NetURL ServeMux

/-- The environment parses URLs as `net/url` does. -/
structure Env.Standard (env : Env) (parseAuthority : Bytes → Bytes → Option String) : Prop where
  parse : ∀ s, (env.parse s).toOption = (NetURL.parse parseAuthority (bytes s)).map (·.toURL)
  parseRequestURI : ∀ s, (env.parseRequestURI s).toOption =
    (NetURL.parseRequestURI parseAuthority (bytes s)).map (·.toURL)
  /-- `#` belongs to no authority. -/
  authority : ∀ scheme a, 35 ∈ a → parseAuthority scheme a = none

/-- The backend is built, and a request it forwards goes to what was checked. -/
def BuiltAsChecked (env : Env) (upstream : String) : Prop :=
  ∀ v, env.parseRequestURI upstream = .ok v → ∃ u, env.parse upstream = .ok u ∧
    ∀ newString inbound out, (rewrite u newString inbound out).url = v

/-- A text with an authority that both parsers take. -/
structure Accepted (parseAuthority : Bytes → Bytes → Option String)
    (raw scheme authority path query : Bytes) (host : String) : Prop where
  splits : Splits raw scheme authority path query
  clean : raw.any isCTL = false
  host : parseAuthority (toLower scheme) authority = some host
  whole : ∃ p, Unescapes path p

namespace Accepted

variable {parseAuthority : Bytes → Bytes → Option String}
  {raw scheme authority path query : Bytes} {host : String}

theorem parseAs (h : Accepted parseAuthority raw scheme authority path query host)
    (viaRequest : Bool) :
    ∃ v, NetURL.parseAs parseAuthority viaRequest raw = some v ∧
      v.toURL = ⟨ascii (toLower scheme), host⟩ ∧ v.requestURI = target path query := by
  obtain ⟨p, whole⟩ := h.whole
  have parsed := h.splits.parseAs parseAuthority viaRequest
  rw [h.clean, h.host] at parsed
  simp only [Bool.false_eq_true, if_false, Option.bind_some, ParsedURL.setPath,
    unescape_iff.mpr whole, Option.map_some] at parsed
  exact ⟨_, parsed, rfl, h.splits.requestURI parsed⟩

theorem of_parseAs {viaRequest : Bool} {v : ParsedURL}
    (splits : Splits raw scheme authority path query)
    (h : NetURL.parseAs parseAuthority viaRequest raw = some v) :
    ∃ host, Accepted parseAuthority raw scheme authority path query host := by
  rw [splits.parseAs] at h
  split at h
  · cases h
  · rename_i clean
    obtain ⟨host, site, set⟩ := Option.bind_eq_some_iff.mp h
    obtain ⟨p, whole, -⟩ := Option.map_eq_some_iff.mp set
    exact ⟨host, splits, by simpa using clean, site, p, unescape_iff.mp whole⟩

/-- What is before the first `#` is accepted with the whole. -/
theorem beforeHash (h : Accepted parseAuthority raw scheme authority path query host)
    (plain : 35 ∉ authority) :
    ∃ path' query', Accepted parseAuthority (cut raw 35).1 scheme authority path' query' host := by
  obtain ⟨path', query', splits, same⟩ := h.splits.beforeHash plain
  obtain ⟨p, whole⟩ := h.whole
  refine ⟨path', query', splits, ?_, h.host, ?_⟩
  · have clean := h.clean
    rw [List.any_eq_false] at clean ⊢
    exact fun c hc => clean c ((List.takeWhile_prefix _).subset hc)
  · rcases same with rfl | ⟨t, rfl⟩
    · exact ⟨p, whole⟩
    · exact whole.before (by decide)

/-- `url.Parse` has nothing against such a text but its fragment. -/
theorem parse_iff (h : Accepted parseAuthority raw scheme authority path query host)
    (plain : 35 ∉ authority) :
    (∃ v, NetURL.parse parseAuthority raw = some v ∧
      v.toURL = ⟨ascii (toLower scheme), host⟩) ↔
      ∃ fragment, unescape (cut raw 35).2 = some fragment := by
  obtain ⟨path', query', before⟩ := h.beforeHash plain
  obtain ⟨v, parsed, site, -⟩ := before.parseAs false
  simp only [parse_eq_some, parsed]
  constructor
  · rintro ⟨w, ⟨-, whole⟩, -⟩
    exact whole
  · intro whole
    exact ⟨v, ⟨rfl, whole⟩, site⟩

end Accepted

section
variable {env : Env} {parseAuthority : Bytes → Bytes → Option String} {upstream : String}

/-- What `Validate` has read of an upstream that it accepts. -/
theorem Env.Standard.accepted (std : env.Standard parseAuthority) (h : UpstreamURL env upstream) :
    ∃ scheme authority path query host,
      Accepted parseAuthority (bytes upstream) scheme authority path query host ∧ 35 ∉ authority ∧
      Reaches ⟨ascii (toLower scheme), host⟩ ∧
      env.parseRequestURI upstream = .ok ⟨ascii (toLower scheme), host⟩ := by
  obtain ⟨-, u, ok, reaches⟩ := h
  have parsed := std.parseRequestURI upstream
  rw [ok] at parsed
  obtain ⟨v, hv, rfl⟩ := Option.map_eq_some_iff.mp parsed.symm
  have hasScheme : v.scheme ≠ "" := by
    intro empty
    rcases reaches.scheme with scheme | scheme
    · exact absurd (empty.symm.trans scheme) (by decide)
    · exact absurd (empty.symm.trans scheme) (by decide)
  have hasHost : v.host ≠ "" := by
    intro empty
    apply reaches.host
    rw [URL.hostname, empty]
    decide
  obtain ⟨scheme, authority, path, query, splits⟩ := exists_splits hv hasScheme hasHost
  obtain ⟨host, accepted⟩ := Accepted.of_parseAs splits hv
  obtain ⟨v', hv', site, -⟩ := accepted.parseAs true
  obtain rfl : v = v' := Option.some.inj (hv.symm.trans hv')
  refine ⟨scheme, authority, path, query, host, accepted, ?_, site ▸ reaches, site ▸ ok⟩
  intro hash
  have refused := std.authority (toLower scheme) authority hash
  rw [accepted.host] at refused
  cases refused

/-- What passes `Validate` is built as it was checked exactly if the text after
its first `#`, if there is one, has no broken escape. -/
theorem built_as_checked_iff (std : env.Standard parseAuthority)
    (accepted : UpstreamURL env upstream) :
    BuiltAsChecked env upstream ↔ ∃ fragment, unescape (cut (bytes upstream) 35).2 = some fragment := by
  obtain ⟨scheme, authority, path, query, host, taken, plain, -, ok⟩ := std.accepted accepted
  have parses := std.parse upstream
  rw [← taken.parse_iff plain]
  constructor
  · intro built
    obtain ⟨u, ok', site⟩ := built _ ok
    rw [ok'] at parses
    obtain ⟨v, hv, rfl⟩ := Option.map_eq_some_iff.mp parses.symm
    exact ⟨v, hv, site [] ⟨[], false, [], ⟨fun _ => []⟩⟩ ⟨⟨"", ""⟩, ⟨fun _ => []⟩⟩⟩
  · rintro ⟨v, hv, site⟩ checked ok'
    rw [ok] at ok'
    cases ok'
    rw [hv] at parses
    refine ⟨v.toURL, eq_ok_of_toOption parses, ?_⟩
    intro newString inbound out
    exact site

end

/-! ## An environment with these parsers -/

/-- Names, IPv4 addresses and ports. -/
def sampleAuthority (_ authority : Bytes) : Option String :=
  if authority.all fun c => isLetter c || isDigit c || (bytes ".-:").contains c then
    some (ascii authority)
  else none

/-- A parsed URL, or some error. -/
def orInvalid (s : String) : Option ParsedURL → Except String URL
  | some v => .ok v.toURL
  | none => .error ("parse " ++ quote sampleEnv.isPrint s ++ ": invalid URL")

def standardEnv : Env where
  unmarshal := sampleEnv.unmarshal
  parseRequestURI s := orInvalid s (NetURL.parseRequestURI sampleAuthority (bytes s))
  parse s := orInvalid s (NetURL.parse sampleAuthority (bytes s))
  isPrint := sampleEnv.isPrint

theorem orInvalid_toOption (s : String) (v : Option ParsedURL) :
    (orInvalid s v).toOption = v.map (·.toURL) := by
  cases v <;> rfl

theorem standardEnv_standard : standardEnv.Standard sampleAuthority := by
  refine ⟨fun s => orInvalid_toOption s _, fun s => orInvalid_toOption s _, ?_⟩
  intro scheme a hash
  have out : ¬ (a.all fun c => isLetter c || isDigit c || (bytes ".-:").contains c) = true := by
    intro all
    exact absurd (List.all_eq_true.mp all 35 hash) (by decide)
  exact if_neg out

theorem standardEnv_parse_sample :
    standardEnv.parse "http://10.0.0.1:9000" = .ok ⟨"http", "10.0.0.1:9000"⟩ :=
  eq_ok_of_toOption (by decide +kernel)

theorem UpstreamURL.of_validate {env : Env} {upstream : String}
    (h : (validateUpstream env "" upstream).toOption = some ()) : UpstreamURL env upstream :=
  (validateUpstream_ok env).mp (eq_ok_of_toOption h)

theorem built_as_checked_fragment :
    BuiltAsChecked standardEnv "http://10.0.0.1:9000/?a#b%20c" := by
  have accepted : UpstreamURL standardEnv "http://10.0.0.1:9000/?a#b%20c" :=
    .of_validate (by decide +kernel)
  exact (built_as_checked_iff standardEnv_standard accepted).mpr ⟨bytes "b c", by decide +kernel⟩

/-- To `url.ParseRequestURI` the fragment is part of the query; `url.Parse`
refuses its escape. -/
def brokenFragment : String := "http://10.0.0.2:9000/?#%zz"

theorem brokenFragment_accepted : UpstreamURL standardEnv brokenFragment :=
  .of_validate (by decide +kernel)

theorem brokenFragment_refused : ∃ err, standardEnv.parse brokenFragment = .error err := by
  have refused : (standardEnv.parse brokenFragment).toOption = none := by decide +kernel
  cases h : standardEnv.parse brokenFragment with
  | error err => exact ⟨err, rfl⟩
  | ok u =>
    rw [h] at refused
    cases refused

theorem parsers_disagree :
    ¬ ∀ (env : Env) (parseAuthority : Bytes → Bytes → Option String) (upstream : String),
      env.Standard parseAuthority → UpstreamURL env upstream → BuiltAsChecked env upstream := by
  intro always
  obtain ⟨v, ok, -⟩ := brokenFragment_accepted.2
  obtain ⟨u, parsed, -⟩ :=
    always _ _ _ standardEnv_standard brokenFragment_accepted v ok
  obtain ⟨err, refused⟩ := brokenFragment_refused
  rw [refused] at parsed
  cases parsed

end TorusProxy
