import TorusProxy.ServeMux

/-! The parts of `net/url` that two parsers of the same text and a request made
from it differ in. Only the authority is left to a parameter: its rules are not
the same in every release of the library. -/
namespace TorusProxy
namespace NetURL

open ServeMux

/-! ## Escapes in a path -/

def isLetter (c : UInt8) : Bool := (97 ≤ c && c ≤ 122) || (65 ≤ c && c ≤ 90)

def isDigit (c : UInt8) : Bool := 48 ≤ c && c ≤ 57

/-- `shouldEscape` in a path. -/
def shouldEscape (c : UInt8) : Bool :=
  !(isLetter c || isDigit c || (bytes "-_.~$&+,/:;=@").contains c)

def upperhex (n : UInt8) : UInt8 := if n < 10 then 48 + n else 55 + n

def escapeByte (c : UInt8) : Bytes :=
  if shouldEscape c then [37, upperhex (c / 16), upperhex (c % 16)] else [c]

/-- `escape` in a path. -/
def escape (s : Bytes) : Bytes := s.flatMap escapeByte

/-- What `validEncoded` lets pass in a path; 39 is the apostrophe. -/
def validEncodedByte (c : UInt8) : Bool :=
  c == 39 || (bytes "!$&()*+,;=:@[]%").contains c || !shouldEscape c

def validEncoded (s : Bytes) : Bool := s.all validEncodedByte

/-! ## The parser -/

/-- A `url.URL` with what a request made from it reads. -/
structure ParsedURL extends URL where
  opaquePart : Bytes
  path : Bytes
  rawPath : Bytes
  forceQuery : Bool
  rawQuery : Bytes
  deriving DecidableEq, Repr

/-- `setPath`; none where it returns an error. -/
def ParsedURL.setPath (u : ParsedURL) (p : Bytes) : Option ParsedURL :=
  (unescape p).map fun path => { u with path, rawPath := if p = escape path then [] else p }

/-- A byte that `stringContainsCTLByte` looks for. -/
def isCTL (c : UInt8) : Bool := c < 32 || c == 127

def schemeByte (c : UInt8) : Bool := isLetter c || isDigit c || (bytes "+-.").contains c

/-- `getScheme`: the scheme, empty where there is none, and the rest. -/
def getScheme (rawURL : Bytes) : Option (Bytes × Bytes) :=
  match rawURL with
  | [] => some ([], rawURL)
  | c :: _ =>
    if c = 58 then none
    else if isLetter c then
      match rawURL.dropWhile schemeByte with
      | 58 :: rest => some (rawURL.takeWhile schemeByte, rest)
      | _ => some ([], rawURL)
    else some ([], rawURL)

def toLower (s : Bytes) : Bytes := s.map fun c => if 65 ≤ c && c ≤ 90 then c + 32 else c

/-- A text of ASCII characters. -/
def ascii (s : Bytes) : String := String.ofList (s.map fun c => Char.ofNat c.toNat)

/-- `strings.Cut` at the first `sep`: what is before and what is after it. -/
def cut (s : Bytes) (sep : UInt8) : Bytes × Bytes :=
  (s.takeWhile (· ≠ sep), (s.dropWhile (· ≠ sep)).drop 1)

/-- The rest without its query, `ForceQuery` and `RawQuery`. -/
def cutQuery (rest : Bytes) : Bytes × Bool × Bytes :=
  if rest.getLast? = some 63 ∧ rest.count 63 = 1 then (rest.dropLast, true, [])
  else ((cut rest 63).1, false, (cut rest 63).2)

section
variable (parseAuthority : Bytes → Bytes → Option String)

/-- `parse` after its scheme. -/
def parseRest (viaRequest : Bool) (scheme rest : Bytes) : Option ParsedURL :=
  match cutQuery rest with
  | (rest, forceQuery, rawQuery) =>
    let url : ParsedURL := ⟨⟨ascii scheme, ""⟩, [], [], [], forceQuery, rawQuery⟩
    if rest.head? ≠ some 47 ∧ scheme ≠ [] then some { url with opaquePart := rest }
    else if rest.head? ≠ some 47 ∧ viaRequest = true then none
    else if rest.head? ≠ some 47 ∧ 58 ∈ (cut rest 47).1 then none
    else if (scheme ≠ [] ∨ viaRequest = false ∧ ¬ [47, 47, 47] <+: rest) ∧ [47, 47] <+: rest then
      -- The authority ends where the path begins.
      (parseAuthority scheme ((rest.drop 2).takeWhile (· ≠ 47))).bind fun host =>
        { url with host }.setPath ((rest.drop 2).dropWhile (· ≠ 47))
    else url.setPath rest

/-- `parse`; none where it returns an error. -/
def parseAs (viaRequest : Bool) (rawURL : Bytes) : Option ParsedURL :=
  if rawURL.any isCTL then none
  else if rawURL = [] ∧ viaRequest = true then none
  else if rawURL = [42] then some ⟨⟨"", ""⟩, [], [42], [], false, []⟩
  else (getScheme rawURL).bind fun (scheme, rest) =>
    parseRest parseAuthority viaRequest (toLower scheme) rest

/-- `url.ParseRequestURI`. -/
def parseRequestURI (rawURL : Bytes) : Option ParsedURL := parseAs parseAuthority true rawURL

/-- `url.Parse`, with `setFragment`. -/
def parse (rawURL : Bytes) : Option ParsedURL :=
  (parseAs parseAuthority false (cut rawURL 35).1).bind fun url =>
    if (cut rawURL 35).2 = [] then some url else (unescape (cut rawURL 35).2).map fun _ => url

end

namespace ParsedURL

/-- `EscapedPath`. -/
def escapedPath (u : ParsedURL) : Bytes :=
  if u.rawPath ≠ [] ∧ validEncoded u.rawPath ∧ unescape u.rawPath = some u.path then u.rawPath
  else if u.path = [42] then [42]
  else escape u.path

/-- `RequestURI`. -/
def requestURI (u : ParsedURL) : Bytes :=
  let result :=
    if u.opaquePart = [] then if u.escapedPath = [] then [47] else u.escapedPath
    else if [47, 47] <+: u.opaquePart then bytes u.scheme ++ 58 :: u.opaquePart
    else u.opaquePart
  if u.forceQuery ∨ u.rawQuery ≠ [] then result ++ 63 :: u.rawQuery else result

end ParsedURL

/-! ## Escaping and unescaping -/

/-- What `escape` writes for one half of a byte. -/
theorem upperhex_digit {n : UInt8} (h : n < 16) :
    unhex (upperhex n) = some n ∧ validEncodedByte (upperhex n) = true := by
  have all : ∀ k : Fin 16, unhex (upperhex (.ofNat k)) = some (.ofNat k) ∧
      validEncodedByte (upperhex (.ofNat k)) = true := by decide
  have here := all ⟨n.toNat, h⟩
  simpa using here

theorem high_lt (x : UInt8) : x / 16 < 16 := by
  have lt := x.toNat_lt
  rw [UInt8.lt_iff_toNat_lt]
  simp only [UInt8.toNat_div, UInt8.reduceToNat]
  omega

theorem low_lt (x : UInt8) : x % 16 < 16 := by
  rw [UInt8.lt_iff_toNat_lt]
  simp only [UInt8.toNat_mod, UInt8.reduceToNat]
  omega

theorem high_low (x : UInt8) : x / 16 * 16 + x % 16 = x := by
  have lt := x.toNat_lt
  rw [← UInt8.toNat_inj]
  simp only [UInt8.toNat_add, UInt8.toNat_mul, UInt8.toNat_div, UInt8.toNat_mod,
    UInt8.reduceToNat]
  omega

/-- Every percent sign of the text begins an escape, and this is what it stands for. -/
inductive Unescapes : Bytes → Bytes → Prop
  | nil : Unescapes [] []
  | escaped {a b high low : UInt8} {s t : Bytes} (first : unhex a = some high)
      (second : unhex b = some low) (rest : Unescapes s t) :
      Unescapes (37 :: a :: b :: s) ((high * 16 + low) :: t)
  | plain {c : UInt8} {s t : Bytes} (other : c ≠ 37) (rest : Unescapes s t) :
      Unescapes (c :: s) (c :: t)

theorem unescape_plain {c : UInt8} (s : Bytes) (other : c ≠ 37) :
    unescape (c :: s) = (unescape s).map (c :: ·) := by
  rw [unescape.eq_def]
  simp only [if_neg other]

theorem unescape_iff {s t : Bytes} : unescape s = some t ↔ Unescapes s t := by
  constructor
  · intro h
    induction s using unescape.induct generalizing t with
    | case1 =>
      cases h
      exact .nil
    | case2 a b rest ih =>
      simp only [unescape, if_true, Option.bind_eq_bind, Option.bind_eq_some_iff] at h
      obtain ⟨high, first, low, second, u, hu, eq⟩ := h
      cases eq
      exact .escaped first second (ih hu)
    | case3 rest short =>
      rw [unescape.eq_def] at h
      simp only [if_true] at h
      cases h
    | case4 c rest other ih =>
      rw [unescape_plain rest other] at h
      obtain ⟨u, hu, rfl⟩ := Option.map_eq_some_iff.mp h
      exact .plain other (ih hu)
  · intro h
    induction h with
    | nil => rfl
    | escaped first second _ ih => simp [unescape, first, second, ih]
    | plain other _ ih => rw [unescape_plain _ other, ih]; rfl

namespace Unescapes

variable {s t a b c : Bytes}

theorem append (h : Unescapes s a) (next : Unescapes t b) : Unescapes (s ++ t) (a ++ b) := by
  induction h with
  | nil => exact next
  | escaped first second _ ih => exact .escaped first second ih
  | plain other _ ih => exact .plain other ih

theorem tail {x : UInt8} (h : Unescapes (x :: s) c) (other : x ≠ 37) :
    ∃ u, Unescapes s u ∧ c = x :: u := by
  cases h with
  | escaped => exact absurd rfl other
  | plain _ rest => exact ⟨_, rest, rfl⟩

/-- Behind a text whose escapes are whole, -/
theorem drop (h : Unescapes s a) (whole : Unescapes (s ++ t) c) :
    ∃ b, Unescapes t b ∧ c = a ++ b := by
  induction h generalizing c with
  | nil => exact ⟨c, whole, rfl⟩
  | escaped first second _ ih =>
    cases whole with
    | escaped first' second' rest =>
      obtain ⟨b, hb, rfl⟩ := ih rest
      rw [first] at first'
      rw [second] at second'
      cases first'
      cases second'
      exact ⟨b, hb, rfl⟩
    | plain other => exact absurd rfl other
  | plain other _ ih =>
    obtain ⟨u, rest, rfl⟩ := whole.tail other
    obtain ⟨b, hb, rfl⟩ := ih rest
    exact ⟨b, hb, rfl⟩

/-- and before a byte that is no digit of an escape. -/
theorem before {d : UInt8} (whole : Unescapes (s ++ d :: t) c) (stops : unhex d = none) :
    ∃ a, Unescapes s a := by
  generalize eq : s ++ d :: t = r at whole
  induction whole generalizing s with
  | nil => simp at eq
  | @escaped x y high low r u first second rest ih =>
    match s with
    | [] => exact ⟨[], .nil⟩
    | [_] =>
      simp only [List.cons_append, List.nil_append, List.cons.injEq] at eq
      obtain ⟨-, rfl, -⟩ := eq
      rw [stops] at first
      cases first
    | [_, _] =>
      simp only [List.cons_append, List.nil_append, List.cons.injEq] at eq
      obtain ⟨-, -, rfl, -⟩ := eq
      rw [stops] at second
      cases second
    | _ :: _ :: _ :: s =>
      simp only [List.cons_append, List.cons.injEq] at eq
      obtain ⟨rfl, rfl, rfl, eq⟩ := eq
      obtain ⟨v, hv⟩ := ih eq
      exact ⟨_, .escaped first second hv⟩
  | plain other rest ih =>
    match s with
    | [] => exact ⟨[], .nil⟩
    | _ :: s =>
      simp only [List.cons_append, List.cons.injEq] at eq
      obtain ⟨rfl, eq⟩ := eq
      obtain ⟨v, hv⟩ := ih eq
      exact ⟨_, .plain other hv⟩

theorem unique (h : Unescapes s a) (h' : Unescapes s b) : a = b :=
  Option.some.inj ((unescape_iff.mpr h).symm.trans (unescape_iff.mpr h'))

theorem eq_nil (h : Unescapes s []) : s = [] := by
  cases h
  rfl

theorem escapeByte (x : UInt8) : Unescapes (NetURL.escapeByte x) [x] := by
  unfold NetURL.escapeByte
  split
  · have both := Unescapes.escaped (upperhex_digit (high_lt x)).1 (upperhex_digit (low_lt x)).1 .nil
    rwa [high_low] at both
  · rename_i plain
    refine .plain ?_ .nil
    rintro rfl
    exact plain (by decide)

theorem escape (s : Bytes) : Unescapes (NetURL.escape s) s := by
  induction s with
  | nil => exact .nil
  | cons x s ih => exact (escapeByte x).append ih

end Unescapes

theorem validEncoded_escape (s : Bytes) : validEncoded (escape s) = true := by
  have bytewise (x : UInt8) : (escapeByte x).all validEncodedByte = true := by
    unfold escapeByte
    split
    · have percent : validEncodedByte 37 = true := by decide
      simp [percent, (upperhex_digit (high_lt x)).2, (upperhex_digit (low_lt x)).2]
    · rename_i plain
      simp [validEncodedByte, plain]
  simp only [validEncoded, escape, List.all_flatMap, bytewise, List.all_eq_true, implies_true]

/-! ## Cutting -/

section
variable {α : Type} {p : α → Bool} {s t : List α}

theorem span_append (before : ∀ c ∈ s, p c = true) (stops : ∀ c ∈ t.head?, p c = false) :
    (s ++ t).takeWhile p = s ∧ (s ++ t).dropWhile p = t := by
  rw [List.takeWhile_append_of_pos before, List.dropWhile_append_of_pos before]
  cases t with
  | nil => simp
  | cons c t =>
    have other : p c = false := stops c rfl
    simp [other]

theorem exists_span (p : α → Bool) (s : List α) :
    ∃ a t, s = a ++ t ∧ (∀ c ∈ a, p c = true) ∧ ∀ c ∈ t.head?, p c = false := by
  refine ⟨s.takeWhile p, s.dropWhile p, List.takeWhile_append_dropWhile.symm, ?_, ?_⟩
  · exact fun c hc => List.all_eq_true.mp List.all_takeWhile c hc
  · intro c hc
    have stops := List.head?_dropWhile_not p s
    rw [Option.mem_def.mp hc] at stops
    simpa using stops

end

theorem ne_of_absent {s : Bytes} {sep : UInt8} (absent : sep ∉ s) :
    ∀ c ∈ s, decide (c ≠ sep) = true := by
  intro c hc
  have other : c ≠ sep := by
    rintro rfl
    exact absent hc
  simpa using other

theorem cut_append {s t : Bytes} {sep : UInt8} (before : sep ∉ s) :
    cut (s ++ sep :: t) sep = (s, t) := by
  obtain ⟨first, second⟩ := span_append (t := sep :: t) (ne_of_absent before) (by simp)
  rw [cut, first, second]
  rfl

theorem cut_absent {s : Bytes} {sep : UInt8} (absent : sep ∉ s) : cut s sep = (s, []) := by
  obtain ⟨first, second⟩ := span_append (t := []) (ne_of_absent absent) (by simp)
  rw [List.append_nil] at first second
  rw [cut, first, second]
  rfl

/-- Behind a text without the separator, -/
theorem cut_append_left {s t : Bytes} {sep : UInt8} (absent : sep ∉ s) :
    cut (s ++ t) sep = (s ++ (cut t sep).1, (cut t sep).2) := by
  by_cases mem : sep ∈ t
  · obtain ⟨a, b, rfl, first⟩ := List.eq_append_cons_of_mem mem
    have out : sep ∉ s ++ a := by
      rw [List.mem_append, not_or]
      exact ⟨absent, first⟩
    rw [← List.append_assoc, cut_append out, cut_append first]
  · have out : sep ∉ s ++ t := by
      rw [List.mem_append, not_or]
      exact ⟨absent, mem⟩
    rw [cut_absent out, cut_absent mem]

/-- and behind one with it. -/
theorem cut_append_right {s t : Bytes} {sep : UInt8} (mem : sep ∈ s) :
    cut (s ++ t) sep = ((cut s sep).1, (cut s sep).2 ++ t) := by
  obtain ⟨a, b, rfl, first⟩ := List.eq_append_cons_of_mem mem
  rw [List.append_assoc, List.cons_append, cut_append first, cut_append first]

theorem not_mem_cut (s : Bytes) (sep : UInt8) : sep ∉ (cut s sep).1 := by
  intro mem
  have other := List.all_eq_true.mp (List.all_takeWhile (p := fun c => decide (c ≠ sep))) sep mem
  simp at other

theorem head?_cut {s : Bytes} (sep : UInt8) {c : UInt8} (h : s.head? = some c) (ne : c ≠ sep) :
    (cut s sep).1.head? = some c := by
  cases s with
  | nil => cases h
  | cons d s =>
    cases h
    simp [cut, ne]

theorem cutQuery_append {a q : Bytes} (plain : 63 ∉ a) (query : ∀ c ∈ q.head?, c = 63) :
    cutQuery (a ++ q) = (a, decide (q = [63]), q.drop 1) := by
  cases q with
  | nil =>
    have last : ¬ a.getLast? = some 63 := fun h => plain (List.mem_of_getLast? h)
    rw [List.append_nil, cutQuery, if_neg (fun h => last h.1), cut_absent plain]
    rfl
  | cons c r =>
    obtain rfl : c = 63 := query c rfl
    have none : a.count 63 = 0 := List.count_eq_zero.mpr plain
    rw [cutQuery]
    cases hr : r with
    | nil => simp [none]
    | cons x r' =>
      rw [← hr]
      have ne : r ≠ [] := by simp [hr]
      have several : ¬ ((a ++ 63 :: r).getLast? = some 63 ∧ (a ++ 63 :: r).count 63 = 1) := by
        rintro ⟨last, one⟩
        have tail : r.getLast? = some 63 := by
          rw [← last, hr]
          simp [List.getLast?_append, List.getLast?_cons]
        have mem := List.mem_of_getLast? tail
        have pos := List.count_pos_iff.mpr mem
        rw [List.count_append, List.count_cons_self, none] at one
        omega
      rw [if_neg several, cut_append plain]
      simp [ne]

theorem parse_eq_some {parseAuthority : Bytes → Bytes → Option String} {rawURL : Bytes}
    {v : ParsedURL} : parse parseAuthority rawURL = some v ↔
      parseAs parseAuthority false (cut rawURL 35).1 = some v ∧
        ∃ fragment, unescape (cut rawURL 35).2 = some fragment := by
  rw [parse, Option.bind_eq_some_iff]
  constructor
  · rintro ⟨u, parsed, rest⟩
    split at rest
    · rename_i empty
      cases rest
      exact ⟨parsed, [], by rw [empty]; rfl⟩
    · obtain ⟨fragment, whole, rfl⟩ := Option.map_eq_some_iff.mp rest
      exact ⟨parsed, fragment, whole⟩
  · rintro ⟨parsed, fragment, whole⟩
    refine ⟨v, parsed, ?_⟩
    split
    · rfl
    · rw [whole]
      rfl

/-! ## Texts with an authority -/

/-- The text is `scheme://authority` with a path and a query behind it. -/
structure Splits (raw scheme authority path query : Bytes) : Prop where
  text : raw = scheme ++ 58 :: 47 :: 47 :: (authority ++ (path ++ query))
  letter : ∃ c ∈ scheme.head?, isLetter c = true
  scheme : ∀ c ∈ scheme, schemeByte c = true
  authority : ∀ c ∈ authority, c ≠ 47 ∧ c ≠ 63
  rooted : ∀ c ∈ path.head?, c = 47
  path : 63 ∉ path
  query : ∀ c ∈ query.head?, c = 63

theorem getScheme_append {scheme rest : Bytes} (letter : ∃ c ∈ scheme.head?, isLetter c = true)
    (all : ∀ c ∈ scheme, schemeByte c = true) :
    getScheme (scheme ++ 58 :: rest) = some (scheme, rest) := by
  obtain ⟨before, after⟩ := span_append (t := 58 :: rest) all (by intro c hc; cases hc; rfl)
  cases scheme with
  | nil =>
    obtain ⟨c, ⟨⟩, -⟩ := letter
  | cons c scheme =>
    obtain ⟨_, ⟨⟩, first⟩ := letter
    have other : c ≠ 58 := by
      rintro rfl
      cases first
    rw [List.cons_append] at before after ⊢
    simp only [getScheme, if_neg other, if_pos first, before, after]

/-- Where there is a scheme, the text begins with it and a colon. -/
theorem getScheme_some {raw scheme rest : Bytes} (h : getScheme raw = some (scheme, rest))
    (some : scheme ≠ []) : raw = scheme ++ 58 :: rest ∧
      (∃ c ∈ scheme.head?, isLetter c = true) ∧ ∀ c ∈ scheme, schemeByte c = true := by
  obtain ⟨a, t, rfl, all, stops⟩ := exists_span schemeByte raw
  obtain ⟨before, after⟩ := span_append all stops
  unfold getScheme at h
  split at h
  · cases h
    exact absurd rfl some
  · rename_i c r eq
    split at h
    · cases h
    · split at h
      · rename_i letter
        rw [after, before] at h
        split at h
        · cases h
          refine ⟨rfl, ?_, all⟩
          cases scheme with
          | nil => exact absurd rfl some
          | cons first scheme =>
            cases eq
            exact ⟨_, rfl, letter⟩
        · cases h
          exact absurd rfl some
      · cases h
        exact absurd rfl some

namespace Splits

variable {raw scheme authority path query : Bytes}

theorem scheme_ne (h : Splits raw scheme authority path query) : scheme ≠ [] := by
  rintro rfl
  obtain ⟨c, ⟨⟩, -⟩ := h.letter

/-- Both parsers do the same with such a text. -/
theorem parseAs (h : Splits raw scheme authority path query)
    (parseAuthority : Bytes → Bytes → Option String) (viaRequest : Bool) :
    NetURL.parseAs parseAuthority viaRequest raw =
      if raw.any isCTL then none
      else (parseAuthority (toLower scheme) authority).bind fun host =>
        (ParsedURL.mk ⟨ascii (toLower scheme), host⟩ [] [] [] (decide (query = [63]))
          (query.drop 1)).setPath path := by
  have whole : raw = scheme ++ 58 :: ((47 :: 47 :: (authority ++ path)) ++ query) := by
    rw [h.text]
    simp
  have plain : (63 : UInt8) ∉ 47 :: 47 :: (authority ++ path) := by
    simp only [List.mem_cons, List.mem_append, not_or]
    exact ⟨by decide, by decide, fun mem => (h.authority _ mem).2 rfl, h.path⟩
  have queries := cutQuery_append plain h.query
  obtain ⟨auth, rest⟩ := span_append (p := fun c => decide (c ≠ 47)) (s := authority) (t := path)
    (fun c hc => by simpa using (h.authority c hc).1) (fun c hc => by simp [h.rooted c hc])
  have lower : toLower scheme ≠ [] := by simpa [toLower] using h.scheme_ne
  have nonempty : raw ≠ [] := by simp [h.text]
  have star : raw ≠ [42] := by
    rw [h.text]
    intro eq
    have length := congrArg List.length eq
    simp at length
    omega
  have slashes : [47, 47] <+: 47 :: 47 :: (authority ++ path) := ⟨_, rfl⟩
  have dropped : (47 :: 47 :: (authority ++ path)).drop 2 = authority ++ path := rfl
  by_cases ctl : raw.any isCTL = true
  · rw [NetURL.parseAs, if_pos ctl, if_pos ctl]
  · rw [NetURL.parseAs, if_neg ctl, if_neg ctl, if_neg (fun x => nonempty x.1), if_neg star]
    rw [whole, getScheme_append h.letter h.scheme]
    simp only [Option.bind_some, parseRest, queries]
    simp only [List.head?_cons, ne_eq, not_true_eq_false, false_and, if_false, lower,
      not_false_eq_true, true_or, true_and, if_pos slashes, dropped]
    rw [auth, rest]

/-- What is before the first `#` of such a text. -/
theorem beforeHash (h : Splits raw scheme authority path query) (plain : 35 ∉ authority) :
    ∃ path' query', Splits (cut raw 35).1 scheme authority path' query' ∧
      (path = path' ∨ ∃ t, path = path' ++ 35 :: t) := by
  have start : (35 : UInt8) ∉ scheme ++ 58 :: 47 :: 47 :: authority := by
    simp only [List.mem_append, List.mem_cons, not_or]
    exact ⟨fun mem => Bool.noConfusion (h.scheme _ mem), by decide, by decide, by decide, plain⟩
  by_cases inPath : 35 ∈ path
  · obtain ⟨a, b, rfl, first⟩ := List.eq_append_cons_of_mem inPath
    have text : raw = (scheme ++ 58 :: 47 :: 47 :: authority ++ a) ++ 35 :: (b ++ query) := by
      rw [h.text]
      simp
    have out : (35 : UInt8) ∉ scheme ++ 58 :: 47 :: 47 :: authority ++ a := by
      rw [List.mem_append, not_or]
      exact ⟨start, first⟩
    refine ⟨a, [], ⟨by rw [text, cut_append out]; simp, h.letter, h.scheme, h.authority, ?_, ?_,
      by simp⟩, .inr ⟨b, rfl⟩⟩
    · intro c hc
      exact h.rooted c (by cases a <;> simp_all)
    · exact fun mem => h.path (List.mem_append_left _ mem)
  · by_cases inQuery : 35 ∈ query
    · obtain ⟨a, b, rfl, first⟩ := List.eq_append_cons_of_mem inQuery
      have text : raw = (scheme ++ 58 :: 47 :: 47 :: authority ++ path ++ a) ++ 35 :: b := by
        rw [h.text]
        simp
      have out : (35 : UInt8) ∉ scheme ++ 58 :: 47 :: 47 :: authority ++ path ++ a := by
        rw [List.mem_append, List.mem_append, not_or, not_or]
        exact ⟨⟨start, inPath⟩, first⟩
      refine ⟨path, a, ⟨by rw [text, cut_append out]; simp, h.letter, h.scheme, h.authority,
        h.rooted, h.path, ?_⟩, .inl rfl⟩
      intro c hc
      exact h.query c (by cases a <;> simp_all)
    · have out : (35 : UInt8) ∉ raw := by
        have text : raw = scheme ++ 58 :: 47 :: 47 :: authority ++ path ++ query := by
          rw [h.text]
          simp
        rw [text, List.mem_append, List.mem_append, not_or, not_or]
        exact ⟨⟨start, inPath⟩, inQuery⟩
      exact ⟨path, query, by rw [cut_absent out]; exact h, .inl rfl⟩

end Splits

theorem ParsedURL.setPath_site {u v : ParsedURL} {p : Bytes} (h : u.setPath p = some v) :
    v.toURL = u.toURL := by
  obtain ⟨path, -, rfl⟩ := Option.map_eq_some_iff.mp h
  rfl

section
variable {parseAuthority : Bytes → Bytes → Option String} {viaRequest : Bool}
  {raw scheme rest : Bytes} {v : ParsedURL}

/-- Only a text with an authority gives a host. -/
theorem parseRest_authority (h : parseRest parseAuthority viaRequest scheme rest = some v)
    (hasScheme : v.scheme ≠ "") (hasHost : v.host ≠ "") :
    scheme ≠ [] ∧ ∃ t query, rest = 47 :: 47 :: (t ++ query) ∧ 63 ∉ t ∧
      ∀ c ∈ query.head?, c = 63 := by
  obtain ⟨a, query, rfl, plain, stops⟩ := exists_span (fun c => decide (c ≠ 63)) rest
  have plain' : (63 : UInt8) ∉ a := fun mem => by simpa using plain 63 mem
  have queries : ∀ c ∈ query.head?, c = 63 := fun c hc => by simpa using stops c hc
  simp only [parseRest, cutQuery_append plain' queries] at h
  split at h
  · cases h
    exact absurd rfl hasHost
  · split at h
    · cases h
    · split at h
      · cases h
      · split at h
        · rename_i slashes
          obtain ⟨host, -, set⟩ := Option.bind_eq_some_iff.mp h
          have site := ParsedURL.setPath_site set
          obtain ⟨t, rfl⟩ := slashes.2
          refine ⟨?_, t, query, rfl, fun mem => plain' (.tail _ (.tail _ mem)), queries⟩
          rintro rfl
          rw [site] at hasScheme
          exact hasScheme rfl
        · rw [ParsedURL.setPath_site h] at hasHost
          exact absurd rfl hasHost

/-- What is parsed to a scheme and a host is such a text. -/
theorem exists_splits (h : parseAs parseAuthority viaRequest raw = some v)
    (hasScheme : v.scheme ≠ "") (hasHost : v.host ≠ "") :
    ∃ scheme authority path query, Splits raw scheme authority path query := by
  unfold parseAs at h
  split at h
  · cases h
  · split at h
    · cases h
    · split at h
      · cases h
        exact absurd rfl hasScheme
      · obtain ⟨⟨scheme, rest⟩, got, parsed⟩ := Option.bind_eq_some_iff.mp h
        obtain ⟨nonempty, t, query, rfl, plain, queries⟩ :=
          parseRest_authority parsed hasScheme hasHost
        have some : scheme ≠ [] := by
          rintro rfl
          exact nonempty rfl
        obtain ⟨rfl, letter, all⟩ := getScheme_some got some
        obtain ⟨authority, path, rfl, noSlash, rooted⟩ := exists_span (fun c => decide (c ≠ 47)) t
        rw [List.mem_append, not_or] at plain
        refine ⟨scheme, authority, path, query, by simp, letter, all, ?_, ?_, plain.2, queries⟩
        · intro c hc
          refine ⟨by simpa using noSlash c hc, ?_⟩
          rintro rfl
          exact plain.1 hc
        · exact fun c hc => by simpa using rooted c hc

end

/-! ## The target of a request -/

/-- What `EscapedPath` makes of this text of a path. -/
def escapedText (path : Bytes) : Bytes :=
  if validEncoded path then path else escape ((unescape path).getD [])

/-- Path and query of a request for a URL with these. -/
def target (path query : Bytes) : Bytes :=
  (if path = [] then [47] else escapedText path) ++ query

theorem escapedText_ne {path : Bytes} (ne : path ≠ []) (whole : ∃ p, unescape path = some p) :
    escapedText path ≠ [] := by
  obtain ⟨p, hp⟩ := whole
  unfold escapedText
  split
  · exact ne
  · rw [hp]
    intro empty
    have none : unescape (escape p) = some [] := by
      rw [show escape p = [] from empty]
      rfl
    rw [unescape_iff.mpr (Unescapes.escape p)] at none
    cases none
    exact ne (unescape_iff.mp hp).eq_nil

theorem ParsedURL.escapedPath_setPath {u v : ParsedURL} {path : Bytes}
    (h : u.setPath path = some v) (rooted : ∀ c ∈ path.head?, c = 47) :
    v.escapedPath = escapedText path := by
  obtain ⟨p, hp, rfl⟩ := Option.map_eq_some_iff.mp h
  have star : p ≠ [42] := by
    rintro rfl
    have unescapes := unescape_iff.mp hp
    cases path with
    | nil => cases unescapes
    | cons c path =>
      obtain rfl := rooted c rfl
      obtain ⟨u, -, eq⟩ := unescapes.tail (by decide)
      cases eq
  have plain : escape ((unescape path).getD []) = escape p := by rw [hp]; rfl
  by_cases same : path = escape p
  · have valid : validEncoded path = true := by
      rw [same]
      exact validEncoded_escape p
    simp only [escapedPath, escapedText, if_pos same, ne_eq, not_true_eq_false, false_and, if_false,
      if_neg star, if_pos valid]
    exact same.symm
  · have nonempty : path ≠ [] := by
      rintro rfl
      cases hp
      exact same rfl
    simp only [escapedPath, escapedText, if_neg same, ne_eq, nonempty, not_false_eq_true, hp,
      and_true, true_and, if_neg star, Option.getD_some]

theorem Splits.requestURI {raw scheme authority path query : Bytes} {v : ParsedURL}
    {parseAuthority : Bytes → Bytes → Option String} {viaRequest : Bool}
    (h : Splits raw scheme authority path query)
    (parsed : NetURL.parseAs parseAuthority viaRequest raw = some v) :
    v.requestURI = target path query := by
  rw [h.parseAs] at parsed
  split at parsed
  · cases parsed
  · obtain ⟨host, -, set⟩ := Option.bind_eq_some_iff.mp parsed
    have escaped := ParsedURL.escapedPath_setPath set h.rooted
    obtain ⟨p, hp, rfl⟩ := Option.map_eq_some_iff.mp set
    have empty : escapedText path = [] ↔ path = [] := by
      constructor
      · intro none
        by_cases ne : path = []
        · exact ne
        · exact absurd none (escapedText_ne ne ⟨p, hp⟩)
      · rintro rfl
        rfl
    have queries : (if decide (query = [63]) = true ∨ query.drop 1 ≠ [] then
        (if path = [] then [47] else escapedText path) ++ 63 :: query.drop 1
        else if path = [] then [47] else escapedText path) = target path query := by
      unfold target
      cases query with
      | nil => simp
      | cons c query =>
        obtain rfl := h.query c rfl
        cases query <;> simp
    rw [← queries]
    simp only [ParsedURL.requestURI, escaped, empty, if_true]

end NetURL
end TorusProxy
