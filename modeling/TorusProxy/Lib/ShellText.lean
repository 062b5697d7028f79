import Mathlib.Data.List.TakeWhile

/-! Texts between a program and the shell script that reads them: what a command
substitution keeps of an output, and what `read` makes of its lines. -/
namespace Shell

abbrev Text := List UInt8

/-- `$(command)`: the output without NUL bytes, and without the newlines at its end. -/
def substitution (output : Text) : Text :=
  ((output.filter (· != 0)).reverse.dropWhile (· == 10)).reverse

/-- The lines of `<<< text`. -/
def lines (text : Text) : List Text := text.splitOn 10

section
variable (sep : UInt8)

/-- The last variable of a `read` that splits at `sep` only. It takes the one field that is
left, without the separator behind it; of several fields it takes everything. -/
def lastField (rest : Text) : Text :=
  let field := rest.takeWhile (· != sep)
  if rest.length ≤ field.length + 1 then field else rest

/-- `IFS=sep read -r first last`, on one line. -/
def readPair (line : Text) : Text × Text :=
  let first := line.takeWhile (· != sep)
  (first, lastField sep (line.drop (first.length + 1)))

/-- What the rounds of `while IFS=sep read -r first last; do .. done <<< "$(command)"` read. -/
def readPairs (output : Text) : List (Text × Text) :=
  (lines (substitution output)).map (readPair sep)

/-- A command that prints its pairs one by one. -/
def printPairs (pairs : List (Text × Text)) : Text :=
  pairs.flatMap fun p => p.1 ++ sep :: p.2 ++ [10]

end

structure OneLine (text : Text) : Prop where
  noNul : 0 ∉ text
  noNewline : 10 ∉ text

/-- The text is read as it was printed: one line, and no separator at its end that is its
only one. -/
structure Survives (sep : UInt8) (text : Text) : Prop extends OneLine text where
  last : lastField sep text = text

instance (text : Text) : Decidable (OneLine text) :=
  decidable_of_iff (0 ∉ text ∧ 10 ∉ text)
    ⟨fun h => ⟨h.1, h.2⟩, fun h => ⟨h.noNul, h.noNewline⟩⟩

instance (sep : UInt8) (text : Text) : Decidable (Survives sep text) :=
  decidable_of_iff (OneLine text ∧ lastField sep text = text)
    ⟨fun h => ⟨h.1, h.2⟩, fun h => ⟨h.toOneLine, h.last⟩⟩

section
variable {sep : UInt8}

/-! ## What is read -/

theorem takeWhile_ne_of_notMem {text : Text} (fresh : sep ∉ text) :
    text.takeWhile (· != sep) = text := by
  rw [List.takeWhile_eq_self_iff]
  intro x mem
  simp only [bne_iff_ne]
  exact fun same => fresh (same ▸ mem)

theorem lastField_of_notMem {text : Text} (fresh : sep ∉ text) : lastField sep text = text := by
  simp [lastField, takeWhile_ne_of_notMem fresh]

theorem notMem_takeWhile_ne (text : Text) : sep ∉ text.takeWhile (· != sep) := by
  intro mem
  simpa using List.mem_takeWhile_imp mem

theorem lastField_lastField (text : Text) :
    lastField sep (lastField sep text) = lastField sep text := by
  by_cases short : text.length ≤ (text.takeWhile (· != sep)).length + 1
  · have one : lastField sep text = text.takeWhile (· != sep) := if_pos short
    rw [one]
    exact lastField_of_notMem (notMem_takeWhile_ne text)
  · have all : lastField sep text = text := if_neg short
    rw [all, all]

theorem OneLine.lastField {text : Text} (h : OneLine text) : OneLine (lastField sep text) := by
  have sub : (Shell.lastField sep text).Sublist text := by
    simp only [Shell.lastField]
    split
    · exact List.takeWhile_sublist _
    · exact .refl _
  exact ⟨fun mem => h.noNul (sub.mem mem), fun mem => h.noNewline (sub.mem mem)⟩

theorem mem_lines {text line : Text} (mem : line ∈ lines text) :
    10 ∉ line ∧ ∀ x ∈ line, x ∈ text := by
  unfold lines at mem
  induction text generalizing line with
  | nil =>
    obtain rfl : line = [] := by simpa using mem
    simp
  | cons c text ih =>
    rw [List.splitOn_cons_eq_if_modifyHead] at mem
    split at mem
    · rcases List.mem_cons.mp mem with rfl | later
      · simp
      · obtain ⟨fresh, within⟩ := ih later
        exact ⟨fresh, fun x there => List.mem_cons_of_mem _ (within x there)⟩
    · rename_i other
      obtain ⟨first, rest, split⟩ := List.exists_cons_of_ne_nil (List.splitOn_ne_nil 10 text)
      rw [split] at mem ih
      rcases List.mem_cons.mp mem with rfl | later
      · obtain ⟨fresh, within⟩ := ih List.mem_cons_self
        rw [beq_iff_eq] at other
        refine ⟨by simp [fresh, Ne.symm other], ?_⟩
        intro x there
        rcases List.mem_cons.mp there with rfl | there
        · exact List.mem_cons_self
        · exact List.mem_cons_of_mem _ (within x there)
      · obtain ⟨fresh, within⟩ := ih (List.mem_cons_of_mem _ later)
        exact ⟨fresh, fun x there => List.mem_cons_of_mem _ (within x there)⟩

theorem mem_substitution {output : Text} {x : UInt8} (mem : x ∈ substitution output) :
    x ∈ output ∧ x ≠ 0 := by
  have kept : x ∈ (output.filter (· != 0)).reverse :=
    (List.dropWhile_sublist _).mem (List.mem_reverse.mp mem)
  simpa using kept

/-- Whatever the output, the variables only get texts that would survive. -/
theorem readPairs_survive {output : Text} {p : Text × Text} (mem : p ∈ readPairs sep output) :
    Survives sep p.2 := by
  obtain ⟨line, there, rfl⟩ := List.mem_map.mp mem
  obtain ⟨fresh, within⟩ := mem_lines there
  have whole : OneLine line :=
    ⟨fun null => (mem_substitution (within 0 null)).2 rfl, fresh⟩
  have tail : OneLine (line.drop ((line.takeWhile (· != sep)).length + 1)) :=
    ⟨fun null => whole.noNul (List.mem_of_mem_drop null),
      fun break_ => whole.noNewline (List.mem_of_mem_drop break_)⟩
  exact ⟨tail.lastField, lastField_lastField _⟩

/-! ## What was printed -/

theorem readPair_pair {first last : Text} (fresh : sep ∉ first) :
    readPair sep (first ++ sep :: last) = (first, lastField sep last) := by
  have field : (first ++ sep :: last).takeWhile (· != sep) = first := by
    rw [List.takeWhile_append_of_pos]
    · simp
    · intro x mem
      simp only [bne_iff_ne]
      exact fun same => fresh (same ▸ mem)
  simp [readPair, field]

/-- A pair that is printed on one line, and whose name ends at the separator. -/
structure Prints (sep : UInt8) (p : Text × Text) : Prop where
  name : OneLine p.1
  separated : sep ∉ p.1
  value : OneLine p.2

variable {before pairs : List (Text × Text)}

/-- The lines without the newline at the end. -/
def body (sep : UInt8) (pairs : List (Text × Text)) : Text :=
  [10].intercalate (pairs.map fun p => p.1 ++ sep :: p.2)

theorem printPairs_eq (some_ : pairs ≠ []) : printPairs sep pairs = body sep pairs ++ [10] := by
  induction pairs with
  | nil => exact absurd rfl some_
  | cons p rest ih =>
    cases rest with
    | nil => simp [printPairs, body]
    | cons q rest =>
      have later := ih (List.cons_ne_nil _ _)
      simp only [printPairs, List.flatMap_cons] at later ⊢
      rw [later]
      simp [body, List.intercalate_cons_cons]

theorem zero_notMem_printPairs (prints : ∀ p ∈ pairs, Prints sep p) (nonzero : sep ≠ 0) :
    0 ∉ printPairs sep pairs := by
  intro mem
  obtain ⟨p, there, mem⟩ := List.mem_flatMap.mp mem
  obtain ⟨name, -, value⟩ := prints p there
  simp [name.noNul, value.noNul, Ne.symm nonzero] at mem

theorem body_ends (some_ : pairs ≠ []) (prints : ∀ p ∈ pairs, Prints sep p) (inline : sep ≠ 10) :
    ∃ init c, body sep pairs = init ++ [c] ∧ c ≠ 10 := by
  induction pairs with
  | nil => exact absurd rfl some_
  | cons p rest ih =>
    cases rest with
    | nil =>
      have value := (prints p List.mem_cons_self).value
      rcases List.eq_nil_or_concat p.2 with empty | ⟨init, c, ends⟩
      · exact ⟨p.1, sep, by simp [body, empty], inline⟩
      · refine ⟨p.1 ++ sep :: init, c, by simp [body, ends], ?_⟩
        rintro rfl
        exact value.noNewline (by simp [ends])
    | cons q rest =>
      obtain ⟨init, c, ends, other⟩ :=
        ih (List.cons_ne_nil _ _) fun r mem => prints r (List.mem_cons_of_mem _ mem)
      refine ⟨p.1 ++ sep :: p.2 ++ 10 :: init, c, ?_, other⟩
      simp only [body, List.map_cons, List.intercalate_cons_cons] at ends ⊢
      rw [ends]
      simp

theorem substitution_body {text : Text} (some_ : pairs ≠ []) (prints : ∀ p ∈ pairs, Prints sep p)
    (inline : sep ≠ 10) (nonzero : sep ≠ 0) :
    substitution (text ++ printPairs sep pairs) = text.filter (· != 0) ++ body sep pairs := by
  have kept : (printPairs sep pairs).filter (· != 0) = printPairs sep pairs := by
    rw [List.filter_eq_self]
    intro x mem
    simp only [bne_iff_ne]
    rintro rfl
    exact zero_notMem_printPairs prints nonzero mem
  obtain ⟨init, c, ends, other⟩ := body_ends some_ prints inline
  rw [substitution, List.filter_append, kept, printPairs_eq some_, ends]
  simp [other]

theorem lines_body (some_ : pairs ≠ []) (prints : ∀ p ∈ pairs, Prints sep p) (inline : sep ≠ 10) :
    lines (body sep pairs) = pairs.map fun p => p.1 ++ sep :: p.2 := by
  apply List.splitOn_intercalate
  · intro line mem
    obtain ⟨p, there, rfl⟩ := List.mem_map.mp mem
    obtain ⟨name, -, value⟩ := prints p there
    simp [name.noNewline, value.noNewline, Ne.symm inline]
  · simpa using some_

theorem map_readPair (prints : ∀ p ∈ pairs, Prints sep p) :
    (pairs.map fun p => p.1 ++ sep :: p.2).map (readPair sep) =
      pairs.map fun p => (p.1, lastField sep p.2) := by
  rw [List.map_map]
  exact List.map_congr_left fun p mem => readPair_pair (prints p mem).separated

/-- **Reading back.** Pairs that print on one line each are read in order, each value as
`lastField` has it. -/
theorem readPairs_print (some_ : pairs ≠ []) (prints : ∀ p ∈ pairs, Prints sep p)
    (inline : sep ≠ 10) (nonzero : sep ≠ 0) :
    readPairs sep (printPairs sep pairs) = pairs.map fun p => (p.1, lastField sep p.2) := by
  have kept : substitution ([] ++ printPairs sep pairs) = [] ++ body sep pairs :=
    substitution_body some_ prints inline nonzero
  rw [List.nil_append, List.nil_append] at kept
  rw [readPairs, kept, lines_body some_ prints inline, map_readPair prints]

end
end Shell
