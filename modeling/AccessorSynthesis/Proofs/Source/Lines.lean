import AccessorSynthesis.Source.Document

/-!
# Lines — how a text falls into lines

A text is a line without a line feed, or such a line, a line feed and a further text
(`lineInduction`).  So every line but the last ends with its only line feed, and there is one line
more than there are line feeds.  This file defines

* `byteLength` — the number of bytes that characters take in a text;
* `Document.splitLines` — the lines of a text, without a table of them;
* `Document.startsFrom` — the offsets at which the lines behind the first one start, as a list.
-/

namespace AccessorSynthesis

/-! ## Bytes -/

/-- The number of bytes that the characters take in a text. -/
def byteLength (text : List Char) : Nat := (String.ofList text).utf8ByteSize

@[simp] theorem byteLength_nil : byteLength [] = 0 := by
  simp [byteLength]

@[simp] theorem byteLength_append (front back : List Char) :
    byteLength (front ++ back) = byteLength front + byteLength back := by
  rw [byteLength, String.ofList_append, String.utf8ByteSize_append]
  rfl

@[simp] theorem byteLength_cons (c : Char) (rest : List Char) :
    byteLength (c :: rest) = c.utf8Size + byteLength rest := by
  have hsingle : byteLength [c] = c.utf8Size := by
    rw [byteLength, ← String.singleton_eq_ofList, String.utf8ByteSize_singleton]
  rw [← List.singleton_append, byteLength_append, hsingle]

theorem byteLength_toList (source : String) : byteLength source.toList = source.utf8ByteSize := by
  rw [byteLength, String.ofList_toList]

/-- A line stands between those in front of it and those behind it. -/
theorem flatten_eq_of_getElem? {lines : List (List Char)} {number : Nat} {line : List Char}
    (h : lines[number]? = some line) :
    lines.flatten = (lines.take number).flatten
      ++ (line ++ (lines.drop (number + 1)).flatten) := by
  rcases List.getElem?_eq_some_iff.1 h with ⟨hlt, hline⟩
  rw [← hline, ← List.flatten_cons, ← List.drop_eq_getElem_cons hlt, ← List.flatten_append,
    List.take_append_drop]

namespace Document

/-- Splits a text behind each line feed.  The last line is the one without a line feed, and may be
empty. -/
def splitLines (source : List Char) : List (List Char) :=
  source.foldr
    (fun c lines =>
      match c, lines with
      | '\n', lines => ['\n'] :: lines
      | c, line :: lines => (c :: line) :: lines
      | c, [] => [[c]])
    [[]]

/-! ## One line after the other -/

/-- A text is its last line, or its first line in front of a further text. -/
theorem lineInduction {motive : List Char → Prop} (last : ∀ text, '\n' ∉ text → motive text)
    (line : ∀ text rest, '\n' ∉ text → motive rest → motive (text ++ '\n' :: rest))
    (source : List Char) : motive source := by
  by_cases h : '\n' ∈ source
  · rcases List.eq_append_cons_of_mem h with ⟨text, rest, hsource, htext⟩
    have hshorter : rest.length < source.length := by
      rw [hsource, List.length_append, List.length_cons]
      omega
    rw [hsource]
    exact line text rest htext (lineInduction last line rest)
  · exact last source h
termination_by source.length

/-- A character that is no line feed goes in front of the first line. -/
theorem splitLines_cons {c : Char} (hc : c ≠ '\n') {rest line : List Char}
    {others : List (List Char)} (hrest : splitLines rest = line :: others) :
    splitLines (c :: rest) = (c :: line) :: others := by
  simp only [splitLines, List.foldr_cons] at hrest ⊢
  simp [hrest]

theorem splitLines_of_notMem {text : List Char} (h : '\n' ∉ text) : splitLines text = [text] := by
  induction text with
  | nil =>
      rfl
  | cons c text ih =>
      rw [List.mem_cons, not_or] at h
      exact splitLines_cons (Ne.symm h.1) (ih h.2)

theorem splitLines_append_lineFeed {text : List Char} (h : '\n' ∉ text) (rest : List Char) :
    splitLines (text ++ '\n' :: rest) = (text ++ ['\n']) :: splitLines rest := by
  induction text with
  | nil =>
      rfl
  | cons c text ih =>
      rw [List.mem_cons, not_or] at h
      exact splitLines_cons (Ne.symm h.1) (ih h.2)

theorem count_append_lineFeed {text : List Char} (h : '\n' ∉ text) (rest : List Char) :
    (text ++ '\n' :: rest).count '\n' = rest.count '\n' + 1 := by
  rw [List.count_append, List.count_eq_zero.2 h, List.count_cons_self, Nat.zero_add]

/-- The lines make up the text. -/
theorem flatten_splitLines (source : List Char) : (splitLines source).flatten = source := by
  induction source using lineInduction with
  | last text htext =>
      rw [splitLines_of_notMem htext, List.flatten_singleton]
  | line text rest htext ih =>
      rw [splitLines_append_lineFeed htext, List.flatten_cons, ih, List.append_assoc,
        List.singleton_append]

variable {source : List Char}

theorem length_splitLines (source : List Char) :
    (splitLines source).length = source.count '\n' + 1 := by
  induction source using lineInduction with
  | last text htext =>
      rw [splitLines_of_notMem htext, List.count_eq_zero.2 htext]
      rfl
  | line text rest htext ih =>
      rw [splitLines_append_lineFeed htext, count_append_lineFeed htext, List.length_cons, ih]

/-- A line behind which there is another one ends with its only line feed. -/
theorem exists_ended_line {number : Nat} (h : number < source.count '\n') :
    ∃ text, '\n' ∉ text ∧ (splitLines source)[number]? = some (text ++ ['\n']) := by
  induction source using lineInduction generalizing number with
  | last text htext =>
      rw [List.count_eq_zero.2 htext] at h
      exact absurd h (Nat.not_lt_zero number)
  | line text rest htext ih =>
      rw [splitLines_append_lineFeed htext]
      rw [count_append_lineFeed htext] at h
      cases number with
      | zero =>
          exact ⟨text, htext, rfl⟩
      | succ number =>
          exact ih (Nat.lt_of_succ_lt_succ h)

/-- The last line has no line feed. -/
theorem exists_last_line (source : List Char) :
    ∃ text, '\n' ∉ text ∧ (splitLines source)[source.count '\n']? = some text := by
  induction source using lineInduction with
  | last text htext =>
      rw [splitLines_of_notMem htext, List.count_eq_zero.2 htext]
      exact ⟨text, htext, rfl⟩
  | line text rest htext ih =>
      rw [splitLines_append_lineFeed htext, count_append_lineFeed htext]
      exact ih

/-! ## Where lines start -/

/-- The offsets behind the line feeds of a text that starts at `base`. -/
def startsFrom (base : Nat) : List Char → List Nat
  | [] => []
  | c :: rest =>
      if c = '\n' then (base + c.utf8Size) :: startsFrom (base + c.utf8Size) rest
      else startsFrom (base + c.utf8Size) rest

theorem toList_lineStartsOnto (found : Array Nat) (base : Nat) (source : List Char) :
    (lineStartsOnto found base source).toList = found.toList ++ startsFrom base source := by
  induction source generalizing found base with
  | nil =>
      rw [lineStartsOnto, startsFrom, List.append_nil]
  | cons c rest ih =>
      rw [lineStartsOnto, startsFrom, ih]
      split
      · rw [Array.toList_push, List.append_assoc, List.singleton_append]
      · rfl

theorem le_of_mem_startsFrom {base start : Nat} {c : Char}
    (h : start ∈ startsFrom base (c :: source)) : base + c.utf8Size ≤ start := by
  induction source generalizing base c with
  | nil =>
      rw [startsFrom] at h
      split at h
      · exact Nat.le_of_eq (List.mem_singleton.1 h).symm
      · cases h
  | cons d rest ih =>
      have hlater : start = base + c.utf8Size ∨
          start ∈ startsFrom (base + c.utf8Size) (d :: rest) := by
        rw [startsFrom] at h
        split at h
        · exact List.mem_cons.1 h
        · exact Or.inr h
      rcases hlater with rfl | hlater
      · exact Nat.le_refl _
      · exact Nat.le_trans (Nat.le_add_right _ _) (ih hlater)

/-- The starts of lines ascend. -/
theorem pairwise_startsFrom (base : Nat) (source : List Char) :
    (startsFrom base source).Pairwise (· < ·) := by
  induction source generalizing base with
  | nil =>
      exact List.Pairwise.nil
  | cons c rest ih =>
      rw [startsFrom]
      split
      · refine List.pairwise_cons.2 ⟨?_, ih _⟩
        intro start hstart
        cases rest with
        | nil =>
            cases hstart
        | cons d rest =>
            exact Nat.lt_of_lt_of_le (Nat.lt_add_of_pos_right d.utf8Size_pos)
              (le_of_mem_startsFrom hstart)
      · exact ih _

theorem startsFrom_of_notMem {text : List Char} (h : '\n' ∉ text) (base : Nat) :
    startsFrom base text = [] := by
  induction text generalizing base with
  | nil =>
      rfl
  | cons c text ih =>
      rw [List.mem_cons, not_or] at h
      rw [startsFrom, if_neg (Ne.symm h.1), ih h.2]

theorem startsFrom_append_lineFeed {text : List Char} (h : '\n' ∉ text) (base : Nat)
    (rest : List Char) : startsFrom base (text ++ '\n' :: rest)
      = (base + byteLength (text ++ ['\n']))
          :: startsFrom (base + byteLength (text ++ ['\n'])) rest := by
  induction text generalizing base with
  | nil =>
      rw [List.nil_append, List.nil_append, startsFrom, if_pos rfl, byteLength_cons, byteLength_nil,
        Nat.add_zero]
  | cons c text ih =>
      rw [List.mem_cons, not_or] at h
      rw [List.cons_append, startsFrom, if_neg (Ne.symm h.1), ih h.2, List.cons_append,
        byteLength_cons, Nat.add_assoc]

theorem length_startsFrom (base : Nat) (source : List Char) :
    (startsFrom base source).length = source.count '\n' := by
  induction source using lineInduction generalizing base with
  | last text htext =>
      rw [startsFrom_of_notMem htext, List.count_eq_zero.2 htext, List.length_nil]
  | line text rest htext ih =>
      rw [startsFrom_append_lineFeed htext, count_append_lineFeed htext, List.length_cons, ih]

/-- A line starts behind the lines in front of it. -/
theorem getElem?_startsFrom {number : Nat} (h : number < source.count '\n') (base : Nat) :
    (startsFrom base source)[number]?
      = some (base + byteLength ((splitLines source).take (number + 1)).flatten) := by
  induction source using lineInduction generalizing number base with
  | last text htext =>
      rw [List.count_eq_zero.2 htext] at h
      exact absurd h (Nat.not_lt_zero number)
  | line text rest htext ih =>
      rw [startsFrom_append_lineFeed htext, splitLines_append_lineFeed htext, List.take_succ_cons,
        List.flatten_cons]
      rw [count_append_lineFeed htext] at h
      cases number with
      | zero =>
          simp
      | succ number =>
          rw [List.getElem?_cons_succ, ih (Nat.lt_of_succ_lt_succ h), byteLength_append (text ++ _),
            Nat.add_assoc]

end Document

end AccessorSynthesis
