import AccessorSynthesis.Proofs.Source.Lines

/-!
# Position — offsets, and the lines and columns that stand for them

The position of an offset can be found without a table of lines, by a walk over the text in front of
it.  The position is a place in the lines of the text, and what is in front of this place is the text
that was walked over; so offsets and places determine each other.  This file defines

* `Position.advance` — the step of the walk over one character;
* `Position.ofOffset` — the walk to an offset;
* `Position.Precedes` — the order of positions, by lines first and then by columns;
* `Position.Marks lines line front` — the position is a place in `line`, with `front` before it.
-/

namespace AccessorSynthesis

namespace Position

open Document

variable {p q r : Position} {source front line : List Char} {lines : List (List Char)}

/-- The first position of a text. -/
def first : Position := ⟨0, 0⟩

/-- The position behind a character. -/
def advance (position : Position) (c : Char) : Position :=
  if c = '\n' then ⟨position.line + 1, 0⟩ else ⟨position.line, position.column + 1⟩

/-- The position of a byte offset in a text that starts at `position`. -/
def ofOffset (position : Position) : List Char → Nat → Position
  | [], _ => position
  | c :: rest, offset =>
      if offset = 0 then position
      else if offset < c.utf8Size then ⟨position.line, 0⟩
      else ofOffset (position.advance c) rest (offset - c.utf8Size)

/-! ## The order of positions -/

/-- The position is on an earlier line, or in an earlier column of the same line. -/
def Precedes (p q : Position) : Prop := p.line < q.line ∨ p.line = q.line ∧ p.column < q.column

theorem Precedes.trans (hpq : p.Precedes q) (hqr : q.Precedes r) : p.Precedes r := by
  unfold Precedes at *
  omega

theorem Precedes.ne (h : p.Precedes q) : p ≠ q := by
  rintro rfl
  unfold Precedes at h
  omega

theorem precedes_advance (p : Position) (c : Char) : p.Precedes (p.advance c) := by
  unfold advance
  split
  · exact Or.inl (Nat.lt_succ_self _)
  · exact Or.inr ⟨rfl, Nat.lt_succ_self _⟩

theorem precedes_foldl_advance {text : List Char} (h : text ≠ []) (p : Position) :
    p.Precedes (text.foldl advance p) := by
  induction text generalizing p with
  | nil =>
      exact absurd rfl h
  | cons c rest ih =>
      rw [List.foldl_cons]
      by_cases hrest : rest = []
      · rw [hrest]
        exact precedes_advance p c
      · exact (precedes_advance p c).trans (ih hrest _)

/-! ## The walk to an offset -/

theorem ofOffset_zero (p : Position) (source : List Char) : p.ofOffset source 0 = p := by
  cases source with
  | nil => rfl
  | cons c rest => rfl

/-- The walk goes over whole characters, one by one. -/
theorem ofOffset_append (p : Position) (front rest : List Char) (offset : Nat) :
    p.ofOffset (front ++ rest) (byteLength front + offset)
      = (front.foldl advance p).ofOffset rest offset := by
  induction front generalizing p with
  | nil =>
      simp
  | cons c front ih =>
      have hsize := c.utf8Size_pos
      rw [List.cons_append, byteLength_cons, ofOffset, if_neg (by omega), if_neg (by omega),
        List.foldl_cons, ← ih (p.advance c)]
      congr 1
      omega

theorem ofOffset_byteLength (p : Position) (front rest : List Char) :
    p.ofOffset (front ++ rest) (byteLength front) = front.foldl advance p := by
  have hwalk := ofOffset_append p front rest 0
  rwa [Nat.add_zero, ofOffset_zero] at hwalk

/-- The walk does not go on behind the end of the text. -/
theorem ofOffset_of_le (p : Position) {offset : Nat} (h : byteLength source ≤ offset) :
    p.ofOffset source offset = source.foldl advance p := by
  have hwalk := ofOffset_append p source [] (offset - byteLength source)
  rw [List.append_nil, Nat.add_sub_cancel' h] at hwalk
  exact hwalk

/-- Offsets behind the end of the text count as its end. -/
theorem ofOffset_min (p : Position) (source : List Char) (offset : Nat) :
    p.ofOffset source (min offset (byteLength source)) = p.ofOffset source offset := by
  rcases Nat.le_total offset (byteLength source) with hle | hge
  · rw [Nat.min_eq_left hle]
  · rw [Nat.min_eq_right hge, ofOffset_of_le _ (Nat.le_refl _), ofOffset_of_le _ hge]

/-- Inside a character the walk ends in column zero. -/
theorem column_ofOffset {offset : Nat} (h : offset < byteLength source)
    (hinside : ∀ front rest, source = front ++ rest → byteLength front ≠ offset) (p : Position) :
    (p.ofOffset source offset).column = 0 := by
  induction source generalizing offset p with
  | nil =>
      exact absurd h (Nat.not_lt_zero offset)
  | cons c rest ih =>
      have hoffset : offset ≠ 0 := fun hzero => hinside [] _ rfl hzero.symm
      rw [ofOffset, if_neg hoffset]
      split
      · rfl
      · rw [byteLength_cons] at h
        refine ih (by omega) ?_ _
        rintro front back rfl hfront
        refine hinside (c :: front) back rfl ?_
        rw [byteLength_cons]
        omega

theorem foldl_advance_of_notMem {text : List Char} (h : '\n' ∉ text) (p : Position) :
    text.foldl advance p = ⟨p.line, p.column + text.length⟩ := by
  induction text generalizing p with
  | nil =>
      rfl
  | cons c text ih =>
      rw [List.mem_cons, not_or] at h
      have hstep : p.advance c = ⟨p.line, p.column + 1⟩ := if_neg (Ne.symm h.1)
      rw [List.foldl_cons, ih h.2, hstep, List.length_cons, Nat.add_assoc, Nat.add_comm 1]

theorem foldl_advance_lineFeed {text : List Char} (h : '\n' ∉ text) (p : Position) :
    (text ++ ['\n']).foldl advance p = ⟨p.line + 1, 0⟩ := by
  rw [List.foldl_append, foldl_advance_of_notMem h]
  rfl

/-- The line of any offset, also of one inside a character, is told by the starts of lines that are
not behind it. -/
theorem line_ofOffset (p : Position) (source : List Char) (base offset : Nat) :
    (p.ofOffset source offset).line
      = p.line + (startsFrom base source).countP (· ≤ base + offset) := by
  induction source generalizing p base offset with
  | nil =>
      rfl
  | cons c rest ih =>
      have hsize := c.utf8Size_pos
      by_cases hinside : offset < c.utf8Size
      · -- The walk ends here, and all line starts are behind this character.
        have hnone : (startsFrom base (c :: rest)).countP (· ≤ base + offset) = 0 := by
          rw [List.countP_eq_zero]
          intro start hstart
          have := le_of_mem_startsFrom hstart
          simp only [decide_eq_true_eq]
          omega
        rw [hnone, ofOffset, if_pos hinside]
        split <;> rfl
      · rw [ofOffset, if_neg (by omega), if_neg hinside, ih _ (base + c.utf8Size), startsFrom,
          Nat.add_assoc, Nat.add_sub_cancel' (Nat.not_lt.1 hinside)]
        by_cases hc : c = '\n'
        · have hstart : base + c.utf8Size ≤ base + offset := by omega
          rw [if_pos hc, List.countP_cons_of_pos (by simpa using hstart), advance, if_pos hc]
          exact Nat.succ_add_eq_add_succ _ _
        · rw [if_neg hc, advance, if_neg hc]

/-! ## Places in lines -/

/-- The position is a place in the line with its number, not behind a line feed, and the text before
this place is `front`. -/
structure Marks (p : Position) (lines : List (List Char)) (line front : List Char) : Prop where
  line_eq : lines[p.line]? = some line
  column_le : p.column ≤ line.length
  notMem : '\n' ∉ line.take p.column
  front_eq : (lines.take p.line).flatten ++ line.take p.column = front

namespace Marks

theorem exists_append (h : p.Marks lines line front) : ∃ rest, lines.flatten = front ++ rest := by
  refine ⟨line.drop p.column ++ (lines.drop (p.line + 1)).flatten, ?_⟩
  rw [flatten_eq_of_getElem? h.line_eq, ← h.front_eq, List.append_assoc,
    ← List.append_assoc (line.take p.column), List.take_append_drop]

/-- A place behind the first line is a place in the other lines. -/
theorem cons_iff {first : List Char} {number column : Nat} :
    Marks ⟨number + 1, column⟩ (first :: lines) line front ↔
      ∃ later, front = first ++ later ∧ Marks ⟨number, column⟩ lines line later := by
  constructor
  · rintro ⟨hline, hcolumn, hnotMem, rfl⟩
    exact ⟨_, by simp, hline, hcolumn, hnotMem, rfl⟩
  · rintro ⟨later, rfl, hline, hcolumn, hnotMem, rfl⟩
    exact ⟨hline, hcolumn, hnotMem, by simp⟩

/-- On the first line the walk meets no line feed. -/
theorem foldl_advance_first {column : Nat} (h : Marks ⟨0, column⟩ lines line front) (base : Nat) :
    front.foldl advance ⟨base, 0⟩ = ⟨base, column⟩ := by
  rcases h with ⟨_, hcolumn, hnotMem, rfl⟩
  rw [List.take_zero, List.flatten_nil, List.nil_append, foldl_advance_of_notMem hnotMem,
    List.length_take_of_le hcolumn, Nat.zero_add]

/-- The walk over the text before a place leads to this place. -/
theorem foldl_advance (h : p.Marks (splitLines source) line front) (base : Nat) :
    front.foldl advance ⟨base, 0⟩ = ⟨base + p.line, p.column⟩ := by
  rcases p with ⟨number, column⟩
  induction source using lineInduction generalizing number front base with
  | last text htext =>
      rw [splitLines_of_notMem htext] at h
      cases number with
      | zero =>
          exact h.foldl_advance_first base
      | succ number =>
          cases h.line_eq
  | line text rest htext ih =>
      rw [splitLines_append_lineFeed htext] at h
      cases number with
      | zero =>
          exact h.foldl_advance_first base
      | succ number =>
          rcases cons_iff.1 h with ⟨later, rfl, hlater⟩
          rw [List.foldl_append, foldl_advance_lineFeed htext, ih (base + 1) number hlater,
            Nat.add_assoc, Nat.add_comm 1]

end Marks

/-- Every front of a text ends at a place in its lines. -/
theorem exists_marks (front rest : List Char) :
    ∃ p line, Marks p (splitLines (front ++ rest)) line front := by
  generalize hsource : front ++ rest = source
  induction source using lineInduction generalizing front rest with
  | last text htext =>
      rw [splitLines_of_notMem htext]
      subst hsource
      have hfront : '\n' ∉ front := fun hmem => htext (List.mem_append_left rest hmem)
      exact ⟨⟨0, front.length⟩, _, rfl, by simp, by simpa using hfront, by simp⟩
  | line text later htext ih =>
      rw [splitLines_append_lineFeed htext]
      -- The front ends on the first line, or it goes on behind the line feed.
      have hends : (∃ missing, text = front ++ missing) ∨
          ∃ back, front = text ++ '\n' :: back ∧ back ++ rest = later := by
        rcases List.append_eq_append_iff.1 hsource with ⟨missing, htext, _⟩ | ⟨extra, hfront, hextra⟩
        · exact Or.inl ⟨missing, htext⟩
        · cases extra with
          | nil =>
              exact Or.inl ⟨[], by simp [hfront]⟩
          | cons c back =>
              rw [List.cons_append, List.cons.injEq] at hextra
              rcases hextra with ⟨rfl, hback⟩
              exact Or.inr ⟨back, hfront, hback.symm⟩
      rcases hends with ⟨missing, rfl⟩ | ⟨back, rfl, hback⟩
      · have hfront : '\n' ∉ front := fun hmem => htext (List.mem_append_left missing hmem)
        exact ⟨⟨0, front.length⟩, _, rfl, by simp, by simpa using hfront, by simp⟩
      · rcases ih back rest hback with ⟨⟨number, column⟩, line, hmarks⟩
        exact ⟨⟨number + 1, column⟩, line, Marks.cons_iff.2 ⟨back, by simp, hmarks⟩⟩

end Position

end AccessorSynthesis
