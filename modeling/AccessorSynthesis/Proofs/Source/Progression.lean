import AccessorSynthesis.Proofs.Source.Navigation

/-!
# Progression — the positions of later offsets

A later offset is on the same line or on a later one, and between characters its position comes
later, too.  But inside a character the walk ends in column zero, in front of all places of the line
but its start.  This is the one case in which the position of a later offset comes earlier
(`Document.position_ordered`).  This file defines

* `p ≤ q` for positions — the order with `Position.Precedes` as its strict part;
* `Document.IsInside` — the offset is one between the bytes of a character;
* `Document.Recedes` — from the first offset to the second the position goes back.
-/

namespace AccessorSynthesis

/-! ## The order of positions -/

namespace Position

variable {p q : Position}

/-- Positions are ordered by lines first, and by columns on the same line. -/
instance : LE Position := ⟨fun p q => p.line < q.line ∨ p.line = q.line ∧ p.column ≤ q.column⟩

theorem le_def : p ≤ q ↔ p.line < q.line ∨ p.line = q.line ∧ p.column ≤ q.column := Iff.rfl

instance (p q : Position) : Decidable (p ≤ q) := decidable_of_iff _ le_def.symm

theorem not_le : ¬p ≤ q ↔ q.Precedes p := by
  rw [le_def, Precedes]
  omega

theorem Precedes.le (h : p.Precedes q) : p ≤ q :=
  h.imp_right fun hcolumn => ⟨hcolumn.1, Nat.le_of_lt hcolumn.2⟩

end Position

namespace Document

variable {document : Document} {offset start stop : Nat}

/-! ## Lines -/

/-- The line of an offset counts the line starts that are not behind it, and a later offset has no
fewer of them. -/
theorem lineAt_mono (h : start ≤ stop) : document.lineAt start ≤ document.lineAt stop := by
  rw [lineAt_eq, lineAt_eq]
  refine List.countP_mono_left ?_
  intro lineStart _ hstart
  simp only [decide_eq_true_eq] at hstart ⊢
  exact Nat.le_trans hstart h

/-! ## Offsets inside characters -/

/-- The offset is in front of the end of the text, and not between characters. -/
def IsInside (document : Document) (offset : Nat) : Prop :=
  offset < document.source.utf8ByteSize ∧ ¬document.IsBoundary offset

/-- Inside a character the column is not counted. -/
theorem position_of_isInside (h : document.IsInside offset) :
    document.position offset = ⟨document.lineAt offset, 0⟩ := by
  have hinside : ∀ front rest, document.source.toList = front ++ rest →
      byteLength front ≠ offset :=
    fun front rest hsource hfront => h.2 (isBoundary_iff.2 ⟨front, rest, hsource, hfront⟩)
  have hcolumn : (document.position offset).column = 0 := by
    rw [position_eq]
    exact Position.column_ofOffset (byteLength_toList _ ▸ h.1) hinside _
  rw [← hcolumn]
  rfl

theorem isBoundary_size (document : Document) :
    document.IsBoundary document.source.utf8ByteSize :=
  isBoundary_iff.2 ⟨document.source.toList, [], (List.append_nil _).symm, byteLength_toList _⟩

/-- Offsets behind the end count as the end.  So every offset that is inside no character counts as
one between characters, or at an end of the text. -/
theorem isBoundary_min (h : ¬document.IsInside offset) :
    document.IsBoundary (min offset document.source.utf8ByteSize) := by
  rcases Nat.lt_or_ge offset document.source.utf8ByteSize with hlt | hge
  · rw [Nat.min_eq_left (Nat.le_of_lt hlt)]
    exact Classical.not_not.1 fun hboundary => h ⟨hlt, hboundary⟩
  · rw [Nat.min_eq_right hge]
    exact document.isBoundary_size

theorem position_min (document : Document) (offset : Nat) :
    document.position (min offset document.source.utf8ByteSize) = document.position offset := by
  rw [position_eq, position_eq, ← byteLength_toList, Position.ofOffset_min]

/-! ## Starts of lines -/

/-- A line starts in column zero. -/
theorem position_of_lineStart? {number : Nat} (h : document.lineStart? number = some offset) :
    document.position offset = ⟨number, 0⟩ := by
  have hnumber : number < document.lines.length := by
    rw [← Nat.not_le]
    intro hle
    rw [lineStart?_of_le hle] at h
    cases h
  rw [lineStart?_of_lt hnumber, Option.some.injEq] at h
  subst h
  have hmarks : Position.Marks ⟨number, 0⟩ document.lines document.lines[number]
      (document.lines.take number).flatten :=
    ⟨List.getElem?_eq_getElem hnumber, Nat.zero_le _, List.not_mem_nil, List.append_nil _⟩
  exact (position_of_marks hmarks).2

/-- No other place of the line has column zero. -/
theorem lineStart?_of_column_eq_zero (h : document.IsBoundary offset)
    (hcolumn : (document.position offset).column = 0) :
    document.lineStart? (document.lineAt offset) = some offset := by
  rcases isBoundary_iff.1 h with ⟨front, rest, hsource, rfl⟩
  rcases exists_marks_position hsource with ⟨line, hmarks⟩
  -- The text in front of the offset is made up of the lines before its own.
  have hfront := hmarks.front_eq
  rw [hcolumn, List.take_zero, List.append_nil] at hfront
  rw [lineStart?_of_lt (document.lineAt_lt _)]
  exact congrArg (fun text => some (byteLength text)) hfront

/-! ## Later offsets -/

/-- The second offset is inside a character, and the first one is between characters of the same line
and not at the start of a line. -/
structure Recedes (document : Document) (start stop : Nat) : Prop where
  isBoundary : document.IsBoundary start
  isInside : document.IsInside stop
  sameLine : document.lineAt start = document.lineAt stop
  notStart : ∀ number, document.lineStart? number ≠ some start

/-- The position goes back to the start of the line. -/
theorem Recedes.position_stop (h : document.Recedes start stop) :
    document.position stop = ⟨(document.position start).line, 0⟩ := by
  rw [position_of_isInside h.isInside, ← h.sameLine]
  rfl

theorem Recedes.precedes (h : document.Recedes start stop) :
    (document.position stop).Precedes (document.position start) := by
  have hcolumn : (document.position start).column ≠ 0 :=
    fun hzero => h.notStart _ (lineStart?_of_column_eq_zero h.isBoundary hzero)
  rw [h.position_stop]
  exact Or.inr ⟨rfl, Nat.pos_of_ne_zero hcolumn⟩

theorem position_le_of_isBoundary (hstart : document.IsBoundary start)
    (hstop : document.IsBoundary stop) (h : start ≤ stop) :
    document.position start ≤ document.position stop := by
  rcases Nat.lt_or_eq_of_le h with hlt | rfl
  · exact (precedes_position hstart hstop hlt).le
  · exact Or.inr ⟨rfl, Nat.le_refl _⟩

/-- The position of an offset inside a character is the first one of its line. -/
theorem position_le_of_isInside (hstart : document.IsInside start) (h : start ≤ stop) :
    document.position start ≤ document.position stop := by
  rw [position_of_isInside hstart]
  rcases Nat.lt_or_eq_of_le (document.lineAt_mono h) with hlt | heq
  · exact Or.inl hlt
  · exact Or.inr ⟨heq, Nat.zero_le _⟩

theorem position_le_of_not_isInside (hstop : ¬document.IsInside stop) (h : start ≤ stop) :
    document.position start ≤ document.position stop := by
  by_cases hstart : document.IsInside start
  · exact position_le_of_isInside hstart h
  · -- Both offsets count as places of the text, and these are in the same order.
    rw [← position_min document start, ← position_min document stop]
    exact position_le_of_isBoundary (isBoundary_min hstart) (isBoundary_min hstop) (by omega)

/-- There is no other way back: it leads to an offset without a column, and not from one. -/
theorem recedes_of_precedes (h : start ≤ stop)
    (hback : (document.position stop).Precedes (document.position start)) :
    document.Recedes start stop := by
  -- All pairs of offsets but these have positions that are in order.
  have hstart : ¬document.IsInside start :=
    fun hinside => Position.not_le.2 hback (position_le_of_isInside hinside h)
  have hstop : document.IsInside stop := by
    refine Classical.not_not.1 fun hinside => ?_
    exact Position.not_le.2 hback (position_le_of_not_isInside hinside h)
  have hboundary := isBoundary_min hstart
  rw [Nat.min_eq_left (Nat.le_trans h (Nat.le_of_lt hstop.1))] at hboundary
  rcases hback with hline | ⟨hline, hcolumn⟩
  · exact absurd (document.lineAt_mono h) (Nat.not_le.2 hline)
  · -- The first position is behind another one of its line, so the line does not start there.
    refine ⟨hboundary, hstop, hline.symm, ?_⟩
    intro number hnumber
    rw [position_of_lineStart? hnumber] at hcolumn
    exact Nat.not_lt_zero _ hcolumn

/-- From an offset to a later one the line never goes back.  The position goes back in one case only:
to an offset inside a character, from a place of the same line behind its start.  It goes back to
this start. -/
theorem position_ordered (later : start ≤ stop) :
    (document.position start).line ≤ (document.position stop).line ∧
    (document.position start ≤ document.position stop ↔ ¬document.Recedes start stop) ∧
    (document.Recedes start stop →
      document.position stop = ⟨(document.position start).line, 0⟩) := by
  refine ⟨document.lineAt_mono later, ⟨?_, ?_⟩, Recedes.position_stop⟩
  · intro hle hrecedes
    exact Position.not_le.2 hrecedes.precedes hle
  · intro hstays
    refine Classical.not_not.1 fun hback => ?_
    exact hstays (recedes_of_precedes later (Position.not_le.1 hback))

/-- Two lines with a character of two bytes each.  The second of these characters is at offset 4. -/
def accentedDocument : Document := ⟨"A.kt", "α\nbé\n"⟩

/-- Between the bytes of this character the position is the start of the line, and the position in
front of it comes later. -/
theorem position_recedes_accented :
    accentedDocument.source.utf8ByteSize < 4294967296 ∧ 4 ≤ 5 ∧
    accentedDocument.position 4 = ⟨1, 1⟩ ∧ accentedDocument.position 5 = ⟨1, 0⟩ ∧
    ¬accentedDocument.position 4 ≤ accentedDocument.position 5 := by
  decide +kernel

theorem position_ordered_accented :
    4 ≤ 5 ∧ accentedDocument.Recedes 4 5 ∧
    (accentedDocument.position 4).line ≤ (accentedDocument.position 5).line ∧
    (accentedDocument.position 4 ≤ accentedDocument.position 5 ↔
      ¬accentedDocument.Recedes 4 5) ∧
    (accentedDocument.Recedes 4 5 →
      accentedDocument.position 5 = ⟨(accentedDocument.position 4).line, 0⟩) := by
  have hlater : 4 ≤ 5 := by decide
  have hback : (accentedDocument.position 5).Precedes (accentedDocument.position 4) :=
    Position.not_le.1 (by decide +kernel)
  exact ⟨hlater, recedes_of_precedes hlater hback, position_ordered hlater⟩

end Document

end AccessorSynthesis
