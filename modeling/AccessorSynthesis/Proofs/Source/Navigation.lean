import AccessorSynthesis.Proofs.Source.Lookup

/-!
# Navigation — lines, offsets and positions of a document

The lines of a document make up its text, and the offsets between characters correspond to the
places in its lines: each of them leads to the other, and later offsets to later places
(`Document.navigable`).  An offset behind the end of the text has the position of the end.
This file defines

* `Document.IsBoundary` — the offset is one between characters, or at an end of the text;
* `Document.lineCount` — one more than there are line feeds;
* `Document.Navigable` — what is said above, as one statement about a document.
-/

namespace AccessorSynthesis
namespace Document

variable {document : Document} {offset : Nat} {front rest line : List Char} {p : Position}

/-- The offset is not inside a character and not behind the end of the text. -/
def IsBoundary (document : Document) (offset : Nat) : Prop :=
  String.Pos.Raw.IsValid document.source ⟨offset⟩

theorem isBoundary_iff : document.IsBoundary offset ↔
    ∃ front rest, document.source.toList = front ++ rest ∧ byteLength front = offset := by
  unfold IsBoundary
  rw [String.Pos.Raw.isValid_iff_exists_append]
  constructor
  · rintro ⟨first, second, hsource, hoffset⟩
    refine ⟨first.toList, second.toList, ?_, ?_⟩
    · rw [hsource, String.toList_append]
    · rw [byteLength_toList]
      exact (congrArg String.Pos.Raw.byteIdx hoffset).symm
  · rintro ⟨front, rest, hsource, rfl⟩
    refine ⟨String.ofList front, String.ofList rest, ?_, rfl⟩
    rw [← String.ofList_append, ← hsource, String.ofList_toList]

/-! ## From offsets to places and back -/

theorem position_byteLength (h : document.source.toList = front ++ rest) :
    document.position (byteLength front) = front.foldl Position.advance Position.first := by
  rw [position_eq, h, Position.ofOffset_byteLength]

/-- The position of an offset between characters marks the text in front of this offset. -/
theorem exists_marks_position (h : document.source.toList = front ++ rest) :
    ∃ line, (document.position (byteLength front)).Marks document.lines line front := by
  rcases Position.exists_marks front rest with ⟨p, line, hmarks⟩
  have hwalk : front.foldl Position.advance Position.first = p := by
    rw [Position.first, hmarks.foldl_advance 0, Nat.zero_add]
  rw [position_byteLength h, hwalk, lines, h]
  exact ⟨line, hmarks⟩

/-- A place is the position of the offset behind the text it marks. -/
theorem position_of_marks (h : p.Marks document.lines line front) :
    document.IsBoundary (byteLength front) ∧ document.position (byteLength front) = p := by
  rcases h.exists_append with ⟨rest, hrest⟩
  rw [flatten_lines] at hrest
  refine ⟨isBoundary_iff.2 ⟨front, rest, hrest, rfl⟩, ?_⟩
  rw [position_byteLength hrest, Position.first, h.foldl_advance 0, Nat.zero_add]

/-- Of two offsets between characters the later one has more text in front of it. -/
theorem exists_between {start stop : Nat} (hstart : document.IsBoundary start)
    (hstop : document.IsBoundary stop) (h : start < stop) :
    ∃ front between rest, document.source.toList = front ++ (between ++ rest) ∧ between ≠ [] ∧
      byteLength front = start ∧ byteLength (front ++ between) = stop := by
  rcases isBoundary_iff.1 hstart with ⟨front, rest, hfront, rfl⟩
  rcases isBoundary_iff.1 hstop with ⟨back, last, hback, rfl⟩
  rcases List.append_eq_append_iff.1 (hfront.symm.trans hback) with
    ⟨between, rfl, rfl⟩ | ⟨extra, rfl, _⟩
  · refine ⟨front, between, last, hfront, ?_, rfl, rfl⟩
    rintro rfl
    simp at h
  · rw [byteLength_append] at h
    omega

theorem precedes_position {start stop : Nat} (hstart : document.IsBoundary start)
    (hstop : document.IsBoundary stop) (h : start < stop) :
    (document.position start).Precedes (document.position stop) := by
  rcases exists_between hstart hstop h with ⟨front, between, rest, hsource, hfilled, rfl, rfl⟩
  rw [position_byteLength hsource, position_byteLength (hsource.trans (List.append_assoc ..).symm),
    List.foldl_append]
  exact Position.precedes_foldl_advance hfilled _

/-! ## Lines of positions -/

/-- The number of lines of the document. -/
def lineCount (document : Document) : Nat := document.source.toList.count '\n' + 1

theorem length_lines (document : Document) : document.lines.length = document.lineCount :=
  length_splitLines _

theorem exists_line {number : Nat} (h : number < document.lineCount) :
    ∃ line, document.line? number = some line := by
  rw [← length_lines] at h
  exact ⟨_, (document.line?_eq number).trans (List.getElem?_eq_getElem h)⟩

/-- Every offset has a position on one of the lines, also one inside a character or behind the end of
the text. -/
theorem line_position_lt (document : Document) (offset : Nat) :
    (document.position offset).line < document.lineCount := by
  rw [← length_lines]
  exact document.lineAt_lt offset

theorem exists_line_position (document : Document) (offset : Nat) :
    ∃ line, document.line? (document.position offset).line = some line :=
  exists_line (document.line_position_lt offset)

/-! ## The whole document -/

/-- The lines make up the text, each but the last with a line feed at its end, and the offsets of the
text correspond to the places in its lines. -/
structure Navigable (document : Document) : Prop where
  /-- These are the lines, and there are no others. -/
  all_lines : (List.range document.lineCount).map document.line? = document.lines.map some
  no_line : ∀ number, document.lineCount ≤ number → document.line? number = none
  flatten_lines : document.lines.flatten = document.source.toList
  ended_line : ∀ number, number + 1 < document.lineCount →
    ∃ text, '\n' ∉ text ∧ document.line? number = some (text ++ ['\n'])
  last_line : ∃ text, '\n' ∉ text ∧ document.line? (document.lineCount - 1) = some text
  /-- The table says where a line starts: behind the lines in front of it. -/
  start_of : ∀ number, number < document.lineCount →
    document.lineStart? number = some (byteLength (document.lines.take number).flatten)
  /-- The line of an offset, whichever it is, comes behind the line starts that are not behind it. -/
  line_of : ∀ offset, (document.position offset).line < document.lineCount ∧
    (document.position offset).line = document.lineStarts.toList.countP (· ≤ offset)
  /-- The position of an offset between characters is a place, and leads back to the offset. -/
  offset_of : ∀ offset, document.IsBoundary offset → ∃ line,
    document.line? (document.position offset).line = some line ∧
    (document.position offset).column ≤ line.length ∧
    byteLength (document.lines.take (document.position offset).line).flatten
      + byteLength (line.take (document.position offset).column) = offset
  /-- Each place in a line that is not behind its line feed is the position of its offset. -/
  position_of : ∀ number column line, document.line? number = some line →
    column ≤ line.length → '\n' ∉ line.take column →
    ∃ offset, document.IsBoundary offset ∧ document.position offset = ⟨number, column⟩ ∧
      byteLength (document.lines.take number).flatten + byteLength (line.take column) = offset
  increasing : ∀ start stop, document.IsBoundary start → document.IsBoundary stop →
    start < stop → (document.position start).Precedes (document.position stop)
  injective : ∀ first second, document.IsBoundary first → document.IsBoundary second →
    document.position first = document.position second → first = second
  /-- Behind the end of the text there is no further position. -/
  beyond : ∀ offset, document.source.utf8ByteSize < offset →
    document.position offset = document.position document.source.utf8ByteSize

theorem navigable (document : Document) : document.Navigable where
  all_lines := by
    apply List.ext_getElem
    · rw [List.length_map, List.length_map, List.length_range, length_lines]
    · intro number hleft hright
      rw [List.length_map] at hright
      rw [List.getElem_map, List.getElem_map, List.getElem_range, line?_eq,
        List.getElem?_eq_getElem hright]
  no_line := by
    intro number hnumber
    rw [← length_lines] at hnumber
    exact (document.line?_eq number).trans (List.getElem?_eq_none hnumber)
  flatten_lines := document.flatten_lines
  ended_line := by
    intro number hnumber
    rw [line?_eq]
    exact exists_ended_line (Nat.lt_of_succ_lt_succ hnumber)
  last_line := by
    rw [line?_eq]
    exact exists_last_line _
  start_of := by
    intro number hnumber
    rw [← length_lines] at hnumber
    exact lineStart?_of_lt hnumber
  line_of := fun offset => ⟨document.line_position_lt offset, document.lineAt_eq offset⟩
  offset_of := by
    intro offset hoffset
    rcases isBoundary_iff.1 hoffset with ⟨front, rest, hsource, rfl⟩
    rcases exists_marks_position hsource with ⟨line, hline, hcolumn, _, hfront⟩
    refine ⟨line, (document.line?_eq _).trans hline, hcolumn, ?_⟩
    rw [← byteLength_append, hfront]
  position_of := by
    intro number column line hline hcolumn hnotMem
    have hmarks : Position.Marks ⟨number, column⟩ document.lines line _ :=
      ⟨(document.line?_eq number).symm.trans hline, hcolumn, hnotMem, rfl⟩
    rcases position_of_marks hmarks with ⟨hboundary, hposition⟩
    exact ⟨_, hboundary, hposition, (byteLength_append _ _).symm⟩
  increasing := fun _ _ => precedes_position
  injective := by
    intro first second hfirst hsecond hsame
    -- Different offsets have different positions, whichever of them is the later one.
    rcases Nat.lt_trichotomy first second with hlt | heq | hgt
    · exact absurd hsame (precedes_position hfirst hsecond hlt).ne
    · exact heq
    · exact absurd hsame.symm (precedes_position hsecond hfirst hgt).ne
  beyond := by
    intro offset hoffset
    rw [← byteLength_toList] at hoffset ⊢
    rw [position_eq, position_eq, Position.ofOffset_of_le _ (Nat.le_of_lt hoffset),
      Position.ofOffset_of_le _ (Nat.le_refl _)]

end Document
end AccessorSynthesis
