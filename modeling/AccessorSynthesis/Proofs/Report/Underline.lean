import Mathlib.Data.List.DropRight
import AccessorSynthesis.Proofs.Source.Navigation
import AccessorSynthesis.Report.Rendering

/-!
# Underline — what is shown of a message beside its source

A message with a span is shown below the line of the start of the span.  The carets below the line
stand exactly below the characters of the span, if it lies between characters of one line
(`Message.render_of_known`).  Neither the spaces before the carets nor the carets may be more than
65535: a message that needs more of them is not shown at all (`Message.render_farMessage`).  This
file defines

* `Trims line shown` — the second text is the first one without the blanks at its end;
* `Underlines document span line carets` — how many carets there are, and what they stand below.
-/

namespace AccessorSynthesis

/-! ## Blanks at the end of a line -/

/-- The text is the line without blank characters at its end. -/
structure Trims (line shown : List Char) : Prop where
  blanks : ∃ blanks, line = shown ++ blanks ∧ ∀ c ∈ blanks, isBlank c = true
  filled : ∀ h : shown ≠ [], ¬isBlank (shown.getLast h) = true

theorem trims_trimEnd (line : List Char) : Trims line (trimEnd line) where
  blanks := ⟨line.rtakeWhile isBlank, (List.rdropWhile_append_rtakeWhile).symm,
    fun _ => List.mem_rtakeWhile_imp⟩
  filled := List.rdropWhile_last_not isBlank line

/-! ## Texts between offsets -/

/-- Text between two places of one line is a part of this line. -/
theorem Position.Marks.between {p q : Position} {lines : List (List Char)}
    {line front between : List Char} (hp : p.Marks lines line front)
    (hq : q.Marks lines line (front ++ between)) (hline : p.line = q.line) :
    (line.drop p.column).take (q.column - p.column) = between ∧
      between.length = q.column - p.column := by
  have hfront := hq.front_eq
  rw [← hp.front_eq, hline, List.append_assoc] at hfront
  have htake : line.take q.column = line.take p.column ++ between :=
    List.append_cancel_left hfront
  have hlength : q.column = p.column + between.length := by
    have hlengths := congrArg List.length htake
    rwa [List.length_append, List.length_take_of_le hq.column_le,
      List.length_take_of_le hp.column_le] at hlengths
  rw [hlength, List.take_add] at htake
  rw [hlength, Nat.add_sub_cancel_left]
  exact ⟨List.append_cancel_left htake, rfl⟩

/-- The bytes of a text between two offsets are those of the characters there. -/
theorem extract_byteLength {source : String} {front between rest : List Char}
    (h : source.toList = front ++ (between ++ rest)) :
    source.toByteArray.extract (byteLength front) (byteLength (front ++ between))
      = between.utf8Encode := by
  have hsize : ∀ text : List Char, text.utf8Encode.size = byteLength text := by
    intro text
    rw [← String.toByteArray_ofList]
    rfl
  have hbytes : source.toByteArray
      = front.utf8Encode ++ (between.utf8Encode ++ rest.utf8Encode) := by
    rw [← List.utf8Encode_append, ← List.utf8Encode_append, ← h, ← String.toByteArray_ofList,
      String.ofList_toList]
  rw [hbytes, byteLength_append, ← Nat.add_zero (byteLength front), Nat.add_assoc, Nat.zero_add,
    ByteArray.extract_append_size_add' (hsize front).symm,
    ByteArray.extract_append_eq_left (hsize between).symm]

/-! ## Carets -/

/-- How many carets stand below a line for a span that starts on it.  Below a span that lies between
characters of one line, each character has one. -/
structure Underlines (document : Document) (span : Span) (line : List Char) (carets : Nat) :
    Prop where
  pos : 0 < carets
  exact : document.IsBoundary span.start → document.IsBoundary span.stop →
    span.start < span.stop →
    (document.position span.start).line = (document.position span.stop).line →
    ∃ below, (line.drop (document.position span.start).column).take carets = below ∧
      below.length = carets ∧
      below.utf8Encode = document.source.toByteArray.extract span.start span.stop
  reversed : (document.position span.start).line = (document.position span.stop).line →
    (document.position span.stop).column ≤ (document.position span.start).column → carets = 1
  spread : (document.position span.start).line ≠ (document.position span.stop).line → carets = 3

theorem underlines_underlineLength {document : Document} {span : Span} {line : List Char}
    (h : document.line? (document.position span.start).line = some line) :
    Underlines document span line
      (underlineLength (document.position span.start) (document.position span.stop)) where
  pos := by
    unfold underlineLength
    split <;> omega
  exact := by
    intro hstart hstop hlt hsame
    rw [Document.line?_eq] at h
    rcases Document.exists_between hstart hstop hlt with
      ⟨front, between, rest, hsource, hfilled, hfront, hback⟩
    rcases Document.exists_marks_position hsource with ⟨first, hfirst⟩
    rcases Document.exists_marks_position (hsource.trans (List.append_assoc ..).symm) with
      ⟨second, hsecond⟩
    rw [hfront] at hfirst
    rw [hback] at hsecond
    -- Both ends are places in the line that is shown.
    have hline : first = line := Option.some.inj (hfirst.line_eq.symm.trans h)
    have hline' : second = line := by
      have hshown := hsecond.line_eq
      rw [← hsame] at hshown
      exact Option.some.inj (hshown.symm.trans h)
    subst hline hline'
    rcases hfirst.between hsecond hsame with ⟨hbelow, hlength⟩
    have hcarets : underlineLength (document.position span.start) (document.position span.stop)
        = (document.position span.stop).column - (document.position span.start).column := by
      have hpos : 0 < between.length := List.length_pos_iff.2 hfilled
      unfold underlineLength
      rw [if_pos hsame]
      omega
    rw [hcarets]
    refine ⟨between, hbelow, hlength, ?_⟩
    rw [← hfront, ← hback, extract_byteLength hsource]
  reversed := by
    intro hsame hle
    unfold underlineLength
    rw [if_pos hsame]
    omega
  spread := by
    intro hdifferent
    unfold underlineLength
    rw [if_neg hdifferent]

/-- More than three carets stand below a span only where its end is on the line of its start. -/
theorem lt_underlineLength {start stop : Position} {n : Nat} (h : 3 ≤ n) :
    n < underlineLength start stop ↔ start.line = stop.line ∧ start.column + n < stop.column := by
  unfold underlineLength
  split <;> omega

/-! ## The message as it is shown -/

theorem filled_of_le {c : Char} {width : Nat} (h : width ≤ 65535) :
    filled c width = .ok (String.ofList (List.replicate width c)) :=
  if_pos h

theorem filled_of_lt {c : Char} {width : Nat} (h : 65535 < width) :
    filled c width = .error .tooWide :=
  if_neg (Nat.not_le.2 h)

theorem Message.render_of_line {message : Message} {sources : Sources} {span : Span}
    {document : Document} {line : List Char} (hspan : message.span = some span)
    (hknown : sources.get? span.file = some document)
    (hline : document.line? (document.position span.start).line = some line) {carets : Nat}
    (hcarets : underlineLength (document.position span.start) (document.position span.stop)
      = carets) :
    message.render sources =
      if (document.position span.start).column ≤ 65535 ∧ carets ≤ 65535 then
        .ok (s!"At {document.path}:{(document.position span.start).line + 1}"
          ++ s!":{(document.position span.start).column + 1}\n"
          ++ String.ofList (trimEnd line) ++ "\n"
          ++ String.ofList (List.replicate (document.position span.start).column ' '
            ++ List.replicate carets '^')
          ++ "\n" ++ message.text)
      else .error .tooWide := by
  simp only [render, hspan, hknown, hline, hcarets]
  by_cases hcolumn : (document.position span.start).column ≤ 65535
  · rw [filled_of_le hcolumn]
    by_cases hlength : carets ≤ 65535
    · rw [filled_of_le hlength, if_pos ⟨hcolumn, hlength⟩]
      simp [bind, Except.bind, Position.text, String.append_assoc, toString]
    · rw [filled_of_lt (Nat.not_le.1 hlength), if_neg fun h => hlength h.2]
      rfl
  · rw [filled_of_lt (Nat.not_le.1 hcolumn), if_neg fun h => hcolumn h.1]
    rfl

/-- What becomes of a message with a span in a known source.  It is shown with its place, counted
from one, the line without the blanks at its end, carets behind as many spaces as there are
characters before the span, and the text.  The carets stand below the characters of the span, if it
is one between characters of one line.  Only where the spaces or the carets would be more than 65535
it is not shown. -/
theorem Message.render_of_known {message : Message} {sources : Sources} {span : Span}
    {document : Document} (spanned : message.span = some span)
    (known : sources.get? span.file = some document) :
    ∃ line shown carets,
      document.line? (document.position span.start).line = some line ∧ Trims line shown ∧
      Underlines document span line carets ∧
      message.render sources =
        if (document.position span.start).column ≤ 65535 ∧ carets ≤ 65535 then
          .ok (s!"At {document.path}:{(document.position span.start).line + 1}"
            ++ s!":{(document.position span.start).column + 1}\n"
            ++ String.ofList shown ++ "\n"
            ++ String.ofList (List.replicate (document.position span.start).column ' '
              ++ List.replicate carets '^')
            ++ "\n" ++ message.text)
        else .error .tooWide := by
  rcases document.exists_line_position span.start with ⟨line, hline⟩
  exact ⟨line, trimEnd line, _, hline, trims_trimEnd line, underlines_underlineLength hline,
    render_of_line spanned known hline rfl⟩

/-- Two lines with characters of one, two and three bytes, and blanks at the end of the second. -/
def wideDocument : Document := ⟨"A.kt", "α\nb é日x \n"⟩

/-- A message about the characters of several bytes on the second line. -/
def wideMessage : Message := ⟨.warning, "wide", some ⟨5, 10, 0⟩⟩

theorem Message.render_of_wideMessage :
    wideMessage.span = some ⟨5, 10, 0⟩ ∧ Sources.get? ⟨[wideDocument]⟩ 0 = some wideDocument ∧
    (wideDocument.IsBoundary 5 ∧ wideDocument.IsBoundary 10) ∧
    wideDocument.position 5 = ⟨1, 2⟩ ∧ wideDocument.position 10 = ⟨1, 4⟩ ∧
    ∃ line shown carets,
      wideDocument.line? (wideDocument.position 5).line = some line ∧ Trims line shown ∧
      Underlines wideDocument ⟨5, 10, 0⟩ line carets ∧
      ((wideDocument.position 5).column ≤ 65535 ∧ carets ≤ 65535) ∧
      wideMessage.render ⟨[wideDocument]⟩ = .ok
        (s!"At {wideDocument.path}:{(wideDocument.position 5).line + 1}"
          ++ s!":{(wideDocument.position 5).column + 1}\n"
          ++ String.ofList shown ++ "\n"
          ++ String.ofList (List.replicate (wideDocument.position 5).column ' '
            ++ List.replicate carets '^')
          ++ "\n" ++ wideMessage.text) := by
  have hspan : wideMessage.span = some ⟨5, 10, 0⟩ := rfl
  have hknown : Sources.get? ⟨[wideDocument]⟩ 0 = some wideDocument := rfl
  have hstart : wideDocument.IsBoundary 5 :=
    Document.isBoundary_iff.2
      ⟨['α', '\n', 'b', ' '], ['é', '日', 'x', ' ', '\n'], by decide, by decide⟩
  have hstop : wideDocument.IsBoundary 10 :=
    Document.isBoundary_iff.2
      ⟨['α', '\n', 'b', ' ', 'é', '日'], ['x', ' ', '\n'], by decide, by decide⟩
  have hshown : (wideMessage.render ⟨[wideDocument]⟩).toOption.isSome = true := by
    decide +kernel
  rcases Message.render_of_known hspan hknown with
    ⟨line, shown, carets, hline, htrims, hunderlines, hrender⟩
  -- The message is shown, so that it is not the width that would keep it from that.
  by_cases hnarrow : (wideDocument.position 5).column ≤ 65535 ∧ carets ≤ 65535
  · exact ⟨hspan, hknown, ⟨hstart, hstop⟩, by decide +kernel, by decide +kernel, line, shown, carets,
      hline, htrims, hunderlines, hnarrow, hrender.trans (if_pos hnarrow)⟩
  · rw [hrender.trans (if_neg hnarrow)] at hshown
    cases hshown

example : wideMessage.render ⟨[wideDocument]⟩ = .ok "At A.kt:2:3\nb é日x\n  ^^\nwide" := by
  decide +kernel

/-! ## Lines that are too long -/

/-- A document of one line, which repeats one character. -/
def longLine (length : Nat) : Document := ⟨"A.kt", String.ofList (List.replicate length 'a')⟩

theorem byteLength_replicate (n : Nat) : byteLength (List.replicate n 'a') = n := by
  induction n with
  | zero =>
      rfl
  | succ n ih =>
      rw [List.replicate_succ, byteLength_cons, ih]
      exact Nat.add_comm 1 n

theorem size_longLine (length : Nat) : (longLine length).source.utf8ByteSize = length :=
  byteLength_replicate length

theorem toList_longLine {offset length : Nat} (h : offset ≤ length) :
    (longLine length).source.toList
      = List.replicate offset 'a' ++ List.replicate (length - offset) 'a' := by
  rw [List.replicate_append_replicate, Nat.add_sub_cancel' h]
  exact String.toList_ofList

theorem isBoundary_longLine {offset length : Nat} (h : offset ≤ length) :
    (longLine length).IsBoundary offset :=
  Document.isBoundary_iff.2 ⟨_, _, toList_longLine h, byteLength_replicate offset⟩

theorem position_longLine {offset length : Nat} (h : offset ≤ length) :
    (longLine length).position offset = ⟨0, offset⟩ := by
  have hposition := Document.position_byteLength (toList_longLine h)
  rw [byteLength_replicate, Position.foldl_advance_of_notMem (by simp)] at hposition
  simpa [Position.first] using hposition

/-- A message about one character of a line, behind 65536 others. -/
def farMessage : Message := ⟨.warning, "m", some ⟨65536, 65537, 0⟩⟩

/-- A message whose span is the last character of its line, where the underline would start too far
to the right. -/
theorem Message.render_farMessage :
    (longLine 65537).source.utf8ByteSize < 4294967296 ∧
    (longLine 65537).IsBoundary 65536 ∧ (longLine 65537).IsBoundary 65537 ∧
    ((longLine 65537).position 65536).line = ((longLine 65537).position 65537).line ∧
    Sources.get? ⟨[longLine 65537]⟩ 0 = some (longLine 65537) ∧
    farMessage.render ⟨[longLine 65537]⟩ = .error .tooWide := by
  have hstart : (longLine 65537).position 65536 = ⟨0, 65536⟩ := position_longLine (by omega)
  have hstop : (longLine 65537).position 65537 = ⟨0, 65537⟩ := position_longLine (by omega)
  refine ⟨?_, isBoundary_longLine (by omega), isBoundary_longLine (by omega), ?_, rfl, ?_⟩
  · rw [size_longLine]
    omega
  · rw [hstart, hstop]
  · rcases (longLine 65537).exists_line_position 65536 with ⟨line, hline⟩
    rw [Message.render_of_line rfl rfl hline rfl, hstart]
    exact if_neg fun h => absurd h.1 (by decide)

end AccessorSynthesis
