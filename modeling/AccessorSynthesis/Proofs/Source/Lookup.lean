import AccessorSynthesis.Proofs.Source.Position

/-!
# Lookup — lines and positions found through the table

A document looks for the line of an offset in the table of line starts, by halving, and counts the
characters between the start of this line and the offset.  This is the position that a walk over the
text leads to (`Document.position_eq`), and the text between two line starts is a line
(`Document.line?_eq`).  This file defines

* `Window table n low high` — what is outside of these places is not what is looked for;
* `Answers table n answer` — the place where a number stands, or where it is missing;
* `Document.lines` — the lines of a document, without its table.
-/

namespace AccessorSynthesis

/-! ## Halving -/

/-- The numbers of the table in front of `low` are smaller, and those from `high` on are greater. -/
structure Window (table : Array Nat) (n low high : Nat) : Prop where
  low_le : low ≤ high
  below : ∀ i (_ : i < table.size), i < low → table[i] < n
  above : ∀ i (_ : i < table.size), high ≤ i → n < table[i]

/-- The number stands at the place, or it is missing there. -/
def Answers (table : Array Nat) (n : Nat) : Except Nat Nat → Prop
  | .ok place => ∃ _ : place < table.size, table[place] = n
  | .error place => place ≤ table.size ∧ Window table n place place

variable {table : Array Nat}

theorem getElem_lt_getElem (hascends : table.toList.Pairwise (· < ·)) {i j : Nat} (hij : i < j)
    (hj : j < table.size) : table[i] < table[j] := by
  have h := List.pairwise_iff_getElem.1 hascends i j
    (by simpa using Nat.lt_trans hij hj) (by simpa using hj) hij
  simpa using h

/-- Each half that is given up holds nothing but other numbers. -/
theorem answers_searchBetween (hascends : table.toList.Pairwise (· < ·)) {n low high : Nat}
    (bound : high ≤ table.size) (hwindow : Window table n low high) :
    Answers table n (searchBetween table n low high bound) := by
  fun_induction searchBetween table n low high bound with
  | case1 low high bound hlt middle hmiddle hfound =>
      exact ⟨by omega, hfound⟩
  | case2 low high bound hlt middle hmiddle hother hless ih =>
      refine ih ⟨hmiddle, ?_, hwindow.above⟩
      intro i hi himiddle
      rcases Nat.lt_or_eq_of_le (Nat.le_of_lt_succ himiddle) with hbefore | rfl
      · exact Nat.lt_trans (getElem_lt_getElem hascends hbefore (by omega)) hless
      · exact hless
  | case3 low high bound hlt middle hmiddle hother hless ih =>
      have hgreater : n < table[middle] := by omega
      refine ih ⟨by omega, hwindow.below, ?_⟩
      intro i hi hmiddlei
      rcases Nat.lt_or_eq_of_le hmiddlei with hbehind | rfl
      · exact Nat.lt_trans hgreater (getElem_lt_getElem hascends hbehind hi)
      · exact hgreater
  | case4 low high bound hlt =>
      have hsame : high = low := Nat.le_antisymm (Nat.not_lt.1 hlt) hwindow.low_le
      subst hsame
      exact ⟨bound, hwindow⟩

theorem answers_search (hascends : table.toList.Pairwise (· < ·)) (n : Nat) :
    Answers table n (search table n) := by
  refine answers_searchBetween hascends _ ⟨Nat.zero_le _, ?_, ?_⟩
  · intro i _ hi
    exact absurd hi (Nat.not_lt_zero i)
  · intro i hi hsize
    exact absurd hi (Nat.not_lt.2 hsize)

/-- A place of the table tells how many numbers are in front of it. -/
theorem countP_eq_of_place {n place : Nat} (hplace : place ≤ table.size)
    (hfront : ∀ i (_ : i < table.size), i < place → table[i] ≤ n)
    (hback : ∀ i (_ : i < table.size), place ≤ i → n < table[i]) :
    table.toList.countP (· ≤ n) = place := by
  have htake : (table.toList.take place).countP (· ≤ n) = place := by
    have hlength : (table.toList.take place).length = place :=
      List.length_take_of_le hplace
    rw [List.countP_eq_length.2, hlength]
    intro m hm
    rcases List.mem_take_iff_getElem.1 hm with ⟨i, hi, rfl⟩
    rw [Nat.lt_min, Array.length_toList] at hi
    simpa using hfront i hi.2 hi.1
  have hdrop : (table.toList.drop place).countP (· ≤ n) = 0 := by
    rw [List.countP_eq_zero]
    intro m hm
    rcases List.mem_drop_iff_getElem.1 hm with ⟨i, hi, rfl⟩
    rw [Array.length_toList] at hi
    simpa using hback (place + i) (by omega) (Nat.le_add_right _ _)
  rw [← List.take_append_drop place table.toList, List.countP_append, htake, hdrop, Nat.add_zero]

/-! ## Texts between offsets -/

theorem indexOnto_append (passed : Nat) (front rest : List Char) :
    indexOnto passed (front ++ rest) (byteLength front) = some (passed + front.length) := by
  induction front generalizing passed with
  | nil =>
      cases rest <;> rfl
  | cons c front ih =>
      have hsize := c.utf8Size_pos
      rw [List.cons_append, byteLength_cons, indexOnto, if_neg (by omega), if_neg (by omega),
        Nat.add_sub_cancel_left, ih, List.length_cons]
      congr 1
      omega

/-- Only offsets between characters have an index. -/
theorem exists_of_indexOnto {passed offset index : Nat} {source : List Char}
    (h : indexOnto passed source offset = some index) :
    ∃ front rest, source = front ++ rest ∧ byteLength front = offset := by
  induction source generalizing passed offset with
  | nil =>
      rw [indexOnto] at h
      split at h
      · rename_i hoffset
        exact ⟨[], [], rfl, by rw [hoffset, byteLength_nil]⟩
      · cases h
  | cons c rest ih =>
      rw [indexOnto] at h
      split at h
      · rename_i hoffset
        exact ⟨[], _, rfl, by rw [hoffset, byteLength_nil]⟩
      · split at h
        · cases h
        · rcases ih h with ⟨front, back, rfl, hfront⟩
          refine ⟨c :: front, back, rfl, ?_⟩
          rw [byteLength_cons]
          omega

theorem slice?_append (front between rest : List Char) :
    slice? (front ++ (between ++ rest)) (byteLength front) (byteLength (front ++ between))
      = some between := by
  have hstop := indexOnto_append 0 (front ++ between) rest
  rw [List.append_assoc] at hstop
  rw [slice?, indexOnto_append, hstop]
  simp

theorem slice?_eq_none {source : List Char} {stop : Nat}
    (hinside : ∀ front rest, source = front ++ rest → byteLength front ≠ stop) (start : Nat) :
    slice? source start stop = none := by
  have hstop : indexOnto 0 source stop = none := by
    rw [Option.eq_none_iff_forall_ne_some]
    intro index hindex
    rcases exists_of_indexOnto hindex with ⟨front, rest, hsource, hfront⟩
    exact hinside front rest hsource hfront
  simp [slice?, hstop]

namespace Document

variable {document : Document}

/-! ## The table of lines -/

/-- The lines of the text. -/
def lines (document : Document) : List (List Char) := splitLines document.source.toList

theorem flatten_lines (document : Document) : document.lines.flatten = document.source.toList :=
  flatten_splitLines _

theorem toList_lineStarts (document : Document) :
    document.lineStarts.toList = startsFrom 0 document.source.toList := by
  rw [lineStarts, toList_lineStartsOnto, List.nil_append]

theorem ascends_lineStarts (document : Document) :
    document.lineStarts.toList.Pairwise (· < ·) := by
  rw [toList_lineStarts]
  exact pairwise_startsFrom 0 _

/-- The search finds as many line starts as there are up to the offset, whether it stands in the
table or not. -/
theorem lineAt_eq (document : Document) (offset : Nat) :
    document.lineAt offset = document.lineStarts.toList.countP (· ≤ offset) := by
  have hascends := document.ascends_lineStarts
  have hanswer := answers_search hascends offset
  rw [lineAt]
  cases hsearch : search document.lineStarts offset with
  | ok place =>
      rw [hsearch] at hanswer
      rcases hanswer with ⟨hplace, hfound⟩
      refine (countP_eq_of_place hplace ?_ ?_).symm
      · intro i _ hi
        rcases Nat.lt_or_eq_of_le (Nat.le_of_lt_succ hi) with hbefore | rfl
        · exact hfound ▸ Nat.le_of_lt (getElem_lt_getElem hascends hbefore hplace)
        · exact Nat.le_of_eq hfound
      · intro i hi hbehind
        exact hfound ▸ getElem_lt_getElem hascends hbehind hi
  | error place =>
      rw [hsearch] at hanswer
      rcases hanswer with ⟨hplace, hwindow⟩
      exact (countP_eq_of_place hplace (fun i h hi => Nat.le_of_lt (hwindow.below i h hi))
        hwindow.above).symm

theorem lineAt_lt (document : Document) (offset : Nat) :
    document.lineAt offset < document.lines.length := by
  rw [lineAt_eq, lines, length_splitLines, ← length_startsFrom 0, ← toList_lineStarts]
  exact Nat.lt_succ_of_le List.countP_le_length

theorem getElem?_lineStarts {number : Nat} (h : number + 1 < document.lines.length) :
    document.lineStarts[number]? = some (byteLength (document.lines.take (number + 1)).flatten) := by
  rw [lines, length_splitLines] at h
  rw [← Array.getElem?_toList, toList_lineStarts, getElem?_startsFrom (Nat.lt_of_succ_lt_succ h),
    Nat.zero_add]
  rfl

theorem getElem?_lineStarts_of_le {number : Nat} (h : document.lines.length ≤ number + 1) :
    document.lineStarts[number]? = none := by
  rw [lines, length_splitLines] at h
  rw [← Array.getElem?_toList, toList_lineStarts, List.getElem?_eq_none]
  rw [length_startsFrom]
  exact Nat.le_of_succ_le_succ h

/-- A line starts behind the lines in front of it. -/
theorem lineStart?_of_lt {number : Nat} (h : number < document.lines.length) :
    document.lineStart? number = some (byteLength (document.lines.take number).flatten) := by
  cases number with
  | zero =>
      rw [lineStart?, if_pos rfl, List.take_zero, List.flatten_nil, byteLength_nil]
  | succ number =>
      rw [lineStart?, if_neg (Nat.succ_ne_zero number), Nat.add_sub_cancel, getElem?_lineStarts h]

theorem lineStart?_of_le {number : Nat} (h : document.lines.length ≤ number) :
    document.lineStart? number = none := by
  cases number with
  | zero =>
      rw [lines, length_splitLines] at h
      exact absurd h (Nat.not_succ_le_zero _)
  | succ number =>
      rw [lineStart?, if_neg (Nat.succ_ne_zero number), Nat.add_sub_cancel,
        getElem?_lineStarts_of_le h]

/-- A line ends where the next one starts, and the last one where the text ends. -/
theorem lineStop_eq {number : Nat} (h : number < document.lines.length) :
    document.lineStarts[number]?.getD document.source.utf8ByteSize
      = byteLength (document.lines.take (number + 1)).flatten := by
  rcases Nat.lt_or_eq_of_le (Nat.succ_le_of_lt h) with hnext | hlast
  · rw [getElem?_lineStarts hnext]
    rfl
  · have hall : document.lines.take (number + 1) = document.lines :=
      List.take_of_length_le (Nat.le_of_eq hlast.symm)
    rw [getElem?_lineStarts_of_le (Nat.le_of_eq hlast.symm), hall, flatten_lines,
      byteLength_toList]
    rfl

/-! ## Lines -/

/-- What stands between two line starts is a line. -/
theorem line?_eq (document : Document) (number : Nat) :
    document.line? number = document.lines[number]? := by
  rcases Nat.lt_or_ge number document.lines.length with hlt | hle
  · have hline := List.getElem?_eq_getElem hlt
    have hsource := flatten_eq_of_getElem? hline
    rw [flatten_lines] at hsource
    have hstop : (document.lines.take (number + 1)).flatten
        = (document.lines.take number).flatten ++ document.lines[number] := by
      rw [List.take_succ_eq_append_getElem hlt, List.flatten_append, List.flatten_singleton]
    have hslice := slice?_append (document.lines.take number).flatten document.lines[number]
      (document.lines.drop (number + 1)).flatten
    rw [← hsource, ← hstop, ← lineStop_eq hlt] at hslice
    rw [line?, lineStart?_of_lt hlt, hline]
    exact hslice
  · rw [line?, lineStart?_of_le hle, List.getElem?_eq_none hle]
    rfl

/-! ## Positions -/

/-- The column that a walk to an offset ends in is the number of characters between the start of the
line and the offset. -/
theorem map_length_slice? {source : List Char} {stop : Nat} {p : Position}
    (hwalk : Position.first.ofOffset source stop = p) (hstop : stop ≤ byteLength source) :
    ((slice? source (byteLength ((splitLines source).take p.line).flatten) stop).map
      List.length).getD 0 = p.column := by
  by_cases hboundary : ∃ front rest, source = front ++ rest ∧ byteLength front = stop
  · rcases hboundary with ⟨front, rest, hsource, rfl⟩
    rcases Position.exists_marks front rest with ⟨q, line, hmarks⟩
    rw [hsource, Position.ofOffset_byteLength, Position.first, hmarks.foldl_advance 0,
      Nat.zero_add] at hwalk
    subst hwalk
    rw [← hsource] at hmarks
    -- The text in front of the offset ends with the characters of its line up to the column.
    have hlength : (line.take q.column).length = q.column :=
      List.length_take_of_le hmarks.column_le
    have hslice := slice?_append ((splitLines source).take q.line).flatten (line.take q.column) rest
    rw [← List.append_assoc, hmarks.front_eq, ← hsource] at hslice
    rw [hslice, Option.map_some, Option.getD_some, hlength]
  · -- Inside a character there is no text to count, and the walk stops in column zero.
    have hinside : ∀ front rest, source = front ++ rest → byteLength front ≠ stop :=
      fun front rest hsource hfront => hboundary ⟨front, rest, hsource, hfront⟩
    have hbefore : stop < byteLength source :=
      Nat.lt_of_le_of_ne hstop (hinside source [] (List.append_nil source).symm).symm
    rw [slice?_eq_none hinside, ← hwalk, Position.column_ofOffset hbefore hinside]
    rfl

/-- The table leads to the position that a walk over the text leads to. -/
theorem position_eq (document : Document) (offset : Nat) :
    document.position offset = Position.first.ofOffset document.source.toList offset := by
  -- Offsets past the end count as the end, on the walk and in the slice.
  have hstop : Position.first.ofOffset document.source.toList
      (min offset document.source.utf8ByteSize)
        = Position.first.ofOffset document.source.toList offset := by
    rw [← byteLength_toList, Position.ofOffset_min]
  have hline : document.lineAt offset
      = (Position.first.ofOffset document.source.toList offset).line := by
    rw [lineAt_eq, toList_lineStarts, Position.line_ofOffset _ _ 0, Position.first, Nat.zero_add,
      Nat.zero_add]
  have hcolumn := map_length_slice? hstop (byteLength_toList _ ▸ Nat.min_le_right _ _)
  rw [← hline] at hcolumn
  rw [position, lineStart?_of_lt (document.lineAt_lt offset), Option.getD_some, lines, hcolumn, hline]

end Document

end AccessorSynthesis
