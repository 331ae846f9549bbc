import AccessorSynthesis.Proofs.Synthesis.Visit

/-!
# Literal — what the accessor of a declaration is to return

The text comes from the declaration alone: from its annotation, if this gives one, and else from its
name.  This file defines

* `QualifiedName.EndsIn name last` — `last` is what follows the last dot;
* `Declaration.Overrides declaration mark key text` — the annotation gives the text under the key;
* `Configuration.IsAnswer config declaration text` — the accessor of the declaration is to return the
  text.

What `Configuration.literal` computes is the only answer (`Configuration.isAnswer_iff`).
-/

namespace AccessorSynthesis

/-! ## Simple names -/

/-- The text has no dots and is the whole name, or all that follows one of its dots. -/
structure QualifiedName.EndsIn (name : QualifiedName) (last : String) : Prop where
  noDot : '.' ∉ last.toList
  whole : name.text = last ∨ ∃ package, name.text = package ++ "." ++ last

namespace QualifiedName

variable {name : QualifiedName} {last : String}

/-- Without a package, the simple name is all there is. -/
theorem simpleName_of_package?_eq_none (h : name.package? = none) : name.text = name.simpleName := by
  have hdropped : name.text.toList.reverse.dropWhile (· != '.') = [] := by
    unfold package? at h
    split at h
    · assumption
    · cases h
  have htaken := List.takeWhile_append_dropWhile (p := (· != '.')) (l := name.text.toList.reverse)
  rw [hdropped, List.append_nil] at htaken
  rw [simpleName, htaken, List.reverse_reverse, String.ofList_toList]

theorem endsIn_simpleName (name : QualifiedName) : name.EndsIn name.simpleName where
  noDot := by
    intro hdot
    rw [simpleName, String.toList_ofList, List.mem_reverse] at hdot
    simpa using List.all_eq_true.1 List.all_takeWhile '.' hdot
  whole := by
    cases hpackage : name.package? with
    | some package =>
        exact Or.inr ⟨package, package?_eq_some hpackage⟩
    | none =>
        exact Or.inl (simpleName_of_package?_eq_none hpackage)

/-- Behind the last dot there is only one text. -/
theorem EndsIn.eq_simpleName (h : name.EndsIn last) : last = name.simpleName := by
  have hkept : ∀ c ∈ last.toList.reverse, (c != '.') = true := by
    intro c hc
    simpa using fun hdot : c = '.' => h.noDot (hdot ▸ List.mem_reverse.1 hc)
  -- Read from its end, the name has the text and then nothing more, or a dot.
  have hreverse : ∃ rest, name.text.toList.reverse = last.toList.reverse ++ rest ∧
      rest.takeWhile (· != '.') = [] := by
    rcases h.whole with htext | ⟨package, htext⟩
    · exact ⟨[], by rw [htext, List.append_nil], rfl⟩
    · exact ⟨'.' :: package.toList.reverse, by simp [htext], by simp⟩
  rcases hreverse with ⟨rest, hrest, hstop⟩
  rw [simpleName, hrest, List.takeWhile_append_of_pos hkept, hstop, List.append_nil,
    List.reverse_reverse, String.ofList_toList]

end QualifiedName

/-! ## Overrides -/

theorem Mark.argument?_eq_some_iff {given : Mark} {key : String} {value : ArgumentValue} :
    given.argument? key = some value ↔
      ∃ before after, given.arguments.entries = before ++ (key, value) :: after ∧
        ∀ entry ∈ before, entry.1 ≠ key := by
  unfold argument? Keyed.find?
  rw [List.lookup_eq_some_iff]
  simp only [bne_iff_ne, ne_comm]

/-- The first annotation of the name has the text as its first argument under the key. -/
def Declaration.Overrides (declaration : Declaration) (mark : QualifiedName) (key text : String) :
    Prop :=
  ∃ front given back before after,
    declaration.marks = front ++ given :: back ∧ given.name = mark ∧
      (∀ other ∈ front, other.name ≠ mark) ∧
    given.arguments.entries = before ++ (key, .text text) :: after ∧
      ∀ entry ∈ before, entry.1 ≠ key

namespace Declaration

variable {declaration : Declaration} {mark : QualifiedName} {key text : String}

theorem mark?_eq_some_iff {given : Mark} : declaration.mark? mark = some given ↔
    ∃ front back, declaration.marks = front ++ given :: back ∧ given.name = mark ∧
      ∀ other ∈ front, other.name ≠ mark := by
  unfold mark?
  rw [List.find?_eq_some_iff_append, decide_eq_true_iff]
  constructor
  · rintro ⟨hname, front, back, hmarks, hfront⟩
    exact ⟨front, back, hmarks, hname, fun other hother => by simpa using hfront other hother⟩
  · rintro ⟨front, back, hmarks, hname, hfront⟩
    exact ⟨hname, front, back, hmarks, fun other hother => by simpa using hfront other hother⟩

theorem override?_eq_some_iff :
    declaration.override? mark key = some text ↔ declaration.Overrides mark key text := by
  have hargument : declaration.override? mark key = some text ↔
      declaration.argument? mark key = some (.text text) := by
    unfold override?
    split
    · rename_i value hvalue
      simp [hvalue]
    · rename_i hother
      constructor
      · intro h
        cases h
      · intro h
        exact absurd h (hother text)
  rw [hargument, argument?, Option.bind_eq_some_iff]
  constructor
  · rintro ⟨given, hgiven, hvalue⟩
    rcases mark?_eq_some_iff.1 hgiven with ⟨front, back, hmarks, hname, hfront⟩
    rcases Mark.argument?_eq_some_iff.1 hvalue with ⟨before, after, hentries, hbefore⟩
    exact ⟨front, given, back, before, after, hmarks, hname, hfront, hentries, hbefore⟩
  · rintro ⟨front, given, back, before, after, hmarks, hname, hfront, hentries, hbefore⟩
    exact ⟨given, mark?_eq_some_iff.2 ⟨front, back, hmarks, hname, hfront⟩,
      Mark.argument?_eq_some_iff.2 ⟨before, after, hentries, hbefore⟩⟩

end Declaration

/-! ## Answers -/

/-- What the accessor of a declaration is to return: the text that its own annotation gives, or else
its own simple name. -/
inductive Configuration.IsAnswer (config : Configuration) (declaration : Declaration) :
    String → Prop where
  | override {text : String} (h : declaration.Overrides config.mark config.overrideKey text) :
      IsAnswer config declaration text
  | simpleName {text : String}
      (hnone : ∀ other, ¬declaration.Overrides config.mark config.overrideKey other)
      (h : declaration.name.EndsIn text) : IsAnswer config declaration text

theorem Configuration.isAnswer_iff {config : Configuration} {declaration : Declaration}
    {text : String} : config.IsAnswer declaration text ↔ text = config.literal declaration := by
  unfold literal
  constructor
  · intro h
    cases h with
    | override hoverrides =>
        rw [Declaration.override?_eq_some_iff.2 hoverrides]
        rfl
    | simpleName hnone hends =>
        have hoverride : declaration.override? config.mark config.overrideKey = none :=
          Option.eq_none_iff_forall_ne_some.2 fun other hother =>
            hnone other (Declaration.override?_eq_some_iff.1 hother)
        rw [hoverride]
        exact hends.eq_simpleName
  · rintro rfl
    cases hoverride : declaration.override? config.mark config.overrideKey with
    | some text =>
        exact .override (Declaration.override?_eq_some_iff.1 hoverride)
    | none =>
        refine .simpleName (fun other hother => ?_) declaration.name.endsIn_simpleName
        rw [Declaration.override?_eq_some_iff.2 hother] at hoverride
        cases hoverride

end AccessorSynthesis
