import AccessorSynthesis.Proofs.Keyed
import AccessorSynthesis.Toml.Document

/-!
# Document — the keys of a document

The entries of a document are built up expression by expression.  A key is added only where it is
not there yet, so that the outermost table never holds a key twice (`nodup_keys_of_parse?`).
-/

namespace AccessorSynthesis
namespace Toml

/-- A change below a table keeps its keys distinct if it does so where it is made. -/
theorem nodup_keys_modifyAt {α : Type} {isDotted : Bool}
    {change : TableForm → Keyed Value → Option (α × Keyed Value)}
    (hchange : ∀ form entries result changed, change form entries = some (result, changed) →
      entries.keys.Nodup → changed.keys.Nodup)
    {path : List String} {form : TableForm} {entries changed : Keyed Value} {result : α}
    (h : modifyAt isDotted change path form entries = some (result, changed))
    (hentries : entries.keys.Nodup) : changed.keys.Nodup := by
  -- Below the first name of the path the table itself is not touched.
  cases path with
  | nil =>
      exact hchange form entries result changed h hentries
  | cons name path =>
      rw [modifyAt] at h
      split at h
      · rename_i habsent
        rcases Option.bind_eq_some_iff.1 h with ⟨⟨_, inner⟩, _, hmade⟩
        cases hmade
        exact Keyed.nodup_keys_append hentries habsent _
      · split at h
        · cases h
        · rcases Option.bind_eq_some_iff.1 h with ⟨⟨_, inner⟩, _, hmade⟩
          cases hmade
          exact Keyed.nodup_keys_put hentries _ _
      · rcases Option.bind_eq_some_iff.1 h with ⟨⟨_, inner⟩, _, hmade⟩
        cases hmade
        exact Keyed.nodup_keys_put hentries _ _
      · cases h

namespace Builder

variable {builder later : Builder}

/-- The keys of the outermost table are distinct, wherever the builder keeps it. -/
structure IsDistinct (builder : Builder) : Prop where
  root : builder.root.keys.Nodup
  current : builder.path = [] → builder.current.keys.Nodup

theorem isDistinct_start : start.IsDistinct :=
  ⟨List.nodup_nil, fun _ => List.nodup_nil⟩

theorem IsDistinct.finish (h : builder.IsDistinct) {root : Keyed Value}
    (hfinish : builder.finish = some root) : root.keys.Nodup := by
  rw [Builder.finish] at hfinish
  split at hfinish
  · rename_i hpath
    cases hfinish
    exact h.current (List.getLast?_eq_none_iff.1 hpath)
  · -- The table that was open is put in its place, as an element or under a name that is free.
    rename_i name _
    rcases Option.bind_eq_some_iff.1 hfinish with ⟨⟨_, placed⟩, hplaced, hmade⟩
    cases hmade
    refine nodup_keys_modifyAt ?_ hplaced h.root
    intro _ entries _ changed hplace hentries
    split at hplace
    · cases hplace
      exact Keyed.nodup_keys_put hentries _ _
    · rename_i habsent
      cases hplace
      exact Keyed.nodup_keys_append hentries habsent _
    · rename_i habsent
      cases hplace
      exact Keyed.nodup_keys_append hentries habsent _
    · cases hplace

theorem IsDistinct.open? (h : builder.IsDistinct) {isElement : Bool} {path : List String}
    (hopen : builder.open? isElement path = some later) : later.IsDistinct := by
  rcases Option.bind_eq_some_iff.1 hopen with ⟨root, hroot, hrest⟩
  rcases Option.bind_eq_some_iff.1 hrest with ⟨name, hname, hrest⟩
  rcases Option.bind_eq_some_iff.1 hrest with ⟨⟨current, opened⟩, hopened, hmade⟩
  cases hmade
  refine ⟨nodup_keys_modifyAt ?_ hopened (h.finish hroot), ?_⟩
  · intro _ entries _ changed htake hentries
    split at htake
    · cases htake
      exact hentries
    · cases htake
      exact hentries
    · cases htake
      exact Keyed.nodup_keys_erase hentries name
    · cases htake
  · -- A header names a table below the outermost one.
    rintro rfl
    cases hname

theorem IsDistinct.insert? (h : builder.IsDistinct) {key : List String} {value : Value}
    (hinsert : builder.insert? key value = some later) : later.IsDistinct := by
  rcases Option.bind_eq_some_iff.1 hinsert with ⟨name, _, hrest⟩
  rcases Option.bind_eq_some_iff.1 hrest with ⟨⟨_, current⟩, hcurrent, hmade⟩
  cases hmade
  refine ⟨h.root, fun hpath => nodup_keys_modifyAt ?_ hcurrent (h.current hpath)⟩
  intro form entries _ changed hput hentries
  split at hput
  · cases hput
  · rename_i habsent
    split at hput
    · cases hput
      exact Keyed.nodup_keys_append hentries habsent _
    · cases hput

theorem IsDistinct.step (h : builder.IsDistinct) {expression : Expression}
    (hstep : builder.step expression = some later) : later.IsDistinct := by
  cases expression with
  | entry key value =>
      exact h.insert? hstep
  | header isElement key =>
      exact h.open? hstep

theorem IsDistinct.foldlM (h : builder.IsDistinct) {expressions : List Expression}
    (hfold : expressions.foldlM Builder.step builder = some later) : later.IsDistinct := by
  induction expressions generalizing builder with
  | nil =>
      cases hfold
      exact h
  | cons expression expressions ih =>
      rw [List.foldlM_cons] at hfold
      rcases Option.bind_eq_some_iff.1 hfold with ⟨next, hnext, hrest⟩
      exact ih (h.step hnext) hrest

end Builder

theorem nodup_keys_of_parse? {document : String} {entries : Keyed Value}
    (h : parse? document = some entries) : entries.keys.Nodup := by
  rcases Option.bind_eq_some_iff.1 h with ⟨expressions, _, hrest⟩
  rcases Option.bind_eq_some_iff.1 hrest with ⟨builder, hbuilder, hfinish⟩
  exact (Builder.isDistinct_start.foldlM hbuilder).finish hfinish

end Toml
end AccessorSynthesis
