import AccessorSynthesis.Proofs.Compilation.Repetition

/-!
# Resolution — what all visits of a compilation come to

Only the extension that makes accessors is installed here, and the table has no accessors yet.  Then
the first visit of a declaration decides about it, from the table at the start.  This file defines

* `Table.IsFresh table name` — nothing was decided yet, and no member of that name was generated;
* `Configuration.Settled config start id declaration table` — what the decision has left in `table`;
* `Configuration.finding? config start id` — what the decision says;
* `Configuration.Progress config start done table` — exactly the declarations `done` were visited.

`resolved` describes the table and the findings after one or more visits of all declarations.
-/

namespace AccessorSynthesis

/-! ## Decisions -/

namespace Table

variable {table : Table} {id : DeclarationId} {declaration : Declaration}

/-- Nothing was decided yet, and no member of that name was generated. -/
structure IsFresh (table : Table) (name : String) : Prop where
  accessor? : ∀ id, table.accessor? id = none
  isRejected : ∀ id, table.isRejected id = false
  declared : ∀ id declaration, table.get? id = some declaration →
    declaration.isGenerated name = false

theorem IsFresh.unsettled {name : String} (h : table.IsFresh name)
    (hget : table.get? id = some declaration) : table.Unsettled id declaration :=
  ⟨hget, h.accessor? id, h.isRejected id⟩

/-- The table of declarations about which nothing was said yet. -/
def ofList (declarations : List Declaration) : Table := ⟨declarations.toArray, ∅, ∅⟩

theorem isFresh_ofList {declarations : List Declaration} {name : String}
    (h : ∀ declaration ∈ declarations, declaration.isGenerated name = false) :
    (ofList declarations).IsFresh name where
  accessor? := fun _ => Std.ExtTreeMap.getElem?_empty
  isRejected := fun _ => decide_eq_false Std.ExtTreeSet.not_mem_empty
  declared := by
    intro id declaration hget
    have hmem : declaration ∈ declarations.toArray := Array.mem_of_getElem? hget
    exact h declaration (List.mem_toArray.1 hmem)

end Table

namespace Configuration

variable {config : Configuration} {start table later : Table} {id : DeclarationId}
variable {declaration : Declaration} {found : List Message} {done : List DeclarationId}

/-- What the decision about a declaration has left in the table. -/
inductive Settled (config : Configuration) (start : Table) (id : DeclarationId)
    (declaration : Declaration) (table : Table) : Prop where
  | unmarked (hmark : ¬start.Inherits id config.mark) (hsame : start.SameAt table id)
  | refused (hmark : start.Inherits id config.mark)
      (hunfit : ¬(¬declaration.shape.IsRestricted ∧
        declaration.members.find? config.accessorName = none))
      (hget : table.get? id = some declaration) (hnone : table.accessor? id = none)
      (hrejected : table.isRejected id = true)
  | granted (hmark : start.Inherits id config.mark)
      (hshape : ¬declaration.shape.IsRestricted)
      (hfree : declaration.members.find? config.accessorName = none)
      (hget : table.get? id = some (declaration.withAccessor (config.accessorOf id declaration)))
      (haccessor : table.accessor? id = some (config.accessorOf id declaration))

/-- What a visit of an undecided declaration finds. -/
def finding? (config : Configuration) (start : Table) (id : DeclarationId) : Option Diagnostic :=
  match start.get? id with
  | none => none
  | some declaration =>
      if ¬start.Inherits id config.mark then none
      else if declaration.shape.IsRestricted then
        some ⟨.unsupportedShape config.mark.simpleName, declaration.span⟩
      else if (declaration.members.find? config.accessorName).isSome then
        some ⟨.nameTaken config.accessorName, declaration.span⟩
      else none

/-- Exactly the declarations `done` were visited, all of which were undecided before. -/
structure Progress (config : Configuration) (start : Table) (done : List DeclarationId)
    (table : Table) : Prop where
  untouched : ∀ id, id ∉ done → start.SameAt table id
  settled : ∀ id ∈ done, ∃ declaration, start.Unsettled id declaration ∧
    config.Settled start id declaration table

theorem Settled.of_sameAt (h : config.Settled start id declaration table)
    (hsame : table.SameAt later id) : config.Settled start id declaration later := by
  cases h with
  | unmarked hmark hstart =>
      exact .unmarked hmark (hstart.trans hsame)
  | refused hmark hunfit hget hnone hrejected =>
      exact .refused hmark hunfit (hsame.get?.trans hget) (hsame.accessor?.trans hnone)
        (hsame.isRejected.trans hrejected)
  | granted hmark hshape hfree hget haccessor =>
      exact .granted hmark hshape hfree (hsame.get?.trans hget) (hsame.accessor?.trans haccessor)

theorem Settled.exists_get? (h : config.Settled start id declaration table)
    (hstart : start.get? id = some declaration) :
    ∃ found, table.get? id = some found ∧ found.header = declaration.header := by
  cases h with
  | unmarked hmark hsame =>
      exact ⟨declaration, hsame.get?.trans hstart, rfl⟩
  | refused hmark hunfit hget hnone hrejected =>
      exact ⟨declaration, hget, rfl⟩
  | granted hmark hshape hfree hget haccessor =>
      exact ⟨_, hget, rfl⟩

namespace Progress

theorem nil (config : Configuration) (start : Table) : config.Progress start [] start where
  untouched := fun id _ => Table.SameAt.refl start id
  settled := by
    intro id hid
    cases hid

theorem sameHeaders (h : config.Progress start done table) : start.SameHeaders table := by
  intro id
  by_cases hid : id ∈ done
  · rcases h.settled id hid with ⟨declaration, hunsettled, hsettled⟩
    rcases hsettled.exists_get? hunsettled.get? with ⟨found, hfound, hheader⟩
    rw [hfound, hunsettled.get?]
    exact congrArg some hheader
  · rw [(h.untouched id hid).get?]

theorem inherits_iff {mark : QualifiedName} (h : config.Progress start done table) :
    table.Inherits id mark ↔ start.Inherits id mark :=
  h.sameHeaders.inherits_iff

/-- The first visit decides, and it finds what the table at the start says. -/
theorem first (h : config.Progress start done table) (henabled : config.enabled = true)
    (hid : id ∉ done) (hunsettled : start.Unsettled id declaration)
    (hvisited : config.Visited table id later found) :
    config.Settled start id declaration later ∧
      found = ((config.finding? start id).toList.map Diagnostic.message) := by
  have hsame := h.untouched id hid
  -- Visits of other declarations added members at most, so that the annotation is inherited in this
  -- table exactly if it was at the start.
  have hstill : table.Unsettled id declaration :=
    ⟨hsame.get?.trans hunsettled.get?, hsame.accessor?.trans hunsettled.accessor?,
      hsame.isRejected.trans hunsettled.isRejected⟩
  unfold finding?
  rw [hunsettled.get?]
  cases hvisited with
  | passed hsettled =>
      exact absurd hstill (hsettled henabled declaration)
  | unmarked other hother hmark =>
      have hmark' : ¬start.Inherits id config.mark := fun hm => hmark (h.inherits_iff.2 hm)
      refine ⟨.unmarked hmark' hsame, ?_⟩
      simp [hmark']
  | unsupported other hother hmark hshape =>
      cases hstill.unique hother
      have hmark' := h.inherits_iff.1 hmark
      refine ⟨.refused hmark' ?_ hstill.get? hstill.accessor? (table.isRejected_reject_self id), ?_⟩
      · simp [hshape]
      · simp [hmark', hshape]
  | nameTaken other member hother hmark hshape hmember =>
      cases hstill.unique hother
      have hmark' := h.inherits_iff.1 hmark
      refine ⟨.refused hmark' ?_ hstill.get? hstill.accessor? (table.isRejected_reject_self id), ?_⟩
      · simp [hmember]
      · simp [hmark', hshape, hmember]
  | granted other later hother hmark hshape hfree hlater =>
      cases hstill.unique hother
      have hmark' := h.inherits_iff.1 hmark
      refine ⟨.granted hmark' hshape hfree hlater.get?_owner hlater.accessor?_owner, ?_⟩
      simp [hmark', hshape, hfree]

/-- The first visit leaves nothing to decide. -/
theorem decided (h : config.Progress start done table) (hid : id ∈ done) :
    config.Decided table id := by
  intro other hother hmark
  rcases h.settled id hid with ⟨declaration, hunsettled, hsettled⟩
  cases hsettled with
  | unmarked hnot hsame =>
      exact hnot (h.inherits_iff.1 hmark)
  | refused hmark' hunfit hget hnone hrejected =>
      rw [hother.isRejected] at hrejected
      cases hrejected
  | granted hmark' hshape hfree hget haccessor =>
      rw [hother.accessor?] at haccessor
      cases haccessor

theorem snoc (h : config.Progress start done table) (henabled : config.enabled = true)
    (hid : id ∉ done) (hunsettled : start.Unsettled id declaration)
    (hvisited : config.Visited table id later found) :
    config.Progress start (done ++ [id]) later where
  untouched := by
    intro other hother
    have hdone : other ∉ done := fun hmem => hother (List.mem_append_left [id] hmem)
    have hne : other ≠ id := by
      rintro rfl
      exact hother (List.mem_append_right done (List.mem_singleton_self other))
    exact (h.untouched other hdone).trans (hvisited.sameAt hne)
  settled := by
    intro other hother
    -- Earlier decisions stand, since a visit concerns the visited declaration alone.
    rcases List.mem_append.1 hother with hdone | hlast
    · have hne : other ≠ id := by
        rintro rfl
        exact hid hdone
      rcases h.settled other hdone with ⟨declaration', hunsettled', hsettled'⟩
      exact ⟨declaration', hunsettled', hsettled'.of_sameAt (hvisited.sameAt hne)⟩
    · cases List.mem_singleton.1 hlast
      exact ⟨declaration, hunsettled, (h.first henabled hid hunsettled hvisited).1⟩

end Progress

/-! ## Whole runs -/

/-- The registry in which the extensions that make accessors are the only ones. -/
def registry (config : Configuration) : Registry := ⟨[config.resolveExtension], [config.emit]⟩

theorem install_empty (henabled : config.enabled = true) :
    (config.install .empty).1 = config.registry := by
  unfold install
  rw [henabled]
  rfl

theorem visitAll_registry (config : Configuration) (resolution : Resolution) (id : DeclarationId) :
    resolution.visitAll config.registry id = ⟨(config.synthesize resolution.table id).table,
      resolution.events ++ (config.synthesize resolution.table id).events⟩ := rfl

/-- What the first visits of declarations report. -/
def report (config : Configuration) (start : Table) (ids : List DeclarationId) : List Message :=
  (ids.filterMap (config.finding? start)).map Diagnostic.message

theorem report_cons (config : Configuration) (start : Table) (id : DeclarationId)
    (ids : List DeclarationId) :
    config.report start (id :: ids)
      = (config.finding? start id).toList.map Diagnostic.message ++ config.report start ids := by
  unfold report
  rw [List.filterMap_cons]
  cases config.finding? start id with
  | none =>
      rfl
  | some diagnostic =>
      rfl

theorem progress_pass (henabled : config.enabled = true) {ids : List DeclarationId}
    (hnodup : ids.Nodup)
    (hids : ∀ id ∈ ids, id ∉ done ∧ ∃ declaration, start.Unsettled id declaration)
    (resolution : Resolution) (h : config.Progress start done resolution.table) :
    config.Progress start (done ++ ids) (resolution.pass config.registry ids).table ∧
      Event.findings (resolution.pass config.registry ids).events
        = Event.findings resolution.events ++ config.report start ids := by
  -- The numbers are distinct, so that each visit of the pass is the first one of its declaration.
  induction ids generalizing done resolution with
  | nil =>
      rw [List.append_nil]
      exact ⟨h, (List.append_nil _).symm⟩
  | cons id ids ih =>
      rcases hids id List.mem_cons_self with ⟨hid, declaration, hunsettled⟩
      rcases List.nodup_cons.1 hnodup with ⟨hnew, hnodup'⟩
      have hvisited := config.visited_synthesize resolution.table id
      have hnext : config.Progress start (done ++ [id])
          (resolution.visitAll config.registry id).table :=
        h.snoc henabled hid hunsettled hvisited
      have hfound := (h.first henabled hid hunsettled hvisited).2
      have hids' : ∀ other ∈ ids,
          other ∉ done ++ [id] ∧ ∃ declaration, start.Unsettled other declaration := by
        intro other hother
        rcases hids other (List.mem_cons_of_mem id hother) with ⟨hdone, hexists⟩
        refine ⟨?_, hexists⟩
        intro hmem
        rcases List.mem_append.1 hmem with hmem | hmem
        · exact hdone hmem
        · cases List.mem_singleton.1 hmem
          exact hnew hother
      rcases ih hnodup' hids' (resolution.visitAll config.registry id) hnext with
        ⟨hprogress, hfindings⟩
      rw [List.append_assoc] at hprogress
      refine ⟨hprogress, ?_⟩
      calc
        Event.findings (resolution.pass config.registry (id :: ids)).events
            = Event.findings (resolution.visitAll config.registry id).events
                ++ config.report start ids := hfindings
        _ = Event.findings resolution.events
                ++ (config.finding? start id).toList.map Diagnostic.message
                ++ config.report start ids := by
              rw [visitAll_registry, Event.findings_append, hfound]
        _ = Event.findings resolution.events ++ config.report start (id :: ids) := by
              rw [report_cons, List.append_assoc]

/-- One pass over the compiled declarations decides about each of them, and further passes add
nothing to the table or to the findings. -/
theorem resolved (henabled : config.enabled = true) (hfresh : start.IsFresh config.accessorName)
    {passes : Nat} (hpasses : 1 ≤ passes) :
    config.Progress start (start.compiled.map Prod.fst)
        (start.resolve (config.install .empty).1 passes).table ∧
      Event.findings (start.resolve (config.install .empty).1 passes).events
        = config.report start (start.compiled.map Prod.fst) := by
  -- The first pass decides about everything, the further ones about nothing.
  rcases Nat.exists_eq_add_of_le' hpasses with ⟨further, rfl⟩
  rw [install_empty henabled]
  have hnodup : (start.compiled.map Prod.fst).Nodup :=
    (List.pairwise_map.2 start.pairwise_compiled).imp Nat.ne_of_lt
  have hids : ∀ id ∈ start.compiled.map Prod.fst,
      id ∉ [] ∧ ∃ declaration, start.Unsettled id declaration := by
    intro id hid
    rcases List.mem_map.1 hid with ⟨⟨id', declaration⟩, hmem, rfl⟩
    exact ⟨List.not_mem_nil, declaration, hfresh.unsettled (Table.mem_compiled_iff.1 hmem).1⟩
  rcases progress_pass henabled hnodup hids ⟨start, []⟩ (.nil config start) with
    ⟨hprogress, hfindings⟩
  rw [List.nil_append] at hprogress
  have hresolve : start.resolve config.registry (further + 1)
      = (Resolution.pass ⟨start, []⟩ config.registry (start.compiled.map Prod.fst)).passes
          config.registry (start.compiled.map Prod.fst) further := rfl
  have hdecided : ∀ id ∈ start.compiled.map Prod.fst, ∀ other ∈ [config], other.Decided
      (Resolution.pass ⟨start, []⟩ config.registry (start.compiled.map Prod.fst)).table id := by
    intro id hid other hother
    rw [List.mem_singleton.1 hother]
    exact hprogress.decided hid
  have hregistry : config.registry.resolve = [config].map Configuration.resolveExtension := rfl
  have hlater := Resolution.passes_compiled_of_decided hregistry (by simpa using henabled)
    hprogress.sameHeaders hdecided
    (Resolution.pass ⟨start, []⟩ config.registry (start.compiled.map Prod.fst)).events further
  rw [hresolve, hlater]
  refine ⟨hprogress, ?_⟩
  rw [Event.findings_append, Table.findings_replicate_remarks, List.append_nil]
  exact hfindings

end Configuration

end AccessorSynthesis
