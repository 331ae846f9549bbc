import AccessorSynthesis.Keyed

/-!
# Keyed — what is found after an entry is added or replaced
-/

namespace AccessorSynthesis
namespace Keyed

variable {α : Type}

theorem lookup_cons_eq (entry : String × α) (entries : List (String × α)) (key : String) :
    (entry :: entries).lookup key = if key = entry.1 then some entry.2 else entries.lookup key := by
  rw [List.lookup_cons]
  by_cases hkey : key = entry.1
  · simp [hkey]
  · simp [hkey, beq_false_of_ne hkey]

theorem find?_append (keyed : Keyed α) (key : String) (value : α) (other : String) :
    (keyed.append key value).find? other
      = (keyed.find? other).or (if other = key then some value else none) := by
  unfold find? append
  rw [List.lookup_append, lookup_cons_eq]
  rfl

theorem find?_append_self {keyed : Keyed α} {key : String} (h : keyed.find? key = none) (value : α) :
    (keyed.append key value).find? key = some value := by
  rw [find?_append, h, if_pos rfl]
  rfl

theorem find?_append_of_ne {key other : String} (h : other ≠ key) (keyed : Keyed α) (value : α) :
    (keyed.append key value).find? other = keyed.find? other := by
  rw [find?_append, if_neg h, Option.or_none]

/-- Where a key already is, its value is replaced. -/
theorem lookup_replace (entries : List (String × α)) (key : String) (value : α) (other : String) :
    (entries.map fun entry => if entry.1 = key then (key, value) else entry).lookup other
      = if other = key then (entries.lookup key).map fun _ => value else entries.lookup other := by
  induction entries with
  | nil =>
      simp
  | cons entry entries ih =>
      rw [List.map_cons, lookup_cons_eq, ih, lookup_cons_eq, lookup_cons_eq]
      -- An entry keeps its key even where its value is replaced.
      by_cases hfound : entry.1 = key
      · by_cases hother : other = key
        · simp [hfound, hother]
        · simp [hfound, hother]
      · by_cases hother : other = key
        · simp [hfound, hother, Ne.symm hfound]
        · simp [hfound, hother]

theorem find?_put (keyed : Keyed α) (key : String) (value : α) (other : String) :
    (keyed.put key value).find? other = if other = key then some value else keyed.find? other := by
  unfold put
  cases hkey : keyed.find? key with
  | none =>
      rw [Option.isSome_none, if_neg Bool.false_ne_true]
      by_cases hother : other = key
      · rw [hother, if_pos rfl, find?_append_self hkey]
      · rw [if_neg hother, find?_append_of_ne hother]
  | some old =>
      unfold find? at hkey ⊢
      rw [Option.isSome_some, if_pos rfl, lookup_replace, hkey, Option.map_some]

/-! ## Keys -/

theorem mem_keys_iff {keyed : Keyed α} {key : String} :
    key ∈ keyed.keys ↔ (keyed.find? key).isSome = true := by
  unfold keys find?
  rw [List.mem_map, List.lookup_isSome_iff]
  constructor
  · rintro ⟨entry, hentry, rfl⟩
    exact ⟨entry, hentry, beq_self_eq_true entry.1⟩
  · rintro ⟨entry, hentry, hkey⟩
    exact ⟨entry, hentry, (beq_iff_eq.1 hkey).symm⟩

theorem entries_put_of_not_mem {keyed : Keyed α} {key : String} (h : key ∉ keyed.keys) (value : α) :
    (keyed.put key value).entries = keyed.entries ++ [(key, value)] := by
  unfold put
  rw [if_neg (mt mem_keys_iff.2 h)]
  rfl

/-- Replacing a value leaves the keys as they are, and a new key comes at the end. -/
theorem keys_put (keyed : Keyed α) (key : String) (value : α) :
    (keyed.put key value).keys = if key ∈ keyed.keys then keyed.keys else keyed.keys ++ [key] := by
  by_cases hkey : key ∈ keyed.keys
  · rw [if_pos hkey]
    unfold put keys
    rw [if_pos (mem_keys_iff.1 hkey), List.map_map]
    apply List.map_congr_left
    intro entry _
    by_cases hentry : entry.1 = key
    · simp [hentry]
    · simp [hentry]
  · rw [if_neg hkey]
    unfold keys
    rw [entries_put_of_not_mem hkey value, List.map_append]
    rfl

/-- Of keys that are put one after the other, each is listed where it is met first. -/
theorem keys_put_append (keyed : Keyed α) (key : String) (value : α) (later : List String) :
    (keyed.put key value).keys ++ (later.removeAll (keyed.put key value).keys).eraseDups
      = keyed.keys ++ ((key :: later).removeAll keyed.keys).eraseDups := by
  rw [keys_put]
  by_cases hkey : key ∈ keyed.keys
  · simp [List.removeAll, hkey]
  · have hlater : later.filter (fun other => !decide (other ∈ keyed.keys) && !decide (other = key))
        = later.filter fun other => !(other == key) && !decide (other ∈ keyed.keys) :=
      List.filter_congr fun other _ => Bool.and_comm ..
    simp [List.removeAll, hkey, List.eraseDups_cons, List.filter_filter, hlater]

/-! ## Distinct keys -/

theorem nodup_keys_put {keyed : Keyed α} (h : keyed.keys.Nodup) (key : String) (value : α) :
    (keyed.put key value).keys.Nodup := by
  rw [keys_put]
  split
  · exact h
  · rename_i hkey
    have hother : ∀ other ∈ keyed.keys, other ≠ key := by
      intro other hmem hsame
      exact hkey (hsame ▸ hmem)
    simpa [List.nodup_append, h] using hother

theorem nodup_keys_append {keyed : Keyed α} (h : keyed.keys.Nodup) {key : String}
    (habsent : keyed.find? key = none) (value : α) : (keyed.append key value).keys.Nodup := by
  have hput := nodup_keys_put h key value
  rwa [put, habsent, Option.isSome_none, if_neg Bool.false_ne_true] at hput

theorem nodup_keys_erase {keyed : Keyed α} (h : keyed.keys.Nodup) (key : String) :
    (keyed.erase key).keys.Nodup :=
  h.sublist (List.filter_sublist.map Prod.fst)

theorem lookup_eq_none_of_not_mem {entries : List (String × α)} {key : String}
    (h : key ∉ entries.map Prod.fst) : entries.lookup key = none := by
  rw [List.lookup_eq_none_iff]
  intro other hother
  have hne : key ≠ other.1 := fun hsame => h (List.mem_map.2 ⟨other, hother, hsame.symm⟩)
  simpa using hne

/-- Under distinct keys, what is found under a key are its entries. -/
theorem lookup_eq_some_iff_mem {entries : List (String × α)} (h : (entries.map Prod.fst).Nodup)
    {key : String} {value : α} : entries.lookup key = some value ↔ (key, value) ∈ entries := by
  induction entries with
  | nil =>
      simp
  | cons entry entries ih =>
      rw [List.map_cons, List.nodup_cons] at h
      rw [lookup_cons_eq, List.mem_cons]
      by_cases hkey : key = entry.1
      · subst hkey
        have habsent : (entry.1, value) ∉ entries := fun hmem =>
          h.1 (List.mem_map.2 ⟨_, hmem, rfl⟩)
        simp [habsent, Prod.ext_iff, eq_comm]
      · rw [if_neg hkey, ih h.2]
        simp [Prod.ext_iff, hkey]

/-- What is found under distinct keys does not depend on their order. -/
theorem lookup_perm {entries others : List (String × α)} (h : (entries.map Prod.fst).Nodup)
    (hperm : others.Perm entries) (key : String) : others.lookup key = entries.lookup key := by
  have hothers : (others.map Prod.fst).Nodup := (hperm.map Prod.fst).nodup_iff.2 h
  apply Option.ext
  intro value
  rw [lookup_eq_some_iff_mem hothers, lookup_eq_some_iff_mem h]
  exact hperm.mem_iff

end Keyed
end AccessorSynthesis
