import AccessorSynthesis.Proofs.ClassFile.Update

/-!
# ConstantPool — stable indices and bounded growth

Indices that a class file keeps stay meaningful because a pool only ever grows at its end.  This
file defines

* `Extends pool later` — the entries of `pool` are the first ones of `later`;
* `Grows pool later most texts` — `later` extends `pool` by at most `most` entries, and its new
  text entries are among `texts`;
* `Achieves change pool most texts post` — `change` takes `pool` to one that it grows to, and ends
  in `post` unless the room runs out.

`Achieves` is what every adding function is specified with; `Achieves.bind` follows a `do` block.
-/

namespace AccessorSynthesis
namespace ClassFile
namespace ConstantPool

variable {pool later last : ConstantPool} {index : UInt16} {constant : Constant}

instance : Membership Constant ConstantPool := ⟨fun pool constant => constant ∈ pool.entries⟩

instance : Decidable (constant ∈ pool) := inferInstanceAs (Decidable (constant ∈ pool.entries))

theorem mem_def : constant ∈ pool ↔ constant ∈ pool.entries := Iff.rfl

/-! ## Entries and indices -/

theorem getElem?_eq_getElem?_iff {first second : Nat} (h : pool.entries[first]? = some constant) :
    pool.entries[second]? = some constant ↔ second = first := by
  constructor
  · intro hsecond
    have hpos := (pool.position_iff constant first).2 h
    have hpos' := (pool.position_iff constant second).2 hsecond
    rw [hpos] at hpos'
    exact (Option.some.inj hpos').symm
  · rintro rfl
    exact h

theorem nodup_entries (pool : ConstantPool) : pool.entries.toList.Nodup := by
  have hat : ∀ (position : Nat) (h : position < pool.entries.toList.length),
      pool.entries[position]? = some pool.entries.toList[position] := by
    intro position h
    rw [← Array.getElem?_toList]
    exact List.getElem?_eq_getElem h
  refine List.pairwise_iff_getElem.2 ?_
  intro first second hfirst hsecond hlt hequal
  have hsecond' := hat second hsecond
  rw [← hequal] at hsecond'
  have hsame : second = first := (getElem?_eq_getElem?_iff (hat first hfirst)).1 hsecond'
  omega

theorem positions_eq_none_iff : pool.positions[constant]? = none ↔ constant ∉ pool := by
  rw [Option.eq_none_iff_forall_ne_some, mem_def, Array.mem_iff_getElem?]
  constructor
  · rintro habsent ⟨position, hposition⟩
    exact habsent position ((pool.position_iff constant position).2 hposition)
  · intro habsent position hposition
    exact habsent ⟨position, (pool.position_iff constant position).1 hposition⟩

/-- The map of positions follows from the entries. -/
theorem eq_of_entries_eq (h : pool.entries = later.entries) : pool = later := by
  have hpositions : pool.positions = later.positions := by
    apply Std.ExtTreeMap.ext_getElem?
    intro constant
    apply Option.ext
    intro position
    rw [pool.position_iff, later.position_iff, h]
  cases pool
  cases later
  subst h
  cases hpositions
  rfl

theorem toNat_indexOf {position : Nat} (h : position < capacity) :
    (indexOf position).toNat = position + 1 := by
  unfold capacity at h
  rw [indexOf, UInt16.toNat_ofNat']
  omega

theorem get?_indexOf {position : Nat} (h : position < capacity) :
    pool.get? (indexOf position) = pool.entries[position]? := by
  simp [get?, toNat_indexOf h]

theorem lt_capacity_of_getElem? {position : Nat} (h : pool.entries[position]? = some constant) :
    position < capacity := by
  have hlt : position < pool.entries.size := (Array.getElem?_eq_some_iff.1 h).1
  exact Nat.lt_of_lt_of_le hlt pool.size_le

theorem get?_eq_some_iff :
    pool.get? index = some constant ↔
      ∃ position, pool.entries[position]? = some constant ∧ index = indexOf position := by
  constructor
  · intro h
    unfold get? at h
    split at h
    · cases h
    · rename_i hzero
      refine ⟨index.toNat - 1, h, ?_⟩
      have hsum : index.toNat - 1 + 1 = index.toNat := by omega
      rw [indexOf, hsum, UInt16.ofNat_toNat]
  · rintro ⟨position, hposition, rfl⟩
    rw [get?_indexOf (lt_capacity_of_getElem? hposition), hposition]

theorem mem_of_get? (h : pool.get? index = some constant) : constant ∈ pool := by
  rcases get?_eq_some_iff.1 h with ⟨position, hposition, _⟩
  exact Array.mem_of_getElem? hposition

theorem exists_get?_of_mem (h : constant ∈ pool) : ∃ index, pool.get? index = some constant := by
  rcases Array.mem_iff_getElem?.1 (mem_def.1 h) with ⟨position, hposition⟩
  exact ⟨indexOf position, get?_eq_some_iff.2 ⟨position, hposition, rfl⟩⟩

theorem utf8At?_eq_some_iff {text : String} :
    pool.utf8At? index = some text ↔ pool.get? index = some (.utf8 text) := by
  unfold utf8At?
  split <;> simp_all

theorem classNameAt?_eq_some_iff {name : String} :
    pool.classNameAt? index = some name ↔
      ∃ text, pool.get? index = some (.className text) ∧ pool.utf8At? text = some name := by
  unfold classNameAt?
  split <;> simp_all

theorem stringAt?_eq_some_iff {text : String} :
    pool.stringAt? index = some text ↔
      ∃ entry, pool.get? index = some (.stringLiteral entry) ∧ pool.utf8At? entry = some text := by
  unfold stringAt?
  split <;> simp_all

theorem methodRefAt?_eq_some_iff {method : MethodRef} :
    pool.methodRefAt? index = some method ↔
      ∃ owner nameAndType name descriptor,
        pool.get? index = some (.methodRef owner nameAndType) ∧
        pool.get? nameAndType = some (.nameAndType name descriptor) ∧
        pool.classNameAt? owner = some method.owner ∧
        pool.utf8At? name = some method.name ∧
        pool.utf8At? descriptor = some method.descriptor := by
  unfold methodRefAt?
  constructor
  · intro h
    split at h
    · rename_i owner nameAndType hmethod
      split at h
      · rename_i name descriptor hpair
        simp only [Option.bind_eq_bind, Option.bind_eq_some_iff] at h
        rcases h with ⟨ownerName, howner, nameText, hname, descriptorText, hdescriptor, hmade⟩
        cases hmade
        exact ⟨owner, nameAndType, name, descriptor, hmethod, hpair, howner, hname, hdescriptor⟩
      · cases h
    · cases h
  · rintro ⟨owner, nameAndType, name, descriptor, hmethod, hpair, howner, hname, hdescriptor⟩
    simp [hmethod, hpair, howner, hname, hdescriptor]

theorem indexOfUtf8?_eq_some_iff {text : String} :
    pool.indexOfUtf8? text = some index ↔ pool.get? index = some (.utf8 text) := by
  simp only [indexOfUtf8?, Option.map_eq_some_iff, pool.position_iff, get?_eq_some_iff]
  constructor
  · rintro ⟨position, hposition, rfl⟩
    exact ⟨position, hposition, rfl⟩
  · rintro ⟨position, hposition, rfl⟩
    exact ⟨position, hposition, rfl⟩

/-! ## Pools that extend others -/

/-- The entries of the pool are the first ones of the later pool. -/
def Extends (pool later : ConstantPool) : Prop := pool.entries.toList <+: later.entries.toList

namespace Extends

@[refl] theorem refl (pool : ConstantPool) : Extends pool pool := List.prefix_rfl

theorem trans (h : Extends pool later) (h' : Extends later last) : Extends pool last :=
  List.IsPrefix.trans h h'

theorem mem (h : Extends pool later) (hmem : constant ∈ pool) : constant ∈ later := by
  have hlist : constant ∈ later.entries.toList := h.subset (Array.mem_toList_iff.2 hmem)
  exact Array.mem_toList_iff.1 hlist

theorem get? (h : Extends pool later) (hget : pool.get? index = some constant) :
    later.get? index = some constant := by
  rcases get?_eq_some_iff.1 hget with ⟨position, hposition, rfl⟩
  refine get?_eq_some_iff.2 ⟨position, ?_, rfl⟩
  rw [← Array.getElem?_toList] at hposition ⊢
  -- The entries that were added come behind those of the pool.
  rcases h with ⟨added, hadded⟩
  rw [← hadded, List.getElem?_append_left (List.getElem?_eq_some_iff.1 hposition).1]
  exact hposition

theorem utf8At? {text : String} (h : Extends pool later) (hat : pool.utf8At? index = some text) :
    later.utf8At? index = some text :=
  utf8At?_eq_some_iff.2 (h.get? (utf8At?_eq_some_iff.1 hat))

theorem classNameAt? {name : String} (h : Extends pool later)
    (hat : pool.classNameAt? index = some name) : later.classNameAt? index = some name := by
  rcases classNameAt?_eq_some_iff.1 hat with ⟨text, hclass, htext⟩
  exact classNameAt?_eq_some_iff.2 ⟨text, h.get? hclass, h.utf8At? htext⟩

theorem stringAt? {text : String} (h : Extends pool later)
    (hat : pool.stringAt? index = some text) : later.stringAt? index = some text := by
  rcases stringAt?_eq_some_iff.1 hat with ⟨entry, hstring, htext⟩
  exact stringAt?_eq_some_iff.2 ⟨entry, h.get? hstring, h.utf8At? htext⟩

theorem methodRefAt? {method : MethodRef} (h : Extends pool later)
    (hat : pool.methodRefAt? index = some method) : later.methodRefAt? index = some method := by
  rcases methodRefAt?_eq_some_iff.1 hat with
    ⟨owner, nameAndType, name, descriptor, hmethod, hpair, howner, hname, hdescriptor⟩
  exact methodRefAt?_eq_some_iff.2 ⟨owner, nameAndType, name, descriptor, h.get? hmethod,
    h.get? hpair, h.classNameAt? howner, h.utf8At? hname, h.utf8At? hdescriptor⟩

end Extends

/-! ## Growth -/

/-- How many entries the pool lacks for a text, none or one. -/
def missing (pool : ConstantPool) (text : String) : Nat := if Constant.utf8 text ∈ pool then 0 else 1

theorem missing_le_one (pool : ConstantPool) (text : String) : pool.missing text ≤ 1 := by
  unfold missing
  split <;> simp

theorem missing_eq_zero {text : String} (h : pool.utf8At? index = some text) :
    pool.missing text = 0 :=
  if_pos (mem_of_get? (utf8At?_eq_some_iff.1 h))

theorem Extends.missing_le (h : Extends pool later) (text : String) :
    later.missing text ≤ pool.missing text := by
  unfold missing
  split
  · exact Nat.zero_le _
  · rename_i hlater
    exact Nat.le_of_eq (if_neg fun hpool => hlater (h.mem hpool)).symm

/-- The later pool has the entries of the pool, at most `most` further ones, and no texts but those
of the pool and the given ones. -/
structure Grows (pool later : ConstantPool) (most : Nat) (texts : List String) : Prop where
  stable : Extends pool later
  size_le : later.size ≤ pool.size + most
  mem_texts : ∀ text, Constant.utf8 text ∈ later → Constant.utf8 text ∈ pool ∨ text ∈ texts

namespace Grows

variable {most further : Nat} {texts others : List String}

theorem refl (pool : ConstantPool) : Grows pool pool 0 [] where
  stable := Extends.refl pool
  size_le := Nat.le_refl _
  mem_texts := fun _ h => Or.inl h

theorem trans (h : Grows pool later most texts) (h' : Grows later last further others) :
    Grows pool last (most + further) (texts ++ others) where
  stable := h.stable.trans h'.stable
  size_le := by
    have := h.size_le
    have := h'.size_le
    omega
  mem_texts := by
    intro text hlast
    rcases h'.mem_texts text hlast with hlater | hother
    · rcases h.mem_texts text hlater with hpool | htext
      · exact Or.inl hpool
      · exact Or.inr (List.mem_append_left others htext)
    · exact Or.inr (List.mem_append_right texts hother)

theorem mono (h : Grows pool later most texts) (hmost : most ≤ further)
    (htexts : ∀ text ∈ texts, text ∈ others) : Grows pool later further others where
  stable := h.stable
  size_le := Nat.le_trans h.size_le (Nat.add_le_add_left hmost _)
  mem_texts := fun text hlater => (h.mem_texts text hlater).imp_right (htexts text)

end Grows

/-- The change takes the pool to one that it grows to.  It ends in `post`, unless the pool is so
full that `most` entries do not fit. -/
def Achieves {α : Type} (change : Update ConstantPool α) (pool : ConstantPool) (most : Nat)
    (texts : List String) (post : α → ConstantPool → Prop) : Prop :=
  Ends change pool (fun a later => Grows pool later most texts ∧ post a later)
    (fun e later => Grows pool later most texts ∧ e = .poolFull ∧ capacity < pool.size + most)

namespace Achieves

variable {α β : Type} {most further : Nat} {texts others : List String}
variable {change : Update ConstantPool α} {next : α → Update ConstantPool β}
variable {post : α → ConstantPool → Prop} {post' : β → ConstantPool → Prop}

theorem bind (h : Achieves change pool most texts post)
    (hnext : ∀ a later, Grows pool later most texts → post a later →
      Achieves (next a) later further others post') :
    Achieves (change >>= next) pool (most + further) (texts ++ others) post' := by
  refine Ends.bind (Ends.mono h ?_ ?_)
  · rintro a later ⟨hgrows, hpost⟩
    -- The second step counts its room from the pool that the first one left.
    refine Ends.mono (hnext a later hgrows hpost) ?_ ?_
    · rintro b last ⟨hgrows', hpost'⟩
      exact ⟨hgrows.trans hgrows', hpost'⟩
    · rintro e last ⟨hgrows', rfl, hfull⟩
      have hsize := hgrows.size_le
      exact ⟨hgrows.trans hgrows', rfl, by omega⟩
  · rintro e later ⟨hgrows, rfl, hfull⟩
    refine ⟨hgrows.mono (Nat.le_add_right most further) ?_, rfl, by omega⟩
    exact fun _ => List.mem_append_left others

/-- A first step that changes nothing does not count. -/
theorem bind_of_eq {a : α} (h : change pool = (.ok a, pool))
    (hnext : Achieves (next a) pool further others post') :
    Achieves (change >>= next) pool further others post' :=
  Ends.bind (Ends.of_eq_ok h hnext)

theorem imp {post' : α → ConstantPool → Prop} (h : Achieves change pool most texts post)
    (himp : ∀ a later, Grows pool later most texts → post a later → post' a later) :
    Achieves change pool most texts post' :=
  Ends.mono h (fun a later ⟨hgrows, hpost⟩ => ⟨hgrows, himp a later hgrows hpost⟩) fun _ _ h => h

theorem mono (h : Achieves change pool most texts post) (hmost : most ≤ further)
    (htexts : ∀ text ∈ texts, text ∈ others) : Achieves change pool further others post := by
  refine Ends.mono h ?_ ?_
  · rintro a later ⟨hgrows, hpost⟩
    exact ⟨hgrows.mono hmost htexts, hpost⟩
  · rintro e later ⟨hgrows, rfl, hfull⟩
    exact ⟨hgrows.mono hmost htexts, rfl, by omega⟩

end Achieves

/-! ## What the adding functions achieve -/

/-- An entry that the pool has is not added again. -/
theorem add_of_get? (h : pool.get? index = some constant) :
    add constant pool = (.ok index, pool) := by
  rcases get?_eq_some_iff.1 h with ⟨position, hposition, rfl⟩
  have hpos := (pool.position_iff constant position).2 hposition
  unfold add
  split
  · rename_i position' hpos'
    rw [hpos] at hpos'
    cases hpos'
    rfl
  · rename_i hpos'
    rw [hpos] at hpos'
    cases hpos'

theorem mem_push {absent : pool.positions[constant]? = none} {room : pool.size < capacity}
    {other : Constant} : other ∈ pool.push constant absent room ↔ other ∈ pool ∨ other = constant :=
  Array.mem_push

theorem get?_push_last (absent : pool.positions[constant]? = none) (room : pool.size < capacity) :
    (pool.push constant absent room).get? (indexOf pool.size) = some constant :=
  get?_eq_some_iff.2 ⟨pool.size, Array.getElem?_push_size, rfl⟩

/-- The texts that adding an entry can bring into a pool. -/
def newTexts : Constant → List String
  | .utf8 text => [text]
  | _ => []

theorem grows_push (absent : pool.positions[constant]? = none) (room : pool.size < capacity) :
    Grows pool (pool.push constant absent room) 1 (newTexts constant) where
  stable := by
    refine ⟨[constant], ?_⟩
    exact Array.toList_push.symm
  size_le := Nat.le_of_eq (size_push pool constant absent room)
  mem_texts := by
    intro text hmem
    rcases mem_push.1 hmem with hpool | hlast
    · exact Or.inl hpool
    · right
      rw [← hlast]
      exact List.mem_singleton_self text

theorem achieves_add_of_mem (h : constant ∈ pool) :
    Achieves (add constant) pool 0 [] fun index later => later.get? index = some constant := by
  rcases exists_get?_of_mem h with ⟨index, hindex⟩
  exact Ends.of_eq_ok (add_of_get? hindex) ⟨Grows.refl pool, hindex⟩

/-- A new entry goes to the end if the pool has room. -/
theorem add_of_absent (absent : pool.positions[constant]? = none) :
    add constant pool = if room : pool.size < capacity then
      (.ok (indexOf pool.size), pool.push constant absent room) else (.error .poolFull, pool) := by
  unfold add
  split
  · rename_i position hposition
    rw [absent] at hposition
    cases hposition
  · rfl

theorem achieves_add (constant : Constant) (pool : ConstantPool) :
    Achieves (add constant) pool 1 (newTexts constant)
      fun index later => later.get? index = some constant := by
  by_cases hmem : constant ∈ pool
  · exact (achieves_add_of_mem hmem).mono (Nat.zero_le 1) (by simp)
  have habsent : pool.positions[constant]? = none := positions_eq_none_iff.2 hmem
  -- From here on the entry is new, and only the room decides.
  by_cases hroom : pool.size < capacity
  · have hadd : add constant pool
        = (.ok (indexOf pool.size), pool.push constant habsent hroom) :=
      (add_of_absent habsent).trans (dif_pos hroom)
    exact Ends.of_eq_ok hadd ⟨grows_push habsent hroom, get?_push_last habsent hroom⟩
  · have hadd : add constant pool = (.error .poolFull, pool) :=
      (add_of_absent habsent).trans (dif_neg hroom)
    refine Ends.of_eq_error hadd ⟨(Grows.refl pool).mono (Nat.zero_le 1) ?_, rfl, by omega⟩
    simp

/-- Adding succeeds with the place of the entry, which is a new one exactly if the entry is new. -/
theorem add_eq_ok (h : add constant pool = (.ok index, later)) :
    later.get? index = some constant ∧
      later.entries = if constant ∈ pool then pool.entries else pool.entries.push constant := by
  refine ⟨(Ends.ok_of_eq (achieves_add constant pool) h).2, ?_⟩
  by_cases hmem : constant ∈ pool
  · rcases exists_get?_of_mem hmem with ⟨index', hindex'⟩
    rw [add_of_get? hindex'] at h
    cases h
    exact (if_pos hmem).symm
  · rw [add_of_absent (positions_eq_none_iff.2 hmem)] at h
    split at h
    · cases h
      exact (if_neg hmem).symm
    · cases h

/-- Adding is refused exactly if a full pool lacks the entry. -/
theorem add_eq_error_iff {e : Error} :
    add constant pool = (.error e, later) ↔
      e = .poolFull ∧ constant ∉ pool ∧ pool.size = capacity ∧ later = pool := by
  have hsize : pool.size ≤ capacity := pool.size_le
  by_cases hmem : constant ∈ pool
  · rcases exists_get?_of_mem hmem with ⟨index', hindex'⟩
    rw [add_of_get? hindex']
    constructor
    · intro h
      cases h
    · rintro ⟨_, hnew, _⟩
      exact absurd hmem hnew
  · rw [add_of_absent (positions_eq_none_iff.2 hmem)]
    constructor
    · intro h
      split at h
      · cases h
      · rename_i hroom
        cases h
        exact ⟨rfl, hmem, by omega, rfl⟩
    · rintro ⟨rfl, _, hfull, rfl⟩
      exact dif_neg (by omega)

theorem achieves_addUtf8_missing (text : String) (pool : ConstantPool) :
    Achieves (addUtf8 text) pool (pool.missing text) [text]
      fun index later => later.utf8At? index = some text := by
  have hpost : ∀ (index : UInt16) (later : ConstantPool), later.get? index = some (.utf8 text) →
      later.utf8At? index = some text := fun _ _ => utf8At?_eq_some_iff.2
  by_cases hmem : Constant.utf8 text ∈ pool
  · rw [missing, if_pos hmem]
    have hsame := (achieves_add_of_mem hmem).mono (Nat.le_refl 0) (List.forall_mem_nil (· ∈ [text]))
    exact hsame.imp fun index later _ => hpost index later
  · rw [missing, if_neg hmem]
    exact (achieves_add (.utf8 text) pool).imp fun index later _ => hpost index later

theorem achieves_addUtf8 (text : String) (pool : ConstantPool) :
    Achieves (addUtf8 text) pool 1 [text] fun index later => later.utf8At? index = some text :=
  (achieves_addUtf8_missing text pool).mono (missing_le_one pool text) fun _ => id

theorem achieves_addClass (name : String) (pool : ConstantPool) :
    Achieves (addClass name) pool 2 [name]
      fun index later => later.classNameAt? index = some name := by
  show Achieves _ pool (1 + 1) ([name] ++ []) _
  refine (achieves_addUtf8 name pool).bind ?_
  intro text middle _ htext
  refine (achieves_add (.className text) middle).imp ?_
  intro index later hgrows hindex
  exact classNameAt?_eq_some_iff.2 ⟨text, hindex, hgrows.stable.utf8At? htext⟩

theorem achieves_addString (text : String) (pool : ConstantPool) :
    Achieves (addString text) pool 2 [text]
      fun index later => later.stringAt? index = some text := by
  show Achieves _ pool (1 + 1) ([text] ++ []) _
  refine (achieves_addUtf8 text pool).bind ?_
  intro entry middle _ hentry
  refine (achieves_add (.stringLiteral entry) middle).imp ?_
  intro index later hgrows hindex
  exact stringAt?_eq_some_iff.2 ⟨entry, hindex, hgrows.stable.utf8At? hentry⟩

theorem achieves_addNameAndType (name descriptor : String) (pool : ConstantPool) :
    Achieves (addNameAndType name descriptor) pool 3 [name, descriptor] fun index later =>
      ∃ nameIndex descriptorIndex,
        later.get? index = some (.nameAndType nameIndex descriptorIndex) ∧
        later.utf8At? nameIndex = some name ∧
        later.utf8At? descriptorIndex = some descriptor := by
  show Achieves _ pool (1 + (1 + 1)) ([name] ++ ([descriptor] ++ [])) _
  refine (achieves_addUtf8 name pool).bind ?_
  intro nameIndex named _ hname
  refine (achieves_addUtf8 descriptor named).bind ?_
  intro descriptorIndex described hgrows hdescriptor
  refine (achieves_add (.nameAndType nameIndex descriptorIndex) described).imp ?_
  intro index later hgrows' hindex
  exact ⟨nameIndex, descriptorIndex, hindex, hgrows'.stable.utf8At? (hgrows.stable.utf8At? hname),
    hgrows'.stable.utf8At? hdescriptor⟩

theorem addClass_of_classNameAt? {name : String} (h : pool.classNameAt? index = some name) :
    addClass name pool = (.ok index, pool) := by
  rcases classNameAt?_eq_some_iff.1 h with ⟨text, hclass, htext⟩
  have hutf8 : addUtf8 name pool = (.ok text, pool) := add_of_get? (utf8At?_eq_some_iff.1 htext)
  rw [addClass, Update.bind_apply_of_ok hutf8]
  exact add_of_get? hclass

/-- A class is named by one entry only. -/
theorem eq_of_classNameAt? {other : UInt16} {name : String}
    (h : pool.classNameAt? index = some name) (hother : pool.classNameAt? other = some name) :
    other = index := by
  have hsame := (addClass_of_classNameAt? hother).symm.trans (addClass_of_classNameAt? h)
  exact Except.ok.inj (congrArg Prod.fst hsame)

theorem addString_of_stringAt? {text : String} (h : pool.stringAt? index = some text) :
    addString text pool = (.ok index, pool) := by
  rcases stringAt?_eq_some_iff.1 h with ⟨entry, hstring, htext⟩
  have hutf8 : addUtf8 text pool = (.ok entry, pool) := add_of_get? (utf8At?_eq_some_iff.1 htext)
  rw [addString, Update.bind_apply_of_ok hutf8]
  exact add_of_get? hstring

theorem addNameAndType_of_get? {name descriptor : String} {nameIndex descriptorIndex : UInt16}
    (h : pool.get? index = some (.nameAndType nameIndex descriptorIndex))
    (hname : pool.utf8At? nameIndex = some name)
    (hdescriptor : pool.utf8At? descriptorIndex = some descriptor) :
    addNameAndType name descriptor pool = (.ok index, pool) := by
  have hname' : addUtf8 name pool = (.ok nameIndex, pool) :=
    add_of_get? (utf8At?_eq_some_iff.1 hname)
  have hdescriptor' : addUtf8 descriptor pool = (.ok descriptorIndex, pool) :=
    add_of_get? (utf8At?_eq_some_iff.1 hdescriptor)
  rw [addNameAndType, Update.bind_apply_of_ok hname', Update.bind_apply_of_ok hdescriptor']
  exact add_of_get? h

theorem addMethodRef_of_methodRefAt? {method : MethodRef}
    (h : pool.methodRefAt? index = some method) : addMethodRef method pool = (.ok index, pool) := by
  rcases methodRefAt?_eq_some_iff.1 h with
    ⟨owner, nameAndType, nameIndex, descriptorIndex, hmethod, hpair, howner, hname, hdescriptor⟩
  rw [addMethodRef, Update.bind_apply_of_ok (addClass_of_classNameAt? howner),
    Update.bind_apply_of_ok (addNameAndType_of_get? hpair hname hdescriptor)]
  exact add_of_get? hmethod

/-- The part of adding a method entry that follows its owner. -/
theorem achieves_addMethodRef_owned {owner : UInt16} {method : MethodRef}
    (howner : pool.classNameAt? owner = some method.owner) :
    Achieves (do
        let nameAndType ← addNameAndType method.name method.descriptor
        add (.methodRef owner nameAndType)) pool 4 [method.name, method.descriptor]
      fun index later => later.methodRefAt? index = some method := by
  show Achieves _ pool (3 + 1) ([method.name, method.descriptor] ++ []) _
  refine (achieves_addNameAndType method.name method.descriptor pool).bind ?_
  rintro pair paired hgrows ⟨nameIndex, descriptorIndex, hpair, hname, hdescriptor⟩
  refine (achieves_add (.methodRef owner pair) paired).imp ?_
  intro index later hgrows' hindex
  have hstable := hgrows.stable.trans hgrows'.stable
  exact methodRefAt?_eq_some_iff.2 ⟨owner, pair, nameIndex, descriptorIndex, hindex,
    hgrows'.stable.get? hpair, hstable.classNameAt? howner, hgrows'.stable.utf8At? hname,
    hgrows'.stable.utf8At? hdescriptor⟩

theorem achieves_addMethodRef (method : MethodRef) (pool : ConstantPool) :
    Achieves (addMethodRef method) pool 6 [method.owner, method.name, method.descriptor]
      fun index later => later.methodRefAt? index = some method := by
  show Achieves _ pool (2 + 4) ([method.owner] ++ [method.name, method.descriptor]) _
  refine (achieves_addClass method.owner pool).bind ?_
  intro owner owned _ howner
  exact achieves_addMethodRef_owned howner

/-- A class entry for the owner saves two entries. -/
theorem achieves_addMethodRef_of_class {method : MethodRef}
    (h : pool.classNameAt? index = some method.owner) :
    Achieves (addMethodRef method) pool 4 [method.name, method.descriptor]
      fun index later => later.methodRefAt? index = some method :=
  Achieves.bind_of_eq (addClass_of_classNameAt? h) (achieves_addMethodRef_owned h)

end ConstantPool
end ClassFile
end AccessorSynthesis
