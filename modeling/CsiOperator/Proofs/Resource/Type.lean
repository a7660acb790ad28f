import CsiOperator.Resource.Type

/-! The group and the version of a type, and the texts that name them. -/

namespace CsiOperator

namespace Text

variable {α : Type} [BEq α] [LawfulBEq α]

/-- What stands before the first mark is free of it, and the two parts with the mark are the whole. -/
theorem splitFirst_eq_some_iff {mark : α} {whole before after : List α} :
    splitFirst mark whole = some (before, after) ↔
      whole = before ++ mark :: after ∧ mark ∉ before := by
  -- The induction is on the whole list, for any front part, as each step takes one element off both.
  induction whole generalizing before with
  | nil => simp [splitFirst]
  | cons x rest ih =>
    simp only [splitFirst]
    split
    · -- The first element is the mark, so that nothing stands before it.
      rename_i isMark
      obtain rfl := eq_of_beq isMark
      constructor
      · intro split
        obtain ⟨rfl, rfl⟩ := Prod.mk.inj (Option.some.inj split)
        exact ⟨rfl, List.not_mem_nil⟩
      · rintro ⟨whole, free⟩
        cases before with
        | nil => rw [List.nil_append, List.cons.injEq] at whole; rw [whole.2]
        | cons y before =>
          rw [List.cons_append, List.cons.injEq] at whole
          exact absurd (whole.1 ▸ List.mem_cons_self) free
    · -- The first element is not the mark and stands before it.
      rename_i other
      rw [Option.map_eq_some_iff]
      constructor
      · rintro ⟨⟨front, back⟩, found, same⟩
        obtain ⟨rfl, rfl⟩ := Prod.mk.inj same
        obtain ⟨rfl, free⟩ := ih.mp found
        refine ⟨rfl, ?_⟩
        rw [List.mem_cons, not_or]
        exact ⟨fun same => other (beq_iff_eq.mpr same.symm), free⟩
      · rintro ⟨whole, free⟩
        cases before with
        | nil =>
          rw [List.nil_append, List.cons.injEq] at whole
          exact absurd (beq_iff_eq.mpr whole.1) other
        | cons y before =>
          rw [List.cons_append, List.cons.injEq] at whole
          rw [List.mem_cons, not_or] at free
          exact ⟨(before, after), ih.mpr ⟨whole.2, free.2⟩, by rw [whole.1]⟩

/-- There are no two parts exactly when the mark is missing. -/
theorem splitFirst_eq_none_iff {mark : α} {whole : List α} :
    splitFirst mark whole = none ↔ mark ∉ whole := by
  -- By induction on the list: the split asks for the mark at each place in turn.
  induction whole with
  | nil => simp [splitFirst]
  | cons x rest ih =>
    simp only [splitFirst]
    split
    · rename_i isMark
      simp [eq_of_beq isMark]
    · rename_i other
      have apart : mark ≠ x := fun same => other (beq_iff_eq.mpr same.symm)
      rw [Option.map_eq_none_iff, ih, List.mem_cons, not_or, and_iff_right apart]

end Text

namespace ResourceType

/-- A text names a group and a version in it: the first slash ends the group, and a text without any
slash is a version of the core group, which is empty. -/
inductive Names : (text group version : String) → Prop
  /-- A version alone. -/
  | core {version : String} : '/' ∉ version.toList → Names version "" version
  /-- A group and a version. -/
  | grouped {group : String} (version : String) : '/' ∉ group.toList →
    Names (group ++ ("/" ++ version)) group version

/-- The characters of a group and a version with the slash between them. -/
theorem toList_joined (group version : String) :
    (group ++ ("/" ++ version)).toList = group.toList ++ '/' :: version.toList := by
  -- Joining texts joins their characters, and the slash is one character.
  rw [String.toList_append, String.toList_append]
  rfl

/-- A text is taken apart into the group and the version that it names. -/
theorem splitVersion_eq_iff (text group version : String) :
    splitVersion text = (group, version) ↔ Names text group version := by
  -- The first slash is the only place where a text falls apart.
  constructor
  · intro split
    simp only [splitVersion] at split
    cases found : Text.splitFirst '/' text.toList with
    | none =>
      rw [found] at split
      obtain ⟨rfl, rfl⟩ := Prod.mk.inj split
      exact .core (Text.splitFirst_eq_none_iff.mp found)
    | some parts =>
      obtain ⟨before, after⟩ := parts
      rw [found] at split
      obtain ⟨rfl, rfl⟩ := Prod.mk.inj split
      obtain ⟨whole, free⟩ := Text.splitFirst_eq_some_iff.mp found
      -- The text is put together again from its characters.
      have joined : text = String.ofList before ++ ("/" ++ String.ofList after) := by
        apply String.toList_inj.mp
        rw [whole, toList_joined, String.toList_ofList, String.toList_ofList]
      rw [joined]
      exact .grouped _ (by rwa [String.toList_ofList])
  · intro names
    cases names with
    | core free =>
      simp only [splitVersion, Text.splitFirst_eq_none_iff.mpr free]
    | grouped version free =>
      have found := Text.splitFirst_eq_some_iff.mpr ⟨toList_joined group version, free⟩
      simp only [splitVersion, found, String.ofList_toList]

/-- A type is served in the group and the version that the text names. -/
theorem names_ofKind (text kind : String) :
    Names text (ofKind text kind).group (ofKind text kind).version :=
  (splitVersion_eq_iff ..).mp rfl

/-- A text names one group and one version. -/
theorem Names.unique {text group version group' version' : String}
    (names : Names text group version) (names' : Names text group' version') :
    group = group' ∧ version = version' := by
  -- Both are what the text is taken apart into.
  have same := ((splitVersion_eq_iff ..).mpr names).symm.trans ((splitVersion_eq_iff ..).mpr names')
  exact Prod.mk.inj same

/-- Put together again, a group and a version are the text that names them, or what follows the slash
that the text begins with. -/
theorem Names.rejoined {text group version : String} (names : Names text group version)
    (kind plural : String) :
    text = (⟨group, version, kind, plural⟩ : ResourceType).apiVersion ∨
      group = "" ∧ text = "/" ++ version := by
  -- Only a group that is empty although a slash follows it is not written again.
  cases names with
  | core free => exact .inl rfl
  | grouped version free =>
    simp only [apiVersion]
    split
    · rename_i empty
      obtain rfl := String.isEmpty_iff.mp empty
      exact .inr ⟨rfl, String.empty_append⟩
    · exact .inl (String.append_assoc ..).symm

/-- One text has the core group spelled out as nothing before a slash, where the other one is the
version alone. -/
def Spelled (alone spelled : String) : Prop :=
  '/' ∉ alone.toList ∧ spelled = "/" ++ alone

/-- Two texts name the same group and version only if they differ in how they spell the core group. -/
theorem Names.same_iff {text group version text' group' version' : String}
    (names : Names text group version) (names' : Names text' group' version') :
    group = group' ∧ version = version' ↔
      text = text' ∨ Spelled text text' ∨ Spelled text' text := by
  -- A text without a slash names the core group, and so does one that begins with a slash.
  constructor
  · rintro ⟨rfl, rfl⟩
    -- Each of the two texts is the version alone or the group and the version with a slash.
    cases names with
    | core free =>
      generalize core : "" = group at names'
      cases names' with
      | core _ => exact .inl rfl
      | grouped _ _ => exact .inr (.inl ⟨free, by rw [← core, String.empty_append]⟩)
    | grouped _ _ =>
      cases names' with
      | core free => exact .inr (.inr ⟨free, String.empty_append⟩)
      | grouped _ _ => exact .inl rfl
  · -- The core group is named by both spellings.
    have spelled {a b : String} (differ : Spelled a b) : Names a "" a ∧ Names b "" a := by
      refine ⟨.core differ.1, ?_⟩
      rw [differ.2, ← String.empty_append (s := "/" ++ a)]
      exact .grouped a (by decide)
    rintro (rfl | differ | differ)
    · exact names.unique names'
    · obtain ⟨alone, slashed⟩ := spelled differ
      obtain ⟨rfl, rfl⟩ := names.unique alone
      exact slashed.unique names'
    · obtain ⟨alone, slashed⟩ := spelled differ
      obtain ⟨rfl, rfl⟩ := names'.unique alone
      exact names.unique slashed

end ResourceType

end CsiOperator
