import CsiOperator.Manifest.Basic
import CsiOperator.Proofs.Decode.Part
import CsiOperator.Proofs.Manifest.Fields

/-! How the fields of an object are read: its metadata and its type are set apart from the others. -/

namespace CsiOperator.Manifest

open Decode
open Failure (bind_ok_iff ok_bind pure_ok_iff)

variable {ν β : Type}

/-- Metadata may be given once, and is left as it was where it is not given. -/
inductive TakesMetadata [Source ν] : (nodes : List ν) → (before after : Option Metadata) → Prop
  /-- It is not given. -/
  | absent (m : Option Metadata) : TakesMetadata [] m m
  /-- It is given for the first time. -/
  | once {node : ν} {m : Metadata} : Metadata.read node = .ok m → TakesMetadata [node] none (some m)

/-- Metadata that is not given is left as it was. -/
theorem takesMetadata_nil_iff [Source ν] {before after : Option Metadata} :
    TakesMetadata ([] : List ν) before after ↔ after = before := by
  -- The relation has one way for no nodes, which leaves what there was.
  constructor
  · intro takes
    cases takes
    rfl
  · rintro rfl
    exact .absent _

/-- Metadata that is given has neither been given before nor is given again. -/
theorem takesMetadata_cons_iff [Source ν] {node : ν} {nodes : List ν}
    {before after : Option Metadata} : TakesMetadata (node :: nodes) before after ↔
      before = none ∧ ∃ m, Metadata.read node = .ok m ∧ nodes = [] ∧ after = some m := by
  -- The relation has one way for some nodes, which allows just one.
  constructor
  · intro takes
    cases takes with
    | @once _ m reads => exact ⟨rfl, m, reads, rfl, rfl⟩
  · rintro ⟨rfl, m, reads, rfl, rfl⟩
    exact .once reads

/-- Metadata that has been read already is not given again. -/
theorem takesMetadata_some_iff [Source ν] {nodes : List ν} {m : Metadata}
    {after : Option Metadata} :
    TakesMetadata nodes (some m) after ↔ nodes = [] ∧ after = some m := by
  -- Only a node asks that there was no metadata before.
  cases nodes with
  | nil => simp [takesMetadata_nil_iff]
  | cons node nodes => simp [takesMetadata_cons_iff]

/-- Reading the fields of an object sets its metadata apart and keeps the values of the others. -/
theorem readFields_ok_iff [Source ν] {draft done : Draft} {entries : List (ν × ν)} :
    readFields draft entries = .ok done ↔
      (∀ e ∈ entries, ∃ name, text e.1 = .ok name) ∧
        TakesMetadata (given (labelled entries) "metadata") draft.metadata done.metadata ∧
        ∃ values, ReadAs untyped (without ["metadata"] (labelled entries)) values ∧
          done.fields = draft.fields ++ values := by
  -- The induction is on the entries, for any draft, as each of them adds to what is kept.
  induction entries generalizing draft with
  | nil =>
    -- Nothing is added to what there is.
    constructor
    · intro reads
      obtain rfl := Except.ok.inj reads
      exact ⟨by simp, .absent _, [], rfl, (List.append_nil _).symm⟩
    · rintro ⟨-, takes, values, reads, kept⟩
      obtain rfl : values = [] := List.map_eq_nil_iff.mp reads.symm
      obtain ⟨metadata, fields⟩ := done
      obtain rfl : metadata = draft.metadata := takesMetadata_nil_iff.mp takes
      obtain rfl : fields = draft.fields := kept.trans (List.append_nil _)
      rfl
  | cons entry rest ih =>
    obtain ⟨key, value⟩ := entry
    rw [List.forall_mem_cons, readFields]
    cases keyed : text key with
    | error fault => simp [bind_ok_iff]
    | ok name =>
      have isKeyed : ∃ n, (.ok name : Read String) = .ok n := ⟨name, rfl⟩
      rw [ok_bind, labelled_cons keyed, given_cons, and_iff_right isKeyed]
      by_cases isMetadata : name = "metadata"
      · -- Metadata is not among the other fields, and nothing may have been read of it so far.
        subst isMetadata
        rw [if_pos (beq_self_eq_true _), if_pos rfl, takesMetadata_cons_iff, without_cons,
          if_pos List.mem_cons_self]
        cases draft.metadata with
        -- A second metadata field is a fault.
        | some m => simp
        | none =>
          simp only [Option.isSome_none, Bool.false_eq_true, if_false, bind_ok_iff, ih,
            takesMetadata_some_iff, true_and]
          constructor
          · rintro ⟨m, reads, keys, ⟨none, same⟩, values, found, kept⟩
            exact ⟨keys, ⟨m, reads, none, same⟩, values, found, kept⟩
          · rintro ⟨keys, ⟨m, reads, none, same⟩, values, found, kept⟩
            exact ⟨m, reads, keys, ⟨none, same⟩, values, found, kept⟩
      · -- Any other field is kept after those that have been read so far.
        rw [if_neg (by simpa using isMetadata), if_neg isMetadata, without_cons,
          if_neg (by simpa using isMetadata)]
        simp only [bind_ok_iff, ih, readAs_cons_iff]
        constructor
        · rintro ⟨outcome, reads, keys, takes, values, found, kept⟩
          exact ⟨keys, takes, _, ⟨outcome, values, reads, found, rfl⟩, by simp [kept]⟩
        · rintro ⟨keys, takes, _, ⟨outcome, values, reads, found, rfl⟩, kept⟩
          exact ⟨outcome, reads, keys, takes, values, found, by simp [kept]⟩

/-- What a field is read as if it is a text. -/
def told (s : String) : Read Json :=
  .ok (.text s)

/-- A text that a name may be told by, after those that it has been told by before. -/
def tellings (before : Option String) (fields : List (String × Read Json)) (name : String) :
    List (Read Json) :=
  -- What has been told before counts as being in front of the fields.
  before.toList.map told ++ given fields name

/-- Neither of the two is told by anything but a text. -/
theorem takeType_untold (apiVersion kind : Option String) {name : String}
    (isType : name = "apiVersion" ∨ name = "kind") {value : Read Json}
    (untold : ∀ s, value ≠ told s) (rest : List (String × Read Json)) :
    takeType apiVersion kind ((name, value) :: rest) = (none, rest) := by
  -- The function asks for texts under the two names; its overlaps are excluded one by one.
  rw [takeType]
  · rcases isType with rfl | rfl <;> rfl
  · exact fun s _ same => untold s same
  · exact fun s _ same => untold s same

/-- The API version is told by a text, if it has not been told before. -/
theorem takeType_version_iff {apiVersion kind : Option String} {value : Read Json}
    {rest left : List (String × Read Json)} {type : String × String} :
    takeType apiVersion kind (("apiVersion", value) :: rest) = (some type, left) ↔
      apiVersion = none ∧ ∃ s, value = told s ∧ takeType (some s) kind rest = (some type, left) := by
  -- Anything but a text ends the search without a type, and so does a second text.
  by_cases isText : ∃ s, value = told s
  · obtain ⟨s, rfl⟩ := isText
    rw [told, takeType]
    cases apiVersion <;> simp [told]
  · have untold : ∀ s, value ≠ told s := fun s same => isText ⟨s, same⟩
    rw [takeType_untold _ _ (.inl rfl) untold]
    simp [untold]

/-- The kind is told by a text, if it has not been told before. -/
theorem takeType_kind_iff {apiVersion kind : Option String} {value : Read Json}
    {rest left : List (String × Read Json)} {type : String × String} :
    takeType apiVersion kind (("kind", value) :: rest) = (some type, left) ↔
      kind = none ∧ ∃ s, value = told s ∧
        takeType apiVersion (some s) rest = (some type, left) := by
  -- The same holds of the kind, with the API version as it is.
  by_cases isText : ∃ s, value = told s
  · obtain ⟨s, rfl⟩ := isText
    rw [told, takeType]
    cases kind <;> simp [told]
  · have untold : ∀ s, value ≠ told s := fun s same => isText ⟨s, same⟩
    rw [takeType_untold _ _ (.inr rfl) untold]
    simp [untold]

/-- Every other field stays where it is. -/
theorem takeType_other (apiVersion kind : Option String) {name : String}
    (notVersion : name ≠ "apiVersion") (notKind : name ≠ "kind") (value : Read Json)
    (rest : List (String × Read Json)) :
    takeType apiVersion kind ((name, value) :: rest) =
      let taken := takeType apiVersion kind rest
      (taken.1, (name, value) :: taken.2) := by
  -- The function asks for texts under the two names, and this is neither of them.
  rw [takeType]
  · simp [notVersion, notKind]
  · exact fun s same _ => notVersion same
  · exact fun s same _ => notKind same

/-- A name that has been told before or otherwise than by a text is not told by one text. -/
theorem tellings_cons_iff {before : Option String} {name : String} {value : Read Json}
    {rest : List (String × Read Json)} {s : String} :
    tellings before ((name, value) :: rest) name = [told s] ↔
      before = none ∧ value = told s ∧ given rest name = [] := by
  -- A list of one has room neither for a telling before nor for one after.
  rw [tellings, given_cons, if_pos rfl]
  cases before <;> simp

/-- A name that has been told before is not told again. -/
theorem tellings_some_iff {fields : List (String × Read Json)} {name before s : String} :
    tellings (some before) fields name = [told s] ↔ told before = told s ∧ given fields name = [] := by
  simp [tellings]

/-- A field of another name does not tell a name. -/
theorem tellings_other {before : Option String} {name key : String} (other : key ≠ name)
    (value : Read Json) (rest : List (String × Read Json)) :
    tellings before ((key, value) :: rest) name = tellings before rest name := by
  -- Only the fields of a name tell it, and this one has another.
  rw [tellings, given_cons, if_neg other]
  rfl

/-- The type is taken out of the fields when each part of it is told once, by a text. -/
theorem takeType_eq_some_iff {apiVersion kind : Option String}
    {fields rest : List (String × Read Json)} {a k : String} :
    takeType apiVersion kind fields = (some (a, k), rest) ↔
      tellings apiVersion fields "apiVersion" = [told a] ∧ tellings kind fields "kind" = [told k] ∧
        rest = without ["apiVersion", "kind"] fields := by
  -- The induction is on the fields, for any parts of the type that have been told by those before.
  induction fields generalizing apiVersion kind rest with
  | nil =>
    -- Both parts must have been told by the end.
    cases apiVersion <;> cases kind <;>
      simp [takeType, tellings, given, without, told, eq_comm, and_assoc]
  | cons field later ih =>
    obtain ⟨name, value⟩ := field
    by_cases isVersion : name = "apiVersion"
    · -- The API version has not been told before, and no later field tells it again.
      subst isVersion
      rw [takeType_version_iff, tellings_cons_iff, tellings_other (by decide), without_cons,
        if_pos (by decide)]
      constructor
      · rintro ⟨rfl, s, rfl, taken⟩
        obtain ⟨version, kind, rest⟩ := ih.mp taken
        obtain ⟨same, once⟩ := tellings_some_iff.mp version
        exact ⟨⟨rfl, same, once⟩, kind, rest⟩
      · rintro ⟨⟨rfl, rfl, once⟩, kind, rest⟩
        exact ⟨rfl, a, rfl, ih.mpr ⟨tellings_some_iff.mpr ⟨rfl, once⟩, kind, rest⟩⟩
    by_cases isKind : name = "kind"
    · -- The same holds of the kind.
      subst isKind
      rw [takeType_kind_iff, tellings_other (by decide), tellings_cons_iff, without_cons,
        if_pos (by decide)]
      constructor
      · rintro ⟨rfl, s, rfl, taken⟩
        obtain ⟨version, kind, rest⟩ := ih.mp taken
        obtain ⟨same, once⟩ := tellings_some_iff.mp kind
        exact ⟨version, ⟨rfl, same, once⟩, rest⟩
      · rintro ⟨version, ⟨rfl, rfl, once⟩, rest⟩
        exact ⟨rfl, k, rfl, ih.mpr ⟨version, tellings_some_iff.mpr ⟨rfl, once⟩, rest⟩⟩
    · -- The field stays, and nothing is told by it.
      rw [takeType_other _ _ isVersion isKind, tellings_other isVersion, tellings_other isKind,
        without_cons, if_neg (by simp [isVersion, isKind])]
      constructor
      · intro taken
        obtain ⟨isType, rfl⟩ := Prod.mk.inj taken
        obtain ⟨version, kind, same⟩ := ih.mp (Prod.ext isType rfl)
        exact ⟨version, kind, congrArg _ same⟩
      · rintro ⟨version, kind, rfl⟩
        have taken := ih.mpr ⟨version, kind, rfl⟩
        rw [taken]

/-- Values that have been put off are there when all of them can be made. -/
theorem mapM_ok_iff {fields : List (String × Read β)} {values : List (String × β)} :
    (fields.mapM fun (name, value) => do return (name, ← value)) = .ok values ↔
      ReadAs id fields values := by
  -- The first value that cannot be made ends both.
  induction fields generalizing values with
  | nil => cases values <;> simp [ReadAs, pure_ok_iff]
  | cons field rest ih =>
    obtain ⟨name, outcome⟩ := field
    rw [readAs_cons_iff]
    simp only [List.mapM_cons, bind_ok_iff, pure_ok_iff, ih]
    constructor
    · rintro ⟨_, ⟨value, made, rfl⟩, later, others, rfl⟩
      exact ⟨value, later, made, others, rfl⟩
    · rintro ⟨value, later, made, others, rfl⟩
      exact ⟨_, ⟨value, made, rfl⟩, later, others, rfl⟩

/-- An object that tells its type is read step by step. -/
theorem read_ok_iff [Source ν] {node : ν} {a k : String} {metadata : Metadata}
    {fields : List (String × Json)} : read node = .ok (some (a, k), metadata, fields) ↔
      ∃ inner, entries node = .ok inner ∧ (∀ e ∈ inner, ∃ name, text e.1 = .ok name) ∧
        ∃ held, TakesMetadata (given (labelled inner) "metadata") none held ∧
          metadata = held.getD Metadata.empty ∧
        ∃ outcomes, ReadAs untyped (without ["metadata"] (labelled inner)) outcomes ∧
          given outcomes "apiVersion" = [told a] ∧ given outcomes "kind" = [told k] ∧
        ∃ values, ReadAs id (without ["apiVersion", "kind"] outcomes) values ∧
          fields = Json.sortEntries values := by
  -- Nothing has been told before the first field.
  have telling (fields : List (String × Read Json)) (name : String) :
      tellings none fields name = given fields name := List.nil_append _
  simp only [read, bind_ok_iff, readFields_ok_iff, pure_ok_iff, mapM_ok_iff]
  constructor
  · rintro ⟨inner, isMap, ⟨held, outcomes⟩, ⟨keys, takes, _, reads, rfl⟩, values, found, same⟩
    obtain ⟨isType, rfl, rfl⟩ := by simpa only [Prod.mk.injEq] using same
    obtain ⟨version, kind, rest⟩ := takeType_eq_some_iff.mp (Prod.ext isType rfl)
    rw [telling] at version kind
    exact ⟨inner, isMap, keys, held, takes, rfl, _, reads, version, kind, values, rest ▸ found, rfl⟩
  · rintro ⟨inner, isMap, keys, held, takes, rfl, outcomes, reads, version, kind, values, found,
      rfl⟩
    rw [← telling] at version kind
    have taken := takeType_eq_some_iff.mpr ⟨version, kind, rfl⟩
    refine ⟨inner, isMap, ⟨held, outcomes⟩, ⟨keys, takes, outcomes, reads, rfl⟩, values, ?_, ?_⟩
    · rw [taken]
      exact found
    · rw [taken]

end CsiOperator.Manifest
