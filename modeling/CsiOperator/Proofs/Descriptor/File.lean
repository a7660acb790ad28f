import CsiOperator.Descriptor.Builtin
import CsiOperator.Descriptor.File
import CsiOperator.Proofs.Decode.Kept
import CsiOperator.Proofs.Yaml.Document
import CsiOperator.Program

/-! A drivers file that is written for drivers is read as those drivers. -/

namespace CsiOperator

open Decode
open Failure (bind_ok_iff pure_ok_iff)
open Yaml (Style Tree Written)

namespace Yaml

open Written (textTree)

/-- No text that is there is written in a way that is read as nothing. -/
theorem optional_textTree {s : String} (there : s ≠ "") :
    Source.optional (textTree s) = .ok (some (textTree s)) := by
  -- How a text is written says what it is not.
  have spec := Style.of_spec s
  -- Without quotes, nothing and the words for null would be read as nothing.
  cases style : Style.of s with
  | plain =>
    rw [style] at spec
    have clear := spec.1
    have visible : (s.isEmpty || Meaning.isNull s.toList) = false := by
      have noText : s.isEmpty = false := by simpa using there
      have noNull : Meaning.isNull s.toList = false := by
        cases null : Meaning.isNull s.toList with
        | false => rfl
        | true => simp [Style.isAmbiguous, Meaning.ofPlain, null] at clear
      rw [noText, noNull]
      rfl
    simp [Source.optional, Tree.readOptional, textTree, style, visible]
  | _ => simp [Source.optional, Tree.readOptional, textTree, style]

/-- A list is read from the trees of its items. -/
theorem list_tree {β : Type} {read : Tree → Read β} {tree : β → Tree} {values : List β}
    (reads : ∀ v ∈ values, read (tree v) = .ok v) (tag : Option String) :
    list read (Tree.list tag (values.map tree)) = .ok values := by
  -- The items are read one by one, each from its own tree.
  have all : (values.map tree).mapM read = .ok values := by
    induction values with
    | nil => rfl
    | cons v values ih =>
      obtain ⟨first, others⟩ := List.forall_mem_cons.mp reads
      rw [List.map_cons, List.mapM_cons, first, ih others]
      rfl
  exact all

/-- What is written can be passed over. -/
theorem skip_tree (value : Written) : Source.skip value.tree = .ok () := by
  -- Only a node that breaks off cannot be passed over, and no written value holds one.
  have whole : value.tree.isBroken = false := by
    cases value with
    | text s => rfl
    | texts items =>
      show Tree.anyTreeBroken (items.map textTree) = false
      induction items with
      | nil => rfl
      | cons s items ih => exact ih
  exact if_neg (by simp [whole])

end Yaml

namespace Descriptor

/-- A driver of which a drivers file says all: no name is empty where it could be left out, and there
are no controllers besides those that every driver has. -/
structure Expressible (d : Descriptor) : Prop where
  /-- The required feature has a name. -/
  feature : d.requiredFeature ≠ some ""
  /-- The asset with the Deployment has a name. -/
  deployment : d.deploymentAsset ≠ some ""
  /-- Nothing is removed. -/
  removal : d.removal = none
  /-- There are no further controllers. -/
  extra : d.extraControllers = []

/-- A text that is read as absent when it is empty is not empty. -/
theorem readUnlessEmpty_ne {ν : Type} [Source ν] {node : ν} {held : Option String}
    (reads : readUnlessEmpty node = .ok held) : held ≠ some "" := by
  -- A text that is empty is taken for absent, so what is left has characters.
  obtain ⟨given, -, same⟩ := (bind_ok_iff ..).mp reads
  obtain rfl := Except.ok.inj same
  cases given with
  | none => simp
  | some s =>
    intro empty
    have same : unlessEmpty s = some "" := empty
    unfold unlessEmpty at same
    split at same
    · cases same
    · rename_i there
      obtain rfl := Option.some.inj same
      exact there rfl

/-- Every driver that is read is one of which a drivers file says all. -/
theorem read_expressible {ν : Type} [Source ν] {node : ν} {d : Descriptor}
    (reads : read node = .ok d) : d.Expressible := by
  -- The two names that may be left out are kept from being empty by their own fields.
  obtain ⟨draft, reads, rest⟩ := (bind_ok_iff ..).mp reads
  have names := record_keeps_any (P := fun draft : Draft =>
    draft.requiredFeature ≠ some (some "") ∧ draft.deploymentAsset ≠ some (some ""))
    (by
      simp only [fields, List.forall_mem_cons, List.not_mem_nil, false_imp_iff, implies_true,
        and_true]
      refine ⟨?_, ?_, ?_, ?_, ?_, ?_⟩
      all_goals
        intro before node later kept reads
        obtain ⟨value, read, same⟩ := (bind_ok_iff ..).mp reads
        obtain rfl := Except.ok.inj same
      -- Only two fields hold a name that could be empty.
      case refine_3 => exact ⟨by simpa using readUnlessEmpty_ne read, kept.2⟩
      case refine_6 => exact ⟨kept.1, by simpa using readUnlessEmpty_ne read⟩
      all_goals exact kept)
    (by simp) reads
  simp only [bind_ok_iff, pure_ok_iff] at rest
  obtain ⟨conditionPrefix, -, platform, -, driver, -, rfl⟩ := rest
  exact ⟨mt Option.join_eq_some_iff.mp names.1, mt Option.join_eq_some_iff.mp names.2, rfl, rfl⟩

/-- The fields of a driver may be read in any order. -/
theorem fields_lawful {ν : Type} [Source ν] : Lawful (ν := ν) fields where
  names := by simp [fields]
  own := by
    -- Each field is compared with each later one, of which it puts in another part.
    simp only [fields, List.forall_mem_cons, List.not_mem_nil, false_imp_iff, implies_true,
      and_true]
    and_intros
    all_goals
      intro draft node later reads
      obtain ⟨x, -, same⟩ := (bind_ok_iff ..).mp reads
      exact Except.ok.inj same ▸ rfl
  apart := by
    simp only [fields, List.pairwise_cons, List.forall_mem_cons, List.not_mem_nil, false_imp_iff,
      implies_true, and_true, List.Pairwise.nil]
    and_intros
    all_goals exact .of_put (fun _ _ _ => rfl) (fun _ _ => rfl) fun _ _ => rfl

/-- What a drivers file holds of a driver under each key. -/
structure Holds (d : Descriptor) (given : String → Option Written) : Prop where
  /-- The name of the bundle. -/
  conditionPrefix : given "conditionPrefix" = some (.text d.conditionPrefix)
  /-- The name of the platform. -/
  platform : given "platform" = some (.text d.platform.name)
  /-- The required feature, if there is one. -/
  feature : given "requireFeatureGate" = d.requiredFeature.map .text
  /-- The name of the driver. -/
  driver : given "csiDriverName" = some (.text d.driver)
  /-- The static assets, if there are any. -/
  assets : given "staticAssets" = if d.staticAssets.isEmpty then none else some (.texts d.staticAssets)
  /-- The asset with the Deployment, if there is one. -/
  deployment : given "deploymentAsset" = d.deploymentAsset.map .text

/-- A drivers file holds all fields of a driver under keys of their own. -/
theorem entries_holds (d : Descriptor) :
    d.Holds (d.entries.lookup ·) ∧ (d.entries.map (·.1)).Nodup := by
  -- The two fields that a drivers file does not have are not written.
  obtain ⟨conditionPrefix, platform, feature, driver, assets, deployment, -, -⟩ := d
  -- Three of the fields may be left out.
  cases feature <;> cases assets <;> cases deployment
  all_goals exact ⟨⟨rfl, rfl, rfl, rfl, rfl, rfl⟩, by simp [entries]⟩

/-- The entries of a driver can be written. -/
theorem entries_sound (d : Descriptor) : Yaml.Written.Sound d.entries := by
  -- The keys are a few words of letters.
  have key {name : String} (listed : name ∈ (fields (ν := Tree)).map (·.name)) :
      Yaml.Scan.IsKey name.toList := by
    simp only [fields, List.map_cons, List.map_nil, List.mem_cons, List.not_mem_nil, or_false]
      at listed
    rcases listed with rfl | rfl | rfl | rfl | rfl | rfl
    all_goals exact ⟨List.all_eq_true.mp rfl, by decide, by decide⟩
  refine ⟨by simp [entries], fun e member => ?_⟩
  simp only [entries, List.mem_append, List.mem_cons, List.not_mem_nil, or_false,
    Option.mem_toList, Option.map_eq_some_iff] at member
  rcases member with ((((rfl | rfl) | ⟨s, -, rfl⟩) | rfl) | listed) | ⟨s, -, rfl⟩
  case inl.inr =>
    -- A list of assets is written unless it is empty.
    split at listed
    · cases listed
    · rename_i some'
      obtain rfl := List.mem_singleton.mp listed
      exact ⟨key (by simp [fields]), by simpa using some'⟩
  all_goals exact ⟨key (by simp [fields]), by simp⟩

/-- A name that may be absent but not empty is read as it was written. -/
theorem fill_unlessEmpty {σ : Type} {name : String} {put : σ → Option String → σ}
    {rest : List (String × (σ → Tree → Read σ))} {draft : σ} {given : String → Option Tree}
    {held : Option String} (there : held ≠ some "") (next : Option (Option String) → σ)
    (shows : given name = (held.map .text).map Written.tree) (blank : next none = draft)
    (puts : ∀ v, put draft v = next (some v)) :
    fill ((name, fun draft node => do return put draft (← readUnlessEmpty node)) :: rest) draft given =
      fill rest (next (held.map some)) given := by
  -- The name is written as it is, or not at all.
  refine fill_optional (held.map some) (fun v => Written.textTree (v.getD "")) next ?_ blank puts ?_
  · rw [shows]
    cases held <;> rfl
  · intro v member
    -- A name that is there is not read as absent, and is not empty either.
    obtain ⟨s, same, rfl⟩ := Option.map_eq_some_iff.mp member
    have named : s ≠ "" := by
      rintro rfl
      exact there same
    have reads : nullable text (Written.textTree s) = .ok (some s) := by
      rw [nullable, Yaml.optional_textTree named]
      rfl
    show (do return (← nullable text (Written.textTree s)).bind unlessEmpty) = _
    rw [reads]
    have kept : unlessEmpty s = some s := if_neg (by simpa using named)
    exact congrArg Except.ok kept

/-- The fields of a driver are read from what a drivers file holds of it. -/
theorem fill_fields {d : Descriptor} (expressible : d.Expressible) {given : String → Option Written}
    (holds : d.Holds given) :
    fill (byName (fields (ν := Tree))) ⟨none, none, none, none, none, none⟩
        (fun name => (given name).map Written.tree) =
      .ok ⟨some d.conditionPrefix, some d.platform, d.requiredFeature.map some, some d.driver,
        if d.staticAssets.isEmpty then none else some d.staticAssets, d.deploymentAsset.map some⟩ := by
  -- What is shown is named once, so that each field can be looked up in it.
  obtain ⟨shown, isShown⟩ : ∃ shown, shown = fun name => (given name).map Written.tree := ⟨_, rfl⟩
  have shows (name : String) : shown name = (given name).map Written.tree := congrFun isShown name
  have conditionPrefix : shown "conditionPrefix" = some (Written.textTree d.conditionPrefix) := by
    rw [shows, holds.conditionPrefix]
    rfl
  have platform : shown "platform" = some (Written.textTree d.platform.name) := by
    rw [shows, holds.platform]
    rfl
  have feature : shown "requireFeatureGate" = (d.requiredFeature.map .text).map Written.tree := by
    rw [shows, holds.feature]
  have driver : shown "csiDriverName" = some (Written.textTree d.driver) := by
    rw [shows, holds.driver]
    rfl
  have assets : shown "staticAssets" =
      (if d.staticAssets.isEmpty then none else some d.staticAssets).map
        fun items => Written.tree (.texts items) := by
    rw [shows, holds.assets]
    split <;> rfl
  have deployment : shown "deploymentAsset" = (d.deploymentAsset.map .text).map Written.tree := by
    rw [shows, holds.deployment]
  have named : Platform.read (Written.textTree d.platform.name) = .ok d.platform :=
    congrArg Except.ok (Platform.ofName_name d.platform)
  have text (s : String) : Source.text (Written.textTree s) = .ok s := rfl
  have rereads : ∀ items ∈ (if d.staticAssets.isEmpty then none else some d.staticAssets),
      list Source.text (Written.tree (.texts items)) = .ok items :=
    fun _ _ => Yaml.list_tree (fun s _ => text s) none
  -- The fields are read one after another, and each of them is put where it was.
  rw [← isShown]
  refine (fill_present conditionPrefix (text _)).trans ?_
  refine (fill_present platform named).trans ?_
  refine (fill_unlessEmpty expressible.feature
    (fun v => Draft.mk (some d.conditionPrefix) (some d.platform) v none none none) feature rfl
    fun _ => rfl).trans ?_
  refine (fill_present driver (text _)).trans ?_
  refine (fill_optional _ (fun items => Written.tree (.texts items))
    (fun v => Draft.mk (some d.conditionPrefix) (some d.platform) (d.requiredFeature.map some)
      (some d.driver) v none) assets rfl (fun _ => rfl) rereads).trans ?_
  exact fill_unlessEmpty expressible.deployment
    (fun v => Draft.mk (some d.conditionPrefix) (some d.platform) (d.requiredFeature.map some)
      (some d.driver) (if d.staticAssets.isEmpty then none else some d.staticAssets) v) deployment rfl
    fun _ => rfl

/-- A driver is read from what is written for it, if a drivers file says all of it. -/
theorem read_recordTree {d : Descriptor} (expressible : d.Expressible) :
    read (ν := Tree) (Written.recordTree d.entries) = .ok d := by
  -- The tree of the record is read field by field, under keys that stand once.
  obtain ⟨holds, distinct⟩ := d.entries_holds
  obtain ⟨parts, isParts⟩ : ∃ parts, parts = d.entries.map fun e => (e.1, e.2.tree) := ⟨_, rfl⟩
  have distinct' : (parts.map (·.1)).Nodup := by
    rw [isParts, List.map_map]
    exact distinct
  have shows (name : String) : parts.lookup name = (d.entries.lookup name).map Written.tree := by
    rw [isParts]
    exact lookup_map Written.tree d.entries name
  -- The keys of the record are read as the names of the fields.
  have spells : Spells fun name => Tree.scalar ⟨name, true, none⟩ := fun _ => rfl
  -- Before anything is read no field is there.
  have blank : ∀ f ∈ fields (ν := Tree), f.given ⟨none, none, none, none, none, none⟩ = false := by
    simp [fields]
  -- The fields that must be there are always written.
  have needed : ∀ f ∈ fields (ν := Tree), f.absence = .never →
      (d.entries.lookup f.name).isSome = true := by
    have there {name : String} {value : Written} (found : d.entries.lookup name = some value) :
        (d.entries.lookup name).isSome = true := by
      rw [found]
      rfl
    intro f member never
    simp only [fields, List.mem_cons, List.not_mem_nil, or_false] at member
    rcases member with rfl | rfl | rfl | rfl | rfl | rfl
    case inl => exact there holds.conditionPrefix
    case inr.inl => exact there holds.platform
    case inr.inr.inr.inl => exact there holds.driver
    all_goals cases never
  have reads : record (ν := Tree) fields ⟨none, none, none, none, none, none⟩
      (Written.recordTree d.entries) =
      .ok ⟨some d.conditionPrefix, some d.platform, d.requiredFeature.map some, some d.driver,
        if d.staticAssets.isEmpty then none else some d.staticAssets,
        d.deploymentAsset.map some⟩ := by
    have same : Written.recordTree d.entries =
        .mapping none (parts.map fun p => (Tree.scalar ⟨p.1, true, none⟩, p.2)) := by
      rw [isParts, List.map_map]
      rfl
    rw [same]
    refine (fields_lawful.readNamed_ok_iff spells distinct' ⟨none, none, none, none, none, none⟩ _
      fun _ _ f member _ => blank f member).mpr ⟨?_, ?_, ?_⟩
    · intro p member _
      rw [isParts] at member
      obtain ⟨e, -, rfl⟩ := List.mem_map.mp member
      exact Yaml.skip_tree e.2
    · intro f member never
      refine .inr ?_
      rw [shows, Option.isSome_map]
      exact needed f member never
    · rw [funext shows]
      exact fill_fields expressible holds
  -- What a drivers file cannot say is absent from the driver.
  obtain ⟨-, -, removal, extra⟩ := expressible
  obtain ⟨conditionPrefix, platform, feature, driver, assets, deployment, removed, further⟩ := d
  obtain rfl : removed = none := removal
  obtain rfl : further = [] := extra
  rw [read, reads]
  cases feature <;> cases assets <;> cases deployment <;> rfl

/-- Drivers of which a drivers file says all are read from the file that is written for them. -/
theorem decode_print {ds : List Descriptor} (expressible : ∀ d ∈ ds, d.Expressible) :
    Yaml.decode (list read) (print ds) = .ok ds := by
  -- Each driver is one map of the list, and the list is read map by map.
  have sound : ∀ r ∈ ds.map entries, Yaml.Written.Sound r := by
    intro r member
    obtain ⟨d, -, rfl⟩ := List.mem_map.mp member
    exact entries_sound d
  obtain ⟨tree, complete⟩ := Yaml.Written.tree_records sound
  have reads : list read (Tree.list none ((ds.map entries).map Written.recordTree)) = .ok ds := by
    rw [List.map_map]
    exact Yaml.list_tree (fun d member => read_recordTree (expressible d member)) none
  rw [Yaml.decode, print, tree, reads]
  exact if_pos complete

/-- What is read of a drivers file is valid, and is all that a drivers file says. -/
theorem load_ok {yaml : String} {ds : List Descriptor} (loads : load yaml = .ok ds) :
    (∀ d ∈ ds, d.Expressible) ∧ validateAll ds = .ok () := by
  -- Loading is reading, then a check, and then the drivers as they have been read.
  obtain ⟨found, decodes, rest⟩ := (bind_ok_iff ..).mp loads
  obtain ⟨⟨⟩, valid, same⟩ := (bind_ok_iff ..).mp rest
  obtain rfl := Except.ok.inj same
  refine ⟨?_, valid⟩
  -- Only a text that is read leads on to the check of the drivers.
  have decoded : Yaml.decode (list read) yaml = .ok found := by
    cases outcome : Yaml.decode (list read) yaml with
    | ok value =>
      rw [outcome] at decodes
      exact congrArg Except.ok (Except.ok.inj decodes)
    | error fault =>
      rw [outcome] at decodes
      cases decodes
  obtain ⟨value, listed, whole⟩ := (bind_ok_iff ..).mp decoded
  have same : value = found := by
    split at whole
    · exact Except.ok.inj whole
    · cases whole
  obtain ⟨nodes, -, all⟩ := (bind_ok_iff ..).mp listed
  intro d member
  obtain ⟨node, -, read⟩ := mapM_reads all d (same ▸ member)
  exact read_expressible read

/-- The drivers that are built in are valid, and a drivers file says all of them. -/
theorem builtin_ok : (∀ d ∈ builtin, d.Expressible) ∧ validateAll builtin = .ok () := by
  -- The validity and the fields are looked at one by one, as the list is fixed.
  refine ⟨fun d member => ?_, by decide +kernel⟩
  have all : ∀ d ∈ builtin, d.requiredFeature ≠ some "" ∧ d.deploymentAsset ≠ some "" ∧
      d.removal = none ∧ d.extraControllers = [] := by decide +kernel
  obtain ⟨feature, deployment, removal, extra⟩ := all d member
  exact ⟨feature, deployment, removal, extra⟩

/-- Drivers that have been read from a drivers file, or are built in, are read again as they were from
what the program prints for them, and none of their names that may be left out is empty. -/
theorem printed_reread [Wording] {ds : List Descriptor}
    (obtained : ds = builtin ∨ ∃ yaml, load yaml = .ok ds) :
    load (print ds) = .ok ds ∧
      (∀ d ∈ ds, d.requiredFeature ≠ some "" ∧ d.deploymentAsset ≠ some "") ∧
      ∀ (files : Program.FileReader Id) (environment : String → Option String)
        (arguments : List String) (invocation : CommandLine.Invocation),
        CommandLine.parse environment arguments = .ok invocation →
        invocation.effective = .drivers →
        Program.loadDrivers files invocation.options = Except.ok ds →
        Program.run files environment arguments = Program.Outcome.printed (print ds) := by
  -- However the drivers have been obtained, they are valid and can be said in a drivers file.
  have sound : (∀ d ∈ ds, d.Expressible) ∧ validateAll ds = .ok () := by
    rcases obtained with rfl | ⟨yaml, loads⟩
    · exact builtin_ok
    · exact load_ok loads
  obtain ⟨expressible, valid⟩ := sound
  refine ⟨?_, fun d member => ⟨(expressible d member).feature, (expressible d member).deployment⟩, ?_⟩
  · rw [load, decode_print expressible]
    refine (bind_ok_iff ..).mpr ⟨ds, rfl, (bind_ok_iff ..).mpr ⟨(), valid, rfl⟩⟩
  · intro files environment arguments invocation parsed drivers loaded
    rw [Program.run, parsed]
    simp only [drivers]
    rw [Program.printDrivers, loaded]
    rfl

/-- The drivers of a file are those of the text that its bytes stand for. -/
theorem loadDrivers_text {files : Program.FileReader Id} {options : CommandLine.Options}
    {path yaml : String} {bytes : List UInt8} (named : options.driversFile = some path)
    (there : files path = .ok bytes) (decoded : File.decodeText bytes = .ok yaml) :
    Program.loadDrivers files options = load yaml := by
  -- Both readings take the same way through the file, so only its bytes have to be followed.
  have text : Program.readText files path = Except.ok yaml := by
    rw [Program.readText, there]
    exact decoded
  rw [Program.loadDrivers, named]
  simp only [text]
  rfl

/-- A drivers file with a name that looks like nothing, one that looks like a number, one that is empty,
and a text with a line break. -/
def awkwardFile : String :=
  -- Without their quotes the texts would be read as something else.
  "- conditionPrefix: 'null'\n  platform: GCP\n  requireFeatureGate: ''\n  csiDriverName: '1'\n" ++
    "  staticAssets: [\"a: b\\n\"]\n"

/-- The driver of that file. -/
def awkward : Descriptor :=
  ⟨"null", .gcp, none, "1", ["a: b\n"], none, none, []⟩

/-- The program reads the file, prints the driver, and would read what it prints. -/
theorem printed_reread_awkward :
    let _ : Wording := .brief
    load awkwardFile = .ok [awkward] ∧ load (print [awkward]) = .ok [awkward] ∧
      Program.run (m := Id) (fun _ => .ok awkwardFile.toUTF8.toList) (fun _ => none)
        ["drivers", "--drivers-file", "drivers.yaml"] = Program.Outcome.printed (print [awkward]) := by
  -- The file and its text are closed, so they are evaluated; what is printed follows from the law.
  intro _
  have loads : load awkwardFile = .ok [awkward] := by decide +kernel
  obtain ⟨again, -, prints⟩ := printed_reread (.inr ⟨awkwardFile, loads⟩)
  have loaded : File.decodeText awkwardFile.toUTF8.toList = .ok awkwardFile := by decide +kernel
  have parsed : CommandLine.parse (fun _ => none) ["drivers", "--drivers-file", "drivers.yaml"] =
      .ok ⟨some .drivers, ⟨none, 60, "/manifests", some "drivers.yaml", 30, .text⟩⟩ := by
    decide +kernel
  refine ⟨loads, again, prints _ _ _ _ parsed rfl ?_⟩
  exact (loadDrivers_text rfl rfl loaded).trans loads

end Descriptor

end CsiOperator
