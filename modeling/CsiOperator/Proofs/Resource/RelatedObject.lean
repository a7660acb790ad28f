import CsiOperator.Proofs.Decode.Field
import CsiOperator.Resource.RelatedObject

/-! A reference keeps its meaning on its way through documents. -/

namespace CsiOperator.RelatedObject

open Decode
open Json (Tree)

/-- The text that an object has under a name. -/
def textAt (name : String) (json : Json) : Option String :=
  (json.get? name).bind Json.text?

/-- The reference that a value stands for; without a namespace it is to the whole cluster. -/
def ofJson? (json : Json) : Option RelatedObject := do
  -- Three texts are needed, and a fourth one may be missing.
  return {
    group := ← textAt "group" json
    resource := ← textAt "resource" json
    space := (textAt "namespace" json).getD ""
    name := ← textAt "name" json }

/-- What is written stands for the reference. -/
theorem ofJson?_toJson (o : RelatedObject) : ofJson? o.toJson = some o := by
  -- Three of the four fields are written as they are.
  obtain ⟨group, resource, space, name⟩ := o
  -- An empty namespace is left out, and one that is left out is empty.
  by_cases whole : space.isEmpty
  · obtain rfl : space = "" := by simpa using whole
    rfl
  · simp [ofJson?, textAt, toJson, Json.record, whole, Json.get?, Json.lookup_cons_eq, Json.text?]

/-- Each field of a reference reads its own text. -/
theorem fields_hold :
    Holds fields "group" Draft.group (given text) ∧
      Holds fields "resource" Draft.resource (given text) ∧
      Holds fields "namespace" Draft.space (given text) ∧
      Holds fields "name" Draft.name (given text) := by
  -- Each field is looked up by its name in the list of fields.
  refine ⟨⟨?_, ?_, ?_⟩, ⟨?_, ?_, ?_⟩, ⟨?_, ?_, ?_⟩, ⟨?_, ?_, ?_⟩⟩
  -- There are four fields, and each of them sets its own part of a draft.
  all_goals simp [fields, given]

/-- What is read is what the object stands for. -/
theorem ofJson?_of_read {node : Tree} {parts : List (String × Json)} {o : RelatedObject}
    (shows : node.readAny = .ok (.object parts)) (reads : read node = .ok o) :
    ofJson? (.object parts) = some o := by
  -- All that is read comes from the draft, of which three fields are needed.
  simp only [read, Failure.bind_ok_iff, Failure.pure_ok_iff, present_ok_iff] at reads
  obtain ⟨d, taken, group, hasGroup, resource, hasResource, name, hasName, rfl⟩ := reads
  obtain ⟨byGroup, byResource, bySpace, byName⟩ := fields_hold
  -- Each field of the draft is the text that the object has under its name.
  have readGroup : textAt "group" (.object parts) = some group :=
    (record_readFrom byGroup shows taken).text.trans hasGroup
  have readResource : textAt "resource" (.object parts) = some resource :=
    (record_readFrom byResource shows taken).text.trans hasResource
  have readSpace : textAt "namespace" (.object parts) = d.space :=
    (record_readFrom bySpace shows taken).text
  have readName : textAt "name" (.object parts) = some name :=
    (record_readFrom byName shows taken).text.trans hasName
  simp [ofJson?, readGroup, readResource, readSpace, readName]

/-- What is read is what the value stands for, if it stands for anything. -/
theorem read_eq {node : Tree} {json : Json} {o meant : RelatedObject}
    (shows : node.readAny = .ok json) (reads : read node = .ok o)
    (means : ofJson? json = some meant) : o = meant := by
  -- Only an object stands for a reference.
  cases json with
  | object parts => simpa [ofJson?_of_read shows reads] using means
  | _ => simp [ofJson?, textAt, Json.get?] at means

/-- References are read one by one as what the items of a list stand for. -/
theorem list_read_eq {node : Tree} {items : List Json} {objects meant : List RelatedObject}
    (shows : node.readAny = .ok (.array items)) (reads : list read node = .ok objects)
    (means : items.mapM ofJson? = some meant) : objects = meant := by
  -- Both sides go through the items of one list.
  obtain ⟨nodes, rfl, listed⟩ := shape_of_readAny shows
  clear shows
  change nodes.mapM read = .ok objects at reads
  -- The items are gone through side by side with what they show and what they stand for.
  induction nodes generalizing items objects meant with
  | nil =>
    obtain rfl : [] = items := by simpa [Tree.readAnyItems] using listed
    obtain rfl : [] = objects := by simpa [Failure.pure_ok_iff] using reads
    simpa using means
  | cons node rest ih =>
    simp only [Tree.readAnyItems, Failure.bind_ok_iff, Failure.pure_ok_iff] at listed
    obtain ⟨json, showsFirst, later, showsRest, rfl⟩ := listed
    simp only [List.mapM_cons, Failure.bind_ok_iff, Failure.pure_ok_iff] at reads
    obtain ⟨o, readFirst, others, readRest, rfl⟩ := reads
    simp only [List.mapM_cons, Option.bind_eq_bind, Option.bind_eq_some_iff, Option.pure_def,
      Option.some.injEq] at means
    obtain ⟨meantFirst, meansFirst, meantRest, meansRest, rfl⟩ := means
    rw [read_eq showsFirst readFirst meansFirst, ih meansRest showsRest readRest]

end CsiOperator.RelatedObject
