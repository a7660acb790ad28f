/-! An object at a server that gives every content of it a version of its own. -/

namespace CsiOperator.Api

/-- A content and the version under which it is stored. -/
structure Stored (α : Type) where
  /-- The version. -/
  version : String
  /-- The content. -/
  content : α
  deriving DecidableEq, Repr

/-- A place for one object, and the versions that have been given to its contents. -/
structure Store (α : Type) where
  /-- The object, while there is one. -/
  object : Option (Stored α)
  /-- The versions that have been given so far. -/
  used : List String
  /-- The version of the object has been given. -/
  known : ∀ o, object = some o → o.version ∈ used

namespace Store

variable {α : Type}

/-- Another content takes the place of the object, under a version of its own. -/
def put (s : Store α) (version : String) (content : α) : Store α where
  -- What has been used stays used, so that a fresh version can be told from it.
  object := some ⟨version, content⟩
  used := version :: s.used
  known := by simp

/-- The object is removed. -/
def remove (s : Store α) : Store α where
  -- The versions that were used stay so, even when a new object is put in later.
  object := none
  used := s.used
  known := by simp

/-- A version stands for a content, if it is still the version of the object. -/
structure Recalls (s : Store α) (version : String) (content : α) : Prop where
  /-- The version has been given. -/
  given : version ∈ s.used
  /-- Where the object still has the version, it has the content. -/
  same : ∀ o, s.object = some o → o.version = version → o.content = content

/-- The version of the object stands for its content. -/
theorem recalls_object {s : Store α} {o : Stored α} (present : s.object = some o) :
    s.Recalls o.version o.content := by
  -- The store has one object only, so that any other one with the version is the same.
  refine ⟨s.known o present, fun other found _ => ?_⟩
  rw [present, Option.some.injEq] at found
  rw [found]

/-- A version keeps standing for its content when another content gets a fresh version. -/
theorem Recalls.put {s : Store α} {version : String} {content : α}
    (recalls : s.Recalls version content) {fresh : String} (unused : fresh ∉ s.used) (new : α) :
    (s.put fresh new).Recalls version content := by
  -- The new object cannot have the old version, which has been given already.
  refine ⟨List.mem_cons_of_mem _ recalls.given, fun o found taken => ?_⟩
  -- The object has a version now that has never been given before.
  obtain rfl : ⟨fresh, new⟩ = o := Option.some.inj found
  have again : fresh = version := taken
  rw [again] at unused
  exact absurd recalls.given unused

/-- A version keeps standing for its content when the object is removed. -/
theorem Recalls.remove {s : Store α} {version : String} {content : α}
    (recalls : s.Recalls version content) : s.remove.Recalls version content :=
  ⟨recalls.given, fun _ found => absurd found (by simp [Store.remove])⟩

end Store

end CsiOperator.Api
