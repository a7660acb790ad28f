import CsiOperator.File.System
import CsiOperator.Proofs.Failure
import CsiOperator.Proofs.Text.Trimmed

/-! Names along a path are followed one after another, so that a joined path continues the first one. -/

namespace CsiOperator.File

/-- Another path behind a slash adds its names to those that are there. -/
theorem splitAt_append (front more : List Char) : Text.splitAt '/' (front ++ '/' :: more) =
    Text.splitAt '/' front ++ Text.splitAt '/' more := by
  -- The pieces of a text are the library's, which has this law for its own.
  simp only [Text.splitAt_eq_splitOn]
  exact List.splitOn_append_cons_self front more

/-- Every path has at least one name. -/
theorem splitAt_ne_nil (path : List Char) : Text.splitAt '/' path ≠ [] := by
  -- The pieces are the library's, of which there is always one.
  rw [Text.splitAt_eq_splitOn]
  exact List.splitOn_ne_nil '/' path

/-- A path that does not begin at the root has at least one name. -/
theorem names_ne_nil {path : String} (relative : isAbsolute path = false) : names path ≠ [] := by
  -- No name is dropped from a path that begins elsewhere, so all of its pieces are names.
  simp only [names, relative, Bool.false_eq_true, if_false, ne_eq, List.map_eq_nil_iff]
  exact splitAt_ne_nil _

/-- The names behind a slash come after those in front of it. -/
theorem names_behind (front : List Char) (whole path : String)
    (spelled : whole.toList = front ++ '/' :: path.toList) (relative : isAbsolute path = false) :
    names whole = ((Text.splitAt '/' front).map String.ofList).drop
      (if isAbsolute whole then 1 else 0) ++ names path := by
  -- The slash parts the pieces, of which those behind it are the names of the path.
  have pieces : (Text.splitAt '/' whole.toList).map String.ofList =
      (Text.splitAt '/' front).map String.ofList ++ names path := by
    rw [spelled, splitAt_append, List.map_append, names, relative]
    rfl
  -- At most one name is dropped, and there is one in front of the slash.
  have some_name : 1 ≤ ((Text.splitAt '/' front).map String.ofList).length := by
    rw [List.length_map]
    exact List.length_pos_of_ne_nil (splitAt_ne_nil front)
  rw [names, pieces]
  cases isAbsolute whole with
  | false => rfl
  | true => exact List.drop_append_of_le_length some_name

/-- The names of a path below a folder come after those of the folder, which may end with an empty name
that is left out. -/
theorem names_join {folder path : String} (told : folder.isEmpty = false)
    (relative : isAbsolute path = false) :
    isAbsolute (join folder path) = isAbsolute folder ∧
      ∃ front, names (join folder path) = front ++ names path ∧
        (names folder = front ∨ names folder = front ++ [""]) := by
  -- Whether the joined path is absolute is told by its first character, which the folder gives.
  have some_char : folder.toList ≠ [] := by simpa using told
  have same_begin (more : String) : isAbsolute (folder ++ more) = isAbsolute folder := by
    obtain ⟨c, rest, spelled⟩ := List.exists_cons_of_ne_nil some_char
    simp [isAbsolute, spelled]
  have other : ¬ ((path.toList.head? == some '/') || folder.isEmpty) = true := by
    rw [told, Bool.or_false]
    exact Bool.eq_false_iff.mp relative
  rw [join, if_neg other]
  split
  · next slash =>
    -- The slash is there already, and leaves an empty name behind the others of the folder.
    obtain ⟨front, ends⟩ := List.getLast?_eq_some_iff.mp (beq_iff_eq.mp slash)
    refine ⟨same_begin path, _, names_behind front _ path (by simp [ends]) relative, .inr ?_⟩
    rw [same_begin]
    exact names_behind front folder "" (by simpa using ends) rfl
  · rw [String.append_assoc]
    refine ⟨same_begin _, _, names_behind folder.toList _ path (by simp) relative, .inl ?_⟩
    rw [same_begin, names]
    cases isAbsolute folder <;> rfl

namespace System

variable (s : System)

/-- Goes on along more names from where a walk has stopped. -/
def further (more : List String) : Stop → Except Fault Stop
  -- A walk that has turned at a link has the names still in front of it.
  | .arrived place => s.walk place more
  | .turned folder target rest => .ok (.turned folder target (rest ++ more))

/-- One name along a path. -/
theorem walk_cons (place : List String) (name : String) (rest : List String) :
    s.walk place (name :: rest) =
      if s.entryAt place ≠ some .folder then .error .notFolder
      else if name.isEmpty || name == "." then s.walk place rest
      else if name == ".." then s.walk place.dropLast rest
      else if maxName < name.utf8ByteSize then .error .tooLong
      else match s.entryAt (place ++ [name]) with
        | none => .error .missing
        | some (.link target) => .ok (.turned place target rest)
        | some _ => s.walk (place ++ [name]) rest :=
  -- The walk looks at its first name only, so this is what it computes.
  rfl

/-- Names behind others are followed from where those lead. -/
theorem walk_append (place front more : List String) :
    s.walk place (front ++ more) = s.walk place front >>= s.further more := by
  -- Both sides take the same turn at the first name.
  induction front generalizing place with
  | nil => rfl
  | cons name rest ih =>
    rw [List.cons_append, walk_cons, walk_cons]
    by_cases folder : s.entryAt place = some .folder
    · by_cases stays : (name.isEmpty || name == ".") = true
      · simp only [folder, stays, ne_eq, not_true_eq_false, if_false, if_true, ih]
      · by_cases up : (name == "..") = true
        · simp only [folder, stays, up, ne_eq, not_true_eq_false, Bool.false_eq_true, if_false,
            if_true, ih]
        · by_cases long : maxName < name.utf8ByteSize
          · simp only [folder, stays, up, long, ne_eq, not_true_eq_false, if_false, if_true]
            rfl
          · simp only [folder, stays, up, long, ne_eq, not_true_eq_false, if_false]
            cases s.entryAt (place ++ [name]) with
            | none => rfl
            | some entry =>
              cases entry with
              | link target => rfl
              | folder | file => exact ih _
    · simp only [folder, ne_eq, not_false_eq_true, if_true]
      rfl

/-- An empty name in front of others changes nothing. -/
theorem walk_blank (place : List String) {more : List String} (some_name : more ≠ []) :
    s.walk place ("" :: more) = s.walk place more := by
  -- The name in front is looked up from the same folder, in which an empty name stays.
  obtain ⟨name, rest, rfl⟩ := List.exists_cons_of_ne_nil some_name
  rw [walk_cons s place ""]
  by_cases folder : s.entryAt place = some .folder
  · simp [folder]
  · -- Neither way goes on from what is no folder.
    rw [walk_cons]
    simp [folder]

/-- Goes on following names from where a walk has stopped. -/
def resume (links : Nat) : Stop → Except Fault (Nat × List String)
  -- A link that is followed is one less for the rest of the way.
  | .arrived place => .ok (links, place)
  | .turned folder target rest =>
    match links with
    | 0 => .error .tooManyLinks
    | links + 1 => s.follow links (origin folder target) (names target ++ rest)

/-- Names are followed up to the first link, and then on from there. -/
theorem follow_eq (links : Nat) (place path : List String) :
    s.follow links place path = s.walk place path >>= s.resume links := by
  -- With no link left the walk's own stop decides; otherwise the link is followed with one fewer.
  cases links with
  | zero =>
    rw [follow]
    cases s.walk place path with
    | error fault => rfl
    | ok stop => cases stop <;> rfl
  | succ links =>
    rw [follow]
    cases s.walk place path with
    | error fault => rfl
    | ok stop => cases stop <;> rfl

/-- Names behind others are followed from where those lead, through as many links as are left. -/
theorem follow_append (links : Nat) (place front more : List String) :
    s.follow links place (front ++ more) =
      s.follow links place front >>= fun (left, reached) => s.follow left reached more := by
  -- The induction is on the links that are left, one of which is used up at each turn.
  induction links generalizing place front with
  | zero =>
    rw [follow_eq, follow_eq, walk_append]
    cases s.walk place front with
    | error fault => rfl
    | ok stop =>
      cases stop with
      | arrived reached => exact (s.follow_eq 0 reached more).symm
      | turned folder target rest => rfl
  | succ links ih =>
    rw [follow_eq, follow_eq, walk_append]
    cases s.walk place front with
    | error fault => rfl
    | ok stop =>
      cases stop with
      | arrived reached => exact (s.follow_eq (links + 1) reached more).symm
      | turned folder target rest =>
        show s.follow links (origin folder target) (names target ++ (rest ++ more)) = _
        rw [← List.append_assoc]
        exact ih _ _

/-- An empty name in front of others changes nothing, whatever links there are. -/
theorem follow_blank (links : Nat) (place : List String) {more : List String}
    (some_name : more ≠ []) : s.follow links place ("" :: more) = s.follow links place more := by
  rw [follow_eq, follow_eq, walk_blank s place some_name]

/-- The working folder is a folder. -/
theorem entryAt_here : s.entryAt s.here = some .folder := by
  -- The working folder exists by the shape of a system, whatever its files are.
  rw [entryAt, if_pos]
  simp [isFolder]

/-- A path below a folder is followed from where the folder leads. -/
theorem lead_join (folder : String) {path : String} (relative : isAbsolute path = false) :
    s.lead (join folder path) =
      s.lead folder >>= fun (links, reached) => s.follow links reached (names path) := by
  -- The folder may be empty or end in a slash, and its names then differ in their last.
  cases told : folder.isEmpty with
  | true =>
    -- An empty folder is the working folder, in which the path begins anyway.
    obtain rfl : folder = "" := by simpa using told
    have stays : s.lead "" = .ok (maxLinks, s.here) := by
      show s.follow maxLinks s.here [""] = _
      rw [follow_eq, walk_cons]
      simp only [entryAt_here]
      rfl
    rw [stays, join, if_pos (by simp), lead, origin, relative]
    rfl
  | false =>
    obtain ⟨begins, front, joined, ends⟩ := names_join told relative
    have further : s.lead (join folder path) =
        s.follow maxLinks (origin s.here folder) (names folder ++ names path) := by
      rw [lead, origin, begins, joined]
      obtain same | blank := ends
      · rw [same]
        rfl
      · -- The empty name at the end of the folder makes no difference.
        rw [blank, List.append_assoc, List.singleton_append, follow_append, follow_append]
        simp only [follow_blank s _ _ (names_ne_nil relative)]
        rfl
    rw [further, follow_append]
    rfl

end System

end CsiOperator.File
