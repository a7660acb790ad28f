import CsiOperator.Proofs.File.Walk

/-! Names that do not climb out of a place lead below it, and nothing else counts for where they lead. -/

namespace CsiOperator.File

/-- Names that never climb out of a place when they are followed from so many folders below it. -/
def stays : (depth : Nat) → List String → Bool
  -- Empty names and single dots stay where they are, and a way up needs a folder to come from.
  | _, [] => true
  | depth, name :: rest =>
    if name.isEmpty || name == "." then stays depth rest
    else if name == ".." then
      match depth with
      | 0 => false
      | depth + 1 => stays depth rest
    else stays (depth + 1) rest

/-- A name that leads from a folder to something in it. -/
def descends (name : String) : Bool :=
  !(name.isEmpty || name == "." || name == "..")

/-- A link leads down when it stands for something below its own folder, with no way up on the way. -/
def leadsDown (target : String) : Bool :=
  !isAbsolute target && !(names target).contains ".." && (names target).any descends

/-- Names that do not climb out of a place do not do so from further below. -/
theorem stays_mono {path : List String} {depth deeper : Nat} (further : depth ≤ deeper)
    (within : stays depth path = true) : stays deeper path = true := by
  -- Induction on the names, at both depths at once; only a way up asks for the depth.
  induction path generalizing depth deeper with
  | nil => rfl
  | cons name rest ih =>
    simp only [stays] at within ⊢
    split at within
    · next same =>
      rw [if_pos same]
      exact ih further within
    · next other =>
      rw [if_neg other]
      split at within
      · next up =>
        rw [if_pos up]
        -- Where the shallower way goes up, the deeper one can go up as well.
        cases depth with
        | zero => cases within
        | succ depth =>
          obtain ⟨deeper, rfl⟩ : ∃ d, deeper = d + 1 := ⟨deeper - 1, by omega⟩
          exact ih (by omega) within
      · next down =>
        rw [if_neg down]
        exact ih (by omega) within

/-- Names without a way up lead as far down as some of them descend. -/
theorem stays_append {front rest : List String} {depth : Nat} (down : ".." ∉ front)
    (within : stays (depth + front.countP descends) rest = true) :
    stays depth (front ++ rest) = true := by
  -- By induction on the names in front, each of which goes at most one level down.
  induction front generalizing depth with
  | nil => simpa using within
  | cons name front ih =>
    obtain ⟨other, down⟩ := List.ne_and_not_mem_of_not_mem_cons down
    simp only [List.cons_append, stays]
    by_cases same : (name.isEmpty || name == ".") = true
    · -- The name leads nowhere else.
      have level : descends name = false := by simp [descends, same]
      rw [if_pos same]
      apply ih down
      simpa [List.countP_cons, level] using within
    · have deeper : descends name = true := by
        simp only [Bool.not_eq_true] at same
        simpa [descends, same] using other.symm
      rw [if_neg same, if_neg (by simpa using other.symm)]
      apply ih down
      rw [List.countP_cons_of_pos deeper] at within
      rwa [show depth + 1 + front.countP descends = depth + (front.countP descends + 1) by omega]

/-- A link that leads down is as good as a folder of its own for names that do not climb out. -/
theorem stays_target {target : String} {rest : List String} {depth : Nat}
    (down : leadsDown target = true) (within : stays (depth + 1) rest = true) :
    stays depth (names target ++ rest) = true := by
  -- A link leads down by at least one name, and by no name up.
  simp only [leadsDown, Bool.and_eq_true, Bool.not_eq_true', List.contains_eq_mem,
    decide_eq_false_iff_not, List.any_eq_true] at down
  obtain ⟨⟨-, noWayUp⟩, name, member, deeper⟩ := down
  have some_step : 0 < (names target).countP descends :=
    List.countP_pos_iff.mpr ⟨name, member, deeper⟩
  exact stays_append noWayUp (stays_mono (by omega) within)

namespace System

variable {s t : System} {base : List String}

/-- What the links stand for that are followed along names from a place, in order, at most so many. -/
def followed (s : System) : (links : Nat) → (place : List String) → List String → List String
  | 0, _, _ => []
  | links + 1, place, path =>
    -- The first link turns the rest of the names elsewhere, and there may be others on that way.
    match s.walk place path with
    | .ok (.turned folder target rest) =>
      target :: s.followed links (origin folder target) (names target ++ rest)
    | _ => []

/-- Where a link turns the names elsewhere, it is the first one that is followed. -/
theorem followed_turned {links : Nat} {place path folder rest : List String} {target : String}
    (walked : s.walk place path = .ok (.turned folder target rest)) :
    s.followed (links + 1) place path =
      target :: s.followed links (origin folder target) (names target ++ rest) := by
  -- There is no other link in front of it.
  rw [followed, walked]

/-- Two systems have the same below a place. -/
def AgreeBelow (s t : System) (base : List String) : Prop :=
  ∀ below, t.entryAt (base ++ below) = s.entryAt (base ++ below)

/-- A walk has stopped below a place, and what is left of it does not climb out of there. -/
inductive StopsBelow (base : List String) : Stop → Prop
  /-- It has come to an end there. -/
  | arrived (below : List String) : StopsBelow base (.arrived (base ++ below))
  /-- It has come to a link in a folder there. -/
  | turned {below rest : List String} (target : String) : stays (below.length + 1) rest = true →
    StopsBelow base (.turned (base ++ below) target rest)

/-- A walk along names that do not climb out of a place stops below it, and sees nothing else. -/
theorem walk_below (agree : s.AgreeBelow t base) (path : List String) (below : List String)
    (within : stays below.length path = true) :
    t.walk (base ++ below) path = s.walk (base ++ below) path ∧
      ∀ stop, s.walk (base ++ below) path = .ok stop → StopsBelow base stop := by
  -- Each name leads to a place below again, or to a link there.
  induction path generalizing below with
  | nil =>
    refine ⟨rfl, fun stop reached => ?_⟩
    rw [← Except.ok.inj reached]
    exact .arrived below
  | cons name rest ih =>
    rw [walk_cons, walk_cons, agree below]
    simp only [stays] at within
    by_cases folder : s.entryAt (base ++ below) = some .folder
    · rw [if_neg (not_not_intro folder), if_neg (not_not_intro folder)]
      split at within
      · next same =>
        rw [if_pos same, if_pos same]
        exact ih below within
      · next other =>
        rw [if_neg other, if_neg other]
        split at within
        · next up =>
          rw [if_pos up, if_pos up]
          -- There is a folder to go back to without leaving the place.
          obtain ⟨front, last, rfl⟩ : ∃ front last, below = front ++ [last] := by
            rcases List.eq_nil_or_concat below with rfl | ⟨front, last, rfl⟩
            · cases within
            · exact ⟨front, last, by simp⟩
          rw [← List.append_assoc, List.dropLast_concat]
          rw [List.length_append, List.length_singleton] at within
          exact ih front within
        · next down =>
          rw [if_neg down, if_neg down]
          by_cases long : maxName < name.utf8ByteSize
          · rw [if_pos long, if_pos long]
            exact ⟨rfl, fun stop reached => nomatch reached⟩
          · rw [if_neg long, if_neg long, List.append_assoc, agree (below ++ [name])]
            have further := ih (below ++ [name]) (by simpa using within)
            cases found : s.entryAt (base ++ (below ++ [name])) with
            | none => exact ⟨rfl, fun stop reached => nomatch reached⟩
            | some entry =>
              cases entry with
              | folder | file => exact further
              | link target =>
                refine ⟨rfl, fun stop reached => ?_⟩
                rw [← Except.ok.inj reached]
                exact .turned target within
    · rw [if_pos folder, if_pos folder]
      exact ⟨rfl, fun stop reached => nomatch reached⟩

/-- Following names that do not climb out of a place leads below it, and sees nothing else, as long as
the links on the way lead down. -/
theorem follow_below (agree : s.AgreeBelow t base) (links : Nat) (path below : List String)
    (down : ∀ target ∈ s.followed links (base ++ below) path, leadsDown target = true)
    (within : stays below.length path = true) :
    t.follow links (base ++ below) path = s.follow links (base ++ below) path ∧
      ∀ left place, s.follow links (base ++ below) path = .ok (left, place) → base <+: place := by
  -- The names up to the next link agree; from there the link's target is what has to lead down.
  obtain ⟨same, stops⟩ := walk_below agree path below within
  rw [follow_eq, follow_eq, same]
  cases walked : s.walk (base ++ below) path with
  | error fault => exact ⟨rfl, fun left place led => nomatch led⟩
  | ok stop =>
    cases stops stop walked with
    | arrived reached =>
      refine ⟨rfl, fun left place led => ?_⟩
      obtain ⟨-, rfl⟩ := Prod.mk.inj (Except.ok.inj led)
      exact List.prefix_append _ _
    | @turned lower rest target later =>
      cases links with
      | zero => exact ⟨rfl, fun left place led => nomatch led⟩
      | succ links =>
        -- A link uses up one of those that are left, and puts its names in front of the others.
        rw [followed_turned walked, List.forall_mem_cons] at down
        obtain ⟨leads, others⟩ := down
        have relative : isAbsolute target = false := by
          simp only [leadsDown, Bool.and_eq_true, Bool.not_eq_true'] at leads
          exact leads.1.1
        have begins : origin (base ++ lower) target = base ++ lower := by
          rw [origin, relative]
          rfl
        rw [begins] at others
        have further := follow_below agree links _ lower others (stays_target leads later)
        rw [← begins] at further
        exact further
termination_by links

/-- A walk along names begins in a folder. -/
theorem folder_of_lead {links left : Nat} {place reached path : List String} (names : path ≠ [])
    (led : s.follow links place path = .ok (left, reached)) : s.entryAt place = some .folder := by
  -- A walk with a name left looks at its place first, and fails unless that is a folder.
  obtain ⟨name, rest, rfl⟩ := List.exists_cons_of_ne_nil names
  by_contra other
  rw [follow_eq, walk_cons, if_pos other] at led
  cases led

/-- A path that can be resolved leads somewhere. -/
theorem exists_of_resolve {path : String} {place : List String}
    (resolves : s.resolve path = .ok place) : ∃ left, s.lead path = .ok (left, place) := by
  -- A path that resolves has passed the check for the empty text, and then it has been followed.
  rw [resolve] at resolves
  split_ifs at resolves
  cases led : s.lead path with
  | error fault => rw [led] at resolves; cases resolves
  | ok reached =>
    rw [led] at resolves
    exact ⟨reached.1, by rw [← Except.ok.inj resolves]⟩

/-- A text that is read stands in a file where the path leads. -/
theorem exists_of_readText {path text : String} (read : s.readText path = .ok text) :
    ∃ left place bytes, s.lead path = .ok (left, place) ∧ s.entryAt place = some (.file bytes) ∧
      decodeText bytes = .ok text := by
  -- Reading a text resolves the path, looks at the place and decodes, each of which succeeded.
  obtain ⟨bytes, read, decodes⟩ := (Failure.bind_ok_iff _ _ _).mp read
  obtain ⟨place, resolves, stands⟩ := (Failure.bind_ok_iff _ _ _).mp read
  obtain ⟨left, led⟩ := exists_of_resolve resolves
  refine ⟨left, place, bytes, led, ?_, decodes⟩
  rw [bytesAt] at stands
  split at stands
  · next found => rw [found, Except.ok.inj stands]
  · cases stands
  · cases stands

/-- What is read along a path depends on where it leads, and on what there is. -/
theorem readText_congr {path : String} (leads : t.lead path = s.lead path)
    (agree : ∀ left place, s.lead path = .ok (left, place) → t.entryAt place = s.entryAt place) :
    t.readText path = s.readText path := by
  -- The way is the same by the first assumption, so only the place at its end is still to compare.
  have reached : t.resolve path = s.resolve path := by rw [resolve, resolve, leads]
  rw [readText, readText, readBytes, readBytes, reached]
  cases resolves : s.resolve path with
  | error fault => rfl
  | ok place =>
    obtain ⟨left, led⟩ := exists_of_resolve resolves
    rw [Failure.ok_bind, Failure.ok_bind, bytesAt, bytesAt, agree left place led]

/-- A look-up that stays below a place sees only what is there. -/
theorem lookup_below {α : Type} (entries : List (List String × α)) (base below : List String) :
    (entries.filter fun entry => base.isPrefixOf entry.1).lookup (base ++ below) =
      entries.lookup (base ++ below) := by
  -- By induction on the entries: what the filter drops stands at no place below the base.
  induction entries with
  | nil => rfl
  | cons entry rest ih =>
    rw [List.filter_cons, List.lookup_cons]
    cases same : base ++ below == entry.1 with
    | true =>
      -- What is looked up is kept, since it stands below the place.
      have inside : base.isPrefixOf entry.1 = true := by
        rw [← beq_iff_eq.mp same, List.isPrefixOf_iff_prefix]
        exact List.prefix_append _ _
      rw [if_pos inside, List.lookup_cons, same]
    | false =>
      rw [← ih]
      split
      · rw [List.lookup_cons, same]
      · rfl

/-- What a system tells of the places below a place. -/
def restrict (s : System) (base : List String) : System where
  -- The working folder is told by the place alone, so it stays as it is.
  files := s.files.filter fun entry => base.isPrefixOf entry.1
  here := s.here
  folders := s.folders.filter fun place => base.isPrefixOf place
  links := s.links.filter fun entry => base.isPrefixOf entry.1

/-- Everything below a place is told by what a system tells of the places there. -/
theorem agreeBelow_restrict (s : System) (base : List String) :
    (s.restrict base).AgreeBelow s base := by
  -- A place is a folder by the places around it and a file by its entry, so both are compared.
  intro below
  have folder : (s.restrict base).isFolder (base ++ below) = s.isFolder (base ++ below) := by
    have inside : base.isPrefixOf (base ++ below) = true :=
      List.isPrefixOf_iff_prefix.mpr (List.prefix_append _ _)
    have places : (s.restrict base).places = s.places.filter fun place => base.isPrefixOf place := by
      simp only [System.places, restrict, List.filter_append, List.filter_map]
      rfl
    have told : (s.folders.filter fun place => base.isPrefixOf place).contains (base ++ below) =
        s.folders.contains (base ++ below) := by
      simp [List.contains_eq_mem, inside]
    rw [isFolder, isFolder, places, List.any_filter]
    simp only [restrict, told]
    congr 2
    funext other
    -- Whatever there is in a folder below the place is below the place itself.
    by_cases holds : (base ++ below).isPrefixOf other = true
    · have through : base.isPrefixOf other = true := by
        rw [List.isPrefixOf_iff_prefix] at holds ⊢
        exact (List.prefix_append _ _).trans holds
      rw [through, Bool.true_and]
    · simp only [Bool.not_eq_true] at holds
      rw [holds, Bool.false_and, Bool.and_false]
  rw [entryAt, entryAt, folder]
  simp only [restrict, lookup_below]

/-- Changes elsewhere leave everything below a place as it is. -/
theorem agreeBelow_of_restrict (same : t.restrict base = s.restrict base) : s.AgreeBelow t base := by
  -- Each system is as its restriction below the base, and the restrictions are one.
  intro below
  rw [agreeBelow_restrict t base below, same, ← agreeBelow_restrict s base below]

end System

end CsiOperator.File
