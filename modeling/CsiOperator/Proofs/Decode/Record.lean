import CsiOperator.Decode.Source
import CsiOperator.Proofs.Failure
import CsiOperator.Proofs.Json.Entries
import Mathlib.Data.List.Nodup

/-! What is read of named parts does not depend on their order. -/

namespace CsiOperator.Decode

open Failure (bind_ok_iff ok_bind pure_ok_iff)

variable {ν σ β γ : Type}

/-- Reads what is given under the names of the fields, in the order of the fields. -/
def fill : List (String × (σ → ν → Read σ)) → σ → (String → Option ν) → Read σ
  -- Only the order of the fields counts here, not the one in which they were given.
  | [], draft, _ => .ok draft
  | (name, read) :: rest, draft, given =>
    match given name with
    | none => fill rest draft given
    | some node => do fill rest (← read draft node) given

/-- Nothing matters but what is given under the names of the fields. -/
theorem fill_congr {fields : List (String × (σ → ν → Read σ))} {given other : String → Option ν}
    (same : ∀ f ∈ fields, given f.1 = other f.1) (draft : σ) :
    fill fields draft given = fill fields draft other := by
  -- Induction on the fields; each asks for its own name only.
  induction fields generalizing draft with
  | nil => rfl
  | cons f rest ih =>
    obtain ⟨first, others⟩ := List.forall_mem_cons.mp same
    simp only [fill, first]
    cases other f.1 with
    | none => exact ih others draft
    | some node => exact bind_congr fun _ => ih others _

/-- Two readings come to the same in either order, if both succeed. -/
def Commute (f g : σ → ν → Read σ) : Prop :=
  ∀ draft x y done, (do g (← f draft x) y) = .ok done ↔ (do f (← g draft y) x) = .ok done

/-- Readings that put what they read into different parts of a draft come to the same in either
order. -/
theorem Commute.of_put {readFirst : ν → Read β} {readSecond : ν → Read γ} {putFirst : σ → β → σ}
    {putSecond : σ → γ → σ}
    (apart : ∀ draft x y, putSecond (putFirst draft x) y = putFirst (putSecond draft y) x) :
    Commute (fun draft node => do return putFirst draft (← readFirst node))
      fun draft node => do return putSecond draft (← readSecond node) := by
  -- The two values are read whether or not the other one has been put yet, so only the order of
  -- putting them differs.
  intro draft x y done
  simp only [bind_ok_iff, pure_ok_iff]
  constructor
  · rintro ⟨_, ⟨first, reads, rfl⟩, second, reads', rfl⟩
    exact ⟨_, ⟨second, reads', rfl⟩, first, reads, (apart draft first second).symm⟩
  · rintro ⟨_, ⟨second, reads, rfl⟩, first, reads', rfl⟩
    exact ⟨_, ⟨first, reads', rfl⟩, second, reads, apart draft first second⟩

/-- Fields with names of their own, which may be read in any order. -/
structure Independent (fields : List (String × (σ → ν → Read σ))) : Prop where
  /-- No two fields have one name. -/
  names : (fields.map (·.1)).Nodup
  /-- Any two fields may be read in either order. -/
  commute : fields.Pairwise fun f g => Commute f.2 g.2

/-- What is found under a name is among the fields. -/
theorem mem_of_lookup {fields : List (String × γ)} {name : String} {found : γ}
    (field : fields.lookup name = some found) : (name, found) ∈ fields := by
  -- The lookup stops at a field of that name.
  obtain ⟨before, after, rfl, -⟩ := List.lookup_eq_some_iff.mp field
  simp

/-- What is given in addition may as well be read first. -/
theorem Independent.fill_given {fields : List (String × (σ → ν → Read σ))}
    (independent : Independent fields) {name : String} {read : σ → ν → Read σ}
    (field : fields.lookup name = some read) {node : ν} {given more : String → Option ν}
    (absent : given name = none) (present : more name = some node)
    (same : ∀ other, other ≠ name → more other = given other) (draft done : σ) :
    fill fields draft more = .ok done ↔
      ∃ mid, read draft node = .ok mid ∧ fill fields mid given = .ok done := by
  -- The names are needed to know that no field in front is the one that has it.
  obtain ⟨names, commute⟩ := independent
  -- The field that has the name changes places with all fields before it.
  induction fields generalizing draft with
  | nil => cases field
  | cons f rest ih =>
    obtain ⟨n, r⟩ := f
    obtain ⟨fresh, names⟩ := List.nodup_cons.mp names
    obtain ⟨commutes, commute⟩ := List.pairwise_cons.mp commute
    rw [Json.lookup_cons_eq] at field
    by_cases here : name = n
    · subst here
      obtain rfl : r = read := by simpa using field
      -- No later field asks for the name again.
      have later (mid : σ) : fill rest mid more = fill rest mid given := by
        refine fill_congr (fun f member => same f.1 fun again => ?_) mid
        exact fresh (List.mem_map.mpr ⟨f, member, again⟩)
      simp only [fill, present, absent, bind_ok_iff, later]
    · rw [if_neg here] at field
      have first := same n (Ne.symm here)
      simp only [fill, first]
      cases given n with
      | none => exact ih field draft names commute
      | some x =>
        simp only [bind_ok_iff, ih field _ names commute]
        have swap := fun mid => commutes (name, read) (mem_of_lookup field) draft x node mid
        simp only [bind_ok_iff] at swap
        constructor
        · rintro ⟨mid, first, mid', second, later⟩
          obtain ⟨mid'', first, second⟩ := (swap mid').mp ⟨mid, first, second⟩
          exact ⟨mid'', first, mid', second, later⟩
        · rintro ⟨mid, first, mid', second, later⟩
          obtain ⟨mid'', first, second⟩ := (swap mid').mpr ⟨mid, first, second⟩
          exact ⟨mid'', first, mid', second, later⟩

/-- Nothing is found under a name that no part has. -/
theorem lookup_absent {name : String} {parts : List (String × γ)}
    (fresh : name ∉ parts.map (·.1)) : parts.lookup name = none := by
  -- A part that could be found would have the name.
  rw [List.lookup_eq_none_iff]
  intro p member
  rw [bne_iff_ne]
  rintro rfl
  exact fresh (List.mem_map.mpr ⟨p, member, rfl⟩)

/-- What has a name of its own is found under it. -/
theorem lookup_of_mem {parts : List (String × γ)} (distinct : (parts.map (·.1)).Nodup)
    {part : String × γ} (member : part ∈ parts) : parts.lookup part.1 = some part.2 := by
  -- The first part is found at once, or it has another name than the one looked for.
  induction parts with
  | nil => cases member
  | cons first rest ih =>
    obtain ⟨fresh, distinct⟩ := List.nodup_cons.mp distinct
    rw [Json.lookup_cons_eq]
    rcases List.mem_cons.mp member with rfl | later
    · exact if_pos rfl
    · rw [if_neg, ih distinct later]
      intro same
      exact fresh (List.mem_map.mpr ⟨part, later, same⟩)

/-- What is done to all values is done to the one that is found. -/
theorem lookup_map (f : γ → β) (entries : List (String × γ)) (name : String) :
    (entries.map fun e => (e.1, f e.2)).lookup name = (entries.lookup name).map f := by
  -- Names are left alone, so the same entry is the first of its name.
  induction entries with
  | nil => rfl
  | cons e rest ih =>
    rw [List.map_cons, Json.lookup_cons_eq, Json.lookup_cons_eq, ih]
    split <;> rfl

/-- A part that is given under a fresh name is found there, and the others are found as before. -/
theorem lookup_fresh {name : String} {node : ν} {rest : List (String × ν)}
    (distinct : (((name, node) :: rest).map (·.1)).Nodup) :
    rest.lookup name = none ∧ ((name, node) :: rest).lookup name = some node ∧
      ∀ other, other ≠ name → ((name, node) :: rest).lookup other = rest.lookup other := by
  -- Names of their own keep the first part from being found among the others, and the others from
  -- being found in its place.
  obtain ⟨fresh, -⟩ := List.nodup_cons.mp distinct
  refine ⟨lookup_absent fresh, by rw [Json.lookup_cons_eq, if_pos rfl], fun other apart => ?_⟩
  rw [Json.lookup_cons_eq, if_neg apart]

/-- A part with another name than those of the fields does not matter. -/
theorem fill_unknown {fields : List (String × (σ → ν → Read σ))} {name : String} {node : ν}
    {rest : List (String × ν)} (unknown : fields.lookup name = none) (draft : σ) :
    fill fields draft (((name, node) :: rest).lookup ·) = fill fields draft (rest.lookup ·) := by
  -- No field asks for its name.
  refine fill_congr (fun f member => ?_) draft
  rw [Json.lookup_cons_eq, if_neg]
  rintro rfl
  simpa using List.lookup_eq_none_iff.mp unknown f member

/-- Where nothing is given nothing is read. -/
theorem fill_nothing (fields : List (String × (σ → ν → Read σ))) (draft : σ) :
    fill fields draft (fun _ => none) = .ok draft := by
  -- Every field passes the draft on as it is.
  induction fields with
  | nil => rfl
  | cons f rest ih => exact ih

/-- What is given under the name of a field is put into the draft. -/
theorem fill_present {name : String} {put : σ → β → σ} {read : ν → Read β}
    {rest : List (String × (σ → ν → Read σ))} {draft : σ} {given : String → Option ν} {node : ν}
    {value : β} (shows : given name = some node) (reads : read node = .ok value) :
    fill ((name, fun draft node => do return put draft (← read node)) :: rest) draft given =
      fill rest (put draft value) given := by
  -- The field is there, and what follows goes on from the draft that it has made.
  rw [fill, shows]
  dsimp only
  rw [reads]
  rfl

/-- A field with a value that may be absent is read from what is given for the value, if any. -/
theorem fill_optional {name : String} {put : σ → β → σ} {read : ν → Read β}
    {rest : List (String × (σ → ν → Read σ))} {draft : σ} {given : String → Option ν}
    (value : Option β) (node : β → ν) (next : Option β → σ) (shows : given name = value.map node)
    (blank : next none = draft) (puts : ∀ v, put draft v = next (some v))
    (reads : ∀ v ∈ value, read (node v) = .ok v) :
    fill ((name, fun draft node => do return put draft (← read node)) :: rest) draft given =
      fill rest (next value) given := by
  -- An absent value leaves the draft alone, and any other one is given under the name.
  cases value with
  | none => rw [fill, shows, blank]; rfl
  | some v => rw [fill_present shows (reads v rfl), puts]

/-- A step without a value of its own succeeds in one way only. -/
theorem skip_bind_ok_iff (step : Read Unit) (next : Read σ) (done : σ) :
    (do step; next) = .ok done ↔ step = .ok () ∧ next = .ok done := by
  -- There is only one value that the step could hand on.
  rw [bind_ok_iff]
  exact ⟨fun ⟨_, first, later⟩ => ⟨first, later⟩, fun ⟨first, later⟩ => ⟨(), first, later⟩⟩

/-- Two fields of which neither is read with the other one. -/
structure Apart (f g : Field ν σ) : Prop where
  /-- They may be read in either order. -/
  commute : Commute f.read g.read
  /-- The second one is not there because of the first one. -/
  second : ∀ draft node later, f.read draft node = .ok later → g.given later = g.given draft
  /-- The first one is not there because of the second one. -/
  first : ∀ draft node later, g.read draft node = .ok later → f.given later = f.given draft

/-- Fields that put what they read into different parts of a draft are not read with each other. -/
theorem Apart.of_put {readFirst : ν → Read β} {readSecond : ν → Read γ} {putFirst : σ → β → σ}
    {putSecond : σ → γ → σ} {nameFirst nameSecond : String} {givenFirst givenSecond : σ → Bool}
    {absenceFirst absenceSecond : Absence}
    (apart : ∀ draft x y, putSecond (putFirst draft x) y = putFirst (putSecond draft y) x)
    (second : ∀ draft x, givenSecond (putFirst draft x) = givenSecond draft)
    (first : ∀ draft y, givenFirst (putSecond draft y) = givenFirst draft) :
    Apart
      ⟨nameFirst, givenFirst, fun draft node => do return putFirst draft (← readFirst node),
        absenceFirst⟩
      ⟨nameSecond, givenSecond, fun draft node => do return putSecond draft (← readSecond node),
        absenceSecond⟩ where
  commute := .of_put apart
  second draft node later reads := by
    -- Either field can be read at a draft only if its value can, and then puts it in.
    obtain ⟨x, -, same⟩ := (bind_ok_iff ..).mp reads
    exact Except.ok.inj same ▸ second draft x
  first draft node later reads := by
    obtain ⟨y, -, same⟩ := (bind_ok_iff ..).mp reads
    exact Except.ok.inj same ▸ first draft y

/-- Fields that may be read in any order, and each of which is there once it has been read. -/
structure Lawful (fields : List (Field ν σ)) : Prop where
  /-- No two fields have one name. -/
  names : (fields.map (·.name)).Nodup
  /-- A field that has been read is there. -/
  own : ∀ f ∈ fields, ∀ draft node later, f.read draft node = .ok later → f.given later = true
  /-- No field is read with another one. -/
  apart : fields.Pairwise Apart

/-- The fields by their names. -/
def byName (fields : List (Field ν σ)) : List (String × (σ → ν → Read σ)) :=
  fields.map fun f => (f.name, f.read)

/-- Lawful fields may be read in any order. -/
theorem Lawful.independent {fields : List (Field ν σ)} (lawful : Lawful fields) :
    Independent (byName fields) where
  names := by simpa [byName, Function.comp_def] using lawful.names
  commute := List.pairwise_map.mpr (lawful.apart.imp fun apart => apart.commute)

/-- A field is found by its name. -/
theorem lookup_byName (fields : List (Field ν σ)) (name : String) :
    (byName fields).lookup name = (fields.find? fun f => f.name == name).map (·.read) := by
  -- The lookup and the search look at the names in the same order.
  induction fields with
  | nil => rfl
  | cons f rest ih =>
    rw [byName, List.map_cons, Json.lookup_cons_eq, List.find?_cons]
    by_cases same : f.name = name
    · simp [same]
    · rw [if_neg (Ne.symm same), beq_eq_false_iff_ne.mpr same]
      exact ih

/-- A field is given after another one has been read exactly when it has been given before. -/
theorem Lawful.given_later {fields : List (Field ν σ)} (lawful : Lawful fields) {f g : Field ν σ}
    (member : f ∈ fields) (other : g ∈ fields) (names : f.name ≠ g.name) {draft later : σ} {node : ν}
    (reads : f.read draft node = .ok later) : g.given later = g.given draft := by
  -- Only that the fields are apart is needed.
  obtain ⟨-, -, apart⟩ := lawful
  -- One of the two stands before the other one.
  induction fields with
  | nil => cases member
  | cons first rest ih =>
    obtain ⟨fromFirst, apart⟩ := List.pairwise_cons.mp apart
    rcases List.mem_cons.mp member with rfl | among
    · rcases List.mem_cons.mp other with rfl | after
      · exact absurd rfl names
      · exact (fromFirst g after).second draft node later reads
    · rcases List.mem_cons.mp other with rfl | after
      · exact (fromFirst f among).first draft node later reads
      · exact ih among after apart

section Named

variable [Source ν]

/-- Keys that are read as the names that they stand for. -/
def Spells (key : String → ν) : Prop :=
  ∀ name, text (key name) = .ok name

/-- Named parts of which each has a name of its own may be read in the order of the fields; the others
are passed over. -/
theorem Independent.readLatest_ok_iff {fields : List (String × (σ → ν → Read σ))}
    (independent : Independent fields) {key : String → ν} (spells : Spells key)
    {parts : List (String × ν)} (distinct : (parts.map (·.1)).Nodup) (draft done : σ) :
    readLatest fields draft (parts.map fun p => (key p.1, p.2)) = .ok done ↔
      (∀ p ∈ parts, fields.lookup p.1 = none → skip p.2 = .ok ()) ∧
        fill fields draft (parts.lookup ·) = .ok done := by
  -- Induction on the parts. A part with an unknown name is passed over; any other is moved to the
  -- front of the fields, as if it had been read before all that follow.
  induction parts generalizing draft with
  | nil => simp [readLatest, fill_nothing]
  | cons part rest ih =>
    obtain ⟨name, node⟩ := part
    obtain ⟨absent, present, others⟩ := lookup_fresh distinct
    have ih := ih (List.nodup_cons.mp distinct).2
    rw [List.forall_mem_cons, List.map_cons, readLatest, spells name, ok_bind]
    cases field : fields.lookup name with
    | none =>
      rw [skip_bind_ok_iff, ih, fill_unknown field, and_assoc]
      simp
    | some read =>
      rw [independent.fill_given field absent present others]
      simp only [bind_ok_iff, ih]
      constructor
      · rintro ⟨mid, first, skips, later⟩
        exact ⟨⟨by simp, skips⟩, mid, first, later⟩
      · rintro ⟨⟨-, skips⟩, mid, first, later⟩
        exact ⟨mid, first, skips, later⟩

/-- Named parts of which each has a name of its own may be read in the order of the fields, if all that
are needed are there; the others are passed over. -/
theorem Lawful.readNamed_ok_iff {fields : List (Field ν σ)} (lawful : Lawful fields)
    {key : String → ν} (spells : Spells key) {parts : List (String × ν)}
    (distinct : (parts.map (·.1)).Nodup) (draft done : σ)
    (blank : ∀ p ∈ parts, ∀ f ∈ fields, f.name = p.1 → f.given draft = false) :
    readNamed fields draft (parts.map fun p => (key p.1, p.2)) = .ok done ↔
      (∀ p ∈ parts, (byName fields).lookup p.1 = none → skip p.2 = .ok ()) ∧
        (∀ f ∈ fields, f.absence = .never →
          f.given draft = true ∨ (parts.lookup f.name).isSome = true) ∧
        fill (byName fields) draft (parts.lookup ·) = .ok done := by
  -- Induction on the parts as above; in addition it must be known what is there at the end.
  induction parts generalizing draft with
  | nil =>
    -- At the end only what the draft holds counts.
    have needed : (fields.find? fun f => f.absence == .never && !f.given draft) = none ↔
        ∀ f ∈ fields, f.absence = .never → f.given draft = true := by
      simp
    simp only [List.map_nil, readNamed, List.lookup_nil, fill_nothing]
    cases missing : fields.find? fun f => f.absence == .never && !f.given draft with
    | none =>
      have all := needed.mp missing
      exact ⟨fun same => ⟨by simp, fun f member never => .inl (all f member never), same⟩,
        fun ⟨_, _, same⟩ => same⟩
    | some f =>
      have lacks := mt needed.mpr (by simp [missing])
      constructor
      · rintro ⟨⟩
      · rintro ⟨-, all, -⟩
        exact absurd (fun f member never => (all f member never).resolve_right (by simp)) lacks
  | cons part rest ih =>
    obtain ⟨name, node⟩ := part
    obtain ⟨absent, present, others⟩ := lookup_fresh distinct
    obtain ⟨fresh, distinct⟩ := List.nodup_cons.mp distinct
    obtain ⟨blankFirst, blank⟩ := List.forall_mem_cons.mp blank
    rw [List.forall_mem_cons, List.map_cons, readNamed, spells name, ok_bind]
    have field := lookup_byName fields name
    cases found : fields.find? fun f => f.name == name with
    | none =>
      rw [found] at field
      -- The part is passed over, and it is not what is needed either.
      have unnamed : ∀ f ∈ fields, ((name, node) :: rest).lookup f.name = rest.lookup f.name := by
        intro f member
        refine others f.name ?_
        simpa using List.find?_eq_none.mp found f member
      have needed : (∀ f ∈ fields, f.absence = .never →
            f.given draft = true ∨ (((name, node) :: rest).lookup f.name).isSome = true) ↔
          ∀ f ∈ fields, f.absence = .never →
            f.given draft = true ∨ (rest.lookup f.name).isSome = true :=
        forall₂_congr fun f member => by rw [unnamed f member]
      rw [skip_bind_ok_iff, ih distinct draft blank, fill_unknown field, needed, and_assoc]
      simp [field]
    | some f =>
      rw [found] at field
      have member := List.mem_of_find?_eq_some found
      have named : f.name = name := by simpa using List.find?_some found
      rw [lawful.independent.fill_given field absent present others]
      simp only [blankFirst f member named, Bool.false_eq_true, if_false, bind_ok_iff]
      -- The parts that follow have other names, so reading this one has not filled their fields.
      have after (mid : σ) (reads : f.read draft node = .ok mid) := ih distinct mid (by
        intro p listed g other same
        rw [lawful.given_later member other ?_ reads]
        · exact blank p listed g other same
        · rw [named, same]
          rintro rfl
          exact fresh (List.mem_map.mpr ⟨p, listed, rfl⟩))
      -- What is needed is there afterwards, or it has been there before.
      have needed (mid : σ) (reads : f.read draft node = .ok mid) : (∀ g ∈ fields, g.absence = .never →
            g.given draft = true ∨ (((name, node) :: rest).lookup g.name).isSome = true) ↔
          ∀ g ∈ fields, g.absence = .never →
            g.given mid = true ∨ (rest.lookup g.name).isSome = true := by
        refine forall₃_congr fun g other _ => ?_
        by_cases same : f.name = g.name
        · obtain rfl : f = g := List.inj_on_of_nodup_map lawful.names member other same
          simp [named, present, lawful.own f member draft node mid reads]
        · rw [lawful.given_later member other same reads, others g.name (named ▸ Ne.symm same)]
      constructor
      · rintro ⟨mid, reads, later⟩
        obtain ⟨skips, there, filled⟩ := (after mid reads).mp later
        exact ⟨⟨by simp [field], skips⟩, (needed mid reads).mpr there, mid, reads, filled⟩
      · rintro ⟨⟨-, skips⟩, there, mid, reads, filled⟩
        exact ⟨mid, reads, (after mid reads).mpr ⟨skips, (needed mid reads).mp there, filled⟩⟩

end Named

end CsiOperator.Decode
