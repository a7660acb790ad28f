import CsiOperator.Proofs.CommandLine.Values

/-! Which value each setting comes to: what follows the command counts before what precedes it, then
the environment, and then what is usual. -/

namespace CsiOperator.CommandLine

/-- No two settings have the same variable. -/
theorem Setting.eq_of_variableName {s t : Setting} (same : s.variableName = t.variableName) :
    s = t := by
  -- There are few settings, and all their variables can be compared.
  revert same
  cases s <;> cases t <;> decide

/-- The first of two lists of mentions counts. -/
theorem told_append (front back : List Mention) (s : Setting) :
    told (front ++ back) s = (told front s).or (told back s) := by
  simp [told, List.find?_append, Option.map_or]

/-- A mention in between tells its own setting what it says, and no other. -/
theorem told_insert {front : List Mention} {m : Mention} (back : List Mention)
    (first : m.setting ∉ front.map (·.setting)) (s : Setting) :
    told (front ++ m :: back) s =
      if s = m.setting then some m.text else told (front ++ back) s := by
  -- Whatever is told first counts, so that the lists are looked at piece by piece.
  rw [told_append, told_append]
  -- In front nothing tells the setting, so that the mention is the first one of it.
  split
  · rename_i same
    subst same
    rw [(told_eq_none_iff front m.setting).mpr first]
    simp [told]
  · rename_i other
    -- To any other setting the mention is as if it were not there.
    have skipped : told (m :: back) s = told back s := by simp [told, Ne.symm other]
    rw [skipped]

/-- The order of mentions does not matter for whether they are accepted. -/
theorem Accepted.of_perm {environment : String → Option String} {mentions others : List Mention}
    (same : mentions.Perm others) (accepted : Accepted environment mentions) :
    Accepted environment others := by
  -- All that is asked of mentions is asked of their settings or of each of them alone.
  have settings := same.map (·.setting)
  refine ⟨settings.nodup_iff.mp accepted.once, fun m member => ?_, fun s apart => ?_⟩
  · exact accepted.readable m (same.mem_iff.mpr member)
  · exact accepted.others s fun mentioned => apart (settings.mem_iff.mp mentioned)

/-- A first mention is accepted when its value can be read instead of that of its variable. -/
theorem accepted_cons_iff {environment : String → Option String} {m : Mention}
    {mentions : List Mention} (apart : m.setting ∉ mentions.map (·.setting)) :
    (Accepted environment (m :: mentions) ∧ m.setting.Readable environment) ↔
      Accepted environment mentions ∧ ∃ value, m.setting.read m.text = .ok value := by
  -- The first mention has its value from its text, and the variable is not looked at any more.
  constructor
  · intro whole
    obtain ⟨⟨once, readable, others⟩, free⟩ := whole
    obtain ⟨first, readable⟩ := List.forall_mem_cons.mp readable
    -- Without the mention, the variable of its setting is looked at too.
    refine ⟨⟨(List.nodup_cons.mp once).2, readable, fun s out => ?_⟩, first⟩
    rcases eq_or_ne s m.setting with rfl | other
    · exact free
    · exact others s (by simpa [other] using out)
  · intro whole
    obtain ⟨⟨once, readable, others⟩, first⟩ := whole
    refine ⟨⟨List.nodup_cons.mpr ⟨apart, once⟩, List.forall_mem_cons.mpr ⟨first, readable⟩,
      fun s out => ?_⟩, others m.setting apart⟩
    exact others s fun mentioned => out (List.mem_cons_of_mem _ mentioned)

/-- A mention in between is accepted when its value can be read instead of that of its variable. -/
theorem accepted_insert_iff (environment : String → Option String) {m : Mention}
    {front back : List Mention} (apart : m.setting ∉ (front ++ back).map (·.setting)) :
    (Accepted environment (front ++ m :: back) ∧ m.setting.Readable environment) ↔
      Accepted environment (front ++ back) ∧ ∃ value, m.setting.read m.text = .ok value := by
  -- The mention may as well come first.
  have moved : (front ++ m :: back).Perm (m :: (front ++ back)) := List.perm_middle
  rw [← accepted_cons_iff apart]
  exact and_congr_left' ⟨Accepted.of_perm moved, Accepted.of_perm moved.symm⟩

namespace Line

section

variable {front back first last : List Mention} {m : Mention} {c : Command} {closed : Bool}

/-- A setting may be mentioned after the command instead of before it, where it is mentioned only
once. -/
theorem accepted_moved_iff {environment : String → Option String}
    (apartBefore : m.setting ∉ (front ++ back).map (·.setting))
    (apartAfter : m.setting ∉ (first ++ last).map (·.setting)) :
    Line.Accepted ⟨front ++ m :: back, some (c, first ++ last), closed⟩ environment ↔
      Line.Accepted ⟨front ++ back, some (c, first ++ m :: last), closed⟩ environment := by
  -- The level without the mention looks at the variable instead, so that it must be readable.
  have inserted := accepted_insert_iff environment apartBefore
  have insertedAfter := accepted_insert_iff environment apartAfter
  simp only [Accepted, levels, Option.map_some, Option.toList_some, List.forall_mem_cons,
    List.not_mem_nil, false_implies, implies_true, and_true]
  constructor
  · intro accepted
    obtain ⟨whole, others⟩ := accepted
    have readable := others.others m.setting apartAfter
    obtain ⟨rest, value⟩ := inserted.mp ⟨whole, readable⟩
    exact ⟨rest, (insertedAfter.mpr ⟨others, value⟩).1⟩
  · intro accepted
    obtain ⟨others, whole⟩ := accepted
    have readable := others.others m.setting apartBefore
    obtain ⟨rest, value⟩ := insertedAfter.mp ⟨whole, readable⟩
    exact ⟨(inserted.mpr ⟨others, value⟩).1, rest⟩

/-- A setting that is mentioned once is told the same on both sides of the command. -/
theorem text_moved (environment : String → Option String)
    (apartBefore : m.setting ∉ (front ++ back).map (·.setting))
    (apartAfter : m.setting ∉ (first ++ last).map (·.setting)) (s : Setting) :
    Line.text? ⟨front ++ m :: back, some (c, first ++ last), closed⟩ environment s =
      Line.text? ⟨front ++ back, some (c, first ++ m :: last), closed⟩ environment s := by
  -- The mention is the first of its setting on either side.
  have apartFront : m.setting ∉ front.map (·.setting) := fun mentioned =>
    apartBefore (by rw [List.map_append]; exact List.mem_append_left _ mentioned)
  have apartFirst : m.setting ∉ first.map (·.setting) := fun mentioned =>
    apartAfter (by rw [List.map_append]; exact List.mem_append_left _ mentioned)
  show (told (first ++ last) s).or ((told (front ++ m :: back) s).or _) =
    (told (first ++ m :: last) s).or ((told (front ++ back) s).or _)
  rw [told_insert back apartFront, told_insert last apartFirst]
  split
  · -- Nothing else tells the setting, before the command or after it.
    rename_i same
    subst same
    rw [(told_eq_none_iff _ _).mpr apartAfter]
    rfl
  · rfl

/-- A setting that is mentioned once may be mentioned before the command or after it. -/
theorem parse_moved_iff {environment : String → Option String} {i : Invocation}
    (legible : Line.Legible ⟨front ++ m :: back, some (c, first ++ last), closed⟩)
    (apartBefore : m.setting ∉ (front ++ back).map (·.setting))
    (apartAfter : m.setting ∉ (first ++ last).map (·.setting)) :
    parse environment (Line.arguments ⟨front ++ m :: back, some (c, first ++ last), closed⟩) =
        .ok i ↔
      parse environment (Line.arguments ⟨front ++ back, some (c, first ++ m :: last), closed⟩) =
        .ok i := by
  -- The mentions of both lines are the same, so that they can be written alike.
  have legibleMoved : Line.Legible ⟨front ++ back, some (c, first ++ m :: last), closed⟩ := by
    simp only [Legible, levels, Option.map_some, Option.toList_some, List.forall_mem_cons,
      List.forall_mem_append, List.not_mem_nil, false_implies, implies_true, and_true] at legible ⊢
    obtain ⟨⟨legibleFront, legibleOne, legibleBack⟩, legibleFirst, legibleLast⟩ := legible
    exact ⟨⟨legibleFront, legibleBack⟩, legibleFirst, legibleOne, legibleLast⟩
  -- Both lines are accepted together, and then every setting is told the same.
  rw [parse_ok_iff legible, parse_ok_iff legibleMoved]
  constructor
  · intro understood
    obtain ⟨accepted, rfl⟩ := understood
    have moved := (accepted_moved_iff apartBefore apartAfter).mp accepted
    have same := invocation_eq accepted moved rfl (text_moved environment apartBefore apartAfter)
    exact ⟨moved, same⟩
  · intro understood
    obtain ⟨moved, rfl⟩ := understood
    have accepted := (accepted_moved_iff apartBefore apartAfter).mpr moved
    have same := invocation_eq accepted moved rfl (text_moved environment apartBefore apartAfter)
    exact ⟨accepted, same.symm⟩

end

section

variable {line : Line} {s : Setting} {environment altered : String → Option String}

/-- A setting is told the same under all environments that differ in its variable only, once it is
mentioned, and so are the other settings. -/
theorem text_agrees (mentioned : ∃ level ∈ line.levels, s ∈ level.map (·.setting))
    (agree : ∀ name, name ≠ s.variableName → altered name = environment name) (t : Setting) :
    line.text? altered t = line.text? environment t := by
  -- The variable is looked at only behind both levels.
  rw [text?, text?]
  rcases eq_or_ne t s with rfl | other
  · -- Some mention comes before the environment.
    cases after : told line.after t with
    | some text => rfl
    | none =>
      cases before : told line.before t with
      | some text => rfl
      | none =>
        have missing : t ∉ line.before.map (·.setting) := (told_eq_none_iff _ _).mp before
        have missingAfter : t ∉ line.after.map (·.setting) := (told_eq_none_iff _ _).mp after
        obtain ⟨level, member, among⟩ := mentioned
        rcases List.mem_cons.mp member with rfl | member
        · exact absurd among missing
        · have last : line.after = level := by
            rw [Line.after, Option.mem_toList.mp member]
            rfl
          exact absurd among (last ▸ missingAfter)
  · have apart : t.variableName ≠ s.variableName := fun same =>
      other (Setting.eq_of_variableName same)
    rw [agree t.variableName apart]

/-- A line that is accepted stays so under another value of a variable when that can be read, or no
level looks at it. -/
theorem accepted_agrees_iff (accepted : line.Accepted environment)
    (agree : ∀ name, name ≠ s.variableName → altered name = environment name) :
    line.Accepted altered ↔
      (∀ level ∈ line.levels, s ∈ level.map (·.setting)) ∨ s.Readable altered := by
  -- Only a level that leaves the setting open looks at the variable.
  constructor
  · intro acceptedToo
    by_cases everywhere : ∀ level ∈ line.levels, s ∈ level.map (·.setting)
    · exact .inl everywhere
    · -- A level that does not mention the setting looks at its variable.
      simp only [not_forall] at everywhere
      obtain ⟨level, member, apart⟩ := everywhere
      exact .inr ((acceptedToo level member).others s apart)
  · intro safe level member
    obtain ⟨once, readable, others⟩ := accepted level member
    -- Only variables of settings that the level does not mention are looked at.
    refine ⟨once, readable, fun t apart => ?_⟩
    rcases eq_or_ne t s with rfl | other
    · rcases safe with everywhere | readableToo
      · exact absurd (everywhere level member) apart
      · exact readableToo
    · have same := agree t.variableName fun same => other (Setting.eq_of_variableName same)
      rw [Setting.Readable, same]
      exact others t apart

end

end Line

/-- Whatever is understood is a line whose settings come to what they are told after the command, or
before it, or by the environment, or else to what is usual, with at least one second where seconds are
meant. A setting that is mentioned only before the command may be mentioned after it instead. One that
is mentioned at all comes to the same whatever its variable is, and the line is understood as long as
the variable can be read, or every level mentions the setting. -/
theorem options_resolved (environment : String → Option String) (arguments : List String)
    (i : Invocation) (parses : parse environment arguments = .ok i) :
    (∃ line : Line, line.Legible ∧ line.arguments = arguments) ∧
    ∀ line : Line, line.Legible → line.arguments = arguments →
      i.command = line.command.map (·.1) ∧
      (∀ s text, line.text? environment s = some text →
        ∃ value, s.read text = .ok value ∧ i.options.value? s = some value) ∧
      (∀ s, line.text? environment s = none → i.options.value? s = s.usual) ∧
      1 ≤ i.options.resyncSeconds ∧ 1 ≤ i.options.publicationSeconds ∧
      (∀ front m back c first last, line.before = front ++ m :: back →
        line.command = some (c, first ++ last) → m.setting ∉ line.after.map (·.setting) →
        parse environment
          (Line.arguments ⟨front ++ back, some (c, first ++ m :: last), line.closed⟩) = .ok i) ∧
      ∀ s altered, (∃ level ∈ line.levels, s ∈ level.map (·.setting)) →
        (∀ name, name ≠ s.variableName → altered name = environment name) →
        (∀ j, parse altered arguments = .ok j → j = i) ∧
        (parse altered arguments = .ok i ↔
          (∀ level ∈ line.levels, s ∈ level.map (·.setting)) ∨ s.Readable altered) := by
  refine ⟨Line.exists_of_parse parses, ?_⟩
  intro line legible written
  subst written
  obtain ⟨accepted, rfl⟩ := (Line.parse_ok_iff legible environment i).mp parses
  obtain ⟨resync, publication⟩ := Line.seconds_positive accepted
  refine ⟨rfl, fun s text found => Line.value_of_text accepted found,
    fun s missing => Line.usual_of_untold accepted missing, resync, publication, ?_, ?_⟩
  · -- The mention is the only one of its setting on its side, as none is mentioned twice there.
    intro front m back c first last before command apart
    obtain ⟨_, _, closed⟩ := line
    obtain rfl := before
    obtain rfl := command
    have once := (accepted _ List.mem_cons_self).once
    have apartBefore : m.setting ∉ (front ++ back).map (·.setting) := by
      have moved : (front ++ m :: back).Perm (m :: (front ++ back)) := List.perm_middle
      exact (List.nodup_cons.mp ((moved.map (·.setting)).nodup_iff.mp once)).1
    exact (Line.parse_moved_iff legible apartBefore apart).mp parses
  · -- What the line means depends on the words that tell its settings, and these are the same.
    intro s altered mentioned agree
    have same : line.Accepted altered →
        line.invocation altered = line.invocation environment := fun acceptedToo =>
      Line.invocation_eq acceptedToo accepted rfl (Line.text_agrees mentioned agree)
    rw [← Line.accepted_agrees_iff accepted agree, Line.parse_ok_iff legible]
    refine ⟨fun j parsed => ?_, fun parsed => parsed.1, fun acceptedToo => ?_⟩
    · obtain ⟨acceptedToo, rfl⟩ := (Line.parse_ok_iff legible altered j).mp parsed
      exact same acceptedToo
    · exact ⟨acceptedToo, (same acceptedToo).symm⟩

/-- A number of seconds before the command may be mentioned after it instead, and its variable may be
anything that can be read. -/
theorem options_resolved_seconds :
    let environment := fun name =>
      if name == Setting.logFormat.variableName then some "json" else none
    let altered := fun name =>
      if name == Setting.resync.variableName then some "7" else environment name
    let i : Invocation := ⟨some .controller, ⟨none, 5, "/manifests", none, 30, .json⟩⟩
    parse environment ["--resync-interval-secs", "5", "controller"] = .ok i ∧
      parse environment ["controller", "--resync-interval-secs", "5"] = .ok i ∧
      parse altered ["--resync-interval-secs", "5", "controller"] = .ok i := by
  intro environment altered i
  have parses : parse environment ["--resync-interval-secs", "5", "controller"] = .ok i := rfl
  let m : Mention := ⟨.resync, "5", false⟩
  let line : Line := ⟨[m], some (.controller, []), false⟩
  have legible : line.Legible := by decide
  obtain ⟨-, -, -, -, -, moves, agrees⟩ :=
    (options_resolved environment _ i parses).2 line legible rfl
  have moved := moves [] m [] .controller [] [] rfl rfl List.not_mem_nil
  refine ⟨parses, moved, ?_⟩
  have agree : ∀ name, name ≠ Setting.resync.variableName → altered name = environment name := by
    intro name other
    exact if_neg fun same => other (eq_of_beq same)
  have mentioned : ∃ level ∈ line.levels, Setting.resync ∈ level.map (·.setting) :=
    ⟨[m], List.mem_cons_self, List.mem_cons_self⟩
  have reads : Setting.resync.read "7" = .ok (7 : Nat) := rfl
  have readable : Setting.resync.Readable altered := readable_of_read rfl reads
  exact (agrees .resync altered mentioned agree).2.mpr (.inr readable)

/-- With a command, a variable that cannot be read makes the line fail even though the setting is
mentioned, and a setting that is mentioned on both sides cannot be moved. -/
theorem options_not_resolved :
    let i : Invocation := ⟨some .controller, ⟨none, 5, "/manifests", none, 30, .text⟩⟩
    let zero := fun name => if name == Setting.resync.variableName then some "0" else none
    parse (fun _ => none) ["--resync-interval-secs", "5", "controller"] = .ok i ∧
      parse zero ["--resync-interval-secs", "5", "controller"] = .error .valueValidation ∧
      parse (fun _ => none)
        ["--resync-interval-secs", "6", "controller", "--resync-interval-secs", "5"] = .ok i ∧
      parse (fun _ => none)
        ["controller", "--resync-interval-secs", "6", "--resync-interval-secs", "5"] =
          .error .argumentConflict :=
  ⟨rfl, rfl, rfl, rfl⟩

end CsiOperator.CommandLine
