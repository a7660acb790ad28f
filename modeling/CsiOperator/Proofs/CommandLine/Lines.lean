import CsiOperator.Proofs.CommandLine.Scanned

/-! Command lines as mentions of settings around a command, and the ones that are understood. -/

namespace CsiOperator.CommandLine

open Failure (bind_ok_iff pure_ok_iff)

/-- A setting is told when it is mentioned. -/
theorem told_eq_none_iff (mentions : List Mention) (s : Setting) :
    told mentions s = none ↔ s ∉ mentions.map (·.setting) := by
  simp [told, List.find?_eq_none]

/-- What a setting is told is in a mention of it. -/
theorem mention_of_told {mentions : List Mention} {s : Setting} {text : String}
    (found : told mentions s = some text) : ∃ m ∈ mentions, m.setting = s ∧ m.text = text := by
  -- The first mention of the setting is the one that counts.
  obtain ⟨m, first, same⟩ := Option.map_eq_some_iff.mp found
  have named := List.find?_some first
  exact ⟨m, List.mem_of_find?_eq_some first, eq_of_beq named, same⟩

/-- Every setting is looked for in the environment. -/
theorem Setting.mem_all (s : Setting) : s ∈ all := by
  cases s <;> decide

/-- What makes a level acceptable. -/
structure Accepted (environment : String → Option String) (mentions : List Mention) : Prop where
  /-- No setting is mentioned twice. -/
  once : (mentions.map (·.setting)).Nodup
  /-- All values can be read. -/
  readable : ∀ m ∈ mentions, ∃ value, m.setting.read m.text = .ok value
  /-- The variables of all settings that are not mentioned can be read as far as they are set. -/
  others : ∀ s, s ∉ mentions.map (·.setting) → s.Readable environment

/-- What is told at an accepted level can be read. -/
theorem Accepted.read_told {environment : String → Option String} {mentions : List Mention}
    (accepted : Accepted environment mentions) {s : Setting} {text : String}
    (found : told mentions s = some text) : ∃ value, s.read text = .ok value := by
  -- What is told has been mentioned, and an accepted level has only mentions that can be read.
  obtain ⟨m, member, rfl, rfl⟩ := mention_of_told found
  exact accepted.readable m member

namespace Given

/-- The values of a level: those that are mentioned, or else those of the environment. -/
def ofLevel (environment : String → Option String) (mentions : List Mention) : Given := fun s =>
  (ofTexts .arguments (told mentions) s).or (ofEnvironment environment s)

/-- A level comes to its values exactly when it is accepted. -/
theorem level_ok_iff (environment : String → Option String) (mentions : List Mention) (g : Given) :
    (∃ given, nothing.takeAll mentions = .ok given ∧
      complete environment given Setting.all = .ok g) ↔
    Accepted environment mentions ∧ g = ofLevel environment mentions := by
  -- The settings that the environment is looked at for are those that are not mentioned.
  have free : (∀ m ∈ mentions, ∃ value, m.setting.read m.text = .ok value) →
      ∀ s, ofTexts .arguments (told mentions) s = none ↔ s ∉ mentions.map (·.setting) := by
    intro readable s
    rw [← told_eq_none_iff]
    cases found : told mentions s with
    | none => simp [ofTexts, found]
    | some text =>
      obtain ⟨m, member, rfl, rfl⟩ := mention_of_told found
      obtain ⟨value, reads⟩ := readable m member
      simp [ofTexts_of_read found reads]
  -- The list of all settings leaves none out, so each of them is completed.
  have all : ∀ given, completed environment given Setting.all =
      fun s => (given s).or (ofEnvironment environment s) := by
    intro given
    funext s
    rw [completed, if_pos s.mem_all]
  simp only [takeAll_ok_iff, complete_ok_iff, all]
  constructor
  · intro taken
    obtain ⟨given, ⟨once, -, readable, rfl⟩, others, rfl⟩ := taken
    exact ⟨⟨once, readable, fun s apart => others s s.mem_all ((free readable s).mpr apart)⟩, rfl⟩
  · intro accepts
    obtain ⟨⟨once, readable, others⟩, rfl⟩ := accepts
    exact ⟨ofTexts .arguments (told mentions), ⟨once, fun _ _ => rfl, readable, rfl⟩,
      fun s _ apart => others s ((free readable s).mp apart), rfl⟩

end Given

/-- The arguments of a level come to values and perhaps a command. -/
def Finishes (outer : Bool) (environment : String → Option String) (arguments : List String)
    (g : Given) (command : Option (Command × List String)) : Prop :=
  -- A pending setting is looked at when the level is finished.
  ∃ level, scan outer Given.nothing .idle arguments = .ok level ∧
    level.finish environment = .ok g ∧ level.command = command

section

variable {outer : Bool} {environment : String → Option String} {arguments : List String} {g : Given}
  {command : Option (Command × List String)}

/-- What is pending at the end of a level is looked at before the environment. -/
theorem finishes_iff : Finishes outer environment arguments g command ↔
    ∃ given, Passes outer Given.nothing .idle arguments given command ∧
      Given.complete environment given Setting.all = .ok g := by
  -- Both say that the scan is settled and then completed; only the grouping differs.
  simp only [Finishes, Passes, Level.finish, bind_ok_iff]
  constructor
  · intro finishes
    obtain ⟨level, scans, ⟨given, settles, completes⟩, ends⟩ := finishes
    exact ⟨given, ⟨level, scans, settles, ends⟩, completes⟩
  · intro passes
    obtain ⟨given, ⟨level, scans, settles, ends⟩, completes⟩ := passes
    exact ⟨level, scans, ⟨given, settles, completes⟩, ends⟩

/-- A level that is written with mentions comes to their values when they are accepted. -/
theorem finishes_mentions_iff {mentions : List Mention} (legible : ∀ m ∈ mentions, m.Legible)
    {tail : List String} (ending : Ending outer tail command)
    (found : Option (Command × List String)) :
    Finishes outer environment (mentions.flatMap Mention.arguments ++ tail) g found ↔
      (Accepted environment mentions ∧ g = Given.ofLevel environment mentions) ∧
        found = command := by
  -- Passing and completing the mentions are the two steps of a level, and both are known.
  simp only [finishes_iff, passes_mentions_iff legible ending, ← Given.level_ok_iff,
    ← exists_and_right, and_right_comm]

/-- A level that comes to values is written with mentions. -/
theorem mentions_of_finishes (finishes : Finishes outer environment arguments g command) :
    ∃ (mentions : List Mention) (tail : List String), (∀ m ∈ mentions, m.Legible) ∧
      Ending outer tail command ∧ arguments = mentions.flatMap Mention.arguments ++ tail := by
  -- Before a level is completed it has passed all its arguments.
  obtain ⟨given, passes, -⟩ := finishes_iff.mp finishes
  exact mentions_of_passes passes

/-- An inner level has no command. -/
theorem no_command_of_finishes (finishes : Finishes false environment arguments g command) :
    command = none := by
  -- Only the outer level may end with a command.
  obtain ⟨_, _, _, ending, _⟩ := mentions_of_finishes finishes
  cases command with
  | none => rfl
  | some last => exact absurd ending.1 Bool.false_ne_true

/-- A command line is understood when each of its levels comes to values. -/
theorem parse_ok_iff (i : Invocation) : parse environment arguments = .ok i ↔
    (∃ g, Finishes true environment arguments g none ∧ i = ⟨none, Options.ofGiven g⟩) ∨
    ∃ c rest inner outer, Finishes true environment arguments outer (some (c, rest)) ∧
      Finishes false environment rest inner none ∧
      i = ⟨some c, Options.ofGiven (outer.within inner)⟩ := by
  -- The inner level is completed before the outer one, but both have to be.
  rw [parse, bind_ok_iff]
  constructor
  -- The command of the outer level decides whether there is another level to be read.
  · intro parses
    obtain ⟨level, scans, comes⟩ := parses
    cases last : level.command with
    | none =>
      simp only [last] at comes
      obtain ⟨g, finishes, returned⟩ := (bind_ok_iff _ _ _).mp comes
      exact .inl ⟨g, ⟨level, scans, finishes, last⟩, ((pure_ok_iff _ _).mp returned).symm⟩
    | some last' =>
      obtain ⟨c, rest⟩ := last'
      simp only [last] at comes
      obtain ⟨within, scansRest, comes⟩ := (bind_ok_iff _ _ _).mp comes
      obtain ⟨inner, finishesRest, comes⟩ := (bind_ok_iff _ _ _).mp comes
      obtain ⟨outer, finishes, returned⟩ := (bind_ok_iff _ _ _).mp comes
      have innermost : Finishes false environment rest inner within.command :=
        ⟨within, scansRest, finishesRest, rfl⟩
      have lastOne := no_command_of_finishes innermost
      exact .inr ⟨c, rest, inner, outer, ⟨level, scans, finishes, last⟩, lastOne ▸ innermost,
        ((pure_ok_iff _ _).mp returned).symm⟩
  -- In the other direction the steps are put together in the order in which they are taken.
  · intro levels
    rcases levels with ⟨g, ⟨level, scans, finishes, last⟩, rfl⟩ |
      ⟨c, rest, inner, outer, ⟨level, scans, finishes, last⟩,
        ⟨within, scansRest, finishesRest, -⟩, rfl⟩
    · refine ⟨level, scans, ?_⟩
      simp only [last]
      exact (bind_ok_iff _ _ _).mpr ⟨g, finishes, rfl⟩
    · refine ⟨level, scans, ?_⟩
      simp only [last]
      refine (bind_ok_iff _ _ _).mpr ⟨within, scansRest, ?_⟩
      refine (bind_ok_iff _ _ _).mpr ⟨inner, finishesRest, ?_⟩
      exact (bind_ok_iff _ _ _).mpr ⟨outer, finishes, rfl⟩

end

/-- A command line as settings that are mentioned before a command and after it. -/
structure Line where
  /-- What is mentioned before the command, or at all if there is no command. -/
  before : List Mention
  /-- The command, with what is mentioned after it. -/
  command : Option (Command × List Mention)
  /-- The line ends with the mark that ends all flags. -/
  closed : Bool
  deriving DecidableEq, Repr

namespace Line

/-- What is mentioned after the command. -/
def after (line : Line) : List Mention :=
  (line.command.map (·.2)).getD []

/-- The levels of a line: what is before its command, and if there is one what is after it. -/
def levels (line : Line) : List (List Mention) :=
  line.before :: (line.command.map (·.2)).toList

/-- The mark at the end of a line, if it has one. -/
def closing (line : Line) : List String :=
  if line.closed then ["--"] else []

/-- The arguments of a line. -/
def arguments (line : Line) : List String :=
  -- What closes the line belongs to its last level.
  line.before.flatMap Mention.arguments ++
    match line.command with
    | none => line.closing
    | some (c, mentions) => c.name :: (mentions.flatMap Mention.arguments ++ line.closing)

/-- No value looks like a flag. -/
def Legible (line : Line) : Prop :=
  ∀ level ∈ line.levels, ∀ m ∈ level, m.Legible

instance (line : Line) : Decidable line.Legible :=
  inferInstanceAs (Decidable (∀ level ∈ line.levels, ∀ m ∈ level, m.Legible))

/-- All levels are acceptable. -/
def Accepted (line : Line) (environment : String → Option String) : Prop :=
  ∀ level ∈ line.levels, CommandLine.Accepted environment level

/-- The values of all levels together. -/
def given (line : Line) (environment : String → Option String) : Given :=
  -- Without a command there is only one level.
  match line.command with
  | none => Given.ofLevel environment line.before
  | some (_, mentions) =>
    (Given.ofLevel environment line.before).within (Given.ofLevel environment mentions)

/-- What a line means. -/
def invocation (line : Line) (environment : String → Option String) : Invocation :=
  ⟨line.command.map (·.1), Options.ofGiven (line.given environment)⟩

/-- The mark at the end of a line ends its last level. -/
theorem closing_ends (line : Line) (outer : Bool) : Ending outer line.closing none := by
  -- A line may be closed by the mark or just end.
  rw [closing]
  split
  · exact .inr rfl
  · exact .inl rfl

/-- A line is understood as what it means exactly when its levels are accepted. -/
theorem parse_ok_iff {line : Line} (legible : line.Legible)
    (environment : String → Option String) (i : Invocation) :
    parse environment line.arguments = .ok i ↔
      line.Accepted environment ∧ i = line.invocation environment := by
  -- The line is taken apart into its levels, each of which comes to values when it is accepted.
  rw [CommandLine.parse_ok_iff]
  -- Without a command the line is one level, and with one it is two.
  obtain ⟨before, command, closed⟩ := line
  cases command with
  | none =>
    have legibleBefore : ∀ m ∈ before, m.Legible := legible before List.mem_cons_self
    have ends := closing_ends ⟨before, none, closed⟩ true
    simp [arguments, finishes_mentions_iff legibleBefore ends, Accepted, levels, invocation, given,
      existsAndEq, and_assoc]
  | some last =>
    obtain ⟨c, mentions⟩ := last
    have legibleBefore : ∀ m ∈ before, m.Legible := legible before List.mem_cons_self
    have legibleAfter : ∀ m ∈ mentions, m.Legible :=
      legible mentions (List.mem_cons_of_mem before List.mem_cons_self)
    have ends := closing_ends ⟨before, some (c, mentions), closed⟩ false
    -- The name of the command ends the outer level, with all of the inner one behind it.
    have commandEnds : Ending true
        (c.name :: (mentions.flatMap Mention.arguments ++ closing ⟨before, some (c, mentions), closed⟩))
        (some (c, mentions.flatMap Mention.arguments ++
          closing ⟨before, some (c, mentions), closed⟩)) := ⟨rfl, rfl⟩
    simp [arguments, finishes_mentions_iff legibleBefore commandEnds,
      finishes_mentions_iff legibleAfter ends, Accepted, levels, invocation, given, existsAndEq,
      and_assoc]

/-- Whatever is understood is the arguments of a line. -/
theorem exists_of_parse {environment : String → Option String} {arguments : List String}
    {i : Invocation} (parses : parse environment arguments = .ok i) :
    ∃ line : Line, line.Legible ∧ line.arguments = arguments := by
  -- The mark at the end of the last level is that of the line.
  have closed : ∀ {outer : Bool} {tail : List String}, Ending outer tail none →
      ∃ closed : Bool, tail = if closed then ["--"] else [] := by
    intro outer tail ending
    rcases ending with rfl | rfl
    · exact ⟨false, rfl⟩
    · exact ⟨true, rfl⟩
  rcases (CommandLine.parse_ok_iff i).mp parses with ⟨g, finishes, -⟩ |
    ⟨c, rest, inner, outer, finishes, finishesRest, -⟩
  · obtain ⟨mentions, tail, legible, ending, rfl⟩ := mentions_of_finishes finishes
    obtain ⟨mark, rfl⟩ := closed ending
    exact ⟨⟨mentions, none, mark⟩, by simpa [Legible, levels] using legible, rfl⟩
  · obtain ⟨before, _, legibleBefore, ⟨-, rfl⟩, rfl⟩ := mentions_of_finishes finishes
    obtain ⟨mentions, tail, legibleAfter, ending, rfl⟩ := mentions_of_finishes finishesRest
    obtain ⟨mark, rfl⟩ := closed ending
    refine ⟨⟨before, some (c, mentions), mark⟩, ?_, rfl⟩
    simpa [Legible, levels] using ⟨legibleBefore, legibleAfter⟩

end Line

end CsiOperator.CommandLine
