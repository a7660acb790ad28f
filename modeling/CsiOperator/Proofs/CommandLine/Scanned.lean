import CsiOperator.Proofs.CommandLine.Given
import CsiOperator.Proofs.Resource.Type
import Mathlib.Tactic.Simproc.ExistsAndEq

/-! The arguments of a level that goes well: mentions of settings one after another, and then the end
of the level. -/

namespace CsiOperator.CommandLine

open Failure (bind_ok_iff pure_ok_iff throw_bind_ok_iff)

namespace Setting

/-- No flag is empty or has the sign of an attached value in it. -/
theorem flag_plain (s : Setting) : s.flag.toList ≠ [] ∧ '=' ∉ s.flag.toList := by
  cases s <;> decide

/-- A setting is found by its flag. -/
theorem ofFlag?_flag (s : Setting) : ofFlag? s.flag = some s := by
  cases s <;> decide

/-- The name that a setting is found by is its flag. -/
theorem flag_of_ofFlag? {name : String} {s : Setting} (found : ofFlag? name = some s) :
    s.flag = name := by
  -- The setting has been searched for by its flag.
  have same := List.find?_some found
  exact eq_of_beq same

/-- No setting has a name that asks for something else. -/
theorem flag_asks_nothing (s : Setting) (outer : Bool) :
    (s.flag == "help" || (outer && s.flag == "version")) = false := by
  cases s <;> cases outer <;> decide

end Setting

/-- The word that a command is found by is its name. -/
theorem Command.name_of_ofName? {word : String} {c : Command} (found : ofName? word = some c) :
    c.name = word := by
  -- The command has been searched for by its name.
  have same := List.find?_some found
  exact eq_of_beq same

namespace Argument

/-- The characters of a flag with a value. -/
theorem toList_attached (name text : String) : ("--" ++ name ++ "=" ++ text).toList =
    '-' :: '-' :: (name.toList ++ '=' :: text.toList) := by
  -- The three parts stand one behind the other, whatever they are.
  rw [String.toList_append, String.toList_append, String.toList_append, List.append_assoc]
  rfl

/-- The characters of a flag alone. -/
theorem toList_bare (name : String) : ("--" ++ name).toList = '-' :: '-' :: name.toList := by
  -- The dashes stand in front of the name.
  rw [String.toList_append]
  rfl

/-- What follows two dashes is a name, with a value behind the first sign. -/
theorem ofText_dashes {argument : String} {rest : List Char}
    (whole : argument.toList = '-' :: '-' :: rest) (more : rest ≠ []) :
    ofText argument = match Text.splitFirst '=' rest with
      | some (name, value) => .long (String.ofList name) (some (String.ofList value))
      | none => .long (String.ofList rest) none := by
  -- A third character is what tells a flag from the mark that ends all flags.
  obtain ⟨c, rest, rfl⟩ := List.exists_cons_of_ne_nil more
  rw [ofText, whole]
  rfl

/-- A flag with a value is seen as one. -/
theorem ofText_attached (s : Setting) (text : String) :
    ofText ("--" ++ s.flag ++ "=" ++ text) = .long s.flag (some text) := by
  -- No flag has the sign in it, so that the first one is what stands before the value.
  have found : Text.splitFirst '=' (s.flag.toList ++ '=' :: text.toList) =
      some (s.flag.toList, text.toList) := Text.splitFirst_eq_some_iff.mpr ⟨rfl, s.flag_plain.2⟩
  rw [ofText_dashes (toList_attached s.flag text) (by simp), found]
  simp only [String.ofList_toList]

/-- A flag alone is seen as one. -/
theorem ofText_bare (s : Setting) : ofText ("--" ++ s.flag) = .long s.flag none := by
  -- No flag has the sign in it, so that there is no value.
  have unmarked := Text.splitFirst_eq_none_iff.mpr s.flag_plain.2
  rw [ofText_dashes (toList_bare s.flag) s.flag_plain.1, unmarked]
  simp only [String.ofList_toList]

/-- The text of an argument that is a flag. -/
theorem eq_of_ofText_long {argument name : String} {value : Option String}
    (seen : ofText argument = .long name value) : argument =
      match value with
      | some text => "--" ++ name ++ "=" ++ text
      | none => "--" ++ name := by
  -- Only the characters after two dashes are seen as a flag.
  rw [ofText] at seen
  split at seen
  · cases seen
  · rename_i rest _ whole
    split at seen
    · rename_i before after found
      cases seen
      obtain ⟨rfl, -⟩ := Text.splitFirst_eq_some_iff.mp found
      apply String.toList_inj.mp
      rw [whole, toList_attached, String.toList_ofList, String.toList_ofList]
    · cases seen
      apply String.toList_inj.mp
      rw [whole, toList_bare, String.toList_ofList]
  · cases seen
  · cases seen

/-- The text of the argument that ends all flags. -/
theorem eq_of_ofText_separator {argument : String} (seen : ofText argument = .separator) :
    argument = "--" := by
  -- Of all arguments only the two dashes alone are seen as this.
  rw [ofText] at seen
  split at seen
  · rename_i whole
    exact String.toList_inj.mp whole
  · split at seen <;> cases seen
  · cases seen
  · cases seen

end Argument

namespace Mention

/-- The arguments that a mention is written with. -/
def arguments (m : Mention) : List String :=
  -- A value stands in the argument of its flag or in the next one.
  if m.attached then ["--" ++ m.setting.flag ++ "=" ++ m.text]
  else ["--" ++ m.setting.flag, m.text]

/-- A value of its own must not look like a flag. -/
def Legible (m : Mention) : Prop :=
  m.attached = false → Argument.ofText m.text = .word

instance (m : Mention) : Decidable m.Legible :=
  inferInstanceAs (Decidable (_ → _))

end Mention

/-- What may stand at the end of a level: nothing, the mark that ends all flags, or a command with
everything after it. -/
def Ending (outer : Bool) (arguments : List String) : Option (Command × List String) → Prop
  -- Only the outer level may end in a command, and what is behind that belongs to the inner one.
  | none => arguments = [] ∨ arguments = ["--"]
  | some (command, rest) => outer = true ∧ arguments = command.name :: rest

/-- The arguments of a level pass when all of them can be gone through and the setting that is pending
at the end can be looked at. -/
def Passes (outer : Bool) (given : Given) (pending : Pending) (arguments : List String) (g : Given)
    (command : Option (Command × List String)) : Prop :=
  -- A level may also break off at its end, when a setting has no value yet.
  ∃ level, scan outer given pending arguments = .ok level ∧
    level.pending.settle level.given = .ok g ∧ level.command = command

section

variable {outer : Bool} {given g : Given} {pending : Pending} {argument : String}
  {rest : List String} {command : Option (Command × List String)}

/-- At the end of the arguments, the pending setting is looked at. -/
theorem passes_nil_iff : Passes outer given pending [] g command ↔
    pending.settle given = .ok g ∧ command = none := by
  simp [Passes, eq_comm (a := command)]

/-- Nothing may follow the end of all flags. -/
theorem passes_separator_iff (seen : Argument.ofText argument = .separator) :
    Passes outer given pending (argument :: rest) g command ↔
      rest = [] ∧ pending.settle given = .ok g ∧ command = none := by
  -- Anything behind the mark would be a word, which is not allowed there.
  cases rest with
  | nil => simp [Passes, scan, seen, eq_comm (a := command)]
  | cons word more => simp [Passes, scan, seen]

/-- What follows a step that goes well passes when it does so after what the step has come to. -/
theorem passes_bind_iff {first : Except Misuse Given} {next : Given → Except Misuse Level} :
    (∃ level, (first >>= next) = .ok level ∧ level.pending.settle level.given = .ok g ∧
      level.command = command) ↔
    ∃ found, first = .ok found ∧ ∃ level, next found = .ok level ∧
      level.pending.settle level.given = .ok g ∧ level.command = command := by
  -- A level comes of both steps when the second one goes on from what the first has come to.
  simp only [bind_ok_iff]
  constructor
  · intro passes
    obtain ⟨level, ⟨found, goes, comes⟩, rests⟩ := passes
    exact ⟨found, goes, level, comes, rests⟩
  · intro passes
    obtain ⟨found, goes, level, comes, rests⟩ := passes
    exact ⟨level, ⟨found, goes, comes⟩, rests⟩

/-- A setting that is named with its value takes it at once. -/
theorem passes_attached_iff {s : Setting} {text : String}
    (seen : Argument.ofText argument = .long s.flag (some text)) :
    Passes outer given pending (argument :: rest) g command ↔
      ∃ first, pending.settle given = .ok first ∧ ∃ next, first.take s text = .ok next ∧
        Passes outer next .idle rest g command := by
  -- What is pending is settled first, and then the text is taken.
  simp only [Passes, scan, seen, s.flag_asks_nothing, s.ofFlag?_flag, Bool.false_eq_true, if_false,
    passes_bind_iff]

/-- A setting that is named alone waits for its value. -/
theorem passes_bare_iff {s : Setting} (seen : Argument.ofText argument = .long s.flag none) :
    Passes outer given pending (argument :: rest) g command ↔
      ∃ first, pending.settle given = .ok first ∧
        Passes outer first (.waiting s) rest g command := by
  -- What is pending is settled first, and then there is a setting that waits.
  simp only [Passes, scan, seen, s.flag_asks_nothing, s.ofFlag?_flag, Bool.false_eq_true, if_false,
    passes_bind_iff]

/-- Flags that are not of settings ask for something else, or are not known. -/
theorem flag_of_passes {name : String} {value : Option String}
    (seen : Argument.ofText argument = .long name value)
    (passes : Passes outer given pending (argument :: rest) g command) :
    ∃ s : Setting, s.flag = name := by
  -- A level comes only of a flag that belongs to a setting.
  obtain ⟨level, scans, -⟩ := passes
  simp only [scan, seen] at scans
  split at scans
  · -- What asks for something else does not come to a level.
    split at scans
    · cases scans
    · obtain ⟨_, _, thrown⟩ := (bind_ok_iff _ _ _).mp scans
      cases thrown
  · split at scans
    · cases scans
    · rename_i s found
      exact ⟨s, Setting.flag_of_ofFlag? found⟩

/-- Short flags ask for something else, or are not known. -/
theorem not_passes_short {first : Char} (seen : Argument.ofText argument = .short first) :
    ¬ Passes outer given pending (argument :: rest) g command := by
  -- Either way there is no level in the end.
  intro passes
  obtain ⟨level, scans, -⟩ := passes
  simp only [scan, seen] at scans
  split at scans
  · -- What asks for something else looks at the pending value first, and then stops.
    obtain ⟨_, _, thrown⟩ := (bind_ok_iff _ _ _).mp scans
    cases thrown
  · cases scans

/-- A word is the value that a setting waits for. -/
theorem passes_value_iff {s : Setting} (seen : Argument.ofText argument = .word) :
    Passes outer given (.waiting s) (argument :: rest) g command ↔
      Passes outer given (.holding s argument) rest g command := by
  simp only [Passes, scan, seen]

/-- A word that no setting waits for is a command, with which the outer level ends. -/
theorem passes_command_iff (seen : Argument.ofText argument = .word)
    (settled : ∀ s, pending ≠ .waiting s) :
    Passes outer given pending (argument :: rest) g command ↔
      outer = true ∧ pending.settle given = .ok g ∧
        ∃ c : Command, c.name = argument ∧ command = some (c, rest) := by
  -- A command ends the outer level, and the inner one knows no words.
  simp only [Passes, scan, seen]
  cases outer with
  | false => simp
  | true =>
    constructor
    · intro passes
      obtain ⟨level, scans, settles, rfl⟩ := passes
      simp only [Bool.not_true, Bool.false_eq_true, if_false] at scans
      -- The word for help is no command, and neither is a word that is not known.
      split at scans
      · cases scans
      · split at scans
        · rename_i c found
          cases scans
          exact ⟨rfl, settles, c, Command.name_of_ofName? found, rfl⟩
        · cases scans
    · intro ends
      obtain ⟨-, settles, c, rfl, rfl⟩ := ends
      refine ⟨⟨given, pending, some (c, rest)⟩, ?_, settles, rfl⟩
      cases c <;> rfl

/-- Nothing is pending, so nothing changes. -/
@[simp] theorem settle_idle : Pending.idle.settle given = .ok given := rfl

/-- A value that is held counts as if it had been taken at once. -/
theorem passes_holding_iff {s : Setting} {text : String} {arguments : List String} :
    Passes outer given (.holding s text) arguments g command ↔
      ∃ first, given.take s text = .ok first ∧ Passes outer first .idle arguments g command := by
  -- Whatever comes next looks at the value first.
  have looked : Pending.settle (.holding s text) given = given.take s text := rfl
  cases arguments with
  | nil => simp [passes_nil_iff, looked, existsAndEq]
  | cons argument rest =>
    cases seen : Argument.ofText argument with
    | separator => simp [passes_separator_iff seen, looked, existsAndEq, and_left_comm]
    | long name value =>
      by_cases known : ∃ t : Setting, t.flag = name
      · obtain ⟨t, rfl⟩ := known
        cases value with
        | none => simp [passes_bare_iff seen, looked]
        | some text => simp [passes_attached_iff seen, looked]
      · -- Neither side passes on a flag that is not known.
        constructor
        · intro passes
          exact absurd (flag_of_passes seen passes) known
        · intro taken
          obtain ⟨first, -, passes⟩ := taken
          exact absurd (flag_of_passes seen passes) known
    | short first => simp [not_passes_short seen]
    | word => simp [passes_command_iff seen, looked, existsAndEq, and_left_comm]

/-- A setting waits for a word. -/
theorem passes_waiting_iff {s : Setting} {arguments : List String} :
    Passes outer given (.waiting s) arguments g command ↔
      ∃ text rest, arguments = text :: rest ∧ Argument.ofText text = .word ∧
        Passes outer given (.holding s text) rest g command := by
  -- There is no value to look at before the word has come.
  have missing : Pending.settle (.waiting s) given = .error .invalidValue := rfl
  cases arguments with
  | nil => simp [passes_nil_iff, missing]
  | cons argument rest =>
    cases seen : Argument.ofText argument with
    | separator => simp [passes_separator_iff seen, missing, seen]
    | long name value =>
      by_cases known : ∃ t : Setting, t.flag = name
      · obtain ⟨t, rfl⟩ := known
        cases value with
        | none => simp [passes_bare_iff seen, missing, seen]
        | some text => simp [passes_attached_iff seen, missing, seen]
      · have fails : ¬ Passes outer given (.waiting s) (argument :: rest) g command :=
          fun passes => known (flag_of_passes seen passes)
        simp [fails, seen]
    | short first => simp [not_passes_short seen, seen]
    | word => simp [passes_value_iff seen, seen, existsAndEq]

/-- A mention takes its value, however it is written. -/
theorem passes_mention_iff {m : Mention} (legible : m.Legible) :
    Passes outer given .idle (m.arguments ++ rest) g command ↔
      ∃ next, given.take m.setting m.text = .ok next ∧ Passes outer next .idle rest g command := by
  -- There are two ways of writing a mention, and either ends with the value being taken.
  cases attached : m.attached with
  | true =>
    -- The flag has its value with it.
    have seen := Argument.ofText_attached m.setting m.text
    simp [Mention.arguments, attached, passes_attached_iff seen]
  | false =>
    -- The setting waits, and the value comes next.
    have seen := Argument.ofText_bare m.setting
    simp [Mention.arguments, attached, passes_bare_iff seen, passes_waiting_iff, legible attached,
      passes_holding_iff, existsAndEq]

/-- The end of a level changes no value and leaves its command. -/
theorem passes_of_ending {tail : List String} (ending : Ending outer tail command)
    (found : Option (Command × List String)) :
    Passes outer given .idle tail g found ↔ g = given ∧ found = command := by
  -- A level ends at the end of the line, at the mark, or at a command.
  cases command with
  | none =>
    -- There is nothing left, or only the mark that ends all flags.
    rcases ending with rfl | rfl
    · simp [passes_nil_iff, eq_comm]
    · have seen : Argument.ofText "--" = .separator := by decide
      simp [passes_separator_iff seen, eq_comm]
  | some last =>
    obtain ⟨c, rest⟩ := last
    obtain ⟨rfl, rfl⟩ := ending
    have seen : Argument.ofText c.name = .word := by cases c <;> decide
    -- No other command has its name.
    have same : ∀ d : Command, d.name = c.name ↔ d = c := by
      intro d
      cases c <;> cases d <;> decide
    simp [passes_command_iff seen, same, eq_comm (a := given)]

/-- Arguments that pass are at their end, or begin with a mention. -/
theorem ending_or_mention_of_passes {arguments : List String}
    (passes : Passes outer given .idle arguments g command) :
    Ending outer arguments command ∨
      ∃ (m : Mention) (rest : List String), m.Legible ∧ arguments = m.arguments ++ rest := by
  -- What a line begins with is looked at as it is by the scan.
  cases arguments with
  | nil =>
    obtain ⟨-, rfl⟩ := passes_nil_iff.mp passes
    exact .inl (.inl rfl)
  | cons argument rest =>
    cases seen : Argument.ofText argument with
    | separator =>
      obtain ⟨rfl, -, rfl⟩ := (passes_separator_iff seen).mp passes
      exact .inl (.inr (congrArg ([·]) (Argument.eq_of_ofText_separator seen)))
    | long name value =>
      -- The flag is that of a setting, and what follows it depends on whether it has its value.
      obtain ⟨s, rfl⟩ := flag_of_passes seen passes
      have written := Argument.eq_of_ofText_long seen
      cases value with
      | some text =>
        have legible : Mention.Legible ⟨s, text, true⟩ := fun apart => nomatch apart
        refine .inr ⟨⟨s, text, true⟩, rest, legible, ?_⟩
        rw [written]
        rfl
      | none =>
        obtain ⟨first, -, waits⟩ := (passes_bare_iff seen).mp passes
        obtain ⟨text, rest, rfl, word, -⟩ := passes_waiting_iff.mp waits
        refine .inr ⟨⟨s, text, false⟩, rest, fun _ => word, ?_⟩
        rw [written]
        rfl
    | short first => exact absurd passes (not_passes_short seen)
    | word =>
      -- No setting waits for the word, so that it is a command.
      have free : ∀ s, Pending.idle ≠ .waiting s := by
        intro s waits
        cases waits
      obtain ⟨outermost, -, c, rfl, rfl⟩ := (passes_command_iff seen free).mp passes
      exact .inl ⟨outermost, rfl⟩

/-- A level with mentions takes all of them, up to its end. -/
theorem passes_mentions_iff {mentions : List Mention} (legible : ∀ m ∈ mentions, m.Legible)
    {tail : List String} (ending : Ending outer tail command)
    (found : Option (Command × List String)) :
    Passes outer given .idle (mentions.flatMap Mention.arguments ++ tail) g found ↔
      given.takeAll mentions = .ok g ∧ found = command := by
  -- The mentions are taken one by one, each at what the ones before it have left.
  induction mentions generalizing given with
  | nil =>
    rw [List.flatMap_nil, List.nil_append, passes_of_ending ending, Given.takeAll,
      List.foldlM_nil, pure_ok_iff, eq_comm (a := g)]
  | cons m mentions ih =>
    obtain ⟨first, others⟩ := List.forall_mem_cons.mp legible
    rw [List.flatMap_cons, List.append_assoc, passes_mention_iff first, Given.takeAll,
      List.foldlM_cons, bind_ok_iff, ← exists_and_right]
    refine exists_congr fun next => ?_
    rw [ih others, Given.takeAll, and_assoc]

/-- Arguments that pass are mentions up to the end of the level. -/
theorem mentions_of_passes {arguments : List String}
    (passes : Passes outer given .idle arguments g command) :
    ∃ (mentions : List Mention) (tail : List String), (∀ m ∈ mentions, m.Legible) ∧
      Ending outer tail command ∧ arguments = mentions.flatMap Mention.arguments ++ tail := by
  -- Each mention is at least one argument, so that the rest is shorter.
  induction size : arguments.length using Nat.strongRecOn generalizing given arguments with
  | _ n ih =>
    rcases ending_or_mention_of_passes passes with ending | ⟨m, rest, legible, rfl⟩
    · exact ⟨[], arguments, by simp, ending, rfl⟩
    · obtain ⟨next, -, passes⟩ := (passes_mention_iff legible).mp passes
      have shorter : rest.length < n := by
        have some : 0 < m.arguments.length := by
          rw [Mention.arguments]
          split <;> simp
        rw [← size, List.length_append]
        omega
      obtain ⟨mentions, tail, others, ending, rfl⟩ := ih rest.length shorter passes rfl
      refine ⟨m :: mentions, tail, List.forall_mem_cons.mpr ⟨legible, others⟩, ending, ?_⟩
      rw [List.flatMap_cons, List.append_assoc]

end

end CsiOperator.CommandLine
