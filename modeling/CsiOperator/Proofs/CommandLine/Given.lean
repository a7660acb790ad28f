import CsiOperator.CommandLine.Options
import CsiOperator.Proofs.Failure
import Mathlib.Logic.Basic

/-! Which values a level of a command line comes to: those that are mentioned, and then those of the
environment. -/

namespace CsiOperator.CommandLine

open Failure (bind_ok_iff pure_ok_iff)

/-- A setting as it is mentioned on a command line. -/
structure Mention where
  /-- The setting. -/
  setting : Setting
  /-- Its value in words. -/
  text : String
  /-- The value is attached to the flag, and is no argument of its own. -/
  attached : Bool
  deriving DecidableEq, Repr

/-- What settings are mentioned with; the first mention counts. -/
def told (mentions : List Mention) (s : Setting) : Option String :=
  (mentions.find? fun m => m.setting == s).map (·.text)

/-- The environments in which the variable of a setting is not set, or can be read. -/
def Setting.Readable (s : Setting) (environment : String → Option String) : Prop :=
  ∀ text, environment s.variableName = some text → ∃ value, s.read text = .ok value

/-- A variable that has been read can be read. -/
theorem readable_of_read {s : Setting} {environment : String → Option String} {text : String}
    {value : s.Value} (known : environment s.variableName = some text)
    (reads : s.read text = .ok value) : s.Readable environment := by
  -- A variable has one value only.
  intro other found
  obtain rfl := Option.some.inj (known.symm.trans found)
  exact ⟨value, reads⟩

namespace Given

/-- A value that has been given. -/
@[simp] theorem set_self (given : Given) (s : Setting) (origin : Origin) (value : s.Value) :
    given.set s origin value s = some (origin, value) := by
  rw [set, dif_pos rfl]

/-- The other settings keep their values. -/
theorem set_other (given : Given) {s t : Setting} (other : s ≠ t) (origin : Origin)
    (value : s.Value) : given.set s origin value t = given t := by
  rw [set, dif_neg other]

/-- A value is taken when there is none yet and its text can be read. -/
theorem take_ok_iff (given g : Given) (s : Setting) (text : String) :
    given.take s text = .ok g ↔
      given s = none ∧ ∃ value, s.read text = .ok value ∧ g = given.set s .arguments value := by
  -- A setting that has a value already is mentioned twice, and otherwise its text decides.
  rw [take]
  cases found : given s with
  | some value => simp
  | none =>
    show (s.read text >>= fun value => pure (given.set s .arguments value)) = .ok g ↔ _
    simp only [bind_ok_iff, pure_ok_iff, true_and, eq_comm (a := g)]

/-- Takes the values of mentions one after another. -/
def takeAll (given : Given) (mentions : List Mention) : Except Misuse Given :=
  mentions.foldlM (fun given m => given.take m.setting m.text) given

/-- The values of settings in words from some origin, as far as they can be read. -/
def ofTexts (origin : Origin) (texts : Setting → Option String) : Given := fun s =>
  (texts s).bind fun text => (s.read text).toOption.map fun value => (origin, value)

/-- A text that can be read gives a value. -/
theorem ofTexts_of_read {origin : Origin} {texts : Setting → Option String} {s : Setting}
    {text : String} {value : s.Value} (given : texts s = some text)
    (reads : s.read text = .ok value) : ofTexts origin texts s = some (origin, value) := by
  simp [ofTexts, given, reads, Except.toOption]

/-- The first mention takes its place before the others. -/
theorem set_or_told {given : Given} {m : Mention} {value : m.setting.Value}
    (free : given m.setting = none) (reads : m.setting.read m.text = .ok value)
    (rest : List Mention) :
    (fun s => (given.set m.setting .arguments value s).or (ofTexts .arguments (told rest) s)) =
      fun s => (given s).or (ofTexts .arguments (told (m :: rest)) s) := by
  -- The setting of the mention is looked at apart from all others.
  funext s
  rcases eq_or_ne m.setting s with rfl | other
  · have first : told (m :: rest) m.setting = some m.text := by simp [told]
    rw [set_self, free, ofTexts_of_read first reads]
    rfl
  · have same : told (m :: rest) s = told rest s := by simp [told, other]
    rw [set_other _ other, ofTexts, ofTexts, same]

/-- Settings that are free after a first one are others, and were free before. -/
theorem set_free_iff (given : Given) {s : Setting} (value : s.Value) (rest : List Mention) :
    (∀ m ∈ rest, given.set s .arguments value m.setting = none) ↔
      s ∉ rest.map (·.setting) ∧ ∀ m ∈ rest, given m.setting = none := by
  -- A repeated setting would have been taken by the first mention, and no other one is.
  constructor
  · intro free
    have apart : ∀ m ∈ rest, s ≠ m.setting := by
      intro m member same
      subst same
      have taken := free m member
      rw [set_self] at taken
      cases taken
    refine ⟨fun repeated => ?_, fun m member => ?_⟩
    · obtain ⟨m, member, same⟩ := List.mem_map.mp repeated
      exact apart m member same.symm
    · rw [← set_other given (apart m member) .arguments value]
      exact free m member
  · intro apart m member
    obtain ⟨apart, free⟩ := apart
    have other : s ≠ m.setting := fun same => apart (List.mem_map.mpr ⟨m, member, same.symm⟩)
    rw [set_other given other]
    exact free m member

/-- Mentions are taken when no setting has two values and all texts can be read. -/
theorem takeAll_ok_iff (given g : Given) (mentions : List Mention) :
    given.takeAll mentions = .ok g ↔ (mentions.map (·.setting)).Nodup ∧
      (∀ m ∈ mentions, given m.setting = none) ∧
      (∀ m ∈ mentions, ∃ value, m.setting.read m.text = .ok value) ∧
      g = fun s => (given s).or (ofTexts .arguments (told mentions) s) := by
  -- The first value is among the given ones when the others are taken.
  induction mentions generalizing given with
  | nil =>
    rw [takeAll, List.foldlM_nil, pure_ok_iff]
    simp [told, ofTexts, eq_comm]
  | cons m rest ih =>
    rw [takeAll, List.foldlM_cons, bind_ok_iff]
    constructor
    · intro taken
      obtain ⟨after, takes, others⟩ := taken
      obtain ⟨free, value, reads, rfl⟩ := (take_ok_iff _ _ _ _).mp takes
      obtain ⟨distinct, unset, readable, rfl⟩ := (ih _).mp others
      obtain ⟨apart, unset⟩ := (set_free_iff given value rest).mp unset
      refine ⟨List.nodup_cons.mpr ⟨apart, distinct⟩, ?_, ?_, set_or_told free reads rest⟩
      · exact List.forall_mem_cons.mpr ⟨free, unset⟩
      · exact List.forall_mem_cons.mpr ⟨⟨value, reads⟩, readable⟩
    · intro taken
      obtain ⟨distinct, unset, readable, rfl⟩ := taken
      obtain ⟨apart, distinct⟩ := List.nodup_cons.mp distinct
      obtain ⟨free, unset⟩ := List.forall_mem_cons.mp unset
      obtain ⟨⟨value, reads⟩, readable⟩ := List.forall_mem_cons.mp readable
      refine ⟨given.set m.setting .arguments value, ?_, ?_⟩
      · exact (take_ok_iff _ _ _ _).mpr ⟨free, value, reads, rfl⟩
      · exact (ih _).mpr ⟨distinct, (set_free_iff given value rest).mpr ⟨apart, unset⟩, readable,
          (set_or_told free reads rest).symm⟩

/-- What the environment gives for settings. -/
def ofEnvironment (environment : String → Option String) : Given :=
  ofTexts .environment fun s => environment s.variableName

/-- The values of some settings are those that are given, or else those of the environment. -/
def completed (environment : String → Option String) (given : Given) (settings : List Setting) :
    Given := fun s =>
  -- What is given on the command line counts before the environment.
  if s ∈ settings then (given s).or (ofEnvironment environment s) else given s

/-- A setting that comes to the same without the environment leaves the others to be completed. -/
theorem completed_cons_of_or {environment : String → Option String} {given : Given} {s : Setting}
    (settled : (given s).or (ofEnvironment environment s) = given s) (rest : List Setting) :
    completed environment given (s :: rest) = completed environment given rest := by
  -- The setting itself comes to what it has already, and the others are completed as before.
  funext t
  rcases eq_or_ne t s with rfl | other
  · simp [completed, settled]
  · simp [completed, other]

/-- A value of the environment that is given first is the one that it would complete. -/
theorem completed_set {environment : String → Option String} {given : Given} {s : Setting}
    {text : String} {value : s.Value} (free : given s = none)
    (known : environment s.variableName = some text) (reads : s.read text = .ok value)
    (rest : List Setting) : completed environment (given.set s .environment value) rest =
      completed environment given (s :: rest) := by
  -- The setting is completed with what it has been given, and the others are not touched.
  funext t
  rcases eq_or_ne s t with rfl | other
  · have found : ofEnvironment environment s = some (.environment, value) :=
      ofTexts_of_read known reads
    simp [completed, free, found]
  · simp [completed, set_other given other, Ne.symm other]

/-- The environment completes the values given when it can be read for all other settings. -/
theorem complete_ok_iff (environment : String → Option String) (given g : Given)
    (settings : List Setting) : complete environment given settings = .ok g ↔
      (∀ s ∈ settings, given s = none → s.Readable environment) ∧
        g = completed environment given settings := by
  -- The settings are gone through in order; each is settled before the next.
  induction settings generalizing given with
  | nil =>
    have unchanged : completed environment given [] = given := by
      funext s
      simp [completed]
    simp [complete, unchanged, eq_comm]
  | cons s rest ih =>
    rw [complete]
    cases found : given s with
    | some value =>
      -- A setting that has a value keeps it.
      have settled : (given s).or (ofEnvironment environment s) = given s := by simp [found]
      rw [ih, completed_cons_of_or settled]
      simp [found]
    | none =>
      cases known : environment s.variableName with
      | none =>
        -- The environment has nothing to give.
        have settled : (given s).or (ofEnvironment environment s) = given s := by
          simp [found, ofEnvironment, ofTexts, known]
        have readable : s.Readable environment := by simp [Setting.Readable, known]
        rw [ih, completed_cons_of_or settled]
        simp [found, readable]
      | some text =>
        -- The environment gives the value, and it must be readable.
        show (s.read text >>= fun value =>
          complete environment (given.set s .environment value) rest) = .ok g ↔ _
        rw [bind_ok_iff]
        constructor
        · intro completes
          obtain ⟨value, reads, rests⟩ := completes
          obtain ⟨readable, rfl⟩ := (ih _).mp rests
          have first : s.Readable environment := readable_of_read known reads
          refine ⟨fun t member free => ?_, completed_set found known reads rest⟩
          rcases eq_or_ne s t with rfl | other
          · exact first
          · have later := (List.mem_cons.mp member).resolve_left (Ne.symm other)
            exact readable t later ((set_other given other _ _).trans free)
        · intro completes
          obtain ⟨readable, rfl⟩ := completes
          obtain ⟨value, reads⟩ := readable s List.mem_cons_self found text known
          refine ⟨value, reads, (ih _).mpr
            ⟨fun t member free => ?_, (completed_set found known reads rest).symm⟩⟩
          have other : s ≠ t := by
            intro same
            subst same
            rw [set_self] at free
            cases free
          exact readable t (List.mem_cons_of_mem s member) ((set_other given other _ _).symm.trans free)

end Given

end CsiOperator.CommandLine
