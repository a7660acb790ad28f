import CsiOperator.Proofs.CommandLine.Lines

/-! The values that the settings of a line come to: those of the words that tell them, and otherwise
the usual ones. -/

namespace CsiOperator.CommandLine

/-- The usual value of a setting, if it has one. -/
def Setting.usual : (s : Setting) → Option s.Value
  -- A file that is not named is not read, so there is no usual one.
  | kubeconfig => none
  | resync => some 60
  | assetFolder => some "/manifests"
  | driversFile => none
  | publication => some 30
  | logFormat => some .text

/-- The value of a setting. -/
def Options.value? (options : Options) : (s : Setting) → Option s.Value
  -- What has a usual value is always there.
  | .kubeconfig => options.kubeconfig
  | .resync => some options.resyncSeconds
  | .assetFolder => some options.assetFolder
  | .driversFile => options.driversFile
  | .publication => some options.publicationSeconds
  | .logFormat => some options.logFormat

/-- Options have the values given, or else the usual ones. -/
theorem Options.value?_ofGiven (given : Given) (s : Setting) :
    (ofGiven given).value? s = ((given s).map (·.2)).or s.usual := by
  cases s <;> simp [value?, ofGiven, Setting.usual]

/-- Options with the same values are the same. -/
theorem Options.eq_of_value? {o p : Options} (same : ∀ s, o.value? s = p.value? s) : o = p := by
  -- The values of all settings are all that options consist of.
  obtain ⟨kubeconfig, resync, assets, drivers, publication, format⟩ := o
  have first := same .kubeconfig
  have second := same .resync
  have third := same .assetFolder
  have fourth := same .driversFile
  have fifth := same .publication
  have sixth := same .logFormat
  simp only [value?, Option.some.injEq] at first second third fourth fifth sixth
  subst first second third fourth fifth sixth
  rfl

/-- A number of seconds is not zero. -/
theorem Setting.one_le_of_readSeconds {text : String} {n : Nat} (reads : readSeconds text = .ok n) :
    1 ≤ n := by
  -- A number of seconds is digits first and then a number within its bounds.
  rw [readSeconds] at reads
  -- The bounds are looked at once the digits are a number.
  split at reads
  · split at reads
    · rename_i n _ bounds
      cases reads
      rw [Bool.and_eq_true, decide_eq_true_eq] at bounds
      exact bounds.1
    · cases reads
  · cases reads

namespace Given

/-- Values in words keep what the words mean. -/
theorem value_ofTexts (origin : Origin) (texts : Setting → Option String) (s : Setting) :
    (ofTexts origin texts s).map (·.2) = (texts s).bind fun text => (s.read text).toOption := by
  -- Words without a meaning leave no value, like words that are not there.
  rw [ofTexts, Option.map_bind]
  cases texts s with
  | none => rfl
  | some text =>
    -- The origin is put beside the value, and taken away again.
    show Option.map _ ((s.read text).toOption.map _) = (s.read text).toOption
    rw [Option.map_map]
    exact congrFun Option.map_id _

/-- A value that is mentioned at an accepted level is the one of the level. -/
theorem ofLevel_of_told {environment : String → Option String} {mentions : List Mention}
    {s : Setting} {text : String} {value : s.Value} (found : told mentions s = some text)
    (reads : s.read text = .ok value) :
    ofLevel environment mentions s = some (.arguments, value) := by
  -- The mention counts before the environment.
  rw [ofLevel, ofTexts_of_read found reads]
  rfl

/-- A setting that is not mentioned is left to the environment. -/
theorem ofLevel_of_untold {environment : String → Option String} {mentions : List Mention}
    {s : Setting} (missing : told mentions s = none) :
    ofLevel environment mentions s = ofEnvironment environment s := by
  -- Nothing counts before the environment then.
  rw [ofLevel, ofTexts, missing]
  rfl

/-- Where there is a value in words, it is from the origin of the words. -/
theorem ofTexts_eq_none_or (origin : Origin) (texts : Setting → Option String) (s : Setting) :
    ofTexts origin texts s = none ∨ ∃ value, ofTexts origin texts s = some (origin, value) := by
  -- A value is made with the origin at hand, if one can be made.
  cases found : ofTexts origin texts s with
  | none => exact .inl rfl
  | some given =>
    obtain ⟨text, -, taken⟩ := Option.bind_eq_some_iff.mp found
    obtain ⟨value, -, rfl⟩ := Option.map_eq_some_iff.mp taken
    exact .inr ⟨value, rfl⟩

/-- The value of one level is that of the words it is told, or else of the environment. -/
theorem value_ofLevel {environment : String → Option String} {mentions : List Mention}
    (accepted : Accepted environment mentions) (s : Setting) :
    (ofLevel environment mentions s).map (·.2) =
      ((told mentions s).or (environment s.variableName)).bind
        fun text => (s.read text).toOption := by
  -- Words that are mentioned can be read, as the level has been accepted.
  cases found : told mentions s with
  | none =>
    rw [ofLevel_of_untold found, ofEnvironment, value_ofTexts]
    rfl
  | some text =>
    obtain ⟨value, reads⟩ := accepted.read_told found
    rw [ofLevel_of_told found reads]
    simp [reads, Except.toOption]

/-- An inner level with nothing but the environment changes nothing. -/
theorem within_of_environment {environment : String → Option String} {inner : Given} {s : Setting}
    (before : List Mention) (same : inner s = ofEnvironment environment s) :
    (ofLevel environment before).within inner s = ofLevel environment before s := by
  -- What the inner level has is what the environment gives to both.
  rw [within, same, ofLevel]
  rcases ofTexts_eq_none_or .environment (fun t => environment t.variableName) s with
    missing | ⟨value, found⟩
  · -- Without a variable there is only the outer level.
    rw [ofEnvironment, missing]
    split <;> simp_all
  · -- With one, the outer level has that value too, or a mention that counts before it.
    rw [ofEnvironment, found]
    rcases ofTexts_eq_none_or .arguments (told before) s with untold | ⟨first, mentioned⟩
    · rw [untold]
      rfl
    · rw [mentioned]
      rfl

/-- The value of two levels is that of what the inner one is told, or else the value of the outer
one. -/
theorem value_within {environment : String → Option String} {before after : List Mention}
    (acceptedBefore : Accepted environment before) (acceptedAfter : Accepted environment after)
    (s : Setting) :
    ((ofLevel environment before).within (ofLevel environment after) s).map (·.2) =
      ((told after s).or ((told before s).or (environment s.variableName))).bind
        fun text => (s.read text).toOption := by
  -- The inner level decides when it is told the setting.
  cases found : told after s with
  | some text =>
    -- What the inner level is told counts before everything else.
    obtain ⟨value, reads⟩ := acceptedAfter.read_told found
    have inner : ofLevel environment after s = some (.arguments, value) :=
      ofLevel_of_told found reads
    have kept : (ofLevel environment before).within (ofLevel environment after) s =
        some (.arguments, value) := by
      rw [within, inner]
      split <;> simp_all
    rw [kept]
    simp [reads, Except.toOption]
  | none =>
    -- The inner level has only what the environment gives, which the outer level has too.
    rw [Option.none_or, ← value_ofLevel acceptedBefore s]
    have inner : ofLevel environment after s = ofEnvironment environment s :=
      ofLevel_of_untold found
    rw [within_of_environment before inner]

end Given

namespace Line

/-- The words that tell a setting: those after the command, or else those before it, or else those of
the environment. -/
def text? (line : Line) (environment : String → Option String) (s : Setting) : Option String :=
  (told line.after s).or ((told line.before s).or (environment s.variableName))

/-- The value of a line is that of the words that tell it. -/
theorem value_given {line : Line} {environment : String → Option String}
    (accepted : line.Accepted environment) (s : Setting) :
    (line.given environment s).map (·.2) =
      (line.text? environment s).bind fun text => (s.read text).toOption := by
  -- A line has one level or two, and each is accepted.
  obtain ⟨before, command, closed⟩ := line
  have acceptedBefore : CommandLine.Accepted environment before :=
    accepted before List.mem_cons_self
  -- Without a command there is one level, and with one the later level is the inner one.
  cases command with
  | none => exact Given.value_ofLevel acceptedBefore s
  | some last =>
    obtain ⟨c, after⟩ := last
    have acceptedAfter : CommandLine.Accepted environment after :=
      accepted after (List.mem_cons_of_mem before List.mem_cons_self)
    exact Given.value_within acceptedBefore acceptedAfter s

/-- What is told after the command is mentioned at one of the levels. -/
theorem after_mem_levels {line : Line} {s : Setting} {text : String}
    (found : told line.after s = some text) : line.after ∈ line.levels := by
  -- The last level is the one after the command.
  rw [after, levels] at *
  -- Without a command nothing is told after it.
  cases command : line.command with
  | none =>
    rw [command] at found
    cases found
  | some last => simp

/-- The words that tell a setting of an accepted line can be read. -/
theorem read_text {line : Line} {environment : String → Option String}
    (accepted : line.Accepted environment) {s : Setting} {text : String}
    (found : line.text? environment s = some text) : ∃ value, s.read text = .ok value := by
  -- Words of the environment are looked at by the level before the command, if it tells nothing.
  have acceptedBefore := accepted line.before List.mem_cons_self
  rcases Option.or_eq_some_iff.mp found with inner | ⟨-, found⟩
  · exact (accepted line.after (after_mem_levels inner)).read_told inner
  · rcases Option.or_eq_some_iff.mp found with outer | ⟨untold, known⟩
    · exact acceptedBefore.read_told outer
    · exact acceptedBefore.others s ((told_eq_none_iff _ _).mp untold) text known

/-- A setting that is told comes to what the words mean. -/
theorem value_of_text {line : Line} {environment : String → Option String}
    (accepted : line.Accepted environment) {s : Setting} {text : String}
    (found : line.text? environment s = some text) :
    ∃ value, s.read text = .ok value ∧
      (line.invocation environment).options.value? s = some value := by
  -- What is told can be read, and the value of a line is that of its words.
  obtain ⟨value, reads⟩ := read_text accepted found
  refine ⟨value, reads, ?_⟩
  rw [invocation, Options.value?_ofGiven, value_given accepted, found]
  simp [reads, Except.toOption]

/-- A setting that nothing tells has its usual value. -/
theorem usual_of_untold {line : Line} {environment : String → Option String}
    (accepted : line.Accepted environment) {s : Setting}
    (missing : line.text? environment s = none) :
    (line.invocation environment).options.value? s = s.usual := by
  -- Without words there is no value, and the usual one takes its place.
  rw [invocation, Options.value?_ofGiven, value_given accepted, missing]
  rfl

/-- The value of a setting is one that can be read, or the usual one. -/
theorem value_holds {line : Line} {environment : String → Option String}
    (accepted : line.Accepted environment) (s : Setting) (Holds : s.Value → Prop)
    (read : ∀ text value, s.read text = .ok value → Holds value)
    (usual : ∀ value, s.usual = some value → Holds value) {value : s.Value}
    (comes : (line.invocation environment).options.value? s = some value) : Holds value := by
  -- What tells the setting can be read, and otherwise the usual value is the only one left.
  cases found : line.text? environment s with
  | none => exact usual value ((usual_of_untold accepted found).symm.trans comes)
  | some text =>
    obtain ⟨other, reads, told⟩ := value_of_text accepted found
    obtain rfl := Option.some.inj (told.symm.trans comes)
    exact read text other reads

/-- Both intervals are at least one second long. -/
theorem seconds_positive {line : Line} {environment : String → Option String}
    (accepted : line.Accepted environment) :
    1 ≤ (line.invocation environment).options.resyncSeconds ∧
      1 ≤ (line.invocation environment).options.publicationSeconds := by
  -- Where seconds are told they are read, which a number below one would not be.
  have read : ∀ text n, Setting.readSeconds text = .ok n → 1 ≤ n := fun _ _ reads =>
    Setting.one_le_of_readSeconds reads
  constructor
  -- The usual intervals are a minute and half a minute.
  · have usual : ∀ n : Nat, Setting.resync.usual = some n → 1 ≤ n := by
      intro n same
      obtain rfl := Option.some.inj same
      decide
    exact value_holds accepted .resync (fun n => 1 ≤ n) read usual rfl
  · have usual : ∀ n : Nat, Setting.publication.usual = some n → 1 ≤ n := by
      intro n same
      obtain rfl := Option.some.inj same
      decide
    exact value_holds accepted .publication (fun n => 1 ≤ n) read usual rfl

/-- Lines with the same command whose settings are told the same mean the same. -/
theorem invocation_eq {line other : Line} {environment altered : String → Option String}
    (accepted : line.Accepted environment) (acceptedOther : other.Accepted altered)
    (sameCommand : line.command.map (·.1) = other.command.map (·.1))
    (same : ∀ s, line.text? environment s = other.text? altered s) :
    line.invocation environment = other.invocation altered := by
  -- The values of all settings are the same, as each is that of the words that tell it.
  have options : (line.invocation environment).options = (other.invocation altered).options := by
    apply Options.eq_of_value?
    intro s
    rw [invocation, invocation, Options.value?_ofGiven, Options.value?_ofGiven,
      value_given accepted, value_given acceptedOther, same]
  exact congrArg₂ Invocation.mk sameCommand options

end Line

end CsiOperator.CommandLine
