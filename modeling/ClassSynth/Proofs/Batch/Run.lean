import ClassSynth.Batch.Workspace

/-!
# Runs

A run that returns has gone through all its steps, each begun in the workspace that the one before
it left; a run that ends early has come to an error of one of its steps.  The lemmas here take runs
apart, one for each way an action is put together and one for each step that a conversion is made
of.
-/

set_option autoImplicit false

namespace ClassSynth.Action

variable {α β ε : Type}

theorem mapError_ok {ε' : Type} (cause : ε → ε') (value : α) :
    (Except.ok value : Except ε α).mapError cause = .ok value := rfl

theorem mapError_error {ε' : Type} (cause : ε → ε') (e : ε) :
    (Except.error e : Except ε α).mapError cause = .error (cause e) := rfl

/-- Whether an action, begun in one workspace, returns a value and leaves another workspace. -/
def Returns (action : Action α) (before : Workspace) (value : α) (after : Workspace) : Prop :=
  action.runOn before = (.ok value, after)

theorem runOn_bind (first : Action α) (next : α → Action β) (before : Workspace) :
    (first >>= next).runOn before =
      match first.runOn before with
      | (.ok mid, between) => (next mid).runOn between
      | (.error e, between) => (.error e, between) := by
  simp only [runOn, bind, ExceptT.bind, ExceptT.mk, StateT.bind]
  cases (first before) with
  | mk outcome between => cases outcome <;> rfl

theorem returns_bind_iff {first : Action α} {next : α → Action β} {before after : Workspace}
    {value : β} :
    (first >>= next).Returns before value after ↔
      ∃ mid between, first.Returns before mid between ∧
        (next mid).Returns between value after := by
  unfold Returns
  rw [runOn_bind]
  cases went : first.runOn before with
  | mk outcome between =>
    cases outcome with
    | error e => simp
    | ok mid =>
      constructor
      · exact fun returned => ⟨mid, between, rfl, returned⟩
      · rintro ⟨other, elsewhere, same, returned⟩
        obtain ⟨⟨⟩, rfl⟩ := Prod.mk.inj same
        exact returned

@[simp] theorem returns_pure_iff {given value : α} {before after : Workspace} :
    (pure given : Action α).Returns before value after ↔ value = given ∧ after = before := by
  have opened : (pure given : Action α).runOn before = (.ok given, before) := rfl
  simp [Returns, opened, eq_comm]

@[simp] theorem returns_files_iff {before after : Workspace} {tree : FileTree} :
    files.Returns before tree after ↔ tree = before.files ∧ after = before := by
  simp [Returns, files, of, runOn, eq_comm]

@[simp] theorem returns_check_iff {cause : ε → ConversionError} {result : Except ε α}
    {before after : Workspace} {value : α} :
    (check cause result).Returns before value after ↔ result = .ok value ∧ after = before := by
  cases result <;> simp [Returns, check, of, runOn, mapError_ok, mapError_error, eq_comm]

@[simp] theorem returns_output_iff {path : Option Text} {before after : Workspace} {value : Text} :
    (output path).Returns before value after ↔ path = some value ∧ after = before := by
  cases path <;> simp [Returns, output, of, runOn, eq_comm]

@[simp] theorem returns_log_iff {level : LogLevel} {message : Text} {before after : Workspace}
    {value : Unit} :
    (log level message).Returns before value after ↔
      after = { before with log := before.log ++ [⟨level, message⟩] } := by
  simp [Returns, log, logAll, of, runOn, eq_comm]

theorem returns_change_iff {operation : FileTree → Except FileError FileTree}
    {before after : Workspace} {value : Unit} :
    (change operation).Returns before value after ↔
      ∃ tree, operation before.files = .ok tree ∧ after = { before with files := tree } := by
  cases went : operation before.files <;> simp [Returns, change, of, runOn, went, eq_comm]

theorem returns_attempt_iff {operation : FileTree → Except FileError Unit × FileTree}
    {before after : Workspace} {value : Unit} :
    (attempt operation).Returns before value after ↔
      ∃ tree, operation before.files = (.ok (), tree) ∧ after = { before with files := tree } := by
  cases went : operation before.files with
  | mk outcome tree =>
    cases outcome <;>
      simp [Returns, attempt, of, runOn, went, mapError_ok, mapError_error, eq_comm]

theorem returns_synthesizeSamples_iff {raw : RawOptions} {files : List Text}
    {before after : Workspace} {samples : Samples} :
    (synthesizeSamples raw files).Returns before samples after ↔
      before.files.synthesizeSamples raw files = (.ok (), samples) ∧
        after = { before with log := before.log ++ samples.log } := by
  cases went : before.files.synthesizeSamples raw files with
  | mk outcome done =>
    cases outcome with
    | error e => simp [Returns, synthesizeSamples, of, runOn, went, Except.map]
    | ok value =>
      simp only [Returns, synthesizeSamples, of, runOn, went, Except.map, Prod.mk.injEq,
        Except.ok.injEq, true_and]
      constructor
      · rintro ⟨rfl, rfl⟩
        exact ⟨rfl, rfl⟩
      · rintro ⟨rfl, rfl⟩
        exact ⟨rfl, rfl⟩

/-- Whether an action returns, and a test accepts what it returns and leaves. -/
def passes {α : Type} (action : Action α) (before : Workspace)
    (test : α → Workspace → Bool) : Bool :=
  match action.runOn before with
  | (.ok value, after) => test value after
  | (.error _, _) => false

theorem exists_of_passes {α : Type} {action : Action α} {before : Workspace}
    {holds : α → Workspace → Prop} [∀ value after, Decidable (holds value after)]
    (passed : action.passes before (fun value after => decide (holds value after)) = true) :
    ∃ value after, action.runOn before = (.ok value, after) ∧ holds value after := by
  unfold passes at passed
  cases went : action.runOn before with
  | mk outcome after =>
    rw [went] at passed
    cases outcome with
    | error e => cases passed
    | ok value => exact ⟨value, after, rfl, of_decide_eq_true passed⟩

/-! ## Runs that end early -/

/-- Whether an action that ends early comes to an error of one kind. -/
def EndsBy (kind : ConversionError → Bool) (action : Action α) : Prop :=
  ∀ before e after, action.runOn before = (.error e, after) → kind e = true

section

variable {kind : ConversionError → Bool}

/-- What comes next need only end that way on a value that can be returned. -/
theorem EndsBy.bind {first : Action α} {next : α → Action β} (ends : first.EndsBy kind)
    (later : ∀ before value after, first.Returns before value after → (next value).EndsBy kind) :
    (first >>= next).EndsBy kind := by
  intro before e after failed
  rw [runOn_bind] at failed
  cases went : first.runOn before with
  | mk outcome between =>
    rw [went] at failed
    cases outcome with
    | error cause =>
      obtain ⟨same, rfl⟩ := Prod.mk.inj failed
      cases same
      exact ends before e between went
    | ok value => exact later before value between went between e after failed

theorem endsBy_pure (value : α) : (pure value : Action α).EndsBy kind :=
  fun _ _ _ failed => nomatch failed

theorem endsBy_files : files.EndsBy kind := fun _ _ _ failed => nomatch failed

theorem endsBy_log (level : LogLevel) (message : Text) : (log level message).EndsBy kind :=
  fun _ _ _ failed => nomatch failed

theorem endsBy_output (path : Option Text) (refusal : kind .noOutput = true) :
    (output path).EndsBy kind := by
  intro before e after failed
  cases path with
  | some path => simp [output, of, runOn] at failed
  | none =>
    simp only [output, of, runOn, Prod.mk.injEq, Except.error.injEq] at failed
    rw [← failed.1]
    exact refusal

theorem endsBy_check {cause : ε → ConversionError} {result : Except ε α}
    (refusals : ∀ e, result = .error e → kind (cause e) = true) :
    (check cause result).EndsBy kind := by
  intro before e after failed
  cases result with
  | ok value => simp [check, of, runOn, mapError_ok] at failed
  | error reason =>
    simp only [check, of, runOn, mapError_error, Prod.mk.injEq, Except.error.injEq] at failed
    rw [← failed.1]
    exact refusals reason rfl

theorem endsBy_change {operation : FileTree → Except FileError FileTree}
    (refusals : ∀ tree e, operation tree = .error e → kind (.file e) = true) :
    (change operation).EndsBy kind := by
  intro before e after failed
  cases went : operation before.files with
  | ok tree => simp [change, of, runOn, went] at failed
  | error cause =>
    simp only [change, of, runOn, went, Prod.mk.injEq, Except.error.injEq] at failed
    rw [← failed.1]
    exact refusals before.files cause went

theorem endsBy_attempt {operation : FileTree → Except FileError Unit × FileTree}
    (refusals : ∀ tree e, (operation tree).1 = .error e → kind (.file e) = true) :
    (attempt operation).EndsBy kind := by
  intro before e after failed
  have here := refusals before.files
  cases went : operation before.files with
  | mk outcome tree =>
    rw [went] at here
    cases outcome with
    | ok value => simp [attempt, of, runOn, went, mapError_ok] at failed
    | error cause =>
      simp only [attempt, of, runOn, went, mapError_error, Prod.mk.injEq, Except.error.injEq]
        at failed
      rw [← failed.1]
      exact here cause rfl

theorem endsBy_synthesizeSamples {raw : RawOptions} {samples : List Text}
    (refusals : ∀ tree e done,
      FileTree.synthesizeSamples tree raw samples = (.error e, done) → kind e = true) :
    (synthesizeSamples raw samples).EndsBy kind := by
  intro before e after failed
  cases went : before.files.synthesizeSamples raw samples with
  | mk outcome done =>
    cases outcome with
    | ok value => simp [synthesizeSamples, of, runOn, went, Except.map] at failed
    | error cause =>
      simp only [synthesizeSamples, of, runOn, went, Except.map, Prod.mk.injEq,
        Except.error.injEq] at failed
      rw [← failed.1]
      exact refusals before.files cause done went

end

end ClassSynth.Action
