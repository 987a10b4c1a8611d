import Mathlib.Data.List.Nodup
import Mathlib.Order.Fin.Basic
import ClassSynth.Batch.Synthesis
import ClassSynth.Proofs.Keyed

/-!
# Samples of a batch are independent

A batch carries two tables from sample to sample.  All the same, a sample comes to what it would
come to alone, unless an earlier sample that was converted holds its class name; a sample that fails
holds no name.  The main statement says this of every sample at every place in a batch, and that the
tables list the samples in the order in which they were given.
-/

set_option autoImplicit false

namespace ClassSynth

def LoadError.message : LoadError → Text
  | .file error => error.message
  | .undecodable refusal => refusal.message
  | .malformed error => error.message

/-- What a sample comes to alone: the class tree of its document under the class name of its file,
or the wording of what is wrong. -/
def FileTree.alone (tree : FileTree) (options : Options) (file : Text) : Except Text ClassSpec :=
  match tree.loadSample file with
  | .error e => .error e.message
  | .ok document =>
    (synthesizeFresh options document (some (ClassName.ofFile file))).mapError
      SynthesisError.message

namespace Samples

/-- Whether a sample before a file was converted and holds the class name of the file. -/
structure Holds (s : Samples) (before : List Text) (file holder : Text) : Prop where
  earlier : holder ∈ before
  converted : holder ∈ s.specs.keys
  sameName : (ClassName.ofFile holder).fold = (ClassName.ofFile file).fold

/-- The reason of failure of a file whose class name another file holds. -/
def usedBy (file holder : Text) : Text :=
  "Class name " ++ ClassName.ofFile file ++ " is already used by " ++ holder

end Samples

section

variable {tree : FileTree} {raw : RawOptions} {options : Options}

/-! ## One sample -/

theorem sampleOutcome_cases (tree : FileTree) (valid : Options.ofRaw raw = .ok options)
    (file : Text) :
    (∃ spec, tree.sampleOutcome raw file (ClassName.ofFile file) = .spec spec ∧
      tree.alone options file = .ok spec) ∨
    (∃ reason, tree.sampleOutcome raw file (ClassName.ofFile file) = .failed reason ∧
      tree.alone options file = .error reason) ∨
    ∃ e, tree.sampleOutcome raw file (ClassName.ofFile file) = .aborted e := by
  unfold FileTree.sampleOutcome FileTree.alone specOfDocument
  rw [valid]
  cases tree.loadSample file with
  | error refusal =>
    cases refusal with
    | file e => exact Or.inr (Or.inr ⟨_, rfl⟩)
    | undecodable refusal => exact Or.inr (Or.inl ⟨_, rfl, rfl⟩)
    | malformed e =>
      cases e with
      | overlongInteger digits => exact Or.inr (Or.inr ⟨_, rfl⟩)
      | malformed fault place => exact Or.inr (Or.inl ⟨_, rfl, rfl⟩)
      | nestedTooDeep container => exact Or.inr (Or.inl ⟨_, rfl, rfl⟩)
  | ok document =>
    simp only
    cases synthesizeFresh options document (some (ClassName.ofFile file)) with
    | ok spec => exact Or.inl ⟨spec, rfl, rfl⟩
    | error e =>
      cases e with
      | inference e => exact Or.inr (Or.inl ⟨_, rfl, rfl⟩)
      | unsupportedValue typeName path => exact Or.inr (Or.inr ⟨_, rfl⟩)
      | invalidClassName name => exact Or.inr (Or.inr ⟨_, rfl⟩)

/-- A sample that is taken is skipped for its class name, or comes to what it comes to alone. -/
theorem synthesizeSample_eq_ok_cases (valid : Options.ofRaw raw = .ok options) {s next : Samples}
    {file : Text} (went : tree.synthesizeSample raw s file = (.ok (), next)) :
    (∃ holder, s.holders.get? (ClassName.ofFile file).fold = some holder ∧
      next = s.fail file (Samples.usedBy file holder)) ∨
    s.holders.get? (ClassName.ofFile file).fold = none ∧
      ((∃ spec, tree.alone options file = .ok spec ∧
        next = s.succeed file (ClassName.ofFile file) spec) ∨
      ∃ reason, tree.alone options file = .error reason ∧ next = s.fail file reason) := by
  unfold FileTree.synthesizeSample at went
  cases holder : s.holders.get? (ClassName.ofFile file).fold with
  | some other =>
    simp only [holder, Prod.mk.injEq, true_and] at went
    exact Or.inl ⟨other, rfl, went.symm⟩
  | none =>
    simp only [holder] at went
    right
    refine ⟨rfl, ?_⟩
    rcases sampleOutcome_cases tree valid file with ⟨spec, outcome, alone⟩ |
      ⟨reason, outcome, alone⟩ | ⟨e, outcome⟩
    · simp only [outcome, Prod.mk.injEq, true_and] at went
      exact Or.inl ⟨spec, alone, went.symm⟩
    · simp only [outcome, Prod.mk.injEq, true_and] at went
      exact Or.inr ⟨reason, alone, went.symm⟩
    · simp [outcome] at went

end

/-! ## What a state says of the samples taken -/

namespace Samples

section

variable (tree : FileTree) (options : Options)

/-- What has become of a file that was taken after the files before it. -/
inductive Verdict (s : Samples) (before : List Text) (file : Text) : Prop where
  | converted (spec : ClassSpec) (alone : tree.alone options file = .ok spec)
      (free : ∀ holder, ¬ s.Holds before file holder) (noted : s.specs.get? file = some spec)
  | skipped (holder : Text) (held : s.Holds before file holder)
      (only : ∀ other, s.Holds before file other → other = holder)
      (unconverted : s.specs.get? file = none)
      (noted : s.failed.get? file = some (usedBy file holder))
  | failed (reason : Text) (alone : tree.alone options file = .error reason)
      (free : ∀ holder, ¬ s.Holds before file holder) (unconverted : s.specs.get? file = none)
      (noted : s.failed.get? file = some reason)

/-- What the state of a batch says of the samples taken so far. -/
structure Accounts (taken : List Text) (s : Samples) : Prop where
  specsInOrder : s.specs.keys = taken.filter fun file => decide (file ∈ s.specs.keys)
  failedInOrder : s.failed.keys = taken.filter fun file => decide (file ∉ s.specs.keys)
  holders : ∀ folded holder, s.holders.get? folded = some holder ↔
    holder ∈ s.specs.keys ∧ (ClassName.ofFile holder).fold = folded
  verdicts : ∀ before file after, taken = before ++ file :: after →
    s.Verdict tree options before file

end

variable {tree : FileTree} {options : Options}

theorem accounts_start : Accounts tree options [] start := by
  refine ⟨rfl, rfl, ?_, ?_⟩
  · simp [start, Keyed.get?, Keyed.keys]
  · intro before file after shape
    simp at shape

/-- Whether two states differ in what they note of one file at most. -/
structure SameBut (s next : Samples) (file : Text) : Prop where
  specs : ∀ other, other ≠ file → next.specs.get? other = s.specs.get? other
  failed : ∀ other, other ≠ file → next.failed.get? other = s.failed.get? other

variable {s next : Samples} {file : Text}

theorem SameBut.mem_keys_iff (same : s.SameBut next file) {other : Text} (apart : other ≠ file) :
    other ∈ next.specs.keys ↔ other ∈ s.specs.keys := by
  have unnoted := same.specs other apart
  rw [← not_iff_not, ← Keyed.get?_eq_none_iff, ← Keyed.get?_eq_none_iff, unnoted]

theorem SameBut.holds_iff (same : s.SameBut next file) {before : List Text}
    (apart : file ∉ before) (other holder : Text) :
    next.Holds before other holder ↔ s.Holds before other holder := by
  have member : holder ∈ before → (holder ∈ next.specs.keys ↔ holder ∈ s.specs.keys) := by
    intro earlier
    apply same.mem_keys_iff
    rintro rfl
    exact apart earlier
  constructor
  · rintro ⟨earlier, converted, sameName⟩
    exact ⟨earlier, (member earlier).mp converted, sameName⟩
  · rintro ⟨earlier, converted, sameName⟩
    exact ⟨earlier, (member earlier).mpr converted, sameName⟩

theorem Verdict.of_sameBut {before : List Text} {other : Text}
    (verdict : s.Verdict tree options before other) (same : s.SameBut next file)
    (apart : file ∉ before) (different : other ≠ file) :
    next.Verdict tree options before other := by
  have holds := same.holds_iff apart other
  have specs := same.specs other different
  have failures := same.failed other different
  cases verdict with
  | converted spec alone free noted =>
    exact .converted spec alone (fun holder held => free holder ((holds holder).mp held))
      (specs.trans noted)
  | skipped holder held only unconverted noted =>
    exact .skipped holder ((holds holder).mpr held)
      (fun another held => only another ((holds another).mp held)) (specs.trans unconverted)
      (failures.trans noted)
  | failed reason alone free unconverted noted =>
    exact .failed reason alone (fun holder held => free holder ((holds holder).mp held))
      (specs.trans unconverted) (failures.trans noted)

/-! ## One more sample -/

theorem split_concat {Item : Type} {items before after : List Item} {item last : Item}
    (shape : items ++ [last] = before ++ item :: after) :
    (before = items ∧ item = last) ∨ ∃ rest, items = before ++ item :: rest := by
  rcases List.eq_nil_or_concat after with rfl | ⟨rest, final, rfl⟩
  · obtain ⟨same, ends⟩ := List.append_inj' shape rfl
    exact Or.inl ⟨same.symm, (List.cons.inj ends).1.symm⟩
  · right
    rw [List.concat_eq_append, ← List.cons_append, ← List.append_assoc] at shape
    exact ⟨rest, (List.append_inj' shape rfl).1⟩

variable {taken : List Text}

theorem Accounts.not_mem_specs (accounts : s.Accounts tree options taken) (fresh : file ∉ taken) :
    file ∉ s.specs.keys := by
  rw [accounts.specsInOrder]
  intro member
  exact fresh (List.mem_filter.mp member).1

theorem Accounts.not_mem_failed (accounts : s.Accounts tree options taken) (fresh : file ∉ taken) :
    file ∉ s.failed.keys := by
  rw [accounts.failedInOrder]
  intro member
  exact fresh (List.mem_filter.mp member).1

theorem Accounts.verdicts_concat (accounts : s.Accounts tree options taken) (fresh : file ∉ taken)
    (same : s.SameBut next file) (verdict : next.Verdict tree options taken file) :
    ∀ before other after, taken ++ [file] = before ++ other :: after →
      next.Verdict tree options before other := by
  intro before other after shape
  rcases split_concat shape with ⟨rfl, rfl⟩ | ⟨rest, earlier⟩
  · exact verdict
  · have apart : file ∉ before := by
      intro member
      exact fresh (by rw [earlier]; exact List.mem_append_left _ member)
    have different : other ≠ file := by
      rintro rfl
      exact fresh (by rw [earlier]; exact List.mem_append_right _ List.mem_cons_self)
    exact (accounts.verdicts before other rest earlier).of_sameBut same apart different

theorem sameBut_fail (s : Samples) (file reason : Text) : s.SameBut (s.fail file reason) file := by
  constructor
  · intro other _
    rfl
  · intro other different
    exact (Keyed.get?_put file reason s.failed other).trans (if_neg (Ne.symm different))

theorem sameBut_succeed (s : Samples) (file name : Text) (spec : ClassSpec) :
    s.SameBut (s.succeed file name spec) file := by
  constructor
  · intro other different
    exact (Keyed.get?_put file spec s.specs other).trans (if_neg (Ne.symm different))
  · intro other _
    rfl

theorem get?_failed_fail (s : Samples) (file reason : Text) :
    (s.fail file reason).failed.get? file = some reason :=
  (Keyed.get?_put file reason s.failed file).trans (if_pos rfl)

theorem Accounts.fail (accounts : s.Accounts tree options taken) (fresh : file ∉ taken)
    {reason : Text} (verdict : (s.fail file reason).Verdict tree options taken file) :
    (s.fail file reason).Accounts tree options (taken ++ [file]) := by
  have unconverted := accounts.not_mem_specs fresh
  have unfailed := accounts.not_mem_failed fresh
  have specs : (s.fail file reason).specs = s.specs := rfl
  have failures : (s.fail file reason).failed.keys = s.failed.keys ++ [file] :=
    Keyed.keys_put_of_not_mem reason unfailed
  refine ⟨?_, ?_, accounts.holders, accounts.verdicts_concat fresh (sameBut_fail s file reason)
    verdict⟩
  · rw [specs, List.filter_append, ← accounts.specsInOrder]
    simp [unconverted]
  · rw [failures, specs, List.filter_append, ← accounts.failedInOrder]
    simp [unconverted]

theorem Accounts.succeed (accounts : s.Accounts tree options taken) (fresh : file ∉ taken)
    {spec : ClassSpec} (alone : tree.alone options file = .ok spec)
    (free : s.holders.get? (ClassName.ofFile file).fold = none) :
    (s.succeed file (ClassName.ofFile file) spec).Accounts tree options (taken ++ [file]) := by
  have unconverted := accounts.not_mem_specs fresh
  have unfailed := accounts.not_mem_failed fresh
  have failures : (s.succeed file (ClassName.ofFile file) spec).failed = s.failed := rfl
  have specs : (s.succeed file (ClassName.ofFile file) spec).specs.keys = s.specs.keys ++ [file] :=
    Keyed.keys_put_of_not_mem spec unconverted
  have others : ∀ other ∈ taken,
      (other ∈ (s.succeed file (ClassName.ofFile file) spec).specs.keys ↔
        other ∈ s.specs.keys) := by
    intro other member
    apply (sameBut_succeed s file _ spec).mem_keys_iff
    rintro rfl
    exact fresh member
  have unheld : ∀ holder, holder ∈ s.specs.keys →
      (ClassName.ofFile holder).fold ≠ (ClassName.ofFile file).fold := by
    intro holder converted sameName
    have held := (accounts.holders _ holder).mpr ⟨converted, sameName⟩
    rw [free] at held
    cases held
  refine ⟨?_, ?_, ?_, ?_⟩
  · have kept : (taken.filter fun other => decide (other ∈
        (s.succeed file (ClassName.ofFile file) spec).specs.keys)) = s.specs.keys := by
      rw [List.filter_congr fun other member => decide_eq_decide.mpr (others other member)]
      exact accounts.specsInOrder.symm
    rw [List.filter_append, kept, specs]
    simp
  · have kept : (taken.filter fun other => decide (other ∉
        (s.succeed file (ClassName.ofFile file) spec).specs.keys)) = s.failed.keys := by
      rw [List.filter_congr fun other member =>
        decide_eq_decide.mpr (not_congr (others other member))]
      exact accounts.failedInOrder.symm
    rw [failures, List.filter_append, kept, specs]
    simp
  · intro folded holder
    have held : (s.succeed file (ClassName.ofFile file) spec).holders.get? folded =
        if (ClassName.ofFile file).fold = folded then some file else s.holders.get? folded :=
      Keyed.get?_put _ file s.holders folded
    rw [held, specs, List.mem_append, List.mem_singleton]
    by_cases named : (ClassName.ofFile file).fold = folded
    · rw [if_pos named, Option.some.injEq]
      constructor
      · rintro rfl
        exact ⟨Or.inr rfl, named⟩
      · rintro ⟨converted | rfl, sameName⟩
        · exact absurd (sameName.trans named.symm) (unheld holder converted)
        · rfl
    · rw [if_neg named, accounts.holders]
      constructor
      · rintro ⟨converted, sameName⟩
        exact ⟨Or.inl converted, sameName⟩
      · rintro ⟨converted | rfl, sameName⟩
        · exact ⟨converted, sameName⟩
        · exact absurd sameName named
  · apply accounts.verdicts_concat fresh (sameBut_succeed s file _ spec)
    refine .converted spec alone ?_ ?_
    · rintro holder ⟨earlier, converted, sameName⟩
      exact unheld holder ((others holder earlier).mp converted) sameName
    · exact (Keyed.get?_put file spec s.specs file).trans (if_pos rfl)

end Samples

section

variable {tree : FileTree} {raw : RawOptions} {options : Options} {s next : Samples} {file : Text}
  {taken : List Text}

theorem accounts_of_synthesizeSample (valid : Options.ofRaw raw = .ok options)
    (accounts : s.Accounts tree options taken) (fresh : file ∉ taken)
    (went : tree.synthesizeSample raw s file = (.ok (), next)) :
    next.Accounts tree options (taken ++ [file]) := by
  have unconverted := (Keyed.get?_eq_none_iff file s.specs).mpr (accounts.not_mem_specs fresh)
  have convertedTaken : ∀ holder ∈ s.specs.keys, holder ∈ taken := by
    intro holder converted
    rw [accounts.specsInOrder] at converted
    exact (List.mem_filter.mp converted).1
  rcases synthesizeSample_eq_ok_cases valid went with ⟨holder, held, rfl⟩ |
    ⟨free, ⟨spec, alone, rfl⟩ | ⟨reason, alone, rfl⟩⟩
  · apply accounts.fail fresh
    obtain ⟨converted, sameName⟩ := (accounts.holders _ holder).mp held
    refine .skipped holder ⟨convertedTaken holder converted, converted, sameName⟩ ?_ unconverted
      (s.get?_failed_fail file _)
    rintro other ⟨earlier, otherConverted, otherName⟩
    have otherHeld := (accounts.holders _ other).mpr ⟨otherConverted, otherName⟩
    rw [held] at otherHeld
    exact (Option.some.inj otherHeld).symm
  · exact accounts.succeed fresh alone free
  · apply accounts.fail fresh
    refine .failed reason alone ?_ unconverted (s.get?_failed_fail file reason)
    rintro holder ⟨earlier, converted, sameName⟩
    have held := (accounts.holders _ holder).mpr ⟨converted, sameName⟩
    rw [free] at held
    cases held

/-! ## Many samples -/

theorem accounts_of_synthesizeFrom (valid : Options.ofRaw raw = .ok options) {files : List Text}
    (distinct : (taken ++ files).Nodup) (accounts : s.Accounts tree options taken)
    (went : tree.synthesizeFrom raw s files = (.ok (), next)) :
    next.Accounts tree options (taken ++ files) := by
  induction files generalizing s taken with
  | nil =>
    simp only [FileTree.synthesizeFrom, Prod.mk.injEq, true_and] at went
    rw [List.append_nil]
    exact went ▸ accounts
  | cons first rest ih =>
    rw [← List.singleton_append, ← List.append_assoc] at distinct ⊢
    simp only [FileTree.synthesizeFrom] at went
    have fresh : first ∉ taken := by
      have apart := (List.nodup_append.mp (List.nodup_append.mp distinct).1).2.2
      intro member
      exact apart first member first (List.mem_singleton_self first) rfl
    cases step : tree.synthesizeSample raw s first with
    | mk outcome mid =>
      cases outcome with
      | error e => simp [step] at went
      | ok done =>
        simp only [step] at went
        exact ih distinct (accounts_of_synthesizeSample valid accounts fresh step) went

theorem accounts_of_synthesizeSamples (valid : Options.ofRaw raw = .ok options) {files : List Text}
    (distinct : files.Nodup) (went : tree.synthesizeSamples raw files = (.ok (), s)) :
    s.Accounts tree options files := by
  rw [← List.nil_append files] at distinct ⊢
  exact accounts_of_synthesizeFrom valid distinct Samples.accounts_start went

theorem synthesizeFrom_append (tree : FileTree) (raw : RawOptions) (s : Samples)
    (first second : List Text) :
    tree.synthesizeFrom raw s (first ++ second) =
      match tree.synthesizeFrom raw s first with
      | (.error e, mid) => (.error e, mid)
      | (.ok (), mid) => tree.synthesizeFrom raw mid second := by
  induction first generalizing s with
  | nil => rfl
  | cons file rest ih =>
    simp only [List.cons_append, FileTree.synthesizeFrom]
    cases tree.synthesizeSample raw s file with
    | mk outcome mid =>
      cases outcome with
      | error e => rfl
      | ok done => exact ih mid

/-- What has been noted of a file stays when other files are taken. -/
theorem get?_specs_of_synthesizeFrom (valid : Options.ofRaw raw = .ok options) {files : List Text}
    {other : Text} (apart : other ∉ files)
    (went : tree.synthesizeFrom raw s files = (.ok (), next)) :
    next.specs.get? other = s.specs.get? other := by
  induction files generalizing s with
  | nil =>
    simp only [FileTree.synthesizeFrom, Prod.mk.injEq, true_and] at went
    rw [went]
  | cons first rest ih =>
    rw [List.mem_cons, not_or] at apart
    simp only [FileTree.synthesizeFrom] at went
    cases step : tree.synthesizeSample raw s first with
    | mk outcome mid =>
      cases outcome with
      | error e => simp [step] at went
      | ok done =>
        simp only [step] at went
        rw [ih apart.2 went]
        rcases synthesizeSample_eq_ok_cases valid step with ⟨holder, -, rfl⟩ |
          ⟨-, ⟨spec, -, rfl⟩ | ⟨reason, -, rfl⟩⟩
        · exact (s.sameBut_fail first _).specs other apart.1
        · exact (s.sameBut_succeed first _ spec).specs other apart.1
        · exact (s.sameBut_fail first reason).specs other apart.1

/-! ## What a skipped file holds does not matter -/

variable {elsewhere : FileTree}

theorem synthesizeSample_congr (s : Samples)
    (same : elsewhere.loadSample file = tree.loadSample file) :
    elsewhere.synthesizeSample raw s file = tree.synthesizeSample raw s file := by
  unfold FileTree.synthesizeSample FileTree.sampleOutcome
  rw [same]

theorem synthesizeFrom_congr (s : Samples) {files : List Text}
    (same : ∀ file ∈ files, elsewhere.loadSample file = tree.loadSample file) :
    elsewhere.synthesizeFrom raw s files = tree.synthesizeFrom raw s files := by
  induction files generalizing s with
  | nil => rfl
  | cons first rest ih =>
    have later : ∀ mid : Samples, elsewhere.synthesizeFrom raw mid rest =
        tree.synthesizeFrom raw mid rest :=
      fun mid => ih mid fun file member => same file (List.mem_cons_of_mem _ member)
    simp only [FileTree.synthesizeFrom, synthesizeSample_congr s (same first List.mem_cons_self),
      later]

theorem synthesizeSamples_of_holds (valid : Options.ofRaw raw = .ok options)
    {before after : List Text} (distinct : (before ++ file :: after).Nodup)
    (went : tree.synthesizeSamples raw (before ++ file :: after) = (.ok (), s)) {holder : Text}
    (held : s.Holds before file holder)
    (same : ∀ other ∈ before ++ file :: after, other ≠ file →
      elsewhere.loadSample other = tree.loadSample other) :
    elsewhere.synthesizeSamples raw (before ++ file :: after) = (.ok (), s) := by
  rw [← went]
  obtain ⟨beforeDistinct, afterDistinct, apart⟩ := List.nodup_append.mp distinct
  have sameBefore : ∀ other ∈ before, elsewhere.loadSample other = tree.loadSample other := by
    intro other member
    exact same other (List.mem_append_left _ member)
      fun equal => apart other member file List.mem_cons_self equal
  have sameAfter : ∀ other ∈ after, elsewhere.loadSample other = tree.loadSample other := by
    intro other member
    refine same other (List.mem_append_right _ (List.mem_cons_of_mem _ member)) ?_
    rintro rfl
    exact (List.nodup_cons.mp afterDistinct).1 member
  unfold FileTree.synthesizeSamples at went ⊢
  rw [synthesizeFrom_append] at went
  rw [synthesizeFrom_append, synthesizeFrom_append, synthesizeFrom_congr .start sameBefore]
  cases run : tree.synthesizeFrom raw .start before with
  | mk outcome mid =>
    cases outcome with
    | error e => rfl
    | ok done =>
      simp only [run] at went ⊢
      -- The holder is before the file, so it held the name already when the file was taken.
      have accounts := accounts_of_synthesizeSamples valid beforeDistinct run
      have untouched : holder ∉ file :: after :=
        fun later => apart holder held.earlier holder later rfl
      have noted := get?_specs_of_synthesizeFrom valid untouched went
      have converted : holder ∈ mid.specs.keys := by
        by_contra absent
        rw [(Keyed.get?_eq_none_iff holder mid.specs).mpr absent] at noted
        exact (Keyed.get?_eq_none_iff holder s.specs).mp noted held.converted
      have taken := (accounts.holders _ holder).mpr ⟨converted, held.sameName⟩
      simp only [FileTree.synthesizeFrom, FileTree.synthesizeSample, taken]
      exact synthesizeFrom_congr _ sameAfter

end

/-- When a batch of distinct files returns, the tables list its files in their order, each in one of
them, and the names held are those of the converted files.  A file is converted, to the class tree
it has alone, exactly when it has one alone and no converted file before it has its class name; if
one has, it is the only one, the failure names it, and what the file holds does not matter; else the
failure is that of the file alone. -/
theorem FileTree.synthesizeSamples_independent (tree : FileTree) (raw : RawOptions)
    (options : Options) (files : List Text) (s : Samples) (valid : Options.ofRaw raw = .ok options)
    (distinct : files.Nodup) (returns : tree.synthesizeSamples raw files = (.ok (), s)) :
    (s.specs.keys = files.filter fun file => decide (file ∈ s.specs.keys)) ∧
    (s.failed.keys = files.filter fun file => decide (file ∉ s.specs.keys)) ∧
    (∀ folded holder, s.holders.get? folded = some holder ↔
      holder ∈ s.specs.keys ∧ (ClassName.ofFile holder).fold = folded) ∧
    ∀ before file after, files = before ++ file :: after →
      (∀ spec, s.specs.get? file = some spec ↔
        tree.alone options file = .ok spec ∧ ∀ holder, ¬ s.Holds before file holder) ∧
      (∀ holder, s.Holds before file holder →
        s.failed.get? file = some (Samples.usedBy file holder) ∧
        (∀ other, s.Holds before file other → other = holder) ∧
        ∀ elsewhere : FileTree, (∀ other ∈ files, other ≠ file →
          elsewhere.loadSample other = tree.loadSample other) →
          elsewhere.synthesizeSamples raw files = (.ok (), s)) ∧
      ((∀ holder, ¬ s.Holds before file holder) → ∀ reason,
        s.failed.get? file = some reason ↔ tree.alone options file = .error reason) := by
  have accounts := accounts_of_synthesizeSamples valid distinct returns
  refine ⟨accounts.specsInOrder, accounts.failedInOrder, accounts.holders, ?_⟩
  rintro before file after rfl
  have unnoted : file ∈ s.specs.keys → s.failed.get? file = none := by
    intro converted
    rw [Keyed.get?_eq_none_iff, accounts.failedInOrder]
    intro failed
    simpa [converted] using (List.mem_filter.mp failed).2
  cases accounts.verdicts before file after rfl with
  | converted spec alone free noted =>
    have converted : file ∈ s.specs.keys := by
      by_contra absent
      rw [(Keyed.get?_eq_none_iff file s.specs).mpr absent] at noted
      cases noted
    refine ⟨?_, fun holder held => absurd held (free holder), ?_⟩
    · intro other
      rw [noted, alone, Option.some.injEq, Except.ok.injEq]
      exact ⟨fun same => ⟨same, free⟩, fun both => both.1⟩
    · intro _ reason
      simp [unnoted converted, alone]
  | skipped holder held only unconverted noted =>
    refine ⟨?_, ?_, fun free => absurd held (free holder)⟩
    · intro spec
      rw [unconverted]
      constructor
      · intro impossible
        cases impossible
      · rintro ⟨-, free⟩
        exact absurd held (free holder)
    · intro other otherHeld
      obtain rfl := only other otherHeld
      refine ⟨noted, only, ?_⟩
      intro elsewhere same
      exact synthesizeSamples_of_holds valid distinct returns held same
  | failed reason alone free unconverted noted =>
    refine ⟨?_, fun holder held => absurd held (free holder), ?_⟩
    · intro spec
      simp [unconverted, alone]
    · intro _ other
      rw [noted, alone, Option.some.injEq, Except.error.injEq]

/-- Three files of one class name, of which the first holds no document. -/
def namesakes : FileTree :=
  ⟨[([FileName.ofText "bad.json"], .file [0x5B]),
    ([FileName.ofText "BAD.json"], .file [0x7B, 0x7D]),
    ([FileName.ofText "Bad.json"], .file [0x7B, 0x7D])], []⟩

def namesakeFiles : List Text := ["bad.json", "BAD.json", "Bad.json"]

/-- The file that fails leaves the class name to the next, and that one keeps it from the last. -/
theorem namesakes_settled :
    Options.ofRaw .default = .ok .default ∧ namesakeFiles.Nodup ∧
    ∃ s, namesakes.synthesizeSamples .default namesakeFiles = (.ok (), s) ∧
      s.specs.keys = [Text.ofString "BAD.json"] ∧
      s.failed.keys = [Text.ofString "bad.json", Text.ofString "Bad.json"] ∧
      s.specs.get? (Text.ofString "BAD.json") = some ⟨"BAD", [], []⟩ ∧
      s.failed.get? (Text.ofString "Bad.json") = some (Samples.usedBy "Bad.json" "BAD.json") ∧
      ∀ elsewhere : FileTree, (∀ other ∈ namesakeFiles, other ≠ "Bad.json" →
        elsewhere.loadSample other = namesakes.loadSample other) →
        elsewhere.synthesizeSamples .default namesakeFiles = (.ok (), s) := by
  have valid : Options.ofRaw .default = .ok .default := rfl
  have distinct : namesakeFiles.Nodup := by decide
  obtain ⟨s, returns⟩ : ∃ s, namesakes.synthesizeSamples .default namesakeFiles = (.ok (), s) :=
    ⟨_, rfl⟩
  have converted : s.specs.keys = [Text.ofString "BAD.json"] := by
    obtain ⟨-, rfl⟩ := Prod.mk.inj returns
    rfl
  obtain ⟨-, failed, -, each⟩ := FileTree.synthesizeSamples_independent namesakes .default
    .default namesakeFiles s valid distinct returns
  have second := each ["bad.json"] "BAD.json" ["Bad.json"] rfl
  have third := each ["bad.json", "BAD.json"] "Bad.json" [] rfl
  have unheld : ∀ holder, ¬ s.Holds ["bad.json"] "BAD.json" holder := by
    rintro holder ⟨earlier, held, -⟩
    rw [converted] at held
    rw [List.mem_singleton.mp earlier] at held
    revert held
    decide
  have held : s.Holds ["bad.json", "BAD.json"] "Bad.json" "BAD.json" := by
    refine ⟨by simp, ?_, by decide⟩
    rw [converted]
    exact List.mem_singleton_self _
  obtain ⟨noted, -, unread⟩ := third.2.1 "BAD.json" held
  rw [converted] at failed
  exact ⟨valid, distinct, s, returns, converted, failed, (second.1 _).mpr ⟨rfl, unheld⟩, noted,
    unread⟩

end ClassSynth
