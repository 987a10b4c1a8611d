import ClassSynth.Batch.Synthesis
import ClassSynth.Proofs.Identifier
import ClassSynth.Proofs.Inference.Failure
import ClassSynth.Proofs.Json.Overlong
import ClassSynth.Proofs.Keyed
import ClassSynth.Proofs.Text.Ascii

/-!
# Which batches come to their end

A sample that fails is noted, and the batch goes on.  Among all that can be wrong with a file that
can be read there is one exception: an integer too long to be held ends the batch, unless the sample
is skipped unread because an earlier one has taken its class name.  The main statement is that a
batch comes to its end exactly when it meets no such integer, and that every sample has then been
noted as converted or as failed.
-/

set_option autoImplicit false

namespace ClassSynth

namespace FileTree

variable (tree : FileTree) (raw : RawOptions)

/-- Whether an integer of so many digits, too long to be held, stops the reading of a file. -/
def HoldsOverlongInteger (file : Text) (digits : Nat) : Prop :=
  tree.loadSample file = .error (.malformed (.overlongInteger digits))

/-- Whether a sample has a class tree by itself. -/
def Converts (file : Text) : Prop :=
  ∃ spec, tree.sampleOutcome raw file (ClassName.ofFile file) = .spec spec

/-- Whether one of the earlier samples has a class tree and leaves its class name to no other. -/
def IsPreempted (earlier : List Text) (file : Text) : Prop :=
  ∃ other ∈ earlier, (ClassName.ofFile other).fold = (ClassName.ofFile file).fold ∧
    tree.Converts raw other

end FileTree

variable {tree : FileTree} {raw : RawOptions} {options : Options}

/-! ## One sample -/

theorem loadSample_cases (tree : FileTree) (file : Text) :
    (∃ e, tree.read file = .error e ∧ tree.loadSample file = .error (.file e)) ∨
    (∃ refusal, tree.loadSample file = .error (.undecodable refusal)) ∨
    (∃ source e, Json.read source = .error e ∧ tree.loadSample file = .error (.malformed e)) ∨
    ∃ source document, Json.read source = .ok document ∧ tree.loadSample file = .ok document := by
  unfold FileTree.loadSample documentOfBytes
  cases tree.read file with
  | error e => exact Or.inl ⟨e, rfl, rfl⟩
  | ok content =>
    right
    simp only
    cases Utf8.decode content with
    | error refusal => exact Or.inl ⟨refusal, rfl⟩
    | ok text =>
      right
      simp only
      cases outcome : Json.read text.unifyLineEnds with
      | error e => exact Or.inl ⟨_, e, outcome, rfl⟩
      | ok document => exact Or.inr ⟨_, document, outcome, rfl⟩

theorem limit_lt_of_holdsOverlongInteger {file : Text} {digits : Nat}
    (holds : tree.HoldsOverlongInteger file digits) : integerDigitLimit < digits := by
  unfold FileTree.HoldsOverlongInteger at holds
  rcases loadSample_cases tree file with ⟨e, -, loaded⟩ | ⟨refusal, loaded⟩ |
    ⟨source, e, outcome, loaded⟩ | ⟨source, document, -, loaded⟩
  · simp [holds] at loaded
  · simp [holds] at loaded
  · rw [holds, Except.error.injEq, LoadError.malformed.injEq] at loaded
    exact Json.limit_lt_of_read (loaded ▸ outcome)
  · simp [holds] at loaded

theorem specOfDocument_ne_aborted (valid : Options.ofRaw raw = .ok options) {name : Text}
    {document : Json} (plain : document.isPlain = true) (identifier : name.isIdentifier = true)
    (e : ConversionError) : specOfDocument raw name document ≠ .aborted e := by
  unfold specOfDocument
  simp only [valid]
  cases outcome : synthesizeFresh options document (some name) with
  | ok spec => simp
  | error cause =>
    obtain ⟨error, rfl⟩ := exists_of_synthesizeFresh_eq_error plain identifier outcome
    simp

/-- With valid options and a file that can be read, only an overlong integer ends the batch. -/
theorem sampleOutcome_eq_aborted_iff (valid : Options.ofRaw raw = .ok options) {file name : Text}
    {content : Bytes} (readable : tree.read file = .ok content)
    (identifier : name.isIdentifier = true) (e : ConversionError) :
    tree.sampleOutcome raw file name = .aborted e ↔
      ∃ digits, tree.HoldsOverlongInteger file digits ∧
        e = .document (.overlongInteger digits) := by
  unfold FileTree.sampleOutcome FileTree.HoldsOverlongInteger
  rcases loadSample_cases tree file with ⟨fault, unreadable, loaded⟩ | ⟨refusal, loaded⟩ |
    ⟨source, fault, outcome, loaded⟩ | ⟨source, document, outcome, loaded⟩
  · rw [readable] at unreadable
    cases unreadable
  · simp [loaded]
  · rw [loaded]
    cases fault with
    | overlongInteger digits => simp [eq_comm]
    | malformed cause place => simp
    | nestedTooDeep container => simp
  · have goesOn := specOfDocument_ne_aborted valid (Json.isPlain_of_read outcome) identifier e
    simp [loaded, goesOn]

theorem sampleOutcome_eq_spec_iff {file name : Text} {spec : ClassSpec} :
    tree.sampleOutcome raw file name = .spec spec ↔
      ∃ options document, Options.ofRaw raw = .ok options ∧
        tree.loadSample file = .ok document ∧
        synthesizeFresh options document (some name) = .ok spec := by
  unfold FileTree.sampleOutcome
  cases loaded : tree.loadSample file with
  | error e =>
    cases e with
    | file cause => simp
    | undecodable refusal => simp
    | malformed cause => cases cause <;> simp
  | ok document =>
    simp only [specOfDocument]
    cases valid : Options.ofRaw raw with
    | error e => simp
    | ok options =>
      cases success : synthesizeFresh options document (some name) with
      | ok other => simp [success]
      | error e => cases e <;> simp [success]

/-! ## Many samples -/

/-- What the state of a batch says of the samples taken so far: the class names that are held are
those of samples that have class trees, and every sample is noted. -/
structure Samples.Tracks (tree : FileTree) (raw : RawOptions) (taken : List Text) (s : Samples) :
    Prop where
  held : ∀ folded, (s.holders.get? folded).isSome = true ↔
    ∃ file ∈ taken, (ClassName.ofFile file).fold = folded ∧ tree.Converts raw file
  noted : ∀ file ∈ taken, file ∈ s.specs.keys ∨ file ∈ s.failed.keys

theorem Samples.tracks_start : Samples.Tracks tree raw [] .start := by
  refine ⟨?_, by simp⟩
  simp [Samples.start, Keyed.get?]

theorem Samples.Tracks.preempted_iff {taken : List Text} {s : Samples}
    (tracks : s.Tracks tree raw taken) (file : Text) :
    (s.holders.get? (ClassName.ofFile file).fold).isSome = true ↔
      tree.IsPreempted raw taken file := tracks.held _

theorem exists_mem_concat_iff {Item : Type} (P : Item → Prop) (items : List Item) (last : Item) :
    (∃ item ∈ items ++ [last], P item) ↔ (∃ item ∈ items, P item) ∨ P last := by
  simp [or_and_right, exists_or]

theorem Samples.Tracks.fail {taken : List Text} {s : Samples} (tracks : s.Tracks tree raw taken)
    {file : Text} (idle : tree.Converts raw file → tree.IsPreempted raw taken file)
    (reason : Text) : (s.fail file reason).Tracks tree raw (taken ++ [file]) := by
  have failures : ∀ other, other ∈ (s.fail file reason).failed.keys ↔
      other = file ∨ other ∈ s.failed.keys := Keyed.mem_keys_put_iff file reason s.failed
  constructor
  · intro folded
    have same : (s.fail file reason).holders = s.holders := rfl
    rw [same, tracks.held, exists_mem_concat_iff]
    constructor
    · exact Or.inl
    · rintro (before | ⟨named, converts⟩)
      · exact before
      · obtain ⟨earlier, before, alike, held⟩ := idle converts
        exact ⟨earlier, before, alike.trans named, held⟩
  · rw [List.forall_mem_append, List.forall_mem_singleton]
    refine ⟨?_, Or.inr ((failures file).mpr (Or.inl rfl))⟩
    intro other before
    exact (tracks.noted other before).imp_right fun failed => (failures other).mpr (Or.inr failed)

theorem Samples.Tracks.succeed {taken : List Text} {s : Samples}
    (tracks : s.Tracks tree raw taken) {file : Text} (converts : tree.Converts raw file)
    (spec : ClassSpec) :
    (s.succeed file (ClassName.ofFile file) spec).Tracks tree raw (taken ++ [file]) := by
  have conversions : ∀ other,
      other ∈ (s.succeed file (ClassName.ofFile file) spec).specs.keys ↔
        other = file ∨ other ∈ s.specs.keys := Keyed.mem_keys_put_iff file spec s.specs
  constructor
  · intro folded
    have held : (s.succeed file (ClassName.ofFile file) spec).holders.get? folded =
        if (ClassName.ofFile file).fold = folded then some file else s.holders.get? folded :=
      Keyed.get?_put _ file s.holders folded
    rw [held, exists_mem_concat_iff]
    by_cases named : (ClassName.ofFile file).fold = folded
    · rw [if_pos named]
      exact ⟨fun _ => Or.inr ⟨named, converts⟩, fun _ => rfl⟩
    · rw [if_neg named, tracks.held]
      constructor
      · exact Or.inl
      · rintro (before | ⟨same, -⟩)
        · exact before
        · exact absurd same named
  · rw [List.forall_mem_append, List.forall_mem_singleton]
    refine ⟨?_, Or.inl ((conversions file).mpr (Or.inl rfl))⟩
    intro other before
    exact (tracks.noted other before).imp_left fun done => (conversions other).mpr (Or.inr done)

/-- One sample either is noted or ends the batch for the integer that it holds. -/
theorem synthesizeSample_cases (valid : Options.ofRaw raw = .ok options) {taken : List Text}
    {s : Samples} (tracks : s.Tracks tree raw taken) {file : Text} {content : Bytes}
    (readable : tree.read file = .ok content) :
    (∃ next, tree.synthesizeSample raw s file = (.ok (), next) ∧
      next.Tracks tree raw (taken ++ [file]) ∧
      ∀ digits, tree.HoldsOverlongInteger file digits → tree.IsPreempted raw taken file) ∨
    ∃ digits, tree.synthesizeSample raw s file = (.error (.document (.overlongInteger digits)), s) ∧
      tree.HoldsOverlongInteger file digits ∧ ¬ tree.IsPreempted raw taken file := by
  have aborted := sampleOutcome_eq_aborted_iff valid readable (ClassName.isIdentifier_ofFile file)
  have goesOn : (∀ e, tree.sampleOutcome raw file (ClassName.ofFile file) ≠ .aborted e) →
      ∀ digits, ¬ tree.HoldsOverlongInteger file digits := by
    intro never digits holds
    exact never _ ((aborted _).mpr ⟨digits, holds, rfl⟩)
  have preempted := tracks.preempted_iff file
  cases holder : s.holders.get? (ClassName.ofFile file).fold with
  | some other =>
    simp only [holder, Option.isSome_some, true_iff] at preempted
    obtain ⟨reason, went⟩ : ∃ reason, tree.synthesizeSample raw s file =
        (.ok (), s.fail file reason) := by
      simp only [FileTree.synthesizeSample, holder]
      exact ⟨_, rfl⟩
    exact Or.inl ⟨_, went, tracks.fail (fun _ => preempted) _, fun _ _ => preempted⟩
  | none =>
    simp only [holder, Option.isSome_none, Bool.false_eq_true, false_iff] at preempted
    cases outcome : tree.sampleOutcome raw file (ClassName.ofFile file) with
    | spec spec =>
      have went : tree.synthesizeSample raw s file =
          (.ok (), s.succeed file (ClassName.ofFile file) spec) := by
        simp only [FileTree.synthesizeSample, holder, outcome]
      have fits := goesOn (by simp [outcome])
      exact Or.inl ⟨_, went, tracks.succeed ⟨spec, outcome⟩ spec,
        fun digits holds => absurd holds (fits digits)⟩
    | failed reason =>
      have went : tree.synthesizeSample raw s file = (.ok (), s.fail file reason) := by
        simp only [FileTree.synthesizeSample, holder, outcome]
      have fits := goesOn (by simp [outcome])
      have idle : ¬ tree.Converts raw file := by
        rintro ⟨spec, converted⟩
        simp [outcome] at converted
      exact Or.inl ⟨_, went, tracks.fail (fun converts => absurd converts idle) _,
        fun digits holds => absurd holds (fits digits)⟩
    | aborted e =>
      obtain ⟨digits, holds, rfl⟩ := (aborted e).mp outcome
      have ended : tree.synthesizeSample raw s file =
          (.error (.document (.overlongInteger digits)), s) := by
        simp only [FileTree.synthesizeSample, holder, outcome]
      exact Or.inr ⟨digits, ended, holds, preempted⟩

/-- A batch goes through all samples, or ends at the first that holds an overlong integer and is not
skipped. -/
theorem synthesizeFrom_cases (valid : Options.ofRaw raw = .ok options) {files : List Text}
    (readable : ∀ file ∈ files, ∃ content, tree.read file = .ok content) {taken : List Text}
    {s : Samples} (tracks : s.Tracks tree raw taken) :
    (∃ next, tree.synthesizeFrom raw s files = (.ok (), next) ∧
      next.Tracks tree raw (taken ++ files) ∧
      ∀ before file after digits, files = before ++ file :: after →
        tree.HoldsOverlongInteger file digits → tree.IsPreempted raw (taken ++ before) file) ∨
    ∃ next before file after digits, files = before ++ file :: after ∧
      tree.synthesizeFrom raw s files = (.error (.document (.overlongInteger digits)), next) ∧
      tree.HoldsOverlongInteger file digits ∧ ¬ tree.IsPreempted raw (taken ++ before) file := by
  -- By induction on the samples left: the state tracks one more sample with each that is noted.
  induction files generalizing s taken with
  | nil =>
    refine Or.inl ⟨s, rfl, by rwa [List.append_nil], ?_⟩
    intro before file after digits shape
    simp at shape
  | cons first rest ih =>
    obtain ⟨content, opened⟩ := readable first List.mem_cons_self
    rcases synthesizeSample_cases valid tracks opened with ⟨next, went, tracked, skipped⟩ |
      ⟨digits, ended, holds, unskipped⟩
    · have later := ih (fun file member => readable file (List.mem_cons_of_mem _ member)) tracked
      rcases later with ⟨last, finished, complete, rest_skipped⟩ |
        ⟨last, before, file, after, digits, shape, ended, holds, unskipped⟩
      · left
        refine ⟨last, ?_, ?_, ?_⟩
        · simp only [FileTree.synthesizeFrom, went, finished]
        · simpa using complete
        · intro before file after digits shape holds
          cases before with
          | nil =>
            obtain ⟨rfl, -⟩ := List.cons.inj shape
            simpa using skipped digits holds
          | cons other before =>
            obtain ⟨rfl, tail⟩ := List.cons.inj shape
            simpa using rest_skipped before file after digits tail holds
      · right
        refine ⟨last, first :: before, file, after, digits, ?_, ?_, holds, ?_⟩
        · rw [shape, List.cons_append]
        · simp only [FileTree.synthesizeFrom, went, ended]
        · simpa using unskipped
    · right
      refine ⟨s, [], first, rest, digits, rfl, ?_, holds, ?_⟩
      · simp only [FileTree.synthesizeFrom, ended]
      · simpa using unskipped

theorem holdsOverlongInteger_of_digits {file : Text} {first : UInt8} {rest : Bytes}
    (readable : tree.read file = .ok (first :: rest)) (nonzero : first ≠ 0x30)
    (digits : ∀ byte ∈ first :: rest, 0x30 ≤ byte ∧ byte ≤ 0x39)
    (long : integerDigitLimit < (first :: rest).length) :
    tree.HoldsOverlongInteger file (first :: rest).length := by
  let point := fun byte : UInt8 => CodePoint.ofNumber byte.toNat
  have pointVal : ∀ byte : UInt8, (point byte).val = byte.toNat := by
    intro byte
    have small := byte.toNat_lt
    exact Nat.mod_eq_of_lt (by omega)
  have bounds : ∀ byte ∈ first :: rest, 0x30 ≤ byte.toNat ∧ byte.toNat ≤ 0x39 := by
    intro byte member
    have both := digits byte member
    rwa [UInt8.le_iff_toNat_le, UInt8.le_iff_toNat_le] at both
  have decoded : Utf8.decode (first :: rest) = .ok ((first :: rest).map point) := by
    apply Utf8.decode_of_ascii
    intro byte member
    have both := bounds byte member
    rw [UInt8.lt_iff_toNat_lt]
    exact Nat.lt_of_le_of_lt both.2 (by decide)
  have ascii : ∀ c ∈ (first :: rest).map point, c.isAsciiDigit = true := by
    intro c member
    obtain ⟨byte, present, rfl⟩ := List.mem_map.mp member
    have both := bounds byte present
    simp only [CodePoint.isAsciiDigit, CodePoint.isBetween, Bool.and_eq_true, decide_eq_true_eq,
      pointVal]
    exact both
  have noReturn : carriageReturn ∉ (first :: rest).map point := by
    intro member
    have digit := ascii carriageReturn member
    revert digit
    decide
  have leading : point first ≠ CodePoint.ofChar '0' := by
    intro same
    have value := congrArg Fin.val same
    rw [pointVal] at value
    exact nonzero (UInt8.toNat_inj.mp value)
  have refused := Json.read_of_digits leading ascii (by simpa using long)
  unfold FileTree.HoldsOverlongInteger FileTree.loadSample documentOfBytes
  simp only [readable, decoded, Text.unifyLineEnds_of_no_return _ noReturn]
  rw [List.map_cons, refused, List.length_cons, List.length_map]
  rfl

/-- With valid options and files that can be read, a batch comes to its end exactly when every
sample that holds an overlong integer is skipped for its class name; such an integer is the only
thing that ends a batch before; and at its end every sample has been noted.

A message can name every depth limit here (`Violation.message`).  So a limit of more than
`integerDigitLimit` digits, under which a sample runs out of room, is left out of account. -/
theorem FileTree.synthesizeSamples_returns_iff (tree : FileTree) (raw : RawOptions)
    (options : Options) (files : List Text) (valid : Options.ofRaw raw = .ok options)
    (readable : ∀ file ∈ files, ∃ content, tree.read file = .ok content) :
    ((tree.synthesizeSamples raw files).1 = .ok () ↔
      ∀ before file after digits, files = before ++ file :: after →
        tree.HoldsOverlongInteger file digits → tree.IsPreempted raw before file) ∧
    (∀ e, (tree.synthesizeSamples raw files).1 = .error e →
      ∃ file ∈ files, ∃ digits, integerDigitLimit < digits ∧
        tree.HoldsOverlongInteger file digits ∧ e = .document (.overlongInteger digits)) ∧
    ((tree.synthesizeSamples raw files).1 = .ok () →
      ∀ file ∈ files, file ∈ (tree.synthesizeSamples raw files).2.specs.keys ∨
        file ∈ (tree.synthesizeSamples raw files).2.failed.keys) := by
  unfold FileTree.synthesizeSamples
  rcases synthesizeFrom_cases valid readable Samples.tracks_start with
    ⟨next, finished, tracked, skipped⟩ |
    ⟨next, before, file, after, digits, shape, ended, holds, unskipped⟩
  · rw [finished]
    refine ⟨⟨fun _ => skipped, fun _ => rfl⟩, ?_, fun _ => tracked.noted⟩
    intro e impossible
    cases impossible
  · rw [ended]
    refine ⟨⟨?_, ?_⟩, ?_, ?_⟩
    · intro impossible
      cases impossible
    · intro skipped
      exact absurd (skipped before file after digits shape holds) unskipped
    · intro e same
      have member : file ∈ files := by simp [shape]
      exact ⟨file, member, digits, limit_lt_of_holdsOverlongInteger holds, holds,
        (Except.error.inj same).symm⟩
    · intro impossible
      cases impossible

def nines : Bytes := List.replicate 4301 0x39

/-- Two files with an overlong integer, and a sample whose class name is that of the second. -/
def overlongSamples : FileTree :=
  ⟨[([FileName.ofText "big.json"], .file nines), ([FileName.ofText "OK.json"], .file nines),
    ([FileName.ofText "ok.json"],
      .file [0x7B, 0x22, 0x69, 0x64, 0x22, 0x3A, 0x20, 0x31, 0x7D])], []⟩

theorem holdsOverlongInteger_nines {file : Text} (readable : tree.read file = .ok nines) :
    tree.HoldsOverlongInteger file 4301 := by
  have bytes : nines = 0x39 :: List.replicate 4300 0x39 := rfl
  have length : (0x39 :: List.replicate 4300 (0x39 : UInt8)).length = 4301 := by
    rw [List.length_cons, List.length_replicate]
  have digits : ∀ byte ∈ nines, 0x30 ≤ byte ∧ byte ≤ 0x39 := by
    intro byte member
    rw [List.eq_of_mem_replicate member]
    decide
  have long : integerDigitLimit < 4301 := by decide
  rw [bytes] at readable digits
  rw [← length] at long ⊢
  exact holdsOverlongInteger_of_digits readable (by decide) digits long

/-- The batch ends at a sample with an overlong integer, and the good sample behind it is lost. -/
theorem overlong_sample_ends_batch :
    Options.ofRaw .default = .ok .default ∧
    overlongSamples.read "big.json" = .ok nines ∧
    (∃ content, overlongSamples.read "ok.json" = .ok content) ∧
    overlongSamples.synthesizeSamples .default ["big.json", "ok.json"] =
      (.error (.document (.overlongInteger 4301)), .start) := by
  have opened : overlongSamples.read "big.json" = .ok nines := rfl
  have holds := holdsOverlongInteger_nines opened
  refine ⟨rfl, opened, ⟨_, rfl⟩, ?_⟩
  unfold FileTree.HoldsOverlongInteger at holds
  simp [FileTree.synthesizeSamples, FileTree.synthesizeFrom, FileTree.synthesizeSample,
    FileTree.sampleOutcome, Samples.start, Keyed.get?, holds]

/-- The batch goes on when the sample with the overlong integer is skipped for its class name. -/
theorem preempted_overlong_sample_is_noted :
    Options.ofRaw .default = .ok .default ∧
    (∀ file ∈ ([("ok.json" : Text), "OK.json"] : List Text),
      ∃ content, overlongSamples.read file = .ok content) ∧
    overlongSamples.HoldsOverlongInteger "OK.json" 4301 ∧
    (overlongSamples.synthesizeSamples .default ["ok.json", "OK.json"]).1 = .ok () := by
  have readable : ∀ file ∈ ([("ok.json" : Text), "OK.json"] : List Text),
      ∃ content, overlongSamples.read file = .ok content := by
    simp only [List.forall_mem_cons]
    exact ⟨⟨_, rfl⟩, ⟨_, rfl⟩, by simp⟩
  have converts : overlongSamples.Converts .default "ok.json" := ⟨_, rfl⟩
  have holds : overlongSamples.HoldsOverlongInteger "OK.json" 4301 :=
    holdsOverlongInteger_nines rfl
  refine ⟨rfl, readable, holds, ?_⟩
  have returns := FileTree.synthesizeSamples_returns_iff overlongSamples .default
    .default ["ok.json", "OK.json"] rfl readable
  apply returns.1.mpr
  intro before file after digits shape held
  cases before with
  | nil =>
    obtain ⟨rfl, -⟩ := List.cons.inj shape
    obtain ⟨spec, converted⟩ := converts
    unfold FileTree.HoldsOverlongInteger at held
    simp [FileTree.sampleOutcome, held] at converted
  | cons first before =>
    obtain ⟨rfl, tail⟩ := List.cons.inj shape
    cases before with
    | nil =>
      obtain ⟨rfl, -⟩ := List.cons.inj tail
      exact ⟨_, List.mem_cons_self, rfl, converts⟩
    | cons second before => simp at tail

end ClassSynth
