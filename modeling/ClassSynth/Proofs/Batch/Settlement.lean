import Mathlib.Data.List.Nodup
import ClassSynth.Proofs.Batch.Independence
import ClassSynth.Proofs.Batch.Synthesis

/-!
# Batches that list a sample more than once

The files of a batch need not be distinct: input paths overlap.  What the state of a batch says of
the files taken so far holds for any list of them.  The first success of a file keeps its class name
from every later listing of that same file, so a file is both converted and failed just when it has
succeeded and is listed again.
-/

set_option autoImplicit false

namespace ClassSynth

variable {tree : FileTree} {raw : RawOptions}

namespace Samples

/-- What the state of a batch says of the files taken so far. -/
structure Settles (tree : FileTree) (raw : RawOptions) (taken : List Text) (s : Samples) :
    Prop where
  noted : ∀ file, file ∈ s.specs.keys ∨ file ∈ s.failed.keys ↔ file ∈ taken
  distinct : s.specs.keys.Nodup
  held : ∀ folded holder, s.holders.get? folded = some holder ↔
    holder ∈ s.specs.keys ∧ (ClassName.ofFile holder).fold = folded
  converted : ∀ file spec, (file, spec) ∈ s.specs →
    tree.sampleOutcome raw file (ClassName.ofFile file) = .spec spec
  /-- A failed file that has a class tree by itself was failed for its class name. -/
  preempted : ∀ file ∈ s.failed.keys, tree.Converts raw file →
    ∃ holder, s.holders.get? (ClassName.ofFile file).fold = some holder
  repeated : ∀ file ∈ s.specs.keys, file ∈ s.failed.keys ↔ 2 ≤ taken.count file
  blamed : ∀ file ∈ s.specs.keys, ∀ reason, s.failed.get? file = some reason →
    reason = usedBy file file

theorem settles_start : Settles tree raw [] start := by
  constructor <;> simp [start, Keyed.get?, Keyed.keys]

variable {taken : List Text} {s : Samples} {file : Text}

theorem Settles.count_pos (settles : s.Settles tree raw taken) (converted : file ∈ s.specs.keys) :
    0 < taken.count file :=
  List.count_pos_iff.mpr ((settles.noted file).mp (.inl converted))

theorem Settles.fail (settles : s.Settles tree raw taken) {reason : Text}
    (free : tree.Converts raw file →
      ∃ holder, s.holders.get? (ClassName.ofFile file).fold = some holder)
    (blamed : file ∈ s.specs.keys → reason = usedBy file file) :
    (s.fail file reason).Settles tree raw (taken ++ [file]) := by
  have failures : ∀ other, other ∈ (s.fail file reason).failed.keys ↔
      other = file ∨ other ∈ s.failed.keys := Keyed.mem_keys_put_iff file reason s.failed
  have reasons : ∀ other, (s.fail file reason).failed.get? other =
      if file = other then some reason else s.failed.get? other :=
    Keyed.get?_put file reason s.failed
  refine ⟨?_, settles.distinct, settles.held, settles.converted, ?_, ?_, ?_⟩
  · intro other
    rw [failures, List.mem_append, List.mem_singleton, ← settles.noted other]
    exact or_left_comm.trans or_comm
  · intro other failed converts
    rcases (failures other).mp failed with rfl | before
    · exact free converts
    · exact settles.preempted other before converts
  · intro other converted
    rw [failures, List.count_append]
    by_cases same : other = file
    · subst same
      have once := settles.count_pos converted
      rw [List.count_singleton_self]
      exact ⟨fun _ => by omega, fun _ => .inl rfl⟩
    · rw [settles.repeated other converted]
      simp [same, Ne.symm same]
  · intro other converted why noted
    rw [reasons] at noted
    by_cases same : file = other
    · subst same
      rw [if_pos rfl, Option.some.injEq] at noted
      exact noted ▸ blamed converted
    · rw [if_neg same] at noted
      exact settles.blamed other converted why noted

theorem Settles.succeed (settles : s.Settles tree raw taken) {spec : ClassSpec}
    (outcome : tree.sampleOutcome raw file (ClassName.ofFile file) = .spec spec)
    (free : s.holders.get? (ClassName.ofFile file).fold = none) :
    (s.succeed file (ClassName.ofFile file) spec).Settles tree raw (taken ++ [file]) := by
  -- The class name is free, so the file has neither been converted nor failed before.
  have unconverted : file ∉ s.specs.keys := by
    intro converted
    have held := (settles.held _ file).mpr ⟨converted, rfl⟩
    rw [free] at held
    cases held
  have unfailed : file ∉ s.failed.keys := by
    intro failed
    obtain ⟨holder, held⟩ := settles.preempted file failed ⟨spec, outcome⟩
    rw [free] at held
    cases held
  have untaken : file ∉ taken := by
    rw [← settles.noted file]
    exact not_or.mpr ⟨unconverted, unfailed⟩
  have specs : (s.succeed file (ClassName.ofFile file) spec).specs = s.specs ++ [(file, spec)] :=
    Keyed.put_of_not_mem spec unconverted
  have keys : (s.succeed file (ClassName.ofFile file) spec).specs.keys =
      s.specs.keys ++ [file] := by
    rw [specs, Keyed.keys, List.map_append]
    rfl
  have failures : (s.succeed file (ClassName.ofFile file) spec).failed = s.failed := rfl
  have holders : ∀ folded, (s.succeed file (ClassName.ofFile file) spec).holders.get? folded =
      if (ClassName.ofFile file).fold = folded then some file else s.holders.get? folded :=
    Keyed.get?_put _ file s.holders
  refine ⟨?_, ?_, ?_, ?_, ?_, ?_, ?_⟩
  · intro other
    rw [keys, failures, List.mem_append, List.mem_append, List.mem_singleton,
      ← settles.noted other]
    exact or_right_comm
  · rw [keys, List.nodup_append]
    refine ⟨settles.distinct, List.nodup_singleton file, ?_⟩
    rintro other before _ last rfl
    exact unconverted (List.mem_singleton.mp last ▸ before)
  · intro folded holder
    rw [holders, keys, List.mem_append, List.mem_singleton]
    by_cases named : (ClassName.ofFile file).fold = folded
    · rw [if_pos named, Option.some.injEq]
      constructor
      · rintro rfl
        exact ⟨.inr rfl, named⟩
      · rintro ⟨before | rfl, sameName⟩
        · have held := (settles.held folded holder).mpr ⟨before, sameName⟩
          rw [← named, free] at held
          cases held
        · rfl
    · rw [if_neg named, settles.held]
      constructor
      · rintro ⟨before, sameName⟩
        exact ⟨.inl before, sameName⟩
      · rintro ⟨before | rfl, sameName⟩
        · exact ⟨before, sameName⟩
        · exact absurd sameName named
  · intro other tree' member
    rw [specs, List.mem_append, List.mem_singleton] at member
    rcases member with before | last
    · exact settles.converted other tree' before
    · obtain ⟨rfl, rfl⟩ := Prod.mk.inj last
      exact outcome
  · intro other failed converts
    obtain ⟨holder, held⟩ := settles.preempted other failed converts
    rw [holders]
    by_cases named : (ClassName.ofFile file).fold = (ClassName.ofFile other).fold
    · exact ⟨file, if_pos named⟩
    · exact ⟨holder, (if_neg named).trans held⟩
  · intro other converted
    rw [failures, List.count_append]
    rw [keys, List.mem_append, List.mem_singleton] at converted
    rcases converted with before | rfl
    · have apart : other ≠ file := by
        rintro rfl
        exact unconverted before
      rw [settles.repeated other before]
      simp [apart.symm]
    · have never := List.count_eq_zero.mpr untaken
      simp [unfailed, never]
  · intro other converted reason noted
    rw [keys, List.mem_append, List.mem_singleton] at converted
    rcases converted with before | rfl
    · exact settles.blamed other before reason noted
    · rw [failures, (Keyed.get?_eq_none_iff other s.failed).mpr unfailed] at noted
      cases noted

/-- No two converted samples have class names that agree without regard to case. -/
theorem Settles.apart (settles : s.Settles tree raw taken) :
    s.specs.Pairwise fun first second =>
      (ClassName.ofFile first.1).fold ≠ (ClassName.ofFile second.1).fold := by
  have keys : s.specs.Pairwise fun first second => first.1 ≠ second.1 :=
    List.pairwise_map.mp settles.distinct
  apply keys.imp_of_mem
  intro first second firstConverted secondConverted different same
  have firstHeld := (settles.held _ first.1).mpr ⟨List.mem_map_of_mem firstConverted, rfl⟩
  have secondHeld := (settles.held _ second.1).mpr ⟨List.mem_map_of_mem secondConverted, rfl⟩
  rw [same, secondHeld, Option.some.injEq] at firstHeld
  exact different firstHeld.symm

/-- A converted sample keeps its class name from all others, and so nothing fails just when every
sample converts and no two listings have class names that agree without regard to case. -/
theorem Settles.failed_eq_nil_iff (settles : s.Settles tree raw taken) :
    s.failed = [] ↔ (∀ file ∈ taken, tree.Converts raw file) ∧
      (taken.map fun file => (ClassName.ofFile file).fold).Nodup := by
  constructor
  · intro none
    have unfailed : ∀ file, file ∉ s.failed.keys := by simp [none, Keyed.keys]
    have converted : ∀ file ∈ taken, file ∈ s.specs.keys := by
      intro file listed
      exact ((settles.noted file).mpr listed).resolve_right (unfailed file)
    constructor
    · intro file listed
      obtain ⟨⟨name, spec⟩, member, rfl⟩ := List.mem_map.mp (converted file listed)
      exact ⟨spec, settles.converted name spec member⟩
    · apply List.Nodup.map_on
      · intro first listed second listed' same
        have firstHeld := (settles.held _ first).mpr ⟨converted first listed, rfl⟩
        have secondHeld := (settles.held _ second).mpr ⟨converted second listed', rfl⟩
        rw [same, secondHeld] at firstHeld
        exact (Option.some.inj firstHeld).symm
      · apply List.nodup_iff_count_le_one.mpr
        intro file
        by_contra twice
        have listed : file ∈ taken := List.count_pos_iff.mp (by omega)
        have failed := (settles.repeated file (converted file listed)).mpr (by omega)
        exact unfailed file failed
  · rintro ⟨converts, apart⟩
    have distinct := List.Nodup.of_map _ apart
    have unfailed : ∀ file, file ∉ s.failed.keys := by
      intro file failed
      have listed := (settles.noted file).mp (.inr failed)
      obtain ⟨holder, held⟩ := settles.preempted file failed (converts file listed)
      obtain ⟨converted, same⟩ := (settles.held _ holder).mp held
      have holderListed := (settles.noted holder).mp (.inl converted)
      have isFile : holder = file := List.inj_on_of_nodup_map apart holderListed listed same
      have twice := (settles.repeated file (isFile ▸ converted)).mp failed
      have once := List.nodup_iff_count_le_one.mp distinct file
      omega
    cases entries : s.failed with
    | nil => rfl
    | cons entry rest => exact absurd (by simp [entries, Keyed.keys]) (unfailed entry.1)

/-- When nothing fails, the converted samples are those that were listed, each of them once. -/
theorem Settles.keys_perm (settles : s.Settles tree raw taken)
    (none : s.failed = []) : s.specs.keys.Perm taken := by
  have apart := (settles.failed_eq_nil_iff.mp none).2
  refine (List.perm_ext_iff_of_nodup settles.distinct (List.Nodup.of_map _ apart)).mpr ?_
  intro file
  have noted := settles.noted file
  simpa [none, Keyed.keys] using noted

/-! ## Steps and runs -/

variable {next : Samples}

theorem settles_of_synthesizeSample (settles : s.Settles tree raw taken)
    (went : tree.synthesizeSample raw s file = (.ok (), next)) :
    next.Settles tree raw (taken ++ [file]) := by
  unfold FileTree.synthesizeSample at went
  cases holder : s.holders.get? (ClassName.ofFile file).fold with
  | some other =>
    simp only [holder, Prod.mk.injEq, true_and] at went
    subst went
    apply settles.fail
    · exact fun _ => ⟨other, holder⟩
    · -- A converted file holds its class name itself.
      intro converted
      have held := (settles.held _ file).mpr ⟨converted, rfl⟩
      rw [holder, Option.some.injEq] at held
      rw [held]
      rfl
  | none =>
    simp only [holder] at went
    cases outcome : tree.sampleOutcome raw file (ClassName.ofFile file) with
    | spec spec =>
      simp only [outcome, Prod.mk.injEq, true_and] at went
      subst went
      exact settles.succeed outcome holder
    | failed reason =>
      simp only [outcome, Prod.mk.injEq, true_and] at went
      subst went
      apply settles.fail
      · rintro ⟨spec, converts⟩
        rw [outcome] at converts
        cases converts
      · intro converted
        have held := (settles.held _ file).mpr ⟨converted, rfl⟩
        rw [holder] at held
        cases held
    | aborted e => simp [outcome] at went

theorem settles_of_synthesizeFrom {files : List Text} (settles : s.Settles tree raw taken)
    (went : tree.synthesizeFrom raw s files = (.ok (), next)) :
    next.Settles tree raw (taken ++ files) := by
  induction files generalizing s taken with
  | nil =>
    simp only [FileTree.synthesizeFrom, Prod.mk.injEq, true_and] at went
    rw [List.append_nil]
    exact went ▸ settles
  | cons first rest ih =>
    simp only [FileTree.synthesizeFrom] at went
    cases step : tree.synthesizeSample raw s first with
    | mk outcome mid =>
      cases outcome with
      | error e => simp [step] at went
      | ok done =>
        simp only [step] at went
        rw [← List.singleton_append, ← List.append_assoc]
        exact ih (settles_of_synthesizeSample settles step) went

theorem settles_of_synthesizeSamples {files : List Text}
    (went : tree.synthesizeSamples raw files = (.ok (), s)) : s.Settles tree raw files :=
  settles_of_synthesizeFrom settles_start went

end Samples

end ClassSynth
