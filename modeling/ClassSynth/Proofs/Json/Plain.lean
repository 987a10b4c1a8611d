import ClassSynth.Json.Reader

/-!
# Plain values

A value is plain when it lies within the data model with everything in it: no value of a foreign
type stands anywhere in it.  The main statement is that every document that is read is plain.  The
reader keeps all that it has read so far plain with each lexeme that it takes.
-/

set_option autoImplicit false

namespace ClassSynth.Json

mutual

/-- Whether no foreign value stands in a value. -/
def isPlain : Json → Bool
  | .foreign _ => false
  | .array items => arePlain items
  | .object members => membersArePlain members
  | _ => true
termination_by structural value => value

/-- Whether no foreign value stands in several values. -/
def arePlain : List Json → Bool
  | [] => true
  | item :: rest => isPlain item && arePlain rest
termination_by structural items => items

/-- Whether no foreign value stands in the values of members. -/
def membersArePlain : List (Text × Json) → Bool
  | [] => true
  | (_, value) :: rest => isPlain value && membersArePlain rest
termination_by structural members => members

end

theorem arePlain_iff (items : List Json) :
    arePlain items = true ↔ ∀ item ∈ items, item.isPlain = true := by
  induction items with
  | nil => simp [arePlain]
  | cons item rest ih => simp [arePlain, ih]

theorem membersArePlain_put {members : List (Text × Json)} {value : Json} (key : Text)
    (before : membersArePlain members = true) (plain : value.isPlain = true) :
    membersArePlain (Keyed.put key value members) = true := by
  induction members with
  | nil => simp [Keyed.put, membersArePlain, plain]
  | cons member rest ih =>
    obtain ⟨name, old⟩ := member
    simp only [membersArePlain, Bool.and_eq_true] at before
    unfold Keyed.put
    split
    · simp [membersArePlain, plain, before.2]
    · simp [membersArePlain, before.1, ih before.2]

theorem arePlain_reverse {items : List Json} (plain : arePlain items = true) :
    arePlain items.reverse = true := by
  rw [arePlain_iff] at plain ⊢
  intro item member
  exact plain item (List.mem_reverse.mp member)

/-! ## Lexemes -/

/-- What a lexeme can be relied on for: a value that it carries is plain, and an integer that it
refuses has more digits than the limit. -/
def Lexeme.IsLawful : Lexeme → Prop
  | .scalar value => value.isPlain = true
  | .overlongInteger digits => integerDigitLimit < digits
  | _ => True

theorem isLawful_stringLexeme (start : Nat) : (text : Text) → (skip position : Nat) →
    (done : Text) → (stringLexeme start skip position done text).lexeme.IsLawful
  | [], 0, _, _ => trivial
  | [], _ + 1, _, _ => trivial
  | _ :: rest, skip + 1, position, done => isLawful_stringLexeme start rest skip (position + 1) done
  | c :: rest, 0, position, done => by
    unfold stringLexeme
    split
    · trivial
    · split
      · cases escape start position rest with
        | point value extra => exact isLawful_stringLexeme start rest extra (position + 1) _
        | broken cause place => trivial
      · split
        · trivial
        · exact isLawful_stringLexeme start rest 0 (position + 1) _

theorem isLawful_numberLexeme {negative : Bool} {text : Text} {lexed : Lexed}
    (found : numberLexeme? negative text = some lexed) : lexed.lexeme.IsLawful := by
  unfold numberLexeme? at found
  simp only at found
  by_cases empty : (integerPart text).isEmpty = true
  · simp [empty] at found
  · rw [if_neg empty] at found
    generalize (if (fractionPart _).isEmpty = true then 0 else _) = fractionLength at found
    split at found
    · split at found
      · rename_i beyond
        cases found
        exact beyond
      · cases found
        rfl
    · cases found
      rfl

theorem isLawful_lexemeAt (position : Nat) (c : CodePoint) (rest : Text) :
    (lexemeAt position c rest).lexeme.IsLawful := by
  have words : ∀ word ∈ wordValues, word.2.isPlain = true := by decide
  unfold lexemeAt
  split
  · exact isLawful_stringLexeme position rest 0 (position + 1) []
  iterate 6
    split
    · trivial
  split
  · rename_i word found
    exact words word (List.mem_of_find?_eq_some found)
  · simp only
    split
    · cases number : numberLexeme? true rest with
      | none => trivial
      | some lexed => exact isLawful_numberLexeme number
    · split
      · cases number : numberLexeme? false (c :: rest) with
        | none => trivial
        | some lexed => exact isLawful_numberLexeme number
      · trivial

/-! ## What is read is plain -/

/-- Whether all that an open container holds so far is plain. -/
def Frame.IsPlain : Frame → Prop
  | .array items => arePlain items = true
  | .object members _ => membersArePlain members = true

/-- Whether all that has been read so far is plain. -/
def State.IsPlain : State → Prop
  | .value frames => ∀ frame ∈ frames, frame.IsPlain
  | .firstItem frames => ∀ frame ∈ frames, frame.IsPlain
  | .firstKey frames => ∀ frame ∈ frames, frame.IsPlain
  | .key members frames => membersArePlain members = true ∧ ∀ frame ∈ frames, frame.IsPlain
  | .colon members _ frames => membersArePlain members = true ∧ ∀ frame ∈ frames, frame.IsPlain
  | .afterItem items frames => arePlain items = true ∧ ∀ frame ∈ frames, frame.IsPlain
  | .afterMember members frames => membersArePlain members = true ∧ ∀ frame ∈ frames, frame.IsPlain
  | .finished document => document.isPlain = true

theorem State.isPlain_deliver {value : Json} (plain : value.isPlain = true) {frames : List Frame}
    (framesPlain : ∀ frame ∈ frames, frame.IsPlain) : (State.deliver value frames).IsPlain := by
  cases frames with
  | nil => exact plain
  | cons frame rest =>
    have restPlain : ∀ other ∈ rest, other.IsPlain :=
      fun other member => framesPlain other (List.mem_cons_of_mem _ member)
    have framePlain := framesPlain frame List.mem_cons_self
    cases frame with
    | array items =>
      have itemsPlain : arePlain items = true := framePlain
      exact ⟨by simp [arePlain, plain, itemsPlain], restPlain⟩
    | object members name => exact ⟨membersArePlain_put name framePlain plain, restPlain⟩

theorem State.isPlain_takeValue {position : Nat} {frames : List Frame} {lexeme : Lexeme}
    {next : State} (framesPlain : ∀ frame ∈ frames, frame.IsPlain) (lawful : lexeme.IsLawful)
    (taken : takeValue position frames lexeme = .ok next) : next.IsPlain := by
  have entered : ∀ container, enter container frames = .ok next → next.IsPlain := by
    intro container entered
    unfold enter at entered
    split at entered
    · cases entered
    · cases container <;> cases entered <;> exact framesPlain
  cases lexeme with
  | string text =>
    cases taken
    exact isPlain_deliver rfl framesPlain
  | scalar value =>
    cases taken
    exact isPlain_deliver lawful framesPlain
  | beginArray => exact entered .array taken
  | beginObject => exact entered .object taken
  | _ => cases taken

theorem State.isPlain_takeKey {position : Nat} {members : List (Text × Json)}
    {frames : List Frame} {lexeme : Lexeme} {next : State}
    (membersPlain : membersArePlain members = true)
    (framesPlain : ∀ frame ∈ frames, frame.IsPlain)
    (taken : takeKey position members frames lexeme = .ok next) : next.IsPlain := by
  cases lexeme with
  | string name =>
    cases taken
    exact ⟨membersPlain, framesPlain⟩
  | _ => cases taken

/-- One lexeme leaves all that has been read plain. -/
theorem State.isPlain_step {position : Nat} {lexeme : Lexeme} {state next : State}
    (before : state.IsPlain) (lawful : lexeme.IsLawful)
    (taken : state.step position lexeme = .ok next) : next.IsPlain := by
  cases state with
  | value frames => exact isPlain_takeValue before lawful taken
  | firstItem frames =>
    have opened : ∀ frame ∈ Frame.array [] :: frames, frame.IsPlain := by
      intro frame member
      rcases List.mem_cons.mp member with rfl | member
      · rfl
      · exact before frame member
    simp only [step] at taken
    split at taken
    · cases taken
      exact isPlain_deliver rfl before
    · exact isPlain_takeValue opened lawful taken
  | firstKey frames =>
    simp only [step] at taken
    split at taken
    · cases taken
      exact isPlain_deliver rfl before
    · exact isPlain_takeKey rfl before taken
  | key members frames => exact isPlain_takeKey before.1 before.2 taken
  | colon members name frames =>
    simp only [step] at taken
    split at taken
    · cases taken
      intro frame member
      rcases List.mem_cons.mp member with rfl | member
      · exact before.1
      · exact before.2 frame member
    · cases taken
  | afterItem items frames =>
    simp only [step] at taken
    split at taken
    · cases taken
      intro frame member
      rcases List.mem_cons.mp member with rfl | member
      · exact before.1
      · exact before.2 frame member
    · cases taken
      have complete : isPlain (.array items.reverse) = true := arePlain_reverse before.1
      exact isPlain_deliver complete before.2
    · cases taken
  | afterMember members frames =>
    simp only [step] at taken
    split at taken
    · cases taken
      exact before
    · cases taken
      have complete : isPlain (.object members) = true := before.1
      exact isPlain_deliver complete before.2
    · cases taken
  | finished document => cases taken

theorem isPlain_readFrom : (source : Text) → (skip position : Nat) → (state : State) →
    (document : Json) → state.IsPlain → readFrom skip position state source = .ok document →
    document.isPlain = true
  | [], skip, position, state, document, before, success => by
    have finished : state.finish position = .ok document := by cases skip <;> exact success
    cases state with
    | finished value =>
      cases finished
      exact before
    | _ => cases finished
  | _ :: rest, skip + 1, position, state, document, before, success =>
    isPlain_readFrom rest skip (position + 1) state document before success
  | c :: rest, 0, position, state, document, before, success => by
    unfold readFrom at success
    split at success
    · exact isPlain_readFrom rest 0 (position + 1) state document before success
    · simp only at success
      cases taken : state.step position (lexemeAt position c rest).lexeme with
      | error failure => simp [taken] at success
      | ok next =>
        simp only [taken] at success
        have after := State.isPlain_step before (isLawful_lexemeAt position c rest) taken
        exact isPlain_readFrom rest _ (position + 1) next document after success

/-- Every document that is read is plain. -/
theorem isPlain_of_read {source : Text} {document : Json} (success : read source = .ok document) :
    document.isPlain = true := by
  unfold read at success
  simp only at success
  split at success
  · cases success
  · cases outcome : readFrom 0 0 (.value []) source with
    | error failure =>
      rw [outcome] at success
      cases success
    | ok value =>
      rw [outcome] at success
      cases success
      exact isPlain_readFrom source 0 0 (.value []) document (by simp [State.IsPlain]) outcome

end ClassSynth.Json
