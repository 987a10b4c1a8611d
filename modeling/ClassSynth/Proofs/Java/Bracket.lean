import ClassSynth.Proofs.Java.Recovery

/-!
# Blocks of lines

A line that ends in an opening brace opens a block, and a line that holds nothing but a closing
brace closes one.  Counted so, every line of a class stands in as many blocks as it is indented by
levels.  The count is a sum over the lines before, so pieces that close what they open can be put
one after the other, and a block around such a piece puts each of its lines one level further in.
-/

set_option autoImplicit false

namespace ClassSynth.Java

/-! ## Counting blocks -/

/-- Whether a line opens a block. -/
def opensBlock (line : Text) : Bool := decide (line.getLast? = some (CodePoint.ofChar '\x7b'))

/-- Whether a line closes a block: behind its blanks there is a brace and nothing else. -/
def closesBlock (line : Text) : Bool :=
  decide (line.dropWhile (fun c => decide (c = space)) = ending)

/-- How many blocks a line stands in, given the lines before it: those that were opened, without
those that were closed, be it by the line itself. -/
def blocksAt (before : List Text) (line : Text) : Int :=
  before.countP opensBlock - (before ++ [line]).countP closesBlock

/-- How many blocks lines open beyond those they close. -/
def surplus (lines : List Text) : Int := lines.countP opensBlock - lines.countP closesBlock

theorem surplus_nil : surplus [] = 0 := rfl

theorem surplus_append (first second : List Text) :
    surplus (first ++ second) = surplus first + surplus second := by
  simp only [surplus, List.countP_append]
  omega

theorem blocksAt_eq (before : List Text) (line : Text) :
    blocksAt before line = surplus before - if closesBlock line then 1 else 0 := by
  rw [blocksAt, surplus, List.countP_append, List.countP_singleton]
  split <;> omega

theorem blocksAt_append (first before : List Text) (line : Text) :
    blocksAt (first ++ before) line = surplus first + blocksAt before line := by
  rw [blocksAt_eq, blocksAt_eq, surplus_append]
  omega

/-- Whether a line is empty or is indented by a number of levels and no further. -/
def IsIndented (level : Nat) (line : Text) : Prop :=
  line = [] ∨ ∃ c rest, c ≠ space ∧ line = List.replicate (4 * level) space ++ c :: rest

/-! ## One level further in -/

theorem indentLine_of_ne_nil {line : Text} (nonempty : line ≠ []) :
    indentLine line = List.replicate 4 space ++ line := by
  cases line with
  | nil => exact absurd rfl nonempty
  | cons c rest => rfl

theorem opensBlock_append (line : Text) {last : Text} (nonempty : last ≠ []) :
    opensBlock (line ++ last) = opensBlock last := by
  rw [opensBlock, opensBlock, List.getLast?_append_of_ne_nil _ nonempty]

theorem opensBlock_indentLine (line : Text) : opensBlock (indentLine line) = opensBlock line := by
  cases line with
  | nil => rfl
  | cons c rest => exact opensBlock_append _ (List.cons_ne_nil c rest)

theorem closesBlock_indentLine (line : Text) :
    closesBlock (indentLine line) = closesBlock line := by
  cases line with
  | nil => rfl
  | cons c rest =>
    have blanks : ∀ b ∈ List.replicate 4 space, decide (b = space) = true :=
      fun b listed => decide_eq_true (List.eq_of_mem_replicate listed)
    rw [closesBlock, closesBlock, indentLine_of_ne_nil (List.cons_ne_nil c rest),
      List.dropWhile_append_of_pos blanks]

theorem IsIndented.further {level : Nat} {line : Text} (indented : IsIndented level line) :
    IsIndented (level + 1) (indentLine line) := by
  rcases indented with rfl | ⟨c, rest, visible, rfl⟩
  · exact .inl rfl
  · refine .inr ⟨c, rest, visible, ?_⟩
    rw [indentLine_of_ne_nil (by simp), ← List.append_assoc, List.replicate_append_replicate,
      Nat.mul_succ, Nat.add_comm]

theorem surplus_map_indentLine (lines : List Text) :
    surplus (lines.map indentLine) = surplus lines := by
  have opens : opensBlock ∘ indentLine = opensBlock := funext opensBlock_indentLine
  have closes : closesBlock ∘ indentLine = closesBlock := funext closesBlock_indentLine
  rw [surplus, surplus, List.countP_map, List.countP_map, opens, closes]

theorem blocksAt_map_indentLine (before : List Text) (line : Text) :
    blocksAt (before.map indentLine) (indentLine line) = blocksAt before line := by
  rw [blocksAt_eq, blocksAt_eq, surplus_map_indentLine, closesBlock_indentLine]

/-! ## Pieces that close what they open -/

theorem line_of_append {first second before behind : List Text} {line : Text}
    (split : first ++ second = before ++ line :: behind) :
    (∃ more, first = before ++ line :: more) ∨
      ∃ more, before = first ++ more ∧ second = more ++ line :: behind := by
  rcases List.append_eq_append_iff.mp split with ⟨more, within, rest⟩ | ⟨more, within, rest⟩
  · exact .inr ⟨more, within, rest⟩
  · cases more with
    | nil => exact .inr ⟨[], by simpa using within.symm, rest.symm⟩
    | cons other more =>
      obtain ⟨rfl, -⟩ := List.cons.inj rest
      exact .inl ⟨more, within⟩

theorem line_of_singleton {only line : Text} {before behind : List Text}
    (split : [only] = before ++ line :: behind) : before = [] ∧ line = only ∧ behind = [] := by
  cases before with
  | nil => simpa [eq_comm] using split
  | cons other rest => simp at split

/-- Whether lines close the blocks they open and are indented by the number of blocks they stand
in, which is never negative. -/
structure IsBracketed (lines : List Text) : Prop where
  settled : surplus lines = 0
  indented : ∀ before line behind, lines = before ++ line :: behind →
    ∃ level : Nat, blocksAt before line = level ∧ IsIndented level line

theorem isBracketed_nil : IsBracketed [] := by
  refine ⟨surplus_nil, ?_⟩
  intro before line behind split
  simp at split

theorem IsBracketed.append {first second : List Text} (left : IsBracketed first)
    (right : IsBracketed second) : IsBracketed (first ++ second) := by
  refine ⟨by rw [surplus_append, left.settled, right.settled, Int.add_zero], ?_⟩
  intro before line behind split
  rcases line_of_append split with ⟨more, inFirst⟩ | ⟨more, rfl, inSecond⟩
  · exact left.indented before line more inFirst
  · rw [blocksAt_append, left.settled, Int.zero_add]
    exact right.indented more line behind inSecond

theorem isBracketed_flatMap {Item : Type} {items : List Item} {lines : Item → List Text}
    (each : ∀ item ∈ items, IsBracketed (lines item)) : IsBracketed (items.flatMap lines) := by
  induction items with
  | nil => exact isBracketed_nil
  | cons item rest ih =>
    obtain ⟨first, later⟩ := List.forall_mem_cons.mp each
    exact first.append (ih later)

/-- Whether a line is not indented and closes no block, and whether it opens one. -/
structure IsFlush (opens : Bool) (line : Text) : Prop where
  opens : opensBlock line = opens
  closes : closesBlock line = false
  margin : IsIndented 0 line

theorem isFlush_nil : IsFlush false [] := ⟨rfl, rfl, .inl rfl⟩

theorem isFlush_cons {opens : Bool} {c : CodePoint} {rest : Text} (visible : c ≠ space)
    (noBrace : c ≠ CodePoint.ofChar '\x7d') (same : opensBlock (c :: rest) = opens) :
    IsFlush opens (c :: rest) := by
  refine ⟨same, ?_, .inr ⟨c, rest, visible, rfl⟩⟩
  rw [closesBlock, List.dropWhile_cons_of_neg (by simpa using visible), decide_eq_false_iff_not]
  intro brace
  exact noBrace (List.cons.inj brace).1

theorem isFlush_append {opens : Bool} {line last : Text} {c : CodePoint}
    (first : line.head? = some c) (visible : c ≠ space) (noBrace : c ≠ CodePoint.ofChar '\x7d')
    (nonempty : last ≠ []) (same : opensBlock last = opens) : IsFlush opens (line ++ last) := by
  obtain ⟨rest, rfl⟩ := List.head?_eq_some_iff.mp first
  have whole := (opensBlock_append (c :: rest) nonempty).trans same
  exact isFlush_cons visible noBrace whole

theorem IsFlush.surplus_singleton {opens : Bool} {line : Text} (flush : IsFlush opens line) :
    surplus [line] = if opens then 1 else 0 := by
  cases opens <;> simp [surplus, flush.opens, flush.closes]

theorem IsFlush.blocksAt_nil {opens : Bool} {line : Text} (flush : IsFlush opens line) :
    blocksAt [] line = 0 := by
  rw [blocksAt_eq, flush.closes]
  rfl

theorem IsFlush.isBracketed {line : Text} (flush : IsFlush false line) : IsBracketed [line] := by
  refine ⟨flush.surplus_singleton, ?_⟩
  intro before other behind split
  obtain ⟨rfl, rfl, rfl⟩ := line_of_singleton split
  exact ⟨0, flush.blocksAt_nil, flush.margin⟩

theorem isBracketed_of_isFlush {lines : List Text} (flush : ∀ line ∈ lines, IsFlush false line) :
    IsBracketed lines := by
  have each := isBracketed_flatMap fun line listed => (flush line listed).isBracketed
  rwa [List.flatMap_singleton'] at each

/-- Behind lines that open nothing, no line at the margin stands in a block. -/
theorem IsFlush.blocksAt_eq_zero {opens : Bool} {line : Text} (flush : IsFlush opens line)
    {before : List Text} (above : ∀ other ∈ before, IsFlush false other) :
    blocksAt before line = 0 := by
  rw [← List.append_nil before, blocksAt_append, (isBracketed_of_isFlush above).settled,
    flush.blocksAt_nil]
  rfl

/-! ## Blocks -/

section

variable {opening : Text} {inside : List Text} (bracketed : IsBracketed inside)
  (opens : IsFlush true opening)

include bracketed opens

/-- In a block, each line is one level further in than by itself. -/
theorem within_block {before behind : List Text} {line : Text}
    (split : inside.map indentLine = before ++ line :: behind) :
    ∃ level : Nat, blocksAt (opening :: before) line = level + 1 ∧
      IsIndented (level + 1) line := by
  obtain ⟨first, last, rfl, rfl, rest⟩ := List.map_eq_append_iff.mp split
  obtain ⟨inner, later, rfl, rfl, rfl⟩ := List.map_eq_cons_iff.mp rest
  obtain ⟨level, stands, indented⟩ := bracketed.indented first inner later rfl
  refine ⟨level, ?_, indented.further⟩
  rw [← List.singleton_append, blocksAt_append, blocksAt_map_indentLine, opens.surplus_singleton,
    stands, if_pos rfl, Int.add_comm]

theorem blocksAt_ending : blocksAt (opening :: inside.map indentLine) ending = 0 := by
  have closing : blocksAt [] ending = -1 := by decide
  rw [← List.singleton_append, ← List.append_nil (_ ++ _), blocksAt_append, surplus_append,
    surplus_map_indentLine, opens.surplus_singleton, bracketed.settled, closing]
  rfl

theorem IsBracketed.block : IsBracketed (opening :: (inside.map indentLine ++ [ending])) := by
  constructor
  · have closing : surplus [ending] = -1 := by decide
    rw [← List.singleton_append, surplus_append, surplus_append, surplus_map_indentLine,
      opens.surplus_singleton, bracketed.settled, closing]
    rfl
  -- A line is the one that opens the block, one inside it, or the one that closes it.
  · intro before line behind split
    rw [← List.singleton_append] at split
    rcases line_of_append split with ⟨more, first⟩ | ⟨before, rfl, rest⟩
    · obtain ⟨rfl, rfl, rfl⟩ := line_of_singleton first
      exact ⟨0, opens.blocksAt_nil, opens.margin⟩
    · rcases line_of_append rest with ⟨more, within⟩ | ⟨more, rfl, last⟩
      · obtain ⟨level, stands, indented⟩ := within_block bracketed opens within
        exact ⟨level + 1, stands, indented⟩
      · obtain ⟨rfl, rfl, rfl⟩ := line_of_singleton last
        rw [List.append_nil, List.singleton_append]
        exact ⟨0, blocksAt_ending bracketed opens,
          .inr ⟨CodePoint.ofChar '\x7d', [], by decide, rfl⟩⟩

end

/-! ## The lines of a class -/

section

variable (style : Style)

theorem isFlush_heading (isNested : Bool) (name : Text) : IsFlush true (heading isNested name) := by
  cases isNested <;> exact isFlush_append rfl (by decide) (by decide) (by decide) rfl

theorem isBracketed_fieldLines (field : FieldModel) : IsBracketed (fieldLines style field) := by
  have declares : IsFlush false ("private " ++ field.type ++ " " ++ field.name ++ ";") :=
    isFlush_append rfl (by decide) (by decide) (by decide) rfl
  have carries : IsFlush false ("@JsonProperty(" ++ field.keyLiteral ++ ")") :=
    isFlush_append rfl (by decide) (by decide) (by decide) rfl
  rw [fieldLines]
  cases style.jackson with
  | false => exact declares.isBracketed
  | true => exact carries.isBracketed.append declares.isBracketed

theorem isBracketed_constructorLines (name : Text) : IsBracketed (constructorLines name) := by
  have opens : IsFlush true ("public " ++ name ++ "() \x7b") :=
    isFlush_append rfl (by decide) (by decide) (by decide) rfl
  exact isFlush_nil.isBracketed.append (isBracketed_nil.block opens)

theorem isBracketed_accessorLines (field : FieldModel) : IsBracketed (accessorLines field) := by
  have opensGetter : IsFlush true
      ("public " ++ field.type ++ " get" ++ field.name.capitalizeFirst ++ "() \x7b") :=
    isFlush_append rfl (by decide) (by decide) (by decide) rfl
  have opensSetter : IsFlush true ("public void set" ++ field.name.capitalizeFirst ++ "(" ++
      field.type ++ " " ++ field.name ++ ") \x7b") :=
    isFlush_append rfl (by decide) (by decide) (by decide) rfl
  have returns : IsFlush false ("return " ++ field.name ++ ";") :=
    isFlush_append rfl (by decide) (by decide) (by decide) rfl
  have assigns : IsFlush false ("this." ++ field.name ++ " = " ++ field.name ++ ";") :=
    isFlush_append rfl (by decide) (by decide) (by decide) rfl
  have getter := isFlush_nil.isBracketed.append (returns.isBracketed.block opensGetter)
  have setter := isFlush_nil.isBracketed.append (assigns.isBracketed.block opensSetter)
  exact getter.append setter

theorem isBracketed_ownLines (name : Text) (fields : List FieldModel) :
    IsBracketed (ownLines style name fields) := by
  rw [ownLines]
  refine (isBracketed_flatMap fun field _ => isBracketed_fieldLines style field).append ?_
  split
  · exact isBracketed_nil
  · exact (isBracketed_constructorLines name).append
      (isBracketed_flatMap fun field _ => isBracketed_accessorLines field)

/-- Whether the annotations of a class stand at the margin and open nothing. -/
def ClassModel.IsFlushAbove (model : ClassModel) : Prop :=
  ∀ line ∈ annotationLines model, IsFlush false line

-- By induction on the class.  Nothing is assumed of the level it stands at: the block around its
-- own lines and those of its nested classes moves all of them.
mutual

theorem isBracketed_lines : (model : ClassModel) → (isNested : Bool) →
    (∀ inner ∈ model.walk, inner.IsFlushAbove) → IsBracketed (model.lines style isNested)
  | ⟨name, annotations, fields, nested⟩, isNested, flush => by
    rw [ClassModel.forall_mem_walk_iff] at flush
    have inside := (isBracketed_ownLines style name fields).append
      (isBracketed_nestedLines nested flush.2)
    have block := inside.block (isFlush_heading isNested name)
    rw [ClassModel.lines, List.append_assoc, List.append_assoc]
    exact (isBracketed_of_isFlush flush.1).append block

theorem isBracketed_nestedLines : (models : List ClassModel) →
    (∀ model ∈ models, ∀ inner ∈ model.walk, inner.IsFlushAbove) →
    IsBracketed (nestedLines style models)
  | [], _ => isBracketed_nil
  | model :: rest, flush => by
    rw [List.forall_mem_cons] at flush
    rw [nestedLines]
    exact isFlush_nil.isBracketed.append
      ((isBracketed_lines model true flush.1).append (isBracketed_nestedLines rest flush.2))

end

end

end ClassSynth.Java
