import ClassSynth.Proofs.Java.Accessor
import ClassSynth.Proofs.Java.KeyLiteral
import ClassSynth.Proofs.Java.Unit

/-!
# Reading class models back

The lines of a class tell where each of its parts ends: its annotations before the first line that
begins otherwise, its fields before the first empty line, and its body before the first brace that
is not indented.  A class is therefore known from its lines together with what stands behind it, and
so are the classes nested in it, each from its own lines one level further out.

The main statement is that a generator which writes down the keys gives two class trees the same
source only if it gives them the same class model.
-/

set_option autoImplicit false

namespace ClassSynth.Java

/-! ## Parts -/

/-- Whether the second of two parts begins where an item of some kind comes first. -/
structure PartsAt {Item : Type} (opens : Item → Bool) (first second : List Item) : Prop where
  within : ∀ item ∈ first, opens item = false
  boundary : ∀ item ∈ second.head?, opens item = true

section

variable {Item : Type} {opens : Item → Bool} {first first' second second' : List Item}

theorem PartsAt.takeWhile_append (parts : PartsAt opens first second) :
    (first ++ second).takeWhile (fun item => !opens item) = first := by
  have goesOn : ∀ item ∈ first, (!opens item) = true := by
    intro item member
    rw [parts.within item member]
    rfl
  have stops : second.takeWhile (fun item => !opens item) = [] := by
    cases second with
    | nil => rfl
    | cons item rest => simp [parts.boundary item rfl]
  rw [List.takeWhile_append_of_pos goesOn, stops, List.append_nil]

/-- A list has one pair of such parts only. -/
theorem PartsAt.unique (parts : PartsAt opens first second) (parts' : PartsAt opens first' second')
    (same : first ++ second = first' ++ second') : first = first' ∧ second = second' := by
  have front : first = first' := by
    rw [← parts.takeWhile_append, ← parts'.takeWhile_append, same]
  subst front
  exact ⟨rfl, List.append_cancel_left same⟩

end

/-! ## The parts of a class -/

def space : CodePoint := CodePoint.ofChar ' '

theorem indentLine_injective : Function.Injective indentLine := by
  intro line other same
  cases line <;> cases other <;> simp_all [indentLine]

theorem heading_injective (isNested : Bool) : Function.Injective (heading isNested) := by
  intro name other same
  exact List.append_cancel_left (List.append_cancel_right same)

section

variable {style : Style} (jackson : style.jackson = true)

include jackson

/-- The type of a field ends at the first blank behind its modifier. -/
theorem eq_of_fieldLines_eq {field other : FieldModel} (ofType : space ∉ field.type)
    (ofOther : space ∉ other.type) (same : fieldLines style field = fieldLines style other) :
    field = other := by
  obtain ⟨name, keyLiteral, type⟩ := field
  obtain ⟨name', keyLiteral', type'⟩ := other
  have parts : ∀ {type : Text}, space ∉ type → ∀ name : Text,
      PartsAt (fun c => decide (c = space)) type (space :: name) := by
    intro type noBlank name
    refine ⟨?_, by simp⟩
    intro c member
    rw [decide_eq_false_iff_not]
    rintro rfl
    exact noBlank member
  have shape : ∀ type name : Text, "private " ++ type ++ " " ++ name ++ ";" =
      ("private " : Text) ++ (type ++ space :: name) ++ ";" := by
    intro type name
    simp only [List.append_assoc]
    rfl
  simp only [fieldLines, jackson, if_true, List.cons_append, List.nil_append, List.cons.injEq,
    and_true] at same
  obtain ⟨sameKey, sameDeclaration⟩ := same
  have keys : keyLiteral = keyLiteral' :=
    List.append_cancel_left (List.append_cancel_right sameKey)
  rw [shape, shape] at sameDeclaration
  obtain ⟨types, names⟩ := (parts ofType name).unique (parts ofOther name')
    (List.append_cancel_left (List.append_cancel_right sameDeclaration))
  rw [FieldModel.mk.injEq]
  exact ⟨(List.cons.inj names).2, keys, types⟩

theorem eq_of_flatMap_fieldLines_eq {fields others : List FieldModel}
    (ofTypes : ∀ field ∈ fields, space ∉ field.type)
    (ofOthers : ∀ field ∈ others, space ∉ field.type)
    (same : fields.flatMap (fieldLines style) = others.flatMap (fieldLines style)) :
    fields = others := by
  have long : ∀ field, (fieldLines style field).length = 2 := by
    intro field
    simp [fieldLines, jackson]
  have nonempty : ∀ field, fieldLines style field ≠ [] := by
    intro field none
    have two := long field
    rw [none] at two
    cases two
  induction fields generalizing others with
  | nil =>
    cases others with
    | nil => rfl
    | cons other rest => simp [nonempty] at same
  | cons field rest ih =>
    cases others with
    | nil => simp [nonempty] at same
    | cons other others =>
      rw [List.forall_mem_cons] at ofTypes ofOthers
      rw [List.flatMap_cons, List.flatMap_cons] at same
      obtain ⟨here, later⟩ := List.append_inj same ((long field).trans (long other).symm)
      rw [eq_of_fieldLines_eq jackson ofTypes.1 ofOthers.1 here, ih ofTypes.2 ofOthers.2 later]

omit jackson in
/-- The lines of the fields end at the first empty line, be it that above the constructor or above
the first nested class. -/
theorem partsAt_fields (name : Text) (fields : List FieldModel) (nested : List ClassModel) :
    PartsAt List.isEmpty (fields.flatMap (fieldLines style))
      ((if style.lombok then [] else constructorLines name ++ fields.flatMap accessorLines) ++
        nestedLines style nested) := by
  constructor
  · intro line listed
    obtain ⟨field, -, within⟩ := List.mem_flatMap.mp listed
    rw [fieldLines, List.mem_append] at within
    rcases within with ofKey | declares
    · split at ofKey
      · rw [List.mem_singleton.mp ofKey]
        rfl
      · cases ofKey
    · rw [List.mem_singleton.mp declares]
      rfl
  · intro line first
    cases lombok : style.lombok with
    | false =>
      rw [lombok, if_neg Bool.false_ne_true] at first
      cases first
      rfl
    | true =>
      rw [lombok, if_pos rfl, List.nil_append] at first
      cases nested with
      | nil => cases first
      | cons model rest =>
        cases first
        rfl

theorem eq_of_body_eq {name : Text} {fields fields' : List FieldModel}
    {nested nested' : List ClassModel} (ofTypes : ∀ field ∈ fields, space ∉ field.type)
    (ofOthers : ∀ field ∈ fields', space ∉ field.type)
    (same : ownLines style name fields ++ nestedLines style nested =
      ownLines style name fields' ++ nestedLines style nested') :
    fields = fields' ∧ nestedLines style nested = nestedLines style nested' := by
  rw [ownLines, ownLines, List.append_assoc, List.append_assoc] at same
  obtain ⟨front, behind⟩ :=
    (partsAt_fields name fields nested).unique (partsAt_fields name fields' nested') same
  obtain rfl := eq_of_flatMap_fieldLines_eq jackson ofTypes ofOthers front
  exact ⟨rfl, List.append_cancel_left behind⟩

end

def atSign : CodePoint := CodePoint.ofChar '@'

/-- Whether a line begins otherwise than an annotation. -/
def opensHeading (line : Text) : Bool := decide (line.head? ≠ some atSign)

theorem partsAt_annotations (annotations : List Text) (isNested : Bool) (name : Text)
    (behind : List Text) :
    PartsAt opensHeading (annotations.map (CodePoint.ofChar '@' :: ·))
      (heading isNested name :: behind) := by
  constructor
  · intro line listed
    obtain ⟨label, -, rfl⟩ := List.mem_map.mp listed
    simp [opensHeading, atSign]
  · intro line first
    cases first
    cases isNested <;> rfl

/-- No indented line is the brace that ends the class. -/
theorem partsAt_ending (body behind : List Text) :
    PartsAt (fun line => decide (line = ending)) (body.map indentLine) (ending :: behind) := by
  refine ⟨?_, by simp⟩
  intro line listed
  obtain ⟨inner, -, rfl⟩ := List.mem_map.mp listed
  rw [decide_eq_false_iff_not]
  cases inner with
  | nil => exact List.cons_ne_nil _ _ ∘ Eq.symm
  | cons c rest =>
    intro same
    exact absurd (List.cons.inj same).1 (by decide)

/-! ## Classes with what stands behind them -/

/-- Whether a class can be read off its lines: each of its parts is on one line, and no type holds a
blank. -/
structure ClassModel.IsLegible (model : ClassModel) : Prop where
  name : model.name.IsWord
  annotations : ∀ label ∈ model.annotations, lineFeed ∉ label
  fieldNames : ∀ field ∈ model.fields, field.name.IsWord
  keyLiterals : ∀ field ∈ model.fields, lineFeed ∉ field.keyLiteral
  types : ∀ field ∈ model.fields, space ∉ field.type ∧ lineFeed ∉ field.type

theorem ClassModel.forall_mem_walk_iff (P : ClassModel → Prop) (name : Text)
    (annotations : List Text) (fields : List FieldModel) (nested : List ClassModel) :
    (∀ inner ∈ walk ⟨name, annotations, fields, nested⟩, P inner) ↔
      P ⟨name, annotations, fields, nested⟩ ∧
        ∀ model ∈ nested, ∀ inner ∈ model.walk, P inner := by
  have below : ∀ models : List ClassModel, (∀ inner ∈ walkAll models, P inner) ↔
      ∀ model ∈ models, ∀ inner ∈ model.walk, P inner := by
    intro models
    induction models with
    | nil => simp [walkAll]
    | cons model rest ih => rw [walkAll, List.forall_mem_append, List.forall_mem_cons, ih]
  rw [walk, List.forall_mem_cons, below]

section

variable {style : Style}

-- By induction on the first class: the parts of both are told apart at the same lines, and the body
-- of either holds the lines of its nested classes, one after the other.
mutual

theorem eq_of_lines_append_eq (jackson : style.jackson = true) :
    (model other : ClassModel) → (isNested : Bool) → (behind behind' : List Text) →
    (∀ inner ∈ model.walk, inner.IsLegible) → (∀ inner ∈ other.walk, inner.IsLegible) →
    model.lines style isNested ++ behind = other.lines style isNested ++ behind' →
    model = other ∧ behind = behind'
  | ⟨name, annotations, fields, nested⟩, ⟨name', annotations', fields', nested'⟩, isNested, behind,
      behind', legible, legible', same => by
    rw [ClassModel.forall_mem_walk_iff] at legible legible'
    have shape : ∀ name annotations fields nested, ∀ behind : List Text,
        ClassModel.lines style isNested ⟨name, annotations, fields, nested⟩ ++ behind =
          annotations.map (CodePoint.ofChar '@' :: ·) ++ heading isNested name ::
            ((ownLines style name fields ++ nestedLines style nested).map indentLine ++
              ending :: behind) := by
      intro name annotations fields nested behind
      simp only [ClassModel.lines, List.append_assoc, List.cons_append, List.nil_append]
    rw [shape, shape] at same
    obtain ⟨sameAnnotations, fromHeading⟩ :=
      (partsAt_annotations annotations isNested name _).unique
        (partsAt_annotations annotations' isNested name' _) same
    obtain ⟨sameHeading, fromBody⟩ := List.cons.inj fromHeading
    obtain ⟨sameBody, fromEnding⟩ :=
      (partsAt_ending _ behind).unique (partsAt_ending _ behind') fromBody
    obtain rfl := List.map_injective_iff.mpr List.cons_injective sameAnnotations
    obtain rfl := heading_injective isNested sameHeading
    obtain ⟨rfl, sameNested⟩ := eq_of_body_eq jackson
      (fun field listed => (legible.1.types field listed).1)
      (fun field listed => (legible'.1.types field listed).1)
      (List.map_injective_iff.mpr indentLine_injective sameBody)
    obtain rfl := eq_of_nestedLines_eq jackson nested nested' legible.2 legible'.2 sameNested
    exact ⟨rfl, (List.cons.inj fromEnding).2⟩

theorem eq_of_nestedLines_eq (jackson : style.jackson = true) :
    (models others : List ClassModel) →
    (∀ model ∈ models, ∀ inner ∈ model.walk, inner.IsLegible) →
    (∀ model ∈ others, ∀ inner ∈ model.walk, inner.IsLegible) →
    nestedLines style models = nestedLines style others → models = others
  | [], [], _, _, _ => rfl
  | [], _ :: _, _, _, same => by simp [nestedLines] at same
  | _ :: _, [], _, _, same => by simp [nestedLines] at same
  | model :: rest, other :: others, legible, legible', same => by
    rw [List.forall_mem_cons] at legible legible'
    rw [nestedLines, nestedLines] at same
    obtain ⟨rfl, later⟩ := eq_of_lines_append_eq jackson model other true _ _ legible.1
      legible'.1 (List.cons.inj same).2
    rw [eq_of_nestedLines_eq jackson rest others legible.2 legible'.2 later]

end

end

/-! ## Sources -/

section

variable {style : Style}

theorem lineFeed_not_mem_indentLine {line : Text} (plain : lineFeed ∉ line) :
    lineFeed ∉ indentLine line := by
  rw [indentLine]
  split
  · exact List.not_mem_nil
  · simp +decide [plain]

theorem lineFeed_not_mem_word {t : Text} (word : t.IsWord) : lineFeed ∉ t :=
  fun present => absurd (word _ present) (by decide)

namespace ClassModel

theorem IsLegible.lineFeed_not_mem_ownLines {model : ClassModel} (legible : model.IsLegible)
    (style : Style) : ∀ line ∈ ownLines style model.name model.fields, lineFeed ∉ line := by
  have ofName := lineFeed_not_mem_word legible.name
  have ofFields : ∀ field ∈ model.fields, (∀ line ∈ fieldLines style field, lineFeed ∉ line) ∧
      ∀ line ∈ accessorLines field, lineFeed ∉ line := by
    intro field listed
    have name := lineFeed_not_mem_word (legible.fieldNames field listed)
    have suffix := lineFeed_not_mem_word
      (Text.isWord_capitalizeFirst (legible.fieldNames field listed))
    have key := legible.keyLiterals field listed
    have type := (legible.types field listed).2
    constructor
    · rw [fieldLines]
      cases style.jackson <;> simp +decide [name, key, type]
    · simp +decide [accessorLines, name, suffix, type]
  rw [ownLines, List.forall_mem_append]
  constructor
  · intro line listed
    obtain ⟨field, carried, within⟩ := List.mem_flatMap.mp listed
    exact (ofFields field carried).1 line within
  · split
    · exact List.forall_mem_nil _
    · rw [List.forall_mem_append]
      refine ⟨by simp +decide [constructorLines, ofName], ?_⟩
      intro line listed
      obtain ⟨field, carried, within⟩ := List.mem_flatMap.mp listed
      exact (ofFields field carried).2 line within

mutual

theorem lineFeed_not_mem_lines : (model : ClassModel) → (isNested : Bool) →
    (∀ inner ∈ model.walk, inner.IsLegible) → ∀ line ∈ model.lines style isNested, lineFeed ∉ line
  | ⟨name, annotations, fields, nested⟩, isNested, legible => by
    rw [forall_mem_walk_iff] at legible
    have ofName := lineFeed_not_mem_word legible.1.name
    have body := List.forall_mem_append.mpr ⟨legible.1.lineFeed_not_mem_ownLines style,
      lineFeed_not_mem_nestedLines nested legible.2⟩
    rw [lines, List.forall_mem_append, List.forall_mem_append, List.forall_mem_append,
      List.forall_mem_singleton, List.forall_mem_singleton, List.forall_mem_map,
      List.forall_mem_map]
    refine ⟨⟨⟨?_, ?_⟩, ?_⟩, by decide⟩
    · intro label carried
      simp +decide [legible.1.annotations label carried]
    · cases isNested <;> simp +decide [heading, ofName]
    · exact fun line listed => lineFeed_not_mem_indentLine (body line listed)

theorem lineFeed_not_mem_nestedLines : (models : List ClassModel) →
    (∀ model ∈ models, ∀ inner ∈ model.walk, inner.IsLegible) →
    ∀ line ∈ nestedLines style models, lineFeed ∉ line
  | [], _ => List.forall_mem_nil _
  | model :: rest, legible => by
    rw [List.forall_mem_cons] at legible
    rw [nestedLines, List.forall_mem_cons, List.forall_mem_append]
    exact ⟨List.not_mem_nil, lineFeed_not_mem_lines model true legible.1,
      lineFeed_not_mem_nestedLines rest legible.2⟩

end

end ClassModel

end

/-- Whether a line can be the first of a definition. -/
def opensDefinition (line : Text) : Bool :=
  decide (line.head? = some atSign) || decide (line.head? = some (CodePoint.ofChar 'p'))

theorem partsAt_imports (imports : List Text) (style : Style) (model : ClassModel) :
    PartsAt opensDefinition (importLines imports) (model.lines style false) := by
  constructor
  · intro line listed
    rw [importLines] at listed
    split at listed
    · cases listed
    · rcases List.mem_append.mp listed with ofImport | last
      · obtain ⟨name, -, rfl⟩ := List.mem_map.mp ofImport
        rfl
      · rw [List.mem_singleton.mp last]
        rfl
  · intro line first
    obtain ⟨name, annotations, fields, nested⟩ := model
    cases annotations <;> cases first <;> rfl

theorem not_mem_typeText {c : CodePoint} (noPart : c.isIdentifierPart = false)
    (noBracket : c ≠ CodePoint.ofChar '<' ∧ c ≠ CodePoint.ofChar '>') {type : FieldType}
    (words : ∀ name, type.reference? = some name → name.IsWord) :
    ∀ boxed, c ∉ typeText boxed type := by
  have apart : ∀ t : Text, t.IsWord → c ∉ t := by
    intro t word present
    rw [word c present] at noPart
    cases noPart
  have fixed : ∀ t : Text, t.all CodePoint.isIdentifierPart = true → c ∉ t :=
    fun t parts => apart t (List.all_eq_true.mp parts)
  induction type with
  | primitive kind =>
    intro boxed
    cases kind <;> cases boxed <;> exact fixed _ (by decide)
  | list element ih =>
    intro boxed
    have opening : Text.ofString "List<" = Text.ofString "List" ++ [CodePoint.ofChar '<'] := rfl
    have closing : Text.ofString ">" = [CodePoint.ofChar '>'] := rfl
    have list : c ∉ Text.ofString "List" := fixed _ (by decide)
    rw [typeText, opening, closing]
    simp [list, noBracket, ih words true]
  | reference className => exact fun _ => apart className (words className rfl)

section

variable {g : Generator} {spec : ClassSpec} {model : ClassModel}

theorem isLegible_of_modelsClass {cls : ClassSpec} (words : HasWords cls)
    (models : ModelsClass g.lombok cls model) : model.IsLegible where
  name := models.name ▸ words.name
  annotations := by
    have each : ∀ lombok hasFields, ∀ label ∈ annotationsFor lombok hasFields,
        lineFeed ∉ label := by
      decide
    rw [models.annotations]
    exact each _ _
  fieldNames := by
    rw [models.fields]
    exact isWord_of_mem_fieldModels words.fieldNames []
  keyLiterals := by
    intro field carried present
    obtain ⟨declared, -, modelsField⟩ := exists_field_of_mem models carried
    rw [modelsField.keyLiteral] at present
    exact absurd (literal_printable declared.jsonName lineFeed present).1 (by decide)
  types := by
    intro field carried
    obtain ⟨declared, listed, modelsField⟩ := exists_field_of_mem models carried
    have referred := words.references declared listed
    rw [modelsField.type]
    exact ⟨not_mem_typeText (by decide) (by decide) referred false,
      not_mem_typeText (by decide) (by decide) referred false⟩

theorem isLegible_of_hasWords (words : ∀ cls ∈ spec.walk, HasWords cls)
    (modelled : g.model spec = .ok model) : ∀ inner ∈ model.walk, inner.IsLegible := by
  intro inner present
  obtain ⟨cls, within, models⟩ := exists_class_of_mem_walk modelled present
  exact isLegible_of_modelsClass (words cls within) models

theorem isLegible_of_synthesizeFresh {o : Options} {document : Json} {className : Option Text}
    (success : synthesizeFresh o document className = .ok spec)
    (modelled : g.model spec = .ok model) : ∀ inner ∈ model.walk, inner.IsLegible := by
  obtain ⟨identifier, members, mirrored⟩ := mirrors_of_synthesizeFresh success
  have words := mirrored.hasWords_of_mem_walk (Text.isWord_of_isIdentifier identifier)
  exact isLegible_of_hasWords words modelled

theorem sourceOfModel_eq_textOfLines (model : ClassModel) :
    g.sourceOfModel model = textOfLines (packageLines g.packageName?) ++
      textOfLines (importLines (g.importsFor (g.definition model)) ++
        model.lines g.style false) := by
  rw [Generator.sourceOfModel, Generator.header_eq, textOfLines_append, textOfLines_append,
    List.append_assoc]
  rfl

/-- The lines behind the package line can be told apart in a source. -/
theorem lines_eq_of_sourceOfModel_eq {other : ClassModel}
    (legible : ∀ inner ∈ model.walk, inner.IsLegible)
    (legible' : ∀ inner ∈ other.walk, inner.IsLegible)
    (same : g.sourceOfModel model = g.sourceOfModel other) :
    model.lines g.style false = other.lines g.style false := by
  have onLines : ∀ {model : ClassModel}, (∀ inner ∈ model.walk, inner.IsLegible) →
      ∀ line ∈ importLines (g.importsFor (g.definition model)) ++ model.lines g.style false,
        lineFeed ∉ line := by
    intro model legible
    rw [List.forall_mem_append]
    exact ⟨fun line listed => (isSilent_of_mem_importLines _ line listed).noLineFeed,
      ClassModel.lineFeed_not_mem_lines model false legible⟩
  rw [sourceOfModel_eq_textOfLines, sourceOfModel_eq_textOfLines] at same
  have cut := congrArg (Text.cutAt lineFeed) (List.append_cancel_left same)
  rw [← List.append_nil (textOfLines _), cutAt_textOfLines_append (onLines legible),
    ← List.append_nil (textOfLines _), cutAt_textOfLines_append (onLines legible')] at cut
  exact ((partsAt_imports _ g.style model).unique (partsAt_imports _ g.style other)
    (List.append_cancel_right cut)).2

end

/-- Where keys are written down, class trees that come out of syntheses and have one source have one
class model: the same classes at every depth and in the same order, each with the same annotations
and the same fields with their Java names, key literals and types. -/
theorem source_determines_model (g : Generator) (jackson : g.jackson = true) (o o' : Options)
    (document document' : Json) (className className' : Option Text) (spec spec' : ClassSpec)
    (text : Text) (success : synthesizeFresh o document className = .ok spec)
    (success' : synthesizeFresh o' document' className' = .ok spec')
    (sourced : g.source spec = .ok text) (sourced' : g.source spec' = .ok text) :
    ∃ model, g.model spec = .ok model ∧ g.model spec' = .ok model := by
  obtain ⟨model, modelled, written⟩ := exists_model_of_source sourced
  obtain ⟨other, modelled', written'⟩ := exists_model_of_source sourced'
  have legible := isLegible_of_synthesizeFresh success modelled
  have legible' := isLegible_of_synthesizeFresh success' modelled'
  have sameLines := lines_eq_of_sourceOfModel_eq legible legible' (written.symm.trans written')
  have writesKeys : g.style.jackson = true := jackson
  have sameModel := (eq_of_lines_append_eq writesKeys model other false [] [] legible legible'
    (congrArg (· ++ []) sameLines)).1
  exact ⟨model, modelled, sameModel ▸ modelled'⟩

/-- A key of one code point above U+FFFF. -/
def pointKey : Text := [CodePoint.ofNumber 0x1F600]

/-- The surrogate pair that stands for this code point, as two code points. -/
def pairKey : Text := [CodePoint.ofNumber 0xD83D, CodePoint.ofNumber 0xDE00]

/-- A document with an object behind an array, under either key. -/
def moodDocument (key : Text) : Json :=
  .object [(key, .string "glad"), ("log", .array [.object [(key, .integer 1)]])]

def moodSpec (fieldName key : Text) : ClassSpec :=
  ⟨"Mood", [⟨fieldName, .primitive .string, key⟩, ⟨"log", .list (.reference "MoodLog"), "log"⟩],
    [⟨"MoodLog", [⟨fieldName, .primitive .int, key⟩], []⟩]⟩

def moodModel (keyLiteral : Text) : ClassModel :=
  ⟨"Mood", [], [⟨"__", keyLiteral, "String"⟩, ⟨"log", Text.literal "log", "List<MoodLog>"⟩],
    [⟨"MoodLog", [], [⟨"__", keyLiteral, "int"⟩], []⟩]⟩

/-- Trees with different keys and different fields have one source where the keys have one literal
and a reserved word is lengthened to the other name; and so they have one class model. -/
theorem moods_share_model :
    synthesizeFresh .default (moodDocument pointKey) (some "Mood") =
        .ok (moodSpec "_" pointKey) ∧
      synthesizeFresh .default (moodDocument pairKey) (some "Mood") =
        .ok (moodSpec "__" pairKey) ∧
      plainGenerator.source (moodSpec "_" pointKey) =
        plainGenerator.source (moodSpec "__" pairKey) ∧
      ∃ model, plainGenerator.model (moodSpec "_" pointKey) = .ok model ∧
        plainGenerator.model (moodSpec "__" pairKey) = .ok model := by
  have ofPoint : synthesizeFresh .default (moodDocument pointKey) (some "Mood") =
      .ok (moodSpec "_" pointKey) := by
    decide +kernel
  have ofPair : synthesizeFresh .default (moodDocument pairKey) (some "Mood") =
      .ok (moodSpec "__" pairKey) := by
    decide +kernel
  have sameLiteral : pointKey.literal = pairKey.literal := by decide +kernel
  have ofModel : ∀ spec, plainGenerator.model spec = .ok (moodModel pointKey.literal) →
      plainGenerator.source spec =
        .ok (plainGenerator.sourceOfModel (moodModel pointKey.literal)) :=
    fun _ modelled => congrArg (Except.map plainGenerator.sourceOfModel) modelled
  have sourceOfPoint := ofModel (moodSpec "_" pointKey) rfl
  have sourceOfPair := ofModel (moodSpec "__" pairKey) (by rw [sameLiteral]; rfl)
  exact ⟨ofPoint, ofPair, sourceOfPoint.trans sourceOfPair.symm,
    source_determines_model plainGenerator rfl .default .default (moodDocument pointKey)
      (moodDocument pairKey) (some "Mood") (some "Mood") (moodSpec "_" pointKey)
      (moodSpec "__" pairKey) _ ofPoint ofPair sourceOfPoint sourceOfPair⟩

end ClassSynth.Java
