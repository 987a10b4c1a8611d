import ClassSynth.Inference.Session
import ClassSynth.Proofs.Inference.KeyOrder

/-!
# Names over a session

The table of issued names is shared by all requests of a session.  A walk only ever issues names
that are free, so it keeps the table in order however it ends; and where it comes to a class, the
names it has issued are those of the class, a class before the classes nested in it.  Only a
synthesis that gets as far as its document begins with an empty table.

The main statements are what a request leaves of the table after any requests before it, and that
a synthesis answers as if there had been none.
-/

set_option autoImplicit false

namespace ClassSynth

/-! ## Tables that grow -/

namespace NameTable

/-- Whether every name is under its case folding and no two names agree without regard to case. -/
structure IsKept (table : NameTable) : Prop where
  folded : ∀ entry ∈ table, entry.1 = entry.2.fold
  distinct : (table.map Prod.fst).Nodup

/-- Whether one table becomes another by issuing names that are free. -/
def Grows (table after : NameTable) : Prop :=
  ∃ names, table.Free names ∧ after = table.issueAll names

variable {table middle after : NameTable}

theorem Grows.refl (table : NameTable) : table.Grows table :=
  ⟨[], table.free_nil, table.issueAll_nil.symm⟩

theorem Grows.trans (former : table.Grows middle) (latter : middle.Grows after) :
    table.Grows after := by
  obtain ⟨first, firstFree, rfl⟩ := former
  obtain ⟨second, secondFree, rfl⟩ := latter
  exact ⟨first ++ second, (free_append_iff table first second).mpr ⟨firstFree, secondFree⟩,
    (table.issueAll_append first second).symm⟩

theorem Grows.of_reserve {name path : Text} (reserved : table.reserve name path = .ok after) :
    table.Grows after := by
  obtain ⟨untaken, rfl⟩ := untaken_of_reserve reserved
  refine ⟨[name], (table.free_cons_iff name []).mpr ⟨untaken, free_nil _⟩, ?_⟩
  rw [issueAll_cons, issueAll_nil]

theorem Grows.isPrefix (grows : table.Grows after) : table <+: after := by
  obtain ⟨names, -, rfl⟩ := grows
  exact List.prefix_append _ _

theorem isKept_nil : IsKept [] := ⟨by simp, List.nodup_nil⟩

theorem IsKept.grows (kept : table.IsKept) (grows : table.Grows after) : after.IsKept := by
  obtain ⟨names, free, rfl⟩ := grows
  constructor
  · intro entry present
    rcases List.mem_append.mp present with before | issued
    · exact kept.folded entry before
    · obtain ⟨name, -, rfl⟩ := List.mem_map.mp issued
      rfl
  · have keys : (table.issueAll names).map Prod.fst =
        table.map Prod.fst ++ names.map Text.fold := by
      simp [issueAll]
    rw [keys, List.nodup_append]
    refine ⟨kept.distinct, free.distinct, ?_⟩
    rintro key before _ issued rfl
    obtain ⟨name, given, rfl⟩ := List.mem_map.mp issued
    exact (table.isTaken_eq_false_iff name).mp (free.untaken name given) before

end NameTable

/-! ## Walks from any table -/

section

variable (o : Options)

-- By induction on the value: what stands before a failure has only issued names, too.
mutual

theorem grows_infer : (value : Json) → (owner hint path : Text) → (depth : Int) →
    (names : NameTable) → names.Grows (infer o owner hint path depth value names).2
  | .null, _, _, _, _, names | .bool _, _, _, _, _, names | .integer _, _, _, _, _, names
  | .number _, _, _, _, _, names | .string _, _, _, _, _, names | .foreign _, _, _, _, _, names =>
    .refl names
  | .array items, owner, hint, path, depth, names => by
    rw [infer]
    cases o.checkDepth (depth + 1) path with
    | error e => exact .refl names
    | ok passed => exact grows_inferItems items owner hint path (depth + 1) names
  | .object members, owner, hint, path, depth, names => by
    rw [infer]
    cases o.checkDepth (depth + 1) path with
    | error e => exact .refl names
    | ok passed =>
      dsimp only
      cases reserved : names.reserve (o.nestedName owner hint members) path with
      | error e => exact .refl names
      | ok issued =>
        have below := grows_buildClass members path (depth + 1)
          (.start (o.nestedName owner hint members)) issued
        dsimp only
        cases built : buildClass o path (depth + 1) (.start (o.nestedName owner hint members))
            members issued with
        | mk outcome after =>
          rw [built] at below
          cases outcome <;> exact (NameTable.Grows.of_reserve reserved).trans below

theorem grows_inferItems : (items : List Json) → (owner hint path : Text) → (depth : Int) →
    (names : NameTable) → names.Grows (inferItems o owner hint path depth items names).2
  | [], _, _, _, _, names => by
    rw [inferItems]
    cases o.emptyArrays <;> exact .refl names
  | first :: _, owner, hint, path, depth, names => by
    have below := grows_infer first owner hint (Step.firstItem.below path) depth names
    rw [inferItems]
    cases inferred : infer o owner hint (Step.firstItem.below path) depth first names with
    | mk outcome after =>
      rw [inferred] at below
      cases outcome <;> exact below

theorem grows_buildClass : (members : List (Text × Json)) → (path : Text) → (depth : Int) →
    (builder : ClassBuilder) → (names : NameTable) →
    names.Grows (buildClass o path depth builder members names).2
  | [], _, _, _, names => .refl names
  | (key, value) :: rest, path, depth, builder, names => by
    have first := grows_infer value builder.name key ((Step.member key).below path) depth names
    rw [buildClass]
    dsimp only
    split
    · exact .refl names
    · cases inferred : infer o builder.name key ((Step.member key).below path) depth value
          names with
      | mk outcome after =>
        rw [inferred] at first
        cases outcome with
        | error e => exact first
        | ok found =>
          exact first.trans (grows_buildClass rest path depth
            ((builder.addNested found.nested).addField ⟨key.sanitize, found.type, key⟩) after)

end

theorem walkAll_map_name_eq_flatMap (specs : List ClassSpec) :
    (ClassOver.walkAll specs).map ClassOver.name = specs.flatMap ClassOver.classNames := by
  rw [ClassSpec.walkAll_eq_flatMap, List.map_flatMap]
  rfl

theorem infer_eq_of_success {value : Json} {owner hint path : Text} {depth : Int}
    {names after : NameTable} {found : Inferred}
    (success : infer o owner hint path depth value names = (.ok found, after)) :
    found = .ofValue o.nestedNaming owner hint value ∧
      after = names.issueAll (value.classNames o.nestedNaming owner hint) := by
  obtain ⟨admitted, free⟩ :=
    admitted_of_infer o value owner hint path depth names after found success
  have result := infer_of_admitted o value owner hint path depth names admitted free
  obtain ⟨sameFound, sameAfter⟩ := Prod.mk.inj (success.symm.trans result)
  exact ⟨Except.ok.inj sameFound, sameAfter⟩

/-- What an inference finds tells the names it has issued: those of the class it built, which is the
one that the type refers to. -/
theorem names_of_infer {value : Json} {owner hint path : Text} {depth : Int}
    {names after : NameTable} {found : Inferred}
    (success : infer o owner hint path depth value names = (.ok found, after)) :
    found.nested.map ClassOver.name = found.type.reference?.toList ∧
      after = names.issueAll (found.nested.flatMap ClassOver.classNames) := by
  obtain ⟨rfl, rfl⟩ := infer_eq_of_success o success
  constructor
  · rw [Inferred.ofValue, Json.reference?_fieldType, Json.classes_eq]
    cases value.heldObject? <;> rfl
  · rw [← walkAll_map_name_eq_flatMap, Inferred.ofValue, names_walkAll_classes]

theorem names_of_synthesizeClass {members : List (Text × Json)} {name path : Text} {depth : Int}
    {names after : NameTable} {spec : ClassSpec}
    (success : synthesizeClass o name path depth members names = (.ok spec, after)) :
    after = names.issueAll spec.classNames.tail := by
  obtain ⟨admitted, accepts, free⟩ :=
    admitted_of_buildClass o members path depth (.start name) names after spec success
  have result := buildClass_of_admitted o members path depth (.start name) names admitted accepts
    free
  rw [ClassBuilder.build_visit_start] at result
  obtain ⟨sameSpec, sameAfter⟩ := Prod.mk.inj (success.symm.trans result)
  obtain rfl := Except.ok.inj sameSpec
  rw [sameAfter, classNames_ofObject]
  rfl

theorem names_of_synthesize {document : Json} {className : Option Text} {names after : NameTable}
    {spec : ClassSpec} (success : synthesize o document className names = (.ok spec, after)) :
    after = .issueAll [] spec.classNames := by
  obtain ⟨root, members, -, -, -, -, rfl, rfl⟩ :=
    (synthesize_eq_ok_iff o document className names after spec).mp success
  rw [classNames_ofObject]

end

/-! ## Requests -/

/-- Whether a request forgets the names issued before it, as a synthesis does for an object under an
identifier. -/
def Request.forgets : Request → Bool
  | .synthesize (.object _) (some name) => name.isIdentifier
  | _ => false

section

variable {document : Json} {className : Option Text}

theorem exists_of_forgets (forgets : (Request.synthesize document className).forgets = true) :
    ∃ name members, className = some name ∧ document = .object members ∧
      name.isIdentifier = true := by
  cases className with
  | none => cases document <;> cases forgets
  | some name =>
    cases document with
    | object members => exact ⟨name, members, rfl, rfl, forgets⟩
    | _ => cases forgets

/-- A synthesis that gets past its first two checks comes to the same from any table. -/
theorem synthesize_of_forgets (forgets : (Request.synthesize document className).forgets = true)
    (o : Options) (names : NameTable) :
    synthesize o document className names = synthesize o document className [] := by
  obtain ⟨name, members, rfl, rfl, identifier⟩ := exists_of_forgets forgets
  simp only [synthesize, identifier, if_true]

theorem synthesize_of_keeps (keeps : (Request.synthesize document className).forgets = false)
    (o : Options) :
    ∃ e, ∀ names, synthesize o document className names = (.error e, names) := by
  cases className with
  | none => exact ⟨_, fun _ => rfl⟩
  | some name =>
    cases identifier : name.isIdentifier with
    | false => exact ⟨.invalidClassName (some name), fun _ => by simp [synthesize, identifier]⟩
    | true =>
      cases document with
      | object members => exact absurd (identifier.symm.trans keeps) (by decide)
      | _ => exact ⟨_, fun _ => by simp only [synthesize, identifier, if_true]; rfl⟩

/-- A synthesis that gets past its first two checks issues names from an empty table on. -/
theorem grows_synthesize (forgets : (Request.synthesize document className).forgets = true)
    (o : Options) (names : NameTable) :
    NameTable.Grows [] (synthesize o document className names).2 := by
  obtain ⟨name, members, rfl, rfl, identifier⟩ := exists_of_forgets forgets
  have reserved : NameTable.reserve [] name rootPath = .ok (.issue [] name) := rfl
  have below := grows_buildClass o.withinRoom members rootPath 0 (.start name) (.issue [] name)
  rw [← synthesizeClass] at below
  simp only [synthesize, identifier, if_true]
  cases built : synthesizeClass o.withinRoom name rootPath 0 members (.issue [] name) with
  | mk outcome after =>
    rw [built] at below
    cases outcome <;> exact (NameTable.Grows.of_reserve reserved).trans below

end

namespace Session

/-- What a request that has been answered leaves of the names.  One that builds classes has issued
their names, each before those of the classes nested in it, up to the name that a class is asked for
under. -/
def Leaves (s next : Session) : Request → Reply → Prop
  | .synthesize _ _, .spec spec => next.names = .issueAll [] spec.classNames
  | .synthesizeClass _ _ _ _, .spec spec => next.names = s.names.issueAll spec.classNames.tail
  | .infer _ _ _ _, .type type =>
    ∃ built : List ClassSpec, built.map ClassOver.name = type.reference?.toList ∧
      next.builder = s.builder.addNested (built.map ClassOver.draft) ∧
      next.names = s.names.issueAll (built.flatMap ClassOver.classNames)
  | .synthesizeNested _ _ _ _, .name name =>
    ∃ built : ClassSpec, built.name = name ∧ next.builder = s.builder.addNested [built.draft] ∧
      next.names = s.names.issueAll built.classNames
  | .reserve name _, .done => next.names = s.names.issue name
  -- No reply of another kind is given to these requests.
  | .synthesize _ _, _ | .synthesizeClass _ _ _ _, _ | .infer _ _ _ _, _
  | .synthesizeNested _ _ _ _, _ | .reserve _ _, _ => False
  | _, _ => next.names = s.names

theorem grows_infer (s : Session) (value : Json) (hint path : Text) (depth : Int) :
    s.names.Grows (s.infer value hint path depth).2.names := by
  have grows := ClassSynth.grows_infer s.options value s.builder.name hint path depth s.names
  rw [infer]
  cases inferred : ClassSynth.infer s.options s.builder.name hint path depth value s.names with
  | mk outcome names =>
    rw [inferred] at grows
    cases outcome <;> exact grows

theorem grows_beginNested (s : Session) (value : Json) (hint path : Text) (depth : Int) :
    s.names.Grows (s.beginNested value hint path depth).2.names := by
  rw [beginNested]
  split
  · exact .refl _
  · split
    · exact .refl _
    · split
      · exact .refl _
      · rename_i reserved
        exact .of_reserve reserved

/-- A request that does not forget the names only issues further ones, also when it fails. -/
theorem grows_perform (s : Session) (request : Request) (keeps : request.forgets = false) :
    s.names.Grows (s.perform request).2.names := by
  cases request with
  | synthesize document className =>
    obtain ⟨e, refused⟩ := synthesize_of_keeps keeps s.options
    rw [perform, refused]
    exact .refl _
  | infer value hint path depth => exact s.grows_infer value hint path depth
  | synthesizeClass value name path depth =>
    cases value with
    | object members => exact grows_buildClass s.options members path depth (.start name) s.names
    | _ => exact .refl _
  | synthesizeNested value hint path depth =>
    cases value with
    | object members => exact s.grows_infer (.object members) hint path (depth - 1)
    | _ => exact s.grows_beginNested _ hint path depth
  | reserve name path =>
    rw [perform]
    cases reserved : s.names.reserve name path with
    | error e => exact .refl _
    | ok names => exact .of_reserve reserved
  | begin _ | addField _ | hasField _ | addNested _ | build | nestedName _ _ _ | checkDepth _ _ =>
    exact .refl _

theorem isKept_perform {s : Session} (kept : s.names.IsKept) (request : Request) :
    (s.perform request).2.names.IsKept := by
  cases forgets : request.forgets with
  | false => exact kept.grows (s.grows_perform request forgets)
  | true =>
    cases request with
    | synthesize document className =>
      exact NameTable.isKept_nil.grows (grows_synthesize forgets s.options s.names)
    | _ => cases forgets

theorem isKept_run {s : Session} (kept : s.names.IsKept) (requests : List Request) :
    (s.run requests).2.names.IsKept := by
  induction requests generalizing s with
  | nil => exact kept
  | cons request rest ih => exact ih (isKept_perform kept request)

theorem leaves_infer {s next : Session} {value : Json} {hint path : Text} {depth : Int}
    {type : FieldType} (inferred : s.infer value hint path depth = (.ok type, next)) :
    s.Leaves next (.infer value hint path depth) (.type type) := by
  rw [infer] at inferred
  cases walked : ClassSynth.infer s.options s.builder.name hint path depth value s.names with
  | mk outcome names =>
    rw [walked] at inferred
    cases outcome with
    | error e => cases inferred
    | ok found =>
      cases inferred
      obtain ⟨refers, after⟩ := names_of_infer s.options walked
      exact ⟨found.nested, refers, rfl, after⟩

theorem type_of_infer_object {s next : Session} {members : List (Text × Json)} {hint path : Text}
    {depth : Int} {type : FieldType}
    (inferred : s.infer (.object members) hint path depth = (.ok type, next)) :
    ∃ className, type = .reference className := by
  rw [infer] at inferred
  cases walked : ClassSynth.infer s.options s.builder.name hint path depth (.object members)
      s.names with
  | mk outcome names =>
    rw [walked] at inferred
    cases outcome with
    | error e => cases inferred
    | ok found =>
      cases inferred
      obtain ⟨rfl, -⟩ := infer_eq_of_success s.options walked
      exact ⟨_, rfl⟩

theorem exists_of_answer {α : Type} {outcome : Except SynthesisError α} {report : α → Reply}
    {reply : Reply} (answered : (outcome.mapError RequestError.synthesis).map report = .ok reply) :
    ∃ value, outcome = .ok value ∧ report value = reply := by
  cases outcome with
  | error e => cases answered
  | ok value => exact ⟨value, rfl, Except.ok.inj answered⟩

theorem leaves_perform {s : Session} {request : Request} {reply : Reply}
    (answered : (s.perform request).1 = .ok reply) :
    s.Leaves (s.perform request).2 request reply := by
  cases request with
  | synthesize document className =>
    obtain ⟨spec, outcome, rfl⟩ := exists_of_answer answered
    exact names_of_synthesize s.options (Prod.ext outcome rfl)
  | infer value hint path depth =>
    obtain ⟨type, outcome, rfl⟩ := exists_of_answer answered
    exact leaves_infer (Prod.ext outcome rfl)
  | synthesizeClass value name path depth =>
    cases value with
    | object members =>
      obtain ⟨spec, outcome, rfl⟩ := exists_of_answer answered
      exact names_of_synthesizeClass s.options (Prod.ext outcome rfl)
    | _ => cases answered
  | synthesizeNested value hint path depth =>
    cases value with
    | object members =>
      obtain ⟨type, outcome, rfl⟩ := exists_of_answer answered
      have inferred : s.infer (.object members) hint path (depth - 1) = (.ok type, _) :=
        Prod.ext outcome rfl
      obtain ⟨className, rfl⟩ := type_of_infer_object inferred
      obtain ⟨built, refers, builder, names⟩ := leaves_infer inferred
      obtain ⟨spec, rfl, named⟩ := List.map_eq_singleton_iff.mp refers
      exact ⟨spec, named, builder, names.trans (by rw [List.flatMap_singleton])⟩
    | _ => cases answered
  | reserve name path =>
    rw [perform] at answered ⊢
    cases reserved : s.names.reserve name path with
    | error e =>
      rw [reserved] at answered
      cases answered
    | ok names =>
      rw [reserved] at answered
      cases answered
      exact (NameTable.untaken_of_reserve reserved).2
  | nestedName value owner hint =>
    cases named : s.options.nestedNameOf owner hint value with
    | error e =>
      rw [perform, named] at answered
      cases answered
    | ok name =>
      rw [perform, named] at answered
      cases answered
      rfl
  | checkDepth depth path =>
    obtain ⟨-, -, rfl⟩ := exists_of_answer answered
    rfl
  | begin _ | addField _ | hasField _ | addNested _ | build =>
    cases answered
    rfl

/-- The session that requests lead to. -/
def reached (o : Options) (requests : List Request) : Session := ((start o).run requests).2

/-- Whatever has been asked before, a request leaves every name under its case folding and no two
alike; unless it is a synthesis that forgets the names, it leaves those that were there in front,
also when it fails; and an answer tells which names it has issued behind them, in order. -/
theorem names_after_request (o : Options) (history : List Request) (request : Request) :
    let before := reached o history
    let after := (before.perform request).2
    before.names.IsKept ∧ after.names.IsKept ∧
      (request.forgets = false → before.names <+: after.names) ∧
      ∀ reply, (before.perform request).1 = .ok reply → before.Leaves after request reply := by
  intro before after
  have kept : before.names.IsKept := isKept_run NameTable.isKept_nil history
  refine ⟨kept, isKept_perform kept request, ?_, fun reply answered => leaves_perform answered⟩
  exact fun keeps => (before.grows_perform request keeps).isPrefix

-- A failure in the middle of a class leaves the names issued up to it.
example :
    let s := reached ⟨9, .refuse, .byField, defaultRoom⟩ [.reserve "Log" rootPath]
    let value : Json := .object [("a", .object []), ("b", .array []), ("c", .object [])]
    (s.perform (.infer value "log" rootPath 0)).2.names =
      .issueAll [] ["Log", "RootLog", "RootLogA"] := by
  decide +kernel

theorem options_infer (s : Session) (value : Json) (hint path : Text) (depth : Int) :
    (s.infer value hint path depth).2.options = s.options := by
  rw [infer]
  split <;> rfl

theorem options_beginNested (s : Session) (value : Json) (hint path : Text) (depth : Int) :
    (s.beginNested value hint path depth).2.options = s.options := by
  rw [beginNested]
  split
  · rfl
  · split
    · rfl
    · split <;> rfl

theorem options_perform (s : Session) (request : Request) :
    (s.perform request).2.options = s.options := by
  cases request with
  | infer value hint path depth => exact s.options_infer value hint path depth
  | synthesizeClass value name path depth => cases value <;> rfl
  | synthesizeNested value hint path depth =>
    cases value with
    | object members => exact s.options_infer (.object members) hint path (depth - 1)
    | _ => exact s.options_beginNested _ hint path depth
  | reserve name path =>
    rw [perform]
    split <;> rfl
  | synthesize _ _ | begin _ | addField _ | hasField _ | addNested _ | build | nestedName _ _ _
  | checkDepth _ _ => rfl

theorem options_run (s : Session) (requests : List Request) :
    (s.run requests).2.options = s.options := by
  induction requests generalizing s with
  | nil => rfl
  | cons request rest ih => exact (ih (s.perform request).2).trans (s.options_perform request)

/-- Whatever has been asked before, a synthesis answers like the first request of a session with the
same options, and if it forgets the names it leaves the same names, too. -/
theorem synthesize_has_no_memory (o : Options) (history : List Request) (document : Json)
    (className : Option Text) :
    let late := (reached o history).perform (.synthesize document className)
    let first := (start o).perform (.synthesize document className)
    late.1 = first.1 ∧
      ((Request.synthesize document className).forgets = true → late.2.names = first.2.names) := by
  have options : (reached o history).options = o := options_run (start o) history
  have fresh : (start o).options = o ∧ (start o).names = [] := ⟨rfl, rfl⟩
  simp only [perform, options, fresh]
  cases forgets : (Request.synthesize document className).forgets with
  | true =>
    rw [synthesize_of_forgets forgets o (reached o history).names]
    exact ⟨rfl, fun _ => rfl⟩
  | false =>
    obtain ⟨e, refused⟩ := synthesize_of_keeps forgets o
    rw [refused (reached o history).names, refused []]
    exact ⟨rfl, fun forgotten => nomatch forgotten⟩

end Session

end ClassSynth
