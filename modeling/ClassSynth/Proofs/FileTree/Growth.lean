import ClassSynth.FileTree.Operation
import ClassSynth.Proofs.FileTree.Place

/-!
# What operations leave of a file tree

Making directories and writing files takes nothing away.  Directories stay, what appears as a
directory was nothing before, and only what is written gets other content.  So a path that could be
followed can still be, and it leads to the same place.  The main statements are those on the single
operations, which say where they change a tree, and that what has been written can be read.
-/

set_option autoImplicit false

namespace ClassSynth.FileTree

/-- What can become of what stands at a location that may be written, or made a directory. -/
inductive Becomes (written made : Prop) : Option Node → Option Node → Prop where
  | kept (node : Option Node) : Becomes written made node node
  | made (allowed : made) : Becomes written made none (some .directory)
  | written (allowed : written) (old : Option Node) (noDirectory : old ≠ some .directory)
      (content : Bytes) : Becomes written made old (some (.file content))

/-- Whether a tree comes from another by writing some locations and making others directories. -/
structure Grows (written made : Location → Prop) (before after : FileTree) : Prop where
  here : after.workingDirectory = before.workingDirectory
  becomes : ∀ location, Becomes (written location) (made location) (before.node? location)
    (after.node? location)

/-- No location at all. -/
def nowhere : Location → Prop := fun _ => False

section

variable {written made : Location → Prop} {before mid after : FileTree}

theorem Grows.refl (tree : FileTree) : Grows written made tree tree :=
  ⟨rfl, fun _ => .kept _⟩

theorem Becomes.trans {w m : Prop} {first second third : Option Node}
    (one : Becomes w m first second)
    (two : Becomes w m second third) : Becomes w m first third := by
  cases one with
  | kept => exact two
  | made allowed =>
    cases two with
    | kept => exact .made allowed
    | written _ _ noDirectory _ => exact absurd rfl noDirectory
  | written allowed _ noDirectory content =>
    cases two with
    | kept => exact .written allowed _ noDirectory content
    | written _ _ _ later => exact .written allowed _ noDirectory later

theorem Grows.trans (first : Grows written made before mid)
    (second : Grows written made mid after) :
    Grows written made before after :=
  ⟨second.here.trans first.here, fun location =>
    (first.becomes location).trans (second.becomes location)⟩

theorem Becomes.mono {w m w' m' : Prop} {old new : Option Node} (toWrite : w → w') (toMake : m → m')
    (becomes : Becomes w m old new) : Becomes w' m' old new := by
  cases becomes with
  | kept => exact .kept _
  | made allowed => exact .made (toMake allowed)
  | written allowed _ noDirectory content =>
    exact .written (toWrite allowed) _ noDirectory content

theorem Grows.mono {written' made' : Location → Prop} (grows : Grows written made before after)
    (toWrite : ∀ location, written location → written' location)
    (toMake : ∀ location, made location → made' location) : Grows written' made' before after :=
  ⟨grows.here, fun location => (grows.becomes location).mono (toWrite location) (toMake location)⟩

/-! ## What stays -/

variable (grows : Grows written made before after)

include grows

theorem Grows.directory {location : Location} (node : before.node? location = some .directory) :
    after.node? location = some .directory := by
  have becomes := grows.becomes location
  rw [node] at becomes
  generalize after.node? location = new at becomes
  cases becomes with
  | kept => rfl
  | written _ _ noDirectory _ => exact absurd rfl noDirectory

theorem Grows.of_untouched (location : Location) (untouched : ¬ written location) :
    after.node? location = before.node? location ∨
      (made location ∧ before.node? location = none ∧
        after.node? location = some .directory) := by
  have becomes := grows.becomes location
  generalize before.node? location = old at becomes
  generalize after.node? location = new at becomes
  cases becomes with
  | kept => exact .inl rfl
  | made allowed => exact .inr ⟨allowed, rfl, rfl⟩
  | written allowed => exact absurd allowed untouched

theorem Grows.stays {location : Location} (untouched : ¬ written location) {node : Node}
    (there : before.node? location = some node) : after.node? location = some node := by
  rcases grows.of_untouched location untouched with kept | ⟨-, absent, -⟩
  · rw [kept, there]
  · rw [there] at absent
    cases absent

theorem Grows.follow (parts : List Text) : ∀ {here location : Location},
    before.follow here parts = .ok location → after.follow here parts = .ok location := by
  induction parts with
  | nil => exact fun followed => followed
  | cons part rest ih =>
    intro here location followed
    rw [FileTree.follow] at followed ⊢
    cases node : before.node? here with
    | none => simp [node] at followed
    | some found =>
      cases found with
      | file content => simp [node] at followed
      | directory =>
        -- Growing leaves a directory one, so the same case of the step is taken.
        rw [node] at followed
        rw [grows.directory node]
        simp only at followed ⊢
        by_cases idle : (part.isEmpty || decide (part = [Path.dot])) = true
        · rw [if_pos idle] at followed ⊢
          exact ih followed
        · rw [if_neg idle] at followed ⊢
          by_cases parent : part = Path.parentName
          · rw [if_pos parent] at followed ⊢
            exact ih followed
          · rw [if_neg parent] at followed ⊢
            by_cases long : FileName.maxLength < (FileName.ofText part).length
            · rw [if_pos long] at followed
              cases followed
            · rw [if_neg long] at followed ⊢
              exact ih followed

theorem Grows.locate {path : Text} {location : Location}
    (located : before.locate path = .ok location) : after.locate path = .ok location := by
  rw [FileTree.locate] at located ⊢
  rw [grows.here]
  by_cases empty : path.isEmpty = true
  · rw [if_pos empty] at located
    cases located
  · rw [if_neg empty] at located ⊢
    by_cases long : maxPathLength < (ByteEscape.encode path).length
    · rw [if_pos long] at located
      cases located
    · rw [if_neg long] at located ⊢
      exact grows.follow _ located

end

/-! ## Reading -/

theorem read_eq_ok_iff {tree : FileTree} {path : Text} {content : Bytes} :
    tree.read path = .ok content ↔ checkPath path = .ok () ∧
      ∃ location, tree.locate path = .ok location ∧
        tree.node? location = some (.file content) := by
  rw [read]
  cases checked : checkPath path with
  | error e => simp
  | ok accepted =>
    cases located : tree.locate path with
    | error fault => simp
    | ok location =>
      cases node : tree.node? location with
      | none => simp [node]
      | some found => cases found <;> simp [node]

theorem Grows.read {written made : Location → Prop} {before after : FileTree}
    (grows : Grows written made before after) {path : Text} {content : Bytes}
    (untouched : ¬ written (Location.ofPath before.workingDirectory path))
    (held : before.read path = .ok content) : after.read path = .ok content := by
  obtain ⟨checked, location, located, node⟩ := read_eq_ok_iff.mp held
  rw [← Location.eq_of_locate located] at untouched
  exact read_eq_ok_iff.mpr ⟨checked, location, grows.locate located, grows.stays untouched node⟩

/-- What is looked up for a path that can be followed is what stands at its place. -/
theorem has_eq_isSome {tree : FileTree} {path : Text} {location : Location}
    (checked : checkPath path = .ok ()) (located : tree.locate path = .ok location) :
    tree.has path = (tree.node? location).isSome := by
  rw [has, nodeAt?, checked, located]

theorem exists_of_has {tree : FileTree} {path : Text} (present : tree.has path = true) :
    ∃ node, tree.node? (Location.ofPath tree.workingDirectory path) = some node := by
  rw [has, nodeAt?] at present
  split at present
  · rename_i location checked located
    rw [Location.eq_of_locate located] at present
    exact Option.isSome_iff_exists.mp present
  · cases present

/-! ## Putting a node -/

theorem node?_putNode (location : Location) (node : Node) (nodes : List (Location × Node))
    (other : Location) :
    ((putNode location node nodes).find? fun entry => decide (entry.1 = other)).map Prod.snd =
      if other = location then some node
      else (nodes.find? fun entry => decide (entry.1 = other)).map Prod.snd := by
  induction nodes with
  | nil => by_cases same : location = other <;> simp [putNode, same, eq_comm]
  | cons entry rest ih =>
    obtain ⟨place, old⟩ := entry
    by_cases present : place = location
    · subst present
      by_cases same : place = other
      · simp [putNode, same]
      · simp [putNode, same, Ne.symm same]
    · rw [putNode, if_neg present]
      by_cases here : place = other
      · subst here
        simp [present]
      · rw [List.find?_cons_of_neg (by simpa using here), ih,
          List.find?_cons_of_neg (by simpa using here)]

theorem node?_put {tree : FileTree} {location : Location} (node : Node) (belowRoot : location ≠ [])
    (other : Location) :
    (tree.put location node).node? other =
      if other = location then some node else tree.node? other := by
  cases other with
  | nil => rw [if_neg (Ne.symm belowRoot)]; rfl
  | cons name names => exact node?_putNode location node tree.nodes (name :: names)

theorem ne_nil_of_node? {tree : FileTree} {location : Location}
    (noDirectory : tree.node? location ≠ some .directory) : location ≠ [] := by
  rintro rfl
  exact noDirectory rfl

theorem grows_put_directory {tree : FileTree} {location : Location}
    (free : tree.node? location = none) :
    Grows nowhere (fun place => place = location) tree (tree.put location .directory) := by
  have belowRoot : location ≠ [] := by
    apply ne_nil_of_node?
    rw [free]
    exact fun same => nomatch same
  refine ⟨rfl, ?_⟩
  intro place
  rw [node?_put _ belowRoot]
  by_cases here : place = location
  · rw [if_pos here, here, free]
    exact .made rfl
  · rw [if_neg here]
    exact .kept _

theorem grows_put_file {tree : FileTree} {location : Location}
    (noDirectory : tree.node? location ≠ some .directory) (content : Bytes) :
    Grows (fun place => place = location) nowhere tree (tree.put location (.file content)) := by
  refine ⟨rfl, ?_⟩
  intro place
  rw [node?_put _ (ne_nil_of_node? noDirectory)]
  by_cases here : place = location
  · rw [if_pos here, here]
    exact .written rfl _ noDirectory content
  · rw [if_neg here]
    exact .kept _

/-! ## Writing -/

section

variable {tree after : FileTree} {path : Text} {content : Bytes}

theorem locate_of_locateForWriting {location : Location}
    (located : tree.locateForWriting path = .ok location) :
    checkPath path = .ok () ∧ tree.locate path = .ok location ∧
      tree.node? location ≠ some .directory := by
  rw [locateForWriting] at located
  cases checked : checkPath path with
  | error e => simp [checked] at located
  | ok accepted =>
    simp only [checked] at located
    split at located
    · cases located
    · rename_i place found
      split at located
      · cases located
      · rename_i allowed
        rw [Except.ok.injEq] at located
        subst located
        simp only [Bool.or_eq_true, decide_eq_true_eq, not_or] at allowed
        -- A path that does not end in slashes is looked up as it is.
        have untrimmed : Text.trimRight (· = Path.slash) path = path := by
          apply (Path.prefix_trimRight path).eq_of_length_le
          omega
        rw [untrimmed, ite_self] at found
        exact ⟨rfl, found, allowed.2⟩

/-- What a write that succeeds has done. -/
theorem write_eq_ok (written : tree.write path content = .ok after) :
    checkPath path = .ok () ∧
      tree.locate path = .ok (Location.ofPath tree.workingDirectory path) ∧
      tree.node? (Location.ofPath tree.workingDirectory path) ≠ some .directory ∧
      after = tree.put (Location.ofPath tree.workingDirectory path) (.file content) := by
  rw [write] at written
  cases located : tree.locateForWriting path with
  | error e => simp [located] at written
  | ok location =>
    simp only [located, Except.ok.injEq] at written
    obtain ⟨checked, found, noDirectory⟩ := locate_of_locateForWriting located
    have place := Location.eq_of_locate found
    rw [place] at found noDirectory written
    exact ⟨checked, found, noDirectory, written.symm⟩

theorem grows_of_write (written : tree.write path content = .ok after) :
    Grows (fun place => place = Location.ofPath tree.workingDirectory path) nowhere tree after := by
  obtain ⟨-, -, noDirectory, rfl⟩ := write_eq_ok written
  exact grows_put_file noDirectory content

theorem read_of_write (written : tree.write path content = .ok after) :
    after.read path = .ok content := by
  have grows := grows_of_write written
  obtain ⟨checked, located, noDirectory, rfl⟩ := write_eq_ok written
  refine read_eq_ok_iff.mpr ⟨checked, _, grows.locate located, ?_⟩
  rw [node?_put _ (ne_nil_of_node? noDirectory), if_pos rfl]

/-- What writing a text that succeeds has done. -/
theorem of_writeText {text : Text} (written : tree.writeText path text = (.ok (), after)) :
    Grows (fun place => place = Location.ofPath tree.workingDirectory path) nowhere tree after ∧
      ∃ bytes, Utf8.encode text = .ok bytes ∧ after.read path = .ok bytes := by
  rw [writeText] at written
  cases emptied : tree.write path [] with
  | error e => simp [emptied] at written
  | ok opened =>
    simp only [emptied] at written
    cases encoded : Utf8.encode text with
    | error refusal => simp [encoded] at written
    | ok bytes =>
      simp only [encoded] at written
      cases filled : tree.write path bytes with
      | error e => simp [filled] at written
      | ok final =>
        simp only [filled, Prod.mk.injEq, true_and] at written
        subst written
        exact ⟨grows_of_write filled, bytes, rfl, read_of_write filled⟩

/-- A text can only be written at a path that can be followed. -/
theorem has_of_writeText {text : Text} (written : tree.writeText path text = (.ok (), after)) :
    tree.has path = (tree.node? (Location.ofPath tree.workingDirectory path)).isSome := by
  rw [writeText] at written
  cases emptied : tree.write path [] with
  | error e => simp [emptied] at written
  | ok opened =>
    obtain ⟨checked, located, -⟩ := write_eq_ok emptied
    exact has_eq_isSome checked located

/-- What a copy that succeeds has done. -/
theorem of_copy {source target : Text} (copied : tree.copy source target = .ok after) :
    Grows (fun place => place = Location.ofPath tree.workingDirectory target) nowhere tree after ∧
      ∃ bytes, tree.read source = .ok bytes ∧ after.read target = .ok bytes := by
  rw [copy] at copied
  cases checked : checkPath source with
  | error e => simp [checked] at copied
  | ok accepted =>
    cases checkedToo : checkPath target with
    | error e => simp [checked, checkedToo] at copied
    | ok accepted' =>
      simp only [checked, checkedToo] at copied
      by_cases same : tree.sameNode source target = true
      · rw [if_pos same] at copied
        cases copied
      · rw [if_neg same] at copied
        cases held : tree.read source with
        | error e => simp [held] at copied
        | ok bytes =>
          simp only [held] at copied
          exact ⟨grows_of_write copied, bytes, rfl, read_of_write copied⟩

end

/-! ## Making directories -/

section

variable {tree made : FileTree} {path : Text}

theorem grows_of_makeDirectory (done : tree.makeDirectory path = .ok made) :
    Grows nowhere (Location.LeadsThrough tree.workingDirectory path) tree made := by
  rw [makeDirectory] at done
  cases checked : checkPath path with
  | error e => simp [checked] at done
  | ok accepted =>
    simp only [checked] at done
    split at done
    · cases done
    · rename_i location located
      cases node : tree.node? location with
      | some found => simp [node] at done
      | none =>
        simp only [node, Except.ok.injEq] at done
        subst done
        have place := Location.eq_of_locate located
        rw [Location.ofPath_trimRight] at place
        apply (grows_put_directory node).mono (fun _ => id)
        rintro other rfl
        rw [place]
        exact Location.leadsThrough_ofPath _ _

theorem splitPath_cases (path : Text) :
    (splitPath path).1 = Path.dirName path ∨
      (splitPath path).1 = Path.dirName (Path.dirName path) := by
  rw [splitPath]
  split
  · right
    dsimp only
  · left
    dsimp only

theorem splitPath_prefix (path : Text) :
    (splitPath path).1 <+: path ∧
      Path.components (splitPath path).1 <+: Path.components path := by
  have once := Path.prefix_dirName path
  rcases splitPath_cases path with above | above
  · rw [above]
    exact once
  · have twice := Path.prefix_dirName (Path.dirName path)
    rw [above]
    exact ⟨twice.1.trans once.1, twice.2.trans once.2⟩

/-- The first half of a step: making the directory above a path, if that is missing.  Whoever else
has made it meanwhile is as good. -/
def makeAbove (steps : Nat) (mayExist : Bool) (tree : FileTree) (path : Text) :
    Except FileError Unit × FileTree :=
  if !(splitPath path).1.isEmpty && !(splitPath path).2.isEmpty &&
      !tree.has (splitPath path).1 then
    match makeDirectoriesWithin steps mayExist tree (splitPath path).1 with
    | (.error (.path .occupied _), next) => (.ok (), next)
    | other => other
  else (.ok (), tree)

/-- The second half: making the directory itself, once the one above it is there. -/
def makeLast (mayExist : Bool) (tree : FileTree) (path : Text) :
    Except FileError Unit × FileTree → Except FileError Unit × FileTree
  | (.error e, next) => (.error e, next)
  | (.ok (), next) =>
    if !(splitPath path).1.isEmpty && !tree.has (splitPath path).1 &&
        decide ((splitPath path).2 = [Path.dot]) then (.ok (), next)
    else
      match next.makeDirectory path with
      | .ok made => (.ok (), made)
      | .error (.path fault place) =>
        if mayExist && next.isDirectory path then (.ok (), next)
        else (.error (.path fault place), next)
      | .error e => (.error e, next)

theorem makeDirectoriesWithin_succ (steps : Nat) (mayExist : Bool) (tree : FileTree)
    (path : Text) : makeDirectoriesWithin (steps + 1) mayExist tree path =
      makeLast mayExist tree path (makeAbove steps mayExist tree path) := rfl

theorem grows_makeLast (mayExist : Bool) (tree : FileTree) (path : Text)
    (prepared : Except FileError Unit × FileTree) :
    Grows nowhere (Location.LeadsThrough prepared.2.workingDirectory path) prepared.2
      (makeLast mayExist tree path prepared).2 := by
  obtain ⟨outcome, next⟩ := prepared
  cases outcome with
  | error e => exact Grows.refl next
  | ok done =>
    simp only [makeLast]
    split
    · exact Grows.refl next
    · cases last : next.makeDirectory path with
      | ok made => exact grows_of_makeDirectory last
      | error e =>
        -- Whether the error is forgiven or not, the last directory was not made.
        cases e with
        | path fault place =>
          simp only
          split
          · exact Grows.refl next
          · exact Grows.refl next
        | sameFile source target => exact Grows.refl next
        | unencodable refusal => exact Grows.refl next
        | nullInPath => exact Grows.refl next

theorem grows_makeDirectoriesWithin (mayExist : Bool) (steps : Nat) : ∀ tree path,
    Grows nowhere (Location.LeadsThrough tree.workingDirectory path) tree
      (makeDirectoriesWithin steps mayExist tree path).2 := by
  induction steps with
  | zero =>
    intro tree path
    rw [makeDirectoriesWithin]
    exact Grows.refl tree
  | succ steps ih =>
    intro tree path
    -- A path leads through all that the path above it leads through.
    have first : Grows nowhere (Location.LeadsThrough tree.workingDirectory path) tree
        (makeAbove steps mayExist tree path).2 := by
      rw [makeAbove]
      by_cases missing : (!(splitPath path).1.isEmpty && !(splitPath path).2.isEmpty &&
          !tree.has (splitPath path).1) = true
      · rw [if_pos missing]
        have nonempty : (splitPath path).1 ≠ [] := by
          intro empty
          simp [empty] at missing
        obtain ⟨begins, components⟩ := splitPath_prefix path
        have below := (ih tree (splitPath path).1).mono (fun _ => id)
          fun _ => Location.LeadsThrough.of_prefix nonempty begins components
        split
        · rename_i went
          rw [went] at below
          exact below
        · exact below
      · rw [if_neg missing]
        exact Grows.refl tree
    have second := grows_makeLast mayExist tree path (makeAbove steps mayExist tree path)
    rw [first.here] at second
    rw [makeDirectoriesWithin_succ]
    exact first.trans second

/-- Making a directory changes a tree only where the path leads through. -/
theorem grows_of_makeDirectories {mayExist : Bool} {outcome : Except FileError Unit}
    (went : tree.makeDirectories mayExist path = (outcome, made)) :
    Grows nowhere (Location.LeadsThrough tree.workingDirectory path) tree made := by
  have grows := grows_makeDirectoriesWithin mayExist (path.length + 1) tree path
  rw [makeDirectories] at went
  rw [went] at grows
  exact grows

end

/-! ## Writing at paths -/

/-- Whether a tree comes from another by writing files at some paths, and the directories that these
lead through. -/
def Writes (paths : List Text) (before after : FileTree) : Prop :=
  Grows (fun location => ∃ path ∈ paths, location = Location.ofPath before.workingDirectory path)
    (fun location => ∃ path ∈ paths,
      Location.LeadsThrough before.workingDirectory path location) before after

section

variable {paths others : List Text} {before mid after : FileTree}

theorem Writes.refl (paths : List Text) (tree : FileTree) : Writes paths tree tree :=
  Grows.refl tree

theorem Writes.append (first : Writes paths before mid) (second : Writes others mid after) :
    Writes (paths ++ others) before after := by
  have here := first.here
  unfold Writes at first second ⊢
  rw [here] at second
  apply (first.mono ?_ ?_).trans (second.mono ?_ ?_)
  · rintro location ⟨path, listed, place⟩
    exact ⟨path, List.mem_append_left _ listed, place⟩
  · rintro location ⟨path, listed, through⟩
    exact ⟨path, List.mem_append_left _ listed, through⟩
  · rintro location ⟨path, listed, place⟩
    exact ⟨path, List.mem_append_right _ listed, place⟩
  · rintro location ⟨path, listed, through⟩
    exact ⟨path, List.mem_append_right _ listed, through⟩

theorem Writes.trans (first : Writes paths before mid) (second : Writes paths mid after) :
    Writes paths before after := by
  have here := first.here
  unfold Writes at first second ⊢
  rw [here] at second
  exact Grows.trans first second

theorem writes_of_made {directory child : Text} (named : Path.IsName child)
    (grows : Grows nowhere (Location.LeadsThrough before.workingDirectory directory) before after) :
    Writes [Path.join directory child] before after := by
  apply grows.mono
  · exact fun _ none => none.elim
  · intro location through
    exact ⟨_, List.mem_singleton_self _,
      (Location.leadsThrough_join_iff named directory location).mpr (.inl through)⟩

theorem writes_of_written {path : Text}
    (grows : Grows (fun place => place = Location.ofPath before.workingDirectory path) nowhere
      before after) : Writes [path] before after := by
  apply grows.mono
  · intro location place
    exact ⟨path, List.mem_singleton_self _, place⟩
  · exact fun _ none => none.elim

theorem Writes.read (writes : Writes paths before after) {path : Text} {content : Bytes}
    (apart : ∀ other ∈ paths, Location.ofPath before.workingDirectory path ≠
      Location.ofPath before.workingDirectory other)
    (held : before.read path = .ok content) : after.read path = .ok content := by
  apply Grows.read writes _ held
  rintro ⟨other, listed, same⟩
  exact apart other listed same

end

end ClassSynth.FileTree
