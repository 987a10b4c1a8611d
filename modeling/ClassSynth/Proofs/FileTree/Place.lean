import ClassSynth.FileTree.Basic
import ClassSynth.Proofs.Identifier
import ClassSynth.Proofs.Path

/-!
# Places

Where a path that can be followed leads is told by its components alone, whatever the tree holds:
its place.  A path is led through the places of the paths that its first components make.  Among
names of ASCII code points, one name has one place.
-/

set_option autoImplicit false

namespace ClassSynth.Location

/-- The location that one component of a path leads to. -/
def enter (here : Location) (part : Text) : Location :=
  if part = Path.parentName then here.dropLast else here ++ [FileName.ofText part]

/-- Where a path begins that is used at a location. -/
def start (here : Location) (path : Text) : Location :=
  if path.head? = some Path.slash then [] else here

/-- The place of a path that is used at a location. -/
def ofPath (here : Location) (path : Text) : Location :=
  (Path.components path).foldl enter (start here path)

/-- Whether a path leads through a location, its beginning and its end included. -/
def LeadsThrough (here : Location) (path : Text) (location : Location) : Prop :=
  ∃ front, front <+: Path.components path ∧ location = front.foldl enter (start here path)

theorem leadsThrough_ofPath (here : Location) (path : Text) :
    LeadsThrough here path (ofPath here path) :=
  ⟨_, List.prefix_rfl, rfl⟩

/-! ## Paths made from others -/

section

variable {here : Location}

theorem ofPath_congr {first second : Text}
    (components : Path.components first = Path.components second)
    (head : first.head? = second.head?) : ofPath here first = ofPath here second := by
  rw [ofPath, ofPath, start, start, components, head]

/-- A path without its trailing slashes has its place, unless it holds nothing else. -/
theorem ofPath_trimRight (path : Text) :
    ofPath here (if (Text.trimRight (· = Path.slash) path).isEmpty then path
      else Text.trimRight (· = Path.slash) path) = ofPath here path := by
  split
  · rfl
  · rename_i nonempty
    apply ofPath_congr (Path.components_trimRight path)
    obtain ⟨tail, split⟩ := Path.prefix_trimRight path
    conv_rhs => rw [← split]
    rw [List.head?_append_of_ne_nil]
    simpa using nonempty

/-- What a path leads through that makes the beginning of another, the other leads through. -/
theorem LeadsThrough.of_prefix {front path : Text} {location : Location} (nonempty : front ≠ [])
    (begins : front <+: path) (components : Path.components front <+: Path.components path)
    (through : LeadsThrough here front location) : LeadsThrough here path location := by
  obtain ⟨parts, within, rfl⟩ := through
  obtain ⟨rest, rfl⟩ := begins
  refine ⟨parts, within.trans components, ?_⟩
  rw [start, start, List.head?_append_of_ne_nil _ nonempty]

theorem start_join {child : Text} (named : Path.IsName child) (base : Text) :
    start here (Path.join base child) = start here base := by
  by_cases rooted : base.head? = some Path.slash
  · rw [start, start, if_pos rooted, if_pos ((Path.head?_join_eq_slash_iff named base).mpr rooted)]
  · rw [start, start, if_neg rooted,
      if_neg (mt (Path.head?_join_eq_slash_iff named base).mp rooted)]

theorem ofPath_join {child : Text} (named : Path.IsName child) (base : Text) :
    ofPath here (Path.join base child) = ofPath here base ++ [FileName.ofText child] := by
  rw [ofPath, Path.components_join named, List.foldl_append, start_join named]
  exact if_neg named.notParent

theorem ofPath_foldl_join {children : List Text} (named : ∀ child ∈ children, Path.IsName child) :
    ∀ base, ofPath here (children.foldl Path.join base) =
      ofPath here base ++ children.map FileName.ofText := by
  induction children with
  | nil => exact fun base => (List.append_nil _).symm
  | cons child rest ih =>
    obtain ⟨first, later⟩ := List.forall_mem_cons.mp named
    intro base
    rw [List.foldl_cons, ih later, ofPath_join first, List.append_assoc]
    rfl

theorem leadsThrough_join_iff {child : Text} (named : Path.IsName child) (base : Text)
    (location : Location) :
    LeadsThrough here (Path.join base child) location ↔
      LeadsThrough here base location ∨ location = ofPath here (Path.join base child) := by
  constructor
  · rintro ⟨front, within, rfl⟩
    rw [Path.components_join named, List.prefix_concat_iff] at within
    rcases within with whole | within
    · right
      rw [whole, ofPath, Path.components_join named]
    · left
      exact ⟨front, within, by rw [start_join named]⟩
  · rintro (⟨front, within, rfl⟩ | rfl)
    · refine ⟨front, ?_, by rw [start_join named]⟩
      rw [Path.components_join named]
      exact within.trans (List.prefix_append _ _)
    · exact leadsThrough_ofPath here _

end

/-! ## Following a path -/

theorem eq_of_follow {tree : FileTree} (parts : List Text) : ∀ {here location : Location},
    tree.follow here parts = .ok location →
    location = (parts.filter fun part => !part.isEmpty && decide (part ≠ [Path.dot])).foldl
      enter here := by
  -- The components that following skips are those that the filter takes out.
  induction parts with
  | nil =>
    intro here location followed
    cases followed
    rfl
  | cons part rest ih =>
    intro here location followed
    rw [FileTree.follow] at followed
    cases node : tree.node? here with
    | none => simp [node] at followed
    | some found =>
      cases found with
      | file content => simp [node] at followed
      | directory =>
        simp only [node] at followed
        by_cases idle : (part.isEmpty || decide (part = [Path.dot])) = true
        · rw [if_pos idle] at followed
          rw [List.filter_cons_of_neg (by simpa [or_iff_not_imp_left] using idle), ih followed]
        · rw [if_neg idle] at followed
          rw [List.filter_cons_of_pos (by simpa using idle), List.foldl_cons]
          by_cases parent : part = Path.parentName
          · rw [if_pos parent] at followed
            rw [ih followed, enter, if_pos parent]
          · rw [if_neg parent] at followed
            split at followed
            · cases followed
            · rw [ih followed, enter, if_neg parent]

theorem eq_of_locate {tree : FileTree} {path : Text} {location : Location}
    (located : tree.locate path = .ok location) :
    location = ofPath tree.workingDirectory path := by
  rw [FileTree.locate] at located
  split at located
  · cases located
  · split at located
    · cases located
    · exact eq_of_follow _ located

end ClassSynth.Location

namespace ClassSynth.FileName

/-! ## The names of texts -/

theorem ofText_of_isAscii {t : Text} (ascii : ∀ c ∈ t, c.isAscii = true) :
    ofText t = t.map fun c => UInt8.ofNat c.val := by
  induction t with
  | nil => rfl
  | cons c rest ih =>
    obtain ⟨first, later⟩ := List.forall_mem_cons.mp ascii
    have small : c.val < 0x80 := of_decide_eq_true first
    have noByte : ByteEscape.byte? c = none := by
      rw [ByteEscape.byte?, if_neg]
      omega
    have point : ByteEscape.encodePoint c = [UInt8.ofNat c.val] := by
      simp only [ByteEscape.encodePoint, noByte, Utf8.encodePoint, small, if_true]
    rw [ofText, ByteEscape.encode, List.flatMap_cons, point]
    exact congrArg (UInt8.ofNat c.val :: ·) (ih later)

theorem map_toNat_ofText {t : Text} (ascii : ∀ c ∈ t, c.isAscii = true) :
    (ofText t).map (fun byte => CodePoint.ofNumber byte.toNat) = t := by
  rw [ofText_of_isAscii ascii, List.map_map]
  conv_rhs => rw [← List.map_id t]
  apply List.map_congr_left
  intro c present
  have small : c.val < 0x80 := of_decide_eq_true (ascii c present)
  have byte : (UInt8.ofNat c.val).toNat = c.val := by
    rw [UInt8.toNat_ofNat']
    omega
  have number : (CodePoint.ofNumber c.val).val = c.val % 0x110000 := rfl
  apply Fin.ext
  rw [Function.comp_apply, byte, number]
  exact Nat.mod_eq_of_lt c.isLt

theorem ofText_injective {first second : Text} (firstAscii : ∀ c ∈ first, c.isAscii = true)
    (secondAscii : ∀ c ∈ second, c.isAscii = true) (same : ofText first = ofText second) :
    first = second := by
  rw [← map_toNat_ofText firstAscii, ← map_toNat_ofText secondAscii, same]

end ClassSynth.FileName
