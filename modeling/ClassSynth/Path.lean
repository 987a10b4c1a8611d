import ClassSynth.Text.Basic

/-!
# Path texts

Operations on paths as they are written, without looking at any file.  Components are separated by
slashes.
-/

set_option autoImplicit false

namespace ClassSynth.Path

def slash : CodePoint := CodePoint.ofChar '/'

def dot : CodePoint := CodePoint.ofChar '.'

def splitLast (path : Text) : Text × Text :=
  let isSeparator (c : CodePoint) : Bool := decide (c = slash)
  let last := (path.reverse.takeWhile fun c => !isSeparator c).reverse
  (path.take (path.length - last.length), last)

def baseName (path : Text) : Text := (splitLast path).2

/-- The directory part: what stands before the last slash, without trailing slashes unless it has
nothing else. -/
def dirName (path : Text) : Text :=
  let head := (splitLast path).1
  let trimmed := Text.trimRight (· = slash) head
  if trimmed.isEmpty then head else trimmed

/-- A file name without its extension: the part before the last dot, unless only dots stand
before that dot. -/
def stem (name : Text) : Text :=
  let isDot (c : CodePoint) : Bool := decide (c = dot)
  let extension := (name.reverse.takeWhile fun c => !isDot c).reverse
  let before := name.take (name.length - extension.length - 1)
  if before.all isDot then name else before

def join (base child : Text) : Text :=
  if child.head? = some slash then child
  else if base.isEmpty || base.getLast? = some slash then base ++ child
  else base ++ slash :: child

def components (path : Text) : List Text :=
  (path.cutAt slash).filter fun part => !part.isEmpty && decide (part ≠ [dot])

def parentName : Text := ".."

/-- Removes the components that a following parent component takes back, the components kept so far
standing last first.  At the root a parent component counts for nothing. -/
def collapse (rooted : Bool) (kept : List Text) : List Text → List Text
  | [] => kept.reverse
  | part :: rest =>
    if part = parentName then
      match kept with
      | [] => if rooted then collapse rooted [] rest else collapse rooted [part] rest
      | last :: others =>
        if last = parentName then collapse rooted (part :: kept) rest
        else collapse rooted others rest
    else collapse rooted (part :: kept) rest

/-- The slashes at the root of a path: one, but two when exactly two are written. -/
def rootSlashes (path : Text) : Text :=
  match (path.takeWhile fun c => decide (c = slash)).length with
  | 0 => []
  | 2 => [slash, slash]
  | _ => [slash]

def normalize (path : Text) : Text :=
  let root := rootSlashes path
  let text := root ++ Text.join [slash] (collapse (!root.isEmpty) [] (components path))
  if text.isEmpty then [dot] else text

end ClassSynth.Path
