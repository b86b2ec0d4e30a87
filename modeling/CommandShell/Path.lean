import CommandShell.Text.Layout

/-!
Paths of files, and what following one comes to.

A path has a root or begins at the current directory. Empty parts and dots in it lead nowhere and
are left out, so a path that is written in several ways is one path. A tilde at its beginning stands
for a home directory.

`read_of_not_home`: without a tilde a path of short parts is followed as it stands.
-/

namespace CommandShell

/-- A path: its root, which is empty if it begins at the current directory, and its parts. -/
structure Path where
  root : Text := []
  parts : List Text
deriving DecidableEq, Repr

/-- Why a path cannot be followed: it holds a null, it begins at the home of nobody who is known, or
a name in it or all of it is too long. -/
inductive PathFault where
  | holdsNull
  | unknownHome
  | tooLong
deriving DecidableEq, Repr

/-- The files there are, as far as a program looks at them. -/
structure Files where
  /-- The home directory of a user, or of the caller if the name is empty. -/
  home? : Text → Option Path
  isDirectory : Path → Bool
  text? : Path → Option Text

namespace Path

def slash : CodePoint := '/'

/-- The root that so many slashes stand for. Two of them are a root of their own. -/
def rootOf (slashes : Nat) : Text :=
  if slashes = 0 then [] else if slashes = 2 then [slash, slash] else [slash]

/-- The part leads somewhere. -/
def leads (part : Text) : Bool := !part.isEmpty && part != "."

/-- The path that a text writes. -/
def ofText (t : Text) : Path where
  root := rootOf (t.takeWhile (· == slash)).length
  parts := (Text.splitAt slash t).filter leads

/-- The path as it is written, without what leads nowhere. -/
def text (p : Path) : Text := p.root ++ [slash].intercalate p.parts

/-- The path leads nowhere from the current directory. -/
def isHere (p : Path) : Bool := p.root.isEmpty && p.parts.isEmpty

/-- The bytes that a text is stored in. -/
def byteLength (t : Text) : Nat :=
  t.foldl (fun n c => n + ((c.char?.map Char.utf8Size).getD 3)) 0

/-- The longest part that a directory can hold. -/
def maxPart : Nat := 255

/-- The longest path that can be followed. -/
def maxSize : Nat := 4095

/-- The path up to its first part that is too long, if there is such a part. -/
def beforeLongPart? (p : Path) : Option Path :=
  if p.parts.any (maxPart < byteLength ·) then
    some { p with parts := p.parts.takeWhile (byteLength · ≤ maxPart) }
  else none

/-- The path with the home directory in the place of a tilde and the name of a user. -/
def expandHome (p : Path) (files : Files) : Except PathFault Path :=
  match p.root, p.parts with
  | [], (.char '~' :: user) :: rest =>
    match files.home? user with
    | some home => .ok { home with parts := home.parts ++ rest }
    | none => .error .unknownHome
  | _, _ => .ok p

/-- A name that is too long is only noticed in a directory that is there. -/
def isTooLong (p : Path) (files : Files) : Bool :=
  maxSize < byteLength p.text
    || p.beforeLongPart?.any fun q => q.parts.isEmpty || files.isDirectory q

/-- The text of the file that a path leads to, if there is one. -/
def read (p : Path) (files : Files) : Except PathFault (Option Text) := do
  let p ← p.expandHome files
  if p.isTooLong files then .error .tooLong else .ok (files.text? p)

/-- Without a tilde a path of short parts is followed as it stands. -/
theorem read_of_not_home {p : Path} {files : Files}
    (hh : p.parts.head?.bind List.head? ≠ some '~') (hl : p.isTooLong files = false) :
    p.read files = .ok (files.text? p) := by
  have h : p.expandHome files = .ok p := by
    unfold expandHome
    split
    · rename_i hp
      simp [hp] at hh
    · rfl
  simp [read, h, hl, bind, Except.bind]

end Path

end CommandShell
