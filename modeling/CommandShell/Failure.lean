import CommandShell.Uncoded

/-!
Failures of commands: what kind of failure, and the data it carries.

A failure is reported by its `text`; the log shows it by its `literal`. There may be no text to
show (`Shown`), and this is a failure again (`DisplayFault.failure`). The shell's own failures are
listed by cause (`MacroFault`, `AliasFault`, `ClockFault`, `PluginFault`), each with its message;
commands that are registered from outside may fail in kinds of their own. A failure of the system
has a code, a message and up to two paths, and its code tells its kind.
-/

namespace CommandShell

/-- A failure of a command. -/
structure Failure where
  kind : Text
  details : List Value := []
  /-- What a failure of the system has happened to: a path, or a path and where it was to lead. -/
  paths : List Value := []
deriving Repr

/-- What a failure without a text is reported as. -/
def unknownError : Text := "Unknown error occurred"

namespace Failure

/-- A failure of one detail, a text. -/
def ofText (kind text : Text) : Failure := { kind, details := [.text text] }

/-- The kind of a failed look-up. It shows its only detail, the key, as a literal. -/
def keyKind : Text := "KeyError"

/-- The kind of the failures of the system whose codes have no kind of their own. -/
def systemKind : Text := "OSError"

/-- The kind of a call that would have to wait. -/
def waitingKind : Text := "BlockingIOError"

/-- The codes that have kinds of their own. -/
def codeKinds : List (Int × Text) := [
  (1, "PermissionError"), (2, "FileNotFoundError"), (3, "ProcessLookupError"),
  (4, "InterruptedError"), (10, "ChildProcessError"), (11, waitingKind),
  (13, "PermissionError"), (17, "FileExistsError"), (20, "NotADirectoryError"),
  (21, "IsADirectoryError"), (32, "BrokenPipeError"), (103, "ConnectionAbortedError"),
  (104, "ConnectionResetError"), (108, "BrokenPipeError"), (110, "TimeoutError"),
  (111, "ConnectionRefusedError"), (114, waitingKind), (115, waitingKind)]

/-- The kind of the failures of the system with this code. Only whole numbers are codes. -/
def kindOfCode (code : Value) : Text :=
  match codeKinds.find? fun (n, _) => code.whole? == some n with
  | some (_, kind) => kind
  | none => systemKind

/-- Failures of this kind, with a code and a message, are failures of the system. -/
def isSystemKind (kind : Text) : Bool :=
  kind = systemKind || codeKinds.any fun (_, k) => kind = k

/-- The most details that a failure of the system has. -/
def maxSystemDetails : Nat := 5

/-- One more than the largest count of what was written so far. -/
def countBound : Int := 0x8000000000000000

/-- What may stand in the place of a path. -/
inductive Place where
  | path
  | count
  | refused (f : Failure)

/-- What a value in the place of a path is. A call that would have to wait tells there how much was
written so far; a count has a limit and is whole. -/
def placeOf (kind : Text) (v : Value) : Place :=
  if kind = waitingKind then
    match v.whole?, v with
    | some n, _ =>
      if -countBound ≤ n && n < countBound then .count
      else .refused (.ofText "ValueError" "cannot fit 'int' into an index-sized integer")
    | none, .decimal _ =>
      .refused (.ofText "TypeError" "'float' object cannot be interpreted as an integer")
    | none, _ => .path
  else .path

/-- The failure of the system with these details. If there are paths, they are set apart, and of
the details only the code and the message stay. The paths are the third detail and, after a first
path, the fifth. -/
def ofSystem (kind : Text) (code message : Value) (rest : List Value) : Failure :=
  let plain : Failure := { kind, details := code :: message :: rest }
  let withPaths := fun paths => { kind, details := [code, message], paths }
  match rest with
  | [] | .nothing :: _ => plain
  | place :: others =>
    match placeOf kind place, others.drop 1 with
    | .count, _ => plain
    | .refused f, _ => f
    | .path, [] | .path, .nothing :: _ => withPaths [place]
    | .path, target :: _ => withPaths [place, target]

/-- The failure that is named by its kind and carries these details. -/
def ofDetails (kind : Text) (details : List Value) : Failure :=
  match details with
  | code :: message :: rest =>
    if details.length > maxSystemDetails then { kind, details }
    else if kind = systemKind then ofSystem (kindOfCode code) code message rest
    else if isSystemKind kind then ofSystem kind code message rest
    else { kind, details }
  | _ => { kind, details }

/-- The paths as the text of a failure shows them. -/
def pathsText : List Value → Shown
  | [] => .ok []
  | paths => (Value.literals paths).map fun shown => ": " ++ (" -> " : Text).intercalate shown

/-- The text of a failure of the system. -/
def systemText (code message : Value) (paths : List Value) : Shown := do
  let code ← code.display
  let message ← message.display
  let paths ← pathsText paths
  return "[Errno " ++ code ++ "] " ++ message ++ paths

/-- The text of a failure: empty without details, the detail itself if there is one, else all of
them between parentheses. Failures of the system, and those over a stretch of a text, have a text
of their own. -/
def text (f : Failure) : Shown :=
  match f.details with
  | [] => .ok []
  | [v] => if f.kind = keyKind then v.literal else v.display
  | code :: message :: rest =>
    if isSystemKind f.kind && f.details.length ≤ maxSystemDetails then
      systemText code message f.paths
    else
      match Uncoded.ofDetails? f.kind f.details with
      | some uncoded => uncoded.text
      | none =>
        (Value.literals (code :: message :: rest)).map (Value.bracketed "(" ")")

/-- The failure as the log shows it. -/
def literal (f : Failure) : Shown :=
  (Value.literals f.details).map fun shown => f.kind ++ Value.bracketed "(" ")" shown

/-- The error line of a failed command. The failure goes to the log before it is reported, so there
is none if the log cannot show it. -/
def report (f : Failure) : Shown := do
  let _ ← f.literal
  let text ← f.text
  return if text = [] then unknownError else text

/-- An error line is never empty. -/
theorem report_ne_nil {f : Failure} {error : Text} (h : f.report = .ok error) : error ≠ [] := by
  unfold report at h
  cases hl : f.literal with
  | error fault =>
    rw [hl] at h
    cases h
  | ok shown =>
    cases ht : f.text with
    | error fault =>
      rw [hl, ht] at h
      cases h
    | ok text =>
      rw [hl, ht] at h
      obtain rfl : (if text = [] then unknownError else text) = error := Except.ok.inj h
      split
      · decide
      · assumption

@[simp] theorem text_ofText {kind : Text} (h : kind ≠ keyKind) (text : Text) :
    (ofText kind text).text = .ok text := by
  simp [Failure.text, ofText, h]

@[simp] theorem literal_ofText (kind text : Text) :
    (ofText kind text).literal = .ok (kind ++ Value.bracketed "(" ")" [Text.quoted text]) :=
  rfl

/-- A failure of one text is reported by it, if there is anything in it. -/
theorem report_ofText {kind : Text} (hk : kind ≠ keyKind) {text : Text} (ht : text ≠ []) :
    (ofText kind text).report = .ok text := by
  unfold report
  rw [literal_ofText, text_ofText hk]
  exact congrArg Except.ok (if_neg ht)

end Failure

namespace DisplayFault

def kind : DisplayFault → Text
  | .tooManyDigits => "ValueError"
  | .noCharacter => "SystemError"

def message : DisplayFault → Text
  | .tooManyDigits => "Exceeds the limit (4300 digits) for integer string conversion; "
      ++ "use sys.set_int_max_str_digits() to increase the limit"
  | .noCharacter => "<class 'str'> returned a result with an exception set"

/-- The failure that comes of the attempt to show what has no text. -/
def failure (f : DisplayFault) : Failure := .ofText f.kind f.message

@[simp] theorem report_failure (f : DisplayFault) : f.failure.report = .ok f.message :=
  Failure.report_ofText (by cases f <;> simp [kind, Failure.keyKind, Text.ofString])
    (by cases f <;> simp [message, Text.ofString])

end DisplayFault

/-- Why a macro could not be run to its end. -/
inductive MacroFault where
  | unknown (name : Text)
  | running (name : Text)
  | lineFailed (name line error : Text)
deriving DecidableEq, Repr

namespace MacroFault

def message : MacroFault → Text
  | .unknown name => "macro not found: " ++ name
  | .running name => "macro '" ++ name ++ "' is already running"
  | .lineFailed name line error => "macro '" ++ name ++ "' failed at '" ++ line ++ "': " ++ error

def failure (f : MacroFault) : Failure := .ofText "CommandError" f.message

@[simp] theorem report_failure (f : MacroFault) : f.failure.report = .ok f.message :=
  Failure.report_ofText (by decide) (by cases f <;> simp [message, Text.ofString])

end MacroFault

/-- Why a name cannot become an alias. -/
inductive AliasFault where
  | badName (name : Text)
  | emptyTarget (name : Text)
deriving DecidableEq, Repr

namespace AliasFault

def message : AliasFault → Text
  | .badName name => "invalid alias name: " ++ Text.quoted name
  | .emptyTarget name => "alias '" ++ name ++ "' has an empty target"

def failure (f : AliasFault) : Failure := .ofText "AliasError" f.message

@[simp] theorem report_failure (f : AliasFault) : f.failure.report = .ok f.message :=
  Failure.report_ofText (by decide) (by cases f <;> simp [message, Text.ofString])

end AliasFault

/-- Why there is no time to tell: the count of seconds has left the finite numbers, or a whole
number is too large to be one. -/
inductive ClockFault where
  | infinite
  | undefined
  | tooLarge
deriving DecidableEq, Repr

namespace ClockFault

def kind : ClockFault → Text
  | .infinite | .tooLarge => "OverflowError"
  | .undefined => "ValueError"

def message : ClockFault → Text
  | .infinite => "cannot convert float infinity to integer"
  | .undefined => "cannot convert float NaN to integer"
  | .tooLarge => "int too large to convert to float"

def failure (f : ClockFault) : Failure := .ofText f.kind f.message

@[simp] theorem report_failure (f : ClockFault) : f.failure.report = .ok f.message :=
  Failure.report_ofText (by cases f <;> simp [kind, Failure.keyKind, Text.ofString])
    (by cases f <;> simp [message, Text.ofString])

end ClockFault

/-- Why a plugin cannot be added or found: its name is taken, a target among its aliases is no text,
or there is no plugin of that name. -/
inductive PluginFault where
  | loaded (name : Text)
  | targetNotText (aliasName : Text)
  | unknown (name : Text)
deriving DecidableEq, Repr

namespace PluginFault

def kind : PluginFault → Text
  | .loaded _ | .unknown _ => "PluginError"
  | .targetNotText _ => "AttributeError"

def message : PluginFault → Text
  | .loaded name => "plugin already loaded: " ++ name
  | .targetNotText aliasName => "the target of alias '" ++ aliasName ++ "' is not a text"
  | .unknown name => "plugin not found: " ++ name

def failure (f : PluginFault) : Failure := .ofText f.kind f.message

@[simp] theorem report_failure (f : PluginFault) : f.failure.report = .ok f.message :=
  Failure.report_ofText (by cases f <;> simp [kind, Failure.keyKind, Text.ofString])
    (by cases f <;> simp [message, Text.ofString])

end PluginFault

end CommandShell
