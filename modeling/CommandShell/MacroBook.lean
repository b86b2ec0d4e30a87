import CommandShell.Event

/-!
The macro book: named lists of lines, and the names of the macros that are being run. A macro that
is being run cannot be started again until it has ended.
-/

namespace CommandShell

/-- The macros of a session. -/
structure MacroBook where
  macros : Table (List Text) := Table.empty
  running : List Text := []

namespace MacroBook

/-- Stores the lines of a macro, in place of any older ones. -/
def define (b : MacroBook) (name : Text) (lines : List Text) : Logged MacroBook where
  value := { b with macros := b.macros.set name lines }
  events := [.macroDefined name lines.length]

def delete (b : MacroBook) (name : Text) : MacroBook :=
  { b with macros := b.macros.erase name }

def get? (b : MacroBook) (name : Text) : Option (List Text) := b.macros.get? name

/-- The names of the macros, in order. -/
def names (b : MacroBook) : List Text := Text.sortedDistinct b.macros.keys

/-- The lines of a macro that may be started now. -/
def linesToRun (b : MacroBook) (name : Text) : Except MacroFault (List Text) :=
  match b.get? name with
  | none => .error (.unknown name)
  | some lines => if name ∈ b.running then .error (.running name) else .ok lines

/-- Marks a macro as being run. -/
def enter (b : MacroBook) (name : Text) : MacroBook := { b with running := name :: b.running }

/-- Marks a macro as ended. -/
def leave (b : MacroBook) (name : Text) : MacroBook :=
  { b with running := b.running.erase name }

@[simp] theorem define_running (b : MacroBook) (name : Text) (lines : List Text) :
    (b.define name lines).value.running = b.running := rfl

@[simp] theorem delete_running (b : MacroBook) (name : Text) :
    (b.delete name).running = b.running := rfl

@[simp] theorem running_leave_enter (b : MacroBook) (name : Text) :
    ((b.enter name).leave name).running = b.running := by
  simp [enter, leave]

end MacroBook

end CommandShell
