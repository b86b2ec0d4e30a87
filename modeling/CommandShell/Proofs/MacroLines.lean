import CommandShell.Proofs.AliasLines

/-!
Lines that store a macro, and lines that show one.

A macro is created by a line that spells its name and its lines as tokens. They pass through the
lexer and the reader of arguments before they are stored, and neither drops, joins or splits one of
them:
* `Macros.ofLine_line`: a line of the macro command is read as the tokens that it spells;
* `Session.Offers.saves`: the line that creates a macro stores just the lines that it spells;
* `Session.Offers.shows`: the line that shows a macro prints what is stored, with numbers.
`execute_macro_create` puts them together.
-/

namespace CommandShell

open Argument (isFlagToken)
open Token (join quote tokenize)

namespace Macros

/-! ## Lines of the macro command -/

/-- A line of the macro command that spells a subcommand and what it is about. -/
def line (sub : Subcommand) (ts : List Text) : Text := "macro " ++ sub.name ++ " " ++ join ts

/-- The call that such a line stands for. -/
def call (sub : Subcommand) (ts : List Text) : Invocation where
  command := "macro"
  args := sub.name :: ts

theorem tokens_call (sub : Subcommand) (ts : List Text) :
    (call sub ts).tokens = ("macro" : Text) :: sub.name :: ts :=
  List.append_nil _

theorem line_eq_join (sub : Subcommand) (t : Text) (ts : List Text) :
    line sub (t :: ts) = join (call sub (t :: ts)).tokens := by
  have hhead : quote "macro" = "macro" := if_pos rfl
  have hsub : quote sub.name = sub.name := if_pos (by cases sub <;> rfl)
  rw [tokens_call, Token.join_cons_cons, Token.join_cons_cons, hhead, hsub]
  simp [line, Text.ofString]

/-- A line of the macro command is read as the tokens that it spells. -/
theorem ofLine_line (sub : Subcommand) {t : Text} {ts : List Text}
    (hdash : ∀ u ∈ t :: ts, isFlagToken u = false)
    (hread : ∀ u ∈ t :: ts, tokenize (quote u) = [u]) :
    (Invocation.ofLine (line sub (t :: ts))).SameCall (call sub (t :: ts)) := by
  have hhead : tokenize (quote "macro") = [("macro" : Text)] := by decide
  have hsub : isFlagToken sub.name = false ∧ tokenize (quote sub.name) = [sub.name] := by
    cases sub <;> decide
  rw [line_eq_join]
  refine Invocation.Spellable.sameCall ⟨?_, ?_, ?_, ?_, ?_⟩
  · exact List.forall_mem_cons.2 ⟨hsub.1, hdash⟩
  · intro name hname
    cases hname
  · intro text htext
    cases htext
  · intro hoff
    cases hoff
  · rw [tokens_call]
    exact List.forall_mem_cons.2 ⟨hhead, List.forall_mem_cons.2 ⟨hsub.2, hread⟩⟩

/-! ## What the command does -/

theorem respond_create {i : Invocation} {name : Text} {lines : List Text} (hne : lines ≠ [])
    (h : i.args = Subcommand.create.name :: name :: lines) (s : Session) :
    respond i s = create s name lines := by
  obtain ⟨first, others, rfl⟩ := List.exists_cons_of_ne_nil hne
  unfold respond
  rw [h]
  rfl

theorem respond_display {i : Invocation} {name : Text} {lines : List Text}
    (h : i.args = [Subcommand.display.name, name]) {s : Session}
    (hs : s.macros.get? name = some lines) : respond i s = .say s (listing lines) := by
  unfold respond
  rw [h]
  show display s name = _
  unfold display
  rw [hs]

/-- Each row is the line in its place behind the number of the place, counted from one. -/
def Numbers (rows lines : List Text) : Prop :=
  rows.length = lines.length ∧ ∀ (n : Nat) (line : Text), lines[n]? = some line →
    rows[n]? = some (Text.ofString (toString (n + 1)) ++ ". " ++ line)

theorem exists_listing_eq (lines : List Text) :
    ∃ rows, listing lines = Text.joinLines rows ∧ Numbers rows lines := by
  refine ⟨_, rfl, ?_, fun n line hline => ?_⟩
  · simp [Text.numbered]
  · simp [Text.numbered, hline, Nat.add_comm]

end Macros

/-! ## Lines that store, lines that show -/

namespace Session

/-- What it means that executing a line stores `lines` as the macro `name`, in place of any other of
this name, and reports it. The other macros, and whatever else there is but the history, stay as
they are. -/
structure Saves (s : Session) (line name : Text) (lines : List Text) : Prop where
  reported : (s.execute line).outcome =
    .finished (.done ("Macro '" ++ name ++ "' saved (" ++ toString lines.length ++ " lines)"))
  stored : (s.execute line).session.macros.get? name = some lines
  others : ∀ n, n ≠ name → (s.execute line).session.macros.get? n = s.macros.get? n
  rest : ∃ macros, (s.execute line).session =
    { s.remember line with macros := { s.macros with macros } }

/-- What it means that executing a line prints `lines` in their order, each behind its number, and
changes nothing but the history. -/
structure Shows (s : Session) (line : Text) (lines : List Text) : Prop where
  printed : ∃ rows, (s.execute line).outcome = .finished (.done (Text.joinLines rows)) ∧
    Macros.Numbers rows lines
  rest : (s.execute line).session = s.remember line

variable {s : Session} {line name : Text} {lines : List Text}

/-- A line that stores a macro leaves the macro command as it is. -/
theorem Saves.offers (hs : s.Saves line name lines) (h : s.Offers "macro" .macroBook) :
    (s.execute line).session.Offers "macro" .macroBook := by
  obtain ⟨macros, hrest⟩ := hs.rest
  have hkept : (s.execute line).session.registry = s.registry := by
    rw [hrest]
    exact s.registry_remember line
  unfold Offers
  rwa [hkept]

/-- The line that creates a macro stores just the lines that it spells. -/
theorem Offers.saves (h : s.Offers "macro" .macroBook) (hne : lines ≠ [])
    (hdash : ∀ t ∈ name :: lines, isFlagToken t = false)
    (hread : ∀ t ∈ name :: lines, tokenize (quote t) = [t]) :
    s.Saves (Macros.line .create (name :: lines)) name lines := by
  obtain ⟨hcommand, hargs, -⟩ := Macros.ofLine_line .create hdash hread
  have hkept := s.running_remember (Macros.line .create (name :: lines))
  obtain ⟨houtcome, hsession⟩ := h.execute_say (by decide) hcommand
    (Macros.respond_create hne hargs _)
  refine ⟨houtcome, ?_, fun n hn => ?_, ?_⟩
  · rw [hsession]
    exact (Table.get?_set _ _ _ _).trans (if_pos rfl)
  · rw [hsession, ← hkept]
    exact (Table.get?_set _ _ _ _).trans (if_neg hn)
  · exact ⟨_, by rw [hsession, ← hkept]; rfl⟩

/-- The line that shows a macro prints what is stored. -/
theorem Offers.shows (h : s.Offers "macro" .macroBook) (hs : s.macros.get? name = some lines)
    (hdash : isFlagToken name = false) (hread : tokenize (quote name) = [name]) :
    s.Shows (Macros.line .display [name]) lines := by
  obtain ⟨hcommand, hargs, -⟩ := Macros.ofLine_line .display
    (List.forall_mem_singleton.2 hdash) (List.forall_mem_singleton.2 hread)
  have hkept := s.running_remember (Macros.line .display [name])
  obtain ⟨houtcome, hsession⟩ := h.execute_say (by decide) hcommand
    (Macros.respond_display hargs (by rwa [hkept]))
  obtain ⟨rows, hrows, hnumbers⟩ := Macros.exists_listing_eq lines
  exact ⟨⟨rows, by rw [houtcome, hrows], hnumbers⟩, hsession⟩

end Session

/-- The line that spells a name and lines stores just these lines under the name, and nothing else.
The line that spells the name then prints them, each behind its number. Only what begins with a
dash, or cannot be written as a token, is left out. -/
theorem execute_macro_create {s : Session} (h : s.Offers "macro" .macroBook) {name : Text}
    {lines : List Text} (hne : lines ≠ []) (hdash : ∀ t ∈ name :: lines, isFlagToken t = false)
    (hread : ∀ t ∈ name :: lines, tokenize (quote t) = [t]) :
    s.Saves ("macro create " ++ join (name :: lines)) name lines ∧
      (s.execute ("macro create " ++ join (name :: lines))).session.Shows
        ("macro show " ++ quote name) lines := by
  have hsaves : s.Saves ("macro create " ++ join (name :: lines)) name lines :=
    h.saves hne hdash hread
  have hline : Macros.line .display [name] = "macro show " ++ quote name := by
    rw [← Token.join_singleton]
    rfl
  refine ⟨hsaves, ?_⟩
  rw [← hline]
  exact (hsaves.offers h).shows hsaves.stored (hdash name List.mem_cons_self)
    (hread name List.mem_cons_self)

/-- A session with a macro. -/
def Session.keeper : Session where
  registry := { commands := Table.ofList [("macro", { name := "macro", body := .macroBook })] }
  macros := { macros := Table.ofList [("old", ["date"])] }
  clock := ⟨⟨2026, 10, 19, 12, 34, 56⟩, 0⟩

theorem Session.reachable_keeper : keeper.Reachable :=
  ((Reachable.bare keeper.clock).step (.register { name := "macro", body := .macroBook })).step
    (.defineMacro "old" ["date"])

/-- A name with a blank. -/
def Macros.crowdedName : Text := "my macro"

/-- An empty line, quotes of both kinds, a flag, an equals sign, a run of blanks and a line
break. -/
def Macros.crowdedLines : List Text := ["", "echo \"a  b\"", "it's", "greet -u=mom", " x\n\ty "]

theorem execute_macro_create_crowded :
    Session.keeper.Reachable ∧ Session.keeper.Offers "macro" .macroBook ∧
      Macros.crowdedLines ≠ [] ∧
      (∀ t ∈ Macros.crowdedName :: Macros.crowdedLines, isFlagToken t = false) ∧
      (∀ t ∈ Macros.crowdedName :: Macros.crowdedLines, tokenize (quote t) = [t]) ∧
      Session.keeper.Saves ("macro create " ++ join (Macros.crowdedName :: Macros.crowdedLines))
        Macros.crowdedName Macros.crowdedLines ∧
      (Session.keeper.execute
          ("macro create " ++ join (Macros.crowdedName :: Macros.crowdedLines))).session.Shows
        ("macro show " ++ quote Macros.crowdedName) Macros.crowdedLines :=
  have hoffers : Session.keeper.Offers "macro" .macroBook := ⟨rfl, rfl⟩
  have hne : Macros.crowdedLines ≠ [] := by decide
  have hdash : ∀ t ∈ Macros.crowdedName :: Macros.crowdedLines, isFlagToken t = false := by decide
  have hread : ∀ t ∈ Macros.crowdedName :: Macros.crowdedLines, tokenize (quote t) = [t] := by
    decide
  ⟨Session.reachable_keeper, hoffers, hne, hdash, hread,
    execute_macro_create hoffers hne hdash hread⟩

end CommandShell
