import CommandShell.CommandLine
import Mathlib.Data.List.Basic

/-!
How settings are loaded, and how that ends.

What the sources come to is checked field by field. The check tells of just the fields whose values
do not fit (`check_judges`), and a load that fails in the check is reported as such. But the values
of some fields are written in JSON where they come from variables, and a text that is no JSON ends
the load before the check, with a fault of another kind (`load_cases`). So a load ends as it should,
with settings or with a report of what is wrong with them, just when all these texts can be read;
and a call of the program comes to a session or to a refusal of the settings just then
(`load_asTold_iff`).
-/

namespace CommandShell

/-- The value is a text. -/
def Value.IsText (v : Value) : Prop := ∃ t, v = .text t

/-- The values that a field may have. -/
def Field.Fits : Field → Value → Prop
  | .promptText, v | .user, v | .welcome, v => v.IsText
  | .aliases, v => ∃ fs, v = .record fs ∧ ∀ e ∈ fs, e.2.IsText
  | .disabledPlugins, v => ∃ vs, v = .list vs ∧ ∀ w ∈ vs, w.IsText
  | .logLevel, v => ∃ t, v = .text t ∧ (Level.ofName? (Text.upper (Text.trim t))).isSome = true

/-- The text can be read as a value of the field. -/
def Field.Reads (f : Field) (text : Text) : Prop :=
  f.isStructured = true → (Value.ofJson? text).isSome = true

instance (f : Field) (text : Text) : Decidable (f.Reads text) :=
  inferInstanceAs (Decidable (f.isStructured = true → (Value.ofJson? text).isSome = true))

/-- The value that a text gives a field, if it can be read; none for a JSON `null`. -/
def Field.value? (f : Field) (text : Text) : Option Value :=
  if f.isStructured then
    match Value.ofJson? text with
    | some .nothing => none
    | value? => value?
  else some (.text text)

namespace Settings

/-- The variables that come from a place. -/
def Origin.variables (environment : List (Text × Text)) (file : Option Text) :
    Origin → List (Text × Option Text)
  | .environment => environment.map fun (name, value) => (name, some value)
  | .file => (EnvFile.read (Table.ofList environment).get? (file.getD [])).entries

/-- The text for a field: that of the last variable that has its name, in whatever case. -/
def variableText? (vars : List (Text × Option Text)) (f : Field) : Option Text :=
  (vars.reverse.find? fun e => Text.lower e.1 == variableStem ++ f.name).bind Prod.snd

/-- The variables have no text for the field that cannot be read. -/
def ReadsField (vars : List (Text × Option Text)) (f : Field) : Prop :=
  ∀ text, variableText? vars f = some text → f.Reads text

instance (vars : List (Text × Option Text)) (f : Field) : Decidable (ReadsField vars f) :=
  inferInstanceAs (Decidable (∀ text ∈ variableText? vars f, f.Reads text))

/-- The value that the variables give a field. -/
def fieldValue? (vars : List (Text × Option Text)) (f : Field) : Option Value :=
  (variableText? vars f).bind f.value?

/-- No place has a text for a field that cannot be read. -/
def Readable (environment : List (Text × Text)) (file : Option Text) : Prop :=
  ∀ (origin : Origin) (f : Field), ReadsField (origin.variables environment file) f

/-- Only the texts for the two structured fields matter. -/
theorem readable_iff {environment : List (Text × Text)} {file : Option Text} :
    Readable environment file ↔ ∀ origin : Origin,
      ReadsField (origin.variables environment file) .aliases ∧
        ReadsField (origin.variables environment file) .disabledPlugins := by
  refine ⟨fun h origin => ⟨h origin .aliases, h origin .disabledPlugins⟩, fun h origin f => ?_⟩
  cases f with
  | aliases => exact (h origin).1
  | disabledPlugins => exact (h origin).2
  | _ => exact fun _ _ hf => by cases hf

/-- The values of the fields: the environment goes over the file of variables. -/
def values (environment : List (Text × Text)) (file : Option Text) : Source :=
  layer (fieldValue? (Origin.environment.variables environment file))
    (fieldValue? (Origin.file.variables environment file))

/-- A load of these values ends as it should: with settings if all of them fit, and else with a
report of just the fields whose values do not fit. -/
def EndsAsTold (source : Source) : Except LoadFault Settings → Prop
  | .ok _ => ∀ f v, source f = some v → f.Fits v
  | .error (.invalid problems) =>
    problems ≠ [] ∧ ∀ f, (∃ p ∈ problems, p.field = f) ↔ ∃ v, source f = some v ∧ ¬ f.Fits v
  | .error (.unreadable _ _) => False

/-! ## What a check tells -/

/-- The problems that a check tells. -/
def told {α : Type} : Checked α → List Problem
  | .ok _ => []
  | .error problems => problems

/-- What it means that a check tells of just the fields that are bad, and fails only if it tells of
one. -/
structure Judges {α : Type} (x : Checked α) (bad : Field → Prop) : Prop where
  told_iff : ∀ f, (∃ p ∈ told x, p.field = f) ↔ bad f
  ne_nil : ∀ problems, x = .error problems → problems ≠ []

section Judges

variable {α β : Type} {x : Checked α} {y : Checked β} {bad bad' : Field → Prop}

theorem Judges.congr (h : Judges x bad) (hbad : ∀ f, bad f ↔ bad' f) : Judges x bad' :=
  ⟨fun f => (h.told_iff f).trans (hbad f), h.ne_nil⟩

theorem judges_ok (a : α) (hbad : ∀ f, ¬ bad f) : Judges (.ok a : Checked α) bad :=
  ⟨fun f => iff_of_false (by rintro ⟨p, hp, -⟩; cases hp) (hbad f), fun _ h => by cases h⟩

theorem judges_problem {field : Field} (item : Option FieldItem) (fault : FieldFault)
    (hbad : ∀ f, bad f ↔ f = field) : Judges (problem field item fault : Checked α) bad := by
  refine ⟨fun f => ?_, fun problems h => ?_⟩
  · rw [hbad]
    simp [told, problem, eq_comm]
  · cases h
    exact List.cons_ne_nil _ _

theorem Judges.map (h : Judges x bad) (g : α → β) : Judges (x.map g) bad := by
  cases x with
  | ok a =>
    refine judges_ok _ fun f hf => ?_
    obtain ⟨p, hp, -⟩ := (h.told_iff f).2 hf
    cases hp
  | error problems => exact ⟨h.told_iff, fun ps hps => h.ne_nil ps (by cases hps; rfl)⟩

theorem told_both (x : Checked α) (y : Checked β) : told (both x y) = told x ++ told y := by
  cases x <;> cases y <;> simp [both, told]

theorem Judges.both (h : Judges x bad) (h' : Judges y bad') :
    Judges (both x y) fun f => bad f ∨ bad' f := by
  refine ⟨fun f => ?_, fun problems hp => ?_⟩
  · rw [told_both, ← h.told_iff f, ← h'.told_iff f]
    simp only [List.mem_append, or_and_right, exists_or]
  · cases x with
    | ok a =>
      cases y with
      | ok b => cases hp
      | error qs => cases hp; exact h'.ne_nil _ rfl
    | error ps =>
      have hps := h.ne_nil ps rfl
      cases y with
      | ok b => cases hp; exact hps
      | error qs => cases hp; simp [hps]

/-- The items of a list are judged together. -/
theorem judges_checkEach {field : Field} {good : α → Prop} {check : α → Checked β}
    (h : ∀ a, Judges (check a) fun f => f = field ∧ ¬ good a) (as : List α) :
    Judges (checkEach check as) fun f => f = field ∧ ¬ ∀ a ∈ as, good a := by
  induction as with
  | nil => exact judges_ok _ fun f hf => hf.2 fun a ha => by cases ha
  | cons a as ih =>
    refine (((h a).both ih).map _).congr fun f => ?_
    rw [List.forall_mem_cons, not_and_or, and_or_left]

end Judges

/-! ## The check of settings -/

section Check

variable (field : Field)

theorem judges_checkText (item : Option FieldItem) (v : Value) :
    Judges (checkText field item v) fun f => f = field ∧ ¬ v.IsText := by
  unfold checkText
  split
  · exact judges_ok _ fun f hf => hf.2 ⟨_, rfl⟩
  · rename_i hv
    have hnot : ¬ v.IsText := fun ⟨t, ht⟩ => hv t ht
    exact judges_problem _ _ fun f => and_iff_left hnot

theorem judges_checkAliases (v : Value) :
    Judges (checkAliases field v) fun f => f = field ∧ ¬ Field.aliases.Fits v := by
  unfold checkAliases
  split
  · rename_i fs
    have heach (e : Text × Value) : Judges
        ((checkText field (some (.name (Text.replaceSurrogates e.1))) e.2).map fun t => (e.1, t))
        fun f => f = field ∧ ¬ e.2.IsText :=
      (judges_checkText field _ e.2).map _
    refine ((judges_checkEach heach fs).map _).congr fun f => ?_
    simp [Field.Fits]
  · rename_i hv
    have hnot : ¬ Field.aliases.Fits v := fun ⟨fs, hfs, _⟩ => hv fs hfs
    exact judges_problem _ _ fun f => and_iff_left hnot

theorem judges_checkTexts (v : Value) :
    Judges (checkTexts field v) fun f => f = field ∧ ¬ Field.disabledPlugins.Fits v := by
  unfold checkTexts
  split
  · rename_i vs
    have heach (e : Value × Nat) :
        Judges (checkText field (some (.index e.2)) e.1) fun f => f = field ∧ ¬ e.1.IsText :=
      judges_checkText field _ e.1
    refine (judges_checkEach heach vs.zipIdx).congr fun f => ?_
    have hitems : (∀ e ∈ vs.zipIdx, e.1.IsText) ↔ ∀ v ∈ vs, v.IsText := by
      rw [← List.forall_mem_map (f := Prod.fst) (P := Value.IsText), List.zipIdx_map_fst]
    rw [hitems]
    simp [Field.Fits]
  · rename_i hv
    have hnot : ¬ Field.disabledPlugins.Fits v := fun ⟨vs, hvs, _⟩ => hv vs hvs
    exact judges_problem _ _ fun f => and_iff_left hnot

theorem judges_checkLevel (v : Value) :
    Judges (checkLevel field v) fun f => f = field ∧ ¬ Field.logLevel.Fits v := by
  unfold checkLevel
  split
  · rename_i t
    split
    · rename_i level hlevel
      exact judges_ok _ fun f hf => hf.2 ⟨t, rfl, by rw [hlevel]; rfl⟩
    · rename_i hlevel
      have hnot : ¬ Field.logLevel.Fits (.text t) := by
        rintro ⟨t', ht, hsome⟩
        cases ht
        rw [hlevel] at hsome
        cases hsome
      exact judges_problem _ _ fun f => and_iff_left hnot
  · rename_i hv
    have hnot : ¬ Field.logLevel.Fits v := fun ⟨t, ht, _⟩ => hv t ht
    exact judges_problem _ _ fun f => and_iff_left hnot

/-- A field without a value takes its default, which is right. -/
theorem judges_checkField {α : Type} {field : Field} {check : Field → Value → Checked α}
    (h : ∀ v, Judges (check field v) fun f => f = field ∧ ¬ field.Fits v) (source : Source)
    (default : α) : Judges (checkField source field default check) fun f =>
      f = field ∧ ∃ v, source field = some v ∧ ¬ field.Fits v := by
  unfold checkField
  cases hs : source field with
  | none => exact judges_ok _ fun f ⟨_, v, hv, _⟩ => by cases hv
  | some v => exact (h v).congr fun f => by simp

/-- The check tells of just the fields that have a value that does not fit. -/
theorem check_judges (source : Source) :
    Judges (check source) fun f => ∃ v, source f = some v ∧ ¬ f.Fits v := by
  have text (field : Field) (hfits : ∀ v, field.Fits v ↔ v.IsText) (default : Text) :
      Judges (checkField source field default fun f => checkText f none) fun f =>
        f = field ∧ ∃ v, source field = some v ∧ ¬ field.Fits v :=
    judges_checkField (fun v => (judges_checkText field none v).congr fun f => by rw [hfits])
      source default
  unfold check
  refine (Judges.map ((text .promptText (fun _ => Iff.rfl) _).both
    ((text .user (fun _ => Iff.rfl) _).both
      ((text .welcome (fun _ => Iff.rfl) _).both
        ((judges_checkField (judges_checkAliases _) source _).both
          ((judges_checkField (judges_checkTexts _) source _).both
            (judges_checkField (judges_checkLevel _) source _)))))) _).congr fun f => ?_
  cases f <;> simp

end Check

/-- What the check comes to is what a load should end with. -/
theorem check_endsAsTold (source : Source) :
    EndsAsTold source ((check source).mapError .invalid) := by
  have h := check_judges source
  cases hc : check source with
  | ok settings =>
    intro f v hv
    by_contra hf
    obtain ⟨p, hp, -⟩ := (h.told_iff f).2 ⟨v, hv, hf⟩
    rw [hc] at hp
    cases hp
  | error problems =>
    refine ⟨h.ne_nil problems hc, fun f => ?_⟩
    rw [← h.told_iff f, hc]
    rfl

/-! ## The reading of variables -/

section Variables

variable (origin : Origin) (vars : List (Text × Option Text))

/-- Under a name in lower case stands the value of the last variable that has the name. -/
theorem get?_foldCase {α : Type} (pairs : List (Text × α)) (k : Text) :
    (foldCase pairs).get? k =
      (pairs.reverse.find? fun e => Text.lower e.1 == k).map Prod.snd := by
  rw [foldCase, Table.ofList, Table.get?_setAll, Table.get?_empty, Option.or_none,
    ← List.map_reverse]
  exact Table.lookup_map (fun e : Text × α => Text.lower e.1) Prod.snd pairs.reverse k

/-- The reading of the variable of one field. -/
def readField (f : Field) : Except LoadFault (Option Value) :=
  match variableText? vars f with
  | some text => readVariable origin f text
  | none => .ok none

theorem readField_of_reads {f : Field} (h : ReadsField vars f) :
    readField origin vars f = .ok (fieldValue? vars f) := by
  unfold readField fieldValue?
  cases ht : variableText? vars f with
  | none => rfl
  | some text =>
    show readVariable origin f text = .ok (f.value? text)
    unfold readVariable Field.value?
    split
    · rename_i hf
      obtain ⟨v, hv⟩ := Option.isSome_iff_exists.1 (h text ht hf)
      rw [hv]
      cases v <;> rfl
    · rfl

theorem readField_of_not_reads {f : Field} (h : ¬ ReadsField vars f) :
    readField origin vars f = .error (.unreadable f origin) := by
  obtain ⟨text, hno⟩ := Classical.not_forall.1 h
  obtain ⟨ht, hno⟩ := Classical.not_imp.1 hno
  obtain ⟨hf, hnone⟩ := Classical.not_imp.1 hno
  unfold readField
  rw [ht]
  show readVariable origin f text = _
  unfold readVariable
  rw [if_pos hf, Option.not_isSome_iff_eq_none.1 hnone]

theorem readVariables_cons (f : Field) (fs : List Field) :
    readVariables origin (foldCase vars) (f :: fs) =
      (readField origin vars f).bind fun value =>
        (readVariables origin (foldCase vars) fs).bind fun rest =>
          .ok ((value.map (f, ·)).toList ++ rest) := by
  unfold readField variableText?
  rw [readVariables, get?_foldCase]
  cases vars.reverse.find? fun e => Text.lower e.1 == variableStem ++ f.name with
  | none => rfl
  | some e =>
    obtain ⟨_, _ | text⟩ := e <;> rfl

/-- The fields of a list are read in turn, up to the first whose text cannot be read. -/
theorem readVariables_cases (fs : List Field) :
    ((∀ f ∈ fs, ReadsField vars f) ∧ readVariables origin (foldCase vars) fs =
        .ok (fs.filterMap fun f => (fieldValue? vars f).map (f, ·))) ∨
      ∃ f ∈ fs, ¬ ReadsField vars f ∧
        readVariables origin (foldCase vars) fs = .error (.unreadable f origin) := by
  induction fs with
  | nil => exact .inl ⟨fun f hf => absurd hf List.not_mem_nil, rfl⟩
  | cons f fs ih =>
    rw [readVariables_cons]
    by_cases hf : ReadsField vars f
    · rw [readField_of_reads origin vars hf]
      obtain ⟨hfs, hvalues⟩ | ⟨g, hg, hno, hfault⟩ := ih
      · refine .inl ⟨List.forall_mem_cons.2 ⟨hf, hfs⟩, ?_⟩
        rw [hvalues, List.filterMap_cons]
        cases fieldValue? vars f <;> rfl
      · refine .inr ⟨g, List.mem_cons_of_mem f hg, hno, ?_⟩
        rw [hfault]
        rfl
    · refine .inr ⟨f, List.mem_cons_self, hf, ?_⟩
      rw [readField_of_not_reads origin vars hf]
      rfl

theorem lookup_filterMap (f : Field) (fs : List Field) :
    (fs.filterMap fun f => (fieldValue? vars f).map (f, ·)).lookup f =
      if f ∈ fs then fieldValue? vars f else none := by
  induction fs with
  | nil => rfl
  | cons g fs ih =>
    rw [List.filterMap_cons]
    cases hv : fieldValue? vars g with
    | none =>
      show List.lookup f (fs.filterMap _) = _
      rw [ih]
      by_cases hg : f = g
      · simp [hg, hv]
      · simp [hg]
    | some v =>
      show List.lookup f ((g, v) :: fs.filterMap _) = _
      rw [List.lookup_cons]
      by_cases hg : f = g
      · simp [hg, hv]
      · simp [hg, beq_false_of_ne hg, ih]

/-- A source of variables is made just when every text in it can be read. -/
theorem variableSource_cases :
    ((∀ f, ReadsField vars f) ∧ variableSource origin (foldCase vars) = .ok (fieldValue? vars)) ∨
      ∃ f, ¬ ReadsField vars f ∧
        variableSource origin (foldCase vars) = .error (.unreadable f origin) := by
  have hall (f : Field) : f ∈ Field.all := by cases f <;> decide
  unfold variableSource
  obtain ⟨hreads, hvalues⟩ | ⟨f, -, hno, hfault⟩ := readVariables_cases origin vars Field.all
  · refine .inl ⟨fun f => hreads f (hall f), ?_⟩
    rw [hvalues]
    exact congrArg Except.ok (funext fun f => (lookup_filterMap vars f _).trans (if_pos (hall f)))
  · refine .inr ⟨f, hno, ?_⟩
    rw [hfault]
    rfl

end Variables

/-! ## The load -/

section Load

variable (environment : List (Text × Text)) (file : Option Text)

theorem load_eq : load [] environment file =
    (variableSource .environment (foldCase (Origin.environment.variables environment file))).bind
      fun fromEnvironment =>
        (variableSource .file (foldCase (Origin.file.variables environment file))).bind
          fun fromFile => (check (layer fromEnvironment fromFile)).mapError .invalid := by
  have nothing_given (source : Source) : layer (givenSource []) source = source :=
    funext fun f => by unfold layer; cases source f <;> rfl
  unfold load
  refine congrArg _ (funext fun fromEnvironment => congrArg _ (funext fun fromFile => ?_))
  simp only [nothing_given]
  cases check (layer fromEnvironment fromFile) <;> rfl

/-- A load checks the values of the fields, if every text for one can be read. Else it ends with a
fault about one that cannot. -/
theorem load_cases :
    (Readable environment file ∧
        load [] environment file = (check (values environment file)).mapError .invalid) ∨
      ¬ Readable environment file ∧
        ∃ f origin, load [] environment file = .error (.unreadable f origin) := by
  rw [load_eq]
  obtain ⟨henv, hsource⟩ | ⟨f, hno, hfault⟩ := variableSource_cases .environment
    (Origin.environment.variables environment file)
  · rw [hsource]
    obtain ⟨hfile, hsource⟩ | ⟨f, hno, hfault⟩ := variableSource_cases .file
      (Origin.file.variables environment file)
    · rw [hsource]
      exact .inl ⟨fun origin => by cases origin <;> assumption, rfl⟩
    · rw [hfault]
      exact .inr ⟨fun h => hno (h .file f), f, .file, rfl⟩
  · rw [hfault]
    exact .inr ⟨fun h => hno (h .environment f), f, .environment, rfl⟩

/-- A load ends as it should just when every text for a field can be read. -/
theorem load_endsAsTold_iff :
    EndsAsTold (values environment file) (load [] environment file) ↔
      Readable environment file := by
  obtain ⟨hread, hload⟩ | ⟨hread, f, origin, hload⟩ := load_cases environment file
  · rw [hload]
    exact iff_of_true (check_endsAsTold _) hread
  · rw [hload]
    exact iff_of_false id hread

end Load

end Settings

namespace CommandLine

/-- What a call with this file of variables comes to: a session of the settings that are loaded, or
a refusal of settings that are not right, with nothing done. -/
inductive Opens (request : Request) (file : Option Text) (world : World)
    (result : Except Fault Report) : Prop
  | session {settings : Settings} (loaded : loadSettings file world = .ok settings)
    (performed : result = (perform request.action settings world).map fun report =>
      { report with errors := warnings file ++ report.errors })
  | refused (rest : String) (told : result =
      .ok { exitCode := 2, errors := warnings file ++ ("Invalid configuration: " ++ rest) })

theorem invalidLine_eq (problems : List Problem) :
    ∃ rest, invalidLine problems = "Invalid configuration: " ++ rest := by
  refine ⟨toString problems.length ++ (" validation error" ++
    ((if problems.length = 1 then "" else "s") ++ " for Settings\n")), ?_⟩
  unfold invalidLine
  simp only [String.append_assoc]

variable {args : List Text} {request : Request} {file : Option Text} {world : World}

theorem call_eq (hread : read args = .ok request) (hfile : variableText request world = .ok file) :
    call args world = match loadSettings file world with
      | .error (.unreadable field origin) => .error (.unreadable field origin)
      | .error (.invalid problems) =>
        .ok { exitCode := 2, errors := warnings file ++ invalidLine problems }
      | .ok settings => (perform request.action settings world).map fun report =>
        { report with errors := warnings file ++ report.errors } := by
  simp only [call, hread, hfile, bind, Except.bind]
  cases loadSettings file world with
  | ok settings => cases perform request.action settings world <;> rfl
  | error fault => cases fault <;> rfl

/-- A call comes to a session or to a refusal of the settings just when every text for a field can
be read. -/
theorem opens_call_iff (hread : read args = .ok request)
    (hfile : variableText request world = .ok file) :
    Opens request file world (call args world) ↔ Settings.Readable world.environment file := by
  rw [call_eq hread hfile]
  obtain ⟨hreads, hload⟩ | ⟨hreads, f, origin, hload⟩ := Settings.load_cases world.environment file
  · refine iff_of_true ?_ hreads
    cases hcheck : Settings.check (Settings.values world.environment file) with
    | ok settings =>
      have hloaded : loadSettings file world = .ok settings := by
        rw [loadSettings, hload, hcheck]
        rfl
      rw [hloaded]
      exact .session hloaded rfl
    | error problems =>
      have hinvalid : loadSettings file world = .error (.invalid problems) := by
        rw [loadSettings, hload, hcheck]
        rfl
      obtain ⟨rest, hrest⟩ := invalidLine_eq problems
      rw [hinvalid]
      refine .refused rest ?_
      rw [← hrest]
  · have hfault : loadSettings file world = .error (.unreadable f origin) := hload
    refine iff_of_false (fun hopens => ?_) hreads
    cases hopens with
    | session loaded =>
      rw [hfault] at loaded
      cases loaded
    | refused rest told =>
      rw [hfault] at told
      cases told

end CommandLine

open CommandLine

/-- Settings are loaded as they should be just when every text for a field can be read: a load then
ends with settings, or with a report of just the fields whose values do not fit, and a call of the
program comes to a session or to a refusal. Any text that cannot be read ends both with a fault of
another kind. -/
theorem load_asTold_iff (environment : List (Text × Text)) (file : Option Text) :
    (Settings.EndsAsTold (Settings.values environment file) (Settings.load [] environment file) ↔
        Settings.Readable environment file) ∧
      ∀ {args : List Text} {request : Request} {world : World}, world.environment = environment →
        read args = .ok request → variableText request world = .ok file →
          (Opens request file world (call args world) ↔ Settings.Readable environment file) := by
  refine ⟨Settings.load_endsAsTold_iff environment file, ?_⟩
  rintro args request world rfl hread hfile
  exact opens_call_iff hread hfile

/-- A world with wrong settings: a text that is no level, and JSON for the aliases that is no
record. The file of variables has a list in it, as it should. -/
def CommandLine.World.misset : World where
  environment := [("TERMIPHONE_LOG_LEVEL", "loud"), ("termiphone_Aliases", "[1]")]
  files := {
    home? := fun _ => none
    isDirectory := fun _ => false
    text? := fun path =>
      if path = defaultEnvFile then some "TERMIPHONE_DISABLED_PLUGINS=[\"weather\"]" else none }
  clock := ⟨⟨2026, 10, 19, 12, 34, 56⟩, 0⟩

theorem load_asTold_iff_misset :
    read ["commands"] = .ok { action := .commands } ∧
      variableText { action := .commands } World.misset =
        .ok (some "TERMIPHONE_DISABLED_PLUGINS=[\"weather\"]") ∧
      Settings.Readable World.misset.environment
        (some "TERMIPHONE_DISABLED_PLUGINS=[\"weather\"]") ∧
      Opens { action := .commands } (some "TERMIPHONE_DISABLED_PLUGINS=[\"weather\"]") World.misset
        (call ["commands"] World.misset) :=
  have hread : read ["commands"] = .ok { action := .commands } := by rfl
  have hfile : variableText { action := .commands } World.misset =
      .ok (some "TERMIPHONE_DISABLED_PLUGINS=[\"weather\"]") := by rfl
  have hreads : Settings.Readable World.misset.environment
      (some "TERMIPHONE_DISABLED_PLUGINS=[\"weather\"]") :=
    Settings.readable_iff.2 fun origin => by cases origin <;> decide +kernel
  ⟨hread, hfile, hreads, ((load_asTold_iff _ _).2 rfl hread hfile).2 hreads⟩

/-- With a brace alone for the aliases, a load ends neither with settings nor with a report of them,
and a call comes neither to a session nor to a refusal. -/
theorem load_asTold_ne :
    Settings.load [] [("TERMIPHONE_ALIASES", "\x7b")] none =
        .error (.unreadable .aliases .environment) ∧
      call ["commands"] { World.misset with environment := [("TERMIPHONE_ALIASES", "\x7b")] } =
        .error (.unreadable .aliases .environment) :=
  ⟨by rfl, by rfl⟩

end CommandShell
