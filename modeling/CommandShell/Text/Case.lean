import CommandShell.Text.CaseTable

/-!
Lower and upper case of whole texts. Neither mapping is per code point: a capital sigma becomes a
final sigma at the end of a word, and some letters become several characters.

`lower_append_of_no_sigma` says where lower case does act code point by code point.
-/

namespace CommandShell.Text

/-- The code points that are passed over when the neighbours of a letter are looked at. -/
def isCaseIgnorable (c : CodePoint) : Bool := caseIgnorableRanges.has c

/-- A letter that has case. -/
def isCased (c : CodePoint) : Bool := casedRanges.has c

/-- The number lies on the run. -/
def CaseRun.covers (r : CaseRun) (n : Nat) : Bool :=
  r.first ≤ n && n ≤ r.last && (n - r.first) % r.step == 0

/-- The code point that the first run through `c` maps it to; `c` itself if there is none. -/
def mapByRuns (runs : List CaseRun) (c : CodePoint) : CodePoint :=
  match runs.find? (·.covers c.value) with
  | some r => .ofNat (c.value + r.offset).toNat
  | none => c

/-- The capital sigma. -/
def capitalSigma : CodePoint := 'Σ'

/-- Lower case of one code point, away from any word. Only the dotted capital I becomes two
characters. -/
def lowerOne (c : CodePoint) : Text :=
  if c = 'İ' then ['i', .ofNat 0x307] else [mapByRuns lowerRuns c]

/-- Upper case of one code point. -/
def upperOne (c : CodePoint) : Text :=
  match upperExpansions.lookup c.value with
  | some ns => ns.map .ofNat
  | none => [mapByRuns upperRuns c]

/-- A cased letter comes next, ignorable code points apart. -/
def startsCased (t : Text) : Bool :=
  match t.dropWhile isCaseIgnorable with
  | [] => false
  | c :: _ => isCased c

/-- Lower case of a text, where `inWord` says whether a cased letter stands before it, ignorable
code points apart. A capital sigma that ends a word becomes a final sigma. -/
def lowerFrom (inWord : Bool) : Text → Text
  | [] => []
  | c :: t =>
    let low : Text :=
      if c = capitalSigma then [.char (if inWord && !startsCased t then 'ς' else 'σ')]
      else lowerOne c
    low ++ lowerFrom (if isCaseIgnorable c then inWord else isCased c) t

/-- The text in lower case. -/
def lower (t : Text) : Text := lowerFrom false t

/-- The text in upper case. -/
def upper (t : Text) : Text := t.flatMap upperOne

/-- Without a capital sigma, the case of a letter does not depend on its neighbours. -/
theorem lowerFrom_of_no_sigma {t : Text} (h : capitalSigma ∉ t) (b : Bool) :
    lowerFrom b t = t.flatMap lowerOne := by
  induction t generalizing b with
  | nil => rfl
  | cons c t ih =>
    have hc : c ≠ capitalSigma := fun e => h (by simp [e])
    have ht : capitalSigma ∉ t := fun m => h (List.mem_cons_of_mem _ m)
    simp [lowerFrom, hc, ih ht]

theorem lower_append_of_no_sigma {s t : Text} (hs : capitalSigma ∉ s) (ht : capitalSigma ∉ t) :
    lower (s ++ t) = lower s ++ lower t := by
  have hst : capitalSigma ∉ s ++ t := by simp [hs, ht]
  simp [lower, lowerFrom_of_no_sigma hst, lowerFrom_of_no_sigma hs, lowerFrom_of_no_sigma ht]

end CommandShell.Text
