import CommandShell.Proofs.Nesting

/-!
Routing comes to an end.

`Activates` is one macro that is started inside a call, up to one of its lines, which is a call
again; `Nested` is a chain of those. Along a chain the names of the macros are distinct and parts
of the texts at the start (`Nested.spec`), so chains are shorter than the bound that
`Session.route` takes. The bound is therefore never met (`routeWithin_ne_tooDeep`), and routing
satisfies its recursion without any bound (`route_unfolds`). `routing_ends` puts this together for
calls and for lines.
-/

namespace CommandShell

/-! ## The measure -/

/-- The number of parts of the texts that are not the name of a running macro. -/
def free (ts : List Text) (s : Session) : Nat :=
  ((parts ts).toFinset \ s.macros.running.toFinset).card

theorem free_le (ts : List Text) (s : Session) : free ts s ≤ (parts ts).length :=
  (Finset.card_le_card Finset.sdiff_subset).trans (List.toFinset_card_le _)

theorem free_congr {ts : List Text} {s t : Session} (h : s.macros.running = t.macros.running) :
    free ts s = free ts t := by
  unfold free
  rw [h]

/-- A macro that starts is no longer free. -/
theorem free_enter_lt {ts : List Text} {s : Session} {name : Text} (hp : IsPart ts name)
    (hr : name ∉ s.macros.running) : free ts (s.enter name) < free ts s := by
  refine Finset.card_lt_card ((Finset.ssubset_iff_of_subset ?_).2 ⟨name, ?_, ?_⟩)
  · intro x hx
    rw [Finset.mem_sdiff, List.mem_toFinset, List.mem_toFinset] at hx ⊢
    exact ⟨hx.1, fun hm => hx.2 (List.mem_cons_of_mem name hm)⟩
  · rw [Finset.mem_sdiff, List.mem_toFinset, List.mem_toFinset]
    exact ⟨mem_parts.2 hp, hr⟩
  · rw [Finset.mem_sdiff, List.mem_toFinset, List.mem_toFinset]
    exact fun h => h.2 List.mem_cons_self

theorem free_lt_depthBound (s : Session) (i : Invocation) :
    free s.texts s < s.depthBound i := by
  have hlen := free_le s.texts s
  have hbound := length_parts_le s.texts (i.line :: i.tokens ++ [(s.registry.resolve i).line])
  rw [← List.append_assoc] at hbound
  exact Nat.lt_of_lt_of_le (Nat.lt_succ_of_le hlen) hbound

/-! ## The bound is not met -/

theorem routeWith_ne_tooDeep {run : MacroRunner} {i : Invocation} {s : Session}
    (h : ∀ name, (run name s).outcome ≠ .tooDeep) : (routeWith run i s).outcome ≠ .tooDeep := by
  rcases routeWith_cases i s with hn | ⟨hn, hc⟩ | ⟨hn, c, hc⟩
  · rw [routeWith_nothing hn]
    exact Outcome.noConfusion
  · rw [routeWith_unknown hn hc]
    exact Outcome.noConfusion
  · rw [routeWith_call hn hc]
    intro ht
    have hp := (settle_fst_eq_tooDeep_iff _ _).1 ht
    rcases perform_cases run c.body (s.registry.resolve i) s with
      ⟨r, hr⟩ | ⟨s', es, text, -, hr⟩ | ⟨name, -, -, hr⟩
    · rw [hr] at hp
      cases hp
    · rw [hr] at hp
      cases hp
    · rw [hr] at hp
      exact h name hp

/-- Lines whose routing does not meet the bound are run without meeting it. `P` is what holds of
the sessions between the lines. -/
theorem routeLines_ne_tooDeep {route : Router} {P : Session → Prop} {name : Text}
    {lines : List Text}
    (hroute : ∀ line ∈ lines, ∀ s, P s →
      (route (.ofLine line) s).outcome ≠ .tooDeep ∧ P (route (.ofLine line) s).session)
    (outputs : List Text) {s : Session} (hs : P s) :
    (routeLines route name outputs lines s).outcome ≠ .tooDeep := by
  induction lines generalizing outputs s with
  | nil => exact Ending.noConfusion
  | cons line lines ih =>
    obtain ⟨hne, hline⟩ := hroute line List.mem_cons_self s hs
    rcases Classical.em (route (.ofLine line) s).outcome.Passes with ⟨output, ho⟩ | ho
    · rw [routeLines_cons_done ho]
      exact ih (fun l hl => hroute l (List.mem_cons_of_mem line hl)) _ hline
    · rw [routeLines_cons_stopped ho]
      exact fun ht => hne (Outcome.stopping_eq_tooDeep_iff.1 ht)

/-- More macros than there are free parts cannot nest. -/
theorem routeWithin_ne_tooDeep {ts : List Text} {depth : Nat} {s : Session} (hs : Within ts s)
    (hd : free ts s < depth) (i : Invocation) : (routeWithin depth i s).outcome ≠ .tooDeep := by
  induction depth generalizing i s with
  | zero => omega
  | succ depth ih =>
    refine routeWith_ne_tooDeep fun name => ?_
    cases hl : s.macros.linesToRun name with
    | error fault =>
      rw [runMacroWith_error hl]
      exact Ending.noConfusion
    | ok lines =>
      rw [runMacroWith_ok hl]
      obtain ⟨hlines, hrunning⟩ := linesToRun_eq_ok_iff.1 hl
      obtain ⟨hname, hparts⟩ := hs.macros hlines
      -- Every line leaves the same macros running, so no line makes more parts free.
      have hlt := free_enter_lt hname hrunning
      refine routeLines_ne_tooDeep (P := fun t => Within ts t ∧ free ts t < depth) ?_ []
        ⟨(kept_within ts).enter hs hl, by omega⟩
      rintro line hline t ⟨ht, hfree⟩
      refine ⟨ih ht hfree _, (kept_within ts).routeWithin depth
        (Invocation.ofLine_isWithin (hparts line hline)) ht, ?_⟩
      rwa [free_congr (running_routeWithin depth (.ofLine line) t)]

theorem route_ne_tooDeep (s : Session) (i : Invocation) : (s.route i).outcome ≠ .tooDeep :=
  routeWithin_ne_tooDeep (within_texts s) (free_lt_depthBound s i) i

/-- Every bound that is not met gives the answer of `Session.route`. -/
theorem routeWithin_eq_route {depth : Nat} {i : Invocation} {s : Session}
    (h : (routeWithin depth i s).outcome ≠ .tooDeep) : routeWithin depth i s = s.route i :=
  routeWithin_eq h (route_ne_tooDeep s i)

theorem extends_router (depth : Nat) : Router.Extends (routeWithin depth) Session.router :=
  fun _ _ h => (routeWithin_eq_route h).symm

/-- The recursion of routing, without a bound. -/
theorem route_unfolds (s : Session) (i : Invocation) :
    s.route i = routeWith (runMacroWith Session.router) i s := by
  have hd : (routeWithin (s.depthBound i + 1) i s).outcome ≠ .tooDeep :=
    routeWithin_ne_tooDeep (within_texts s) (Nat.lt_succ_of_lt (free_lt_depthBound s i)) i
  rw [← routeWithin_eq_route hd]
  exact ((extends_router (s.depthBound i)).runMacroWith.routeWith i s hd).symm

/-! ## Chains of running macros -/

/-- A call: an invocation and the session in which it is routed. -/
structure Call where
  invocation : Invocation
  session : Session

/-- The first call runs the macro `name` of its session, and after some lines of that macro have
come to their ends the second call routes the next one. -/
inductive Activates : Call → Text → Call → Prop
  | line {i : Invocation} {s : Session} {c : Command} {name : Text} {r : Response} {v : Value}
      {before after : List Text} {line : Text} {m : Run Ending} (typed : i.command ≠ [])
      (found : s.registry.commands.get? (s.registry.resolve i).command = some c)
      (answer : c.body.respond (s.registry.resolve i) s = r) (asked : r.next = .runMacro name)
      (started : r.session.macros.linesToRun name = .ok (before ++ line :: after))
      (ran : routeLines Session.router name [] before (r.session.enter name) = m)
      (passed : m.outcome = .reply (.value v)) :
      Activates ⟨i, s⟩ name ⟨.ofLine line, m.session⟩

/-- `Nested a names b`: inside the call `a` the macros `names` run, each inside the next one of the
list, and the innermost of them routes the call `b`. -/
inductive Nested (a : Call) : List Text → Call → Prop
  | here : Nested a [] a
  | deeper {names : List Text} {b c : Call} {name : Text} (h : Nested a names b)
      (ha : Activates b name c) : Nested a (name :: names) c

theorem running_router (i : Invocation) (s : Session) :
    (Session.router i s).session.macros.running = s.macros.running :=
  running_routeWithin _ i s

/-- A macro that a call activates was not running, its name is part of the texts, and its lines are
routed with it running. -/
theorem Activates.spec {ts : List Text} {a b : Call} {name : Text} (h : Activates a name b)
    (ha : Within ts a.session) :
    name ∉ a.session.macros.running ∧ IsPart ts name ∧
      b.session.macros.running = name :: a.session.macros.running ∧ Within ts b.session := by
  cases h with
  | @line i s c _ r v before after line m typed found answer asked started ran passed =>
    have hr : r.session = s := by
      have hb := c.body.answers (s.registry.resolve i) s
      rw [answer] at hb
      cases hb with
      | reply | change => cases asked
      | run => rfl
    rw [hr] at started ran
    obtain ⟨hlines, hrunning⟩ := linesToRun_eq_ok_iff.1 started
    obtain ⟨hname, hparts⟩ := ha.macros hlines
    subst ran
    refine ⟨hrunning, hname, running_routeLines running_router name [] before _, ?_⟩
    refine Session.Kept.routeLines (fun i hi t ht => (kept_within ts).route hi ht) name ?_ []
      ((kept_within ts).enter ha started)
    intro l hl
    exact Invocation.ofLine_isWithin (hparts l (List.mem_append_left _ hl))

/-- Along a chain the running macros are those of the chain and those that ran before it. -/
theorem Nested.spec {ts : List Text} {a b : Call} {names : List Text} (h : Nested a names b)
    (ha : Within ts a.session) :
    b.session.macros.running = names ++ a.session.macros.running ∧ Within ts b.session ∧
      names.Nodup ∧ ∀ name ∈ names, IsPart ts name := by
  induction h with
  | here => exact ⟨rfl, ha, List.nodup_nil, fun _ h => (List.not_mem_nil h).elim⟩
  | @deeper names b c name _ hact ih =>
    obtain ⟨hrunning, hb, hnodup, hparts⟩ := ih
    obtain ⟨hnew, hpart, hc, hcw⟩ := hact.spec hb
    rw [hrunning] at hnew hc
    refine ⟨hc, hcw, ?_, ?_⟩
    · exact List.nodup_cons.2 ⟨fun hm => hnew (List.mem_append_left _ hm), hnodup⟩
    · intro n hn
      rcases List.mem_cons.1 hn with rfl | hn
      · exact hpart
      · exact hparts n hn

/-- A chain is shorter than the bound that `Session.route` takes. -/
theorem Nested.length_lt {i : Invocation} {s : Session} {names : List Text} {b : Call}
    (h : Nested ⟨i, s⟩ names b) : names.length < s.depthBound i := by
  obtain ⟨-, -, hnodup, hparts⟩ := h.spec (within_texts s)
  have hsub : names ⊆ parts s.texts := fun name hn => mem_parts.2 (hparts name hn)
  have hlen := (hnodup.subperm hsub).length_le
  have hbound := length_parts_le s.texts (i.line :: i.tokens ++ [(s.registry.resolve i).line])
  rw [← List.append_assoc] at hbound
  exact Nat.lt_of_lt_of_le (Nat.lt_succ_of_le hlen) hbound

/-- The calls inside a call are well-founded. -/
theorem acc_activates (s : Session) (i : Invocation) :
    Acc (fun b a => ∃ name, Activates a name b) ⟨i, s⟩ := by
  -- The induction is on how much longer a chain from the first call can get.
  suffices h : ∀ n names b, Nested ⟨i, s⟩ names b → s.depthBound i - names.length ≤ n →
      Acc (fun b a => ∃ name, Activates a name b) b from h _ [] _ .here (Nat.le_refl _)
  intro n
  induction n with
  | zero =>
    intro names b hb hn
    have := hb.length_lt
    omega
  | succ n ih =>
    intro names b hb hn
    refine Acc.intro b ?_
    rintro c ⟨name, hact⟩
    refine ih (name :: names) c (hb.deeper hact) ?_
    rw [List.length_cons]
    omega

/-! ## The recursion has one solution -/

/-- Two routers that agree on every line that comes up run the lines of a macro alike. -/
theorem routeLines_congr {route route' : Router} {name : Text} {lines outputs : List Text}
    {s : Session}
    (h : ∀ before line after v, lines = before ++ line :: after →
      (routeLines route name outputs before s).outcome = .reply (.value v) →
        route' (.ofLine line) (routeLines route name outputs before s).session =
          route (.ofLine line) (routeLines route name outputs before s).session) :
    routeLines route' name outputs lines s = routeLines route name outputs lines s := by
  induction lines generalizing outputs s with
  | nil => rfl
  | cons line lines ih =>
    have hline : route' (.ofLine line) s = route (.ofLine line) s := h [] line lines _ rfl rfl
    rcases Classical.em (route (.ofLine line) s).outcome.Passes with ⟨output, ho⟩ | ho
    · rw [routeLines_cons_done ho, routeLines_cons_done (by rw [hline, ho]), hline, ih]
      intro before l after v hl hv
      have hnext := h (line :: before) l after v (by rw [hl]; rfl)
      rw [routeLines_cons_done ho] at hnext
      exact hnext hv
    · rw [routeLines_cons_stopped ho, routeLines_cons_stopped (by rwa [hline]), hline]

/-- The calls that `Activates` lists are all that routing needs. -/
theorem routeWith_congr_of_activates {route : Router} {i : Invocation} {s : Session}
    (h : ∀ name b, Activates ⟨i, s⟩ name b →
      route b.invocation b.session = b.session.route b.invocation) :
    routeWith (runMacroWith route) i s = routeWith (runMacroWith Session.router) i s := by
  rcases routeWith_cases i s with hn | ⟨hn, hc⟩ | ⟨hn, c, hc⟩
  · rw [routeWith_nothing hn, routeWith_nothing hn]
  · rw [routeWith_unknown hn hc, routeWith_unknown hn hc]
  · rw [routeWith_call hn hc, routeWith_call hn hc]
    congr 1
    cases hr : c.body.respond (s.registry.resolve i) s with
    | mk s' es next =>
      unfold perform
      rw [hr]
      cases next with
      | reply r => rfl
      | runMacro name =>
        dsimp only
        cases hl : s'.macros.linesToRun name with
        | error fault => rw [runMacroWith_error hl, runMacroWith_error hl]
        | ok lines =>
          have hlines : routeLines route name [] lines (s'.enter name) =
              routeLines Session.router name [] lines (s'.enter name) := by
            refine routeLines_congr ?_
            rintro before line after v rfl hv
            exact h name _ (.line hn hc hr rfl hl rfl hv)
          rw [runMacroWith_ok hl, runMacroWith_ok hl, hlines]

/-- Whatever satisfies the recursion of routing is `Session.route`. -/
theorem eq_route_of_unfolds {route : Router}
    (h : ∀ i s, route i s = routeWith (runMacroWith route) i s) (i : Invocation) (s : Session) :
    route i s = s.route i := by
  suffices hc : ∀ c : Call, Acc (fun b a => ∃ name, Activates a name b) c →
      route c.invocation c.session = c.session.route c.invocation from
    hc ⟨i, s⟩ (acc_activates s i)
  intro c hacc
  induction hacc with
  | intro c _ ih =>
    rw [h, route_unfolds]
    exact routeWith_congr_of_activates fun name b hb => ih b ⟨name, hb⟩

/-- What it means that the routing of an invocation comes to an end. -/
structure Session.RoutingEnds (s : Session) (i : Invocation) : Prop where
  /-- The answer satisfies the recursion, which has no bound. -/
  unfolds : s.route i = routeWith (runMacroWith Session.router) i s
  /-- Nothing else satisfies it. -/
  unique : ∀ route : Router, (∀ i s, route i s = routeWith (runMacroWith route) i s) →
    route i s = s.route i
  /-- The calls that the recursion makes, one inside the other, come to an end. -/
  wellFounded : Acc (fun b a => ∃ name, Activates a name b) ⟨i, s⟩
  /-- The answer is not that too many macros are active. -/
  answered : (s.route i).outcome ≠ .tooDeep
  /-- A larger bound would give the same answer. -/
  settled : ∀ depth, s.depthBound i ≤ depth → routeWithin depth i s = s.route i
  /-- Macros that run one inside the other have different names. -/
  distinct : ∀ names b, Nested ⟨i, s⟩ names b → names.Nodup
  /-- Their names are parts of texts that the session holds at the start. -/
  part : ∀ names b, Nested ⟨i, s⟩ names b → ∀ name ∈ names, ∃ t ∈ s.texts, name <:+: t
  /-- So only so many of them nest. -/
  bounded : ∀ names b, Nested ⟨i, s⟩ names b → names.length < s.depthBound i

theorem routingEnds_route (s : Session) (i : Invocation) : s.RoutingEnds i where
  unfolds := route_unfolds s i
  unique _ h := eq_route_of_unfolds h i s
  wellFounded := acc_activates s i
  answered := route_ne_tooDeep s i
  settled _ h := extends_routeWithin h i s (route_ne_tooDeep s i)
  distinct _ _ h := (h.spec (within_texts s)).2.2.1
  part _ _ h := (h.spec (within_texts s)).2.2.2
  bounded _ _ h := h.length_lt

/-- Routing an invocation and executing a line come to an end, in every session and whatever its
aliases and macros say. -/
theorem routing_ends (s : Session) :
    (∀ i, s.RoutingEnds i) ∧
      ∀ line, (s.execute line).outcome ≠ .tooDeep ∧
        (s.remember line).RoutingEnds (.ofLine line) :=
  ⟨routingEnds_route s, fun _ => ⟨route_ne_tooDeep _ _, routingEnds_route _ _⟩⟩

end CommandShell
