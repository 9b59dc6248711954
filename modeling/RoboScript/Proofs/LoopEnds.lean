import RoboScript.Proofs.LoopRuns

/-! The loop always ends. Its potential counts each token left eight times over (the token set
aside with the error symbol too), each state on the stack twice, and a rank of the top state; a
rank certificate for the tables makes the potential fall at every step. A shift trades a token
for a state; a reduction lowers the rank or pops states; at a syntax error the potential drops
by the rank, each pop by two, and dropping the token by eight. So fewer steps than eight for each
token, and eight more, are always enough: `parse` with that much fuel gives what the loop
ends with.

The certificate is checked by computation (`Tables.rankedBy`) on the reductions the action items
hold and the targets the transition items hold. -/

namespace RoboScript.Automaton

/-- A rank of states under which the loop's potential falls at every step: ranks are at most
three, a reduction's target ranks below its state by more than twice the production's length
less two, default reductions pop, and one that pops a single state goes to a state that does not
reduce by default. -/
structure Ranked (T : Tables) (rank : Nat → Nat) : Prop where
  bounded : ∀ s, rank s ≤ 3
  reduces : ∀ s t r production under target, T.action s t = some (.reduce r) →
    T.productions[r]? = some production → T.goto under production.lhs = some target →
    rank target + 2 < rank s + 2 * production.length
  defaults : ∀ s r production under target, T.defaulted s = some r →
    T.productions[r]? = some production → T.goto under production.lhs = some target →
    rank target + 2 < rank s + 2 * production.length ∧
      (production.length = 1 → T.defaulted target = none)
  pops : PopsOnDefault T

/-- The loop's potential at `c`. -/
def potential (T : Tables) (rank : Nat → Nat) (c : Parser) : Nat :=
  8 * (c.input.length + if c.setAside.isSome then 1 else 0) + 2 * c.stack.length +
    match c.stack, c.setAside with
    | [], _ => 0
    | (s, _) :: _, none => rank s + 2
    | (s, _) :: _, some _ => if (T.defaulted s).isSome then 1 else 0

variable {T : Tables} {rank : Nat → Nat} {c c' : Parser}

section Falling

variable {s r : Nat} {v : Parsed} {below : List (Nat × Parsed)}

/-- A reduction lowers the potential when its production's targets rank low enough, or, with the
error symbol pending, when it reduces by default and pops. -/
theorem reduce_falls (top : c.stack = (s, v) :: below)
    (bound : ∀ production under target, T.productions[r]? = some production →
      T.goto under production.lhs = some target →
      (c.setAside = none → rank target + 2 < rank s + 2 * production.length) ∧
      (c.setAside.isSome → 0 < production.length ∧
        (production.length = 1 → T.defaulted target = none) ∧ (T.defaulted s).isSome))
    (next : reduce T r c = .next c') : potential T rank c' < potential T rank c := by
  unfold reduce at next
  split at next
  · cases next
  · next production found =>
    split at next
    · next under w rest sem dropped semantic =>
      split at next
      · next target goto =>
        cases next
        have size : rest.length + 1 = c.stack.length - production.length := by
          rw [← List.length_drop, dropped, List.length_cons]
        obtain ⟨low, popping⟩ := bound production under target found goto
        simp only [potential, top, List.length_cons] at size ⊢
        cases aside : c.setAside with
        | none =>
          have := low aside
          simp only [Option.isSome_none, Bool.false_eq_true, ↓reduceIte]
          omega
        | some t =>
          obtain ⟨pops, single, default⟩ := popping (by simp [aside])
          simp only [Option.isSome_some, ↓reduceIte, default]
          by_cases one : production.length = 1
          · simp only [single one, Option.isSome_none, Bool.false_eq_true, ↓reduceIte]
            omega
          · split <;> omega
      · cases next
    · cases next

/-- Each step lowers the potential. -/
theorem step_falls (ranked : Ranked T rank) (next : step T c = .next c') :
    potential T rank c' < potential T rank c := by
  unfold step at next
  split at next
  · cases next
  · next s v below top =>
    split at next
    · next r reduces =>
      refine reduce_falls top (fun production under target found goto => ⟨fun _ => ?_, fun _ => ?_⟩) next
      · exact (ranked.defaults s r production under target reduces found goto).1
      · exact ⟨ranked.pops s r production reduces found,
          (ranked.defaults s r production under target reduces found goto).2, by simp [reduces]⟩
    · next reads =>
      have bounded := ranked.bounded s
      split at next
      · next t aside =>
        split at next
        · cases next
          simp only [potential, top, aside, reads, List.length_cons, List.length_nil]
          simp
          omega
        · next f fs =>
          cases next
          have low : (if (T.defaulted f.1).isSome then 1 else 0) ≤ 1 := by split <;> omega
          simp only [potential, top, aside, reads, List.length_cons]
          simp only [Option.isSome_some, ↓reduceIte, Option.isSome_none, Bool.false_eq_true]
          omega
      · next aside =>
        split at next
        · next target t rest shifts input =>
          cases next
          have := ranked.bounded target
          simp only [potential, top, aside, input, List.length_cons]
          simp
          omega
        · cases next
        · rename_i reduces
          refine reduce_falls top (fun production under target found goto => ⟨fun _ => ?_, ?_⟩) next
          · exact ranked.reduces s _ _ production under target reduces found goto
          · simp [aside]
        · split at next <;> cases next
        · unfold fail at next
          split at next
          · cases next
          · next t rest input =>
            repeat' split at next
            all_goals
              cases next
              simp only [potential, top, aside, input, reads, List.length_cons]
              simp

theorem run_finishes (ranked : Ranked T rank) {n : Nat} (enough : potential T rank c < n) :
    Finishes T c (run T n c) := by
  induction n generalizing c with
  | zero => omega
  | succ n more =>
    cases next : step T c with
    | next c' =>
      have falls := step_falls ranked next
      simpa [run, next] using Finishes.of_next next (more (by omega))
    | done p errors => simpa [run, next] using Finishes.of_done next

/-- What `parse` gives is what the loop ends with from the start: its fuel is always enough. -/
theorem parse_finishes (ranked : Ranked T rank) (ts : List Token) :
    Finishes T (.start ts) (parse T ts) := by
  refine run_finishes ranked ?_
  have := ranked.bounded 0
  simp only [potential, Parser.start, List.length_cons, List.length_nil, Option.isSome_none]
  simp
  omega

theorem parse_eq_of_finishes (ranked : Ranked T rank) {ts : List Token}
    {r : Option Program × List SyntaxError} (ends : Finishes T (.start ts) r) : parse T ts = r :=
  (parse_finishes ranked ts).unique ends

end Falling

section Certificate

/-- The targets of the transitions on `n`. -/
def Tables.targets (T : Tables) (n : Nonterminal) : List Nat :=
  (T.gotoItems.filter (·.nonterminal == n)).flatMap (·.targets)

/-- Every reduction the action items hold, with its state. -/
def Tables.reductions (T : Tables) : List (Nat × Nat) :=
  T.actionItems.flatMap fun item => (item.states.zip item.actions).filterMap fun (s, a) =>
    match Action.ofInt a with
    | .reduce r => some (s, r)
    | _ => none

/-- Whether the ranks listed, by state, are a rank certificate for the tables. -/
def Tables.rankedBy (T : Tables) (ranks : List Nat) : Bool :=
  ranks.all (· ≤ 3) && T.reductions.all fun (s, r) =>
    match T.productions[r]? with
    | none => true
    | some production =>
      (T.targets production.lhs).all (fun target =>
        ranks.getD target 0 + 2 < ranks.getD s 0 + 2 * production.length) &&
      (T.defaulted s != some r || (0 < production.length &&
        (production.length != 1 || (T.targets production.lhs).all fun target =>
          T.defaulted target == none)))

variable {s t r under target : Nat} {n : Nonterminal}

theorem Tables.goto_mem_targets (goto : T.goto under n = some target) : target ∈ T.targets n := by
  unfold Tables.goto at goto
  obtain ⟨item, found, looked⟩ := Option.bind_eq_some_iff.1 goto
  obtain ⟨front, back, split, _⟩ := List.lookup_eq_some_iff.1 looked
  have pair : (under, target) ∈ item.states.zip item.targets := by simp [split]
  have named : (item.nonterminal == n) = true := List.find?_some (p := fun (x : GotoItem) => x.nonterminal == n) found
  simp only [Tables.targets, List.mem_flatMap, List.mem_filter]
  exact ⟨item, ⟨List.mem_of_find?_eq_some found, named⟩, (List.of_mem_zip pair).2⟩

theorem Tables.mem_reductions {item : ActionItem} (held : item ∈ T.actionItems) {a : Int}
    (pair : (s, a) ∈ item.states.zip item.actions) (reduces : Action.ofInt a = .reduce r) :
    (s, r) ∈ T.reductions := by
  simp only [Tables.reductions, List.mem_flatMap, List.mem_filterMap]
  exact ⟨item, held, (s, a), pair, by simp [reduces]⟩

theorem Tables.action_mem_reductions {term : Terminal}
    (reduces : T.action s term = some (.reduce r)) : (s, r) ∈ T.reductions := by
  unfold Tables.action at reduces
  obtain ⟨item, found, looked⟩ := Option.bind_eq_some_iff.1 reduces
  obtain ⟨a, looked, decoded⟩ := Option.map_eq_some_iff.1 looked
  obtain ⟨front, back, split, _⟩ := List.lookup_eq_some_iff.1 looked
  exact T.mem_reductions (List.mem_of_find?_eq_some found) (by simp [split]) decoded

theorem Tables.defaulted_mem_reductions (reduces : T.defaulted s = some r) :
    (s, r) ∈ T.reductions := by
  obtain ⟨term, only⟩ : ∃ term, T.actions s = [(term, Action.reduce r)] := by
    unfold Tables.defaulted at reduces
    split at reduces
    · next term r' only =>
      cases reduces
      exact ⟨term, only⟩
    · cases reduces
  have held : (term, Action.reduce r) ∈ T.actions s := by simp [only]
  simp only [Tables.actions, List.mem_filterMap] at held
  obtain ⟨item, mem, looked⟩ := held
  obtain ⟨a, looked, decoded⟩ := Option.map_eq_some_iff.1 looked
  obtain ⟨front, back, split, _⟩ := List.lookup_eq_some_iff.1 looked
  simp only [Prod.mk.injEq] at decoded
  exact T.mem_reductions mem (by simp [split]) decoded.2

theorem List.getD_le_of_all {l : List Nat} {bound : Nat} (all : ∀ x ∈ l, x ≤ bound)
    (i : Nat) : l.getD i 0 ≤ bound := by
  rw [List.getD_eq_getElem?_getD]
  cases found : l[i]? with
  | none => simp
  | some x => exact all x (List.mem_of_getElem? found)

/-- A certificate that passes the check ranks the tables. -/
theorem Tables.ranked_of_rankedBy {ranks : List Nat} (checked : T.rankedBy ranks = true) :
    Ranked T (ranks.getD · 0) := by
  simp only [Tables.rankedBy, Bool.and_eq_true, List.all_eq_true, decide_eq_true_eq] at checked
  obtain ⟨bounded, each⟩ := checked
  have check : ∀ s r production, (s, r) ∈ T.reductions → T.productions[r]? = some production →
      (∀ target ∈ T.targets production.lhs,
        ranks.getD target 0 + 2 < ranks.getD s 0 + 2 * production.length) ∧
      (T.defaulted s = some r → 0 < production.length ∧ (production.length = 1 →
        ∀ target ∈ T.targets production.lhs, T.defaulted target = none)) := by
    intro s r production mem found
    have := each (s, r) mem
    simp only [found, Bool.and_eq_true, List.all_eq_true, decide_eq_true_eq, Bool.or_eq_true,
      bne_iff_ne, ne_eq, beq_iff_eq] at this
    obtain ⟨ranked, defaults⟩ := this
    refine ⟨ranked, fun reduces => ?_⟩
    rcases defaults with other | ⟨positive, single⟩
    · exact absurd reduces other
    · exact ⟨positive, fun one => by simpa [one] using single⟩
  refine ⟨List.getD_le_of_all bounded, ?_, ?_, ?_⟩
  · intro s term r production under target reduces found goto
    exact (check s r production (T.action_mem_reductions reduces) found).1 target
      (T.goto_mem_targets goto)
  · intro s r production under target reduces found goto
    have facts := check s r production (T.defaulted_mem_reductions reduces) found
    exact ⟨facts.1 target (T.goto_mem_targets goto),
      fun one => (facts.2 reduces).2 one target (T.goto_mem_targets goto)⟩
  · intro s r production reduces found
    exact ((check s r production (T.defaulted_mem_reductions reduces) found).2 reduces).1

end Certificate

end RoboScript.Automaton
