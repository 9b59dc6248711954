import RoboScript.Proofs.ParseComplete

/-! The reader looks at most one token past what it reads. Whatever a parse gives on some
tokens, success or failure, it gives again on the tokens it read followed by anything that starts
with the same token as what it left, and it stops at the same place. So a failure at a token
depends on nothing after that token. -/

namespace RoboScript.Grammar

/-- The parse `p` fails and stops at `rest`. -/
def Fails {ts : List Token} {β : Type} (p : Except (Rest ts) β) (rest : List Token) : Prop :=
  ∃ s : Rest ts, p = .error s ∧ s.tokens = rest

/-- The parse `p` of `ts` reads some tokens and looks at most at the one after them: on what it
read followed by any tokens starting like the ones it left, it gives the same and stops there. -/
def LooksAhead {α : Type} (p : (us : List Token) → Strict us α) (ts : List Token) : Prop :=
  match p ts with
  | .ok (a, l) =>
    ∃ pre, ts = pre ++ l.tokens ∧ ∀ v, v.head? = l.tokens.head? → Yields (p (pre ++ v)) a v
  | .error s =>
    ∃ pre, ts = pre ++ s.tokens ∧ ∀ v, v.head? = s.tokens.head? → Fails (p (pre ++ v)) v

/-- `LooksAhead` for a parse that may read nothing. -/
def LooksAheadLax {α : Type} (p : (us : List Token) → Lax us α) (ts : List Token) : Prop :=
  match p ts with
  | .ok (a, r) =>
    ∃ pre, ts = pre ++ r.tokens ∧ ∀ v, v.head? = r.tokens.head? → YieldsLax (p (pre ++ v)) a v
  | .error s =>
    ∃ pre, ts = pre ++ s.tokens ∧ ∀ v, v.head? = s.tokens.head? → Fails (p (pre ++ v)) v

section Views

variable {α : Type} {ts : List Token}

theorem LooksAhead.yields {p : (us : List Token) → Strict us α} {a : α} {l : Leftover ts}
    (ahead : LooksAhead p ts) (h : p ts = .ok (a, l)) :
    ∃ pre, ts = pre ++ l.tokens ∧ ∀ v, v.head? = l.tokens.head? → Yields (p (pre ++ v)) a v := by
  unfold LooksAhead at ahead
  rwa [h] at ahead

theorem LooksAhead.fails {p : (us : List Token) → Strict us α} {s : Rest ts}
    (ahead : LooksAhead p ts) (h : p ts = .error s) :
    ∃ pre, ts = pre ++ s.tokens ∧ ∀ v, v.head? = s.tokens.head? → Fails (p (pre ++ v)) v := by
  unfold LooksAhead at ahead
  rwa [h] at ahead

theorem LooksAheadLax.yields {p : (us : List Token) → Lax us α} {a : α} {r : Rest ts}
    (ahead : LooksAheadLax p ts) (h : p ts = .ok (a, r)) :
    ∃ pre, ts = pre ++ r.tokens ∧ ∀ v, v.head? = r.tokens.head? → YieldsLax (p (pre ++ v)) a v := by
  unfold LooksAheadLax at ahead
  rwa [h] at ahead

theorem LooksAheadLax.fails {p : (us : List Token) → Lax us α} {s : Rest ts}
    (ahead : LooksAheadLax p ts) (h : p ts = .error s) :
    ∃ pre, ts = pre ++ s.tokens ∧ ∀ v, v.head? = s.tokens.head? → Fails (p (pre ++ v)) v := by
  unfold LooksAheadLax at ahead
  rwa [h] at ahead

end Views

theorem head?_append_congr {pre x y : List Token} (same : x.head? = y.head?) :
    (pre ++ x).head? = (pre ++ y).head? := by
  cases pre <;> simp [same]

theorem eq_nil_of_head?_eq_none {v : List Token} (same : v.head? = ([] : List Token).head?) :
    v = [] := by
  simpa using same

theorem eq_cons_of_head?_eq {v r : List Token} {t : Token} (same : v.head? = (t :: r).head?) :
    ∃ w, v = t :: w := by
  cases v with
  | nil => simp at same
  | cons u w =>
    simp only [List.head?_cons, Option.some.injEq] at same
    exact ⟨w, by rw [same]⟩

theorem expect_looksAhead (test : TokenKind → Bool) (ts : List Token) :
    LooksAhead (expect test) ts := by
  unfold LooksAhead
  split
  · next t l read =>
    obtain ⟨shape, passes⟩ := expect_ok read
    exact ⟨[t], by simp [shape], fun v _ => expect_yields test passes rfl⟩
  · next s read =>
    cases ts with
    | nil =>
      simp only [expect] at read
      cases read
      refine ⟨[], rfl, fun v same => ?_⟩
      rw [eq_nil_of_head?_eq_none same]
      exact ⟨Rest.here [], rfl, rfl⟩
    | cons t r =>
      simp only [expect] at read
      split at read
      · cases read
      · next refused =>
        cases read
        refine ⟨[], rfl, fun v same => ?_⟩
        obtain ⟨w, rfl⟩ := eq_cons_of_head?_eq same
        exact ⟨Rest.here (t :: w), by simp [expect, refused], rfl⟩

theorem arguments_eq_moreArguments {ts : List Token}
    (quiet : ∀ t ∈ ts.head?, startsExpr t.kind = false) : arguments ts = moreArguments [] ts := by
  cases ts with
  | nil => unfold arguments moreArguments; rfl
  | cons t r =>
    have quiet := quiet t rfl
    unfold arguments
    simp [quiet]

theorem LooksAhead.refuses {α : Type} {p : (us : List Token) → Strict us α} {t : Token}
    {r : List Token} (refused : ∀ w, p (t :: w) = .error (Rest.here (t :: w))) :
    LooksAhead p (t :: r) := by
  unfold LooksAhead
  rw [refused]
  refine ⟨[], rfl, fun v head => ?_⟩
  obtain ⟨w, rfl⟩ := eq_cons_of_head?_eq head
  exact ⟨_, refused w, rfl⟩

section UnaryCases

variable {t : Token} {r : List Token}

theorem unary_nil_looksAhead : LooksAhead unary [] := by
  unfold LooksAhead
  rw [show unary [] = .error (Rest.here []) by simp [unary]]
  refine ⟨[], rfl, fun v same => ?_⟩
  rw [eq_nil_of_head?_eq_none same]
  exact ⟨Rest.here [], by simp [unary], rfl⟩

theorem unary_not_looksAhead (kind : t.kind = .not) (inner : LooksAhead unary r) :
    LooksAhead unary (t :: r) := by
  unfold LooksAhead
  split
  · next e l read =>
    unfold unary at read
    simp only [kind] at read
    split at read
    · next e₁ l₁ first =>
      cases read
      obtain ⟨pre, parts, again⟩ := inner.yields first
      refine ⟨t :: pre, by simp [parts, Leftover.trans], fun v same => ?_⟩
      obtain ⟨l', read', left'⟩ := again v same
      exact ⟨(Leftover.tail t _).trans l', by unfold unary; simp [kind, read'], left'⟩
    · cases read
  · next s read =>
    unfold unary at read
    simp only [kind] at read
    split at read
    · cases read
    · next s₁ first =>
      cases read
      obtain ⟨pre, parts, again⟩ := inner.fails first
      refine ⟨t :: pre, by simp [parts, Rest.after], fun v same => ?_⟩
      obtain ⟨s', read', left'⟩ := again v same
      exact ⟨Rest.after (Leftover.tail t _) s', by unfold unary; simp [kind, read'], left'⟩

theorem unary_number_looksAhead {lit : Literal} (kind : t.kind = .number lit) :
    LooksAhead unary (t :: r) := by
  have read : ∀ w, unary (t :: w) = .ok (.number lit, Leftover.tail t w) := fun w => by
    unfold unary
    simp [kind]
  unfold LooksAhead
  rw [read]
  exact ⟨[t], by simp, fun v _ => ⟨Leftover.tail t v, read v, rfl⟩⟩

theorem unary_group_looksAhead (kind : t.kind = .lparen) (inner : LooksAhead (expression 0) r) :
    LooksAhead unary (t :: r) := by
  unfold LooksAhead
  split
  · next e l read =>
    unfold unary at read
    simp only [kind] at read
    split at read
    · cases read
    · next e₁ l₁ first =>
      split at read
      · next c l₂ shut =>
        cases read
        obtain ⟨pre, parts, again⟩ := inner.yields first
        obtain ⟨afterInner, isClosing⟩ := expect_ok shut
        refine ⟨t :: (pre ++ [c]), by simp [parts, afterInner, Leftover.trans], fun v _ => ?_⟩
        obtain ⟨l', read', left'⟩ := again (c :: v) (by simp [afterInner])
        obtain ⟨l'', shut', left''⟩ := expect_yields isRParen isClosing left'
        rw [show (t :: (pre ++ [c])) ++ v = t :: (pre ++ c :: v) by simp]
        exact ⟨(Leftover.tail t _).trans (l'.trans l''),
          by unfold unary; simp [kind, read', shut'], left''⟩
      · cases read
  · next s read =>
    unfold unary at read
    simp only [kind] at read
    split at read
    · next s₁ first =>
      cases read
      obtain ⟨pre, parts, again⟩ := inner.fails first
      refine ⟨t :: pre, by simp [parts, Rest.after], fun v same => ?_⟩
      obtain ⟨s', read', left'⟩ := again v same
      exact ⟨Rest.after (Leftover.tail t _) s', by unfold unary; simp [kind, read'], left'⟩
    · next e₁ l₁ first =>
      split at read
      · cases read
      · next s₁ shut =>
        cases read
        obtain ⟨pre, parts, again⟩ := inner.yields first
        obtain ⟨pre', parts', again'⟩ := (expect_looksAhead isRParen l₁.tokens).fails shut
        refine ⟨t :: (pre ++ pre'), by simp [parts, parts', Rest.after], fun v same => ?_⟩
        obtain ⟨l', read', left⟩ := again (pre' ++ v)
          (by rw [parts']; exact head?_append_congr same)
        have next := again' v same
        rw [← left] at next
        obtain ⟨s', shut', left'⟩ := next
        rw [show (t :: (pre ++ pre')) ++ v = t :: (pre ++ (pre' ++ v)) by simp]
        exact ⟨Rest.after (Leftover.tail t _) (Rest.after l' s'),
          by unfold unary; simp [kind, read', shut'], left'⟩

theorem unary_call_looksAhead {u : Token} {r₂ : List Token} (kind : t.kind = .ident)
    (opens : isLParen u.kind = true) (inner : LooksAheadLax arguments r₂) :
    LooksAhead unary (t :: u :: r₂) := by
  unfold LooksAhead
  split
  · next e l read =>
    unfold unary at read
    simp only [kind, opens, if_true] at read
    split at read
    · cases read
    · next args rr first =>
      split at read
      · next c l₂ shut =>
        cases read
        obtain ⟨pre, parts, again⟩ := inner.yields first
        obtain ⟨afterInner, isClosing⟩ := expect_ok shut
        refine ⟨t :: u :: (pre ++ [c]),
          by simp [parts, afterInner, Leftover.trans, Leftover.transRest], fun v _ => ?_⟩
        obtain ⟨r', read', left'⟩ := again (c :: v) (by simp [afterInner])
        obtain ⟨l'', shut', left''⟩ := expect_yields isRParen isClosing left'
        rw [show (t :: u :: (pre ++ [c])) ++ v = t :: u :: (pre ++ c :: v) by simp]
        exact ⟨(((Leftover.tail t _).trans (Leftover.tail u _)).transRest r').trans l'',
          by unfold unary; simp [kind, opens, read', shut'], left''⟩
      · cases read
  · next s read =>
    unfold unary at read
    simp only [kind, opens, if_true] at read
    split at read
    · next s₁ first =>
      cases read
      obtain ⟨pre, parts, again⟩ := inner.fails first
      refine ⟨t :: u :: pre, by simp [parts, Rest.after], fun v same => ?_⟩
      obtain ⟨s', read', left'⟩ := again v same
      exact ⟨Rest.after ((Leftover.tail t _).trans (Leftover.tail u _)) s',
        by unfold unary; simp [kind, opens, read'], left'⟩
    · next args rr first =>
      split at read
      · cases read
      · next s₁ shut =>
        cases read
        obtain ⟨pre, parts, again⟩ := inner.yields first
        obtain ⟨pre', parts', again'⟩ := (expect_looksAhead isRParen rr.tokens).fails shut
        refine ⟨t :: u :: (pre ++ pre'), by simp [parts, parts', Rest.after], fun v same => ?_⟩
        obtain ⟨r', read', left⟩ := again (pre' ++ v)
          (by rw [parts']; exact head?_append_congr same)
        have next := again' v same
        rw [← left] at next
        obtain ⟨s', shut', left'⟩ := next
        rw [show (t :: u :: (pre ++ pre')) ++ v = t :: u :: (pre ++ (pre' ++ v)) by simp]
        exact ⟨Rest.after (((Leftover.tail t _).trans (Leftover.tail u _)).transRest r') s',
          by unfold unary; simp [kind, opens, read', shut'], left'⟩

theorem unary_var_looksAhead (kind : t.kind = .ident)
    (plain : ∀ u ∈ r.head?, isLParen u.kind = false) : LooksAhead unary (t :: r) := by
  have read : ∀ w : List Token, (∀ u ∈ w.head?, isLParen u.kind = false) →
      unary (t :: w) = .ok (.var t.text, Leftover.tail t w) := by
    intro w plain
    cases w with
    | nil =>
      unfold unary
      simp [kind]
    | cons u w =>
      have plain := plain u rfl
      unfold unary
      simp [kind, plain]
  unfold LooksAhead
  rw [read r plain]
  refine ⟨[t], by simp, fun v same => ⟨Leftover.tail t v, read v ?_, rfl⟩⟩
  rw [same]
  exact plain

end UnaryCases

mutual

theorem unary_looksAhead (ts : List Token) : LooksAhead unary ts := by
  cases ts with
  | nil => exact unary_nil_looksAhead
  | cons t r =>
    cases kind : t.kind
    case not => exact unary_not_looksAhead kind (unary_looksAhead r)
    case number lit => exact unary_number_looksAhead kind
    case lparen => exact unary_group_looksAhead kind (expression_looksAhead 0 r)
    case ident =>
      cases r with
      | nil => exact unary_var_looksAhead kind nofun
      | cons u r₂ =>
        by_cases opens : isLParen u.kind = true
        · exact unary_call_looksAhead kind opens (arguments_looksAhead r₂)
        · exact unary_var_looksAhead kind fun _ listed => by
            cases listed
            exact Bool.eq_false_iff.mpr opens
    all_goals exact LooksAhead.refuses fun w => by unfold unary; simp [kind]
termination_by 4 * ts.length + 1
decreasing_by all_goals (simp only [List.length_cons] at *; omega)

theorem expression_looksAhead (level : Nat) (ts : List Token) :
    LooksAhead (expression level) ts := by
  unfold LooksAhead
  split
  · next e r read =>
    unfold expression at read
    split at read
    · cases read
    · next lhs l first =>
      have := l.shorter
      split at read
      · next e₁ r₁ rest =>
        cases read
        obtain ⟨pre, parts, again⟩ := (unary_looksAhead ts).yields first
        obtain ⟨pre', parts', again'⟩ := (operators_looksAhead level lhs l.tokens).yields rest
        refine ⟨pre ++ pre', by simp [parts, parts', Leftover.transRest], fun v same => ?_⟩
        obtain ⟨l', first', left⟩ := again (pre' ++ v)
          (by rw [parts']; exact head?_append_congr same)
        have next := again' v same
        rw [← left] at next
        obtain ⟨r', rest', left'⟩ := next
        rw [List.append_assoc]
        exact ⟨l'.transRest r', by unfold expression; simp [first', rest'], left'⟩
      · cases read
  · next s read =>
    unfold expression at read
    split at read
    · next s₁ first =>
      cases read
      obtain ⟨pre, parts, again⟩ := (unary_looksAhead ts).fails first
      refine ⟨pre, parts, fun v same => ?_⟩
      obtain ⟨s', first', left'⟩ := again v same
      exact ⟨s', by unfold expression; simp [first'], left'⟩
    · next lhs l first =>
      have := l.shorter
      split at read
      · cases read
      · next s₁ rest =>
        cases read
        obtain ⟨pre, parts, again⟩ := (unary_looksAhead ts).yields first
        obtain ⟨pre', parts', again'⟩ := (operators_looksAhead level lhs l.tokens).fails rest
        refine ⟨pre ++ pre', by simp [parts, parts', Rest.after], fun v same => ?_⟩
        obtain ⟨l', first', left⟩ := again (pre' ++ v)
          (by rw [parts']; exact head?_append_congr same)
        have next := again' v same
        rw [← left] at next
        obtain ⟨s', rest', left'⟩ := next
        rw [List.append_assoc]
        exact ⟨Rest.after l' s', by unfold expression; simp [first', rest'], left'⟩
termination_by 4 * ts.length + 2
decreasing_by all_goals omega

theorem operators_looksAhead (min : Nat) (lhs : Expr) (ts : List Token) :
    LooksAheadLax (operators min lhs) ts := by
  unfold LooksAheadLax
  split
  · next e r read =>
    cases ts with
    | nil =>
      simp only [operators] at read
      cases read
      refine ⟨[], rfl, fun v same => ?_⟩
      rw [eq_nil_of_head?_eq_none same]
      exact ⟨Rest.here [], by simp [operators], rfl⟩
    | cons t r₀ =>
      unfold operators at read
      split at read
      · next op kind =>
        split at read
        · next strong =>
          split at read
          · cases read
          · next rhs l inner =>
            have := l.shorter
            dsimp only at read
            split at read
            · next e₁ rr rest =>
              cases read
              obtain ⟨pre, parts, again⟩ := (expression_looksAhead (op.precedence + 1) r₀).yields inner
              obtain ⟨pre', parts', again'⟩ :=
                (operators_looksAhead min (.binary op lhs rhs) l.tokens).yields rest
              refine ⟨t :: (pre ++ pre'), by simp [parts, parts', Leftover.transRest, Leftover.trans,
                Leftover.toRest], fun v same => ?_⟩
              obtain ⟨l', inner', left⟩ := again (pre' ++ v)
                (by rw [parts']; exact head?_append_congr same)
              have next := again' v same
              rw [← left] at next
              obtain ⟨r', rest', left'⟩ := next
              rw [show (t :: (pre ++ pre')) ++ v = t :: (pre ++ (pre' ++ v)) by simp]
              exact ⟨(((Leftover.tail t _).trans l').transRest r').toRest,
                by unfold operators; simp [kind, strong, inner', rest'], left'⟩
            · cases read
        · next weak =>
          cases read
          refine ⟨[], rfl, fun v same => ?_⟩
          obtain ⟨w, rfl⟩ := eq_cons_of_head?_eq same
          exact ⟨Rest.here (t :: w), by unfold operators; simp [kind, weak], rfl⟩
      · next other =>
        cases read
        refine ⟨[], rfl, fun v same => ?_⟩
        obtain ⟨w, rfl⟩ := eq_cons_of_head?_eq same
        show YieldsLax (operators min lhs (t :: w)) lhs (t :: w)
        refine ⟨Rest.here (t :: w), ?_, rfl⟩
        unfold operators
        split
        · next op kind => exact absurd kind (other op)
        · rfl
  · next s read =>
    cases ts with
    | nil => simp [operators] at read
    | cons t r₀ =>
      unfold operators at read
      split at read
      · next op kind =>
        split at read
        · next strong =>
          split at read
          · next s₁ inner =>
            cases read
            obtain ⟨pre, parts, again⟩ := (expression_looksAhead (op.precedence + 1) r₀).fails inner
            refine ⟨t :: pre, by simp [parts, Rest.after], fun v same => ?_⟩
            obtain ⟨s', inner', left'⟩ := again v same
            exact ⟨Rest.after (Leftover.tail t _) s',
              by unfold operators; simp [kind, strong, inner'], left'⟩
          · next rhs l inner =>
            have := l.shorter
            dsimp only at read
            split at read
            · cases read
            · next s₁ rest =>
              cases read
              obtain ⟨pre, parts, again⟩ := (expression_looksAhead (op.precedence + 1) r₀).yields inner
              obtain ⟨pre', parts', again'⟩ :=
                (operators_looksAhead min (.binary op lhs rhs) l.tokens).fails rest
              refine ⟨t :: (pre ++ pre'), by simp [parts, parts', Rest.after, Leftover.trans],
                fun v same => ?_⟩
              obtain ⟨l', inner', left⟩ := again (pre' ++ v)
                (by rw [parts']; exact head?_append_congr same)
              have next := again' v same
              rw [← left] at next
              obtain ⟨s', rest', left'⟩ := next
              rw [show (t :: (pre ++ pre')) ++ v = t :: (pre ++ (pre' ++ v)) by simp]
              exact ⟨Rest.after ((Leftover.tail t _).trans l') s',
                by unfold operators; simp [kind, strong, inner', rest'], left'⟩
        · cases read
      · cases read
termination_by 4 * ts.length
decreasing_by all_goals (simp only [List.length_cons] at *; omega)

theorem arguments_looksAhead (ts : List Token) : LooksAheadLax arguments ts := by
  unfold LooksAheadLax
  split
  · next args r read =>
    cases ts with
    | nil =>
      simp only [arguments] at read
      cases read
      refine ⟨[], rfl, fun v same => ?_⟩
      rw [eq_nil_of_head?_eq_none same]
      exact ⟨Rest.here [], by simp [arguments], rfl⟩
    | cons t r₀ =>
      unfold arguments at read
      split at read
      · next starts =>
        split at read
        · cases read
        · next e l first =>
          have := l.shorter
          split at read
          · next args₁ rr rest =>
            cases read
            obtain ⟨pre, parts, again⟩ := (expression_looksAhead 0 (t :: r₀)).yields first
            obtain ⟨pre', parts', again'⟩ := (moreArguments_looksAhead [e] l.tokens).yields rest
            obtain ⟨u, w, shape⟩ : ∃ u w, pre = u :: w := by
              cases pre with
              | nil => simp at parts; have := l.shorter; simp [← parts] at this
              | cons u w => exact ⟨u, w, rfl⟩
            subst shape
            simp only [List.cons_append, List.cons.injEq] at parts
            obtain ⟨rfl, parts⟩ := parts
            refine ⟨t :: (w ++ pre'), by simp [parts, parts', Leftover.transRest, Leftover.toRest],
              fun v same => ?_⟩
            obtain ⟨l', first', left⟩ := again (pre' ++ v)
              (by rw [parts']; exact head?_append_congr same)
            have next := again' v same
            rw [← left] at next
            obtain ⟨r', rest', left'⟩ := next
            have first' : expression 0 (t :: (w ++ (pre' ++ v))) = .ok (e, l') := first'
            rw [show (t :: (w ++ pre')) ++ v = t :: (w ++ (pre' ++ v)) by simp]
            exact ⟨(l'.transRest r').toRest, by unfold arguments; simp [starts, first', rest'],
              left'⟩
          · cases read
      · next quiet =>
        obtain ⟨pre, parts, again⟩ := (moreArguments_looksAhead [] (t :: r₀)).yields read
        refine ⟨pre, parts, fun v same => ?_⟩
        have head : (pre ++ v).head? = some t := by
          rw [head?_append_congr same, ← parts]; rfl
        rw [arguments_eq_moreArguments (by rw [head]; simpa using quiet)]
        exact again v same
  · next s read =>
    cases ts with
    | nil => simp [arguments] at read
    | cons t r₀ =>
      unfold arguments at read
      split at read
      · next starts =>
        split at read
        · next s₁ first =>
          cases read
          obtain ⟨pre, parts, again⟩ := (expression_looksAhead 0 (t :: r₀)).fails first
          refine ⟨pre, parts, fun v same => ?_⟩
          have head : (pre ++ v).head? = some t := by
            rw [head?_append_congr same, ← parts]; rfl
          obtain ⟨w, shape⟩ := eq_cons_of_head?_eq (r := r₀) head
          have failed := again v same
          rw [shape] at failed ⊢
          obtain ⟨s', first', left'⟩ := failed
          exact ⟨s', by unfold arguments; simp [starts, first'], left'⟩
        · next e l first =>
          have := l.shorter
          split at read
          · cases read
          · next s₁ rest =>
            cases read
            obtain ⟨pre, parts, again⟩ := (expression_looksAhead 0 (t :: r₀)).yields first
            obtain ⟨pre', parts', again'⟩ := (moreArguments_looksAhead [e] l.tokens).fails rest
            obtain ⟨u, w, shape⟩ : ∃ u w, pre = u :: w := by
              cases pre with
              | nil => simp at parts; have := l.shorter; simp [← parts] at this
              | cons u w => exact ⟨u, w, rfl⟩
            subst shape
            simp only [List.cons_append, List.cons.injEq] at parts
            obtain ⟨rfl, parts⟩ := parts
            refine ⟨t :: (w ++ pre'), by simp [parts, parts', Rest.after], fun v same => ?_⟩
            obtain ⟨l', first', left⟩ := again (pre' ++ v)
              (by rw [parts']; exact head?_append_congr same)
            have next := again' v same
            rw [← left] at next
            obtain ⟨s', rest', left'⟩ := next
            have first' : expression 0 (t :: (w ++ (pre' ++ v))) = .ok (e, l') := first'
            rw [show (t :: (w ++ pre')) ++ v = t :: (w ++ (pre' ++ v)) by simp]
            exact ⟨Rest.after l' s', by unfold arguments; simp [starts, first', rest'], left'⟩
      · next quiet =>
        obtain ⟨pre, parts, again⟩ := (moreArguments_looksAhead [] (t :: r₀)).fails read
        refine ⟨pre, parts, fun v same => ?_⟩
        have head : (pre ++ v).head? = some t := by
          rw [head?_append_congr same, ← parts]; rfl
        rw [arguments_eq_moreArguments (by rw [head]; simpa using quiet)]
        exact again v same
termination_by 4 * ts.length + 3
decreasing_by all_goals (simp only [List.length_cons] at *; omega)

theorem moreArguments_looksAhead (acc : List Expr) (ts : List Token) :
    LooksAheadLax (moreArguments acc) ts := by
  unfold LooksAheadLax
  split
  · next args r read =>
    cases ts with
    | nil =>
      simp only [moreArguments] at read
      cases read
      refine ⟨[], rfl, fun v same => ?_⟩
      rw [eq_nil_of_head?_eq_none same]
      exact ⟨Rest.here [], by simp [moreArguments], rfl⟩
    | cons t r₀ =>
      unfold moreArguments at read
      split at read
      · next comma =>
        split at read
        · cases read
        · next e l inner =>
          have := l.shorter
          dsimp only at read
          split at read
          · next args₁ rr rest =>
            cases read
            obtain ⟨pre, parts, again⟩ := (expression_looksAhead 0 r₀).yields inner
            obtain ⟨pre', parts', again'⟩ :=
              (moreArguments_looksAhead (acc ++ [e]) l.tokens).yields rest
            refine ⟨t :: (pre ++ pre'), by simp [parts, parts', Leftover.transRest, Leftover.trans,
              Leftover.toRest], fun v same => ?_⟩
            obtain ⟨l', inner', left⟩ := again (pre' ++ v)
              (by rw [parts']; exact head?_append_congr same)
            have next := again' v same
            rw [← left] at next
            obtain ⟨r', rest', left'⟩ := next
            rw [show (t :: (pre ++ pre')) ++ v = t :: (pre ++ (pre' ++ v)) by simp]
            exact ⟨(((Leftover.tail t _).trans l').transRest r').toRest,
              by unfold moreArguments; simp [comma, inner', rest'], left'⟩
          · cases read
      · next other =>
        cases read
        refine ⟨[], rfl, fun v same => ?_⟩
        obtain ⟨w, rfl⟩ := eq_cons_of_head?_eq same
        exact ⟨Rest.here (t :: w), by unfold moreArguments; simp [other], rfl⟩
  · next s read =>
    cases ts with
    | nil => simp [moreArguments] at read
    | cons t r₀ =>
      unfold moreArguments at read
      split at read
      · next comma =>
        split at read
        · next s₁ inner =>
          cases read
          obtain ⟨pre, parts, again⟩ := (expression_looksAhead 0 r₀).fails inner
          refine ⟨t :: pre, by simp [parts, Rest.after], fun v same => ?_⟩
          obtain ⟨s', inner', left'⟩ := again v same
          exact ⟨Rest.after (Leftover.tail t _) s',
            by unfold moreArguments; simp [comma, inner'], left'⟩
        · next e l inner =>
          have := l.shorter
          dsimp only at read
          split at read
          · cases read
          · next s₁ rest =>
            cases read
            obtain ⟨pre, parts, again⟩ := (expression_looksAhead 0 r₀).yields inner
            obtain ⟨pre', parts', again'⟩ :=
              (moreArguments_looksAhead (acc ++ [e]) l.tokens).fails rest
            refine ⟨t :: (pre ++ pre'), by simp [parts, parts', Rest.after, Leftover.trans],
              fun v same => ?_⟩
            obtain ⟨l', inner', left⟩ := again (pre' ++ v)
              (by rw [parts']; exact head?_append_congr same)
            have next := again' v same
            rw [← left] at next
            obtain ⟨s', rest', left'⟩ := next
            rw [show (t :: (pre ++ pre')) ++ v = t :: (pre ++ (pre' ++ v)) by simp]
            exact ⟨Rest.after ((Leftover.tail t _).trans l') s',
              by unfold moreArguments; simp [comma, inner', rest'], left'⟩
      · cases read
termination_by 4 * ts.length
decreasing_by all_goals (simp only [List.length_cons] at *; omega)

end


section Combinators

variable {α β : Type} {ts : List Token}

theorem Strict.seq_error {p : Strict ts α} {q : (us : List Token) → Strict us β} {s : Rest ts}
    (h : p.seq q = .error s) :
    Fails p s.tokens ∨ ∃ a, ∃ l : Leftover ts, p = .ok (a, l) ∧ Fails (q l.tokens) s.tokens := by
  rcases p with s₁ | ⟨a, l⟩
  · cases h
    exact .inl ⟨_, rfl, rfl⟩
  · unfold Strict.seq at h
    rcases second : q l.tokens with s₂ | ⟨b, l₂⟩ <;> simp only [second] at h
    · cases h
      exact .inr ⟨a, l, rfl, s₂, second, rfl⟩
    · cases h

theorem Strict.seqLax_error {p : Strict ts α} {q : (us : List Token) → Lax us β} {s : Rest ts}
    (h : p.seqLax q = .error s) :
    Fails p s.tokens ∨ ∃ a, ∃ l : Leftover ts, p = .ok (a, l) ∧ Fails (q l.tokens) s.tokens := by
  rcases p with s₁ | ⟨a, l⟩
  · cases h
    exact .inl ⟨_, rfl, rfl⟩
  · unfold Strict.seqLax at h
    rcases second : q l.tokens with s₂ | ⟨b, r⟩ <;> simp only [second] at h
    · cases h
      exact .inr ⟨a, l, rfl, s₂, second, rfl⟩
    · cases h

theorem Strict.map_error {f : α → β} {p : Strict ts α} {s : Rest ts} (h : p.map f = .error s) :
    p = .error s := by
  rcases p with s₁ | ⟨a, l⟩ <;> cases h
  rfl

theorem Fails.seq {p : Strict ts α} {q : (us : List Token) → Strict us β} {v : List Token}
    (failed : Fails p v) : Fails (p.seq q) v := by
  obtain ⟨s, rfl, rfl⟩ := failed
  exact ⟨s, rfl, rfl⟩

theorem Yields.seq_fails {p : Strict ts α} {q : (us : List Token) → Strict us β} {a : α}
    {mid v : List Token} (first : Yields p a mid) (second : Fails (q mid) v) : Fails (p.seq q) v := by
  obtain ⟨l, rfl, rfl⟩ := first
  obtain ⟨s, read, rfl⟩ := second
  exact ⟨Rest.after l s, by simp [Strict.seq, read], rfl⟩

theorem Fails.seqLax {p : Strict ts α} {q : (us : List Token) → Lax us β} {v : List Token}
    (failed : Fails p v) : Fails (p.seqLax q) v := by
  obtain ⟨s, rfl, rfl⟩ := failed
  exact ⟨s, rfl, rfl⟩

theorem Yields.seqLax_fails {p : Strict ts α} {q : (us : List Token) → Lax us β} {a : α}
    {mid v : List Token} (first : Yields p a mid) (second : Fails (q mid) v) :
    Fails (p.seqLax q) v := by
  obtain ⟨l, rfl, rfl⟩ := first
  obtain ⟨s, read, rfl⟩ := second
  exact ⟨Rest.after l s, by simp [Strict.seqLax, read], rfl⟩

theorem Fails.map {p : Strict ts α} (f : α → β) {v : List Token} (failed : Fails p v) :
    Fails (p.map f) v := by
  obtain ⟨s, rfl, rfl⟩ := failed
  exact ⟨s, rfl, rfl⟩

end Combinators

section Sequences

variable {α β : Type} {ts : List Token}

theorem LooksAhead.seq {p : (us : List Token) → Strict us α} {q : (us : List Token) → Strict us β}
    (first : LooksAhead p ts)
    (second : ∀ a (l : Leftover ts), p ts = .ok (a, l) → LooksAhead q l.tokens) :
    LooksAhead (fun us => (p us).seq q) ts := by
  unfold LooksAhead
  split
  · next ab l read =>
    rcases ab with ⟨a, b⟩
    obtain ⟨l₁, l₂, first', second', same⟩ := Strict.seq_ok read
    obtain ⟨pre, parts, again⟩ := first.yields first'
    obtain ⟨pre', parts', again'⟩ := (second a l₁ first').yields second'
    refine ⟨pre ++ pre', by rw [same, List.append_assoc, ← parts']; exact parts, fun v head => ?_⟩
    obtain ⟨l', first'', left⟩ := again (pre' ++ v)
      (by rw [parts']; exact head?_append_congr (by rw [head, same]))
    have next := again' v (by rw [head, same])
    rw [List.append_assoc]
    exact Yields.seq ⟨l', first'', left⟩ next
  · next s read =>
    rcases Strict.seq_error read with ⟨s₁, failed, same⟩ | ⟨a, l, first', s₂, failed, same⟩
    · obtain ⟨pre, parts, again⟩ := first.fails failed
      exact ⟨pre, by rw [← same]; exact parts, fun v head => (again v (by rw [head, same])).seq⟩
    · obtain ⟨pre, parts, again⟩ := first.yields first'
      obtain ⟨pre', parts', again'⟩ := (second a l first').fails failed
      refine ⟨pre ++ pre', by rw [← same, List.append_assoc, ← parts']; exact parts, fun v head => ?_⟩
      obtain ⟨l', first'', left⟩ := again (pre' ++ v)
        (by rw [parts']; exact head?_append_congr (by rw [head, same]))
      have next := again' v (by rw [head, same])
      rw [List.append_assoc]
      exact Yields.seq_fails ⟨l', first'', left⟩ next

theorem LooksAhead.seqLax {p : (us : List Token) → Strict us α} {q : (us : List Token) → Lax us β}
    (first : LooksAhead p ts)
    (second : ∀ a (l : Leftover ts), p ts = .ok (a, l) → LooksAheadLax q l.tokens) :
    LooksAhead (fun us => (p us).seqLax q) ts := by
  unfold LooksAhead
  split
  · next ab l read =>
    rcases ab with ⟨a, b⟩
    obtain ⟨l₁, r, first', second', same⟩ := Strict.seqLax_ok read
    obtain ⟨pre, parts, again⟩ := first.yields first'
    obtain ⟨pre', parts', again'⟩ := (second a l₁ first').yields second'
    refine ⟨pre ++ pre', by rw [same, List.append_assoc, ← parts']; exact parts, fun v head => ?_⟩
    obtain ⟨l', first'', left⟩ := again (pre' ++ v)
      (by rw [parts']; exact head?_append_congr (by rw [head, same]))
    have next := again' v (by rw [head, same])
    rw [List.append_assoc]
    exact Yields.seqLax ⟨l', first'', left⟩ next
  · next s read =>
    rcases Strict.seqLax_error read with ⟨s₁, failed, same⟩ | ⟨a, l, first', s₂, failed, same⟩
    · obtain ⟨pre, parts, again⟩ := first.fails failed
      exact ⟨pre, by rw [← same]; exact parts, fun v head => (again v (by rw [head, same])).seqLax⟩
    · obtain ⟨pre, parts, again⟩ := first.yields first'
      obtain ⟨pre', parts', again'⟩ := (second a l first').fails failed
      refine ⟨pre ++ pre', by rw [← same, List.append_assoc, ← parts']; exact parts, fun v head => ?_⟩
      obtain ⟨l', first'', left⟩ := again (pre' ++ v)
        (by rw [parts']; exact head?_append_congr (by rw [head, same]))
      have next := again' v (by rw [head, same])
      rw [List.append_assoc]
      exact Yields.seqLax_fails ⟨l', first'', left⟩ next

theorem LooksAhead.map {p : (us : List Token) → Strict us α} (f : α → β)
    (first : LooksAhead p ts) : LooksAhead (fun us => (p us).map f) ts := by
  unfold LooksAhead
  split
  · next b l read =>
    obtain ⟨a, first', rfl⟩ := Strict.map_ok read
    obtain ⟨pre, parts, again⟩ := first.yields first'
    exact ⟨pre, parts, fun v head => (again v head).map f⟩
  · next s read =>
    obtain ⟨pre, parts, again⟩ := first.fails (Strict.map_error read)
    exact ⟨pre, parts, fun v head => (again v head).map f⟩

theorem LooksAhead.after_token {p : (us : List Token) → Strict us α}
    {q : (us : List Token) → Strict us β} {t : Token} {r : List Token} (inner : LooksAhead q r)
    (f : β → α)
    (ok : ∀ {r' : List Token} {b : β} {l : Leftover r'}, q r' = .ok (b, l) →
      Yields (p (t :: r')) (f b) l.tokens)
    (error : ∀ {r' : List Token} {s : Rest r'}, q r' = .error s → Fails (p (t :: r')) s.tokens) :
    LooksAhead p (t :: r) := by
  unfold LooksAhead
  rcases read : q r with s | ⟨b, l⟩
  · obtain ⟨s', whole, same⟩ := error read
    obtain ⟨pre, parts, again⟩ := inner.fails read
    rw [whole]
    refine ⟨t :: pre, by rw [same, List.cons_append, ← parts], fun v head => ?_⟩
    obtain ⟨s'', read', left⟩ := again v (by rw [head, same])
    have whole' := error read'
    rwa [left] at whole'
  · obtain ⟨l', whole, same⟩ := ok read
    obtain ⟨pre, parts, again⟩ := inner.yields read
    rw [whole]
    refine ⟨t :: pre, by rw [same, List.cons_append, ← parts], fun v head => ?_⟩
    obtain ⟨l'', read', left⟩ := again v (by rw [head, same])
    have whole' := ok read'
    rwa [left] at whole'

end Sequences

theorem callTail_looksAhead (ts : List Token) : LooksAhead callTail ts :=
  LooksAhead.map _ (LooksAhead.seq (LooksAhead.seq
    (LooksAhead.seqLax (expect_looksAhead _ ts) fun _ _ _ => arguments_looksAhead _)
    fun _ _ _ => expect_looksAhead _ _) fun _ _ _ => expect_looksAhead _ _)

theorem parenthesized_looksAhead (ts : List Token) : LooksAhead parenthesized ts :=
  LooksAhead.map _ (LooksAhead.seq
    (LooksAhead.seq (expect_looksAhead _ ts) fun _ _ _ => expression_looksAhead 0 _)
    fun _ _ _ => expect_looksAhead _ _)


theorem prefix_cons {t : Token} {r pre rest : List Token} (parts : t :: r = pre ++ rest)
    (shorter : rest.length < (t :: r).length) : ∃ w, pre = t :: w ∧ r = w ++ rest := by
  cases pre with
  | nil =>
    simp only [List.nil_append] at parts
    simp [← parts] at shorter
  | cons u w =>
    simp only [List.cons_append, List.cons.injEq] at parts
    obtain ⟨rfl, parts⟩ := parts
    exact ⟨w, rfl, parts⟩

theorem repeat_looksAhead {t : Token} {r : List Token} (kind : t.kind = .repeatKw)
    (braces : ∀ us : List Token, us.length < r.length → LooksAhead braced us) :
    LooksAhead statement (t :: r) :=
  LooksAhead.after_token
    (LooksAhead.seq (parenthesized_looksAhead r) fun _ l _ => braces l.tokens l.shorter)
    (fun (count, body) => .repeatTimes count body)
    (fun {r'} _ {l} read => by
      obtain ⟨l₁, l₂, head, inner, same⟩ := Strict.seq_ok read
      exact ⟨((Leftover.tail t r').trans l₁).trans l₂, by unfold statement; simp [kind, head, inner],
        same.symm⟩)
    (fun {r'} _ read => by
      rcases Strict.seq_error read with ⟨s₁, head, same⟩ | ⟨_, l, head, s₂, inner, same⟩
      · exact ⟨Rest.after (Leftover.tail t r') s₁, by unfold statement; simp [kind, head], same⟩
      · exact ⟨Rest.after ((Leftover.tail t r').trans l) s₂,
          by unfold statement; simp [kind, head, inner], same⟩)


theorem LooksAhead.of_yields {α : Type} {p : (us : List Token) → Strict us α}
    {ts pre rest : List Token} {a : α} (parts : ts = pre ++ rest)
    (again : ∀ v, v.head? = rest.head? → Yields (p (pre ++ v)) a v) : LooksAhead p ts := by
  subst parts
  obtain ⟨l, read, left⟩ := again rest rfl
  unfold LooksAhead
  rw [read]
  exact ⟨pre, by rw [left], fun v same => again v (by rw [same, left])⟩

theorem LooksAhead.of_fails {α : Type} {p : (us : List Token) → Strict us α}
    {ts pre rest : List Token} (parts : ts = pre ++ rest)
    (again : ∀ v, v.head? = rest.head? → Fails (p (pre ++ v)) v) : LooksAhead p ts := by
  subst parts
  obtain ⟨s, read, left⟩ := again rest rfl
  unfold LooksAhead
  rw [read]
  exact ⟨pre, by rw [left], fun v same => again v (by rw [same, left])⟩

section IfCases

variable {t : Token} {us w : List Token} {test : Expr} {body : List Stmt}

theorem ifThen_head_fails (kind : t.kind = .ifKw)
    (failed : Fails ((parenthesized us).seq braced) w) : Fails (statement (t :: us)) w := by
  obtain ⟨s, read, rfl⟩ := failed
  rcases Strict.seq_error read with ⟨s₁, head, same⟩ | ⟨_, l₁, head, s₂, inner, same⟩
  · exact ⟨Rest.after (Leftover.tail t us) s₁, by unfold statement; simp [kind, head], same⟩
  · exact ⟨Rest.after ((Leftover.tail t us).trans l₁) s₂,
      by unfold statement; simp [kind, head, inner], same⟩

theorem ifThen_plain_yields (kind : t.kind = .ifKw)
    (read : Yields ((parenthesized us).seq braced) (test, body) w)
    (plain : ∀ u ∈ w.head?, isElse u.kind = false) :
    Yields (statement (t :: us)) (.ifThen test body none) w := by
  obtain ⟨l, read, rfl⟩ := read
  obtain ⟨l₁, l₂, head, inner, same⟩ := Strict.seq_ok read
  unfold Yields statement
  simp only [kind, head, inner]
  split
  · next u r₃ after =>
    have plain := plain u (by rw [same, after]; rfl)
    simp [plain, Leftover.trans, same]
  · simp [Leftover.trans, same]

theorem ifThen_else_yields {u : Token} {r₃ rest : List Token} {elseBody : List Stmt}
    (kind : t.kind = .ifKw) (read : Yields ((parenthesized us).seq braced) (test, body) (u :: r₃))
    (other : isElse u.kind = true) (elseRead : Yields (braced r₃) elseBody rest) :
    Yields (statement (t :: us)) (.ifThen test body (some elseBody)) rest := by
  obtain ⟨l, read, after⟩ := read
  obtain ⟨l₁, l₂, head, inner, same⟩ := Strict.seq_ok read
  obtain ⟨l₃, elseRead, rfl⟩ := elseRead
  unfold Yields statement
  simp only [kind, head, inner]
  split
  · next u' r₃' after' =>
    rw [← same, after] at after'
    simp only [List.cons.injEq] at after'
    obtain ⟨rfl, rfl⟩ := after'
    simp [other, elseRead, Leftover.trans]
  · next after' => simp [← same, after] at after'

theorem ifThen_else_fails {u : Token} {r₃ rest : List Token}
    (kind : t.kind = .ifKw) (read : Yields ((parenthesized us).seq braced) (test, body) (u :: r₃))
    (other : isElse u.kind = true) (elseFails : Fails (braced r₃) rest) :
    Fails (statement (t :: us)) rest := by
  obtain ⟨l, read, after⟩ := read
  obtain ⟨l₁, l₂, head, inner, same⟩ := Strict.seq_ok read
  obtain ⟨s₃, elseFails, rfl⟩ := elseFails
  unfold Fails statement
  simp only [kind, head, inner]
  split
  · next u' r₃' after' =>
    rw [← same, after] at after'
    simp only [List.cons.injEq] at after'
    obtain ⟨rfl, rfl⟩ := after'
    simp [other, elseFails, Rest.after]
  · next after' => simp [← same, after] at after'

end IfCases

theorem ifThen_looksAhead {t : Token} {r : List Token} (kind : t.kind = .ifKw)
    (braces : ∀ us : List Token, us.length < r.length → LooksAhead braced us) :
    LooksAhead statement (t :: r) := by
  have head : LooksAhead (fun us => (parenthesized us).seq braced) r :=
    LooksAhead.seq (parenthesized_looksAhead r) fun _ l _ => braces l.tokens l.shorter
  rcases headRead : (parenthesized r).seq braced with s | ⟨⟨test, body⟩, l₂⟩
  · obtain ⟨pre, parts, again⟩ := head.fails headRead
    exact LooksAhead.of_fails (show t :: r = (t :: pre) ++ s.tokens from congrArg (t :: ·) parts)
      fun v same => ifThen_head_fails kind (again v same)
  · obtain ⟨pre, parts, again⟩ := head.yields headRead
    rcases ends : l₂.tokens with _ | ⟨u, r₃⟩
    · refine LooksAhead.of_yields (show t :: r = (t :: pre) ++ [] by rw [parts, ends]; rfl)
        fun v same => ifThen_plain_yields kind (again v (by rw [same, ends])) ?_
      rw [same]
      nofun
    · have whole : r = pre ++ u :: r₃ := by
        rw [← ends]
        exact parts
      by_cases other : isElse u.kind = true
      · have shorter : r₃.length < r.length := by
          rw [whole, List.length_append, List.length_cons]
          omega
        have opens : ∀ pre' v, Yields ((parenthesized ((pre ++ u :: pre') ++ v)).seq braced)
            (test, body) (u :: (pre' ++ v)) := by
          intro pre' v
          rw [List.append_assoc]
          exact again (u :: (pre' ++ v)) (by rw [ends]; rfl)
        rcases elseRead : braced r₃ with s₃ | ⟨elseBody, l₃⟩
        · obtain ⟨pre', parts', again'⟩ := (braces r₃ shorter).fails elseRead
          have split : t :: r = (t :: (pre ++ u :: pre')) ++ s₃.tokens :=
            calc t :: r = t :: (pre ++ u :: r₃) := by rw [whole]
              _ = t :: (pre ++ u :: (pre' ++ s₃.tokens)) :=
                congrArg (fun x => t :: (pre ++ u :: x)) parts'
              _ = (t :: (pre ++ u :: pre')) ++ s₃.tokens := by simp
          exact LooksAhead.of_fails split fun v same =>
            ifThen_else_fails kind (opens pre' v) other (again' v same)
        · obtain ⟨pre', parts', again'⟩ := (braces r₃ shorter).yields elseRead
          have split : t :: r = (t :: (pre ++ u :: pre')) ++ l₃.tokens :=
            calc t :: r = t :: (pre ++ u :: r₃) := by rw [whole]
              _ = t :: (pre ++ u :: (pre' ++ l₃.tokens)) :=
                congrArg (fun x => t :: (pre ++ u :: x)) parts'
              _ = (t :: (pre ++ u :: pre')) ++ l₃.tokens := by simp
          exact LooksAhead.of_yields split fun v same =>
            ifThen_else_yields kind (opens pre' v) other (again' v same)
      · refine LooksAhead.of_yields (show t :: r = (t :: pre) ++ u :: r₃ by rw [whole]; rfl)
          fun v same => ifThen_plain_yields kind (again v (by rw [same, ends])) fun u' listed => ?_
        rw [same] at listed
        cases listed
        exact Bool.eq_false_iff.mpr other


mutual

theorem statement_looksAhead (ts : List Token) : LooksAhead statement ts := by
  cases ts with
  | nil =>
    unfold LooksAhead
    rw [show statement [] = .error (Rest.here []) by unfold statement; rfl]
    refine ⟨[], rfl, fun v head => ?_⟩
    rw [eq_nil_of_head?_eq_none head]
    exact ⟨Rest.here [], by unfold statement; rfl, rfl⟩
  | cons t r =>
    cases kind : t.kind
    case command c =>
      exact LooksAhead.after_token (callTail_looksAhead r) (.command c)
        (fun {r'} _ {l} read =>
          ⟨(Leftover.tail t r').trans l, by unfold statement; simp [kind, read], rfl⟩)
        (fun {r'} s read =>
          ⟨Rest.after (Leftover.tail t r') s, by unfold statement; simp [kind, read], rfl⟩)
    case ident =>
      exact LooksAhead.after_token (callTail_looksAhead r) (.call t.text)
        (fun {r'} _ {l} read =>
          ⟨(Leftover.tail t r').trans l, by unfold statement; simp [kind, read], rfl⟩)
        (fun {r'} s read =>
          ⟨Rest.after (Leftover.tail t r') s, by unfold statement; simp [kind, read], rfl⟩)
    case returnKw =>
      exact LooksAhead.after_token (LooksAhead.map Prod.fst
          (LooksAhead.seq (expression_looksAhead 0 r) fun _ _ _ => expect_looksAhead isSemicolon _))
        .returnWith
        (fun {r'} _ {l} read =>
          ⟨(Leftover.tail t r').trans l, by unfold statement; simp [kind, read], rfl⟩)
        (fun {r'} s read =>
          ⟨Rest.after (Leftover.tail t r') s, by unfold statement; simp [kind, read], rfl⟩)
    case repeatKw => exact repeat_looksAhead kind fun us _ => braced_looksAhead us
    case ifKw => exact ifThen_looksAhead kind fun us _ => braced_looksAhead us
    all_goals exact LooksAhead.refuses fun w => by unfold statement; simp [kind]
termination_by 3 * ts.length + 1
decreasing_by all_goals (simp only [List.length_cons] at *; omega)

theorem block_looksAhead (ts : List Token) : LooksAheadLax block ts := by
  unfold LooksAheadLax
  split
  · next ss r read =>
    cases ts with
    | nil =>
      unfold block at read
      cases read
      refine ⟨[], rfl, fun v head => ?_⟩
      rw [eq_nil_of_head?_eq_none head]
      exact ⟨Rest.here [], by unfold block; rfl, rfl⟩
    | cons t r₀ =>
      unfold block at read
      split at read
      · next closing =>
        cases read
        refine ⟨[], rfl, fun v head => ?_⟩
        obtain ⟨w, rfl⟩ := eq_cons_of_head?_eq head
        exact ⟨Rest.here (t :: w), by unfold block; simp [closing], rfl⟩
      · next open_ =>
        split at read
        · cases read
        · next st l first =>
          have := l.shorter
          split at read
          · next rest rr more =>
            cases read
            obtain ⟨pre, parts, again⟩ := (statement_looksAhead (t :: r₀)).yields first
            obtain ⟨w, rfl, -⟩ := prefix_cons parts l.shorter
            obtain ⟨pre', parts', again'⟩ := (block_looksAhead l.tokens).yields more
            refine ⟨t :: (w ++ pre'), by simp [parts, parts', Leftover.transRest, Leftover.toRest],
              fun v head => ?_⟩
            obtain ⟨l', first', left⟩ := again (pre' ++ v)
              (by rw [parts']; exact head?_append_congr head)
            have y := again' v head
            rw [← left] at y
            obtain ⟨rr', more', left'⟩ := y
            have first' : statement (t :: (w ++ (pre' ++ v))) = .ok (st, l') := first'
            rw [show (t :: (w ++ pre')) ++ v = t :: (w ++ (pre' ++ v)) by simp]
            exact ⟨(l'.transRest rr').toRest, by unfold block; simp [open_, first', more'], left'⟩
          · cases read
  · next s read =>
    cases ts with
    | nil => unfold block at read; cases read
    | cons t r₀ =>
      unfold block at read
      split at read
      · cases read
      · next open_ =>
        split at read
        · next s₁ first =>
          cases read
          obtain ⟨pre, parts, again⟩ := (statement_looksAhead (t :: r₀)).fails first
          refine ⟨pre, parts, fun v head => ?_⟩
          have head' : (pre ++ v).head? = some t := by
            rw [head?_append_congr head, ← parts]; rfl
          obtain ⟨w, shape⟩ := eq_cons_of_head?_eq (r := r₀) head'
          have failed := again v head
          rw [shape] at failed ⊢
          obtain ⟨s', first', left'⟩ := failed
          exact ⟨s', by unfold block; simp [open_, first'], left'⟩
        · next st l first =>
          have := l.shorter
          split at read
          · cases read
          · next s₂ more =>
            cases read
            obtain ⟨pre, parts, again⟩ := (statement_looksAhead (t :: r₀)).yields first
            obtain ⟨w, rfl, -⟩ := prefix_cons parts l.shorter
            obtain ⟨pre', parts', again'⟩ := (block_looksAhead l.tokens).fails more
            refine ⟨t :: (w ++ pre'), by simp [parts, parts', Rest.after], fun v head => ?_⟩
            obtain ⟨l', first', left⟩ := again (pre' ++ v)
              (by rw [parts']; exact head?_append_congr head)
            have y := again' v head
            rw [← left] at y
            obtain ⟨s', more', left'⟩ := y
            have first' : statement (t :: (w ++ (pre' ++ v))) = .ok (st, l') := first'
            rw [show (t :: (w ++ pre')) ++ v = t :: (w ++ (pre' ++ v)) by simp]
            exact ⟨Rest.after l' s', by unfold block; simp [open_, first', more'], left'⟩
termination_by 3 * ts.length + 2
decreasing_by all_goals (simp only [List.length_cons] at *; omega)

theorem braced_looksAhead (ts : List Token) : LooksAhead braced ts := by
  cases ts with
  | nil =>
    unfold LooksAhead
    rw [show braced [] = .error (Rest.here []) by unfold braced; rfl]
    refine ⟨[], rfl, fun v head => ?_⟩
    rw [eq_nil_of_head?_eq_none head]
    exact ⟨Rest.here [], by unfold braced; rfl, rfl⟩
  | cons t r =>
    by_cases opening : isLBrace t.kind
    · unfold LooksAhead
      split
      · next body l read =>
        unfold braced at read
        simp only [opening, if_true] at read
        split at read
        · cases read
        · next body₁ rr inner =>
          split at read
          · next c l₂ shut =>
            cases read
            obtain ⟨pre, parts, again⟩ := (block_looksAhead r).yields inner
            obtain ⟨afterInner, isClosing⟩ := expect_ok shut
            refine ⟨t :: (pre ++ [c]), by simp [parts, afterInner, Leftover.trans,
              Leftover.transRest], fun v _ => ?_⟩
            obtain ⟨rr', inner', left'⟩ := again (c :: v) (by simp [afterInner])
            obtain ⟨l', shut', left''⟩ := expect_yields isRBrace isClosing left'
            rw [show (t :: (pre ++ [c])) ++ v = t :: (pre ++ c :: v) by simp]
            exact ⟨((Leftover.tail t _).transRest rr').trans l',
              by unfold braced; simp [opening, inner', shut'], left''⟩
          · cases read
      · next s read =>
        unfold braced at read
        simp only [opening, if_true] at read
        split at read
        · next s₁ inner =>
          cases read
          obtain ⟨pre, parts, again⟩ := (block_looksAhead r).fails inner
          refine ⟨t :: pre, by simp [parts, Rest.after], fun v same => ?_⟩
          obtain ⟨s', inner', left'⟩ := again v same
          exact ⟨Rest.after (Leftover.tail t _) s', by unfold braced; simp [opening, inner'], left'⟩
        · next body₁ rr inner =>
          split at read
          · cases read
          · next s₂ shut =>
            cases read
            obtain ⟨pre, parts, again⟩ := (block_looksAhead r).yields inner
            obtain ⟨pre', parts', again'⟩ := (expect_looksAhead isRBrace rr.tokens).fails shut
            refine ⟨t :: (pre ++ pre'), by simp [parts, parts', Rest.after], fun v same => ?_⟩
            obtain ⟨rr', inner', left⟩ := again (pre' ++ v)
              (by rw [parts']; exact head?_append_congr same)
            have y := again' v same
            rw [← left] at y
            obtain ⟨s', shut', left'⟩ := y
            rw [show (t :: (pre ++ pre')) ++ v = t :: (pre ++ (pre' ++ v)) by simp]
            exact ⟨Rest.after ((Leftover.tail t _).transRest rr') s',
              by unfold braced; simp [opening, inner', shut'], left'⟩
    · exact LooksAhead.refuses fun w => by unfold braced; simp [opening]
termination_by 3 * ts.length
decreasing_by all_goals (simp only [List.length_cons] at *; omega)

end

theorem funDef_looksAhead (ts : List Token) : LooksAhead funDef ts :=
  LooksAhead.map _ (LooksAhead.seq (LooksAhead.seq (LooksAhead.seq (LooksAhead.seq
    (expect_looksAhead _ ts) fun _ _ _ => expect_looksAhead _ _)
    fun _ _ _ => expect_looksAhead _ _) fun _ _ _ => expect_looksAhead _ _)
    fun _ _ _ => braced_looksAhead _)


theorem definitions_fails_ahead {acc : List FunDef} {ts : List Token} {s : Rest ts}
    (h : definitions acc ts = .error s) :
    ∃ pre, ts = pre ++ s.tokens ∧
      ∀ v, v.head? = s.tokens.head? → Fails (definitions acc (pre ++ v)) v := by
  unfold definitions at h
  split at h
  · next s₁ first =>
    cases h
    obtain ⟨pre, parts, again⟩ := (funDef_looksAhead ts).fails first
    refine ⟨pre, parts, fun v head => ?_⟩
    obtain ⟨s', first', left'⟩ := again v head
    exact ⟨s', by unfold definitions; simp [first'], left'⟩
  · next f l first =>
    have := l.shorter
    split at h
    · cases h
    · next u rest more =>
      split at h
      · cases h
      · next s₂ tail =>
        cases h
        obtain ⟨pre, parts, again⟩ := (funDef_looksAhead ts).yields first
        obtain ⟨pre', parts', again'⟩ := definitions_fails_ahead tail
        refine ⟨pre ++ pre', by simp [parts, parts', Rest.after], fun v head => ?_⟩
        obtain ⟨l', first', left⟩ := again (pre' ++ v)
          (by rw [parts']; exact head?_append_congr head)
        have y := again' v head
        rw [← left] at y
        obtain ⟨s', tail', left'⟩ := y
        rw [List.append_assoc]
        refine ⟨Rest.after l' s', ?_, left'⟩
        unfold definitions
        simp only [first']
        split
        · next empty =>
          have starts : (pre' ++ v).head? = some u := by
            rw [head?_append_congr (show v.head? = s₂.tokens.head? from head), ← parts', more]
            rfl
          rw [← left, empty] at starts
          simp at starts
        · simp [tail']
termination_by ts.length

/-- A program read fails at a token no matter what follows that token. -/
theorem parse_fails_ahead {ts : List Token} {s : Rest ts} (h : Program.parse? ts = .error s) :
    ∃ pre, ts = pre ++ s.tokens ∧
      ∀ v, v.head? = s.tokens.head? → Fails (Program.parse? (pre ++ v)) v := by
  unfold Program.parse? at h
  split at h
  · cases h
  · next s₁ read =>
    cases h
    obtain ⟨pre, parts, again⟩ := definitions_fails_ahead read
    refine ⟨pre, parts, fun v head => ?_⟩
    obtain ⟨s', read', left'⟩ := again v head
    exact ⟨s', by unfold Program.parse?; simp [read'], left'⟩

end RoboScript.Grammar
