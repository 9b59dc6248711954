import RoboScript.Proofs.Viable
import RoboScript.Proofs.Language

/-! Recovery from syntax errors, said by the grammar. Tokens that derive a program give that
program. Otherwise reading stops at the first token that no program continues what was read
with, or at the end when all the tokens begin a program but make none. At a token, that token
and everything before it are dropped and reading starts afresh after it; at the end there is no
program. So only the tokens after the last dropped one can make the program, and an error at the
end leaves none. An error is reported when it is the first, or when at least `reportGap` tokens
were read since the last start.

`recover_eq_iff` says that the reader's recovery is exactly this. -/

namespace RoboScript.Grammar

theorem Viable.of_prefix {pre pre' : List Token} (sub : pre <+: pre') (viable : Viable pre') :
    Viable pre := by
  obtain ⟨u, rfl⟩ := sub
  obtain ⟨w, p, derived⟩ := viable
  exact ⟨u ++ w, p, by simpa using derived⟩

theorem Derives.viable {ts : List Token} {p : Program} (derived : Derives ts p) : Viable ts :=
  ⟨[], p, by simpa using derived⟩

theorem Viable.continues {ts pre rest : List Token} {t : Token} (viable : Viable ts)
    (parts : ts = pre ++ t :: rest) : Viable (pre ++ [t]) :=
  viable.of_prefix ⟨rest, by simp [parts]⟩

theorem first_unviable_le {pre pre' rest rest' : List Token} {t t' : Token}
    (parts : pre ++ t :: rest = pre' ++ t' :: rest') (stuck : ¬Viable (pre ++ [t]))
    (viable' : Viable pre') : pre'.length ≤ pre.length := by
  refine Nat.le_of_not_lt fun later => stuck (viable'.of_prefix ?_)
  exact List.prefix_of_prefix_length_le ⟨rest, by simp [parts]⟩ ⟨t' :: rest', rfl⟩
    (by simp only [List.length_append, List.length_singleton]; omega)

theorem first_unviable_unique {pre pre' rest rest' : List Token} {t t' : Token}
    (parts : pre ++ t :: rest = pre' ++ t' :: rest') (viable : Viable pre)
    (stuck : ¬Viable (pre ++ [t])) (viable' : Viable pre') (stuck' : ¬Viable (pre' ++ [t'])) :
    pre = pre' ∧ t = t' ∧ rest = rest' := by
  have same : pre.length = pre'.length :=
    Nat.le_antisymm (first_unviable_le parts.symm stuck' viable) (first_unviable_le parts stuck viable')
  obtain ⟨rfl, tails⟩ := List.append_inj parts same
  simp only [List.cons.injEq] at tails
  exact ⟨rfl, tails⟩

/-- Reading a program fails in one of two ways: at the end of tokens that all begin a program
and make none, or at the first token that no program continues what was read with. -/
theorem parse_error_cases {ts : List Token} {s : Rest ts} (h : Program.parse? ts = .error s) :
    (s.tokens = [] ∧ Viable ts ∧ ∀ p, ¬Derives ts p) ∨
    ∃ pre t rest, s.tokens = t :: rest ∧ ts = pre ++ t :: rest ∧ Viable pre ∧
      ¬Viable (pre ++ [t]) := by
  obtain ⟨pre, parts, viable⟩ := parse_stops_viable ⟨s, h, rfl⟩
  cases stop : s.tokens with
  | nil =>
    rw [stop, List.append_nil] at parts
    subst parts
    refine .inl ⟨rfl, viable, fun p derived => ?_⟩
    rw [parse_complete derived] at h
    cases h
  | cons t rest =>
    rw [stop] at parts
    exact .inr ⟨pre, t, rest, rfl, parts, viable, parse_stops_unviable ⟨s, h, stop⟩ parts⟩

/-- What reading with recovery gives, by the grammar. `Recovery quiet index ts r`: reading the
tokens `ts`, the first of which has `index` tokens before it in the text, with an error reported
only once at least `quiet` tokens were read, gives the program and the reported errors `r`. -/
inductive Recovery : Nat → Nat → List Token → Option Program × List SyntaxError → Prop
  /-- The tokens make a program. -/
  | clean {quiet index : Nat} {ts : List Token} {p : Program} :
      Derives ts p → Recovery quiet index ts (some p, [])
  /-- All the tokens begin a program but make none: there is no program. -/
  | atEnd {quiet index : Nat} {ts : List Token} :
      Viable ts → (∀ p, ¬Derives ts p) →
      Recovery quiet index ts (none, if quiet ≤ ts.length then [.endOfText] else [])
  /-- The first token that no program continues what was read with is dropped with all before
  it, and reading starts afresh after it. -/
  | atToken {quiet index : Nat} {ts pre rest : List Token} {t : Token} {program : Option Program}
      {errors : List SyntaxError} :
      ts = pre ++ t :: rest → Viable pre → ¬Viable (pre ++ [t]) →
      Recovery reportGap (index + pre.length + 1) rest (program, errors) →
      Recovery quiet index ts
        (program, if quiet ≤ pre.length then .token (index + pre.length) t :: errors else errors)

theorem Recovery.unique {quiet index : Nat} {ts : List Token}
    {r r' : Option Program × List SyntaxError} (first : Recovery quiet index ts r)
    (second : Recovery quiet index ts r') : r = r' := by
  induction first generalizing r' with
  | clean derived =>
    cases second with
    | clean derived' => rw [Derives.unique derived derived']
    | atEnd _ none => exact absurd derived (none _)
    | atToken parts _ stuck _ => exact absurd (derived.viable.continues parts) stuck
  | atEnd viable none =>
    cases second with
    | clean derived => exact absurd derived (none _)
    | atEnd => rfl
    | atToken parts _ stuck _ => exact absurd (viable.continues parts) stuck
  | atToken parts viable stuck _ after =>
    cases second with
    | clean derived => exact absurd (derived.viable.continues parts) stuck
    | atEnd viable' _ => exact absurd (viable'.continues parts) stuck
    | atToken parts' viable' stuck' rest' =>
      obtain ⟨rfl, rfl, rfl⟩ :=
        first_unviable_unique (parts.symm.trans parts') viable stuck viable' stuck'
      obtain ⟨rfl, rfl⟩ := Prod.mk.inj (after rest')
      rfl

/-- The reader's recovery follows the rules. -/
theorem recover_recovery (quiet index : Nat) (ts : List Token) :
    Recovery quiet index ts (Program.recover quiet index ts) := by
  fun_induction Program.recover quiet index ts with
  | case1 quiet index ts p parsed => exact .clean (parse_ok_iff.1 parsed)
  | case2 quiet index ts stop failed read loud stop_eq =>
    rcases parse_error_cases failed with ⟨-, viable, none⟩ | ⟨pre, t, rest, stop', -, -, -⟩
    · -- every token was read before the end
      have whole : read = ts.length := by simp [read, stop_eq]
      have reported : (if loud = true then [SyntaxError.endOfText] else []) =
          if quiet ≤ ts.length then [.endOfText] else [] := by simp [loud, whole]
      rw [reported]
      exact .atEnd viable none
    · simp [stop_eq] at stop'
  | case3 quiet index ts stop failed read loud t rest stop_eq _ program errors again after =>
    rcases parse_error_cases failed with
      ⟨stop', -, -⟩ | ⟨pre, t', rest', stop', parts, viable, stuck⟩
    · simp [stop_eq] at stop'
    · rw [stop_eq, List.cons.injEq] at stop'
      obtain ⟨rfl, rfl⟩ := stop'
      have consumed : read = pre.length := by simp [read, stop_eq, parts]
      have reported : (if loud = true then SyntaxError.token (index + read) t :: errors
          else errors) =
          if quiet ≤ pre.length then .token (index + pre.length) t :: errors else errors := by
        simp [loud, consumed]
      rw [again, consumed] at after
      rw [reported]
      exact .atToken parts viable stuck after

end RoboScript.Grammar
