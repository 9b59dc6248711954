import RoboScript.Token.Lexer

/-! Scanning is maximal munch. Read left to right, a text falls into pieces, each the one that
the rules read where it starts: a blank or a tab, skipped; a whole run of line breaks; a token
whose text is the longest start of what is left that is a word, a number or an operator; or a
character that starts none of these, reported and skipped. A word's kind is its keyword's in
the dialect, or an identifier; a number's value is the integer its digits write, or the double
nearest the decimal when it has a point; every token and report carries the line it is on and
its column, counted from the line breaks before it. The scanner reads exactly these pieces in
order. It stops early only where an integer literal has more digits than may be converted.

The rules are stated here without the scanner: patterns of the three kinds of token as
predicates on text, and the table of operators. -/

namespace RoboScript

namespace Lexical

/-! ### Token patterns -/

/-- A word: an ASCII letter or an underscore, then ASCII letters, digits and underscores. -/
def IsWord : List Char → Prop
  | [] => False
  | c :: rest => isWordStart c ∧ ∀ x ∈ rest, isWordChar x

/-- A run of decimal digits of any script, at least one. -/
def IsDigits (cs : List Char) : Prop := cs ≠ [] ∧ ∀ x ∈ cs, Text.isDecimalDigit x

/-- A number: digits, and possibly a point with more digits after it. -/
def IsNumber (t : List Char) : Prop :=
  IsDigits t ∨ ∃ w f, IsDigits w ∧ IsDigits f ∧ t = w ++ '.' :: f

/-- The operators, with their texts. -/
def operators : List (List Char × TokenKind) :=
  [(['|', '|'], .binary .or), (['=', '='], .binary .eq), (['!', '='], .binary .ne),
   (['<', '='], .binary .le), (['>', '='], .binary .ge), (['&', '&'], .binary .and),
   (['('], .lparen), ([')'], .rparen), (['{'], .lbrace), (['}'], .rbrace), ([','], .comma),
   ([';'], .semicolon), (['+'], .binary .add), (['-'], .binary .sub), (['*'], .binary .mul),
   (['/'], .binary .div), (['<'], .binary .lt), (['>'], .binary .gt), (['!'], .not)]

/-- An operator's text. -/
def IsOperator (t : List Char) : Prop := ∃ kind, (t, kind) ∈ operators

/-- A text that some token pattern matches. -/
def IsToken (t : List Char) : Prop := IsWord t ∨ IsNumber t ∨ IsOperator t

/-- `t` is at least as long as every start of `input` that a token pattern matches. -/
def Longest (t input : List Char) : Prop := ∀ u, u <+: input → IsToken u → u.length ≤ t.length

/-- The integer that decimal digits write, most significant first. -/
def digitsValue (cs : List Char) : Nat :=
  cs.foldl (fun n c => 10 * n + (Text.digitValue? c).getD 0) 0

/-- What a token's text means in a dialect: a word its keyword's kind or an identifier, an
integer its value, a decimal the double nearest to it, an operator its own kind. -/
def Means (d : Dialect) (t : List Char) (kind : TokenKind) : Prop :=
  IsWord t ∧ kind = d.classify (String.ofList t) ∨
  IsDigits t ∧ kind = .number (.int (digitsValue t)) ∨
  (∃ w f, IsDigits w ∧ IsDigits f ∧ t = w ++ '.' :: f ∧
    kind = .number (.float (Decimal.toFloat false (digitsValue (w ++ f)) (-(f.length : Int))))) ∨
  (t, kind) ∈ operators

/-! ### Pieces -/

/-- A piece of text as the rules read it. -/
inductive Piece where
  /-- A blank or a tab, skipped. -/
  | blank (c : Char)
  /-- A run of `n` line breaks. -/
  | breaks (n : Nat)
  /-- A character that starts no token, reported and skipped. -/
  | illegal (c : Char)
  /-- The text of a token. -/
  | token (text : List Char)

/-- The characters a piece covers. -/
def Piece.text : Piece → List Char
  | .blank c => [c]
  | .breaks n => List.replicate n '\n'
  | .illegal c => [c]
  | .token text => text

/-- The piece that the rules read at the start of `p.text ++ rest`. -/
def Piece.Read : Piece → List Char → Prop
  | .blank c, _ => c = ' ' ∨ c = '\t'
  | .breaks n, rest => 0 < n ∧ rest.head? ≠ some '\n'
  | .illegal c, rest =>
    c ≠ ' ' ∧ c ≠ '\t' ∧ c ≠ '\n' ∧ ∀ u, u <+: c :: rest → ¬IsToken u
  | .token text, rest => IsToken text ∧ Longest text (text ++ rest)

/-- A text read into pieces from its start, each the piece the rules read where it starts,
until `remaining` is left. -/
inductive Munch : List Char → List Piece → List Char → Prop
  | stop (remaining : List Char) : Munch remaining [] remaining
  | read {p : Piece} {rest : List Char} {ps : List Piece} {remaining : List Char} :
    p.Read rest → Munch rest ps remaining → Munch (p.text ++ rest) (p :: ps) remaining

/-! ### Lines and columns -/

/-- The index of the last line break of a text, or `-1` when it has none. -/
def lastBreak (text : List Char) : Int :=
  text.length - 1 - (text.reverse.takeWhile (· != '\n')).length

/-- The line of the character at `pos` of `s`: one more than the line breaks before it. -/
def lineAt (s : List Char) (pos : Nat) : Nat := (s.take pos).count '\n' + 1

/-- The column of the character at `pos` of `s`: its distance from the last line break before
it, or from just before the text. -/
def columnAt (s : List Char) (pos : Nat) : Nat := (pos - lastBreak (s.take pos)).toNat

/-- The lexemes of pieces of `s` read from `pos` on: a token with what its text means, where it
starts and its line and column; a report of an illegal character with its line and column. -/
inductive Lexemes (d : Dialect) (s : List Char) : Nat → List Piece → List Lexeme → Prop
  | nil (pos : Nat) : Lexemes d s pos [] []
  | blank {pos c ps ls} : Lexemes d s (pos + 1) ps ls → Lexemes d s pos (.blank c :: ps) ls
  | breaks {pos n ps ls} : Lexemes d s (pos + n) ps ls → Lexemes d s pos (.breaks n :: ps) ls
  | illegal {pos c ps ls} : Lexemes d s (pos + 1) ps ls →
    Lexemes d s pos (.illegal c :: ps) (.illegal c (lineAt s pos) (columnAt s pos) :: ls)
  | token {pos text kind ps ls} : Means d text kind → Lexemes d s (pos + text.length) ps ls →
    Lexemes d s pos (.token text :: ps)
      (.token ⟨kind, String.ofList text, lineAt s pos, pos, columnAt s pos⟩ :: ls)

/-- The rules read at the start of `remaining` an integer literal with more digits than may be
converted, and `e` says so. -/
def Overlong (remaining : List Char) (e : Error) : Prop :=
  ∃ w rest, remaining = w ++ rest ∧ IsDigits w ∧ Longest w remaining ∧ digitLimit < w.length ∧
    e = .digitLimitRead w.length

/-! ### Characters -/

theorem digitZeros_far : ∀ z ∈ Text.digitZeros, z = 0x30 ∨ 0x660 ≤ z := by decide

theorem not_decimalDigit_of_low {c : Char} (low : c.toNat < 0x660)
    (notAscii : c.toNat < 0x30 ∨ 0x3A ≤ c.toNat) : Text.isDecimalDigit c = false := by
  unfold Text.isDecimalDigit Text.digitValue?
  rw [Option.isSome_eq_false_iff, Option.isNone_iff_eq_none, List.findSome?_eq_none_iff]
  intro z listed
  rcases digitZeros_far z listed with rfl | far <;> split <;> first | rfl | omega

theorem not_decimalDigit_of_wordStart {c : Char} (start : isWordStart c) :
    Text.isDecimalDigit c = false := by
  change ((decide (c.val ≥ 'A'.val ∧ c.val ≤ 'Z'.val) ||
    (decide (c.val ≥ 'a'.val) && decide (c.val ≤ 'z'.val))) || decide (c = '_')) = true at start
  simp only [Bool.or_eq_true, Bool.and_eq_true, decide_eq_true_eq, GE.ge,
    UInt32.le_iff_toNat_le] at start
  have code : c.toNat = c.val.toNat := rfl
  have letters : 'A'.val.toNat = 65 ∧ 'Z'.val.toNat = 90 ∧ 'a'.val.toNat = 97 ∧
      'z'.val.toNat = 122 := ⟨rfl, rfl, rfl, rfl⟩
  rcases start with (⟨above, below⟩ | ⟨above, below⟩) | rfl
  · exact not_decimalDigit_of_low (by omega) (by omega)
  · exact not_decimalDigit_of_low (by omega) (by omega)
  · exact not_decimalDigit_of_low (by decide) (by decide)

theorem operators_plain : ∀ p ∈ operators, (∀ x ∈ p.1, isWordStart x = false ∧
    Text.isDecimalDigit x = false) ∧ '\n' ∉ p.1 := by
  have signs : operators.all (fun p => p.1.all (fun x => !isWordStart x && !Text.isDecimalDigit x)
      && !p.1.contains '\n') = true := by
    decide
  simpa [List.all_eq_true] using signs

theorem operatorAt_single {a : Char}
    (single : a ∈ ['(', ')', '{', '}', ',', ';', '+', '-', '*', '/', '<', '>', '!'])
    (next : Option Char) : ∃ kind pair, operatorAt a next = some (kind, pair) := by
  simp only [List.mem_cons, List.not_mem_nil, or_false] at single
  rcases single with rfl | rfl | rfl | rfl | rfl | rfl | rfl | rfl | rfl | rfl | rfl | rfl | rfl
  all_goals
    unfold operatorAt
    split <;> first | exact ⟨_, _, rfl⟩ | simp_all

theorem operatorAt_mem {c : Char} {next : Option Char} {kind : TokenKind} {pair : Bool}
    (read : operatorAt c next = some (kind, pair)) :
    (c :: (if pair then next.toList else []), kind) ∈ operators := by
  unfold operatorAt at read
  split at read <;> cases read <;> simp [operators]

theorem operatorAt_of_start {u : List Char} {k : TokenKind} (listed : (u, k) ∈ operators)
    {c : Char} {rest : List Char} (starts : u <+: c :: rest) :
    ∃ kind pair, operatorAt c rest.head? = some (kind, pair) ∧
      u.length ≤ if pair then 2 else 1 := by
  simp only [operators, List.mem_cons, Prod.mk.injEq, List.not_mem_nil, or_false] at listed
  rcases listed with ⟨rfl, -⟩ | ⟨rfl, -⟩ | ⟨rfl, -⟩ | ⟨rfl, -⟩ | ⟨rfl, -⟩ | ⟨rfl, -⟩ |
    ⟨rfl, -⟩ | ⟨rfl, -⟩ | ⟨rfl, -⟩ | ⟨rfl, -⟩ | ⟨rfl, -⟩ | ⟨rfl, -⟩ | ⟨rfl, -⟩ | ⟨rfl, -⟩ |
    ⟨rfl, -⟩ | ⟨rfl, -⟩ | ⟨rfl, -⟩ | ⟨rfl, -⟩ | ⟨rfl, -⟩
  all_goals obtain ⟨rfl, tail⟩ := List.cons_prefix_cons.1 starts
  iterate 6 (obtain ⟨r, rfl⟩ := tail; exact ⟨_, _, rfl, by decide⟩)
  all_goals exact (operatorAt_single (by decide) rest.head?).imp fun _ =>
    Exists.imp fun pair read => ⟨read, by cases pair <;> decide⟩

/-! ### Tokens -/

theorem IsToken.ne_nil {u : List Char} (token : IsToken u) : u ≠ [] := by
  rintro rfl
  rcases token with word | (⟨nonempty, -⟩ | ⟨w, f, -, -, split⟩) | ⟨k, listed⟩
  · exact word
  · exact nonempty rfl
  · simp at split
  · simp [operators] at listed

theorem IsNumber.head {x : Char} {u : List Char} (number : IsNumber (x :: u)) :
    Text.isDecimalDigit x := by
  rcases number with ⟨-, digits⟩ | ⟨w, f, ⟨nonempty, digits⟩, -, split⟩
  · exact digits x List.mem_cons_self
  · obtain ⟨y, w, rfl⟩ := List.exists_cons_of_ne_nil nonempty
    simp only [List.cons_append, List.cons.injEq] at split
    rw [split.1]
    exact digits y List.mem_cons_self

theorem IsToken.word {x : Char} {u : List Char} (start : isWordStart x)
    (token : IsToken (x :: u)) : IsWord (x :: u) := by
  rcases token with word | number | ⟨k, listed⟩
  · exact word
  · have digit := number.head
    rw [not_decimalDigit_of_wordStart start] at digit
    cases digit
  · rw [((operators_plain _ listed).1 x List.mem_cons_self).1] at start
    cases start

theorem IsToken.number {x : Char} {u : List Char} (digit : Text.isDecimalDigit x)
    (token : IsToken (x :: u)) : IsNumber (x :: u) := by
  rcases token with word | number | ⟨k, listed⟩
  · rw [not_decimalDigit_of_wordStart word.1] at digit
    cases digit
  · exact number
  · rw [((operators_plain _ listed).1 x List.mem_cons_self).2] at digit
    cases digit

theorem IsToken.operator {x : Char} {u : List Char} (notWord : isWordStart x = false)
    (notDigit : Text.isDecimalDigit x = false) (token : IsToken (x :: u)) :
    IsOperator (x :: u) := by
  rcases token with word | number | operator
  · have start := word.1
    rw [notWord] at start
    cases start
  · have digit := number.head
    rw [notDigit] at digit
    cases digit
  · exact operator

theorem IsToken.no_break {t : List Char} (token : IsToken t) : '\n' ∉ t := by
  rcases token with word | (⟨-, digits⟩ | ⟨w, f, ⟨-, whole⟩, ⟨-, fraction⟩, rfl⟩) | ⟨k, listed⟩
  · cases t with
    | nil => exact word.elim
    | cons x rest =>
      rintro (_ | ⟨_, inside⟩)
      · exact absurd word.1 (by decide)
      · exact absurd (word.2 _ inside) (by decide)
  · exact fun inside => absurd (digits _ inside) (by decide)
  · simp only [List.mem_append, List.mem_cons, not_or]
    exact ⟨fun inside => absurd (whole _ inside) (by decide), by decide,
      fun inside => absurd (fraction _ inside) (by decide)⟩
  · exact (operators_plain _ listed).2

/-! ### Longest starts -/

section Lists

variable {α : Type} {p : α → Bool}

theorem length_le_takeWhile : ∀ {u l : List α}, u <+: l → (∀ x ∈ u, p x) →
    u.length ≤ (l.takeWhile p).length
  | [], _, _, _ => Nat.zero_le _
  | _ :: _, [], starts, _ => absurd (List.eq_nil_of_prefix_nil starts) (List.cons_ne_nil _ _)
  | x :: u, y :: l, starts, all => by
    obtain ⟨rfl, rest⟩ := List.cons_prefix_cons.1 starts
    rw [List.takeWhile_cons_of_pos (all x List.mem_cons_self), List.length_cons, List.length_cons]
    exact Nat.succ_le_succ
      (length_le_takeWhile rest fun z inside => all z (List.mem_cons_of_mem _ inside))

theorem takeWhile_append_drop (l : List α) :
    l.takeWhile p ++ l.drop (l.takeWhile p).length = l := by
  have starts := List.prefix_iff_eq_take.1 (List.takeWhile_prefix p (l := l))
  calc l.takeWhile p ++ l.drop (l.takeWhile p).length
      = l.take (l.takeWhile p).length ++ l.drop (l.takeWhile p).length := by rw [← starts]
    _ = l := List.take_append_drop _ l

theorem head_drop_takeWhile (l : List α) {x : α}
    (next : (l.drop (l.takeWhile p).length).head? = some x) : p x = false := by
  have same : l.drop (l.takeWhile p).length = l.dropWhile p :=
    List.append_cancel_left ((takeWhile_append_drop l).trans (List.takeWhile_append_dropWhile).symm)
  have stops := List.head?_dropWhile_not p l
  rw [← same, next] at stops
  exact stops

theorem takeWhile_append_stop {body rest : List α} (all : ∀ x ∈ body, p x)
    (stops : ∀ x, rest.head? = some x → p x = false) : (body ++ rest).takeWhile p = body := by
  rw [List.takeWhile_append_of_pos all]
  cases rest with
  | nil => simp
  | cons y rest => simp [stops y rfl]

theorem takeWhile_all (l : List α) : ∀ x ∈ l.takeWhile p, p x :=
  List.all_eq_true.1 List.all_takeWhile

end Lists

theorem cons_of_start {u rest : List Char} {c : Char} (starts : u <+: c :: rest)
    (nonempty : u ≠ []) : ∃ t, u = c :: t ∧ t <+: rest :=
  (List.prefix_cons_iff.1 starts).resolve_left nonempty

/-! ### The pieces the scanner reads -/

theorem read_word {c : Char} {rest : List Char} (start : isWordStart c) :
    (Piece.token (c :: rest.takeWhile isWordChar)).Read
      (rest.drop (rest.takeWhile isWordChar).length) := by
  refine ⟨.inl ⟨start, takeWhile_all rest⟩, fun u starts token => ?_⟩
  rw [List.cons_append, takeWhile_append_drop] at starts
  obtain ⟨t, rfl, tail⟩ := cons_of_start starts token.ne_nil
  exact Nat.succ_le_succ (length_le_takeWhile tail (token.word start).2)

theorem digits_le {whole after u : List Char} (digits : ∀ x ∈ whole, Text.isDecimalDigit x)
    (stops : ∀ x, after.head? = some x → Text.isDecimalDigit x = false)
    (starts : u <+: whole ++ after) (all : ∀ x ∈ u, Text.isDecimalDigit x) :
    u.length ≤ whole.length := by
  have longest := length_le_takeWhile starts all
  rwa [takeWhile_append_stop digits stops] at longest

theorem point_after_digits {after : List Char}
    (stops : ∀ x, after.head? = some x → Text.isDecimalDigit x = false) :
    ∀ {whole w f : List Char}, (∀ x ∈ whole, Text.isDecimalDigit x) →
      (∀ x ∈ w, Text.isDecimalDigit x) → w ++ '.' :: f <+: whole ++ after →
      w = whole ∧ '.' :: f <+: after
  | [], [], _, _, _, starts => ⟨rfl, starts⟩
  | [], x :: w, _, _, digits, starts => by
    obtain ⟨t, joined⟩ := starts
    have first := stops x (by rw [← List.nil_append after, ← joined]; rfl)
    rw [digits x List.mem_cons_self] at first
    cases first
  | y :: whole, [], _, digits, _, starts => by
    have point := (List.cons_prefix_cons.1 starts).1
    have digit := digits y List.mem_cons_self
    rw [← point] at digit
    cases digit
  | y :: whole, x :: w, _, digits, all, starts => by
    obtain ⟨rfl, rest⟩ := List.cons_prefix_cons.1 starts
    obtain ⟨same, point⟩ := point_after_digits stops
      (fun z inside => digits z (List.mem_cons_of_mem _ inside))
      (fun z inside => all z (List.mem_cons_of_mem _ inside)) rest
    exact ⟨congrArg _ same, point⟩

theorem number_start {whole after u : List Char} (digits : IsDigits whole)
    (stops : ∀ x, after.head? = some x → Text.isDecimalDigit x = false)
    (starts : u <+: whole ++ after) (number : IsNumber u) :
    u.length ≤ whole.length ∨ ∃ x more f, after = '.' :: x :: more ∧ Text.isDecimalDigit x ∧
      x :: f <+: x :: more ∧ (∀ y ∈ f, Text.isDecimalDigit y) ∧
      u.length = whole.length + 1 + (x :: f).length := by
  rcases number with ⟨-, all⟩ | ⟨w, f, ⟨-, wDigits⟩, ⟨nonempty, fDigits⟩, rfl⟩
  · exact .inl (digits_le digits.2 stops starts all)
  · right
    obtain ⟨rfl, point⟩ := point_after_digits stops digits.2 wDigits starts
    obtain ⟨x, f, rfl⟩ := List.exists_cons_of_ne_nil nonempty
    obtain ⟨t, joined⟩ := point
    refine ⟨x, f ++ t, f, ?_, fDigits x List.mem_cons_self, ⟨t, rfl⟩,
      fun y inside => fDigits y (List.mem_cons_of_mem _ inside), ?_⟩
    · rw [← joined]
      rfl
    · simp only [List.length_append, List.length_cons]
      omega

theorem number_of_start {whole after u : List Char} (digits : IsDigits whole)
    (starts : u <+: whole ++ after) (token : IsToken u) : IsNumber u := by
  obtain ⟨y, whole, rfl⟩ := List.exists_cons_of_ne_nil digits.1
  obtain ⟨t, rfl, -⟩ := cons_of_start starts token.ne_nil
  exact token.number (digits.2 y List.mem_cons_self)

theorem read_integer {whole after : List Char} (digits : IsDigits whole)
    (stops : ∀ x, after.head? = some x → Text.isDecimalDigit x = false)
    (noFraction : ∀ x more, after = '.' :: x :: more → Text.isDecimalDigit x = false) :
    (Piece.token whole).Read after := by
  refine ⟨.inr (.inl (.inl digits)), fun u starts token => ?_⟩
  rcases number_start digits stops starts (number_of_start digits starts token) with
    short | ⟨x, more, f, point, digit, -⟩
  · exact short
  · rw [noFraction x more point] at digit
    cases digit

theorem read_decimal {whole more : List Char} {x : Char} (digits : IsDigits whole)
    (digit : Text.isDecimalDigit x) :
    (Piece.token (whole ++ '.' :: x :: more.takeWhile Text.isDecimalDigit)).Read
      (more.drop (more.takeWhile Text.isDecimalDigit).length) := by
  have joined : (whole ++ '.' :: x :: more.takeWhile Text.isDecimalDigit) ++
      more.drop (more.takeWhile Text.isDecimalDigit).length = whole ++ '.' :: x :: more := by
    simp only [List.append_assoc, List.cons_append, takeWhile_append_drop]
  have stops : ∀ y, ('.' :: x :: more).head? = some y → Text.isDecimalDigit y = false := by
    intro y first
    cases first
    decide
  have fraction : ∀ y ∈ x :: more.takeWhile Text.isDecimalDigit, Text.isDecimalDigit y := by
    intro y inside
    rcases List.mem_cons.1 inside with rfl | later
    · exact digit
    · exact takeWhile_all more y later
  refine ⟨.inr (.inl (.inr ⟨whole, _, digits, ⟨List.cons_ne_nil _ _, fraction⟩, rfl⟩)),
    fun u starts token => ?_⟩
  rw [joined] at starts
  rcases number_start digits stops starts (number_of_start digits starts token) with
    short | ⟨y, rest, f, point, -, tail, fDigits, length⟩
  · simp only [List.length_append, List.length_cons]
    omega
  · -- the digits after the point are no more than the scanner takes
    simp only [List.cons.injEq, true_and] at point
    obtain ⟨rfl, rfl⟩ := point
    have longer := length_le_takeWhile (List.cons_prefix_cons.1 tail).2 fDigits
    rw [length]
    simp only [List.length_append, List.length_cons]
    omega

theorem read_breaks (rest : List Char) :
    (Piece.breaks ((rest.takeWhile (· = '\n')).length + 1)).Read
      (rest.drop (rest.takeWhile (· = '\n')).length) := by
  refine ⟨Nat.succ_pos _, fun first => ?_⟩
  have other := head_drop_takeWhile rest first
  simp at other

theorem breaks_text (rest : List Char) :
    (Piece.breaks ((rest.takeWhile (· = '\n')).length + 1)).text ++
      rest.drop (rest.takeWhile (· = '\n')).length = '\n' :: rest := by
  have run : rest.takeWhile (· = '\n') = List.replicate (rest.takeWhile (· = '\n')).length '\n' :=
    List.eq_replicate_iff.2 ⟨rfl, fun x inside => by simpa using takeWhile_all rest x inside⟩
  simp only [Piece.text, List.replicate_succ, List.cons_append]
  rw [← run, takeWhile_append_drop]

theorem operatorAt_pair {c : Char} {next : Option Char} {kind : TokenKind}
    (read : operatorAt c next = some (kind, true)) : next.isSome := by
  unfold operatorAt at read
  split at read <;> simp_all

theorem operator_text (c : Char) (rest : List Char) (pair : Bool) :
    (c :: if pair then rest.take 1 else []) ++ rest.drop (if pair then 1 else 0) = c :: rest := by
  cases pair with
  | false => simp
  | true => exact congrArg (c :: ·) (List.take_append_drop 1 rest)

theorem operator_written {c : Char} {rest : List Char} {kind : TokenKind} {pair : Bool}
    (read : operatorAt c rest.head? = some (kind, pair)) :
    String.ofList (c :: if pair then rest.take 1 else []) =
        (if pair then String.ofList (c :: rest.take 1) else c.toString) ∧
      (c :: if pair then rest.take 1 else []).length = (if pair then 1 else 0) + 1 := by
  cases pair with
  | false =>
    refine ⟨?_, rfl⟩
    rw [Char.toString, String.singleton_eq_ofList]
    rfl
  | true =>
    obtain ⟨y, first⟩ := Option.isSome_iff_exists.1 (operatorAt_pair read)
    obtain ⟨r, rfl⟩ : ∃ r, rest = y :: r := by
      cases rest with
      | nil => cases first
      | cons z r =>
        cases first
        exact ⟨r, rfl⟩
    exact ⟨rfl, rfl⟩

theorem read_operator {c : Char} {rest : List Char} {kind : TokenKind} {pair : Bool}
    (word : isWordStart c = false) (digit : Text.isDecimalDigit c = false)
    (read : operatorAt c rest.head? = some (kind, pair)) :
    (Piece.token (c :: if pair then rest.take 1 else [])).Read
      (rest.drop (if pair then 1 else 0)) := by
  have listed := operatorAt_mem read
  rw [← List.take_one] at listed
  refine ⟨.inr (.inr ⟨kind, listed⟩), fun u starts token => ?_⟩
  rw [operator_text] at starts
  obtain ⟨t, rfl, -⟩ := cons_of_start starts token.ne_nil
  obtain ⟨k, inTable⟩ := token.operator word digit
  obtain ⟨kind', pair', read', longest⟩ := operatorAt_of_start inTable starts
  rw [read] at read'
  cases read'
  cases pair with
  | false => simpa using longest
  | true =>
    obtain ⟨y, first⟩ := Option.isSome_iff_exists.1 (operatorAt_pair read)
    rw [if_pos rfl] at longest ⊢
    rw [List.take_one, first]
    exact longest

theorem read_illegal {c : Char} {rest : List Char} (blank : ¬(c = ' ' ∨ c = '\t'))
    (newline : c ≠ '\n') (word : isWordStart c = false) (digit : Text.isDecimalDigit c = false)
    (none : operatorAt c rest.head? = none) : (Piece.illegal c).Read rest := by
  refine ⟨fun same => blank (.inl same), fun same => blank (.inr same), newline,
    fun u starts token => ?_⟩
  obtain ⟨t, rfl, -⟩ := cons_of_start starts token.ne_nil
  obtain ⟨k, inTable⟩ := token.operator word digit
  obtain ⟨kind, pair, read, -⟩ := operatorAt_of_start inTable starts
  rw [none] at read
  cases read

/-! ### One step of the scanner -/

/-- Where the scanner stands after a piece. -/
def Piece.advance : Piece → Cursor → Cursor
  | .blank _, cur => cur.skip 1
  | .breaks n, cur => cur.breaks n
  | .illegal _, cur => cur.skip 1
  | .token text, cur => cur.skip text.length

/-- The lexemes the scanner adds for a piece it reads at a cursor: a token with what its text
means, or a report, at the cursor's line and column. -/
def Piece.Emits (d : Dialect) (cur : Cursor) : Piece → List Lexeme → Prop
  | .blank _, ls => ls = []
  | .breaks _, ls => ls = []
  | .illegal c, ls => ls = [.illegal c cur.line cur.column]
  | .token text, ls => ∃ kind, Means d text kind ∧
    ls = [.token ⟨kind, String.ofList text, cur.line, cur.offset, cur.column⟩]

theorem fraction_cases {after : List Char} {fraction : Option (List Char)} {used : Nat}
    (taken : (match after with
      | '.' :: d :: more =>
        if Text.isDecimalDigit d then
          let frac := d :: more.takeWhile Text.isDecimalDigit
          (some frac, frac.length + 1)
        else (none, 0)
      | _ => (none, 0)) = (fraction, used)) :
    (∃ x more, after = '.' :: x :: more ∧ Text.isDecimalDigit x ∧
      fraction = some (x :: more.takeWhile Text.isDecimalDigit) ∧
      used = (more.takeWhile Text.isDecimalDigit).length + 2) ∨
    ((∀ x more, after = '.' :: x :: more → Text.isDecimalDigit x = false) ∧ fraction = none ∧
      used = 0) := by
  split at taken
  · next x more =>
    by_cases digit : Text.isDecimalDigit x
    · rw [if_pos digit] at taken
      cases taken
      exact .inl ⟨x, more, rfl, digit, rfl, rfl⟩
    · rw [if_neg digit] at taken
      cases taken
      refine .inr ⟨fun y more' same => ?_, rfl, rfl⟩
      simp only [List.cons.injEq, true_and] at same
      rw [← same.1]
      simpa using digit
  · next other =>
    cases taken
    exact .inr ⟨fun x more same => absurd same (other x more), rfl, rfl⟩

theorem digitsValue_eq (cs : List Char) :
    digitsValue cs = Decimal.ofDigitValues (cs.map fun c => (Text.digitValue? c).getD 0) := by
  simp [digitsValue, Decimal.ofDigitValues, List.foldl_map]

theorem decimal_digits {x : Char} {more : List Char} (digit : Text.isDecimalDigit x) :
    ∀ y ∈ x :: more.takeWhile Text.isDecimalDigit, Text.isDecimalDigit y := by
  intro y inside
  rcases List.mem_cons.1 inside with rfl | later
  · exact digit
  · exact takeWhile_all more y later

theorem number_span {c : Char} {rest : List Char} (digit : Text.isDecimalDigit c) :
    IsDigits (c :: rest.takeWhile Text.isDecimalDigit) ∧
      c :: rest = (c :: rest.takeWhile Text.isDecimalDigit) ++
        rest.drop ((c :: rest.takeWhile Text.isDecimalDigit).length - 1) ∧
      ∀ x, (rest.drop ((c :: rest.takeWhile Text.isDecimalDigit).length - 1)).head? = some x →
        Text.isDecimalDigit x = false :=
  ⟨⟨List.cons_ne_nil _ _, decimal_digits digit⟩,
    (congrArg (c :: ·) (takeWhile_append_drop rest)).symm, fun _ => head_drop_takeWhile rest⟩

theorem scanFrom_step (d : Dialect) (cs : List Char) (cur : Cursor) (acc : List Lexeme) :
    (cs = [] ∧ scanFrom d cs cur acc = ⟨acc.reverse, none⟩) ∨
    (∃ e, Overlong cs e ∧ scanFrom d cs cur acc = ⟨acc.reverse, some e⟩) ∨
    ∃ (p : Piece) (rest : List Char) (ls : List Lexeme), p.Read rest ∧ cs = p.text ++ rest ∧
      p.Emits d cur ls ∧
        scanFrom d cs cur acc = scanFrom d rest (p.advance cur) (ls ++ acc) := by
  fun_cases scanFrom d cs cur acc with
  | case1 => exact .inl ⟨rfl, rfl⟩
  | case2 c rest blank =>
    exact .inr (.inr ⟨.blank c, rest, [], blank, rfl, rfl, rfl⟩)
  | case3 rest run blank =>
    exact .inr (.inr ⟨.breaks (run + 1), rest.drop run, [], read_breaks rest,
      (breaks_text rest).symm, rfl, rfl⟩)
  | case4 c rest blank newline word body text t =>
    refine .inr (.inr ⟨.token (c :: body), rest.drop body.length, [.token t], read_word word,
      (congrArg (c :: ·) (takeWhile_append_drop rest)).symm,
      ⟨_, .inl ⟨⟨word, takeWhile_all rest⟩, rfl⟩, rfl⟩, ?_⟩)
    rfl
  | case5 c rest _ _ word digit whole after fraction used split e bad =>
    obtain ⟨digits, span, stops⟩ : IsDigits whole ∧ c :: rest = whole ++ after ∧
        ∀ x, after.head? = some x → Text.isDecimalDigit x = false := number_span digit
    rcases fraction_cases split with ⟨x, more, point, -, rfl, rfl⟩ | ⟨noFraction, rfl, rfl⟩
    · simp [numberLiteral] at bad
    · -- only an integer literal can have too many digits
      simp only [numberLiteral] at bad
      split at bad
      · next long =>
        cases bad
        exact .inr (.inl ⟨_, ⟨whole, after, span, digits, span ▸ (read_integer digits stops
          noFraction).2, long, rfl⟩, rfl⟩)
      · cases bad
  | case6 c rest _ _ word digit whole after fraction used split text lit good t =>
    obtain ⟨digits, span, stops⟩ : IsDigits whole ∧ c :: rest = whole ++ after ∧
        ∀ x, after.head? = some x → Text.isDecimalDigit x = false := number_span digit
    rcases fraction_cases split with ⟨x, more, point, fDigit, rfl, rfl⟩ | ⟨noFraction, rfl, rfl⟩
    · -- a decimal: the digits, the point and the digits after it
      simp only [numberLiteral, Except.ok.injEq] at good
      have length : (whole ++ '.' :: x :: more.takeWhile Text.isDecimalDigit).length =
          whole.length + ((more.takeWhile Text.isDecimalDigit).length + 2) := by
        simp only [List.length_append, List.length_cons]
      refine .inr (.inr ⟨.token (whole ++ '.' :: x :: more.takeWhile Text.isDecimalDigit),
        more.drop (more.takeWhile Text.isDecimalDigit).length, [.token t],
        read_decimal digits fDigit, ?_, ⟨.number lit, .inr (.inr (.inl ⟨whole, _, digits,
          ⟨List.cons_ne_nil _ _, decimal_digits fDigit⟩, rfl, ?_⟩)), rfl⟩, ?_⟩)
      · rw [span, point]
        simp only [Piece.text, List.append_assoc, List.cons_append, takeWhile_append_drop]
      · rw [← good, digitsValue_eq]
      · simp only [Piece.advance]
        rw [length, point]
        rfl
    · -- an integer: the digits alone
      simp only [numberLiteral] at good
      split at good
      · cases good
      · cases good
        refine .inr (.inr ⟨.token whole, after, [.token t], read_integer digits stops noFraction,
          span, ⟨_, .inr (.inl ⟨digits, by rw [digitsValue_eq]⟩), ?_⟩, rfl⟩)
        simp [t, text]
  | case7 c rest blank newline word digit kind pair op text t taken =>
    have listed := operatorAt_mem op
    rw [← List.take_one] at listed
    obtain ⟨written, length⟩ := operator_written op
    refine .inr (.inr ⟨.token (c :: if pair then rest.take 1 else []),
      rest.drop (if pair then 1 else 0), [.token t],
      read_operator (by simpa using word) (by simpa using digit) op,
      (operator_text c rest pair).symm, ⟨kind, .inr (.inr (.inr listed)), by rw [written]⟩, ?_⟩)
    simp only [Piece.advance, length]
    rfl
  | case8 c rest blank newline word digit none =>
    exact .inr (.inr ⟨.illegal c, rest, [_], read_illegal blank newline (by simpa using word)
      (by simpa using digit) none, rfl, rfl, rfl⟩)

/-! ### Lines and columns as the scanner counts them -/

theorem lastBreak_append_plain (l : List Char) {t : List Char} (plain : '\n' ∉ t) :
    lastBreak (l ++ t) = lastBreak l := by
  have passes : ∀ x ∈ t.reverse, (x != '\n') = true := by
    intro x inside
    have different : x ≠ '\n' := fun same => plain (same ▸ List.mem_reverse.1 inside)
    simpa using different
  unfold lastBreak
  rw [List.reverse_append, List.takeWhile_append_of_pos passes]
  simp only [List.length_append, List.length_reverse]
  omega

theorem lastBreak_append_breaks (l : List Char) {n : Nat} (some : 0 < n) :
    lastBreak (l ++ List.replicate n '\n') = l.length + n - 1 := by
  obtain ⟨m, rfl⟩ : ∃ m, n = m + 1 := ⟨n - 1, by omega⟩
  unfold lastBreak
  rw [List.reverse_append, List.reverse_replicate, List.replicate_succ, List.cons_append,
    List.takeWhile_cons_of_neg (by decide)]
  simp

theorem lastBreak_of_plain {t : List Char} (plain : '\n' ∉ t) : lastBreak t = -1 :=
  lastBreak_append_plain [] plain

theorem lastBreak_append_break (l : List Char) {r : List Char} (plain : '\n' ∉ r) :
    lastBreak (l ++ '\n' :: r) = l.length := by
  have split : l ++ '\n' :: r = (l ++ List.replicate 1 '\n') ++ r := by simp
  rw [split, lastBreak_append_plain _ plain, lastBreak_append_breaks l Nat.one_pos]
  simp

/-- A cursor stands after the text `before`: at its length, on the line after its line breaks,
with the index of its last line break. -/
structure Stands (cur : Cursor) (before : List Char) : Prop where
  offset : cur.offset = before.length
  line : cur.line = before.count '\n' + 1
  lastBreak : cur.lastBreak = lastBreak before

theorem Stands.start : Stands Cursor.start [] := ⟨rfl, rfl, rfl⟩

theorem Stands.advance {cur : Cursor} {before : List Char} (stands : Stands cur before)
    {p : Piece} {rest : List Char} (read : p.Read rest) :
    Stands (p.advance cur) (before ++ p.text) := by
  have plain : ∀ {t : List Char}, '\n' ∉ t → Stands (cur.skip t.length) (before ++ t) :=
    fun plain => ⟨by simp [Cursor.skip, stands.offset],
      by simp [Cursor.skip, stands.line, List.count_eq_zero.2 plain],
      by simp [Cursor.skip, stands.lastBreak, lastBreak_append_plain _ plain]⟩
  cases p with
  | blank c =>
    refine plain (t := [c]) ?_
    rcases read with rfl | rfl <;> decide
  | breaks n =>
    refine ⟨by simp [Piece.advance, Cursor.breaks, stands.offset, Piece.text],
      by simp [Piece.advance, Cursor.breaks, stands.line, Piece.text]; omega, ?_⟩
    simp only [Piece.advance, Cursor.breaks, Piece.text, stands.offset,
      lastBreak_append_breaks _ read.1]
  | illegal c =>
    refine plain (t := [c]) ?_
    simpa [eq_comm] using read.2.2.1
  | token text => exact plain read.1.no_break

theorem Stands.lineAt {cur : Cursor} {before : List Char} (stands : Stands cur before)
    (after : List Char) : lineAt (before ++ after) before.length = cur.line := by
  simp [Lexical.lineAt, stands.line]

theorem Stands.columnAt {cur : Cursor} {before : List Char} (stands : Stands cur before)
    (after : List Char) : columnAt (before ++ after) before.length = cur.column := by
  simp [Lexical.columnAt, Cursor.column, stands.offset, stands.lastBreak]

theorem Lexemes.step {d : Dialect} {before after : List Char} {cur : Cursor}
    (stands : Stands cur before) {p : Piece} {ls : List Lexeme} (emits : p.Emits d cur ls)
    {pieces : List Piece} {ls' : List Lexeme}
    (rest : Lexemes d (before ++ after) (before ++ p.text).length pieces ls') :
    Lexemes d (before ++ after) before.length (p :: pieces) (ls ++ ls') := by
  rw [List.length_append] at rest
  cases p with
  | blank c =>
    cases emits
    exact .blank rest
  | breaks n =>
    cases emits
    exact .breaks (by simpa [Piece.text] using rest)
  | illegal c =>
    cases emits
    rw [← stands.lineAt after, ← stands.columnAt after]
    exact .illegal rest
  | token text =>
    obtain ⟨kind, means, rfl⟩ := emits
    rw [← stands.lineAt after, ← stands.columnAt after, stands.offset]
    exact .token means rest

/-! ### The whole scan -/

theorem Piece.Read.text_ne_nil {p : Piece} {rest : List Char} (read : p.Read rest) :
    p.text ≠ [] := by
  cases p with
  | blank c => simp [Piece.text]
  | breaks n => simpa [Piece.text] using Nat.pos_iff_ne_zero.1 read.1
  | illegal c => simp [Piece.text]
  | token text => exact read.1.ne_nil

theorem Piece.Emits.reverse {d : Dialect} {cur : Cursor} {p : Piece} {ls : List Lexeme}
    (emits : p.Emits d cur ls) : ls.reverse = ls := by
  cases p with
  | token text =>
    obtain ⟨kind, -, rfl⟩ := emits
    rfl
  | _ =>
    cases emits
    rfl

/-- From a cursor standing after `before`, the scanner reads `cs` into the pieces the rules
read, adds their lexemes in order, and stops early only at an integer literal with more digits
than may be converted. -/
theorem scanFrom_munch (d : Dialect) (before cs : List Char) (cur : Cursor) (acc : List Lexeme)
    (stands : Stands cur before) :
    ∃ pieces remaining ls, Munch cs pieces remaining ∧
      (scanFrom d cs cur acc).lexemes = acc.reverse ++ ls ∧
      Lexemes d (before ++ cs) before.length pieces ls ∧
      ((scanFrom d cs cur acc).failure = none ∧ remaining = [] ∨
        ∃ e, (scanFrom d cs cur acc).failure = some e ∧ Overlong remaining e) := by
  rcases scanFrom_step d cs cur acc with ⟨rfl, scan⟩ | ⟨e, overlong, scan⟩ |
    ⟨p, rest, ls, read, rfl, emits, scan⟩
  · exact ⟨[], [], [], .stop [], by simp [scan], .nil _, .inl ⟨by simp [scan], rfl⟩⟩
  · exact ⟨[], cs, [], .stop cs, by simp [scan], .nil _, .inr ⟨e, by simp [scan], overlong⟩⟩
  · -- the scanner goes on after the piece, from a cursor standing after it
    have shorter : rest.length < (p.text ++ rest).length := by
      simpa [List.length_pos_iff] using read.text_ne_nil
    obtain ⟨pieces, remaining, ls', munch, lexemes, following, ending⟩ :=
      scanFrom_munch d (before ++ p.text) rest (p.advance cur) (ls ++ acc) (stands.advance read)
    rw [List.append_assoc] at following
    refine ⟨p :: pieces, remaining, ls ++ ls', .read read munch, ?_,
      Lexemes.step stands emits following, by rwa [scan]⟩
    rw [scan, lexemes, List.reverse_append, emits.reverse, List.append_assoc]
termination_by cs.length

/-! ### The pieces are determined -/

theorem IsToken.not_blank {c : Char} {u : List Char} (token : IsToken (c :: u))
    (blank : c = ' ' ∨ c = '\t') : False := by
  rcases token with word | number | ⟨k, listed⟩
  · rcases blank with rfl | rfl <;> exact absurd word.1 (by decide)
  · have digit := number.head
    rcases blank with rfl | rfl <;>
      rw [not_decimalDigit_of_low (by decide) (by decide)] at digit <;> cases digit
  · rcases blank with rfl | rfl <;> simp [operators] at listed

theorem breaks_unique {rest rest' : List Char} (stop : rest.head? ≠ some '\n')
    (stop' : rest'.head? ≠ some '\n') : ∀ {n m : Nat},
    List.replicate n '\n' ++ rest = List.replicate m '\n' ++ rest' → n = m ∧ rest = rest'
  | 0, 0, same => ⟨rfl, same⟩
  | 0, _ + 1, same => by
    simp only [List.replicate_zero, List.nil_append] at same
    simp [same, List.replicate_succ] at stop
  | _ + 1, 0, same => by
    simp only [List.replicate_zero, List.nil_append] at same
    simp [← same, List.replicate_succ] at stop'
  | _ + 1, _ + 1, same => by
    simp only [List.replicate_succ, List.cons_append, List.cons.injEq, true_and] at same
    obtain ⟨rfl, rfl⟩ := breaks_unique stop stop' same
    exact ⟨rfl, rfl⟩

theorem longest_unique {t t' rest rest' : List Char} (token : IsToken t)
    (longest : Longest t (t ++ rest)) (token' : IsToken t') (longest' : Longest t' (t' ++ rest'))
    (same : t ++ rest = t' ++ rest') : t = t' ∧ rest = rest' := by
  have starts : t <+: t' ++ rest' := ⟨rest, same⟩
  have starts' : t' <+: t ++ rest := ⟨rest', same.symm⟩
  have shorter := longest t' starts' token'
  have shorter' := longest' t starts token
  have texts : t = t' :=
    (List.prefix_of_prefix_length_le starts (List.prefix_append t' rest') shorter').eq_of_length_le
      shorter
  exact ⟨texts, by simpa [texts] using same⟩

theorem Piece.Read.unique {p q : Piece} {rest rest' : List Char} (read : p.Read rest)
    (read' : q.Read rest') (same : p.text ++ rest = q.text ++ rest') : p = q ∧ rest = rest' := by
  have heads := congrArg List.head? same
  cases p <;> cases q <;> simp only [Piece.text, Piece.Read] at same heads read read'
  case blank.blank c c' | illegal.illegal c c' =>
    simp only [List.singleton_append, List.cons.injEq] at same
    obtain ⟨rfl, rfl⟩ := same
    exact ⟨rfl, rfl⟩
  case breaks.breaks n m =>
    obtain ⟨rfl, rfl⟩ := breaks_unique read.2 read'.2 same
    exact ⟨rfl, rfl⟩
  case token.token t t' =>
    obtain ⟨rfl, rfl⟩ := longest_unique read.1 read.2 read'.1 read'.2 same
    exact ⟨rfl, rfl⟩
  all_goals exfalso
  case blank.breaks c m | breaks.blank m c | breaks.illegal m c | illegal.breaks c m =>
    obtain ⟨k, rfl⟩ : ∃ k, m = k + 1 := ⟨m - 1, by omega⟩
    simp [List.replicate_succ] at heads
    subst heads
    simp_all
  case blank.illegal c c' | illegal.blank c' c =>
    simp at heads
    subst heads
    simp_all
  case blank.token c t =>
    obtain ⟨x, u, rfl⟩ := List.exists_cons_of_ne_nil read'.1.ne_nil
    simp at heads
    subst heads
    exact read'.1.not_blank read
  case token.blank t c =>
    obtain ⟨x, u, rfl⟩ := List.exists_cons_of_ne_nil read.1.ne_nil
    simp at heads
    subst heads
    exact read.1.not_blank read'
  case breaks.token m t =>
    obtain ⟨k, rfl⟩ : ∃ k, m = k + 1 := ⟨m - 1, by omega⟩
    obtain ⟨x, u, rfl⟩ := List.exists_cons_of_ne_nil read'.1.ne_nil
    simp [List.replicate_succ] at heads
    subst heads
    exact read'.1.no_break List.mem_cons_self
  case token.breaks t m =>
    obtain ⟨k, rfl⟩ : ∃ k, m = k + 1 := ⟨m - 1, by omega⟩
    obtain ⟨x, u, rfl⟩ := List.exists_cons_of_ne_nil read.1.ne_nil
    simp [List.replicate_succ] at heads
    subst heads
    exact read.1.no_break List.mem_cons_self
  case illegal.token c t =>
    exact read.2.2.2 t ⟨rest', by simpa using same.symm⟩ read'.1
  case token.illegal t c =>
    exact read'.2.2.2 t ⟨rest, by simpa using same⟩ read.1

theorem Munch.length_le {cs : List Char} {ps : List Piece} {remaining : List Char}
    (munch : Munch cs ps remaining) : remaining.length ≤ cs.length := by
  induction munch with
  | stop => exact Nat.le_refl _
  | read _ _ ih =>
    simp only [List.length_append]
    omega

theorem Munch.shorter {p : Piece} {rest : List Char} {ps : List Piece} {remaining : List Char}
    (read : p.Read rest) (munch : Munch rest ps remaining) :
    remaining.length < (p.text ++ rest).length := by
  have covered := List.length_pos_iff.2 read.text_ne_nil
  have left := munch.length_le
  simp only [List.length_append]
  omega

/-- A text is read into one list of pieces only, up to what is left. -/
theorem Munch.unique {cs : List Char} {ps ps' : List Piece} {remaining : List Char}
    (munch : Munch cs ps remaining) (munch' : Munch cs ps' remaining) : ps = ps' := by
  induction munch generalizing ps' with
  | stop r =>
    cases munch' with
    | stop => rfl
    | read read' following => exact absurd (Munch.shorter read' following) (Nat.lt_irrefl _)
  | @read p rest _ _ read following ih =>
    generalize text : p.text ++ rest = cs at munch'
    cases munch' with
    | stop => exact absurd (text ▸ Munch.shorter read following) (Nat.lt_irrefl _)
    | read read' following' =>
      obtain ⟨rfl, rfl⟩ := read.unique read' text
      rw [ih following']

/-! ### Scanning a text -/

/-- Scanning is maximal munch. The scanner reads a text into pieces, each the piece the rules
read where the one before it ends, and no other reading covers the text up to the same point;
its lexemes are those of the pieces, in order, each token with what its text means and each with
the line and column it starts at. It reads the whole text unless it stops at an integer literal
with more digits than may be converted. -/
theorem scan_is_maximal_munch (d : Dialect) (source : String) :
    ∃ pieces remaining, Munch source.toList pieces remaining ∧
      (∀ others, Munch source.toList others remaining → others = pieces) ∧
      Lexemes d source.toList 0 pieces (Token.scan d source).lexemes ∧
      ((Token.scan d source).failure = none ∧ remaining = [] ∨
        ∃ e, (Token.scan d source).failure = some e ∧ Overlong remaining e) := by
  obtain ⟨pieces, remaining, ls, munch, lexemes, following, ending⟩ :=
    scanFrom_munch d [] source.toList Cursor.start [] Stands.start
  refine ⟨pieces, remaining, munch, fun others other => other.unique munch, ?_, ending⟩
  rw [Token.scan, lexemes]
  simpa using following

end Lexical

end RoboScript
