import ConsoleAccess.Proofs.Json.Strings
import Mathlib.Data.List.Chain
import Mathlib.Data.List.TakeDrop
import Mathlib.Data.List.TakeWhile

/-!
# How tokens are written

The written forms of numerals and tokens (`Numeral.Written`, `Token.Written`), stated apart from the
functions that read them. A text that is made of tokens, with blanks around them (`Token.Spelled`),
is taken apart into these tokens and into no others: `ofText?_sound` and `ofText?_of_spelled`. Two
numerals side by side could be read as one, so the latter asks that none are.
-/

namespace ConsoleAccess

def AreDigits (t : Text) : Prop := t ≠ [] ∧ ∀ c ∈ t, isDigit c = true

theorem span_isDigit_eq_iff {t digits rest : Text} :
    t.span isDigit = (digits, rest) ↔
      t = digits ++ rest ∧ (∀ c ∈ digits, isDigit c = true) ∧
        ∀ c ∈ rest.head?, isDigit c = false := by
  rw [List.span_eq_takeWhile_dropWhile, Prod.mk.injEq]
  constructor
  · rintro ⟨rfl, rfl⟩
    refine ⟨List.takeWhile_append_dropWhile.symm, fun c => List.mem_takeWhile_imp, fun c first => ?_⟩
    have stops := List.head?_dropWhile_not isDigit t
    rw [Option.mem_def.1 first] at stops
    exact stops
  · rintro ⟨rfl, all, stops⟩
    rw [List.takeWhile_append_of_pos all, List.dropWhile_append_of_pos all]
    cases rest with
    | nil => simp
    | cons c rest => simp [stops c rfl]

/-! ## Numerals -/

namespace Numeral

def Ends (rest : Text) : Prop :=
  ∀ c ∈ rest.head?, isDigit c = false ∧ c ≠ '.' ∧ c ≠ 'e' ∧ c ≠ 'E'

def WholeWritten (digits : Text) : Prop :=
  AreDigits digits ∧ ∀ rest, digits = '0' :: rest → rest = []

inductive FractionWritten : Text → Text → Prop
  | absent : FractionWritten [] []
  | digits {digits : Text} (some : AreDigits digits) : FractionWritten digits ('.' :: digits)

inductive SignWritten : Bool → Text → Prop
  | minus : SignWritten true ['-']
  | plus : SignWritten false ['+']
  | absent : SignWritten false []

inductive ExponentWritten : Int → Text → Prop
  | absent : ExponentWritten 0 []
  | power {mark : Char} {negative : Bool} {sign digits : Text} (letter : mark = 'e' ∨ mark = 'E')
      (signed : SignWritten negative sign) (some : AreDigits digits) :
      ExponentWritten
        (if negative then -(digitsValue digits : Int) else digitsValue digits)
        (mark :: (sign ++ digits))

inductive Written : Numeral → Text → Prop
  | intro (negative : Bool) {whole fraction point power : Text} {exponent : Int}
      (digits : WholeWritten whole) (fractional : FractionWritten fraction point)
      (scaled : ExponentWritten exponent power) :
      Written { negative, whole, fraction, exponent }
        ((if negative then ['-'] else []) ++ (whole ++ (point ++ power)))

theorem ExponentWritten.stops {n : Int} {power rest : Text} (written : ExponentWritten n power)
    (ends : Ends rest) : ∀ c ∈ (power ++ rest).head?, isDigit c = false ∧ c ≠ '.' := by
  intro c first
  cases written with
  | absent => exact ⟨(ends c first).1, (ends c first).2.1⟩
  | power letter =>
      cases first
      rcases letter with rfl | rfl
      all_goals decide

theorem FractionWritten.stops {fraction point rest : Text} (written : FractionWritten fraction point)
    (stops : ∀ c ∈ rest.head?, isDigit c = false) :
    ∀ c ∈ (point ++ rest).head?, isDigit c = false := by
  intro c first
  cases written with
  | absent => exact stops c first
  | digits => cases first; rfl

theorem Written.start {n : Numeral} {body : Text} (written : n.Written body) :
    ∃ c more, body = c :: more ∧ (c = '-' ∨ isDigit c = true) := by
  obtain ⟨negative, digits, fractional, scaled⟩ := written
  obtain ⟨d, more, rfl⟩ := List.exists_cons_of_ne_nil digits.1.1
  cases negative with
  | true => exact ⟨'-', _, rfl, .inl rfl⟩
  | false => exact ⟨d, _, rfl, .inr (digits.1.2 d List.mem_cons_self)⟩

end Numeral

namespace Json.Token
open ConsoleAccess.Numeral

theorem scanExponent_sound {t rest : Text} {n : Int} (scanned : scanExponent t = some (n, rest)) :
    ∃ power, ExponentWritten n power ∧ t = power ++ rest := by
  unfold scanExponent at scanned
  split at scanned
  · next c t =>
    split at scanned
    · next letter =>
      simp only [Bool.or_eq_true, decide_eq_true_eq] at letter
      split at scanned
      next negative t' signed =>
      split at scanned
      · cases scanned
      · next digits rest' nonempty spanned =>
        obtain ⟨rfl, all, -⟩ := span_isDigit_eq_iff.1 spanned
        cases scanned
        split at signed
        all_goals cases signed
        · exact ⟨_, .power letter .minus ⟨nonempty, all⟩, by simp⟩
        · exact ⟨_, .power letter .plus ⟨nonempty, all⟩, by simp⟩
        · exact ⟨_, .power letter .absent ⟨nonempty, all⟩, by simp⟩
    · cases scanned
      exact ⟨[], .absent, rfl⟩
  · cases scanned
    exact ⟨[], .absent, rfl⟩

theorem scanFraction_sound {t rest fraction : Text}
    (scanned : scanFraction t = some (fraction, rest)) :
    ∃ point, FractionWritten fraction point ∧ t = point ++ rest := by
  unfold scanFraction at scanned
  split at scanned
  · split at scanned
    · cases scanned
    · next digits rest' nonempty spanned =>
      obtain ⟨rfl, all, -⟩ := span_isDigit_eq_iff.1 spanned
      cases scanned
      exact ⟨_, .digits ⟨nonempty, all⟩, rfl⟩
  · cases scanned
    exact ⟨[], .absent, rfl⟩

theorem scanWhole_sound {t rest whole : Text} (scanned : scanWhole t = some (whole, rest)) :
    WholeWritten whole ∧ t = whole ++ rest := by
  unfold scanWhole at scanned
  split at scanned
  · cases scanned
  · cases scanned
  · next digits rest' nonempty single spanned =>
    obtain ⟨rfl, all, -⟩ := span_isDigit_eq_iff.1 spanned
    cases scanned
    refine ⟨⟨⟨nonempty, all⟩, ?_⟩, rfl⟩
    rintro more rfl
    cases more with
    | nil => rfl
    | cons c more => exact (single c more rfl).elim

theorem scanNumber_sound {t rest : Text} {n : Numeral} (scanned : scanNumber t = some (n, rest)) :
    ∃ body, n.Written body ∧ t = body ++ rest := by
  unfold scanNumber at scanned
  split at scanned
  next negative t' signed =>
  split at scanned
  · cases scanned
  · next whole t₁ readWhole =>
    split at scanned
    · cases scanned
    · next fraction t₂ readFraction =>
      split at scanned
      · cases scanned
      · next exponent t₃ readExponent =>
        obtain ⟨digits, rfl⟩ := scanWhole_sound readWhole
        obtain ⟨point, fractional, rfl⟩ := scanFraction_sound readFraction
        obtain ⟨power, scaled, rfl⟩ := scanExponent_sound readExponent
        cases scanned
        refine ⟨_, .intro negative digits fractional scaled, ?_⟩
        split at signed
        all_goals
          cases signed
          simp

/-! Conversely, a written part is read back whatever follows, if what follows cannot prolong it. -/

theorem span_isDigit_append {digits rest : Text} (some : AreDigits digits)
    (stops : ∀ c ∈ rest.head?, isDigit c = false) : (digits ++ rest).span isDigit = (digits, rest) :=
  span_isDigit_eq_iff.2 ⟨rfl, some.2, stops⟩

theorem scanExponent_of_written {n : Int} {power rest : Text} (written : ExponentWritten n power)
    (ends : Ends rest) : scanExponent (power ++ rest) = some (n, rest) := by
  cases written with
  | absent =>
      cases rest with
      | nil => rfl
      | cons c rest =>
          obtain ⟨-, -, small, big⟩ := ends c rfl
          simp [scanExponent, small, big]
  | @power mark negative sign digits letter signed some =>
      have spanned := span_isDigit_append some fun c first => (ends c first).1
      obtain ⟨d, digits, rfl⟩ := List.exists_cons_of_ne_nil some.1
      have digit : isDigit d = true := some.2 d List.mem_cons_self
      have minus : d ≠ '-' := by rintro rfl; cases digit
      have plus : d ≠ '+' := by rintro rfl; cases digit
      rw [List.cons_append] at spanned
      rcases letter with rfl | rfl
      all_goals
        cases signed <;>
          simp [scanExponent, spanned, minus, plus, -List.span_eq_takeWhile_dropWhile]

theorem scanFraction_of_written {fraction point rest : Text}
    (written : FractionWritten fraction point)
    (stops : ∀ c ∈ rest.head?, isDigit c = false ∧ c ≠ '.') :
    scanFraction (point ++ rest) = some (fraction, rest) := by
  cases written with
  | absent =>
      cases rest with
      | nil => rfl
      | cons c rest => simp [scanFraction, (stops c rfl).2]
  | digits some =>
      have spanned := span_isDigit_append some fun c first => (stops c first).1
      obtain ⟨d, digits, rfl⟩ := List.exists_cons_of_ne_nil some.1
      rw [List.cons_append] at spanned
      simp [scanFraction, spanned, -List.span_eq_takeWhile_dropWhile]

theorem scanWhole_of_written {whole rest : Text} (written : WholeWritten whole)
    (stops : ∀ c ∈ rest.head?, isDigit c = false) :
    scanWhole (whole ++ rest) = some (whole, rest) := by
  obtain ⟨some, single⟩ := written
  have spanned := span_isDigit_append some stops
  unfold scanWhole
  rw [spanned]
  split
  · next empty => cases empty; exact (some.1 rfl).elim
  · next d more _ double =>
    cases double
    exact absurd (single (d :: more) rfl) (List.cons_ne_nil d more)
  · next digits rest' _ _ same => cases same; rfl

theorem scanNumber_of_written {n : Numeral} {body rest : Text} (written : n.Written body)
    (ends : Ends rest) : scanNumber (body ++ rest) = some (n, rest) := by
  obtain ⟨negative, digits, fractional, scaled⟩ := written
  rename_i whole fraction point power exponent
  have readExponent := scanExponent_of_written scaled ends
  have readFraction := scanFraction_of_written fractional (scaled.stops ends)
  have readWhole := scanWhole_of_written digits
    (fractional.stops fun c first => (scaled.stops ends c first).1)
  obtain ⟨d, more, rfl⟩ := List.exists_cons_of_ne_nil digits.1.1
  have minus : d ≠ '-' := by
    rintro rfl
    cases digits.1.2 '-' List.mem_cons_self
  rw [List.cons_append] at readWhole
  cases negative <;> simp [scanNumber, minus, readWhole, readFraction, readExponent]

/-! ## Tokens -/

inductive Written : Token → Text → Prop
  | openArray : Written .openArray ['[']
  | closeArray : Written .closeArray [']']
  | openObject : Written .openObject ['\x7b']
  | closeObject : Written .closeObject ['\x7d']
  | comma : Written .comma [',']
  | colon : Written .colon [':']
  | null : Written .null ['n', 'u', 'l', 'l']
  | yes : Written (.bool true) ['t', 'r', 'u', 'e']
  | no : Written (.bool false) ['f', 'a', 'l', 's', 'e']
  | number {n : Numeral} {body : Text} (written : n.Written body) : Written (.number n) body
  | string {pieces : List Piece} {body : Text} (written : Piece.Written pieces body) :
      Written (.string (Piece.text? pieces)) ('"' :: (body ++ ['"']))

inductive IsNumber : Token → Prop
  | number (n : Numeral) : IsNumber (.number n)

theorem next?_sound {t rest : Text} {token : Token} (taken : next? t = some (token, rest)) :
    ∃ body, token.Written body ∧ t = body ++ rest := by
  unfold next? at taken
  split at taken
  case h_7 =>
    obtain ⟨⟨text?, rest'⟩, scanned, same⟩ := Option.map_eq_some_iff.1 taken
    cases same
    obtain ⟨pieces, body, written, rfl, rfl⟩ := scanString_sound scanned
    rw [Draft.finish_pieces]
    exact ⟨_, .string written, by simp⟩
  case h_11 =>
    obtain ⟨⟨n, rest'⟩, scanned, same⟩ := Option.map_eq_some_iff.1 taken
    cases same
    obtain ⟨body, written, rfl⟩ := scanNumber_sound scanned
    exact ⟨body, .number written, rfl⟩
  all_goals cases taken
  · exact ⟨_, .openArray, rfl⟩
  · exact ⟨_, .closeArray, rfl⟩
  · exact ⟨_, .openObject, rfl⟩
  · exact ⟨_, .closeObject, rfl⟩
  · exact ⟨_, .comma, rfl⟩
  · exact ⟨_, .colon, rfl⟩
  · exact ⟨_, .null, rfl⟩
  · exact ⟨_, .yes, rfl⟩
  · exact ⟨_, .no, rfl⟩

theorem next?_eq_number {c : Char} (start : c = '-' ∨ isDigit c = true) (t : Text) :
    next? (c :: t) = (scanNumber (c :: t)).map fun (n, rest) => (.number n, rest) := by
  unfold next?
  split
  case h_11 => rfl
  all_goals
    next same =>
    cases same
    exact absurd start (by decide)

theorem next?_of_written {token : Token} {body rest : Text} (written : token.Written body)
    (ends : token.IsNumber → Ends rest) : next? (body ++ rest) = some (token, rest) := by
  cases written with
  | number written =>
      have scanned := scanNumber_of_written written (ends (.number _))
      obtain ⟨c, more, rfl, start⟩ := written.start
      rw [List.cons_append] at scanned ⊢
      rw [next?_eq_number start, scanned]
      rfl
  | @string pieces body written =>
      have scanned := scanString_of_written written {} rest
      rw [Draft.finish_pieces] at scanned
      simp [next?, scanned]
  | _ => rfl

/-- No blank and no part of a numeral begins a token that is not a number. -/
theorem Written.start {token : Token} {body : Text} (written : token.Written body) :
    ∃ c more, body = c :: more ∧ isSpace c = false ∧
      (¬ token.IsNumber → isDigit c = false ∧ c ≠ '.' ∧ c ≠ 'e' ∧ c ≠ 'E') := by
  cases written with
  | number written =>
      obtain ⟨c, more, rfl, start⟩ := written.start
      refine ⟨c, more, rfl, ?_, fun other => (other (.number _)).elim⟩
      rcases start with rfl | digit
      · rfl
      · refine Bool.eq_false_iff.2 fun space => ?_
        simp only [isSpace, Bool.or_eq_true, beq_iff_eq] at space
        rcases space with ((rfl | rfl) | rfl) | rfl
        all_goals cases digit
  | _ => exact ⟨_, _, rfl, rfl, fun _ => by decide⟩

/-- The text is made of these tokens. Blanks may stand before and after each. -/
inductive Spelled : List Token → Text → Prop
  | nil {blanks : Text} (blank : ∀ c ∈ blanks, isSpace c = true) : Spelled [] blanks
  | cons {blanks body rest : Text} {token : Token} {tokens : List Token}
      (blank : ∀ c ∈ blanks, isSpace c = true) (written : token.Written body)
      (spelled : Spelled tokens rest) : Spelled (token :: tokens) (blanks ++ (body ++ rest))

theorem lexFrom_sound {done result : List Token} {fuel : Nat} {t : Text}
    (lexed : lexFrom done fuel t = some result) :
    ∃ tokens, Spelled tokens t ∧ result = done.reverse ++ tokens := by
  induction fuel generalizing done t with
  | zero => cases lexed
  | succ fuel ih =>
      have blank : ∀ c ∈ t.takeWhile isSpace, isSpace c = true :=
        fun c => List.mem_takeWhile_imp
      have split := List.takeWhile_append_dropWhile (p := isSpace) (l := t)
      rw [lexFrom] at lexed
      split at lexed
      · next ends =>
        cases lexed
        rw [ends, List.append_nil] at split
        exact ⟨[], split ▸ .nil blank, by simp⟩
      · next c rest follows =>
        split at lexed
        · next token rest' taken =>
          obtain ⟨body, written, same⟩ := next?_sound taken
          obtain ⟨tokens, spelled, rfl⟩ := ih lexed
          rw [follows, same] at split
          exact ⟨token :: tokens, split ▸ .cons blank written spelled, by simp⟩
        · cases lexed

theorem ofText?_sound {t : Text} {tokens : List Token} (lexed : ofText? t = some tokens) :
    Spelled tokens t := by
  obtain ⟨_, spelled, rfl⟩ := lexFrom_sound lexed
  exact spelled

/-- Two numbers that stand side by side could be read as one. -/
def Apart (tokens : List Token) : Prop := tokens.IsChain fun a b => ¬ (a.IsNumber ∧ b.IsNumber)

theorem Spelled.ends {tokens : List Token} {t : Text} (spelled : Spelled tokens t)
    (other : ∀ token ∈ tokens.head?, ¬ token.IsNumber) : Ends t := by
  have ends_of_space {c : Char} (space : isSpace c = true) :
      isDigit c = false ∧ c ≠ '.' ∧ c ≠ 'e' ∧ c ≠ 'E' := by
    simp only [isSpace, Bool.or_eq_true, beq_iff_eq] at space
    rcases space with ((rfl | rfl) | rfl) | rfl
    all_goals decide
  intro c first
  cases spelled with
  | nil blank => exact ends_of_space (blank c (List.mem_of_mem_head? first))
  | @cons blanks _ _ _ _ blank written =>
      cases blanks with
      | cons c blanks =>
          cases first
          exact ends_of_space (blank _ List.mem_cons_self)
      | nil =>
          obtain ⟨c, more, rfl, -, free⟩ := written.start
          cases first
          exact free (other _ rfl)

theorem lexFrom_of_spelled {tokens : List Token} {t : Text} (spelled : Spelled tokens t)
    (apart : Apart tokens) (done : List Token) {fuel : Nat} (enough : tokens.length < fuel) :
    lexFrom done fuel t = some (done.reverse ++ tokens) := by
  induction spelled generalizing done fuel with
  | nil blank =>
      obtain ⟨fuel, rfl⟩ := Nat.exists_eq_succ_of_ne_zero (Nat.ne_zero_of_lt enough)
      rw [lexFrom, List.dropWhile_eq_nil_iff.2 blank, List.append_nil]
  | @cons blanks body rest token tokens blank written spelled ih =>
      obtain ⟨fuel, rfl⟩ := Nat.exists_eq_succ_of_ne_zero (Nat.ne_zero_of_lt enough)
      obtain ⟨follows, apart⟩ := List.isChain_cons.1 apart
      have taken := next?_of_written written fun number =>
        spelled.ends fun other first number' => follows other first ⟨number, number'⟩
      obtain ⟨c, more, rfl, visible, -⟩ := written.start
      rw [lexFrom, List.dropWhile_append_of_pos blank, List.cons_append,
        List.dropWhile_cons_of_neg (Bool.eq_false_iff.1 visible)]
      simp only [← List.cons_append, taken]
      rw [ih apart (token :: done) (Nat.lt_of_succ_lt_succ enough), List.reverse_cons,
        List.append_assoc, List.singleton_append]

theorem Spelled.length_le {tokens : List Token} {t : Text} (spelled : Spelled tokens t) :
    tokens.length ≤ t.length := by
  induction spelled with
  | nil => exact Nat.zero_le _
  | cons _ written _ ih =>
      obtain ⟨c, more, rfl, -⟩ := written.start
      simp only [List.length_cons, List.length_append]
      omega

theorem ofText?_of_spelled {tokens : List Token} {t : Text} (spelled : Spelled tokens t)
    (apart : Apart tokens) : ofText? t = some tokens :=
  lexFrom_of_spelled spelled apart [] (Nat.lt_succ_of_le spelled.length_le)

end Json.Token
end ConsoleAccess
