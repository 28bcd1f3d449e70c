import ConsoleAccess.Json.Printer
import ConsoleAccess.Proofs.Json.Grammar
import Mathlib.Algebra.Group.Nat.Defs

/-!
# What is printed as JSON

A printed string is one token, whose pieces make the text again (`written_quote`), and a printed
object denotes the tree of just its members (`denotes_renderObject`), whatever the names and texts in
it hold. No control character is printed, so the object stands on one line (`renderObject_visible`).
-/

namespace ConsoleAccess

/-! ## Hexadecimal digits -/

theorem hexNumber?_concat (digits : Text) (c : Char) :
    hexNumber? (digits ++ [c]) =
      (hexNumber? digits).bind fun n => (hexValue? c).map fun v => 16 * n + v := by
  rw [hexNumber?, hexNumber?, List.mapM_append]
  cases digits.mapM hexValue? with
  | none => rfl
  | some values => cases digit : hexValue? c <;> simp [digit]

theorem hexNumber?_hexText (count n : Nat) :
    hexNumber? (hexText count n) = some (n % 16 ^ count) := by
  induction count generalizing n with
  | zero => simp [hexText, hexNumber?, Nat.mod_one]
  | succ count ih =>
      have places : n % 16 ^ (count + 1) = 16 * (n / 16 % 16 ^ count) + n % 16 := by
        rw [Nat.pow_succ', Nat.mod_mul]
        omega
      rw [places, hexText, hexNumber?_concat, ih, hexValue?_digitChar _ (Nat.mod_lt n (by decide))]
      rfl

theorem visible_of_mem_hexText {count n : Nat} {c : Char} (member : c ∈ hexText count n) :
    0x20 ≤ c.toNat := by
  have visible : ∀ d < 16, 0x20 ≤ (Nat.digitChar d).toNat := by decide
  induction count generalizing n with
  | zero => cases member
  | succ count ih =>
      rcases List.mem_append.1 member with earlier | last
      · exact ih earlier
      · rw [List.mem_singleton.1 last]
        exact visible _ (Nat.mod_lt n (by decide))

namespace Json

/-! ## Strings -/

/-- A character is escaped by a letter or by its number, or stands for itself. -/
theorem escape_cases (c : Char) :
    (∃ e, Token.unescape? e = some c ∧ escape c = ['\\', e]) ∨
      (c.toNat < 0x20 ∧ escape c = '\\' :: 'u' :: hexText 4 c.toNat) ∨
        (c ≠ '"' ∧ c ≠ '\\' ∧ 0x20 ≤ c.toNat) ∧ escape c = [c] := by
  unfold escape
  split
  case h_8 quote slash _ _ _ _ _ =>
    split
    · next control => exact .inr (.inl ⟨control, rfl⟩)
    · next visible => exact .inr (.inr ⟨⟨quote, slash, Nat.le_of_not_lt visible⟩, rfl⟩)
  all_goals exact .inl ⟨_, rfl, rfl⟩

theorem visible_of_unescape? {e c : Char} (letter : Token.unescape? e = some c) :
    0x20 ≤ e.toNat := by
  unfold Token.unescape? at letter
  split at letter
  case h_9 => cases letter
  all_goals decide

theorem visible_of_mem_escape {c d : Char} (member : d ∈ escape c) : 0x20 ≤ d.toNat := by
  rcases escape_cases c with ⟨e, letter, short⟩ | ⟨-, number⟩ | ⟨⟨-, -, visible⟩, plain⟩
  · rw [short] at member
    rcases List.mem_pair.1 member with rfl | rfl
    · decide
    · exact visible_of_unescape? letter
  · rw [number] at member
    rcases List.mem_cons.1 member with rfl | member
    · decide
    rcases List.mem_cons.1 member with rfl | digit
    · decide
    · exact visible_of_mem_hexText digit
  · rw [plain] at member
    rwa [List.mem_singleton.1 member]

theorem visible_of_mem_quote {t : Text} {d : Char} (member : d ∈ quote t) : 0x20 ≤ d.toNat := by
  rw [quote, List.cons_append, List.mem_cons, List.mem_append, List.mem_flatMap,
    List.mem_singleton] at member
  rcases member with rfl | ⟨c, -, escaped⟩ | rfl
  · decide
  · exact visible_of_mem_escape escaped
  · decide

theorem written_escape (c : Char) {pieces : List Piece} {body t : Text}
    (rest : Piece.Written pieces body) (text : Piece.text? pieces = some t) :
    ∃ pieces', Piece.Written pieces' (escape c ++ body) ∧ Piece.text? pieces' = some (c :: t) := by
  rcases escape_cases c with ⟨e, letter, short⟩ | ⟨control, number⟩ | ⟨⟨quote, slash, visible⟩, plain⟩
  · rw [short]
    exact ⟨.char c :: pieces, .short letter rest, by simp [Piece.text?, text]⟩
  · have read : hexNumber? (hexText 4 c.toNat) = some c.toNat := by
      rw [hexNumber?_hexText, Nat.mod_eq_of_lt]
      omega
    have low : Piece.isLow c.toNat = false := by simp only [Piece.isLow]; grind
    have high : Piece.isHigh c.toNat = false := by simp only [Piece.isHigh]; grind
    rw [number]
    refine ⟨.unit c.toNat :: pieces, .unit read rest, ?_⟩
    rw [Piece.text?_of_neither low high, text, Char.ofNat_toNat]
    rfl
  · rw [plain]
    exact ⟨.char c :: pieces, .plain quote slash visible rest, by simp [Piece.text?, text]⟩

theorem written_flatMap_escape (t : Text) :
    ∃ pieces, Piece.Written pieces (t.flatMap escape) ∧ Piece.text? pieces = some t := by
  induction t with
  | nil => exact ⟨[], .nil, rfl⟩
  | cons c t ih =>
      obtain ⟨pieces, written, text⟩ := ih
      exact written_escape c written text

theorem written_quote (t : Text) : Token.Written (.string (some t)) (quote t) := by
  obtain ⟨pieces, written, text⟩ := written_flatMap_escape t
  rw [← text]
  exact .string written

/-! ## Objects -/

def Scalar.tree : Scalar → Tree
  | .bool b => .bool b
  | .string t => .string (some t)

def memberTree (m : Text × Scalar) : Option Text × Tree := (some m.1, m.2.tree)

theorem no_blanks : ∀ c ∈ ([] : Text), Token.isSpace c = true := by simp

section
variable {toks : List Token} {t : Text} (rest : Token.Spelled toks t)
include rest

theorem spelled_token {token : Token} {body : Text} (written : token.Written body) :
    Token.Spelled (token :: toks) (body ++ t) := .cons no_blanks written rest

theorem spelled_scalar (v : Scalar) : Token.Spelled (v.tree.tokens ++ toks) (v.render ++ t) := by
  cases v with
  | bool b =>
      cases b with
      | true => exact spelled_token rest .yes
      | false => exact spelled_token rest .no
  | string text => exact spelled_token rest (written_quote text)

theorem spelled_member (m : Text × Scalar) :
    Token.Spelled (.string (some m.1) :: .colon :: (m.2.tree.tokens ++ toks))
      (renderMember m ++ t) := by
  have value := spelled_scalar rest m.2
  have named := spelled_token (spelled_token value .colon) (written_quote m.1)
  simpa [renderMember] using named

theorem spelled_members (members : List (Text × Scalar)) :
    Token.Spelled (listed (Tree.memberTokens (members.map memberTree)) ++ toks)
      ([','].intercalate (members.map renderMember) ++ t) := by
  induction members with
  | nil => exact rest
  | cons m members ih =>
      cases members with
      | nil => simpa [Tree.memberTokens, memberTree] using spelled_member rest m
      | cons next members =>
          have first := spelled_member (spelled_token ih .comma) m
          simpa [Tree.memberTokens, memberTree] using first

end

theorem denotes_renderObject (members : List (Text × Scalar)) :
    Denotes (renderObject members) (.object (members.map memberTree)) := by
  have ends : Token.Spelled [.closeObject] ['\x7d'] := spelled_token (.nil no_blanks) .closeObject
  have inner := spelled_members ends members
  exact spelled_token inner .openObject

theorem denotes_renderObject_iff (members : List (Text × Scalar)) {tree : Tree} :
    Denotes (renderObject members) tree ↔ tree = .object (members.map memberTree) := by
  constructor
  · exact fun said => said.unique (denotes_renderObject members)
  · rintro rfl
    exact denotes_renderObject members

theorem memberTree_injective : Function.Injective memberTree := by
  rintro ⟨name, v⟩ ⟨name', v'⟩ same
  simp only [memberTree, Prod.mk.injEq, Option.some.injEq] at same
  obtain ⟨rfl, value⟩ := same
  cases v <;> cases v' <;> simp_all [Scalar.tree]

theorem renderObject_injective : Function.Injective renderObject := by
  intro members members' same
  have said := denotes_renderObject members
  rw [same, denotes_renderObject_iff, Tree.object.injEq] at said
  exact List.map_injective_iff.2 memberTree_injective said

theorem visible_of_mem_render {v : Scalar} {d : Char} (member : d ∈ v.render) : 0x20 ≤ d.toNat := by
  cases v with
  | bool b =>
      have visible : (Scalar.bool b).render.all fun d => 0x20 ≤ d.toNat := by cases b <;> decide
      exact of_decide_eq_true (List.all_eq_true.1 visible d member)
  | string t => exact visible_of_mem_quote member

theorem forall_mem_intercalate {P : Char → Prop} {separator : Text} {parts : List Text}
    (between : ∀ c ∈ separator, P c) (each : ∀ part ∈ parts, ∀ c ∈ part, P c) :
    ∀ c ∈ separator.intercalate parts, P c := by
  induction parts with
  | nil => exact nofun
  | cons part parts ih =>
      obtain ⟨first, later⟩ := List.forall_mem_cons.1 each
      cases parts with
      | nil => simpa using first
      | cons next parts =>
          rw [List.intercalate_cons_of_ne_nil (List.cons_ne_nil _ _), List.forall_mem_append,
            List.forall_mem_append]
          exact ⟨⟨first, between⟩, ih later⟩

theorem renderObject_visible (members : List (Text × Scalar)) :
    ∀ d ∈ renderObject members, 0x20 ≤ d.toNat := by
  have comma : ∀ d ∈ [','], 0x20 ≤ d.toNat := List.forall_mem_singleton.2 (by decide)
  have each : ∀ part ∈ members.map renderMember, ∀ d ∈ part, 0x20 ≤ d.toNat := by
    intro part member d inside
    obtain ⟨m, -, rfl⟩ := List.mem_map.1 member
    rw [renderMember, List.mem_append, List.mem_cons] at inside
    rcases inside with name | rfl | value
    · exact visible_of_mem_quote name
    · decide
    · exact visible_of_mem_render value
  rw [renderObject, List.cons_append, List.forall_mem_cons, List.forall_mem_append]
  exact ⟨by decide, forall_mem_intercalate comma each, List.forall_mem_singleton.2 (by decide)⟩

end Json
end ConsoleAccess
