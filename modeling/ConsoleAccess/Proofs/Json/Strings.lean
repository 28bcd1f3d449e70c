import ConsoleAccess.Json.Token

/-!
# How strings are written

A string is a list of pieces (`Piece`): characters, and units of UTF-16 that are written by their
numbers. `Piece.Written` says how pieces stand between quotes and `Piece.text?` which text they make;
`scanString_sound` and `scanString_of_written` say that reading a string finds just its pieces.
-/

namespace ConsoleAccess.Json

/-- A part of a string: a character, or a unit of UTF-16 that is written by its number. -/
inductive Piece
  | char (c : Char)
  | unit (n : Nat)

namespace Piece

def isHigh (n : Nat) : Bool := 0xD800 ≤ n && n < 0xDC00

def isLow (n : Nat) : Bool := 0xDC00 ≤ n && n < 0xE000

def text? : List Piece → Option Text
  | [] => some []
  | .char c :: rest => (text? rest).map (c :: ·)
  | .unit n :: rest =>
    if isLow n then none
    else if isHigh n then
      match rest with
      | .unit m :: rest =>
        if isLow m then
          (text? rest).map (Char.ofNat (0x10000 + (n - 0xD800) * 0x400 + (m - 0xDC00)) :: ·)
        else none
      | _ => none
    else (text? rest).map (Char.ofNat n :: ·)

inductive Written : List Piece → Text → Prop
  | nil : Written [] []
  | plain {c : Char} {pieces : List Piece} {t : Text} (quote : c ≠ '"') (slash : c ≠ '\\')
      (visible : 0x20 ≤ c.toNat) (rest : Written pieces t) : Written (.char c :: pieces) (c :: t)
  | short {e c : Char} {pieces : List Piece} {t : Text} (letter : Token.unescape? e = some c)
      (rest : Written pieces t) : Written (.char c :: pieces) ('\\' :: e :: t)
  | unit {h₁ h₂ h₃ h₄ : Char} {n : Nat} {pieces : List Piece} {t : Text}
      (digits : hexNumber? [h₁, h₂, h₃, h₄] = some n) (rest : Written pieces t) :
      Written (.unit n :: pieces) ('\\' :: 'u' :: h₁ :: h₂ :: h₃ :: h₄ :: t)

theorem not_isLow {n : Nat} (high : isHigh n = true) : isLow n = false := by
  simp only [isHigh, isLow, Bool.and_eq_true, decide_eq_true_eq, Bool.and_eq_false_iff,
    decide_eq_false_iff_not] at high ⊢
  omega

theorem text?_of_low {n : Nat} (low : isLow n = true) (rest : List Piece) :
    text? (.unit n :: rest) = none := by
  rw [text?.eq_def]
  simp only [low, if_true]

theorem text?_of_neither {n : Nat} (low : isLow n = false) (high : isHigh n = false)
    (rest : List Piece) : text? (.unit n :: rest) = (text? rest).map (Char.ofNat n :: ·) := by
  rw [text?.eq_def]
  simp only [low, high, Bool.false_eq_true, if_false]

end Piece

namespace Token

def Draft.take (d : Draft) : Piece → Draft
  | .char c => d.push c
  | .unit n => d.pushUnit n

theorem scanString_sound {d : Draft} {t rest : Text} {text? : Option Text}
    (scanned : scanString d t = some (text?, rest)) :
    ∃ pieces body, Piece.Written pieces body ∧ t = body ++ '"' :: rest ∧
      text? = (pieces.foldl Draft.take d).finish := by
  fun_induction scanString d t with
  | case1 | case4 | case6 | case7 | case8 => cases scanned
  | case2 d rest =>
      cases scanned
      exact ⟨[], [], .nil, rfl, rfl⟩
  | case3 d h₁ h₂ h₃ h₄ rest n digits _ ih =>
      obtain ⟨pieces, body, written, rfl, rfl⟩ := ih scanned
      exact ⟨.unit n :: pieces, _, .unit digits written, rfl, rfl⟩
  | case5 d e rest _ c letter _ ih =>
      obtain ⟨pieces, body, written, rfl, rfl⟩ := ih scanned
      exact ⟨.char c :: pieces, _, .short letter written, rfl, rfl⟩
  | case9 d c rest quote slash control ih =>
      obtain ⟨pieces, body, written, rfl, rfl⟩ := ih scanned
      exact ⟨.char c :: pieces, _, .plain quote slash (Nat.le_of_not_lt control) written, rfl, rfl⟩

theorem scanString_of_written {pieces : List Piece} {body : Text}
    (written : Piece.Written pieces body) (d : Draft) (rest : Text) :
    scanString d (body ++ '"' :: rest) = some ((pieces.foldl Draft.take d).finish, rest) := by
  induction written generalizing d with
  | nil =>
      rw [List.nil_append, scanString.eq_def]
      rfl
  | plain quote slash visible _ ih =>
      rw [List.cons_append, scanString.eq_def]
      simp only [quote, slash, Nat.not_lt.2 visible, if_false, ih, List.foldl_cons, Draft.take]
  | @short e c pieces t letter _ ih =>
      have other : e ≠ 'u' := by
        rintro rfl
        cases letter
      simp [scanString, other, letter, ih, Draft.take]
  | unit digits _ ih => simp [scanString, digits, ih, Draft.take]

/-! ## Drafts -/

namespace Draft
variable {d : Draft} {n : Nat}

def Waits (d : Draft) : Prop := ∀ n ∈ d.high, Piece.isHigh n = true

/-- The text that the draft makes when these pieces are still to come. The half that it waits with
comes before them. -/
def made (d : Draft) (pieces : List Piece) : Option Text :=
  d.text?.bind fun done =>
    (Piece.text? (d.high.toList.map Piece.unit ++ pieces)).map (done.reverse ++ ·)

theorem made_failed (failed : d.text? = none) (pieces : List Piece) : d.made pieces = none := by
  rw [made, failed, Option.bind_none]

theorem finish_eq_made (waits : d.Waits) : d.finish = d.made [] := by
  obtain ⟨text?, high?⟩ := d
  cases high? with
  | none => cases text? <;> simp [finish, made, Piece.text?]
  | some high =>
      have first := waits high rfl
      simp [finish, made, Piece.text?, Piece.not_isLow first, first]

theorem pushUnit_of_low (low : Piece.isLow n = true) :
    d.pushUnit n = match d.high with
      | some high =>
        { text? := d.text?.map
            (Char.ofNat (0x10000 + (high - 0xD800) * 0x400 + (n - 0xDC00)) :: ·) }
      | none => { text? := none } := if_pos low

theorem pushUnit_of_high (high : Piece.isHigh n = true) :
    d.pushUnit n = { text? := if d.high.isSome then none else d.text?, high := some n } := by
  have other : ¬ Piece.isLow n = true := Bool.eq_false_iff.1 (Piece.not_isLow high)
  exact (if_neg other).trans (if_pos high)

theorem pushUnit_of_neither (low : Piece.isLow n = false) (high : Piece.isHigh n = false) :
    d.pushUnit n = d.push (Char.ofNat n) :=
  (if_neg (Bool.eq_false_iff.1 low)).trans (if_neg (Bool.eq_false_iff.1 high))

theorem waits_take (d : Draft) (p : Piece) : (d.take p).Waits := by
  cases p with
  | char c => exact nofun
  | unit n =>
      rw [take]
      cases low : Piece.isLow n with
      | true =>
          rw [pushUnit_of_low low]
          split <;> exact nofun
      | false =>
          cases high : Piece.isHigh n with
          | true =>
              rw [pushUnit_of_high high]
              rintro _ ⟨⟩
              exact high
          | false =>
              rw [pushUnit_of_neither low high]
              exact nofun

theorem made_take_idle (text? : Option Text) (p : Piece) (pieces : List Piece) :
    (take ⟨text?, none⟩ p).made pieces = made ⟨text?, none⟩ (p :: pieces) := by
  cases p with
  | char c => cases text? <;> simp [take, push, made, Piece.text?, Function.comp_def]
  | unit n =>
      rw [take]
      cases low : Piece.isLow n with
      | true =>
          rw [pushUnit_of_low low, made_failed rfl]
          simp [made, Piece.text?_of_low low]
      | false =>
          cases high : Piece.isHigh n with
          | true =>
              rw [pushUnit_of_high high]
              simp [made]
          | false =>
              rw [pushUnit_of_neither low high]
              cases text? <;>
                simp [push, made, Piece.text?_of_neither low high, Function.comp_def]

theorem made_take_waiting {high : Nat} (first : Piece.isHigh high = true) (text? : Option Text)
    (p : Piece) (pieces : List Piece) :
    (take ⟨text?, some high⟩ p).made pieces = made ⟨text?, some high⟩ (p :: pieces) := by
  have unpaired (failed : (take ⟨text?, some high⟩ p).text? = none)
      (alone : Piece.text? (.unit high :: p :: pieces) = none) :
      (take ⟨text?, some high⟩ p).made pieces = made ⟨text?, some high⟩ (p :: pieces) := by
    rw [made_failed failed]
    simp [made, alone]
  cases p with
  | char c =>
      refine unpaired rfl ?_
      simp [Piece.text?, Piece.not_isLow first, first]
  | unit n =>
      cases low : Piece.isLow n with
      | true =>
          rw [take, pushUnit_of_low low]
          cases text? <;>
            simp [made, Piece.text?, Piece.not_isLow first, first, low, Function.comp_def]
      | false =>
          refine unpaired ?_ (by simp [Piece.text?, Piece.not_isLow first, first, low])
          cases high : Piece.isHigh n with
          | true => rw [take, pushUnit_of_high high]; rfl
          | false => rw [take, pushUnit_of_neither low high]; rfl

theorem made_take (waits : d.Waits) (p : Piece) (pieces : List Piece) :
    (d.take p).made pieces = d.made (p :: pieces) := by
  obtain ⟨text?, high?⟩ := d
  cases high? with
  | none => exact made_take_idle text? p pieces
  | some high => exact made_take_waiting (waits high rfl) text? p pieces

theorem finish_foldl (waits : d.Waits) (pieces : List Piece) :
    (pieces.foldl Draft.take d).finish = d.made pieces := by
  induction pieces generalizing d with
  | nil => exact finish_eq_made waits
  | cons p pieces ih => rw [List.foldl_cons, ih (waits_take d p), made_take waits]

theorem finish_pieces (pieces : List Piece) :
    (pieces.foldl Draft.take {}).finish = Piece.text? pieces := by
  have waits : Draft.Waits {} := fun n none => nomatch none
  rw [finish_foldl waits]
  simp [made]

end Draft

end Token

end ConsoleAccess.Json
