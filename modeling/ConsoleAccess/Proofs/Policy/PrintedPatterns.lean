import ConsoleAccess.Proofs.Policy.AppendedGrants
import ConsoleAccess.Proofs.Policy.ListedGrants

/-!
# Patterns written out and read again

A pattern written out is the name that it was read from (`ResourcePattern.name_of_parse?`), and it is
read back just if that name is its own name (`ResourcePattern.parse?_text_iff`). Names may start as
they like and end in anything but a blank (`exists_name_iff`), so a literal may hold at its front
what reading would drop, and before its star blanks and further stars (`parse?_text_exact`).
-/

namespace ConsoleAccess

variable {raw raw' : Text}

/-! ## Names -/

theorem last_of_name : ∀ c ∈ (normalizeResource raw).getLast?, Text.isBlank c = false := by
  intro c last
  obtain ⟨front, split⟩ := normalizeResource_suffix raw
  refine raw.trim_isTrimmed.2 c ?_
  have nonempty : normalizeResource raw ≠ [] := by
    intro empty
    rw [empty] at last
    cases last
  rw [← split, List.getLast?_append_of_ne_nil _ nonempty]
  exact last

theorem normalizeResource_arn {t : Text} (last : ∀ c ∈ t.getLast?, Text.isBlank c = false) :
    normalizeResource (resourceArn ++ t) = t := by
  have trimmed : Text.IsTrimmed (resourceArn ++ t) := by
    refine ⟨?_, ?_⟩
    · rintro c ⟨⟩
      decide
    · cases t with
      | nil =>
          rintro c ⟨⟩
          decide
      | cons d t => rwa [List.getLast?_append_of_ne_nil _ (List.cons_ne_nil d t)]
  rw [normalizeResource, Text.trim_eq_self_iff.2 trimmed,
    List.isPrefixOf?_eq_some_iff_append_eq.2 rfl, Option.getD_some]

theorem exists_name_iff {t : Text} :
    (∃ raw, normalizeResource raw = t) ↔ ∀ c ∈ t.getLast?, Text.isBlank c = false := by
  constructor
  · rintro ⟨raw, rfl⟩
    exact last_of_name
  · exact fun last => ⟨resourceArn ++ t, normalizeResource_arn last⟩

namespace ResourcePattern
variable {p : ResourcePattern}

theorem name_of_parse? (parsed : parse? raw = some p) : normalizeResource raw = p.text :=
  (splitResource?_eq_some (parse?_eq_some_iff.1 parsed)).1

theorem exists_parse? (p : ResourcePattern) : ∃ raw, parse? raw = some p := by
  obtain ⟨raw, written⟩ := p.written
  exact ⟨raw, parse?_eq_some_iff.2 written⟩

theorem literal_ne_nil (p : ResourcePattern) : p.literal ≠ [] := by
  obtain ⟨raw, parsed⟩ := p.exists_parse?
  have name := name_of_parse? parsed
  intro empty
  have unread : parse? raw = none := by
    rw [parse?_eq_none_iff, name, text, empty]
    cases p.wildcard with
    | false => exact .inl rfl
    | true => exact .inr rfl
  cases parsed.symm.trans unread

/-! ## Reading -/

theorem parse?_congr (same : normalizeResource raw = normalizeResource raw') :
    parse? raw = parse? raw' := by
  have split : splitResource? raw = splitResource? raw' := by
    rw [splitResource?, splitResource?, same]
  refine Option.ext fun p => ?_
  rw [parse?_eq_some_iff, parse?_eq_some_iff, split]

theorem parse?_text_iff : parse? p.text = some p ↔ normalizeResource p.text = p.text := by
  constructor
  · exact name_of_parse?
  · intro own
    obtain ⟨raw, parsed⟩ := p.exists_parse?
    rw [← parsed]
    exact parse?_congr (own.trans (name_of_parse? parsed).symm)

theorem name_text_iff : normalizeResource p.text = p.text ↔ p.StartsPlainly := by
  cases star : p.wildcard with
  | true => exact normalizeResource_text_iff star
  | false =>
      obtain ⟨raw, parsed⟩ := p.exists_parse?
      have written : p.text = p.literal := by simp [text, star]
      have last : ∀ c ∈ p.literal.getLast?, Text.isBlank c = false := by
        rw [← written, ← name_of_parse? parsed]
        exact last_of_name
      rw [written, normalizeResource_eq_self_iff, Text.IsTrimmed, and_iff_left last]
      rfl

theorem exists_parts_iff {literal : Text} {wildcard : Bool} :
    (∃ p : ResourcePattern, p.literal = literal ∧ p.wildcard = wildcard) ↔
      literal ≠ [] ∧ (wildcard = false →
        ∀ c ∈ literal.getLast?, c ≠ '*' ∧ Text.isBlank c = false) := by
  constructor
  · rintro ⟨p, rfl, rfl⟩
    refine ⟨p.literal_ne_nil, fun plain c last => ⟨?_, ?_⟩⟩
    · rintro rfl
      exact getLast?_literal plain last
    · obtain ⟨raw, parsed⟩ := p.exists_parse?
      have name := name_of_parse? parsed
      rw [text, plain, if_neg Bool.false_ne_true, List.append_nil] at name
      rw [← name] at last
      exact last_of_name c last
  · rintro ⟨nonempty, plain⟩
    cases wildcard with
    | true =>
        obtain ⟨raw, name⟩ : ∃ raw, normalizeResource raw = literal ++ ['*'] := by
          rw [exists_name_iff, List.getLast?_concat]
          rintro c ⟨⟩
          decide
        have split : splitResource? raw = some (literal, true) := by
          simp [splitResource?, name, nonempty, Text.dropEnd?]
        exact ⟨⟨literal, true, raw, split⟩, rfl, rfl⟩
    | false =>
        obtain ⟨raw, name⟩ := exists_name_iff.2 fun c last => (plain rfl c last).2
        have unstarred : literal.getLast? ≠ some '*' := fun last => (plain rfl '*' last).1 rfl
        have other : literal ≠ ['*'] := by
          rintro rfl
          exact unstarred rfl
        have split : splitResource? raw = some (literal, false) := by
          simp [splitResource?, name, nonempty, other, Text.dropEnd?, unstarred]
        exact ⟨⟨literal, false, raw, split⟩, rfl, rfl⟩

theorem parse?_text_exact :
    (∀ literal wildcard, (∃ raw p, parse? raw = some p ∧ p.literal = literal ∧
        p.wildcard = wildcard) ↔
      literal ≠ [] ∧ (wildcard = false →
        ∀ c ∈ literal.getLast?, c ≠ '*' ∧ Text.isBlank c = false)) ∧
    ∀ raw p, parse? raw = some p →
      p.literal ≠ [] ∧ (p.wildcard = false → p.literal.getLast? ≠ some '*') ∧
      (∀ raw' q, parse? raw' = some q → q.text = p.text → q = p) ∧
      (parse? p.text = some p ↔
        (∀ c ∈ p.literal.head?, Text.isBlank c = false) ∧ ¬ resourceArn <+: p.literal) := by
  refine ⟨fun literal wildcard => ?_, fun raw p parsed => ⟨p.literal_ne_nil, getLast?_literal, ?_, ?_⟩⟩
  · rw [← exists_parts_iff]
    constructor
    · rintro ⟨raw, p, -, parts⟩
      exact ⟨p, parts⟩
    · rintro ⟨p, parts⟩
      obtain ⟨raw, parsed⟩ := p.exists_parse?
      exact ⟨raw, p, parsed, parts⟩
  · exact fun raw' q _ same => text_injective same
  · rw [parse?_text_iff, name_text_iff]
    rfl

/-- A literal that ends in a blank and a star of its own is read back; one behind a second prefix is
not. -/
theorem parse?_text_exact_folders :
    let folder : ResourcePattern := ⟨"b/ *".toList, true, "arn:aws:s3:::b/ **\n".toList, by decide⟩
    let twice : ResourcePattern :=
      ⟨"arn:aws:s3:::b/".toList, true, "arn:aws:s3:::arn:aws:s3:::b/*".toList, by decide⟩
    parse? "arn:aws:s3:::b/ **\n".toList = some folder ∧ folder.text = "b/ **".toList ∧
      parse? folder.text = some folder ∧
      parse? "arn:aws:s3:::arn:aws:s3:::b/*".toList = some twice ∧ parse? twice.text ≠ some twice := by
  intro folder twice
  have parsed : parse? "arn:aws:s3:::b/ **\n".toList = some folder := by rfl
  have parsed_twice : parse? "arn:aws:s3:::arn:aws:s3:::b/*".toList = some twice := by rfl
  obtain ⟨-, -, -, kept⟩ := parse?_text_exact.2 _ folder parsed
  obtain ⟨-, -, -, lost⟩ := parse?_text_exact.2 _ twice parsed_twice
  have plain : ∀ c ∈ folder.literal.head?, Text.isBlank c = false := by
    rintro c ⟨⟩
    decide
  refine ⟨parsed, rfl, kept.2 ⟨plain, by decide⟩, parsed_twice, fun back => ?_⟩
  exact (lost.1 back).2 (by decide)

end ResourcePattern
end ConsoleAccess
