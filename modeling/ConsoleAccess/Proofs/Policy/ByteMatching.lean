import ConsoleAccess.Proofs.Policy.Matching
import ConsoleAccess.Proofs.Text.Boundaries

/-!
# Matching on bytes

Whether a pattern covers a scope can be told from their UTF-8 bytes
(`ActionPattern.coversBytes_bytes`), though the cut in the scope is made after as many bytes as the
pattern has before its star. Where that cut would fall inside a character or behind the end, the
scope does not start with the pattern's stem, in whatever letter case: letters take as many bytes as
their lowered forms, so a leading part that agrees with the stem would end at the cut
(`Text.not_leads_of_cut?`).
-/

namespace ConsoleAccess

/-! ## Cuts at the length of a stem -/

namespace Text

variable {scope stem : Text} {cut : List UInt8}

theorem not_leads_of_cut? (off : Utf8.cut? scope.bytes stem.bytes.length = none) :
    ¬ stem.lower <+: scope.lower := by
  rw [Utf8.cut?_bytes, length_bytes, Option.map_eq_none_iff] at off
  rw [← takeBytes?_any_sameLetters_iff, off]
  exact Bool.false_ne_true

theorem exists_head_of_cut? (between : Utf8.cut? scope.bytes stem.bytes.length = some cut) :
    ∃ head : Text, head <+: scope ∧ cut = head.bytes ∧
      (Utf8.sameLetters cut stem.bytes = true ↔ stem.lower <+: scope.lower) := by
  rw [Utf8.cut?_bytes, length_bytes, Option.map_eq_some_iff] at between
  obtain ⟨head, taken, rfl⟩ := between
  refine ⟨head, (takeBytes?_eq_some_iff.1 taken).1, rfl, ?_⟩
  rw [Utf8.sameLetters_bytes, ← takeBytes?_any_sameLetters_iff, taken, Option.any_some]

end Text

/-! ## Patterns -/

namespace ActionPattern

/-- Whether a pattern covers a scope, both given by their bytes. The scope is cut after as many
bytes as stand before the pattern's star. -/
def coversBytes (pattern scope : List UInt8) : Bool :=
  Utf8.sameLetters pattern scope ||
    match Utf8.dropStar? pattern with
    | some stem => (Utf8.cut? scope stem.length).any fun head => Utf8.sameLetters head stem
    | none => false

theorem coversBytes_bytes (p : ActionPattern) (scope : Text) :
    coversBytes p.text.bytes scope.bytes = p.covers scope := by
  rw [coversBytes, covers, Utf8.sameLetters_bytes, Utf8.dropStar?_bytes]
  cases p.text.dropEnd? '*' with
  | none => rfl
  | some stem =>
      have cut : (Utf8.cut? scope.bytes stem.bytes.length).any (Utf8.sameLetters · stem.bytes) =
          (scope.takeBytes? stem.byteSize).any (·.sameLetters stem) := by
        rw [Utf8.cut?_bytes, Text.length_bytes, Option.any_map]
        simp only [Utf8.sameLetters_bytes]
      simp only [Option.map_some, cut]

theorem covers_exact (p : ActionPattern) (scope : Text) :
    coversBytes p.text.bytes scope.bytes = p.covers scope ∧
    (p.covers scope = true ↔ p.text.lower = scope.lower ∨
      ∃ stem, p.text = stem ++ ['*'] ∧ stem.lower <+: scope.lower) ∧
    ∀ stem : Text, p.text = stem ++ ['*'] →
      (∀ cut, Utf8.cut? scope.bytes stem.bytes.length = some cut →
        ∃ head : Text, head <+: scope ∧ cut = head.bytes ∧
          (Utf8.sameLetters cut stem.bytes = true ↔ stem.lower <+: scope.lower)) ∧
      (Utf8.cut? scope.bytes stem.bytes.length = none → ¬ stem.lower <+: scope.lower) :=
  ⟨coversBytes_bytes p scope, covers_iff, fun _ _ =>
    ⟨fun _ => Text.exists_head_of_cut?, Text.not_leads_of_cut?⟩⟩

/-- After the five bytes of a stem, one scope is cut between letters and another inside one. -/
theorem covers_exact_accented :
    let accented : ActionPattern := ⟨"s3:É*".toList, by decide, by decide⟩
    let stem : Text := "s3:É".toList
    let capital : Text := "S3:ÉÉ".toList
    let small : Text := "ééé".toList
    accented.text = stem ++ ['*'] ∧
      Utf8.cut? capital.bytes stem.bytes.length = some (Text.bytes "S3:É".toList) ∧
      stem.lower <+: capital.lower ∧ accented.covers capital = true ∧
      Utf8.cut? small.bytes stem.bytes.length = none ∧
      ¬ stem.lower <+: small.lower ∧ accented.covers small = false := by
  intro accented stem capital small
  have ending : accented.text = stem ++ ['*'] := by decide
  have between : Utf8.cut? capital.bytes stem.bytes.length = some (Text.bytes "S3:É".toList) := by
    decide
  have inside : Utf8.cut? small.bytes stem.bytes.length = none := by decide
  have letters : Utf8.sameLetters (Text.bytes "S3:É".toList) stem.bytes = true := by decide
  have differs : accented.text.lower ≠ small.lower := by decide
  obtain ⟨-, matched, capital_cut⟩ := covers_exact accented capital
  obtain ⟨-, unmatched, small_cut⟩ := covers_exact accented small
  obtain ⟨head, -, -, decides⟩ := (capital_cut stem ending).1 _ between
  have leads := decides.1 letters
  have apart := (small_cut stem ending).2 inside
  refine ⟨ending, between, leads, matched.2 (.inr ⟨stem, ending, leads⟩), inside, apart, ?_⟩
  rw [← Bool.not_eq_true, unmatched]
  rintro (same | ⟨stem', ending', leads'⟩)
  · exact differs same
  · rw [ending, List.append_left_inj] at ending'
    exact apart (ending' ▸ leads')

end ActionPattern
end ConsoleAccess
