import ConsoleAccess.Proofs.Policy.MadeStatements

/-!
# Resource sets as unions

A resource set is about a request just if one of the texts that it is read from is
(`ResourceSet.StandFor.covers_iff`), so the set of a joined list is the union of the sets of its
parts (`ResourceSet.parse_append`). Order, repetitions and blank texts leave no trace, and reading
the texts one after another up to the first star (`ResourceSet.gather`) gives the same set.
-/

namespace ConsoleAccess.ResourceSet

def ofFound (found : Std.ExtTreeSet ResourcePattern compare) : Except StatementError ResourceSet :=
  if found.isEmpty then .error .noResources else .ok (.patterns found)

/-- Reads granted resources one after another, with the patterns found so far. A star ends the
reading, and a text that spells no pattern is passed over. -/
def gather (found : Std.ExtTreeSet ResourcePattern compare) :
    List Text → Except StatementError ResourceSet
  | [] => ofFound found
  | raw :: rest =>
    if normalizeResource raw = ['*'] then .ok .all
    else match ResourcePattern.parse? (normalizeResource raw) with
      | some p => gather (found.insert p) rest
      | none => gather found rest

def Grants (raw request : Text) (below : Bool) : Prop :=
  (normalizeResource raw = ['*'] ∧ normalizeResource request ≠ []) ∨
    ∃ p, ResourcePattern.parse? (normalizeResource raw) = some p ∧
      (p.covers request = true ∨ below = true ∧ p.contains request = true)

variable {raw raw' : List Text} {set : ResourceSet} {request : Text} {below : Bool}

theorem Grants.named {item : Text} (grants : Grants item request below) :
    normalizeResource request ≠ [] := by
  rcases grants with ⟨-, named⟩ | ⟨p, -, covers | ⟨-, contains⟩⟩
  · exact named
  · intro blank
    simp [ResourcePattern.covers, blank] at covers
  · intro blank
    simp [ResourcePattern.contains, blank] at contains

theorem StandFor.covers_iff (stand : StandFor raw set) :
    set.covers request below = true ↔ ∃ item ∈ raw, Grants item request below := by
  cases stand with
  | all star =>
      simp only [covers, Bool.not_eq_true', List.isEmpty_eq_false_iff]
      constructor
      · intro named
        obtain ⟨item, granted, name⟩ := star
        exact ⟨item, granted, Or.inl ⟨name, named⟩⟩
      · rintro ⟨item, -, grants⟩
        exact grants.named
  | patterns members plain nonempty spelled =>
      simp only [covers, List.any_eq_true, Std.ExtTreeSet.mem_toList, spelled, Bool.or_eq_true,
        Bool.and_eq_true]
      constructor
      · rintro ⟨p, ⟨item, granted, parsed⟩, about⟩
        exact ⟨item, granted, Or.inr ⟨p, parsed, about⟩⟩
      · rintro ⟨item, granted, ⟨name, -⟩ | ⟨p, parsed, about⟩⟩
        · exact absurd name (plain item granted)
        · exact ⟨p, ⟨item, granted, parsed⟩, about⟩

theorem exists_parse_covers_iff :
    (∃ set, parse raw = .ok set ∧ set.covers request below = true) ↔
      ∃ item ∈ raw, Grants item request below := by
  simp only [parse_eq_ok_iff]
  constructor
  · rintro ⟨set, stand, covers⟩
    exact stand.covers_iff.1 covers
  · rintro ⟨item, granted, grants⟩
    have valid : normalizeResource item = ['*'] ∨
        ∃ p, ResourcePattern.parse? (normalizeResource item) = some p := by
      rcases grants with ⟨name, -⟩ | ⟨p, parsed, -⟩
      · exact Or.inl name
      · exact Or.inr ⟨p, parsed⟩
    obtain ⟨set, stand⟩ := exists_standFor_iff.2 ⟨item, granted, valid⟩
    exact ⟨set, stand, stand.covers_iff.2 ⟨item, granted, grants⟩⟩

/-! ## Order, repetitions and blank texts -/

theorem parse_error {e : StatementError} (failed : parse raw = .error e) : e = .noResources := by
  simp only [parse] at failed
  split at failed
  · cases failed
  · split at failed
    · cases failed
      rfl
    · cases failed

theorem parse_congr (same : ∀ set, StandFor raw set ↔ StandFor raw' set) :
    parse raw = parse raw' := by
  cases read : parse raw with
  | ok set => exact (parse_eq_ok_iff.2 ((same set).1 (parse_eq_ok_iff.1 read))).symm
  | error e =>
      cases read' : parse raw' with
      | ok set =>
          rw [parse_eq_ok_iff.2 ((same set).2 (parse_eq_ok_iff.1 read'))] at read
          cases read
      | error e' => rw [parse_error read, parse_error read']

theorem parse_of_mem_iff (same : ∀ r, r ∈ raw ↔ r ∈ raw') : parse raw = parse raw' :=
  parse_congr fun _ => ⟨.congr same, .congr fun r => (same r).symm⟩

theorem parse_star {star : Text} (granted : star ∈ raw) (name : normalizeResource star = ['*']) :
    parse raw = .ok .all := parse_eq_ok_iff.2 (.all ⟨star, granted, name⟩)

theorem gather_eq (found : Std.ExtTreeSet ResourcePattern compare) (raw : List Text) :
    gather found raw =
      if (raw.map normalizeResource).contains ['*'] then .ok .all
      else ofFound
        (found.insertMany ((raw.map normalizeResource).filterMap ResourcePattern.parse?)) := by
  induction raw generalizing found with
  | nil => simp [gather]
  | cons item raw ih =>
      by_cases star : normalizeResource item = ['*']
      · simp [gather, star]
      · have other : (['*'] : Text) ≠ normalizeResource item := fun same => star same.symm
        cases parsed : ResourcePattern.parse? (normalizeResource item) with
        | none => simp [gather, star, other, parsed, ih]
        | some p => simp [gather, star, other, parsed, ih, Std.ExtTreeSet.insertMany_cons]

theorem parse_eq_gather (raw : List Text) : parse raw = gather ∅ raw := by
  rw [gather_eq, ← Std.ExtTreeSet.ofList_eq_insertMany_empty]
  simp only [parse, ofFound]
  split
  · rfl
  · cases (raw.map normalizeResource).filterMap ResourcePattern.parse? with
    | nil => rfl
    | cons p found => simp

theorem parse_blank {blank : Text} (name : normalizeResource blank = []) (xs ys : List Text) :
    parse (xs ++ blank :: ys) = parse (xs ++ ys) := by
  have unread : ResourcePattern.parse? [] = none := by rfl
  have one : parse (blank :: (xs ++ ys)) = parse (xs ++ ys) := by
    rw [parse_eq_gather, parse_eq_gather, gather, name]
    simp [unread]
  rw [← one]
  exact parse_of_mem_iff fun r => by
    simp only [List.mem_append, List.mem_cons]
    tauto

/-! ## Unions -/

theorem parse_append (xs ys : List Text) :
    ((∃ set, parse (xs ++ ys) = .ok set) ↔
      (∃ set, parse xs = .ok set) ∨ ∃ set, parse ys = .ok set) ∧
    (∀ set, parse (xs ++ ys) = .ok set → ∀ request below, set.covers request below = true ↔
      ∃ part, (parse xs = .ok part ∨ parse ys = .ok part) ∧ part.covers request below = true) ∧
    parse (xs ++ ys) = parse (ys ++ xs) ∧
    (∀ xs', (∀ r, r ∈ xs' ↔ r ∈ xs) → parse xs' = parse xs) ∧
    (∀ blank, normalizeResource blank = [] → parse (xs ++ blank :: ys) = parse (xs ++ ys)) ∧
    (∀ star, normalizeResource star = ['*'] → parse (xs ++ star :: ys) = .ok .all) ∧
    parse xs = gather ∅ xs := by
  refine ⟨?succeeds, ?covers, ?order, ?repeated, ?blank, ?star, parse_eq_gather xs⟩
  case succeeds =>
    simp only [parse_eq_ok_iff, exists_standFor_iff, List.mem_append, or_and_right, exists_or]
  case covers =>
    intro set read request below
    rw [(parse_eq_ok_iff.1 read).covers_iff]
    simp only [or_and_right, exists_or, exists_parse_covers_iff, List.mem_append]
  case order => exact parse_of_mem_iff fun r => by rw [List.mem_append, List.mem_append, or_comm]
  case repeated => exact fun xs' same => parse_of_mem_iff same
  case blank => exact fun blank name => parse_blank name xs ys
  case star => exact fun star name => parse_star (by simp) name

/-- A list with a blank text and a repetition, joined with a pattern and with a star. -/
theorem parse_append_folder :
    let xs := ["a/*".toList, " ".toList, "a/*".toList]
    let ys := ["b".toList]
    parse xs = parse ["a/*".toList] ∧ parse (xs ++ ys) = parse (ys ++ xs) ∧
      (∃ set, parse (xs ++ ys) = .ok set ∧ set.covers "a/x".toList false = true ∧
        set.covers "b".toList false = true ∧ set.covers "b/x".toList false ≠ true) ∧
      parse (xs ++ "arn:aws:s3:::*".toList :: ys) = .ok .all := by
  intro xs ys
  obtain ⟨-, -, -, -, blank, -, -⟩ := parse_append ["a/*".toList] ["a/*".toList]
  obtain ⟨-, -, -, repeated, -, -, -⟩ := parse_append ["a/*".toList] []
  obtain ⟨succeeds, union, order, -, -, star, -⟩ := parse_append xs ys
  have once : parse xs = parse ["a/*".toList] :=
    (blank " ".toList (by decide)).trans (repeated _ (by simp))
  have left : ∃ part, parse xs = .ok part ∧ part.covers "a/x".toList false = true ∧
      part.covers "b/x".toList false = false := ⟨_, rfl, by decide, by decide⟩
  have right : ∃ part, parse ys = .ok part ∧ part.covers "b".toList false = true ∧
      part.covers "b/x".toList false = false := ⟨_, rfl, by decide, by decide⟩
  obtain ⟨part, read, covers, apart⟩ := left
  obtain ⟨part', read', covers', apart'⟩ := right
  obtain ⟨set, joined⟩ := succeeds.2 (Or.inl ⟨part, read⟩)
  refine ⟨once, order, ⟨set, joined, ?_, ?_, ?_⟩, star "arn:aws:s3:::*".toList (by decide)⟩
  · exact (union set joined _ _).2 ⟨part, Or.inl read, covers⟩
  · exact (union set joined _ _).2 ⟨part', Or.inr read', covers'⟩
  · rw [Ne, union set joined]
    rintro ⟨other, found, about⟩
    rw [read, read', Except.ok.injEq, Except.ok.injEq] at found
    rcases found with rfl | rfl
    · exact Bool.false_ne_true (apart.symm.trans about)
    · exact Bool.false_ne_true (apart'.symm.trans about)

end ConsoleAccess.ResourceSet
