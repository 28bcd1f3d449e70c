import ConsoleAccess.Dictionary
import ConsoleAccess.Policy.Effect

/-!
Resource patterns and sets of them. A pattern is a literal text, with a star at its end or without;
a resource name may carry the prefix `arn:aws:s3:::`, which says nothing and is dropped.

* `ResourcePattern.covers`: the pattern is about the resource itself.
* `ResourcePattern.contains`: the pattern is about something below the resource.
-/

namespace ConsoleAccess

def resourceArn : Text := "arn:aws:s3:::".toList

def normalizeResource (raw : Text) : Text :=
  (resourceArn.isPrefixOf? raw.trim).getD raw.trim

/-- Splits a granted resource into its literal text and whether a star follows. A blank text grants
nothing and a lone star is no pattern, since it stands for every resource. -/
def splitResource? (raw : Text) : Option (Text × Bool) :=
  let resource := normalizeResource raw
  if resource = [] || resource = ['*'] then none
  else match resource.dropEnd? '*' with
    | some stem => some (stem, true)
    | none => some (resource, false)

/-- A pattern is what some written resource splits into. -/
structure ResourcePattern where
  literal : Text
  wildcard : Bool
  written : ∃ raw, splitResource? raw = some (literal, wildcard)

namespace ResourcePattern

@[ext] theorem ext {p q : ResourcePattern} (hl : p.literal = q.literal)
    (hw : p.wildcard = q.wildcard) : p = q := by
  cases p; cases q; cases hl; cases hw; rfl

instance : DecidableEq ResourcePattern := fun p q =>
  decidable_of_iff (p.literal = q.literal ∧ p.wildcard = q.wildcard)
    ⟨fun h => ext h.1 h.2, fun h => by cases h; exact ⟨rfl, rfl⟩⟩

instance : Ord ResourcePattern := ⟨compareLex (compareOn literal) (compareOn wildcard)⟩

instance : Std.TransOrd ResourcePattern :=
  inferInstanceAs (Std.TransCmp (compareLex (compareOn ResourcePattern.literal)
    (compareOn ResourcePattern.wildcard)))

instance : Std.LawfulEqOrd ResourcePattern where
  eq_of_compare {p q} h := by
    have h : (compare p.literal q.literal).then (compare p.wildcard q.wildcard) = .eq := h
    rw [Ordering.then_eq_eq] at h
    exact ext (Std.LawfulEqOrd.eq_of_compare h.1) (Std.LawfulEqOrd.eq_of_compare h.2)

def parse? (raw : Text) : Option ResourcePattern :=
  match h : splitResource? raw with
  | some (literal, wildcard) => some ⟨literal, wildcard, raw, h⟩
  | none => none

theorem parse?_map (raw : Text) :
    (parse? raw).map (fun p => (p.literal, p.wildcard)) = splitResource? raw := by
  unfold parse?; split <;> simp_all

def text (p : ResourcePattern) : Text := p.literal ++ if p.wildcard then ['*'] else []

/-- A requested resource is the literal, or for a wildcard starts with it. A wildcard `bucket/*` is
also about the bare `bucket`. -/
def covers (p : ResourcePattern) (request : Text) : Bool :=
  let resource := normalizeResource request
  !resource.isEmpty &&
    if p.wildcard then
      p.literal.isPrefixOf resource || p.literal.dropEnd? '/' == some resource
    else p.literal == resource

/-- The request leads to the pattern's literal along whole path segments: `bucket` contains
`bucket/photos`, and neither `buck` nor `bucket/pho` does. -/
def contains (p : ResourcePattern) (request : Text) : Bool :=
  let resource := normalizeResource request
  !resource.isEmpty &&
    match resource.isPrefixOf? p.literal with
    | some [] => true
    | some (c :: _) => resource.getLast? == some '/' || c == '/'
    | none => false

end ResourcePattern

inductive ResourceSet
  | all
  | patterns (members : Std.ExtTreeSet ResourcePattern compare)
deriving DecidableEq

namespace ResourceSet

/-- Reads granted resources. A star among them widens the set to every resource; blank ones are
skipped, and at least one must be left. -/
def parse (raw : List Text) : Except StatementError ResourceSet :=
  let resources := raw.map normalizeResource
  if resources.contains ['*'] then .ok .all
  else match resources.filterMap ResourcePattern.parse? with
    | [] => .error .noResources
    | found => .ok (.patterns (.ofList found))

def covers (set : ResourceSet) (request : Text) (below : Bool) : Bool :=
  match set with
  | .all => !(normalizeResource request).isEmpty
  | .patterns members =>
    members.toList.any fun p => p.covers request || (below && p.contains request)

def texts? : ResourceSet → Option (List Text)
  | .all => none
  | .patterns members => some (members.toList.map ResourcePattern.text)

end ResourceSet
end ConsoleAccess
