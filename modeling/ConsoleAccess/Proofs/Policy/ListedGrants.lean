import ConsoleAccess.Policy.Scopes
import ConsoleAccess.Proofs.Policy.GrantScopes
import ConsoleAccess.Proofs.Text.Order

/-!
# The list of wildcard grants

Wildcard grants are listed in the order of their bytes, each once, whatever the order in which the
statements are visited (`Snapshot.sortedDistinct_yielded`). A listed text tells its wildcard
(`ResourcePattern.text_injective`), and the wildcards that are listed are those whose literal starts
the path or goes on from it after a slash (`ResourcePattern.near_iff`). Nothing else of a session
counts: without its denies, its statements on all resources and its exact patterns it lists the same
(`Snapshot.wildcardGrants_wildcardsOnly`).
-/

namespace ConsoleAccess

/-! ## Wildcards near a path -/

namespace ResourcePattern

theorem text_injective : Function.Injective text := by
  have apart {p q : ResourcePattern} (plain : p.wildcard = false) (star : q.wildcard = true) :
      p.text ≠ q.text := by
    intro same
    rw [text, text_of_wildcard star, plain, if_neg Bool.false_ne_true, List.append_nil] at same
    exact getLast?_literal plain (same ▸ List.getLast?_concat)
  intro p q same
  cases hp : p.wildcard <;> cases hq : q.wildcard
  · rw [text, text, hp, hq] at same
    exact ext (List.append_cancel_right same) (hp.trans hq.symm)
  · exact absurd same (apart hp hq)
  · exact absurd same.symm (apart hq hp)
  · rw [text, text, hp, hq] at same
    exact ext (List.append_cancel_right same) (hp.trans hq.symm)

theorem near_iff {p : ResourcePattern} {path : Text} (star : p.wildcard = true) :
    p.covers path = true ∨ p.contains path = true ↔ normalizeResource path ≠ [] ∧
      (p.literal <+: normalizeResource path ∨ IsAncestor (normalizeResource path) p.literal) := by
  rw [covers_iff, if_pos star, contains_iff, ← and_or_left]
  refine and_congr_right fun _ => ?_
  constructor
  · rintro ((starts | folder) | (same | below))
    · exact Or.inl starts
    · exact Or.inr (Or.inl ⟨[], folder⟩)
    · exact Or.inl (same ▸ List.prefix_rfl)
    · exact Or.inr below
  · rintro (starts | below)
    · exact Or.inl (Or.inl starts)
    · exact Or.inr (Or.inr below)

end ResourcePattern

/-! ## What grants come from -/

/-- An allow's wildcards, without its exact patterns; nothing is left of any other statement. -/
def Statement.wildcardsOnly? (s : Statement) : Option Statement :=
  match s.effect, s.resources with
  | .allow, .patterns members =>
    some { s with resources := .patterns (members.filter ResourcePattern.wildcard) }
  | _, _ => none

theorem Statement.wildcardsOnly?_eq_some_iff {s t : Statement} :
    s.wildcardsOnly? = some t ↔ s.effect = .allow ∧ ∃ members, s.resources = .patterns members ∧
      t = { s with resources := .patterns (members.filter ResourcePattern.wildcard) } := by
  unfold wildcardsOnly?
  cases s.effect <;> cases s.resources <;> simp [eq_comm]

theorem Statement.mem_wildcards_of_wildcardsOnly? {s t : Statement}
    (left : s.wildcardsOnly? = some t) {p : ResourcePattern} :
    p ∈ t.wildcards ↔ p ∈ s.wildcards := by
  obtain ⟨-, members, set, rfl⟩ := wildcardsOnly?_eq_some_iff.1 left
  simp [mem_wildcards_iff, set]

def Session.wildcardsOnly (session : Session) : Session :=
  { session with statements := session.statements.filterMap fun _ s => s.wildcardsOnly? }

theorem Session.holds_wildcardsOnly_iff {session : Session} {t : Statement} :
    session.wildcardsOnly.Holds t ↔ ∃ s, session.Holds s ∧ s.wildcardsOnly? = some t := by
  simp only [Holds, statement?, wildcardsOnly, Std.ExtTreeMap.getElem?_filterMap',
    Option.bind_eq_some_iff]
  constructor
  · rintro ⟨id, s, held, left⟩
    exact ⟨s, ⟨id, held⟩, left⟩
  · rintro ⟨s, ⟨id, held⟩, left⟩
    exact ⟨id, s, held, left⟩

namespace Snapshot

variable {session : Session} {path g : Text} {scopes : List Text} {p : ResourcePattern}

theorem increasing_wildcardGrants (snapshot : Snapshot) (path : Text) (scopes : List Text) :
    Text.Increasing (snapshot.wildcardGrants path scopes) :=
  Std.ExtTreeSet.ordered_toList

theorem isWildcardGrant_wildcardsOnly_iff :
    IsWildcardGrant (some session.wildcardsOnly) path scopes p ↔
      IsWildcardGrant (some session) path scopes p := by
  constructor
  · rintro ⟨⟨t, kept, allows, scope, member⟩, near⟩
    obtain ⟨s, held, left⟩ := Session.holds_wildcardsOnly_iff.1 (Session.mem_statements_iff.1 kept)
    rw [Statement.mem_wildcards_of_wildcardsOnly? left] at member
    obtain ⟨-, members, -, rfl⟩ := Statement.wildcardsOnly?_eq_some_iff.1 left
    exact ⟨⟨s, Session.mem_statements_iff.2 held, allows, scope, member⟩, near⟩
  · rintro ⟨⟨s, held, allows, scope, member⟩, near⟩
    obtain ⟨members, set, -⟩ := Statement.mem_wildcards_iff.1 member
    have left := Statement.wildcardsOnly?_eq_some_iff.2 ⟨allows, members, set, rfl⟩
    rw [← Statement.mem_wildcards_of_wildcardsOnly? left] at member
    have kept := Session.holds_wildcardsOnly_iff.2 ⟨s, Session.mem_statements_iff.1 held, left⟩
    exact ⟨⟨_, Session.mem_statements_iff.2 kept, allows, scope, member⟩, near⟩

theorem wildcardGrants_wildcardsOnly (session : Session) (path : Text) (scopes : List Text) :
    wildcardGrants (some session.wildcardsOnly) path scopes =
      wildcardGrants (some session) path scopes := by
  apply (increasing_wildcardGrants _ path scopes).eq_of_mem_iff (increasing_wildcardGrants _ _ _)
  intro g
  simp only [mem_wildcardGrants_iff, isWildcardGrant_wildcardsOnly_iff]

/-! ## Statements in any order -/

def yielded (visited : List Statement) (path : Text) (scopes : List Text) : List Text :=
  let statements := (visited.filter fun s => s.effect == .allow).filter fun s =>
    scopes.any s.coversScope
  let patterns := (statements.flatMap Statement.wildcards).filter fun p =>
    p.covers path || p.contains path
  patterns.map ResourcePattern.text

theorem yielded_perm {visited visited' : List Statement} (order : visited.Perm visited')
    (path : Text) (scopes : List Text) :
    (yielded visited path scopes).Perm (yielded visited' path scopes) := by
  have statements := (order.filter fun s => s.effect == .allow).filter fun s =>
    scopes.any s.coversScope
  have patterns := (statements.flatMap_right Statement.wildcards).filter fun p =>
    p.covers path || p.contains path
  exact patterns.map ResourcePattern.text

theorem sortedDistinct_yielded {snapshot : Snapshot} {visited : List Statement}
    (order : visited.Perm snapshot.statements) (path : Text) (scopes : List Text) :
    Text.sortedDistinct (yielded visited path scopes) = snapshot.wildcardGrants path scopes := by
  apply Text.sortedDistinct_eq_toList
  intro t
  rw [(yielded_perm order path scopes).mem_iff, Std.ExtTreeSet.mem_ofList, List.contains_iff_mem]
  rfl

/-! ## The list -/

theorem wildcardGrants_exact (session : Session) (path : Text) (scopes : List Text) :
    let listed := wildcardGrants (some session) path scopes
    let name := normalizeResource path
    (listed.map Text.bytes).Pairwise (· < ·) ∧
    (∀ g, g ∈ listed ↔ name ≠ [] ∧ ∃ s, session.Holds s ∧ s.effect = .allow ∧
      (∃ a ∈ s.actions, ∃ c ∈ scopes, a.covers c = true) ∧
      ∃ members, s.resources = .patterns members ∧ ∃ p ∈ members, p.wildcard = true ∧
        g = p.literal ++ ['*'] ∧ (p.literal <+: name ∨ IsAncestor name p.literal)) ∧
    (∀ visited : List Statement, visited.Perm (statements (some session)) →
      Text.sortedDistinct (yielded visited path scopes) = listed) ∧
    wildcardGrants (some session.wildcardsOnly) path scopes = listed ∧
    Function.Injective ResourcePattern.text := by
  intro listed name
  refine ⟨(increasing_wildcardGrants _ _ _).bytes, fun g => ?_,
    fun visited order => sortedDistinct_yielded order path scopes,
    wildcardGrants_wildcardsOnly session path scopes, ResourcePattern.text_injective⟩
  rw [mem_wildcardGrants_iff]
  constructor
  · rintro ⟨p, ⟨⟨s, held, allows, ⟨c, asked, scope⟩, member⟩, near⟩, rfl⟩
    obtain ⟨a, action, covered⟩ := Statement.coversScope_iff.1 scope
    obtain ⟨members, set, member, star⟩ := Statement.mem_wildcards_iff.1 member
    obtain ⟨named, lies⟩ := (ResourcePattern.near_iff star).1 near
    exact ⟨named, s, Session.mem_statements_iff.1 held, allows, ⟨a, action, c, asked, covered⟩,
      members, set, p, member, star, ResourcePattern.text_of_wildcard star, lies⟩
  · rintro ⟨named, s, held, allows, ⟨a, action, c, asked, covered⟩, members, set, p, member, star,
      rfl, lies⟩
    have scope := Statement.coversScope_iff.2 ⟨a, action, covered⟩
    have listed := Statement.mem_wildcards_iff.2 ⟨members, set, member, star⟩
    have near := (ResourcePattern.near_iff star).2 ⟨named, lies⟩
    exact ⟨p, ⟨⟨s, Session.mem_statements_iff.2 held, allows, ⟨c, asked, scope⟩, listed⟩, near⟩,
      ResourcePattern.text_of_wildcard star⟩

/-- Uploads into a folder, with statements visited backwards. Of the five, one is on another bucket,
one on another action, and one is exact. -/
theorem wildcardGrants_exact_upload :
    let put : ActionPattern := ⟨"s3:PutObject".toList, by decide, by decide⟩
    let get : ActionPattern := ⟨"s3:GetObject".toList, by decide, by decide⟩
    let year : ResourcePattern :=
      ⟨"b/photos/2024/".toList, true, "b/photos/2024/*".toList, by decide⟩
    let bucket : ResourcePattern := ⟨"b/".toList, true, "b/*".toList, by decide⟩
    let other : ResourcePattern := ⟨"c/".toList, true, "c/*".toList, by decide⟩
    let photos : ResourcePattern := ⟨"b/photos/".toList, true, "b/photos/*".toList, by decide⟩
    let exactly : ResourcePattern :=
      ⟨"b/photos/a.png".toList, false, "b/photos/a.png".toList, by decide⟩
    let session := (((((Session.ofIdentity "alice".toList).insert "1".toList
      (.on .allow put year)).insert "2".toList (.on .allow put bucket)).insert "3".toList
        (.on .allow put other)).insert "4".toList (.on .allow get photos)).insert "5".toList
          (.on .allow put exactly)
    let visited := (statements (some session)).reverse
    visited.Perm (statements (some session)) ∧
      Text.sortedDistinct (yielded visited "b/photos/".toList Scopes.upload) =
        ["b/*".toList, "b/photos/2024/*".toList] := by
  intro put get year bucket other photos exactly session visited
  have order : visited.Perm (statements (some session)) := List.reverse_perm _
  have listed : wildcardGrants (some session) "b/photos/".toList Scopes.upload =
      ["b/*".toList, "b/photos/2024/*".toList] := by decide
  refine ⟨order, ?_⟩
  rw [← listed]
  exact (wildcardGrants_exact session "b/photos/".toList Scopes.upload).2.2.1 visited order

end Snapshot
end ConsoleAccess
