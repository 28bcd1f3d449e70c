import ConsoleAccess.Proofs.Policy.Decision

/-!
# Monotonicity of decisions

One case of a decision is at least as easy as another if its scopes are the same, every deny that it
meets was met before and every allow that counted still counts (`Query.Loosens`). A granted query is
then still granted (`Query.Loosens.answer`), and the orders on the parts of a decision are cases of
this: more allows, containment and the any-scope mode only grant, more denies only refuse, and more
resources only grant where no deny speaks of them.
-/

namespace ConsoleAccess

theorem Speaks.mono {statements statements' : List Statement} {effect : Effect}
    {resource scope : Text} {below : Bool}
    (kept : ∀ s ∈ statements, s.effect = effect → s ∈ statements')
    (spoken : Speaks statements effect resource scope below) :
    Speaks statements' effect resource scope below := by
  obtain ⟨s, held, kind, applies⟩ := spoken
  exact ⟨s, kept s held kind, kind, applies⟩

theorem Speaks.contained {statements : List Statement} {effect : Effect} {resource scope : Text}
    {below : Bool} (spoken : Speaks statements effect resource scope below) :
    Speaks statements effect resource scope true := by
  obtain ⟨s, held, kind, applies⟩ := spoken
  refine ⟨s, held, kind, ?_⟩
  cases below with
  | false => exact Statement.appliesTo_of_appliesTo_directly true applies
  | true => exact applies

namespace Query

/-- What the second query meets is at most as strict as what the first one meets. -/
structure Loosens (visited visited' : List Statement) (q q' : Query) : Prop where
  scopes : Text.present q'.scopes = Text.present q.scopes
  matchAll : q'.matchAll = true → q.matchAll = true
  denies : ∀ r' ∈ Text.present q'.resources, ∀ c ∈ Text.present q.scopes,
    Speaks visited' .deny r' c false →
      ∃ r ∈ Text.present q.resources, Speaks visited .deny r c false
  allows : ∀ r ∈ Text.present q.resources, ∀ c ∈ Text.present q.scopes,
    Speaks visited .allow r c q.containsResource →
      ∃ r' ∈ Text.present q'.resources, Speaks visited' .allow r' c q'.containsResource

variable {q q' : Query} {visited visited' : List Statement}

theorem Satisfied.mono {holds holds' : Text → Prop} (enough : q.Satisfied holds)
    (asked : Text.present q.scopes ≠ [])
    (scopes : Text.present q'.scopes = Text.present q.scopes)
    (mode : q'.matchAll = true → q.matchAll = true)
    (weaker : ∀ c ∈ Text.present q.scopes, holds c → holds' c) : q'.Satisfied holds' := by
  rw [Satisfied, scopes]
  by_cases all : q'.matchAll = true
  · rw [if_pos all]
    rw [Satisfied, if_pos (mode all)] at enough
    intro c member
    exact weaker c member (enough c member)
  · rw [if_neg all]
    -- Where one scope is enough it may be any that held before, whichever mode that was in.
    obtain ⟨c, member, held⟩ := satisfied_exists asked enough
    exact ⟨c, member, weaker c member held⟩

theorem Loosens.answer (loosens : Loosens visited visited' q q')
    (answered : q.answer visited = true) : q'.answer visited' = true := by
  obtain ⟨-, asked, undenied, enough⟩ := answer_iff.1 answered
  have still : ∀ c ∈ Text.present q.scopes,
      (∃ r ∈ Text.present q.resources, Speaks visited .allow r c q.containsResource) →
        ∃ r' ∈ Text.present q'.resources, Speaks visited' .allow r' c q'.containsResource := by
    intro c member allowed
    obtain ⟨r, named, allowed⟩ := allowed
    exact loosens.allows r named c member allowed
  obtain ⟨c, member, allowed⟩ := satisfied_exists asked enough
  obtain ⟨r', named', -⟩ := still c member allowed
  rw [answer_iff, loosens.scopes]
  refine ⟨List.ne_nil_of_mem named', asked, ?_, ?_⟩
  · intro r' named' c member denied
    obtain ⟨r, named, denied⟩ := loosens.denies r' named' c member denied
    exact undenied r named c member denied
  · exact enough.mono asked loosens.scopes loosens.matchAll still

theorem Loosens.of_statements (allows : ∀ s ∈ visited, s.effect = .allow → s ∈ visited')
    (denies : ∀ s ∈ visited', s.effect = .deny → s ∈ visited) : Loosens visited visited' q q where
  scopes := rfl
  matchAll := id
  denies r named _ _ denied := ⟨r, named, denied.mono denies⟩
  allows r named _ _ allowed := ⟨r, named, allowed.mono allows⟩

theorem Loosens.of_contained : Loosens visited visited q { q with containsResource := true } where
  scopes := rfl
  matchAll := id
  denies r named _ _ denied := ⟨r, named, denied⟩
  allows r named _ _ allowed := ⟨r, named, allowed.contained⟩

theorem Loosens.of_matchAll : Loosens visited visited { q with matchAll := true } q where
  scopes := rfl
  matchAll _ := rfl
  denies r named _ _ denied := ⟨r, named, denied⟩
  allows r named _ _ allowed := ⟨r, named, allowed⟩

theorem Loosens.of_withResources {extra : List Text}
    (undenied : ∀ r ∈ Text.present extra, ∀ c ∈ Text.present q.scopes,
      ¬ Speaks visited .deny r c false) :
    Loosens visited visited q (q.withResources extra) where
  scopes := rfl
  matchAll := id
  denies r named c asked denied := by
    rw [withResources, Text.present_append, List.mem_append] at named
    cases named with
    | inl old => exact ⟨r, old, denied⟩
    | inr new => exact absurd denied (undenied r new c asked)
  allows r named c _ allowed := by
    refine ⟨r, ?_, allowed⟩
    rw [withResources, Text.present_append]
    exact List.mem_append_left _ named

end Query

namespace Snapshot

theorem grants_of_loosens {snapshot : Snapshot} {q q' : Query}
    (loosens : Query.Loosens snapshot.statements snapshot.statements q q')
    (granted : snapshot.grants q = true) : snapshot.grants q' = true := by
  rw [grants_eq_answer, Bool.and_eq_true] at granted ⊢
  exact ⟨granted.1, loosens.answer granted.2⟩

theorem grants_of_holds {session session' : Session} {q : Query}
    (allows : ∀ s, s.effect = .allow → session.Holds s → session'.Holds s)
    (denies : ∀ s, s.effect = .deny → session'.Holds s → session.Holds s)
    (granted : grants (some session) q = true) : grants (some session') q = true := by
  rw [grants_eq_answer, Option.isSome_some, Bool.true_and] at granted ⊢
  apply Query.Loosens.answer (.of_statements _ _) granted
  · intro s held kind
    rw [Session.mem_statements_iff] at held ⊢
    exact allows s kind held
  · intro s held kind
    rw [Session.mem_statements_iff] at held ⊢
    exact denies s kind held

section
variable {session : Session} {id : Text} {s : Statement} {q : Query}

theorem grants_insert_allow (unused : session.statement? id = none) (kind : s.effect = .allow)
    (granted : grants (some session) q = true) : grants (some (session.insert id s)) q = true := by
  apply grants_of_holds _ _ granted
  · intro t _ held
    exact held.insert unused
  · intro t denies held
    apply Session.holds_of_holds_insert unused _ held
    rw [denies, kind]
    intro same
    cases same

theorem grants_of_insert_deny (unused : session.statement? id = none) (kind : s.effect = .deny)
    (granted : grants (some (session.insert id s)) q = true) : grants (some session) q = true := by
  apply grants_of_holds _ _ granted
  · intro t allows held
    apply Session.holds_of_holds_insert unused _ held
    rw [allows, kind]
    intro same
    cases same
  · intro t _ held
    exact held.insert unused

end

theorem grants_withResources_iff {snapshot : Snapshot} {q : Query} {extra : List Text}
    (granted : snapshot.grants q = true) :
    snapshot.grants (q.withResources extra) = true ↔
      ∀ d ∈ snapshot.statements, d.effect = .deny → ∀ r ∈ extra, ∀ c ∈ Text.present q.scopes,
        d.appliesTo r c false = false := by
  rw [← undenied_present_iff]
  constructor
  · intro wider r named c asked
    apply undenied_of_grants wider r _ c asked
    rw [Query.withResources, Text.present_append]
    exact List.mem_append_right _ named
  · intro undenied
    exact grants_of_loosens (.of_withResources undenied) granted

theorem grants_monotone (session : Session) (q : Query) :
    (∀ id s, session.statement? id = none → s.effect = .allow →
      grants (some session) q = true → grants (some (session.insert id s)) q = true) ∧
    (∀ id s, session.statement? id = none → s.effect = .deny →
      grants (some (session.insert id s)) q = true → grants (some session) q = true) ∧
    (grants (some session) q = true →
      grants (some session) { q with containsResource := true } = true) ∧
    (grants (some session) { q with matchAll := true } = true →
      grants (some session) q = true) ∧
    ∀ extra,
      (∀ d ∈ statements (some session), d.effect = .deny → ∀ r ∈ extra,
        ∀ c ∈ Text.present q.scopes, d.appliesTo r c false = false) →
      grants (some session) q = true → grants (some session) (q.withResources extra) = true := by
  refine ⟨?_, ?_, ?_, ?_, ?_⟩
  · intro id s unused allows
    exact grants_insert_allow unused allows
  · intro id s unused denies
    exact grants_of_insert_deny unused denies
  · exact grants_of_loosens .of_contained
  · exact grants_of_loosens .of_matchAll
  · intro extra undenied granted
    exact (grants_withResources_iff granted).2 undenied

theorem grants_monotone_bucket :
    let put : ActionPattern := ⟨"s3:Put*".toList, by decide, by decide⟩
    let shared : ResourcePattern :=
      ⟨"bucket/shared/".toList, true, "bucket/shared/*".toList, by decide⟩
    let locked : ResourcePattern :=
      ⟨"bucket/locked/".toList, true, "bucket/locked/*".toList, by decide⟩
    let session := ((Session.ofIdentity "alice".toList).insert "1".toList
      (.on .allow put shared)).insert "2".toList (.on .deny put locked)
    let q : Query := { resources := ["bucket/shared/a".toList], scopes := ["s3:PutObject".toList] }
    let extra := ["bucket".toList]
    session.statement? "3".toList = none ∧
      grants (some session) q = true ∧
      grants (some (session.insert "3".toList (.everywhere .allow put))) q = true ∧
      grants (some (session.insert "3".toList (.on .deny put locked))) q = true ∧
      grants (some session) { q with containsResource := true } = true ∧
      grants (some session) { q with matchAll := true } = true ∧
      (∀ d ∈ statements (some session), d.effect = .deny → ∀ r ∈ extra,
        ∀ c ∈ Text.present q.scopes, d.appliesTo r c false = false) ∧
      grants (some session) (q.withResources extra) = true := by
  intro put shared locked session q extra
  have unused : session.statement? "3".toList = none := by decide
  have strict : grants (some (session.insert "3".toList (.on .deny put locked))) q = true := by decide
  have every : grants (some session) { q with matchAll := true } = true := by decide
  have undenied : ∀ d ∈ statements (some session), d.effect = .deny → ∀ r ∈ extra,
      ∀ c ∈ Text.present q.scopes, d.appliesTo r c false = false := by decide
  obtain ⟨more, fewer, below, any, wider⟩ := grants_monotone session q
  have granted := any every
  exact ⟨unused, fewer _ _ unused rfl strict, more _ _ unused rfl granted, strict, below granted,
    every, undenied, wider extra undenied granted⟩

end Snapshot
end ConsoleAccess
