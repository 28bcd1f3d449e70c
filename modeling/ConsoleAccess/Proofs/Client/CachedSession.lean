import ConsoleAccess.Proofs.Client.Exchange

/-!
# The cached session over runs of a client

What a client's operations do to the policy cache, whatever comes of their calls. Each exit of an
operation leaves the cache alone or empties it, and only a sign-in that reaches its end and an
`establish` fill it (`Settles`). So a cached session is the one that was established last, and
nothing since then can have ended it (`run_cached`).
-/

namespace ConsoleAccess

/-- The failures after which a session may well be in force still: no response, a refusal for
another reason, or a body that is no payload. -/
def ClientError.Harmless : ClientError → Prop
  | .network _ | .refused _ _ | .payload .unparsable => True
  | _ => False

namespace Client
variable {library : Http.Library}

structure Settles (operation : Operation) (responses : List Http.Response)
    (result : Except ClientError Reply) (before after : Snapshot) : Prop where
  logout_empties : operation = .logout → after = none
  ended_empties : result = .error .invalidSession → after = none
  establish_loads : ∀ payload, operation = .establish payload →
    result = .ok (.snapshot after) ∧ after = some payload.session
  signIn_loads : ∀ credentials reply, operation = .signIn credentials → result = .ok reply →
    ∃ entered fetched text payload, responses = [entered, fetched] ∧
      entered.status.isSuccess = true ∧ fetched.status.isSuccess = true ∧
      fetched.text = .ok text ∧ Payload.parse text = .ok payload ∧
      reply = .snapshot after ∧ after = some payload.session
  otherwise_kept : operation ≠ .logout → (∀ payload, operation ≠ .establish payload) →
    result ≠ .error .invalidSession →
    (∀ credentials reply, operation = .signIn credentials → result ≠ .ok reply) → after = before
  ended_iff : result = .error .invalidSession ↔ ∃ response ∈ responses, response.EndsSession
  failures : ∀ error, result = .error error → error = .invalidSession ∨ error.Harmless

/-! ## The ways out of an operation -/

namespace Settles
variable {operation : Operation} {responses : List Http.Response} {before : Snapshot}

theorem of_ended (requests : ∀ payload, operation ≠ .establish payload)
    (ends : ∃ response ∈ responses, response.EndsSession) :
    Settles operation responses (.error .invalidSession) before none where
  logout_empties _ := rfl
  ended_empties _ := rfl
  establish_loads payload same := absurd same (requests payload)
  signIn_loads _ _ _ ok := by cases ok
  otherwise_kept _ _ ended := absurd rfl ended
  ended_iff := iff_of_true rfl ends
  failures _ failed := by cases failed; exact Or.inl rfl

theorem of_kept {result : Except ClientError Reply} (stays : operation ≠ .logout)
    (requests : ∀ payload, operation ≠ .establish payload)
    (unfinished : ∀ credentials reply, operation = .signIn credentials → result ≠ .ok reply)
    (goesOn : ∀ response ∈ responses, ¬ response.EndsSession)
    (harmless : ∀ error, result = .error error → error.Harmless) :
    Settles operation responses result before before where
  logout_empties same := absurd same stays
  ended_empties ended := (harmless _ ended).elim
  establish_loads payload same := absurd same (requests payload)
  signIn_loads credentials reply same ok := absurd ok (unfinished credentials reply same)
  otherwise_kept _ _ _ _ := rfl
  ended_iff := iff_of_false (fun ended => harmless _ ended) fun ⟨response, heard, ends⟩ =>
    goesOn response heard ends
  failures error failed := Or.inr (harmless error failed)

theorem of_failure {error : ClientError} (stays : operation ≠ .logout)
    (requests : ∀ payload, operation ≠ .establish payload)
    (goesOn : ∀ response ∈ responses, ¬ response.EndsSession) (harmless : error.Harmless) :
    Settles operation responses (.error error) before before := by
  refine of_kept stays requests (fun _ _ _ ok => ?_) goesOn fun error' failed => ?_
  · cases ok
  · cases failed
    exact harmless

theorem of_logout {result : Except ClientError Reply}
    (ended : result = .error .invalidSession ↔ ∃ response ∈ responses, response.EndsSession)
    (failures : ∀ error, result = .error error → error = .invalidSession ∨ error.Harmless) :
    Settles .logout responses result before none where
  logout_empties _ := rfl
  ended_empties _ := rfl
  establish_loads _ same := by cases same
  signIn_loads _ _ same := by cases same
  otherwise_kept stays := absurd rfl stays
  ended_iff := ended
  failures := failures

theorem of_establish {payload : Payload} :
    Settles (.establish payload) [] (.ok (.snapshot (some payload.session))) before
      (some payload.session) where
  logout_empties same := by cases same
  ended_empties ended := by cases ended
  establish_loads _ same := by cases same; exact ⟨rfl, rfl⟩
  signIn_loads _ _ same := by cases same
  otherwise_kept _ requests := absurd rfl (requests payload)
  ended_iff := iff_of_false nofun (by simp)
  failures _ failed := by cases failed

theorem of_signIn {credentials : Credentials} {entered fetched : Http.Response} {text : Text}
    {payload : Payload} (entry : entered.status.isSuccess = true)
    (success : fetched.status.isSuccess = true) (body : fetched.text = .ok text)
    (parsed : Payload.parse text = .ok payload) :
    Settles (.signIn credentials) [entered, fetched] (.ok (.snapshot (some payload.session))) before
      (some payload.session) where
  logout_empties same := by cases same
  ended_empties ended := by cases ended
  establish_loads _ same := by cases same
  signIn_loads _ _ _ ok := by
    cases ok
    exact ⟨entered, fetched, text, payload, rfl, entry, success, body, parsed, rfl, rfl⟩
  otherwise_kept _ _ _ unfinished := absurd rfl (unfinished credentials _ rfl)
  ended_iff := iff_of_false nofun
    (by simp [Http.Response.not_endsSession entry, Http.Response.not_endsSession success])
  failures _ failed := by cases failed

end Settles

theorem readPayload_ok_iff {response : Http.Response} {payload : Payload} :
    readPayload response = .ok payload ↔
      ∃ text, response.text = .ok text ∧ Payload.parse text = .ok payload := by
  unfold readPayload
  cases response.text with
  | error text => simp
  | ok text => cases parsed : Payload.parse text <;> simp [parsed]

theorem readPayload_harmless {response : Http.Response} {error : ClientError}
    (failed : readPayload response = .error error) : error.Harmless := by
  unfold readPayload Payload.parse at failed
  split at failed
  · cases failed
    trivial
  · next text _ =>
    cases read : Payload.read? text with
    | none =>
        rw [read] at failed
        cases failed
        trivial
    | some payload =>
        rw [read] at failed
        cases failed

/-! ## The operations -/

def SettlesBetween (operation : Operation) (result : Except ClientError Reply)
    (before after : Link library) : Prop :=
  ∃ responses, Heard before after responses ∧
    Settles operation responses result before.cache.current after.cache.current

theorem Exchanged.settles {operation : Operation} {before link : Link library}
    {past : List Http.Response} {outcome : Except ClientError Http.Response × Link library}
    {error : ClientError}
    (exchanged : Exchanged link outcome) (failed : outcome.1 = .error error)
    (heard : Heard before link past) (goesOn : ∀ response ∈ past, ¬ response.EndsSession)
    (kept : link.cache = before.cache) (stays : operation ≠ .logout)
    (requests : ∀ payload, operation ≠ .establish payload) :
    SettlesBetween operation (.error error) before outcome.2 := by
  cases exchanged with
  | lost text heard' failed' kept' =>
      rw [failed, Except.error.injEq] at failed'
      refine ⟨past ++ [], heard.trans heard', ?_⟩
      rw [failed', kept', kept, List.append_nil]
      exact .of_failure stays requests goesOn trivial
  | accepted response heard' success passed kept' =>
      rw [failed] at passed
      cases passed
  | refused response body heard' goesOn' failed' kept' =>
      rw [failed, Except.error.injEq] at failed'
      refine ⟨past ++ [response], heard.trans heard', ?_⟩
      rw [failed', kept', kept]
      refine .of_failure stays requests ?_ trivial
      simpa [or_imp, forall_and] using ⟨goesOn, goesOn'⟩
  | ended response heard' ends failed' emptied =>
      rw [failed, Except.error.injEq] at failed'
      refine ⟨past ++ [response], heard.trans heard', ?_⟩
      rw [failed', emptied]
      exact .of_ended requests ⟨response, by simp, ends⟩

theorem Exchanged.of_ok {link : Link library}
    {outcome : Except ClientError Http.Response × Link library} {response : Http.Response}
    (exchanged : Exchanged link outcome) (ok : outcome.1 = .ok response) :
    Heard link outcome.2 [response] ∧ response.status.isSuccess = true ∧
      outcome.2.cache = link.cache := by
  cases exchanged with
  | accepted response' heard success passed kept =>
      rw [ok, Except.ok.injEq] at passed
      exact passed ▸ ⟨heard, success, kept⟩
  | lost _ _ failed | refused _ _ _ _ failed | ended _ _ _ failed =>
      rw [ok] at failed
      cases failed

variable (client : Client) (link : Link library)

theorem login_settles (credentials : Credentials) :
    SettlesBetween (.login credentials) (client.perform (.login credentials) link).1 link
      (client.perform (.login credentials) link).2 := by
  have exchanged :=
    client.exchange_spec .post "/login".toList (some credentials.loginBody) link
  simp only [perform, login_eq]
  generalize client.exchange .post "/login".toList (some credentials.loginBody) link = outcome
    at exchanged
  cases result : outcome.1 with
  | error error => exact exchanged.settles result (.nothing rfl) (by simp) rfl nofun nofun
  | ok response =>
      obtain ⟨heard, success, kept⟩ := exchanged.of_ok result
      refine ⟨[response], heard, ?_⟩
      rw [kept]
      exact .of_kept nofun nofun nofun (by simpa using Http.Response.not_endsSession success) nofun

theorem session_settles :
    SettlesBetween .session (client.perform .session link).1 link
      (client.perform .session link).2 := by
  have exchanged := client.exchange_spec .get "/session".toList none link
  simp only [perform, session_eq]
  generalize client.exchange .get "/session".toList none link = outcome at exchanged
  cases result : outcome.1 with
  | error error => exact exchanged.settles result (.nothing rfl) (by simp) rfl nofun nofun
  | ok response =>
      obtain ⟨heard, success, kept⟩ := exchanged.of_ok result
      refine ⟨[response], heard, ?_⟩
      rw [kept]
      have goesOn : ∀ a ∈ [response], ¬ a.EndsSession := by
        simpa using Http.Response.not_endsSession success
      cases read : readPayload response with
      | error error =>
          simp only [Except.bind, read, Except.map]
          exact .of_failure nofun nofun goesOn (readPayload_harmless read)
      | ok payload =>
          simp only [Except.bind, read, Except.map]
          exact .of_kept nofun nofun nofun goesOn nofun

theorem logout_settles :
    SettlesBetween .logout (client.perform .logout link).1 link (client.perform .logout link).2 := by
  simp only [perform, logout_eq]
  cases client.exchange_spec .post "/logout".toList none link with
  | lost text heard failed =>
      rw [failed]
      refine ⟨[], heard, .of_logout (iff_of_false nofun (by simp)) fun error same => ?_⟩
      cases same
      exact Or.inr trivial
  | accepted response heard success passed =>
      rw [passed]
      refine ⟨[response], heard, .of_logout (iff_of_false nofun ?_) nofun⟩
      simpa using Http.Response.not_endsSession success
  | refused response body heard goesOn failed =>
      rw [failed]
      refine ⟨[response], heard, .of_logout (iff_of_false nofun ?_) fun error same => ?_⟩
      · simpa using goesOn
      · cases same
        exact Or.inr trivial
  | ended response heard ends failed =>
      rw [failed]
      exact ⟨[response], heard, .of_ended nofun ⟨response, by simp, ends⟩⟩

theorem establish_settles (payload : Payload) :
    SettlesBetween (.establish payload) (client.perform (.establish payload) link).1 link
      (client.perform (.establish payload) link).2 :=
  ⟨[], .nothing rfl, .of_establish⟩

theorem signIn_settles (credentials : Credentials) :
    SettlesBetween (.signIn credentials) (client.perform (.signIn credentials) link).1 link
      (client.perform (.signIn credentials) link).2 := by
  have first := client.exchange_spec .post "/login".toList (some credentials.loginBody) link
  simp only [perform, signIn, login_eq]
  generalize client.exchange .post "/login".toList (some credentials.loginBody) link = entry
    at first
  cases entered : entry.1 with
  | error error => exact first.settles entered (.nothing rfl) (by simp) rfl nofun nofun
  | ok login =>
      obtain ⟨heard, entry_success, kept⟩ := first.of_ok entered
      have goesOn : ∀ response ∈ [login], ¬ response.EndsSession := by
        simpa using Http.Response.not_endsSession entry_success
      have second := client.exchange_spec .get "/session".toList none entry.2
      simp only [Except.map, session_eq]
      generalize client.exchange .get "/session".toList none entry.2 = fetch at second
      cases fetched : fetch.1 with
      | error error => exact second.settles fetched heard goesOn kept nofun nofun
      | ok response =>
          obtain ⟨heard', success, kept'⟩ := second.of_ok fetched
          cases read : readPayload response with
          | error error =>
              simp only [Except.bind, read]
              refine ⟨[login] ++ [response], heard.trans heard', ?_⟩
              rw [kept', kept]
              refine .of_failure nofun nofun ?_ (readPayload_harmless read)
              have goesOn' := Http.Response.not_endsSession success
              simpa using ⟨Http.Response.not_endsSession entry_success, goesOn'⟩
          | ok payload =>
              obtain ⟨text, body, parsed⟩ := readPayload_ok_iff.1 read
              simp only [Except.bind, read]
              exact ⟨[login] ++ [response], heard.trans heard',
                .of_signIn entry_success success body parsed⟩

theorem perform_settles (operation : Operation) :
    SettlesBetween operation (client.perform operation link).1 link
      (client.perform operation link).2 := by
  cases operation with
  | login credentials => exact login_settles client link credentials
  | session => exact session_settles client link
  | signIn credentials => exact signIn_settles client link credentials
  | logout => exact logout_settles client link
  | establish payload => exact establish_settles client link payload

/-! ## Runs -/

theorem run_append (past later : List Operation) :
    client.run (past ++ later) link = client.run later (client.run past link) :=
  List.foldl_append

theorem run_settles (past : List Operation) (operation : Operation) :
    SettlesBetween operation (client.perform operation (client.run past link)).1
      (client.run past link) (client.run (past ++ [operation]) link) := by
  rw [run_append]
  exact perform_settles client (client.run past link) operation

def Undisturbed : Link library → List Operation → Prop
  | _, [] => True
  | link, operation :: operations =>
    operation ≠ .logout ∧ (client.perform operation link).1 ≠ .error .invalidSession ∧
      Undisturbed (client.perform operation link).2 operations

theorem Settles.cached {operation : Operation} {responses : List Http.Response}
    {result : Except ClientError Reply} {before : Snapshot} {session : Session}
    (settles : Settles operation responses result before (some session)) :
    result = .ok (.snapshot (some session)) ∨
      before = some session ∧ operation ≠ .logout ∧ result ≠ .error .invalidSession := by
  by_cases loads : result = .ok (.snapshot (some session))
  · exact Or.inl loads
  · have stays : operation ≠ .logout := fun same => nomatch settles.logout_empties same
    have goesOn : result ≠ .error .invalidSession := fun ended =>
      nomatch settles.ended_empties ended
    refine Or.inr ⟨(settles.otherwise_kept stays ?_ goesOn ?_).symm, stays, goesOn⟩
    · exact fun payload same => loads (settles.establish_loads payload same).1
    · intro credentials reply same ok
      obtain ⟨_, _, _, _, _, _, _, _, _, snapshot, _⟩ :=
        settles.signIn_loads credentials reply same ok
      exact loads (ok.trans (congrArg Except.ok snapshot))

theorem run_cached {operations : List Operation} {session : Session}
    (cached : (client.run operations link).cache.current = some session) :
    (link.cache.current = some session ∧ Undisturbed client link operations) ∨
      ∃ past operation later, operations = past ++ operation :: later ∧
        (client.perform operation (client.run past link)).1 = .ok (.snapshot (some session)) ∧
        Undisturbed client (client.perform operation (client.run past link)).2 later := by
  induction operations generalizing link with
  | nil => exact Or.inl ⟨cached, trivial⟩
  | cons operation operations ih =>
      rcases ih (client.perform operation link).2 cached with
        ⟨held, undisturbed⟩ | ⟨past, later, rest, split, loads, undisturbed⟩
      · obtain ⟨responses, -, settles⟩ := perform_settles client link operation
        rw [held] at settles
        rcases settles.cached with loads | ⟨before, stays, goesOn⟩
        · exact Or.inr ⟨[], operation, operations, rfl, loads, undisturbed⟩
        · exact Or.inl ⟨before, stays, goesOn, undisturbed⟩
      · exact Or.inr ⟨operation :: past, later, rest, by rw [split, List.cons_append], loads,
          undisturbed⟩

end Client
end ConsoleAccess
