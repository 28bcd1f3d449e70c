import ConsoleAccess.Client.Basic

/-!
# Single exchanges

Every operation of a client but `establish` is made of exchanges: a call is made and its response is
checked. Nothing is assumed of the library, so a call may come to anything (`Client.called`).
`Client.exchange_spec` says what an exchange can come to, with the responses heard meanwhile, which
the logs fix (`Heard.unique`), and what the cache then holds; `login_eq`, `session_eq` and
`logout_eq` give the operations in terms of exchanges, so that no later proof opens `send` or
`check`.
-/

namespace ConsoleAccess

def Http.Response.EndsSession (response : Http.Response) : Prop :=
  response.status = .forbidden ∧
    ∃ text, response.text = .ok text ∧ Auth.isInvalidSession response.status text = true

theorem Http.Response.EndsSession.not_success {response : Http.Response}
    (ends : response.EndsSession) : response.status.isSuccess = false := by
  rw [ends.1]
  rfl

theorem Http.Response.not_endsSession {response : Http.Response}
    (success : response.status.isSuccess = true) : ¬ response.EndsSession := by
  intro ends
  rw [ends.not_success] at success
  exact Bool.false_ne_true success

variable {library : Http.Library}

def Heard (before after : Link library) (responses : List Http.Response) : Prop :=
  ∃ exchanges, after.log = before.log ++ exchanges ∧
    responses = exchanges.filterMap fun exchange => exchange.reply.toOption

namespace Heard
variable {first second third : Link library} {responses more : List Http.Response}

theorem nothing {before after : Link library} (same : after.log = before.log) :
    Heard before after [] := ⟨[], by rw [same, List.append_nil], rfl⟩

theorem trans (heard : Heard first second responses) (next : Heard second third more) :
    Heard first third (responses ++ more) := by
  obtain ⟨exchanges, log, rfl⟩ := heard
  obtain ⟨exchanges', log', rfl⟩ := next
  refine ⟨exchanges ++ exchanges', ?_, List.filterMap_append.symm⟩
  rw [log', log, List.append_assoc]

theorem unique (heard : Heard first second responses) (heard' : Heard first second more) :
    responses = more := by
  obtain ⟨exchanges, log, rfl⟩ := heard
  obtain ⟨exchanges', log', rfl⟩ := heard'
  rw [log, List.append_right_inj] at log'
  rw [log']

end Heard

def Link.received (link : Link library) : List Http.Request :=
  link.log.flatMap fun exchange => exchange.requests

theorem Link.received_of_log {before after : Link library} {exchange : Http.Exchange}
    (log : after.log = before.log ++ [exchange]) :
    after.received = before.received ++ exchange.requests := by
  simp [received, log]

namespace Client
variable (client : Client) (method : Http.Method) (path : Text) (json? : Option Text)
  (link : Link library)

/-! ## Calls -/

def called : Http.Exchange := (library.exchange (client.call method path json?) link.state).1

theorem send_heard :
    Heard link (client.send method path json? link).2
      (client.send method path json? link).1.toOption.toList := by
  refine ⟨[client.called method path json? link], rfl, ?_⟩
  have reply : (client.send method path json? link).1 =
      (client.called method path json? link).reply := rfl
  rw [reply]
  cases made : (client.called method path json? link).reply <;> simp [made, Except.toOption]

/-! ## Checked responses -/

theorem isInvalidSession_nil (status : Http.Status) : Auth.isInvalidSession status [] = false := by
  have unread : Json.Tree.read? [] = none := by decide
  simp [Auth.isInvalidSession, unread]

theorem isInvalidSession_iff_endsSession {response : Http.Response} :
    Auth.isInvalidSession response.status (response.text.toOption.getD []) = true ↔
      response.EndsSession := by
  cases body : response.text with
  | error text => simp [Http.Response.EndsSession, body, Except.toOption, isInvalidSession_nil]
  | ok text =>
      simp only [Except.toOption, Option.getD_some, Http.Response.EndsSession, body,
        Except.ok.injEq, exists_eq_left', iff_and_self]
      intro ends
      rw [Auth.isInvalidSession, Bool.and_eq_true, beq_iff_eq] at ends
      exact ends.1

section
variable {response : Http.Response}

theorem check_of_success (success : response.status.isSuccess = true) :
    check response link = (.ok response, link) := by
  rw [check, if_pos success]

theorem check_of_endsSession (ends : response.EndsSession) :
    check response link = (.error .invalidSession, { link with cache := {} }) := by
  simp [check, ends.not_success, Auth.observe, isInvalidSession_iff_endsSession.2 ends, Auth.finish,
    Cache.apply]

theorem check_of_refused (failed : response.status.isSuccess = false)
    (goesOn : ¬ response.EndsSession) :
    check response link =
      (.error (.refused response.status (response.text.toOption.getD [])), link) := by
  have proceeds := mt isInvalidSession_iff_endsSession.1 goesOn
  simp [check, failed, Auth.observe, proceeds]

theorem check_log : (check response link).2.log = link.log := by
  cases success : response.status.isSuccess with
  | true => rw [check_of_success link success]
  | false =>
      by_cases ends : response.EndsSession
      · rw [check_of_endsSession link ends]
      · rw [check_of_refused link success ends]

end

def exchange : Except ClientError Http.Response × Link library :=
  match client.send method path json? link with
  | (.error text, link) => (.error (.network text), link)
  | (.ok response, link) => check response link

theorem exchange_log :
    (client.exchange method path json? link).2.log =
      link.log ++ [client.called method path json? link] := by
  have log : (client.send method path json? link).2.log =
      link.log ++ [client.called method path json? link] := rfl
  rw [← log, exchange]
  obtain ⟨reply, after⟩ := client.send method path json? link
  cases reply with
  | error text => rfl
  | ok response => exact check_log after

inductive Exchanged (before : Link library)
    (outcome : Except ClientError Http.Response × Link library) : Prop
  | lost (text : Text) (heard : Heard before outcome.2 [])
      (failed : outcome.1 = .error (.network text)) (kept : outcome.2.cache = before.cache)
  | accepted (response : Http.Response) (heard : Heard before outcome.2 [response])
      (success : response.status.isSuccess = true) (passed : outcome.1 = .ok response)
      (kept : outcome.2.cache = before.cache)
  | refused (response : Http.Response) (body : Text) (heard : Heard before outcome.2 [response])
      (goesOn : ¬ response.EndsSession)
      (failed : outcome.1 = .error (.refused response.status body))
      (kept : outcome.2.cache = before.cache)
  | ended (response : Http.Response) (heard : Heard before outcome.2 [response])
      (ends : response.EndsSession) (failed : outcome.1 = .error .invalidSession)
      (emptied : outcome.2.cache = {})

theorem exchange_spec : Exchanged link (client.exchange method path json? link) := by
  have heard := client.send_heard method path json? link
  have kept : (client.send method path json? link).2.cache = link.cache := rfl
  unfold exchange
  generalize client.send method path json? link = sent at heard kept
  obtain ⟨reply, link'⟩ := sent
  cases reply with
  | error text => exact .lost text heard rfl kept
  | ok response =>
      cases success : response.status.isSuccess with
      | true =>
          simp only [check_of_success link' success]
          exact .accepted response heard success rfl kept
      | false =>
          by_cases ends : response.EndsSession
          · simp only [check_of_endsSession link' ends]
            exact .ended response heard ends rfl rfl
          · simp only [check_of_refused link' success ends]
            exact .refused response _ heard ends rfl kept

/-! ## Operations as exchanges -/

theorem login_eq (credentials : Credentials) :
    client.login credentials link =
      ((client.exchange .post "/login".toList (some credentials.loginBody) link).1.map fun _ => (),
        (client.exchange .post "/login".toList (some credentials.loginBody) link).2) := by
  unfold login exchange
  obtain ⟨reply, link⟩ := client.send .post "/login".toList (some credentials.loginBody) link
  cases reply with
  | error text => rfl
  | ok response =>
      cases checked : check response link with
      | mk result link' => cases result <;> simp [checked, Except.map]

theorem session_eq :
    client.session link =
      ((client.exchange .get "/session".toList none link).1.bind readPayload,
        (client.exchange .get "/session".toList none link).2) := by
  unfold session exchange
  obtain ⟨reply, link⟩ := client.send .get "/session".toList none link
  cases reply with
  | error text => rfl
  | ok response =>
      cases checked : check response link with
      | mk result link' => cases result <;> simp [checked, Except.bind]

theorem logout_eq :
    client.logout link =
      ((client.exchange .post "/logout".toList none link).1.map fun _ => (),
        { (client.exchange .post "/logout".toList none link).2 with cache := {} }) := by
  unfold logout exchange
  obtain ⟨reply, link⟩ := client.send .post "/logout".toList none link
  cases reply with
  | error text => rfl
  | ok response =>
      simp only
      cases success : response.status.isSuccess with
      | true => simp [check_of_success _ success, Except.map, Auth.finish, Cache.apply]
      | false =>
          by_cases ends : response.EndsSession
          · simp [check_of_endsSession _ ends, Except.map]
          · simp [check_of_refused _ success ends, Except.map, Auth.finish, Cache.apply]

end Client
end ConsoleAccess
