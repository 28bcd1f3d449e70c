import ConsoleAccess.Command.Run
import ConsoleAccess.Proofs.Client.CachedSession
import ConsoleAccess.Proofs.Http.Addresses
import ConsoleAccess.Proofs.Http.Libraries

/-!
# What whoami asks of the server

A run of `whoami` makes at most three calls, each only after the one before came to a good end
(`Command.Visited`), whatever the library; what it comes to depends on the replies to the first two
alone. The calls have one directory in common, so where the library sends each of them once, the
targets of the requests lie below that of the directory (`Client.target?_of_directory`).

* `Command.whoami_trace`: the calls of a run with its outcome, and the requests.
-/

namespace ConsoleAccess

namespace Client
open Http (Url Response Exchange Method Request Call)

def loginPath : Text := "/login".toList

def sessionPath : Text := "/session".toList

def logoutPath : Text := "/logout".toList

def paths : List Text := [loginPath, sessionPath, logoutPath]

/-! ## The addresses of a client -/

theorem address_eq (client : Client) {path : Text} :
    client.address path = client.base ++ '/' :: ("api/v1".toList ++ path) := by
  have api : apiPath = '/' :: "api/v1".toList := rfl
  rw [address, api, List.append_assoc, List.cons_append]

theorem plain_path : ∀ path ∈ paths, Url.Plain ("api/v1".toList ++ path) := by
  simp only [paths, List.forall_mem_cons]
  exact ⟨Url.plain_of_all rfl, Url.plain_of_all rfl, Url.plain_of_all rfl, nofun⟩

/-- The target below a directory. Behind a fragment the path is lost. -/
def targetBelow (client : Client) (root : Url) (path : Text) : Text :=
  if '#' ∈ client.base then root.target else root.target ++ "api/v1".toList ++ path

theorem parse?_of_directory {client : Client} {root : Url}
    (parsed : Url.parse? (client.base ++ ['/']) = some root) {path : Text}
    (member : path ∈ paths) :
    ∃ url, Url.parse? (client.address path) = some url ∧
      url.target = client.targetBelow root path := by
  have plain := plain_path path member
  rw [address_eq]
  cases Url.reading client.base with
  | unread none => cases parsed.symm.trans (none [] nofun)
  | directory root' parsed' below =>
      cases parsed.symm.trans parsed'
      refine ⟨_, below _ plain, ?_⟩
      rw [targetBelow]
      split
      · rfl
      · rw [Url.target_below, List.append_assoc]
  | hostless _ none => cases parsed.symm.trans none

/-! ## Single calls -/

def verdict : Except Text Response → Except ClientError Response
  | .error text => .error (.network text)
  | .ok response =>
    if response.status.isSuccess then .ok response
    else if Auth.isInvalidSession response.status (response.text.toOption.getD []) then
      .error .invalidSession
    else .error (.refused response.status (response.text.toOption.getD []))

theorem verdict_ok_iff {reply : Except Text Response} {response : Response} :
    verdict reply = .ok response ↔ reply = .ok response ∧ response.status.isSuccess = true := by
  cases reply with
  | error text => simp [verdict]
  | ok own =>
      simp only [verdict, Except.ok.injEq]
      split
      · next success =>
        rw [Except.ok.injEq]
        exact ⟨fun same => ⟨same, same ▸ success⟩, And.left⟩
      · next failed =>
        have other : ¬ (own = response ∧ response.status.isSuccess = true) :=
          fun ⟨same, success⟩ => failed (same ▸ success)
        split <;> simp [other]

theorem fetched_ok_iff {fetched : Except ClientError Response} {p : Payload} :
    fetched.bind readPayload = .ok p ↔
      ∃ response text, fetched = .ok response ∧ response.text = .ok text ∧
        Payload.parse text = .ok p := by
  cases fetched with
  | error e => simp [Except.bind]
  | ok response => simp [Except.bind, readPayload_ok_iff]

variable {library : Http.Library} (client : Client) (link : Link library)

theorem check_verdict (response : Response) : (check response link).1 = verdict (.ok response) := by
  cases success : response.status.isSuccess with
  | true => simp [check_of_success _ success, verdict, success]
  | false =>
      by_cases ends : response.EndsSession
      · simp [check_of_endsSession _ ends, verdict, success,
          isInvalidSession_iff_endsSession.2 ends]
      · have goesOn := mt isInvalidSession_iff_endsSession.1 ends
        simp [check_of_refused _ success ends, verdict, success, goesOn]

theorem exchange_verdict (method : Method) (path : Text) (json? : Option Text) :
    (client.exchange method path json? link).1 =
      verdict (client.called method path json? link).reply := by
  have reply : (client.send method path json? link).1 =
      (client.called method path json? link).reply := rfl
  rw [← reply, exchange]
  obtain ⟨reply, after⟩ := client.send method path json? link
  cases reply with
  | error text => rfl
  | ok response => exact check_verdict after response

def Made (library : Http.Library) (call : Call) (exchange : Exchange) : Prop :=
  ∃ state : library.State, exchange = (library.exchange call state).1

theorem Made.call_eq {call : Call} {exchange : Exchange} (made : Made library call exchange) :
    exchange.call = call := by
  obtain ⟨state, rfl⟩ := made
  rfl

theorem login_made (credentials : Credentials) :
    ∃ exchange, Made library (client.call .post loginPath (some credentials.loginBody)) exchange ∧
      (client.login credentials link).1 = (verdict exchange.reply).map (fun _ => ()) ∧
      (client.login credentials link).2.log = link.log ++ [exchange] := by
  refine ⟨client.called .post loginPath (some credentials.loginBody) link, ⟨_, rfl⟩, ?_, ?_⟩
  · rw [login_eq, ← exchange_verdict]
    rfl
  · rw [login_eq, ← exchange_log]
    rfl

theorem session_made :
    ∃ exchange, Made library (client.call .get sessionPath none) exchange ∧
      (client.session link).1 = (verdict exchange.reply).bind readPayload ∧
      (client.session link).2.log = link.log ++ [exchange] := by
  refine ⟨client.called .get sessionPath none link, ⟨_, rfl⟩, ?_, ?_⟩
  · rw [session_eq, ← exchange_verdict]
    rfl
  · rw [session_eq, ← exchange_log]
    rfl

theorem logout_made :
    ∃ exchange, Made library (client.call .post logoutPath none) exchange ∧
      (client.logout link).2.log = link.log ++ [exchange] := by
  refine ⟨client.called .post logoutPath none link, ⟨_, rfl⟩, ?_⟩
  rw [logout_eq]
  exact client.exchange_log .post logoutPath none link

/-! ## Single requests -/

def asked (request : Request) : Method × Text := (request.method, request.target)

/-- Sent at most once, a call makes for its own target; and it is sent if a response comes. -/
theorem Made.sent {client : Client} {method : Method} {path : Text} {json? : Option Text}
    {exchange : Exchange} {root : Url}
    (made : Made library (client.call method path json?) exchange) (direct : library.Direct)
    (parsed : Url.parse? (client.base ++ ['/']) = some root) (member : path ∈ paths) :
    exchange.requests.map asked = [(method, client.targetBelow root path)] ∨
      exchange.requests = [] ∧ ∀ response, exchange.reply ≠ .ok response := by
  obtain ⟨state, rfl⟩ := made
  obtain ⟨url, own, target⟩ := parse?_of_directory parsed member
  have single := direct.single (client.call method path json?) state
  have goes := direct.method (client.call method path json?) state
  have leads := direct.target (client.call method path json?) state url own
  have answered := direct.answered (client.call method path json?) state
  generalize (library.exchange (client.call method path json?) state).1 = exchange at *
  obtain ⟨call, reply, requests⟩ := exchange
  cases requests with
  | nil => exact .inr ⟨rfl, fun response same => answered response same rfl⟩
  | cons request others =>
      obtain rfl : others = [] := List.eq_nil_of_length_eq_zero (by simpa using single)
      refine .inl ?_
      rw [List.map_singleton, asked, goes request List.mem_cons_self,
        leads request List.mem_cons_self, target]
      rfl

theorem Made.sent_of_accepted {client : Client} {method : Method} {path : Text} {json? : Option Text}
    {exchange : Exchange} {root : Url} {response : Response}
    (made : Made library (client.call method path json?) exchange) (direct : library.Direct)
    (parsed : Url.parse? (client.base ++ ['/']) = some root) (member : path ∈ paths)
    (accepted : verdict exchange.reply = .ok response) :
    exchange.requests.map asked = [(method, client.targetBelow root path)] := by
  rcases made.sent direct parsed member with sent | ⟨-, unanswered⟩
  · exact sent
  · exact absurd (verdict_ok_iff.1 accepted).1 (unanswered response)

end Client

namespace Command
open Client
open Http (Response Exchange Method Request Call)

/-! ## Runs -/

def Accepted (exchange? : Option Exchange) : Prop :=
  ∃ exchange response, exchange? = some exchange ∧ exchange.reply = .ok response ∧
    response.status.isSuccess = true

def Loaded (exchange? : Option Exchange) (p : Payload) : Prop :=
  ∃ exchange response text, exchange? = some exchange ∧ exchange.reply = .ok response ∧
    response.status.isSuccess = true ∧ response.text = .ok text ∧ Payload.parse text = .ok p

/-- The failure of the last of the calls. -/
inductive FirstFailure : List Exchange → ClientError → Prop
  | login {first : Exchange} {e : ClientError} (failed : verdict first.reply = .error e) :
      FirstFailure [first] e
  | session {first second : Exchange} {e : ClientError}
      (failed : (verdict second.reply).bind readPayload = .error e) :
      FirstFailure [first, second] e

def itinerary (client : Client) (credentials : Credentials) : List Call :=
  [client.call .post loginPath (some credentials.loginBody), client.call .get sessionPath none,
    client.call .post logoutPath none]

structure Trace (client : Client) (credentials : Credentials) (exchanges : List Exchange)
    (outcome : Outcome) : Prop where
  order : exchanges.map Exchange.call <+: itinerary client credentials
  login_made : 1 ≤ exchanges.length
  session_iff : 2 ≤ exchanges.length ↔ Accepted exchanges[0]?
  logout_iff : 3 ≤ exchanges.length ↔ ∃ p, Loaded exchanges[1]? p
  success_iff : outcome.exit = 0 ↔ 3 ≤ exchanges.length
  stdout_iff : outcome.stdout ≠ [] ↔ 3 ≤ exchanges.length
  listed (p : Payload) : Loaded exchanges[1]? p →
    outcome = { exit := 0, stdout := Listing.render (some p.session) }
  failed : exchanges.length < 3 →
    ∃ e, outcome = .failed (.client e) ∧ FirstFailure exchanges e

section
variable {library library' : Http.Library} {client client' : Client}
  {credentials credentials' : Credentials} {exchanges exchanges' : List Exchange}
  {outcome outcome' : Outcome}

inductive Visited (library : Http.Library) (client : Client) (credentials : Credentials) :
    List Exchange → Outcome → Prop
  | refused {first : Exchange} {e : ClientError}
      (login : Made library (client.call .post loginPath (some credentials.loginBody)) first)
      (entry : verdict first.reply = .error e) :
      Visited library client credentials [first] (.failed (.client e))
  | unread {first second : Exchange} {response : Response} {e : ClientError}
      (login : Made library (client.call .post loginPath (some credentials.loginBody)) first)
      (entry : verdict first.reply = .ok response)
      (session : Made library (client.call .get sessionPath none) second)
      (fetch : (verdict second.reply).bind readPayload = .error e) :
      Visited library client credentials [first, second] (.failed (.client e))
  | listed {first second third : Exchange} {response : Response} {p : Payload}
      (login : Made library (client.call .post loginPath (some credentials.loginBody)) first)
      (entry : verdict first.reply = .ok response)
      (session : Made library (client.call .get sessionPath none) second)
      (fetch : (verdict second.reply).bind readPayload = .ok p)
      (logout : Made library (client.call .post logoutPath none) third) :
      Visited library client credentials [first, second, third]
        { exit := 0, stdout := Listing.render (some p.session) }

def visit (client : Client) (credentials : Credentials) (link : Link library) :
    Outcome × Link library :=
  match client.signIn credentials link with
  | (.error e, link) => (.failed (.client e), link)
  | (.ok snapshot, link) =>
    ({ exit := 0, stdout := Listing.render snapshot }, (client.logout link).2)

theorem whoami_eq {s : Surroundings library} {path? : Option Text} {config : Config}
    (loaded : loadConfig s path? = .ok config)
    (given : config.credentials s.environment = .ok credentials)
    (built : Client.build library config.url config.timeoutSeconds = .ok client) :
    whoami s path? = visit client credentials s.link := by
  simp only [whoami, loaded, given, built]
  rfl

theorem visit_visited (client : Client) (credentials : Credentials) (link : Link library) :
    ∃ exchanges, (visit client credentials link).2.log = link.log ++ exchanges ∧
      Visited library client credentials exchanges (visit client credentials link).1 := by
  obtain ⟨first, login, entered, log₁⟩ := client.login_made link credentials
  rw [visit, signIn]
  generalize client.login credentials link = entry at entered log₁
  obtain ⟨result₁, after₁⟩ := entry
  simp only at entered log₁
  cases entry : verdict first.reply with
  | error e =>
      obtain rfl : result₁ = .error e := by rw [entered, entry]; rfl
      exact ⟨[first], log₁, .refused login entry⟩
  | ok response =>
      obtain rfl : result₁ = .ok () := by rw [entered, entry]; rfl
      obtain ⟨second, session, fetched, log₂⟩ := client.session_made after₁
      simp only
      generalize client.session after₁ = fetch at fetched log₂
      obtain ⟨result₂, after₂⟩ := fetch
      simp only at fetched log₂
      have log : after₂.log = link.log ++ [first, second] := by
        rw [log₂, log₁, List.append_assoc]
        rfl
      cases result₂ with
      | error e => exact ⟨[first, second], log, .unread login entry session fetched.symm⟩
      | ok p =>
          obtain ⟨third, logout, log₃⟩ := client.logout_made (establish p after₂).2
          refine ⟨[first, second, third], ?_, .listed login entry session fetched.symm logout⟩
          calc (client.logout (establish p after₂).2).2.log
            _ = after₂.log ++ [third] := log₃
            _ = link.log ++ [first, second] ++ [third] := by rw [log]
            _ = link.log ++ [first, second, third] := by simp

theorem accepted_iff {exchange : Exchange} :
    Accepted (some exchange) ↔ ∃ response, verdict exchange.reply = .ok response := by
  simp [Accepted, verdict_ok_iff]

theorem loaded_iff {exchange : Exchange} {p : Payload} :
    Loaded (some exchange) p ↔ (verdict exchange.reply).bind readPayload = .ok p := by
  simp [Loaded, fetched_ok_iff, verdict_ok_iff, and_assoc]

theorem not_loaded_none (p : Payload) : ¬ Loaded none p := by
  rintro ⟨_, _, _, absent, _⟩
  cases absent

theorem render_ne_nil (session : Session) : Listing.render (some session) ≠ [] := by
  have ends (line : Text) : line ++ ['\n'] ≠ [] := by simp
  intro empty
  rw [Listing.render, Listing.lines, List.flatMap_cons] at empty
  exact ends _ (List.append_eq_nil_iff.1 empty).1

namespace Visited

theorem trace (visited : Visited library client credentials exchanges outcome) :
    Trace client credentials exchanges outcome := by
  cases visited with
  | @refused first e login entry =>
      exact
        { order := by simp [itinerary, login.call_eq]
          login_made := Nat.le_refl 1
          session_iff := by simp [accepted_iff, entry]
          logout_iff := by simp [not_loaded_none]
          success_iff := by simp [Outcome.failed]
          stdout_iff := by simp [Outcome.failed]
          listed := by simp [not_loaded_none]
          failed := fun _ => ⟨e, rfl, .login entry⟩ }
  | @unread first second response e login entry session fetch =>
      exact
        { order := by simp [itinerary, login.call_eq, session.call_eq]
          login_made := by simp
          session_iff := by simp [accepted_iff, entry]
          logout_iff := by simp [loaded_iff, fetch]
          success_iff := by simp [Outcome.failed]
          stdout_iff := by simp [Outcome.failed]
          listed := by simp [loaded_iff, fetch]
          failed := fun _ => ⟨e, rfl, .session fetch⟩ }
  | @listed first second third response p login entry session fetch logout =>
      exact
        { order := by simp [itinerary, login.call_eq, session.call_eq, logout.call_eq]
          login_made := by simp
          session_iff := by simp [accepted_iff, entry]
          logout_iff := by simp [loaded_iff, fetch]
          success_iff := by simp
          stdout_iff := by simp [render_ne_nil]
          listed := fun p' read => by
            cases fetch.symm.trans (loaded_iff.1 read)
            rfl
          failed := by simp }

/-- What a run comes to depends on the replies to its first two calls alone. -/
theorem outcome_eq (visited : Visited library client credentials exchanges outcome)
    (visited' : Visited library' client' credentials' exchanges' outcome')
    (same : (exchanges'.map Exchange.reply).take 2 = (exchanges.map Exchange.reply).take 2) :
    outcome' = outcome := by
  cases visited with
  | refused _ entry =>
      cases visited' with
      | refused _ entry' =>
          cases (List.singleton_inj.1 same ▸ entry').symm.trans entry
          rfl
      | unread | listed => simp at same
  | unread _ entry _ fetch =>
      cases visited' with
      | refused => simp at same
      | unread _ _ _ fetch' =>
          obtain ⟨-, second⟩ := by simpa using same
          cases (second ▸ fetch').symm.trans fetch
          rfl
      | listed _ _ _ fetch' =>
          obtain ⟨-, second⟩ := by simpa using same
          cases (second ▸ fetch').symm.trans fetch
  | listed _ entry _ fetch =>
      cases visited' with
      | refused => simp at same
      | unread _ _ _ fetch' =>
          obtain ⟨-, second⟩ := by simpa using same
          cases (second ▸ fetch').symm.trans fetch
      | listed _ _ _ fetch' =>
          obtain ⟨-, second⟩ := by simpa using same
          cases (second ▸ fetch').symm.trans fetch
          rfl

theorem requests_order (visited : Visited library client credentials exchanges outcome)
    (direct : library.Direct) {root : Http.Url}
    (parsed : Http.Url.parse? (client.base ++ ['/']) = some root) :
    (exchanges.flatMap Exchange.requests).map asked <+:
      [(.post, client.targetBelow root loginPath), (.get, client.targetBelow root sessionPath),
        (.post, client.targetBelow root logoutPath)] := by
  cases visited with
  | refused login entry =>
      rcases login.sent direct parsed (by decide) with sent | ⟨unsent, -⟩
      · simp [sent]
      · simp [unsent]
  | unread login entry session fetch =>
      have sent := login.sent_of_accepted direct parsed (by decide) entry
      rcases session.sent direct parsed (by decide) with sent' | ⟨unsent, -⟩
      · simp [sent, sent']
      · simp [sent, unsent]
  | @listed first second third response p login entry session fetch logout =>
      have sent := login.sent_of_accepted direct parsed (by decide) entry
      obtain ⟨response', -, fetched, -⟩ := fetched_ok_iff.1 fetch
      have sent' := session.sent_of_accepted direct parsed (by decide) fetched
      rcases logout.sent direct parsed (by decide) with sent'' | ⟨unsent, -⟩
      · simp [sent, sent', sent'']
      · simp [sent, sent', unsent]

end Visited
end

theorem loadConfig_congr {library library' : Http.Library} {s : Surroundings library}
    {s' : Surroundings library'} (files : s'.files = s.files) (path? : Option Text) :
    loadConfig s' path? = loadConfig s path? := by
  rw [loadConfig, loadConfig, files]

theorem build_congr {library library' : Http.Library} (start : library'.start = library.start)
    (url : Text) (timeoutSeconds : Nat) :
    Client.build library' url timeoutSeconds = Client.build library url timeoutSeconds := by
  rw [Client.build, Client.build, start]

theorem whoami_trace (library : Http.Library) (s : Surroundings library) (path? : Option Text) :
    (∀ e, loadConfig s path? = .error e → whoami s path? = (.failed (.config e), s.link)) ∧
    ∀ config, loadConfig s path? = .ok config →
      (∀ e, config.credentials s.environment = .error e →
        whoami s path? = (.failed (.config e), s.link)) ∧
      ∀ credentials, config.credentials s.environment = .ok credentials →
        (∀ e, Client.build library config.url config.timeoutSeconds = .error e →
          whoami s path? = (.failed (.client e), s.link)) ∧
        ∀ client, Client.build library config.url config.timeoutSeconds = .ok client →
          ∃ exchanges, (whoami s path?).2.log = s.link.log ++ exchanges ∧
            Trace client credentials exchanges (whoami s path?).1 ∧
            (∀ (library' : Http.Library) (s' : Surroundings library'),
              library'.start = library.start → s'.files = s.files →
              s'.environment = s.environment →
              ∀ exchanges', (whoami s' path?).2.log = s'.link.log ++ exchanges' →
                (exchanges'.map Exchange.reply).take 2 = (exchanges.map Exchange.reply).take 2 →
                (whoami s' path?).1 = (whoami s path?).1) ∧
            ∀ root, Http.Url.parse? (client.base ++ ['/']) = some root →
              (∀ path ∈ Client.paths, ∃ url, Http.Url.parse? (client.address path) = some url ∧
                url.target = client.targetBelow root path) ∧
              (library.Direct → (exchanges.flatMap Exchange.requests).map asked <+:
                [(.post, client.targetBelow root loginPath),
                  (.get, client.targetBelow root sessionPath),
                  (.post, client.targetBelow root logoutPath)]) := by
  refine ⟨fun e failed => by rw [whoami, failed], fun config loaded => ⟨fun e failed => ?_, ?_⟩⟩
  · simp only [whoami, loaded, failed]
  intro credentials given
  refine ⟨fun e failed => by simp only [whoami, loaded, given, failed], fun client built => ?_⟩
  rw [whoami_eq loaded given built]
  obtain ⟨exchanges, log, visited⟩ := visit_visited client credentials s.link
  refine ⟨exchanges, log, visited.trace, ?unheard, fun root parsed => ⟨?targets, ?requests⟩⟩
  case unheard =>
    intro library' s' start files environment exchanges' log' same
    have loaded' := (loadConfig_congr files path?).trans loaded
    have given' : config.credentials s'.environment = .ok credentials := environment ▸ given
    have built' := (build_congr start config.url config.timeoutSeconds).trans built
    rw [whoami_eq loaded' given' built'] at log' ⊢
    obtain ⟨own, own_log, visited'⟩ := visit_visited client credentials s'.link
    obtain rfl : own = exchanges' := List.append_cancel_left (own_log.symm.trans log')
    exact visited.outcome_eq visited' same
  case targets => exact fun path member => parse?_of_directory parsed member
  case requests => exact fun direct => visited.requests_order direct parsed

/-- A server under a path, which lets the user in and gives a session; it does not answer the logout,
or it answers it. -/
theorem whoami_trace_below_path :
    let config := "[server]\nurl = 'http://localhost:9090/console/'".toUTF8.toList
    let accepted (body : String) : Option Http.Answer :=
      some { status := ⟨200⟩, cookies := [], body := body.toUTF8.toList, cutShort := false }
    let origin : Http.Origin := { secure := false, host := .name "localhost".toList, port := 9090 }
    let s := fun last : Option Http.Answer =>
      let server : Http.Server := { origin, script := [accepted "", accepted "\x7b\x7d", last] }
      { files := fun _ => .bytes config
        environment := { accessKey := some "key".toList, secretKey := some "secret".toList }
        link := { state := { server } } : Surroundings Http.scripted }
    let client : Client := { base := "http://localhost:9090/console".toList }
    (whoami (s none) none).2.log.map Exchange.call =
        itinerary client ⟨"key".toList, "secret".toList⟩ ∧
      (whoami (s none) none).2.received.map asked =
        [(.post, "/console/api/v1/login".toList), (.get, "/console/api/v1/session".toList),
          (.post, "/console/api/v1/logout".toList)] ∧
      (whoami (s none) none).1 = { exit := 0, stdout := Listing.render (some (.ofIdentity [])) } ∧
      (whoami (s (accepted "")) none).1 = (whoami (s none) none).1 := by
  intro config accepted origin s client
  let root : Http.Url := { origin, path := "/console/".toList, query := none }
  have loaded : loadConfig (s none) none = .ok { url := "http://localhost:9090/console/".toList } := by
    decide +kernel
  have given : Config.credentials { url := "http://localhost:9090/console/".toList }
      (s none).environment = .ok ⟨"key".toList, "secret".toList⟩ := rfl
  have built : Client.build Http.scripted "http://localhost:9090/console/".toList 30 =
      .ok client := by decide +kernel
  have parsed : Http.Url.parse? (client.base ++ ['/']) = some root := by decide +kernel
  obtain ⟨exchanges, log, trace, unheard, below⟩ :=
    (((whoami_trace Http.scripted (s none) none).2 _ loaded).2 _ given).2 client built
  obtain ⟨-, order⟩ := below root parsed
  have prefixed := order Http.scripted_direct
  obtain rfl : exchanges = (whoami (s none) none).2.log := log.symm
  have listed : (whoami (s none) none).1.exit = 0 := by decide +kernel
  have third := trace.success_iff.1 listed
  have fetched : Loaded (whoami (s none) none).2.log[1]? {} := by
    have heard : (whoami (s none) none).2.log[1]?.map Exchange.reply =
        some (.ok { status := ⟨200⟩, text := .ok "\x7b\x7d".toList }) := by decide +kernel
    obtain ⟨exchange, second, reply⟩ := Option.map_eq_some_iff.1 heard
    exact ⟨exchange, _, _, second, reply, rfl, rfl, rfl⟩
  refine ⟨?_, ?_, trace.listed {} fetched, ?_⟩
  · refine trace.order.eq_of_length_le ?_
    rw [List.length_map]
    exact third
  · have sent : (whoami (s none) none).2.received.length = 3 := by decide +kernel
    refine (prefixed.eq_of_length ?_).trans ?_
    · rw [List.length_map]
      exact sent
    · decide +kernel
  · exact unheard Http.scripted (s (accepted "")) rfl rfl rfl _ rfl (by decide +kernel)

/-- Behind a fragment all three requests go to one target, and redirects lead to another one. -/
theorem whoami_requests_elsewhere :
    let accepted (body : String) : Option Http.Answer :=
      some { status := ⟨200⟩, cookies := [], body := body.toUTF8.toList, cutShort := false }
    let server : Http.Server :=
      { origin := { secure := false, host := .name "localhost".toList, port := 9090 }
        script := [accepted "", accepted "\x7b\x7d", accepted ""] }
    let environment : Environment :=
      { accessKey := some "key".toList, secretKey := some "secret".toList }
    let fragment : Surroundings Http.scripted :=
      { files := fun _ => .bytes "[server]\nurl = 'http://localhost:9090/#'".toUTF8.toList
        environment
        link := { state := { server } } }
    let redirected : Surroundings (Http.mirrored ⟨⟨200⟩, .ok "\x7b\x7d".toList⟩) :=
      { files := fun _ => .missing, environment, link := { state := () } }
    let plan := [(Method.post, "/api/v1/login".toList), (.get, "/api/v1/session".toList),
      (.post, "/api/v1/logout".toList)]
    ((whoami fragment none).2.received.map asked =
        [(.post, "/".toList), (.get, "/".toList), (.post, "/".toList)] ∧
      (whoami fragment none).1.exit = 0 ∧ ¬ (whoami fragment none).2.received.map asked <+: plan) ∧
    (whoami redirected none).2.received.map asked =
      plan.flatMap (fun request => [request, (request.1, "/mirror".toList)]) ∧
      (whoami redirected none).1.exit = 0 ∧
      ¬ (whoami redirected none).2.received.map asked <+: plan := by
  decide +kernel

end Command
end ConsoleAccess
