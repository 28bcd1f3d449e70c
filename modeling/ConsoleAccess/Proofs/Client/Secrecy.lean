import ConsoleAccess.Command.Run
import ConsoleAccess.Proofs.Client.Exchange
import ConsoleAccess.Proofs.Http.Libraries
import Mathlib.Data.List.Forall2

/-!
# How far the secret key reaches

Two runs whose credentials differ in the secret keys alone are compared, over a library that looks at
nothing in the bodies of calls. Their links stay `Alike`: they differ in what the calls for logins
carried and in nothing else. A step keeps this and gives the same result in both runs, since nothing
reads what was sent. Where the body of a login goes is the library's affair: behind a fragment, and
by redirects, it goes to other paths (`secret_beyond_login`).

* `Client.secret_unseen`: what nobody but the servers can learn of the secret key.
-/

namespace ConsoleAccess

/-- Configurations that differ in the secret key alone, which both of them have. -/
def Config.SameButSecret (c c' : Config) : Prop :=
  c.secretKey.isSome ∧ ∃ secret, c' = { c with secretKey := some secret }

namespace Client
variable {library : Http.Library} {client : Client} {link link' : Link library}
  {method : Http.Method} {path : Text} {json? json'? : Option Text}

/-! ## Two runs -/

inductive Operation.SameButSecret : Operation → Operation → Prop
  | login {c c' : Credentials} (same : c.accessKey = c'.accessKey) :
      SameButSecret (.login c) (.login c')
  | session : SameButSecret .session .session
  | signIn {c c' : Credentials} (same : c.accessKey = c'.accessKey) :
      SameButSecret (.signIn c) (.signIn c')
  | logout : SameButSecret .logout .logout
  | establish (payload : Payload) : SameButSecret (.establish payload) (.establish payload)

/-- Equal exchanges, or logins with credentials of one access key and the same reply: the requests
for these differ in what they carry of the two bodies. -/
inductive SameButLoginBody (client : Client) : Http.Exchange → Http.Exchange → Prop
  | equal (exchange : Http.Exchange) : SameButLoginBody client exchange exchange
  | login {c c' : Credentials} (same : c.accessKey = c'.accessKey)
      (reply : Except Text Http.Response) {requests requests' : List Http.Request}
      (carried : List.Forall₂ (Http.Carried c.loginBody c'.loginBody) requests requests') :
      SameButLoginBody client
        { call := client.call .post "/login".toList (some c.loginBody), reply, requests }
        { call := client.call .post "/login".toList (some c'.loginBody), reply
          requests := requests' }

def transcript (client : Client) :
    List Operation → Link library → List (Except ClientError Reply × Snapshot)
  | [], _ => []
  | operation :: operations, link =>
    let (result, link) := client.perform operation link
    (result, link.cache.get) :: transcript client operations link

structure Alike (client : Client) (link link' : Link library) : Prop where
  state_eq : link'.state = link.state
  cache_eq : link'.cache = link.cache
  log : List.Forall₂ client.SameButLoginBody link.log link'.log

def SameOutcome {α : Type} (client : Client) (outcome outcome' : α × Link library) : Prop :=
  outcome.1 = outcome'.1 ∧ client.Alike outcome.2 outcome'.2

theorem SameOutcome.map {α β : Type} {outcome outcome' : α × Link library}
    (same : client.SameOutcome outcome outcome') (f : α → β) :
    client.SameOutcome (f outcome.1, outcome.2) (f outcome'.1, outcome'.2) :=
  ⟨congrArg f same.1, same.2⟩

theorem SameOutcome.split {α : Type} {outcome outcome' : α × Link library}
    (same : client.SameOutcome outcome outcome') :
    ∃ result first second, outcome = (result, first) ∧ outcome' = (result, second) ∧
      client.Alike first second :=
  ⟨outcome.1, outcome.2, outcome'.2, rfl, by rw [same.1], same.2⟩

theorem Alike.refl (client : Client) (link : Link library) : client.Alike link link :=
  ⟨rfl, rfl, List.forall₂_same.2 fun exchange _ => .equal exchange⟩

theorem Alike.withCache (alike : client.Alike link link') (cache : Cache) :
    client.Alike { link with cache } { link' with cache } :=
  ⟨alike.state_eq, rfl, alike.log⟩

/-! ## Calls -/

inductive SameContent : Http.Method → Text → Option Text → Option Text → Prop
  | equal (method : Http.Method) (path : Text) (json? : Option Text) :
      SameContent method path json? json?
  | login {c c' : Credentials} (same : c.accessKey = c'.accessKey) :
      SameContent .post "/login".toList (some c.loginBody) (some c'.loginBody)

theorem Alike.send (alike : client.Alike link link') (blind : library.BlindToBodies)
    (content : SameContent method path json? json'?) :
    client.SameOutcome (client.send method path json? link)
      (client.send method path json'? link') := by
  obtain ⟨state, cache, log⟩ := alike
  cases content with
  | equal =>
      simp only [Client.send, state]
      exact ⟨rfl, rfl, cache, List.rel_append log (.cons (.equal _) .nil)⟩
  | @login c c' same =>
      obtain ⟨reply, requests, requests', after, sent, sent', carried⟩ :=
        blind (client.call .post "/login".toList none) c.loginBody c'.loginBody link.state
      have first : library.send (client.call .post "/login".toList (some c.loginBody)) link.state =
        (reply, requests, after) := sent
      have second : library.send (client.call .post "/login".toList (some c'.loginBody))
        link.state = (reply, requests', after) := sent'
      simp only [Client.send, Http.Library.exchange, state, first, second]
      exact ⟨rfl, rfl, cache, List.rel_append log (.cons (.login same reply carried) .nil)⟩

theorem Alike.check (alike : client.Alike link link') (response : Http.Response) :
    client.SameOutcome (check response link) (check response link') := by
  cases success : response.status.isSuccess with
  | true => simpa only [check_of_success _ success] using ⟨rfl, alike⟩
  | false =>
      by_cases ends : response.EndsSession
      · simpa only [check_of_endsSession _ ends] using ⟨rfl, alike.withCache {}⟩
      · simpa only [check_of_refused _ success ends] using ⟨rfl, alike⟩

theorem Alike.exchange (alike : client.Alike link link') (blind : library.BlindToBodies)
    (content : SameContent method path json? json'?) :
    client.SameOutcome (client.exchange method path json? link)
      (client.exchange method path json'? link') := by
  obtain ⟨reply, first, second, sent, sent', alike⟩ := (alike.send blind content).split
  simp only [Client.exchange, sent, sent']
  cases reply with
  | error text => exact ⟨rfl, alike⟩
  | ok response => exact alike.check response

/-! ## Steps -/

theorem Alike.login (alike : client.Alike link link') (blind : library.BlindToBodies)
    {c c' : Credentials} (same : c.accessKey = c'.accessKey) :
    client.SameOutcome (client.login c link) (client.login c' link') := by
  rw [login_eq, login_eq]
  exact (alike.exchange blind (.login same)).map (Except.map fun _ => ())

theorem Alike.session (alike : client.Alike link link') (blind : library.BlindToBodies) :
    client.SameOutcome (client.session link) (client.session link') := by
  rw [session_eq, session_eq]
  exact (alike.exchange blind (.equal ..)).map (Except.bind · readPayload)

theorem Alike.logout (alike : client.Alike link link') (blind : library.BlindToBodies) :
    client.SameOutcome (client.logout link) (client.logout link') := by
  rw [logout_eq, logout_eq]
  have exchanged := alike.exchange blind (.equal .post "/logout".toList none)
  exact ⟨congrArg (Except.map fun _ => ()) exchanged.1, exchanged.2.withCache {}⟩

theorem Alike.establish (alike : client.Alike link link') (payload : Payload) :
    client.SameOutcome (establish payload link) (establish payload link') := by
  simp only [Client.establish, alike.cache_eq]
  exact ⟨rfl, alike.withCache _⟩

theorem Alike.signIn (alike : client.Alike link link') (blind : library.BlindToBodies)
    {c c' : Credentials} (same : c.accessKey = c'.accessKey) :
    client.SameOutcome (client.signIn c link) (client.signIn c' link') := by
  obtain ⟨result, first, second, loggedIn, loggedIn', alike⟩ := (alike.login blind same).split
  simp only [Client.signIn, loggedIn, loggedIn']
  cases result with
  | error e => exact ⟨rfl, alike⟩
  | ok done =>
      obtain ⟨result, first, second, fetched, fetched', alike⟩ := (alike.session blind).split
      simp only [fetched, fetched']
      cases result with
      | error e => exact ⟨rfl, alike⟩
      | ok payload => exact (alike.establish payload).map Except.ok

theorem Alike.perform (alike : client.Alike link link') (blind : library.BlindToBodies)
    {operation operation' : Operation} (same : operation.SameButSecret operation') :
    client.SameOutcome (client.perform operation link) (client.perform operation' link') := by
  cases same with
  | login same => exact (alike.login blind same).map (Except.map fun _ => Reply.done)
  | session => exact (alike.session blind).map (Except.map Reply.payload)
  | signIn same => exact (alike.signIn blind same).map (Except.map Reply.snapshot)
  | logout => exact (alike.logout blind).map (Except.map fun _ => Reply.done)
  | establish payload => exact (alike.establish payload).map (Except.ok ∘ Reply.snapshot)

theorem Alike.run (alike : client.Alike link link') (blind : library.BlindToBodies)
    {operations operations' : List Operation}
    (same : List.Forall₂ Operation.SameButSecret operations operations') :
    client.transcript operations link = client.transcript operations' link' ∧
      client.Alike (client.run operations link) (client.run operations' link') := by
  -- After the first login the links differ, so the induction is over alike links, not equal ones.
  induction same generalizing link link' with
  | nil => exact ⟨rfl, alike⟩
  | @cons operation operation' operations operations' first rest ih =>
      obtain ⟨result, alike⟩ := alike.perform blind first
      obtain ⟨later, alike'⟩ := ih alike
      refine ⟨?_, alike'⟩
      simp only [transcript, result, alike.cache_eq, later]

end Client

/-! ## Signing in by a configuration -/

theorem Config.credentials_of_sameButSecret {c c' : Config} {env env' : Environment}
    (alike : c.SameButSecret c') (owner : env.accessKey = env'.accessKey) :
    (c.credentials env = .error .incompleteCredentials ∧
      c'.credentials env' = .error .incompleteCredentials) ∨
    ∃ k k' : Credentials, k.accessKey = k'.accessKey ∧
      c.credentials env = .ok k ∧ c'.credentials env' = .ok k' := by
  obtain ⟨present, secret', rfl⟩ := alike
  obtain ⟨secret, held⟩ := Option.isSome_iff_exists.1 present
  cases key : env'.accessKey.or c.accessKey with
  | none => simp [credentials, owner, key, held]
  | some accessKey => simp [credentials, owner, key, held]

theorem Command.whoami_of_sameButSecret {library : Http.Library} (blind : library.BlindToBodies)
    {s s' : Surroundings library} {path path' : Option Text} {config config' : Config}
    (link : s.link = s'.link) (owner : s.environment.accessKey = s'.environment.accessKey)
    (loaded : loadConfig s path = .ok config) (loaded' : loadConfig s' path' = .ok config')
    (alike : config.SameButSecret config') : (whoami s path).1 = (whoami s' path').1 := by
  have built : Client.build library config'.url config'.timeoutSeconds =
      Client.build library config.url config.timeoutSeconds := by
    obtain ⟨-, secret, rfl⟩ := alike
    rfl
  simp only [whoami, loaded, loaded', built, ← link]
  rcases Config.credentials_of_sameButSecret alike owner with
    ⟨missing, missing'⟩ | ⟨k, k', same, given, given'⟩
  · simp only [missing, missing']
  · simp only [given, given']
    cases Client.build library config.url config.timeoutSeconds with
    | error e => rfl
    | ok client =>
        obtain ⟨result, first, second, signedIn, signedIn', -⟩ :=
          ((Client.Alike.refl client s.link).signIn blind same).split
        simp only [signedIn, signedIn']
        cases result <;> rfl

namespace Client
open Command (Surroundings loadConfig whoami)

/-- Whatever the secret key is, all results, cached sessions and texts are the same, and so are all
calls and requests but for the bodies of logins; and so is all that `whoami` shows. -/
theorem secret_unseen (library : Http.Library) (blind : library.BlindToBodies) :
    (∀ (client : Client) (link : Link library) (operations operations' : List Operation),
      List.Forall₂ Operation.SameButSecret operations operations' →
        client.transcript operations link = client.transcript operations' link ∧
        (client.run operations link).state = (client.run operations' link).state ∧
        List.Forall₂ client.SameButLoginBody (client.run operations link).log
          (client.run operations' link).log) ∧
    (∀ c c' : Credentials, c.accessKey = c'.accessKey →
      c.display = c'.display ∧ c.describe = c'.describe ∧ c.describeLines = c'.describeLines) ∧
    (∀ (s s' : Surroundings library) (path path' : Option Text) (config config' : Config),
      s.link = s'.link → s.environment.accessKey = s'.environment.accessKey →
      loadConfig s path = .ok config → loadConfig s' path' = .ok config' →
      config.SameButSecret config' → (whoami s path).1 = (whoami s' path').1) := by
  refine ⟨?runs, ?texts, ?commands⟩
  case runs =>
    intro client link operations operations' same
    obtain ⟨results, alike⟩ := (Alike.refl client link).run blind same
    exact ⟨results, alike.state_eq.symm, alike.log⟩
  case texts =>
    intro c c' same
    unfold Credentials.display Credentials.describe Credentials.describeLines
    rw [same]
    exact ⟨rfl, rfl, rfl⟩
  case commands =>
    intro s s' path path' config config' link owner loaded loaded' alike
    exact Command.whoami_of_sameButSecret blind link owner loaded loaded' alike

/-- Two secret keys that only the bodies of the logins tell apart. -/
theorem secret_unseen_but_in_login :
    let client : Client := { base := "http://localhost:9090".toList }
    let server : Http.Server :=
      { origin := { secure := false, host := .name "localhost".toList, port := 9090 }
        script :=
          [some { status := ⟨200⟩, cookies := ["token=1".toList], body := [], cutShort := false },
            some { status := ⟨200⟩, cookies := [], body := "[\"alice\"]".toUTF8.toList
                   cutShort := false }] }
    let link : Link Http.scripted := { state := { server } }
    let credentials := fun secret : String => Credentials.mk "key".toList secret.toList
    let operations := fun secret => [Operation.signIn (credentials secret), .logout]
    let run := fun secret => client.run (operations secret) link
    let surroundings := fun secret : String =>
      let file := "[credentials]\naccess_key = 'key'\nsecret_key = '" ++ secret ++ "'"
      Surroundings.mk (fun _ => .bytes file.toUTF8.toList) {} link
    client.transcript (operations "one") link = client.transcript (operations "two") link ∧
      List.Forall₂ client.SameButLoginBody (run "one").log (run "two").log ∧
      (run "one").received ≠ (run "two").received ∧
      (credentials "one").describe = (credentials "two").describe ∧
      (whoami (surroundings "one") none).1 = (whoami (surroundings "two") none).1 ∧
      (whoami (surroundings "one") none).1.exit = 0 := by
  intro client server link credentials operations run surroundings
  obtain ⟨runs, texts, commands⟩ := secret_unseen Http.scripted Http.scripted_blindToBodies
  have alike : List.Forall₂ Operation.SameButSecret (operations "one") (operations "two") :=
    .cons (.signIn rfl) (.cons .logout .nil)
  obtain ⟨results, -, calls⟩ := runs client link _ _ alike
  have told : (run "one").received ≠ (run "two").received := by decide +kernel
  have loaded : loadConfig (surroundings "one") none =
      .ok { accessKey := some "key".toList, secretKey := some "one".toList } := by
    decide +kernel
  have loaded' : loadConfig (surroundings "two") none =
      .ok { accessKey := some "key".toList, secretKey := some "two".toList } := by
    decide +kernel
  have listed : (whoami (surroundings "one") none).1.exit = 0 := by decide +kernel
  refine ⟨results, calls, told, (texts (credentials "one") (credentials "two") rfl).2.1, ?_, listed⟩
  exact commands _ _ none none _ _ rfl rfl loaded loaded' ⟨rfl, "two".toList, rfl⟩

/-! ## Beyond the path for logins -/

/-- Requests that are no posts to the path for logins tell two secret keys apart: behind a fragment a
login goes to the root, and a redirect takes its body to another path. -/
theorem secret_beyond_login :
    let operations := fun secret : String => [Operation.login ⟨"key".toList, secret.toList⟩]
    let Confined := fun received : String → List Http.Request =>
      ∀ pair ∈ (received "one").zip (received "two"), pair.1 = pair.2 ∨
        pair.1.method = .post ∧ pair.1.target = "/api/v1/login".toList
    let server : Http.Server :=
      { origin := { secure := false, host := .name "localhost".toList, port := 9090 }
        script := [some { status := ⟨204⟩, cookies := [], body := [], cutShort := false }] }
    let inMemory : Link Http.scripted := { state := { server } }
    let redirected : Link (Http.mirrored { status := ⟨204⟩, text := .ok [] }) := { state := () }
    ¬ Confined (fun secret =>
        (run { base := "http://localhost:9090/#".toList } (operations secret) inMemory).received) ∧
      (Http.mirrored { status := ⟨204⟩, text := .ok [] }).BlindToBodies ∧
      ¬ Confined (fun secret =>
        (run { base := "http://localhost:9090".toList } (operations secret) redirected).received) := by
  intro operations Confined server inMemory redirected
  exact ⟨by decide +kernel, Http.mirrored_blindToBodies _, by decide +kernel⟩

end Client
end ConsoleAccess
