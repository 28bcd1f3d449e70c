import ConsoleAccess.Proofs.Client.Exchange
import ConsoleAccess.Proofs.Http.Libraries
import ConsoleAccess.Proofs.Json.Printing

/-!
# What a login sends

A login is one call (`Client.login_log`), with a body of JSON that holds the two keys and nothing
else, whatever characters they are made of (`Credentials.denotes_loginBody_iff`). The server in
memory receives one request for it, if the address is the server's (`Client.logsInBy_of_reaches`).
So a body belongs to one pair of keys (`Client.login_body_exact`).
-/

namespace ConsoleAccess
open Json (Denotes Tree)

namespace Credentials

theorem denotes_loginBody_iff (c : Credentials) {tree : Tree} :
    Denotes c.loginBody tree ↔
      tree = .object [(some "accessKey".toList, .string (some c.accessKey)),
        (some "secretKey".toList, .string (some c.secretKey))] :=
  Json.denotes_renderObject_iff _

theorem loginBody_injective : Function.Injective loginBody := by
  intro c c' same
  have members := Json.renderObject_injective same
  simp only [List.cons.injEq, Prod.mk.injEq, Json.Scalar.string.injEq, true_and, and_true]
    at members
  obtain ⟨access, secret⟩ := members
  obtain ⟨accessKey, secretKey⟩ := c
  cases access
  cases secret
  rfl

end Credentials

namespace Client

theorem login_log {library : Http.Library} (client : Client) (c : Credentials)
    (link : Link library) :
    (client.login c link).2.log =
      link.log ++ [client.called .post "/login".toList (some c.loginBody) link] := by
  rw [login_eq]
  exact client.exchange_log .post "/login".toList (some c.loginBody) link

variable {client : Client} {c : Credentials} {link : Link Http.scripted} {url : Http.Url}
  {request : Http.Request}

def Reaches (client : Client) (path : Text) (link : Link Http.scripted) (url : Http.Url) : Prop :=
  Http.Url.parse? (client.address path) = some url ∧ url.origin = link.state.server.origin

theorem requests_of_reaches {path : Text} (reaches : client.Reaches path link url)
    (method : Http.Method) (json? : Option Text) :
    (client.called method path json? link).requests =
      [Http.Scripted.request link.state (client.call method path json?) url] := by
  have own : Http.Scripted.Reaches link.state (client.call method path json?) url := reaches
  exact Http.Scripted.requests_of_reaches own

theorem requests_of_unreached {path : Text} (unreached : ¬ ∃ url, client.Reaches path link url)
    (method : Http.Method) (json? : Option Text) :
    (client.called method path json? link).requests = [] := by
  have away : ¬ ∃ url, Http.Scripted.Reaches link.state (client.call method path json?) url :=
    unreached
  exact Http.Scripted.requests_of_unreached away

def LogsInBy (client : Client) (c : Credentials) (link : Link Http.scripted)
    (request : Http.Request) : Prop :=
  (client.login c link).2.received = link.received ++ [request]

def loginRequest (client : Client) (c : Credentials) (link : Link Http.scripted)
    (url : Http.Url) : Http.Request :=
  Http.Scripted.request link.state (client.call .post "/login".toList (some c.loginBody)) url

theorem received_login (client : Client) (c : Credentials) (link : Link Http.scripted) :
    (client.login c link).2.received =
      link.received ++ (client.called .post "/login".toList (some c.loginBody) link).requests :=
  Link.received_of_log (client.login_log c link)

theorem logsInBy_of_reaches (reaches : client.Reaches "/login".toList link url)
    (c : Credentials) : client.LogsInBy c link (client.loginRequest c link url) := by
  rw [LogsInBy, received_login, requests_of_reaches reaches]
  rfl

theorem received_login_of_unreached
    (unreached : ¬ ∃ url, client.Reaches "/login".toList link url) (c : Credentials) :
    (client.login c link).2.received = link.received := by
  rw [received_login, requests_of_unreached unreached, List.append_nil]

theorem LogsInBy.eq_request (sent : client.LogsInBy c link request) :
    ∃ url, client.Reaches "/login".toList link url ∧ request = client.loginRequest c link url := by
  by_cases reached : ∃ url, client.Reaches "/login".toList link url
  · obtain ⟨url, reaches⟩ := reached
    have own := logsInBy_of_reaches reaches c
    rw [LogsInBy, sent, List.append_right_inj] at own
    exact ⟨url, reaches, List.singleton_inj.1 own⟩
  · have kept := received_login_of_unreached reached c
    rw [sent] at kept
    exact absurd (List.append_right_eq_self.1 kept) (List.cons_ne_nil request [])

theorem LogsInBy.body (sent : client.LogsInBy c link request) : request.body = c.loginBody := by
  obtain ⟨url, -, rfl⟩ := sent.eq_request
  rfl

theorem login_body_exact (client : Client) (c : Credentials) :
    (∀ (library : Http.Library) (link : Link library), ∃ body reply requests,
      (client.login c link).2.log = link.log ++
        [{ call := client.call .post "/login".toList (some body), reply, requests }] ∧
      ∀ tree, Denotes body tree ↔
        tree = .object [(some "accessKey".toList, .string (some c.accessKey)),
          (some "secretKey".toList, .string (some c.secretKey))]) ∧
    ∀ link : Link Http.scripted,
      (∀ url, client.Reaches "/login".toList link url → ∃ request,
        client.LogsInBy c link request) ∧
      ((¬ ∃ url, client.Reaches "/login".toList link url) →
        (client.login c link).2.received = link.received) ∧
      ∀ request, client.LogsInBy c link request →
        request.method = .post ∧ request.contentType = some "application/json".toList ∧
        (∀ tree, Denotes request.body tree ↔
          tree = .object [(some "accessKey".toList, .string (some c.accessKey)),
            (some "secretKey".toList, .string (some c.secretKey))]) ∧
        ∀ client' c' link' request', LogsInBy client' c' link' request' →
          request'.body = request.body → c' = c := by
  refine ⟨fun library link => ⟨_, _, _, client.login_log c link, fun tree =>
    c.denotes_loginBody_iff⟩, fun link => ⟨fun url reaches => ⟨_, logsInBy_of_reaches reaches c⟩,
    fun unreached => received_login_of_unreached unreached c, fun request sent => ?_⟩⟩
  obtain ⟨url, reaches, rfl⟩ := sent.eq_request
  refine ⟨rfl, rfl, fun tree => c.denotes_loginBody_iff, ?_⟩
  intro client' c' link' request' sent' same
  rw [sent'.body] at same
  exact Credentials.loginBody_injective same

/-- Keys of quotes, backslashes, control characters and a character of four bytes, and an empty key:
the other order of the two is another body. -/
theorem login_body_exact_escaped :
    let client : Client := { base := "http://localhost:9090".toList }
    let server : Http.Server :=
      { origin := { secure := false, host := .name "localhost".toList, port := 9090 }
        script := [] }
    let link : Link Http.scripted := { state := { server } }
    let odd := "\"\\\n\x01😀\",\"".toList
    let body := "\x7b\"accessKey\":\"\\\"\\\\\\n\\u0001😀\\\",\\\"\",\"secretKey\":\"\"\x7d".toList
    ∃ request request', client.LogsInBy ⟨odd, []⟩ link request ∧
      client.LogsInBy ⟨[], odd⟩ link request' ∧ request.body = body ∧
      Denotes body (.object [(some "accessKey".toList, .string (some odd)),
        (some "secretKey".toList, .string (some []))]) ∧
      request'.body ≠ body := by
  intro client server link odd body
  obtain ⟨reached, -, exact⟩ := (login_body_exact client ⟨odd, []⟩).2 link
  obtain ⟨reached', -⟩ := (login_body_exact client ⟨[], odd⟩).2 link
  let url : Http.Url := { origin := server.origin, path := "/api/v1/login".toList, query := none }
  have reaches : client.Reaches "/login".toList link url := ⟨by decide +kernel, rfl⟩
  obtain ⟨request, sent⟩ := reached url reaches
  obtain ⟨request', sent'⟩ := reached' url reaches
  obtain ⟨-, -, reads, only⟩ := exact request sent
  have written : request.body = body := by
    rw [sent.body]
    decide +kernel
  rw [← written]
  refine ⟨request, request', sent, sent', rfl, (reads _).2 rfl, fun same => ?_⟩
  have keys := only client ⟨[], odd⟩ link request' sent' same
  cases congrArg Credentials.accessKey keys

end Client
end ConsoleAccess
