import MonitorSync.Clapi.Session
import MonitorSync.Proofs.Effect.Dialogue
set_option autoImplicit false

/-!
# Dialogues of sessions

What each part of a session may say to the platform, whatever the platform answers. A token is
granted by the answer to a login; the session keeps the one granted last.

## Main definitions

* `HttpExchange.granted?` — the token that an exchange grants.
* `lastGranted` — the token granted last.
* `ClapiConnection.loginRequest`, `Command.request` — the two requests of a session.
* `Session.Says` — the exchanges of a part of a session, with its result and the token kept after
  it.

## Main results

* `Session.Says.of_bind` — a sequence goes on after a success and ends at a failure.
* `Session.Says.of_renewToken`, `Session.Says.of_postCommand` — what logging in and sending a
  command say.
-/

namespace MonitorSync

/-! ## Exchanges -/

/-- The token that a reply to a login grants: only a response that reports success can grant one. -/
def HttpReply.token? : HttpReply → Option String
  | .response status text =>
    if status.isSuccess then
      (Json.read? text).bind fun answer => (answer.field "authToken").toText?
    else none
  | .timedOut => none
  | .broken _ => none

/-- The reply tells that the request had no valid credentials. -/
def HttpReply.isRefusal : HttpReply → Bool
  | .response status _ => status = .unauthorized
  | .timedOut => false
  | .broken _ => false

/-- A request with what came of it. -/
abbrev HttpExchange : Type := Exchange fun _ : HttpRequest => HttpReply

namespace HttpExchange

/-- The request carries a token, as those with a command do. -/
def isSending (e : HttpExchange) : Bool := e.call.token.isSome

/-- The request was answered by a refusal. -/
def isRefused (e : HttpExchange) : Bool := e.answer.isRefusal

/-- The token that an exchange grants: that in the reply to a login. -/
def granted? (e : HttpExchange) : Option String :=
  if e.isSending then none else e.answer.token?

end HttpExchange

/-- The token that was granted last. -/
def lastGranted (es : List HttpExchange) : Option String :=
  es.reverse.findSome? HttpExchange.granted?

@[simp] lemma lastGranted_nil : lastGranted [] = none := rfl

/-- What is said later counts first. -/
@[simp] lemma lastGranted_append (es fs : List HttpExchange) :
    lastGranted (es ++ fs) = (lastGranted fs).or (lastGranted es) := by
  rw [lastGranted, List.reverse_append, List.findSome?_append]
  rfl

@[simp] lemma lastGranted_cons (e : HttpExchange) (es : List HttpExchange) :
    lastGranted (e :: es) = (lastGranted es).or e.granted? := by
  rw [← List.singleton_append, lastGranted_append]
  simp [lastGranted]

namespace ClapiConnection

/-- Where requests go, if that is an address. -/
def address? (c : ClapiConnection) : Option Address := Address.read? c.settings.commandUrl

/-- The request that asks for a token. -/
def loginRequest (c : ClapiConnection) (a : Address) : HttpRequest :=
  ⟨a, [("action", "authenticate")], none,
    .form [("username", c.credentials.username), ("password", c.credentials.password)]⟩

/-- What a request gives: the response, or the reason why there is none. -/
def received (c : ClapiConnection) : HttpReply → Except Failure (HttpStatus × String)
  | .response status text => .ok (status, text)
  | .timedOut => .error (.timeout c.settings.baseUrl)
  | .broken reason => .error (.transport reason)

end ClapiConnection

/-- The request that sends a command with a token. -/
def Command.request (command : Command) (a : Address) (token : String) : HttpRequest :=
  ⟨a, [("action", "action"), ("object", "centreon_clapi")], some token, .json command.toJson⟩

namespace HttpExchange

variable (c : ClapiConnection) (command : Command) (a : Address) (token : String)
  (reply : HttpReply)

@[simp] lemma isSending_login : isSending ⟨c.loginRequest a, reply⟩ = false := rfl

@[simp] lemma isSending_command : isSending ⟨command.request a token, reply⟩ = true := rfl

@[simp] lemma granted?_login : granted? ⟨c.loginRequest a, reply⟩ = reply.token? := rfl

@[simp] lemma granted?_command : granted? ⟨command.request a token, reply⟩ = none := rfl

end HttpExchange

/-! ## Parts of a session -/

namespace Session

variable {α β : Type}

/-- A part of a session that starts with a token may have the exchanges `es` with the platform, and
gives `result` and keeps `after` in the end. -/
def Says (work : Session α) (token : Option String) (es : List HttpExchange)
    (result : Except Failure α) (after : Option String) : Prop :=
  Program.Says ((ExceptT.run work).run token) es (result, after)

variable {x : Session α} {f : α → Session β} {c : ClapiConnection} {token after : Option String}
  {es : List HttpExchange}

lemma Says.of_pure {a : α} {result : Except Failure α}
    (h : Says (pure a) token es result after) : es = [] ∧ result = .ok a ∧ after = token := by
  obtain ⟨rfl, h⟩ := Program.Says.of_pure h
  cases h
  exact ⟨rfl, rfl, rfl⟩

lemma Says.of_throw {e : Failure} {result : Except Failure α}
    (h : Says (throw e) token es result after) : es = [] ∧ result = .error e ∧ after = token := by
  obtain ⟨rfl, h⟩ := Program.Says.of_pure h
  cases h
  exact ⟨rfl, rfl, rfl⟩

/-- **Sequences.** A session goes on after a success and ends at a failure. -/
theorem Says.of_bind {result : Except Failure β} (h : Says (x >>= f) token es result after) :
    (∃ e, result = .error e ∧ Says x token es (.error e) after) ∨
      ∃ a between es₁ es₂, es = es₁ ++ es₂ ∧ Says x token es₁ (.ok a) between ∧
        Says (f a) between es₂ result after := by
  change Program.Says ((ExceptT.run x).run token >>= fun a =>
    (ExceptT.bindCont f a.1).run a.2) es (result, after) at h
  obtain ⟨es₁, es₂, ⟨_ | a, between⟩, rfl, hx, hf⟩ := h.of_bind
  · obtain ⟨rfl, hend⟩ := Program.Says.of_pure hf
    cases hend
    exact .inl ⟨_, rfl, by rwa [List.append_nil]⟩
  · exact .inr ⟨a, between, es₁, es₂, rfl, hx, hf⟩

/-- A session that fails says nothing more. -/
lemma Says.bind_error {e : Failure} (h : Says x token es (.error e) after) :
    Says (x >>= f) token es (.error e) after := by
  rw [← List.append_nil es]
  exact Program.Says.bind h (.done _)

/-- A session that succeeds goes on. -/
lemma Says.bind_ok {a : α} {between : Option String} {fs : List HttpExchange}
    {result : Except Failure β} (h : Says x token es (.ok a) between)
    (hf : Says (f a) between fs result after) : Says (x >>= f) token (es ++ fs) result after :=
  Program.Says.bind h hf

/-- Reading the token that is kept. -/
lemma Says.of_get {result : Except Failure (Option String)}
    (h : Says (getThe (Option String)) token es result after) :
    es = [] ∧ result = .ok token ∧ after = token := by
  obtain ⟨rfl, h⟩ := Program.Says.of_pure h
  cases h
  exact ⟨rfl, rfl, rfl⟩

/-- Keeping another token. -/
lemma Says.of_set {kept : Option String} {result : Except Failure PUnit}
    (h : Says (set kept) token es result after) :
    es = [] ∧ result = .ok ⟨⟩ ∧ after = kept := by
  obtain ⟨rfl, h⟩ := Program.Says.of_pure h
  cases h
  exact ⟨rfl, rfl, rfl⟩

/-- A request is one exchange. -/
lemma Says.of_send {q : HttpRequest} {result : Except Failure (HttpStatus × String)}
    (h : Says (send c q) token es result after) :
    ∃ reply, es = [⟨q, reply⟩] ∧ result = c.received reply ∧ after = token := by
  have hcall : ∀ {es₁ : List HttpExchange} {r : Except Failure HttpReply} {u : Option String},
      Says (ExceptT.lift (StateT.lift (Program.call q)) : Session HttpReply) token es₁ r u →
        ∃ reply, es₁ = [⟨q, reply⟩] ∧ r = .ok reply ∧ u = token := by
    intro es₁ r u h
    change Program.Says ((Program.call q >>= fun a => pure (a, token)) >>= fun a =>
      pure (Except.ok a.1, a.2)) es₁ (r, u) at h
    obtain ⟨es₂, es₃, p, rfl, h, hend⟩ := h.of_bind
    obtain ⟨es₄, es₅, reply, rfl, hreply, hp⟩ := h.of_bind
    obtain ⟨rfl, rfl⟩ := hp.of_pure
    obtain ⟨rfl, hend⟩ := hend.of_pure
    cases hend
    exact ⟨reply, by simp [hreply.of_call], rfl, rfl⟩
  rw [send] at h
  rcases h.of_bind with ⟨e, -, hq⟩ | ⟨reply, u, es₁, es₂, rfl, hq, hend⟩
  · obtain ⟨reply, -, hr, -⟩ := hcall hq
    cases hr
  · obtain ⟨reply', rfl, hr, rfl⟩ := hcall hq
    cases hr
    cases reply with
    | response status text =>
      obtain ⟨rfl, rfl, rfl⟩ := hend.of_pure
      exact ⟨_, rfl, rfl, rfl⟩
    | timedOut =>
      obtain ⟨rfl, rfl, rfl⟩ := hend.of_throw
      exact ⟨_, rfl, rfl, rfl⟩
    | broken reason =>
      obtain ⟨rfl, rfl, rfl⟩ := hend.of_throw
      exact ⟨_, rfl, rfl, rfl⟩

/-- A request is made if there is an address and its token may stand in a header; nothing else comes
of it than the reply, and the token that is kept stays. -/
theorem Says.of_post {query : List (String × String)} {header : Option String} {body : HttpBody}
    {result : Except Failure (HttpStatus × String)}
    (h : Says (post c query header body) token es result after) :
    after = token ∧
      ((c.address? = none ∨ header.elim true isHeaderValue = false) ∧ es = [] ∧
          (∃ e, result = .error e) ∨
        ∃ a reply, c.address? = some a ∧ header.elim true isHeaderValue = true ∧
          es = [⟨⟨a, query, header, body⟩, reply⟩] ∧ result = c.received reply) := by
  rw [post] at h
  cases ha : Address.read? c.settings.commandUrl with
  | none =>
    rw [ha] at h
    obtain ⟨rfl, rfl, rfl⟩ := h.of_throw
    exact ⟨rfl, .inl ⟨.inl ha, rfl, _, rfl⟩⟩
  | some a =>
    rw [ha] at h
    cases hheader : header.elim true isHeaderValue with
    | false =>
      simp only [hheader] at h
      obtain ⟨rfl, rfl, rfl⟩ := h.of_throw
      exact ⟨rfl, .inl ⟨.inr rfl, rfl, _, rfl⟩⟩
    | true =>
      simp only [hheader] at h
      obtain ⟨reply, rfl, rfl, rfl⟩ := h.of_send
      exact ⟨rfl, .inr ⟨a, reply, ha, rfl, rfl, rfl⟩⟩

/-- The exchanges of an attempt to log in: none if there is no address to log in at. -/
inductive TriesLogin (c : ClapiConnection) : List HttpExchange → Prop
  | nowhere (haddress : c.address? = none) : TriesLogin c []
  | request {a : Address} (haddress : c.address? = some a) (reply : HttpReply) :
    TriesLogin c [⟨c.loginRequest a, reply⟩]

/-- Asking for a token gives what the reply grants. -/
theorem Says.of_authenticate {result : Except Failure String}
    (h : Says (authenticate c) token es result after) :
    after = token ∧ TriesLogin c es ∧ result.toOption = lastGranted es := by
  rw [authenticate] at h
  rcases h.of_bind with ⟨e, rfl, hpost⟩ | ⟨⟨status, text⟩, u, es₁, es₂, rfl, hpost, hread⟩
  · obtain ⟨rfl, ⟨haddress | hheader, rfl, -⟩ | ⟨a, reply, haddress, -, rfl, hreply⟩⟩ :=
      hpost.of_post
    · exact ⟨rfl, .nowhere haddress, rfl⟩
    · cases hheader
    · refine ⟨rfl, .request haddress reply, ?_⟩
      cases reply with
      | response status text => cases hreply
      | timedOut => rfl
      | broken reason => rfl
  · obtain ⟨rfl, ⟨-, -, e, he⟩ | ⟨a, reply, haddress, -, rfl, hreply⟩⟩ := hpost.of_post
    · cases he
    cases reply with
    | timedOut => cases hreply
    | broken reason => cases hreply
    | response status text =>
      cases hreply
      have hend : es₂ = [] ∧ after = u ∧
          result.toOption = HttpReply.token? (.response status text) := by
        cases hsuccess : status.isSuccess with
        | false =>
          simp only [hsuccess] at hread
          obtain ⟨rfl, rfl, rfl⟩ := hread.of_throw
          exact ⟨rfl, rfl, by simp [HttpReply.token?, hsuccess, Except.toOption]⟩
        | true =>
          cases hanswer : Json.read? text with
          | none =>
            simp only [hsuccess, hanswer] at hread
            obtain ⟨rfl, rfl, rfl⟩ := hread.of_throw
            exact ⟨rfl, rfl, by simp [HttpReply.token?, hanswer, Except.toOption]⟩
          | some answer =>
            simp only [hsuccess, hanswer] at hread
            cases hfield : answer.field "authToken" with
            | str new =>
              simp only [hfield] at hread
              obtain ⟨rfl, rfl, rfl⟩ := hread.of_pure
              exact ⟨rfl, rfl, by
                simp [HttpReply.token?, hsuccess, hanswer, hfield, Json.toText?, Except.toOption]⟩
            | _ =>
              simp only [hfield] at hread
              obtain ⟨rfl, rfl, rfl⟩ := hread.of_throw
              exact ⟨rfl, rfl, by
                simp [HttpReply.token?, hanswer, hfield, Json.toText?, Except.toOption]⟩
      obtain ⟨rfl, rfl, hresult⟩ := hend
      refine ⟨rfl, .request haddress _, ?_⟩
      rw [List.append_nil, lastGranted_cons, lastGranted_nil, Option.none_or]
      exact hresult

/-- Asking for a token and keeping it: what is granted is kept, and if nothing is granted the token
that was kept stays. -/
theorem Says.of_renewToken {result : Except Failure String}
    (h : Says (renewToken c) token es result after) :
    after = (lastGranted es).or token ∧ TriesLogin c es ∧ result.toOption = lastGranted es := by
  rw [renewToken] at h
  rcases h.of_bind with ⟨e, rfl, hask⟩ | ⟨new, u, es₁, es₂, rfl, hask, hkeep⟩
  · obtain ⟨rfl, htries, hgranted⟩ := hask.of_authenticate
    exact ⟨by rw [← hgranted]; rfl, htries, hgranted⟩
  · obtain ⟨rfl, htries, hgranted⟩ := hask.of_authenticate
    rcases hkeep.of_bind with ⟨e, rfl, hset⟩ | ⟨⟨⟩, v, es₃, es₄, rfl, hset, hgive⟩
    · obtain ⟨-, hresult, -⟩ := hset.of_set
      cases hresult
    · obtain ⟨rfl, -, rfl⟩ := hset.of_set
      obtain ⟨rfl, rfl, rfl⟩ := hgive.of_pure
      rw [List.append_nil, List.append_nil]
      exact ⟨by rw [← hgranted]; rfl, htries, hgranted⟩

/-- The token that is kept costs no request; without one the session logs in. -/
theorem Says.of_token {result : Except Failure String}
    (h : Says (Session.token c) token es result after) :
    (token ≠ none ∧ es = [] ∨ token = none ∧ TriesLogin c es) ∧ after = (lastGranted es).or token ∧
      result.toOption = after := by
  rw [Session.token] at h
  rcases h.of_bind with ⟨e, rfl, hget⟩ | ⟨kept, u, es₁, es₂, rfl, hget, hgive⟩
  · obtain ⟨-, hresult, -⟩ := hget.of_get
    cases hresult
  · obtain ⟨rfl, hkept, rfl⟩ := hget.of_get
    cases hkept
    cases kept with
    | some k =>
      obtain ⟨rfl, rfl, rfl⟩ := hgive.of_pure
      exact ⟨.inl ⟨Option.some_ne_none k, rfl⟩, rfl, rfl⟩
    | none =>
      obtain ⟨rfl, htries, hgranted⟩ := hgive.of_renewToken
      exact ⟨.inr ⟨rfl, htries⟩, rfl, by rw [hgranted]; exact Option.or_none.symm⟩

/-- A command is sent if there is an address and its token may stand in a header. -/
theorem Says.of_postCommand {k : String} {command : Command}
    {result : Except Failure (HttpStatus × String)}
    (h : Says (postCommand c k command) token es result after) :
    after = token ∧
      ((c.address? = none ∨ isHeaderValue k = false) ∧ es = [] ∧ (∃ e, result = .error e) ∨
        ∃ a reply, c.address? = some a ∧ isHeaderValue k = true ∧
          es = [⟨command.request a k, reply⟩] ∧ result = c.received reply) :=
  Says.of_post h

end Session

end MonitorSync
